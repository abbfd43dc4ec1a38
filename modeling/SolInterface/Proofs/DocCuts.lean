import SolInterface.Proofs.DocCapture

/-!
Documentation in line comments, and where it is cut off. The search passes over plain comments and
keeps the lines that start with `/// `; a `///` line without the space is neither to it, and ends it
as code does. Main statement: of the `///` lines with text above a declaration, exactly those below
the last line without the space are found.
-/
namespace SolInterface.Doc
open Text

/-- A trimmed line that is blank, or a line comment on which no block comment ends. -/
def IsLineComment (line : Text) : Prop :=
  line = [] ∨ startsWith "//" line = true ∧ occursIn "*/" line = false

/-- A `///` line with text behind the slashes that is no directive. -/
def isDocComment (markers : List Text) (line : Text) : Bool :=
  startsWith "///" line && !(line.dropWhile (· == '/')).isEmpty && !isMarked markers line

/-- A `///` line without a space behind these slashes that is no directive. -/
def cutsOff (markers : List Text) (line : Text) : Bool :=
  startsWith "///" line && !startsWith "/// " line && !isMarked markers line

section LineComments
variable {markers : List Text}

theorem IsLineComment.noClose {line : Text} (h : IsLineComment line) :
    occursIn "*/" line = false := by
  rcases h with rfl | ⟨-, hclose⟩
  · rfl
  · exact hclose

theorem IsLineComment.amongLineDocs {line : Text} (h : IsLineComment line)
    (huncut : cutsOff markers line = false) : AmongLineDocs markers line := by
  by_cases hmarked : isMarked markers line = true
  · exact .skipped (.directive hmarked)
  rcases h with rfl | ⟨hstart, hclose⟩
  · exact .skipped (.blank rfl)
  cases hdoc : startsWith "///" line with
  | false => exact .skipped (.comment hstart hdoc hclose)
  | true =>
    rw [cutsOff, hdoc, Bool.eq_false_iff.2 hmarked] at huncut
    exact .doc (by simpa using huncut) hclose

/-- A `/// ` line has text behind its slashes: at least the space. -/
theorem isDocComment_of_isLineDoc {line : Text} (h : isLineDoc markers line = true) :
    isDocComment markers line = true := by
  obtain ⟨hdoc, hunmarked⟩ := Bool.and_eq_true_iff.1 h
  obtain ⟨rest, rfl⟩ := startsWith_iff.1 hdoc
  rw [isDocComment, hunmarked]
  rfl

theorem isDocComment_of_not_cutsOff {line : Text} (huncut : cutsOff markers line = false) :
    isDocComment markers line = isLineDoc markers line := by
  cases hdoc : isLineDoc markers line with
  | true => exact isDocComment_of_isLineDoc hdoc
  | false =>
    rw [isLineDoc] at hdoc
    rw [cutsOff] at huncut
    rw [isDocComment]
    cases hmarked : isMarked markers line with
    | true => simp
    | false =>
      rw [hmarked, Bool.not_false, Bool.and_true] at hdoc huncut
      rw [hdoc, Bool.not_false, Bool.and_true] at huncut
      rw [huncut, Bool.false_and, Bool.false_and]

theorem cutsOff_iff {line : Text} : cutsOff markers line = true ↔
    startsWith "///" line = true ∧ startsWith "/// " line = false ∧
      isMarked markers line = false := by
  rw [cutsOff, Bool.and_eq_true_iff, Bool.and_eq_true_iff, Bool.not_eq_true', Bool.not_eq_true',
    and_assoc]

/-- The search takes a line without the space for code. -/
theorem collect_cutOff {raw : Text} (h : IsLineComment (trim raw))
    (hcut : cutsOff markers (trim raw) = true) (above : List Text) :
    collect markers false (raw :: above) = [] := by
  obtain ⟨hslashes, hspace, hmarked⟩ := cutsOff_iff.1 hcut
  have hfull : (trim raw).isEmpty = false := by
    obtain ⟨rest, hrest⟩ := startsWith_iff.1 hslashes
    rw [← hrest]
    rfl
  have hunkept : keeps markers false (trim raw) = false := by
    rw [keeps, h.noClose, Bool.false_or, if_neg Bool.false_ne_true, hspace, Bool.and_false]
  have hend : goesOn? markers false (trim raw) = none := by
    rw [goesOn?, hmarked, h.noClose, hspace, hfull, hslashes, Bool.not_true, Bool.and_false]
    rfl
  rw [collect_cons, hunkept, hend]
  rfl

/-- Above line comments that do not cut it off the search goes on. -/
theorem collect_docComments {ls : List Text} (h : ∀ raw ∈ ls, IsLineComment (trim raw))
    (huncut : ∀ raw ∈ ls, cutsOff markers (trim raw) = false) (above : List Text) :
    collect markers false (ls.reverse ++ above) =
      (trimmedLines (isDocComment markers) ls).reverse ++ collect markers false above := by
  have hamong : ∀ raw ∈ ls.reverse, AmongLineDocs markers (trim raw) := fun raw hraw =>
    (h raw (List.mem_reverse.1 hraw)).amongLineDocs (huncut raw (List.mem_reverse.1 hraw))
  have hdocs : trimmedLines (isLineDoc markers) ls = trimmedLines (isDocComment markers) ls := by
    refine List.filter_congr fun line hline => ?_
    obtain ⟨raw, hraw, rfl⟩ := List.mem_map.1 hline
    exact (isDocComment_of_not_cutsOff (huncut raw hraw)).symm
  rw [collect_lineDocs hamong, trimmedLines_reverse, hdocs]

/-- The last line that cuts the search off, if there is one. -/
theorem uncut_or_last_cut (markers ls : List Text) :
    (∀ raw ∈ ls, cutsOff markers (trim raw) = false) ∨
      ∃ above cut below, ls = above ++ cut :: below ∧ cutsOff markers (trim cut) = true ∧
        ∀ raw ∈ below, cutsOff markers (trim raw) = false := by
  induction ls with
  | nil => exact .inl (by simp)
  | cons raw ls ih =>
    rcases ih with huncut | ⟨above, cut, below, rfl, hcut, hbelow⟩
    · cases hraw : cutsOff markers (trim raw) with
      | true => exact .inr ⟨[], raw, ls, rfl, hraw, huncut⟩
      | false => exact .inl (List.forall_mem_cons.2 ⟨hraw, huncut⟩)
    · exact .inr ⟨raw :: above, cut, below, rfl, hcut, hbelow⟩

theorem suffix_of_uncut {ls below low : List Text} {cut : Text} (hlow : low <:+ ls)
    (huncut : ∀ raw ∈ low, cutsOff markers (trim raw) = false) (hbelow : cut :: below <:+ ls)
    (hcut : cutsOff markers (trim cut) = true) : low <:+ below := by
  have hnotMem : cut ∉ low := fun hmem => absurd (hcut.symm.trans (huncut cut hmem)) (by decide)
  rcases List.suffix_or_suffix_of_suffix hlow hbelow with hsuffix | hsuffix
  · rcases List.suffix_cons_iff.1 hsuffix with rfl | hsuffix
    · exact absurd List.mem_cons_self hnotMem
    · exact hsuffix
  · exact absurd (hsuffix.subset List.mem_cons_self) hnotMem

end LineComments

theorem trimmedLines_split (keep : Text → Bool) (above below : List Text) (raw : Text) :
    trimmedLines keep (above ++ raw :: below) =
      trimmedLines keep (above ++ [raw]) ++ trimmedLines keep below := by
  rw [List.append_cons, trimmedLines, List.map_append, List.filter_append]
  rfl

/-- Lines that are not empty stay when the empty lines at the top are left out. -/
theorem sublist_dropWhile_isEmpty {ls ms : List Text} (h : ls.Sublist ms)
    (hne : ∀ line ∈ ls, line ≠ []) : ls.Sublist (ms.dropWhile List.isEmpty) := by
  have hfull : ls.filter (fun line => !line.isEmpty) = ls :=
    List.filter_eq_self.2 fun line hline => by simpa using hne line hline
  rw [← hfull]
  exact (filter_dropWhile_isEmpty ms ▸ h.filter _).trans List.filter_sublist

theorem ne_nil_of_mem_docComments {markers ls : List Text} {line : Text}
    (h : line ∈ trimmedLines (isDocComment markers) ls) : line ≠ [] := by
  rintro rfl
  exact absurd (List.mem_filter.1 h).2 (by simp [isDocComment, startsWith])

theorem dropWhile_docComments (markers ls : List Text) :
    (trimmedLines (isDocComment markers) ls).dropWhile List.isEmpty =
      trimmedLines (isDocComment markers) ls := by
  have hne : ∀ line ∈ trimmedLines (isDocComment markers) ls, line ≠ [] := fun _ hline =>
    ne_nil_of_mem_docComments hline
  have hall := sublist_dropWhile_isEmpty (List.Sublist.refl _) hne
  exact (List.dropWhile_sublist _).eq_of_length_le hall.length_le

section Captured
variable {markers pre mid post : List Text} {decl : Text}

theorem captured_uncut (hmid : ∀ raw ∈ mid, IsLineComment (trim raw))
    (huncut : ∀ raw ∈ mid, cutsOff markers (trim raw) = false) :
    captured (pre ++ mid ++ decl :: post) markers ((pre ++ mid).length + 1) =
      (collect markers false pre.reverse).reverse ++ trimmedLines (isDocComment markers) mid := by
  rw [captured_split, List.reverse_append, collect_docComments hmid huncut, List.reverse_append,
    List.reverse_reverse]

theorem captured_cut {above below : List Text} {cut : Text}
    (hmid : ∀ raw ∈ above ++ cut :: below, IsLineComment (trim raw))
    (hcut : cutsOff markers (trim cut) = true)
    (huncut : ∀ raw ∈ below, cutsOff markers (trim raw) = false) :
    captured (pre ++ (above ++ cut :: below) ++ decl :: post) markers
        ((pre ++ (above ++ cut :: below)).length + 1) =
      trimmedLines (isDocComment markers) below := by
  obtain ⟨-, hcomment, hbelow⟩ := List.forall_mem_append.1 hmid |>.imp_right List.forall_mem_cons.1
  have hupwards : (pre ++ (above ++ cut :: below)).reverse =
      below.reverse ++ cut :: (above.reverse ++ pre.reverse) := by simp
  rw [captured_split, hupwards, collect_docComments hbelow huncut, collect_cutOff hcomment hcut,
    List.append_nil, List.reverse_reverse]

/-- The lines between a point and the declaration are blank or line comments. Then all `///` lines
with text among them are found, unless one of them stands at or above a `///` line without the
space, where the search ends. -/
theorem docComments_found_iff (hmid : ∀ raw ∈ mid, IsLineComment (trim raw)) :
    let lines := pre ++ mid ++ decl :: post
    let n := (pre ++ mid).length + 1
    let found := (captured lines markers n).dropWhile List.isEmpty
    above? lines markers n = some (unlines found) ∧
      ((trimmedLines (isDocComment markers) mid).Sublist found ↔
        ∀ above cut below, mid = above ++ cut :: below → cutsOff markers (trim cut) = true →
          trimmedLines (isDocComment markers) (above ++ [cut]) = []) ∧
      ∀ above cut below, mid = above ++ cut :: below → cutsOff markers (trim cut) = true →
        (∀ raw ∈ below, cutsOff markers (trim raw) = false) →
        found = trimmedLines (isDocComment markers) below := by
  intro lines n found
  have hrange : n ≤ lines.length + 1 := by simp [n, lines]
  have hcutOff : ∀ above cut below, mid = above ++ cut :: below →
      cutsOff markers (trim cut) = true →
      (∀ raw ∈ below, cutsOff markers (trim raw) = false) →
      found = trimmedLines (isDocComment markers) below := by
    rintro above cut below rfl hcut huncut
    dsimp only [found, lines, n]
    rw [captured_cut hmid hcut huncut, dropWhile_docComments]
  refine ⟨above?_eq_captured hrange, ⟨fun hfound above cut below hsplit hcut => ?_,
    fun hcuts => ?_⟩, hcutOff⟩
  · -- the lines found are those below the last cut, which is this one or further down
    rcases uncut_or_last_cut markers mid with huncut | ⟨high, last, low, hlast, hlastCut, hlow⟩
    · have huncutHere := huncut cut (by simp [hsplit])
      exact absurd (hcut.symm.trans huncutHere) (by decide)
    have hsuffix : low <:+ below :=
      suffix_of_uncut ⟨high ++ [last], by simp [hlast]⟩ hlow ⟨above, hsplit.symm⟩ hcut
    have hfewer : (trimmedLines (isDocComment markers) low).length ≤
        (trimmedLines (isDocComment markers) below).length :=
      ((hsuffix.sublist.map trim).filter _).length_le
    rw [hcutOff high last low hlast hlastCut hlow, hsplit, trimmedLines_split] at hfound
    have hlength := hfound.length_le
    rw [List.length_append] at hlength
    exact List.length_eq_zero_iff.1 (by omega)
  · refine sublist_dropWhile_isEmpty ?_ fun line => ne_nil_of_mem_docComments
    rcases uncut_or_last_cut markers mid with huncut | ⟨above, cut, below, rfl, hcut, huncut⟩
    · dsimp only [lines, n]
      rw [captured_uncut hmid huncut]
      exact List.sublist_append_right _ _
    · have hall : trimmedLines (isDocComment markers) (above ++ cut :: below) =
          captured lines markers n := by
        dsimp only [lines, n]
        rw [trimmedLines_split, hcuts above cut below rfl hcut, captured_cut hmid hcut huncut,
          List.nil_append]
      exact hall ▸ List.Sublist.refl _

end Captured

/-- A rule of slashes ends the search, and takes nothing away from the comments below it. -/
theorem docComments_found_below_rule :
    let markers : List Text := ["/// @c"]
    let pre : List Text := ["uint x;"]
    let mid : List Text := ["  //////", "  /// a", "  /// @c b", "", "  // c", "\t/// d "]
    (∀ raw ∈ mid, IsLineComment (trim raw)) ∧
      above? (pre ++ mid ++ ["function f();".toList]) markers ((pre ++ mid).length + 1) =
        some "/// a\n/// d".toList := by
  intro markers pre mid
  have hmid : ∀ raw ∈ mid, IsLineComment (trim raw) := by
    simp only [mid, List.forall_mem_cons]
    exact ⟨.inr (by decide), .inr (by decide), .inr (by decide), .inl (by decide),
      .inr (by decide), .inr (by decide), by simp⟩
  obtain ⟨hdoc, -, hcutOff⟩ := @docComments_found_iff markers pre mid [] "function f();" hmid
  refine ⟨hmid, hdoc.trans (congrArg some ?_)⟩
  rw [hcutOff [] "  //////" _ rfl (by decide) (by decide)]
  decide

/-- A `///` line without text takes away the documentation above it. -/
theorem doc_above_bare_slashes_lost :
    let lines : List Text :=
      ["/// @notice First", "///", "/// @dev Second", "function f() external \x7b"]
    let markers : List Text := ["/// @custom:interface"]
    (∀ raw ∈ lines.take 3, IsLineComment (trim raw)) ∧
      (∃ raw ∈ lines.take 3, isDocComment markers (trim raw) = true ∧
        trim raw ∉ captured lines markers 4) ∧
      above? lines markers 4 = some "/// @dev Second".toList := by
  intro lines markers
  have hfound : captured lines markers 4 = ["/// @dev Second".toList] := by decide
  refine ⟨?_, ⟨"/// @notice First".toList, List.mem_cons_self, by decide, ?_⟩, by decide⟩
  · simp only [lines, List.take_succ_cons, List.take_zero, List.forall_mem_cons]
    exact ⟨.inr (by decide), .inr (by decide), .inr (by decide), by simp⟩
  · rw [hfound, List.mem_singleton]
    decide

end SolInterface.Doc
