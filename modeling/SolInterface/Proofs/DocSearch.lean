import SolInterface.Source.Doc
import SolInterface.Proofs.Text

/-!
What the search for documentation finds. It goes up from a declaration line by line, and what it
does with a line is decided by how the trimmed line starts, by whether a block comment ends on it,
and by whether the search is in a block already. Main statements: among line comments it finds the
`/// ` lines down from the last line of code, and of a block comment all lines but the directives,
whatever stands above the line that opens it.
-/
namespace SolInterface

namespace Text

theorem startsWith_eq_false_of_isPrefix {lead more t : Text} (hlead : lead <+: more)
    (h : startsWith lead t = false) : startsWith more t = false := by
  rw [Bool.eq_false_iff] at h ⊢
  exact fun hmore => h (startsWith_iff.2 (hlead.trans (startsWith_iff.1 hmore)))

/-- A text that starts with a character which is no blank. -/
theorem solid_of_startsWith {c : Char} {lead t : Text} (hc : isBlank c = false)
    (h : startsWith (c :: lead) t = true) : t ≠ [] ∧ Stops isBlank t := by
  obtain ⟨rest, rfl⟩ := startsWith_iff.1 h
  exact ⟨List.cons_ne_nil _ _, stops_cons.2 hc⟩

/-- Two characters that are no blanks stand side by side also when the text is trimmed. -/
theorem occursIn_trim {c d : Char} (hc : isBlank c = false) (hd : isBlank d = false) {t : Text}
    (h : occursIn [c, d] t = true) : occursIn [c, d] (trim t) = true := by
  obtain ⟨a, b, rfl⟩ := occursIn_iff_infix.1 h
  have hskip : skipBlanks (a ++ [c, d] ++ b) = skipBlanks a ++ c :: d :: b := by
    rw [List.append_assoc, skipBlanks, List.dropWhile_append]
    split
    · next hempty =>
      rw [skipBlanks, List.isEmpty_iff.1 hempty]
      exact dropWhile_of_stops (stops_cons.2 hc)
    · rfl
  have hright : trimRight (skipBlanks a ++ [c] ++ d :: b) =
      skipBlanks a ++ [c] ++ d :: trimRight b := trimRight_append_cons b hd
  rw [ occursIn_iff_infix, trim, hskip]
  refine ⟨skipBlanks a, trimRight b, ?_⟩
  simpa using hright.symm

theorem trim_unlines_append {extra ls : List Text} (h : ∀ line ∈ extra, line = []) :
    trim (unlines (extra ++ ls)) = trim (unlines ls) := by
  induction extra with
  | nil => rfl
  | cons line extra ih =>
    have hrest := ih fun l hl => h l (List.mem_cons_of_mem _ hl)
    rw [h line List.mem_cons_self, List.cons_append, ← hrest]
    cases hmore : extra ++ ls with
    | nil => rfl
    | cons next more =>
      rw [unlines_cons [] (List.cons_ne_nil _ _), List.nil_append]
      exact trim_append_left (b := ['\n']) _ (by decide)

/-- Joined lines are trimmed if the first one starts, and the last one ends, without a blank. -/
theorem trim_unlines {ls : List Text} (hfirst : ∀ line ∈ ls.head?, line ≠ [] ∧ Stops isBlank line)
    (hlast : ∀ line ∈ ls.getLast?, EndsSolid line) : trim (unlines ls) = unlines ls := by
  cases ls with
  | nil => rfl
  | cons first below =>
    obtain ⟨hne, hstops⟩ := hfirst first rfl
    have hstart : Stops isBlank (unlines (first :: below)) := stops_joinWith hne hstops
    have hend : EndsSolid (unlines (first :: below)) := by
      obtain ⟨above, last, hsplit⟩ :=
        (List.eq_nil_or_concat (first :: below)).resolve_left (List.cons_ne_nil _ _)
      rw [hsplit, List.concat_eq_append, unlines_split]
      refine EndsSolid.append ?_ _
      simpa using hlast last (by simp [hsplit])
    rw [trim_of_stops hstart, hend.trimRight]

end Text

namespace Doc
open Text

/-! What the search does with one line. -/

section Step
variable {markers : List Text} {raw : Text} (above : List Text)

theorem collect_directive (inBlock : Bool) (hmarked : isMarked markers (trim raw) = true) :
    collect markers inBlock (raw :: above) = collect markers inBlock above := by
  rw [collect, if_pos hmarked]

variable (hmarked : isMarked markers (trim raw) = false)
include hmarked

theorem collect_closing (inBlock : Bool) (hclose : occursIn "*/" (trim raw) = true) :
    collect markers inBlock (raw :: above) = trim raw :: collect markers true above := by
  simp only [collect, hmarked, hclose, Bool.false_eq_true, if_true, if_false]

variable (hclose : occursIn "*/" (trim raw) = false)
include hclose

theorem collect_opening (hopen : startsWith "/**" (trim raw) = true) :
    collect markers true (raw :: above) = [trim raw] := by
  simp only [collect, hmarked, hclose, hopen, Bool.false_eq_true, if_true, if_false]

theorem collect_continuing (hline : startsWith "*" (trim raw) = true ∨ trim raw = []) :
    collect markers true (raw :: above) = trim raw :: collect markers true above := by
  have hopen : startsWith "/**" (trim raw) = false := by
    rcases hline with hline | hline
    · obtain ⟨rest, hrest⟩ := startsWith_iff.1 hline
      rw [← hrest]
      rfl
    · rw [hline]
      rfl
  have hgoes : (startsWith "*" (trim raw) || (trim raw).isEmpty) = true := by
    simpa using hline
  simp only [collect, hmarked, hclose, hopen, hgoes, Bool.false_eq_true, if_true, if_false]

theorem collect_lineDoc (hdoc : startsWith "/// " (trim raw) = true) :
    collect markers false (raw :: above) = trim raw :: collect markers false above := by
  simp only [collect, hmarked, hclose, hdoc, Bool.false_eq_true, if_true, if_false]

theorem collect_comment (hline : trim raw = [] ∨
      startsWith "//" (trim raw) = true ∧ startsWith "///" (trim raw) = false) :
    collect markers false (raw :: above) = collect markers false above := by
  have hdoc : startsWith "/// " (trim raw) = false := by
    rcases hline with hline | ⟨-, hline⟩
    · rw [hline]
      rfl
    · exact startsWith_eq_false_of_isPrefix (by decide) hline
  have hpass : ((trim raw).isEmpty ||
      (startsWith "//" (trim raw) && !startsWith "///" (trim raw))) = true := by
    simpa using hline
  simp only [collect, hmarked, hclose, hdoc, hpass, Bool.false_eq_true, if_true, if_false]

theorem collect_code (hne : trim raw ≠ []) (hcode : startsWith "//" (trim raw) = false) :
    collect markers false (raw :: above) = [] := by
  have hdoc : startsWith "/// " (trim raw) = false :=
    startsWith_eq_false_of_isPrefix (by decide) hcode
  have hfull : (trim raw).isEmpty = false := by simpa using hne
  simp only [collect, hmarked, hclose, hdoc, hcode, hfull, Bool.false_eq_true, if_false,
    Bool.false_and, Bool.or_self]

end Step

/-! Sorts of lines, all of them trimmed. -/

/-- A line that is passed over below the documentation. -/
inductive Skipped (markers : List Text) (line : Text) : Prop
  | directive (hmarked : isMarked markers line = true)
  | blank (hempty : line = [])
  | comment (hstart : startsWith "//" line = true) (hdoc : startsWith "///" line = false)
    (hclose : occursIn "*/" line = false)

inductive AmongLineDocs (markers : List Text) (line : Text) : Prop
  | skipped (h : Skipped markers line)
  | doc (hdoc : startsWith "/// " line = true) (hclose : occursIn "*/" line = false)

structure IsCode (markers : List Text) (line : Text) : Prop where
  ne_nil : line ≠ []
  noComment : startsWith "//" line = false
  unmarked : isMarked markers line = false
  noClose : occursIn "*/" line = false

structure OpensBlock (markers : List Text) (line : Text) : Prop where
  start : startsWith "/**" line = true
  noClose : occursIn "*/" line = false
  unmarked : isMarked markers line = false

inductive InBlock (markers : List Text) (line : Text) : Prop
  | directive (hmarked : isMarked markers line = true)
  | blank (hempty : line = [])
  | continued (hstar : startsWith "*" line = true) (hclose : occursIn "*/" line = false)

def isLineDoc (markers : List Text) (line : Text) : Bool :=
  startsWith "/// " line && !isMarked markers line

def isUnmarked (markers : List Text) (line : Text) : Bool := !isMarked markers line

def trimmedLines (keep : Text → Bool) (ls : List Text) : List Text := (ls.map trim).filter keep

theorem trimmedLines_cons_of_pos {keep : Text → Bool} {raw : Text} (h : keep (trim raw) = true)
    (ls : List Text) : trimmedLines keep (raw :: ls) = trim raw :: trimmedLines keep ls :=
  List.filter_cons_of_pos h

theorem trimmedLines_cons_of_neg {keep : Text → Bool} {raw : Text} (h : keep (trim raw) = false)
    (ls : List Text) : trimmedLines keep (raw :: ls) = trimmedLines keep ls :=
  List.filter_cons_of_neg (by simp [h])

theorem trimmedLines_reverse (keep : Text → Bool) (ls : List Text) :
    trimmedLines keep ls.reverse = (trimmedLines keep ls).reverse := by
  rw [trimmedLines, trimmedLines, List.map_reverse, List.filter_reverse]

/-! What the search does with lines of one sort. -/

section Runs
variable {markers : List Text}

theorem collect_skipped {raw : Text} (h : Skipped markers (trim raw)) (above : List Text) :
    collect markers false (raw :: above) = collect markers false above := by
  by_cases hmarked : isMarked markers (trim raw) = true
  · exact collect_directive above false hmarked
  rw [Bool.not_eq_true] at hmarked
  cases h with
  | directive h => exact absurd (h.symm.trans hmarked) (by decide)
  | blank hempty =>
    have hclose : occursIn "*/" (trim raw) = false := by
      rw [hempty]
      rfl
    exact collect_comment above hmarked hclose (.inl hempty)
  | comment hstart hdoc hclose => exact collect_comment above hmarked hclose (.inr ⟨hstart, hdoc⟩)

theorem isLineDoc_of_isMarked {line : Text} (h : isMarked markers line = true) :
    isLineDoc markers line = false := by
  rw [isLineDoc, h, Bool.not_true, Bool.and_false]

theorem isLineDoc_of_skipped {line : Text} (h : Skipped markers line) :
    isLineDoc markers line = false := by
  cases h with
  | directive hmarked => exact isLineDoc_of_isMarked hmarked
  | blank hempty =>
    rw [hempty]
    rfl
  | comment _ hdoc _ =>
    rw [isLineDoc, startsWith_eq_false_of_isPrefix (by decide) hdoc, Bool.false_and]

/-- Outside of a block, exactly the `/// ` lines are collected. -/
theorem collect_lineDocs {ls : List Text} (h : ∀ line ∈ ls, AmongLineDocs markers (trim line))
    (above : List Text) :
    collect markers false (ls ++ above) =
      trimmedLines (isLineDoc markers) ls ++ collect markers false above := by
  induction ls with
  | nil => rfl
  | cons raw ls ih =>
    have hrest := ih fun line hline => h line (List.mem_cons_of_mem _ hline)
    rw [List.cons_append]
    cases h raw List.mem_cons_self with
    | skipped hskipped =>
      rw [collect_skipped hskipped, hrest,
        trimmedLines_cons_of_neg (isLineDoc_of_skipped hskipped)]
    | doc hdoc hclose =>
      -- a marker may start with `/// ` itself, so that the line is a directive all the same
      cases hmarked : isMarked markers (trim raw) with
      | true =>
        rw [collect_directive _ false hmarked, hrest,
          trimmedLines_cons_of_neg (isLineDoc_of_isMarked hmarked)]
      | false =>
        have hkept : isLineDoc markers (trim raw) = true := by
          rw [isLineDoc, hdoc, hmarked]
          rfl
        rw [collect_lineDoc _ hmarked hclose hdoc, hrest, trimmedLines_cons_of_pos hkept,
          List.cons_append]

theorem collect_gap {gap : List Text} (h : ∀ line ∈ gap, Skipped markers (trim line))
    (above : List Text) : collect markers false (gap ++ above) = collect markers false above := by
  have hnone : trimmedLines (isLineDoc markers) gap = [] := by
    refine List.filter_eq_nil_iff.2 fun line hline => ?_
    obtain ⟨raw, hraw, rfl⟩ := List.mem_map.1 hline
    exact Bool.eq_false_iff.1 (isLineDoc_of_skipped (h raw hraw))
  rw [collect_lineDocs fun line hline => .skipped (h line hline), hnone, List.nil_append]

/-- In a block, all lines but the directives are collected. -/
theorem collect_block {inner : List Text} (h : ∀ line ∈ inner, InBlock markers (trim line))
    (above : List Text) :
    collect markers true (inner ++ above) =
      trimmedLines (isUnmarked markers) inner ++ collect markers true above := by
  induction inner with
  | nil => rfl
  | cons raw inner ih =>
    have hrest := ih fun line hline => h line (List.mem_cons_of_mem _ hline)
    rw [List.cons_append]
    cases hmarked : isMarked markers (trim raw) with
    | true =>
      have hdropped : isUnmarked markers (trim raw) = false := by
        rw [isUnmarked, hmarked, Bool.not_true]
      rw [collect_directive _ true hmarked, hrest, trimmedLines_cons_of_neg hdropped]
    | false =>
      have hkept : isUnmarked markers (trim raw) = true := by
        rw [isUnmarked, hmarked, Bool.not_false]
      have hline : occursIn "*/" (trim raw) = false ∧
          (startsWith "*" (trim raw) = true ∨ trim raw = []) := by
        cases h raw List.mem_cons_self with
        | directive h => exact absurd (h.symm.trans hmarked) (by decide)
        | blank hempty =>
          refine ⟨?_, .inr hempty⟩
          rw [hempty]
          rfl
        | continued hstar hclose => exact ⟨hclose, .inl hstar⟩
      rw [collect_continuing _ hmarked hline.1 hline.2, hrest, trimmedLines_cons_of_pos hkept,
        List.cons_append]

theorem collect_of_code {pre : List Text} (h : ∀ line ∈ pre.getLast?, IsCode markers (trim line)) :
    collect markers false pre.reverse = [] := by
  rcases List.eq_nil_or_concat pre with rfl | ⟨first, last, rfl⟩
  · rfl
  · have hlast : IsCode markers (trim last) := h last (by simp)
    rw [List.concat_eq_append, List.reverse_append]
    exact collect_code _ hlast.unmarked hlast.noClose hlast.ne_nil hlast.noComment

/-- A block comment from its last line up to its first, where the search ends. -/
theorem collect_blockComment {opener closer : Text} {inner : List Text}
    (hopener : OpensBlock markers (trim opener))
    (hinner : ∀ line ∈ inner, InBlock markers (trim line))
    (hclose : occursIn "*/" (trim closer) = true)
    (hunmarked : isMarked markers (trim closer) = false) (above : List Text) :
    collect markers false (closer :: (inner.reverse ++ opener :: above)) =
      trim closer :: (trimmedLines (isUnmarked markers) inner).reverse ++ [trim opener] := by
  rw [collect_closing _ hunmarked false hclose,
    collect_block fun line hline => hinner line (List.mem_reverse.1 hline),
    collect_opening _ hopener.unmarked hopener.noClose hopener.start, trimmedLines_reverse,
    List.cons_append]

end Runs

/-! The documentation of a declaration. -/

/-- The documentation depends on the lines above the declaration alone. -/
theorem above?_split (markers before after : List Text) (decl : Text) :
    above? (before ++ decl :: after) markers (before.length + 1) =
      some (trim (unlines (collect markers false before.reverse).reverse)) := by
  have hrange : before.length + 1 ≤ (before ++ decl :: after).length + 1 := by simp
  rw [above?, if_pos hrange, above, Nat.add_sub_cancel, List.take_left]

variable {markers pre post : List Text} {decl : Text}

/-- Between a line of code and a declaration with nothing but line comments, directives and blank
lines, the documentation is made of the `/// ` lines in their order. -/
theorem above_eq_docLines {mid : List Text}
    (hpre : ∀ line ∈ pre.getLast?, IsCode markers (trim line))
    (hmid : ∀ line ∈ mid, AmongLineDocs markers (trim line)) :
    above? (pre ++ mid ++ decl :: post) markers ((pre ++ mid).length + 1) =
      some (unlines (trimmedLines (isLineDoc markers) mid)) := by
  have hfound : (collect markers false (pre ++ mid).reverse).reverse =
      trimmedLines (isLineDoc markers) mid := by
    rw [List.reverse_append,
      collect_lineDocs fun line hline => hmid line (List.mem_reverse.1 hline),
      collect_of_code hpre, List.append_nil, trimmedLines_reverse, List.reverse_reverse]
  -- each line that is found starts with a slash and is trimmed, so the last trim takes nothing away
  have hsolid : ∀ line ∈ trimmedLines (isLineDoc markers) mid,
      (line ≠ [] ∧ Stops isBlank line) ∧ EndsSolid line := by
    intro line hline
    obtain ⟨hmem, hdoc⟩ := List.mem_filter.1 hline
    obtain ⟨raw, -, rfl⟩ := List.mem_map.1 hmem
    have hstart := solid_of_startsWith (by decide) (Bool.and_eq_true_iff.1 hdoc).1
    exact ⟨hstart, endsSolid_trim hstart.1⟩
  rw [above?_split, hfound, trim_unlines]
  · exact fun line hline => (hsolid line (List.mem_of_mem_head? hline)).1
  · exact fun line hline => (hsolid line (List.mem_of_getLast? hline)).2

/-- A directive, a blank line and a plain comment stand among the two lines of documentation, and a
comment on other code above them. -/
theorem above_eq_docLines_mixed :
    let markers : List Text := ["/// @c"]
    let pre : List Text := ["/// x", "uint x;"]
    let mid : List Text := ["  /// a", "  /// @c b", "", "  // c", "\t/// d "]
    (∀ line ∈ pre.getLast?, IsCode markers (trim line)) ∧
      (∀ line ∈ mid, AmongLineDocs markers (trim line)) ∧
      above? (pre ++ mid ++ ["function f();".toList]) markers ((pre ++ mid).length + 1) =
        some "/// a\n/// d".toList := by
  intro markers pre mid
  have hpre : ∀ line ∈ pre.getLast?, IsCode markers (trim line) := by
    rintro line ⟨⟩
    exact ⟨by decide, by decide, by decide, by decide⟩
  have hmid : ∀ line ∈ mid, AmongLineDocs markers (trim line) := by
    simp only [mid, List.forall_mem_cons]
    exact ⟨.doc (by decide) (by decide), .skipped (.directive (by decide)),
      .skipped (.blank (by decide)), .skipped (.comment (by decide) (by decide) (by decide)),
      .doc (by decide) (by decide), by simp⟩
  exact ⟨hpre, hmid, (above_eq_docLines hpre hmid).trans (by decide)⟩

/-- Of a block comment with nothing but plain comments, directives and blank lines below it, the
documentation is made of all lines but the directives, whatever stands above. -/
theorem above_eq_blockLines {opener closer : Text} {inner gap : List Text}
    (hopener : OpensBlock markers (trim opener))
    (hinner : ∀ line ∈ inner, InBlock markers (trim line))
    (hcloser : occursIn "*/" closer = true) (hunmarked : isMarked markers (trim closer) = false)
    (hgap : ∀ line ∈ gap, Skipped markers (trim line)) :
    above? (pre ++ [opener] ++ inner ++ [closer] ++ gap ++ decl :: post) markers
        ((pre ++ [opener] ++ inner ++ [closer] ++ gap).length + 1) =
      some (unlines (trim opener :: trimmedLines (isUnmarked markers) inner ++ [trim closer])) := by
  have hclose : occursIn "*/" (trim closer) = true := occursIn_trim (by decide) (by decide) hcloser
  have hupwards : (pre ++ [opener] ++ inner ++ [closer] ++ gap).reverse =
      gap.reverse ++ closer :: (inner.reverse ++ opener :: pre.reverse) := by simp
  have hfound : collect markers false (pre ++ [opener] ++ inner ++ [closer] ++ gap).reverse =
      trim closer :: (trimmedLines (isUnmarked markers) inner).reverse ++ [trim opener] := by
    rw [hupwards, collect_gap fun line hline => hgap line (List.mem_reverse.1 hline)]
    exact collect_blockComment hopener hinner hclose hunmarked pre.reverse
  have hdown : (trim closer :: (trimmedLines (isUnmarked markers) inner).reverse ++
      [trim opener]).reverse =
        trim opener :: trimmedLines (isUnmarked markers) inner ++ [trim closer] := by simp
  -- lines of the block may be empty, but neither its first nor its last one
  rw [above?_split, hfound, hdown, trim_unlines]
  · rintro line ⟨⟩
    exact solid_of_startsWith (by decide) hopener.start
  · intro line hline
    rw [List.getLast?_concat] at hline
    obtain rfl := Option.some.inj hline
    exact endsSolid_trim fun hempty => by simp [hempty, occursIn] at hclose

/-- The blank line of the block is kept, the directive in it is not, and the block above, which is
still open, is not looked at. -/
theorem above_eq_blockLines_mixed :
    let markers : List Text := ["/// @c"]
    let pre : List Text := ["/** f"]
    let opener : Text := " /** "
    let inner : List Text := [" * a", "", "/// @c b */", " * c"]
    let closer : Text := " * d */ // e"
    let gap : List Text := ["", "// d", "/// @c e"]
    OpensBlock markers (trim opener) ∧ (∀ line ∈ inner, InBlock markers (trim line)) ∧
      occursIn "*/" closer = true ∧ isMarked markers (trim closer) = false ∧
      (∀ line ∈ gap, Skipped markers (trim line)) ∧
      above? (pre ++ [opener] ++ inner ++ [closer] ++ gap ++ ["event E();".toList]) markers
          ((pre ++ [opener] ++ inner ++ [closer] ++ gap).length + 1) =
        some "/**\n* a\n\n* c\n* d */ // e".toList := by
  intro markers pre opener inner closer gap
  have hopener : OpensBlock markers (trim opener) := ⟨by decide, by decide, by decide⟩
  have hinner : ∀ line ∈ inner, InBlock markers (trim line) := by
    simp only [inner, List.forall_mem_cons]
    exact ⟨.continued (by decide) (by decide), .blank (by decide), .directive (by decide),
      .continued (by decide) (by decide), by simp⟩
  have hcloser : occursIn "*/" closer = true := by decide
  have hunmarked : isMarked markers (trim closer) = false := by decide
  have hgap : ∀ line ∈ gap, Skipped markers (trim line) := by
    simp only [gap, List.forall_mem_cons]
    exact ⟨.blank (by decide), .comment (by decide) (by decide) (by decide),
      .directive (by decide), by simp⟩
  exact ⟨hopener, hinner, hcloser, hunmarked, hgap,
    (above_eq_blockLines hopener hinner hcloser hunmarked hgap).trans (by decide)⟩

end Doc
end SolInterface
