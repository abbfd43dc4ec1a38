import SolInterface.Proofs.DocCapture

/-!
Lines that leave the documentation as it is. A directive is passed over by the search in either
mode; a blank line may be found within a block, but what is rendered of a documentation text is its
lines with something on them. Main statement: one more directive above a declaration changes nothing
of its documentation, and one more blank line nothing of the documentation as it is rendered.
-/
namespace SolInterface

namespace Text

/-- A text is cut at each character of the class. -/
theorem pieces_append {p : Char → Bool} {c : Char} (hc : p c = true) (t u : Text) :
    pieces p (t ++ c :: u) = pieces p t ++ pieces p u := by
  induction t with
  | nil => simp [pieces, hc]
  | cons d t ih =>
    obtain ⟨w, ws, hpieces⟩ := List.exists_cons_of_ne_nil (pieces_ne_nil p t)
    rw [hpieces, List.cons_append] at ih
    rw [List.cons_append, pieces, pieces, ih, hpieces]
    split <;> rfl

end Text

namespace Doc
open Text

def solidLines (ls : List Text) : List Text := (ls.map trim).filter fun line => !line.isEmpty

/-- Two cuts of a text that differ in empty lines below the first line at most. -/
inductive Agree : List Text → List Text → Prop
  | empty : Agree [] [[]]
  | cons (line : Text) {ls ms : List Text} (h : solidLines ls = solidLines ms) :
      Agree (line :: ls) (line :: ms)

theorem Agree.solidLines_eq {ls ms : List Text} (h : Agree ls ms) :
    solidLines ls = solidLines ms := by
  cases h with
  | empty => rfl
  | cons line h =>
    rw [solidLines, solidLines] at h ⊢
    rw [List.map_cons, List.map_cons, List.filter_cons, List.filter_cons, h]

theorem agree_boundedLines (t : Text) : Agree (boundedLines t) (pieces isLineBreak t) := by
  fun_induction boundedLines t with
  | case1 => exact .empty
  | case2 r ih => exact .cons [] ih.solidLines_eq
  | case3 c r _ hbreak ih =>
    rw [pieces, if_pos hbreak]
    exact .cons [] ih.solidLines_eq
  | case4 c r _ hbreak hnone ih =>
    rw [hnone] at ih
    rw [pieces, if_neg hbreak]
    generalize pieces isLineBreak r = ps at ih
    cases ih
    exact .cons [c] rfl
  | case5 c r _ hbreak line more hlines ih =>
    rw [hlines] at ih
    rw [pieces, if_neg hbreak]
    generalize pieces isLineBreak r = ps at ih
    cases ih with
    | cons _ h => exact .cons (c :: line) h

theorem contentLines_eq_pieces (doc : Text) :
    contentLines doc = solidLines (pieces isLineBreak doc) :=
  (agree_boundedLines doc).solidLines_eq

/-- The lines of a documentation text are cut at every line boundary. -/
theorem contentLines_append_break {c : Char} (hc : isLineBreak c = true) (t u : Text) :
    contentLines (t ++ c :: u) = contentLines t ++ contentLines u := by
  simp only [contentLines_eq_pieces, pieces_append hc, solidLines, List.map_append,
    List.filter_append]

theorem contentLines_unlines (ls : List Text) :
    contentLines (unlines ls) = ls.flatMap contentLines := by
  induction ls with
  | nil => rfl
  | cons line ls ih =>
    by_cases hne : ls = []
    · rw [hne, unlines, joinWith, List.intercalate_singleton, List.flatMap_singleton]
    · rw [unlines_cons line hne, contentLines_append_break (by decide), ih, List.flatMap_cons]

/-! One line more among those that the search reads. -/

section Insert
variable {markers : List Text} {raw : Text}

theorem collect_insert_directive (hmarked : isMarked markers (trim raw) = true) (inBlock : Bool)
    (below above : List Text) :
    collect markers inBlock (below ++ raw :: above) = collect markers inBlock (below ++ above) := by
  rw [collect_append, collect_append markers inBlock below above]
  cases modeAfter? markers inBlock below with
  | none => rfl
  | some mode => rw [Option.elim_some, Option.elim_some, collect_directive above mode hmarked]

theorem filter_collect_insert_blank (hblank : trim raw = []) (inBlock : Bool)
    (below above : List Text) :
    (collect markers inBlock (below ++ raw :: above)).filter (fun line => !line.isEmpty) =
      (collect markers inBlock (below ++ above)).filter fun line => !line.isEmpty := by
  rw [collect_append, collect_append markers inBlock below above, List.filter_append,
    List.filter_append]
  cases modeAfter? markers inBlock below with
  | none => rfl
  | some mode =>
    rw [Option.elim_some, Option.elim_some, collect_cons_blank hblank, List.filter_append]
    cases keeps markers mode [] <;> rfl

end Insert

/-! The documentation with one line more above the declaration. -/

theorem flatMap_contentLines_filter (ls : List Text) :
    (ls.filter fun line => !line.isEmpty).flatMap contentLines = ls.flatMap contentLines := by
  induction ls with
  | nil => rfl
  | cons line ls ih =>
    cases line with
    | nil => exact ih
    | cons c r =>
      rw [List.filter_cons_of_pos rfl, List.flatMap_cons, List.flatMap_cons, ih]

/-- What is rendered of the documentation comes from the lines found that are not empty. -/
theorem contentLines_captured (ls : List Text) :
    contentLines (unlines (ls.dropWhile List.isEmpty)) =
      (ls.filter fun line => !line.isEmpty).flatMap contentLines := by
  rw [contentLines_unlines, ← flatMap_contentLines_filter, filter_dropWhile_isEmpty]

/-- A line more between any two lines above the declaration, or above them all, in a block or not:
a directive leaves the documentation as it is, and a blank line leaves it as it is rendered. -/
theorem above_insert_line (markers pre mid post : List Text) (decl raw : Text) :
    ∃ doc, above? (pre ++ mid ++ decl :: post) markers ((pre ++ mid).length + 1) = some doc ∧
      (isMarked markers (trim raw) = true →
        above? (pre ++ raw :: mid ++ decl :: post) markers ((pre ++ raw :: mid).length + 1) =
          some doc) ∧
      (trim raw = [] → ∃ doc',
        above? (pre ++ raw :: mid ++ decl :: post) markers ((pre ++ raw :: mid).length + 1) =
          some doc' ∧
        ∀ indent, format indent doc' = format indent doc) := by
  have hbefore : (pre ++ mid).reverse = mid.reverse ++ pre.reverse := List.reverse_append
  have hafter : (pre ++ raw :: mid).reverse = mid.reverse ++ raw :: pre.reverse := by simp
  refine ⟨_, above?_eq_captured (by simp), fun hmarked => ?_, fun hblank =>
    ⟨_, above?_eq_captured (by simp), fun indent => ?_⟩⟩
  · rw [above?_eq_captured (by simp), captured_split, captured_split, hbefore, hafter,
      collect_insert_directive hmarked]
  · have hfound : (captured (pre ++ raw :: mid ++ decl :: post) markers
          ((pre ++ raw :: mid).length + 1)).filter (fun line => !line.isEmpty) =
        (captured (pre ++ mid ++ decl :: post) markers
          ((pre ++ mid).length + 1)).filter fun line => !line.isEmpty := by
      rw [captured_split, captured_split, hbefore, hafter, List.filter_reverse, List.filter_reverse,
        filter_collect_insert_blank hblank]
    rw [format, format, contentLines_captured, contentLines_captured, hfound]

/-- The blank line within the block is found, and is not rendered. -/
theorem above_insert_line_in_block :
    let pre : List Text := ["/**", " * a"]
    let mid : List Text := [" * b */"]
    let raw : Text := " \t"
    trim raw = [] ∧ ∃ doc,
      above? (pre ++ raw :: mid ++ ["function f();".toList]) [] ((pre ++ raw :: mid).length + 1) =
        some doc ∧
      format "  " doc = "  /**\n  * a\n  * b */".toList := by
  intro pre mid raw
  obtain ⟨doc, hdoc, -, hblank⟩ := above_insert_line [] pre mid [] "function f();" raw
  obtain ⟨doc', hdoc', hformat⟩ := hblank (by decide)
  have hplain : doc = "/**\n* a\n* b */".toList :=
    Option.some.inj (hdoc.symm.trans (by decide))
  refine ⟨by decide, doc', hdoc', (hformat "  ").trans ?_⟩
  rw [hplain]
  decide

end Doc
end SolInterface
