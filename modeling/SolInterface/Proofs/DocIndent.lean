import Mathlib.Data.List.Basic
import SolInterface.Proofs.DocTransparency

/-!
Documentation indented again. The lines of a documentation text that hold something are trimmed and
hold no line boundary, and blanks in front of them are lost when the text is cut again, line
boundaries among the blanks included. Main statement: what is rendered depends on those lines alone,
and rendering keeps them.
-/
namespace SolInterface

namespace Text

theorem boundedLines_cons {c : Char} (hc : isLineBreak c = false) (t : Text) :
    boundedLines (c :: t) = (c :: (boundedLines t).headD []) :: (boundedLines t).tail := by
  have hreturn : c ≠ '\r' := by
    rintro rfl
    exact absurd hc (by decide)
  rw [boundedLines.eq_3 c t fun _ he => absurd he hreturn, if_neg (by simp [hc])]
  cases boundedLines t <;> rfl

/-- The first line of a text, up to a line feed, where no other boundary stands in it. -/
theorem boundedLines_append_feed {line : Text} (h : ∀ c ∈ line, isLineBreak c = false) (t : Text) :
    boundedLines (line ++ '\n' :: t) = line :: boundedLines t := by
  induction line with
  | nil => rfl
  | cons c line ih =>
    obtain ⟨hc, hline⟩ := List.forall_mem_cons.1 h
    rw [List.cons_append, boundedLines_cons hc, ih hline]
    rfl

theorem boundedLines_of_none {line : Text} (hne : line ≠ [])
    (h : ∀ c ∈ line, isLineBreak c = false) : boundedLines line = [line] := by
  induction line with
  | nil => exact absurd rfl hne
  | cons c line ih =>
    obtain ⟨hc, hline⟩ := List.forall_mem_cons.1 h
    rw [boundedLines_cons hc]
    cases line with
    | nil => rfl
    | cons d line =>
      rw [ih (by simp) hline]
      rfl

theorem boundedLines_unlines {ls : List Text}
    (h : ∀ line ∈ ls, line ≠ [] ∧ ∀ c ∈ line, isLineBreak c = false) :
    boundedLines (unlines ls) = ls := by
  induction ls with
  | nil => rfl
  | cons line ls ih =>
    obtain ⟨⟨hne, hline⟩, hmore⟩ := List.forall_mem_cons.1 h
    by_cases hnil : ls = []
    · rw [hnil, unlines, joinWith, List.intercalate_singleton, boundedLines_of_none hne hline]
    · rw [unlines_cons line hnil, boundedLines_append_feed hline, ih hmore]

end Text

namespace Doc
open Text

/-- Each line that is rendered holds something, is trimmed and is one line. -/
theorem of_mem_contentLines {doc line : Text} (h : line ∈ contentLines doc) :
    line ≠ [] ∧ trim line = line ∧ ∀ c ∈ line, isLineBreak c = false := by
  rw [contentLines_eq_pieces, solidLines, List.mem_filter, List.mem_map] at h
  obtain ⟨⟨piece, hpiece, rfl⟩, hsolid⟩ := h
  exact ⟨by simpa using hsolid, trim_trim piece,
    fun c hc => eq_false_of_mem_pieces hpiece c (mem_of_mem_trim hc)⟩

theorem contentLines_of_trimmed {line : Text} (hne : line ≠ []) (htrim : trim line = line)
    (hbreak : ∀ c ∈ line, isLineBreak c = false) : contentLines line = [line] := by
  rw [contentLines_eq_pieces, pieces_of_none hbreak, solidLines, List.map_singleton, htrim]
  exact List.filter_cons_of_pos (by simpa using hne)

theorem contentLines_cons_blank {c : Char} (hc : isBlank c = true) (t : Text) :
    contentLines (c :: t) = contentLines t := by
  obtain ⟨first, rest, hpieces⟩ := List.exists_cons_of_ne_nil (pieces_ne_nil isLineBreak t)
  rw [contentLines_eq_pieces, contentLines_eq_pieces, pieces, hpieces]
  cases isLineBreak c with
  | true => rfl
  | false =>
    have htrim : trim (c :: first) = trim first :=
      trim_append_left first (b := [c]) (by simpa using hc)
    rw [if_neg (by simp), solidLines, solidLines, List.map_cons, List.map_cons, htrim]

/-- Blanks in front of a text are lost, and so are the lines that end among them. -/
theorem contentLines_blank_append {indent : Text} (h : ∀ c ∈ indent, isBlank c = true) (t : Text) :
    contentLines (indent ++ t) = contentLines t := by
  induction indent with
  | nil => rfl
  | cons c indent ih =>
    obtain ⟨hc, hindent⟩ := List.forall_mem_cons.1 h
    rw [List.cons_append, contentLines_cons_blank hc, ih hindent]

theorem contentLines_format {indent : Text} (h : ∀ c ∈ indent, isBlank c = true) (doc : Text) :
    contentLines (format indent doc) = contentLines doc := by
  have hline : ∀ line ∈ contentLines doc, contentLines (indent ++ line) = [line] := by
    intro line hmem
    obtain ⟨hne, htrim, hbreak⟩ := of_mem_contentLines hmem
    rw [contentLines_blank_append h, contentLines_of_trimmed hne htrim hbreak]
  rw [format, contentLines_unlines, List.flatMap_map, List.flatMap_congr hline,
    List.flatMap_singleton']

/-- An indent within a line stands before each of the lines, and nothing else is rendered. -/
theorem boundedLines_format {indent : Text} (h : ∀ c ∈ indent, isLineBreak c = false) (doc : Text) :
    boundedLines (format indent doc) = (contentLines doc).map (indent ++ ·) := by
  refine boundedLines_unlines fun line hmem => ?_
  obtain ⟨content, hcontent, rfl⟩ := List.mem_map.1 hmem
  obtain ⟨hne, -, hbreak⟩ := of_mem_contentLines hcontent
  exact ⟨by simp [hne], List.forall_mem_append.2 ⟨h, hbreak⟩⟩

/-- Indenting is canonical: any blanks may be the first indent, line boundaries among them or not.
The second indent alone decides on the result, whose lines that hold something are those of the
text. -/
theorem format_canonical (doc : Text) {indent : Text} (h : ∀ c ∈ indent, isBlank c = true) :
    (∀ again, format again (format indent doc) = format again doc) ∧
      contentLines (format indent doc) = contentLines doc ∧
      ((∀ c ∈ indent, isLineBreak c = false) →
        boundedLines (format indent doc) = (contentLines doc).map (indent ++ ·)) := by
  refine ⟨fun again => ?_, contentLines_format h doc, fun hline => boundedLines_format hline doc⟩
  rw [format, contentLines_format h, format]

/-- Line boundaries in the text and in the first indent, which leave nothing in the result. -/
theorem format_canonical_separators :
    let doc : Text := " /// a\u2028\n\t/// b  c \r\n"
    let indent : Text := "\r\n\x0b "
    (∀ c ∈ indent, isBlank c = true) ∧
      format indent doc = "\r\n\x0b /// a\n\r\n\x0b /// b  c".toList ∧
      format "  " (format indent doc) = "  /// a\n  /// b  c".toList ∧
      contentLines (format indent doc) = ["/// a".toList, "/// b  c".toList] := by
  intro doc indent
  have hblank : ∀ c ∈ indent, isBlank c = true := by decide
  obtain ⟨hagain, hlines, -⟩ := format_canonical doc hblank
  exact ⟨hblank, by decide, (hagain "  ").trans (by decide), hlines.trans (by decide)⟩

end Doc
end SolInterface
