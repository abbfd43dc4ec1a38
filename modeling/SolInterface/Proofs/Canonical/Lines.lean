import SolInterface.Proofs.DocSearch
import SolInterface.Proofs.Canonical.Prelude

/-!
The lines of a canonical source. Those after the directives are code: no directive and no
documentation is found in them, and a function starts on those of its own only.
-/
namespace SolInterface.Canonical
open Text Directive

/-- A line that holds neither a directive nor any part of a comment. -/
structure IsCodeLine (line : Text) : Prop where
  noSlash : '/' ∉ line
  noStar : '*' ∉ line
  noBreak : '\n' ∉ line
  ne_nil : trim line ≠ []

theorem isCodeLine_indent {d : Char} {t : Text} (hd : isBlank d = false)
    (ht : ∀ c ∈ d :: t, isCode c) : IsCodeLine (indent ++ d :: t) := by
  have hfree : ∀ c ∈ ['/', '*', '\n'], c ∉ indent ++ d :: t := by
    have hother : ∀ c ∈ ['/', '*', '\n'], isCode c = false ∧ c ∉ indent := by decide
    intro c hc hmem
    obtain ⟨hcode, hindent⟩ := hother c hc
    rcases List.mem_append.1 hmem with hmem | hmem
    · exact hindent hmem
    · rw [ht c hmem] at hcode
      cases hcode
  refine ⟨hfree '/' (by decide), hfree '*' (by decide), hfree '\n' (by decide), ?_⟩
  rw [trim_append_cons (by decide) hd]
  exact List.cons_ne_nil _ _

/-- How a declaration starts: only that of a function starts like one. -/
theorem Member.exists_declaration (m : Member) :
    ∃ d t, m.declaration = d :: t ∧ isBlank d = false ∧
      ((∃ name params visibility mutability returns,
        m = .function name params visibility mutability returns) ∨ d ≠ 'f') := by
  cases m with
  | notice kind name params =>
    cases kind with
    | event => exact ⟨'e', _, rfl, rfl, Or.inr (by decide)⟩
    | error => exact ⟨'e', _, rfl, rfl, Or.inr (by decide)⟩
  | stateVariable type v isImmutable name =>
    cases type with
    | primitive p =>
      cases p with
      | sized stem digits =>
        cases stem with
        | uint => exact ⟨'u', _, rfl, rfl, Or.inr (by decide)⟩
        | int => exact ⟨'i', _, rfl, rfl, Or.inr (by decide)⟩
        | bytes => exact ⟨'b', _, rfl, rfl, Or.inr (by decide)⟩
      | string => exact ⟨'s', _, rfl, rfl, Or.inr (by decide)⟩
      | address => exact ⟨'a', _, rfl, rfl, Or.inr (by decide)⟩
      | bool => exact ⟨'b', _, rfl, rfl, Or.inr (by decide)⟩
    | mapping domain range => exact ⟨'m', _, rfl, rfl, Or.inr (by decide)⟩
  | function name params visibility mutability returns =>
    exact ⟨'f', _, rfl, rfl, Or.inl ⟨name, params, visibility, mutability, returns, rfl⟩⟩

theorem Member.isCodeLine (m : Member) : ∀ l ∈ m.lines, IsCodeLine l := by
  have hdeclaration : IsCodeLine (indent ++ m.declaration) := by
    obtain ⟨d, t, hm, hd, -⟩ := m.exists_declaration
    have hcode := isCode_of_declaration m
    rw [hm] at hcode ⊢
    exact isCodeLine_indent hd hcode
  have hclose : IsCodeLine (indent ++ ['}']) := isCodeLine_indent rfl (by decide)
  intro l hl
  cases m with
  | notice kind name params =>
    rw [List.mem_singleton.1 hl]
    exact hdeclaration
  | stateVariable type v isImmutable name =>
    rw [List.mem_singleton.1 hl]
    exact hdeclaration
  | function name params visibility mutability returns =>
    rcases List.mem_cons.1 hl with rfl | hl
    · exact hdeclaration
    · rw [List.mem_singleton.1 hl]
      exact hclose

theorem isCodeLine_contractLine (name : Identifier) (bases : List Identifier) :
    IsCodeLine (contractLine name bases) := by
  refine ⟨notMem_contractLine (by decide) name bases, notMem_contractLine (by decide) name bases,
    notMem_contractLine (by decide) name bases, ?_⟩
  obtain ⟨t, hstart⟩ : ∃ t, contractLine name bases = 'c' :: t := ⟨_, rfl⟩
  have htrim : trim ([] ++ 'c' :: t) = 'c' :: trimRight t := trim_append_cons (by simp) rfl t
  rw [List.nil_append, ← hstart] at htrim
  rw [htrim]
  exact List.cons_ne_nil _ _

namespace Document

def codeLines (d : Document) : List Text :=
  contractLine d.name d.bases :: (d.members.flatMap Member.lines ++ [['}']])

theorem lines_eq (d : Document) : d.lines = d.directives.map directiveLine ++ d.codeLines := rfl

theorem isCodeLine (d : Document) : ∀ l ∈ d.codeLines, IsCodeLine l := by
  intro l hl
  rcases List.mem_cons.1 hl with rfl | hl
  · exact isCodeLine_contractLine d.name d.bases
  · rcases List.mem_append.1 hl with hl | hl
    · obtain ⟨m, -, hm⟩ := List.mem_flatMap.1 hl
      exact m.isCodeLine l hm
    · rw [List.mem_singleton.1 hl]
      exact ⟨by decide, by decide, by decide, by decide⟩

theorem lines_text (d : Document) : Text.lines d.text = d.lines ++ [[]] := by
  refine lines_flatMap fun l hl => ?_
  rcases List.mem_append.1 hl with hl | hl
  · obtain ⟨w, hw, rfl⟩ := List.mem_map.1 hl
    exact (d.ordinary w hw).notMem (by decide)
  · exact (d.isCodeLine l hl).noBreak

end Document
/-! Documentation. -/

theorem collect_marked {markers ls : List Text} (h : ∀ l ∈ ls, Doc.isMarked markers (trim l) = true)
    (inBlock : Bool) : Doc.collect markers inBlock ls = [] := by
  induction ls with
  | nil => rfl
  | cons l ls ih =>
    rw [Doc.collect_directive _ inBlock (h l (by simp)), ih fun k hk => h k (by simp [hk])]

theorem isMarked_directiveLine (w : Wording) :
    Doc.isMarked [Dialect.custom.marker] (trim (directiveLine w)) = true := by
  -- The marker ends with a letter, so trimming on the right does not reach it.
  have hright : trimRight ("/// @custom:interfac".toList ++ 'e' :: ' ' :: w.text) =
      "/// @custom:interfac".toList ++ 'e' :: trimRight (' ' :: w.text) :=
    trimRight_append_cons _ rfl
  have hstart : Stops isBlank (directiveLine w) := stops_cons.2 rfl
  have htrim : trim (directiveLine w) = Dialect.custom.marker ++ trimRight (' ' :: w.text) := by
    rw [trim_of_stops hstart]
    exact hright
  simp [Doc.isMarked, startsWith, htrim]

/-- Above a line of code there is no documentation. -/
theorem collect_code {line : Text} (h : IsCodeLine line) (above : List Text) :
    Doc.collect [Dialect.custom.marker] false (line :: above) = [] := by
  have hslash : '/' ∉ trim line := fun hmem => h.noSlash (mem_of_mem_trim hmem)
  have hstar : '*' ∉ trim line := fun hmem => h.noStar (mem_of_mem_trim hmem)
  have hmarked : Doc.isMarked [Dialect.custom.marker] (trim line) = false := by
    rw [Doc.isMarked, List.any_cons, List.any_nil, Bool.or_false]
    exact startsWith_eq_false (by decide : '/' ∈ Dialect.custom.marker) hslash
  have hend : occursIn "*/" (trim line) = false :=
    occursIn_eq_false (by decide : '*' ∈ "*/".toList) hstar
  have hcomment : startsWith "//" (trim line) = false :=
    startsWith_eq_false (by decide : '/' ∈ "//".toList) hslash
  exact Doc.collect_code above hmarked hend h.ne_nil hcomment

namespace Document

theorem above_contractLine (d : Document) :
    Doc.above (Text.lines d.text) [Dialect.custom.marker] (d.directives.length + 1) = [] := by
  have htake : (Text.lines d.text).take d.directives.length = d.directives.map directiveLine := by
    rw [lines_text, lines_eq, List.append_assoc, List.take_append_of_le_length (by simp)]
    exact List.take_of_length_le (by simp)
  have hmarked : ∀ l ∈ (d.directives.map directiveLine).reverse,
      Doc.isMarked [Dialect.custom.marker] (trim l) = true := by
    intro l hl
    obtain ⟨w, -, rfl⟩ := List.mem_map.1 (List.mem_reverse.1 hl)
    exact isMarked_directiveLine w
  rw [Doc.above, Nat.add_sub_cancel, htake, collect_marked hmarked]
  rfl

/-- No member has documentation, since a line of code stands above it. -/
theorem above_member (d : Document) {n : Nat} (hlow : d.directives.length + 2 ≤ n)
    (hhigh : n ≤ d.lines.length) :
    Doc.above (Text.lines d.text) [Dialect.custom.marker] n = [] := by
  obtain ⟨k, rfl⟩ : ∃ k, n = d.directives.length + 2 + k := ⟨n - (d.directives.length + 2), by omega⟩
  have hlength : d.lines.length = d.directives.length + d.codeLines.length := by simp [lines_eq]
  have hk : k < d.codeLines.length := by omega
  have htake : (Text.lines d.text).take (d.directives.length + 2 + k - 1) =
      d.directives.map directiveLine ++ d.codeLines.take k ++ [d.codeLines[k]] := by
    have hsplit : d.directives.length + 2 + k - 1 =
        (d.directives.map directiveLine).length + (k + 1) := by
      rw [List.length_map]
      omega
    rw [lines_text, lines_eq, List.append_assoc, hsplit, List.take_length_add_append,
      List.take_append_of_le_length (by omega), ← List.take_append_getElem hk, List.append_assoc]
  have hcode := d.isCodeLine _ (List.getElem_mem hk)
  rw [Doc.above, htake, List.reverse_append, List.reverse_singleton, List.singleton_append,
    collect_code hcode]
  rfl

end Document
/-! Directives. -/

theorem parseLine_directiveLine {w : Wording} (h : Ordinary w) :
    Dialect.custom.parseLine (directiveLine w) = some w.request := by
  have hnone : Wording.Spacing [] := by simp [Wording.Spacing]
  have hparse := Dialect.parseLine_wording (d := Dialect.custom) (by decide) (stops_cons.2 rfl)
    h.fits hnone hnone
  simpa [directiveLine] using hparse

theorem parseLine_eq_none {line : Text} (h : '/' ∉ line) : Dialect.custom.parseLine line = none := by
  let read : Text → Option (Text × Text) := fun t => (after? Dialect.custom.marker t).bind lineTail?
  have hskip : ∀ c ∈ line, ∀ r, read (c :: r) = none := by
    intro c hc r
    have hne : '/' ≠ c := fun he => h (he ▸ hc)
    have hlead : after? Dialect.custom.marker (c :: r) = none := if_neg hne
    simp [read, hlead]
  have hnone : firstMatch read (line ++ []) = none := firstMatch_append [] hskip
  rw [List.append_nil] at hnone
  rw [Dialect.parseLine, Dialect.content?, hnone]
  rfl

theorem directivesFrom_code {ls : List Text} (h : ∀ l ∈ ls, '/' ∉ l) (n : Nat) :
    Dialect.custom.directivesFrom n ls = [] := by
  induction ls generalizing n with
  | nil => rfl
  | cons l ls ih =>
    rw [Dialect.directivesFrom, parseLine_eq_none (h l (by simp))]
    exact ih (fun k hk => h k (by simp [hk])) (n + 1)

theorem directivesFrom_append {ws : List Wording} (h : ∀ w ∈ ws, Ordinary w) (n : Nat)
    (ls : List Text) :
    Dialect.custom.directivesFrom n (ws.map directiveLine ++ ls) =
      (ws.zipIdx n).map (fun p => ⟨p.1.request, p.2⟩) ++
        Dialect.custom.directivesFrom (n + ws.length) ls := by
  induction ws generalizing n with
  | nil => rfl
  | cons w ws ih =>
    rw [List.map_cons, List.cons_append, Dialect.directivesFrom,
      parseLine_directiveLine (h w (by simp))]
    simp only [ih (fun v hv => h v (by simp [hv])) (n + 1), List.zipIdx_cons, List.map_cons,
      List.length_cons, List.cons_append]
    rw [Nat.add_assoc, Nat.add_comm 1 ws.length]

/-- The directives of a canonical source are those it was written with. -/
theorem Document.directives_lines (d : Document) :
    Dialect.custom.directives (Text.lines d.text) =
      (d.directives.zipIdx 1).map fun p => ⟨p.1.request, p.2⟩ := by
  have hcode : ∀ l ∈ d.codeLines ++ [[]], '/' ∉ l := by
    intro l hl
    rcases List.mem_append.1 hl with hl | hl
    · exact (d.isCodeLine l hl).noSlash
    · rw [List.mem_singleton.1 hl]
      exact List.not_mem_nil
  rw [lines_text, lines_eq, List.append_assoc, Dialect.directives,
    directivesFrom_append d.ordinary, directivesFrom_code hcode, List.append_nil]

/-! Functions. -/

theorem startsFunction_eq_false {line t : Text} {c : Char} (h : trim line = c :: t) (hc : c ≠ 'f') :
    Source.startsFunction line = false := by
  by_contra hstart
  obtain ⟨rest, hrest⟩ := startsWith_iff.1 (show startsWith "function " (trim line) = true by
    simpa [Source.startsFunction] using hstart)
  rw [h] at hrest
  exact hc (List.cons.inj hrest).1.symm

theorem functionsFrom_append {docAt : Nat → Text} {ls : List Text}
    (h : ∀ l ∈ ls, Source.startsFunction l = false) (n : Nat) (more : List Text) :
    Source.functionsFrom docAt n (ls ++ more) = Source.functionsFrom docAt (n + ls.length) more := by
  induction ls generalizing n with
  | nil => rfl
  | cons l ls ih =>
    rw [List.cons_append, Source.functionsFrom, h l (by simp)]
    simp only [Bool.false_eq_true, if_false, ih (fun k hk => h k (by simp [hk])) (n + 1),
      List.length_cons]
    rw [Nat.add_assoc, Nat.add_comm 1 ls.length]

end SolInterface.Canonical
