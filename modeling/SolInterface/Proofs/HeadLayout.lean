import SolInterface.Proofs.SpecifierOrder

/-!
Function heads that are broken into lines. A head that is written with single spaces may be broken
at each of them but the one after `function`, and its lines may be indented and padded. The lines are
joined to the head as it stands on one line, and the record is the one of that head, whatever
modifiers stand in it.
-/
namespace SolInterface.Function
open Text

/-! Modifiers. -/

/-- A word, or a word and its arguments in parentheses, before which a space may stand. -/
inductive IsModifier : Text → Prop where
  | word {w : Text} (hw : IsName w) : IsModifier w
  | call {w gap args : Text} (hw : IsName w) (hgap : gap = [] ∨ gap = [' '])
      (hargs : ∀ c ∈ args, isWord c = true ∨ c = ' ' ∨ c = ',') :
      IsModifier (w ++ (gap ++ '(' :: (args ++ [')'])))

namespace IsModifier

variable {m : Text}

theorem isFiller (h : IsModifier m) : ∀ c ∈ m, isFiller c := by
  have hword : ∀ {c : Char}, isWord c = true → Function.isFiller c = true := fun hc => by
    simp [Function.isFiller, hc]
  cases h with
  | word hw => exact fun c hc => hword (hw.2 c hc)
  | @call w gap args hw hgap hargs =>
    intro c hc
    simp only [List.mem_append, List.mem_cons, List.not_mem_nil, or_false] at hc
    rcases hc with hc | hc | rfl | hc | rfl
    · exact hword (hw.2 c hc)
    · rcases hgap with rfl | rfl
      · cases hc
      · rw [List.mem_singleton.1 hc]
        rfl
    · rfl
    · rcases hargs c hc with hc | rfl | rfl
      · exact hword hc
      · rfl
      · rfl
    · rfl

theorem stops_isBlank (h : IsModifier m) (t : Text) : Stops isBlank (m ++ t) := by
  cases h with
  | word hw => exact hw.stops_isBlank t
  | call hw _ _ =>
    rw [List.append_assoc]
    exact hw.stops_isBlank _

theorem notMem (h : IsModifier m) {c : Char} (hc : Function.isFiller c = false) : c ∉ m :=
  fun hm => by simp [h.isFiller c hm] at hc

end IsModifier

/-- Where `returns` does not occur, no clause starts up to a character that is not in the word. -/
theorem not_returnsClause_of_occursIn {fill rest types : Text} {c : Char}
    (h : occursIn "returns" fill = false) (hc : c ∉ "returns".toList) :
    ¬ ReturnsClause (fill ++ c :: rest) types := by
  intro hclause
  obtain ⟨more, hmore⟩ := hclause.isPrefix
  have hafter : after? "returns" (fill ++ c :: rest) = some more := after?_eq_some.2 hmore.symm
  rw [after?_append_cons hc, after?_of_occursIn (by decide) h] at hafter
  cases hafter

theorem occursIn_spaced {word : Text} (hne : word ≠ []) (hspace : ' ' ∉ word) {ms : List Text}
    (h : ∀ m ∈ ms, occursIn word m = false) : occursIn word (spaced ms []) = false := by
  induction ms with
  | nil => simpa [occursIn] using hne
  | cons m ms ih =>
    obtain ⟨hm, hms⟩ := List.forall_mem_cons.1 h
    rw [spaced_cons, occursIn_append_cons hne hspace, hm, ih hms]
    rfl

theorem isFiller_of_spaced {ms : List Text} (h : ∀ m ∈ ms, IsModifier m) :
    ∀ c ∈ spaced ms [], isFiller c := by
  intro c hc
  rcases mem_spaced hc with rfl | ⟨m, hm, hc⟩
  · rfl
  · exact (h m hm).isFiller c hc

/-- Modifiers are passed. -/
theorem ending?_modifiers {ms : List Text} (hm : ∀ m ∈ ms, IsModifier m)
    (hno : ∀ m ∈ ms, occursIn "returns" m = false) {returns : Option Text}
    (hr : ∀ types ∈ returns, ')' ∉ types) (tail : Text) :
    ending? (spaced ms (headEnd returns tail)) = some (returns.getD []) := by
  have hspaced : occursIn "returns" (spaced ms []) = false :=
    occursIn_spaced (by decide) (by decide) hno
  have hfill := isFiller_of_spaced hm
  cases returns with
  | none =>
    rw [spaced_append]
    refine ending?_passed hfill (fun part hp _ u => ?_) (fun _ _ _ _ => rfl) ?_
    · exact not_returnsClause_of_occursIn (occursIn_of_isSuffix hspaced hp) (by decide)
    · exact @ending?_brace [] tail (by simp)
  | some types =>
    have hclause : ReturnsClause (headEnd (some types) tail) types :=
      ⟨⟨[' '], [' '], tail, by simp [headEnd, returnsPart], by decide, by decide⟩, hr types rfl⟩
    by_cases hne : ms = []
    · subst hne
      exact ending?_of_returns hclause
    · have hjoin := joinWith_space hne []
      rw [← hjoin, occursIn_append_cons (by decide) (by decide), Bool.or_eq_false_iff] at hspaced
      rw [← joinWith_space hne]
      refine ending?_passed_returns (fun c hc => hfill c ?_) (fun part hp u => ?_) hclause
      · rw [← hjoin]
        exact List.mem_append_left _ hc
      · exact not_returnsClause_of_occursIn (occursIn_of_isSuffix hspaced.1 hp) (by decide)

/-! Heads on one line. -/

/-- The parts of a head that names its visibility first, then its mutability if there is one, and
then its modifiers. -/
structure Heading where
  name : Text
  params : Text
  visibility : Visibility
  mutability : Option Mutability
  modifiers : List Text
  returns : Option Text

namespace Heading

def specs (h : Heading) : List Text :=
  h.visibility.keyword :: ((h.mutability.map (·.keyword)).toList ++ h.modifiers)

/-- The head with single spaces between its parts, up to its opening brace. -/
def text (h : Heading) : Text := headLine h.name h.params h.specs h.returns []

def Enclosed (t : Text) : Prop := ')' ∉ t ∧ '{' ∉ t ∧ '}' ∉ t

/-- The heads whose parts can be told apart, and in which no blank but a single space stands. A
modifier that follows the visibility does not start like a mutability. -/
structure Fits (h : Heading) : Prop where
  isName : IsName h.name
  params : Enclosed h.params
  mutability : ∀ m ∈ h.mutability, (m.keyword, m) ∈ mutabilities
  isModifier : ∀ m ∈ h.modifiers, IsModifier m
  noReturns : ∀ m ∈ h.modifiers, occursIn "returns" m = false
  unmixed : h.mutability = none → leading? mutabilities h.modifiers = none
  returns : ∀ types ∈ h.returns, Enclosed types
  spaces : ∀ c ∈ h.text, isBlank c = true → c = ' '
  single : occursIn "  " h.text = false

variable {h : Heading}

theorem Fits.stops_modifiers (hf : h.Fits) (tail : Text) :
    Stops isBlank (spaced h.modifiers (headEnd h.returns tail)) := by
  cases hm : h.modifiers with
  | nil => exact stops_headEnd _ _
  | cons m ms => exact (hf.isModifier m (by simp [hm])).stops_isBlank _

/-- The mutability is found where it stands, and only there. -/
theorem Fits.oneOf?_mutability (hf : h.Fits) {m : Mutability} (hm : h.mutability = some m)
    (t : Text) :
    Stops isBlank (m.keyword ++ t) ∧ oneOf? mutabilities (m.keyword ++ t) = some (m, t) := by
  have hkey := hf.mutability m hm
  simp only [mutabilities, List.mem_cons, Prod.mk.injEq, List.not_mem_nil, or_false] at hkey
  rcases hkey with ⟨-, rfl⟩ | ⟨-, rfl⟩ | ⟨-, rfl⟩ <;> exact ⟨stops_cons.2 rfl, rfl⟩

theorem Fits.specified? (hf : h.Fits) (tail : Text) :
    specified? (spaced ((h.mutability.map (·.keyword)).toList ++ h.modifiers)
        (headEnd h.returns tail)) = some (h.mutability, h.returns.getD []) := by
  have hend := ending?_modifiers hf.isModifier hf.noReturns
    (fun types ht => (hf.returns types ht).1) tail
  have hskip := skipBlanks_of_stops (hf.stops_modifiers tail)
  cases hm : h.mutability with
  | some m =>
    have hfound := (hf.oneOf?_mutability hm
      (' ' :: spaced h.modifiers (headEnd h.returns tail))).2
    simp [Function.specified?, hfound, hskip, hend]
  | none =>
    have hnone : oneOf? mutabilities (spaced h.modifiers (headEnd h.returns tail)) = none := by
      have hlead := hf.unmixed hm
      cases hmods : h.modifiers with
      | nil => cases h.returns <;> rfl
      | cons m ms =>
        rw [hmods, leading?, Option.map_eq_none_iff] at hlead
        rw [spaced_cons, oneOf?_append_cons (by decide), hlead, Option.map_none]
    simp [Function.specified?, hnone, hend]

theorem Fits.read? (hf : h.Fits) (tail : Text) :
    Head.read? (headLine h.name h.params h.specs h.returns tail) =
      some ⟨h.name, trim h.params, some h.visibility, h.mutability, trim (h.returns.getD [])⟩ := by
  let more : Text := spaced ((h.mutability.map (·.keyword)).toList ++ h.modifiers)
    (headEnd h.returns tail)
  have hmore : skipBlanks more = more := by
    refine skipBlanks_of_stops ?_
    unfold more
    cases hm : h.mutability with
    | some m => exact (hf.oneOf?_mutability hm _).1
    | none => exact hf.stops_modifiers tail
  have hvisible : takeVisibility (skipBlanks (' ' :: spaced h.specs (headEnd h.returns tail))) =
      (some h.visibility, more) := by
    have hfound : oneOf? visibilities (skipBlanks (h.visibility.keyword ++ ' ' :: more)) =
        some (h.visibility, ' ' :: more) := by cases h.visibility <;> rfl
    rw [skipBlanks_space, specs, spaced_cons, takeVisibility, hfound]
    simp [hmore]
  rw [headLine_eq, Head.read?_front _ (by simp) (by decide) hf.isName (by simp) hf.params.1,
    hvisible, hf.specified?, Option.map_some]

theorem Fits.notMem_front (hf : h.Fits) {c : Char} (hc : c = '{' ∨ c = '}') :
    c ∉ headFront h.name h.params h.specs h.returns := by
  have hfiller : Function.isFiller c = false := by rcases hc with rfl | rfl <;> rfl
  have hword : isWord c = false := by rcases hc with rfl | rfl <;> rfl
  have henclosed : ∀ {t : Text}, Enclosed t → c ∉ t := by
    rintro t ⟨-, hopen, hclose⟩
    rcases hc with rfl | rfl <;> assumption
  refine notMem_headFront hc (hf.isName.notMem hword) (henclosed hf.params) (fun w hw => ?_)
    fun types ht => henclosed (hf.returns types ht)
  rcases List.mem_cons.1 hw with rfl | hw
  · cases h.visibility <;> rcases hc with rfl | rfl <;> decide
  · rcases List.mem_append.1 hw with hw | hw
    · obtain ⟨m, hm, rfl⟩ := Option.map_eq_some_iff.1 (Option.mem_toList.1 hw)
      have hkeys : ∀ o ∈ mutabilities, ∀ d ∈ o.1, isWord d := by decide
      exact fun hmem => by simp [hkeys _ (hf.mutability m hm) c hmem] at hword
    · exact (hf.isModifier w hw).notMem hfiller

end Heading

/-! Heads on several lines. -/

/-- A text with something in it, in which no blank but a single space stands, and none at either
end. -/
structure Tidy (t : Text) : Prop where
  ne_nil : t ≠ []
  starts : Stops isBlank t
  ends : Stops isBlank t.reverse
  spaces : ∀ c ∈ t, isBlank c = true → c = ' '
  single : occursIn "  " t = false

/-- What stands before a space is trimmed, and what stands after it is tidy. -/
theorem Tidy.split {p t : Text} (h : Tidy (p ++ ' ' :: t)) : trim p = p ∧ Tidy t := by
  obtain ⟨-, hstarts, hends, hspaces, hsingle⟩ := h
  have htwice : ∀ u v : Text, p ++ ' ' :: t ≠ u ++ ' ' :: ' ' :: v := by
    intro u v huv
    rw [← Bool.not_eq_true, occursIn_iff_infix, huv] at hsingle
    exact hsingle ⟨u, v, by simp⟩
  have hp : p ≠ [] := by
    rintro rfl
    exact absurd (stops_cons.1 hstarts) (by decide)
  have ht : t ≠ [] := by
    rintro rfl
    rw [List.reverse_append] at hends
    exact absurd (stops_cons.1 hends) (by decide)
  refine ⟨trim_eq_self_iff.2 ⟨(stops_append hp _).1 hstarts, fun c hc => ?_⟩, ht,
    fun c hc => ?_, ?_, fun c hc => hspaces c (by simp [hc]), ?_⟩
  · -- A blank at the end of what stands before the space would make two of them.
    by_contra hblank
    obtain ⟨a, rfl⟩ : ∃ a, p = a ++ [c] := by
      obtain ⟨r, hr⟩ := List.head?_eq_some_iff.1 hc
      exact ⟨r.reverse, by rw [← List.reverse_reverse p, hr, List.reverse_cons]⟩
    obtain rfl : c = ' ' := hspaces c (by simp) (by simpa using hblank)
    exact htwice a t (by simp)
  · by_contra hblank
    obtain ⟨r, rfl⟩ := List.head?_eq_some_iff.1 hc
    obtain rfl : c = ' ' := hspaces c (by simp) (by simpa using hblank)
    exact htwice p r rfl
  · rw [List.reverse_append, List.reverse_cons, List.append_assoc,
      stops_append (by simpa using ht)] at hends
    exact hends
  · exact occursIn_of_isSuffix hsingle ⟨p ++ [' '], by simp⟩

theorem Tidy.of_spaced {ps : List Text} {t : Text} (h : Tidy (spaced ps t)) :
    (∀ p ∈ ps, trim p = p) ∧ Tidy t := by
  induction ps with
  | nil => exact ⟨by simp, h⟩
  | cons p ps ih =>
    obtain ⟨hp, hrest⟩ := h.split
    obtain ⟨hps, ht⟩ := ih hrest
    exact ⟨List.forall_mem_cons.2 ⟨hp, hps⟩, ht⟩

theorem Heading.Fits.tidy_text {h : Heading} (hf : h.Fits) : Tidy h.text where
  ne_nil := by simp [Heading.text, headLine]
  starts := by
    rw [Heading.text, headLine_eq]
    exact stops_cons.2 rfl
  ends := by
    rw [Heading.text, headLine, List.reverse_append]
    exact stops_cons.2 rfl
  spaces := hf.spaces
  single := hf.single

structure PaddedPart where
  indent : Text
  part : Text
  trailing : Text

def PaddedPart.line (p : PaddedPart) : Text := p.indent ++ p.part ++ p.trailing

/-- A line without braces is joined to those below it. -/
theorem declarationText_closed {line : Text} (ho : '{' ∉ trim line) (hc : '}' ∉ trim line)
    (more : List Text) :
    declarationText 0 false (line :: more) =
      ' ' :: (trim line ++ declarationText 0 false more) := by
  rw [declarationText]
  simp [takeWhile_ne_self ho, List.count_eq_zero_of_not_mem hc]

theorem declarationText_parts {ps : List PaddedPart}
    (h : ∀ p ∈ ps, trim p.line = p.part ∧ '{' ∉ p.part ∧ '}' ∉ p.part) {rest : List Text} {t : Text}
    (hrest : declarationText 0 false rest = ' ' :: t) :
    declarationText 0 false (ps.map PaddedPart.line ++ rest) =
      ' ' :: spaced (ps.map (·.part)) t := by
  induction ps with
  | nil => exact hrest
  | cons p ps ih =>
    obtain ⟨⟨htrim, hopen, hclose⟩, hps⟩ := List.forall_mem_cons.1 h
    rw [List.map_cons, List.cons_append,
      declarationText_closed (by rwa [htrim]) (by rwa [htrim]), htrim, ih hps]
    rfl

/-- A head that is broken into lines: those before the last one, and the last one, which holds the
opening brace and any text after it. -/
structure BrokenHead where
  above : List PaddedPart
  indent : Text
  part : Text
  tail : Text

namespace BrokenHead

def lines (b : BrokenHead) : List Text :=
  b.above.map PaddedPart.line ++ [b.indent ++ b.part ++ b.tail]

/-- The parts in the lines are those of the text, which is broken at single spaces but not at the
one after `function`. -/
structure Breaks (b : BrokenHead) (t : Text) : Prop where
  joined : joinWith [' '] (b.above.map (·.part) ++ [b.part]) = t
  first : ∀ p ∈ (b.above.map (·.part) ++ [b.part]).head?, "function ".toList <+: p
  blank : ∀ p ∈ b.above, (∀ c ∈ p.indent, isBlank c) ∧ ∀ c ∈ p.trailing, isBlank c
  indent : ∀ c ∈ b.indent, isBlank c

variable {b : BrokenHead} {h : Heading}

theorem Breaks.spaced_eq {t : Text} (hb : b.Breaks t) : spaced (b.above.map (·.part)) b.part = t :=
  (joinWith_concat _ _).symm.trans hb.joined

/-- What stands on the lines of a broken head: the last part ends with the brace of the head, and no
other part holds one. -/
theorem Breaks.parts (hb : b.Breaks h.text) (hf : h.Fits) :
    (∀ p ∈ b.above, trim p.line = p.part ∧ '{' ∉ p.part ∧ '}' ∉ p.part) ∧
      ∃ rest, b.part = rest ++ ['{'] ∧ Stops isBlank b.part ∧
        headFront h.name h.params h.specs h.returns = spaced (b.above.map (·.part)) [] ++ rest := by
  have htidy : Tidy (spaced (b.above.map (·.part)) b.part) := hb.spaced_eq ▸ hf.tidy_text
  obtain ⟨htrim, hlast⟩ := htidy.of_spaced
  have hpart := (List.dropLast_concat_getLast hlast.ne_nil).symm
  generalize b.part.dropLast = rest, b.part.getLast hlast.ne_nil = c at hpart
  have htext := hb.spaced_eq
  rw [spaced_append, hpart, ← List.append_assoc, Heading.text, headLine,
    List.append_singleton_inj] at htext
  obtain ⟨hfront, rfl⟩ := htext
  refine ⟨fun p hp => ?_, rest, hpart, hlast.starts, hfront.symm⟩
  have hmem : p.part ∈ b.above.map (·.part) := List.mem_map_of_mem hp
  have hno : ∀ {c : Char}, c = '{' ∨ c = '}' → c ∉ p.part := by
    intro c hc hin
    apply hf.notMem_front hc
    rw [← hfront]
    exact List.mem_append_left _ (mem_spaced_of_mem hmem hin)
  refine ⟨?_, hno (.inl rfl), hno (.inr rfl)⟩
  rw [PaddedPart.line, trim_append_right _ (hb.blank p hp).2, trim_append_left _ (hb.blank p hp).1,
    htrim _ hmem]

theorem Breaks.trim_last (hb : b.Breaks h.text) (hf : h.Fits) :
    trim (b.indent ++ b.part ++ b.tail) = b.part ++ trimRight b.tail := by
  obtain ⟨-, rest, hpart, hstarts, -⟩ := hb.parts hf
  have hstops : Stops isBlank (b.part ++ b.tail) := (stops_append (by simp [hpart]) _).2 hstarts
  rw [List.append_assoc, trim_append_left _ hb.indent, trim_of_stops hstops, hpart,
    List.append_assoc, List.append_assoc]
  exact trimRight_append_cons b.tail rfl

/-- The lines of a broken head are joined to the head on one line. -/
theorem Breaks.declarationText (hb : b.Breaks h.text) (hf : h.Fits) (more : List Text) :
    declarationText 0 false (b.lines ++ more) =
      ' ' :: headLine h.name h.params h.specs h.returns (trimRight b.tail) := by
  obtain ⟨habove, rest, hpart, -, hfront⟩ := hb.parts hf
  have hlast : trim (b.indent ++ b.part ++ b.tail) = rest ++ '{' :: trimRight b.tail := by
    rw [hb.trim_last hf, hpart, List.append_assoc]
    rfl
  have hno : ∀ {c : Char}, c = '{' ∨ c = '}' → c ∉ rest := fun hc hin =>
    hf.notMem_front hc (hfront ▸ List.mem_append_right _ hin)
  have hopened := declarationText_opened hlast (hno (.inl rfl)) (hno (.inr rfl)) more
  rw [lines, List.append_assoc, List.singleton_append,
    declarationText_parts habove (hopened.trans (congrArg _ hlast)), spaced_append, headLine,
    hfront, List.append_assoc]

theorem Breaks.startsFunction (hb : b.Breaks h.text) (hf : h.Fits) :
    ∃ line more, b.lines = line :: more ∧ Source.startsFunction line = true := by
  obtain ⟨habove, -⟩ := hb.parts hf
  have hfirst := hb.first
  unfold lines Source.startsFunction
  cases hlines : b.above with
  | nil =>
    refine ⟨_, _, rfl, ?_⟩
    rw [hlines] at hfirst
    rw [hb.trim_last hf, startsWith_iff]
    exact (hfirst b.part rfl).trans (List.prefix_append _ _)
  | cons p ps =>
    refine ⟨_, _, rfl, ?_⟩
    rw [hlines] at habove hfirst
    rw [(habove p List.mem_cons_self).1, startsWith_iff]
    exact hfirst p.part rfl

end BrokenHead
end SolInterface.Function

namespace SolInterface.Source
open Text SolInterface.Function

theorem function?_brokenHead {h : Heading} {b : BrokenHead} (hb : b.Breaks h.text) (hf : h.Fits)
    (doc : Text) (n : Nat) (more : List Text) :
    function? doc n (b.lines ++ more) = some {
      name := h.name
      visibility := h.visibility
      mutability := h.mutability.getD .nonpayable
      parameters := trim h.params
      returns := trim (h.returns.getD [])
      signature := ' ' :: headLine h.name h.params h.specs h.returns (trimRight b.tail)
      doc
      line := n } := by
  rw [function?, hb.declarationText hf, firstMatch_cons (by rfl), firstMatch_of_some (hf.read? _)]
  rfl

/-- However a head with single spaces is broken into lines, the line on which it starts has one
record, and the record is that of the head on one line. -/
theorem record_of_broken_head {content : Text} {pre post : List Text} {h : Heading} {b : BrokenHead}
    (markers : List Text) (hcontract : (firstMatch Contract.head? content).isSome) (hf : h.Fits)
    (hb : b.Breaks h.text) (hlines : lines content = pre ++ b.lines ++ post) :
    ∃ s f, extract? content markers = some s ∧
      s.functions.filter (·.line == pre.length + 1) = [f] ∧ f.name = h.name ∧
      f.visibility = h.visibility ∧ f.mutability = h.mutability.getD .nonpayable ∧
      f.parameters = trim h.params ∧ f.returns = trim (h.returns.getD []) ∧
      f.signature = ' ' :: (h.text ++ trimRight b.tail) := by
  obtain ⟨s, hs, hfunctions⟩ := exists_extract? markers hcontract
  obtain ⟨line, more, hfirst, hstart⟩ := hb.startsFunction hf
  have hread := function?_brokenHead hb hf (Doc.above (lines content) markers (1 + pre.length))
    (1 + pre.length) post
  rw [hfirst, List.cons_append] at hread
  have hone := filter_line_functionsFrom hstart hread
  rw [← List.cons_append, ← hfirst, ← List.append_assoc, ← hlines, ← hfunctions,
    Nat.add_comm] at hone
  refine ⟨s, _, hs, hone, rfl, rfl, rfl, rfl, rfl, ?_⟩
  simp [Heading.text, headLine]

/-- A head on six lines, broken within its parameters and within the arguments of a modifier. -/
theorem record_of_head_on_six_lines :
    let h : Heading := {
      name := "mint"
      params := " address to, uint amount "
      visibility := .ext
      mutability := some .payable
      modifiers := ["only (MINTER, to)".toList, "viewed".toList]
      returns := some "uint id".toList }
    let b : BrokenHead := {
      above := [⟨"  ", "function mint(", " "⟩, ⟨"    ", "address to,", []⟩,
        ⟨"    ", "uint amount )", "\t"⟩, ⟨"\t", "external payable only (MINTER,", []⟩,
        ⟨[], "to) viewed", "  "⟩]
      indent := "  "
      part := "returns (uint id) \x7b"
      tail := " return \x7b\x7d; " }
    let t : Text := joinWith ['\n'] ("contract A \x7b".toList :: b.lines ++ ["\x7d".toList])
    h.Fits ∧ b.Breaks h.text ∧ ∃ s f, extract? t [] = some s ∧
      s.functions.filter (·.line == 2) = [f] ∧ f.name = "mint".toList ∧ f.visibility = .ext ∧
      f.mutability = .payable ∧ f.parameters = "address to, uint amount".toList ∧
      f.returns = "uint id".toList ∧
      f.signature = ' ' :: (h.text ++ " return \x7b\x7d;".toList) := by
  intro h b t
  have hfits : h.Fits := {
    isName := by decide
    params := ⟨by decide, by decide, by decide⟩
    mutability := by decide
    isModifier := by
      refine List.forall_mem_cons.2 ⟨?_, List.forall_mem_singleton.2 (.word (by decide))⟩
      exact @IsModifier.call "only" " " "MINTER, to" (by decide) (.inr rfl) (by decide)
    noReturns := by decide
    unmixed := by decide
    returns := by
      rintro types ⟨⟩
      exact ⟨by decide, by decide, by decide⟩
    spaces := by decide
    single := by decide }
  have hbreaks : b.Breaks h.text := {
    joined := by decide
    first := by decide
    blank := by decide
    indent := by decide }
  have hlines : lines t = ["contract A \x7b".toList] ++ b.lines ++ ["\x7d".toList] := by decide
  exact ⟨hfits, hbreaks, record_of_broken_head [] (by rfl) hfits hbreaks hlines⟩

end SolInterface.Source
