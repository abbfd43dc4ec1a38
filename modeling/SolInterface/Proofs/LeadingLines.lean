import Mathlib.Data.List.GetD
import SolInterface.SourceUnit
import SolInterface.Proofs.BuildDirective
import SolInterface.Proofs.DocCapture
import SolInterface.Proofs.Occurrences

/-!
Blank lines above a source. Every reader passes over them, and the search for documentation that
runs into them takes nothing from them. So the declarations, the directives and the warnings of the
source move down by the number of the lines, and the interface stays as it is.
-/
namespace SolInterface
open Text

theorem Text.lines_endedLines {ls : List Text} (h : ∀ line ∈ ls, '\n' ∉ line) (t : Text) :
    lines (ls.flatMap (· ++ ['\n']) ++ t) = ls ++ lines t := by
  unfold lines
  induction ls with
  | nil => rfl
  | cons line ls ih =>
    have hfeed : ∀ c ∈ line, (c == '\n') = false := fun c hc => by
      simpa using fun he : c = '\n' => h line List.mem_cons_self (he ▸ hc)
    rw [List.flatMap_cons, List.append_assoc, List.append_assoc, List.singleton_append,
      pieces_append_cons _ hfeed rfl, ih fun l hl => h l (List.mem_cons_of_mem _ hl)]
    rfl

theorem Text.trim_of_blank {line : Text} (h : ∀ c ∈ line, isBlank c = true) : trim line = [] := by
  have hnil := trim_append_left [] h
  rw [List.append_nil] at hnil
  exact hnil

structure Text.BlankLines where
  lines : List Text
  isBlank : ∀ line ∈ lines, ∀ c ∈ line, Text.isBlank c = true
  isLine : ∀ line ∈ lines, '\n' ∉ line

namespace Text.BlankLines

def length (b : BlankLines) : Nat := b.lines.length

def above (b : BlankLines) (t : Text) : Text := b.lines.flatMap (· ++ ['\n']) ++ t

variable (b : BlankLines) (t : Text)

theorem isBlank_of_mem {c : Char} (h : c ∈ b.lines.flatMap (· ++ ['\n'])) :
    Text.isBlank c = true := by
  obtain ⟨line, hline, hc⟩ := List.mem_flatMap.1 h
  rcases List.mem_append.1 hc with hc | hc
  · exact b.isBlank line hline c hc
  · rw [List.mem_singleton.1 hc]
    decide

theorem lines_above : Text.lines (b.above t) = b.lines ++ Text.lines t :=
  lines_endedLines b.isLine t

theorem getD_append (ls : List Text) {n : Nat} (h : 1 ≤ n) :
    (b.lines ++ ls).getD (n + b.length - 1) [] = ls.getD (n - 1) [] := by
  unfold length
  rw [List.getD_append_right _ _ _ _ (by omega)]
  congr 1
  omega

theorem firstMatch_above {α : Type} {read : Text → Option α}
    (h : ∀ c, Text.isBlank c = true → ∀ r, read (c :: r) = none) :
    firstMatch read (b.above t) = firstMatch read t :=
  firstMatch_append t fun c hc r => h c (b.isBlank_of_mem hc) r

theorem occursIn_above {c : Char} {part : Text} (hc : Text.isBlank c = false) :
    occursIn (c :: part) (b.above t) = occursIn (c :: part) t := by
  have hpass : ∀ u : Text, (∀ d ∈ u, Text.isBlank d = true) →
      occursIn (c :: part) (u ++ t) = occursIn (c :: part) t := by
    intro u hu
    induction u with
    | nil => rfl
    | cons d u ih =>
      have hne : (c == d) = false := by
        refine beq_false_of_ne fun he => ?_
        rw [he, hu d List.mem_cons_self] at hc
        cases hc
      rw [List.cons_append, occursIn, List.isPrefixOf, hne, Bool.false_and, Bool.false_or]
      exact ih fun e he => hu e (List.mem_cons_of_mem _ he)
  exact hpass _ fun d => b.isBlank_of_mem

end Text.BlankLines

/-! Finds. -/

namespace Text
variable {α : Type} {read : Bool → Text → Option (α × Text)}

def Occurrence.shift (k : Nat) (o : Occurrence α) : Occurrence α := { o with line := o.line + k }

theorem occurrencesFrom_shift (k skip : Nat) (inWord : Bool) (n : Nat) (t : Text) :
    occurrencesFrom read skip inWord (n + k) t =
      (occurrencesFrom read skip inWord n t).map (Occurrence.shift k) := by
  induction t generalizing skip inWord n with
  | nil => cases skip <;> rfl
  | cons c t ih =>
    have hnext : (if c = '\n' then n + k + 1 else n + k) = (if c = '\n' then n + 1 else n) + k := by
      split <;> omega
    cases skip with
    | succ skip => rw [occurrencesFrom, occurrencesFrom, hnext, ih]
    | zero =>
      rw [occurrencesFrom, occurrencesFrom, hnext]
      cases read inWord (c :: t) with
      | none => exact ih ..
      | some found =>
        dsimp only
        rw [ih, List.map_cons]
        rfl

theorem WordLed.occurrencesFrom_blank {key : Text} {ends : Char → Bool}
    (h : WordLed read key ends) {u : Text} (hu : ∀ c ∈ u, isBlank c = true) (n : Nat) (t : Text) :
    occurrencesFrom read 0 false n (u ++ t) =
      occurrencesFrom read 0 false (n + u.count '\n') t := by
  induction u generalizing n with
  | nil => rfl
  | cons c u ih =>
    have hc : isWord c = false := isWord_of_isBlank (hu c List.mem_cons_self)
    rw [List.cons_append, occurrencesFrom_none (h.stops (stops_cons.2 hc)), hc,
      ih fun d hd => hu d (List.mem_cons_of_mem _ hd), line_count_cons]

theorem BlankLines.occurrences_above {key : Text} {ends : Char → Bool}
    (h : WordLed read key ends) (b : BlankLines) (t : Text) :
    occurrences read (b.above t) = (occurrences read t).map (Occurrence.shift b.length) := by
  rw [occurrences, above, h.occurrencesFrom_blank fun c => b.isBlank_of_mem,
    count_endedLines b.isLine]
  exact occurrencesFrom_shift ..

end Text

/-! Documentation. -/

namespace Doc

/-- Blank lines add nothing, or the empty lines of an open block. -/
theorem collect_blank (markers : List Text) (inBlock : Bool) {ls : List Text}
    (h : ∀ line ∈ ls, ∀ c ∈ line, isBlank c = true) :
    ∀ line ∈ collect markers inBlock ls, line = [] := by
  induction ls with
  | nil => simp [collect]
  | cons raw ls ih =>
    have hrest := ih fun l hl => h l (List.mem_cons_of_mem _ hl)
    rw [collect_cons_blank (trim_of_blank (h raw List.mem_cons_self)), List.forall_mem_append]
    refine ⟨?_, hrest⟩
    split <;> simp

/-- Blank lines above all others are read last, and only as empty lines. -/
theorem collect_append_blank (markers : List Text) (inBlock : Bool) (ls more : List Text)
    (h : ∀ line ∈ more, ∀ c ∈ line, isBlank c = true) :
    ∃ extra, collect markers inBlock (ls ++ more) = collect markers inBlock ls ++ extra ∧
      ∀ line ∈ extra, line = [] := by
  refine ⟨_, collect_append markers inBlock ls more, ?_⟩
  cases modeAfter? markers inBlock ls with
  | none => simp
  | some mode => exact collect_blank markers mode h

/-- The documentation of a line is the same with blank lines above the first line. -/
theorem above_blank (b : BlankLines) (ls markers : List Text) {n : Nat} (h : 1 ≤ n) :
    above (b.lines ++ ls) markers (n + b.length) = above ls markers n := by
  have htake : (b.lines ++ ls).take (n + b.length - 1) = b.lines ++ ls.take (n - 1) := by
    rw [show n + b.length - 1 = b.lines.length + (n - 1) by unfold BlankLines.length; omega,
      List.take_length_add_append]
  obtain ⟨extra, hextra, hempty⟩ := collect_append_blank markers false (ls.take (n - 1)).reverse
    b.lines.reverse fun line hline => b.isBlank line (List.mem_reverse.1 hline)
  rw [above, above, htake, List.reverse_append, hextra, List.reverse_append]
  exact trim_unlines_append fun line hline => hempty line (List.mem_reverse.1 hline)

end Doc

/-! Declarations. -/

/-- The record of a contract further down; line 0 is no line. -/
def Contract.shift (k : Nat) (c : Contract) : Contract :=
  { c with line := if c.line = 0 then 0 else c.line + k }

def Function.shift (k : Nat) (f : Function) : Function := { f with line := f.line + k }

def Notice.shift (k : Nat) (n : Notice) : Notice := { n with line := n.line + k }

def Variable.shift (k : Nat) (v : Variable) : Variable := { v with line := v.line + k }

namespace Source

def shift (k : Nat) (s : Source) : Source where
  contract := s.contract.shift k
  functions := s.functions.map (Function.shift k)
  events := s.events.map (Notice.shift k)
  errors := s.errors.map (Notice.shift k)
  stateVariables := s.stateVariables.map (Variable.shift k)
  skipped := s.skipped.map (· + k)

variable (b : BlankLines) (t : Text) (markers : List Text)

theorem lineOf_above (name : Text) (ls : List Text) :
    Contract.lineOf name (b.lines ++ ls) =
      if Contract.lineOf name ls = 0 then 0 else Contract.lineOf name ls + b.length := by
  have hnone : b.lines.findIdx? (fun line => occursIn ("contract " ++ name) line) = none := by
    refine List.findIdx?_eq_none_iff.2 fun line hline => ?_
    refine occursIn_eq_false (c := 'c') (by simp) fun hc => ?_
    exact absurd (b.isBlank line hline 'c' hc) (by decide)
  rw [Contract.lineOf, Contract.lineOf, List.findIdx?_append, hnone, Option.none_or]
  cases ls.findIdx? fun line => occursIn ("contract " ++ name) line with
  | none => rfl
  | some i =>
    dsimp only [Option.map_some]
    rw [if_neg (Nat.succ_ne_zero i), BlankLines.length]
    omega

theorem contract?_above :
    contract? (b.above t) markers = (contract? t markers).map (Contract.shift b.length) := by
  have hhead : ∀ c, isBlank c = true → ∀ r, Contract.head? (c :: r) = none := by
    intro c hc r
    have hafter : after? "contract" (c :: r) = none :=
      after?_eq_none_of_stops (by decide) (stops_cons.2 (isWord_of_isBlank hc))
    rw [Contract.head?, hafter]
    rfl
  rw [contract?, contract?, b.firstMatch_above t hhead, b.lines_above]
  cases firstMatch Contract.head? t with
  | none => rfl
  | some found =>
    simp only [Option.bind_eq_bind, Option.bind_some, Option.map_some, Contract.shift, lineOf_above]
    -- a contract that no line names has no documentation, with or without the blank lines
    by_cases hline : Contract.lineOf found.1 (lines t) = 0
    · simp only [hline, if_true]
    · have hdoc := Doc.above_blank b (lines t) markers (Nat.one_le_iff_ne_zero.2 hline)
      have hmoved : Contract.lineOf found.1 (lines t) + b.length ≠ 0 := by omega
      simp only [hline, hmoved, if_false, hdoc]

/-- A find of a function, or the line where none could be read, further down. -/
def shiftFound (k : Nat) : Except Nat Function → Except Nat Function
  | .ok f => .ok (f.shift k)
  | .error n => .error (n + k)

theorem function?_shift (k : Nat) (doc : Text) (n : Nat) (rest : List Text) :
    function? doc (n + k) rest = (function? doc n rest).map (Function.shift k) := by
  rw [function?, function?]
  cases firstMatch Function.Head.read? (Function.declarationText 0 false rest) <;> rfl

theorem functionsFrom_shift {docAt docAt' : Nat → Text} {k n : Nat}
    (hdoc : ∀ m, n ≤ m → docAt' (m + k) = docAt m) (ls : List Text) :
    functionsFrom docAt' (n + k) ls = (functionsFrom docAt n ls).map (shiftFound k) := by
  induction ls generalizing n with
  | nil => rfl
  | cons line more ih =>
    have hlater := @ih (n + 1) fun m hm => hdoc m (Nat.le_of_succ_le hm)
    rw [Nat.add_right_comm] at hlater
    rw [functionsFrom, functionsFrom, hlater, hdoc n (Nat.le_refl n), function?_shift]
    cases startsFunction line with
    | false => rfl
    | true => cases function? (docAt n) n (line :: more) <;> rfl

theorem functionsFrom_blank (docAt : Nat → Text) (n : Nat) {blank : List Text}
    (h : ∀ line ∈ blank, ∀ c ∈ line, isBlank c = true) (ls : List Text) :
    functionsFrom docAt n (blank ++ ls) = functionsFrom docAt (n + blank.length) ls := by
  induction blank generalizing n with
  | nil => rfl
  | cons line blank ih =>
    have hline : startsFunction line = false := by
      rw [startsFunction, trim_of_blank (h line List.mem_cons_self)]
      rfl
    rw [List.cons_append, functionsFrom, hline, if_neg Bool.false_ne_true,
      ih (n + 1) fun l hl => h l (List.mem_cons_of_mem _ hl), List.length_cons]
    congr 1
    omega

theorem functionsFrom_above :
    functionsFrom (Doc.above (lines (b.above t)) markers) 1 (lines (b.above t)) =
      (functionsFrom (Doc.above (lines t) markers) 1 (lines t)).map (shiftFound b.length) := by
  rw [b.lines_above, functionsFrom_blank _ _ b.isBlank]
  exact functionsFrom_shift (fun m hm => Doc.above_blank b _ markers hm) _

theorem notices_above {keyword : Text} (hk : IsName keyword) :
    notices keyword (b.above t) (Doc.above (lines (b.above t)) markers) =
      (notices keyword t (Doc.above (lines t) markers)).map (Notice.shift b.length) := by
  rw [notices, notices, b.occurrences_above (Notice.wordLed hk), List.map_map, List.map_map,
    b.lines_above]
  refine List.map_congr_left fun o ho => ?_
  have hdoc := Doc.above_blank b (lines t) markers (line_of_mem_occurrencesFrom ho).1
  simp only [Function.comp_apply, Occurrence.shift, Notice.shift, hdoc]

theorem variablesOf_above :
    variablesOf (b.above t) (Doc.above (lines (b.above t)) markers) =
      (variablesOf t (Doc.above (lines t) markers)).map (Variable.shift b.length) := by
  rw [variablesOf, variablesOf, b.occurrences_above Variable.Parts.wordLed, List.filter_map,
    List.map_map, List.map_map, b.lines_above]
  have hkept : (occurrences Variable.Parts.read? t).filter
      ((fun found => Variable.standsAlone found.value.type
        ((b.lines ++ lines t).getD (found.line - 1) [])) ∘ Occurrence.shift b.length) =
      (occurrences Variable.Parts.read? t).filter fun found =>
        Variable.standsAlone found.value.type ((lines t).getD (found.line - 1) []) := by
    refine List.filter_congr fun o ho => ?_
    have hline := b.getD_append (lines t) (line_of_mem_occurrencesFrom ho).1
    exact congrArg (Variable.standsAlone o.value.type) hline
  rw [hkept]
  refine List.map_congr_left fun o ho => ?_
  have hmem := List.mem_of_mem_filter ho
  have hdoc := Doc.above_blank b (lines t) markers (line_of_mem_occurrencesFrom hmem).1
  simp only [Function.comp_apply, Occurrence.shift, Variable.shift, hdoc]

theorem extract?_above :
    extract? (b.above t) markers = (extract? t markers).map (shift b.length) := by
  rw [extract?, extract?, contract?_above]
  cases contract? t markers with
  | none => rfl
  | some c =>
    have hevents := @notices_above b t markers "event" (by decide)
    have herrors := @notices_above b t markers "error" (by decide)
    simp only [Option.bind_eq_bind, Option.map_some, Option.bind_some, functionsFrom_above,
      variablesOf_above, hevents, herrors, shift, List.filterMap_map, List.map_filterMap,
      Option.some.injEq, Source.mk.injEq, true_and]
    constructor <;> exact List.filterMap_congr fun found _ => by cases found <;> rfl

end Source

/-- An interface says nothing about lines. -/
theorem Interface.assemble_shift (header : Header) (r : Recipe) (k : Nat) (s : Source) :
    assemble header r (s.shift k) = assemble header r s := by
  unfold assemble getters
  simp only [Source.shift, List.filter_map, List.map_map, List.filterMap_map]
  rfl

/-! Directives. -/

def Directive.shift (k : Nat) (d : Directive) : Directive := { d with line := d.line + k }

namespace Dialect

def IsSolid (d : Dialect) : Prop := ∃ c ∈ d.marker, isBlank c = false

theorem IsSolid.parseLine_blank {d : Dialect} (h : d.IsSolid) {line : Text}
    (hblank : ∀ c ∈ line, isBlank c = true) : d.parseLine line = none := by
  obtain ⟨c, hc, hsolid⟩ := h
  have hnone : firstMatch (fun t => (after? d.marker t).bind lineTail?) line = none := by
    refine Option.eq_none_iff_forall_ne_some.2 fun found hfound => ?_
    obtain ⟨before, rest, rfl, hread, -⟩ := firstMatch_eq_some_iff.1 hfound
    obtain ⟨tail, hafter, -⟩ := Option.bind_eq_some_iff.1 hread
    rw [after?_eq_some.1 hafter] at hblank
    have hc' := hblank c (List.mem_append_right _ (List.mem_append_left _ hc))
    rw [hsolid] at hc'
    cases hc'
  rw [parseLine, content?, hnone]
  rfl

theorem directivesFrom_shift (d : Dialect) (k n : Nat) (ls : List Text) :
    d.directivesFrom (n + k) ls = (d.directivesFrom n ls).map (Directive.shift k) := by
  induction ls generalizing n with
  | nil => rfl
  | cons line ls ih =>
    have hlater := ih (n + 1)
    rw [Nat.add_right_comm] at hlater
    rw [directivesFrom, directivesFrom, hlater]
    cases d.parseLine line <;> rfl

theorem IsSolid.directivesFrom_blank {d : Dialect} (h : d.IsSolid) (n : Nat) {blank : List Text}
    (hblank : ∀ line ∈ blank, ∀ c ∈ line, isBlank c = true) (ls : List Text) :
    d.directivesFrom n (blank ++ ls) = d.directivesFrom (n + blank.length) ls := by
  induction blank generalizing n with
  | nil => rfl
  | cons line blank ih =>
    rw [List.cons_append, directivesFrom, h.parseLine_blank (hblank line List.mem_cons_self)]
    dsimp only
    rw [ih (n + 1) fun l hl => hblank l (List.mem_cons_of_mem _ hl), List.length_cons]
    congr 1
    omega

theorem IsSolid.directives_above {d : Dialect} (h : d.IsSolid) (b : BlankLines) (t : Text) :
    d.directives (lines (b.above t)) =
      (d.directives (lines t)).map (Directive.shift b.length) := by
  rw [directives, directives, b.lines_above, h.directivesFrom_blank 1 b.isBlank]
  exact directivesFrom_shift ..

end Dialect

/-- The dialect that a text calls for does not depend on blank lines. -/
theorem Registry.detect_above (b : BlankLines) (t fallback : Text) :
    standard.detect (b.above t) fallback = standard.detect t fallback := by
  have hcustom : occursIn Dialect.custom.marker (b.above t) = occursIn Dialect.custom.marker t :=
    b.occursIn_above t (by decide)
  have hlegacy : occursIn Dialect.legacy.marker (b.above t) = occursIn Dialect.legacy.marker t :=
    b.occursIn_above t (by decide)
  simp only [detect, standard, List.find?_cons, List.find?_nil, hcustom, hlegacy]

theorem Registry.isSolid_of_mem {d : Dialect} (h : d ∈ standard.dialects) : d.IsSolid := by
  rcases List.mem_cons.1 h with rfl | h
  · exact ⟨'/', by decide, by decide⟩
  · cases List.mem_singleton.1 h
    exact ⟨'/', by decide, by decide⟩

/-! Units. -/

def Warning.shift (k : Nat) : Warning → Warning
  | unrecognisedDirective line content => unrecognisedDirective (line + k) content
  | skippedFunction line => skippedFunction (line + k)

theorem Warning.shift_injective (k : Nat) : (Warning.shift k).Injective := by
  intro w w' h
  cases w <;> cases w' <;> simp_all [shift]

/-- The dialect that is asked for, if it is given, has a marker that is not made of blanks alone. -/
def DialectChoice.IsSolid (choice : DialectChoice) : Prop := ∀ d, choice = .given d → d.IsSolid

namespace SourceUnit

def below (b : BlankLines) (u : SourceUnit) : SourceUnit :=
  { u with
    content := b.above u.content
    directives := u.directives.map (Directive.shift b.length)
    warnings := u.warnings.map (Warning.shift b.length) }

variable (b : BlankLines)

theorem directivesOf_above {o : Options} (h : o.choice.IsSolid) (content : Text) :
    directivesOf o (b.above content) =
      (directivesOf o content).map fun found =>
        (found.1, found.2.map (Directive.shift b.length)) := by
  have hresolve : o.choice.resolve .standard (b.above content) =
      o.choice.resolve .standard content := by
    cases o.choice with
    | named name => simp only [DialectChoice.resolve, Registry.resolve, Registry.detect_above]
    | given d => rfl
  rw [directivesOf, directivesOf, hresolve]
  cases hd : o.choice.resolve .standard content with
  | error e => rfl
  | ok d =>
    have hsolid : d.IsSolid := by
      cases hchoice : o.choice with
      | named name =>
        rw [hchoice] at hd
        exact Registry.isSolid_of_mem (Registry.mem_of_resolve hd)
      | given given =>
        rw [hchoice] at hd
        cases hd
        exact h d hchoice
    simp only [hsolid.directives_above]
    rfl

theorem filterMap_directiveWarning?_shift (k : Nat) (ds : List Directive) :
    (ds.map (Directive.shift k)).filterMap directiveWarning? =
      (ds.filterMap directiveWarning?).map (Warning.shift k) := by
  rw [List.filterMap_map, List.map_filterMap]
  refine List.filterMap_congr fun d _ => ?_
  obtain ⟨request, line⟩ := d
  cases request <;> rfl

theorem warningsOf_above {o : Options} (h : o.choice.IsSolid) (content : Text) :
    warningsOf o (b.above content) =
      (warningsOf o content).map (Warning.shift b.length) := by
  rw [warningsOf, warningsOf, directivesOf_above b h]
  cases directivesOf o content with
  | error e => rfl
  | ok found =>
    dsimp only [Except.map]
    rw [← filterMap_directiveWarning?_shift, defined, defined, List.takeWhile_map]
    rfl

theorem ofText_above {o : Options} (h : o.choice.IsSolid) (path : Path) (content : Text) :
    ofText path (b.above content) o = (ofText path content o).map (below b) := by
  rw [ofText, ofText, directivesOf_above b h]
  cases directivesOf o content with
  | error e => rfl
  | ok found =>
    have hundefined : firstUndefined? (found.2.map (Directive.shift b.length)) =
        firstUndefined? found.2 := List.findSome?_map
    have hrecipe : Recipe.ofDirectives (found.2.map (Directive.shift b.length)) =
        Recipe.ofDirectives found.2 := congrArg Recipe.ofRequests (List.map_map ..)
    dsimp only [Except.map]
    rw [hundefined, hrecipe, filterMap_directiveWarning?_shift]
    cases firstUndefined? found.2 <;> rfl

theorem withWarning_shift (k : Nat) (warnings : List Warning) (w : Warning) :
    withWarning (warnings.map (Warning.shift k)) (w.shift k) =
      (withWarning warnings w).map (Warning.shift k) := by
  have hknown : (warnings.map (Warning.shift k)).contains (w.shift k) = warnings.contains w := by
    rw [List.contains_eq_mem, List.contains_eq_mem]
    exact decide_eq_decide.2 (List.mem_map_of_injective (Warning.shift_injective k))
  unfold withWarning
  rw [hknown]
  split
  · rfl
  · simp

theorem foldl_withWarning_shift (k : Nat) (warnings new : List Warning) :
    (new.map (Warning.shift k)).foldl withWarning (warnings.map (Warning.shift k)) =
      (new.foldl withWarning warnings).map (Warning.shift k) := by
  induction new generalizing warnings with
  | nil => rfl
  | cons w new ih => rw [List.map_cons, List.foldl_cons, withWarning_shift, ih, List.foldl_cons]

theorem noting_below (u : SourceUnit) (s : Source) :
    (u.below b).noting (s.shift b.length) = (u.noting s).below b := by
  have hskipped : (s.skipped.map (· + b.length)).map Warning.skippedFunction =
      (s.skipped.map Warning.skippedFunction).map (Warning.shift b.length) := by
    rw [List.map_map, List.map_map]
    rfl
  unfold noting below
  simp only [Source.shift, hskipped, foldl_withWarning_shift]

theorem interface_below (u : SourceUnit) :
    (u.below b).interface = u.interface.map fun found => (found.1.shift b.length, found.2) := by
  have hpath : (u.below b).requiredBuildPath = u.requiredBuildPath := rfl
  have hsource : (u.below b).source = u.source.map (Source.shift b.length) := by
    have hextract := Source.extract?_above b u.content [u.dialect.marker]
    unfold source below
    simp only [hextract]
    cases Source.extract? u.content [u.dialect.marker] <;> rfl
  rw [interface, interface, hpath, hsource]
  cases u.requiredBuildPath with
  | error e => rfl
  | ok path =>
    cases u.source with
    | error e => rfl
    | ok s =>
      have htext := Interface.assemble_shift u.header u.recipe b.length s
      exact congrArg (fun text => Except.ok (s.shift b.length, text)) htext

theorem generate_below (u : SourceUnit) :
    (u.below b).generate = (u.generate.1, u.generate.2.below b) := by
  rw [generate, generate, interface_below]
  cases u.interface with
  | error failure => rfl
  | ok found => exact congrArg (Prod.mk _) (noting_below b u found.1)

/-- Blank lines above a source, as many as they are. The same dialect is chosen. The declarations
are found or missed alike, and they, the directives and the warnings stand that many lines further
down with the same documentation. The interface, or the failure, is the same. -/
theorem ofText_and_generate_above (content : Text) :
    (∀ markers, Source.extract? (b.above content) markers =
      (Source.extract? content markers).map (Source.shift b.length)) ∧
    (∀ fallback, Registry.standard.detect (b.above content) fallback =
      Registry.standard.detect content fallback) ∧
    ∀ o : Options, o.choice.IsSolid → ∀ path,
      directivesOf o (b.above content) = (directivesOf o content).map (fun found =>
        (found.1, found.2.map (Directive.shift b.length))) ∧
      warningsOf o (b.above content) = (warningsOf o content).map (Warning.shift b.length) ∧
      (∀ failure, ofText path content o = .error failure →
        ofText path (b.above content) o = .error failure) ∧
      ∀ u, ofText path content o = .ok u →
        ofText path (b.above content) o = .ok (u.below b) ∧
        (u.below b).generate.1 = u.generate.1 ∧
        (u.below b).generate.2 = u.generate.2.below b := by
  refine ⟨Source.extract?_above b content, Registry.detect_above b content, fun o h path =>
    ⟨directivesOf_above b h content, warningsOf_above b h content, ?_, ?_⟩⟩
  · intro failure hfailure
    rw [ofText_above b h, hfailure]
    rfl
  · intro u hu
    rw [ofText_above b h, hu, generate_below]
    exact ⟨rfl, rfl, rfl⟩

/-- A source that starts inside a block of documentation, with a directive that is not recognised
and a function that cannot be read. -/
def openBlockSource : Text :=
  unlines [" * @notice Holds it.", " */", "/// !interface build ./IVault.sol",
    "/// !interface lend", "contract Vault \x7b", "  function pay() external \x7b", "  \x7d",
    "  function gone", "\x7d"]

def openBlockInterface : Text :=
  unlines ["// SPDX-License-Identifier: MIT", "pragma solidity ^0.8.20;", "", "* @notice Holds it.",
    "*/", "interface IVault \x7b", "", "    function pay() external;", "\x7d", ""]

def shown (u : SourceUnit) : List Nat × Except Failure Text × List Warning :=
  (u.directives.map (·.line), u.generate.1, u.generate.2.warnings)

def legacyOptions : Options := { dialect := some (.given .legacy) }

theorem shown_openBlock :
    (ofText ⟨.relative, ["Vault.sol"]⟩ openBlockSource legacyOptions).map shown =
      .ok ([3, 4], .ok openBlockInterface,
        [.unrecognisedDirective 4 "lend", .skippedFunction 8]) := by
  decide +kernel

def twoBlankLines : BlankLines := ⟨[" \t".toList, []], by decide, by decide⟩

/-- Two lines down, where the search for documentation runs into the blank lines. -/
theorem ofText_and_generate_above_openBlock :
    legacyOptions.choice.IsSolid ∧
    (ofText ⟨.relative, ["Vault.sol"]⟩ (twoBlankLines.above openBlockSource) legacyOptions).map
        shown =
      .ok ([5, 6], .ok openBlockInterface,
        [.unrecognisedDirective 6 "lend", .skippedFunction 10]) := by
  have hsolid : legacyOptions.choice.IsSolid := by
    intro d hd
    cases hd
    exact ⟨'/', by decide, by decide⟩
  obtain ⟨-, -, -, hunit⟩ := (ofText_and_generate_above twoBlankLines openBlockSource).2.2
    legacyOptions hsolid ⟨.relative, ["Vault.sol"]⟩
  have hruns := shown_openBlock
  cases hu : ofText ⟨.relative, ["Vault.sol"]⟩ openBlockSource legacyOptions with
  | error failure =>
    rw [hu] at hruns
    cases hruns
  | ok u =>
    obtain ⟨hbelow, htext, hwarnings⟩ := hunit u hu
    rw [hu] at hruns
    obtain ⟨hlines, hgenerate, hnoted⟩ : u.directives.map (·.line) = [3, 4] ∧
        u.generate.1 = .ok openBlockInterface ∧
        u.generate.2.warnings = [.unrecognisedDirective 4 "lend", .skippedFunction 8] := by
      simpa only [shown, Except.map, Except.ok.injEq, Prod.mk.injEq] using hruns
    refine ⟨hsolid, ?_⟩
    rw [hbelow]
    refine congrArg Except.ok (Prod.ext ?_ (Prod.ext (htext.trans hgenerate) ?_))
    · have hmoved : (u.below twoBlankLines).directives.map (·.line) =
          (u.directives.map (·.line)).map (· + 2) := by
        rw [below, List.map_map, List.map_map]
        rfl
      exact hmoved.trans (by rw [hlines]; rfl)
    · change (u.below twoBlankLines).generate.2.warnings = _
      rw [hwarnings, below, hnoted]
      rfl

end SourceUnit
end SolInterface
