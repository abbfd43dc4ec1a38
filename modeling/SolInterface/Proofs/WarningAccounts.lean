import Mathlib.Data.List.Nodup
import SolInterface.Proofs.FunctionLines
import SolInterface.Proofs.Generation

/-!
The warnings of a unit over the calls that are made of it. A call that succeeds notes the lines whose
function could not be read, unless they are noted already; a call that fails leaves the unit as it
was. Main statement: once a call has succeeded the warnings are those of the directives and one for
each line that starts a function without a record, and they stay so.
-/
namespace SolInterface
open Text

/-! Warnings as they are worded. -/

namespace Warning

def line : Warning → Nat
  | unrecognisedDirective line _ => line
  | skippedFunction line => line

def remark : Warning → Text
  | unrecognisedDirective _ content => ": unrecognised directive '".toList ++ (content ++ "'".toList)
  | skippedFunction _ => ": function header not recognised, skipped".toList

def skippedLine? : Warning → Option Nat
  | unrecognisedDirective _ _ => none
  | skippedFunction line => some line

theorem message_eq (w : Warning) :
    w.message = "line ".toList ++ (Text.ofNat w.line ++ w.remark) := by
  cases w with
  | unrecognisedDirective n content => rfl
  | skippedFunction n =>
    have hmessage : message (skippedFunction n) =
        "line ".toList ++ (Text.ofNat n ++ (remark (skippedFunction n) ++ [])) := rfl
    rw [hmessage, List.append_nil]
    rfl

theorem exists_remark (w : Warning) : ∃ said, w.remark = ':' :: said := by
  cases w <;> exact ⟨_, rfl⟩

theorem line_and_remark_of_message {v w : Warning} (h : v.message = w.message) :
    v.line = w.line ∧ v.remark = w.remark := by
  rw [message_eq, message_eq, List.append_cancel_left_eq] at h
  obtain ⟨said, hsaid⟩ := v.exists_remark
  obtain ⟨said', hsaid'⟩ := w.exists_remark
  have hline : v.line = w.line := by
    have htake := congrArg (List.takeWhile (· != ':')) h
    rw [hsaid, hsaid', takeWhile_ne (notMem_ofNat (by decide) _),
      takeWhile_ne (notMem_ofNat (by decide) _)] at htake
    exact ofNat_injective htake
  rw [hline, List.append_cancel_left_eq] at h
  exact ⟨hline, h⟩

/-- Warnings that differ are worded differently. -/
theorem message_injective : Function.Injective message := by
  intro v w h
  obtain ⟨hline, hremark⟩ := line_and_remark_of_message h
  cases v with
  | unrecognisedDirective n content =>
    cases w with
    | unrecognisedDirective n' content' =>
      have hcontent : content ++ "'".toList = content' ++ "'".toList := List.append_cancel_left hremark
      obtain rfl : n = n' := hline
      rw [List.append_cancel_right hcontent]
    | skippedFunction n' =>
      have hletter : some 'u' = some 'f' := congrArg (fun t : Text => (t.drop 2).head?) hremark
      cases hletter
  | skippedFunction n =>
    cases w with
    | unrecognisedDirective n' content' =>
      have hletter : some 'f' = some 'u' := congrArg (fun t : Text => (t.drop 2).head?) hremark
      cases hletter
    | skippedFunction n' => exact congrArg skippedFunction hline

end Warning

/-- No two lines have one number. -/
theorem nodup_numbers (n : Nat) (ls : List Text) : ((ls.zipIdx n).map (·.2)).Nodup := by
  rw [List.zipIdx_map_snd]
  exact List.nodup_range'

/-! Lines that start a function. -/

namespace Source

def functionLinesFrom (n : Nat) (ls : List Text) : List Nat :=
  ((ls.zipIdx n).filter fun entry => startsFunction entry.1).map (·.2)

def functionLines (content : Text) : List Nat := functionLinesFrom 1 (lines content)

def hasRecord (s : Source) (n : Nat) : Bool := s.functions.any (·.line == n)

/-- The line of a record, or the one for which there is none. -/
def foundLine : Except Nat Function → Nat
  | .ok f => f.line
  | .error n => n

def missedLine? : Except Nat Function → Option Nat
  | .error n => some n
  | .ok _ => none

theorem nodup_functionLinesFrom (n : Nat) (ls : List Text) : (functionLinesFrom n ls).Nodup :=
  (nodup_numbers n ls).sublist (List.filter_sublist.map _)

/-- The scan meets each line that starts a function once, in order. -/
theorem map_foundLine_functionsFrom (docAt : Nat → Text) (n : Nat) (ls : List Text) :
    (functionsFrom docAt n ls).map foundLine = functionLinesFrom n ls := by
  induction ls generalizing n with
  | nil => rfl
  | cons line more ih =>
    rw [functionLinesFrom, List.zipIdx_cons, functionsFrom]
    cases hstarts : startsFunction line with
    | false =>
      rw [List.filter_cons_of_neg (by simp [hstarts]), if_neg (by simp)]
      exact ih (n + 1)
    | true =>
      rw [List.filter_cons_of_pos (by simp [hstarts]), if_pos rfl, List.map_cons, List.map_cons]
      refine List.cons_eq_cons.2 ⟨?_, ih (n + 1)⟩
      cases hread : function? (docAt n) n (line :: more) with
      | none => rfl
      | some f => exact function?_line hread

theorem filterMap_toOption_eq (found : List (Except Nat Function)) :
    (found.filterMap Except.toOption).map (·.line) = (found.filter Except.isOk).map foundLine := by
  induction found with
  | nil => rfl
  | cons e found ih =>
    cases e with
    | ok f => exact congrArg (f.line :: ·) ih
    | error n => exact ih

theorem filterMap_missedLine?_eq (found : List (Except Nat Function)) :
    found.filterMap missedLine? = (found.filter fun e => !e.isOk).map foundLine := by
  induction found with
  | nil => rfl
  | cons e found ih =>
    cases e with
    | ok f => exact ih
    | error n => exact congrArg (n :: ·) ih

/-- Where no line is met twice, the line of an entry has a record exactly if the entry is one. -/
theorem any_line_eq_isOk {found : List (Except Nat Function)} (hnodup : (found.map foundLine).Nodup)
    {e : Except Nat Function} (he : e ∈ found) :
    (found.filterMap Except.toOption).any (·.line == foundLine e) = e.isOk := by
  cases e with
  | ok f => exact List.any_eq_true.2 ⟨f, mem_filterMap_toOption.2 he, beq_self_eq_true _⟩
  | error n =>
    refine List.any_eq_false.2 fun f hf hline => ?_
    have hsame : foundLine (.ok f) = foundLine (.error n) := beq_iff_eq.1 hline
    cases List.inj_on_of_nodup_map hnodup (mem_filterMap_toOption.1 hf) he hsame

/-- The lines that start a function are cut into those with a record and those that are skipped. -/
theorem lines_of_extract? {content : Text} {markers : List Text} {s : Source}
    (h : extract? content markers = some s) :
    s.functions.map (·.line) = (functionLines content).filter s.hasRecord ∧
      s.skipped = (functionLines content).filter fun n => !s.hasRecord n := by
  simp only [extract?, Option.bind_eq_bind, Option.bind_eq_some_iff] at h
  obtain ⟨c, -, hs⟩ := h
  have hlines := map_foundLine_functionsFrom (Doc.above (lines content) markers) 1 (lines content)
  set found := functionsFrom (Doc.above (lines content) markers) 1 (lines content)
  have hfunctions : s.functions = found.filterMap Except.toOption := by cases hs; rfl
  have hskipped : s.skipped = found.filterMap missedLine? := by cases hs; rfl
  have hnodup : (found.map foundLine).Nodup := hlines ▸ nodup_functionLinesFrom 1 (lines content)
  have hrecord : ∀ e ∈ found, s.hasRecord (foundLine e) = e.isOk := fun e he => by
    rw [hasRecord, hfunctions, any_line_eq_isOk hnodup he]
  rw [functionLines, ← hlines, List.filter_map, List.filter_map]
  constructor
  · rw [hfunctions, filterMap_toOption_eq]
    exact congrArg _ (List.filter_congr fun e he => (hrecord e he).symm)
  · rw [hskipped, filterMap_missedLine?_eq]
    exact congrArg _ (List.filter_congr fun e he => congrArg not (hrecord e he).symm)

end Source

/-! Lines whose directive is not recognised. -/

namespace Dialect

/-- The warning that a numbered line calls for: its directive is none of the dialect. -/
def unrecognisedOn (d : Dialect) (entry : Text × Nat) : Option Warning :=
  match d.parseLine entry.1 with
  | some (.unrecognised content) => some (.unrecognisedDirective entry.2 content)
  | _ => none

def unrecognised (d : Dialect) (content : Text) : List Warning :=
  ((lines content).zipIdx 1).filterMap d.unrecognisedOn

theorem unrecognisedOn_eq (d : Dialect) (line : Text) (n : Nat) :
    d.unrecognisedOn (line, n) =
      (d.parseLine line).bind fun request => SourceUnit.directiveWarning? ⟨request, n⟩ := by
  unfold unrecognisedOn
  cases d.parseLine line with
  | none => rfl
  | some request => cases request <;> rfl

theorem filterMap_directivesFrom (d : Dialect) (n : Nat) (ls : List Text) :
    (d.directivesFrom n ls).filterMap SourceUnit.directiveWarning? =
      (ls.zipIdx n).filterMap d.unrecognisedOn := by
  induction ls generalizing n with
  | nil => rfl
  | cons line more ih =>
    rw [List.zipIdx_cons, directivesFrom, List.filterMap_cons, unrecognisedOn_eq, ← ih]
    cases d.parseLine line with
    | none => rfl
    | some request => exact List.filterMap_cons

theorem line_of_unrecognisedOn {d : Dialect} {entry : Text × Nat} {w : Warning}
    (h : d.unrecognisedOn entry = some w) : w.line = entry.2 ∧ w.skippedLine? = none := by
  unfold unrecognisedOn at h
  split at h
  · cases h
    exact ⟨rfl, rfl⟩
  · cases h

theorem skippedLine?_of_mem_unrecognised {d : Dialect} {content : Text} {w : Warning}
    (h : w ∈ d.unrecognised content) : w.skippedLine? = none := by
  obtain ⟨entry, -, hentry⟩ := List.mem_filterMap.1 h
  exact (line_of_unrecognisedOn hentry).2

theorem nodup_unrecognised (d : Dialect) (content : Text) : (d.unrecognised content).Nodup := by
  have hnumbers : ((lines content).zipIdx 1).Pairwise fun a b => a.2 ≠ b.2 :=
    List.pairwise_map.1 (nodup_numbers 1 (lines content))
  refine hnumbers.filterMap _ fun a b hne v hv w hw hsame => hne ?_
  rw [← (line_of_unrecognisedOn hv).1, ← (line_of_unrecognisedOn hw).1, hsame]

end Dialect

/-! Calls. -/

namespace SourceUnit

/-- What a unit can be asked for: its declarations, or its interface. -/
inductive Call where
  | parse
  | generate
  deriving DecidableEq, Repr

def answer (u : SourceUnit) : Call → Bool × SourceUnit
  | .parse => (u.parse.1.isOk, u.parse.2)
  | .generate => (u.generate.1.isOk, u.generate.2)

def answers (u : SourceUnit) : List Call → List Bool × SourceUnit
  | [] => ([], u)
  | call :: more =>
    let later := (u.answer call).2.answers more
    ((u.answer call).1 :: later.1, later.2)

/-- A unit made of the text, as it stands or as a module directive changes it. -/
def IsOver (u : SourceUnit) (content : Text) : Prop :=
  ∃ path o made, ofText path content o = .ok made ∧ (u = made ∨ ∃ task, u = made.forTask task)

theorem ofText_eq_ok {path : Path} {content : Text} {o : Options} {u : SourceUnit}
    (h : ofText path content o = .ok u) :
    u.content = content ∧ u.warnings = u.dialect.unrecognised content := by
  unfold ofText at h
  split at h
  · cases h
  · next dialect directives hdirectives =>
    split at h
    · cases h
    · cases h
      refine ⟨rfl, ?_⟩
      unfold directivesOf at hdirectives
      split at hdirectives
      · cases hdirectives
      · cases hdirectives
        exact dialect.filterMap_directivesFrom 1 (lines content)

theorem IsOver.content_and_warnings {u : SourceUnit} {content : Text} (h : u.IsOver content) :
    u.content = content ∧ u.warnings = u.dialect.unrecognised content := by
  obtain ⟨path, o, made, hmade, hu⟩ := h
  have hfresh := ofText_eq_ok hmade
  rcases hu with rfl | ⟨task, rfl⟩
  · exact hfresh
  · exact hfresh

section Noted
variable {u : SourceUnit} {s : Source}

theorem withWarning_of_mem {warnings : List Warning} {w : Warning} (h : w ∈ warnings) :
    withWarning warnings w = warnings := by
  rw [withWarning, if_pos (List.contains_iff_mem.2 h)]

theorem withWarning_of_not_mem {warnings : List Warning} {w : Warning} (h : w ∉ warnings) :
    withWarning warnings w = warnings ++ [w] := by
  rw [withWarning, if_neg fun hmem => h (List.contains_iff_mem.1 hmem)]

theorem mem_foldl_withWarning {warnings new : List Warning} {w : Warning} :
    w ∈ new.foldl withWarning warnings ↔ w ∈ warnings ∨ w ∈ new := by
  induction new generalizing warnings with
  | nil => simp
  | cons v new ih =>
    rw [List.foldl_cons, ih]
    by_cases hv : v ∈ warnings
    · rw [withWarning_of_mem hv]
      grind
    · rw [withWarning_of_not_mem hv]
      grind

theorem foldl_withWarning_of_mem {warnings new : List Warning} (h : ∀ w ∈ new, w ∈ warnings) :
    new.foldl withWarning warnings = warnings := by
  induction new with
  | nil => rfl
  | cons w new ih =>
    obtain ⟨hw, hnew⟩ := List.forall_mem_cons.1 h
    rw [List.foldl_cons, withWarning_of_mem hw, ih hnew]

/-- Warnings that differ and are not known yet are all added. -/
theorem foldl_withWarning_of_nodup {warnings new : List Warning} (hnodup : new.Nodup)
    (h : ∀ w ∈ new, w ∉ warnings) : new.foldl withWarning warnings = warnings ++ new := by
  induction new generalizing warnings with
  | nil => simp
  | cons w new ih =>
    obtain ⟨hw, hnew⟩ := List.forall_mem_cons.1 h
    obtain ⟨hfirst, hrest⟩ := List.nodup_cons.1 hnodup
    have hothers : ∀ v ∈ new, v ∉ warnings ++ [w] := by
      intro v hv hmem
      rcases List.mem_append.1 hmem with hmem | hmem
      · exact hnew v hv hmem
      · exact hfirst (List.mem_singleton.1 hmem ▸ hv)
    rw [List.foldl_cons, withWarning_of_not_mem hw, ih hrest hothers, List.append_assoc,
      List.singleton_append]

theorem noting_noting (u : SourceUnit) (s : Source) : (u.noting s).noting s = u.noting s := by
  have hagain : (s.skipped.map Warning.skippedFunction).foldl withWarning (u.noting s).warnings =
      (u.noting s).warnings :=
    foldl_withWarning_of_mem fun w hw => mem_foldl_withWarning.2 (Or.inr hw)
  rw [noting, hagain]

/-- A call notes what is missing, or fails and changes nothing. -/
theorem answer_cases (hs : u.source = .ok s) (call : Call) :
    u.answer call = (true, u.noting s) ∨ u.answer call = (false, u) := by
  cases call with
  | parse =>
    have hparse : u.parse = (.ok s, u.noting s) := by rw [parse, hs]
    exact Or.inl (by rw [answer, hparse]; rfl)
  | generate =>
    cases hinterface : u.interface with
    | error failure =>
      have hgenerate : u.generate = (.error failure, u) := by rw [generate, hinterface]
      exact Or.inr (by rw [answer, hgenerate]; rfl)
    | ok found =>
      have hfound : found.1 = s := by
        unfold interface at hinterface
        rw [hs] at hinterface
        cases hpath : u.requiredBuildPath with
        | error failure => rw [hpath] at hinterface; cases hinterface
        | ok path => rw [hpath] at hinterface; cases hinterface; rfl
      have hgenerate : u.generate = (.ok found.2, u.noting s) := by
        rw [generate, hinterface, ← hfound]
      exact Or.inl (by rw [answer, hgenerate]; rfl)

/-- A unit that has noted what is missing stays as it is. -/
theorem answers_noting (hs : u.source = .ok s) (calls : List Call) :
    ((u.noting s).answers calls).2 = u.noting s := by
  induction calls with
  | nil => rfl
  | cons call more ih =>
    have hstep : ((u.noting s).answer call).2 = u.noting s := by
      rcases answer_cases (u := u.noting s) hs call with h | h
      · rw [h, noting_noting]
      · rw [h]
    rw [answers, hstep]
    exact ih

theorem answers_of_success (hs : u.source = .ok s) {calls : List Call}
    (hok : true ∈ (u.answers calls).1) : (u.answers calls).2 = u.noting s := by
  induction calls with
  | nil => cases hok
  | cons call more ih =>
    rw [answers] at hok ⊢
    rcases answer_cases hs call with h | h
    · rw [h]
      exact answers_noting hs more
    · rw [h] at hok ⊢
      exact ih ((List.mem_cons.1 hok).resolve_left (by simp))

theorem warnings_noting {content : Text} (hu : u.IsOver content) (hs : s.skipped.Nodup) :
    (u.noting s).warnings =
      u.dialect.unrecognised content ++ s.skipped.map Warning.skippedFunction := by
  have hwarnings : u.warnings = u.dialect.unrecognised content := hu.content_and_warnings.2
  rw [noting, hwarnings]
  refine foldl_withWarning_of_nodup (hs.map fun _ _ => Warning.skippedFunction.inj) ?_
  intro w hw hknown
  obtain ⟨n, -, rfl⟩ := List.mem_map.1 hw
  cases Dialect.skippedLine?_of_mem_unrecognised hknown

end Noted

/-- Nothing is dropped without one warning. Once a call has succeeded, the warnings of a unit are
those of the lines that are read as unrecognised directives, followed by one for each line that
starts a function and has no record, both in the order of the lines. No two are worded alike, later
calls add none, and each line that starts a function has its number in a record or in a warning,
once. -/
theorem warnings_after_calls {content : Text} {u : SourceUnit} (hu : u.IsOver content)
    (hhead : Source.HasHead content) {calls : List Call} (hok : true ∈ (u.answers calls).1) :
    ∃ s, Source.extract? content [u.dialect.marker] = some s ∧
      (u.answers calls).2.warnings = u.dialect.unrecognised content ++
        ((Source.functionLines content).filter fun n => !s.hasRecord n).map .skippedFunction ∧
      ((u.answers calls).2.warnings.map Warning.message).Nodup ∧
      (∀ more, ((u.answers calls).2.answers more).2.warnings = (u.answers calls).2.warnings) ∧
      (s.functions.map (·.line) ++
        (u.answers calls).2.warnings.filterMap Warning.skippedLine?).Perm
          (Source.functionLines content) ∧
      (Source.functionLines content).Nodup := by
  obtain ⟨s, hs⟩ := Option.isSome_iff_exists.1
    ((Source.isSome_extract?_iff content [u.dialect.marker]).2 hhead)
  have hsource : u.source = .ok s := by rw [source, hu.content_and_warnings.1, hs]
  obtain ⟨hrecords, hskipped⟩ := Source.lines_of_extract? hs
  have hnumbers := Source.nodup_functionLinesFrom 1 (lines content)
  have hnodup : s.skipped.Nodup := hskipped ▸ hnumbers.filter _
  rw [answers_of_success hsource hok, warnings_noting hu hnodup, hskipped]
  refine ⟨s, hs, rfl, ?_, fun more => ?_, ?_, hnumbers⟩
  · refine List.Nodup.map Warning.message_injective (List.nodup_append.2 ⟨?_, ?_, ?_⟩)
    · exact u.dialect.nodup_unrecognised content
    · exact (hnumbers.filter _).map fun _ _ => Warning.skippedFunction.inj
    · rintro v hv w hw rfl
      obtain ⟨n, -, rfl⟩ := List.mem_map.1 hw
      cases Dialect.skippedLine?_of_mem_unrecognised hv
  · rw [answers_noting hsource, warnings_noting hu hnodup, hskipped]
  · have hlines : (u.dialect.unrecognised content).filterMap Warning.skippedLine? = [] :=
      List.filterMap_eq_nil_iff.2 fun w hw => Dialect.skippedLine?_of_mem_unrecognised hw
    have hmissed : ∀ ns : List Nat,
        (ns.map Warning.skippedFunction).filterMap Warning.skippedLine? = ns := fun ns =>
      (List.filterMap_map ..).trans List.filterMap_some
    rw [List.filterMap_append, hlines, List.nil_append, hmissed, hrecords]
    exact List.filter_append_perm s.hasRecord (Source.functionLines content)

def namelessSource : Text :=
  unlines ["/// !interface lend", "contract A \x7b", "  function (uint256) external \x7b", "  \x7d",
    "  function f() external \x7b", "  \x7d", "\x7d"]

def namelessUnit? : Except Failure SourceUnit :=
  ofText ⟨.relative, ["A.sol"]⟩ namelessSource { dialect := some (.given .legacy) }

def fourCalls : List Call := [.generate, .parse, .generate, .parse]

/-- The calls for the interface fail, and of those for the declarations the first one adds a
warning. -/
theorem warnings_after_calls_nameless :
    ∃ u, namelessUnit? = .ok u ∧ (u.answers fourCalls).1 = [false, true, false, true] ∧
      Source.HasHead namelessSource ∧
      (u.answers fourCalls).2.warnings = [.unrecognisedDirective 1 "lend", .skippedFunction 3] ∧
      ((u.answers fourCalls).2.answers fourCalls).2.warnings =
        [.unrecognisedDirective 1 "lend", .skippedFunction 3] := by
  have hruns : namelessUnit?.map (fun u => (u.dialect, (u.answers fourCalls).1)) =
      .ok (.legacy, [false, true, false, true]) := by decide
  have hlists : (Source.extract? namelessSource [Dialect.legacy.marker]).map (fun s =>
      Dialect.legacy.unrecognised namelessSource ++
        ((Source.functionLines namelessSource).filter fun n => !s.hasRecord n).map
          Warning.skippedFunction) =
      some [.unrecognisedDirective 1 "lend", .skippedFunction 3] := by decide
  cases hu : namelessUnit? with
  | error failure =>
    rw [hu] at hruns
    cases hruns
  | ok u =>
    rw [hu] at hruns
    obtain ⟨hdialect, hanswers⟩ := Prod.mk.inj (Except.ok.inj hruns)
    have hhead : Source.HasHead namelessSource := by
      rw [← Source.isSome_extract?_iff namelessSource [Dialect.legacy.marker], ← Option.isSome_map,
        hlists]
      rfl
    have hok : true ∈ (u.answers fourCalls).1 := by rw [hanswers]; decide
    obtain ⟨s, hs, hwarnings, -, hlater, -⟩ :=
      warnings_after_calls ⟨_, _, u, hu, Or.inl rfl⟩ hhead hok
    rw [hdialect] at hs hwarnings
    rw [hs] at hlists
    have hnoted := hwarnings.trans (Option.some.inj hlists)
    exact ⟨u, rfl, hanswers, hhead, hnoted, (hlater fourCalls).trans hnoted⟩

end SourceUnit
end SolInterface
