import SolInterface.Proofs.BuildDirective
import SolInterface.Proofs.FunctionLines
import SolInterface.Proofs.Occurrences

/-!
When a unit has an interface. The output path and the contract's head are all that can be missing;
in particular, documentation is looked up only above lines that the source has.
-/
namespace SolInterface
open Text

namespace Text

theorem length_lines (t : Text) : (lines t).length = t.count '\n' + 1 := by
  unfold lines
  induction t with
  | nil => rfl
  | cons c t ih =>
    rw [pieces]
    by_cases hc : c = '\n'
    · rw [if_pos (by simpa using hc), List.length_cons, ih, hc, List.count_cons_self]
    · rw [if_neg (by simpa using hc), List.count_cons_of_ne hc, ← ih]
      cases hpieces : pieces (· == '\n') t with
      | nil =>
        rw [hpieces] at ih
        cases ih
      | cons w ws => rfl

theorem line_of_mem_occurrences {α : Type} {read : Bool → Text → Option (α × Text)} {t : Text}
    {o : Occurrence α} (h : o ∈ occurrences read t) :
    1 ≤ o.line ∧ o.line ≤ (lines t).length := by
  have hline := line_of_mem_occurrencesFrom h
  rw [length_lines]
  omega

end Text

theorem Doc.above?_eq_some {ls markers : List Text} {n : Nat} (h : n ≤ ls.length) :
    Doc.above? ls markers n = some (Doc.above ls markers n) :=
  if_pos (Nat.le_succ_of_le h)

theorem Contract.lineOf_le (name : Text) (ls : List Text) : Contract.lineOf name ls ≤ ls.length := by
  unfold lineOf
  split
  · next i hi => exact (List.findIdx?_eq_some_iff_getElem.1 hi).1
  · exact Nat.zero_le _

namespace Source

theorem function?_doc {doc : Text} {n : Nat} {rest : List Text} {f : Function}
    (h : function? doc n rest = some f) : f.doc = doc := by
  simp only [function?, Option.bind_eq_bind, Option.bind_eq_some_iff] at h
  obtain ⟨head, -, hf⟩ := h
  cases hf
  rfl

/-- The documentation of every declaration was looked up above a line that is there. -/
structure Documented (s : Source) (ls markers : List Text) : Prop where
  contract : s.contract.line ≠ 0 → Doc.above? ls markers s.contract.line = some s.contract.doc
  functions : ∀ f ∈ s.functions, Doc.above? ls markers f.line = some f.doc
  events : ∀ e ∈ s.events, Doc.above? ls markers e.line = some e.doc
  errors : ∀ e ∈ s.errors, Doc.above? ls markers e.line = some e.doc
  stateVariables : ∀ v ∈ s.stateVariables, Doc.above? ls markers v.line = some v.doc

theorem above?_of_mem_notices {keyword content : Text} {markers : List Text} {n : Notice}
    (h : n ∈ notices keyword content (Doc.above (lines content) markers)) :
    Doc.above? (lines content) markers n.line = some n.doc := by
  obtain ⟨o, ho, rfl⟩ := List.mem_map.1 h
  exact Doc.above?_eq_some (line_of_mem_occurrences ho).2

theorem extract?_documented {content : Text} {markers : List Text} {s : Source}
    (h : extract? content markers = some s) : s.Documented (lines content) markers := by
  have hfunctions : ∀ f ∈ s.functions, Doc.above? (lines content) markers f.line = some f.doc := by
    intro f hf
    obtain ⟨line, more, hdrop, hpos, -, hfun⟩ := (mem_functions_iff h).1 hf
    have hlength : f.line - 1 < (lines content).length := by
      by_contra hle
      rw [List.drop_of_length_le (by omega)] at hdrop
      cases hdrop
    rw [Doc.above?_eq_some (by omega), function?_doc hfun]
  simp only [extract?, contract?, Option.bind_eq_bind, Option.bind_eq_some_iff] at h
  obtain ⟨c, ⟨⟨name, bases⟩, -, hc⟩, hs⟩ := h
  cases hc
  cases hs
  refine ⟨fun hline => ?_, hfunctions, fun e he => above?_of_mem_notices he,
    fun e he => above?_of_mem_notices he, fun v hv => ?_⟩
  · rw [Doc.above?_eq_some (Contract.lineOf_le name _)]
    exact congrArg some (if_neg hline).symm
  · obtain ⟨o, ho, rfl⟩ := List.mem_map.1 hv
    exact Doc.above?_eq_some (line_of_mem_occurrences (List.mem_of_mem_filter ho)).2

def HasHead (content : Text) : Prop :=
  ∃ skipped rest, content = skipped ++ rest ∧ (Contract.head? rest).isSome

theorem isSome_firstMatch_iff {α : Type} {read : Text → Option α} {t : Text} :
    (firstMatch read t).isSome ↔ ∃ skipped rest, t = skipped ++ rest ∧ (read rest).isSome := by
  constructor
  · intro h
    obtain ⟨a, ha⟩ := Option.isSome_iff_exists.1 h
    obtain ⟨skipped, rest, ht, hread, -⟩ := firstMatch_eq_some_iff.1 ha
    exact ⟨skipped, rest, ht, by rw [hread]; rfl⟩
  · rintro ⟨skipped, rest, rfl, hread⟩
    induction skipped with
    | nil =>
      obtain ⟨a, ha⟩ := Option.isSome_iff_exists.1 hread
      rw [List.nil_append, firstMatch_of_some ha]
      rfl
    | cons c skipped ih =>
      rw [List.cons_append]
      cases hc : read (c :: (skipped ++ rest)) with
      | some a => rw [firstMatch_of_some hc]; rfl
      | none => rwa [firstMatch_cons hc]

theorem isSome_extract?_iff (content : Text) (markers : List Text) :
    (extract? content markers).isSome ↔ HasHead content := by
  rw [HasHead, ← isSome_firstMatch_iff, extract?, contract?]
  cases firstMatch Contract.head? content <;> rfl

end Source

namespace Config

theorem setting_cases {α : Type} (fields : List (Text × Value)) (name : Text) (default : α)
    (read : Value → Except Fault α) :
    (setting fields name default read).1 = default ∨
      ∃ v, read v = .ok (setting fields name default read).1 := by
  unfold setting
  split
  · exact Or.inl rfl
  · next v _ =>
    split
    · next a ha => exact Or.inr ⟨v, ha⟩
    · exact Or.inl rfl

theorem mem_of_asOption {options : List Text} {v : Value} {t : Text}
    (h : asOption options v = .ok t) : t ∈ options := by
  unfold asOption at h
  split at h
  · split at h
    · next hmem =>
      cases h
      simpa using hmem
    · split at h <;> cases h
  · cases h

/-- Settings that were read ask for one of the dialects they may ask for. -/
theorem dialect_of_ofFields {fields : List (Text × Value)} {c : Config}
    (h : ofFields fields = .ok c) : c.dialect ∈ dialectOptions := by
  unfold ofFields at h
  extract_lets at h
  split at h
  · cases h
    rcases setting_cases fields "dialect" ({} : Config).dialect (asOption dialectOptions) with
      hdefault | ⟨v, hread⟩
    · rw [hdefault]
      exact List.mem_cons_self
    · exact mem_of_asOption hread
  · cases h

end Config

namespace SourceUnit

/-- Asking for the interface fails for want of an output path, or else for want of a contract's
head, and for no other reason. -/
theorem interface_eq_error_iff {u : SourceUnit} {failure : Failure} :
    u.interface = .error failure ↔
      (u.buildPath = [] ∧ failure = .noBuildDirective u.dialect.marker) ∨
        (u.buildPath ≠ [] ∧ ¬ Source.HasHead u.content ∧ failure = .noContract) := by
  by_cases hpath : u.buildPath = []
  · have hrequired : u.requiredBuildPath = .error (.noBuildDirective u.dialect.marker) :=
      if_pos (List.isEmpty_iff.2 hpath)
    have hinterface : u.interface = .error (.noBuildDirective u.dialect.marker) := by
      rw [interface, hrequired]
      rfl
    rw [hinterface, Except.error.injEq]
    exact ⟨fun h => Or.inl ⟨hpath, h.symm⟩,
      fun h => h.elim (fun h => h.2.symm) fun h => absurd hpath h.1⟩
  · have hrequired : u.requiredBuildPath = .ok u.buildPath := if_neg (mt List.isEmpty_iff.1 hpath)
    have hhead := Source.isSome_extract?_iff u.content [u.dialect.marker]
    cases hextract : Source.extract? u.content [u.dialect.marker] with
    | none =>
      have hinterface : u.interface = .error .noContract := by
        rw [interface, hrequired, source, hextract]
        rfl
      rw [hextract] at hhead
      rw [hinterface, Except.error.injEq]
      exact ⟨fun h => Or.inr ⟨hpath, fun hno => (by cases hhead.2 hno), h.symm⟩,
        fun h => h.elim (fun h => absurd h.1 hpath) fun h => h.2.2.symm⟩
    | some s =>
      have hinterface : u.interface = .ok (s, Interface.assemble u.header u.recipe s) := by
        rw [interface, hrequired, source, hextract]
        rfl
      rw [hextract] at hhead
      rw [hinterface]
      exact ⟨fun h => (by cases h), fun h => h.elim (fun h => absurd h.1 hpath)
        fun h => absurd (hhead.1 rfl) h.2.1⟩

theorem generate_eq_error_iff {u : SourceUnit} {failure : Failure} :
    u.generate.1 = .error failure ↔ u.interface = .error failure := by
  unfold generate
  cases u.interface <;> simp

/-- Every text makes a unit under the settings. The unit has no interface if no line of the text is
read as a build directive, or else if no contract's head stands in the text; there is no third
reason, and in both cases the unit stays as it was. Documentation is looked up only above lines that
are there. -/
theorem generate_outcome {config : Config} {choice : Option Text}
    (hconfig : config.dialect ∈ Config.dialectOptions)
    (hchoice : ∀ name ∈ choice, name ∈ Config.dialectOptions) (force : Bool) (path : Path)
    (content : Text) :
    ∃ u, ofText path content ⟨force, choice.map .named, config⟩ = .ok u ∧
      Registry.standard.resolve (choice.getD config.dialect) content = .ok u.dialect ∧
      (∀ failure, u.generate.1 = .error failure ↔
        (¬ u.dialect.HasBuild content ∧ failure = .noBuildDirective u.dialect.marker) ∨
          (u.dialect.HasBuild content ∧ ¬ Source.HasHead content ∧ failure = .noContract)) ∧
      ((∃ text, u.generate.1 = .ok text) ↔
        u.dialect.HasBuild content ∧ Source.HasHead content) ∧
      (∀ failure, u.generate.1 = .error failure → u.generate.2 = u) ∧
      ∀ s, Source.extract? content [u.dialect.marker] = some s →
        s.Documented (lines content) [u.dialect.marker] := by
  have hname : choice.getD config.dialect ∈ Config.dialectOptions := by
    cases choice with
    | none => exact hconfig
    | some name => exact hchoice name rfl
  have hasked : Options.choice ⟨force, choice.map .named, config⟩ =
      .named (choice.getD config.dialect) := by
    cases choice <;> rfl
  obtain ⟨d, hd⟩ := Registry.exists_resolve hname content
  obtain ⟨u, hu, -, -, rfl, hcontent, hbuild⟩ := exists_ofText hasked hd path
  have herror : ∀ failure, u.generate.1 = .error failure ↔
      (¬ u.dialect.HasBuild content ∧ failure = .noBuildDirective u.dialect.marker) ∨
        (u.dialect.HasBuild content ∧ ¬ Source.HasHead content ∧ failure = .noContract) := by
    intro failure
    rw [generate_eq_error_iff, interface_eq_error_iff, hcontent, hbuild, ← not_iff_not.2 hbuild,
      not_not]
  refine ⟨u, hu, hd, herror, ?_, ?_, fun s hs => Source.extract?_documented hs⟩
  · constructor
    · rintro ⟨text, htext⟩
      by_contra hmissing
      have hfails : ∃ failure, u.generate.1 = .error failure := by
        by_cases hlines : u.dialect.HasBuild content
        · have hhead : ¬ Source.HasHead content := fun hhead => hmissing ⟨hlines, hhead⟩
          exact ⟨_, (herror _).2 (Or.inr ⟨hlines, hhead, rfl⟩)⟩
        · exact ⟨_, (herror _).2 (Or.inl ⟨hlines, rfl⟩)⟩
      obtain ⟨failure, hfailure⟩ := hfails
      rw [htext] at hfailure
      cases hfailure
    · rintro ⟨hlines, hhead⟩
      cases hanswer : u.generate.1 with
      | ok text => exact ⟨text, rfl⟩
      | error failure =>
        rcases (herror failure).1 hanswer with ⟨hno, -⟩ | ⟨-, hno, -⟩
        · exact absurd hlines hno
        · exact absurd hhead hno
  · intro failure hfailure
    rw [generate_eq_error_iff] at hfailure
    rw [generate, hfailure]

def librarySource : Text := "/// !interface build ./IMath.sol\nlibrary Math \x7b\n\x7d\n"

theorem generate_outcome_library :
    Config.ofFields [] = .ok {} ∧ "legacy".toList ∈ Config.dialectOptions ∧
      ∃ u, ofText (Path.parse "Math.sol") librarySource ⟨false, some (.named "legacy"), {}⟩ = .ok u ∧
        u.generate.1 = .error .noContract ∧ u.generate.2 = u := by
  have hfields : Config.ofFields [] = .ok {} := rfl
  have hlegacy : ∀ name ∈ some "legacy".toList, name ∈ Config.dialectOptions := by decide
  refine ⟨hfields, hlegacy _ rfl, ?_⟩
  obtain ⟨u, hu, hd, herror, -, hkept, -⟩ := generate_outcome
    (Config.dialect_of_ofFields hfields) hlegacy false (Path.parse "Math.sol") librarySource
  have hdialect : Dialect.legacy = u.dialect := Except.ok.inj hd
  rw [← hdialect] at herror
  have hbuild : Dialect.legacy.HasBuild librarySource :=
    ⟨"/// !interface build ./IMath.sol".toList, by decide, "./IMath.sol".toList, by decide⟩
  have hhead : ¬ Source.HasHead librarySource := by
    rw [← Source.isSome_extract?_iff librarySource []]
    decide
  have hanswer : u.generate.1 = .error .noContract :=
    (herror _).2 (Or.inr ⟨hbuild, hhead, rfl⟩)
  exact ⟨u, hu, hanswer, hkept _ hanswer⟩

end SourceUnit
end SolInterface
