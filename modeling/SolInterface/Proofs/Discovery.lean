import Mathlib.Data.List.Infix
import SolInterface.Batch
import SolInterface.Proofs.BuildDirective
import SolInterface.Proofs.FileTree
import SolInterface.Proofs.Workspace

/-!
Finding sources and reading them. A source is found by a text it holds, while its unit has an output
path by the directives of its own dialect. The two agree as far as build directives are written with
one space after the marker, and what is written so is a directive of the source's dialect.
-/
namespace SolInterface
open Text WorkspaceM

theorem Utf8.decodeLossyFrom_of_decodeFrom {skip : Nat} {bytes : List UInt8} {t : Text}
    (h : decodeFrom skip bytes = .ok t) : decodeLossyFrom skip bytes = t := by
  induction bytes generalizing skip t with
  | nil =>
    cases h
    rfl
  | cons lead rest ih =>
    cases skip with
    | succ skip => exact ih h
    | zero =>
      rw [decodeFrom] at h
      rw [decodeLossyFrom]
      split at h
      · next c n hone =>
        cases hrest : decodeFrom n rest with
        | error fault =>
          rw [hrest] at h
          cases h
        | ok more =>
          rw [hrest] at h
          cases h
          simp only [ih hrest]
      · cases h

namespace Dialect

/-- The line holds the text by which sources are found. -/
def Announces (d : Dialect) (line : Text) : Prop := occursIn d.buildMarker line = true

instance (d : Dialect) (line : Text) : Decidable (d.Announces line) :=
  inferInstanceAs (Decidable (_ = true))

/-- Wherever blanks and the keyword follow the marker, the blanks are one space. -/
def IsSpaced (d : Dialect) (line : Text) : Prop :=
  ∀ t ∈ line.tails, ∀ rest ∈ after? d.marker t,
    (blanks? rest).any (startsWith Directive.Kind.build.keyword) = true →
      startsWith (' ' :: Directive.Kind.build.keyword) rest = true

instance (d : Dialect) (line : Text) : Decidable (d.IsSpaced line) :=
  inferInstanceAs (Decidable (∀ t ∈ line.tails, _))

/-- A build directive has its keyword after the marker and some blanks. -/
theorem Builds.split {d : Dialect} (hd : d.grammar.IsNamed) {line : Text} (h : d.Builds line) :
    ∃ before gap rest, line = before ++ d.marker ++ gap ++ Directive.Kind.build.keyword ++ rest ∧
      gap ≠ [] ∧ ∀ c ∈ gap, isBlank c := by
  obtain ⟨path, hpath⟩ := h
  obtain ⟨content, hcontent, hread⟩ := Option.map_eq_some_iff.1 hpath
  have hkeyword : Directive.Kind.build.keyword <+: content := by
    have hmeant := Grammar.isMeant_read hd content
    rw [hread] at hmeant
    exact hmeant.2
  obtain ⟨⟨found, after⟩, hfirst, rfl⟩ := Option.map_eq_some_iff.1 hcontent
  obtain ⟨before, rest, rfl, htail, -⟩ := firstMatch_eq_some_iff.1 hfirst
  obtain ⟨t, ht, htail⟩ := Option.bind_eq_some_iff.1 htail
  have hsolid : trim found ≠ [] := fun hnil => by
    rw [hnil] at hkeyword
    exact absurd (List.prefix_nil.1 hkeyword) (by decide)
  obtain ⟨gap, body, rfl, hgap, hblank, hbody⟩ := lineTail?_split htail hsolid
  obtain ⟨more, rfl⟩ := hkeyword.trans hbody
  refine ⟨before, gap, more, ?_, hgap, hblank⟩
  rw [after?_eq_some.1 ht]
  simp only [List.append_assoc]

theorem Builds.announces {d : Dialect} (hd : d.grammar.IsNamed) {line : Text} (h : d.Builds line)
    (hspaced : d.IsSpaced line) : d.Announces line := by
  obtain ⟨before, gap, more, rfl, hgap, hblank⟩ := h.split hd
  have hblanks : blanks? (gap ++ (Directive.Kind.build.keyword ++ more)) =
      some (Directive.Kind.build.keyword ++ more) :=
    blanks?_append hgap hblank (stops_cons.2 rfl)
  have hspace : ' ' :: Directive.Kind.build.keyword <+:
      gap ++ (Directive.Kind.build.keyword ++ more) := by
    refine startsWith_iff.1 (hspaced (d.marker ++ (gap ++ (Directive.Kind.build.keyword ++ more)))
      ?_ _ (after?_append _ _) ?_)
    · exact (List.mem_tails _ _).2 ⟨before, by simp only [List.append_assoc]⟩
    · rw [hblanks]
      exact startsWith_iff.2 (List.prefix_append _ _)
  obtain ⟨rest, hrest⟩ := hspace
  refine occursIn_iff_infix.2 ⟨before, rest, ?_⟩
  simp only [List.append_assoc]
  rw [← hrest, buildMarker]
  simp only [List.append_assoc]
  rfl

theorem occursIn_buildMarker {d : Dialect} (hd : d ∈ Registry.standard.dialects) (text : Text) :
    occursIn d.buildMarker text = true ↔ ∃ line ∈ lines text, d.Announces line := by
  have hmarkers : ∀ d ∈ Registry.standard.dialects, d.buildMarker ≠ [] ∧ '\n' ∉ d.buildMarker := by
    decide
  exact occursIn_iff_lines (hmarkers d hd).1 (hmarkers d hd).2

end Dialect

namespace Batch

theorem mem_sourcePaths {files : FileTree} {cwd root : Path} {names : List Text}
    {content : List UInt8} (hroot : files.isDirectory cwd root = .ok true)
    (hname : names.getLast?.any isSourceName = true) (hup : "..".toList ∉ names)
    (hread : files.read cwd (root.join ⟨.relative, names⟩) = .ok content) :
    root.join ⟨.relative, names⟩ ∈ sourcePaths files cwd root := by
  obtain ⟨mtime, hstat⟩ := FileTree.read_eq_ok.1 hread
  obtain ⟨hplace, hget⟩ := FileTree.stat_eq_ok.1 hstat
  obtain ⟨_, hstat⟩ := FileTree.isDirectory_eq_true.1 hroot
  obtain ⟨hloc, -⟩ := FileTree.stat_eq_ok.1 hstat
  have hwalk : files.walk (FileTree.start cwd root) (root.names ++ names) =
      .ok (FileTree.place cwd (root.join ⟨.relative, names⟩)) :=
    (FileTree.locate_eq_ok.1 hplace).2
  rw [FileTree.walk_append, (FileTree.locate_eq_ok.1 hloc).2] at hwalk
  rw [FileTree.walk_eq_ok hwalk, FileTree.foldl_next hup] at hget
  have hpos : 0 < names.length := by
    cases names with
    | nil => cases hname
    | cons _ _ => exact Nat.succ_pos _
  have hbelow : names ∈ files.below (FileTree.place cwd root) := by
    refine List.mem_filterMap.2 ⟨_, FileTree.mem_entries_of_get? hget, ?_⟩
    rw [if_pos ⟨List.take_left, by rw [List.length_append]; omega⟩, List.drop_left]
  simp only [sourcePaths, hloc, sortPaths, List.mem_mergeSort]
  exact List.mem_map_of_mem (List.mem_filter.2 ⟨hbelow, hname⟩)

/-- A source under the root that is not left out is found by the markers in its text. -/
theorem mem_marked_iff {files : FileTree} {cwd root p : Path} {markers skipDirs : List Text}
    {text : Text} (hp : p ∈ sourcePaths files cwd root) (hskip : ∀ dir ∈ skipDirs, dir ∉ p.parts)
    (htext : lossyText files cwd p = .ok text) :
    p ∈ marked files cwd root markers skipDirs ↔ ∃ m ∈ markers, occursIn m text = true := by
  have hkept : skipDirs.any p.parts.contains = false := by
    simpa using hskip
  rw [marked, List.mem_filter, hkept]
  simp [hp, htext]

theorem outcome_find {w : Workspace} {root : Path} {skipDirs : List Text}
    {choice : Option DialectChoice} {ds : List Dialect}
    (hds : (choice.getD (.named [])).candidates .standard = .ok ds)
    (hroot : w.files.isDirectory w.cwd root = .ok true) :
    outcome (find root skipDirs choice) w =
      (.ok (marked w.files w.cwd root (ds.map (·.buildMarker)) skipDirs), w) := by
  have hcandidates : outcome (candidates choice) w = (.ok ds, w) := by
    simp only [candidates, hds]
    rfl
  have hquery : outcome (query fun files cwd => files.isDirectory cwd root) w = (.ok true, w) := by
    rw [outcome_query, hroot]
    rfl
  rw [find, outcome_bind_ok hcandidates, outcome_bind_ok hquery]
  rfl

end Batch

/-- The dialects that an option leaves open include the one it gives for any text. -/
theorem Registry.exists_candidates {choice : Option Text}
    (h : ∀ name ∈ choice, name ∈ Config.dialectOptions) :
    ∃ ds, ((choice.map DialectChoice.named).getD (.named [])).candidates .standard = .ok ds ∧
      (∀ d ∈ ds, d ∈ standard.dialects) ∧
      ∀ content d, standard.resolve (choice.getD "auto") content = .ok d → d ∈ ds := by
  have hopen : (∀ d ∈ standard.dialects, d ∈ standard.dialects) ∧
      ∀ content d, standard.resolve "auto" content = .ok d → d ∈ standard.dialects :=
    ⟨fun _ hd => hd, fun _ _ hd => mem_of_resolve hd⟩
  cases choice with
  | none => exact ⟨standard.dialects, rfl, hopen⟩
  | some name =>
    have hname := h name rfl
    simp only [Config.dialectOptions, List.mem_cons, List.not_mem_nil, or_false] at hname
    rcases hname with rfl | rfl | rfl
    · exact ⟨standard.dialects, rfl, hopen⟩
    · refine ⟨[.custom], rfl, by decide, fun content d hd => ?_⟩
      cases hd
      exact List.mem_cons_self
    · refine ⟨[.legacy], rfl, by decide, fun content d hd => ?_⟩
      cases hd
      exact List.mem_cons_self

namespace Batch

theorem lossyText_of_decode {files : FileTree} {cwd p : Path} {bytes : List UInt8} {decoded : Text}
    (hread : files.read cwd p = .ok bytes) (hdecode : Utf8.decode bytes = .ok decoded) :
    lossyText files cwd p = .ok (normalizeNewlines decoded) := by
  have hlossy : Utf8.decodeLossy bytes = decoded := Utf8.decodeLossyFrom_of_decodeFrom hdecode
  rw [lossyText, hread, ← hlossy]
  rfl

/-- A source under the root is found if a line announces a build in one of the dialects that are
left open, and its unit has an output path if a line is read as a build directive in its own. So a
source that builds is found if the keyword stands one space after the marker, and a source that is
found builds if every line that announces a build is a build directive of its own dialect. -/
theorem mem_find_and_buildPath {w : Workspace} {root : Path} {names skipDirs : List Text}
    {choice : Option Text} {config : Config} {bytes : List UInt8} {decoded : Text}
    (hchoice : ∀ name ∈ choice, name ∈ Config.dialectOptions)
    (hconfig : choice = none → config.dialect = "auto")
    (hroot : w.files.isDirectory w.cwd root = .ok true)
    (hname : names.getLast?.any isSourceName = true) (hup : "..".toList ∉ names)
    (hskip : ∀ dir ∈ skipDirs, dir ∉ (root.join ⟨.relative, names⟩).parts)
    (hread : w.files.read w.cwd (root.join ⟨.relative, names⟩) = .ok bytes)
    (hdecode : Utf8.decode bytes = .ok decoded) (force : Bool) :
    ∃ ds found u,
      ((choice.map DialectChoice.named).getD (.named [])).candidates .standard = .ok ds ∧
      outcome (find root skipDirs (choice.map .named)) w = (.ok found, w) ∧
      (outcome (Build.load (root.join ⟨.relative, names⟩) ⟨force, choice.map .named, config⟩) w).1 =
        .ok u ∧
      Registry.standard.resolve (choice.getD "auto") (normalizeNewlines decoded) = .ok u.dialect ∧
      u.dialect ∈ ds ∧
      (root.join ⟨.relative, names⟩ ∈ found ↔
        ∃ d ∈ ds, ∃ line ∈ lines (normalizeNewlines decoded), d.Announces line) ∧
      (u.buildPath ≠ [] ↔ ∃ line ∈ lines (normalizeNewlines decoded), u.dialect.Builds line) ∧
      ((∀ line ∈ lines (normalizeNewlines decoded), u.dialect.IsSpaced line) →
        u.buildPath ≠ [] → root.join ⟨.relative, names⟩ ∈ found) ∧
      ((∀ d ∈ ds, ∀ line ∈ lines (normalizeNewlines decoded),
          d.Announces line → u.dialect.Builds line) →
        root.join ⟨.relative, names⟩ ∈ found → u.buildPath ≠ []) := by
  obtain ⟨ds, hds, hstandard, hresolved⟩ := Registry.exists_candidates hchoice
  have hasked : SourceUnit.Options.choice ⟨force, choice.map .named, config⟩ =
      .named (choice.getD "auto") := by
    cases choice with
    | none => exact congrArg DialectChoice.named (hconfig rfl)
    | some name => rfl
  have hoption : choice.getD "auto" ∈ Config.dialectOptions := by
    cases choice with
    | none => exact List.mem_cons_self
    | some name => exact hchoice name rfl
  obtain ⟨d, hd⟩ := Registry.exists_resolve hoption (normalizeNewlines decoded)
  obtain ⟨u, hu, -, -, rfl, -, hbuild⟩ :=
    SourceUnit.exists_ofText hasked hd (root.join ⟨.relative, names⟩)
  have hmem := hresolved _ _ hd
  have hnamed := Registry.isNamed_of_mem (hstandard _ hmem)
  have hfound : root.join ⟨.relative, names⟩ ∈
      marked w.files w.cwd root (ds.map (·.buildMarker)) skipDirs ↔
        ∃ d ∈ ds, ∃ line ∈ lines (normalizeNewlines decoded), d.Announces line := by
    rw [mem_marked_iff (mem_sourcePaths hroot hname hup hread) hskip
      (lossyText_of_decode hread hdecode)]
    simp only [List.mem_map, exists_exists_and_eq_and]
    exact exists_congr fun d => and_congr_right fun hd =>
      Dialect.occursIn_buildMarker (hstandard d hd) _
  refine ⟨ds, _, u, hds, outcome_find hds hroot, ?_, hd, hmem, hfound, hbuild, ?_, ?_⟩
  · rw [Build.outcome_load (outcome_readSource hread hdecode)]
    exact hu
  · intro hspaced hpath
    obtain ⟨line, hline, hbuilds⟩ := hbuild.1 hpath
    exact hfound.2 ⟨u.dialect, hmem, line, hline, hbuilds.announces hnamed (hspaced line hline)⟩
  · intro hdirectives hin
    obtain ⟨d, hd, line, hline, hannounces⟩ := hfound.1 hin
    exact hbuild.2 ⟨line, hline, hdirectives d hd line hline hannounces⟩

def oneSource (text : Text) : Workspace where
  files := ⟨[([], .directory 0), (["contracts".toList], .directory 0),
    (["contracts".toList, "A.sol".toList], .file (Utf8.encode text) 0)]⟩
  cwd := ⟨.root, []⟩
  now := 1

def spacedSource : Text := "/// !interface build ./IA.sol\ncontract A \x7b\n\x7d\n"

theorem mem_find_and_buildPath_spaced :
    ∃ found u,
      outcome (find ⟨.relative, ["contracts".toList]⟩ ["out"] none) (oneSource spacedSource) =
        (.ok found, oneSource spacedSource) ∧
      (outcome (Build.load ⟨.relative, ["contracts".toList, "A.sol".toList]⟩ {})
        (oneSource spacedSource)).1 = .ok u ∧
      ⟨.relative, ["contracts".toList, "A.sol".toList]⟩ ∈ found ∧ u.buildPath ≠ [] := by
  have hread : (oneSource spacedSource).files.read ⟨.root, []⟩
      ⟨.relative, ["contracts".toList, "A.sol".toList]⟩ = .ok (Utf8.encode spacedSource) := by
    decide
  have hdecode : Utf8.decode (Utf8.encode spacedSource) = .ok spacedSource := by decide
  obtain ⟨ds, found, u, hds, hfind, hload, hresolve, -, -, hbuild, hfound, -⟩ :=
    @mem_find_and_buildPath (oneSource spacedSource) ⟨.relative, ["contracts".toList]⟩
      ["A.sol".toList] ["out"] none {} _ _ (by simp) (fun _ => rfl) (by decide) (by decide)
      (by decide) (by decide) hread hdecode false
  have hdialect : Dialect.legacy = u.dialect := Except.ok.inj hresolve
  rw [← hdialect] at hbuild hfound
  have hpath : u.buildPath ≠ [] := hbuild.2 (by decide)
  exact ⟨found, u, hfind, hload, hfound (by decide) hpath, hpath⟩

def widelySpacedSource : Text :=
  "/// @custom:interface  build ./IA.sol\ncontract A \x7b\n\x7d\n"

/-- A source with a build directive that is not found. -/
theorem widely_spaced_missed :
    ∃ found u,
      outcome (find ⟨.relative, ["contracts".toList]⟩ [] none) (oneSource widelySpacedSource) =
        (.ok found, oneSource widelySpacedSource) ∧
      (outcome (Build.load ⟨.relative, ["contracts".toList, "A.sol".toList]⟩ {})
        (oneSource widelySpacedSource)).1 = .ok u ∧
      ⟨.relative, ["contracts".toList, "A.sol".toList]⟩ ∉ found ∧ u.buildPath ≠ [] := by
  have hread : (oneSource widelySpacedSource).files.read ⟨.root, []⟩
      ⟨.relative, ["contracts".toList, "A.sol".toList]⟩ = .ok (Utf8.encode widelySpacedSource) := by
    decide
  have hdecode : Utf8.decode (Utf8.encode widelySpacedSource) = .ok widelySpacedSource := by
    decide
  have hroot : (oneSource widelySpacedSource).files.isDirectory ⟨.root, []⟩
      ⟨.relative, ["contracts".toList]⟩ = .ok true := by decide
  obtain ⟨u, hu, -, -, -, -, hbuild⟩ := @SourceUnit.exists_ofText {} "auto" widelySpacedSource
    .custom rfl rfl ⟨.relative, ["contracts".toList, "A.sol".toList]⟩
  have hds : (DialectChoice.named []).candidates .standard = .ok Registry.standard.dialects := rfl
  refine ⟨_, u, outcome_find hds hroot, ?_, ?_, hbuild.2 (by decide)⟩
  · rw [Build.outcome_load (outcome_readSource hread hdecode)]
    exact hu
  · have hnot : ¬ ∃ m ∈ Registry.standard.dialects.map (·.buildMarker),
        occursIn m (normalizeNewlines widelySpacedSource) = true := by decide
    have hsource := @mem_sourcePaths (oneSource widelySpacedSource).files ⟨.root, []⟩
      ⟨.relative, ["contracts".toList]⟩ ["A.sol".toList] _ hroot (by decide) (by decide) hread
    exact fun hmem => hnot
      ((mem_marked_iff hsource (by simp) (lossyText_of_decode hread hdecode)).1 hmem)

end Batch
end SolInterface
