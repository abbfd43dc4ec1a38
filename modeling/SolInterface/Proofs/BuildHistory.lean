import SolInterface.Proofs.IncrementalBuild

/-!
Histories of edits and builds, each at its time. Along a history the outputs of a layout are kept
track of, so that every build reports outputs that hold what a forced build would write.
-/
namespace SolInterface
open WorkspaceM
open FileTree (place OnWay EndsInName Grows)
open SourceUnit (rendered? written?)

namespace Build

inductive Step where
  /-- A source gets new content. -/
  | edit (p : Path) (bytes : List UInt8)
  | build

/-- The workspace after a step at the time `t`. What cannot be written stays as it is. -/
def Step.apply (owner : Path) (o : SourceUnit.Options) (t : Time) (w : Workspace) : Step → Workspace
  | .edit p bytes =>
    match w.files.write w.cwd p bytes t with
    | .ok files => { w with files, now := t }
    | .error _ => { w with now := t }
  | .build => (outcome (buildFile owner o) { w with now := t }).2

def run (owner : Path) (o : SourceUnit.Options) (w : Workspace) (history : List (Time × Step)) :
    Workspace :=
  history.foldl (fun w s => s.2.apply owner o s.1 w) w

/-- An edit touches no output, and new content of the owner declares outputs of the layout. -/
def Step.Respects (l : Layout) (o : SourceUnit.Options) (cwd : Path) : Step → Prop
  | .edit p bytes => (∀ g ∈ l.goals, place cwd p ≠ place cwd g.2) ∧
      (place cwd p = place cwd l.owner → l.Fits o cwd bytes)
  | .build => True

end Build

namespace Layout

variable {l : Layout} {o : SourceUnit.Options} {cwd : Path} {t t' : FileTree} {now now' : Time}

theorem tracks_of_absent
    (hfits : ∀ bytes mtime, t.get? (place cwd l.owner) = some (.file bytes mtime) →
      l.Fits o cwd bytes)
    (habsent : ∀ g ∈ l.goals, t.get? (place cwd g.2) = none) (now : Time) :
    l.Tracks o cwd t now :=
  ⟨hfits, fun g hg => Or.inl (habsent g hg)⟩

theorem Tracks.later (ht : l.Tracks o cwd t now) (hle : now ≤ now') : l.Tracks o cwd t now' := by
  refine ⟨ht.fits, fun g hg => (ht.held g hg).imp_right ?_⟩
  rintro ⟨content, mtime, hfile, hbefore, hheld⟩
  exact ⟨content, mtime, hfile, Int.le_trans hbefore hle, hheld⟩

/-- After an edit every output made from the file is older than it. -/
theorem Tracks.edit (ht : l.Tracks o cwd t now) (hlt : now < now') {p : Path} {bytes : List UInt8}
    (hp : (Build.Step.edit p bytes).Respects l o cwd)
    (hwrite : t.write cwd p bytes now' = .ok t') : l.Tracks o cwd t' now' := by
  obtain ⟨hoff, howner⟩ := hp
  obtain ⟨-, -, rfl⟩ := FileTree.write_eq_ok.1 hwrite
  refine ⟨fun content mtime hget => ?_, fun g hg => ?_⟩
  · rw [FileTree.get?_put] at hget
    split at hget
    · next hplace =>
      cases hget
      exact howner hplace.symm
    · exact ht.fits content mtime hget
  · rw [FileTree.get?_put, if_neg (Ne.symm (hoff g hg))]
    refine (ht.held g hg).imp_right ?_
    rintro ⟨content, mtime, hfile, hle, hname, hnewer⟩
    refine ⟨content, mtime, hfile, Int.le_trans hle (Int.le_of_lt hlt), hname, fun hinputs => ?_⟩
    have huntouched : ∀ q ∈ l.inputs g, place cwd q ≠ place cwd p := by
      intro q hq hplace
      obtain ⟨node, hnode, hold⟩ := hinputs q hq
      rw [FileTree.get?_put, if_pos hplace] at hnode
      cases hnode
      exact absurd (Int.lt_of_lt_of_le hold hle) (Int.not_lt.2 (Int.le_of_lt hlt))
    have hsame : ∀ q ∈ l.inputs g, (t.put (place cwd p) (.file bytes now')).get? (place cwd q) =
        t.get? (place cwd q) := fun q hq => by
      rw [FileTree.get?_put, if_neg (huntouched q hq)]
    refine (hnewer fun q hq => ?_).of_files fun q hq _ _ hget => (hsame q hq).trans hget
    obtain ⟨node, hnode, hold⟩ := hinputs q hq
    exact ⟨node, (hsame q hq).symm.trans hnode, hold⟩

end Layout

namespace Build

variable {l : Layout} {o : SourceUnit.Options} {u : SourceUnit} {w w' : Workspace}

/-- A step at a later time keeps track of the outputs. -/
theorem Step.tracks (hl : l.IsSound w.cwd) {before t : Time}
    (ht : l.Tracks o w.cwd w.files before) (hlt : before < t) {step : Step}
    (hstep : step.Respects l o w.cwd) :
    (step.apply l.owner o t w).cwd = w.cwd ∧
      l.Tracks o w.cwd (step.apply l.owner o t w).files t := by
  cases step with
  | edit p bytes =>
    rw [apply]
    split
    · next hwrite => exact ⟨rfl, ht.edit hlt hstep hwrite⟩
    · exact ⟨rfl, ht.later (Int.le_of_lt hlt)⟩
  | build =>
    have ht' := ht.later (Int.le_of_lt hlt)
    have hadvances := (buildFile_advances (w := { w with now := t }) hl ht' rfl).1
    exact ⟨hadvances.1, ht'.grows hl hadvances.2.2⟩

/-- A history at increasing times keeps track of the outputs. -/
theorem run_tracks {history : List (Time × Step)} {before after : Time} (hl : l.IsSound w.cwd)
    (ht : l.Tracks o w.cwd w.files before) (hsteps : ∀ s ∈ history, s.2.Respects l o w.cwd)
    (htimes : (before :: history.map Prod.fst ++ [after]).Pairwise (· < ·)) :
    (run l.owner o w history).cwd = w.cwd ∧
      ∃ last < after, l.Tracks o w.cwd (run l.owner o w history).files last := by
  induction history generalizing w before with
  | nil => exact ⟨rfl, before, (List.pairwise_cons.1 htimes).1 after (by simp), ht⟩
  | cons s history ih =>
    obtain ⟨hbefore, hrest⟩ := List.pairwise_cons.1 htimes
    have hlt : before < s.1 := hbefore s.1 (by simp)
    obtain ⟨hcwd, ht'⟩ := Step.tracks hl ht hlt (hsteps s List.mem_cons_self)
    have hsteps' : ∀ s' ∈ history, s'.2.Respects l o (s.2.apply l.owner o s.1 w).cwd := by
      rw [hcwd]
      exact fun s' hs' => hsteps s' (List.mem_cons_of_mem _ hs')
    rw [← hcwd] at ht'
    obtain ⟨hcwd', last, hlast, hlast'⟩ := ih (by rwa [hcwd]) ht' hsteps' hrest
    rw [hcwd] at hcwd' hlast'
    exact ⟨hcwd', last, hlast, hlast'⟩

def Reported (cwd : Path) (u : SourceUnit) (r : BuildResult) (q : Path) : Prop :=
  q = r.output ∨ ∃ task m, (task, m) ∈ u.recipe.modules.zip r.modules ∧ m.status.isSome ∧
    Path.outputFor cwd u.path task.output = .ok q

theorem Ready.read_reported (hu : Ready l o u w) (hl : l.IsSound w.cwd) {r : BuildResult}
    (h : Holds written? w u r) {q : Path} (hq : Reported w.cwd u r q)
    (hadvances : Advances l o w w') :
    w'.files.read w.cwd q = w.files.read w.cwd q := by
  rcases hq with rfl | ⟨task, m, hmem, hstatus, houtput⟩
  · obtain ⟨content, hrendered, hread⟩ := h.main
    obtain ⟨hgoal, hwants⟩ := hu.wants_main h.output hrendered
    rw [hread]
    exact hu.tracks.read_of_grows hl hadvances.2.2 hgoal hwants hread
  · obtain ⟨q', content, hasks, hread, -⟩ := List.forall₂_zip h.modules hmem hstatus
    obtain ⟨s, hgoal, hwants⟩ := hu.wants_of_asks hasks
    obtain ⟨-, _, _, _, -, -, -, houtput', -⟩ := hasks
    obtain rfl : q = q' := Except.ok.inj (houtput.symm.trans houtput')
    rw [hread]
    exact hu.tracks.read_of_grows hl hadvances.2.2 hgoal hwants hread

theorem Ready.holds_of_advances (hu : Ready l o u w) (hl : l.IsSound w.cwd) {r : BuildResult}
    (h : Holds written? w u r) (hadvances : Advances l o w w') : Holds written? w' u r := by
  obtain ⟨content, hrendered, hread⟩ := h.main
  refine ⟨h.source, by rw [hadvances.1, h.output], ⟨content, hrendered, ?_⟩,
    h.modules.imp fun _ _ hreports hstatus =>
      hu.reports_of_advances hl (hreports hstatus) hadvances⟩
  rw [hadvances.1, hu.read_reported hl h (Or.inl rfl) hadvances, hread]

theorem Ready.buildFile_forced (hu : Ready l o u w) (hl : l.IsSound w.cwd)
    (hforce : u.force = true) (hwhole : u.header.isWhole = true) {r : BuildResult}
    (h : Holds written? w u r) (hall : ∀ m ∈ r.modules, m.status.isSome) :
    (outcome (buildFile l.owner o) w).1 = .ok (regenerated r) := by
  obtain ⟨bytes, hread, hunit⟩ := hu.owner
  obtain ⟨v, hload⟩ := load_of_read hread hunit
  have hadvances : Advances l o w v := ((quiet_load _ _).sameFiles hload).grown
  obtain ⟨x, hbuilt⟩ := (hu.advance hl hadvances).buildUnit_forced (by rwa [hadvances.1]) hforce
    hwhole (hu.holds_of_advances hl h hadvances) hall
  rw [buildFile, outcome_bind_ok hload, hbuilt]

theorem exists_before {times : List Time} (h : times.Pairwise (· < ·)) :
    ∃ before, (before :: times).Pairwise (· < ·) := by
  cases times with
  | nil => exact ⟨0, by simp⟩
  | cons first times =>
    refine ⟨first - 1, List.pairwise_cons.2 ⟨fun t ht => ?_, h⟩⟩
    have hfirst : first - 1 < first := Int.sub_lt_self first Int.one_pos
    rcases List.mem_cons.1 ht with rfl | ht
    · exact hfirst
    · exact Int.lt_trans hfirst ((List.pairwise_cons.1 h).1 t ht)

/-- After a history of edits and builds at increasing times that starts with nothing at the outputs,
a build that gives a result reports outputs. Where the header can be encoded, they hold the
interfaces that their sources ask for. A forced build right after it leaves the same bytes there,
and where the header can be encoded and no module failed it gives the same result, with all outputs
written. -/
theorem reported_eq_forced {t : Time} {history : List (Time × Step)} {r : BuildResult}
    (hl : l.IsSound w.cwd)
    (howner : ∀ bytes mtime, w.files.get? (place w.cwd l.owner) = some (.file bytes mtime) →
      l.Fits o w.cwd bytes)
    (habsent : ∀ g ∈ l.goals, w.files.get? (place w.cwd g.2) = none)
    (hsteps : ∀ s ∈ history, s.2.Respects l o w.cwd)
    (htimes : (history.map Prod.fst ++ [t]).Pairwise (· < ·))
    (hbuild : outcome (buildFile l.owner o) { run l.owner o w history with now := t } =
      (.ok r, w')) :
    ∃ u, (outcome (load l.owner o) w').1 = .ok u ∧
      (u.header.isWhole = true → Holds rendered? w' u r) ∧
      (∀ q, Reported w'.cwd u r q →
        (outcome (buildFile l.owner { o with force := true }) w').2.files.read w'.cwd q =
          w'.files.read w'.cwd q) ∧
      (u.header.isWhole = true → (∀ m ∈ r.modules, m.status.isSome) →
        (outcome (buildFile l.owner { o with force := true }) w').1 = .ok (regenerated r)) := by
  obtain ⟨before, hbefore⟩ := exists_before htimes
  have hstart := Layout.tracks_of_absent howner habsent before
  obtain ⟨hcwd, last, hlast, hlate⟩ := run_tracks hl hstart hsteps hbefore
  have htracks := hlate.later (Int.le_of_lt hlast)
  rw [← hcwd] at hl htracks
  obtain ⟨hadvances, hholds⟩ := buildFile_advances
    (w := { run l.owner o w history with now := t }) hl htracks hbuild
  obtain ⟨u, hu, hr⟩ := hholds r rfl
  have hl' : l.IsSound w'.cwd := by rwa [hadvances.1]
  obtain ⟨bytes, hread, hunit⟩ := hu.owner
  obtain ⟨v, hload⟩ := load_of_read hread hunit
  have hu' := hu.force true
  have hr' := hr.force (true || o.config.force)
  have hforced := (buildFile_advances hl' hu'.tracks rfl).1
  refine ⟨u, by rw [hload], hr.rendered, fun q hq => ?_, fun hwhole hall => ?_⟩
  · exact hu'.read_reported hl' hr' hq hforced
  · exact hu'.buildFile_forced hl' rfl hwhole hr' hall

/-! A source with one module, which is edited between two builds. -/

def moduleLayout : Layout where
  owner := ⟨.relative, ["A.sol".toList]⟩
  output := ⟨.root, ["p".toList, "out".toList, "IA.sol".toList]⟩
  modules := [(⟨.root, ["p".toList, "M.sol".toList]⟩,
    ⟨.root, ["p".toList, "out".toList, "IM.sol".toList]⟩)]

def moduleOwner : Text :=
  Text.cat ["/// @custom:interface build ./out/IA.sol\n",
    "/// @custom:interface module \"./M.sol\" to \"./out/IM.sol\"\ncontract A \x7b\n\x7d\n"]

def moduleWorkspace : Workspace where
  files := ⟨[([], .directory 0), (["p".toList], .directory 0),
    (["p".toList, "A.sol".toList], .file (Utf8.encode moduleOwner) 0),
    (["p".toList, "M.sol".toList], .file (Utf8.encode "contract M \x7b\n\x7d\n") 0)]⟩
  cwd := ⟨.root, ["p".toList]⟩
  now := 0

def moduleEdited : List (Time × Step) :=
  [(1, .build), (2, .edit ⟨.relative, ["M.sol".toList]⟩
    (Utf8.encode "contract M \x7b\n  event E();\n\x7d\n"))]

theorem moduleOwner_fits :
    moduleLayout.Fits {} moduleWorkspace.cwd (Utf8.encode moduleOwner) := by
  intro u hu
  have hdeclared : (SourceUnit.ofBytes? moduleLayout.owner (Utf8.encode moduleOwner) {}).map
      (fun u => (u.outputPath moduleWorkspace.cwd, u.recipe.modules.map fun task =>
        (modulePath moduleWorkspace.cwd u.path u.config.packagesDir task.source,
          Path.outputFor moduleWorkspace.cwd u.path task.output))) =
      some (.ok moduleLayout.output, moduleLayout.modules.map fun e => (.ok e.1, .ok e.2)) := by
    decide +kernel
  rw [hu, Option.map_some, Option.some.injEq, Prod.mk.injEq] at hdeclared
  obtain ⟨houtput, hmodules⟩ := hdeclared
  obtain ⟨task, htask⟩ : ∃ task, u.recipe.modules = [task] :=
    List.length_eq_one_iff.1 (by simpa [moduleLayout] using congrArg List.length hmodules)
  refine ⟨fun q hq => Except.ok.inj (hq.symm.trans houtput), fun task' htask' s q hs hq => ?_, ?_⟩
  · rw [htask, List.mem_singleton] at htask'
    subst htask'
    simp only [htask, List.map_cons, List.map_nil, hs, hq, moduleLayout, List.cons.injEq,
      Prod.mk.injEq, Except.ok.injEq, and_true] at hmodules
    obtain ⟨rfl, rfl⟩ := hmodules
    exact List.mem_cons_self
  · rw [htask]
    exact List.pairwise_singleton _ _

theorem reported_eq_forced_module :
    ∃ r w', outcome (buildFile moduleLayout.owner {})
        { run moduleLayout.owner {} moduleWorkspace moduleEdited with now := 3 } = (.ok r, w') ∧
      r.status = .skipped ∧ r.modules.map (·.status) = [some .generated] ∧
      (∃ u content, (outcome (load moduleLayout.owner {}) w').1 = .ok u ∧
        u.rendered? = some content ∧ w'.files.read w'.cwd r.output = .ok content) ∧
      (outcome (buildFile moduleLayout.owner { force := true }) w').1 = .ok (regenerated r) ∧
      (outcome (buildFile moduleLayout.owner { force := true }) w').2.files.read w'.cwd r.output =
        w'.files.read w'.cwd r.output := by
  have hl : moduleLayout.IsSound moduleWorkspace.cwd := ⟨by decide, by decide, by decide⟩
  have howner : ∀ bytes mtime,
      moduleWorkspace.files.get? (place moduleWorkspace.cwd moduleLayout.owner) =
        some (.file bytes mtime) → moduleLayout.Fits {} moduleWorkspace.cwd bytes := by
    intro bytes mtime hget
    cases hget
    exact moduleOwner_fits
  have hsteps : ∀ s ∈ moduleEdited, s.2.Respects moduleLayout {} moduleWorkspace.cwd := by
    intro s hs
    rcases List.mem_cons.1 hs with rfl | hs
    · trivial
    · rw [List.mem_singleton.1 hs]
      exact ⟨by decide, fun hplace => absurd hplace (by decide)⟩
  have hresult : (outcome (buildFile moduleLayout.owner {})
      { run moduleLayout.owner {} moduleWorkspace moduleEdited with now := 3 }).1 =
        .ok ⟨moduleLayout.owner, moduleLayout.output, .skipped,
          [⟨"./M.sol", "/p/out/IM.sol", some .generated, none⟩]⟩ := by decide +kernel
  obtain ⟨w', hbuild⟩ := exists_outcome hresult
  obtain ⟨u, hload, hholds, hsame, hforced⟩ := reported_eq_forced hl howner (by decide) hsteps
    (by decide) hbuild
  have hwhole : u.header.isWhole = true := by
    obtain ⟨_, hloaded⟩ := exists_outcome hload
    obtain ⟨_, -, hunit⟩ := load_eq_ok hloaded
    rw [SourceUnit.header, (SourceUnit.ofBytes?_eq_some hunit).2]
    decide
  obtain ⟨content, hrendered, hread⟩ := (hholds hwhole).main
  exact ⟨_, w', hbuild, rfl, rfl, ⟨u, content, hload, hrendered, hread⟩, hforced hwhole (by decide),
    hsame _ (Or.inl rfl)⟩

/-- A source whose output path passes through the place it leads to. -/
def passingWorkspace : Workspace where
  files := ⟨[([], .directory 0), (["A.sol".toList], .file (Utf8.encode
    "/// @custom:interface build /out/../out\ncontract A \x7b\n\x7d\n") 0)]⟩
  cwd := ⟨.root, []⟩
  now := 0

def passingBuild : Except Failure BuildResult × Workspace :=
  outcome (buildFile ⟨.relative, ["A.sol".toList]⟩ {})
    { run ⟨.relative, ["A.sol".toList]⟩ {} passingWorkspace [(1, .build)] with now := 2 }

/-- The first build leaves a directory at the output, which the second one takes for an output that
is up to date, while a forced build fails there. -/
theorem passing_output_skipped :
    passingWorkspace.files.get? (place passingWorkspace.cwd (Path.parse "/out/../out")) = none ∧
      passingBuild.1 =
        .ok ⟨⟨.relative, ["A.sol".toList]⟩, Path.parse "/out/../out", .skipped, []⟩ ∧
      passingBuild.2.files.read passingBuild.2.cwd (Path.parse "/out/../out") =
        .error ⟨.isDirectory, Path.parse "/out/../out"⟩ ∧
      (outcome (buildFile ⟨.relative, ["A.sol".toList]⟩ { force := true }) passingBuild.2).1 =
        .error (.file ⟨.isDirectory, Path.parse "/out/../out"⟩) :=
  ⟨by decide, by decide +kernel, by decide +kernel, by decide +kernel⟩

end Build
end SolInterface
