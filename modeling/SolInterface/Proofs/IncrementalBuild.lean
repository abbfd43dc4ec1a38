import Mathlib.Data.List.Forall2
import SolInterface.Proofs.Layout

/-!
Incremental builds. A build writes nothing but what the sources ask for, and every output it reports
holds that; so an output that was left alone because it is newer than its sources is what a forced
build would write. This holds after any history of edits and builds.
-/
namespace SolInterface
open WorkspaceM
open FileTree (place OnWay EndsInName Grows)
open SourceUnit (rendered? written?)

theorem SourceUnit.ofBytes?_eq_some {p : Path} {bytes : List UInt8} {o : Options} {u : SourceUnit}
    (h : ofBytes? p bytes o = some u) : u.path = p ∧ u.config = o.config := by
  unfold ofBytes? at h
  split at h
  · unfold ofText at h
    split at h
    · cases h
    · split at h
      · cases h
      · cases h
        exact ⟨rfl, rfl⟩
  · cases h

namespace Build

/-- The owner has the task, and what the sources in the workspace ask for at its output comes to
this content. -/
def Asks (content? : SourceUnit → Option (List UInt8)) (w : Workspace) (owner : SourceUnit)
    (task : ModuleTask) (output : Path) (content : List UInt8) : Prop :=
  task ∈ owner.recipe.modules ∧ ∃ source bytes unit,
    modulePath w.cwd owner.path owner.config.packagesDir task.source = .ok source ∧
    w.files.read w.cwd source = .ok bytes ∧
    SourceUnit.ofBytes? source bytes (moduleOptions owner) = some unit ∧
    Path.outputFor w.cwd owner.path task.output = .ok output ∧
    content? (unit.forTask task) = some content

/-- A module has the header of its owner. -/
theorem header_forTask {owner v : SourceUnit} {p : Path} {bytes : List UInt8}
    (h : SourceUnit.ofBytes? p bytes (moduleOptions owner) = some v) (task : ModuleTask) :
    (v.forTask task).header = owner.header := by
  have hconfig : v.config = owner.config := (SourceUnit.ofBytes?_eq_some h).2
  simp only [SourceUnit.forTask, SourceUnit.header, hconfig]

def Advances (l : Layout) (o : SourceUnit.Options) (w w' : Workspace) : Prop :=
  w.Grown (l.Way w.cwd) (l.Writes o w.cwd w.files) w'

/-- The workspace keeps track of the layout, and its owner makes the unit. -/
structure Ready (l : Layout) (o : SourceUnit.Options) (u : SourceUnit) (w : Workspace) : Prop where
  tracks : l.Tracks o w.cwd w.files w.now
  owner : ∃ bytes, w.files.read w.cwd l.owner = .ok bytes ∧
    SourceUnit.ofBytes? l.owner bytes o = some u

variable {l : Layout} {o : SourceUnit.Options} {u : SourceUnit} {w w' w'' : Workspace}

theorem Advances.trans (hl : l.IsSound w.cwd) (h : Advances l o w w') (h' : Advances l o w' w'') :
    Advances l o w w'' := by
  obtain ⟨hcwd, hnow, hgrows⟩ := h
  obtain ⟨hcwd', hnow', hgrows'⟩ := h'
  rw [hcwd, hnow] at hgrows'
  exact ⟨hcwd'.trans hcwd, hnow'.trans hnow, hl.grows_trans hgrows hgrows'⟩

theorem Ready.advance (hu : Ready l o u w) (hl : l.IsSound w.cwd) (h : Advances l o w w') :
    Ready l o u w' := by
  obtain ⟨hcwd, hnow, hgrows⟩ := h
  obtain ⟨bytes, hread, hunit⟩ := hu.owner
  have hmain : (none, l.output) ∈ l.goals := List.mem_cons_self
  refine ⟨?_, bytes, ?_, hunit⟩
  · rw [hcwd, hnow]
    exact hu.tracks.grows hl hgrows
  · rw [hcwd]
    exact hgrows.read (hl.not_writes hmain (l.owner_mem_inputs _)) hread

theorem Ready.declares (hu : Ready l o u w) : l.Declares w.cwd u := by
  obtain ⟨bytes, hread, hunit⟩ := hu.owner
  obtain ⟨mtime, hfile⟩ := FileTree.get?_of_read hread
  exact hu.tracks.fits bytes mtime hfile u hunit

/-- The file of the unit makes no other unit. -/
theorem Ready.unit_eq (hu : Ready l o u w) {u' : SourceUnit} {bytes : List UInt8} {mtime : Time}
    (hfile : w.files.get? (FileTree.place w.cwd l.owner) = some (.file bytes mtime))
    (hunit : SourceUnit.ofBytes? l.owner bytes o = some u') : u' = u := by
  obtain ⟨bytes', hread, hunit'⟩ := hu.owner
  obtain ⟨_, hfile'⟩ := FileTree.get?_of_read hread
  rw [hfile'] at hfile
  cases hfile
  exact Option.some.inj (hunit.symm.trans hunit')

theorem Ready.path (hu : Ready l o u w) : u.path = l.owner := by
  obtain ⟨_, -, hunit⟩ := hu.owner
  exact (SourceUnit.ofBytes?_eq_some hunit).1

/-- What is asked for at the output of a module is asked for in the layout. -/
theorem Ready.wants_of_asks (hu : Ready l o u w) {task : ModuleTask} {q : Path}
    {content : List UInt8} (h : Asks written? w u task q content) :
    ∃ s, (some s, q) ∈ l.goals ∧ l.Wants o w.cwd w.files (some s, q) content := by
  obtain ⟨htask, s, bytes, v, hsource, hread, hv, houtput, hrendered⟩ := h
  obtain ⟨bytes', howner, hunit⟩ := hu.owner
  obtain ⟨mtime, hfile⟩ := FileTree.get?_of_read hread
  obtain ⟨mtime', hfile'⟩ := FileTree.get?_of_read howner
  exact ⟨s, Layout.mem_goals_of_modules (hu.declares.modules task htask s q hsource houtput),
    bytes', mtime', u, hfile', hunit, task, htask, hsource, houtput,
    bytes, mtime, v, hfile, hv, hrendered⟩

/-- What is asked for in the layout at the output of a task is asked for by that task. -/
theorem Ready.asks_of_wants (hu : Ready l o u w) {task : ModuleTask}
    (htask : task ∈ u.recipe.modules) {s q : Path} {bytes content : List UInt8}
    (houtput : Path.outputFor w.cwd u.path task.output = .ok q)
    (hwants : l.Wants o w.cwd w.files (some s, q) content)
    (hread : w.files.read w.cwd s = .ok bytes) : Asks written? w u task q content := by
  obtain ⟨_, _, u', howner, hunit, task', htask', hsource, houtput', bytes', _, v, hfile, hv,
    hrendered⟩ := hwants
  obtain rfl := hu.unit_eq howner hunit
  obtain rfl := hu.declares.task_eq htask htask' houtput houtput'
  obtain ⟨_, hfile'⟩ := FileTree.get?_of_read hread
  rw [hfile'] at hfile
  cases hfile
  exact ⟨htask, s, _, v, hsource, hread, hv, houtput, hrendered⟩

/-- A module that is asked for goes on being asked for. -/
theorem Ready.asks_of_advances (hu : Ready l o u w) (hl : l.IsSound w.cwd) {task : ModuleTask}
    {q : Path} {content : List UInt8} (h : Asks written? w u task q content)
    (hadvances : Advances l o w w') : Asks written? w' u task q content := by
  obtain ⟨hcwd, -, hgrows⟩ := hadvances
  obtain ⟨htask, s, bytes, v, hsource, hread, hv, houtput, hrendered⟩ := h
  have hgoal : (some s, q) ∈ l.goals :=
    Layout.mem_goals_of_modules (hu.declares.modules task htask s q hsource houtput)
  have hs : s ∈ l.inputs (some s, q) := List.mem_cons_self
  refine ⟨htask, s, bytes, v, ?_, ?_, hv, ?_, hrendered⟩
  · rwa [hcwd]
  · rw [hcwd]
    exact hgrows.read (hl.not_writes hgoal hs) hread
  · rwa [hcwd]

/-- Building a module writes what is asked for, and its output then holds it. -/
theorem Ready.buildModule_advances (hu : Ready l o u w) {task : ModuleTask}
    (htask : task ∈ u.recipe.modules) {answer : Except Failure ModuleResult}
    (h : outcome (buildModule u task) w = (answer, w')) :
    Advances l o w w' ∧ ∀ m, answer = .ok m → ∃ q content, Asks written? w u task q content ∧
      w'.files.read w.cwd q = .ok content ∧ m.source = task.source ∧ m.output = q.text ∧
      m.error = none := by
  rcases buildModule_cases h with ⟨hsame, failure, rfl⟩ |
    ⟨s, bytes, v, q, x, x', written, hsource, hread, hv, houtput, hx, hwrite, hx', rfl⟩
  · exact ⟨hsame.grown, fun _ h => by cases h⟩
  have hfiles := hx.1
  have hcwd := hx.2.1
  have hasks : ∀ content, (v.forTask task).written? = some content →
      Asks written? w u task q content :=
    fun content hrendered => ⟨htask, s, bytes, v, hsource, hread, hv, houtput, hrendered⟩
  have hgoal : (some s, q) ∈ l.goals :=
    Layout.mem_goals_of_modules (hu.declares.modules task htask s q hsource houtput)
  obtain ⟨hgrown, hreported⟩ := writeOutput_grown hwrite
  rw [hcwd] at hgrown hreported
  have hadvances : Advances l o w w' := by
    refine hx.grown.trans (Workspace.Grown.trans (hgrown.mono ?_ ?_) hx'.grown)
    · exact fun loc hloc => ⟨_, hgoal, hloc⟩
    · rintro loc content ⟨rfl, hname, hrendered⟩
      obtain ⟨s', hgoal', hwants⟩ := hu.wants_of_asks (hasks content hrendered)
      exact ⟨_, hgoal', rfl, hname, hwants⟩
  refine ⟨hadvances, fun m hm => ?_⟩
  cases written with
  | error failure => cases hm
  | ok status =>
    cases hm
    rcases hreported status rfl with ⟨hsame, node, hstat, holder⟩ | ⟨content, hrendered, hread'⟩
    · -- Left alone: the output is newer than its sources, and so holds what they ask for.
      rw [hfiles] at hstat holder
      rw [hu.path] at holder
      obtain ⟨content, hwants, hheld⟩ := hu.tracks.wants_of_newer hgoal hstat holder
      refine ⟨q, content, hu.asks_of_wants htask houtput hwants hread, ?_, rfl, rfl, rfl⟩
      rw [hx'.1, hsame.1, hfiles]
      exact hheld
    · refine ⟨q, content, hasks content hrendered, ?_, rfl, rfl, rfl⟩
      rw [hx'.1]
      exact hread'

def Reports (content? : SourceUnit → Option (List UInt8)) (w : Workspace) (owner : SourceUnit)
    (task : ModuleTask) (m : ModuleResult) : Prop :=
  ∃ q content, Asks content? w owner task q content ∧ w.files.read w.cwd q = .ok content ∧
    m.source = task.source ∧ m.output = q.text ∧ m.error = none

theorem Ready.reports_of_advances (hu : Ready l o u w) (hl : l.IsSound w.cwd) {task : ModuleTask}
    {m : ModuleResult} (h : Reports written? w u task m) (hadvances : Advances l o w w') :
    Reports written? w' u task m := by
  obtain ⟨q, content, hasks, hread, hm⟩ := h
  obtain ⟨s, hgoal, hwants⟩ := hu.wants_of_asks hasks
  refine ⟨q, content, hu.asks_of_advances hl hasks hadvances, ?_, hm⟩
  rw [hadvances.1]
  exact hu.tracks.read_of_grows hl hadvances.2.2 hgoal hwants hread

/-- A module that fails is passed over, or ends the run. -/
theorem buildModules_cons_cases {task : ModuleTask} {tasks : List ModuleTask}
    {answer : Except Failure (List ModuleResult)}
    (h : outcome (buildModules u (task :: tasks)) w = (answer, w')) :
    (∃ failure, outcome (buildModule u task) w = (.error failure, w') ∧ answer = .error failure) ∨
      ∃ built m v v' more, outcome (buildModule u task) w = (built, v) ∧ v.SameFiles v' ∧
        (built = .ok m ∨ m.status = none) ∧ outcome (buildModules u tasks) v' = (more, w') ∧
        answer = more.map (m :: ·) := by
  have hrest : ∀ {m : ModuleResult} {v' : Workspace},
      outcome (buildModules u tasks >>= fun more => pure (m :: more)) v' = (answer, w') →
        ∃ more, outcome (buildModules u tasks) v' = (more, w') ∧ answer = more.map (m :: ·) := by
    intro m v' hconsed
    rcases outcome_bind_cases hconsed with ⟨failure, hmore, rfl⟩ | ⟨more, x, hmore, hend⟩
    · exact ⟨.error failure, hmore, rfl⟩
    · cases hend
      exact ⟨.ok more, hmore, rfl⟩
  rcases outcome_bind_cases h with ⟨failure, hattempt, rfl⟩ | ⟨result, v, hattempt, h⟩
  · rw [outcome_attempt] at hattempt
    split at hattempt
    · cases hattempt
    · next failure' v hbuilt =>
      split at hattempt <;> cases hattempt
      exact Or.inl ⟨failure, hbuilt, rfl⟩
  · rw [outcome_attempt] at hattempt
    split at hattempt
    · next m v hbuilt =>
      cases hattempt
      obtain ⟨more, hmore, hanswer⟩ := hrest h
      exact Or.inr ⟨_, m, v, v, more, hbuilt, ⟨rfl, rfl, rfl⟩, Or.inl rfl, hmore, hanswer⟩
    · next failure v hbuilt =>
      split at hattempt <;> cases hattempt
      obtain ⟨more, hmore, hanswer⟩ := hrest h
      exact Or.inr ⟨_, _, v, _, more, hbuilt, quiet_log _ v, Or.inr rfl, hmore, hanswer⟩

/-- Building the modules writes what is asked for, and the outputs that are reported hold it. -/
theorem Ready.buildModules_advances (hu : Ready l o u w) (hl : l.IsSound w.cwd)
    {tasks : List ModuleTask} (htasks : ∀ task ∈ tasks, task ∈ u.recipe.modules)
    {answer : Except Failure (List ModuleResult)}
    (h : outcome (buildModules u tasks) w = (answer, w')) :
    Advances l o w w' ∧ ∀ results, answer = .ok results →
      List.Forall₂ (fun task m => m.status.isSome → Reports written? w' u task m) tasks
        results := by
  induction tasks generalizing w answer with
  | nil =>
    cases h
    refine ⟨Workspace.SameFiles.grown ⟨rfl, rfl, rfl⟩, fun results hresults => ?_⟩
    cases hresults
    exact .nil
  | cons task tasks ih =>
    have htask := htasks task List.mem_cons_self
    rcases buildModules_cons_cases h with ⟨failure, hbuilt, rfl⟩ |
      ⟨built, m, v, v', more, hbuilt, hsame, hm, hmore, rfl⟩
    · exact ⟨(hu.buildModule_advances htask hbuilt).1, fun _ h => by cases h⟩
    obtain ⟨hadvances, hreported⟩ := hu.buildModule_advances htask hbuilt
    have hadvances' : Advances l o w v' := hadvances.trans hl hsame.grown
    have hu' := hu.advance hl hadvances'
    have hl' : l.IsSound v'.cwd := by rwa [hadvances'.1]
    obtain ⟨hrest, hresults⟩ := ih hu' hl' (fun t ht => htasks t (List.mem_cons_of_mem _ ht)) hmore
    refine ⟨hadvances'.trans hl hrest, fun results hanswer => ?_⟩
    cases more with
    | error failure => cases hanswer
    | ok rest =>
      cases hanswer
      refine .cons (fun hstatus => ?_) (hresults rest rfl)
      rcases hm with rfl | hfailed
      · obtain ⟨q, content, hasks, hread, hm⟩ := hreported m rfl
        refine hu'.reports_of_advances hl' ⟨q, content,
          hu.asks_of_advances hl hasks hadvances', ?_, hm⟩ hrest
        rw [hadvances'.1, hsame.1]
        exact hread
      · rw [hfailed] at hstatus
        cases hstatus

/-- A result reports an interface that holds what is asked for, and so do its modules, unless they
failed. -/
structure Holds (content? : SourceUnit → Option (List UInt8)) (w : Workspace) (u : SourceUnit)
    (r : BuildResult) : Prop where
  source : r.source = u.path
  output : u.outputPath w.cwd = .ok r.output
  main : ∃ content, content? u = some content ∧ w.files.read w.cwd r.output = .ok content
  modules : List.Forall₂ (fun task m => m.status.isSome → Reports content? w u task m)
    u.recipe.modules r.modules

/-- Modules have the header of their owner, so that all outputs hold their interfaces where it can
be encoded. -/
theorem Holds.rendered {r : BuildResult} (h : Holds written? w u r)
    (hwhole : u.header.isWhole = true) : Holds rendered? w u r := by
  refine ⟨h.source, h.output, ?_, h.modules.imp fun task m hreports hstatus => ?_⟩
  · obtain ⟨content, hwritten, hread⟩ := h.main
    exact ⟨content, SourceUnit.written?_of_isWhole hwhole ▸ hwritten, hread⟩
  · obtain ⟨q, content, ⟨htask, s, bytes, v, hsource, hread, hv, houtput, hwritten⟩, hm⟩ :=
      hreports hstatus
    have hheader := header_forTask hv task ▸ hwhole
    exact ⟨q, content, ⟨htask, s, bytes, v, hsource, hread, hv, houtput,
      SourceUnit.written?_of_isWhole hheader ▸ hwritten⟩, hm⟩

theorem Ready.wants_main (hu : Ready l o u w) {q : Path} {content : List UInt8}
    (houtput : u.outputPath w.cwd = .ok q) (hrendered : u.written? = some content) :
    (none, q) ∈ l.goals ∧ l.Wants o w.cwd w.files (none, q) content := by
  obtain ⟨bytes, hread, hunit⟩ := hu.owner
  obtain ⟨mtime, hfile⟩ := FileTree.get?_of_read hread
  refine ⟨?_, bytes, mtime, u, hfile, hunit, houtput, hrendered⟩
  rw [hu.declares.output q houtput]
  exact List.mem_cons_self

theorem Ready.rendered_of_wants (hu : Ready l o u w) {q : Path} {content : List UInt8}
    (h : l.Wants o w.cwd w.files (none, q) content) : u.written? = some content := by
  obtain ⟨bytes, mtime, u', howner, hunit, -, hrendered⟩ := h
  obtain rfl := hu.unit_eq howner hunit
  exact hrendered

theorem Ready.buildUnit_advances (hu : Ready l o u w) (hl : l.IsSound w.cwd)
    {answer : Except Failure BuildResult} (h : outcome (buildUnit u) w = (answer, w')) :
    Advances l o w w' ∧ ∀ r, answer = .ok r → Holds written? w' u r := by
  rcases outcome_bind_cases h with ⟨failure, hmodules, rfl⟩ | ⟨results, v, hmodules, h⟩
  · exact ⟨(hu.buildModules_advances hl (fun _ h => h) hmodules).1, fun _ h => by cases h⟩
  obtain ⟨hadvances, hreported⟩ := hu.buildModules_advances hl (fun _ h => h) hmodules
  have hu' := hu.advance hl hadvances
  have hl' : l.IsSound v.cwd := by rwa [hadvances.1]
  rw [outcome_bind_ok (outcome_get v)] at h
  rcases outcome_bind_cases h with ⟨failure, houtput, rfl⟩ | ⟨q, x, houtput, h⟩
  · exact ⟨hadvances.trans hl ((quiet_ofExcept _).sameFiles houtput).grown, fun _ h => by cases h⟩
  rw [outcome_ofExcept] at houtput
  obtain ⟨hpath, rfl⟩ := Prod.mk.inj houtput
  have hwritten : ∀ {status : Except Failure Status} {x : Workspace},
      outcome (writeOutput u.force u.path q [] (render u) u.header.isWhole) v = (status, x) →
        Advances l o v x := by
    intro status x hwrite
    refine (writeOutput_grown hwrite).1.mono ?_ ?_
    · exact fun loc hloc => ⟨(none, q), hu'.declares.output q hpath ▸ List.mem_cons_self, hloc⟩
    · rintro loc content ⟨rfl, hname, hrendered⟩
      obtain ⟨hgoal, hwants⟩ := hu'.wants_main hpath hrendered
      exact ⟨_, hgoal, rfl, hname, hwants⟩
  rcases outcome_bind_cases h with ⟨failure, hwrite, rfl⟩ | ⟨status, x, hwrite, h⟩
  · exact ⟨hadvances.trans hl (hwritten hwrite), fun _ h => by cases h⟩
  cases h
  have hadvances' := hwritten hwrite
  refine ⟨hadvances.trans hl hadvances', fun r hr => ?_⟩
  cases hr
  refine ⟨rfl, by rwa [hadvances'.1], ?_, ?_⟩
  · rw [hadvances'.1]
    rcases (writeOutput_grown hwrite).2 status rfl with ⟨hsame, node, hstat, holder⟩ | hcontent
    · have hgoal : (none, q) ∈ l.goals := by
        rw [hu'.declares.output q hpath]
        exact List.mem_cons_self
      rw [hu'.path] at holder
      obtain ⟨content, hwants, hheld⟩ := hu'.tracks.wants_of_newer hgoal hstat holder
      exact ⟨content, hu'.rendered_of_wants hwants, hsame.1 ▸ hheld⟩
    · exact hcontent
  · exact (hreported results rfl).imp fun _ _ hreports hstatus =>
      hu'.reports_of_advances hl' (hreports hstatus) hadvances'

/-- A build writes what is asked for, and a result that it gives reports outputs that hold it. -/
theorem buildFile_advances (hl : l.IsSound w.cwd) (ht : l.Tracks o w.cwd w.files w.now)
    {answer : Except Failure BuildResult} (h : outcome (buildFile l.owner o) w = (answer, w')) :
    Advances l o w w' ∧ ∀ r, answer = .ok r → ∃ u, Ready l o u w' ∧ Holds written? w' u r := by
  rcases outcome_bind_cases h with ⟨failure, hload, rfl⟩ | ⟨u, v, hload, h⟩
  · exact ⟨((quiet_load _ _).sameFiles hload).grown, fun _ h => by cases h⟩
  have hsame := (quiet_load _ _).sameFiles hload
  have hu : Ready l o u w := ⟨ht, load_eq_ok hload⟩
  have hadvances : Advances l o w v := hsame.grown
  have hu' := hu.advance hl hadvances
  have hl' : l.IsSound v.cwd := by rwa [hsame.2.1]
  obtain ⟨hrest, hholds⟩ := hu'.buildUnit_advances hl' h
  exact ⟨hadvances.trans hl hrest, fun r hr => ⟨u, hu'.advance hl' hrest, hholds r hr⟩⟩

/-! Forced builds. -/

theorem Ready.buildModule_forced (hu : Ready l o u w) (hforce : u.force = true)
    (hwhole : u.header.isWhole = true) {task : ModuleTask} {m : ModuleResult}
    (h : Reports written? w u task m) :
    ∃ w', outcome (buildModule u task) w = (.ok { m with status := some .generated }, w') := by
  obtain ⟨q, content, hasks, hheld, hsource', houtput', herror⟩ := h
  obtain ⟨s, hgoal, -⟩ := hu.wants_of_asks hasks
  obtain ⟨-, source, bytes, v, hsource, hread, hv, houtput, hrendered⟩ := hasks
  have hname : EndsInName q := hu.tracks.endsInName hgoal hheld
  have hheader : (v.forTask task).header.isWhole = true := by rw [header_forTask hv, hwhole]
  obtain ⟨x, hload⟩ := load_of_read hread hv
  obtain ⟨hfiles, hcwd, -⟩ := (quiet_load _ _).sameFiles hload
  rw [← hfiles, ← hcwd] at hheld
  obtain ⟨x', hwrite⟩ : ∃ x', outcome (writeOutput true source q [u.path]
      (render (v.forTask task)) v.header.isWhole) x = (.ok .generated, x') :=
    writeOutput_forced hrendered hheader hname hheld
  have hquery : outcome (query fun _ cwd => Path.outputFor cwd u.path task.output) x = (.ok q, x) :=
    outcome_query_ok (by rw [hcwd]; exact houtput)
  rw [buildModule, outcome_bind_ok (locateModule_of_read hsource hread),
    outcome_bind_ok (loadModule_eq_ok.2 hload), outcome_bind_ok hquery, hforce,
    outcome_bind_ok hwrite, outcome_bind_ok (outcome_log _ _), hsource', houtput', herror]
  exact ⟨_, rfl⟩

/-- The result of a forced build that finds the same. -/
def regenerated (r : BuildResult) : BuildResult :=
  { r with
    status := .generated
    modules := r.modules.map fun m => { m with status := some .generated } }

theorem buildModules_cons_ok {task : ModuleTask} {tasks : List ModuleTask} {m : ModuleResult}
    {results : List ModuleResult} (h : outcome (buildModule u task) w = (.ok m, w'))
    (hrest : outcome (buildModules u tasks) w' = (.ok results, w'')) :
    outcome (buildModules u (task :: tasks)) w = (.ok (m :: results), w'') := by
  have hattempt : outcome (attempt (buildModule u task)) w = (.ok (.ok m), w') := by
    rw [outcome_attempt, h]
  rw [buildModules, outcome_bind_ok hattempt]
  exact outcome_bind_ok hrest _

theorem Ready.buildModules_forced (hu : Ready l o u w) (hl : l.IsSound w.cwd)
    (hforce : u.force = true) (hwhole : u.header.isWhole = true) {tasks : List ModuleTask}
    {results : List ModuleResult} (h : List.Forall₂ (Reports written? w u) tasks results) :
    ∃ w', outcome (buildModules u tasks) w =
      (.ok (results.map fun m => { m with status := some .generated }), w') := by
  induction tasks generalizing w results with
  | nil =>
    cases h
    exact ⟨w, rfl⟩
  | cons task tasks ih =>
    cases h with
    | cons hreports hrest =>
      obtain ⟨v, hbuilt⟩ := hu.buildModule_forced hforce hwhole hreports
      obtain ⟨_, _, ⟨htask, -⟩, -⟩ := hreports
      have hadvances := (hu.buildModule_advances htask hbuilt).1
      have hrest' := hrest.imp fun _ _ hm => hu.reports_of_advances hl hm hadvances
      obtain ⟨x, hmore⟩ := ih (hu.advance hl hadvances) (by rwa [hadvances.1]) hrest'
      exact ⟨x, buildModules_cons_ok hbuilt hmore⟩

/-- A forced build writes again all that a result without failures reports. -/
theorem Ready.buildUnit_forced (hu : Ready l o u w) (hl : l.IsSound w.cwd)
    (hforce : u.force = true) (hwhole : u.header.isWhole = true) {r : BuildResult}
    (h : Holds written? w u r) (hall : ∀ m ∈ r.modules, m.status.isSome) :
    ∃ w', outcome (buildUnit u) w = (.ok (regenerated r), w') := by
  have hreports : List.Forall₂ (Reports written? w u) u.recipe.modules r.modules := by
    refine List.forall₂_iff_zip.2 ⟨h.modules.length_eq, fun hmem => ?_⟩
    exact List.forall₂_zip h.modules hmem (hall _ (List.of_mem_zip hmem).2)
  obtain ⟨v, hmodules⟩ := hu.buildModules_forced hl hforce hwhole hreports
  have hadvances := (hu.buildModules_advances hl (fun _ h => h) hmodules).1
  obtain ⟨hcwd, -, hgrows⟩ := hadvances
  obtain ⟨content, hrendered, hread⟩ := h.main
  obtain ⟨hgoal, hwants⟩ := hu.wants_main h.output hrendered
  have hname : EndsInName r.output := hu.tracks.endsInName hgoal hread
  have hread' : v.files.read v.cwd r.output = .ok content := by
    rw [hcwd]
    exact hu.tracks.read_of_grows hl hgrows hgoal hwants hread
  have houtput : outcome (ofExcept (u.outputPath v.cwd) : WorkspaceM Path) v =
      (.ok r.output, v) := by
    rw [outcome_ofExcept, hcwd, h.output]
  obtain ⟨x, hwrite⟩ : ∃ x, outcome (writeOutput true u.path r.output [] (render u)
      u.header.isWhole) v = (.ok .generated, x) :=
    writeOutput_forced hrendered hwhole hname hread'
  rw [buildUnit, outcome_bind_ok hmodules, outcome_bind_ok (outcome_get v),
    outcome_bind_ok houtput, hforce, outcome_bind_ok hwrite, ← h.source]
  exact ⟨_, rfl⟩

end Build

/-! Units under options that differ in force alone. -/

theorem SourceUnit.ofBytes?_force (p : Path) (bytes : List UInt8) (o : Options) (force : Bool) :
    ofBytes? p bytes { o with force } =
      (ofBytes? p bytes o).map fun u => { u with force := force || o.config.force } := by
  unfold ofBytes?
  split
  · next text _ =>
    have hdirectives : directivesOf { o with force } (Text.normalizeNewlines text) =
        directivesOf o (Text.normalizeNewlines text) := rfl
    unfold ofText
    rw [hdirectives]
    cases directivesOf o (Text.normalizeNewlines text) with
    | error failure => rfl
    | ok found =>
      dsimp only
      cases firstUndefined? found.2 <;> rfl
  · rfl

section Force

variable {l : Layout} {o : SourceUnit.Options} {cwd : Path} {t : FileTree} {now : Time}
  {w : Workspace} {u : SourceUnit}

theorem Layout.Wants.force {g : Layout.Goal} {content : List UInt8}
    (h : l.Wants o cwd t g content) (force : Bool) : l.Wants { o with force } cwd t g content := by
  obtain ⟨bytes, mtime, u, howner, hunit, hgoal⟩ := h
  refine ⟨bytes, mtime, { u with force := force || o.config.force }, howner, ?_, ?_⟩
  · rw [SourceUnit.ofBytes?_force, hunit]
    rfl
  · obtain ⟨source?, q⟩ := g
    cases source? with
    | none => exact hgoal
    | some s =>
      obtain ⟨task, htask, hsource, houtput, bytes', mtime', v, hfile, hv, hrendered⟩ := hgoal
      refine ⟨task, htask, hsource, houtput, bytes', mtime',
        { v with force := force || o.config.force || u.config.force }, hfile, ?_, hrendered⟩
      exact (SourceUnit.ofBytes?_force s bytes' (Build.moduleOptions u) _).trans (by rw [hv]; rfl)

theorem Layout.Declares.force (h : l.Declares cwd u) (force : Bool) :
    l.Declares cwd { u with force } :=
  ⟨h.output, h.modules, h.once⟩

theorem Layout.Tracks.force (h : l.Tracks o cwd t now) (force : Bool) :
    l.Tracks { o with force } cwd t now := by
  refine ⟨fun bytes mtime howner u hunit => ?_, fun g hg => ?_⟩
  · rw [SourceUnit.ofBytes?_force, Option.map_eq_some_iff] at hunit
    obtain ⟨v, hv, rfl⟩ := hunit
    exact (h.fits bytes mtime howner v hv).force _
  · rcases h.held g hg with hnone | ⟨content, mtime, hfile, hle, hname, hnewer⟩
    · exact Or.inl hnone
    · exact Or.inr ⟨content, mtime, hfile, hle, hname, fun hinputs => (hnewer hinputs).force _⟩

theorem Build.Ready.force (h : Build.Ready l o u w) (force : Bool) :
    Build.Ready l { o with force } { u with force := force || o.config.force } w := by
  obtain ⟨bytes, hread, hunit⟩ := h.owner
  refine ⟨h.tracks.force force, bytes, hread, ?_⟩
  rw [SourceUnit.ofBytes?_force, hunit]
  rfl

theorem Build.Asks.force {task : ModuleTask} {q : Path} {content : List UInt8}
    (h : Build.Asks written? w u task q content) (force : Bool) :
    Build.Asks written? w { u with force } task q content := by
  obtain ⟨htask, s, bytes, v, hsource, hread, hv, houtput, hrendered⟩ := h
  refine ⟨htask, s, bytes, { v with force := force || u.config.force }, hsource, hread, ?_, houtput,
    hrendered⟩
  exact (SourceUnit.ofBytes?_force s bytes (Build.moduleOptions u) _).trans (by rw [hv]; rfl)

theorem Build.Holds.force {r : BuildResult} (h : Build.Holds written? w u r) (force : Bool) :
    Build.Holds written? w { u with force } r := by
  refine ⟨h.source, h.output, h.main, h.modules.imp fun _ _ hreports hstatus => ?_⟩
  obtain ⟨q, content, hasks, hm⟩ := hreports hstatus
  exact ⟨q, content, hasks.force force, hm⟩

end Force

end SolInterface
