import SolInterface.Proofs.BatchInputs

/-!
A build that is repeated. A build whose outputs are all written or skipped leaves each of them newer
than all it is made from, as long as no output leads to a source. Nothing is left to do then: the
next build skips every output and changes no file, whatever its clock says.
-/
namespace SolInterface
open WorkspaceM FileTree

namespace FileTree

/-- A file that was written has the time of the writing. -/
theorem stat_of_write {t t' : FileTree} {cwd p : Path} {content : List UInt8} {now : Time}
    (h : t.write cwd p content now = .ok t') : t'.stat cwd p = .ok (.file content now) := by
  obtain ⟨-, -, hput⟩ := write_eq_ok.1 h
  obtain ⟨_, hstat⟩ := read_eq_ok.1 (read_of_write h)
  refine stat_eq_ok.2 ⟨(stat_eq_ok.1 hstat).1, ?_⟩
  rw [hput, get?_put, if_pos rfl]

variable {now : Time} {way : Location → Prop} {writes : Location → List UInt8 → Prop}
  {t t' : FileTree} {cwd p : Path}

/-- What stands at a path stays there if nothing is written at its place. -/
theorem Grows.stat {node : Node} (h : Grows now way writes t t')
    (hplace : ∀ content, ¬writes (place cwd p) content) (hstat : t.stat cwd p = .ok node) :
    t'.stat cwd p = .ok node := by
  obtain ⟨hlocate, hget⟩ := stat_eq_ok.1 hstat
  refine stat_eq_ok.2 ⟨h.locate hlocate, ?_⟩
  rcases h (place cwd p) with hsame | ⟨-, hnone, -⟩ | ⟨content, hwrites, -⟩
  · exact hsame.trans hget
  · rw [hnone] at hget
    cases hget
  · exact absurd hwrites (hplace content)

/-- What stands at a path stays there, or it is written at the time of the growth. -/
theorem Grows.exists_stat {node : Node} (h : Grows now way writes t t')
    (hstat : t.stat cwd p = .ok node) :
    ∃ node', t'.stat cwd p = .ok node' ∧ (node' = node ∨ node'.mtime = now) := by
  obtain ⟨hlocate, hget⟩ := stat_eq_ok.1 hstat
  rcases h (place cwd p) with hsame | ⟨-, hnone, -⟩ | ⟨content, -, -, hnew⟩
  · exact ⟨node, stat_eq_ok.2 ⟨h.locate hlocate, hsame.trans hget⟩, Or.inl rfl⟩
  · rw [hnone] at hget
    cases hget
  · exact ⟨_, stat_eq_ok.2 ⟨h.locate hlocate, hnew⟩, Or.inr rfl⟩

end FileTree

namespace Build

variable {w w' v v' : Workspace} {o : SourceUnit.Options} {u : SourceUnit} {task : ModuleTask}
  {tasks : List ModuleTask} {results : List ModuleResult}

/-! Outputs that are up to date. -/

theorem OlderThan.grows {now time : Time} {way : Location → Prop}
    {writes : Location → List UInt8 → Prop} {t t' : FileTree} {cwd : Path} {paths : List Path}
    (h : OlderThan t cwd time paths) (hgrows : Grows now way writes t t')
    (hpaths : ∀ p ∈ paths, ∀ content, ¬writes (place cwd p) content) :
    OlderThan t' cwd time paths := by
  intro p hp
  obtain ⟨node, hstat, hold⟩ := h p hp
  exact ⟨node, hgrows.stat (hpaths p hp) hstat, hold⟩

def IsFresh (files : FileTree) (cwd output : Path) (inputs : List Path) : Prop :=
  ∃ written, files.stat cwd output = .ok written ∧ OlderThan files cwd written.mtime inputs

/-- A fresh output stays fresh, also where it is written anew, while its inputs are kept. -/
theorem IsFresh.grows {now : Time} {way : Location → Prop}
    {writes : Location → List UInt8 → Prop} {t t' : FileTree} {cwd output : Path}
    {inputs : List Path} (h : IsFresh t cwd output inputs) (hgrows : Grows now way writes t t')
    (hold : OlderThan t cwd now inputs)
    (hinputs : ∀ p ∈ inputs, ∀ content, ¬writes (place cwd p) content) :
    IsFresh t' cwd output inputs := by
  obtain ⟨written, hstat, holder⟩ := h
  obtain ⟨written', hstat', rfl | hnow⟩ := hgrows.exists_stat hstat
  · exact ⟨written', hstat', holder.grows hgrows hinputs⟩
  · exact ⟨written', hstat', hnow ▸ hold.grows hgrows hinputs⟩

theorem newest_of_olderThan {latest time : Time} {paths : List Path} (hlatest : latest < time)
    (h : OlderThan w.files w.cwd time paths) :
    ∃ found, outcome (newest latest paths) w = (.ok found, w) ∧ found < time := by
  induction paths generalizing latest with
  | nil => exact ⟨latest, rfl, hlatest⟩
  | cons p paths ih =>
    obtain ⟨node, hstat, hold⟩ := h p List.mem_cons_self
    have hmax : max latest node.mtime < time := Int.max_lt.2 ⟨hlatest, hold⟩
    obtain ⟨found, hfound, hlt⟩ := ih hmax fun q hq => h q (List.mem_cons_of_mem _ hq)
    have hquery : outcome (query fun files cwd => files.stat cwd p) w = (.ok node, w) :=
      outcome_query_ok hstat
    refine ⟨found, ?_, hlt⟩
    rw [newest, outcome_bind_ok hquery, hfound]

theorem isUpToDate_of_isFresh {source output : Path} {dependsOn : List Path}
    (h : IsFresh w.files w.cwd output (source :: dependsOn)) :
    outcome (isUpToDate false source output dependsOn) w = (.ok true, w) := by
  obtain ⟨written, hwritten, holder⟩ := h
  obtain ⟨node, hnode, hold⟩ := holder source List.mem_cons_self
  obtain ⟨latest, hnewest, hlatest⟩ :=
    newest_of_olderThan hold fun p hp => holder p (List.mem_cons_of_mem _ hp)
  have hthere : outcome (query fun files cwd => files.pathExists cwd output) w = (.ok true, w) :=
    outcome_query_ok (pathExists_eq_true.2 ⟨written, hwritten⟩)
  have hsource : outcome (query fun files cwd => files.stat cwd source) w = (.ok node, w) :=
    outcome_query_ok hnode
  have houtput : outcome (query fun files cwd => files.stat cwd output) w = (.ok written, w) :=
    outcome_query_ok hwritten
  rw [isUpToDate, if_neg (by simp), outcome_bind_ok hthere, if_neg (by simp),
    outcome_bind_ok hsource, outcome_bind_ok hnewest, outcome_bind_ok houtput, outcome_pure,
    decide_eq_true hlatest]

/-- A fresh output is skipped. -/
theorem writeOutput_of_isFresh {source output : Path} {dependsOn : List Path}
    (h : IsFresh w.files w.cwd output (source :: dependsOn)) (rendering : WorkspaceM Text)
    (encodable : Bool) :
    ∃ w', outcome (writeOutput false source output dependsOn rendering encodable) w =
      (.ok .skipped, w') ∧ w.SameFiles w' := by
  refine ⟨_, ?_, quiet_log [.upToDate output] w⟩
  rw [writeOutput, outcome_bind_ok (isUpToDate_of_isFresh h), if_pos rfl]
  rfl

theorem stat_of_writeText {p : Path} {text : Text} {encodable : Bool}
    (h : outcome (writeText p text encodable) w = (.ok (), w')) :
    ∃ content, w'.files.stat w.cwd p = .ok (.file content w.now) := by
  rw [outcome_writeText] at h
  split at h
  · cases h
  · split at h
    · cases h
    · next hwrite =>
      obtain ⟨-, rfl⟩ := Prod.mk.inj h
      exact ⟨_, stat_of_write hwrite⟩

/-- An output that was written or skipped is fresh, if its inputs are older than the clock and it
leads to none of them. -/
theorem isFresh_of_writeOutput {force : Bool} {source output : Path} {dependsOn : List Path}
    {status : Status}
    (h : outcome (writeOutput force source output dependsOn (render u) u.header.isWhole) w =
      (.ok status, w'))
    (hold : OlderThan w.files w.cwd w.now (source :: dependsOn))
    (hapart : ∀ p ∈ source :: dependsOn, place w.cwd output ≠ place w.cwd p) :
    IsFresh w'.files w.cwd output (source :: dependsOn) := by
  have hgrows := (writeOutput_grown h).1.2.2
  rcases outcome_bind_cases h with ⟨_, -, hanswer⟩ | ⟨isFresh, x, hfresh, h⟩
  · cases hanswer
  have hsame := (quiet_isUpToDate _ _ _ _).sameFiles hfresh
  split at h
  · rename_i htrue
    obtain rfl : isFresh = true := htrue
    rw [outcome_bind_ok (outcome_log _ x)] at h
    cases h
    obtain ⟨written, hstat, holder⟩ := isUpToDate_eq_true hfresh
    rw [← hsame.1] at hstat holder
    exact ⟨written, hstat, holder⟩
  rcases outcome_bind_cases h with ⟨_, -, hanswer⟩ | ⟨text, x', hrender, h⟩
  · cases hanswer
  obtain ⟨-, hcwd, hnow⟩ := hsame.trans ((quiet_render u).sameFiles hrender)
  rcases outcome_bind_cases h with ⟨_, -, hanswer⟩ | ⟨_, x'', htext, h⟩
  · cases hanswer
  rw [outcome_bind_ok (outcome_log _ x'')] at h
  cases h
  obtain ⟨content, hstat⟩ := stat_of_writeText htext
  rw [hcwd, hnow] at hstat
  exact ⟨_, hstat, hold.grows hgrows fun p hp _ hwrites => hapart p hp hwrites.1.symm⟩

end Build

/-- The paths from which the interfaces of a unit and of its modules are made. -/
def SourceUnit.inputs (u : SourceUnit) (cwd : Path) : List Path :=
  u.path :: u.recipe.modules.filterMap fun task =>
    (Build.modulePath cwd u.path u.config.packagesDir task.source).toOption

def SourceUnit.KeepsApart (u : SourceUnit) (cwd : Path) : Prop :=
  ∀ q ∈ u.outputs cwd, ∀ p ∈ u.inputs cwd, place cwd q ≠ place cwd p

instance (u : SourceUnit) (cwd : Path) : Decidable (u.KeepsApart cwd) :=
  inferInstanceAs (Decidable (∀ q ∈ u.outputs cwd, _))

namespace SourceUnit

variable {u : SourceUnit} {cwd : Path} {task : ModuleTask}

theorem mem_inputs_of_task (htask : task ∈ u.recipe.modules) {source : Path}
    (h : Build.modulePath cwd u.path u.config.packagesDir task.source = .ok source) :
    source ∈ u.inputs cwd :=
  List.mem_cons_of_mem _ (List.mem_filterMap.2 ⟨task, htask, by rw [h]; rfl⟩)

theorem mem_outputs_of_task (htask : task ∈ u.recipe.modules) {output : Path}
    (h : Path.outputFor cwd u.path task.output = .ok output) : output ∈ u.outputs cwd :=
  List.mem_append_right _ (List.mem_filterMap.2 ⟨task, htask, by rw [h]; rfl⟩)

theorem mem_outputs_of_outputPath {output : Path} (h : u.outputPath cwd = .ok output) :
    output ∈ u.outputs cwd :=
  List.mem_append_left _ (by rw [h]; exact List.mem_singleton_self output)

end SourceUnit

namespace Build

variable {w w' v v' : Workspace} {o : SourceUnit.Options} {u : SourceUnit} {task : ModuleTask}
  {tasks : List ModuleTask} {results : List ModuleResult}

def AtOutput (u : SourceUnit) (cwd : Path) (loc : Location) (_ : List UInt8) : Prop :=
  ∃ q ∈ u.outputs cwd, loc = place cwd q

theorem not_atOutput {cwd p : Path} (h : u.KeepsApart cwd) (hp : p ∈ u.inputs cwd)
    (content : List UInt8) : ¬AtOutput u cwd (place cwd p) content := by
  rintro ⟨q, hq, hplace⟩
  exact h q hq p hp hplace.symm

/-- A build of the unit began at `w`, where its source is read and every file is older than the
clock. Since then the files have grown at outputs alone, and these keep apart from the sources. -/
structure Underway (u : SourceUnit) (w v : Workspace) : Prop where
  apart : u.KeepsApart w.cwd
  clock : ∀ loc content mtime, w.files.file? loc = some (content, mtime) → mtime < w.now
  owner : ∃ bytes, w.files.read w.cwd u.path = .ok bytes
  grown : w.Grown (fun _ => True) (AtOutput u w.cwd) v

namespace Underway

theorem grow (h : Underway u w v) (hgrown : v.Grown (fun _ => True) (AtOutput u w.cwd) v') :
    Underway u w v' :=
  ⟨h.apart, h.clock, h.owner, h.grown.trans hgrown⟩

theorem read_owner (h : Underway u w v) : ∃ bytes, v.files.read w.cwd u.path = .ok bytes := by
  obtain ⟨bytes, hread⟩ := h.owner
  exact ⟨bytes, h.grown.2.2.read (not_atOutput h.apart List.mem_cons_self) hread⟩

/-- Sources that can be read on the way are older than the clock. -/
theorem olderThan (h : Underway u w v) {paths : List Path}
    (hpaths : ∀ p ∈ paths, p ∈ u.inputs w.cwd)
    (hread : ∀ p ∈ paths, ∃ bytes, v.files.read w.cwd p = .ok bytes) :
    OlderThan v.files w.cwd w.now paths := by
  intro p hp
  obtain ⟨bytes, hbytes⟩ := hread p hp
  obtain ⟨mtime, hstat⟩ := read_eq_ok.1 hbytes
  have hget := (stat_eq_ok.1 hstat).2
  rw [h.grown.2.2.file_iff (not_atOutput h.apart (hpaths p hp))] at hget
  have hfile : w.files.file? (place w.cwd p) = some (bytes, mtime) := by
    simp only [FileTree.file?, hget]
  exact ⟨_, hstat, h.clock _ bytes mtime hfile⟩

/-- The source of a module is older than the clock, and so is its owner. -/
theorem olderThan_module (h : Underway u w v) {source : Path} (hsource : source ∈ u.inputs w.cwd)
    {bytes : List UInt8} (hread : v.files.read w.cwd source = .ok bytes) :
    (∀ p ∈ [source, u.path], p ∈ u.inputs w.cwd) ∧
      OlderThan v.files w.cwd w.now [source, u.path] := by
  have hpair : ∀ p ∈ [source, u.path], p ∈ u.inputs w.cwd := by
    simp only [List.forall_mem_cons]
    exact ⟨hsource, List.mem_cons_self, by simp⟩
  refine ⟨hpair, h.olderThan hpair ?_⟩
  simp only [List.forall_mem_cons]
  exact ⟨⟨bytes, hread⟩, h.read_owner, by simp⟩

end Underway

/-! The modules. -/

/-- The source of the task makes a unit, and the output that the result names is fresh. -/
def Stands (files : FileTree) (cwd : Path) (owner : SourceUnit) (task : ModuleTask)
    (m : ModuleResult) : Prop :=
  ∃ source bytes unit output status,
    modulePath cwd owner.path owner.config.packagesDir task.source = .ok source ∧
    files.read cwd source = .ok bytes ∧
    SourceUnit.ofBytes? source bytes (moduleOptions owner) = some unit ∧
    Path.outputFor cwd owner.path task.output = .ok output ∧
    IsFresh files cwd output [source, owner.path] ∧
    m = ⟨task.source, output.text, some status, none⟩

theorem Underway.stands_of_built (h : Underway u w v) (htask : task ∈ u.recipe.modules)
    {m : ModuleResult} (hbuilt : outcome (buildModule u task) v = (.ok m, v')) :
    Stands v'.files w.cwd u task m := by
  obtain ⟨hcwd, hnow, -⟩ := h.grown
  rcases buildModule_cases hbuilt with ⟨-, _, hanswer⟩ | ⟨source, bytes, unit, output, x, x',
    written, hpath, hread, hunit, houtput, hsame, hwrite, hsame', hanswer⟩
  · cases hanswer
  cases written with
  | error failure => cases hanswer
  | ok status =>
    cases hanswer
    rw [hcwd] at hpath hread houtput
    have hsource := SourceUnit.mem_inputs_of_task htask hpath
    have hapart := h.apart output (SourceUnit.mem_outputs_of_task htask houtput)
    obtain ⟨hpair, hold⟩ := h.olderThan_module hsource hread
    obtain ⟨hfiles, hcwd', hnow'⟩ := hsame
    rw [hcwd] at hcwd'
    rw [hnow] at hnow'
    have hfresh := isFresh_of_writeOutput hwrite (by rwa [hfiles, hcwd', hnow'])
      fun p hp => hcwd' ▸ hapart p (hpair p hp)
    have hgrows := (writeOutput_grown hwrite).1.2.2
    rw [hfiles, hcwd'] at hgrows
    have hkept := hgrows.read (fun _ hwrites => hapart source hsource hwrites.1.symm) hread
    rw [hcwd', ← hsame'.1] at hfresh
    rw [← hsame'.1] at hkept
    exact ⟨source, bytes, unit, output, status, hpath, hkept, hunit, houtput, hfresh, rfl⟩

theorem Underway.stands_grow (h : Underway u w v) (htask : task ∈ u.recipe.modules)
    {m : ModuleResult} (hstands : Stands v.files w.cwd u task m)
    (hgrown : v.Grown (fun _ => True) (AtOutput u w.cwd) v') : Stands v'.files w.cwd u task m := by
  obtain ⟨source, bytes, unit, output, status, hpath, hread, hunit, houtput, hfresh, rfl⟩ := hstands
  have hsource := SourceUnit.mem_inputs_of_task htask hpath
  obtain ⟨hpair, hold⟩ := h.olderThan_module hsource hread
  obtain ⟨-, -, hgrows⟩ := hgrown
  rw [h.grown.2.1] at hgrows
  have hkept := hgrows.read (not_atOutput h.apart hsource) hread
  have hfresh' := hfresh.grows hgrows hold fun p hp => not_atOutput h.apart (hpair p hp)
  exact ⟨source, bytes, unit, output, status, hpath, hkept, hunit, houtput, hfresh', rfl⟩

/-- A build of modules writes at outputs of the unit. -/
theorem buildModules_atOutput (htasks : ∀ task ∈ tasks, task ∈ u.recipe.modules)
    {answer : Except Failure (List ModuleResult)}
    (h : outcome (buildModules u tasks) v = (answer, v')) :
    v.Grown (fun _ => True) (AtOutput u v.cwd) v' := by
  refine (buildModules_frame htasks h).mono (fun _ h => h) fun loc content hwrites => ?_
  obtain ⟨task, htask, q, hq, rfl⟩ := hwrites.exists_task
  exact ⟨q, SourceUnit.mem_outputs_of_task (htasks task htask) hq, rfl⟩

/-- Modules that all came out stand in the end, each as its result says. -/
theorem Underway.stands_of_modules (h : Underway u w v)
    (htasks : ∀ task ∈ tasks, task ∈ u.recipe.modules)
    (hbuilt : outcome (buildModules u tasks) v = (.ok results, v'))
    (hresults : ∀ m ∈ results, m.status.isSome) :
    List.Forall₂ (Stands v'.files w.cwd u) tasks results := by
  induction tasks generalizing v results with
  | nil =>
    cases hbuilt
    exact .nil
  | cons task tasks ih =>
    have htask := htasks task List.mem_cons_self
    have hmore : ∀ t ∈ tasks, t ∈ u.recipe.modules := fun t ht =>
      htasks t (List.mem_cons_of_mem _ ht)
    have hcwd := h.grown.1
    rcases passes_or_stops u task v with
      ⟨built, x, x', m, hfirst, hsame, hpasses, hm⟩ | ⟨failure, x, -, -, hstops⟩
    · rw [hpasses tasks] at hbuilt
      rcases hrest : outcome (buildModules u tasks) x' with ⟨failure | more, y⟩
      · rw [hrest] at hbuilt
        cases hbuilt
      · rw [hrest] at hbuilt
        cases hbuilt
        obtain ⟨hstatus, hstatuses⟩ := List.forall_mem_cons.1 hresults
        rcases hm with rfl | ⟨failure, -, -, rfl⟩
        · -- What the first task leaves stands while the others are built.
          have halone : outcome (buildModules u [task]) v = (.ok [m], x') := by
            rw [hpasses []]
            rfl
          have hgrown := buildModules_atOutput (by simpa using htask) halone
          have hothers := buildModules_atOutput hmore hrest
          have hcwd' : x'.cwd = w.cwd := hgrown.1.trans hcwd
          rw [hcwd] at hgrown
          rw [hcwd'] at hothers
          have hunderway := h.grow hgrown
          have hstands := h.stands_of_built htask hfirst
          rw [← hsame.1] at hstands
          exact .cons (hunderway.stands_grow htask hstands hothers)
            (ih hunderway hmore hrest hstatuses)
        · cases hstatus
    · rw [hstops tasks] at hbuilt
      cases hbuilt

/-! The second build. -/

def skipped (r : BuildResult) : BuildResult :=
  { r with
    status := .skipped
    modules := r.modules.map fun m => { m with status := some .skipped } }

theorem buildModule_of_stands (hforce : u.force = false) {m : ModuleResult}
    (h : Stands v.files v.cwd u task m) :
    ∃ v', outcome (buildModule u task) v = (.ok { m with status := some .skipped }, v') ∧
      v.SameFiles v' := by
  obtain ⟨source, bytes, unit, output, status, hpath, hread, hunit, houtput, hfresh, rfl⟩ := h
  obtain ⟨x, hload⟩ := load_of_read hread hunit
  have hsame := (quiet_load _ _).sameFiles hload
  have hquery : outcome (query fun _ cwd => Path.outputFor cwd u.path task.output) x =
      (.ok output, x) := outcome_query_ok (by rw [hsame.2.1]; exact houtput)
  rw [← hsame.1, ← hsame.2.1] at hfresh
  obtain ⟨x', hwrite, hsame'⟩ :=
    writeOutput_of_isFresh hfresh (render (unit.forTask task)) unit.header.isWhole
  refine ⟨_, ?_, (hsame.trans hsame').trans
    (quiet_log [.moduleBuilt .skipped task.source output] x')⟩
  rw [buildModule, outcome_bind_ok (locateModule_of_read hpath hread),
    outcome_bind_ok (loadModule_eq_ok.2 hload), outcome_bind_ok hquery, hforce,
    outcome_bind_ok hwrite, outcome_bind_ok (outcome_log _ _)]
  rfl

theorem buildModules_of_stands (hforce : u.force = false)
    (h : List.Forall₂ (Stands v.files v.cwd u) tasks results) :
    ∃ v', outcome (buildModules u tasks) v =
      (.ok (results.map fun m => { m with status := some .skipped }), v') ∧ v.SameFiles v' := by
  induction tasks generalizing v results with
  | nil =>
    cases h
    exact ⟨v, rfl, .refl v⟩
  | cons task tasks ih =>
    cases h with
    | cons hfirst hrest =>
      obtain ⟨x, hbuilt, hsame⟩ := buildModule_of_stands hforce hfirst
      rw [← hsame.1, ← hsame.2.1] at hrest
      obtain ⟨y, hmore, hsame'⟩ := ih hrest
      exact ⟨y, buildModules_cons_ok hbuilt hmore, hsame.trans hsame'⟩

theorem buildUnit_of_stands (hforce : u.force = false) {r : BuildResult}
    (hsource : r.source = u.path) (houtput : u.outputPath v.cwd = .ok r.output)
    (hfresh : IsFresh v.files v.cwd r.output [u.path])
    (hmodules : List.Forall₂ (Stands v.files v.cwd u) u.recipe.modules r.modules) :
    ∃ v', outcome (buildUnit u) v = (.ok (skipped r), v') ∧ v.SameFiles v' := by
  obtain ⟨x, hbuilt, hsame⟩ := buildModules_of_stands hforce hmodules
  have hpath : outcome (ofExcept (u.outputPath x.cwd) : WorkspaceM Path) x = (.ok r.output, x) := by
    rw [outcome_ofExcept, hsame.2.1, houtput]
  rw [← hsame.1, ← hsame.2.1] at hfresh
  obtain ⟨y, hwrite, hsame'⟩ := writeOutput_of_isFresh hfresh (render u) u.header.isWhole
  refine ⟨y, ?_, hsame.trans hsame'⟩
  rw [buildUnit, outcome_bind_ok hbuilt, outcome_bind_ok (outcome_get x), outcome_bind_ok hpath,
    hforce, outcome_bind_ok hwrite, ← hsource]
  rfl

/-- What a build that came out leaves: its own output is fresh, and its modules stand. -/
theorem Underway.stands_of_unit (h : Underway u w v) {r : BuildResult}
    (hbuilt : outcome (buildUnit u) v = (.ok r, v')) (hmodules : ∀ m ∈ r.modules, m.status.isSome) :
    Underway u w v' ∧ r.source = u.path ∧ u.outputPath w.cwd = .ok r.output ∧
      IsFresh v'.files w.cwd r.output [u.path] ∧
      List.Forall₂ (Stands v'.files w.cwd u) u.recipe.modules r.modules := by
  rcases outcome_bind_cases hbuilt with ⟨_, -, hanswer⟩ | ⟨results, x, hrun, hbuilt⟩
  · cases hanswer
  rw [outcome_bind_ok (outcome_get x)] at hbuilt
  rcases outcome_bind_cases hbuilt with ⟨_, -, hanswer⟩ | ⟨q, y, houtput, hbuilt⟩
  · cases hanswer
  rw [outcome_ofExcept] at houtput
  obtain ⟨hpath, rfl⟩ := Prod.mk.inj houtput
  rcases outcome_bind_cases hbuilt with ⟨_, -, hanswer⟩ | ⟨status, y, hwrite, hbuilt⟩
  · cases hanswer
  cases hbuilt
  have hgrown := buildModules_atOutput (fun _ h => h) hrun
  rw [h.grown.1] at hgrown
  have hafter := h.grow hgrown
  obtain ⟨hcwd, hnow, -⟩ := hafter.grown
  rw [hcwd] at hpath
  have hq := SourceUnit.mem_outputs_of_outputPath hpath
  have hown : ∀ p ∈ [u.path], p ∈ u.inputs w.cwd := by
    simp [SourceUnit.inputs]
  have hold : OlderThan x.files w.cwd w.now [u.path] :=
    hafter.olderThan hown (by simpa using hafter.read_owner)
  have hfresh := isFresh_of_writeOutput hwrite (by rwa [hcwd, hnow])
    fun p hp => hcwd ▸ hafter.apart q hq p (hown p hp)
  have hwritten : x.Grown (fun _ => True) (AtOutput u w.cwd) v' :=
    (writeOutput_frame hwrite).mono (fun _ h => h) fun loc _ hloc => ⟨q, hq, hcwd ▸ hloc.1⟩
  have hstands := (h.stands_of_modules (fun _ h => h) hrun hmodules)
  rw [hcwd] at hfresh
  refine ⟨hafter.grow hwritten, rfl, hpath, hfresh, ?_⟩
  refine List.forall₂_iff_zip.2 ⟨hstands.length_eq, fun hmem => ?_⟩
  exact hafter.stands_grow (List.of_mem_zip hmem).1 (List.forall₂_zip hstands hmem) hwritten

/-- After a build that came out in all its parts, over files older than its clock and with outputs
that lead to no source, another build gives the same result with all outputs skipped, and leaves the
files as they are. -/
theorem buildFile_again {p : Path} {r : BuildResult}
    (hrun : outcome (buildFile p o) w = (.ok r, w'))
    (hunit : (outcome (load p o) w).1 = .ok u) (hforce : u.force = false)
    (hclock : ∀ loc content mtime, w.files.file? loc = some (content, mtime) → mtime < w.now)
    (hmodules : ∀ m ∈ r.modules, m.status.isSome) (hapart : u.KeepsApart w.cwd)
    (hfiles : v.files = w'.files) (hcwd : v.cwd = w'.cwd) :
    ∃ v', outcome (buildFile p o) v = (.ok (skipped r), v') ∧ v'.files = v.files := by
  obtain ⟨x, hload⟩ := exists_outcome hunit
  obtain ⟨bytes, hread, hbytes⟩ := load_eq_ok hload
  have hpath : u.path = p := (SourceUnit.ofBytes?_eq_some hbytes).1
  have hsame := (quiet_load p o).sameFiles hload
  rw [buildFile, outcome_bind_ok hload] at hrun
  have hstart : Underway u w x := ⟨hapart, hclock, ⟨bytes, hpath ▸ hread⟩, hsame.grown⟩
  obtain ⟨hend, hsource, houtput, hfresh, hstands⟩ := hstart.stands_of_unit hrun hmodules
  have hcwd' : v.cwd = w.cwd := hcwd.trans hend.grown.1
  -- The source is read again as it was, and makes the same unit.
  have hagain : v.files.read v.cwd p = .ok bytes := by
    rw [hfiles, hcwd', ← hpath]
    exact hend.grown.2.2.read (not_atOutput hapart List.mem_cons_self) (hpath ▸ hread)
  obtain ⟨y, hload'⟩ := load_of_read hagain hbytes
  have hsame' := (quiet_load p o).sameFiles hload'
  rw [← hfiles, ← hsame'.1, ← hcwd', ← hsame'.2.1] at hfresh hstands
  rw [← hcwd', ← hsame'.2.1] at houtput
  obtain ⟨v', hbuilt, hkept⟩ := buildUnit_of_stands hforce hsource houtput hfresh hstands
  refine ⟨v', ?_, (hsame'.trans hkept).1⟩
  rw [buildFile, outcome_bind_ok hload', hbuilt]

/-- A source that has changed since its interface was written, and a module that has not. -/
def partlyFresh : Workspace where
  files := ⟨[([], .directory 0), (["p".toList], .directory 0),
    (["p".toList, "A.sol".toList], .file (Utf8.encode Batch.owningText) 2),
    (["p".toList, "M.sol".toList], .file (Utf8.encode Batch.ownedText) 0),
    (["p".toList, "IA.sol".toList], .file (Utf8.encode "old") 1),
    (["p".toList, "IM.sol".toList], .file (Utf8.encode "kept") 3)]⟩
  cwd := ⟨.root, ["p".toList]⟩
  now := 4

/-- The first build and what it is given, evaluated. -/
theorem partlyFresh_build :
    (outcome (buildFile Batch.firstSource {}) partlyFresh).1 =
        .ok ⟨Batch.firstSource, ⟨.root, ["p".toList, "IA.sol".toList]⟩, .generated,
          [⟨"./M.sol", "/p/IM.sol", some .skipped, none⟩]⟩ ∧
      ((outcome (load Batch.firstSource {}) partlyFresh).1.map fun u =>
        (u.force, decide (u.KeepsApart partlyFresh.cwd))).toOption = some (false, true) := by
  decide +kernel

theorem partlyFresh_clock {loc : Location} {content : List UInt8} {mtime : Time}
    (h : partlyFresh.files.file? loc = some (content, mtime)) : mtime < partlyFresh.now := by
  have hentries : ∀ e ∈ partlyFresh.files.entries, e.2.mtime < partlyFresh.now := by decide
  unfold FileTree.file? at h
  split at h
  · next hget =>
    cases h
    exact hentries _ (mem_entries_of_get? hget)
  · cases h

/-- The second build skips what the first one wrote, and what it had skipped. -/
theorem second_build_skips :
    ∃ w' v', outcome (buildFile Batch.firstSource {}) partlyFresh =
        (.ok ⟨Batch.firstSource, ⟨.root, ["p".toList, "IA.sol".toList]⟩, .generated,
          [⟨"./M.sol", "/p/IM.sol", some .skipped, none⟩]⟩, w') ∧
      outcome (buildFile Batch.firstSource {}) { w' with now := 9 } =
        (.ok ⟨Batch.firstSource, ⟨.root, ["p".toList, "IA.sol".toList]⟩, .skipped,
          [⟨"./M.sol", "/p/IM.sol", some .skipped, none⟩]⟩, v') ∧
      v'.files = w'.files := by
  obtain ⟨hresult, hload⟩ := partlyFresh_build
  obtain ⟨w', hrun⟩ := exists_outcome hresult
  cases hunit : (outcome (load Batch.firstSource {}) partlyFresh).1 with
  | error failure =>
    rw [hunit] at hload
    cases hload
  | ok u =>
    rw [hunit] at hload
    obtain ⟨hforce, hapart⟩ : u.force = false ∧ u.KeepsApart partlyFresh.cwd := by
      simpa [Except.map, Except.toOption] using hload
    obtain ⟨v', hagain, hfiles⟩ := @buildFile_again partlyFresh w' { w' with now := 9 } {} u
      Batch.firstSource _ hrun hunit hforce (fun _ _ _ => partlyFresh_clock) (by simp) hapart rfl
      rfl
    exact ⟨w', v', hrun, hagain, hfiles⟩

end Build
end SolInterface
