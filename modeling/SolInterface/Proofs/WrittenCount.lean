import Mathlib.Algebra.Order.BigOperators.Group.List
import Mathlib.Algebra.Order.Group.Nat
import SolInterface.Proofs.BatchTally

/-!
The outputs that a batch writes, against those that its summary counts. Each output is logged when
it has been written. A source that is built counts itself and its modules; the modules of a source
that fails are written before it fails, and no count has them.
-/
namespace SolInterface
open WorkspaceM

def Workspace.writes (w : Workspace) : Nat := w.log.countP Event.isWritten

theorem Workspace.Shows.writes_eq {w w' : Workspace} (h : w.Shows w') : w'.writes = w.writes := by
  rw [Workspace.writes, h.log_eq, Workspace.writes]

/-! Actions that write no output. -/

theorem isSteady_writes : Workspace.IsSteady fun w w' => w'.writes = w.writes :=
  ⟨fun _ => rfl, fun h h' => h'.trans h⟩

def WorkspaceM.WritesNone {α : Type} (action : WorkspaceM α) : Prop :=
  Keeps (fun w w' => w'.writes = w.writes) action

namespace WorkspaceM

variable {α β : Type} {w w' : Workspace}

theorem WritesNone.writes_eq {action : WorkspaceM α} (h : WritesNone action)
    {answer : Except Failure α} (hw : outcome action w = (answer, w')) : w'.writes = w.writes :=
  Keeps.of_outcome h hw

theorem OnlyPrints.writesNone {action : WorkspaceM α} (h : OnlyPrints action) :
    WritesNone action := fun w => (h w).writes_eq

theorem writesNone_log (events : List Event) (h : ∀ event ∈ events, event.isWritten = false) :
    WritesNone (log events) := by
  intro w
  rw [outcome_log, Workspace.writes, List.countP_append, Workspace.writes, Nat.add_eq_left,
    List.countP_eq_zero]
  exact fun event hevent => by simp [h event hevent]

theorem writesNone_query (f : FileTree → Path → Except FileError α) : WritesNone (query f) :=
  keeps_query isSteady_writes f

theorem writesNone_ofExcept (answer : Except Failure α) :
    WritesNone (ofExcept answer : WorkspaceM α) := keeps_ofExcept isSteady_writes answer

/-- The text is there before it is logged. -/
theorem writesNone_writeText (p : Path) (text : Text) (encodable : Bool) :
    WritesNone (writeText p text encodable) := by
  intro w
  rw [outcome_writeText]
  split
  · rfl
  · split <;> rfl

end WorkspaceM

namespace Build

variable {owner : SourceUnit} {task : ModuleTask} {tasks : List ModuleTask} {w w' : Workspace}

theorem writesNone_load (p : Path) (o : SourceUnit.Options) : WritesNone (load p o) :=
  keeps_load isSteady_writes writesNone_log p o

theorem writesNone_render (u : SourceUnit) : WritesNone (render u) :=
  keeps_render isSteady_writes writesNone_log u

theorem writesNone_loadModule (owner : SourceUnit) (name : Text) (p : Path) :
    WritesNone (loadModule owner name p) :=
  keeps_loadModule isSteady_writes writesNone_log owner name p

theorem writesNone_isUpToDate (force : Bool) (source output : Path) (dependsOn : List Path) :
    WritesNone (isUpToDate force source output dependsOn) :=
  keeps_isUpToDate isSteady_writes force source output dependsOn

theorem writesNone_locateModule (owner : Path) (packagesDir name : Text) :
    WritesNone (locateModule owner packagesDir name) :=
  keeps_locateModule isSteady_writes owner packagesDir name

/-! Outputs, modules and sources. -/

/-- An output counts as generated if it was written and not skipped. -/
def generatedCount (status : Option Status) : Nat := if status = some .generated then 1 else 0

theorem writes_writeOutput {force encodable : Bool} {source output : Path} {dependsOn : List Path}
    {u : SourceUnit} {answer : Except Failure Status}
    (h : outcome (writeOutput force source output dependsOn (render u) encodable) w =
      (answer, w')) : w'.writes = w.writes + generatedCount answer.toOption := by
  rcases outcome_bind_cases h with ⟨failure, hfresh, rfl⟩ | ⟨isFresh, v, hfresh, hrest⟩
  · exact (writesNone_isUpToDate _ _ _ _).writes_eq hfresh
  have hv := (writesNone_isUpToDate _ _ _ _).writes_eq hfresh
  cases isFresh with
  | true =>
    cases hrest
    exact ((writesNone_log _ (by simp [Event.isWritten])) v).trans hv
  | false =>
    rcases outcome_bind_cases hrest with ⟨failure, hrender, rfl⟩ | ⟨text, x, hrender, hrest⟩
    · exact ((writesNone_render u).writes_eq hrender).trans hv
    have hx := ((writesNone_render u).writes_eq hrender).trans hv
    rcases outcome_bind_cases hrest with ⟨failure, htext, rfl⟩ | ⟨_, y, htext, hrest⟩
    · exact ((writesNone_writeText _ _ _).writes_eq htext).trans hx
    have hy := ((writesNone_writeText _ _ _).writes_eq htext).trans hx
    cases hrest
    rw [← hy]
    simp [Workspace.writes, Event.isWritten, generatedCount, Except.toOption]

/-- A module that could not be built was not written. -/
theorem writes_buildModule {answer : Except Failure ModuleResult}
    (h : outcome (buildModule owner task) w = (answer, w')) :
    w'.writes = w.writes + generatedCount (answer.toOption.bind (·.status)) := by
  rcases outcome_bind_cases h with ⟨failure, hlocate, rfl⟩ | ⟨path, v, hlocate, hrest⟩
  · exact (writesNone_locateModule _ _ _).writes_eq hlocate
  have hv := (writesNone_locateModule _ _ _).writes_eq hlocate
  rcases outcome_bind_cases hrest with ⟨failure, hload, rfl⟩ | ⟨unit, x, hload, hrest⟩
  · exact ((writesNone_loadModule _ _ _).writes_eq hload).trans hv
  have hx := ((writesNone_loadModule _ _ _).writes_eq hload).trans hv
  rcases outcome_bind_cases hrest with ⟨failure, houtput, rfl⟩ | ⟨output, y, houtput, hrest⟩
  · exact ((writesNone_query _).writes_eq houtput).trans hx
  have hy := ((writesNone_query _).writes_eq houtput).trans hx
  rcases outcome_bind_cases hrest with ⟨failure, hwrite, rfl⟩ | ⟨status, z, hwrite, hrest⟩
  · rw [writes_writeOutput hwrite, hy]
    rfl
  have hz := writes_writeOutput hwrite
  cases hrest
  rw [hy] at hz
  exact ((writesNone_log _ (by simp [Event.isWritten])) z).trans hz

def generatedModules (results : List ModuleResult) : Nat :=
  (results.map fun m => generatedCount m.status).sum

def generatedOutputs (r : BuildResult) : Nat :=
  generatedCount (some r.status) + generatedModules r.modules

theorem writes_buildModules {results : List ModuleResult}
    (h : outcome (buildModules owner tasks) w = (.ok results, w')) :
    w'.writes = w.writes + generatedModules results := by
  induction tasks generalizing w results with
  | nil =>
    cases h
    rfl
  | cons task tasks ih =>
    -- What is left after the task and its result, whether it was built or not.
    have hrun : ∀ {m : ModuleResult} {v : Workspace}, Passes owner task w m v →
        v.writes = w.writes + generatedCount m.status →
        w'.writes = w.writes + generatedModules results := by
      intro m v hpasses hv
      rw [hpasses tasks] at h
      rcases hrest : outcome (buildModules owner tasks) v with ⟨failure | more, x⟩
      · rw [hrest] at h
        cases h
      · rw [hrest] at h
        cases h
        rw [ih hrest, hv, generatedModules, generatedModules, List.map_cons, List.sum_cons,
          Nat.add_assoc]
    rcases hbuilt : outcome (buildModule owner task) w with ⟨failure | m, v⟩
    · cases hfailure : failure.isReported with
      | true =>
        refine hrun (passes_logged hbuilt hfailure) ?_
        exact ((writesNone_log _ (by simp [Event.isWritten])) v).trans (writes_buildModule hbuilt)
      | false =>
        rw [stops_of_failed hbuilt hfailure tasks] at h
        cases h
    · exact hrun (passes_of_built hbuilt) (writes_buildModule hbuilt)

/-- A failure that is reported does not end the run over the modules. -/
theorem isReported_of_buildModules {failure : Failure}
    (h : outcome (buildModules owner tasks) w = (.error failure, w')) :
    failure.isReported = false := by
  induction tasks generalizing w with
  | nil => cases h
  | cons task tasks ih =>
    rcases passes_or_stops owner task w with ⟨_, _, v, m, -, -, hpasses, -⟩ |
      ⟨failure', v, -, hfailure, hstops⟩
    · rw [hpasses tasks] at h
      rcases hrest : outcome (buildModules owner tasks) v with ⟨failure' | more, x⟩
      · rw [hrest] at h
        cases h
        exact ih hrest
      · rw [hrest] at h
        cases h
    · rw [hstops tasks] at h
      cases h
      exact hfailure

/-- The modules of a source that were written, as the source stands in the workspace. -/
def modulesWritten (o : SourceUnit.Options) (p : Path) (w : Workspace) : Nat :=
  match outcome (load p o) w with
  | (.error _, _) => 0
  | (.ok u, v) =>
    match (outcome (buildModules u u.recipe.modules) v).1 with
    | .ok results => generatedModules results
    | .error _ => 0

theorem writes_buildFile {p : Path} {o : SourceUnit.Options} {answer : Except Failure BuildResult}
    (h : outcome (buildFile p o) w = (answer, w')) :
    (∀ r, answer = .ok r → w'.writes = w.writes + generatedOutputs r) ∧
      ∀ failure, answer = .error failure → failure.isReported = true →
        w'.writes = w.writes + modulesWritten o p w := by
  unfold modulesWritten
  rcases outcome_bind_cases h with ⟨failure, hload, rfl⟩ | ⟨u, v, hload, hunit⟩
  · rw [hload]
    exact ⟨fun r hr => (by cases hr), fun _ _ _ => (writesNone_load p o).writes_eq hload⟩
  have hv := (writesNone_load p o).writes_eq hload
  rw [hload]
  dsimp only
  rcases outcome_bind_cases hunit with ⟨failure, hmodules, rfl⟩ | ⟨results, x, hmodules, hrest⟩
  · refine ⟨fun r hr => (by cases hr), fun f hf hreported => ?_⟩
    cases hf
    rw [isReported_of_buildModules hmodules] at hreported
    cases hreported
  rw [hmodules]
  have hx : x.writes = w.writes + generatedModules results := by
    rw [writes_buildModules hmodules, hv]
  rw [outcome_bind_ok (outcome_get x)] at hrest
  rcases outcome_bind_cases hrest with ⟨failure, houtput, rfl⟩ | ⟨output, y, houtput, hrest⟩
  · refine ⟨fun r hr => (by cases hr), fun _ _ _ => ?_⟩
    exact ((writesNone_ofExcept _).writes_eq houtput).trans hx
  have hy := ((writesNone_ofExcept _).writes_eq houtput).trans hx
  rcases outcome_bind_cases hrest with ⟨failure, hwrite, rfl⟩ | ⟨status, z, hwrite, hrest⟩
  · refine ⟨fun r hr => (by cases hr), fun _ _ _ => ?_⟩
    rw [writes_writeOutput hwrite, hy]
    rfl
  · cases hrest
    refine ⟨fun r hr => ?_, fun _ hf => by cases hf⟩
    cases hr
    rw [writes_writeOutput hwrite, hy, generatedOutputs, Nat.add_assoc,
      Nat.add_comm (generatedModules _)]
    rfl

end Build

/-! What the summary counts. -/

namespace Summary
open Build

theorem generated_count (s : Summary) (status : Option Status) :
    (s.count status).generated = s.generated + generatedCount status := by
  rcases status with _ | _ | _ <;> rfl

theorem generated_recordModule (s : Summary) (m : ModuleResult) :
    (s.recordModule m).generated = s.generated + generatedCount m.status := by
  rw [← generated_count, recordModule]
  split <;> rfl

theorem generated_recordModules (s : Summary) (modules : List ModuleResult) :
    (modules.foldl recordModule s).generated = s.generated + generatedModules modules := by
  induction modules generalizing s with
  | nil => rfl
  | cons m modules ih =>
    rw [List.foldl_cons, ih, generated_recordModule, generatedModules, generatedModules,
      List.map_cons, List.sum_cons, Nat.add_assoc]

theorem generated_record (s : Summary) (r : BuildResult) :
    (s.record r).generated = s.generated + generatedOutputs r := by
  rw [record, generated_recordModules, generated_count, generatedOutputs, Nat.add_assoc]

end Summary

namespace Batch
open Build

variable {console : Console} {o : SourceUnit.Options} {p : Path} {paths : List Path}
  {s t : Summary} {w w' v : Workspace}

/-- The modules that a visit writes and the summary leaves out: those of a source that fails. -/
def uncounted (o : SourceUnit.Options) (visit : Path × Workspace) : Nat :=
  match (outcome (buildFile visit.1 o) visit.2).1 with
  | .ok _ => 0
  | .error _ => modulesWritten o visit.1 visit.2

theorem uncounted_of_built {r : BuildResult} (h : outcome (buildFile p o) w = (.ok r, w')) :
    uncounted o (p, w) = 0 := by
  rw [uncounted, h]

theorem uncounted_of_unread {e : FileError} (h : w.files.read w.cwd p = .error e) :
    uncounted o (p, w) = 0 := by
  rw [uncounted, buildFile_of_unread h]
  dsimp only
  rw [modulesWritten, load_of_unread h]

/-- A visit writes what it adds to the summary, and what it leaves out. -/
theorem writes_visit (console : Console) (s : Summary)
    (h : ∀ failure, (outcome (buildFile p o) w).1 = .error failure → failure.isReported = true) :
    (outcome (turn console o p s) w).2.writes =
      w.writes + ((tally o (p, w)).generated + uncounted o (p, w)) := by
  rw [(shows_turn console o p s w).writes_eq, tally, uncounted]
  obtain ⟨hok, herror⟩ := writes_buildFile (outcome_eta (buildFile p o) w)
  dsimp only
  cases hbuilt : (outcome (buildFile p o) w).1 with
  | ok r => rw [hok r hbuilt, entered, Summary.generated_record, Nat.zero_add, Nat.add_zero]
  | error failure =>
    rw [herror failure hbuilt (h failure hbuilt), entered, Summary.recordFailure, Nat.zero_add]

theorem writes_buildFiles (h : outcome (buildFiles console o paths s) w = (.ok t, w')) :
    w'.writes = w.writes + (((visits console o paths w).map (tally o)).map (·.generated)).sum +
      ((visits console o paths w).map (uncounted o)).sum := by
  induction paths generalizing s w with
  | nil =>
    cases h
    rfl
  | cons p paths ih =>
    obtain ⟨v, hturn, hreported, hrest, hvisits⟩ := buildFiles_cons_ok h
    have hv := writes_visit console s hreported
    rw [hturn] at hv
    rw [ih hrest, hvisits, hv]
    simp only [List.map_cons, List.sum_cons]
    omega

theorem modulesWritten_congr (o : SourceUnit.Options) (p : Path) (h : w.SameFiles v) :
    modulesWritten o p w = modulesWritten o p v := by
  unfold modulesWritten
  rcases hload : outcome (load p o) w with ⟨failure | u, x⟩
  all_goals obtain ⟨y, hload', hsame⟩ := (indifferent_load p o).outcome h hload
  · rw [hload']
  · rw [hload']
    dsimp only
    rw [(indifferent_buildModules u u.recipe.modules x y hsame).1]

theorem uncounted_congr (o : SourceUnit.Options) (p : Path) (w v : Workspace)
    (h : w.SameFiles v) : uncounted o (p, w) = uncounted o (p, v) := by
  unfold uncounted
  rw [(indifferent_buildFile p o w v h).1, modulesWritten_congr o p h]

theorem writesNone_paths (console : Console) (r : Request) : WritesNone (r.paths console) :=
  keeps_paths isSteady_writes writesNone_log (fun lines => (onlyPrints_print lines).writesNone)
    console r

/-- The outputs that a batch writes are those that its summary counts as generated, and those that
it leaves out. -/
theorem build_writes {r : Request} (h : outcome (build console r) w = (.ok s, w')) :
    ∃ paths, (outcome (r.paths console) w).1 = .ok paths ∧ w'.writes = w.writes + s.generated +
      ((visits console r.options paths w).map (uncounted r.options)).sum := by
  obtain ⟨paths, total, v, v', x, hpaths, -, hshows, hrun, hend⟩ := build_runs h
  have hsame := ((quiet_paths console r).sameFiles hpaths).trans hshows.sameFiles
  have hstart : v'.writes = w.writes :=
    hshows.writes_eq.trans ((writesNone_paths console r).writes_eq hpaths)
  have hgenerated : s.generated =
      (((visits console r.options paths v').map (tally r.options)).map (·.generated)).sum := by
    rw [buildFiles_eq_ok hrun, ← Summary.generated_sum]
    exact Nat.zero_add _
  refine ⟨paths, by rw [hpaths], ?_⟩
  rw [hend.writes_eq, writes_buildFiles hrun, hstart, hgenerated,
    map_visits (uncounted_congr r.options) hsame]

/-- The summary of a batch counts as generated all outputs that were written, less the modules that
were written for sources that then failed. So it counts all of them exactly if no source that fails
has written a module. -/
theorem generated_eq_writes_iff {r : Request} (h : outcome (build console r) w = (.ok s, w')) :
    ∃ paths, (outcome (r.paths console) w).1 = .ok paths ∧
      w'.writes = w.writes + s.generated +
        ((visits console r.options paths w).map (uncounted r.options)).sum ∧
      (s.generated = w'.writes - w.writes ↔
        ∀ visit ∈ visits console r.options paths w, ∀ failure,
          (outcome (buildFile visit.1 r.options) visit.2).1 = .error failure →
            modulesWritten r.options visit.1 visit.2 = 0) := by
  obtain ⟨paths, hpaths, hwrites⟩ := build_writes h
  refine ⟨paths, hpaths, hwrites, ?_⟩
  have hzero : s.generated = w'.writes - w.writes ↔
      ((visits console r.options paths w).map (uncounted r.options)).sum = 0 := by omega
  rw [hzero, List.sum_eq_zero_iff, List.forall_mem_map]
  refine forall₂_congr fun visit _ => ?_
  unfold uncounted
  cases (outcome (buildFile visit.1 r.options) visit.2).1 with
  | ok result => simp
  | error failure => simp

def pairRequest : Request := { files := [firstSource, missingSource] }

theorem announcedIn_pair :
    announcedIn pairRequest.options.dialect ownedModule pairRequest.files = .ok 3 := by
  decide

theorem buildFiles_pair :
    (outcome (buildFiles Markup.console firstRequest.options [firstSource, missingSource] {})
        ownedModule).1 =
      .ok ⟨2, 0, 1, 0, [bothWritten],
        [Summary.entry missingSource (.file ⟨.notFound, missingSource⟩)]⟩ := by
  obtain ⟨v, hbuilt, hread⟩ := ownedBuilt
  have hshown := (shows_errorLine Markup.isLawful_console _ _).2 shows_missing
  obtain ⟨x, -, hturn⟩ := turn_of_failed (buildFile_of_unread hread) rfl hshown
  rw [buildFiles_cons, outcome_bind_ok (turn_of_built hbuilt _), buildFiles_cons,
    outcome_bind_ok (hturn _)]
  rfl

/-- A source and its module are written and counted, though another source is missing. -/
theorem owned_module_counted :
    ∃ s w', outcome (build Markup.console pairRequest) ownedModule = (.ok s, w') ∧
      s.generated = 2 ∧ s.failed = 1 ∧ w'.writes = 2 := by
  have hnone : ((visits Markup.console pairRequest.options pairRequest.files ownedModule).map
      (uncounted pairRequest.options)).sum = 0 := by
    obtain ⟨v, hbuilt, hread⟩ := ownedBuilt
    have hfiles : pairRequest.files = [firstSource, missingSource] := rfl
    have hoptions : pairRequest.options = firstRequest.options := rfl
    rw [hfiles, hoptions, visits, turn_of_built hbuilt]
    simp [visits, uncounted_of_built hbuilt, uncounted_of_unread hread]
  obtain ⟨v, hrun⟩ := exists_outcome buildFiles_pair
  obtain ⟨w', hbuild⟩ := exists_outcome (build_eq_ok Markup.isLawful_console pairRequest
    (by simp [pairRequest]) announcedIn_pair hrun
    (showsProgress_of_not_mem (by decide)) (by simpa using shows_missing))
  have hpair : outcome (build Markup.console pairRequest) ownedModule = (_, w') := hbuild
  obtain ⟨paths, hpaths, hwrites, -⟩ := generated_eq_writes_iff hpair
  obtain rfl : pairRequest.files = paths := Except.ok.inj hpaths
  rw [hnone] at hwrites
  exact ⟨_, w', hpair, rfl, rfl, hwrites⟩

def strayText : Text :=
  Text.cat ["/// @custom:interface build ./IA.sol\n",
    "/// @custom:interface module \"./M.sol\" to \"./IM.sol\"\n", "library A \x7b\n\x7d\n"]

def strayModule : Workspace where
  files := ⟨[([], .directory 0), (["p".toList], .directory 0),
    (["p".toList, "A.sol".toList], .file (Utf8.encode strayText) 0),
    (["p".toList, "M.sol".toList], .file (Utf8.encode ownedText) 0)]⟩
  cwd := ⟨.root, ["p".toList]⟩
  now := 1

/-- The module of a source that fails is written, and the summary counts nothing as generated. -/
theorem stray_module_uncounted :
    ∃ s w', outcome (build Markup.console firstRequest) strayModule = (.ok s, w') ∧
      s.generated = 0 ∧ s.failed = 1 ∧ strayModule.writes = 0 ∧ w'.writes = 1 := by
  have hcount : announcedIn firstRequest.options.dialect strayModule firstRequest.files =
      .ok 2 := by decide
  have hbuilt : (outcome (buildFile firstSource firstRequest.options) strayModule).1 =
      .error .noContract := by decide +kernel
  have hone : ((visits Markup.console firstRequest.options firstRequest.files strayModule).map
      (uncounted firstRequest.options)).sum = 1 := by decide +kernel
  obtain ⟨v, hbuilt⟩ := exists_outcome hbuilt
  have hshown : Markup.console.Shows (Summary.entry firstSource .noContract) :=
    Markup.isLawful_console.shows_of_isTagless (by decide)
  obtain ⟨x, -, hturn⟩ :=
    turn_of_failed hbuilt rfl ((shows_errorLine Markup.isLawful_console _ _).2 hshown)
  have hrun : outcome (buildFiles Markup.console firstRequest.options [firstSource] {})
      strayModule = (.ok (({} : Summary).recordFailure firstSource .noContract), x) := by
    rw [buildFiles_cons, outcome_bind_ok (hturn _)]
    rfl
  obtain ⟨w', hbuild⟩ := exists_outcome (build_eq_ok Markup.isLawful_console firstRequest
    (List.cons_ne_nil _ _) hcount hrun (showsProgress_of_not_mem (by decide))
    (List.forall_mem_singleton.2 hshown))
  have hfirst : outcome (build Markup.console firstRequest) strayModule = (_, w') := hbuild
  obtain ⟨paths, hpaths, hwrites⟩ := build_writes hfirst
  obtain rfl : firstRequest.files = paths := Except.ok.inj hpaths
  rw [hone] at hwrites
  exact ⟨_, w', hfirst, rfl, rfl, rfl, hwrites⟩

end Batch
end SolInterface
