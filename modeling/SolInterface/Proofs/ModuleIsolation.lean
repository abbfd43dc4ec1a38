import SolInterface.Proofs.Indifference
import SolInterface.Proofs.Refusal

/-!
The modules of a source do not depend on one another's success. Each task gets its result, in the
order of the tasks. A task that fails changes no file, so that the others come out as if it had not
been there. The exception is a header that cannot be encoded: it ends the run, and the output that
was to hold it is left empty. That this is the only exception is said of trees without symbolic
links, which are all that `FileTree` has.
-/
namespace SolInterface.Build
open WorkspaceM

variable {owner : SourceUnit} {task : ModuleTask} {tasks : List ModuleTask} {w w' : Workspace}
  {failure : Failure}

/-! A task that fails. -/

/-- An output that fails and is reported has changed no file; if the fault is not in the files,
there are no new directories either. -/
theorem writeOutput_eq_error {force encodable : Bool} {source output : Path}
    {dependsOn : List Path} {u : SourceUnit}
    (h : outcome (writeOutput force source output dependsOn (render u) encodable) w =
      (.error failure, w')) :
    (failure.isReported = true → ∀ loc, w'.files.file? loc = w.files.file? loc) ∧
      (failure.isBuildError = true → w.SameFiles w') := by
  have hquiet : w.SameFiles w' →
      (failure.isReported = true → ∀ loc, w'.files.file? loc = w.files.file? loc) ∧
        (failure.isBuildError = true → w.SameFiles w') :=
    fun hsame => ⟨fun _ loc => by rw [hsame.1], fun _ => hsame⟩
  rcases outcome_bind_cases h with ⟨_, hfresh, ⟨⟩⟩ | ⟨isFresh, v, hfresh, h⟩
  · exact hquiet ((quiet_isUpToDate _ _ _ _).sameFiles hfresh)
  have hsame := (quiet_isUpToDate _ _ _ _).sameFiles hfresh
  split at h
  · rw [outcome_bind_ok (outcome_log _ v)] at h
    cases h
  rcases outcome_bind_cases h with ⟨_, hrender, ⟨⟩⟩ | ⟨text, v', hrender, h⟩
  · exact hquiet (hsame.trans ((quiet_render u).sameFiles hrender))
  have hsame' := hsame.trans ((quiet_render u).sameFiles hrender)
  rcases outcome_bind_cases h with ⟨_, htext, ⟨⟩⟩ | ⟨_, v'', htext, h⟩
  · rcases writeText_eq_error htext with ⟨-, rfl⟩ | ⟨e, rfl, -, hfiles⟩
    · exact ⟨fun h => (by cases h), fun h => (by cases h)⟩
    · exact ⟨fun _ loc => by rw [hfiles loc, hsame'.1], fun h => by cases h⟩
  · rw [outcome_bind_ok (outcome_log _ v'')] at h
    cases h

theorem buildModule_eq_error (h : outcome (buildModule owner task) w = (.error failure, w')) :
    (failure.isReported = true → ∀ loc, w'.files.file? loc = w.files.file? loc) ∧
      (failure.isBuildError = true → w.SameFiles w') := by
  rcases buildModule_cases h with ⟨hsame, -⟩ |
    ⟨source, bytes, unit, output, v, v', written, -, -, -, -, hsame, hwrite, hsame', hanswer⟩
  · exact ⟨fun _ loc => by rw [hsame.1], fun _ => hsame⟩
  cases written with
  | ok status => cases hanswer
  | error failure' =>
    cases hanswer
    obtain ⟨hfiles, hall⟩ := writeOutput_eq_error hwrite
    refine ⟨fun hfailure loc => ?_, fun hfailure => hsame.trans ((hall hfailure).trans hsame')⟩
    rw [hsame'.1, hfiles hfailure loc, hsame.1]

/-! One task after the other. -/

def failedResult (task : ModuleTask) (failure : Failure) : ModuleResult :=
  ⟨task.source, task.output, none, some failure.message⟩

/-- The task gives this result, and the run goes on from `w'`. -/
def Passes (owner : SourceUnit) (task : ModuleTask) (w : Workspace) (m : ModuleResult)
    (w' : Workspace) : Prop :=
  ∀ rest, outcome (buildModules owner (task :: rest)) w =
    ((outcome (buildModules owner rest) w').1.map (m :: ·),
      (outcome (buildModules owner rest) w').2)

def Stops (owner : SourceUnit) (task : ModuleTask) (w : Workspace) (failure : Failure)
    (w' : Workspace) : Prop :=
  ∀ rest, outcome (buildModules owner (task :: rest)) w = (.error failure, w')

theorem passes_of_built {m : ModuleResult}
    (h : outcome (buildModule owner task) w = (.ok m, w')) : Passes owner task w m w' := by
  intro rest
  have hattempt : outcome (attempt (buildModule owner task)) w = (.ok (.ok m), w') := by
    rw [outcome_attempt, h]
  rw [buildModules, outcome_bind_ok hattempt]
  exact outcome_bind_pure _ _ w'

/-- A failure that is reported is logged, and the run goes on. -/
theorem passes_logged (h : outcome (buildModule owner task) w = (.error failure, w'))
    (hfailure : failure.isReported = true) :
    Passes owner task w (failedResult task failure)
      { w' with log := w'.log ++ [.moduleFailed task.source task.output failure] } := by
  intro rest
  have hattempt : outcome (attempt (buildModule owner task)) w = (.ok (.error failure), w') := by
    rw [outcome_attempt, h]
    simp only [hfailure, if_true]
  rw [buildModules, outcome_bind_ok hattempt]
  exact outcome_bind_pure _ _ _

theorem passes_of_failed (h : outcome (buildModule owner task) w = (.error failure, w'))
    (hfailure : failure.isReported = true) :
    ∃ v, w'.SameFiles v ∧ Passes owner task w (failedResult task failure) v :=
  ⟨_, quiet_log [.moduleFailed task.source task.output failure] w', passes_logged h hfailure⟩

theorem stops_of_failed (h : outcome (buildModule owner task) w = (.error failure, w'))
    (hfailure : failure.isReported = false) : Stops owner task w failure w' := by
  intro rest
  have hattempt : outcome (attempt (buildModule owner task)) w = (.error failure, w') := by
    rw [outcome_attempt, h]
    simp [hfailure]
  rw [buildModules, outcome_bind_error hattempt]

/-- What a task does when it has its turn. -/
theorem passes_or_stops (owner : SourceUnit) (task : ModuleTask) (w : Workspace) :
    (∃ built v v' m, outcome (buildModule owner task) w = (built, v) ∧ v.SameFiles v' ∧
      Passes owner task w m v' ∧ (built = .ok m ∨
        ∃ failure, built = .error failure ∧ failure.isReported = true ∧
          m = failedResult task failure)) ∨
      ∃ failure v, outcome (buildModule owner task) w = (.error failure, v) ∧
        failure.isReported = false ∧ Stops owner task w failure v := by
  rcases hbuilt : outcome (buildModule owner task) w with ⟨failure | m, v⟩
  · cases hfailure : failure.isReported with
    | true =>
      obtain ⟨v', hsame, hpasses⟩ := passes_of_failed hbuilt hfailure
      exact Or.inl ⟨_, v, v', _, rfl, hsame, hpasses, Or.inr ⟨failure, rfl, hfailure, rfl⟩⟩
    | false => exact Or.inr ⟨failure, v, rfl, hfailure, stops_of_failed hbuilt hfailure⟩
  · exact Or.inl ⟨_, v, v, m, rfl, .refl v, passes_of_built hbuilt, Or.inl rfl⟩

theorem buildModules_append {before : List ModuleTask} {results : List ModuleResult}
    (h : outcome (buildModules owner before) w = (.ok results, w')) (after : List ModuleTask) :
    outcome (buildModules owner (before ++ after)) w =
      ((outcome (buildModules owner after) w').1.map (results ++ ·),
        (outcome (buildModules owner after) w').2) := by
  induction before generalizing w results with
  | nil =>
    cases h
    rw [List.nil_append]
    rcases outcome (buildModules owner after) w' with ⟨_ | _, _⟩ <;> rfl
  | cons task before ih =>
    rcases passes_or_stops owner task w with ⟨_, _, v, m, -, -, hpasses, -⟩ |
      ⟨failure, v, -, -, hstops⟩
    · rw [hpasses before] at h
      rcases hbefore : outcome (buildModules owner before) v with ⟨failure | more, x⟩
      · rw [hbefore] at h
        cases h
      · rw [hbefore] at h
        obtain ⟨rfl, rfl⟩ : m :: more = results ∧ x = w' := by simpa [Except.map] using h
        rw [List.cons_append, hpasses (before ++ after), ih hbefore]
        rcases outcome (buildModules owner after) x with ⟨_ | _, _⟩ <;> rfl
    · rw [hstops before] at h
      cases h

/-! All tasks. -/

/-- The result of a task: the output it asks for with what became of it, or the failure, which is
one of those that are reported. -/
def Answers (cwd : Path) (owner : SourceUnit) (task : ModuleTask) (m : ModuleResult) : Prop :=
  (∃ output status, Path.outputFor cwd owner.path task.output = .ok output ∧
      m = ⟨task.source, output.text, some status, none⟩) ∨
    ∃ failure, failure.isReported = true ∧ m = failedResult task failure

/-- A run over the tasks gives each its result, or it ends at an output whose text cannot be
encoded. -/
def RunsThrough (w : Workspace) (owner : SourceUnit) (tasks : List ModuleTask) : Prop :=
  (∃ results, (outcome (buildModules owner tasks) w).1 = .ok results ∧
      List.Forall₂ (Answers w.cwd owner) tasks results) ∨
    owner.header.isWhole = false ∧ ∃ task ∈ tasks, ∃ output,
      Path.outputFor w.cwd owner.path task.output = .ok output ∧
      (outcome (buildModules owner tasks) w).1 = .error (.unwritable output)

/-- A module is built in the same directory, and its result names the output asked for. -/
theorem buildModule_eq_ok {m : ModuleResult}
    (h : outcome (buildModule owner task) w = (.ok m, w')) : Answers w.cwd owner task m := by
  rcases buildModule_cases h with ⟨-, failure, hanswer⟩ |
    ⟨source, bytes, unit, output, v, v', written, -, -, -, hpath, -, -, -, hanswer⟩
  · cases hanswer
  cases written with
  | error failure => cases hanswer
  | ok status =>
    cases hanswer
    exact Or.inl ⟨output, status, hpath, rfl⟩

theorem buildModule_cwd {answer : Except Failure ModuleResult}
    (h : outcome (buildModule owner task) w = (answer, w')) : w'.cwd = w.cwd := by
  rcases buildModule_cases h with ⟨hsame, -⟩ |
    ⟨source, bytes, unit, output, v, v', written, -, -, -, -, hsame, hwrite, hsame', -⟩
  · exact hsame.2.1
  · rw [hsame'.2.1, (writeOutput_grown hwrite).1.1, hsame.2.1]

theorem buildModules_eq_ok {results : List ModuleResult}
    (h : outcome (buildModules owner tasks) w = (.ok results, w')) :
    List.Forall₂ (Answers w.cwd owner) tasks results := by
  induction tasks generalizing w results with
  | nil =>
    cases h
    exact .nil
  | cons task tasks ih =>
    rcases passes_or_stops owner task w with
      ⟨built, v, v', m, hbuilt, hsame, hpasses, hm⟩ | ⟨failure, v, -, -, hstops⟩
    · have hcwd : v'.cwd = w.cwd := hsame.2.1.trans (buildModule_cwd hbuilt)
      rw [hpasses tasks] at h
      rcases hrest : outcome (buildModules owner tasks) v' with ⟨failure | more, x⟩
      · rw [hrest] at h
        cases h
      · rw [hrest] at h
        cases h
        refine .cons ?_ (hcwd ▸ ih hrest)
        rcases hm with rfl | ⟨failure, -, hfailure, rfl⟩
        · exact buildModule_eq_ok hbuilt
        · exact Or.inr ⟨failure, hfailure, rfl⟩
    · rw [hstops tasks] at h
      cases h

/-- Over paths that can be looked up, only a text that cannot be encoded ends the run. -/
theorem buildModules_eq_error (hchoice : owner.choice.IsMeant) (hcwd : w.cwd.flaw? = none)
    (howner : owner.path.flaw? = none)
    (htasks : ∀ task ∈ tasks, (Path.parse task.source).flaw? = none ∧
      (Path.parse task.output).flaw? = none)
    (h : outcome (buildModules owner tasks) w = (.error failure, w')) :
    owner.header.isWhole = false ∧ ∃ task ∈ tasks, ∃ output,
      Path.outputFor w.cwd owner.path task.output = .ok output ∧ failure = .unwritable output := by
  induction tasks generalizing w with
  | nil => cases h
  | cons task tasks ih =>
    rcases passes_or_stops owner task w with
      ⟨built, v, v', m, hbuilt, hsame, hpasses, -⟩ | ⟨failure', v, hbuilt, hfailure, hstops⟩
    · have hcwd' : v'.cwd = w.cwd := hsame.2.1.trans (buildModule_cwd hbuilt)
      rw [hpasses tasks] at h
      rcases hrest : outcome (buildModules owner tasks) v' with ⟨failure' | more, x⟩
      · rw [hrest] at h
        cases h
        obtain ⟨hwhole, bad, hbad, output, hpath, hunwritable⟩ := ih (hcwd' ▸ hcwd)
          (fun t ht => htasks t (List.mem_cons_of_mem _ ht)) hrest
        exact ⟨hwhole, bad, List.mem_cons_of_mem _ hbad, output, hcwd' ▸ hpath, hunwritable⟩
      · rw [hrest] at h
        cases h
    · rw [hstops tasks] at h
      cases h
      obtain ⟨hsource, houtput⟩ := htasks task List.mem_cons_self
      obtain ⟨hwhole, output, hpath, hunwritable⟩ :=
        buildModule_of_not_isReported hchoice hcwd howner hsource houtput hbuilt hfailure
      exact ⟨hwhole, task, List.mem_cons_self, output, hpath, hunwritable⟩

theorem runsThrough (hchoice : owner.choice.IsMeant) (hcwd : w.cwd.flaw? = none)
    (howner : owner.path.flaw? = none)
    (htasks : ∀ task ∈ tasks, (Path.parse task.source).flaw? = none ∧
      (Path.parse task.output).flaw? = none) : RunsThrough w owner tasks := by
  unfold RunsThrough
  rcases h : outcome (buildModules owner tasks) w with ⟨failure | results, w'⟩
  · obtain ⟨hwhole, task, htask, output, hpath, rfl⟩ :=
      buildModules_eq_error hchoice hcwd howner htasks h
    exact Or.inr ⟨hwhole, task, htask, output, hpath, rfl⟩
  · exact Or.inl ⟨results, rfl, buildModules_eq_ok h⟩

/-- A task that fails over its source takes nothing from the others: they give the same results, and
the same files are there in the end, as in the run without it. -/
theorem buildModules_without {before after : List ModuleTask} {bad : ModuleTask}
    {results : List ModuleResult} {v v' : Workspace}
    (hbefore : outcome (buildModules owner before) w = (.ok results, v))
    (hbad : outcome (buildModule owner bad) v = (.error failure, v'))
    (hfailure : failure.isBuildError = true) :
    ∃ rest : Except Failure (List ModuleResult),
      (outcome (buildModules owner (before ++ bad :: after)) w).1 =
        rest.map (results ++ failedResult bad failure :: ·) ∧
      (outcome (buildModules owner (before ++ after)) w).1 = rest.map (results ++ ·) ∧
      (outcome (buildModules owner (before ++ after)) w).2.SameFiles
        (outcome (buildModules owner (before ++ bad :: after)) w).2 := by
  obtain ⟨x, hlogged, hpasses⟩ :=
    passes_of_failed hbad (Failure.isReported_of_isBuildError hfailure)
  have hsame : v.SameFiles x := ((buildModule_eq_error hbad).2 hfailure).trans hlogged
  obtain ⟨hanswer, hfiles⟩ := indifferent_buildModules owner after v x hsame
  rw [buildModules_append hbefore, buildModules_append hbefore, hpasses]
  refine ⟨(outcome (buildModules owner after) v).1, ?_, rfl, hfiles⟩
  rw [hanswer]
  cases (outcome (buildModules owner after) v).1 <;> rfl

/-- Over paths that can be looked up, in a tree without symbolic links, every task gets its result
in turn unless a header that cannot be encoded ends the run; no task that is reported as failed
changes a file; and the other tasks come out as if one that fails over its source had not been
there. -/
theorem buildModules_isolated (hchoice : owner.choice.IsMeant) (hcwd : w.cwd.flaw? = none)
    (howner : owner.path.flaw? = none)
    (htasks : ∀ task ∈ tasks, (Path.parse task.source).flaw? = none ∧
      (Path.parse task.output).flaw? = none) :
    RunsThrough w owner tasks ∧
      (∀ task v v' failure, outcome (buildModule owner task) v = (.error failure, v') →
        (failure.isReported = true → ∀ loc, v'.files.file? loc = v.files.file? loc) ∧
          (failure.isBuildError = true → v'.files = v.files)) ∧
      ∀ before bad after results v v' failure, tasks = before ++ bad :: after →
        outcome (buildModules owner before) w = (.ok results, v) →
        outcome (buildModule owner bad) v = (.error failure, v') → failure.isBuildError = true →
        ∃ rest : Except Failure (List ModuleResult),
          (outcome (buildModules owner tasks) w).1 =
            rest.map (results ++ failedResult bad failure :: ·) ∧
          (outcome (buildModules owner (before ++ after)) w).1 = rest.map (results ++ ·) ∧
          (outcome (buildModules owner tasks) w).2.files =
            (outcome (buildModules owner (before ++ after)) w).2.files := by
  refine ⟨runsThrough hchoice hcwd howner htasks, fun task v v' failure h => ?_, ?_⟩
  · obtain ⟨hfiles, hall⟩ := buildModule_eq_error h
    exact ⟨hfiles, fun hfailure => (hall hfailure).1⟩
  · rintro before bad after results v v' failure rfl hbefore hbad hfailure
    obtain ⟨rest, hwith, hwithout, hsame⟩ := buildModules_without hbefore hbad hfailure
    exact ⟨rest, hwith, hwithout, hsame.1⟩

def licensedOwner (license : Text) : SourceUnit where
  path := ⟨.relative, ["A.sol".toList]⟩
  config := { license }
  force := false
  content := []
  choice := .named "custom"
  dialect := .custom
  directives := []
  recipe := {}
  warnings := []

def absentTask : ModuleTask := ⟨"./N.sol", "./IN.sol", {}, []⟩

def presentTask : ModuleTask := ⟨"./M.sol", "./IM.sol", {}, []⟩

def moduleOnly : Workspace where
  files := ⟨[([], .directory 0), (["p".toList], .directory 0),
    (["p".toList, "M.sol".toList], .file (Utf8.encode "contract M \x7b\n\x7d\n") 0)]⟩
  cwd := ⟨.root, ["p".toList]⟩
  now := 1

/-- The module that is there is built after one that is not, as it is alone. -/
theorem present_built_after_absent :
    RunsThrough moduleOnly (licensedOwner "MIT") [absentTask, presentTask] ∧
      ∃ rest : Except Failure (List ModuleResult),
        (outcome (buildModules (licensedOwner "MIT") [absentTask, presentTask]) moduleOnly).1 =
          rest.map (failedResult absentTask
            (.moduleNotFound "./N.sol" ⟨.root, ["p".toList, "N.sol".toList]⟩) :: ·) ∧
        (outcome (buildModules (licensedOwner "MIT") [presentTask]) moduleOnly).1 = rest ∧
        rest = .ok [⟨"./M.sol", "/p/IM.sol", some .generated, none⟩] := by
  have hbad : (outcome (buildModule (licensedOwner "MIT") absentTask) moduleOnly).1 =
      .error (.moduleNotFound "./N.sol" ⟨.root, ["p".toList, "N.sol".toList]⟩) := by decide
  have hrest : (outcome (buildModules (licensedOwner "MIT") [presentTask]) moduleOnly).1 =
      .ok [⟨"./M.sol", "/p/IM.sol", some .generated, none⟩] := by decide +kernel
  obtain ⟨hruns, -, hwithout⟩ := @buildModules_isolated (licensedOwner "MIT")
    [absentTask, presentTask] moduleOnly (fun _ h => by cases h) (by decide) (by decide) (by decide)
  obtain ⟨v, hbad⟩ := exists_outcome hbad
  obtain ⟨rest, hwith, hother, -⟩ :=
    hwithout [] absentTask [presentTask] [] moduleOnly v _ rfl rfl hbad rfl
  have hsame : rest.map ([] ++ ·) = rest := by cases rest <;> rfl
  rw [hsame, List.nil_append] at hother
  exact ⟨hruns, rest, hwith, hother, hother.symm.trans hrest⟩

/-- A license with half a character ends the run, and the output is left there empty. -/
theorem half_license_stops_modules :
    (outcome (buildModules (licensedOwner [Text.ofCode 0xD800]) [presentTask, absentTask])
        moduleOnly).1 = .error (.unwritable ⟨.root, ["p".toList, "IM.sol".toList]⟩) ∧
      (outcome (buildModules (licensedOwner [Text.ofCode 0xD800]) [presentTask, absentTask])
        moduleOnly).2.files.file? ["p".toList, "IM.sol".toList] = some ([], 1) := by
  decide +kernel

end SolInterface.Build
