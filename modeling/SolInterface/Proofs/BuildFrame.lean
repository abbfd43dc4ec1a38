import SolInterface.Proofs.ModuleIsolation

/-!
What a build changes. Whether or not it comes to an end, it writes at the outputs that the source
declares for itself and its modules and nowhere else, each time what is rendered there at that
moment, and it leaves alone an output that it reports as skipped. A text that cannot be encoded is
written as nothing at all.
-/
namespace SolInterface.Build
open WorkspaceM FileTree

variable {owner u : SourceUnit} {task : ModuleTask} {tasks : List ModuleTask} {w w' : Workspace}

/-! One output. -/

theorem writeOutput_skipped {force encodable : Bool} {source output : Path} {dependsOn : List Path}
    (h : outcome (writeOutput force source output dependsOn (render u) encodable) w =
      (.ok .skipped, w')) : w.SameFiles w' := by
  rcases outcome_bind_cases h with ⟨_, -, hanswer⟩ | ⟨isFresh, v, hfresh, h⟩
  · cases hanswer
  split at h
  · rw [outcome_bind_ok (outcome_log _ v)] at h
    cases h
    exact ((quiet_isUpToDate _ _ _ _).sameFiles hfresh).trans (quiet_log _ v)
  rcases outcome_bind_cases h with ⟨_, -, hanswer⟩ | ⟨text, v', -, h⟩
  · cases hanswer
  rcases outcome_bind_cases h with ⟨_, -, hanswer⟩ | ⟨_, v'', -, h⟩
  · cases hanswer
  · rw [outcome_bind_ok (outcome_log _ v'')] at h
    cases h

/-- An output is written unless it is skipped, and then with what is rendered for it. -/
theorem writeOutput_frame {force : Bool} {source output : Path} {dependsOn : List Path}
    {answer : Except Failure Status}
    (h : outcome (writeOutput force source output dependsOn (render u) u.header.isWhole) w =
      (answer, w')) :
    w.Grown (fun _ => True) (fun loc content => loc = place w.cwd output ∧
      u.written? = some content ∧ answer ≠ .ok .skipped) w' := by
  by_cases hskipped : answer = .ok .skipped
  · subst hskipped
    exact (writeOutput_skipped h).grown
  · refine (writeOutput_grown h).1.mono (fun _ _ => trivial) ?_
    rintro loc content ⟨hloc, -, hrendered⟩
    exact ⟨hloc, hrendered, hskipped⟩

/-- A module is written at the output of its task, unless it is reported as skipped. -/
theorem buildModule_frame (htask : task ∈ owner.recipe.modules)
    {answer : Except Failure ModuleResult}
    (h : outcome (buildModule owner task) w = (answer, w')) :
    w.Grown (fun _ => True) (fun loc content => ∃ output, loc = place w.cwd output ∧
      Asks SourceUnit.written? w owner task output content ∧
      ∀ m, answer = .ok m → m.status ≠ some .skipped) w' := by
  rcases buildModule_cases h with ⟨hsame, -⟩ | ⟨source, bytes, unit, output, v, v', written, hpath,
    hread, hunit, houtput, hsame, hwrite, hsame', rfl⟩
  · exact hsame.grown
  refine hsame.grown.trans (((writeOutput_frame hwrite).mono (fun _ h => h) ?_).trans hsame'.grown)
  rintro loc content ⟨hloc, hrendered, hwritten⟩
  refine ⟨output, hsame.2.1 ▸ hloc,
    ⟨htask, source, bytes, unit, hpath, hread, hunit, houtput, hrendered⟩, fun m hm => ?_⟩
  cases written with
  | error failure => cases hm
  | ok status =>
    cases hm
    exact fun hstatus => hwritten (by rw [Option.some.inj hstatus])

/-! The modules one after the other. -/

/-- At its turn, the task is asked for this content at this place and is not reported as skipped. -/
def TaskWrites (owner : SourceUnit) (w : Workspace) (tasks : List ModuleTask) (loc : Location)
    (content : List UInt8) : Prop :=
  ∃ before task after results v output, tasks = before ++ task :: after ∧
    outcome (buildModules owner before) w = (.ok results, v) ∧
    loc = place w.cwd output ∧ Asks SourceUnit.written? v owner task output content ∧
    ∀ m, (outcome (buildModule owner task) v).1 = .ok m → m.status ≠ some .skipped

theorem TaskWrites.cons {v : Workspace} {m : ModuleResult} {loc : Location} {content : List UInt8}
    (h : TaskWrites owner v tasks loc content) (hpasses : Passes owner task w m v)
    (hcwd : v.cwd = w.cwd) : TaskWrites owner w (task :: tasks) loc content := by
  obtain ⟨before, other, after, results, x, output, rfl, hbefore, hloc, hasks, hstatus⟩ := h
  refine ⟨task :: before, other, after, m :: results, x, output, rfl, ?_, hcwd ▸ hloc, hasks,
    hstatus⟩
  rw [hpasses before, hbefore]
  rfl

theorem buildModules_frame (htasks : ∀ task ∈ tasks, task ∈ owner.recipe.modules)
    {answer : Except Failure (List ModuleResult)}
    (h : outcome (buildModules owner tasks) w = (answer, w')) :
    w.Grown (fun _ => True) (TaskWrites owner w tasks) w' := by
  induction tasks generalizing w answer with
  | nil =>
    cases h
    exact (Workspace.SameFiles.refl _).grown
  | cons task tasks ih =>
    -- The first task has its turn in `w` itself.
    have hfirst : ∀ {built : Except Failure ModuleResult} {v : Workspace},
        outcome (buildModule owner task) w = (built, v) →
          w.Grown (fun _ => True) (TaskWrites owner w (task :: tasks)) v := by
      intro built v hbuilt
      refine (buildModule_frame (htasks task List.mem_cons_self) hbuilt).mono (fun _ h => h) ?_
      rintro loc content ⟨output, hloc, hasks, hstatus⟩
      refine ⟨[], task, tasks, [], w, output, rfl, rfl, hloc, hasks, fun m hm => hstatus m ?_⟩
      rwa [hbuilt] at hm
    rcases passes_or_stops owner task w with
      ⟨built, v, v', m, hbuilt, hsame, hpasses, -⟩ | ⟨failure, v, hbuilt, -, hstops⟩
    · have hcwd : v'.cwd = w.cwd := hsame.2.1.trans (buildModule_cwd hbuilt)
      rw [hpasses tasks] at h
      have hrest : outcome (buildModules owner tasks) v' =
          ((outcome (buildModules owner tasks) v').1, w') := Prod.ext rfl (Prod.mk.inj h).2
      refine ((hfirst hbuilt).trans hsame.grown).trans ((ih (fun t ht => htasks t
        (List.mem_cons_of_mem _ ht)) hrest).mono (fun _ h => h) fun loc content hwrites => ?_)
      exact hwrites.cons hpasses hcwd
    · rw [hstops tasks] at h
      cases h
      exact hfirst hbuilt

theorem buildModules_cwd {answer : Except Failure (List ModuleResult)}
    (h : outcome (buildModules owner tasks) w = (answer, w')) : w'.cwd = w.cwd := by
  induction tasks generalizing w answer with
  | nil =>
    cases h
    rfl
  | cons task tasks ih =>
    rcases passes_or_stops owner task w with
      ⟨built, v, v', m, hbuilt, hsame, hpasses, -⟩ | ⟨failure, v, hbuilt, -, hstops⟩
    · rw [hpasses tasks] at h
      have hrest : outcome (buildModules owner tasks) v' =
          ((outcome (buildModules owner tasks) v').1, w') := Prod.ext rfl (Prod.mk.inj h).2
      rw [ih hrest, hsame.2.1, buildModule_cwd hbuilt]
    · rw [hstops tasks] at h
      cases h
      exact buildModule_cwd hbuilt

/-- The result of a task stands where the task stands, and is the one of its turn. -/
theorem result_of_turn {before after : List ModuleTask} {first results : List ModuleResult}
    {v : Workspace} (hbefore : outcome (buildModules owner before) w = (.ok first, v))
    (h : outcome (buildModules owner (before ++ task :: after)) w = (.ok results, w')) :
    ∃ m, results[before.length]? = some m ∧
      ((outcome (buildModule owner task) v).1 = .ok m ∨ m.status = none) := by
  rw [buildModules_append hbefore] at h
  rcases passes_or_stops owner task v with ⟨built, x, x', m, hbuilt, -, hpasses, hm⟩ |
    ⟨failure, x, -, -, hstops⟩
  · rw [hpasses after] at h
    cases hrest : (outcome (buildModules owner after) x').1 with
    | error failure =>
      rw [hrest] at h
      cases h
    | ok more =>
      rw [hrest] at h
      cases h
      refine ⟨m, ?_, ?_⟩
      · simp [(buildModules_eq_ok hbefore).length_eq]
      · rcases hm with rfl | ⟨failure, -, -, rfl⟩
        · exact Or.inl (by rw [hbuilt])
        · exact Or.inr rfl
  · rw [hstops after] at h
    cases h

theorem TaskWrites.exists_task {loc : Location} {content : List UInt8}
    (h : TaskWrites owner w tasks loc content) : ∃ task ∈ tasks, ∃ q,
      Path.outputFor w.cwd owner.path task.output = .ok q ∧ loc = place w.cwd q := by
  obtain ⟨before, task, after, results, v, output, rfl, hbefore, hloc, hasks, -⟩ := h
  obtain ⟨-, source, bytes, unit, -, -, -, houtput, -⟩ := hasks
  refine ⟨task, by simp, output, ?_, hloc⟩
  rwa [buildModules_cwd hbefore] at houtput

/-- A task that is reported as skipped does not write, and so nothing is written at its output where
no other task leads there. -/
theorem not_taskWrites_of_skipped {i : Nat} {m : ModuleResult} {results : List ModuleResult}
    {output : Path} {content : List UInt8}
    (h : outcome (buildModules owner tasks) w = (.ok results, w'))
    (hm : results[i]? = some m) (hskipped : m.status = some .skipped)
    (hothers : ∀ (j : Nat) other q, j ≠ i → tasks[j]? = some other →
      Path.outputFor w.cwd owner.path other.output = .ok q →
      place w.cwd q ≠ place w.cwd output) :
    ¬TaskWrites owner w tasks (place w.cwd output) content := by
  rintro ⟨before, other, after, first, v, q, rfl, hbefore, hloc, hasks, hstatus⟩
  by_cases hi : before.length = i
  · subst hi
    obtain ⟨m', hm', hturn⟩ := result_of_turn hbefore h
    rw [hm] at hm'
    cases hm'
    rcases hturn with hbuilt | hnone
    · exact hstatus m hbuilt hskipped
    · rw [hskipped] at hnone
      cases hnone
  · obtain ⟨-, source, bytes, unit, -, -, -, hq, -⟩ := hasks
    rw [buildModules_cwd hbefore] at hq
    exact hothers before.length other q hi (by simp) hq hloc.symm

/-! The source itself. -/

/-- A source that declares this output renders this content. -/
def MainWrites (u : SourceUnit) (w : Workspace) (loc : Location) (content : List UInt8) : Prop :=
  ∃ output, u.outputPath w.cwd = .ok output ∧ loc = place w.cwd output ∧ u.written? = some content

/-- What a build of the unit writes. If there is a result, it comes with that of the modules. -/
theorem buildUnit_frame {answer : Except Failure BuildResult}
    (h : outcome (buildUnit u) w = (answer, w')) :
    w.Grown (fun _ => True) (fun loc content => TaskWrites u w u.recipe.modules loc content ∨
        MainWrites u w loc content ∧ ∀ r, answer = .ok r → r.status ≠ .skipped) w' ∧
      ∀ r, answer = .ok r → u.outputPath w.cwd = .ok r.output ∧
        ∃ v, outcome (buildModules u u.recipe.modules) w = (.ok r.modules, v) := by
  rcases outcome_bind_cases h with ⟨failure, hmodules, rfl⟩ | ⟨results, v, hmodules, h⟩
  · exact ⟨(buildModules_frame (fun _ h => h) hmodules).mono (fun _ h => h) fun _ _ => Or.inl,
      fun _ h => by cases h⟩
  have hframe := buildModules_frame (fun _ h => h) hmodules
  have hcwd : v.cwd = w.cwd := hframe.1
  rw [outcome_bind_ok (outcome_get v)] at h
  rcases outcome_bind_cases h with ⟨failure, houtput, rfl⟩ | ⟨q, x, houtput, h⟩
  · exact ⟨(hframe.mono (fun _ h => h) fun _ _ => Or.inl).trans
      ((quiet_ofExcept _).sameFiles houtput).grown, fun _ h => by cases h⟩
  rw [outcome_ofExcept] at houtput
  obtain ⟨hpath, rfl⟩ := Prod.mk.inj houtput
  rw [hcwd] at hpath
  have hmain : ∀ {status : Except Failure Status} {x : Workspace},
      outcome (writeOutput u.force u.path q [] (render u) u.header.isWhole) v = (status, x) →
        (∀ r, answer = .ok r → status = .ok r.status) →
        w.Grown (fun _ => True) (fun loc content => TaskWrites u w u.recipe.modules loc content ∨
          MainWrites u w loc content ∧ ∀ r, answer = .ok r → r.status ≠ .skipped) x := by
    intro status x hwrite hstatus
    refine (hframe.mono (fun _ h => h) fun _ _ => Or.inl).trans
      ((writeOutput_frame hwrite).mono (fun _ h => h) ?_)
    rintro loc content ⟨hloc, hrendered, hskipped⟩
    refine Or.inr ⟨⟨q, hpath, hcwd ▸ hloc, hrendered⟩, fun r hr hr' => hskipped ?_⟩
    rw [hstatus r hr, hr']
  rcases outcome_bind_cases h with ⟨failure, hwrite, rfl⟩ | ⟨status, x, hwrite, h⟩
  · exact ⟨hmain hwrite fun _ h => (by cases h), fun _ h => by cases h⟩
  cases h
  refine ⟨hmain hwrite fun r hr => (by cases hr; rfl), fun r hr => ?_⟩
  cases hr
  exact ⟨hpath, v, hmodules⟩

/-- Each file is as it was, or it holds what was rendered for a declared output that leads to it, or
nothing where the header cannot be encoded. An output that is reported as skipped is as it was,
unless another output leads to the same place. -/
theorem buildUnit_changes_outputs_only {answer : Except Failure BuildResult}
    (h : outcome (buildUnit u) w = (answer, w')) :
    (∀ loc, w'.files.file? loc = w.files.file? loc ∨
        ∃ content, w'.files.file? loc = some (content, w.now) ∧
          (MainWrites u w loc content ∨ TaskWrites u w u.recipe.modules loc content)) ∧
      ∀ r, answer = .ok r →
        (r.status = .skipped →
          (∀ task ∈ u.recipe.modules, ∀ q, Path.outputFor w.cwd u.path task.output = .ok q →
            place w.cwd q ≠ place w.cwd r.output) →
          w'.files.file? (place w.cwd r.output) = w.files.file? (place w.cwd r.output)) ∧
        ∀ (i : Nat) task output m, u.recipe.modules[i]? = some task →
          Path.outputFor w.cwd u.path task.output = .ok output →
          r.modules[i]? = some m → m.status = some .skipped →
          place w.cwd r.output ≠ place w.cwd output →
          (∀ (j : Nat) other q, j ≠ i → u.recipe.modules[j]? = some other →
            Path.outputFor w.cwd u.path other.output = .ok q →
            place w.cwd q ≠ place w.cwd output) →
          w'.files.file? (place w.cwd output) = w.files.file? (place w.cwd output) := by
  obtain ⟨⟨-, -, hgrows⟩, hresult⟩ := buildUnit_frame h
  refine ⟨fun loc => ?_, fun r hr => ⟨fun hskipped hothers => ?_, ?_⟩⟩
  · rcases hgrows.file? loc with hsame | ⟨content, hwrites | ⟨hwrites, -⟩, hnew⟩
    · exact Or.inl hsame
    · exact Or.inr ⟨content, hnew, Or.inr hwrites⟩
    · exact Or.inr ⟨content, hnew, Or.inl hwrites⟩
  · rcases hgrows.file? (place w.cwd r.output) with hsame | ⟨_, hwrites | ⟨-, hstatus⟩, -⟩
    · exact hsame
    · obtain ⟨task, htask, q, hq, hloc⟩ := hwrites.exists_task
      exact absurd hloc.symm (hothers task htask q hq)
    · exact absurd hskipped (hstatus r hr)
  · intro i task output m htask houtput hm hskipped hmain hothers
    obtain ⟨hpath, v, hmodules⟩ := hresult r hr
    rcases hgrows.file? (place w.cwd output) with hsame | ⟨_, hwrites | ⟨⟨q, hq, hloc, -⟩, -⟩, -⟩
    · exact hsame
    · exact absurd hwrites (not_taskWrites_of_skipped hmodules hm hskipped hothers)
    · rw [hpath] at hq
      cases hq
      exact absurd hloc.symm hmain

def pairedOwner (license : Text) : SourceUnit :=
  { licensedOwner license with
    content := "contract A \x7b\n\x7d\n".toList
    recipe := { buildPath := "./IA.sol", modules := [presentTask] } }

/-- The output of the source is out of date, and that of the module is not. -/
def halfFresh : Workspace where
  files := ⟨[([], .directory 0), (["p".toList], .directory 0),
    (["p".toList, "A.sol".toList], .file (Utf8.encode "contract A \x7b\n\x7d\n") 2),
    (["p".toList, "M.sol".toList], .file (Utf8.encode "contract M \x7b\n\x7d\n") 0),
    (["p".toList, "IA.sol".toList], .file (Utf8.encode "old") 1),
    (["p".toList, "IM.sol".toList], .file (Utf8.encode "kept") 3)]⟩
  cwd := ⟨.root, ["p".toList]⟩
  now := 4

theorem fresh_module_output_kept :
    ∃ w', outcome (buildUnit (pairedOwner "MIT")) halfFresh =
        (.ok ⟨⟨.relative, ["A.sol".toList]⟩, ⟨.root, ["p".toList, "IA.sol".toList]⟩, .generated,
          [⟨"./M.sol", "/p/IM.sol", some .skipped, none⟩]⟩, w') ∧
      w'.files.file? ["p".toList, "IM.sol".toList] = some (Utf8.encode "kept", 3) ∧
      ∀ loc, w'.files.file? loc = halfFresh.files.file? loc ∨
        ∃ content, w'.files.file? loc = some (content, 4) ∧
          (MainWrites (pairedOwner "MIT") halfFresh loc content ∨
            TaskWrites (pairedOwner "MIT") halfFresh [presentTask] loc content) := by
  have hresult : (outcome (buildUnit (pairedOwner "MIT")) halfFresh).1 =
      .ok ⟨⟨.relative, ["A.sol".toList]⟩, ⟨.root, ["p".toList, "IA.sol".toList]⟩, .generated,
        [⟨"./M.sol", "/p/IM.sol", some .skipped, none⟩]⟩ := by decide +kernel
  have houtput : Path.outputFor halfFresh.cwd (pairedOwner "MIT").path presentTask.output =
      .ok ⟨.root, ["p".toList, "IM.sol".toList]⟩ := by decide
  obtain ⟨w', hbuild⟩ := exists_outcome hresult
  obtain ⟨hfiles, hskipped⟩ := buildUnit_changes_outputs_only hbuild
  have hkept := (hskipped _ rfl).2 0 presentTask ⟨.root, ["p".toList, "IM.sol".toList]⟩ _ rfl
    houtput rfl rfl (by decide) (fun j other q hj hother => by
      cases j with
      | zero => exact absurd rfl hj
      | succ j => cases hother)
  exact ⟨w', hbuild, hkept, hfiles⟩

/-- A license with half a character leaves an output that holds neither the interface nor what was
there. -/
theorem half_license_empties_output :
    halfFresh.files.file? ["p".toList, "IA.sol".toList] = some (Utf8.encode "old", 1) ∧
      ((pairedOwner [Text.ofCode 0xD800]).interface.map fun i => i.2.isEmpty).toOption =
        some false ∧
      (outcome (buildUnit (pairedOwner [Text.ofCode 0xD800])) halfFresh).1 =
        .error (.unwritable ⟨.root, ["p".toList, "IA.sol".toList]⟩) ∧
      (outcome (buildUnit (pairedOwner [Text.ofCode 0xD800])) halfFresh).2.files.file?
        ["p".toList, "IA.sol".toList] = some ([], 4) := by
  decide +kernel

end SolInterface.Build
