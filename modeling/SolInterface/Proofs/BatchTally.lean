import Mathlib.Algebra.Ring.Nat
import SolInterface.Proofs.BatchInputs

/-!
What a batch comes to, file by file. A run visits its files in order, each in the workspace that the
ones before it leave, and the summary is the sum of what the visits come to.
-/
namespace SolInterface
open WorkspaceM

/-! Sums of summaries. -/

namespace Summary

@[simp] theorem empty_append (s : Summary) : append {} s = s := by simp [append]

theorem append_assoc (s t u : Summary) : (s.append t).append u = s.append (t.append u) := by
  simp [append, Nat.add_assoc, Int.add_assoc]

def sum (summaries : List Summary) : Summary := summaries.foldr append {}

/-- What adds up over two summaries adds up over all of them. -/
theorem map_sum {f : Summary → Nat} (hempty : f {} = 0)
    (happend : ∀ s t, f (s.append t) = f s + f t)
    (summaries : List Summary) : f (sum summaries) = (summaries.map f).sum := by
  induction summaries with
  | nil => exact hempty
  | cons s summaries ih =>
    rw [List.map_cons, List.sum_cons, ← ih, ← happend, sum, List.foldr_cons, sum]

theorem generated_sum (summaries : List Summary) :
    (sum summaries).generated = (summaries.map (·.generated)).sum :=
  map_sum rfl (fun _ _ => rfl) summaries

theorem processed_append (s t : Summary) :
    (s.append t).processed = s.processed + t.processed := by
  simp only [processed, append]
  omega

theorem processed_sum (summaries : List Summary) :
    (sum summaries).processed = (summaries.map (·.processed)).sum :=
  map_sum rfl processed_append summaries

theorem total_sum {summaries : List Summary} (h : ∀ s ∈ summaries, s.total = 0) :
    (sum summaries).total = 0 := by
  induction summaries with
  | nil => rfl
  | cons s summaries ih =>
    obtain ⟨hs, hrest⟩ := List.forall_mem_cons.1 h
    have hcons : (sum (s :: summaries)).total = s.total + (sum summaries).total := rfl
    rw [hcons, hs, ih hrest, Int.add_zero]

end Summary

/-! Actions that only print. -/

/-- The workspaces differ at most in what has been printed. -/
def Workspace.Shows (w w' : Workspace) : Prop := ∃ printed, w' = { w with printed }

namespace Workspace.Shows

variable {w w' w'' : Workspace}

theorem refl (w : Workspace) : w.Shows w := ⟨w.printed, rfl⟩

theorem trans (h : w.Shows w') (h' : w'.Shows w'') : w.Shows w'' := by
  obtain ⟨_, rfl⟩ := h
  obtain ⟨printed, rfl⟩ := h'
  exact ⟨printed, rfl⟩

theorem sameFiles (h : w.Shows w') : w.SameFiles w' := by
  obtain ⟨_, rfl⟩ := h
  exact ⟨rfl, rfl, rfl⟩

theorem log_eq (h : w.Shows w') : w'.log = w.log := by
  obtain ⟨_, rfl⟩ := h
  rfl

end Workspace.Shows

theorem isSteady_shows : Workspace.IsSteady Workspace.Shows := ⟨.refl, .trans⟩

/-- Whatever it answers, the action does nothing but print. -/
def WorkspaceM.OnlyPrints {α : Type} (action : WorkspaceM α) : Prop := Keeps Workspace.Shows action

namespace WorkspaceM

variable {α β : Type} {w w' : Workspace}

theorem OnlyPrints.shows {action : WorkspaceM α} (h : OnlyPrints action)
    {answer : Except Failure α} (hw : outcome action w = (answer, w')) : w.Shows w' :=
  Keeps.of_outcome h hw

/-- What follows an action and only prints leaves what the action did. -/
theorem shows_bind (action : WorkspaceM α) {next : α → WorkspaceM β}
    (h : ∀ a, OnlyPrints (next a)) (w : Workspace) :
    (outcome action w).2.Shows (outcome (action >>= next) w).2 := by
  rcases haction : outcome action w with ⟨failure | a, v⟩
  · rw [outcome_bind_error haction]
    exact .refl v
  · rw [outcome_bind_ok haction]
    exact h a v

theorem shows_tryCatch (action : WorkspaceM α) {handler : Failure → WorkspaceM α}
    (h : ∀ failure, OnlyPrints (handler failure)) (w : Workspace) :
    (outcome action w).2.Shows (outcome (tryCatch action handler) w).2 := by
  rw [outcome_tryCatch]
  rcases outcome action w with ⟨failure | a, v⟩
  · exact h failure v
  · exact .refl v

theorem outcome_attempt_snd (action : WorkspaceM α) (w : Workspace) :
    (outcome (attempt action) w).2 = (outcome action w).2 := by
  rw [outcome_attempt]
  rcases outcome action w with ⟨failure | a, v⟩
  · dsimp only
    split <;> rfl
  · rfl

theorem onlyPrints_pure (a : α) : OnlyPrints (pure a : WorkspaceM α) := keeps_pure isSteady_shows a

theorem onlyPrints_throw (failure : Failure) : OnlyPrints (throw failure : WorkspaceM α) :=
  keeps_throw isSteady_shows failure

theorem onlyPrints_print (lines : List Text) : OnlyPrints (print lines) := fun w =>
  ⟨w.printed ++ lines, rfl⟩

theorem OnlyPrints.bind {action : WorkspaceM α} {next : α → WorkspaceM β} (h : OnlyPrints action)
    (hnext : ∀ a, OnlyPrints (next a)) : OnlyPrints (action >>= next) :=
  keeps_bind isSteady_shows h hnext

theorem onlyPrints_printShown (shown : Except Console.Fault (List Text)) :
    OnlyPrints (printShown shown) := keeps_printShown isSteady_shows onlyPrints_print shown

end WorkspaceM

namespace Batch
open Build

variable {console : Console} {o : SourceUnit.Options} {p : Path} {paths : List Path}
  {s t : Summary} {w w' v : Workspace}

/-! One visit. -/

/-- What the build of a source adds to the summary. -/
def entered (p : Path) : Except Failure BuildResult → Summary
  | .ok r => Summary.record {} r
  | .error failure => Summary.recordFailure {} p failure

theorem append_entered_ok (s : Summary) (p : Path) (r : BuildResult) :
    s.append (entered p (.ok r)) = s.record r := by
  rw [entered, ← Summary.append_record, Summary.append_empty]

theorem append_entered_error (s : Summary) (p : Path) (failure : Failure) :
    s.append (entered p (.error failure)) = s.recordFailure p failure := by
  rw [entered, ← Summary.append_recordFailure, Summary.append_empty]

/-- A turn that does not end the run adds what the build came to, and a failure is one of those that
are reported. -/
theorem turn_eq_ok (h : outcome (turn console o p s) w = (.ok t, w')) :
    t = s.append (entered p (outcome (buildFile p o) w).1) ∧
      ∀ failure, (outcome (buildFile p o) w).1 = .error failure → failure.isReported = true := by
  rcases hbuilt : outcome (buildFile p o) w with ⟨failure | r, v⟩
  · cases hfailure : failure.isReported with
    | true =>
      by_cases hshown : console.Shows (errorLine p failure)
      · obtain ⟨_, -, hturn⟩ := turn_of_failed hbuilt hfailure hshown
        rw [hturn s] at h
        cases h
        refine ⟨(append_entered_error s p failure).symm, fun f hf => ?_⟩
        cases hf
        exact hfailure
      · obtain ⟨_, _, -, hturn⟩ := turn_of_unshown hbuilt hfailure hshown
        rw [hturn s] at h
        cases h
    | false =>
      obtain ⟨_, _, -, hturn⟩ := turn_of_stopped hbuilt hfailure
      rw [hturn s] at h
      cases h
  · rw [turn_of_built hbuilt s] at h
    cases h
    exact ⟨(append_entered_ok s p r).symm, fun f hf => by cases hf⟩

theorem onlyPrints_conclude (console : Console) (last : Path) (s : Summary) :
    OnlyPrints (conclude console last s) :=
  keeps_conclude isSteady_shows onlyPrints_print console last s

/-- After its build a turn only prints. -/
theorem shows_turn (console : Console) (o : SourceUnit.Options) (p : Path) (s : Summary)
    (w : Workspace) :
    (outcome (buildFile p o) w).2.Shows (outcome (turn console o p s) w).2 := by
  have hone : (outcome (buildFile p o) w).2.Shows (outcome (buildOne console o p s) w).2 := by
    rw [buildOne_eq, ← outcome_attempt_snd]
    refine shows_bind _ (fun built => ?_) w
    split
    · exact onlyPrints_pure _
    · exact (onlyPrints_printShown _).bind fun _ => onlyPrints_pure _
  exact hone.trans (shows_tryCatch _
    (fun failure => (onlyPrints_printShown _).bind fun _ => onlyPrints_throw failure) w)

theorem indifferent_turn (console : Console) (o : SourceUnit.Options) (p : Path) (s : Summary) :
    Indifferent (turn console o p s) :=
  (indifferent_buildOne console o p s).tryCatch fun failure =>
    (indifferent_printShown _).bind fun _ => indifferent_throw failure

/-! All visits. -/

/-- The files of a run, each with the workspace in which it has its turn. -/
def visits (console : Console) (o : SourceUnit.Options) :
    List Path → Workspace → List (Path × Workspace)
  | [], _ => []
  | p :: rest, w => (p, w) :: visits console o rest (outcome (turn console o p {}) w).2

def tally (o : SourceUnit.Options) (visit : Path × Workspace) : Summary :=
  entered visit.1 (outcome (buildFile visit.1 o) visit.2).1

/-- Nothing that depends on the files alone changes with what was logged and printed before. -/
theorem map_visits {β : Type} {f : Path × Workspace → β}
    (hf : ∀ p w v, w.SameFiles v → f (p, w) = f (p, v)) (hsame : w.SameFiles v) :
    (visits console o paths w).map f = (visits console o paths v).map f := by
  induction paths generalizing w v with
  | nil => rfl
  | cons p paths ih =>
    rw [visits, visits, List.map_cons, List.map_cons, hf p w v hsame,
      ih (indifferent_turn console o p {} w v hsame).2]

theorem map_fst_visits (console : Console) (o : SourceUnit.Options) (paths : List Path)
    (w : Workspace) :
    (visits console o paths w).map (·.1) = paths := by
  induction paths generalizing w with
  | nil => rfl
  | cons p paths ih => rw [visits, List.map_cons, ih]

/-- The first step of a run that goes through. -/
theorem buildFiles_cons_ok (h : outcome (buildFiles console o (p :: paths) s) w = (.ok t, w')) :
    ∃ v, outcome (turn console o p s) w = (.ok (s.append (tally o (p, w))), v) ∧
      (∀ failure, (outcome (buildFile p o) w).1 = .error failure → failure.isReported = true) ∧
      outcome (buildFiles console o paths (s.append (tally o (p, w)))) v = (.ok t, w') ∧
      visits console o (p :: paths) w = (p, w) :: visits console o paths v := by
  rw [buildFiles_cons] at h
  rcases outcome_bind_cases h with ⟨_, -, hanswer⟩ | ⟨s', v, hturn, hrest⟩
  · cases hanswer
  have hnext : (outcome (turn console o p {}) w).2 = v := by
    have hstart := outcome_turn_append console o p s {} w
    rw [Summary.append_empty, hturn] at hstart
    exact (congrArg Prod.snd hstart).symm
  obtain ⟨rfl, hreported⟩ := turn_eq_ok hturn
  exact ⟨v, hturn, hreported, hrest, by rw [visits, hnext]⟩

/-- A run that goes through has added up its visits. -/
theorem buildFiles_eq_ok (h : outcome (buildFiles console o paths s) w = (.ok t, w')) :
    t = s.append (Summary.sum ((visits console o paths w).map (tally o))) := by
  induction paths generalizing s w with
  | nil =>
    cases h
    exact (Summary.append_empty _).symm
  | cons p paths ih =>
    obtain ⟨v, -, -, hrest, hvisits⟩ := buildFiles_cons_ok h
    rw [ih hrest, hvisits]
    exact Summary.append_assoc _ _ _

/-- The workspace of a visit is the one that the files before it leave. -/
theorem exists_run_of_mem_visits {visit : Path × Workspace}
    (h : outcome (buildFiles console o paths s) w = (.ok t, w'))
    (hvisit : visit ∈ visits console o paths w) :
    ∃ before after t', paths = before ++ visit.1 :: after ∧
      outcome (buildFiles console o before s) w = (.ok t', visit.2) := by
  induction paths generalizing s w with
  | nil => exact absurd hvisit List.not_mem_nil
  | cons p paths ih =>
    obtain ⟨v, hturn, -, hrest, hvisits⟩ := buildFiles_cons_ok h
    rw [hvisits] at hvisit
    rcases List.mem_cons.1 hvisit with rfl | hvisit
    · exact ⟨[], paths, s, rfl, rfl⟩
    · obtain ⟨before, after, t', rfl, hbefore⟩ := ih hrest hvisit
      refine ⟨p :: before, after, t', rfl, ?_⟩
      rwa [buildFiles_cons, outcome_bind_ok hturn]

/-- Where no output leads to a source of the batch, a source is read at its turn as it was before
the run. -/
theorem read_of_mem_visits {visit : Path × Workspace} {bytes : List UInt8}
    (hfree : ∀ p ∈ paths, ∀ loc ∈ declaredPlaces o w p, ∀ q ∈ paths, loc ≠ FileTree.place w.cwd q)
    (h : outcome (buildFiles console o paths {}) w = (.ok t, w'))
    (hvisit : visit ∈ visits console o paths w)
    (hread : w.files.read w.cwd visit.1 = .ok bytes) :
    visit.2.files.read visit.2.cwd visit.1 = .ok bytes := by
  obtain ⟨before, after, t', rfl, hbefore⟩ := exists_run_of_mem_visits h hvisit
  have hframe := buildFiles_frame console o before {} w
  rw [hbefore] at hframe
  obtain ⟨hcwd, -, hgrows⟩ := hframe
  rw [hcwd]
  refine hgrows.read (fun _ halong => ?_) hread
  obtain ⟨first, p, rest, s, v, rfl, hfirst, hloc⟩ := halong
  obtain ⟨q, hq, hdeclared⟩ := DeclaredAlong.exists_declared hfree
    ⟨first, p, rest ++ visit.1 :: after, s, v, by simp, hfirst, hloc⟩
  exact hfree q hq _ hdeclared visit.1 (by simp) rfl

/-! A whole batch. -/

/-- A batch that gives a summary has found its files, counted what they announce and gone through
all of them; before and after that it only prints. -/
theorem build_runs {r : Request} (h : outcome (build console r) w = (.ok s, w')) :
    ∃ paths total v v' x, outcome (r.paths console) w = (.ok paths, v) ∧
      announcedIn r.options.dialect v paths = .ok total ∧ v.Shows v' ∧
      outcome (buildFiles console r.options paths { total }) v' = (.ok s, x) ∧ x.Shows w' := by
  rcases outcome_bind_cases h with ⟨_, -, hanswer⟩ | ⟨paths, v, hpaths, hfound⟩
  · cases hanswer
  rcases outcome_bind_cases hfound with ⟨_, -, hanswer⟩ | ⟨total, x, hcounted, hstart⟩
  · cases hanswer
  rw [outcome_countInterfaces] at hcounted
  obtain ⟨hcount, rfl⟩ := Prod.mk.inj hcounted
  split at hstart
  · next hnone =>
    rw [List.getLast?_eq_none_iff.1 hnone] at hpaths hcount
    rcases outcome_bind_cases hstart with ⟨_, -, hanswer⟩ | ⟨_, x, hfirst, hstart⟩
    · cases hanswer
    rcases outcome_bind_cases hstart with ⟨_, -, hanswer⟩ | ⟨_, y, hsecond, hend⟩
    · cases hanswer
    cases hend
    have hshows := ((onlyPrints_printShown _).shows hfirst).trans
      ((onlyPrints_printShown _).shows hsecond)
    exact ⟨[], total, v, w', w', hpaths, hcount, hshows, rfl, .refl w'⟩
  · next last _ =>
    rcases outcome_bind_cases hstart with ⟨_, -, hanswer⟩ | ⟨_, v', hprint, hbuilds⟩
    · cases hanswer
    rcases outcome_bind_cases hbuilds with ⟨_, -, hanswer⟩ | ⟨t, x, hrun, hend⟩
    · cases hanswer
    obtain ⟨rfl, -⟩ := conclude_eq_ok.1 (congrArg Prod.fst hend)
    exact ⟨paths, total, v, v', x, hpaths, hcount, (onlyPrints_printShown _).shows hprint, hrun,
      (onlyPrints_conclude console last s).shows hend⟩

theorem announcedIn_congr {choice : Option DialectChoice} (h : w.SameFiles v) :
    announcedIn choice w paths = announcedIn choice v paths := by
  unfold announcedIn
  rw [h.1, h.2.1]

/-- Run by itself in the workspace of the batch, the run over its files goes through as well. -/
theorem build_eq_append {r : Request} (h : outcome (build console r) w = (.ok s, w')) :
    ∃ paths total t x, (outcome (r.paths console) w).1 = .ok paths ∧
      announcedIn r.options.dialect w paths = .ok total ∧
      outcome (buildFiles console r.options paths {}) w = (.ok t, x) ∧
      s = Summary.append { total } t := by
  obtain ⟨paths, total, v, v', _, hpaths, hcount, hshows, hrun, -⟩ := build_runs h
  have hsame := (quiet_paths console r).sameFiles hpaths
  rw [← announcedIn_congr hsame] at hcount
  obtain ⟨x, hrun, -⟩ := (indifferent_buildFiles console r.options paths _).outcome
    (hsame.trans hshows.sameFiles).symm hrun
  rw [outcome_buildFiles_start] at hrun
  rcases hstart : outcome (buildFiles console r.options paths {}) w with ⟨failure | t, y⟩
  · rw [hstart] at hrun
    cases hrun
  · rw [hstart] at hrun
    cases hrun
    exact ⟨paths, total, t, _, by rw [hpaths], hcount, hstart, rfl⟩

end Batch
end SolInterface
