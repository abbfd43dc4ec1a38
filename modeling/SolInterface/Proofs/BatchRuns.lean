import SolInterface.Proofs.BuildFrame
import SolInterface.Proofs.Console

/-!
The run of a batch: its files have their turns one after the other, each adds to the summary what it
comes to, and the report is printed in the end. What was counted before makes no difference to a run
over the same files, and apart from what is printed a batch does what its builds do.
-/
namespace SolInterface
open WorkspaceM

/-! Summaries of runs that follow one another. -/

namespace Summary

/-- The counts of both, and what both have listed. -/
def append (s t : Summary) : Summary where
  generated := s.generated + t.generated
  skipped := s.skipped + t.skipped
  failed := s.failed + t.failed
  total := s.total + t.total
  results := s.results ++ t.results
  errors := s.errors ++ t.errors

def entry (p : Path) (failure : Failure) : Text := Text.cat [p.text, ": ", failure.message]

@[simp] theorem append_empty (s : Summary) : s.append {} = s := by simp [append]

theorem append_count (s t : Summary) (status : Option Status) :
    (s.append t).count status = s.append (t.count status) := by
  rcases status with _ | _ | _ <;> rfl

theorem append_recordModule (s t : Summary) (m : ModuleResult) :
    (s.append t).recordModule m = s.append (t.recordModule m) := by
  unfold recordModule
  rw [append_count]
  dsimp only
  split
  · simp [append]
  · rfl

theorem append_recordModules (s t : Summary) (modules : List ModuleResult) :
    modules.foldl recordModule (s.append t) = s.append (modules.foldl recordModule t) := by
  induction modules generalizing t with
  | nil => rfl
  | cons m modules ih => rw [List.foldl_cons, List.foldl_cons, append_recordModule, ih]

theorem append_record (s t : Summary) (r : BuildResult) :
    (s.append t).record r = s.append (t.record r) := by
  have hresults : { s.append t with results := (s.append t).results ++ [r] } =
      s.append { t with results := t.results ++ [r] } := by simp [append]
  unfold record
  dsimp only
  rw [hresults, append_count, append_recordModules]

theorem append_recordFailure (s t : Summary) (p : Path) (failure : Failure) :
    (s.append t).recordFailure p failure = s.append (t.recordFailure p failure) := by
  simp [append, recordFailure, Nat.add_assoc]

/-! Nothing is listed as an error that is not counted. -/

theorem errors_le_recordModule {s : Summary} {m : ModuleResult}
    (hm : m.status = none ∨ m.error = none) (h : s.errors.length ≤ s.failed) :
    (s.recordModule m).errors.length ≤ (s.recordModule m).failed := by
  rcases hm with hm | hm
  · unfold recordModule
    rw [hm]
    dsimp only
    split
    · simpa [count] using h
    · exact Nat.le_succ_of_le h
  · unfold recordModule
    rw [hm]
    rcases m.status with _ | _ | _
    · exact Nat.le_succ_of_le h
    · exact h
    · exact h

theorem errors_le_recordModules {s : Summary} {modules : List ModuleResult}
    (hmodules : ∀ m ∈ modules, m.status = none ∨ m.error = none)
    (h : s.errors.length ≤ s.failed) :
    (modules.foldl recordModule s).errors.length ≤ (modules.foldl recordModule s).failed := by
  induction modules generalizing s with
  | nil => exact h
  | cons m modules ih =>
    exact ih (fun m' hm' => hmodules m' (List.mem_cons_of_mem _ hm'))
      (errors_le_recordModule (hmodules m List.mem_cons_self) h)

theorem errors_le_record {s : Summary} {r : BuildResult}
    (hmodules : ∀ m ∈ r.modules, m.status = none ∨ m.error = none)
    (h : s.errors.length ≤ s.failed) : (s.record r).errors.length ≤ (s.record r).failed := by
  refine errors_le_recordModules hmodules ?_
  rcases r.status with _ | _
  · exact h
  · exact h

/-! The lines of the report. -/

/-- Only the errors may keep a report from being shown, and they are left out where nothing
failed. -/
theorem shows_report_iff {console : Console} (hconsole : console.IsLawful) {s : Summary}
    (h : s.errors.length ≤ s.failed) :
    (∀ line ∈ s.report, console.Shows line) ↔ ∀ error ∈ s.errors, console.Shows error := by
  have hentry : ∀ error : Text, console.Shows ("  ".toList ++ error) ↔ console.Shows error :=
    hconsole.shows_append (by decide)
  have hwords : ∀ (before after : Text) (n : Nat), Text.isTagless before = true →
      Text.isTagless after = true →
      Text.isTagless (Text.cat [before, Text.ofNat n, after]) = true :=
    fun before after n hbefore hafter =>
      Text.isTagless_cat (by simp [hbefore, hafter, Text.isTagless_ofNat])
  constructor
  · intro hall error hmem
    have hfailed : s.failed ≠ 0 := by
      have := List.length_pos_of_mem hmem
      omega
    refine (hentry error).1 (hall _ ?_)
    rw [report, if_neg hfailed]
    refine List.mem_append_left _ (List.mem_append_right _ (List.mem_cons_of_mem _ ?_))
    exact List.mem_map_of_mem hmem
  · intro hall line hline
    rw [report, List.mem_append, List.mem_append, List.mem_append] at hline
    rcases hline with ((hline | hline) | hline) | hline
    · rw [List.mem_singleton.1 hline, Text.cat, List.flatten_cons, List.flatten_cons,
        hconsole.shows_append (by decide), hconsole.shows_tagged_append .green (by decide)]
      exact hconsole.shows_of_isTagless (hwords _ _ _ (by decide) (by decide))
    · split at hline
      · cases hline
      · rw [List.mem_singleton.1 hline]
        exact hconsole.shows_tagged .yellow (hwords _ _ _ (by decide) (by decide))
    · split at hline
      · cases hline
      · rcases List.mem_cons.1 hline with rfl | hline
        · rw [Text.cat, List.flatten_cons, hconsole.shows_tagged_append .red (by decide)]
          exact hconsole.shows_of_isTagless (hwords _ _ _ (by decide) (by decide))
        · obtain ⟨error, herror, rfl⟩ := List.mem_map.1 hline
          exact (hentry error).2 (hall error herror)
    · rw [List.mem_singleton.1 hline]
      refine hconsole.shows_tagged .bold (Text.isTagless_cat ?_)
      simp only [List.forall_mem_cons, Text.isTagless_ofNat, Text.isTagless_ofInt]
      decide

end Summary

/-! Printing. -/

namespace WorkspaceM

variable {w : Workspace}

/-- What is done on the way to a failure gives no answer of its own. -/
theorem outcome_tryCatch_throw_map {α β : Type} {x : WorkspaceM α} {y : WorkspaceM β} {f : α → β}
    (h : outcome y w = ((outcome x w).1.map f, (outcome x w).2)) (report : WorkspaceM Unit) :
    outcome (tryCatch y fun failure => report >>= fun _ => throw failure) w =
      ((outcome (tryCatch x fun failure => report >>= fun _ => throw failure) w).1.map f,
        (outcome (tryCatch x fun failure => report >>= fun _ => throw failure) w).2) := by
  rw [outcome_tryCatch, outcome_tryCatch, h]
  rcases outcome x w with ⟨failure | a, v⟩
  · dsimp only [Except.map]
    rw [outcome_bind, outcome_bind]
    rcases outcome report v with ⟨_ | _, _⟩ <;> rfl
  · rfl

theorem quiet_print (lines : List Text) : Quiet (print lines) := fun _ => ⟨rfl, rfl, rfl⟩

theorem quiet_printShown (shown : Except Console.Fault (List Text)) : Quiet (printShown shown) :=
  keeps_printShown isSteady_sameFiles quiet_print shown

theorem outcome_printShown (shown : Except Console.Fault (List Text)) (w : Workspace) :
    (∃ lines w', shown = .ok lines ∧ outcome (printShown shown) w = (.ok (), w')) ∨
      ∃ fault, shown = .error fault ∧
        outcome (printShown shown) w = (.error (.markup fault), w) := by
  cases shown with
  | ok lines => exact Or.inl ⟨lines, _, rfl, rfl⟩
  | error fault => exact Or.inr ⟨fault, rfl, rfl⟩

variable {console : Console}

theorem outcome_printMarkup_ok {line : Text} (h : console.Shows line) (w : Workspace) :
    ∃ w', outcome (printMarkup console line) w = (.ok (), w') := by
  obtain ⟨shown, hshown⟩ := h
  rw [printMarkup, hshown]
  exact ⟨_, rfl⟩

theorem outcome_printMarkup_error {line : Text} (h : ¬console.Shows line) (w : Workspace) :
    ∃ fault, outcome (printMarkup console line) w = (.error (.markup fault), w) := by
  unfold Console.Shows at h
  rw [printMarkup]
  cases hrender : console.render line with
  | error fault => exact ⟨fault, rfl⟩
  | ok shown => exact absurd ⟨shown, hrender⟩ h

theorem outcome_printLines {lines : List Text} :
    (∃ w', outcome (lines.forM (printMarkup console)) w = (.ok (), w')) ↔
      ∀ line ∈ lines, console.Shows line := by
  induction lines generalizing w with
  | nil => exact iff_of_true ⟨w, rfl⟩ (by simp)
  | cons line lines ih =>
    rw [List.forM, List.forall_mem_cons]
    by_cases hline : console.Shows line
    · obtain ⟨v, hv⟩ := outcome_printMarkup_ok hline w
      rw [outcome_bind_ok hv, ih]
      exact ⟨fun h => ⟨hline, h⟩, fun h => h.2⟩
    · obtain ⟨fault, hfault⟩ := outcome_printMarkup_error hline w
      rw [outcome_bind_error hfault]
      refine ⟨?_, fun h => absurd h.1 hline⟩
      rintro ⟨_, h⟩
      cases h

end WorkspaceM

namespace Batch
open Build

variable {console : Console} {o : SourceUnit.Options} {p : Path} {w w' : Workspace}
  {failure : Failure}

/-- The progress display can be shown over a file when the work is finished. -/
def ShowsProgress (console : Console) (p : Path) : Prop :=
  ∃ lines, console.progress true (description p) = .ok lines

theorem shows_errorLine (hconsole : console.IsLawful) (p : Path) (failure : Failure) :
    console.Shows (errorLine p failure) ↔ console.Shows (Summary.entry p failure) := by
  rw [errorLine, Text.cat, List.flatten_cons, List.flatten_cons,
    hconsole.shows_tagged_append .red (by decide), hconsole.shows_append (by decide)]
  rfl

theorem shows_heading (hconsole : console.IsLawful) (sources interfaces : Nat) :
    console.Shows (heading sources interfaces) := by
  refine hconsole.shows_tagged .bold (Text.isTagless_cat ?_)
  simp only [List.forall_mem_cons, Text.isTagless_ofNat]
  decide

/-! One file after the other. -/

section

variable (console : Console)

/-- What a file of the batch does when it has its turn. -/
def turn (o : SourceUnit.Options) (p : Path) (s : Summary) : WorkspaceM Summary :=
  tryCatch (buildOne console o p s) fun failure => do
    printProgress console false p
    throw failure

theorem buildFiles_cons (o : SourceUnit.Options) (p : Path) (rest : List Path) (s : Summary) :
    buildFiles console o (p :: rest) s = turn console o p s >>= buildFiles console o rest := rfl

theorem buildFiles_append (o : SourceUnit.Options) (before after : List Path) (s : Summary) :
    buildFiles console o (before ++ after) s =
      buildFiles console o before s >>= buildFiles console o after := by
  induction before generalizing s with
  | nil => simp [buildFiles]
  | cons p before ih =>
    simp only [List.cons_append, buildFiles_cons, bind_assoc]
    exact congrArg _ (funext ih)

theorem buildOne_eq (o : SourceUnit.Options) (p : Path) (s : Summary) :
    buildOne console o p s = attempt (buildFile p o) >>= fun built =>
      match built with
      | .ok r => pure (s.record r)
      | .error failure =>
        printMarkup console (errorLine p failure) >>= fun _ =>
          pure (s.recordFailure p failure) := rfl

theorem outcome_buildOne_append (o : SourceUnit.Options) (p : Path) (s t : Summary)
    (w : Workspace) :
    outcome (buildOne console o p (s.append t)) w =
      ((outcome (buildOne console o p t) w).1.map s.append,
        (outcome (buildOne console o p t) w).2) := by
  rw [buildOne_eq, buildOne_eq, outcome_bind, outcome_bind]
  rcases outcome (attempt (buildFile p o)) w with ⟨failure | failure | r, v⟩
  · rfl
  · dsimp only
    rw [outcome_bind_pure, outcome_bind_pure, Summary.append_recordFailure]
    generalize outcome (printMarkup console (errorLine p failure)) v = shown
    rcases shown with ⟨_ | _, _⟩ <;> rfl
  · dsimp only
    rw [outcome_pure, outcome_pure, Summary.append_record]
    rfl

theorem outcome_turn_append (o : SourceUnit.Options) (p : Path) (s t : Summary) (w : Workspace) :
    outcome (turn console o p (s.append t)) w =
      ((outcome (turn console o p t) w).1.map s.append, (outcome (turn console o p t) w).2) := by
  rw [turn, turn]
  exact outcome_tryCatch_throw_map (outcome_buildOne_append console o p s t w) (printShown _)

/-- What was counted before is added to what a run counts, and nothing else depends on it. -/
theorem outcome_buildFiles_append (o : SourceUnit.Options) (paths : List Path) (s t : Summary)
    (w : Workspace) :
    outcome (buildFiles console o paths (s.append t)) w =
      ((outcome (buildFiles console o paths t) w).1.map s.append,
        (outcome (buildFiles console o paths t) w).2) := by
  induction paths generalizing t w with
  | nil => rfl
  | cons p paths ih =>
    rw [buildFiles_cons, buildFiles_cons, outcome_bind, outcome_bind, outcome_turn_append]
    rcases outcome (turn console o p t) w with ⟨failure | s', v⟩
    · rfl
    · exact ih s' v

theorem outcome_buildFiles_start (o : SourceUnit.Options) (paths : List Path) (s : Summary)
    (w : Workspace) :
    outcome (buildFiles console o paths s) w =
      ((outcome (buildFiles console o paths {}) w).1.map s.append,
        (outcome (buildFiles console o paths {}) w).2) := by
  rw [← outcome_buildFiles_append, Summary.append_empty]

end

/-- Over the same files, a run with other counts goes the same way. -/
theorem outcome_buildFiles_again {paths : List Path} {v : Workspace}
    {answer : Except Failure Summary} (hsame : w.SameFiles v)
    (h : outcome (buildFiles console o paths {}) w = (answer, w')) (s : Summary) :
    ∃ v', outcome (buildFiles console o paths s) v = (answer.map s.append, v') ∧
      w'.SameFiles v' := by
  obtain ⟨v', hv, hsame'⟩ := (indifferent_buildFiles console o paths {}).outcome hsame h
  refine ⟨v', ?_, hsame'⟩
  rw [outcome_buildFiles_start, hv]

theorem turn_of_built {r : BuildResult} (h : outcome (buildFile p o) w = (.ok r, w'))
    (s : Summary) : outcome (turn console o p s) w = (.ok (s.record r), w') := by
  have hattempt : outcome (attempt (buildFile p o)) w = (.ok (.ok r), w') := by
    rw [outcome_attempt, h]
  have hone : outcome (buildOne console o p s) w = (.ok (s.record r), w') := by
    rw [buildOne_eq, outcome_bind_ok hattempt]
    rfl
  rw [turn, outcome_tryCatch, hone]

/-- A turn that fails leaves the line of its file behind, if that can be shown. -/
theorem turn_of_error (h : outcome (buildOne console o p {}) w = (.error failure, w')) :
    ∃ last v, w'.SameFiles v ∧ (last = failure ∨ ∃ fault, last = .markup fault) ∧
      ∀ s, outcome (turn console o p s) w = (.error last, v) := by
  have hall : ∀ {last : Failure} {v : Workspace},
      outcome (turn console o p {}) w = (.error last, v) →
      ∀ s, outcome (turn console o p s) w = (.error last, v) := by
    intro last v hturn s
    have hstart := outcome_turn_append console o p s {} w
    rwa [Summary.append_empty, hturn] at hstart
  have hends : outcome (turn console o p {}) w =
      outcome (printProgress console false p >>= fun _ => throw failure) w' := by
    rw [turn, outcome_tryCatch, h]
  rcases outcome_printShown (console.progress false (description p)) w' with
    ⟨-, v, -, hprogress⟩ | ⟨fault, -, hprogress⟩
  · replace hends := hends.trans (outcome_bind_ok hprogress _)
    exact ⟨failure, v, (quiet_printShown _).sameFiles hprogress, Or.inl rfl, hall hends⟩
  · replace hends := hends.trans (outcome_bind_error hprogress _)
    exact ⟨.markup fault, w', .refl w', Or.inr ⟨fault, rfl⟩, hall hends⟩

theorem outcome_buildOne_failed (h : outcome (buildFile p o) w = (.error failure, w'))
    (hfailure : failure.isReported = true) (s : Summary) :
    outcome (buildOne console o p s) w =
      ((outcome (printMarkup console (errorLine p failure)) w').1.map fun _ =>
          s.recordFailure p failure,
        (outcome (printMarkup console (errorLine p failure)) w').2) := by
  have hattempt : outcome (attempt (buildFile p o)) w = (.ok (.error failure), w') := by
    rw [outcome_attempt, h]
    simp only [hfailure, if_true]
  rw [buildOne_eq, outcome_bind_ok hattempt]
  exact outcome_bind_pure _ _ w'

theorem buildFiles_of_built {r : BuildResult} (h : outcome (buildFile p o) w = (.ok r, w'))
    (s : Summary) : outcome (buildFiles console o [p] s) w = (.ok (s.record r), w') := by
  rw [buildFiles_cons, outcome_bind_ok (turn_of_built h s)]
  rfl

theorem turn_of_failed (h : outcome (buildFile p o) w = (.error failure, w'))
    (hfailure : failure.isReported = true) (hshown : console.Shows (errorLine p failure)) :
    ∃ v, w'.SameFiles v ∧
      ∀ s, outcome (turn console o p s) w = (.ok (s.recordFailure p failure), v) := by
  obtain ⟨v, hv⟩ := outcome_printMarkup_ok hshown w'
  refine ⟨v, (quiet_printShown _).sameFiles hv, fun s => ?_⟩
  rw [turn, outcome_tryCatch, outcome_buildOne_failed h hfailure, hv]
  rfl

theorem turn_of_unshown (h : outcome (buildFile p o) w = (.error failure, w'))
    (hfailure : failure.isReported = true) (hshown : ¬console.Shows (errorLine p failure)) :
    ∃ fault v, w'.SameFiles v ∧
      ∀ s, outcome (turn console o p s) w = (.error (.markup fault), v) := by
  obtain ⟨fault, hfault⟩ := outcome_printMarkup_error hshown w'
  have hone : outcome (buildOne console o p {}) w = (.error (.markup fault), w') := by
    rw [outcome_buildOne_failed h hfailure, hfault]
    rfl
  obtain ⟨last, v, hsame, rfl | ⟨fault', rfl⟩, hturn⟩ := turn_of_error hone
  · exact ⟨fault, v, hsame, hturn⟩
  · exact ⟨fault', v, hsame, hturn⟩

theorem turn_of_stopped (h : outcome (buildFile p o) w = (.error failure, w'))
    (hfailure : failure.isReported = false) :
    ∃ last v, w'.SameFiles v ∧ ∀ s, outcome (turn console o p s) w = (.error last, v) := by
  have hattempt : outcome (attempt (buildFile p o)) w = (.error failure, w') := by
    rw [outcome_attempt, h]
    simp [hfailure]
  have hone : outcome (buildOne console o p {}) w = (.error failure, w') := by
    rw [buildOne_eq, outcome_bind_error hattempt]
  obtain ⟨last, v, hsame, -, hturn⟩ := turn_of_error hone
  exact ⟨last, v, hsame, hturn⟩

/-- What a turn comes to: a result, a failure that is shown and counted, or the end of the run. The
files are those that the build leaves. -/
theorem turn_cases (console : Console) (o : SourceUnit.Options) (p : Path) (w : Workspace) :
    ∃ built v v', outcome (buildFile p o) w = (built, v) ∧ v.SameFiles v' ∧
      ((∃ r, built = .ok r ∧ ∀ s, outcome (turn console o p s) w = (.ok (s.record r), v')) ∨
        (∃ failure, built = .error failure ∧
          ∀ s, outcome (turn console o p s) w = (.ok (s.recordFailure p failure), v')) ∨
        ∃ last, ∀ s, outcome (turn console o p s) w = (.error last, v')) := by
  rcases hbuilt : outcome (buildFile p o) w with ⟨failure | r, v⟩
  · cases hfailure : failure.isReported with
    | true =>
      by_cases hshown : console.Shows (errorLine p failure)
      · obtain ⟨v', hsame, hturn⟩ := turn_of_failed hbuilt hfailure hshown
        exact ⟨_, v, v', rfl, hsame, Or.inr (Or.inl ⟨failure, rfl, hturn⟩)⟩
      · obtain ⟨fault, v', hsame, hturn⟩ := turn_of_unshown hbuilt hfailure hshown
        exact ⟨_, v, v', rfl, hsame, Or.inr (Or.inr ⟨_, hturn⟩)⟩
    | false =>
      obtain ⟨last, v', hsame, hturn⟩ := turn_of_stopped hbuilt hfailure
      exact ⟨_, v, v', rfl, hsame, Or.inr (Or.inr ⟨last, hturn⟩)⟩
  · exact ⟨_, v, v, rfl, .refl v, Or.inl ⟨r, rfl, turn_of_built hbuilt⟩⟩

/-! Errors and failures agree. -/

theorem error_of_answers {cwd : Path} {owner : SourceUnit} {tasks : List ModuleTask}
    {results : List ModuleResult} (h : List.Forall₂ (Answers cwd owner) tasks results) :
    ∀ m ∈ results, m.status = none ∨ m.error = none := by
  induction h with
  | nil => exact fun _ h => absurd h List.not_mem_nil
  | cons hanswers _ ih =>
    refine List.forall_mem_cons.2 ⟨?_, ih⟩
    rcases hanswers with ⟨output, status, -, rfl⟩ | ⟨failure, -, rfl⟩
    · exact Or.inr rfl
    · exact Or.inl rfl

theorem error_of_buildFile {r : BuildResult} (h : outcome (buildFile p o) w = (.ok r, w')) :
    ∀ m ∈ r.modules, m.status = none ∨ m.error = none := by
  rcases outcome_bind_cases h with ⟨_, -, hanswer⟩ | ⟨u, v, -, hunit⟩
  · cases hanswer
  obtain ⟨-, v', hmodules⟩ := (buildUnit_frame hunit).2 r rfl
  exact error_of_answers (buildModules_eq_ok hmodules)

theorem errors_le_buildFiles {paths : List Path} {s s' : Summary}
    (hs : s.errors.length ≤ s.failed)
    (h : outcome (buildFiles console o paths s) w = (.ok s', w')) :
    s'.errors.length ≤ s'.failed := by
  induction paths generalizing s w with
  | nil =>
    cases h
    exact hs
  | cons p paths ih =>
    rw [buildFiles_cons] at h
    rcases outcome_bind_cases h with ⟨_, -, hanswer⟩ | ⟨s₁, v, hturn, hrest⟩
    · cases hanswer
    refine ih ?_ hrest
    obtain ⟨built, x, x', hbuilt, -, ⟨r, rfl, hends⟩ | ⟨failure, -, hends⟩ | ⟨last, hends⟩⟩ :=
      turn_cases console o p w
    · rw [hends s] at hturn
      cases hturn
      exact Summary.errors_le_record (error_of_buildFile hbuilt) hs
    · rw [hends s] at hturn
      cases hturn
      simpa [Summary.recordFailure] using hs
    · rw [hends s] at hturn
      cases hturn

/-! The interfaces that are announced. -/

def announced (files : FileTree) (cwd : Path) (markers : List Text) (p : Path) :
    Except Failure Nat :=
  match lossyText files cwd p with
  | .ok text =>
    .ok ((Text.boundedLines text).countP fun line => markers.any fun m => Text.occursIn m line)
  | .error e => if e.cause.isRefusal then .ok 0 else .error (.file e)

theorem outcome_moduleLines (markers : List Text) (p : Path) (w : Workspace) :
    outcome (moduleLines markers p) w = (announced w.files w.cwd markers p, w) := by
  rw [moduleLines, outcome_bind_ok (outcome_get w), announced]
  cases lossyText w.files w.cwd p with
  | ok text => rfl
  | error e =>
    dsimp only
    split <;> rfl

def announcedFrom (count : Path → Except Failure Nat) : Nat → List Path → Except Failure Nat
  | n, [] => .ok n
  | n, p :: rest =>
    match count p with
    | .ok k => announcedFrom count (n + k) rest
    | .error failure => .error failure

theorem outcome_countLines (markers : List Text) (n : Nat) (paths : List Path) (w : Workspace) :
    outcome (paths.foldlM (fun n p => return n + (← moduleLines markers p)) n) w =
      (announcedFrom (announced w.files w.cwd markers) n paths, w) := by
  induction paths generalizing n with
  | nil => rfl
  | cons p paths ih =>
    rw [List.foldlM_cons, outcome_bind, outcome_bind_pure, outcome_moduleLines, announcedFrom]
    cases announced w.files w.cwd markers p with
    | error failure => rfl
    | ok k => exact ih (n + k)

def announcedIn (choice : Option DialectChoice) (w : Workspace) (paths : List Path) :
    Except Failure Nat :=
  match (choice.getD (.named [])).candidates .standard with
  | .error e => .error (.dialect e)
  | .ok dialects =>
    announcedFrom (announced w.files w.cwd ((dialects.filter fun d => d.supports .moduleTask).map
      fun d => Text.cat [d.marker, " module "])) paths.length paths

theorem outcome_countInterfaces (paths : List Path) (choice : Option DialectChoice)
    (w : Workspace) :
    outcome (countInterfaces paths choice) w = (announcedIn choice w paths, w) := by
  unfold countInterfaces candidates announcedIn
  cases (choice.getD (.named [])).candidates .standard with
  | error e => rfl
  | ok dialects =>
    rw [outcome_bind_ok (outcome_pure dialects w)]
    exact outcome_countLines _ _ paths w

/-! A whole batch. -/

/-- The end of a batch: the progress display over the last file, and the report. -/
def conclude (console : Console) (last : Path) (s : Summary) : WorkspaceM Summary := do
  printProgress console true last
  s.report.forM (printMarkup console)
  return s

/-- What printing keeps, the end of a batch keeps. -/
theorem keeps_conclude {R : Workspace → Workspace → Prop} (hR : Workspace.IsSteady R)
    (hprint : ∀ lines, Keeps R (print lines)) (console : Console) (last : Path) (s : Summary) :
    Keeps R (conclude console last s) :=
  keeps_bind hR (keeps_printShown hR hprint _) fun _ =>
    keeps_bind hR (keeps_printLines hR hprint console _) fun _ => keeps_pure hR s

theorem quiet_conclude (console : Console) (last : Path) (s : Summary) :
    Quiet (conclude console last s) :=
  keeps_conclude isSteady_sameFiles quiet_print console last s

theorem conclude_eq_ok {last : Path} {s s' : Summary} :
    (outcome (conclude console last s) w).1 = .ok s' ↔
      s' = s ∧ ShowsProgress console last ∧ ∀ line ∈ s.report, console.Shows line := by
  rw [conclude, ShowsProgress]
  rcases outcome_printShown (console.progress true (description last)) w with
    ⟨lines, v, hshows, hprogress⟩ | ⟨fault, hshows, hprogress⟩
  · rw [printProgress, outcome_bind_ok hprogress, outcome_bind_pure,
      ← outcome_printLines (w := v)]
    rcases outcome (s.report.forM (printMarkup console)) v with ⟨failure | _, x⟩
    · simp [Except.map]
    · simp [Except.map, hshows, eq_comm]
  · rw [printProgress, outcome_bind_error hprogress]
    simp [hshows]

theorem outcome_paths (console : Console) (r : Request) {files : List Path} (hne : files ≠ [])
    (w : Workspace) : outcome (Request.paths console { r with files }) w = (.ok files, w) := by
  cases files with
  | nil => exact absurd rfl hne
  | cons p files => rfl

theorem build_of_uncounted (console : Console) (r : Request) {files : List Path}
    (hne : files ≠ []) (h : announcedIn r.options.dialect w files = .error failure) :
    outcome (build console { r with files }) w = (.error failure, w) := by
  have hcount := outcome_countInterfaces files r.options.dialect w
  rw [h] at hcount
  rw [build, outcome_bind_ok (outcome_paths console r hne w)]
  exact outcome_bind_error hcount _

/-- A batch of given files counts what they announce, and then builds them. -/
theorem build_of_counted (r : Request) {files : List Path} {last : Path} {total : Nat}
    (hlast : files.getLast? = some last)
    (h : announcedIn r.options.dialect w files = .ok total)
    (hheading : console.Shows (heading files.length total)) :
    ∃ v, w.SameFiles v ∧ outcome (build console { r with files }) w =
      outcome (buildFiles console r.options files { total } >>= conclude console last) v := by
  have hne : files ≠ [] := fun hnil => by
    rw [hnil] at hlast
    cases hlast
  have hcount := outcome_countInterfaces files r.options.dialect w
  rw [h] at hcount
  obtain ⟨v, hv⟩ := outcome_printMarkup_ok hheading w
  refine ⟨v, (quiet_printShown _).sameFiles hv, ?_⟩
  rw [build, outcome_bind_ok (outcome_paths console r hne w)]
  refine (outcome_bind_ok hcount _).trans ?_
  rw [hlast]
  exact outcome_bind_ok hv _

/-- Apart from what is printed, a batch does what its builds do. -/
theorem build_files (r : Request) {files : List Path} {total : Nat} (hne : files ≠ [])
    (hcount : announcedIn r.options.dialect w files = .ok total)
    (hheading : console.Shows (heading files.length total)) :
    (outcome (build console { r with files }) w).2.files =
      (outcome (buildFiles console r.options files {}) w).2.files := by
  obtain ⟨v, hsame, hbuild⟩ :=
    build_of_counted r (List.getLast?_eq_some_getLast hne) hcount hheading
  rw [hbuild]
  rcases hrun : outcome (buildFiles console r.options files {}) w with ⟨failure | s, x⟩
  all_goals obtain ⟨y, hstart, hsame'⟩ := outcome_buildFiles_again hsame hrun { total }
  · rw [outcome_bind_error hstart]
    exact hsame'.1
  · rw [outcome_bind_ok hstart, (quiet_conclude console _ _ y).1]
    exact hsame'.1

theorem build_eq_ok (hconsole : console.IsLawful) (r : Request) {files : List Path} {total : Nat}
    {s : Summary} (hne : files ≠ [])
    (hcount : announcedIn r.options.dialect w files = .ok total)
    (hrun : outcome (buildFiles console r.options files {}) w = (.ok s, w'))
    (hlast : ShowsProgress console (files.getLast hne))
    (herrors : ∀ error ∈ s.errors, console.Shows error) :
    (outcome (build console { r with files }) w).1 = .ok (Summary.append { total } s) := by
  obtain ⟨v, hsame, hbuild⟩ := build_of_counted r (List.getLast?_eq_some_getLast hne) hcount
    (shows_heading hconsole _ _)
  obtain ⟨y, hstart, -⟩ := outcome_buildFiles_again hsame hrun { total }
  rw [hbuild, outcome_bind_ok hstart, conclude_eq_ok]
  refine ⟨rfl, hlast, (Summary.shows_report_iff hconsole ?_).2 ?_⟩
  · simpa [Summary.append] using errors_le_buildFiles (s := {}) (Nat.le_refl 0) hrun
  · simpa [Summary.append] using herrors

end Batch
end SolInterface
