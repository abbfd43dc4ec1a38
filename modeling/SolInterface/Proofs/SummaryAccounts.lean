import SolInterface.CommandLine
import SolInterface.Proofs.AnnouncedTotal
import SolInterface.Proofs.WrittenCount

/-!
The books of a batch. Every file of a run is a result or a failure. Each result counts once for
itself and once for each of its modules, each failure once, and each module or file that fails has
one entry in the list of errors, in the order of the run. So the list is empty exactly if nothing is
counted as failed, which is what the exit code tells.
-/
namespace SolInterface
open WorkspaceM

theorem Text.cat_ne_nil {part : Text} (h : part ≠ []) (parts : List Text) :
    Text.cat (part :: parts) ≠ [] :=
  List.append_ne_nil_of_left_ne_nil h _

/-- A failure that is reported has something to say. -/
theorem Failure.message_ne_nil {failure : Failure} (h : failure.isReported = true) :
    failure.message ≠ [] := by
  cases failure with
  | dialect error => cases error <;> exact List.append_ne_nil_of_left_ne_nil (by decide) _
  | undefinedDirective kind => cases h
  | noBuildDirective marker => exact Text.cat_ne_nil (by decide) _
  | noContract => decide
  | undecodable path fault => exact Text.cat_ne_nil (by decide) _
  | packageNotFound moduleName => exact List.append_ne_nil_of_left_ne_nil (by decide) _
  | moduleNotFound moduleName path => exact List.append_ne_nil_of_left_ne_nil (by decide) _
  | moduleUndecodable moduleName path fault =>
    exact List.append_ne_nil_of_left_ne_nil (by decide) _
  | file error =>
    refine Text.cat_ne_nil ?_ _
    cases error.cause <;> decide
  | unwritable path => cases h
  | markup fault => cases h

/-! The modules of a result. -/

namespace ModuleResult

/-- The module came out and has no error, or it did not and has one. -/
def IsPlain (m : ModuleResult) : Prop :=
  (m.status ≠ none ∧ m.error = none) ∨ (m.status = none ∧ ∃ error, m.error = some error ∧ error ≠ [])

def errorEntry (m : ModuleResult) : Text := Text.cat [m.source, ": ", m.error.getD []]

def errorEntries (modules : List ModuleResult) : List Text :=
  (modules.filter fun m => m.status = none).map errorEntry

end ModuleResult

namespace Summary
open ModuleResult

theorem recordModule_of_isPlain (s : Summary) {m : ModuleResult} (h : m.IsPlain) :
    (s.recordModule m).errors = s.errors ++ errorEntries [m] ∧
      (s.recordModule m).failed = s.failed + (errorEntries [m]).length := by
  rcases h with ⟨hstatus, herror⟩ | ⟨hstatus, error, herror, hne⟩
  · obtain ⟨status, hstatus⟩ := Option.ne_none_iff_exists'.1 hstatus
    cases status <;> simp [recordModule, errorEntries, herror, hstatus, count]
  · obtain ⟨c, error, rfl⟩ := List.exists_cons_of_ne_nil hne
    simp [recordModule, errorEntries, errorEntry, herror, hstatus, count]

theorem recordModules_of_isPlain (s : Summary) {modules : List ModuleResult}
    (h : ∀ m ∈ modules, m.IsPlain) :
    (modules.foldl recordModule s).errors = s.errors ++ errorEntries modules ∧
      (modules.foldl recordModule s).failed = s.failed + (errorEntries modules).length := by
  induction modules generalizing s with
  | nil => simp [errorEntries]
  | cons m modules ih =>
    obtain ⟨hm, hrest⟩ := List.forall_mem_cons.1 h
    obtain ⟨herrors, hfailed⟩ := recordModule_of_isPlain s hm
    have hsplit : errorEntries (m :: modules) = errorEntries [m] ++ errorEntries modules := by
      rw [errorEntries, ← List.singleton_append, List.filter_append, List.map_append]
      rfl
    rw [List.foldl_cons, (ih _ hrest).1, (ih _ hrest).2, herrors, hfailed, hsplit,
      List.length_append, List.append_assoc, Nat.add_assoc]
    exact ⟨rfl, rfl⟩

theorem record_of_isPlain (s : Summary) {r : BuildResult} (h : ∀ m ∈ r.modules, m.IsPlain) :
    (s.record r).errors = s.errors ++ errorEntries r.modules ∧
      (s.record r).failed = s.failed + (errorEntries r.modules).length := by
  obtain ⟨herrors, hfailed⟩ :=
    recordModules_of_isPlain ({ s with results := s.results ++ [r] }.count (some r.status)) h
  rw [record, herrors, hfailed]
  cases r.status <;> exact ⟨rfl, rfl⟩

end Summary

namespace Batch
open Build ModuleResult

variable {console : Console} {o : SourceUnit.Options} {p : Path} {s t : Summary}
  {w w' : Workspace} {visits₁ visits₂ : List (Path × Workspace)}

theorem isPlain_of_answers {cwd : Path} {owner : SourceUnit} {tasks : List ModuleTask}
    {results : List ModuleResult} (h : List.Forall₂ (Answers cwd owner) tasks results) :
    ∀ m ∈ results, m.IsPlain := by
  induction h with
  | nil => exact fun _ h => absurd h List.not_mem_nil
  | cons hanswers _ ih =>
    refine List.forall_mem_cons.2 ⟨?_, ih⟩
    rcases hanswers with ⟨output, status, -, rfl⟩ | ⟨failure, hfailure, rfl⟩
    · exact Or.inl ⟨Option.some_ne_none status, rfl⟩
    · exact Or.inr ⟨rfl, _, rfl, Failure.message_ne_nil hfailure⟩

theorem isPlain_of_buildFile {r : BuildResult} (h : outcome (buildFile p o) w = (.ok r, w')) :
    ∀ m ∈ r.modules, m.IsPlain := by
  rcases outcome_bind_cases h with ⟨_, -, hanswer⟩ | ⟨u, v, -, hunit⟩
  · cases hanswer
  obtain ⟨-, v', hmodules⟩ := (buildUnit_frame hunit).2 r rfl
  exact isPlain_of_answers (buildModules_eq_ok hmodules)

/-! One visit, and all of them. -/

def answer (o : SourceUnit.Options) (visit : Path × Workspace) : Except Failure BuildResult :=
  (outcome (buildFile visit.1 o) visit.2).1

def raises (o : SourceUnit.Options) (visit : Path × Workspace) : Bool := !(answer o visit).isOk

/-- The errors of a visit: those of the modules that failed, or that of the file itself. -/
def errorsOf (o : SourceUnit.Options) (visit : Path × Workspace) : List Text :=
  match answer o visit with
  | .ok r => errorEntries r.modules
  | .error failure => [Summary.entry visit.1 failure]

structure Accounts (o : SourceUnit.Options) (visits : List (Path × Workspace)) (s : Summary) :
    Prop where
  results : s.results = visits.filterMap fun visit => (answer o visit).toOption
  length : s.results.length + visits.countP (raises o) = visits.length
  processed : s.processed =
    (s.results.map fun r => 1 + r.modules.length).sum + visits.countP (raises o)
  errors : s.errors = visits.flatMap (errorsOf o)
  failed : s.failed = s.errors.length

theorem accounts_tally (o : SourceUnit.Options) (visit : Path × Workspace) :
    Accounts o [visit] (tally o visit) := by
  have htally : tally o visit = entered visit.1 (answer o visit) := rfl
  rw [htally]
  cases hanswer : answer o visit with
  | ok r =>
    obtain ⟨w', hbuilt⟩ := exists_outcome hanswer
    obtain ⟨herrors, hfailed⟩ := Summary.record_of_isPlain {} (isPlain_of_buildFile hbuilt)
    have hresults := Summary.results_record {} r
    have hprocessed := Summary.processed_record {} r
    refine ⟨?_, ?_, ?_, ?_, ?_⟩
    · simpa [entered, hanswer, Except.toOption] using hresults
    · simp [entered, hresults, raises, hanswer, Except.isOk, Except.toBool]
    · simpa [entered, hresults, raises, hanswer, Except.isOk, Except.toBool, Summary.processed]
        using hprocessed
    · simpa [entered, errorsOf, hanswer] using herrors
    · simpa [entered, herrors] using hfailed
  | error failure =>
    refine ⟨?_, ?_, ?_, ?_, ?_⟩
    · simp [entered, Summary.recordFailure, hanswer, Except.toOption]
    · simp [entered, Summary.recordFailure, raises, hanswer, Except.isOk, Except.toBool]
    · simp [entered, Summary.recordFailure, Summary.processed, raises, hanswer, Except.isOk,
        Except.toBool]
    · simp [entered, Summary.recordFailure, errorsOf, hanswer, Summary.entry]
    · simp [entered, Summary.recordFailure]

theorem Accounts.append (h : Accounts o visits₁ s) (h' : Accounts o visits₂ t) :
    Accounts o (visits₁ ++ visits₂) (s.append t) where
  results := by rw [List.filterMap_append, ← h.results, ← h'.results]; rfl
  length := by
    have hlength := h.length
    have hlength' := h'.length
    simp only [Summary.append, List.length_append, List.countP_append]
    omega
  processed := by
    rw [Summary.processed_append, h.processed, h'.processed]
    simp only [Summary.append, List.map_append, List.sum_append, List.countP_append]
    omega
  errors := by rw [List.flatMap_append, ← h.errors, ← h'.errors]; rfl
  failed := by
    have hfailed : (s.append t).failed = s.failed + t.failed := rfl
    rw [hfailed, h.failed, h'.failed, ← List.length_append]
    rfl

theorem accounts_sum (o : SourceUnit.Options) (visits : List (Path × Workspace)) :
    Accounts o visits (Summary.sum (visits.map (tally o))) := by
  induction visits with
  | nil => exact ⟨rfl, rfl, rfl, rfl, rfl⟩
  | cons visit visits ih => exact (accounts_tally o visit).append ih

theorem Accounts.isOk_iff (h : Accounts o visits₁ s) : s.isOk = true ↔ s.errors = [] := by
  rw [Summary.isOk, beq_iff_eq, h.failed, List.length_eq_zero_iff]

/-- The total makes no difference to the books. -/
theorem Accounts.start (h : Accounts o visits₁ s) (total : Int) :
    Accounts o visits₁ (Summary.append { total } s) := by
  have hnone : Accounts o [] { total } := ⟨rfl, rfl, rfl, rfl, rfl⟩
  exact hnone.append h

/-- A call that builds a batch ends with 0 or 1, as the summary is without or with failures. -/
theorem run_eq_done {arguments : List Text} {options : CommandLine.Options} {config : Config}
    (hparse : CommandLine.parse arguments = .ok options)
    (hasks : options.files ≠ [] ∨ options.all = true)
    (hconfig : Config.load w.files w.cwd
      (if options.config.isEmpty then none else some (Path.parse options.config)) = .ok config)
    (h : outcome (build console (options.request config)) w = (.ok s, w')) :
    CommandLine.run console arguments w = (.done (if s.isOk then 0 else 1), w') := by
  have hbuilds : (options.files.isEmpty && !options.all) = false := by
    rcases hasks with hfiles | hall
    · simp [hfiles]
    · simp [hall]
  have hrun : (build console (options.request config)).run.run w = (.ok s, w') := h
  simp only [CommandLine.run, hparse, hbuilds, Bool.false_eq_true, if_false, hconfig, hrun]

/-- The summary of a batch adds up. Its files are the results and the files whose build fails; what
is processed, as generated, skipped or failed, is one for each result and for each of its modules,
and one for each file that fails. The errors are listed in the order of the run, one for each module
or file that fails, and as many are counted as failed. So a batch is fine, and a call ends with 0,
exactly if there are no errors. -/
theorem build_accounts {r : Request} (h : outcome (build console r) w = (.ok s, w')) :
    ∃ paths, (outcome (r.paths console) w).1 = .ok paths ∧ (r.files ≠ [] → paths = r.files) ∧
      s.results = (visits console r.options paths w).filterMap
        (fun visit => (answer r.options visit).toOption) ∧
      s.results.length + (visits console r.options paths w).countP (raises r.options) =
        paths.length ∧
      s.generated + s.skipped + s.failed = s.processed ∧
      s.processed = (s.results.map fun result => 1 + result.modules.length).sum +
        (visits console r.options paths w).countP (raises r.options) ∧
      s.errors = (visits console r.options paths w).flatMap (errorsOf r.options) ∧
      s.failed = s.errors.length ∧ (s.isOk = true ↔ s.errors = []) ∧
      ∀ arguments options config, CommandLine.parse arguments = .ok options →
        (options.files ≠ [] ∨ options.all = true) →
        Config.load w.files w.cwd
          (if options.config.isEmpty then none else some (Path.parse options.config)) =
            .ok config →
        options.request config = r →
        ∃ code, CommandLine.run console arguments w = (.done code, w') ∧
          (code = 0 ↔ s.errors = []) := by
  obtain ⟨paths, total, t, x, hpaths, -, hrun, rfl⟩ := build_eq_append h
  have hsum : t = Summary.sum ((visits console r.options paths w).map (tally r.options)) := by
    rw [buildFiles_eq_ok hrun, Summary.empty_append]
  have hbooks := (accounts_sum r.options (visits console r.options paths w)).start total
  rw [← hsum] at hbooks
  have hlength : (visits console r.options paths w).length = paths.length := by
    rw [← List.length_map (·.1), map_fst_visits]
  have hgiven : r.files ≠ [] → paths = r.files := fun hne =>
    Except.ok.inj (hpaths.symm.trans (congrArg Prod.fst (outcome_paths console r hne w)))
  refine ⟨paths, hpaths, hgiven, hbooks.results, by rw [hbooks.length, hlength], rfl,
    hbooks.processed, hbooks.errors, hbooks.failed, hbooks.isOk_iff, ?_⟩
  rintro arguments options config hparse hasks hconfig rfl
  refine ⟨_, run_eq_done hparse hasks hconfig h, ?_⟩
  rw [← hbooks.isOk_iff]
  cases Summary.isOk _ <;> decide

/-- A call for a source that is built with its module and one that is missing: three interfaces are
processed, the missing source is the one error, and the call ends with 1. -/
theorem missing_source_accounted :
    ∃ s w', outcome (build Markup.console pairRequest) ownedModule = (.ok s, w') ∧
      (visits Markup.console pairRequest.options pairRequest.files ownedModule).countP
        (raises pairRequest.options) = 1 ∧
      s.processed = 3 ∧ s.failed = 1 ∧ s.isOk = false ∧
      (visits Markup.console pairRequest.options pairRequest.files ownedModule).flatMap
        (errorsOf pairRequest.options) =
          [Summary.entry missingSource (.file ⟨.notFound, missingSource⟩)] ∧
      ∃ code, CommandLine.run Markup.console ["A.sol", "N.sol"] ownedModule = (.done code, w') ∧
        code ≠ 0 := by
  obtain ⟨v, hrun⟩ := exists_outcome buildFiles_pair
  obtain ⟨w', hbuild⟩ := exists_outcome (build_eq_ok Markup.isLawful_console pairRequest
    (by simp [pairRequest]) announcedIn_pair hrun
    (showsProgress_of_not_mem (by decide)) (by simpa using shows_missing))
  obtain ⟨s, hpair, hone, hthree, herror⟩ : ∃ s,
      outcome (build Markup.console pairRequest) ownedModule = (.ok s, w') ∧ s.results.length = 1 ∧
        s.processed = 3 ∧
        s.errors = [Summary.entry missingSource (.file ⟨.notFound, missingSource⟩)] :=
    ⟨_, hbuild, rfl, rfl, rfl⟩
  obtain ⟨paths, -, hgiven, -, hlength, -, -, herrors, hfailed, hok, hcall⟩ := build_accounts hpair
  obtain rfl : paths = pairRequest.files := hgiven (by simp [pairRequest])
  obtain ⟨code, hcode, hzero⟩ := hcall ["A.sol", "N.sol"] { files := ["A.sol", "N.sol"] } {} rfl
    (Or.inl (by simp)) rfl rfl
  have htwo : pairRequest.files.length = 2 := rfl
  have hnot : s.errors ≠ [] := by simp [herror]
  refine ⟨s, w', hpair, by omega, hthree, by rw [hfailed, herror]; rfl, ?_,
    by rw [← herrors, herror], code, hcode, fun h => hnot (hzero.1 h)⟩
  exact Bool.eq_false_iff.2 fun h => hnot (hok.1 h)

end Batch
end SolInterface
