import SolInterface.Proofs.BatchRuns
import SolInterface.Proofs.Markup

/-!
A source that fails takes nothing from the rest of a batch: the others are built as if it had not
been there, and the counts tell the difference. The exception is a failure that the console cannot
show, as one whose path or message closes a tag that is not open: the run ends with it.
-/
namespace SolInterface
open WorkspaceM
namespace Batch
open Build

variable {console : Console} {o : SourceUnit.Options} {p bad : Path} {w w' : Workspace}
  {failure : Failure}

/-! A file that fails. -/

/-- The source cannot be read, or its build fails over what it holds and there are no modules to
build. -/
def FailsAlone (o : SourceUnit.Options) (p : Path) (w : Workspace) (failure : Failure) : Prop :=
  (outcome (buildFile p o) w).1 = .error failure ∧
    ((∃ e, failure = .file e ∧ w.files.read w.cwd p = .error e ∧ e.cause.isRefusal = true) ∨
      failure.isBuildError = true ∧
        ∀ u, (outcome (load p o) w).1 = .ok u → u.recipe.modules = [])

theorem load_of_unread {e : FileError} (h : w.files.read w.cwd p = .error e) :
    outcome (load p o) w = (.error (.file e), w) := by
  have hquery : outcome (query fun files cwd => files.read cwd p) w = (.error (.file e), w) := by
    rw [outcome_query, h]
    rfl
  have hsource : outcome (readSource p) w = (.error (.file e), w) := outcome_bind_error hquery _
  exact outcome_bind_error hsource _

theorem buildFile_of_unread {e : FileError} (h : w.files.read w.cwd p = .error e) :
    outcome (buildFile p o) w = (.error (.file e), w) :=
  outcome_bind_error (load_of_unread h) _

namespace FailsAlone

theorem of_sameFiles {v : Workspace} (h : FailsAlone o p w failure) (hsame : w.SameFiles v) :
    FailsAlone o p v failure := by
  obtain ⟨hbuilt, hcause⟩ := h
  refine ⟨(indifferent_buildFile p o w v hsame).1.trans hbuilt, ?_⟩
  rw [hsame.1, hsame.2.1, (indifferent_load p o w v hsame).1]
  exact hcause

theorem isReported (h : FailsAlone o p w failure) : failure.isReported = true := by
  rcases h.2 with ⟨e, rfl, -, he⟩ | ⟨hfailure, -⟩
  · exact he
  · exact Failure.isReported_of_isBuildError hfailure

theorem flaw? (h : FailsAlone o p w failure) : p.flaw? = none := by
  obtain ⟨hbuilt, ⟨e, -, hread, he⟩ | ⟨hfailure, -⟩⟩ := h
  · exact FileTree.flaw?_of_refused hread he
  · cases hread : w.files.read w.cwd p with
    | ok content => exact FileTree.flaw?_of_read hread
    | error e =>
      rw [buildFile_of_unread hread] at hbuilt
      cases hbuilt
      cases hfailure

/-- Nothing has changed where the build fails. -/
theorem sameFiles (h : FailsAlone o p w failure) :
    ∃ v, outcome (buildFile p o) w = (.error failure, v) ∧ w.SameFiles v := by
  obtain ⟨v, hbuilt⟩ := exists_outcome h.1
  refine ⟨v, hbuilt, ?_⟩
  rcases outcome_bind_cases hbuilt with ⟨_, hload, -⟩ | ⟨u, x, hload, hunit⟩
  · exact (quiet_load p o).sameFiles hload
  have hsame := (quiet_load p o).sameFiles hload
  rcases h.2 with ⟨e, rfl, hread, -⟩ | ⟨hfailure, hmodules⟩
  · obtain ⟨bytes, hbytes, -⟩ := load_eq_ok hload
    rw [hread] at hbytes
    cases hbytes
  · have hnone : outcome (buildModules u u.recipe.modules) x = (.ok [], x) := by
      rw [hmodules u (by rw [hload])]
      rfl
    rw [buildUnit, outcome_bind_ok hnone, outcome_bind_ok (outcome_get x)] at hunit
    rcases outcome_bind_cases hunit with ⟨_, houtput, -⟩ | ⟨q, y, houtput, hunit⟩
    · exact hsame.trans ((quiet_ofExcept _).sameFiles houtput)
    have hsame' := hsame.trans ((quiet_ofExcept _).sameFiles houtput)
    rcases outcome_bind_cases hunit with ⟨_, hwrite, ⟨⟩⟩ | ⟨status, z, -, hunit⟩
    · exact hsame'.trans ((writeOutput_eq_error hwrite).2 hfailure)
    · cases hunit

end FailsAlone

/-- A file that fails has its turn, is shown and counted, and the files after it go the way they go
without it. -/
theorem FailsAlone.outcome_buildFiles {after : List Path} {v : Workspace}
    {answer : Except Failure Summary} (h : FailsAlone o bad w failure)
    (hshown : console.Shows (errorLine bad failure))
    (hafter : outcome (buildFiles console o after {}) w = (answer, w')) (hsame : w.SameFiles v)
    (sofar : Summary) :
    ∃ v', outcome (buildFiles console o (bad :: after) sofar) v =
      (answer.map (sofar.recordFailure bad failure).append, v') ∧ w'.SameFiles v' := by
  have hbad := h.of_sameFiles hsame
  obtain ⟨x, hbuilt, hsame'⟩ := hbad.sameFiles
  obtain ⟨y, hsame'', hturn⟩ := turn_of_failed hbuilt hbad.isReported hshown
  rw [buildFiles_cons, outcome_bind_ok (hturn sofar)]
  exact outcome_buildFiles_again (hsame.trans (hsame'.trans hsame'')) hafter _

theorem FailsAlone.buildFiles_ends {sofar : Summary} (h : FailsAlone o bad w failure)
    (hshown : ¬console.Shows (errorLine bad failure)) (after : List Path) :
    ∃ fault v, w.SameFiles v ∧
      outcome (buildFiles console o (bad :: after) sofar) w = (.error (.markup fault), v) := by
  obtain ⟨x, hbuilt, hsame⟩ := h.sameFiles
  obtain ⟨fault, v, hsame', hturn⟩ := turn_of_unshown hbuilt h.isReported hshown
  refine ⟨fault, v, hsame.trans hsame', ?_⟩
  rw [buildFiles_cons, outcome_bind_error (hturn sofar)]

/-! The batch with the file and the batch without it. -/

theorem announcedFrom_insert {count : Path → Except Failure Nat} {k : Nat}
    (h : count bad = .ok k) (n : Nat) (before after : List Path) :
    announcedFrom count (n + 1) (before ++ bad :: after) =
      (announcedFrom count n (before ++ after)).map (· + (1 + k)) := by
  have hshift : ∀ (d n : Nat) (paths : List Path),
      announcedFrom count (n + d) paths = (announcedFrom count n paths).map (· + d) := by
    intro d n paths
    induction paths generalizing n with
    | nil => rfl
    | cons p paths ih =>
      rw [announcedFrom, announcedFrom]
      cases count p with
      | error failure => rfl
      | ok j => rw [← ih, Nat.add_right_comm]
  induction before generalizing n with
  | nil =>
    rw [List.nil_append, List.nil_append, announcedFrom, h, ← hshift, ← Nat.add_assoc]
  | cons p before ih =>
    rw [List.cons_append, List.cons_append, announcedFrom, announcedFrom]
    cases count p with
    | error failure => rfl
    | ok j => rw [← ih, Nat.add_right_comm]

/-- A file more is one interface more, and one for each module that it announces. -/
theorem announcedIn_insert (hbad : bad.flaw? = none) (choice : Option DialectChoice)
    (w : Workspace) (before after : List Path) :
    ∃ k, announcedIn choice w (before ++ bad :: after) =
      (announcedIn choice w (before ++ after)).map (· + (1 + k)) := by
  have hknown : ∀ markers, ∃ k, announced w.files w.cwd markers bad = .ok k := by
    intro markers
    rw [announced, lossyText]
    cases hread : w.files.read w.cwd bad with
    | ok bytes => exact ⟨_, rfl⟩
    | error e =>
      refine ⟨0, ?_⟩
      simp [Except.map, FileTree.refuses_read hbad e hread]
  unfold announcedIn
  cases (choice.getD (.named [])).candidates .standard with
  | error e => exact ⟨0, rfl⟩
  | ok dialects =>
    obtain ⟨k, hk⟩ := hknown ((dialects.filter fun d => d.supports .moduleTask).map fun d =>
      Text.cat [d.marker, " module "])
    refine ⟨k, ?_⟩
    dsimp only
    rw [← announcedFrom_insert hk]
    simp [Nat.add_assoc]

/-- The batch comes to the file that fails with these counts, and finds there the files of `w'`. -/
theorem outcome_build_split (hconsole : console.IsLawful) (r : Request)
    {before after : List Path} {last : Path} {total : Nat} {s : Summary}
    (hlast : (before ++ after).getLast? = some last)
    (hcount : announcedIn r.options.dialect w (before ++ after) = .ok total)
    (hbefore : outcome (buildFiles console r.options before {}) w = (.ok s, w')) :
    ∃ v, w'.SameFiles v ∧ outcome (build console { r with files := before ++ after }) w =
      outcome (buildFiles console r.options after (Summary.append { total } s) >>=
        conclude console last) v := by
  obtain ⟨x, hsame, hbuild⟩ := build_of_counted r hlast hcount (shows_heading hconsole _ _)
  obtain ⟨v, hfirst, hsame'⟩ := outcome_buildFiles_again hsame hbefore { total }
  refine ⟨v, hsame', ?_⟩
  rw [hbuild, buildFiles_append, bind_assoc, outcome_bind_ok hfirst]

/-- A report that can be shown still can with a failure more, if that can be shown. -/
theorem shows_report_insert (hconsole : console.IsLawful) {s rest : Summary} {n n' : Nat}
    (hs : s.errors.length ≤ s.failed) (hrest : rest.errors.length ≤ rest.failed)
    (hshown : console.Shows (errorLine bad failure))
    (h : ∀ line ∈ ((Summary.append { total := n } s).append rest).report, console.Shows line) :
    ∀ line ∈ (((Summary.append { total := n' } s).recordFailure bad failure).append rest).report,
      console.Shows line := by
  have hothers : ((Summary.append { total := n } s).append rest).errors.length ≤
      ((Summary.append { total := n } s).append rest).failed := by
    simp only [Summary.append, List.nil_append, List.length_append]
    omega
  have hall : (((Summary.append { total := n' } s).recordFailure bad failure).append
      rest).errors.length ≤
        (((Summary.append { total := n' } s).recordFailure bad failure).append rest).failed := by
    simp only [Summary.append, Summary.recordFailure, List.nil_append, List.length_append,
      List.length_singleton]
    omega
  rw [Summary.shows_report_iff hconsole hothers] at h
  rw [Summary.shows_report_iff hconsole hall]
  intro error herror
  simp only [Summary.append, Summary.recordFailure, List.nil_append, List.mem_append,
    List.mem_singleton] at h herror
  rcases herror with (herror | rfl) | herror
  · exact h error (Or.inl herror)
  · exact (shows_errorLine hconsole bad failure).1 hshown
  · exact h error (Or.inr herror)

/-- The last file is another one only where the file that fails is the last. -/
theorem showsProgress_insert {before after : List Path} (h : after = [] → ShowsProgress console bad)
    {hne : before ++ after ≠ []} {hne' : before ++ bad :: after ≠ []}
    (hlast : ShowsProgress console ((before ++ after).getLast hne)) :
    ShowsProgress console ((before ++ bad :: after).getLast hne') := by
  cases after with
  | nil => simpa using h rfl
  | cons p after => simpa using hlast

/-- The rest of a batch from a file that fails on, against the rest without it. -/
theorem conclude_without (hconsole : console.IsLawful) {after : List Path} {last last' : Path}
    {n n' : Nat} {s : Summary} {v v' : Workspace} (hv : w.SameFiles v) (hv' : w.SameFiles v')
    (hbad : FailsAlone o bad w failure) (hshown : console.Shows (errorLine bad failure))
    (hs : s.errors.length ≤ s.failed) :
    (outcome (buildFiles console o (bad :: after) (Summary.append { total := n' } s) >>=
        conclude console last') v').2.files =
      (outcome (buildFiles console o after (Summary.append { total := n } s) >>=
        conclude console last) v).2.files ∧
    ∀ others, (outcome (buildFiles console o after (Summary.append { total := n } s) >>=
        conclude console last) v).1 = .ok others →
      (ShowsProgress console last → ShowsProgress console last') →
      ∃ rest, (outcome (buildFiles console o after {}) w).1 = .ok rest ∧
        others = (Summary.append { total := n } s).append rest ∧
        (outcome (buildFiles console o (bad :: after) (Summary.append { total := n' } s) >>=
          conclude console last') v').1 =
            .ok (((Summary.append { total := n' } s).recordFailure bad failure).append rest) := by
  rcases hafter : outcome (buildFiles console o after {}) w with ⟨failure' | rest, y⟩
  all_goals
    obtain ⟨z, hstart, hyz⟩ :=
      outcome_buildFiles_again hv hafter (Summary.append { total := n } s)
    obtain ⟨z', hrun, hyz'⟩ :=
      hbad.outcome_buildFiles hshown hafter hv' (Summary.append { total := n' } s)
  · rw [outcome_bind_error hstart, outcome_bind_error hrun]
    exact ⟨hyz'.1.trans hyz.1.symm, fun _ h => by cases h⟩
  · have hrest : rest.errors.length ≤ rest.failed :=
      errors_le_buildFiles (s := {}) (Nat.le_refl 0) hafter
    rw [outcome_bind_ok hstart, outcome_bind_ok hrun, (quiet_conclude console _ _ z').1,
      (quiet_conclude console _ _ z).1]
    refine ⟨hyz'.1.trans hyz.1.symm, fun others hothers hprogress => ⟨rest, rfl, ?_⟩⟩
    obtain ⟨rfl, hlast, hreport⟩ := conclude_eq_ok.1 hothers
    exact ⟨rfl, conclude_eq_ok.2
      ⟨rfl, hprogress hlast, shows_report_insert hconsole hs hrest hshown hreport⟩⟩

/-- The batch with the file that fails ends with the files of the batch without it, and its summary
differs by the failure; a failure that the console cannot show ends the batch where it happens. -/
theorem build_isolates_failure (hconsole : console.IsLawful) {r : Request}
    {before after : List Path} {s : Summary}
    (hne : before ++ after ≠ [])
    (hbefore : outcome (buildFiles console r.options before {}) w = (.ok s, w'))
    (hbad : FailsAlone r.options bad w' failure) :
    (console.Shows (Summary.entry bad failure) →
      (outcome (build console { r with files := before ++ bad :: after }) w).2.files =
          (outcome (build console { r with files := before ++ after }) w).2.files ∧
        ∀ others, (outcome (build console { r with files := before ++ after }) w).1 = .ok others →
          (after = [] → ShowsProgress console bad) →
          ∃ all rest,
            (outcome (build console { r with files := before ++ bad :: after }) w).1 = .ok all ∧
            (outcome (buildFiles console r.options after {}) w').1 = .ok rest ∧
            all.results = others.results ∧ all.generated = others.generated ∧
            all.skipped = others.skipped ∧ all.failed = others.failed + 1 ∧
            others.errors = s.errors ++ rest.errors ∧
            all.errors = s.errors ++ Summary.entry bad failure :: rest.errors) ∧
      (¬console.Shows (Summary.entry bad failure) → ∀ total,
        (outcome (countInterfaces (before ++ after) r.options.dialect) w).1 = .ok total →
        (∃ fault, (outcome (build console { r with files := before ++ bad :: after }) w).1 =
          .error (.markup fault)) ∧
        (outcome (build console { r with files := before ++ bad :: after }) w).2.files =
          w'.files) := by
  have hne' : before ++ bad :: after ≠ [] := by simp
  obtain ⟨k, hinsert⟩ := announcedIn_insert hbad.flaw? r.options.dialect w before after
  rw [outcome_countInterfaces]
  cases hcount : announcedIn r.options.dialect w (before ++ after) with
  | error e =>
    rw [hcount] at hinsert
    rw [build_of_uncounted console r hne hcount, build_of_uncounted console r hne' hinsert]
    exact ⟨fun _ => ⟨rfl, fun _ h => by cases h⟩, fun _ _ h => by cases h⟩
  | ok total =>
    rw [hcount] at hinsert
    obtain ⟨v, hsame, hwithout⟩ :=
      outcome_build_split hconsole r (List.getLast?_eq_some_getLast hne) hcount hbefore
    obtain ⟨v', hsame', hwith⟩ :=
      outcome_build_split hconsole r (List.getLast?_eq_some_getLast hne') hinsert hbefore
    have hbad' := hbad.of_sameFiles hsame'
    rw [hwithout, hwith, ← shows_errorLine hconsole]
    refine ⟨fun hshown => ?_, fun hshown _ _ => ?_⟩
    · have hs : s.errors.length ≤ s.failed :=
        errors_le_buildFiles (s := {}) (Nat.le_refl 0) hbefore
      obtain ⟨hfiles, hsummary⟩ := conclude_without hconsole hsame hsame' hbad hshown hs
      refine ⟨hfiles, fun others hothers hempty => ?_⟩
      obtain ⟨rest, hrest, rfl, hall⟩ := hsummary others hothers (showsProgress_insert hempty)
      refine ⟨_, rest, hall, hrest, rfl, rfl, rfl, ?_, ?_, ?_⟩
      · simp only [Summary.append, Summary.recordFailure]
        omega
      · simp [Summary.append]
      · simp [Summary.append, Summary.recordFailure, Summary.entry]
    · obtain ⟨fault, x, hx, hends⟩ := hbad'.buildFiles_ends hshown after
      rw [outcome_bind_error hends]
      exact ⟨⟨fault, rfl⟩, by rw [hx.1, hsame'.1]⟩

theorem failsAlone_of_missing {e : FileError} (h : w.files.read w.cwd p = .error e)
    (he : e.cause.isRefusal = true) : FailsAlone o p w (.file e) :=
  ⟨by rw [buildFile_of_unread h], Or.inl ⟨e, rfl, h, he⟩⟩

theorem showsProgress_of_not_mem (h : '[' ∉ p.fileName) : ShowsProgress Markup.console p := by
  have hname : Markup.IsTagName 'p' "rogress.description".toList :=
    ((Markup.isBareWord_iff _).2 (by decide)).isTagName ⟨by decide, by decide, by decide⟩
      (by decide)
  have hrest : '[' ∉ "Building ".toList ++ p.fileName ++ "...".toList := by simp [h]
  have hshows : Markup.console.Shows (description p) := by
    simpa [description, Text.cat] using Markup.shows_open hname hrest
  exact Markup.exists_progress hshows true

def firstSource : Path := ⟨.relative, ["A.sol".toList]⟩

def missingSource : Path := ⟨.relative, ["N.sol".toList]⟩

def firstOutput : Location := ["p".toList, "IA.sol".toList]

def singleSource : Workspace where
  files := ⟨[([], .directory 0), (["p".toList], .directory 0),
    (["p".toList, "A.sol".toList], .file (Utf8.encode
      "/// @custom:interface build ./IA.sol\ncontract A \x7b\n\x7d\n") 0)]⟩
  cwd := ⟨.root, ["p".toList]⟩
  now := 1

def plainRequest : Request := {}

/-- The workspace after the build of the source, which does not make another source. -/
def firstBuilt : { v : Workspace //
    outcome (buildFile firstSource plainRequest.options) singleSource =
      (.ok ⟨firstSource, ⟨.root, firstOutput⟩, .generated, []⟩, v) ∧
    v.files.read v.cwd missingSource = .error ⟨.notFound, missingSource⟩ ∧
    (v.files.file? firstOutput).isSome = true } :=
  ⟨_, outcome_of_answer (by decide +kernel), by decide +kernel, by decide +kernel⟩

theorem shows_missing :
    Markup.console.Shows (Summary.entry missingSource (.file ⟨.notFound, missingSource⟩)) :=
  ⟨"N.sol: [Errno 2] No such file or directory: 'N.sol'", by decide⟩

/-- A missing source after another one is counted, and the other one is built. -/
theorem missing_source_counted :
    Markup.console.IsLawful ∧ ∃ all others : Summary,
      (outcome (build Markup.console
          { plainRequest with files := [firstSource] ++ [missingSource] }) singleSource).1 =
            .ok all ∧
        (outcome (build Markup.console { plainRequest with files := [firstSource] ++ [] })
          singleSource).1 = .ok others ∧
        others.generated = 1 ∧ others.failed = 0 ∧ all.generated = 1 ∧ all.failed = 1 ∧
        all.results = others.results ∧
        all.errors = [Summary.entry missingSource (.file ⟨.notFound, missingSource⟩)] ∧
        (outcome (build Markup.console
            { plainRequest with files := [firstSource] ++ [missingSource] }) singleSource).2.files =
          (outcome (build Markup.console { plainRequest with files := [firstSource] ++ [] })
            singleSource).2.files := by
  obtain ⟨v, hbuilt, hread, -⟩ := firstBuilt
  have hcount : announcedIn plainRequest.options.dialect singleSource ([firstSource] ++ []) =
      .ok 1 := by decide
  have hfirst : outcome (buildFiles Markup.console plainRequest.options [firstSource] {})
      singleSource = (.ok ⟨1, 0, 0, 0,
        [⟨firstSource, ⟨.root, firstOutput⟩, .generated, []⟩], []⟩, v) :=
    buildFiles_of_built hbuilt {}
  obtain ⟨hshown, -⟩ := @build_isolates_failure Markup.console missingSource singleSource v
    (.file ⟨.notFound, missingSource⟩) Markup.isLawful_console plainRequest [firstSource] [] _
    (by simp) hfirst (failsAlone_of_missing hread rfl)
  obtain ⟨hfiles, hsummary⟩ := hshown shows_missing
  have hrun := hfirst
  rw [← List.append_nil [firstSource]] at hrun
  have hothers := build_eq_ok Markup.isLawful_console plainRequest (by simp) hcount hrun
    (showsProgress_of_not_mem (by decide)) (by simp)
  obtain ⟨all, rest, hall, hrest, hresults, hgenerated, -, hfailed, herrors, hlisted⟩ :=
    hsummary _ hothers fun _ => showsProgress_of_not_mem (by decide)
  have hnone : rest.errors = [] := by simpa [Summary.append] using herrors.symm
  rw [hnone, List.nil_append] at hlisted
  refine ⟨Markup.isLawful_console, all, _, hall, hothers, rfl, rfl, hgenerated, hfailed, hresults,
    hlisted, ?_⟩
  rw [hfiles]

def closingPath : Path := ⟨.relative, ["[".toList, "b].sol".toList]⟩

/-- A failure that cannot be shown keeps the next source from being built. -/
theorem unshown_failure_ends_batch :
    (∃ fault, (outcome (build Markup.console
        { plainRequest with files := [closingPath, firstSource] }) singleSource).1 =
          .error (.markup fault)) ∧
      (outcome (build Markup.console { plainRequest with files := [closingPath, firstSource] })
        singleSource).2.files.file? firstOutput = none ∧
      ((outcome (build Markup.console { plainRequest with files := [firstSource] })
        singleSource).2.files.file? firstOutput).isSome = true := by
  have hcount : announcedIn plainRequest.options.dialect singleSource [closingPath, firstSource] =
      .ok 2 := by decide
  have hcount' : announcedIn plainRequest.options.dialect singleSource [firstSource] = .ok 1 := by
    decide
  have hfault : Markup.console.render
      (Summary.entry closingPath (.file ⟨.notFound, closingPath⟩)) = .error .notOpen := by
    decide
  have hread : singleSource.files.read singleSource.cwd closingPath =
      .error ⟨.notFound, closingPath⟩ := rfl
  have hunshown :
      ¬Markup.console.Shows (errorLine closingPath (.file ⟨.notFound, closingPath⟩)) := by
    rw [shows_errorLine Markup.isLawful_console]
    rintro ⟨shown, h⟩
    rw [hfault] at h
    cases h
  have hheading := shows_heading Markup.isLawful_console
  obtain ⟨v, hsame, hbuild⟩ := build_of_counted plainRequest
    (List.getLast?_eq_some_getLast (by simp)) hcount (hheading _ _)
  obtain ⟨fault, x, hsame', hends⟩ :=
    ((failsAlone_of_missing hread rfl).of_sameFiles hsame).buildFiles_ends hunshown
      [firstSource]
  obtain ⟨y, hbuilt, -, hwritten⟩ := firstBuilt
  rw [hbuild, outcome_bind_error hends, build_files plainRequest (by simp) hcount' (hheading _ _),
    buildFiles_of_built hbuilt, hsame'.1, hsame.1]
  exact ⟨⟨fault, rfl⟩, by decide, hwritten⟩

end Batch
end SolInterface
