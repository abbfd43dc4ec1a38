import SolInterface.Proofs.Generation
import SolInterface.Proofs.IncrementalBuild

/-!
Which failures end a run. A path that can be looked up is refused by the file system at most, and a
refusal is reported with its source, as is everything that is wrong with a source. What is left is a
text that cannot be encoded.
-/
namespace SolInterface
open WorkspaceM

variable {α β : Type}

/-! Paths that can be looked up. -/

namespace Path

theorem flaw?_eq_none_iff {p : Path} :
    p.flaw? = none ↔
      ∀ name ∈ p.names, name.any isLoneHalf = false ∧ name.contains '\x00' = false := by
  unfold flaw?
  constructor
  · intro h name hname
    split_ifs at h with hhalf hnull
    refine ⟨?_, ?_⟩
    · by_contra hany
      exact hhalf (List.any_eq_true.2 ⟨name, hname, by simpa using hany⟩)
    · by_contra hcontains
      exact hnull (List.any_eq_true.2 ⟨name, hname, by simpa using hcontains⟩)
  · intro h
    have hhalf : p.names.any (·.any isLoneHalf) = false :=
      List.any_eq_false.2 fun name hname => by simp [(h name hname).1]
    have hnull : p.names.any (·.contains '\x00') = false :=
      List.any_eq_false.2 fun name hname => by simpa using (h name hname).2
    rw [hhalf, hnull]
    rfl

theorem flaw?_join {p q : Path} (hp : p.flaw? = none) (hq : q.flaw? = none) :
    (p.join q).flaw? = none := by
  unfold join
  split
  · exact hq
  · refine flaw?_eq_none_iff.2 fun name hname => ?_
    rcases List.mem_append.1 hname with hname | hname
    · exact flaw?_eq_none_iff.1 hp name hname
    · exact flaw?_eq_none_iff.1 hq name hname

theorem mem_collapse {names : List Text} {name : Text} (h : name ∈ collapse names) :
    name ∈ names := by
  have hfold : ∀ known : List Text, name ∈ names.foldl
      (fun known name => if name == "..".toList then known.dropLast else known ++ [name]) known →
        name ∈ known ∨ name ∈ names := by
    clear h
    induction names with
    | nil => exact fun known h => Or.inl h
    | cons first names ih =>
      intro known h
      rcases ih _ h with hknown | hnames
      · dsimp only at hknown
        split at hknown
        · exact Or.inl (List.dropLast_subset _ hknown)
        · rcases List.mem_append.1 hknown with hknown | hfirst
          · exact Or.inl hknown
          · exact Or.inr (List.mem_singleton.1 hfirst ▸ List.mem_cons_self)
      · exact Or.inr (List.mem_cons_of_mem _ hnames)
  exact (hfold [] h).resolve_left List.not_mem_nil

theorem flaw?_resolve {cwd p : Path} (hcwd : cwd.flaw? = none) (hp : p.flaw? = none) :
    (resolve cwd p).flaw? = none :=
  flaw?_eq_none_iff.2 fun name hname =>
    flaw?_eq_none_iff.1 (flaw?_join hcwd hp) name (mem_collapse hname)

theorem exists_resolved {cwd p : Path} (hcwd : cwd.flaw? = none) (hp : p.flaw? = none) :
    ∃ q, resolved cwd p = .ok q ∧ q.flaw? = none := by
  refine ⟨resolve cwd p, ?_, flaw?_resolve hcwd hp⟩
  rw [resolved, hp]

/-- An output path that can be looked up leads somewhere. -/
theorem exists_outputFor {cwd source : Path} {declared : Text} (hcwd : cwd.flaw? = none)
    (hsource : source.flaw? = none) (hdeclared : (parse declared).flaw? = none) :
    ∃ q, outputFor cwd source declared = .ok q ∧ q.flaw? = none := by
  unfold outputFor
  dsimp only
  split
  · exact ⟨_, rfl, hdeclared⟩
  · exact exists_resolved hcwd (flaw?_join (flaw?_parent hsource) hdeclared)

theorem exists_modulePath {cwd owner : Path} {packagesDir name : Text} (hcwd : cwd.flaw? = none)
    (howner : owner.flaw? = none) (hname : (parse name).flaw? = none) :
    ∃ q, Build.modulePath cwd owner packagesDir name = .ok q := by
  unfold Build.modulePath
  dsimp only
  split
  · exact ⟨_, rfl⟩
  · split
    · obtain ⟨q, hq, -⟩ := exists_resolved hcwd (flaw?_join (flaw?_parent howner) hname)
      exact ⟨q, hq⟩
    · exact ⟨_, rfl⟩

end Path

/-! Refusals. -/

/-- If there is an error, the file system was asked and refused. -/
def FileError.Refuses (answer : Except FileError α) : Prop :=
  ∀ e, answer = .error e → e.cause.isRefusal = true

theorem FileError.Refuses.map {answer : Except FileError α} (h : Refuses answer) (f : α → β) :
    Refuses (answer.map f) := by
  intro e he
  cases answer with
  | error cause =>
    cases he
    exact h _ rfl
  | ok a => cases he

namespace FileTree
open FileError

variable {t : FileTree} {cwd p : Path}

theorem isRefusal_of_walk {here : Location} {names : List Text} {cause : FileError.Cause}
    (h : t.walk here names = .error cause) : cause.isRefusal = true := by
  induction names generalizing here with
  | nil => cases h
  | cons name names ih =>
    rw [walk_cons] at h
    split at h
    · split_ifs at h
      · cases h
        rfl
      · exact ih h
      · cases h
        rfl
    · cases h
      rfl
    · cases h
      rfl

theorem refuses_follow (hp : p.flaw? = none) (names : List Text) :
    Refuses (t.follow cwd p names) := by
  intro e h
  unfold follow Path.barrier? at h
  rw [hp] at h
  dsimp only at h
  split at h
  · next hbarrier =>
    split_ifs at hbarrier
    cases hbarrier
    cases h
    rfl
  · split at h
    · cases h
    · next hwalk =>
      cases h
      exact isRefusal_of_walk hwalk

theorem refuses_stat (hp : p.flaw? = none) : Refuses (t.stat cwd p) := by
  intro e h
  unfold stat at h
  split at h
  · split at h
    · cases h
    · cases h
      rfl
  · next hlocate =>
    cases h
    exact refuses_follow hp _ e hlocate

/-- That nothing of a path is there is no error, and all else is a refusal. -/
theorem refuses_stat? : Refuses (t.stat? cwd p) := by
  intro e h
  unfold stat? at h
  split at h
  · cases h
  · split_ifs at h with habsent
    cases h
    revert habsent
    cases e.cause <;> decide

theorem refuses_pathExists : Refuses (t.pathExists cwd p) := refuses_stat?.map _

theorem refuses_isFile : Refuses (t.isFile cwd p) := refuses_stat?.map _

theorem refuses_isDirectory : Refuses (t.isDirectory cwd p) := refuses_stat?.map _

theorem refuses_read (hp : p.flaw? = none) : Refuses (t.read cwd p) := by
  intro e h
  unfold read at h
  split at h
  · cases h
  · cases h
    rfl
  · next hstat =>
    cases h
    exact refuses_stat hp e hstat

theorem refuses_slot (hp : p.flaw? = none) : Refuses (t.slot cwd p) := by
  intro e h
  unfold slot at h
  split at h
  · cases h
  · split at h
    · next hfollow =>
      cases h
      exact refuses_follow hp _ e hfollow
    · split at h
      · split_ifs at h
        cases h
        rfl
      · cases h
        rfl
      · cases h
        rfl

theorem refuses_makeDirectory (hp : p.flaw? = none) (now : Time) :
    Refuses (t.makeDirectory cwd p now) := by
  intro e h
  unfold makeDirectory at h
  split at h
  · next hslot =>
    cases h
    exact refuses_slot hp e hslot
  · cases h
    rfl
  · split at h
    · cases h
      rfl
    · cases h

theorem refuses_excuse {e : FileError} (he : e.cause.isRefusal = true) :
    Refuses (t.excuse cwd e) := by
  intro e' h
  unfold excuse at h
  rw [if_pos he] at h
  split at h
  · cases h
  · cases h
    exact he
  · next hdirectory =>
    cases h
    exact refuses_isDirectory e' hdirectory

theorem refuses_ensureDirectory (hp : p.flaw? = none) (now : Time) :
    Refuses (t.ensureDirectory cwd p now) := by
  intro e h
  unfold ensureDirectory at h
  split at h
  · cases h
  · next e' hmade =>
    have he' := refuses_makeDirectory hp now e' hmade
    split_ifs at h
    · cases h
      exact he'
    · exact (refuses_excuse he').map _ e h

theorem refuses_makePath (anchor : Anchor) (now : Time) {names : List Text}
    (hnames : (⟨anchor, names⟩ : Path).flaw? = none) (t : FileTree) :
    Refuses (makePath cwd anchor now names t).1 := by
  have hflawless : ∀ {more : List Text}, (⟨anchor, more⟩ : Path).flaw? = none →
      (⟨anchor, more.reverse⟩ : Path).flaw? = none := fun h =>
    Path.flaw?_eq_none_iff.2 fun name hname =>
      Path.flaw?_eq_none_iff.1 h name (List.mem_reverse.1 hname)
  induction names generalizing t with
  | nil =>
    intro e h
    rw [makePath] at h
    split at h
    · cases h
    · next e' hmade =>
      have he' := refuses_makeDirectory (hflawless hnames) now e' hmade
      split at h
      · cases h
        exact he'
      · exact refuses_excuse he' e h
  | cons name above ih =>
    have habove : (⟨anchor, above⟩ : Path).flaw? = none :=
      Path.flaw?_eq_none_iff.2 fun other hother =>
        Path.flaw?_eq_none_iff.1 hnames other (List.mem_cons_of_mem _ hother)
    intro e h
    rw [makePath] at h
    split at h
    · cases h
    · next e' hmade =>
      have he' := refuses_makeDirectory (hflawless hnames) now e' hmade
      split at h
      · dsimp only at h
        split at h
        · next hmadeAbove =>
          cases h
          exact ih habove t e (by rw [hmadeAbove])
        · split at h
          · cases h
          · next hensure =>
            cases h
            exact refuses_ensureDirectory (hflawless hnames) now e hensure
      · exact refuses_excuse he' e h

theorem refuses_makeDirectories (hp : p.flaw? = none) (now : Time) :
    Refuses (t.makeDirectories cwd p now).1 :=
  refuses_makePath _ _ (Path.flaw?_eq_none_iff.2 fun name hname =>
    Path.flaw?_eq_none_iff.1 hp name (List.mem_reverse.1 hname)) t

theorem refuses_write (hp : p.flaw? = none) (content : List UInt8) (now : Time) :
    Refuses (t.write cwd p content now) := by
  intro e h
  unfold write at h
  split at h
  · next hslot =>
    cases h
    exact refuses_slot hp e hslot
  · cases h
    rfl
  · split at h
    · cases h
      rfl
    · cases h

/-- What stands at a path can be looked up. -/
theorem flaw?_of_read {content : List UInt8} (h : t.read cwd p = .ok content) :
    p.flaw? = none := by
  obtain ⟨mtime, hstat⟩ := read_eq_ok.1 h
  have hbarrier := (locate_eq_ok.1 (stat_eq_ok.1 hstat).1).1
  unfold Path.barrier? at hbarrier
  split at hbarrier
  · cases hbarrier
  · assumption

/-- So it can where the file system was asked and refused. -/
theorem flaw?_of_refused {e : FileError} (h : t.read cwd p = .error e)
    (he : e.cause.isRefusal = true) : p.flaw? = none := by
  cases hflaw : p.flaw? with
  | none => rfl
  | some cause =>
    have hread : t.read cwd p = .error ⟨cause, p⟩ := by
      simp [read, stat, locate, follow, Path.barrier?, hflaw]
    rw [hread] at h
    cases h
    unfold Path.flaw? at hflaw
    split_ifs at hflaw <;> cases hflaw <;> cases he

end FileTree

/-! Failures that are reported. -/

/-- The failure is reported, and lies in the source or the settings rather than in the files. -/
def Failure.isBuildError : Failure → Bool
  | file _ => false
  | failure => failure.isReported

theorem Failure.isReported_of_isBuildError {failure : Failure} (h : failure.isBuildError = true) :
    failure.isReported = true := by
  cases failure with
  | file e => cases h
  | dialect e => exact h
  | undefinedDirective kind => exact h
  | noBuildDirective marker => rfl
  | noContract => rfl
  | undecodable p fault => rfl
  | packageNotFound name => rfl
  | moduleNotFound name p => rfl
  | moduleUndecodable name p fault => rfl
  | unwritable p => exact h
  | markup fault => exact h

/-- The dialect gives a meaning to every directive that it has. -/
def DialectChoice.IsMeant (choice : DialectChoice) : Prop :=
  ∀ d, choice = .given d → d.grammar ≠ .formal

theorem Dialect.firstUndefined?_of_ne_formal {d : Dialect} (hd : d.grammar ≠ .formal)
    (ls : List Text) : SourceUnit.firstUndefined? (d.directives ls) = none := by
  cases hgrammar : d.grammar with
  | custom => exact firstUndefined?_directives (Or.inl hgrammar) ls
  | legacy => exact firstUndefined?_directives (Or.inr hgrammar) ls
  | formal => exact absurd hgrammar hd
  | empty =>
    refine List.findSome?_eq_none_iff.2 fun directive hmem => ?_
    have hrequest : directive.request ∈ ls.filterMap d.parseLine := by
      rw [← d.requests_directivesFrom 1]
      exact List.mem_map_of_mem hmem
    obtain ⟨line, -, hline⟩ := List.mem_filterMap.1 hrequest
    obtain ⟨content, -, hread⟩ := Option.map_eq_some_iff.1 hline
    rw [hgrammar] at hread
    rw [← hread]
    rfl

theorem Registry.isReported_of_resolve {name content : Text} {e : Registry.Error}
    (h : standard.resolve name content = .error e) : (Failure.dialect e).isReported = true := by
  unfold resolve detect at h
  split at h
  · split at h
    · cases h
    · split at h
      · cases h
      · next hget => exact absurd hget (by decide)
  · split at h
    · cases h
    · cases h
      rfl

namespace SourceUnit

theorem isReported_of_ofText {p : Path} {content : Text} {o : Options} {failure : Failure}
    (hchoice : o.choice.IsMeant) (h : ofText p content o = .error failure) :
    failure.isReported = true := by
  unfold ofText directivesOf at h
  cases hasked : o.choice with
  | given d =>
    rw [hasked] at h
    simp only [DialectChoice.resolve, Dialect.firstUndefined?_of_ne_formal (hchoice d hasked)] at h
    cases h
  | named name =>
    rw [hasked] at h
    simp only [DialectChoice.resolve] at h
    cases hresolve : Registry.standard.resolve name content with
    | error e =>
      rw [hresolve] at h
      cases h
      exact Registry.isReported_of_resolve hresolve
    | ok d =>
      have hnamed := Registry.isNamed_of_mem (Registry.mem_of_resolve hresolve)
      rw [hresolve] at h
      simp only [Dialect.firstUndefined?_directives hnamed] at h
      cases h

end SourceUnit

namespace WorkspaceM

def FailsReported (action : WorkspaceM α) (w : Workspace) : Prop :=
  ∀ failure w', outcome action w = (.error failure, w') → failure.isReported = true

variable {action : WorkspaceM α} {next : α → WorkspaceM β} {w : Workspace}

theorem FailsReported.bind (h : FailsReported action w)
    (hnext : ∀ a w', outcome action w = (.ok a, w') → FailsReported (next a) w') :
    FailsReported (action >>= next) w := by
  intro failure w' hw
  rcases outcome_bind_cases hw with ⟨failure', haction, hfailure⟩ | ⟨a, v, haction, hrest⟩
  · cases hfailure
    exact h failure w' haction
  · exact hnext a v haction failure w' hrest

theorem FailsReported.ne {failure : Failure} {w' : Workspace} (h : FailsReported action w)
    (hfailure : failure.isReported = false) : outcome action w ≠ (.error failure, w') := by
  intro haction
  rw [h failure w' haction] at hfailure
  cases hfailure

theorem failsReported_pure (a : α) : FailsReported (pure a : WorkspaceM α) w := by
  intro failure w' h
  cases h

theorem failsReported_throw {failure : Failure} (h : failure.isReported = true) :
    FailsReported (throw failure : WorkspaceM α) w := by
  intro failure' w' hthrow
  cases hthrow
  exact h

theorem failsReported_log (events : List Event) : FailsReported (log events) w := by
  intro failure w' h
  cases h

theorem failsReported_query {f : FileTree → Path → Except FileError α}
    (h : FileError.Refuses (f w.files w.cwd)) : FailsReported (query f) w := by
  intro failure w' hquery
  rw [outcome_query] at hquery
  cases hf : f w.files w.cwd with
  | ok a =>
    rw [hf] at hquery
    cases hquery
  | error e =>
    rw [hf] at hquery
    cases hquery
    exact h e hf

theorem failsReported_ofExcept {answer : Except Failure α}
    (h : ∀ failure, answer = .error failure → failure.isReported = true) :
    FailsReported (ofExcept answer : WorkspaceM α) w := by
  intro failure w' hanswer
  rw [outcome_ofExcept] at hanswer
  exact h failure (Prod.mk.inj hanswer).1

/-- Where a text is not written, no file has changed, or what was there is lost because the text
cannot be encoded. -/
theorem writeText_eq_error {p : Path} {text : Text} {encodable : Bool} {w' : Workspace}
    {failure : Failure} (h : outcome (writeText p text encodable) w = (.error failure, w')) :
    (encodable = false ∧ failure = .unwritable p) ∨
      ∃ e, failure = .file e ∧ (p.flaw? = none → e.cause.isRefusal = true) ∧
        ∀ loc, w'.files.file? loc = w.files.file? loc := by
  have hmade : ∀ loc, (w.files.makeDirectories w.cwd p.parent w.now).2.file? loc =
      w.files.file? loc := by
    intro loc
    have hgrows := FileTree.grows_makeDirectories w.files w.cwd p w.now fun _ _ => False
    rcases hgrows.file? loc with hsame | ⟨_, hfalse, _⟩
    · exact hsame
    · exact hfalse.elim
  rw [outcome_writeText] at h
  split at h
  · next e files hdirectories =>
    cases h
    rw [hdirectories] at hmade
    refine Or.inr ⟨e, rfl, fun hp => ?_, hmade⟩
    exact FileTree.refuses_makeDirectories (Path.flaw?_parent hp) w.now e (by rw [hdirectories])
  · next files hdirectories =>
    rw [hdirectories] at hmade
    split at h
    · next e hwrite =>
      cases h
      exact Or.inr ⟨e, rfl, fun hp => FileTree.refuses_write hp _ _ e hwrite, hmade⟩
    · cases encodable with
      | true => cases h
      | false =>
        cases h
        exact Or.inl ⟨rfl, rfl⟩

end WorkspaceM

namespace Build

variable {w : Workspace}

theorem failsReported_locateModule {owner : Path} {packagesDir name : Text} {found : Path}
    (hpath : modulePath w.cwd owner packagesDir name = .ok found) :
    FailsReported (locateModule owner packagesDir name) w := by
  refine (failsReported_query fun e he => ?_).bind fun p v hquery => ?_
  · rw [hpath] at he
    cases he
  have hrest : ∀ (isThere : Bool) (v : Workspace), FailsReported (if isThere then do
      if ← query fun files cwd => files.isFile cwd p then return p
      else throw (.moduleNotFound name p)
    else throw (.packageNotFound name) : WorkspaceM Path) v := by
    intro isThere v
    split
    · refine (failsReported_query FileTree.refuses_isFile).bind fun isFile v' _ => ?_
      split
      · exact failsReported_pure _
      · exact failsReported_throw rfl
    · exact failsReported_throw rfl
  split
  · exact (failsReported_query FileTree.refuses_pathExists).bind fun isThere v' _ =>
      hrest isThere v'
  · exact (failsReported_pure _).bind fun isThere v' _ => hrest isThere v'

theorem failsReported_load {p : Path} {o : SourceUnit.Options} (hp : p.flaw? = none)
    (hchoice : o.choice.IsMeant) : FailsReported (load p o) w := by
  refine FailsReported.bind ?_ fun content v _ => (failsReported_log _).bind fun _ v' _ =>
    failsReported_ofExcept fun failure h => SourceUnit.isReported_of_ofText hchoice h
  refine (failsReported_query (FileTree.refuses_read hp)).bind fun bytes v _ => ?_
  split
  · exact failsReported_pure _
  · exact failsReported_throw rfl

theorem failsReported_loadModule {owner : SourceUnit} {name : Text} {p : Path}
    (hp : p.flaw? = none) (hchoice : owner.choice.IsMeant) :
    FailsReported (loadModule owner name p) w := by
  intro failure w' h
  rw [loadModule, outcome_tryCatch] at h
  split at h
  · cases h
  · next failure' v hload =>
    have hreported := failsReported_load (o := moduleOptions owner) hp hchoice failure' v hload
    split at h
    · cases h
      rfl
    · cases h
      exact hreported

theorem failsReported_render (u : SourceUnit) : FailsReported (render u) w := by
  refine (failsReported_ofExcept fun failure h => ?_).bind fun _ v _ =>
    (failsReported_log _).bind fun _ v' _ => failsReported_pure _
  rcases SourceUnit.interface_eq_error_iff.1 h with ⟨-, rfl⟩ | ⟨-, -, rfl⟩
  · rfl
  · rfl

theorem failsReported_newest {latest : Time} {paths : List Path}
    (hpaths : ∀ p ∈ paths, p.flaw? = none) : FailsReported (newest latest paths) w := by
  induction paths generalizing latest w with
  | nil => exact failsReported_pure latest
  | cons p paths ih =>
    exact (failsReported_query (FileTree.refuses_stat (hpaths p List.mem_cons_self))).bind
      fun node v _ => ih fun q hq => hpaths q (List.mem_cons_of_mem _ hq)

theorem failsReported_isUpToDate {force : Bool} {source output : Path} {dependsOn : List Path}
    (hsource : source.flaw? = none) (houtput : output.flaw? = none)
    (hothers : ∀ p ∈ dependsOn, p.flaw? = none) :
    FailsReported (isUpToDate force source output dependsOn) w := by
  unfold isUpToDate
  split
  · exact failsReported_pure false
  · refine (failsReported_query FileTree.refuses_pathExists).bind fun isThere v _ => ?_
    split
    · exact failsReported_pure false
    · exact (failsReported_query (FileTree.refuses_stat hsource)).bind fun node v _ =>
        (failsReported_newest hothers).bind fun latest v _ =>
          (failsReported_query (FileTree.refuses_stat houtput)).bind fun written v _ =>
            failsReported_pure _

/-- A text that cannot be encoded is the only thing that stops an output without a report. -/
theorem writeOutput_of_not_isReported {force encodable : Bool} {source output : Path}
    {dependsOn : List Path} {u : SourceUnit} {w' : Workspace} {failure : Failure}
    (hsource : source.flaw? = none) (houtput : output.flaw? = none)
    (hothers : ∀ p ∈ dependsOn, p.flaw? = none)
    (h : outcome (writeOutput force source output dependsOn (render u) encodable) w =
      (.error failure, w')) (hfailure : failure.isReported = false) :
    encodable = false ∧ failure = .unwritable output := by
  rcases outcome_bind_cases h with ⟨_, hfresh, ⟨⟩⟩ | ⟨isFresh, v, hfresh, h⟩
  · exact absurd hfresh ((failsReported_isUpToDate hsource houtput hothers).ne hfailure)
  split at h
  · rw [outcome_bind_ok (outcome_log _ v)] at h
    cases h
  rcases outcome_bind_cases h with ⟨_, hrender, ⟨⟩⟩ | ⟨text, v', hrender, h⟩
  · exact absurd hrender ((failsReported_render u).ne hfailure)
  rcases outcome_bind_cases h with ⟨_, htext, ⟨⟩⟩ | ⟨_, v'', htext, h⟩
  · rcases writeText_eq_error htext with hunwritable | ⟨e, rfl, he, -⟩
    · exact hunwritable
    · rw [show Failure.isReported (.file e) = true from he houtput] at hfailure
      cases hfailure
  · rw [outcome_bind_ok (outcome_log _ v'')] at h
    cases h

/-- Where a module fails without a report, it is over a text that cannot be encoded. -/
theorem buildModule_of_not_isReported {owner : SourceUnit} {task : ModuleTask} {w' : Workspace}
    {failure : Failure} (hchoice : owner.choice.IsMeant) (hcwd : w.cwd.flaw? = none)
    (howner : owner.path.flaw? = none) (hsource : (Path.parse task.source).flaw? = none)
    (houtput : (Path.parse task.output).flaw? = none)
    (h : outcome (buildModule owner task) w = (.error failure, w'))
    (hfailure : failure.isReported = false) :
    owner.header.isWhole = false ∧ ∃ output,
      Path.outputFor w.cwd owner.path task.output = .ok output ∧ failure = .unwritable output := by
  rcases outcome_bind_cases h with ⟨_, hlocate, ⟨⟩⟩ | ⟨source, v, hlocate, h⟩
  · obtain ⟨found, hfound⟩ := Path.exists_modulePath hcwd howner hsource
    exact absurd hlocate ((failsReported_locateModule hfound).ne hfailure)
  obtain ⟨-, bytes, hread⟩ := locateModule_eq_ok hlocate
  have hflawless := FileTree.flaw?_of_read hread
  have hsame := (quiet_locateModule _ _ _).sameFiles hlocate
  rcases outcome_bind_cases h with ⟨_, hload, ⟨⟩⟩ | ⟨unit, v', hload, h⟩
  · exact absurd hload ((failsReported_loadModule hflawless hchoice).ne hfailure)
  have hsame' := hsame.trans ((quiet_loadModule _ _ _).sameFiles hload)
  obtain ⟨_, _, hunit⟩ := load_eq_ok (loadModule_eq_ok.1 hload)
  obtain ⟨output, hpath, hclean⟩ := Path.exists_outputFor hcwd howner houtput
  have hquery : outcome (query fun _ cwd => Path.outputFor cwd owner.path task.output) v' =
      (.ok output, v') := outcome_query_ok (by rw [hsame'.2.1, hpath])
  rw [outcome_bind_ok hquery] at h
  rcases outcome_bind_cases h with ⟨_, hwrite, ⟨⟩⟩ | ⟨status, v'', hwrite, h⟩
  · obtain ⟨hwhole, hunwritable⟩ := writeOutput_of_not_isReported hflawless hclean
      (by simpa using howner) hwrite hfailure
    have hheader : unit.header = owner.header := by
      rw [SourceUnit.header, (SourceUnit.ofBytes?_eq_some hunit).2]
      rfl
    exact ⟨hheader ▸ hwhole, output, hpath, hunwritable⟩
  · rw [outcome_bind_ok (outcome_log _ v'')] at h
    cases h

end Build
end SolInterface
