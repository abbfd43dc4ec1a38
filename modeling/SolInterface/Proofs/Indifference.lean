import SolInterface.Batch
import SolInterface.Proofs.Outputs

/-!
What has been logged and printed so far does not matter to a build: where the files are the same, it
answers the same and leaves the same files. So two runs can be compared that differ in what they
report on the way.
-/
namespace SolInterface
open WorkspaceM

variable {α β : Type}

theorem Workspace.SameFiles.refl (w : Workspace) : w.SameFiles w := ⟨rfl, rfl, rfl⟩

theorem Workspace.SameFiles.symm {w w' : Workspace} (h : w.SameFiles w') : w'.SameFiles w :=
  ⟨h.1.symm, h.2.1.symm, h.2.2.symm⟩

/-- In workspaces with the same files the action answers the same and leaves the same files. -/
def WorkspaceM.Indifferent (action : WorkspaceM α) : Prop :=
  ∀ w v : Workspace, w.SameFiles v →
    (outcome action v).1 = (outcome action w).1 ∧
      (outcome action w).2.SameFiles (outcome action v).2

namespace WorkspaceM

theorem Indifferent.outcome {action : WorkspaceM α} (h : Indifferent action) {w v w' : Workspace}
    {answer : Except Failure α} (hsame : w.SameFiles v)
    (hw : WorkspaceM.outcome action w = (answer, w')) :
    ∃ v', WorkspaceM.outcome action v = (answer, v') ∧ w'.SameFiles v' := by
  obtain ⟨hanswer, hfiles⟩ := h w v hsame
  rw [hw] at hanswer hfiles
  exact ⟨(WorkspaceM.outcome action v).2, Prod.ext hanswer rfl, hfiles⟩

theorem indifferent_pure (a : α) : Indifferent (pure a : WorkspaceM α) := fun _ _ h => ⟨rfl, h⟩

theorem indifferent_throw (failure : Failure) : Indifferent (throw failure : WorkspaceM α) :=
  fun _ _ h => ⟨rfl, h⟩

theorem indifferent_log (events : List Event) : Indifferent (log events) := fun _ _ h => ⟨rfl, h⟩

theorem indifferent_print (lines : List Text) : Indifferent (print lines) := fun _ _ h => ⟨rfl, h⟩

theorem indifferent_ofExcept (answer : Except Failure α) :
    Indifferent (ofExcept answer : WorkspaceM α) := fun w v h => by
  rw [outcome_ofExcept, outcome_ofExcept]
  exact ⟨rfl, h⟩

theorem indifferent_query (f : FileTree → Path → Except FileError α) : Indifferent (query f) :=
  fun w v h => by
    rw [outcome_query, outcome_query, h.1, h.2.1]
    exact ⟨rfl, h⟩

theorem Indifferent.bind {action : WorkspaceM α} {next : α → WorkspaceM β} (h : Indifferent action)
    (hnext : ∀ a, Indifferent (next a)) : Indifferent (action >>= next) := by
  intro w v hsame
  cases hw : WorkspaceM.outcome action w with
  | mk answer w' =>
    obtain ⟨v', hv, hsame'⟩ := h.outcome hsame hw
    cases answer with
    | error failure =>
      rw [outcome_bind_error hw, outcome_bind_error hv]
      exact ⟨rfl, hsame'⟩
    | ok a =>
      rw [outcome_bind_ok hw, outcome_bind_ok hv]
      exact hnext a w' v' hsame'

theorem Indifferent.tryCatch {action : WorkspaceM α} {handler : Failure → WorkspaceM α}
    (h : Indifferent action) (hhandler : ∀ failure, Indifferent (handler failure)) :
    Indifferent (tryCatch action handler) := by
  intro w v hsame
  rw [outcome_tryCatch, outcome_tryCatch]
  cases hw : WorkspaceM.outcome action w with
  | mk answer w' =>
    obtain ⟨v', hv, hsame'⟩ := h.outcome hsame hw
    rw [hv]
    cases answer with
    | error failure => exact hhandler failure w' v' hsame'
    | ok a => exact ⟨rfl, hsame'⟩

theorem Indifferent.attempt {action : WorkspaceM α} (h : Indifferent action) :
    Indifferent (attempt action) := by
  refine Indifferent.tryCatch ?_ fun failure => ?_
  · rw [map_eq_pure_bind]
    exact h.bind fun a => indifferent_pure _
  · split
    · exact indifferent_pure _
    · exact indifferent_throw _

theorem indifferent_printShown (shown : Except Console.Fault (List Text)) :
    Indifferent (printShown shown) := by
  cases shown with
  | ok lines => exact indifferent_print lines
  | error fault => exact indifferent_throw _

theorem indifferent_readSource (p : Path) : Indifferent (readSource p) := by
  refine (indifferent_query _).bind fun bytes => ?_
  split
  · exact indifferent_pure _
  · exact indifferent_throw _

theorem indifferent_writeText (p : Path) (text : Text) (encodable : Bool) :
    Indifferent (writeText p text encodable) := by
  rintro w v ⟨hfiles, hcwd, hnow⟩
  rw [outcome_writeText, outcome_writeText, hfiles, hcwd, hnow]
  split
  · exact ⟨rfl, rfl, rfl, rfl⟩
  · split
    · exact ⟨rfl, rfl, rfl, rfl⟩
    · exact ⟨rfl, rfl, rfl, rfl⟩

end WorkspaceM

namespace Build

theorem indifferent_load (p : Path) (o : SourceUnit.Options) : Indifferent (load p o) :=
  (indifferent_readSource p).bind fun _ => (indifferent_log _).bind fun _ => indifferent_ofExcept _

theorem indifferent_render (u : SourceUnit) : Indifferent (render u) :=
  (indifferent_ofExcept _).bind fun _ => (indifferent_log _).bind fun _ => indifferent_pure _

theorem indifferent_loadModule (owner : SourceUnit) (name : Text) (p : Path) :
    Indifferent (loadModule owner name p) := by
  refine (indifferent_load p _).tryCatch fun failure => ?_
  split <;> exact indifferent_throw _

theorem indifferent_newest (latest : Time) (paths : List Path) :
    Indifferent (newest latest paths) := by
  induction paths generalizing latest with
  | nil => exact indifferent_pure latest
  | cons p paths ih => exact (indifferent_query _).bind fun node => ih _

theorem indifferent_isUpToDate (force : Bool) (source output : Path) (dependsOn : List Path) :
    Indifferent (isUpToDate force source output dependsOn) := by
  unfold isUpToDate
  split
  · exact indifferent_pure false
  · refine (indifferent_query _).bind fun isThere => ?_
    split
    · exact indifferent_pure false
    · exact (indifferent_query _).bind fun node => (indifferent_newest _ _).bind fun latest =>
        (indifferent_query _).bind fun written => indifferent_pure _

theorem indifferent_writeOutput (force : Bool) (source output : Path) (dependsOn : List Path)
    {rendering : WorkspaceM Text} (h : Indifferent rendering) (encodable : Bool) :
    Indifferent (writeOutput force source output dependsOn rendering encodable) := by
  refine (indifferent_isUpToDate _ _ _ _).bind fun isFresh => ?_
  split
  · exact (indifferent_log _).bind fun _ => indifferent_pure _
  · exact h.bind fun text => (indifferent_writeText _ _ _).bind fun _ =>
      (indifferent_log _).bind fun _ => indifferent_pure _

theorem indifferent_locateModule (owner : Path) (packagesDir name : Text) :
    Indifferent (locateModule owner packagesDir name) := by
  refine (indifferent_query _).bind fun found => ?_
  have hrest : ∀ isThere : Bool, Indifferent (if isThere then do
      if ← query fun files cwd => files.isFile cwd found then return found
      else throw (.moduleNotFound name found)
    else throw (.packageNotFound name) : WorkspaceM Path) := by
    intro isThere
    split
    · refine (indifferent_query _).bind fun isFile => ?_
      split
      · exact indifferent_pure _
      · exact indifferent_throw _
    · exact indifferent_throw _
  split
  · exact (indifferent_query _).bind hrest
  · exact (indifferent_pure _).bind hrest

theorem indifferent_buildModule (owner : SourceUnit) (task : ModuleTask) :
    Indifferent (buildModule owner task) :=
  (indifferent_locateModule _ _ _).bind fun _ => (indifferent_loadModule _ _ _).bind fun _ =>
    (indifferent_query _).bind fun _ =>
      (indifferent_writeOutput _ _ _ _ (indifferent_render _) _).bind fun _ =>
        (indifferent_log _).bind fun _ => indifferent_pure _

theorem indifferent_buildModules (owner : SourceUnit) (tasks : List ModuleTask) :
    Indifferent (buildModules owner tasks) := by
  induction tasks with
  | nil => exact indifferent_pure []
  | cons task tasks ih =>
    have hrest : ∀ m : ModuleResult,
        Indifferent (buildModules owner tasks >>= fun more => pure (m :: more)) :=
      fun m => ih.bind fun more => indifferent_pure _
    refine (indifferent_buildModule owner task).attempt.bind fun built => ?_
    split
    · exact (indifferent_pure _).bind hrest
    · exact (indifferent_log _).bind fun _ => (indifferent_pure _).bind hrest

theorem indifferent_buildUnit (u : SourceUnit) : Indifferent (buildUnit u) := by
  refine (indifferent_buildModules u _).bind fun modules => ?_
  intro w v hsame
  -- Of the state only the directory is used.
  rw [outcome_bind_ok (outcome_get w), outcome_bind_ok (outcome_get v), hsame.2.1]
  exact ((indifferent_ofExcept _).bind fun output =>
    (indifferent_writeOutput _ _ _ _ (indifferent_render u) _).bind fun _ => indifferent_pure _)
      w v hsame

theorem indifferent_buildFile (p : Path) (o : SourceUnit.Options) : Indifferent (buildFile p o) :=
  (indifferent_load p o).bind fun u => indifferent_buildUnit u

end Build

namespace Batch

variable (console : Console)

theorem indifferent_buildOne (o : SourceUnit.Options) (p : Path) (s : Summary) :
    Indifferent (buildOne console o p s) := by
  refine (Build.indifferent_buildFile p o).attempt.bind fun built => ?_
  split
  · exact indifferent_pure _
  · exact (indifferent_printShown _).bind fun _ => indifferent_pure _

theorem indifferent_buildFiles (o : SourceUnit.Options) (paths : List Path) (s : Summary) :
    Indifferent (buildFiles console o paths s) := by
  induction paths generalizing s with
  | nil => exact indifferent_pure s
  | cons p paths ih =>
    exact ((indifferent_buildOne console o p s).tryCatch fun failure =>
      (indifferent_printShown _).bind fun _ => indifferent_throw failure).bind fun s' => ih s'

end Batch
end SolInterface
