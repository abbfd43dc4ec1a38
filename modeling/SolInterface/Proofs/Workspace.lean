import Mathlib.Tactic.Common
import SolInterface.Build

/-!
Actions on a workspace by what they answer and what they leave. Each way of putting actions together
has its equation, so that an action is followed step by step from the workspace it starts in. What
every step keeps, an action made of such steps keeps as well.
-/
namespace SolInterface
open WorkspaceM

namespace WorkspaceM

variable {α β : Type}

/-- What an action answers in a workspace, and the workspace it leaves. -/
def outcome (action : WorkspaceM α) (w : Workspace) : Except Failure α × Workspace :=
  action.run.run w

theorem outcome_of_answer {action : WorkspaceM α} {w : Workspace} {answer : Except Failure α}
    (h : (outcome action w).1 = answer) : outcome action w = (answer, (outcome action w).2) := by
  rw [← h]

theorem exists_outcome {action : WorkspaceM α} {w : Workspace} {answer : Except Failure α}
    (h : (outcome action w).1 = answer) : ∃ w', outcome action w = (answer, w') :=
  ⟨_, outcome_of_answer h⟩

theorem outcome_eta (action : WorkspaceM α) (w : Workspace) :
    outcome action w = ((outcome action w).1, (outcome action w).2) := rfl

@[simp] theorem outcome_pure (a : α) (w : Workspace) :
    outcome (pure a : WorkspaceM α) w = (.ok a, w) := rfl

@[simp] theorem outcome_throw (failure : Failure) (w : Workspace) :
    outcome (throw failure : WorkspaceM α) w = (.error failure, w) := rfl

@[simp] theorem outcome_get (w : Workspace) : outcome (get : WorkspaceM Workspace) w = (.ok w, w) :=
  rfl

@[simp] theorem outcome_set (v w : Workspace) :
    outcome (set v : WorkspaceM PUnit) w = (.ok ⟨⟩, v) := rfl

@[simp] theorem outcome_modify (f : Workspace → Workspace) (w : Workspace) :
    outcome (modify f : WorkspaceM PUnit) w = (.ok ⟨⟩, f w) := rfl

theorem outcome_bind (action : WorkspaceM α) (next : α → WorkspaceM β) (w : Workspace) :
    outcome (action >>= next) w =
      match outcome action w with
      | (.ok a, v) => outcome (next a) v
      | (.error failure, v) => (.error failure, v) := by
  show (ExceptT.bindCont next (outcome action w).1).run (outcome action w).2 = _
  cases outcome action w with
  | mk answer v => cases answer <;> rfl

theorem outcome_bind_ok {action : WorkspaceM α} {w v : Workspace} {a : α}
    (h : outcome action w = (.ok a, v)) (next : α → WorkspaceM β) :
    outcome (action >>= next) w = outcome (next a) v := by
  rw [outcome_bind, h]

theorem outcome_bind_error {action : WorkspaceM α} {w v : Workspace} {failure : Failure}
    (h : outcome action w = (.error failure, v)) (next : α → WorkspaceM β) :
    outcome (action >>= next) w = (.error failure, v) := by
  rw [outcome_bind, h]

theorem outcome_bind_cases {action : WorkspaceM α} {next : α → WorkspaceM β} {w w' : Workspace}
    {answer : Except Failure β} (h : outcome (action >>= next) w = (answer, w')) :
    (∃ failure, outcome action w = (.error failure, w') ∧ answer = .error failure) ∨
      ∃ a v, outcome action w = (.ok a, v) ∧ outcome (next a) v = (answer, w') := by
  rw [outcome_bind] at h
  split at h
  · next a v haction => exact Or.inr ⟨a, v, haction, h⟩
  · next failure v haction =>
    cases h
    exact Or.inl ⟨failure, haction, rfl⟩

theorem outcome_bind_pure (action : WorkspaceM α) (f : α → β) (w : Workspace) :
    outcome (action >>= fun a => pure (f a)) w =
      ((outcome action w).1.map f, (outcome action w).2) := by
  rw [outcome_bind]
  rcases outcome action w with ⟨_ | _, _⟩ <;> rfl

theorem outcome_tryCatch (action : WorkspaceM α) (handler : Failure → WorkspaceM α)
    (w : Workspace) :
    outcome (tryCatch action handler) w =
      match outcome action w with
      | (.ok a, v) => (.ok a, v)
      | (.error failure, v) => outcome (handler failure) v := by
  unfold outcome
  rw [ExceptT.run_tryCatch, StateT.run_bind]
  cases h : action.run.run w with
  | mk answer v => cases answer <;> rfl

theorem outcome_ofExcept (answer : Except Failure α) (w : Workspace) :
    outcome (ofExcept answer : WorkspaceM α) w = (answer, w) := by
  cases answer <;> rfl

theorem outcome_query (f : FileTree → Path → Except FileError α) (w : Workspace) :
    outcome (query f) w = ((f w.files w.cwd).mapError .file, w) := by
  rw [query, outcome_bind_ok (outcome_get w)]
  cases f w.files w.cwd <;> rfl

@[simp] theorem outcome_log (events : List Event) (w : Workspace) :
    outcome (log events) w = (.ok (), { w with log := w.log ++ events }) := rfl

/-- A failure that is reported becomes an answer. -/
theorem outcome_attempt (action : WorkspaceM α) (w : Workspace) :
    outcome (attempt action) w =
      match outcome action w with
      | (.ok a, v) => (.ok (.ok a), v)
      | (.error failure, v) =>
        if failure.isReported then (.ok (.error failure), v) else (.error failure, v) := by
  rw [attempt, outcome_tryCatch, map_eq_pure_bind]
  cases haction : outcome action w with
  | mk answer v =>
    cases answer with
    | ok a =>
      rw [outcome_bind_ok haction]
      rfl
    | error failure =>
      rw [outcome_bind_error haction]
      dsimp only
      split <;> rfl

/-- A file that can be decoded is read with its line ends made one. -/
theorem outcome_readSource {w : Workspace} {p : Path} {bytes : List UInt8} {text : Text}
    (hread : w.files.read w.cwd p = .ok bytes) (hdecode : Utf8.decode bytes = .ok text) :
    outcome (readSource p) w = (.ok (Text.normalizeNewlines text), w) := by
  have hquery : outcome (query fun files cwd => files.read cwd p) w = (.ok bytes, w) := by
    rw [outcome_query, hread]
    rfl
  rw [readSource, outcome_bind_ok hquery]
  simp only [hdecode]
  rfl

end WorkspaceM

/-- A source that was read makes the unit of its text, and its warnings are logged. -/
theorem Build.outcome_load {w : Workspace} {p : Path} {o : SourceUnit.Options} {content : Text}
    (hread : outcome (readSource p) w = (.ok content, w)) :
    outcome (load p o) w = (SourceUnit.ofText p content o, { w with
      log := w.log ++ (SourceUnit.warningsOf o content).map (.directiveWarning p) }) := by
  rw [load, outcome_bind_ok hread, outcome_bind_ok (outcome_log _ _), outcome_ofExcept]

/-! What actions keep. -/

def Event.isWritten : Event → Bool
  | written _ => true
  | _ => false

/-- A relation between a workspace and a later one that holds over any number of steps. -/
structure Workspace.IsSteady (R : Workspace → Workspace → Prop) : Prop where
  refl : ∀ w, R w w
  trans : ∀ {u v w}, R u v → R v w → R u w

/-- Whatever it answers, the action leaves a workspace that is related to the one before. -/
def WorkspaceM.Keeps {α : Type} (R : Workspace → Workspace → Prop) (action : WorkspaceM α) : Prop :=
  ∀ w : Workspace, R w (outcome action w).2

section Keeps

variable {α β : Type} {R : Workspace → Workspace → Prop}

namespace WorkspaceM

theorem Keeps.of_outcome {action : WorkspaceM α} (h : Keeps R action) {w w' : Workspace}
    {answer : Except Failure α} (hw : outcome action w = (answer, w')) : R w w' := by
  have hrelated := h w
  rwa [hw] at hrelated

variable (hR : Workspace.IsSteady R)
include hR

theorem keeps_pure (a : α) : Keeps R (pure a : WorkspaceM α) := hR.refl

theorem keeps_throw (failure : Failure) : Keeps R (throw failure : WorkspaceM α) := hR.refl

theorem keeps_query (f : FileTree → Path → Except FileError α) : Keeps R (query f) := fun w => by
  rw [outcome_query]
  exact hR.refl w

theorem keeps_ofExcept (answer : Except Failure α) : Keeps R (ofExcept answer : WorkspaceM α) :=
  fun w => by
    rw [outcome_ofExcept]
    exact hR.refl w

theorem keeps_bind {action : WorkspaceM α} {next : α → WorkspaceM β} (h : Keeps R action)
    (hnext : ∀ a, Keeps R (next a)) : Keeps R (action >>= next) := by
  intro w
  rcases hw : outcome action w with ⟨failure | a, v⟩
  · rw [outcome_bind_error hw]
    exact h.of_outcome hw
  · rw [outcome_bind_ok hw]
    exact hR.trans (h.of_outcome hw) (hnext a v)

theorem keeps_tryCatch {action : WorkspaceM α} {handler : Failure → WorkspaceM α}
    (h : Keeps R action) (hhandler : ∀ failure, Keeps R (handler failure)) :
    Keeps R (tryCatch action handler) := by
  intro w
  rw [outcome_tryCatch]
  rcases hw : outcome action w with ⟨failure | a, v⟩
  · exact hR.trans (h.of_outcome hw) (hhandler failure v)
  · exact h.of_outcome hw

theorem keeps_printShown (hprint : ∀ lines, Keeps R (print lines))
    (shown : Except Console.Fault (List Text)) : Keeps R (printShown shown) := by
  cases shown with
  | ok lines => exact hprint lines
  | error fault => exact keeps_throw hR _

theorem keeps_printLines (hprint : ∀ lines, Keeps R (print lines)) (console : Console)
    (lines : List Text) : Keeps R (lines.forM (printMarkup console)) := by
  induction lines with
  | nil => exact keeps_pure hR ()
  | cons line lines ih => exact keeps_bind hR (keeps_printShown hR hprint _) fun _ => ih

theorem keeps_readSource (p : Path) : Keeps R (readSource p) := by
  refine keeps_bind hR (keeps_query hR _) fun bytes => ?_
  split
  · exact keeps_pure hR _
  · exact keeps_throw hR _

end WorkspaceM

namespace Build

variable (hR : Workspace.IsSteady R)
include hR

theorem keeps_newest (latest : Time) (paths : List Path) : Keeps R (newest latest paths) := by
  induction paths generalizing latest with
  | nil => exact keeps_pure hR latest
  | cons p paths ih => exact keeps_bind hR (keeps_query hR _) fun node => ih _

theorem keeps_isUpToDate (force : Bool) (source output : Path) (dependsOn : List Path) :
    Keeps R (isUpToDate force source output dependsOn) := by
  unfold isUpToDate
  split
  · exact keeps_pure hR false
  · refine keeps_bind hR (keeps_query hR _) fun isThere => ?_
    split
    · exact keeps_pure hR false
    · exact keeps_bind hR (keeps_query hR _) fun node =>
        keeps_bind hR (keeps_newest hR _ _) fun latest =>
          keeps_bind hR (keeps_query hR _) fun written => keeps_pure hR _

theorem keeps_locateModule (owner : Path) (packagesDir name : Text) :
    Keeps R (locateModule owner packagesDir name) := by
  refine keeps_bind hR (keeps_query hR _) fun found => ?_
  have hrest : ∀ isThere : Bool, Keeps R (if isThere then do
      if ← query fun files cwd => files.isFile cwd found then return found
      else throw (.moduleNotFound name found)
    else throw (.packageNotFound name) : WorkspaceM Path) := by
    intro isThere
    split
    · refine keeps_bind hR (keeps_query hR _) fun isFile => ?_
      split
      · exact keeps_pure hR _
      · exact keeps_throw hR _
    · exact keeps_throw hR _
  split
  · exact keeps_bind hR (keeps_query hR _) hrest
  · exact keeps_bind hR (keeps_pure hR _) hrest

/-! Loading and rendering log warnings, and no output. -/

variable (hlog : ∀ events, (∀ event ∈ events, event.isWritten = false) → Keeps R (log events))
include hlog

theorem keeps_load (p : Path) (o : SourceUnit.Options) : Keeps R (load p o) := by
  refine keeps_bind hR (keeps_readSource hR p) fun content =>
    keeps_bind hR (hlog _ fun event hevent => ?_) fun _ => keeps_ofExcept hR _
  obtain ⟨_, -, rfl⟩ := List.mem_map.1 hevent
  rfl

theorem keeps_loadModule (owner : SourceUnit) (name : Text) (p : Path) :
    Keeps R (loadModule owner name p) := by
  refine keeps_tryCatch hR (keeps_load hR hlog p _) fun failure => ?_
  split <;> exact keeps_throw hR _

theorem keeps_render (u : SourceUnit) : Keeps R (render u) := by
  refine keeps_bind hR (keeps_ofExcept hR _) fun rendered =>
    keeps_bind hR (hlog _ fun event hevent => ?_) fun _ => keeps_pure hR _
  obtain ⟨_, -, rfl⟩ := List.mem_map.1 hevent
  rfl

end Build

end Keeps
end SolInterface
