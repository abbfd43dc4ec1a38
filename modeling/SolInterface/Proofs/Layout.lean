import Mathlib.Data.List.Nodup
import Mathlib.Data.List.Pairwise
import SolInterface.Proofs.Outputs

/-!
Layouts: where the interfaces of a source and of its modules go, and what each is made from. What a
tree holds at the outputs is tracked by the times of change: an output that is newer than all it is
made from holds what its sources ask for. Writing what is asked for keeps this, whatever else fails.
-/
namespace SolInterface
open FileTree (place OnWay EndsInName Grows)

/-- A source with module directives, and where its own interface and those of its modules go. -/
structure Layout where
  owner : Path
  output : Path
  /-- The source and the output of each module. -/
  modules : List (Path × Path)

namespace Layout

/-- An output, with the source of its module if it is that of a module. -/
abbrev Goal := Option Path × Path

def goals (l : Layout) : List Goal := (none, l.output) :: l.modules.map fun e => (some e.1, e.2)

def inputs (l : Layout) (g : Goal) : List Path := g.1.toList ++ [l.owner]

/-- The outputs have places of their own, off the way of every output, and no source is among
them. -/
structure IsSound (l : Layout) (cwd : Path) : Prop where
  distinct : (l.goals.map fun g => place cwd g.2).Nodup
  clear : ∀ g ∈ l.goals, ∀ h ∈ l.goals, ¬ OnWay cwd h.2 (place cwd g.2)
  apart : ∀ g ∈ l.goals, ∀ h ∈ l.goals, ∀ p ∈ l.inputs h, place cwd g.2 ≠ place cwd p

/-- The unit declares outputs of the layout, each module with its source, and none twice. -/
structure Declares (l : Layout) (cwd : Path) (u : SourceUnit) : Prop where
  output : ∀ q, u.outputPath cwd = .ok q → q = l.output
  modules : ∀ task ∈ u.recipe.modules, ∀ s q,
    Build.modulePath cwd u.path u.config.packagesDir task.source = .ok s →
      Path.outputFor cwd u.path task.output = .ok q → (s, q) ∈ l.modules
  once : u.recipe.modules.Pairwise fun a b => ∀ q,
    Path.outputFor cwd u.path a.output = .ok q → Path.outputFor cwd u.path b.output ≠ .ok q

/-- What the owner holds, if it makes a unit, declares outputs of the layout. -/
def Fits (l : Layout) (o : SourceUnit.Options) (cwd : Path) (bytes : List UInt8) : Prop :=
  ∀ u, SourceUnit.ofBytes? l.owner bytes o = some u → l.Declares cwd u

/-- The sources, as they stand in the tree, ask for this content at the output. -/
def Wants (l : Layout) (o : SourceUnit.Options) (cwd : Path) (t : FileTree) (g : Goal)
    (content : List UInt8) : Prop :=
  ∃ bytes mtime u, t.get? (place cwd l.owner) = some (.file bytes mtime) ∧
    SourceUnit.ofBytes? l.owner bytes o = some u ∧
    match g.1 with
    | none => u.outputPath cwd = .ok g.2 ∧ u.written? = some content
    | some s => ∃ task ∈ u.recipe.modules,
        Build.modulePath cwd u.path u.config.packagesDir task.source = .ok s ∧
        Path.outputFor cwd u.path task.output = .ok g.2 ∧
        ∃ bytes mtime v, t.get? (place cwd s) = some (.file bytes mtime) ∧
          SourceUnit.ofBytes? s bytes (Build.moduleOptions u) = some v ∧
          (v.forTask task).written? = some content

/-- Every output holds nothing, or a file from before `now`; if that is newer than all it is made
from, then it is what the sources ask for. -/
structure Tracks (l : Layout) (o : SourceUnit.Options) (cwd : Path) (t : FileTree) (now : Time) :
    Prop where
  fits : ∀ bytes mtime, t.get? (place cwd l.owner) = some (.file bytes mtime) → l.Fits o cwd bytes
  held : ∀ g ∈ l.goals, t.get? (place cwd g.2) = none ∨
    ∃ content mtime, t.get? (place cwd g.2) = some (.file content mtime) ∧ mtime ≤ now ∧
      EndsInName g.2 ∧
      ((∀ p ∈ l.inputs g, ∃ node, t.get? (place cwd p) = some node ∧ node.mtime < mtime) →
        l.Wants o cwd t g content)

def Way (l : Layout) (cwd : Path) (loc : Location) : Prop := ∃ g ∈ l.goals, OnWay cwd g.2 loc

def Writes (l : Layout) (o : SourceUnit.Options) (cwd : Path) (t : FileTree) (loc : Location)
    (content : List UInt8) : Prop :=
  ∃ g ∈ l.goals, loc = place cwd g.2 ∧ EndsInName g.2 ∧ l.Wants o cwd t g content

variable {l : Layout} {o : SourceUnit.Options} {cwd : Path} {t t' t'' : FileTree} {now : Time}
  {g : Goal} {content : List UInt8}

theorem owner_mem_inputs (l : Layout) (g : Goal) : l.owner ∈ l.inputs g := by
  simp [inputs]

theorem mem_goals_of_modules {s q : Path} (h : (s, q) ∈ l.modules) : (some s, q) ∈ l.goals :=
  List.mem_cons_of_mem _ (List.mem_map_of_mem h (f := fun e : Path × Path => (some e.1, e.2)))

theorem IsSound.goal_eq (hl : l.IsSound cwd) {h : Goal} (hg : g ∈ l.goals) (hh : h ∈ l.goals)
    (hplace : place cwd g.2 = place cwd h.2) : g = h :=
  List.inj_on_of_nodup_map hl.distinct hg hh hplace

theorem IsSound.not_writes (hl : l.IsSound cwd) (hg : g ∈ l.goals) {p : Path}
    (hp : p ∈ l.inputs g) (content : List UInt8) : ¬ l.Writes o cwd t (place cwd p) content := by
  rintro ⟨h, hh, hplace, -⟩
  exact hl.apart h hh g hg p hp hplace.symm

/-- Only the files of its sources matter to what is asked for at an output. -/
theorem Wants.of_files (h : l.Wants o cwd t g content)
    (hfiles : ∀ p ∈ l.inputs g, ∀ bytes mtime, t.get? (place cwd p) = some (.file bytes mtime) →
      t'.get? (place cwd p) = some (.file bytes mtime)) : l.Wants o cwd t' g content := by
  obtain ⟨bytes, mtime, u, howner, hunit, hgoal⟩ := h
  refine ⟨bytes, mtime, u, hfiles _ (l.owner_mem_inputs g) _ _ howner, hunit, ?_⟩
  obtain ⟨source?, q⟩ := g
  cases source? with
  | none => exact hgoal
  | some s =>
    obtain ⟨task, htask, hsource, houtput, bytes', mtime', v, hfile, hv, hrendered⟩ := hgoal
    have hs : s ∈ l.inputs (some s, q) := List.mem_cons_self
    exact ⟨task, htask, hsource, houtput, bytes', mtime', v, hfiles s hs _ _ hfile, hv, hrendered⟩

/-- A unit that declares an output once has one task for it. -/
theorem Declares.task_eq {u : SourceUnit} (h : l.Declares cwd u) {a b : ModuleTask}
    (ha : a ∈ u.recipe.modules) (hb : b ∈ u.recipe.modules) {q : Path}
    (hqa : Path.outputFor cwd u.path a.output = .ok q)
    (hqb : Path.outputFor cwd u.path b.output = .ok q) : a = b := by
  by_contra hne
  have hsymm : Std.Symm fun a b : ModuleTask => ∀ q,
      Path.outputFor cwd u.path a.output = .ok q → Path.outputFor cwd u.path b.output ≠ .ok q :=
    ⟨fun a b hab q hb ha => hab q ha hb⟩
  exact h.once.forall ha hb hne q hqa hqb

/-- At most one content is asked for at an output. -/
theorem Tracks.wants_unique (ht : l.Tracks o cwd t now) {content' : List UInt8}
    (h : l.Wants o cwd t g content) (h' : l.Wants o cwd t g content') : content = content' := by
  obtain ⟨bytes, mtime, u, howner, hunit, hgoal⟩ := h
  obtain ⟨bytes', mtime', u', howner', hunit', hgoal'⟩ := h'
  rw [howner] at howner'
  cases howner'
  rw [hunit] at hunit'
  cases hunit'
  obtain ⟨source?, q⟩ := g
  cases source? with
  | none => exact Option.some.inj (hgoal.2.symm.trans hgoal'.2)
  | some s =>
    obtain ⟨task, htask, -, houtput, bytes, _, v, hfile, hv, hrendered⟩ := hgoal
    obtain ⟨task', htask', -, houtput', bytes', _, v', hfile', hv', hrendered'⟩ := hgoal'
    obtain rfl := (ht.fits _ _ howner u hunit).task_eq htask htask' houtput houtput'
    rw [hfile] at hfile'
    cases hfile'
    rw [hv] at hv'
    cases hv'
    exact Option.some.inj (hrendered.symm.trans hrendered')

/-! Growth by what is asked for. -/

/-- The sources are the same after the outputs have been written. -/
theorem IsSound.input_file_iff (hl : l.IsSound cwd)
    (h : Grows now (l.Way cwd) (l.Writes o cwd t) t' t'') (hg : g ∈ l.goals) {p : Path}
    (hp : p ∈ l.inputs g) {bytes : List UInt8} {mtime : Time} :
    t''.get? (place cwd p) = some (.file bytes mtime) ↔
      t'.get? (place cwd p) = some (.file bytes mtime) :=
  h.file_iff (hl.not_writes hg hp)

theorem IsSound.wants_iff (hl : l.IsSound cwd)
    (h : Grows now (l.Way cwd) (l.Writes o cwd t) t' t'') (hg : g ∈ l.goals) :
    l.Wants o cwd t'' g content ↔ l.Wants o cwd t' g content :=
  ⟨fun hw => hw.of_files fun _ hp _ _ => (hl.input_file_iff h hg hp).1,
    fun hw => hw.of_files fun _ hp _ _ => (hl.input_file_iff h hg hp).2⟩

theorem IsSound.grows_trans (hl : l.IsSound cwd)
    (h : Grows now (l.Way cwd) (l.Writes o cwd t) t t')
    (h' : Grows now (l.Way cwd) (l.Writes o cwd t') t' t'') :
    Grows now (l.Way cwd) (l.Writes o cwd t) t t'' := by
  refine h.trans (h'.mono (fun _ h => h) ?_)
  rintro loc content ⟨g, hg, hloc, hname, hwants⟩
  exact ⟨g, hg, hloc, hname, (hl.wants_iff h hg).1 hwants⟩

/-- Writing what is asked for keeps track of the outputs. -/
theorem Tracks.grows (ht : l.Tracks o cwd t now) (hl : l.IsSound cwd)
    (h : Grows now (l.Way cwd) (l.Writes o cwd t) t t') : l.Tracks o cwd t' now := by
  have hmain : (none, l.output) ∈ l.goals := List.mem_cons_self
  refine ⟨fun bytes mtime howner => ht.fits bytes mtime
    ((hl.input_file_iff h hmain (l.owner_mem_inputs _)).1 howner), fun g hg => ?_⟩
  rcases h (place cwd g.2) with hsame | ⟨⟨q, hq, hway⟩, -⟩ | ⟨content, hwrites, -, hnew⟩
  · rcases ht.held g hg with hnone | ⟨content, mtime, hfile, hle, hname, hnewer⟩
    · exact Or.inl (hsame.trans hnone)
    · refine Or.inr ⟨content, mtime, hsame.trans hfile, hle, hname, fun hinputs => ?_⟩
      refine (hl.wants_iff h hg).2 (hnewer fun p hp => ?_)
      obtain ⟨node, hnode, hlt⟩ := hinputs p hp
      rcases h (place cwd p) with hsame' | ⟨-, -, hdir⟩ | ⟨_, hwrites, -⟩
      · exact ⟨node, hsame'.symm.trans hnode, hlt⟩
      · -- A directory that was made just now is not older than the output.
        rw [hdir] at hnode
        cases hnode
        exact absurd (Int.lt_of_lt_of_le hlt hle) (Int.lt_irrefl _)
      · exact absurd hwrites (hl.not_writes hg hp _)
  · exact absurd hway (hl.clear g hg q hq)
  · obtain ⟨g', hg', hplace, hname, hwants⟩ := hwrites
    obtain rfl := hl.goal_eq hg hg' hplace
    exact Or.inr ⟨content, now, hnew, Int.le_refl _, hname, fun _ => (hl.wants_iff h hg).2 hwants⟩

/-- An output that holds what is asked for goes on holding it. -/
theorem Tracks.read_of_grows (ht : l.Tracks o cwd t now) (hl : l.IsSound cwd)
    (h : Grows now (l.Way cwd) (l.Writes o cwd t) t t') (hg : g ∈ l.goals)
    (hwants : l.Wants o cwd t g content) (hread : t.read cwd g.2 = .ok content) :
    t'.read cwd g.2 = .ok content := by
  refine h.read_of_forall ?_ hread
  rintro content' ⟨g', hg', hplace, -, hwants'⟩
  obtain rfl := hl.goal_eq hg hg' hplace
  exact ht.wants_unique hwants' hwants

/-- An output that is newer than all it is made from holds what is asked for. -/
theorem Tracks.wants_of_newer (ht : l.Tracks o cwd t now) (hg : g ∈ l.goals) {node : FileTree.Node}
    (hstat : t.stat cwd g.2 = .ok node) (holder : Build.OlderThan t cwd node.mtime (l.inputs g)) :
    ∃ content, l.Wants o cwd t g content ∧ t.read cwd g.2 = .ok content := by
  have hget := (FileTree.stat_eq_ok.1 hstat).2
  rcases ht.held g hg with hnone | ⟨content, mtime, hfile, -, -, hnewer⟩
  · rw [hnone] at hget
    cases hget
  · rw [hfile] at hget
    cases hget
    refine ⟨content, hnewer fun p hp => ?_, FileTree.read_eq_ok.2 ⟨mtime, hstat⟩⟩
    obtain ⟨node, hnode, hlt⟩ := holder p hp
    exact ⟨node, (FileTree.stat_eq_ok.1 hnode).2, hlt⟩

theorem Tracks.endsInName (ht : l.Tracks o cwd t now) (hg : g ∈ l.goals)
    (hread : t.read cwd g.2 = .ok content) : EndsInName g.2 := by
  obtain ⟨mtime, hfile⟩ := FileTree.get?_of_read hread
  rcases ht.held g hg with hnone | ⟨_, _, -, -, hname, -⟩
  · rw [hfile] at hnone
    cases hnone
  · exact hname

end Layout
end SolInterface
