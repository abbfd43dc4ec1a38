import SolInterface.Text.Basic

/-!
Renamings: new names under old ones, in the order in which the old names were first given. A second
entry for an old name changes its new name and keeps its place.
-/
namespace SolInterface

/-- New names under old ones, each old name once. -/
structure Renaming where
  pairs : List (Text × Text)
  nodup : (pairs.map (·.1)).Nodup
  deriving DecidableEq, Repr

namespace Renaming

/-- The pairs after an entry. -/
def enter (old new : Text) : List (Text × Text) → List (Text × Text)
  | [] => [(old, new)]
  | p :: ps => if p.1 = old then (old, new) :: ps else p :: enter old new ps

theorem mem_keys_enter {old new x : Text} {ps : List (Text × Text)} :
    x ∈ (enter old new ps).map (·.1) ↔ x = old ∨ x ∈ ps.map (·.1) := by
  induction ps with
  | nil => simp [enter]
  | cons p ps ih =>
    simp only [enter]
    split
    · next h => simp [h]
    · simp only [List.map_cons, List.mem_cons, ih, or_left_comm]

theorem nodup_enter {old new : Text} {ps : List (Text × Text)} (h : (ps.map (·.1)).Nodup) :
    ((enter old new ps).map (·.1)).Nodup := by
  induction ps with
  | nil => simp [enter]
  | cons p ps ih =>
    obtain ⟨hp, hps⟩ := List.nodup_cons.1 h
    simp only [enter]
    split
    · next he => exact he ▸ h
    · next hne =>
      refine List.nodup_cons.2 ⟨fun hmem => ?_, ih hps⟩
      rcases mem_keys_enter.1 hmem with rfl | hmem
      · exact hne rfl
      · exact hp hmem

def empty : Renaming := ⟨[], List.nodup_nil⟩

def put (r : Renaming) (old new : Text) : Renaming := ⟨enter old new r.pairs, nodup_enter r.nodup⟩

def putAll (r : Renaming) (entries : List (Text × Text)) : Renaming :=
  entries.foldl (fun r e => r.put e.1 e.2) r

def ofList (entries : List (Text × Text)) : Renaming := empty.putAll entries

/-- The new name of `x`, which is `x` itself if none is given. -/
def rename (r : Renaming) (x : Text) : Text := (r.pairs.lookup x).getD x

instance : EmptyCollection Renaming := ⟨empty⟩

end Renaming
end SolInterface
