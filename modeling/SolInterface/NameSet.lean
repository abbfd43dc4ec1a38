import SolInterface.Text.Order

/-!
Sets of names, as strictly increasing lists: two sets with the same members are equal.
-/
namespace SolInterface

/-- A finite set of names, listed in increasing order. -/
structure NameSet where
  toList : List Text
  increasing : toList.Pairwise (Text.before · ·)
  deriving DecidableEq, Repr

namespace NameSet

/-- A name put into its place in an increasing list. -/
def place (x : Text) : List Text → List Text
  | [] => [x]
  | y :: ys => if Text.before x y then x :: y :: ys else if x = y then y :: ys else y :: place x ys

theorem mem_place {x z : Text} {ys : List Text} : z ∈ place x ys ↔ z = x ∨ z ∈ ys := by
  induction ys with
  | nil => simp [place]
  | cons y ys ih =>
    simp only [place]
    split
    · simp
    · split
      · next h => subst h; simp
      · simp [ih, or_left_comm]

theorem pairwise_place {x : Text} {ys : List Text} (h : ys.Pairwise (Text.before · ·)) :
    (place x ys).Pairwise (Text.before · ·) := by
  induction ys with
  | nil => simp [place]
  | cons y ys ih =>
    obtain ⟨hy, hys⟩ := List.pairwise_cons.1 h
    simp only [place]
    split
    · next hxy =>
      refine List.pairwise_cons.2 ⟨fun z hz => ?_, h⟩
      rcases List.mem_cons.1 hz with rfl | hz
      · exact hxy
      · exact Text.before_trans hxy (hy z hz)
    · split
      · exact h
      · next hxy hne =>
        refine List.pairwise_cons.2 ⟨fun z hz => ?_, ih hys⟩
        rcases mem_place.1 hz with rfl | hz
        · exact Text.before_total hne (Bool.eq_false_iff.2 hxy)
        · exact hy z hz

def empty : NameSet := ⟨[], List.Pairwise.nil⟩

def insert (s : NameSet) (x : Text) : NameSet := ⟨place x s.toList, pairwise_place s.increasing⟩

def insertAll (s : NameSet) (names : List Text) : NameSet := names.foldl insert s

def ofList (names : List Text) : NameSet := empty.insertAll names

instance : Membership Text NameSet := ⟨fun s x => x ∈ s.toList⟩

instance (x : Text) (s : NameSet) : Decidable (x ∈ s) := inferInstanceAs (Decidable (x ∈ s.toList))

instance : EmptyCollection NameSet := ⟨empty⟩

end NameSet
end SolInterface
