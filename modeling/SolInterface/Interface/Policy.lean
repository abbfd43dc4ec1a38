import SolInterface.Recipe
import SolInterface.Source.Declaration

/-!
Which members and which bases a recipe lets into the interface.
-/
namespace SolInterface.Recipe

/-- A function that is asked for, or else one that is callable from outside and not excluded. -/
def keepsFunction (r : Recipe) (f : Function) : Bool :=
  f.name ∈ r.expose || (f.name ∉ r.exclude && f.isExposed)

/-- An event or error that is not excluded. -/
def keepsNotice (r : Recipe) (n : Notice) : Bool := n.name ∉ r.exclude

/-- A variable whose getter is asked for, or else a public one that is not excluded. -/
def wantsGetter (r : Recipe) (v : Variable) : Bool :=
  v.name ∈ r.getters || (v.visibility == .pub && v.name ∉ r.exclude)

/-- The bases of the interface: those of the contract that are not removed, under their new names,
and then those that are added. -/
def bases (r : Recipe) (declared : List Text) : List Text :=
  (declared.filter fun base => base ∉ r.remove).map r.replace.rename ++ r.inherit

/-- The bases as they are written after the interface's name. -/
def basesClause (r : Recipe) (declared : List Text) : Text :=
  match r.bases declared with
  | [] => []
  | bases => " is " ++ Text.joinWith ", " bases

end SolInterface.Recipe
