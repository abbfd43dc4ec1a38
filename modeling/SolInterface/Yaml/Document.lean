import SolInterface.Yaml.Object

/-!
What a document says: the objects of its nodes, and the values read off them.
-/
namespace SolInterface.Yaml

/-- The objects of a document, and the place of the one that holds the others. -/
structure Data where
  objects : Array (Option Object)
  root : NodeId

namespace Data

/-- A document without content says nothing. -/
def nothing : Data := ⟨#[some (.atom .null)], 0⟩

def objectAt (d : Data) (place : NodeId) : Object := (d.objects.getD place none).getD (.atom .null)

/-- The value at a place. `path` are the places of the collections around it: where one of them
stands again, it is not entered. -/
def valueFrom (d : Data) : Nat → List NodeId → NodeId → Value
  | 0, _, _ => .atom .null
  | fuel + 1, path, place =>
    let member := d.valueFrom fuel (place :: path)
    match d.objectAt place with
    | .atom a => .atom a
    | .seq items =>
      if path.contains place then .enclosing false else .seq (items.map member)
    | .pairs items =>
      if path.contains place then .enclosing false
      else .seq (items.map fun e => .pair (member e.1) (member e.2))
    | .set items => .set (items.map (·.1))
    | .map entries =>
      if path.contains place then .enclosing true
      else .map (entries.map fun e => (e.1, member e.2))

def valueAt (d : Data) (place : NodeId) : Value := d.valueFrom (d.objects.size + 1) [] place

/-- The entries of the whole, if it is a mapping. -/
def entries? (d : Data) : Option (List (Atom × NodeId)) :=
  match d.objectAt d.root with
  | .map entries => some entries
  | _ => none

/-- The whole is empty, zero, false or missing. -/
def isFalsy (d : Data) : Bool :=
  match d.objectAt d.root with
  | .atom a => a.isFalsy
  | .seq items => items.isEmpty
  | .pairs items => items.isEmpty
  | .set items => items.isEmpty
  | .map entries => entries.isEmpty

end Data

/-- What a text says as a document. -/
def parse (text : Text) : Except Error Data := do
  match ← Node.ofTokens (tokens text) with
  | none => return .nothing
  | some d => return ⟨← Object.ofDocument d, d.root⟩

end SolInterface.Yaml
