import SolInterface.Value.Shortest
import SolInterface.Yaml.Timestamp

/-!
Values of a data format. A mapping keeps its entries in order, and no two of them have the same key;
numbers that are equal are one key, also where one of them is a truth value.
-/
namespace SolInterface

/-- A value that is no collection. -/
inductive Atom where
  | null
  | bool (b : Bool)
  | int (n : Int)
  | float (x : Float)
  | text (t : Text)
  | bytes (bs : List UInt8)
  | moment (s : Yaml.Timestamp)

inductive Value where
  | atom (a : Atom)
  | pair (first second : Value)
  | seq (items : List Value)
  | set (items : List Atom)
  | map (entries : List (Atom × Value))
  /-- A collection around this place, which stands here again. -/
  | enclosing (isMap : Bool)

instance : Inhabited Value := ⟨.atom .null⟩

namespace Atom

def isFalsy : Atom → Bool
  | null => true
  | bool b => !b
  | int n => n == 0
  | float x => x == 0
  | text t => t.isEmpty
  | bytes bs => bs.isEmpty
  | moment _ => false

/-- The integer that an atom counts as. -/
def whole? : Atom → Option Int
  | bool b => some (if b then 1 else 0)
  | int n => some n
  | _ => none

/-- Both are the same key. -/
def same (a b : Atom) : Bool :=
  match a.whole?, b.whole? with
  | some m, some n => m == n
  | some m, none => match b with
    | float x => Value.isWhole x m
    | _ => false
  | none, some n => match a with
    | float x => Value.isWhole x n
    | _ => false
  | none, none => match a, b with
    | null, null => true
    | float x, float y => x == y || (x.isNaN && y.isNaN)
    | text s, text t => s == t
    | bytes s, bytes t => s == t
    | moment s, moment t => s.names t
    | _, _ => false

end Atom
end SolInterface
