import SolInterface.Text.Scan
import SolInterface.Source.Declaration

/-!
Getters: the functions by which an interface shows state variables. A mapping has a getter that
takes a key.
-/
namespace SolInterface.Variable
open Text

/-- The shortest non-empty text within the line that a closing parenthesis follows. -/
def upToParen? : Text → Option Text
  | [] => none
  | c :: r =>
    let inside := fun d => d != ')' && d != '\n'
    if c = '\n' then none
    else match r.dropWhile inside with
      | ')' :: _ => some (c :: r.takeWhile inside)
      | _ => none

/-- The value type after the arrow, up to a closing parenthesis. Where only blanks stand before the
parenthesis, the last one is the type, unless it is a line feed. -/
def valueType? (t : Text) : Option Text :=
  match upToParen? (skipBlanks t) with
  | some value => some value
  | none =>
    match skipBlanks t, (t.takeWhile isBlank).getLast? with
    | ')' :: _, some c => if c = '\n' then none else some [c]
    | _, _ => none

/-- The key type, which is the shortest text within the line that blanks, an arrow and a value type
follow, and the value type. The first argument is what was read of the key, last character first. -/
def keyAndValue? (read : Text) : Text → Option (Text × Text)
  | [] => none
  | c :: r =>
    if c = '\n' then none
    else match (after? "=>" (skipBlanks r)).bind valueType? with
      | some value => some ((c :: read).reverse, value)
      | none => keyAndValue? (c :: read) r

/-- The key and value types of a mapping type. -/
def mappingTypes? (type : Text) : Option (Text × Text) := do
  keyAndValue? [] (← after? "mapping(" type)

/-- The getter's declaration; `none` for a mapping whose types cannot be read. -/
def getter? (v : Variable) : Option Text :=
  let mutability : Text := if v.isConstant then "pure" else "view"
  if v.isMapping then
    (mappingTypes? v.type).map fun (key, value) =>
      Text.cat ["    function ", v.name, "(", key, " key) external ", mutability,
        " returns (", value, ");"]
  else
    some (Text.cat ["    function ", v.name, "() external ", mutability,
      " returns (", v.type, ");"])

end SolInterface.Variable
