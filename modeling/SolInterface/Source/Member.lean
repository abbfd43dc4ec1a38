import SolInterface.Text.Scan
import SolInterface.Source.Declaration

/-!
Reading the members that end in a semicolon: events, errors and state variables.
-/
namespace SolInterface
open Text

/-- `keyword name(parameters);` as a word of its own: the name and the parameters. -/
def Notice.read? (keyword : Text) (inWord : Bool) (t : Text) : Option ((Text × Text) × Text) :=
  if inWord then none
  else do
    let (name, rest) ← word? (← blanks? (← after? keyword t))
    let (parameters, rest) ← parenthesised? (skipBlanks rest)
    let rest ← after? ";" (skipBlanks rest)
    some ((name, parameters), rest)

namespace Variable

/-- A word of `stem` and digits. -/
def sized? (stem t : Text) : Option (Text × Text) := do
  let rest ← after? stem t
  some (stem ++ rest.takeWhile isDigit, rest.dropWhile isDigit)

def plain? (name t : Text) : Option (Text × Text) := (after? name t).map fun rest => (name, rest)

/-- `mapping(…)` with something in the parentheses. -/
def mapping? (t : Text) : Option (Text × Text) := do
  let (inside, rest) ← parenthesised? (← after? "mapping" t)
  if inside.isEmpty then none else some (Text.cat ["mapping(", inside, ")"], rest)

/-- The types a variable is looked for under: primitive ones, and mappings. -/
def type? (t : Text) : Option (Text × Text) :=
  sized? "uint" t <|> sized? "int" t <|> plain? "string" t <|> plain? "address" t <|>
    plain? "bool" t <|> sized? "bytes" t <|> mapping? t

def visibilities : List (Text × Visibility) :=
  [("public", .pub), ("internal", .intern), ("private", .priv)]

def constancies : List (Text × Unit) := [("constant", ()), ("immutable", ())]

/-- The name, and the `=` or `;` after it. -/
def named? (t : Text) : Option (Text × Text) := do
  let (name, rest) ← word? t
  match skipBlanks rest with
  | c :: more => if c == '=' || c == ';' then some (name, more) else none
  | [] => none

/-- The constancy word, which may be missing, and the name. A word after which there is no name is
itself the name. -/
def constantNamed? (t : Text) : Option ((Bool × Text) × Text) :=
  let plain := (named? t).map fun found => ((false, found.1), found.2)
  match oneOf? constancies t with
  | some (_, rest) =>
    ((named? (skipBlanks rest)).map fun found => ((true, found.1), found.2)) <|> plain
  | none => plain

/-- The parts of a variable's declaration. -/
structure Parts where
  type : Text
  visibility : Option Visibility
  isConstant : Bool
  name : Text
  deriving DecidableEq, Repr

/-- `type visibility constancy name` up to `=` or `;`, starting at a word of its own. -/
def Parts.read? (inWord : Bool) (t : Text) : Option (Parts × Text) :=
  if inWord then none
  else do
    let (type, rest) ← type? t
    let rest ← blanks? rest
    let plain := (constantNamed? rest).map fun found =>
      (⟨type, none, found.1.1, found.1.2⟩, found.2)
    match oneOf? visibilities rest with
    | some (v, more) =>
      ((constantNamed? (skipBlanks more)).map fun found =>
        (⟨type, some v, found.1.1, found.1.2⟩, found.2)) <|> plain
    | none => plain

/-- The line is not part of a signature: it has no parenthesis but those of the mapping itself, and
does not speak of a function. -/
def standsAlone (type line : Text) : Bool :=
  let line := if startsWith "mapping" type then eraseFirst type line else line
  !(occursIn "function" line || occursIn "(" line)

end Variable
end SolInterface
