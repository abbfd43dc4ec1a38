import SolInterface.Text.Scan
import SolInterface.Source.Declaration

/-!
Reading the head of a contract and the head of a function.
-/
namespace SolInterface
open Text

namespace Contract

/-- The text between `is` and the brace: a blank, something more, and no brace. -/
def baseList? (t : Text) : Option Text := do
  let rest ← after? "is" t
  match rest.takeWhile (· != '{'), rest.dropWhile (· != '{') with
  | c :: d :: more, _ :: _ => if isBlank c then some (trim (c :: d :: more)) else none
  | _, _ => none

/-- `contract Name {` or `contract Name is Bases {` at the start of the text: the name and the base
list. -/
def head? (t : Text) : Option (Text × Text) := do
  let (name, rest) ← word? (← blanks? (← after? "contract" t))
  match skipBlanks rest with
  | '{' :: _ => some (name, [])
  | other =>
    if (blanks? rest).isSome then (baseList? other).map fun bases => (name, bases) else none

/-- The number of the first line that holds the words `contract name`, or 0. -/
def lineOf (name : Text) (lines : List Text) : Nat :=
  match lines.findIdx? fun line => occursIn ("contract " ++ name) line with
  | some i => i + 1
  | none => 0

end Contract

namespace Function

/-- The parts of a function's head. -/
structure Head where
  name : Text
  parameters : Text
  visibility : Option Visibility
  mutability : Option Mutability
  returns : Text
  deriving DecidableEq, Repr

def visibilities : List (Text × Visibility) :=
  [("external", .ext), ("public", .pub), ("internal", .intern), ("private", .priv)]

def mutabilities : List (Text × Mutability) :=
  [("view", .view), ("pure", .pure), ("payable", .payable)]

/-- May stand between the specifiers of a head and its end: modifiers with their arguments. -/
def isFiller (c : Char) : Bool := isWord c || isBlank c || c == ',' || c == '(' || c == ')'

/-- `returns (…)` and the opening brace: the text in the parentheses. -/
def returnsBrace? (t : Text) : Option Text := do
  let (types, rest) ← parenthesised? (skipBlanks (← after? "returns" t))
  if startsWith ['{'] (skipBlanks rest) then some types else none

/-- The end of a head after any fillers: the return types, which may be missing, and the brace. -/
def ending? : Text → Option Text
  | [] => none
  | c :: r =>
    match returnsBrace? (c :: r) with
    | some types => some types
    | none =>
      if startsWith ['{'] (skipBlanks (c :: r)) then some []
      else if isFiller c then ending? r
      else none

/-- The mutability word, which may be missing, and the end. A word after which there is no end is
taken for a filler. -/
def specified? (t : Text) : Option (Option Mutability × Text) :=
  let plain := (ending? t).map fun types => (none, types)
  match oneOf? mutabilities t with
  | some (m, rest) => ((ending? (skipBlanks rest)).map fun types => (some m, types)) <|> plain
  | none => plain

/-- A head at the start of the text. -/
def Head.read? (t : Text) : Option Head := do
  let (name, rest) ← word? (← blanks? (← after? "function" t))
  let (parameters, rest) ← parenthesised? (skipBlanks rest)
  let rest := skipBlanks rest
  let (visibility, rest) := match oneOf? visibilities rest with
    | some (v, more) => (some v, skipBlanks more)
    | none => (none, rest)
  let (mutability, types) ← specified? rest
  some ⟨name, trim parameters, visibility, mutability, trim types⟩

/-- The lines of a declaration, trimmed and each after a space, up to the line on which more braces
are open than closed. Braces after the first opening one of a line do not count. -/
def declarationText (depth : Int) (opened : Bool) : List Text → Text
  | [] => []
  | raw :: more =>
    let line := trim raw
    let before := line.takeWhile (· != '{')
    let opens := before.length < line.length
    let depth := depth - before.count '}' + if opens then 1 else 0
    let opened := opened || opens
    ' ' :: line ++ if opened && depth > 0 then [] else declarationText depth opened more

end Function
end SolInterface
