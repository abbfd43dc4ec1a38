import SolInterface.Source.Doc
import SolInterface.Source.Header
import SolInterface.Source.Member

/-!
Finding the declarations of a source text. The contract's head, the events, the errors and the
variables are looked for in the text as a whole, the functions from each line that starts one.
-/
namespace SolInterface.Source
open Text

/-- The first contract head, with the documentation above the line that names the contract. -/
def contract? (content : Text) (markers : List Text) : Option Contract := do
  let (name, inheritance) ← firstMatch Contract.head? content
  let sourceLines := lines content
  let line := Contract.lineOf name sourceLines
  let doc := if line = 0 then [] else Doc.above sourceLines markers line
  some { name, inheritance, doc, line }

/-- A line on which a function starts. -/
def startsFunction (line : Text) : Bool := startsWith "function " (trim line)

/-- The function whose declaration starts on the first of the lines, which has the given number. -/
def function? (doc : Text) (n : Nat) (rest : List Text) : Option Function := do
  let signature := Function.declarationText 0 false rest
  let head ← firstMatch Function.Head.read? signature
  some {
    name := head.name
    visibility := head.visibility.getD .pub
    mutability := head.mutability.getD .nonpayable
    parameters := head.parameters
    returns := head.returns
    signature, doc, line := n }

/-- The functions that start on consecutive lines, or the numbers of the lines where none could be
read; `docAt` gives the documentation of a line. -/
def functionsFrom (docAt : Nat → Text) : Nat → List Text → List (Except Nat Function)
  | _, [] => []
  | n, line :: more =>
    let later := functionsFrom docAt (n + 1) more
    if startsFunction line then
      (match function? (docAt n) n (line :: more) with
        | some f => .ok f
        | none => .error n) :: later
    else later

/-- The events, or the errors, of a text. -/
def notices (keyword content : Text) (docAt : Nat → Text) : List Notice :=
  (occurrences (Notice.read? keyword) content).map fun found =>
    { name := found.value.1
      parameters := found.value.2
      signature := found.text
      doc := docAt found.line
      line := found.line }

/-- The state variables of a text. -/
def variablesOf (content : Text) (docAt : Nat → Text) : List Variable :=
  let sourceLines := lines content
  ((occurrences Variable.Parts.read? content).filter fun found =>
    Variable.standsAlone found.value.type (sourceLines.getD (found.line - 1) [])).map fun found =>
    { name := found.value.name
      type := found.value.type
      visibility := found.value.visibility.getD .intern
      isConstant := found.value.isConstant
      signature := found.text
      doc := docAt found.line
      line := found.line }

/-- The declarations of a source text; `none` if it has no contract head. Lines that start with one
of the markers are no documentation. -/
def extract? (content : Text) (markers : List Text) : Option Source := do
  let contract ← contract? content markers
  let sourceLines := lines content
  let docAt := Doc.above sourceLines markers
  let functions := functionsFrom docAt 1 sourceLines
  some {
    contract
    functions := functions.filterMap Except.toOption
    events := notices "event" content docAt
    errors := notices "error" content docAt
    stateVariables := variablesOf content docAt
    skipped := functions.filterMap fun
      | .error n => some n
      | .ok _ => none }

end SolInterface.Source
