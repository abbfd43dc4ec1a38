import SolInterface.Text.Blank

/-!
Declarations: the records kept of a contract and its members, with their documentation and the
number of the line on which they stand.
-/
namespace SolInterface

inductive Visibility where
  | ext | pub | intern | priv
  deriving DecidableEq, Repr

namespace Visibility

def keyword : Visibility → Text
  | ext => "external"
  | pub => "public"
  | intern => "internal"
  | priv => "private"

/-- Callable from outside the contract. -/
def isExposed : Visibility → Bool
  | ext | pub => true
  | intern | priv => false

end Visibility

/-- What a function may do to the state and with the value sent to it. -/
inductive Mutability where
  /-- Nothing is said. -/
  | nonpayable
  | view | pure | payable
  /-- Any other word, which is written as it stands. -/
  | other (word : Text)
  deriving DecidableEq, Repr

def Mutability.keyword : Mutability → Text
  | .nonpayable => "nonpayable"
  | .view => "view"
  | .pure => "pure"
  | .payable => "payable"
  | .other word => word

/-- The head of a contract. Its line is 0 if no line names it. -/
structure Contract where
  name : Text
  /-- The text between `is` and the opening brace. -/
  inheritance : Text := []
  doc : Text := []
  line : Nat := 0
  deriving DecidableEq, Repr

/-- The bases of a contract, in the order written. -/
def Contract.bases (c : Contract) : List Text :=
  if (Text.trim c.inheritance).isEmpty then [] else Text.commaParts c.inheritance

structure Function where
  name : Text
  visibility : Visibility := .pub
  mutability : Mutability := .nonpayable
  parameters : Text := []
  returns : Text := []
  signature : Text := []
  doc : Text := []
  line : Nat := 0
  deriving DecidableEq, Repr

def Function.isExposed (f : Function) : Bool := f.visibility.isExposed

/-- An event or a custom error. -/
structure Notice where
  name : Text
  parameters : Text := []
  signature : Text := []
  doc : Text := []
  line : Nat := 0
  deriving DecidableEq, Repr

structure Variable where
  name : Text
  type : Text
  visibility : Visibility := .intern
  /-- Declared `constant` or `immutable`. -/
  isConstant : Bool := false
  signature : Text := []
  doc : Text := []
  line : Nat := 0
  deriving DecidableEq, Repr

def Variable.isMapping (v : Variable) : Bool := Text.startsWith "mapping" v.type

/-- What was found in one source text. -/
structure Source where
  contract : Contract
  functions : List Function := []
  events : List Notice := []
  errors : List Notice := []
  stateVariables : List Variable := []
  /-- Lines that look like the start of a function and could not be read as one. -/
  skipped : List Nat := []
  deriving DecidableEq, Repr

end SolInterface
