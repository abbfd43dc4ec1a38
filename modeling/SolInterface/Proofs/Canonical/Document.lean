import Mathlib
import SolInterface.Proofs.DirectiveRoundtrip
import SolInterface.Proofs.Occurrences
import SolInterface.Proofs.SpecifierOrder

/-!
Sources in a canonical layout: directives, the head of a contract and one member after the other,
each on lines of its own. All names are safe, that is, no reader can take one for a keyword or a
primitive type, and no name holds a word that starts a declaration.
-/
namespace SolInterface.Canonical
open Text Directive

/-- Names are looked up in lists of names by their characters. -/
scoped instance (priority := 2000) lawfulBEqText : LawfulBEq Text := List.instLawfulBEq

/-! Names and types. -/

/-- Words that mean something to the readers of declarations. -/
def reserved : List Text :=
  ["is", "event", "error", "returns", "mapping", "abstract", "external", "public", "internal",
    "private", "view", "pure", "payable", "constant", "immutable", "string", "address", "bool"]

/-- Primitive types that a size may follow. -/
inductive Stem where
  | uint | int | bytes
  deriving DecidableEq, Repr

def Stem.text : Stem → Text
  | .uint => "uint"
  | .int => "int"
  | .bytes => "bytes"

/-- The word is the stem with a size, which may be missing. -/
def Stem.isSized (s : Stem) (w : Text) : Bool := (after? s.text w).any (·.all isDecimal)

/-- Words that no name starts with, since they are not looked for as whole words. -/
def leads : List Text := ["public", "internal", "private", "constant", "immutable"]

/-- A name that cannot be taken for anything else. -/
structure Safe (w : Text) : Prop where
  ne_nil : w ≠ []
  ascii : ∀ c ∈ w, (c.isAlphanum || c == '_') = true
  start : ∀ c ∈ w.head?, isDecimal c = false
  noContract : occursIn "contract" w = false
  noFunction : occursIn "function" w = false
  unreserved : w ∉ reserved
  unsized : ∀ s : Stem, s.isSized w = false
  noLead : ∀ lead ∈ leads, ¬ lead <+: w

instance (w : Text) : Decidable (Safe w) :=
  decidable_of_iff (w ≠ [] ∧ (∀ c ∈ w, (c.isAlphanum || c == '_') = true) ∧
      (∀ c ∈ w.head?, isDecimal c = false) ∧ occursIn "contract" w = false ∧
      occursIn "function" w = false ∧ w ∉ reserved ∧
      (∀ s ∈ [Stem.uint, .int, .bytes], s.isSized w = false) ∧ ∀ lead ∈ leads, ¬ lead <+: w)
    ⟨fun ⟨h1, h2, h3, h4, h5, h6, h7, h8⟩ =>
        ⟨h1, h2, h3, h4, h5, h6, fun s => h7 s (by cases s <;> simp), h8⟩,
      fun ⟨h1, h2, h3, h4, h5, h6, h7, h8⟩ => ⟨h1, h2, h3, h4, h5, h6, fun s _ => h7 s, h8⟩⟩

structure Identifier where
  text : Text
  safe : Safe text

inductive Primitive where
  | sized (stem : Stem) (digits : { t : Text // ∀ c ∈ t, isDecimal c = true })
  | string | address | bool

def Primitive.text : Primitive → Text
  | .sized stem digits => stem.text ++ digits.1
  | .string => "string"
  | .address => "address"
  | .bool => "bool"

inductive TypeName where
  | primitive (p : Primitive)
  | named (name : Identifier)

def TypeName.text : TypeName → Text
  | .primitive p => p.text
  | .named name => name.text

/-- A type, with a name or without. -/
structure Field where
  type : TypeName
  name : Option Identifier := none

def Field.text (f : Field) : Text :=
  match f.name with
  | none => f.type.text
  | some name => f.type.text ++ ' ' :: name.text

def fieldsText (fields : List Field) : Text := joinWith [',', ' '] (fields.map Field.text)

/-! Members. -/

inductive NoticeKind where
  | event | error
  deriving DecidableEq, Repr

def NoticeKind.keyword : NoticeKind → Text
  | .event => "event"
  | .error => "error"

inductive VariableType where
  | primitive (p : Primitive)
  | mapping (key value : TypeName)

def mappingText (key value : TypeName) : Text :=
  "mapping(" ++ (key.text ++ " => " ++ value.text) ++ [')']

def VariableType.text : VariableType → Text
  | .primitive p => p.text
  | .mapping key value => mappingText key value

inductive Member where
  | notice (kind : NoticeKind) (name : Identifier) (params : List Field)
  | stateVariable (type : VariableType) (visibility : { v : Visibility // v ≠ .ext })
      (isImmutable : Bool) (name : Identifier)
  | function (name : Identifier) (params : List Field) (visibility : Visibility)
      (mutability : Option { m : Mutability // m ∈ [.view, .pure, .payable] })
      (returns : List Field)

def specifiers (visibility : Visibility)
    (mutability : Option { m : Mutability // m ∈ [.view, .pure, .payable] }) : List Text :=
  visibility.keyword :: (mutability.map fun m => m.1.keyword).toList

/-- The text in the parentheses after `returns`, which are missing if nothing is returned. -/
def returnsText (returns : List Field) : Option Text :=
  if returns.isEmpty then none else some (fieldsText returns)

def indent : Text := "    "

/-- A member without its indentation and without the body of a function. -/
def Member.declaration : Member → Text
  | .notice kind name params => kind.keyword ++ ' ' :: (name.text ++ '(' :: (fieldsText params ++ ");"))
  | .stateVariable type visibility isImmutable name =>
    type.text ++ ' ' :: (visibility.1.keyword ++ ' ' ::
      (Variable.immutability isImmutable ++ (name.text ++ [';'])))
  | .function name params visibility mutability returns =>
    Function.headLine name.text (fieldsText params) (specifiers visibility mutability)
      (returnsText returns) []

/-- The lines of a member. The body of a function is empty. -/
def Member.lines (m : Member) : List Text :=
  (indent ++ m.declaration) ::
    match m with
    | .function .. => [indent ++ ['}']]
    | _ => []

def Member.text (m : Member) : Text := m.lines.flatMap (· ++ ['\n'])

def Member.height (m : Member) : Nat := m.lines.length

/-! Whole sources. -/

/-- A text that may be quoted in a directive. -/
structure Quotable (t : Text) : Prop where
  ne_nil : t ≠ []
  plain : ∀ c ∈ t, c ∉ ['"', '\n', '{', '(', ';', '=']
  noContract : occursIn "contract" t = false

instance (t : Text) : Decidable (Quotable t) :=
  decidable_of_iff (t ≠ [] ∧ (∀ c ∈ t, c ∉ ['"', '\n', '{', '(', ';', '=']) ∧
      occursIn "contract" t = false)
    ⟨fun ⟨h1, h2, h3⟩ => ⟨h1, h2, h3⟩, fun ⟨h1, h2, h3⟩ => ⟨h1, h2, h3⟩⟩

/-- Directives with quoted texts and safe names. -/
def Ordinary : Wording → Prop
  | .quotedBuild t | .copyright t | .quotedImport t none => Quotable t
  | .replace old new => Safe old ∧ Safe new
  | .remove names | .exclude names | .expose names | .getter names | .inherit names =>
    names ≠ [] ∧ ∀ w ∈ names, Safe w
  | _ => False

instance : DecidablePred Ordinary
  | .quotedBuild t | .copyright t | .quotedImport t none => inferInstanceAs (Decidable (Quotable t))
  | .replace old new => inferInstanceAs (Decidable (Safe old ∧ Safe new))
  | .remove names | .exclude names | .expose names | .getter names | .inherit names =>
    inferInstanceAs (Decidable (names ≠ [] ∧ ∀ w ∈ names, Safe w))
  | .bareBuild _ | .moduleTask _ _ _ | .quotedImport _ (some _) | .bareImport _ _ =>
    inferInstanceAs (Decidable False)

structure Document where
  directives : List Wording
  ordinary : ∀ w ∈ directives, Ordinary w
  built : ∃ w ∈ directives, w.kind = .build
  name : Identifier
  bases : List Identifier
  members : List Member

def directiveLine (w : Wording) : Text := Dialect.custom.marker ++ ' ' :: w.text

def basesText (bases : List Identifier) : Text :=
  if bases.isEmpty then [] else "is " ++ joinWith [',', ' '] (bases.map (·.text)) ++ [' ']

def contractLine (name : Identifier) (bases : List Identifier) : Text :=
  "contract " ++ (name.text ++ ' ' :: (basesText bases ++ ['{']))

namespace Document

def lines (d : Document) : List Text :=
  d.directives.map directiveLine ++
    contractLine d.name d.bases :: (d.members.flatMap Member.lines ++ [['}']])

/-- The source text: every line is ended by a line feed. -/
def text (d : Document) : Text := d.lines.flatMap (· ++ ['\n'])

theorem text_eq (d : Document) :
    d.text = d.directives.flatMap (fun w => directiveLine w ++ ['\n']) ++
      (contractLine d.name d.bases ++ '\n' :: (d.members.flatMap Member.text ++ ['}', '\n'])) := by
  have hmembers : (d.members.flatMap Member.lines).flatMap (· ++ ['\n']) =
      d.members.flatMap Member.text := List.flatMap_assoc
  simp [text, lines, List.flatMap_map, hmembers]

end Document
end SolInterface.Canonical
