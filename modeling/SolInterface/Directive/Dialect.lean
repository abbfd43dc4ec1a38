import SolInterface.Directive.Flags

/-!
Dialects: the marker that introduces a directive in a line, and the grammar of what follows it.
The two grammars share most of their forms; they differ in how a path is written after `build` and
`import`, and in that only one has modules.
-/
namespace SolInterface
open Text

namespace Directive.Request

/-- The keyword of the kind, blanks, and what follows them. -/
def keyed? (kind : Kind) (t : Text) : Option Text := do blanks? (← after? kind.keyword t)

/-- A quoted text with nothing after it. -/
def wholeQuoted? (t : Text) : Option Text :=
  ((quoted? t).filter fun found => atEnd found.2).map (·.1)

/-- A text without blanks, with nothing after it. -/
def wholeBare? (t : Text) : Option Text :=
  match t.takeWhile (fun c => !isBlank c), t.dropWhile (fun c => !isBlank c) with
  | [], _ => none
  | path, rest => if atEnd rest then some path else none

/-- Nothing follows, or a semicolon with nothing after it. -/
def closesImport (t : Text) : Bool :=
  match skipBlanks t with
  | ';' :: rest => atEnd rest
  | _ => atEnd t

/-- The rest of the line after the keyword, with nothing after it. -/
def lineAfter? (kind : Kind) (t : Text) : Option Text := do
  let (found, rest) ← lineTail? (← after? kind.keyword t)
  if atEnd rest then some found else none

def quotedBuild? (t : Text) : Option Request := do
  let rest ← keyed? .build t
  (wholeQuoted? rest <|> wholeBare? rest).map .build

def lineBuild? (t : Text) : Option Request := (lineAfter? .build t).map .build

def moduleTask? (t : Text) : Option Request := do
  let (source, rest) ← quoted? (← keyed? .moduleTask t)
  let (output, rest) ← quoted? (← blanks? (← after? "to" (← blanks? rest)))
  let raw := trim (rest.takeWhile (· != '\n'))
  if atEnd (rest.dropWhile (· != '\n')) then
    some (.moduleTask ⟨source, output, ModuleFlags.parse raw, raw⟩)
  else none

def copyright? (t : Text) : Option Request := do
  (wholeQuoted? (← keyed? .copyright t)).map .copyright

def quotedImport? (t : Text) : Option Request := do
  let (path, rest) ← quoted? (← keyed? .importPath t)
  if closesImport rest then some (.importPath path) else none

def bareImport? (t : Text) : Option Request := do
  let rest ← keyed? .importPath t
  let bare := fun c => !(isBlank c || c == '"' || c == ';')
  match rest.takeWhile bare with
  | [] => none
  | path => if closesImport (rest.dropWhile bare) then some (.importPath path) else none

def replace? (t : Text) : Option Request := do
  let (old, rest) ← word? (← keyed? .replace t)
  let (new, rest) ← word? (← blanks? (← after? "with" (← blanks? rest)))
  if atEnd rest then some (.replace old new) else none

def nameList? (t : Text) : Option Request :=
  ((lineAfter? .remove t).map fun names => .remove (words names)) <|>
  ((lineAfter? .exclude t).map fun names => .exclude (words names)) <|>
  ((lineAfter? .expose t).map fun names => .expose (words names)) <|>
  ((lineAfter? .getter t).map fun names => .getter (words names)) <|>
  ((lineAfter? .inherit t).map fun names => .inherit (commaParts (trim names)))

/-- The forms that both grammars read alike. -/
def shared? (t : Text) : Option Request :=
  copyright? t <|> quotedImport? t <|> replace? t <|> nameList? t

/-- The grammar with modules, in which a path may be quoted or bare. -/
def custom? (t : Text) : Option Request :=
  quotedBuild? t <|> moduleTask? t <|> bareImport? t <|> shared? t

/-- The grammar in which `build` takes the rest of the line and imports are quoted. -/
def legacy? (t : Text) : Option Request := lineBuild? t <|> shared? t

/-- The kind of a request that was recognised. -/
def kind? : Request → Option Kind
  | .build _ => some .build
  | .moduleTask _ => some .moduleTask
  | .copyright _ => some .copyright
  | .importPath _ => some .importPath
  | .replace _ _ => some .replace
  | .remove _ => some .remove
  | .exclude _ => some .exclude
  | .expose _ => some .expose
  | .getter _ => some .getter
  | .inherit _ => some .inherit
  | .undefined kind => some kind
  | .unrecognised _ => none

end Directive.Request

/-- What may follow a marker. -/
inductive Grammar where
  | custom
  | legacy
  /-- Nothing is a directive. -/
  | empty
  /-- The forms of `custom`, without a meaning. -/
  | formal
  deriving DecidableEq, Repr

namespace Grammar
open Directive

/-- The request that a text makes. -/
def read (grammar : Grammar) (content : Text) : Request :=
  let found := match grammar with
    | custom => Request.custom? content
    | legacy => Request.legacy? content
    | empty => none
    | formal => (Request.custom? content).bind fun r => r.kind?.map .undefined
  found.getD (.unrecognised content)

def supports : Grammar → Kind → Bool
  | custom, _ | formal, _ => true
  | legacy, kind => kind != .moduleTask
  | empty, _ => false

end Grammar

/-- A front end for directives. -/
structure Dialect where
  name : Text
  marker : Text
  grammar : Grammar
  deriving DecidableEq, Repr

namespace Dialect
open Directive

def custom : Dialect := ⟨"custom", "/// @custom:interface", .custom⟩

def legacy : Dialect := ⟨"legacy", "/// !interface", .legacy⟩

def supports (d : Dialect) (kind : Kind) : Bool := d.grammar.supports kind

/-- A source that holds this text is taken to have a build directive. -/
def buildMarker (d : Dialect) : Text := d.marker ++ " build"

/-- A trimmed line that the marker starts. -/
def isDirectiveLine (d : Dialect) (trimmed : Text) : Bool := startsWith d.marker trimmed

/-- What follows the first marker that is followed by blanks and more text. -/
def content? (d : Dialect) (line : Text) : Option Text :=
  (firstMatch (fun t => (after? d.marker t).bind lineTail?) line).map fun found => trim found.1

/-- The request that a source line makes, if it holds a directive. -/
def parseLine (d : Dialect) (line : Text) : Option Request := (d.content? line).map d.grammar.read

/-- The directives of consecutive lines, the first of which has the given number. -/
def directivesFrom (d : Dialect) : Nat → List Text → List Directive
  | _, [] => []
  | n, line :: rest =>
    match d.parseLine line with
    | some request => ⟨request, n⟩ :: d.directivesFrom (n + 1) rest
    | none => d.directivesFrom (n + 1) rest

/-- The directives of a source, line by line. -/
def directives (d : Dialect) (lines : List Text) : List Directive := d.directivesFrom 1 lines

end Dialect
end SolInterface
