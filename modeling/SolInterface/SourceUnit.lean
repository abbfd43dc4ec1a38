import SolInterface.Config
import SolInterface.Failure
import SolInterface.Interface.Assemble
import SolInterface.Source.Extract
import SolInterface.Warning

/-!
Source units: a source text with its directives and the settings under which its interface is
generated. Directives are read once; declarations are looked for each time the interface is asked
for.
-/
namespace SolInterface

structure SourceUnit where
  path : Path
  config : Config
  /-- Write outputs that are up to date, too. -/
  force : Bool
  content : Text
  /-- The dialect as it was asked for, which the modules of this unit are asked to follow. -/
  choice : DialectChoice
  dialect : Dialect
  directives : List Directive
  recipe : Recipe
  warnings : List Warning

namespace SourceUnit
open Text

/-- The warning that a directive calls for. -/
def directiveWarning? (d : Directive) : Option Warning :=
  match d.request with
  | .unrecognised content => some (.unrecognisedDirective d.line content)
  | _ => none

/-- The kind of the first directive without a meaning. -/
def firstUndefined? (directives : List Directive) : Option Directive.Kind :=
  directives.findSome? fun d =>
    match d.request with
    | .undefined kind => some kind
    | _ => none

/-- Directives up to the first one without a meaning. -/
def defined (directives : List Directive) : List Directive :=
  directives.takeWhile fun d =>
    match d.request with
    | .undefined _ => false
    | _ => true

/-- Settings under which a unit is made. -/
structure Options where
  force : Bool := false
  dialect : Option DialectChoice := none
  config : Config := {}

/-- The dialect that the options ask for: that of the settings if none is given. -/
def Options.choice (o : Options) : DialectChoice := o.dialect.getD (.named o.config.dialect)

/-- The dialect and the directives of a text. -/
def directivesOf (o : Options) (content : Text) : Except Failure (Dialect × List Directive) :=
  match o.choice.resolve .standard content with
  | .error e => .error (.dialect e)
  | .ok d => .ok (d, d.directives (lines content))

/-- Warnings for the directives of a text, up to the first one without a meaning. -/
def warningsOf (o : Options) (content : Text) : List Warning :=
  match directivesOf o content with
  | .error _ => []
  | .ok (_, directives) => (defined directives).filterMap directiveWarning?

/-- The unit of a text. -/
def ofText (path : Path) (content : Text) (o : Options) : Except Failure SourceUnit :=
  match directivesOf o content with
  | .error e => .error e
  | .ok (dialect, directives) =>
    match firstUndefined? directives with
    | some kind => .error (.undefinedDirective kind)
    | none => .ok {
        path, content, dialect, directives
        config := o.config
        force := o.force || o.config.force
        choice := o.choice
        recipe := Recipe.ofDirectives directives
        warnings := directives.filterMap directiveWarning? }

def lineCount (u : SourceUnit) : Nat := (lines u.content).length

def buildPath (u : SourceUnit) : Text := u.recipe.buildPath

/-- The declared output path, which has to be there. -/
def requiredBuildPath (u : SourceUnit) : Except Failure Text :=
  if u.buildPath.isEmpty then .error (.noBuildDirective u.dialect.marker) else .ok u.buildPath

/-- Where the interface is written. -/
def outputPath (u : SourceUnit) (cwd : Path) : Except Failure Path := do
  (Path.outputFor cwd u.path (← u.requiredBuildPath)).mapError .file

/-- The declarations of the unit. -/
def source (u : SourceUnit) : Except Failure Source :=
  match Source.extract? u.content [u.dialect.marker] with
  | some s => .ok s
  | none => .error .noContract

/-- The warnings with one more, unless it is among them. -/
def withWarning (warnings : List Warning) (w : Warning) : List Warning :=
  if warnings.contains w then warnings else warnings ++ [w]

/-- The unit with the warnings of its declarations that it does not have yet. -/
def noting (u : SourceUnit) (s : Source) : SourceUnit :=
  { u with warnings := (s.skipped.map Warning.skippedFunction).foldl withWarning u.warnings }

/-- Asks a unit for its declarations. The unit then has their warnings as well; one without a
contract stays as it was. -/
def parse (u : SourceUnit) : Except Failure Source × SourceUnit :=
  match u.source with
  | .ok s => (.ok s, u.noting s)
  | .error failure => (.error failure, u)

def header (u : SourceUnit) : Interface.Header := ⟨u.config.license, u.config.pragma⟩

/-- The interface of the unit, and the declarations it was made from. -/
def interface (u : SourceUnit) : Except Failure (Source × Text) := do
  let _ ← u.requiredBuildPath
  let s ← u.source
  return (s, Interface.assemble u.header u.recipe s)

/-- Asks a unit for its interface. The unit then has the warnings of its declarations as well; one
without an interface stays as it was. -/
def generate (u : SourceUnit) : Except Failure Text × SourceUnit :=
  match u.interface with
  | .ok (s, text) => (.ok text, u.noting s)
  | .error failure => (.error failure, u)

/-- The unit as a module directive changes it. -/
def forTask (u : SourceUnit) (task : ModuleTask) : SourceUnit :=
  { u with recipe := (u.recipe.overlay task.flags).withBuildPath task.output }

end SourceUnit
end SolInterface
