import SolInterface.Text.Blank

/-!
Directives: what a comment line of a contract asks of the interface that is generated from it.
-/
namespace SolInterface

/-- Changes that a module directive makes to the module's own directives. -/
structure ModuleFlags where
  remove : List Text := []
  replace : List (Text × Text) := []
  bases : List Text := []
  imports : List Text := []
  deriving DecidableEq, Repr

/-- A source file that gets an interface of its own. -/
structure ModuleTask where
  source : Text
  output : Text
  flags : ModuleFlags := {}
  rawFlags : Text := []
  deriving DecidableEq, Repr

namespace Directive

/-- The kinds of directive, in the order in which they are listed. -/
inductive Kind where
  | build | moduleTask | copyright | importPath | replace | remove | exclude | expose | getter
  | inherit
  deriving DecidableEq, Repr

def Kind.all : List Kind :=
  [.build, .moduleTask, .copyright, .importPath, .replace, .remove, .exclude, .expose, .getter,
    .inherit]

/-- The word by which a directive of this kind is written. -/
def Kind.keyword : Kind → Text
  | .build => "build"
  | .moduleTask => "module"
  | .copyright => "copyright"
  | .importPath => "import"
  | .replace => "replace"
  | .remove => "remove"
  | .exclude => "exclude"
  | .expose => "include"
  | .getter => "getter"
  | .inherit => "is"

/-- What a directive asks for. -/
inductive Request where
  /-- Write the interface to this path. -/
  | build (path : Text)
  /-- Generate the interface of another source as well. -/
  | moduleTask (task : ModuleTask)
  /-- Put this notice under the header. -/
  | copyright (notice : Text)
  /-- Import this path. -/
  | importPath (path : Text)
  /-- Write `new` where the contract says `old`. -/
  | replace (old new : Text)
  /-- Drop these bases. -/
  | remove (names : List Text)
  /-- Leave out these members. -/
  | exclude (names : List Text)
  /-- Keep these functions whatever their visibility. -/
  | expose (names : List Text)
  /-- Declare getters for these variables whatever their visibility. -/
  | getter (names : List Text)
  /-- Inherit from these as well. -/
  | inherit (names : List Text)
  /-- The text is no directive of the dialect. -/
  | unrecognised (content : Text)
  /-- The text has the form of such a directive, to which the dialect gives no meaning. -/
  | undefined (kind : Kind)
  deriving DecidableEq, Repr

end Directive

/-- A request with the number of the line on which it stands. -/
structure Directive where
  request : Directive.Request
  line : Nat
  deriving DecidableEq, Repr

end SolInterface
