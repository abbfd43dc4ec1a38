import SolInterface.Text.Basic

/-!
Paths as lists of names. Spelling is normalised when a path is read: empty names and `.` are
dropped, `..` is kept. Resolving a path makes it absolute and removes each `..` with the name before
it.
-/
namespace SolInterface

/-- What a path starts from. -/
inductive Anchor where
  | relative
  /-- One leading slash, or three and more. -/
  | root
  /-- Exactly two leading slashes. -/
  | doubleRoot
  deriving DecidableEq, Repr

def Anchor.text : Anchor → Text
  | relative => ""
  | root => "/"
  | doubleRoot => "//"

structure Path where
  anchor : Anchor
  names : List Text
  deriving DecidableEq, Repr

namespace Path
open Text

def anchorOf : Text → Anchor
  | '/' :: '/' :: '/' :: _ => .root
  | '/' :: '/' :: _ => .doubleRoot
  | '/' :: _ => .root
  | _ => .relative

/-- A name that changes nothing in a path. -/
def isVoid (name : Text) : Bool := name.isEmpty || name == ['.']

def parse (t : Text) : Path :=
  ⟨anchorOf t, (pieces (· == '/') t).filter fun name => !isVoid name⟩

def text (p : Path) : Text :=
  match p.anchor, p.names with
  | .relative, [] => "."
  | anchor, names => anchor.text ++ joinWith "/" names

def isAbsolute (p : Path) : Bool := p.anchor != .relative

/-- `q` seen from `p`; an absolute `q` stands for itself. -/
def join (p q : Path) : Path := if q.isAbsolute then q else ⟨p.anchor, p.names ++ q.names⟩

def parent (p : Path) : Path := ⟨p.anchor, p.names.dropLast⟩

/-- The last name, which is empty for a path without names. -/
def fileName (p : Path) : Text := p.names.getLast?.getD []

/-- The anchor, if there is one, and the names. -/
def parts (p : Path) : List Text :=
  match p.anchor with
  | .relative => p.names
  | anchor => anchor.text :: p.names

/-- Names with each `..` removed along with the name before it, if there is one. -/
def collapse (names : List Text) : List Text :=
  names.foldl (fun known name => if name == "..".toList then known.dropLast else known ++ [name]) []

/-- The absolute path without `..`, seen from the working directory. -/
def resolve (cwd p : Path) : Path := ⟨.root, collapse (cwd.join p).names⟩

end Path
end SolInterface
