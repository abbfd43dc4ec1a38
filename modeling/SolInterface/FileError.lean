import SolInterface.Path
import SolInterface.Text.Quoted
import SolInterface.Text.Utf8

/-!
Operations on paths that fail, and the limits on what a path may be.
-/
namespace SolInterface

inductive FileError.Cause where
  | notFound | alreadyExists | notDirectory | isDirectory | nameTooLong
  /-- The path holds a null character. -/
  | nullCharacter
  /-- The path holds half of a character. -/
  | halfCharacter
  deriving DecidableEq, Repr

/-- An operation on a path that fails. -/
structure FileError where
  cause : FileError.Cause
  path : Path
  deriving DecidableEq, Repr

namespace FileError

def Cause.reason : Cause → Text
  | notFound => "[Errno 2] No such file or directory"
  | alreadyExists => "[Errno 17] File exists"
  | notDirectory => "[Errno 20] Not a directory"
  | isDirectory => "[Errno 21] Is a directory"
  | nameTooLong => "[Errno 36] File name too long"
  | nullCharacter => "Null character in a path"
  | halfCharacter => "Half of a character in a path"

def message (e : FileError) : Text := Text.cat [e.cause.reason, ": ", Text.quote e.path.text]

/-- The file system was asked, and refused; any other error is in the path itself. -/
def Cause.isRefusal : Cause → Bool
  | nullCharacter | halfCharacter => false
  | _ => true

/-- The error says that nothing of that path is there. -/
def Cause.isAbsence : Cause → Bool
  | notFound | notDirectory | nullCharacter | halfCharacter => true
  | _ => false

end FileError

namespace Path
open FileError (Cause)

/-- The most bytes that a name may have. -/
def mostNameBytes : Nat := 255

/-- The most bytes that a path may have. -/
def mostPathBytes : Nat := 4095

def isLongName (name : Text) : Bool := mostNameBytes < (Utf8.encode name).length

/-- A half of a character that stands for no byte. -/
def isLoneHalf (c : Char) : Bool :=
  match Text.surrogate? c with
  | some code => code < 0xDC80 || 0xDCFF < code
  | none => false

/-- What keeps a path from being looked up at all. -/
def flaw? (p : Path) : Option Cause :=
  if p.names.any (·.any isLoneHalf) then some .halfCharacter
  else if p.names.any (·.contains '\x00') then some .nullCharacter
  else none

/-- What keeps a path from being looked up, its length included. -/
def barrier? (p : Path) : Option Cause :=
  match p.flaw? with
  | some cause => some cause
  | none => if mostPathBytes < (Utf8.encode p.text).length then some .nameTooLong else none

/-- The absolute path without `..`; the names on the way are looked up. -/
def resolved (cwd p : Path) : Except FileError Path :=
  match p.flaw? with
  | some cause => .error ⟨cause, p⟩
  | none => .ok (resolve cwd p)

/-- Where an output is written: a relative one is seen from the directory of its source. -/
def outputFor (cwd source : Path) (declared : Text) : Except FileError Path :=
  let path := parse declared
  if path.isAbsolute then .ok path else resolved cwd (source.parent.join path)

end Path
end SolInterface
