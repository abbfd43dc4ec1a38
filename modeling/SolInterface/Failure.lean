import SolInterface.Console
import SolInterface.Directive.Registry
import SolInterface.FileTree

/-!
What can go wrong when an interface is generated, and the words in which it is reported.
-/
namespace SolInterface

inductive Failure where
  /-- No dialect could be chosen. -/
  | dialect (error : Registry.Error)
  /-- A directive has a form to which its dialect gives no meaning. -/
  | undefinedDirective (kind : Directive.Kind)
  | noBuildDirective (marker : Text)
  | noContract
  | undecodable (path : Path) (fault : Utf8.Fault)
  | packageNotFound (moduleName : Text)
  | moduleNotFound (moduleName : Text) (path : Path)
  | moduleUndecodable (moduleName : Text) (path : Path) (fault : Utf8.Fault)
  | file (error : FileError)
  /-- A text that holds half of a character cannot be written. -/
  | unwritable (path : Path)
  /-- A line with faulty markup cannot be printed. -/
  | markup (fault : Console.Fault)
  deriving DecidableEq, Repr

namespace Failure

def undecodableMessage (path : Path) (fault : Utf8.Fault) : Text :=
  Text.cat ["Cannot decode ", path.text, " as UTF-8: ", fault.message]

def message : Failure → Text
  | dialect (.unknownDialect name) => "Unknown directive dialect: " ++ name
  | dialect (.noDefault name) => "No such dialect: " ++ name
  | undefinedDirective kind => "No meaning is given to directive: " ++ kind.keyword
  | noBuildDirective marker =>
    Text.cat ["No build directive found. Use ", marker, " build <path>"]
  | noContract => "Contract declaration not found"
  | undecodable path fault => undecodableMessage path fault
  | packageNotFound moduleName => "Package not found: " ++ moduleName
  | moduleNotFound _ path => "Module file not found: " ++ path.text
  | moduleUndecodable _ path fault =>
    "Module file unreadable: " ++ undecodableMessage path fault
  | file error => error.message
  | unwritable path => "Half of a character in what is written to " ++ path.text
  | markup fault => fault.message

/-- The failure concerns one source and is reported with it; any other ends the run. -/
def isReported : Failure → Bool
  | dialect (.noDefault _) => false
  | undefinedDirective _ => false
  | file error => error.cause.isRefusal
  | unwritable _ => false
  | markup _ => false
  | _ => true

end Failure
end SolInterface
