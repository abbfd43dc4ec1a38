import SolInterface.Text.Basic

/-!
Warnings: what was left out of an interface, by the line of the source.
-/
namespace SolInterface

inductive Warning where
  | unrecognisedDirective (line : Nat) (content : Text)
  | skippedFunction (line : Nat)
  deriving DecidableEq, Repr

def Warning.message : Warning → Text
  | unrecognisedDirective line content =>
    Text.cat ["line ", Text.ofNat line, ": unrecognised directive '", content, "'"]
  | skippedFunction line =>
    Text.cat ["line ", Text.ofNat line, ": function header not recognised, skipped"]

end SolInterface
