/-!
Why a document has no value.
-/
namespace SolInterface.Yaml

inductive Error where
  /-- The text is not a document, or a node cannot be what its tag says. -/
  | malformed
  /-- A number, a date or a character code out of range. -/
  | badNumber
  /-- A number too large for the arithmetic it takes part in. -/
  | overflow
  /-- A boolean tag on another word. -/
  | badBoolean
  /-- A number tag on an empty text. -/
  | emptyNumber
  /-- A timestamp tag on another text. -/
  | badTimestamp
  /-- A timestamp tag on a mapping. -/
  | timestampOfMapping
  /-- Collections too deep inside one another, or a mapping that stands for its default value and
  is that value itself. -/
  | tooDeep
  deriving DecidableEq, Repr

end SolInterface.Yaml
