import SolInterface.Text.Lines

/-!
Documentation comments: the `/// ` lines or the `/** … */` block above a declaration. Directive
lines are passed over everywhere, blank lines and plain comments between the documentation and the
declaration.
-/
namespace SolInterface.Doc
open Text

/-- A trimmed line that one of the markers starts. -/
def isMarked (markers : List Text) (line : Text) : Bool := markers.any fun m => startsWith m line

/-- The documentation lines among the lines above a declaration, nearest first in both lists. In a
block, the lines are those that continue it, up to the one that opens it. -/
def collect (markers : List Text) : Bool → List Text → List Text
  | _, [] => []
  | inBlock, raw :: above =>
    let line := trim raw
    if isMarked markers line then collect markers inBlock above
    else if occursIn "*/" line then line :: collect markers true above
    else if inBlock then
      if startsWith "/**" line then [line]
      else if startsWith "*" line || line.isEmpty then line :: collect markers true above
      else []
    else if startsWith "/// " line then line :: collect markers false above
    else if line.isEmpty || (startsWith "//" line && !startsWith "///" line) then
      collect markers false above
    else []

/-- The documentation of the declaration on the line of that number, counted from 1. -/
def above (lines markers : List Text) (n : Nat) : Text :=
  trim (unlines (collect markers false (lines.take (n - 1)).reverse).reverse)

/-- The documentation of a line that stands among the lines or right after them. -/
def above? (lines markers : List Text) (n : Nat) : Option Text :=
  if n ≤ lines.length + 1 then some (above lines markers n) else none

/-- The lines of a documentation text that hold something, trimmed. -/
def contentLines (doc : Text) : List Text :=
  ((boundedLines doc).map trim).filter fun line => !line.isEmpty

/-- The documentation with each line after `indent` and without its blank lines. -/
def format (indent doc : Text) : Text := unlines ((contentLines doc).map (indent ++ ·))

end SolInterface.Doc
