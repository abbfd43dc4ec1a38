import SolInterface.Text.Basic

/-!
Blanks: the characters that separate words and that trimming removes.
-/
namespace SolInterface.Text

/-- White space: the controls from tab to carriage return and from file separator to unit
separator, the space, next line, and the space, line and paragraph separators of Unicode. -/
def isBlank (c : Char) : Bool :=
  let n := c.toNat
  (9 ≤ n && n ≤ 13) || (28 ≤ n && n ≤ 32) || n == 0x85 || n == 0xA0 || n == 0x1680 ||
    (0x2000 ≤ n && n ≤ 0x200A) || n == 0x2028 || n == 0x2029 || n == 0x202F || n == 0x205F ||
    n == 0x3000

def skipBlanks (t : Text) : Text := t.dropWhile isBlank

def trimRight (t : Text) : Text := (t.reverse.dropWhile isBlank).reverse

/-- The text without the blanks at either end. -/
def trim (t : Text) : Text := trimRight (skipBlanks t)

/-- What follows a run of at least one blank. -/
def blanks? : Text → Option Text
  | [] => none
  | c :: r => if isBlank c then some (skipBlanks r) else none

/-- The parts between runs of blanks. -/
def words (t : Text) : List Text := (pieces isBlank t).filter fun w => !w.isEmpty

/-- The parts between commas, trimmed; a text without a comma is one part. -/
def commaParts (t : Text) : List Text := (pieces (· == ',') t).map trim

end SolInterface.Text
