import SolInterface.Text.Blank

/-!
Two ways of cutting text into lines. Source files are cut at line feeds alone, after the three
usual line ends have been made one; documentation is cut at every line boundary of Unicode.
-/
namespace SolInterface.Text

/-- The parts between line feeds; the empty text is one empty line. -/
def lines (t : Text) : List Text := pieces (· == '\n') t

def unlines (ls : List Text) : Text := joinWith ['\n'] ls

/-- Line feed, vertical tab, form feed, carriage return, the information separators above the unit
separator, next line, and the line and paragraph separators. -/
def isLineBreak (c : Char) : Bool :=
  let n := c.toNat
  (10 ≤ n && n ≤ 13) || (28 ≤ n && n ≤ 30) || n == 0x85 || n == 0x2028 || n == 0x2029

/-- The lines of a text at any line boundary, a carriage return and line feed being one; a boundary
at the end opens no further line. -/
def boundedLines : Text → List Text
  | [] => []
  | '\r' :: '\n' :: r => [] :: boundedLines r
  | c :: r =>
    if isLineBreak c then [] :: boundedLines r
    else match boundedLines r with
      | [] => [[c]]
      | w :: ws => (c :: w) :: ws

/-- Each carriage return, with the line feed that may follow it, becomes one line feed. -/
def normalizeNewlines : Text → Text
  | [] => []
  | '\r' :: '\n' :: r => '\n' :: normalizeNewlines r
  | c :: r => (if c = '\r' then '\n' else c) :: normalizeNewlines r

end SolInterface.Text
