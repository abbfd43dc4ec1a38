import SolInterface.Text.Basic

/-!
The characters of a document with their places. Indentation decides structure, so the reader of a
document looks at the column of what is left as much as at its characters. A character that no
document may hold stands at the end.
-/
namespace SolInterface.Yaml

/-- A character and its place: how many characters, how many lines and, in its line, how many
columns come before it. -/
structure Glyph where
  char : Char
  index : Nat
  line : Nat
  column : Nat
  deriving DecidableEq, Repr

abbrev Glyphs := List Glyph

/-- The character that marks the end. -/
def endMark : Char := '\x00'

/-- Line feed, next line, and the line and paragraph separators. -/
def isBreak (c : Char) : Bool := c == '\n' || c == '\x85' || c == '\u2028' || c == '\u2029'

def isBreakOrEnd (c : Char) : Bool := isBreak c || c == endMark

/-- Space, tab, line break or end. -/
def isGap (c : Char) : Bool := isBreakOrEnd c || c == ' ' || c == '\t'

/-- The glyphs of a text that starts at the given place. -/
def glyphsFrom (index line column : Nat) : Text → Glyphs
  | [] => [⟨endMark, index, line, column⟩]
  | c :: r =>
    ⟨c, index, line, column⟩ ::
      if isBreak c then glyphsFrom (index + 1) (line + 1) 0 r
      else glyphsFrom (index + 1) line (if c = '\ufeff' then column else column + 1) r

/-- May stand in a document. -/
def isAllowed (c : Char) : Bool :=
  let n := c.toNat
  n == 9 || n == 10 || n == 13 || (0x20 ≤ n && n ≤ 0x7E) || n == 0x85 ||
    (0xA0 ≤ n && n ≤ 0xFFFD) || 0x10000 ≤ n

namespace Glyphs

/-- The next character. -/
def peek (gs : Glyphs) : Char :=
  match gs with
  | [] => endMark
  | g :: _ => g.char

/-- The character after `n` more. -/
def peekAt (gs : Glyphs) (n : Nat) : Char := peek (gs.drop n)

def column (gs : Glyphs) : Nat :=
  match gs with
  | [] => 0
  | g :: _ => g.column

/-- The longest run of characters in the class, and what follows. -/
def span (p : Char → Bool) : Glyphs → Text × Glyphs
  | [] => ([], [])
  | g :: r =>
    if p g.char then ((g.char :: (span p r).1), (span p r).2) else ([], g :: r)

def skipWhile (p : Char → Bool) (gs : Glyphs) : Glyphs := gs.dropWhile fun g => p g.char

def skipSpaces (gs : Glyphs) : Glyphs := skipWhile (· == ' ') gs

/-- Three hyphens or three dots with a gap after them. -/
def atSeparator (gs : Glyphs) : Bool :=
  let lead := (gs.take 3).map (·.char)
  (lead == "---".toList || lead == "...".toList) && isGap (peekAt gs 3)

/-- What a line break is read as. -/
def breakText (c : Char) : Text := if c == '\x85' then ['\n'] else [c]

/-- A line break, read as text, and what follows; nothing if there is none. -/
def lineBreak (gs : Glyphs) : Text × Glyphs :=
  match gs with
  | [] => ([], [])
  | g :: r => if isBreak g.char then (breakText g.char, r) else ([], g :: r)

end Glyphs
end SolInterface.Yaml
