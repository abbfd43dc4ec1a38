import SolInterface.Text.Basic

/-!
Code points by number. A surrogate is half of a character and has no character of its own: it is
kept as the character 0x100000 above it, which the standard leaves to private use. So the characters
from U+10D800 to U+10DFFF do not stand for themselves: a text with one of them is taken for a text
with a surrogate.
-/
namespace SolInterface.Text

def isSurrogateCode (n : Nat) : Bool := 0xD800 ≤ n && n < 0xE000

/-- The character for a code point. -/
def ofCode (n : Nat) : Char := Char.ofNat (if isSurrogateCode n then n + 0x100000 else n)

/-- The surrogate that a character is kept for. -/
def surrogate? (c : Char) : Option Nat :=
  if isSurrogateCode (c.toNat - 0x100000) then some (c.toNat - 0x100000) else none

/-- The text has no half of a character, so that it can be encoded. -/
def isWhole (t : Text) : Bool := t.all fun c => (surrogate? c).isNone

end SolInterface.Text
