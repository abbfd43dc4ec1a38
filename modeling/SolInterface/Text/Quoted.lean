import SolInterface.Text.PrintableRanges
import SolInterface.Text.Surrogate
import SolInterface.Text.Word

/-!
Quoted text as messages show it: between single quotes, or between double quotes if it holds single
ones and no double ones; the quote, the backslash and characters without a visible form are escaped.
-/
namespace SolInterface.Text

/-- Lower-case hexadecimal digits of a number, at least `width` of them. -/
def hexDigits (width n : Nat) : Text :=
  let digits := Nat.toDigits 16 n
  List.replicate (width - digits.length) '0' ++ digits

def isPrintable (c : Char) : Bool :=
  if c.toNat < 128 then 32 ≤ c.toNat && c.toNat < 127 else inRanges printableRanges c.toNat

/-- One character inside a quoted text. -/
def escapeChar (quote c : Char) : Text :=
  if c = quote || c = '\\' then ['\\', c]
  else if c = '\n' then "\\n"
  else if c = '\r' then "\\r"
  else if c = '\t' then "\\t"
  else if let some code := surrogate? c then "\\u" ++ hexDigits 4 code
  else if isPrintable c then [c]
  else if c.toNat < 0x100 then "\\x" ++ hexDigits 2 c.toNat
  else if c.toNat < 0x10000 then "\\u" ++ hexDigits 4 c.toNat
  else "\\U" ++ hexDigits 8 c.toNat

def quote (t : Text) : Text :=
  let mark := if t.contains '\'' && !t.contains '"' then '"' else '\''
  mark :: t.flatMap (escapeChar mark) ++ [mark]

end SolInterface.Text
