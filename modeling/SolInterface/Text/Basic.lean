/-!
Text as a list of characters, with the operations that every reader of source text shares:
splitting at a class of characters, finding one text inside another, writing a number.
Strings serve for literals and at the edge of the program only.
-/
namespace SolInterface

/-- Text is its list of characters. -/
abbrev Text := List Char

instance : Coe String Text := ⟨String.toList⟩

namespace Text

/-- The parts between the characters of the class `p`: one more than there are such characters. -/
def pieces (p : Char → Bool) : Text → List Text
  | [] => [[]]
  | c :: r =>
    if p c then [] :: pieces p r
    else match pieces p r with
      | [] => [[c]]
      | w :: ws => (c :: w) :: ws

/-- What follows `lead`, if the text starts with it. -/
def after? : Text → Text → Option Text
  | [], t => some t
  | _ :: _, [] => none
  | a :: lead, c :: t => if a = c then after? lead t else none

def startsWith (lead t : Text) : Bool := lead.isPrefixOf t

/-- `part` stands somewhere in the text. -/
def occursIn (part : Text) : Text → Bool
  | [] => part.isEmpty
  | c :: r => part.isPrefixOf (c :: r) || occursIn part r

/-- The text without the first occurrence of `part`. -/
def eraseFirst (part : Text) : Text → Text
  | [] => []
  | c :: r => (after? part (c :: r)).getD (c :: eraseFirst part r)

/-- One of the digits 0 to 9. -/
def isDecimal (c : Char) : Bool := '0' ≤ c && c ≤ '9'

/-- Decimal digits of a number. -/
def ofNat (n : Nat) : Text := Nat.toDigits 10 n

/-- Decimal digits of an integer, with a minus sign below zero. -/
def ofInt : Int → Text
  | .ofNat n => ofNat n
  | .negSucc n => '-' :: ofNat (n + 1)

/-- Parts with `sep` between neighbours. -/
def joinWith (sep : Text) (parts : List Text) : Text := sep.intercalate parts

/-- Parts one after the other. -/
def cat (parts : List Text) : Text := parts.flatten

end Text
end SolInterface
