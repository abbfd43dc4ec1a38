import SolInterface.Text.Word
import SolInterface.Yaml.Error

/-!
Numbers as scalars write them: integers in four bases and in parts of base 60, and decimal
fractions. Digits of any script count, and underscores between them do not.
-/
namespace SolInterface.Yaml
open Text

/-- A sign, which may be missing, and the rest. -/
def signed (t : Text) : Bool × Text :=
  match t with
  | '-' :: r => (true, r)
  | '+' :: r => (false, r)
  | _ => (false, t)

/-- The ASCII digit for a decimal digit of any script; a blank beyond ASCII is a space. -/
def plainDigit (c : Char) : Char :=
  if c.toNat < 128 then c
  else if isBlank c then ' '
  else match digitRanges.find? fun r => r.1 ≤ c.toNat && c.toNat ≤ r.2 with
    | some r => Char.ofNat (48 + (c.toNat - r.1) % 10)
    | none => c

def isNumberBlank (c : Char) : Bool := c == ' ' || ('\t' ≤ c && c ≤ '\r')

/-- A number's text in ASCII digits, without the blanks at either end. -/
def numberText (t : Text) : Text :=
  (((t.map plainDigit).dropWhile isNumberBlank).reverse.dropWhile isNumberBlank).reverse

def digitValue? (c : Char) : Option Nat :=
  if '0' ≤ c && c ≤ '9' then some (c.toNat - 48)
  else if 'a' ≤ c && c ≤ 'z' then some (c.toNat - 87)
  else if 'A' ≤ c && c ≤ 'Z' then some (c.toNat - 55)
  else none

/-- The number that non-empty digits of a base write. -/
def natOf? (base : Nat) (digits : Text) : Option Nat :=
  if digits.isEmpty then none
  else digits.foldl (fun n c => do
    let d ← digitValue? c
    if d < base then some ((← n) * base + d) else none) (some 0)

/-- The letter that may stand after a zero before the digits of a base. -/
def baseLetter : Nat → List Char
  | 2 => ['b', 'B']
  | 8 => ['o', 'O']
  | 16 => ['x', 'X']
  | _ => []

/-- The digits without the mark of their base. -/
def withoutMark (base : Nat) (t : Text) : Text :=
  match t with
  | '0' :: c :: r => if (baseLetter base).contains c then r else t
  | _ => t

/-- The most digits that a decimal integer may have. -/
def mostDigits : Nat := 4300

/-- The integer that digits write, with a sign and a mark of the base, among blanks. -/
def integerOf? (base : Nat) (t : Text) : Option Int :=
  let (negative, digits) := signed (numberText t)
  let digits := withoutMark base digits
  if base = 10 && mostDigits < digits.length then none
  else (natOf? base digits).map fun n => if negative then -(n : Int) else n

def intOf (t : Text) : Except Error Int := do
  let t := t.filter (· != '_')
  if t.isEmpty then throw .emptyNumber
  let (negative, u) := signed t
  if u.isEmpty then throw .emptyNumber
  let magnitude? : Option Int := match u with
    | ['0'] => some 0
    | '0' :: 'b' :: r => integerOf? 2 r
    | '0' :: 'x' :: r => integerOf? 16 r
    | '0' :: r => integerOf? 8 ('0' :: r)
    | _ =>
      if u.contains ':' then
        ((pieces (· == ':') u).mapM (integerOf? 10)).map fun parts =>
          parts.foldl (fun n d => n * 60 + d) 0
      else integerOf? 10 u
  match magnitude? with
  | some n => return if negative then -n else n
  | none => throw .badNumber

def infinity : Float := 1.0 / 0.0

def notNumber : Float := 0.0 / 0.0

/-- The exponent of a decimal number: nothing, or `e` and an integer. -/
def exponentOf? (t : Text) : Option Int :=
  match t with
  | [] => some 0
  | 'e' :: r =>
    let (negative, digits) := signed r
    if digits.all isDecimal then
      (natOf? 10 digits).map fun n => if negative then -(n : Int) else n
    else none
  | _ => none

/-- A decimal number in so many tenths; an exponent beyond all doubles is cut short. -/
def scaled (digits : Nat) (shift : Int) : Float :=
  if digits = 0 then 0
  else
    let width : Int := (Nat.toDigits 10 digits).length
    if 400 < shift + width then infinity
    else if shift + width < -400 then 0
    else Float.ofScientific digits (shift < 0) shift.natAbs

/-- The number that digits with a point and an exponent write, each of which may be missing; or the
name of infinity, or of what is no number. -/
def decimalOf? (t : Text) : Option Float := do
  let (negative, u) := signed (numberText t)
  let x ←
    if u == "inf".toList || u == "infinity".toList then some infinity
    else if u == "nan".toList then some notNumber
    else do
      let whole := u.takeWhile isDecimal
      let (fraction, rest) := match u.dropWhile isDecimal with
        | '.' :: r => (r.takeWhile isDecimal, r.dropWhile isDecimal)
        | r => ([], r)
      let digits ← natOf? 10 (whole ++ fraction)
      some (scaled digits ((← exponentOf? rest) - fraction.length))
  some (if negative then -x else x)

/-- The sum of parts of base 60, the least first, each being multiplied by its power of the base. -/
def weighedSum : Nat → Float → List Float → Except Error Float
  | _, sum, [] => .ok sum
  | power, sum, part :: rest =>
    let weight := scaled power 0
    if weight == infinity then .error .overflow
    else weighedSum (power * 60) (sum + part * weight) rest

def floatOf (t : Text) : Except Error Float := do
  let t := (t.filter (· != '_')).map Char.toLower
  if t.isEmpty then throw .emptyNumber
  let (negative, u) := signed t
  let magnitude ←
    if u == ".inf".toList then pure infinity
    else if u == ".nan".toList then pure notNumber
    else if u.contains ':' then
      match (pieces (· == ':') u).mapM decimalOf? with
      | some parts => weighedSum 1 0 parts.reverse
      | none => throw .badNumber
    else match decimalOf? u with
      | some x => pure x
      | none => throw .badNumber
  return if negative then -magnitude else magnitude

end SolInterface.Yaml
