import SolInterface.Text.Basic

/-!
The fewest decimal digits that a double can be read back from, and the way they are written: with a
point between 10^-4 and 10^16, and with an exponent beyond.
-/
namespace SolInterface.Value

/-- The magnitude `mantissa * 2 ^ exponent` of a finite double. -/
structure Magnitude where
  mantissa : Nat
  exponent : Int
  deriving DecidableEq, Repr

/-- The least mantissa of a double that is not close to zero. -/
def leastMantissa : Nat := 4503599627370496

def magnitude (x : Float) : Magnitude :=
  let bits := x.toBits.toNat
  let fraction := bits % leastMantissa
  match bits / leastMantissa % 2048 with
  | 0 => ⟨fraction, -1074⟩
  | e => ⟨fraction + leastMantissa, e - 1075⟩

def isNegative (x : Float) : Bool := 9223372036854775808 ≤ x.toBits.toNat

/-- A ratio of natural numbers, the second not being zero. -/
structure Ratio where
  top : Nat
  bottom : Nat
  deriving DecidableEq, Repr

/-- `n * base ^ e`. -/
def Ratio.scaled (n base : Nat) (e : Int) : Ratio :=
  if e < 0 then ⟨n, Nat.pow base e.natAbs⟩ else ⟨n * Nat.pow base e.natAbs, 1⟩

def Ratio.le (a b : Ratio) : Bool := a.top * b.bottom ≤ b.top * a.bottom

/-- The double is a whole number, and it is this one. -/
def isWhole (x : Float) (n : Int) : Bool :=
  let m := magnitude x
  let r := Ratio.scaled m.mantissa 2 m.exponent
  x.isFinite && r.top == n.natAbs * r.bottom && (n == 0 || isNegative x == decide (n < 0))

namespace Magnitude

/-- The numbers that are read back as the double: the ends, and whether they belong to it. -/
def interval (m : Magnitude) : Ratio × Ratio × Bool :=
  let isEdge := m.mantissa == leastMantissa && -1074 < m.exponent
  let low := 4 * m.mantissa - (if isEdge then 1 else 2)
  (.scaled low 2 (m.exponent - 2), .scaled (4 * m.mantissa + 2) 2 (m.exponent - 2),
    m.mantissa % 2 == 0)

/-- The place of the first digit that is not zero: 1 for units, 0 for tenths. -/
def leadingPlace (m : Magnitude) : Int :=
  let r := Ratio.scaled m.mantissa 2 m.exponent
  ((Nat.toDigits 10 (r.top * Nat.pow 10 400 / r.bottom)).length : Int) - 400

/-- The nearest number of `count` digits that is read back as the double. -/
def withDigits? (m : Magnitude) (count : Nat) : Option (Nat × Int) :=
  let place := m.leadingPlace - count
  let r := Ratio.scaled m.mantissa 2 m.exponent
  let unit := Ratio.scaled 1 10 place
  let (low, high, closed) := m.interval
  let fits := fun (n : Nat) =>
    let c : Ratio := ⟨n * unit.top, unit.bottom⟩
    if closed then low.le c && c.le high else !c.le low && !high.le c
  let below := r.top * unit.bottom / (r.bottom * unit.top)
  -- Twice the distance from the lower neighbour, against one step of the grid.
  let twice := 2 * (r.top * unit.bottom - below * (r.bottom * unit.top))
  let step := r.bottom * unit.top
  let nearer := if twice < step || (twice == step && below % 2 == 0) then below else below + 1
  let other := if nearer == below then below + 1 else below
  if fits nearer then some (nearer, place) else if fits other then some (other, place) else none

/-- The fewest digits that are read back as the double, and the place before the first one. -/
def digits (m : Magnitude) : Text × Int :=
  match (List.range 17).findSome? fun i => m.withDigits? (i + 1) with
  | some (n, place) =>
    let all := Nat.toDigits 10 n
    ((all.reverse.dropWhile (· == '0')).reverse, place + all.length)
  | none => ([], 0)

end Magnitude

/-- Digits with a point: `point` of them stand before it. -/
def positional (digits : Text) (point : Int) : Text :=
  if point ≤ 0 then "0." ++ List.replicate point.natAbs '0' ++ digits
  else
    let n := point.toNat
    let fraction := digits.drop n
    digits.take n ++ List.replicate (n - digits.length) '0' ++ ['.'] ++
      (if fraction.isEmpty then ['0'] else fraction)

/-- Digits with an exponent of at least two digits. -/
def scientific (digits : Text) (point : Int) : Text :=
  let e := point - 1
  let size := Text.ofNat e.natAbs
  digits.take 1 ++ (if digits.length ≤ 1 then [] else '.' :: digits.drop 1) ++
    ['e', if e < 0 then '-' else '+'] ++ List.replicate (2 - size.length) '0' ++ size

def floatText (x : Float) : Text :=
  if x.isNaN then "nan"
  else
    let unsigned : Text :=
      if x.isInf then "inf"
      else if x == 0 then "0.0"
      else
        let (digits, point) := (magnitude x).digits
        if -4 < point ∧ point ≤ 16 then positional digits point else scientific digits point
    if isNegative x then '-' :: unsigned else unsigned

end SolInterface.Value
