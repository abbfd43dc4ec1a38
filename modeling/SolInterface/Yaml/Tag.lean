import SolInterface.Text.Basic

/-!
Tags: what kind of value a node is. The kind of a plain scalar without a tag shows in its text.
-/
namespace SolInterface.Yaml

inductive Tag where
  | null | bool | int | float | timestamp | merge | defaultValue | str | binary
  | seq | map | set | omap | pairs
  /-- A tag to which no kind of value belongs. -/
  | unknown
  deriving DecidableEq, Repr

namespace Tag

def ofText (t : Text) : Tag :=
  match (Text.after? "tag:yaml.org,2002:" t).map String.ofList with
  | some "null" => null
  | some "bool" => bool
  | some "int" => int
  | some "float" => float
  | some "timestamp" => timestamp
  | some "merge" => merge
  | some "value" => defaultValue
  | some "str" => str
  | some "binary" => binary
  | some "seq" => seq
  | some "map" => map
  | some "set" => set
  | some "omap" => omap
  | some "pairs" => pairs
  | _ => unknown

def boolWords : List (String × Bool) :=
  [("yes", true), ("no", false), ("true", true), ("false", false), ("on", true), ("off", false)]

/-- The text without one line feed at its end. -/
def withoutFinalBreak (t : Text) : Text := if t.getLast? == some '\n' then t.dropLast else t

/-- A word in lower case, in upper case, or with a capital letter. -/
def spelled (word : String) (t : Text) : Bool :=
  let w := word.toList
  let capital : Text := match w with
    | c :: r => c.toUpper :: r
    | [] => []
  t == w || t == w.map Char.toUpper || t == capital

/-- Digits and underscores. -/
def isSpaced (digit : Char → Bool) (t : Text) : Bool := t.all fun c => digit c || c == '_'

/-- A number's text without its sign. -/
def unsigned (t : Text) : Text :=
  match t with
  | '-' :: r => r
  | '+' :: r => r
  | _ => t

/-- Digits and underscores that start with a digit. -/
def isSpacedNumber (t : Text) : Bool :=
  match t with
  | c :: r => Text.isDecimal c && isSpaced Text.isDecimal r
  | [] => false

/-- One or two digits, below 60. -/
def isSexagesimalDigit (t : Text) : Bool :=
  match t with
  | [c] => Text.isDecimal c
  | [c, d] => '0' ≤ c && c ≤ '5' && Text.isDecimal d
  | _ => false

/-- Parts between colons of which all but the first are below 60; there is more than one. -/
def isSexagesimal (first : Text → Bool) (t : Text) : Bool :=
  match Text.pieces (· == ':') t with
  | lead :: digit :: more => first lead && (digit :: more).all isSexagesimalDigit
  | _ => false

/-- `e` with a sign and digits, or nothing. -/
def isExponent (t : Text) : Bool :=
  match t with
  | [] => true
  | e :: sign :: d :: more =>
    (e == 'e' || e == 'E') && (sign == '-' || sign == '+') && (d :: more).all Text.isDecimal
  | _ => false

/-- The text before the first point, and the text after it. -/
def atPoint (t : Text) : Option (Text × Text) :=
  match t.dropWhile (· != '.') with
  | _ :: r => some (t.takeWhile (· != '.'), r)
  | [] => none

def isFloat (t : Text) : Bool :=
  let u := unsigned t
  let fraction := fun (f : Text) =>
    isExponent (f.dropWhile fun c => Text.isDecimal c || c == '_')
  let pointed := match atPoint u with
    | some (whole, f) =>
      (isSpacedNumber whole && fraction f) ||
      (isSexagesimal isSpacedNumber whole && isSpaced Text.isDecimal f)
    | none => false
  let bare := match t with
    | '.' :: f => f.head?.any Text.isDecimal && fraction f
    | _ => false
  pointed || bare || [".inf".toList, ".Inf".toList, ".INF".toList].contains u ||
    [".nan".toList, ".NaN".toList, ".NAN".toList].contains t

def isHexDigit (c : Char) : Bool :=
  Text.isDecimal c || ('a' ≤ c && c ≤ 'f') || ('A' ≤ c && c ≤ 'F')

/-- Digits and underscores, at least one of them, none of the digits being a leading zero. -/
def isPlainInteger (t : Text) : Bool :=
  match t with
  | ['0'] => true
  | c :: r => '1' ≤ c && c ≤ '9' && isSpaced Text.isDecimal r
  | [] => false

def isInt (t : Text) : Bool :=
  let u := unsigned t
  let filled := fun (digit : Char → Bool) (r : Text) => !r.isEmpty && isSpaced digit r
  (match u with
    | '0' :: 'b' :: r => filled (fun c => c == '0' || c == '1') r
    | '0' :: 'x' :: r => filled isHexDigit r
    | '0' :: r => filled (fun c => '0' ≤ c && c ≤ '7') r
    | _ => false) ||
  isPlainInteger u ||
  isSexagesimal (fun lead => lead != ['0'] && isPlainInteger lead) u

end Tag
end SolInterface.Yaml
