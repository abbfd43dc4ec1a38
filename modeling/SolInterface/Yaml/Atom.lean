import SolInterface.Value.Basic
import SolInterface.Yaml.Number

/-!
What the text of a scalar says under each tag.
-/
namespace SolInterface.Yaml

/-- The value of a character in the alphabet of sixty-four. -/
def sextet? (c : Char) : Option Nat :=
  if 'A' ≤ c && c ≤ 'Z' then some (c.toNat - 65)
  else if 'a' ≤ c && c ≤ 'z' then some (c.toNat - 71)
  else if '0' ≤ c && c ≤ '9' then some (c.toNat + 4)
  else if c == '+' then some 62
  else if c == '/' then some 63
  else none

/-- The whole bytes in a group of two to four sextets. -/
def groupBytes : List Nat → List UInt8
  | [a, b] => [(a * 4 + b / 16).toUInt8]
  | [a, b, c] => [(a * 4 + b / 16).toUInt8, (b * 16 + c / 4).toUInt8]
  | [a, b, c, d] => [(a * 4 + b / 16).toUInt8, (b * 16 + c / 4).toUInt8, (c * 64 + d).toUInt8]
  | _ => []

/-- Bytes in base 64, a group having been read in part. Characters of no meaning are passed over,
and padding that completes a group ends the text. -/
def base64From (group : List Nat) (pads : Nat) : Text → Option (List UInt8)
  | [] => if group.isEmpty then some [] else none
  | c :: r =>
    if c == '=' then
      if group.length < 2 then base64From group pads r
      else if 4 ≤ group.length + pads + 1 then some (groupBytes group)
      else base64From group (pads + 1) r
    else match sextet? c with
      | none => base64From group pads r
      | some d =>
        if group.length = 3 then (base64From [] 0 r).map (groupBytes (group ++ [d]) ++ ·)
        else base64From (group ++ [d]) 0 r

def binaryOf (t : Text) : Except Error (List UInt8) :=
  match if t.all fun c => c.toNat < 128 then base64From [] 0 t else none with
  | some bytes => .ok bytes
  | none => .error .malformed

def boolOf (t : Text) : Except Error Bool :=
  match Tag.boolWords.find? fun w => w.1.toList == t.map Char.toLower with
  | some w => .ok w.2
  | none => .error .badBoolean

def momentOf (t : Text) : Except Error Timestamp :=
  match Timestamp.ofText? t with
  | some s => if s.isValid then .ok s else .error .badNumber
  | none => .error .badTimestamp

/-- The atom that a text says under a tag; only the tags of atoms have one. -/
def atomOf (tag : Tag) (t : Text) : Except Error Atom :=
  match tag with
  | .null => .ok .null
  | .bool => (boolOf t).map .bool
  | .int => (intOf t).map .int
  | .float => (floatOf t).map .float
  | .timestamp => (momentOf t).map .moment
  | .str => .ok (.text t)
  | .binary => (binaryOf t).map .bytes
  | _ => .error .malformed

end SolInterface.Yaml
