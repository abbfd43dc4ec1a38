import SolInterface.Text.Quoted
import SolInterface.Text.Utf8
import SolInterface.Value.Basic

/-!
Values as messages show them. A long one is shown by its start and its end.
-/
namespace SolInterface
open Text

/-- One byte inside quoted bytes. -/
def escapeByte (mark : Char) (b : UInt8) : Text :=
  let c := Char.ofNat b.toNat
  if c = mark || c = '\\' then ['\\', c]
  else if c = '\n' then "\\n"
  else if c = '\r' then "\\r"
  else if c = '\t' then "\\t"
  else if 32 ≤ c.toNat && c.toNat < 127 then [c]
  else "\\x" ++ hexDigits 2 c.toNat

def quoteBytes (bs : List UInt8) : Text :=
  let mark := if bs.contains 39 && !bs.contains 34 then '"' else '\''
  'b' :: mark :: bs.flatMap (escapeByte mark) ++ [mark]

/-- A call with its arguments. -/
def shownCall (name : Text) (arguments : List Text) : Text :=
  cat [name, "(", joinWith ", " arguments, ")"]

namespace Yaml

/-- A zone by its distance from universal time, as days and seconds of which the seconds are not
negative. -/
def shownZone (east : Int) : Text :=
  if east = 0 then "datetime.timezone.utc"
  else
    let span : Text :=
      if east < 0 then cat ["days=-1, seconds=", ofInt ((east + 1440) * 60)]
      else "seconds=" ++ ofInt (east * 60)
    shownCall "datetime.timezone" [shownCall "datetime.timedelta" [span]]

def Timestamp.shown (s : Timestamp) : Text :=
  let day := [ofNat s.year, ofNat s.month, ofNat s.day]
  match s.time with
  | none => shownCall "datetime.date" day
  | some t =>
    let seconds :=
      if t.microsecond ≠ 0 then [ofNat t.second, ofNat t.microsecond]
      else if t.second ≠ 0 then [ofNat t.second]
      else []
    let zone := t.zone.toList.map fun east => "tzinfo=" ++ shownZone east
    shownCall "datetime.datetime" (day ++ [ofNat t.hour, ofNat t.minute] ++ seconds ++ zone)

end Yaml

namespace Atom

/-- The digits that an integer may have to be shown. -/
def mostShownDigits : Nat := 4300

def shown? : Atom → Option Text
  | null => some "None"
  | bool b => some (if b then "True" else "False")
  | int n =>
    let digits := ofNat n.natAbs
    if mostShownDigits < digits.length then none
    else some (if n < 0 then '-' :: digits else digits)
  | float x => some (Value.floatText x)
  | text t => some (quote t)
  | bytes bs => some (quoteBytes bs)
  | moment s => some s.shown

/-- The name of the kind of an atom. -/
def kind : Atom → Text
  | null => "NoneType"
  | bool _ => "bool"
  | int _ => "int"
  | float _ => "float"
  | text _ => "str"
  | bytes _ => "bytes"
  | moment s => if s.time.isSome then "datetime" else "date"

end Atom

namespace Value

mutual

/-- The value as text, unless an integer in it is too long to be shown. -/
def shown? : Value → Option Text
  | atom a => a.shown?
  | pair a b => do some (cat ["(", ← shown? a, ", ", ← shown? b, ")"])
  | seq items => do some (cat ["[", joinWith ", " (← shownItems? items), "]"])
  | set items =>
    if items.isEmpty then some "set()"
    else do some (cat ["\x7b", joinWith ", " (← items.mapM Atom.shown?), "\x7d"])
  | map entries => do some (cat ["\x7b", joinWith ", " (← shownEntries? entries), "\x7d"])
  | enclosing isMap => some (if isMap then "\x7b...\x7d" else "[...]")

def shownItems? : List Value → Option (List Text)
  | [] => some []
  | v :: rest => do some ((← shown? v) :: (← shownItems? rest))

def shownEntries? : List (Atom × Value) → Option (List Text)
  | [] => some []
  | (k, v) :: rest => do some (cat [← k.shown?, ": ", ← shown? v] :: (← shownEntries? rest))

end

def kind : Value → Text
  | atom a => a.kind
  | pair _ _ => "tuple"
  | seq _ => "list"
  | set _ => "set"
  | map _ => "dict"
  | enclosing isMap => if isMap then "dict" else "list"

def shown (v : Value) : Text := v.shown?.getD (cat ["<unprintable ", v.kind, " object>"])

/-- The longest start of a text within so many bytes. -/
def startWithin : Nat → Text → Text
  | _, [] => []
  | n, c :: r =>
    let size := (Utf8.encode [c]).length
    if size ≤ n then c :: startWithin (n - size) r else []

/-- The longest end of a text within so many bytes. -/
def endWithin (n : Nat) (t : Text) : Text := (startWithin n t.reverse).reverse

/-- The text, or its start and its end if it has more than fifty bytes. -/
def clipped (t : Text) : Text :=
  if 50 < (Utf8.encode t).length then cat [startWithin 25 t, "...", endWithin 24 t] else t

end Value
end SolInterface
