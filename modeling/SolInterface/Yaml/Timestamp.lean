import SolInterface.Yaml.Tag

/-!
Dates and times of day: their form, and whether they name a moment.
-/
namespace SolInterface.Yaml

structure TimeOfDay where
  hour : Nat
  minute : Nat
  second : Nat
  microsecond : Nat := 0
  /-- Minutes east of universal time, if a zone is given. -/
  zone : Option Int := none
  deriving DecidableEq, Repr

/-- The parts of a timestamp; `time` is missing in a date. -/
structure Timestamp where
  year : Nat
  month : Nat
  day : Nat
  time : Option TimeOfDay := none
  deriving DecidableEq, Repr

namespace Timestamp
open Text Tag

def number (digits : Text) : Nat := digits.foldl (fun n c => n * 10 + (c.toNat - 48)) 0

/-- Between `least` and `most` digits, and what follows them. -/
def digits? (least most : Nat) (t : Text) : Option (Nat × Text) :=
  let found := (t.take most).takeWhile Text.isDecimal
  if least ≤ found.length then some (number found, t.drop found.length) else none

def isGapChar (c : Char) : Bool := c == ' ' || c == '\t'

/-- The zone at the end: nothing, `Z`, or a sign with hours and perhaps minutes. -/
def zone? (t : Text) : Option (Option Int) :=
  match t.dropWhile isGapChar with
  | [] => if t.isEmpty then some none else none
  | ['Z'] => some (some 0)
  | sign :: r =>
    if sign == '-' || sign == '+' then do
      let (hours, r) ← digits? 1 2 r
      let minutes ← match r with
        | [] => some 0
        | ':' :: r => do
          let (minutes, r) ← digits? 2 2 r
          if r.isEmpty then some minutes else none
        | _ => none
      let east : Int := hours * 60 + minutes
      some (some (if sign == '-' then -east else east))
    else none

/-- The digits after the second, of which six count. -/
def microseconds (fraction : Text) : Nat :=
  number ((fraction ++ List.replicate 6 '0').take 6)

def time? (t : Text) : Option TimeOfDay := do
  let (hour, r) ← digits? 1 2 t
  let (minute, r) ← digits? 2 2 (← after? ":" r)
  let (second, r) ← digits? 2 2 (← after? ":" r)
  let (fraction, r) := match r with
    | '.' :: r => (r.takeWhile Text.isDecimal, r.dropWhile Text.isDecimal)
    | r => ([], r)
  some ⟨hour, minute, second, microseconds fraction, ← zone? r⟩

/-- What divides a date from a time: the letter T, or spaces and tabs. -/
def afterDivider? (t : Text) : Option Text :=
  match t with
  | c :: r =>
    if c == 'T' || c == 't' then some r
    else if isGapChar c then some (r.dropWhile isGapChar)
    else none
  | [] => none

/-- The timestamp that a text writes, a final line break apart. -/
def ofText? (t : Text) : Option Timestamp := do
  let (year, r) ← digits? 4 4 (withoutFinalBreak t)
  let (month, r) ← digits? 1 2 (← after? "-" r)
  let (day, r) ← digits? 1 2 (← after? "-" r)
  if r.isEmpty then some { year, month, day }
  else some { year, month, day, time := some (← time? (← afterDivider? r)) }

/-- The text is a timestamp without a tag that says so: a date alone has two digits for the month
and for the day. -/
def isImplied (t : Text) : Bool :=
  match ofText? t with
  | some s => s.time.isSome || (withoutFinalBreak t).length == 10
  | none => false

def isLeap (year : Nat) : Bool := year % 4 == 0 && (year % 100 != 0 || year % 400 == 0)

def monthLength (year month : Nat) : Nat :=
  if month == 2 then (if isLeap year then 29 else 28)
  else if month == 4 || month == 6 || month == 9 || month == 11 then 30
  else 31

/-- The parts are in range. -/
def isValid (s : Timestamp) : Bool :=
  1 ≤ s.year && 1 ≤ s.month && s.month ≤ 12 && 1 ≤ s.day && s.day ≤ monthLength s.year s.month &&
    s.time.all fun t =>
      t.hour < 24 && t.minute < 60 && t.second < 60 && t.zone.all fun east => east.natAbs < 1440

/-- Days from the year 0 to the start of a year. -/
def daysBefore (year : Nat) : Nat :=
  let y := year - 1
  365 * y + y / 4 - y / 100 + y / 400

def dayNumber (s : Timestamp) : Nat :=
  (List.range (s.month - 1)).foldl (fun n m => n + monthLength s.year (m + 1))
    (daysBefore s.year + s.day)

/-- Microseconds of universal time, or of the place's own time where no zone is given. -/
def instant (s : Timestamp) (t : TimeOfDay) : Int :=
  let minutes : Int := s.dayNumber * 1440 + t.hour * 60 + t.minute - t.zone.getD 0
  (minutes * 60 + t.second) * 1000000 + t.microsecond

/-- Both name the same day, or the same moment. -/
def names (s other : Timestamp) : Bool :=
  match s.time, other.time with
  | some t, some u => t.zone.isSome == u.zone.isSome && s.instant t == other.instant u
  | none, none => s == other
  | _, _ => false

end Timestamp

/-- The kind of a plain scalar. -/
def Tag.ofPlain (t : Text) : Tag :=
  let u := withoutFinalBreak t
  if t.head? == some '\n' then .str
  else if boolWords.any fun w => spelled w.1 u then .bool
  else if isFloat u then .float
  else if isInt u then .int
  else if u == "<<".toList then .merge
  else if u.isEmpty || u == ['~'] || spelled "null" u then .null
  else if Timestamp.isImplied t then .timestamp
  else if u == ['='] then .defaultValue
  else .str

end SolInterface.Yaml
