import SolInterface.Console
import SolInterface.Markup.ColourNames
import SolInterface.Markup.Emoji
import SolInterface.Yaml.Number

/-!
Styles by name. Two names of one style have the same normal form; a name that is no style is its own
normal form, in small letters.
-/
namespace SolInterface.Markup
open Text
open Console (Fault)

/-- The words for attributes, with the names of the attributes. -/
def attributes : List (Text × Text) :=
  [("bold", "bold"), ("b", "bold"), ("dim", "dim"), ("d", "dim"), ("italic", "italic"),
    ("i", "italic"), ("underline", "underline"), ("u", "underline"), ("blink", "blink"),
    ("blink2", "blink2"), ("reverse", "reverse"), ("r", "reverse"), ("conceal", "conceal"),
    ("c", "conceal"), ("strike", "strike"), ("s", "strike"), ("underline2", "underline2"),
    ("uu", "underline2"), ("frame", "frame"), ("encircle", "encircle"), ("overline", "overline"),
    ("o", "overline")]

/-- The names of the attributes, in the order in which they are listed. -/
def attributeOrder : List Text :=
  ["bold", "dim", "italic", "underline", "blink", "blink2", "reverse", "conceal", "strike",
    "underline2", "frame", "encircle", "overline"]

def colours : List Text := words colourTable.toList

/-- What stands between an opening and the end. -/
def between? (opening : Text) (t : Text) : Option Text :=
  match after? opening t, t.getLast? with
  | some inner, some ')' => some inner.dropLast
  | _, _ => none

/-- The three parts of a colour are numbers up to 255. -/
def isTriple (parts : List Text) : Except Fault Bool :=
  match parts with
  | [_, _, _] =>
    match parts.mapM (Yaml.integerOf? 10) with
    | some numbers => .ok (numbers.all (· ≤ 255))
    | none => .error .badColour
  | _ => .ok false

/-- The word, in small letters, is a colour: by name, by number or by its parts. -/
def isColour (word : Text) : Except Fault Bool :=
  if word == "default".toList || colours.contains word then .ok true
  else match word with
    | '#' :: digits =>
      .ok (digits.length == 6 && digits.all fun c => isDecimal c || ('a' ≤ c && c ≤ 'f'))
    | _ =>
      match between? "color(" word, between? "rgb(" word with
      | some digits, _ =>
        .ok (1 ≤ digits.length && digits.length ≤ 3 && digits.all isDecimal &&
          (Yaml.natOf? 10 digits).any (· ≤ 255))
      | none, some parts =>
        if !parts.isEmpty && parts.all fun c => isDigit c || c == ',' then
          isTriple (pieces (· == ',') parts)
        else .ok false
      | none, none => .ok false

structure Style where
  /-- Attributes that are set, or, if false, unset. -/
  attributes : List (Text × Bool) := []
  colour : Option Text := none
  background : Option Text := none
  link : Option Text := none

/-- The style that words describe, one added to what is known; `none` if a word has no meaning. -/
def styleFrom (s : Style) : List Text → Except Fault (Option Style)
  | [] => .ok (some s)
  | first :: rest =>
    let word := lower first
    if word == "on".toList then
      match rest with
      | [] => .ok none
      | colour :: rest => do
        if ← isColour (lower colour) then
          styleFrom { s with background := some (lower colour) } rest
        else return none
    else if word == "not".toList then
      match rest with
      | [] => .ok none
      | name :: rest =>
        match attributes.lookup name with
        | some a => styleFrom { s with attributes := (a, false) :: s.attributes } rest
        | none => .ok none
    else if word == "link".toList then
      match rest with
      | [] => .ok none
      | target :: rest => styleFrom { s with link := some target } rest
    else match attributes.lookup word with
      | some a => styleFrom { s with attributes := (a, true) :: s.attributes } rest
      | none => do
        if ← isColour word then styleFrom { s with colour := some word } rest else return none

/-- The words of a style, in a fixed order. -/
def Style.text (s : Style) : Text :=
  let named := attributeOrder.filterMap fun name =>
    (s.attributes.lookup name).map fun isSet => if isSet then name else "not " ++ name
  let all := named ++ s.colour.toList ++ s.background.toList.map ("on ".toList ++ ·) ++
    s.link.toList.map ("link ".toList ++ ·)
  if all.isEmpty then "none" else joinWith " " all

/-- The style of a name, if it has one. -/
def style? (name : Text) : Except Fault (Option Style) :=
  if trim name == "none".toList then .ok (some {}) else styleFrom {} (words name)

/-- The normal form of a name. -/
def normalName (name : Text) : Except Fault Text := do
  match ← style? name with
  | some s => return s.text
  | none => return lower (trim name)

end SolInterface.Markup
