import SolInterface.Markup.EmojiTable
import SolInterface.Text.Blank
import SolInterface.Text.Lower

/-!
Emoji by name: a name between colons stands for the emoji, whatever its case.
-/
namespace SolInterface.Markup
open Text

def hexDigit (c : Char) : Nat := if c.isDigit then c.toNat - 48 else c.toNat - 55

def ofHex (digits : Text) : Char := Char.ofNat (digits.foldl (fun n c => n * 16 + hexDigit c) 0)

/-- An entry of the table. -/
def emojiEntry (t : Text) : Text × Text :=
  (t.takeWhile (· != '='), (pieces (· == '.') ((t.dropWhile (· != '=')).drop 1)).map ofHex)

/-- Emoji with their names. -/
def emoji : List (Text × Text) := (words emojiTable.toList).map emojiEntry

/-- Endings of a name that ask for one of two forms of the emoji, with what marks the form. -/
def emojiForms : List (Text × Char) :=
  [("-emoji", Char.ofNat 0xFE0F), ("-text", Char.ofNat 0xFE0E)]

/-- The emoji of a name, in the form that it asks for. -/
def emojiOf? (name : Text) : Option Text :=
  match emojiForms.find? fun form => form.1.isSuffixOf name with
  | some (ending, mark) =>
    (emoji.lookup (lower (name.take (name.length - ending.length)))).map (· ++ [mark])
  | none => emoji.lookup (lower name)

/-- The name that a closing colon ends, and what follows the colon. -/
def colonName? : Text → Option (Text × Text)
  | [] => none
  | c :: r =>
    if c == ':' then some ([], r)
    else if isBlank c then none
    else (colonName? r).map fun found => (c :: found.1, found.2)

/-- The text with emoji for their names. A name that no emoji has stays, with both of its colons. -/
def withEmojiFrom : Nat → Text → Text
  | 0, t => t
  | _, [] => []
  | fuel + 1, c :: r =>
    if c == ':' then
      match colonName? r with
      | some (name, rest) =>
        (emojiOf? name).getD (':' :: name ++ [':']) ++ withEmojiFrom fuel rest
      | none => c :: withEmojiFrom fuel r
    else c :: withEmojiFrom fuel r

def withEmoji (t : Text) : Text := withEmojiFrom t.length t

end SolInterface.Markup
