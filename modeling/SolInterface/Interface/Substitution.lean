import SolInterface.Renaming
import SolInterface.Text.Blank

/-!
Renaming types in a fragment of a signature. A fragment that is a renamed type is replaced as a
whole; elsewhere a type stands at the start or after an opening parenthesis, a comma or a blank, and
before a blank, a comma, a closing parenthesis or an opening bracket.
-/
namespace SolInterface.Renaming
open Text

/-- A type may start after this character; `none` is the start of the fragment. -/
def opensType : Option Char → Bool
  | none => true
  | some c => c == '(' || c == ',' || isBlank c

/-- A type may end before this text. -/
def closesType : Text → Bool
  | [] => false
  | c :: _ => isBlank c || c == ',' || c == ')' || c == '['

/-- The text with `new` for `old` wherever it stands as a type. The first argument counts the
characters of the last occurrence that are still to pass, the second is the character before. -/
def replaceFrom (old new : Text) : Nat → Option Char → Text → Text
  | _, _, [] => []
  | skip + 1, _, c :: r => replaceFrom old new skip (some c) r
  | 0, before, c :: r =>
    match after? old (c :: r) with
    | some rest =>
      if opensType before && closesType rest then
        match old with
        | [] => new ++ c :: replaceFrom old new 0 (some c) r
        | _ :: more => new ++ replaceFrom old new more.length (some c) r
      else c :: replaceFrom old new 0 (some c) r
    | none => c :: replaceFrom old new 0 (some c) r

/-- One entry of a renaming applied to a fragment. -/
def replaceType (text : Text) (entry : Text × Text) : Text :=
  if text = entry.1 then entry.2 else replaceFrom entry.1 entry.2 0 none text

/-- The fragment with its types renamed, entry by entry. -/
def applyTypes (r : Renaming) (text : Text) : Text :=
  if text.isEmpty then text else r.pairs.foldl replaceType text

end SolInterface.Renaming
