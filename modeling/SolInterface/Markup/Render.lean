import SolInterface.Markup.Literal
import SolInterface.Markup.Style
import SolInterface.Text.Cells
import SolInterface.Text.Lines

/-!
Markup: tags in brackets open and close styles, and a backslash takes a tag for text. What is shown
has no tags; a text that closes what it did not open cannot be shown.
-/
namespace SolInterface.Markup
open Text
open Console (Fault)

/-- A tag, and what stands after an equals sign in it. -/
structure Tag where
  name : Text
  parameters : Option Text := none
  deriving DecidableEq, Repr

namespace Tag

def ofText (t : Text) : Tag :=
  match t.dropWhile (· != '=') with
  | _ :: parameters => ⟨t.takeWhile (· != '='), some parameters⟩
  | [] => ⟨t, none⟩

/-- The words of the style that a tag opens. -/
def text (tag : Tag) : Text :=
  match tag.parameters with
  | some parameters => Text.cat [tag.name, " ", parameters]
  | none => tag.name

end Tag

/-! Telling tags from text -/

inductive Piece where
  | text (t : Text)
  | tag (tag : Tag)
  deriving DecidableEq, Repr

def startsTag (c : Char) : Bool := ('a' ≤ c && c ≤ 'z') || c == '#' || c == '/' || c == '@'

/-- What stands between an opening bracket and a closing one, and the rest. -/
def bracketed? (t : Text) : Option (Text × Text) :=
  match t with
  | '[' :: c :: r =>
    let body := r.takeWhile fun d => d != '[' && d != ']'
    match startsTag c, r.drop body.length with
    | true, ']' :: rest => some (c :: body, rest)
    | _, _ => none
  | _ => none

/-- A tag after a number of backslashes: each two of them are one, and one that is left over takes
the tag for text. -/
def escapedTag (backslashes : Nat) (body : Text) : List Piece :=
  let shown := if backslashes < 2 then [] else [Piece.text (List.replicate (backslashes / 2) '\\')]
  shown ++ [if backslashes % 2 == 0 then .tag (Tag.ofText body)
    else .text (Text.cat ["[", body, "]"])]

/-- Text up to a place, as a piece of its own. -/
def textPiece (found : Text) : List Piece := if found.isEmpty then [] else [.text found.reverse]

/-- The pieces of a text; `found` is the text before the place, last character first. -/
def piecesFrom : Nat → Text → Text → List Piece
  | 0, found, _ => textPiece found
  | _, found, [] => textPiece found
  | fuel + 1, found, c :: r =>
    let backslashes := (c :: r).takeWhile (· == '\\')
    match bracketed? ((c :: r).drop backslashes.length) with
    | some (body, rest) =>
      textPiece found ++ escapedTag backslashes.length body ++ piecesFrom fuel [] rest
    | none => piecesFrom fuel (c :: found) r

def piecesOf (t : Text) : List Piece := piecesFrom (t.length + 1) [] t

/-! Opening and closing -/

/-- The text shown so far, the open tags, last one first, and all tags that were opened. -/
structure State where
  shown : Text := []
  isOpen : List Tag := []
  opened : List Tag := []

/-- A bracket after a backslash is text. -/
def unescape : Text → Text
  | '\\' :: '[' :: r => '[' :: unescape r
  | c :: r => c :: unescape r
  | [] => []

/-- The arguments that the parameters of an action give: none for a name alone. -/
def argumentsOf (parameters : Text) : Text :=
  let t := trim parameters
  match t.dropWhile fun c => isWord c || c == '.' with
  | [] => "()"
  | '(' :: r => if r.getLast? == some ')' && !r.contains '\n' then '(' :: r else t
  | _ => t

/-- A tag for an action is closed if its arguments have values. -/
def closeAction (tag : Tag) : Except Fault Unit :=
  match tag.name, tag.parameters with
  | '@' :: _, some (c :: r) =>
    if isLiteral (argumentsOf (c :: r)) then .ok () else .error .badArguments
  | _, _ => .ok ()

/-- Closes a tag by its name, or the last one if no name is given. -/
def close (s : State) (name : Text) : Except Fault State := do
  let tag? ← if name.isEmpty then pure s.isOpen.head?
    else do
      let wanted ← normalName name
      pure (s.isOpen.find? fun tag => tag.name == wanted)
  match tag? with
  | none => throw .notOpen
  | some tag =>
    closeAction tag
    return { s with isOpen := s.isOpen.eraseP fun t => name.isEmpty || t.name == tag.name }

def step (s : State) : Piece → Except Fault State
  | .text t => .ok { s with shown := s.shown ++ withEmoji (unescape t) }
  | .tag tag =>
    match tag.name with
    | '/' :: name => close s (trim name)
    | _ => do
      let tag := { tag with name := ← normalName tag.name }
      return { s with isOpen := tag :: s.isOpen, opened := tag :: s.opened }

/-- The style of a tag can be looked up. -/
def checkStyle (tag : Tag) : Except Fault Unit := do
  let _ ← style? tag.text

/-! What is shown -/

/-- Bell, backspace, vertical tab, form feed and carriage return, which are not shown. -/
def isHidden (c : Char) : Bool := [7, 8, 11, 12, 13].contains c.toNat

/-- The text without its tags. -/
def plain (t : Text) : Except Fault Text := do
  let shown ← if t.contains '[' then do
      let s ← (piecesOf t).foldlM step {}
      s.opened.forM checkStyle
      pure s.shown
    else pure (withEmoji t)
  return shown.filter fun c => !isHidden c

/-- The text as it is printed: without tags, and with spaces for tabs. -/
def render (t : Text) : Except Fault Text :=
  (plain t).map fun shown => joinWith ['\n'] ((lines shown).map expandTabs)

/-- The lines of a text in a column that is as wide as its longest line without tabs. -/
def columnLines (t : Text) : Except Fault (List Text) :=
  (plain t).map fun shown =>
    let width := (boundedLines shown).foldl (fun n line => max n (cellLength line)) 0
    (lines shown).map fun line => elided (cropBlanks width (expandTabs line)) width

/-- The lines of a text beside a mark that turns while the work goes on, and is gone when it is
finished. No time passes during a run, so the mark is at its first turn. -/
def progressLines (finished : Bool) (t : Text) : Except Fault (List Text) :=
  (columnLines t).map fun
    | [] => []
    | first :: more =>
      ((if finished then ' ' else '⠋') :: ' ' :: first) :: more.map fun line => "  ".toList ++ line

/-- The console that reads this markup. -/
def console : Console := ⟨render, progressLines⟩

end SolInterface.Markup
