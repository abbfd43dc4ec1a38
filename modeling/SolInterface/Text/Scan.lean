import SolInterface.Text.Word

/-!
Reading a text from the left. A reader takes the text that is left and gives what it read with what
follows, or `none`. `firstMatch` tries a reader at every position, `occurrences` lists its
successive matches, which do not overlap, with the number of the line on which each starts.
-/
namespace SolInterface.Text

/-- A non-empty text between double quotes, and what follows the closing quote. -/
def quoted? : Text → Option (Text × Text)
  | '"' :: r =>
    match r.takeWhile (· != '"'), r.dropWhile (· != '"') with
    | [], _ => none
    | body, '"' :: rest => some (body, rest)
    | _, _ => none
  | _ => none

/-- The text up to the first closing parenthesis after an opening one, and what follows it. -/
def parenthesised? : Text → Option (Text × Text)
  | '(' :: r =>
    match r.dropWhile (· != ')') with
    | ')' :: rest => some (r.takeWhile (· != ')'), rest)
    | _ => none
  | _ => none

/-- What is left is nothing, or a single line feed. -/
def atEnd (t : Text) : Bool := t == [] || t == ['\n']

/-- Blanks, then the rest of the line: the non-empty text that follows the blanks, up to a line
feed. Where only blanks are left, the last one that is no line feed is that text, if a blank stands
before it. -/
def lineTail? (t : Text) : Option (Text × Text) :=
  match t.takeWhile isBlank, t.dropWhile isBlank with
  | [], _ => none
  | _ :: more, [] =>
    match more.reverse.dropWhile (· == '\n') with
    | [] => none
    | c :: _ => some ([c], more.reverse.takeWhile (· == '\n'))
  | _, rest => some (rest.takeWhile (· != '\n'), rest.dropWhile (· != '\n'))

/-- The first of `options` that the text starts with, and the rest. -/
def oneOf? {α : Type} (options : List (Text × α)) (t : Text) : Option (α × Text) :=
  options.findSome? fun o => (after? o.1 t).map fun rest => (o.2, rest)

/-- The reader's answer at the first position where it has one. -/
def firstMatch {α : Type} (read : Text → Option α) : Text → Option α
  | [] => read []
  | c :: r =>
    match read (c :: r) with
    | some a => some a
    | none => firstMatch read r

/-- What a reader found: the line it starts on, the text it covers, and its answer. -/
structure Occurrence (α : Type) where
  line : Nat
  text : Text
  value : α

/-- Successive matches, `skip` characters of the last one being still to pass. The reader is told
whether a word character stands before the text. -/
def occurrencesFrom {α : Type} (read : Bool → Text → Option (α × Text)) :
    Nat → Bool → Nat → Text → List (Occurrence α)
  | _, _, _, [] => []
  | skip + 1, _, line, c :: r =>
    occurrencesFrom read skip (isWord c) (if c = '\n' then line + 1 else line) r
  | 0, inWord, line, c :: r =>
    let next := if c = '\n' then line + 1 else line
    match read inWord (c :: r) with
    | some (a, rest) =>
      let used := r.length + 1 - rest.length
      ⟨line, (c :: r).take used, a⟩ :: occurrencesFrom read (used - 1) (isWord c) next r
    | none => occurrencesFrom read 0 (isWord c) next r

/-- The matches of a reader from left to right, none overlapping the one before it. -/
def occurrences {α : Type} (read : Bool → Text → Option (α × Text)) (t : Text) :
    List (Occurrence α) :=
  occurrencesFrom read 0 false 1 t

end SolInterface.Text
