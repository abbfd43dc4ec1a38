import SolInterface.Text.Scan
import SolInterface.Directive.Basic

/-!
The flags at the end of a module directive: `--remove A`, `--replace A with B`, `--is A, B` and
`--import path`, in any order and among any other text.
-/
namespace SolInterface.ModuleFlags
open Text

/-- A blank follows, or nothing. -/
def ended (t : Text) : Bool := t.head?.all isBlank

def removeFlag? (t : Text) : Option (Text × Text) := do
  let (name, rest) ← word? (← blanks? (← after? "--remove" t))
  if ended rest then some (name, rest) else none

def replaceFlag? (t : Text) : Option ((Text × Text) × Text) := do
  let (old, rest) ← word? (← blanks? (← after? "--replace" t))
  let (new, rest) ← word? (← blanks? (← after? "with" (← blanks? rest)))
  if ended rest then some ((old, new), rest) else none

/-- The list of names ends here: at the end of the text, or where blanks and another flag follow. -/
def namesEnd (t : Text) : Bool :=
  atEnd t || ((blanks? t).any fun rest => startsWith "--" rest)

/-- The shortest non-empty text within the line after which the list of names ends. -/
def namesUpToEnd? : Text → Option (Text × Text)
  | [] => none
  | c :: r =>
    if c = '\n' then none
    else if namesEnd r then some ([c], r)
    else (namesUpToEnd? r).map fun found => (c :: found.1, found.2)

def basesFlag? (t : Text) : Option (List Text × Text) := do
  let (names, rest) ← namesUpToEnd? (← blanks? (← after? "--is" t))
  some ((commaParts (trim names)).filter fun name => !name.isEmpty, rest)

/-- A quoted path that a blank or nothing follows, and else all up to the next blank. -/
def flagPath? (t : Text) : Option (Text × Text) :=
  match (quoted? t).filter fun found => ended found.2 with
  | some found => some found
  | none =>
    match t.takeWhile fun c => !isBlank c with
    | [] => none
    | path => some (path, t.dropWhile fun c => !isBlank c)

def importFlag? (t : Text) : Option (Text × Text) := do
  flagPath? (← blanks? (← after? "--import" t))

/-- What a reader finds in the text, from left to right. -/
def all {α : Type} (read : Text → Option (α × Text)) (t : Text) : List α :=
  (occurrences (fun _ => read) t).map (·.value)

/-- The flags that stand in the text; the rest of it is ignored. -/
def parse (t : Text) : ModuleFlags where
  remove := all removeFlag? t
  replace := all replaceFlag? t
  bases := (all basesFlag? t).flatten
  imports := all importFlag? t

end SolInterface.ModuleFlags
