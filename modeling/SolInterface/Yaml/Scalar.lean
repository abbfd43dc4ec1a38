import SolInterface.Text.Surrogate
import SolInterface.Yaml.Error
import SolInterface.Yaml.Glyph

/-!
Reading the text of scalars: plain, between quotes, and in blocks. Lines are folded as the style
asks.
-/
namespace SolInterface.Yaml

open Glyphs

/-! Plain scalars -/

/-- The text of a plain scalar up to a gap or an indicator. -/
def plainRun (inFlow : Bool) : Glyphs → Text × Glyphs
  | [] => ([], [])
  | g :: r =>
    let next := peek r
    let stops :=
      isGap g.char ||
      (g.char == ':' && (isGap next || (inFlow && ",[]\x7b\x7d".toList.contains next))) ||
      (inFlow && ",?[]\x7b\x7d".toList.contains g.char)
    if stops then ([], g :: r) else ((g.char :: (plainRun inFlow r).1), (plainRun inFlow r).2)

/-- Spaces and line breaks after the first break: the breaks, whether a document separator ends
them, and what follows. -/
def plainBreaks : Glyphs → Text × Bool × Glyphs
  | [] => ([], false, [])
  | g :: r =>
    if isBreak g.char then
      if atSeparator r then ([], true, r)
      else
        let (breaks, ended, rest) := plainBreaks r
        (breakText g.char ++ breaks, ended, rest)
    else if g.char == ' ' then plainBreaks r
    else ([], false, g :: r)

/-- What stands between two runs of a plain scalar. -/
structure PlainGap where
  /-- What the gap is read as; empty where the scalar ends. -/
  text : Text
  sawBreak : Bool
  rest : Glyphs

/-- A folded line break: a lone line feed is a space, and else the breaks after the first. -/
def fold (first breaks : Text) : Text :=
  if first != ['\n'] then first ++ breaks else if breaks.isEmpty then [' '] else breaks

def plainGap (gs : Glyphs) : PlainGap :=
  let (spaces, rest) := span (· == ' ') gs
  if isBreak (peek rest) then
    let (first, rest) := lineBreak rest
    if atSeparator rest then ⟨[], true, rest⟩
    else
      let (breaks, ended, rest) := plainBreaks rest
      ⟨if ended then [] else fold first breaks, true, rest⟩
  else ⟨spaces, false, rest⟩

/-- A plain scalar from a place in it on: its text, whether it ends at the start of a line, and what
follows. `before` is the gap before the place. -/
def plainFrom (inFlow : Bool) (indent : Int) :
    Nat → Text → Bool → Glyphs → Text × Bool × Glyphs
  | 0, _, atLineStart, gs => ([], atLineStart, gs)
  | fuel + 1, before, atLineStart, gs =>
    match plainRun inFlow gs with
    | ([], _) => ([], atLineStart, gs)
    | (run, rest) =>
      if peek gs == '#' then ([], atLineStart, gs)
      else
        let gap := plainGap rest
        if gap.text.isEmpty || peek gap.rest == '#' || (!inFlow && (column gap.rest : Int) < indent)
        then (before ++ run, gap.sawBreak, gap.rest)
        else
          let (more, atLineStart, rest) :=
            plainFrom inFlow indent fuel gap.text gap.sawBreak gap.rest
          (before ++ run ++ more, atLineStart, rest)

def plain (inFlow : Bool) (indent : Int) (gs : Glyphs) : Text × Bool × Glyphs :=
  plainFrom inFlow indent gs.length [] false gs

/-! Quoted scalars -/

/-- The line breaks after the first one in a quoted scalar. -/
def quotedBreaks : Bool → Glyphs → Except Error (Text × Glyphs)
  | _, [] => .ok ([], [])
  | lineStart, g :: r =>
    if lineStart && atSeparator (g :: r) then .error .malformed
    else if g.char == ' ' || g.char == '\t' then quotedBreaks false r
    else if isBreak g.char then
      (quotedBreaks true r).map fun found => (breakText g.char ++ found.1, found.2)
    else .ok ([], g :: r)

/-- Spaces in a quoted scalar, with the line breaks that may follow them. -/
def quotedGap (gs : Glyphs) : Except Error (Text × Glyphs) :=
  let (spaces, rest) := span (fun c => c == ' ' || c == '\t') gs
  if peek rest == endMark then .error .malformed
  else if isBreak (peek rest) then
    let (first, rest) := lineBreak rest
    (quotedBreaks true rest).map fun found => (fold first found.1, found.2)
  else .ok (spaces, rest)

/-- The characters that stand for others after a backslash. -/
def escapes : List (Char × Char) :=
  [('0', '\x00'), ('a', '\x07'), ('b', '\x08'), ('t', '\t'), ('\t', '\t'), ('n', '\n'),
    ('v', '\x0B'), ('f', '\x0C'), ('r', '\r'), ('e', '\x1B'), (' ', ' '), ('"', '"'), ('\\', '\\'),
    ('/', '/'), ('N', '\x85'), ('_', '\xA0'), ('L', '\u2028'), ('P', '\u2029')]

/-- The numbers of digits of character codes. -/
def codeLengths : List (Char × Nat) := [('x', 2), ('u', 4), ('U', 8)]

def hexValue? (c : Char) : Option Nat :=
  if '0' ≤ c && c ≤ '9' then some (c.toNat - 48)
  else if 'a' ≤ c && c ≤ 'f' then some (c.toNat - 87)
  else if 'A' ≤ c && c ≤ 'F' then some (c.toNat - 55)
  else none

/-- The number that hexadecimal digits write. -/
def hexNumber? (digits : Text) : Option Nat :=
  digits.foldl (fun n c => do some ((← n) * 16 + (← hexValue? c))) (some 0)

/-- What a backslash and the characters after it stand for. -/
def escaped (gs : Glyphs) : Except Error (Text × Glyphs) :=
  match escapes.lookup (peek gs), codeLengths.lookup (peek gs) with
  | some c, _ => .ok ([c], gs.drop 1)
  | none, some n =>
    match hexNumber? (((gs.drop 1).take n).map (·.char)) with
    | some code =>
      if code < 0x110000 then .ok ([Text.ofCode code], gs.drop (n + 1))
      else if code < 0x80000000 then .error .badNumber
      else .error .overflow
    | none => .error .malformed
  | none, none =>
    if isBreak (peek gs) then quotedBreaks true (lineBreak gs).2 else .error .malformed

/-- A quoted scalar after its opening quote. -/
def quotedFrom (isDouble : Bool) : Nat → Glyphs → Except Error (Text × Glyphs)
  | 0, _ => .error .malformed
  | fuel + 1, gs => do
    let c := peek gs
    if isGap c then
      let (gap, rest) ← quotedGap gs
      let (more, rest) ← quotedFrom isDouble fuel rest
      return (gap ++ more, rest)
    else if isDouble && c == '"' then return ([], gs.drop 1)
    else if isDouble && c == '\\' then
      let (found, rest) ← escaped (gs.drop 1)
      let (more, rest) ← quotedFrom isDouble fuel rest
      return (found ++ more, rest)
    else if !isDouble && c == '\'' then
      if peekAt gs 1 == '\'' then
        let (more, rest) ← quotedFrom isDouble fuel (gs.drop 2)
        return ('\'' :: more, rest)
      else return ([], gs.drop 1)
    else
      let (more, rest) ← quotedFrom isDouble fuel (gs.drop 1)
      return (c :: more, rest)

def quoted (isDouble : Bool) (gs : Glyphs) : Except Error (Text × Glyphs) :=
  quotedFrom isDouble (gs.length + 1) (gs.drop 1)

/-! Block scalars -/

/-- What becomes of the line breaks at the end of a block. -/
inductive Chomping where
  | strip | clip | keep
  deriving DecidableEq, Repr

def chomping? (c : Char) : Option Chomping :=
  if c == '+' then some .keep else if c == '-' then some .strip else none

/-- The chomping and the indentation that the head of a block states, in either order. -/
def blockIndicators (gs : Glyphs) : Except Error (Chomping × Option Nat × Glyphs) := do
  let increment (gs : Glyphs) : Except Error (Option Nat × Glyphs) :=
    let c := peek gs
    if !Text.isDecimal c then .ok (none, gs)
    else if c == '0' then .error .malformed
    else .ok (some (c.toNat - 48), gs.drop 1)
  let (chomp, n, rest) ← match chomping? (peek gs) with
    | some chomp => do
      let (n, rest) ← increment (gs.drop 1)
      pure (chomp, n, rest)
    | none => do
      let (n, rest) ← increment gs
      match n, chomping? (peek rest) with
      | some _, some chomp => pure (chomp, n, rest.drop 1)
      | _, _ => pure (Chomping.clip, n, rest)
  if isBreakOrEnd (peek rest) || peek rest == ' ' then return (chomp, n, rest)
  else throw .malformed

/-- The rest of a line that may hold only a comment. -/
def ignoredLine (gs : Glyphs) : Except Error Glyphs :=
  let rest := skipSpaces gs
  let rest := if peek rest == '#' then skipWhile (fun c => !isBreakOrEnd c) rest else rest
  if isBreakOrEnd (peek rest) then .ok (lineBreak rest).2 else .error .malformed

/-- Empty lines at the start of a block: their breaks, the largest column reached, and the rest. -/
def blockIndentation (widest : Nat) : Glyphs → Text × Nat × Glyphs
  | [] => ([], widest, [])
  | g :: r =>
    if isBreak g.char then
      let (breaks, widest, rest) := blockIndentation widest r
      (breakText g.char ++ breaks, widest, rest)
    else if g.char == ' ' then blockIndentation (max widest (g.column + 1)) r
    else ([], widest, g :: r)

/-- Empty lines in a block of that indentation, and the indentation of the next line. -/
def blockBreaks (indent : Nat) : Glyphs → Text × Glyphs
  | [] => ([], [])
  | g :: r =>
    if g.char == ' ' && g.column < indent then blockBreaks indent r
    else if isBreak g.char then
      ((breakText g.char ++ (blockBreaks indent r).1), (blockBreaks indent r).2)
    else ([], g :: r)

/-- The lines of a block. `breaks` are the empty lines before the place, `last` is the line break
before them. The result has the text, the line break and the empty lines at its end, and the
rest. -/
def blockLines (folded : Bool) (indent : Nat) :
    Nat → Text → Text → Glyphs → Text × Text × Text × Glyphs
  | 0, last, breaks, gs => ([], last, breaks, gs)
  | fuel + 1, last, breaks, gs =>
    if column gs == indent && peek gs != endMark then
      let isText := fun c => c != ' ' && c != '\t'
      let (line, rest) := span (fun c => !isBreakOrEnd c) gs
      let (ending, rest) := lineBreak rest
      let (empties, rest) := blockBreaks indent rest
      if column rest == indent && peek rest != endMark then
        let joint :=
          if folded && ending == ['\n'] && isText (peek gs) && isText (peek rest) then
            if empties.isEmpty then [' '] else []
          else ending
        let (more, last, tail, rest) := blockLines folded indent fuel ending empties rest
        (breaks ++ line ++ joint ++ more, last, tail, rest)
      else (breaks ++ line, ending, empties, rest)
    else ([], last, breaks, gs)

/-- A block scalar at its indicator, in a block of that indentation. -/
def blockScalar (folded : Bool) (outer : Int) (gs : Glyphs) : Except Error (Text × Glyphs) := do
  let (chomp, increment, rest) ← blockIndicators (gs.drop 1)
  let rest ← ignoredLine rest
  let least := (max (outer + 1) 1).toNat
  let (indent, breaks, rest) := match increment with
    | none =>
      let (breaks, widest, rest) := blockIndentation 0 rest
      (max least widest, breaks, rest)
    | some n =>
      let (breaks, rest) := blockBreaks (least + n - 1) rest
      (least + n - 1, breaks, rest)
  let (text, last, tail, rest) := blockLines folded indent (rest.length + 1) [] breaks rest
  let text := match chomp with
    | .strip => text
    | .clip => text ++ last
    | .keep => text ++ last ++ tail
  return (text, rest)

end SolInterface.Yaml
