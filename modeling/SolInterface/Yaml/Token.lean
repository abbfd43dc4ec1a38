import SolInterface.Text.Utf8
import SolInterface.Yaml.Number
import SolInterface.Yaml.Scalar

/-!
Tokens: the indicators and scalars of a document, with the starts and ends of its blocks. A block
mapping shows only at the `:` after its first key, so the place of a key that may turn out to be one
is kept until then: a simple key stands on one line and is not long.
-/
namespace SolInterface.Yaml
open Glyphs

inductive Token where
  | version (major minor : Nat)
  | tagHandle (handle stem : Text)
  | reserved
  | documentStart | documentEnd
  | blockSequenceStart | blockMappingStart | blockEnd
  | flowSequenceStart | flowSequenceEnd | flowMappingStart | flowMappingEnd
  | blockEntry | flowEntry | key | value
  | alias (name : Text)
  | anchor (name : Text)
  | tag (handle : Option Text) (suffix : Text)
  | scalar (text : Text) (isPlain : Bool)
  /-- The text makes no sense from here on. -/
  | broken (error : Error)
  deriving DecidableEq, Repr

/-! Names, tags and directives -/

def isNameChar (c : Char) : Bool := c.isAlphanum || c == '-' || c == '_'

/-- A name after the indicator of an anchor or alias. -/
def anchorName (gs : Glyphs) : Except Error (Text × Glyphs) :=
  let (name, rest) := span isNameChar gs
  if name.isEmpty then .error .malformed
  else if isGap (peek rest) || "?:,]\x7d%@".toList.contains (peek rest) || peek rest == '\x60' then
    .ok (name, rest)
  else .error .malformed

def isUriChar (c : Char) : Bool := c.isAlphanum || "-;/?:@&=+$,_.!~*'()[]".toList.contains c

/-- Bytes written as a percent sign and two digits each. -/
def uriBytes : Nat → Glyphs → Except Error (List UInt8 × Glyphs)
  | 0, gs => .ok ([], gs)
  | fuel + 1, gs =>
    if peek gs == '%' then
      match hexNumber? (((gs.drop 1).take 2).map (·.char)) with
      | some n => (uriBytes fuel (gs.drop 3)).map fun found => (n.toUInt8 :: found.1, found.2)
      | none => .error .malformed
    else .ok ([], gs)

/-- The characters of a tag, which may be empty. -/
def uriChars : Nat → Glyphs → Except Error (Text × Glyphs)
  | 0, gs => .ok ([], gs)
  | fuel + 1, gs =>
    if peek gs == '%' then do
      let (bytes, rest) ← uriBytes gs.length gs
      let (more, rest) ← uriChars fuel rest
      match Utf8.decode bytes with
      | .ok text => return (text ++ more, rest)
      | .error _ => throw .malformed
    else if isUriChar (peek gs) then
      (uriChars fuel (gs.drop 1)).map fun found => (peek gs :: found.1, found.2)
    else .ok ([], gs)

def uri (gs : Glyphs) : Except Error (Text × Glyphs) := do
  let (found, rest) ← uriChars gs.length gs
  if found.isEmpty then throw .malformed else return (found, rest)

/-- A tag handle: `!`, `!!` or `!name!`. -/
def handle (gs : Glyphs) : Except Error (Text × Glyphs) :=
  if peek gs != '!' then .error .malformed
  else if peekAt gs 1 == ' ' then .ok (['!'], gs.drop 1)
  else
    let (name, rest) := span isNameChar (gs.drop 1)
    if peek rest == '!' then .ok ('!' :: name ++ ['!'], rest.drop 1) else .error .malformed

/-- An exclamation mark stands before the next space or break. -/
def hasHandle (gs : Glyphs) : Bool :=
  peek (skipWhile (fun c => !(isBreakOrEnd c || c == ' ' || c == '!')) gs) == '!'

def tag (gs : Glyphs) : Except Error (Token × Glyphs) := do
  let next := peekAt gs 1
  let (token, rest) ←
    if next == '<' then do
      let (suffix, rest) ← uri (gs.drop 2)
      if peek rest == '>' then pure (Token.tag none suffix, rest.drop 1) else throw .malformed
    else if isGap next then pure (Token.tag none ['!'], gs.drop 1)
    else do
      let (name, rest) ← if hasHandle (gs.drop 1) then handle gs else pure (['!'], gs.drop 1)
      let (suffix, rest) ← uri rest
      pure (Token.tag (some name) suffix, rest)
  if isBreakOrEnd (peek rest) || peek rest == ' ' then return (token, rest) else throw .malformed

def decimalNumber (gs : Glyphs) : Except Error (Nat × Glyphs) :=
  let (digits, rest) := span Text.isDecimal gs
  if digits.isEmpty then .error .malformed
  else if mostDigits < digits.length then .error .badNumber
  else .ok (digits.foldl (fun n c => n * 10 + (c.toNat - 48)) 0, rest)

/-- What ends a word of a directive. -/
def endsWord (c : Char) : Bool := isBreakOrEnd c || c == ' '

def directive (gs : Glyphs) : Except Error (Token × Glyphs) := do
  let (name, rest) := span isNameChar (gs.drop 1)
  if name.isEmpty || !endsWord (peek rest) then throw .malformed
  let (token, rest) ←
    if name == "YAML".toList then do
      let (major, rest) ← decimalNumber (skipSpaces rest)
      if peek rest != '.' then throw .malformed
      let (minor, rest) ← decimalNumber (rest.drop 1)
      if !endsWord (peek rest) then throw .malformed
      pure (Token.version major minor, rest)
    else if name == "TAG".toList then do
      let (name, rest) ← handle (skipSpaces rest)
      if peek rest != ' ' then throw .malformed
      let (stem, rest) ← uri (skipSpaces rest)
      if !endsWord (peek rest) then throw .malformed
      pure (Token.tagHandle name stem, rest)
    else pure (Token.reserved, skipWhile (fun c => !isBreakOrEnd c) rest)
  return (token, ← ignoredLine rest)

/-! The reader -/

/-- A place at which a simple key may have started. -/
structure SimpleKey where
  /-- The number of tokens before it. -/
  tokens : Nat
  /-- It starts a line of a block mapping, so it must be a key. -/
  required : Bool
  index : Nat
  line : Nat
  column : Nat
  deriving DecidableEq, Repr

structure Reader where
  rest : Glyphs
  tokens : List Token := []
  /-- How many brackets and braces are open. -/
  flow : Nat := 0
  indent : Int := -1
  /-- The indentations of the blocks around the current one, innermost first. -/
  outer : List Int := []
  /-- A simple key may start here. -/
  keyAllowed : Bool := true
  /-- The last possible key of each level of brackets. -/
  keys : List (Nat × SimpleKey) := []

namespace Reader

def push (r : Reader) (t : Token) : Reader := { r with tokens := r.tokens ++ [t] }

def here (r : Reader) : Glyph :=
  match r.rest with
  | [] => ⟨endMark, 0, 0, 0⟩
  | g :: _ => g

/-- Spaces, comments and line breaks, passed over; after a break in a block a key may start. -/
def skipFrom (inFlow : Bool) : Bool → Bool → Glyphs → Bool × Glyphs
  | _, allowed, [] => (allowed, [])
  | inComment, allowed, g :: r =>
    if isBreak g.char then skipFrom inFlow false (allowed || !inFlow) r
    else if g.char == endMark then (allowed, g :: r)
    else if inComment || g.char == '#' then skipFrom inFlow true allowed r
    else if g.char == ' ' then skipFrom inFlow false allowed r
    else (allowed, g :: r)

def skipToToken (r : Reader) : Reader :=
  let (allowed, rest) := skipFrom (0 < r.flow) false r.keyAllowed r.rest
  { r with keyAllowed := allowed, rest }

/-- A possible key on an earlier line, or too far back, is none. -/
def isStale (here : Glyph) (k : SimpleKey) : Bool :=
  k.line != here.line || here.index - k.index > 1024

/-- Possible keys that the reader has left behind are none; one of them must not have been
required. -/
def dropStale (r : Reader) : Except Error Reader :=
  if r.keys.any fun k => isStale r.here k.2 && k.2.required then .error .malformed
  else .ok { r with keys := r.keys.filter fun k => !isStale r.here k.2 }

def dropKey (r : Reader) : Except Error Reader :=
  match r.keys.lookup r.flow with
  | some k =>
    if k.required then .error .malformed
    else .ok { r with keys := r.keys.filter fun k => k.1 != r.flow }
  | none => .ok r

/-- Notes that a simple key may start here. -/
def saveKey (r : Reader) : Except Error Reader := do
  if r.keyAllowed then
    let g := r.here
    let required := r.flow == 0 && r.indent == g.column
    let key : SimpleKey := ⟨r.tokens.length, required, g.index, g.line, g.column⟩
    let r ← r.dropKey
    return { r with keys := (r.flow, key) :: r.keys }
  else return r

/-- Ends the blocks that are indented further than the column. -/
def unwindTo (column : Int) : List Int → Int → List Token → List Int × Int × List Token
  | [], indent, tokens => ([], indent, tokens)
  | next :: outer, indent, tokens =>
    if column < indent then unwindTo column outer next (tokens ++ [.blockEnd])
    else (next :: outer, indent, tokens)

def unwind (r : Reader) (column : Int) : Reader :=
  if 0 < r.flow then r
  else
    let (outer, indent, tokens) := unwindTo column r.outer r.indent r.tokens
    { r with outer, indent, tokens }

/-- Opens a block if the column is further to the right than the current one. -/
def openBlock (r : Reader) (column : Nat) (place : Nat) (start : Token) : Reader :=
  if r.indent < column then
    { r with
      outer := r.indent :: r.outer
      indent := column
      tokens := r.tokens.take place ++ start :: r.tokens.drop place }
  else r

/-- A token of `n` characters. -/
def emit (r : Reader) (n : Nat) (t : Token) : Reader := { r.push t with rest := r.rest.drop n }

/-- A token that ends all blocks. -/
def breakBlocks (r : Reader) : Except Error Reader := do
  let r ← (r.unwind (-1)).dropKey
  return { r with keyAllowed := false }

def flowStart (r : Reader) (t : Token) : Except Error Reader := do
  let r ← r.saveKey
  return { r.emit 1 t with flow := r.flow + 1, keyAllowed := true }

def flowEnd (r : Reader) (t : Token) : Except Error Reader := do
  let r ← r.dropKey
  if r.flow = 0 then throw .malformed
  return { r.emit 1 t with flow := r.flow - 1, keyAllowed := false }

def flowEntry (r : Reader) : Except Error Reader := do
  let r ← r.dropKey
  return { r.emit 1 .flowEntry with keyAllowed := true }

/-- `-` or `?`, which may open a block. -/
def blockIndicator (r : Reader) (start t : Token) (allowAfter : Bool) : Except Error Reader := do
  let r ←
    if r.flow = 0 then
      if r.keyAllowed then pure (r.openBlock r.here.column r.tokens.length start)
      else throw .malformed
    else pure r
  let r ← r.dropKey
  return { r.emit 1 t with keyAllowed := allowAfter }

/-- `:`, which makes a key of the possible key before it. -/
def valueIndicator (r : Reader) : Except Error Reader :=
  match r.keys.lookup r.flow with
  | some k =>
    let r := { r with
      keys := r.keys.filter fun e => e.1 != r.flow
      tokens := r.tokens.take k.tokens ++ Token.key :: r.tokens.drop k.tokens }
    let r := if r.flow = 0 then r.openBlock k.column k.tokens .blockMappingStart else r
    .ok { r.emit 1 .value with keyAllowed := false }
  | none => r.blockIndicator .blockMappingStart .value (r.flow == 0)

/-- A token that may be a simple key, after which no other starts. -/
def leaf (r : Reader) (read : Glyphs → Except Error (Token × Glyphs)) : Except Error Reader := do
  let r ← r.saveKey
  let (t, rest) ← read r.rest
  return { r.push t with rest, keyAllowed := false }

def blockScalar (r : Reader) (folded : Bool) : Except Error Reader := do
  let r ← r.dropKey
  let (text, rest) ← Yaml.blockScalar folded r.indent r.rest
  return { r.push (.scalar text false) with rest, keyAllowed := true }

def plain (r : Reader) : Except Error Reader := do
  let r ← r.saveKey
  let (text, atLineStart, rest) := Yaml.plain (0 < r.flow) (r.indent + 1) r.rest
  return { r.push (.scalar text true) with rest, keyAllowed := atLineStart }

/-- A plain scalar may start here. -/
def startsPlain (r : Reader) : Bool :=
  let c := peek r.rest
  !(isGap c || "-?:,[]\x7b\x7d#&*!|>'\"%@".toList.contains c || c == '\x60') ||
    (!isGap (peekAt r.rest 1) && (c == '-' || (r.flow == 0 && (c == '?' || c == ':'))))

/-- The token at the reader's place, which is not the end. -/
def token (r : Reader) : Except Error Reader := do
  let c := peek r.rest
  let gapNext := isGap (peekAt r.rest 1)
  let lineStart := r.here.column == 0
  let inFlow := 0 < r.flow
  if c == '%' && lineStart then
    let r ← r.breakBlocks
    let (t, rest) ← directive r.rest
    return { r.push t with rest }
  else if c == '-' && lineStart && atSeparator r.rest then
    return (← r.breakBlocks).emit 3 .documentStart
  else if c == '.' && lineStart && atSeparator r.rest then
    return (← r.breakBlocks).emit 3 .documentEnd
  else if c == '[' then r.flowStart .flowSequenceStart
  else if c == '\x7b' then r.flowStart .flowMappingStart
  else if c == ']' then r.flowEnd .flowSequenceEnd
  else if c == '\x7d' then r.flowEnd .flowMappingEnd
  else if c == ',' then r.flowEntry
  else if c == '-' && gapNext then r.blockIndicator .blockSequenceStart .blockEntry true
  else if c == '?' && (inFlow || gapNext) then
    r.blockIndicator .blockMappingStart .key (!inFlow)
  else if c == ':' && (inFlow || gapNext) then r.valueIndicator
  else if c == '*' then
    r.leaf fun gs => (anchorName (gs.drop 1)).map fun found => (.alias found.1, found.2)
  else if c == '&' then
    r.leaf fun gs => (anchorName (gs.drop 1)).map fun found => (.anchor found.1, found.2)
  else if c == '!' then r.leaf tag
  else if c == '|' && !inFlow then r.blockScalar false
  else if c == '>' && !inFlow then r.blockScalar true
  else if c == '\'' || c == '"' then
    r.leaf fun gs => (quoted (c == '"') gs).map fun found => (.scalar found.1 false, found.2)
  else if r.startsPlain then r.plain
  else throw .malformed

/-- The reader after one more token, or, at the end, after the ends of all blocks. -/
def next (r : Reader) : Except Error (Reader × Bool) := do
  let r ← r.skipToToken.dropStale
  let r := r.unwind r.here.column
  if peek r.rest == endMark then return (← r.breakBlocks, true) else return (← r.token, false)

/-- The tokens that are known as they are: none of them may still turn out to be part of a key. -/
def settled (r : Reader) : List Token :=
  let live := r.keys.filter fun k => !isStale r.here k.2
  match (live.map fun k => k.2.tokens).min? with
  | some n => r.tokens.take n
  | none => r.tokens

/-- The tokens from the reader's place on; each of them is made of at least one character. -/
def run : Nat → Reader → List Token
  | 0, r => r.settled ++ [.broken .malformed]
  | fuel + 1, r =>
    match r.next with
    | .error e => r.settled ++ [.broken e]
    | .ok (r, true) => r.tokens
    | .ok (r, false) => run fuel r

end Reader

/-- The tokens of a document, up to the first fault. -/
def tokens (text : Text) : List Token :=
  if text.all isAllowed then
    let glyphs := glyphsFrom 0 0 0 text
    let glyphs := if peek glyphs == '\ufeff' then glyphs.drop 1 else glyphs
    Reader.run (glyphs.length + 1) { rest := glyphs }
  else [.broken .malformed]

end SolInterface.Yaml
