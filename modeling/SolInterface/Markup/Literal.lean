import SolInterface.Text.Word

/-!
The arguments of an action as markup writes them: numbers, texts, constants, and tuples, sets and
dictionaries of such values. Only whether they have a value matters.
-/
namespace SolInterface.Markup
open Text

inductive Token where
  | number (isComplex : Bool)
  | text (isBytes : Bool)
  | name (t : Text)
  | mark (c : Char)
  /-- Three points. -/
  | ellipsis
  deriving DecidableEq, Repr

namespace Token

/-- May stand in a name, or in a number that is not well formed. -/
def isNameChar (c : Char) : Bool := c.isAlphanum || c == '_' || 128 ≤ c.toNat

/-- Digits, with single underscores between them. -/
def isDigits (digit : Char → Bool) (t : Text) : Bool :=
  (pieces (· == '_') t).all fun part => !part.isEmpty && part.all digit

def isBaseDigit (base : Char) (c : Char) : Bool :=
  if base == 'x' then isDecimal c || ('a' ≤ c.toLower && c.toLower ≤ 'f')
  else if base == 'o' then '0' ≤ c && c ≤ '7'
  else c == '0' || c == '1'

/-- Digits after the mark of their base; an underscore may divide the two. -/
def basedNumber? (base : Char) (t : Text) : Option (Token × Text) :=
  let body := t.takeWhile isNameChar
  let digits := if body.head? == some '_' then body.drop 1 else body
  if isDigits (isBaseDigit base) digits then some (.number false, t.drop body.length) else none

/-- An exponent, if there is one, and the rest. -/
def exponent? (t : Text) : Option (Bool × Text) :=
  match t with
  | e :: r =>
    if e == 'e' || e == 'E' then
      let digits := match r with
        | c :: more => if c == '+' || c == '-' then more else r
        | [] => r
      let run := digits.takeWhile fun c => isDecimal c || c == '_'
      if isDigits isDecimal run then some (true, digits.drop run.length) else none
    else some (false, t)
  | [] => some (false, t)

def decimalNumber? (t : Text) : Option (Token × Text) := do
  let isRun := fun c => isDecimal c || c == '_'
  let whole := t.takeWhile isRun
  let (fraction, pointed, rest) := match t.drop whole.length with
    | '.' :: r => (r.takeWhile isRun, true, r.dropWhile isRun)
    | r => ([], false, r)
  if !(whole.isEmpty || isDigits isDecimal whole) then none
  if !(fraction.isEmpty || isDigits isDecimal fraction) then none
  if whole.isEmpty && fraction.isEmpty then none
  let (scaled, rest) ← exponent? rest
  let (isComplex, rest) := match rest with
    | c :: r => if c == 'j' || c == 'J' then (true, r) else (false, rest)
    | [] => (false, rest)
  let isPlain := !pointed && !scaled && !isComplex
  if isPlain && whole.head? == some '0' && !whole.all fun c => c == '0' || c == '_' then none
  if isPlain && 4300 < whole.length then none
  if rest.head?.any isNameChar then none
  some (.number isComplex, rest)

def number? (t : Text) : Option (Token × Text) :=
  match t with
  | '0' :: c :: r =>
    if ['x', 'o', 'b'].contains c.toLower then basedNumber? c.toLower r else decimalNumber? t
  | _ => decimalNumber? t

/-- The number of hexadecimal digits that an escape needs. -/
def escapeDigits (isBytes : Bool) (c : Char) : Nat :=
  if c == 'x' then 2 else if isBytes then 0 else if c == 'u' then 4 else if c == 'U' then 8 else 0

def isHex (c : Char) : Bool := isBaseDigit 'x' c

/-- What follows the name of a character in braces. -/
def afterName? (t : Text) : Option Text :=
  match t with
  | '\x7b' :: r =>
    match r.dropWhile (· != '\x7d') with
    | _ :: rest => if r.head? == some '\x7d' then none else some rest
    | [] => none
  | _ => none

/-- What an escape leaves, if it is well formed. -/
def afterEscape? (isBytes : Bool) (t : Text) : Option Text :=
  match t with
  | [] => none
  | c :: r =>
    if c == 'N' && !isBytes then afterName? r else
    let n := escapeDigits isBytes c
    let digits := r.take n
    if digits.length == n && digits.all isHex && (n < 8 || startsWith "0010" digits ||
        startsWith "000" digits) then some (r.drop n)
    else none

/-- What follows a quoted text after its opening quotes. -/
def afterQuoted? (quote : Char) (isLong isRaw isBytes : Bool) : Nat → Text → Option Text
  | 0, _ => none
  | _, [] => none
  | fuel + 1, c :: r =>
    let again := afterQuoted? quote isLong isRaw isBytes fuel
    if c == quote && !isLong then some r
    else if c == quote && startsWith [quote, quote] r then some (r.drop 2)
    else if c == '\n' && !isLong then none
    else if isBytes && 128 ≤ c.toNat then none
    else if c == '\\' then
      if isRaw then (if r.isEmpty then none else again (r.drop 1))
      else match afterEscape? isBytes r with
        | some rest => again rest
        | none => none
    else again r

/-- A quoted text after the letters before its quotes. -/
def quotedText? (letters : Text) (t : Text) : Option (Token × Text) :=
  let kind := String.ofList (letters.map Char.toLower)
  if ["", "r", "u", "b", "br", "rb"].contains kind then
    let isRaw := letters.any fun c => c.toLower == 'r'
    let isBytes := letters.any fun c => c.toLower == 'b'
    let found := match t with
      | [] => none
      | q :: r =>
        if startsWith [q, q] r then
          afterQuoted? q true isRaw isBytes t.length (r.drop 2)
        else afterQuoted? q false isRaw isBytes t.length r
    found.map fun rest => (.text isBytes, rest)
  else none

/-- The tokens of a text; `depth` is the number of open brackets, in which lines may end. -/
def read : Nat → Nat → Text → Option (List Token)
  | 0, _, _ => none
  | _, _, [] => some []
  | fuel + 1, depth, c :: r =>
    let add := fun (token : Token) (depth : Nat) (rest : Text) =>
      (read fuel depth rest).map (token :: ·)
    if c == ' ' || c == '\t' || c == '\x0C' || (c == '\n' && depth != 0) then read fuel depth r
    else if c == '\\' && r.head? == some '\n' then read fuel depth (r.drop 1)
    else if c == '#' then read fuel depth (r.dropWhile (· != '\n'))
    else if c == '(' || c == '\x7b' then add (.mark c) (depth + 1) r
    else if c == ')' || c == '\x7d' then add (.mark c) (depth - 1) r
    else if startsWith "..." (c :: r) then add .ellipsis depth (r.drop 2)
    else if isDecimal c || (c == '.' && r.head?.any isDecimal) then
      match number? (c :: r) with
      | some (token, rest) => add token depth rest
      | none => none
    else if isNameChar c then
      let letters := (c :: r).takeWhile isNameChar
      let rest := (c :: r).drop letters.length
      if rest.head? == some '\'' || rest.head? == some '"' then
        match quotedText? letters rest with
        | some (token, rest) => add token depth rest
        | none => none
      else add (.name letters) depth rest
    else if c == '\'' || c == '"' then
      match quotedText? [] (c :: r) with
      | some (token, rest) => add token depth rest
      | none => none
    else add (.mark c) depth r

end Token

/-- The form of a value. -/
inductive Form where
  | real | complex | signedReal | signedComplex
  /-- Any other value that may be in a set. -/
  | fixed
  /-- A value that may not be in a set. -/
  | changing
  deriving DecidableEq, Repr

namespace Form

def mayBeMember (f : Form) : Bool := f != .changing

def signed? : Form → Option Form
  | real => some .signedReal
  | complex => some .signedComplex
  | _ => none

/-- The sum of a real number and an imaginary one. -/
def sum? (a b : Form) : Option Form :=
  if (a == .real || a == .signedReal) && b == .complex then some .fixed else none

/-- Texts one after the other are one text. -/
def skipTexts (isBytes : Bool) : List Token → Option (List Token)
  | .text b :: rest => if b == isBytes then skipTexts isBytes rest else none
  | tokens => some tokens

mutual

/-- A value, and the tokens after it. -/
def value? : Nat → List Token → Option (Form × List Token)
  | 0, _ => none
  | fuel + 1, tokens => do
    let (first, rest) ← signedValue? fuel tokens
    match rest with
    | .mark c :: more =>
      if c == '+' || c == '-' then
        let (second, rest) ← atom? fuel more
        some (← sum? first second, rest)
      else some (first, rest)
    | _ => some (first, rest)

def signedValue? : Nat → List Token → Option (Form × List Token)
  | 0, _ => none
  | fuel + 1, tokens =>
    match tokens with
    | .mark c :: more =>
      if c == '+' || c == '-' then do
        let (found, rest) ← atom? fuel more
        some (← found.signed?, rest)
      else atom? fuel tokens
    | _ => atom? fuel tokens

def atom? : Nat → List Token → Option (Form × List Token)
  | 0, _ => none
  | fuel + 1, tokens =>
    match tokens with
    | .number isComplex :: rest => some (if isComplex then .complex else .real, rest)
    | .text isBytes :: rest => (skipTexts isBytes rest).map fun rest => (.fixed, rest)
    | .ellipsis :: rest => some (.fixed, rest)
    | .name t :: rest =>
      match String.ofList t, rest with
      | "set", .mark '(' :: .mark ')' :: rest => some (.changing, rest)
      | word, _ => if ["True", "False", "None"].contains word then some (.fixed, rest) else none
    | .mark '(' :: rest => do
      let (found, isTuple, rest) ← items? fuel ')' rest
      match isTuple, found with
      | false, [only] => some (only, rest)
      | _, _ => some (if found.all mayBeMember then .fixed else .changing, rest)
    | .mark '\x7b' :: rest => braces? fuel rest
    | _ => none

/-- Values between commas up to a closing mark, and whether a comma makes them a tuple. -/
def items? : Nat → Char → List Token → Option (List Form × Bool × List Token)
  | 0, _, _ => none
  | fuel + 1, closing, tokens =>
    match tokens with
    | .mark c :: rest =>
      if c == closing then some ([], true, rest) else someItems? fuel closing tokens
    | _ => someItems? fuel closing tokens

def someItems? : Nat → Char → List Token → Option (List Form × Bool × List Token)
  | 0, _, _ => none
  | fuel + 1, closing, tokens => do
    let (found, rest) ← value? fuel tokens
    match rest with
    | .mark c :: rest =>
      if c == closing then some ([found], false, rest)
      else if c == ',' then
        let (more, _, rest) ← items? fuel closing rest
        some (found :: more, true, rest)
      else none
    | _ => none

/-- A set or a dictionary after its opening brace; a dictionary may be empty. -/
def braces? : Nat → List Token → Option (Form × List Token)
  | 0, _ => none
  | fuel + 1, tokens =>
    match tokens with
    | .mark '\x7d' :: rest => some (.changing, rest)
    | _ => do
      let (first, rest) ← value? fuel tokens
      if !first.mayBeMember then none
      match rest with
      | .mark ':' :: _ => entries? fuel tokens
      | _ =>
        let (found, _, rest) ← items? fuel '\x7d' tokens
        if found.all mayBeMember then some (.changing, rest) else none

/-- The entries of a dictionary. -/
def entries? : Nat → List Token → Option (Form × List Token)
  | 0, _ => none
  | fuel + 1, tokens =>
    match tokens with
    | .mark '\x7d' :: rest => some (.changing, rest)
    | _ => do
      let (key, rest) ← value? fuel tokens
      if !key.mayBeMember then none
      match rest with
      | .mark ':' :: rest =>
        let (_, rest) ← value? fuel rest
        match rest with
        | .mark ',' :: rest => entries? fuel rest
        | .mark '\x7d' :: rest => some (.changing, rest)
        | _ => none
      | _ => none

end

end Form

/-- The text is a value, or several between commas. -/
def isLiteral (t : Text) : Bool :=
  match Token.read (t.length + 1) 0 (t.dropWhile fun c => c == ' ' || c == '\t') with
  | none => false
  | some tokens =>
    let fuel := 8 * tokens.length + 8
    match Form.someItems? fuel ')' (tokens ++ [.mark ')']) with
    | some (_, _, []) => true
    | _ => false

end SolInterface.Markup
