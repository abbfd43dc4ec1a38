import SolInterface.Text.Basic

/-!
UTF-8. Decoding stops at the first byte sequence that is not the encoding of a character, or passes
over it: a bad first byte alone, or the bytes that could have started a character.
-/
namespace SolInterface.Utf8

/-- Why bytes are not the encoding of a text. -/
inductive Fault where
  | invalidStart
  | invalidContinuation
  | truncated
  deriving DecidableEq, Repr

def Fault.message : Fault → Text
  | invalidStart => "invalid start byte"
  | invalidContinuation => "invalid continuation byte"
  | truncated => "unexpected end of data"

def isContinuation (b : UInt8) : Bool := 0x80 ≤ b && b < 0xC0

/-- `b` may follow `lead`, the first byte of three or four: no shorter encoding of the same
character exists, and the character is neither a surrogate nor beyond the last code point. -/
def mayFollow (lead b : UInt8) : Bool :=
  isContinuation b &&
    (lead != 0xE0 || 0xA0 ≤ b) && (lead != 0xED || b < 0xA0) &&
    (lead != 0xF0 || 0x90 ≤ b) && (lead != 0xF4 || b < 0x90)

/-- The low six bits of a continuation byte. -/
def payload (b : UInt8) : Nat := b.toNat % 64

/-- The character whose encoding starts with `lead`, or what is wrong with it, and the number of
bytes after `lead` that belong to it. -/
def decodeOne (lead : UInt8) (rest : List UInt8) : Except Fault Char × Nat :=
  if lead < 0x80 then (.ok (Char.ofNat lead.toNat), 0)
  else if lead < 0xC2 then (.error .invalidStart, 0)
  else if lead < 0xE0 then
    match rest with
    | [] => (.error .truncated, 0)
    | b :: _ =>
      if isContinuation b then (.ok (Char.ofNat (lead.toNat % 32 * 64 + payload b)), 1)
      else (.error .invalidContinuation, 0)
  else if lead < 0xF0 then
    match rest with
    | [] => (.error .truncated, 0)
    | b :: more =>
      if !mayFollow lead b then (.error .invalidContinuation, 0)
      else match more with
        | [] => (.error .truncated, 1)
        | c :: _ =>
          if isContinuation c then
            (.ok (Char.ofNat ((lead.toNat % 16 * 64 + payload b) * 64 + payload c)), 2)
          else (.error .invalidContinuation, 1)
  else if lead < 0xF5 then
    match rest with
    | [] => (.error .truncated, 0)
    | b :: more =>
      if !mayFollow lead b then (.error .invalidContinuation, 0)
      else match more with
        | [] => (.error .truncated, 1)
        | c :: more =>
          if !isContinuation c then (.error .invalidContinuation, 1)
          else match more with
            | [] => (.error .truncated, 2)
            | d :: _ =>
              if isContinuation d then
                (.ok (Char.ofNat (((lead.toNat % 8 * 64 + payload b) * 64 + payload c) * 64 +
                  payload d)), 3)
              else (.error .invalidContinuation, 2)
  else (.error .invalidStart, 0)

/-- The text encoded by the bytes after the next `skip` ones. -/
def decodeFrom : Nat → List UInt8 → Except Fault Text
  | _, [] => .ok []
  | skip + 1, _ :: rest => decodeFrom skip rest
  | 0, lead :: rest =>
    match decodeOne lead rest with
    | (.ok c, n) => (decodeFrom n rest).map (c :: ·)
    | (.error fault, _) => .error fault

def decode (bytes : List UInt8) : Except Fault Text := decodeFrom 0 bytes

/-- The text encoded by the bytes after the next `skip` ones, without what cannot be decoded. -/
def decodeLossyFrom : Nat → List UInt8 → Text
  | _, [] => []
  | skip + 1, _ :: rest => decodeLossyFrom skip rest
  | 0, lead :: rest =>
    match decodeOne lead rest with
    | (.ok c, n) => c :: decodeLossyFrom n rest
    | (.error _, n) => decodeLossyFrom n rest

def decodeLossy (bytes : List UInt8) : Text := decodeLossyFrom 0 bytes

def encode (t : Text) : List UInt8 := t.flatMap String.utf8EncodeChar

end SolInterface.Utf8
