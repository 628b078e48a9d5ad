/-
# UTF-8

How bytes are read as characters: a byte below 0x80 is a character by itself, and a character of
several bytes starts with a byte that tells how many follow. What is not UTF-8 is either replaced or
reported with its place.
-/

namespace CatalogClient.Text

/-- What a byte sequence may continue with: how many further bytes the character needs, the bounds
of the next one, and the bits read so far. -/
structure PendingChar where
  missing : Nat
  low : Nat
  high : Nat
  bits : Nat

/-- The state after the first byte of a character of several bytes. -/
def PendingChar.first? (byte : Nat) : Option PendingChar :=
  if 0xC2 ≤ byte ∧ byte ≤ 0xDF then some ⟨1, 0x80, 0xBF, byte - 0xC0⟩
  else if byte = 0xE0 then some ⟨2, 0xA0, 0xBF, 0⟩
  else if byte = 0xED then some ⟨2, 0x80, 0x9F, 13⟩
  else if 0xE1 ≤ byte ∧ byte ≤ 0xEF then some ⟨2, 0x80, 0xBF, byte - 0xE0⟩
  else if byte = 0xF0 then some ⟨3, 0x90, 0xBF, 0⟩
  else if byte = 0xF4 then some ⟨3, 0x80, 0x8F, 4⟩
  else if 0xF1 ≤ byte ∧ byte ≤ 0xF3 then some ⟨3, 0x80, 0xBF, byte - 0xF0⟩
  else none

/-- The character that stands for a sequence that is not UTF-8. -/
def replacementChar : Char := Char.ofNat 0xFFFD

/-- Bytes that start a character: a character, the start of one, or an error. -/
def startChar (byte : Nat) : List Char × Option PendingChar :=
  if byte < 0x80 then ([Char.ofNat byte], none)
  else
    match PendingChar.first? byte with
    | some pending => ([], some pending)
    | none => ([replacementChar], none)

/-- One more byte of a text: the characters that it completes and what is pending after it. A byte
that cannot continue the pending character ends it with a replacement and starts anew. -/
def nextByte (pending : Option PendingChar) (byte : Nat) : List Char × Option PendingChar :=
  match pending with
  | none => startChar byte
  | some p =>
      if p.low ≤ byte ∧ byte ≤ p.high then
        let bits := p.bits * 64 + (byte - 0x80)
        if p.missing = 1 then ([Char.ofNat bits], none)
        else ([], some ⟨p.missing - 1, 0x80, 0xBF, bits⟩)
      else
        let (chars, after) := startChar byte
        (replacementChar :: chars, after)

/-- The characters of a byte sequence, every faulty part replaced. -/
def decodeBytes (pending : Option PendingChar) : List Nat → List Char
  | [] => if pending.isSome then [replacementChar] else []
  | byte :: rest =>
      let (chars, after) := nextByte pending byte
      chars ++ decodeBytes after rest

/-- Where bytes are no UTF-8 and why: a byte that starts no character, a character that is not
continued, or one that the end cuts off. A faulty start is given by its byte; the others by the
number of bytes that were read of the character and its first byte. -/
inductive Utf8Fault
  | start (position byte : Nat)
  | continuation (position byte count : Nat)
  | ending (position byte count : Nat)
  deriving DecidableEq, Repr

/-- The bytes that a fault is about. -/
def Utf8Fault.place (position byte count : Nat) : String :=
  if count = 1 then
    "byte 0x" ++ String.ofList (Nat.toDigits 16 byte) ++ " in position " ++ toString position
  else "bytes in position " ++ toString position ++ "-" ++ toString (position + count - 1)

/-- A fault in words. -/
def Utf8Fault.message (fault : Utf8Fault) : String :=
  "'utf-8' codec can't decode " ++
    match fault with
    | .start position byte => place position byte 1 ++ ": invalid start byte"
    | .continuation position byte count =>
        place position byte count ++ ": invalid continuation byte"
    | .ending position byte count => place position byte count ++ ": unexpected end of data"

/-- The characters of the bytes from a position on, given those before it in reverse. When a
character is pending, its first byte and the number of its bytes so far are given as well. -/
def decodeUtf8From (position : Nat) (read : List Char) :
    Option (PendingChar × Nat × Nat) → List Nat → Except Utf8Fault (List Char)
  | none, [] => .ok read.reverse
  | some (_, first, count), [] => .error (.ending (position - count) first count)
  | none, byte :: rest =>
      if byte < 0x80 then decodeUtf8From (position + 1) (Char.ofNat byte :: read) none rest
      else
        match PendingChar.first? byte with
        | some pending => decodeUtf8From (position + 1) read (some (pending, byte, 1)) rest
        | none => .error (.start position byte)
  | some (pending, first, count), byte :: rest =>
      if pending.low ≤ byte ∧ byte ≤ pending.high then
        let bits := pending.bits * 64 + (byte - 0x80)
        if pending.missing = 1 then
          decodeUtf8From (position + 1) (Char.ofNat bits :: read) none rest
        else
          decodeUtf8From (position + 1) read
            (some (⟨pending.missing - 1, 0x80, 0xBF, bits⟩, first, count + 1)) rest
      else .error (.continuation (position - count) first count)

/-- The characters of bytes, or the first fault. -/
def decodeUtf8 (bytes : List Nat) : Except Utf8Fault (List Char) :=
  decodeUtf8From 0 [] none bytes

end CatalogClient.Text
