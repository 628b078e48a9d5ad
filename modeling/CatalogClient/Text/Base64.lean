/-
# Base 64

Bytes written in an alphabet of 64 characters: four characters stand for three bytes, and equals
signs fill up the last group. Whatever is not in the alphabet does not count.
-/

namespace CatalogClient.Text.Base64

/-- The value of a character of the alphabet, given as a byte. -/
def value? (byte : Nat) : Option Nat :=
  if 65 ≤ byte ∧ byte ≤ 90 then some (byte - 65)
  else if 97 ≤ byte ∧ byte ≤ 122 then some (byte - 71)
  else if 48 ≤ byte ∧ byte ≤ 57 then some (byte + 4)
  else if byte = 43 then some 62
  else if byte = 47 then some 63
  else none

/-- Why bytes are not read: the last group has a single character, or it is not filled up. The
number of characters is given for a single one. -/
inductive Fault
  | single (characters : Nat)
  | padding
  deriving DecidableEq, Repr

/-- A fault in words. -/
def Fault.message : Fault → String
  | .single characters =>
      "Invalid base64-encoded string: number of data characters (" ++ toString characters
        ++ ") cannot be 1 more than a multiple of 4"
  | .padding => "Incorrect padding"

/-- The bytes that the values of a group stand for. -/
def groupBytes : List Nat → List Nat
  | [a, b] => [a * 4 + b / 16]
  | [a, b, c] => [a * 4 + b / 16, b % 16 * 16 + c / 4]
  | [a, b, c, d] => [a * 4 + b / 16, b % 16 * 16 + c / 4, c % 4 * 64 + d]
  | _ => []

/-- The bytes of the rest of a text, given those of the groups before, the values of the current
group and the equals signs behind them. The reading ends when a group is filled up. -/
def decodeFrom (read group : List Nat) (signs : Nat) : List Nat → Except Fault (List Nat)
  | [] =>
      match group with
      | [] => .ok read
      | [_] => .error (.single (read.length / 3 * 4 + 1))
      | _ => .error .padding
  | byte :: rest =>
      if byte = 61 then
        if group.length < 2 then decodeFrom read group signs rest
        else if 4 ≤ group.length + signs + 1 then .ok (read ++ groupBytes group)
        else decodeFrom read group (signs + 1) rest
      else
        match value? byte with
        | none => decodeFrom read group signs rest
        | some value =>
            if group.length = 3 then decodeFrom (read ++ groupBytes (group ++ [value])) [] 0 rest
            else decodeFrom read (group ++ [value]) 0 rest

/-- The bytes that a text stands for. -/
def decode (text : List Nat) : Except Fault (List Nat) :=
  decodeFrom [] [] 0 text

end CatalogClient.Text.Base64
