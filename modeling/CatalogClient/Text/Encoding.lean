/-
# Encodings of documents

A document may come in UTF-8 or in units of two or four bytes of either order. A mark of the byte
order at its start tells the encoding and does not belong to the text. Without a mark the zero
bytes among the first four tell it, because a document starts with a character of one byte. Half a
pair that stands alone is let through in every encoding, and a replacement stands in its place.
-/

import CatalogClient.Text.Percent

namespace CatalogClient.Text

/-- Whether a unit of two bytes opens a pair that stands for one character. -/
def isHighHalf (unit : Nat) : Bool :=
  0xD800 ≤ unit && unit ≤ 0xDBFF

/-- Whether a unit of two bytes closes a pair that stands for one character. -/
def isLowHalf (unit : Nat) : Bool :=
  0xDC00 ≤ unit && unit ≤ 0xDFFF

/-- The character of a unit; half a pair alone is no character and is replaced. -/
def charOfUnit (unit : Nat) : Char :=
  if isHighHalf unit || isLowHalf unit then replacementChar else Char.ofNat unit

/-- The character of the two halves of a pair. -/
def charOfPair (high low : Nat) : Char :=
  Char.ofNat (0x10000 + (high - 0xD800) * 0x400 + (low - 0xDC00))

/-- How the characters of a document are written as bytes. -/
inductive Encoding
  | utf8
  | utf16 (bigEndian : Bool)
  | utf32 (bigEndian : Bool)
  deriving DecidableEq, Repr

namespace Encoding

/-- The encoding of a document and the bytes of its text. -/
def detect (bytes : List Nat) : Encoding × List Nat :=
  match bytes with
  | 0x00 :: 0x00 :: 0xFE :: 0xFF :: rest => (.utf32 true, rest)
  | 0xFF :: 0xFE :: 0x00 :: 0x00 :: rest => (.utf32 false, rest)
  | 0xFE :: 0xFF :: rest => (.utf16 true, rest)
  | 0xFF :: 0xFE :: rest => (.utf16 false, rest)
  | 0xEF :: 0xBB :: 0xBF :: rest => (.utf8, rest)
  | 0x00 :: 0x00 :: _ :: _ :: _ => (.utf32 true, bytes)
  | 0x00 :: _ :: _ :: _ :: _ => (.utf16 true, bytes)
  | _ :: 0x00 :: 0x00 :: 0x00 :: _ => (.utf32 false, bytes)
  | _ :: 0x00 :: _ :: _ :: _ => (.utf16 false, bytes)
  | [0x00, _] => (.utf16 true, bytes)
  | [_, 0x00] => (.utf16 false, bytes)
  | _ => (.utf8, bytes)

/-- The numbers that pairs of bytes stand for, unless a byte is left over. -/
def unitsOfTwo? (bigEndian : Bool) : List Nat → Option (List Nat)
  | [] => some []
  | first :: second :: rest =>
      let unit := if bigEndian then first * 256 + second else second * 256 + first
      (unitsOfTwo? bigEndian rest).map (unit :: ·)
  | [_] => none

/-- The numbers that groups of four bytes stand for, unless bytes are left over. -/
def unitsOfFour? (bigEndian : Bool) : List Nat → Option (List Nat)
  | [] => some []
  | a :: b :: c :: d :: rest =>
      let unit :=
        if bigEndian then ((a * 256 + b) * 256 + c) * 256 + d
        else ((d * 256 + c) * 256 + b) * 256 + a
      (unitsOfFour? bigEndian rest).map (unit :: ·)
  | _ => none

/-- The characters that units of two bytes stand for. -/
def charsOfUnits : List Nat → List Char
  | [] => []
  | [unit] => [charOfUnit unit]
  | unit :: next :: rest =>
      if isHighHalf unit && isLowHalf next then charOfPair unit next :: charsOfUnits rest
      else charOfUnit unit :: charsOfUnits (next :: rest)

/-- The bytes of a text in UTF-8 with a replacement for each half of a pair, which takes three bytes
there as other characters do. -/
def replaceHalves : List Nat → List Nat
  | [] => []
  | 0xED :: second :: third :: rest =>
      if 0xA0 ≤ second ∧ second ≤ 0xBF ∧ 0x80 ≤ third ∧ third ≤ 0xBF then
        0xEF :: 0xBF :: 0xBD :: replaceHalves rest
      else 0xED :: replaceHalves (second :: third :: rest)
  | byte :: rest => byte :: replaceHalves rest

/-- The characters of the bytes of a text in an encoding, unless the bytes are no such text. -/
def decode? (encoding : Encoding) (bytes : List Nat) : Option (List Char) :=
  match encoding with
  | .utf8 =>
      (String.fromUTF8? ⟨((replaceHalves bytes).map Nat.toUInt8).toArray⟩).map String.toList
  | .utf16 bigEndian => (unitsOfTwo? bigEndian bytes).map charsOfUnits
  | .utf32 bigEndian =>
      (unitsOfFour? bigEndian bytes).bind fun units =>
        if units.all fun unit => decide (unit < 0x110000) then some (units.map charOfUnit) else none

end Encoding

/-- The characters of a document, unless its bytes are no text. -/
def ofDocument? (content : ByteArray) : Option (List Char) :=
  let (encoding, bytes) := Encoding.detect (content.data.toList.map UInt8.toNat)
  encoding.decode? bytes

end CatalogClient.Text
