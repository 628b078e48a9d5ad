/-
# Percent escapes

A percent sign and two hexadecimal digits stand for a byte. A run of such bytes is read as UTF-8,
and what is not UTF-8 is shown as the replacement character. A percent sign without two digits
stands for itself.
-/

import CatalogClient.Text.Utf8

namespace CatalogClient.Text

/-- The value of a hexadecimal digit. -/
def hexValue? (c : Char) : Option Nat :=
  if '0' ≤ c ∧ c ≤ '9' then some (c.toNat - 48)
  else if 'a' ≤ c ∧ c ≤ 'f' then some (c.toNat - 87)
  else if 'A' ≤ c ∧ c ≤ 'F' then some (c.toNat - 55)
  else none

/-- The text after the bytes collected so far, which are given in reverse. -/
def percentDecodeFrom (bytes : List Nat) : List Char → List Char
  | '%' :: high :: low :: rest =>
      match hexValue? high, hexValue? low with
      | some h, some l => percentDecodeFrom ((16 * h + l) :: bytes) rest
      | _, _ => decodeBytes none bytes.reverse ++ '%' :: percentDecodeFrom [] (high :: low :: rest)
  | c :: rest => decodeBytes none bytes.reverse ++ c :: percentDecodeFrom [] rest
  | [] => decodeBytes none bytes.reverse

/-- The bytes of a text, given as numbers. -/
def utf8Bytes (text : List Char) : List Nat :=
  (String.ofList text).toUTF8.data.toList.map UInt8.toNat

/-- The bytes that a percent-escaped text stands for. -/
def percentBytes : List Char → List Nat
  | '%' :: high :: low :: rest =>
      match hexValue? high, hexValue? low with
      | some h, some l => (16 * h + l) :: percentBytes rest
      | _, _ => utf8Bytes ['%'] ++ percentBytes (high :: low :: rest)
  | c :: rest => utf8Bytes [c] ++ percentBytes rest
  | [] => []

/-- The text that a percent-escaped text stands for. -/
def percentDecode (text : List Char) : List Char :=
  percentDecodeFrom [] text

end CatalogClient.Text
