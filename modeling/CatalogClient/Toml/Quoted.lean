/-
# Texts in settings files

A text stands between quotes: one on each side, or three if it may have several lines. Between
double quotes a backslash starts an escape. Code points in hexadecimal digits are put in first, in a
pass of their own; what comes out of it may be part of an escape again.
-/

import CatalogClient.Text.Cut
import CatalogClient.Text.Percent
import CatalogClient.Toml.Basic

namespace CatalogClient.Toml

/-- Whether a character is a quote. -/
def isQuote (c : Char) : Bool :=
  c = '"' || c = '\''

/-- Whether a text ends in an odd number of backslashes, so that the last one is an escape. -/
def endsInEscape (text : List Char) : Bool :=
  (text.reverse.takeWhile (· = '\\')).length % 2 = 1

/-- The text without its first and its last character. -/
def inner (text : List Char) : List Char :=
  (text.drop 1).dropLast

/-! ## The end of a text -/

/-- Whether nothing follows the end of a text, given the parts between its quotes: whether the text
has three quotes on each side, whether it has ended, and how many quotes in a row were met. A quote
after an escape is part of the text. -/
def endsOnce (isLong hasEnded : Bool) (quotes : Nat) : List (List Char) → Bool
  | [] => true
  | part :: rest =>
      if part = [] then
        if isLong then endsOnce isLong hasEnded (quotes + 1) rest
        else endsOnce isLong true quotes rest
      else if endsInEscape part then endsOnce isLong hasEnded quotes rest
      else if hasEnded then false
      else if !isLong || 1 < quotes then endsOnce isLong true quotes rest
      else endsOnce isLong false 0 rest

/-- Whether nothing follows the end of a text that starts with a quote. -/
def isWhole (mark : Char) (text : List Char) : Bool :=
  match Text.partsBetween mark (text.drop 1) with
  | [] :: [] :: parts => endsOnce true false 0 parts
  | parts => endsOnce false false 0 parts

/-! ## Escapes -/

/-- The characters that stand for another one after a backslash. -/
def escaped? : Char → Option Char
  | '0' => some '\x00'
  | 'b' => some '\x08'
  | 'f' => some '\x0c'
  | 'n' => some '\n'
  | 'r' => some '\x0d'
  | 't' => some '\t'
  | '"' => some '"'
  | _ => none

/-- Whether all escapes are known ones, given the parts between backslashes and whether a backslash
is escaped itself. -/
def knowsEscapes (afterBackslash : Bool) : List (List Char) → Bool
  | [] => true
  | [] :: rest => knowsEscapes (!afterBackslash) rest
  | (c :: _) :: rest =>
      (afterBackslash || (escaped? c).isSome || c = 'u' || c = 'U') && knowsEscapes false rest

/-- The character whose code point the first digits of a text give, and what follows them. Only at
the end of the text there may be fewer digits. -/
def readCodePoint (length : Nat) (text : List Char) : Except Fault (Char × List Char) := do
  let digits ← (text.take length).mapM fun c =>
    match Text.hexValue? c with
    | some digit => .ok digit
    | none => .error .malformed
  if digits = [] ∨ digits = [13] then throw .endsEarly
  if digits.head? = some 13 ∧ ∃ second ∈ digits[1]?, 7 < second then throw .malformed
  let code := digits.foldl (fun code digit => 16 * code + digit) 0
  if 0x80000000 ≤ code then throw .beyondBounds
  if !code.isValidChar then throw .malformed
  return (Char.ofNat code, text.drop length)

/-- The parts after code point escapes with their characters put in, given whether the first escape
is none because of a backslash before it. -/
def placeFrom (mark : List Char) (length : Nat) (isEscaped : Bool) :
    List (List Char) → Except Fault (List Char)
  | [] => .ok []
  | part :: rest =>
      if isEscaped then
        (placeFrom mark length (endsInEscape part) rest).map (mark ++ part ++ ·)
      else do
        let (c, after) ← readCodePoint length part
        return c :: after ++ (← placeFrom mark length false rest)

/-- The text with the characters of code point escapes put in: a backslash, a letter and as many
digits as the length says. -/
def placeCodePoints (letter : Char) (length : Nat) (text : List Char) : Except Fault (List Char) :=
  match Text.splitAtAllMarks ['\\', letter] text with
  | [] => .ok []
  | first :: parts =>
      (placeFrom ['\\', letter] length (endsInEscape first) parts).map (first ++ ·)

/-- The text with the other escapes replaced by what they stand for. -/
def replaceEscapes : List Char → Except Fault (List Char)
  | '\\' :: c :: rest =>
      match escaped? c with
      | some other => (replaceEscapes rest).map (other :: ·)
      | none =>
          if c = '\\' then (replaceEscapes rest).map (c :: ·)
          else if c = 'u' ∨ c = 'U' then (replaceEscapes rest).map ('\\' :: c :: ·)
          else .error .malformed
  | c :: rest => (replaceEscapes rest).map (c :: ·)
  | [] => .ok []

/-- The text with all escapes replaced. -/
def readEscapes (text : List Char) : Except Fault (List Char) := do
  if !knowsEscapes false ((Text.partsBetween '\\' text).drop 1) then throw .malformed
  replaceEscapes (← placeCodePoints 'U' 8 (← placeCodePoints 'u' 4 text))

/-- What stands between the quotes, of which there are one or three on each side. -/
def withoutQuotes (mark : Char) (text : List Char) : List Char :=
  match text with
  | _ :: second :: third :: _ =>
      if second = mark ∧ third = mark then inner (inner (inner text)) else inner text
  | _ => []

/-- The text that a value stands for which starts with a quote. -/
def readQuoted (mark : Char) (text : List Char) : Except Fault (List Char) := do
  if !isWhole mark text then throw .malformed
  return withoutQuotes mark (← if mark = '"' then readEscapes text else .ok text)

end CatalogClient.Toml
