/-
# Reading documents

The text of a document is read once, from left to right. The first fault ends the reading and is
reported with its line, its column and its offset. Besides the standard forms, three names of
numbers without digits are read: NaN, Infinity and -Infinity. Lists and objects that stand too deep
in each other and integers with too many digits are refused in a way of their own.
-/

import CatalogClient.Json.Basic
import CatalogClient.Text.Encoding
import CatalogClient.Text.Integer
import CatalogClient.Text.Percent

namespace CatalogClient

/-- What is wrong with the text of a document. -/
inductive SyntaxProblem
  | value
  | propertyName
  | colon
  | comma
  | extraData
  | openString
  | control
  | escape
  | unicodeEscape
  | byteOrderMark
  deriving DecidableEq, Repr

/-- The words for a problem. -/
def SyntaxProblem.label : SyntaxProblem → String
  | .value => "Expecting value"
  | .propertyName => "Expecting property name enclosed in double quotes"
  | .colon => "Expecting ':' delimiter"
  | .comma => "Expecting ',' delimiter"
  | .extraData => "Extra data"
  | .openString => "Unterminated string starting at"
  | .control => "Invalid control character at"
  | .escape => "Invalid \\escape"
  | .unicodeEscape => "Invalid \\uXXXX escape"
  | .byteOrderMark => "Unexpected UTF-8 BOM (decode using utf-8-sig)"

/-- Why a text is not read: a problem, with the number of characters that are left from its place
to the end, an integer of too many digits, or too many lists and objects in each other. -/
inductive ReadFault
  | malformed (problem : SyntaxProblem) (left : Nat)
  | longInteger (digits : Nat)
  | deepList
  | deepObject
  deriving DecidableEq, Repr

/-- The place of a problem in words: its line, its column and its offset. -/
def placeInWords (offset : Nat) (text : List Char) : String :=
  let before := text.take offset
  let line := before.count '\n' + 1
  let column := (before.reverse.takeWhile (· ≠ '\n')).length + 1
  "line " ++ toString line ++ " column " ++ toString column ++ " (char " ++ toString offset ++ ")"

/-- The fault in words. -/
def ReadFault.message (text : List Char) : ReadFault → String
  | .malformed problem left =>
      problem.label ++ ": " ++ placeInWords (text.length - left) text
  | .longInteger digits =>
      "Exceeds the limit (" ++ toString Text.longestInteger
        ++ " digits) for integer string conversion: value has " ++ toString digits
        ++ " digits; use sys.set_int_max_str_digits() to increase the limit"
  | .deepList =>
      "maximum recursion depth exceeded while decoding a JSON array from a unicode string"
  | .deepObject =>
      "maximum recursion depth exceeded while decoding a JSON object from a unicode string"

namespace Json

/-- The blanks between the parts of a document. -/
def isSpace (c : Char) : Bool :=
  c = ' ' || c = '\t' || c = '\n' || c = '\r'

/-- What is left of a text after something was read from its start. -/
abbrev Rest (text : List Char) := { rest : List Char // rest.length < text.length }

/-- What is left of a text after something that may be nothing. -/
abbrev Left (text : List Char) := { rest : List Char // rest.length ≤ text.length }

/-- What was read from a part of a text, seen from the whole text. -/
def widen {α : Type} {part whole : List Char} (fits : part.length ≤ whole.length) :
    Except ReadFault (α × Rest part) → Except ReadFault (α × Rest whole)
  | .error fault => .error fault
  | .ok (value, rest) => .ok (value, ⟨rest.1, Nat.lt_of_lt_of_le rest.2 fits⟩)

/-- The text after the blanks at its start. -/
def skipSpace (text : List Char) : Left text :=
  ⟨text.dropWhile isSpace, (List.dropWhile_sublist isSpace).length_le⟩

/-- The text after the blanks at its start and a mark, if the mark comes next. -/
def next? (mark : Char) (text : List Char) : Option (Rest text) :=
  match skipSpace text with
  | ⟨[], _⟩ => none
  | ⟨c :: rest, fits⟩ => if c = mark then some ⟨rest, fits⟩ else none

/-- The character that a simple escape stands for. -/
def simpleEscape? : Char → Option Char
  | '"' => some '"'
  | '\\' => some '\\'
  | '/' => some '/'
  | 'b' => some (Char.ofNat 8)
  | 'f' => some (Char.ofNat 12)
  | 'n' => some '\n'
  | 'r' => some '\r'
  | 't' => some '\t'
  | _ => none

/-- The number that four hexadecimal digits stand for. -/
def fourDigits? (a b c d : Char) : Option Nat := do
  let a ← Text.hexValue? a
  let b ← Text.hexValue? b
  let c ← Text.hexValue? c
  let d ← Text.hexValue? d
  return ((a * 16 + b) * 16 + c) * 16 + d

/-- The four digits of a Unicode escape, the code unit they stand for, and the text after them,
which may not end there. -/
def readUnit : (text : List Char) → Except ReadFault (Nat × Rest text)
  | a :: b :: c :: d :: next :: rest =>
      match fourDigits? a b c d with
      | some unit =>
          .ok (unit, ⟨next :: rest, by
            simp only [List.length_cons]
            omega⟩)
      | none => .error (.malformed .unicodeEscape (rest.length + 6))
  | other => .error (.malformed .unicodeEscape (other.length + 1))

/-- The rest of a text in quotes after a Unicode escape that opened a pair: the closing half, if it
follows. -/
def readLowHalf (high : Nat) : (text : List Char) → Except ReadFault (Char × Left text)
  | '\\' :: 'u' :: digits =>
      if digits.length < 5 then .ok (Text.charOfUnit high, ⟨'\\' :: 'u' :: digits, Nat.le_refl _⟩)
      else
        match readUnit digits with
        | .error fault => .error fault
        | .ok (low, rest) =>
            if Text.isLowHalf low then
              .ok (Text.charOfPair high low, ⟨rest.1, by
                have := rest.2
                simp only [List.length_cons]
                omega⟩)
            else .ok (Text.charOfUnit high, ⟨'\\' :: 'u' :: digits, Nat.le_refl _⟩)
  | other => .ok (Text.charOfUnit high, ⟨other, Nat.le_refl _⟩)

/-- A Unicode escape after its letter: the character and the text after it. -/
def readUnicodeEscape (text : List Char) : Except ReadFault (Char × Rest text) :=
  match readUnit text with
  | .error fault => .error fault
  | .ok (unit, rest) =>
      if Text.isHighHalf unit then
        match readLowHalf unit rest.1 with
        | .error fault => .error fault
        | .ok (c, after) => .ok (c, ⟨after.1, Nat.lt_of_le_of_lt after.2 rest.2⟩)
      else .ok (Text.charOfUnit unit, rest)

/-- The rest of a text in quotes, given what was read of it in reverse and how many characters were
left at its opening quote; the second part of the result is what follows the closing quote. -/
def readString (opening : Nat) (read : List Char) (text : List Char) :
    Except ReadFault (String × Rest text) :=
  match text with
  | [] => .error (.malformed .openString opening)
  | '"' :: rest => .ok (String.ofList read.reverse, ⟨rest, Nat.lt_succ_self _⟩)
  | '\\' :: [] => .error (.malformed .openString opening)
  | '\\' :: 'u' :: digits =>
      match readUnicodeEscape digits with
      | .error fault => .error fault
      | .ok (c, rest) =>
          have fits : rest.1.length < digits.length := rest.2
          widen (by
            simp only [List.length_cons]
            omega) (readString opening (c :: read) rest.1)
  | '\\' :: letter :: rest =>
      match simpleEscape? letter with
      | some c =>
          widen (by
            simp only [List.length_cons]
            omega) (readString opening (c :: read) rest)
      | none => .error (.malformed .escape (rest.length + 2))
  | c :: rest =>
      if c.toNat < 32 then .error (.malformed .control (rest.length + 1))
      else widen (Nat.le_succ _) (readString opening (c :: read) rest)
termination_by text.length
decreasing_by
  all_goals
    simp only [List.length_cons]
    omega

/-- Whether a character is a decimal digit. -/
def isDigit (c : Char) : Bool :=
  '0' ≤ c && c ≤ '9'

/-- The number that decimal digits stand for. -/
def digitsValue (digits : List Char) : Nat :=
  digits.foldl (fun value c => 10 * value + (c.toNat - 48)) 0

/-- The digits at the start of a text, and what follows them. -/
def spanDigits (text : List Char) : List Char × List Char :=
  (text.takeWhile isDigit, text.dropWhile isDigit)

/-- The whole part of a number: a single zero, or digits that do not start with one. -/
def readWhole? (text : List Char) : Option (List Char × List Char) :=
  match text with
  | '0' :: rest => some (['0'], rest)
  | c :: _ => if isDigit c then some (spanDigits text) else none
  | [] => none

/-- The digits of a fraction, if a point and at least one digit follow. -/
def readFraction? (text : List Char) : Option (List Char × List Char) :=
  match text with
  | '.' :: rest =>
      let (digits, after) := spanDigits rest
      if digits.isEmpty then none else some (digits, after)
  | _ => none

/-- The exponent, if a letter, perhaps a sign, and at least one digit follow. -/
def readExponent? (text : List Char) : Option (Int × List Char) :=
  match text with
  | letter :: rest =>
      if letter = 'e' ∨ letter = 'E' then
        let (negative, unsigned) :=
          match rest with
          | '-' :: more => (true, more)
          | '+' :: more => (false, more)
          | more => (false, more)
        let (digits, after) := spanDigits unsigned
        if digits.isEmpty then none
        else
          let size : Int := digitsValue digits
          some (if negative then -size else size, after)
      else none
  | [] => none

/-- The integer that decimal digits stand for, unless there are too many of them. -/
def integerOfDigits (negative : Bool) (digits : List Char) : Except ReadFault Number :=
  if Text.longestInteger < digits.length then .error (.longInteger digits.length)
  else
    let value : Int := digitsValue digits
    .ok (.integer (if negative then -value else value))

/-- A number without its sign, and what follows it. -/
def readUnsigned? (negative : Bool) (text : List Char) :
    Option (Except ReadFault Number × List Char) :=
  match readWhole? text with
  | none => none
  | some (whole, rest) =>
      let fraction := readFraction? rest
      let (fractionDigits, rest) := fraction.getD ([], rest)
      let exponent := readExponent? rest
      let (power, rest) := exponent.getD (0, rest)
      if fraction.isNone && exponent.isNone then some (integerOfDigits negative whole, rest)
      else
        let digits := digitsValue (whole ++ fractionDigits)
        some (.ok (.ofScaled negative digits (power - fractionDigits.length)), rest)

/-- The values that are written as a word, and what follows the word. -/
def readWord? (text : List Char) : Option (Except ReadFault Json × List Char) :=
  match text with
  | 'n' :: 'u' :: 'l' :: 'l' :: rest => some (.ok .null, rest)
  | 't' :: 'r' :: 'u' :: 'e' :: rest => some (.ok (.bool true), rest)
  | 'f' :: 'a' :: 'l' :: 's' :: 'e' :: rest => some (.ok (.bool false), rest)
  | 'N' :: 'a' :: 'N' :: rest => some (.ok (.number .nan), rest)
  | 'I' :: 'n' :: 'f' :: 'i' :: 'n' :: 'i' :: 't' :: 'y' :: rest =>
      some (.ok (.number (.infinity false)), rest)
  | '-' :: 'I' :: 'n' :: 'f' :: 'i' :: 'n' :: 'i' :: 't' :: 'y' :: rest =>
      some (.ok (.number (.infinity true)), rest)
  | '-' :: rest =>
      (readUnsigned? true rest).map fun (value, after) => (value.map .number, after)
  | _ => (readUnsigned? false text).map fun (value, after) => (value.map .number, after)

/-- A rest that was checked to be shorter than the text. -/
def shorter? (text rest : List Char) : Option (Rest text) :=
  if h : rest.length < text.length then some ⟨rest, h⟩ else none

mutual

/-- The value at the start of a text, in which lists and objects stand in each other at most as deep
as the given number. -/
def readValue (depth : Nat) (text : List Char) : Except ReadFault (Json × Rest text) :=
  match text with
  | '"' :: rest =>
      match readString (rest.length + 1) [] rest with
      | .error fault => .error fault
      | .ok (value, after) => .ok (.string value, ⟨after.1, Nat.lt_succ_of_lt after.2⟩)
  | '\x7b' :: rest =>
      match depth with
      | 0 => .error .deepObject
      | inner + 1 =>
          match next? '\x7d' rest with
          | some after => .ok (.object [], ⟨after.1, Nat.lt_succ_of_lt after.2⟩)
          | none =>
              have fits := (skipSpace rest).2
              match readMembers inner (skipSpace rest).1 with
              | .error fault => .error fault
              | .ok (members, after) =>
                  .ok (.object (Keyed.ofEntries members),
                    ⟨after.1, Nat.lt_succ_of_lt (Nat.lt_of_lt_of_le after.2 fits)⟩)
  | '[' :: rest =>
      match depth with
      | 0 => .error .deepList
      | inner + 1 =>
          match next? ']' rest with
          | some after => .ok (.array [], ⟨after.1, Nat.lt_succ_of_lt after.2⟩)
          | none =>
              have fits := (skipSpace rest).2
              match readItems inner (skipSpace rest).1 with
              | .error fault => .error fault
              | .ok (items, after) =>
                  .ok (.array items,
                    ⟨after.1, Nat.lt_succ_of_lt (Nat.lt_of_lt_of_le after.2 fits)⟩)
  | other =>
      match readWord? other with
      | none => .error (.malformed .value other.length)
      | some (.error fault, _) => .error fault
      | some (.ok value, after) =>
          match shorter? other after with
          | some after => .ok (value, after)
          | none => .error (.malformed .value other.length)
termination_by 2 * text.length

/-- The members of an object from the key at the start of a text to the closing brace. -/
def readMembers (depth : Nat) (text : List Char) :
    Except ReadFault (List (String × Json) × Rest text) :=
  match text with
  | '"' :: rest =>
      match readString (rest.length + 1) [] rest with
      | .error fault => .error fault
      | .ok (name, afterName) =>
          match next? ':' afterName.1 with
          | none => .error (.malformed .colon (skipSpace afterName.1).1.length)
          | some afterColon =>
              have valueStarts : (skipSpace afterColon.1).1.length < rest.length :=
                Nat.lt_of_le_of_lt (skipSpace afterColon.1).2
                  (Nat.lt_trans afterColon.2 afterName.2)
              match readValue depth (skipSpace afterColon.1).1 with
              | .error fault => .error fault
              | .ok (value, afterValue) =>
                  have valueEnds := Nat.lt_trans afterValue.2 valueStarts
                  match next? '\x7d' afterValue.1, next? ',' afterValue.1 with
                  | some after, _ =>
                      .ok ([(name, value)],
                        ⟨after.1, Nat.lt_succ_of_lt (Nat.lt_trans after.2 valueEnds)⟩)
                  | none, some more =>
                      have moreStarts : (skipSpace more.1).1.length < rest.length :=
                        Nat.lt_of_le_of_lt (skipSpace more.1).2 (Nat.lt_trans more.2 valueEnds)
                      match readMembers depth (skipSpace more.1).1 with
                      | .error fault => .error fault
                      | .ok (members, after) =>
                          .ok ((name, value) :: members,
                            ⟨after.1, Nat.lt_succ_of_lt (Nat.lt_trans after.2 moreStarts)⟩)
                  | none, none =>
                      .error (.malformed .comma (skipSpace afterValue.1).1.length)
  | other => .error (.malformed .propertyName other.length)
termination_by 2 * text.length + 1

/-- The items of a list from the value at the start of a text to the closing bracket. -/
def readItems (depth : Nat) (text : List Char) : Except ReadFault (List Json × Rest text) :=
  match readValue depth text with
  | .error fault => .error fault
  | .ok (value, afterValue) =>
      match next? ']' afterValue.1, next? ',' afterValue.1 with
      | some after, _ => .ok ([value], ⟨after.1, Nat.lt_trans after.2 afterValue.2⟩)
      | none, some more =>
          have moreStarts : (skipSpace more.1).1.length < text.length :=
            Nat.lt_of_le_of_lt (skipSpace more.1).2 (Nat.lt_trans more.2 afterValue.2)
          match readItems depth (skipSpace more.1).1 with
          | .error fault => .error fault
          | .ok (items, after) => .ok (value :: items, ⟨after.1, Nat.lt_trans after.2 moreStarts⟩)
      | none, none => .error (.malformed .comma (skipSpace afterValue.1).1.length)
termination_by 2 * text.length + 1

end

/-- The document that a text holds, in which lists and objects stand in each other at most as deep
as the given number. The text may start with a mark of the byte order, which then is no value. -/
def readWithin (depth : Nat) (text : List Char) : Except ReadFault Json :=
  match readValue depth (skipSpace text).1 with
  | .error fault => .error fault
  | .ok (value, after) =>
      let left := (skipSpace after.1).1
      if left = [] then .ok value else .error (.malformed .extraData left.length)

/-- The document that a text holds, which may not start with a mark of the byte order. -/
def read (depth : Nat) (text : List Char) : Except ReadFault Json :=
  if text.head? = some (Char.ofNat 0xFEFF) then .error (.malformed .byteOrderMark text.length)
  else readWithin depth text

end Json

end CatalogClient
