/-
# Placeholders

A placeholder is a name between braces inside a text. It opens at the first brace that is closed
on the same line and ends at the nearest closing brace, so it may hold further opening braces but
no line break. A text is read once, from left to right, into its placeholders and the characters
between them.
-/

namespace CatalogClient.Text

/-- A part of a text: a single character outside the placeholders, or a placeholder. -/
inductive Piece
  | char (c : Char)
  | slot (name : List Char)
  deriving DecidableEq, Repr

/-- The characters that a part takes up in the text. -/
def Piece.chars : Piece → List Char
  | .char c => [c]
  | .slot name => '\x7b' :: name ++ ['\x7d']

/-- The name of a placeholder. -/
def Piece.name? : Piece → Option (List Char)
  | .char _ => none
  | .slot name => some name

/-- A placeholder with a dollar sign before it; any other character as it is. -/
def Piece.marked : Piece → List Char
  | .char c => [c]
  | .slot name => '$' :: '\x7b' :: name ++ ['\x7d']

/-- The parts of the rest of a text. When a brace is open, what was read since is given in
reverse: a closing brace makes it a placeholder, and a line break or the end leaves it plain. A
later opening brace could not be closed either before that point, so it is plain as well. -/
def piecesFrom : Option (List Char) → List Char → List Piece
  | none, [] => []
  | none, c :: rest =>
      if c = '\x7b' then piecesFrom (some []) rest else .char c :: piecesFrom none rest
  | some read, [] => .char '\x7b' :: read.reverse.map .char
  | some read, c :: rest =>
      if c = '\x7d' then .slot read.reverse :: piecesFrom none rest
      else if c = '\n' then
        .char '\x7b' :: read.reverse.map .char ++ .char '\n' :: piecesFrom none rest
      else piecesFrom (some (c :: read)) rest

/-- The parts of a text in order. -/
def pieces (text : List Char) : List Piece :=
  piecesFrom none text

/-- The names of the placeholders of a text, in order and with repetitions. -/
def placeholders (text : String) : List String :=
  (pieces text.toList).filterMap fun piece => piece.name?.map String.ofList

/-- The text with a dollar sign before each of its placeholders. -/
def interpolate (text : String) : String :=
  String.ofList ((pieces text.toList).flatMap Piece.marked)

end CatalogClient.Text
