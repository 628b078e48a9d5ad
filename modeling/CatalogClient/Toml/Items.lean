/-
# Items of lists in settings files

Before the items of a list are read, its text is cut into them. Where lists stand in a list, commas
within brackets do not count. Where tables do, every table is an item by itself. Everything else is
cut at all commas; where texts stand in the list, parts are put together again until the quotes fit.
-/

import CatalogClient.Toml.Quoted

namespace CatalogClient.Toml

/-- Whether the text of a list starts with a text in quotes. -/
def startsWithText (text : List Char) : Bool :=
  (Text.trim (inner text)).head?.any isQuote

/-! ## Lists of lists -/

/-- The parts between the commas outside of brackets, given how many brackets are open and what was
read of the current part in reverse. -/
def cutOutsideBrackets (depth : Int) (read : List Char) : List Char → List (List Char)
  | [] => [read.reverse]
  | c :: rest =>
      if c = ',' ∧ depth = 0 then read.reverse :: cutOutsideBrackets depth [] rest
      else
        let change := if c = '[' then 1 else if c = ']' then -1 else 0
        cutOutsideBrackets (depth + change) (c :: read) rest

/-! ## Lists of tables -/

/-- Where a look for tables stands: in a table, behind one, or before the next one. -/
inductive TablePart
  | inside
  | behind
  | before
  deriving DecidableEq, Repr

/-- A look for tables: where it stands, what was read of the current table in reverse, how many
braces are open, whether a quote is, and whether an escape starts. -/
structure TableLook where
  part : TablePart
  read : List Char := []
  depth : Nat
  inQuotes : Bool := false
  isEscaped : Bool := false

/-- Look at the next character of a table: the table is complete when its outermost brace closes. -/
def TableLook.inside (look : TableLook) (c : Char) : TableLook × Option (List Char) :=
  let inQuotes :=
    if isQuote c then (if look.inQuotes then look.isEscaped else true) else look.inQuotes
  let isEscaped := c = '\\' && !look.isEscaped
  let depth := if !inQuotes && c = '\x7b' then look.depth + 1 else look.depth
  if inQuotes || c ≠ '\x7d' then
    ({ look with read := c :: look.read, depth, inQuotes, isEscaped }, none)
  else if 1 < depth then
    ({ look with read := c :: look.read, depth := depth - 1, inQuotes, isEscaped }, none)
  else ({ part := .behind, depth }, some (c :: look.read).reverse)

/-- The tables in the rest of the text of a list. What stands between them does not count. -/
def cutTables (look : TableLook) : List Char → List (List Char)
  | [] => []
  | c :: rest =>
      match look.part with
      | .inside =>
          let (look, complete) := look.inside c
          complete.toList ++ cutTables look rest
      | .behind => cutTables { look with part := .before } rest
      | .before =>
          if c = '\x7b' then cutTables { look with part := .inside, read := [c] } rest
          else cutTables look rest

/-! ## Lists of texts -/

/-- Whether a part starts and ends with the same quote, which is not escaped. -/
def isBounded (part : List Char) : Bool :=
  part.isEmpty || (part.head? = part.getLast? && !endsInEscape (part.drop 1).dropLast)

/-- Whether a part starts with three quotes but ends with one. -/
def isLongOpen (part : List Char) : Bool :=
  match part, part.reverse with
  | a :: b :: c :: _, _ :: y :: z :: _ => a = b && a = c && y ≠ a && z ≠ a
  | _, _ => false

/-- A part with the following ones until it is a whole text, and the parts that are left. -/
def completeText (part : List Char) :
    List (List Char) → Except Fault (List Char × List (List Char))
  | [] =>
      if isBounded (Text.trim part) && !isLongOpen (Text.trim part) then .ok (part, [])
      else .error .endsEarly
  | next :: rest =>
      if isBounded (Text.trim part) && !isLongOpen (Text.trim part) then .ok (part, next :: rest)
      else completeText (part ++ ',' :: next) rest

/-- The parts put together to whole texts; the last one is left as it is. The limit is the number of
parts. -/
def completeTexts : Nat → List (List Char) → Except Fault (List (List Char))
  | limit + 1, part :: next :: rest => do
      let (text, left) ← completeText part (next :: rest)
      return text :: (← completeTexts limit left)
  | _, parts => .ok parts

/-! ## All lists -/

/-- The texts of the items of a list, blank ones included. -/
def cutItems (text : List Char) : Except Fault (List (List Char)) :=
  let body := inner text
  if body.contains '[' && (Text.trim (body.takeWhile (· ≠ '['))).isEmpty then
    .ok (cutOutsideBrackets 0 [] body)
  else if (Text.trim body).head? = some '\x7b' then
    let depth := if body.head? = some '\x7b' then 1 else 0
    .ok (cutTables { part := .inside, read := body.take 1, depth } (body.drop 1))
  else
    let parts := Text.partsBetween ',' body
    if startsWithText text then completeTexts parts.length parts else .ok parts

end CatalogClient.Toml
