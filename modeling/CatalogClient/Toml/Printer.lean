/-
# Writing settings files

Every entry of a table is a line of its own. Tables within it follow under headings, and lists of
tables under headings of their own. Any other list is written with a comma behind each of its items;
of a table within such a list only the keys are written.
-/

import CatalogClient.Text.Cut
import CatalogClient.Text.Quoted
import CatalogClient.Toml.Basic

namespace CatalogClient.Toml

/-! ## Texts -/

/-- The text with every two backslashes in a row made one. -/
def mergeBackslashes : List Char → List Char
  | '\\' :: '\\' :: rest => '\\' :: mergeBackslashes rest
  | c :: rest => c :: mergeBackslashes rest
  | [] => []

/-- Two parts joined where an escape of two hexadecimal digits was: either with the longer form of
the escape or, if a backslash before it takes its meaning away, with its letter alone. -/
def joinAtEscape (first second : List Char) : Except Fault (List Char) :=
  let before := mergeBackslashes first
  if before.isEmpty then .error .endsEarly
  else
    let backslashes := (before.reverse.takeWhile (· = '\\')).length
    let plain := backslashes = 0 || min backslashes (before.length - 1) % 2 = 1
    .ok (before ++ (if plain then ['x'] else ['u', '0', '0']) ++ second)

/-- All parts joined where escapes of two hexadecimal digits were; an empty one in front is left
out. -/
def joinAtEscapes (first : List Char) : List (List Char) → Except Fault (List Char)
  | [] => .ok first
  | second :: rest =>
      if first.isEmpty then
        match rest with
        | [] => .error .endsEarly
        | third :: rest => do joinAtEscapes (← joinAtEscape second third) rest
      else do joinAtEscapes (← joinAtEscape first second) rest

/-- A text that was written between single quotes as it is written between double ones. -/
def swapQuotes : List Char → List Char
  | '\\' :: '\'' :: rest => '\'' :: swapQuotes rest
  | c :: rest => if c = '"' then '\\' :: c :: swapQuotes rest else c :: swapQuotes rest
  | [] => []

/-- A text between double quotes. -/
def quote (text : String) : Except Fault (List Char) := do
  let body := Text.quotedBody text.toList
  let parts := Text.splitAtAllMarks ['\\', 'x']
    (if Text.quoteMark text.toList = '\'' then swapQuotes body else body)
  return '"' :: (← joinAtEscapes (parts.headD []) parts.tail) ++ ['"']

/-! ## Values within a line -/

/-- Whether a character may stand in a key without quotes. -/
def isPlainKeyChar (c : Char) : Bool :=
  c.isAlphanum || c = '-' || c = '_'

/-- A key, between quotes if it needs them; a line end after it is let pass. -/
def printKey (key : String) : Except Fault (List Char) :=
  let text := key.toList
  let body := if text.getLast? = some '\n' then text.dropLast else text
  if !body.isEmpty && body.all isPlainKeyChar then .ok text else quote key

/-- A number. -/
def printNumber : Number → List Char
  | .integer value => (toString value).toList
  | .decimal negative digits exponent =>
      (if negative then ['-'] else []) ++ Number.printDecimal 1 digits exponent
  | .infinity negative => (if negative then "-inf" else "inf").toList
  | .nan => "nan".toList

/-- The keys of a table as the items of a list. -/
def printKeys : List (String × Toml) → Except Fault (List Char)
  | [] => .ok []
  | (key, _) :: rest => do return ' ' :: (← quote key) ++ ',' :: (← printKeys rest)

mutual

/-- A value. -/
def print : Toml → Except Fault (List Char)
  | .string value => quote value
  | .number value => .ok (printNumber value)
  | .truth value => .ok (if value then "true" else "false").toList
  | .moment value => if value.isShown then .ok value.print else .error .farOffset
  | .list items => do return '[' :: (← printItems items) ++ [']']
  | .table entries => do return '[' :: (← printKeys entries) ++ [']']
  | .absent => .ok "\"None\"".toList

/-- The items of a list, each with a space before and a comma behind it. -/
def printItems : List Toml → Except Fault (List Char)
  | [] => .ok []
  | item :: rest => do return ' ' :: (← item.print) ++ ',' :: (← printItems rest)

end

/-! ## Tables -/

/-- Whether a value is a table. -/
def isTable : Toml → Bool
  | .table _ => true
  | _ => false

mutual

/-- How deeply lists and tables are nested in a value. -/
def depth : Toml → Nat
  | .list items => depthOfItems items + 1
  | .table entries => depthOfEntries entries + 1
  | _ => 0

/-- How deeply the items of a list are nested. -/
def depthOfItems : List Toml → Nat
  | [] => 0
  | item :: rest => max item.depth (depthOfItems rest)

/-- How deeply the entries of a table are nested. -/
def depthOfEntries : List (String × Toml) → Nat
  | [] => 0
  | (_, value) :: rest => max value.depth (depthOfEntries rest)

end

/-- What is written for a table: the lines of its own entries, its lists of tables, and the tables
that are still to be written under their keys. -/
structure Section where
  lines : List Char := []
  lists : List Char := []
  tables : Keyed (Keyed Toml) := []

/-- The text of a section. -/
def Section.text (part : Section) : List Char :=
  part.lines ++ part.lists

/-- Tables below a key. -/
def underKey (key : String) (tables : Keyed (Keyed Toml)) (all : Keyed (Keyed Toml)) :
    Keyed (Keyed Toml) :=
  tables.foldl (fun all (name, entries) => Keyed.put all (key ++ "." ++ name) entries) all

/-- The tables below an item of a list of tables, level by level, given the text of its heading and
how a table is written. -/
def printBelow (write : List Char → Keyed Toml → Except Fault Section) (heading : List Char) :
    Nat → Keyed (Keyed Toml) → Except Fault (List Char)
  | 0, tables => if tables.isEmpty then .ok [] else .error .deep
  | levels + 1, tables => do
      let (text, below) ← tables.foldlM
        (fun (text, below) (name, entries) => do
          let path := heading ++ '.' :: name.toList
          let part ← write (path ++ ['.']) entries
          let own := if part.text.isEmpty then [] else '[' :: path ++ ']' :: '\n' :: part.text
          return (text ++ own, underKey name part.tables below))
        (([] : List Char), ([] : Keyed (Keyed Toml)))
      return text ++ (← if below.isEmpty then .ok [] else printBelow write heading levels below)

/-- The section of an item of a list of tables. An item that is none has to be empty. -/
def sectionOf (write : Keyed Toml → Except Fault Section) : Toml → Except Fault Section
  | .table entries => write entries
  | .string text =>
      match text.toList with
      | [] => .ok {}
      | c :: _ => do
          let _ ← printKey c.toString
          throw .wrongKind
  | .list [] => .ok {}
  | .list (.string text :: _) => do
      let _ ← printKey text
      throw .wrongKind
  | _ => .error .wrongKind

/-- An item of a list of tables under its heading. -/
def printListed (write : List Char → Keyed Toml → Except Fault Section) (levels : Nat)
    (heading : List Char) (item : Toml) : Except Fault (List Char) := do
  let part ← sectionOf (write (heading ++ ['.'])) item
  let text := part.text
  return "[[".toList ++ heading ++ "]]\n".toList
    ++ (if text.head? = some '[' then '\n' :: text else text ++ ['\n'])
    ++ (← printBelow write heading levels part.tables)

/-- A section with one more entry, given the text before the names of tables. -/
def Section.add (write : List Char → Keyed Toml → Except Fault Section) (levels : Nat)
    (start : List Char) (part : Section) (entry : String × Toml) : Except Fault Section := do
  let key ← printKey entry.1
  match entry.2 with
  | .table entries => return { part with tables := part.tables.put (String.ofList key) entries }
  | .absent => return part
  | .list items =>
      if items.any isTable then
        let texts ← items.mapM (printListed write levels (start ++ key))
        return { part with lists := part.lists ++ texts.flatten }
      else
        return { part with
          lines := part.lines ++ key ++ " = ".toList ++ (← print (.list items)) ++ ['\n'] }
  | value =>
      return { part with lines := part.lines ++ key ++ " = ".toList ++ (← value.print) ++ ['\n'] }

/-- The section of a table, given how many levels there may be and the text before the names of
tables. -/
def printTable : Nat → List Char → Keyed Toml → Except Fault Section
  | 0, _, _ => .error .deep
  | levels + 1, start, entries =>
      entries.foldlM (Section.add (printTable levels) levels start) {}

/-- The tables of a file under their headings, level by level, after the text before them. A heading
stands out if its table has entries of its own or nothing at all. -/
def printTables (room : Nat) (before : List Char) :
    Nat → Keyed (Keyed Toml) → Except Fault (List Char)
  | 0, tables => if tables.isEmpty then .ok before else .error .deep
  | levels + 1, tables => do
      let (text, below) ← tables.foldlM
        (fun (text, below) (name, entries) => do
          let part ← printTable room (name.toList ++ ['.']) entries
          let gap := if text.isEmpty || text.reverse.take 2 = ['\n', '\n'] then [] else ['\n']
          let own :=
            if part.text.isEmpty && !part.tables.isEmpty then []
            else gap ++ '[' :: name.toList ++ ']' :: '\n' :: part.text
          return (text ++ own, underKey name part.tables below))
        (before, ([] : Keyed (Keyed Toml)))
      if below.isEmpty then return text else printTables room text levels below

/-- The text of a settings file. -/
def printFile (entries : Keyed Toml) : Except Fault (List Char) := do
  let levels := depth (.table entries) + 1
  let top ← printTable levels [] entries
  printTables levels top.text levels top.tables

end CatalogClient.Toml
