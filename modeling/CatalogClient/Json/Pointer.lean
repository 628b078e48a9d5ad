/-
# Pointers

A reference is the name of a document and, after the first number sign, a pointer into it. The
pointer is a list of parts between slashes; one part leads from a value to a part of it.
-/

import CatalogClient.Json.Document
import CatalogClient.Text.Integer
import CatalogClient.Text.Percent
import CatalogClient.Web.Uri

namespace CatalogClient

/-- A reference in its parts: the name of a document and a pointer into it. -/
structure Reference where
  document : List Char
  pointer : List Char
  deriving DecidableEq, Repr

namespace Reference

/-- The reference that a text means within a document of the given name, unless a name in it has no
acceptable authority. A name is put into its usual form only if a pointer follows it. -/
def within? (base text : List Char) : Option Reference := do
  let name ← Uri.resolve? base text
  if name.contains '#' then
    let uri ← Uri.split? name
    return ⟨({ uri with fragment := [] } : Uri).withoutEmptyParameters.print, uri.fragment⟩
  else return ⟨name, []⟩

/-- The form of a document's name under which the document is kept; the main document has the empty
one. -/
def key? (reference : Reference) : Option String :=
  (Uri.split? reference.document).map fun uri => String.ofList uri.print

/-- A part with every tilde and one read as a slash. -/
def unescapeSlash : List Char → List Char
  | '~' :: '1' :: rest => '/' :: unescapeSlash rest
  | c :: rest => c :: unescapeSlash rest
  | [] => []

/-- A part with every tilde and zero read as a tilde. -/
def unescapeTilde : List Char → List Char
  | '~' :: '0' :: rest => '~' :: unescapeTilde rest
  | c :: rest => c :: unescapeTilde rest
  | [] => []

/-- The parts of a pointer. Slashes at the start do not count, the percent escapes of the rest are
read before it is split, and the empty pointer has no parts. -/
def parts (pointer : List Char) : List (List Char) :=
  if pointer.isEmpty then []
  else
    (Text.partsBetween '/' (Text.percentDecode (pointer.dropWhile (· = '/')))).map fun part =>
      unescapeTilde (unescapeSlash part)

end Reference

/-- The position that an index stands for in a sequence; a negative index counts from the end. -/
def positionOf? (length : Nat) (index : Int) : Option Nat :=
  let position := if index < 0 then index + length else index
  if 0 ≤ position ∧ position < length then some position.toNat else none

namespace Json

/-- The place that one part of a pointer leads to. Objects are entered by key; lists, and texts as
sequences of characters, by an index. -/
def enter? (root : Json) (place : Place) (part : List Char) : Option Place :=
  match place with
  | .letter c =>
      (Text.readInteger? part).bind fun index => (positionOf? 1 index).map fun _ => .letter c
  | .node path =>
      match root.at? path with
      | some (.object members) =>
          let name := String.ofList part
          if (members.lookup name).isSome then some (.node (path ++ [.key name])) else none
      | some (.array items) =>
          (Text.readInteger? part).bind fun index =>
            (positionOf? items.length index).map fun position => .node (path ++ [.index position])
      | some (.string text) =>
          (Text.readInteger? part).bind fun index =>
            (positionOf? text.length index).bind fun position =>
              (text.toList[position]?).map .letter
      | _ => none

end Json

end CatalogClient
