/-
# Line ends

A text file may end its lines with a line feed, with a carriage return, or with both. Reading
makes all of them line feeds.
-/

import CatalogClient.Text.CharRange

namespace CatalogClient.Text

/-- The characters with every line end turned into a line feed. -/
def unifyLineEnds : List Char → List Char
  | [] => []
  | '\x0d' :: '\n' :: rest => '\n' :: unifyLineEnds rest
  | c :: rest => (if c = '\x0d' then '\n' else c) :: unifyLineEnds rest

/-- The characters of a text file, unless its bytes are no text. -/
def ofBytes? (bytes : ByteArray) : Option (List Char) :=
  (String.fromUTF8? bytes).map fun text => unifyLineEnds text.toList

/-- A text without carriage returns is left as it is. -/
theorem unifyLineEnds_eq_self {text : List Char} (h : '\x0d' ∉ text) :
    unifyLineEnds text = text := by
  fun_induction unifyLineEnds text with
  | case1 => rfl
  | case2 rest ih => simp at h
  | case3 c rest _ ih =>
      simp only [List.mem_cons, not_or] at h
      simp [Ne.symm h.1, ih h.2]

end CatalogClient.Text
