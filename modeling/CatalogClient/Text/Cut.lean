/-
# Cutting texts

A text is cut at the first place of a mark, or at every place of it. The mark itself belongs to no
part. A mark may be one character or several.
-/

namespace CatalogClient.Text

/-- The text before the first mark and the text after it, if the mark occurs. -/
def cut? (mark : Char) : List Char → Option (List Char × List Char)
  | [] => none
  | c :: rest =>
      if c = mark then some ([], rest)
      else (cut? mark rest).map fun (before, after) => (c :: before, after)

/-- The parts between the marks, empty parts included. -/
def partsBetween (mark : Char) : List Char → List (List Char)
  | [] => [[]]
  | c :: rest =>
      if c = mark then [] :: partsBetween mark rest
      else
        match partsBetween mark rest with
        | [] => [[c]]
        | part :: parts => (c :: part) :: parts

/-- The parts between the first marks of several characters, up to a limit, given how many
characters still belong to the last mark and what was read of the current part in reverse. -/
def splitFrom (mark : List Char) (limit skip : Nat) (read : List Char) :
    List Char → List (List Char)
  | [] => [read.reverse]
  | c :: rest =>
      if 0 < skip then splitFrom mark limit (skip - 1) read rest
      else if 0 < limit ∧ mark.isPrefixOf (c :: rest) then
        read.reverse :: splitFrom mark (limit - 1) (mark.length - 1) [] rest
      else splitFrom mark limit 0 (c :: read) rest

/-- The parts between the first marks of several characters, up to a limit. -/
def splitAtMarks (mark : List Char) (limit : Nat) (text : List Char) : List (List Char) :=
  splitFrom mark limit 0 [] text

/-- The parts between all marks of several characters. -/
def splitAtAllMarks (mark text : List Char) : List (List Char) :=
  splitAtMarks mark text.length text

theorem partsBetween_ne_nil (mark : Char) (text : List Char) : partsBetween mark text ≠ [] := by
  cases text with
  | nil => simp [partsBetween]
  | cons c rest =>
      unfold partsBetween
      split
      · simp
      · split <;> simp

end CatalogClient.Text
