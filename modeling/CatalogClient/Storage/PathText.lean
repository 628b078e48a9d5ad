/-
# Path texts

A path is written as names between slashes. How such texts are joined, split and cut down to the
form without detours.
-/

namespace CatalogClient.PathText

/-- Two path texts joined by one slash; a second text that starts at the root stands alone. -/
def join (left right : String) : String :=
  if right.toList.head? = some '/' then right
  else if left = "" ∨ left.toList.getLast? = some '/' then left ++ right
  else left ++ "/" ++ right

/-- The characters up to the last slash, and those that follow it. -/
def splitLast : List Char → List Char × List Char
  | [] => ([], [])
  | c :: rest =>
      match splitLast rest with
      | ([], tail) => if c = '/' then ([c], tail) else ([], c :: tail)
      | (head, tail) => (c :: head, tail)

theorem splitLast_append (text : List Char) : (splitLast text).1 ++ (splitLast text).2 = text := by
  induction text with
  | nil => rfl
  | cons c rest ih =>
      unfold splitLast
      split
      · next tail equal =>
          rw [equal] at ih
          split <;> simpa using ih
      · next head tail _ equal =>
          rw [equal] at ih
          simpa using ih

/-- The characters without the slashes at their end. -/
def trimSlashes : List Char → List Char
  | [] => []
  | c :: rest =>
      match trimSlashes rest with
      | [] => if c = '/' then [] else [c]
      | kept => c :: kept

theorem length_trimSlashes_le (text : List Char) : (trimSlashes text).length ≤ text.length := by
  induction text with
  | nil => exact Nat.le_refl _
  | cons c rest ih =>
      unfold trimSlashes
      split
      · split <;> simp
      · next equal =>
          rw [List.length_cons, List.length_cons]
          exact Nat.succ_le_succ ih

/-- The text up to its last slash, and what follows it. The slashes before the last part are left
out, unless there is nothing else. -/
def split (text : String) : String × String :=
  let parts := splitLast text.toList
  let trimmed := trimSlashes parts.1
  (String.ofList (if trimmed.isEmpty then parts.1 else trimmed), String.ofList parts.2)

/-- The text of the directory that holds the last part. -/
def directory (text : String) : String :=
  (split text).1

theorem length_directory_le (text : String) :
    (directory text).length + (split text).2.length ≤ text.length := by
  have whole := congrArg List.length (splitLast_append text.toList)
  have trimmed := length_trimSlashes_le (splitLast text.toList).1
  rw [List.length_append, String.length_toList] at whole
  unfold directory split
  dsimp only
  rw [String.length_ofList, String.length_ofList]
  split <;> omega

/-- A part after the last slash leaves less for the directory. -/
theorem length_directory_lt {text : String} (h : (split text).2 ≠ "") :
    (directory text).length < text.length := by
  have := length_directory_le text
  have : 0 < (split text).2.length := by
    rcases Nat.eq_zero_or_pos (split text).2.length with none | some
    · exact absurd (String.length_eq_zero_iff.mp none) h
    · exact some
  omega

/-- The last part of a path that does not end there, and the directory that holds it; one slash at
the end of the path does not count. -/
def parts (text : String) : String × String :=
  if (split text).2 = "" then split (directory text) else split text

theorem length_parts_lt {text : String} (h : (parts text).2 ≠ "") :
    (parts text).1.length < text.length := by
  unfold parts at *
  split at h
  · next ends =>
      rw [if_pos ends]
      have := length_directory_lt h
      have := length_directory_le text
      simp only [directory] at *
      omega
  · next ends =>
      rw [if_neg ends]
      exact length_directory_lt h

/-- The characters between slashes, empty parts included. -/
def splitChars : List Char → List (List Char)
  | [] => [[]]
  | c :: rest =>
      if c = '/' then [] :: splitChars rest
      else
        match splitChars rest with
        | [] => [[c]]
        | part :: parts => (c :: part) :: parts

/-- The names between slashes, without the empty ones. -/
def names (text : String) : List String :=
  ((splitChars text.toList).map String.ofList).filter fun name => decide (name ≠ "")

/-- Whether a path starts at the root. -/
def isAbsolute (text : String) : Bool :=
  text.toList.head? = some '/'

/-- Whether a path ends in a slash. -/
def endsInSlash (text : String) : Bool :=
  text.toList.getLast? = some '/'

/-- The names on the way from the root once every step up has taken back the name before it. -/
def normalize (names : List String) : List String :=
  names.foldl (fun way name =>
    if name = "." then way else if name = ".." then way.dropLast else way ++ [name]) []

/-- The path text of names that start at the root. -/
def ofRoot (names : List String) : String :=
  "/" ++ "/".intercalate names

end CatalogClient.PathText
