/-
# Host names in ASCII

A text of any characters is written in ASCII: its ASCII characters first, and after a hyphen where
the others go. The others are put in by rising code points; each is given by how many places a walk
through the text passes since the one before. These distances are written in digits of base 36,
whose thresholds adapt to the distances before.
-/

namespace CatalogClient.Punycode

/-- The threshold of a digit at a place, which depends on the bias. -/
def threshold (place bias : Nat) : Nat :=
  min 26 (max 1 (36 * (place + 1) - bias))

theorem threshold_pos (place bias : Nat) : 1 ≤ threshold place bias := by
  unfold threshold
  omega

theorem threshold_le (place bias : Nat) : threshold place bias ≤ 26 := by
  unfold threshold
  omega

/-- The bias for a distance that is divided further while it is large, given the divisions so far.
-/
def biasFrom (distance divisions : Nat) : Nat :=
  if _large : 455 < distance then biasFrom (distance / 35) (divisions + 36)
  else divisions + 36 * distance / (distance + 38)
termination_by distance
decreasing_by exact Nat.div_lt_self (by omega) (by omega)

/-- The bias after a distance, given how many characters the text has by then. -/
def adapt (distance : Nat) (isFirst : Bool) (length : Nat) : Nat :=
  let start := if isFirst then distance / 700 else distance / 2
  biasFrom (start + start / length) 0

/-! ## Writing -/

/-- The character for a digit. -/
def digitChar (digit : Nat) : Nat :=
  if digit < 26 then digit + 97 else digit + 22

/-- The digits of a distance from a place on. -/
def writeFrom (bias place distance : Nat) : List Nat :=
  let low := threshold place bias
  if _small : distance < low then [digitChar distance]
  else
    digitChar (low + (distance - low) % (36 - low))
      :: writeFrom bias (place + 1) ((distance - low) / (36 - low))
termination_by distance
decreasing_by
  have := threshold_pos place bias
  have := threshold_le place bias
  refine Nat.lt_of_le_of_lt (Nat.div_le_self _ _) ?_
  omega

/-- The state of a writing: the distance since the last character, the bias, how many characters are
placed, and whether none was placed beyond ASCII. -/
structure Writing where
  distance : Nat := 0
  bias : Nat := 72
  placed : Nat
  isFirst : Bool := true
  written : List Nat := []

/-- Go on with one character of the text on a walk that places all characters of a code point. -/
def Writing.pass (code : Nat) (writing : Writing) (next : Nat) : Writing :=
  if next < code then { writing with distance := writing.distance + 1 }
  else if next = code then
    { distance := 0
      bias := adapt writing.distance writing.isFirst (writing.placed + 1)
      placed := writing.placed + 1
      isFirst := false
      written := writing.written ++ writeFrom writing.bias 0 writing.distance }
  else writing

/-- Go on with a code point, given the one before: the walk passes all places that were left, once
for every code point between them. -/
def Writing.place (text : List Nat) (state : Writing × Nat) (code : Nat) : Writing × Nat :=
  let (writing, last) := state
  let skipped := (code - last) * (writing.placed + 1)
  let walked :=
    text.foldl (Writing.pass code) { writing with distance := writing.distance + skipped }
  ({ walked with distance := walked.distance + 1 }, code + 1)

/-- The ASCII form of a text. -/
def encode (text : List Nat) : List Nat :=
  let basic := text.filter fun code => decide (code < 128)
  let others := ((text.filter fun code => decide (128 ≤ code)).mergeSort).eraseDups
  let written := (others.foldl (Writing.place text) ({ placed := basic.length }, 128)).1.written
  if basic.isEmpty then written else basic ++ 45 :: written

/-! ## Reading -/

/-- The digit of a character. -/
def digitOf? (code : Nat) : Option Nat :=
  if 97 ≤ code ∧ code ≤ 122 then some (code - 97)
  else if 65 ≤ code ∧ code ≤ 90 then some (code - 65)
  else if 48 ≤ code ∧ code ≤ 57 then some (code - 22)
  else none

/-- A distance whose digits start a text, and what follows it. The value, weight and place of the
digits read so far are given. -/
def readFrom? (bias value weight place : Nat) : List Nat → Option (Nat × List Nat)
  | [] => none
  | code :: rest =>
      match digitOf? code with
      | none => none
      | some digit =>
          let low := threshold place bias
          let value := value + digit * weight
          if digit < low then some (value, rest)
          else readFrom? bias value (weight * (36 - low)) (place + 1) rest

theorem length_lt_of_readFrom? {bias value weight place distance : Nat} {text rest : List Nat}
    (h : readFrom? bias value weight place text = some (distance, rest)) :
    rest.length < text.length := by
  induction text generalizing value weight place with
  | nil => simp [readFrom?] at h
  | cons code tail ih =>
      rw [readFrom?] at h
      split at h
      · cases h
      · dsimp only at h
        split at h
        · cases h
          simp
        · exact Nat.lt_succ_of_lt (ih h)

/-- The text after the remaining distances are read, given the text so far, the last code point, the
place after the last character and the bias. -/
def placeFrom? (text : List Nat) (code place bias : Nat) (isFirst : Bool) (digits : List Nat) :
    Option (List Nat) :=
  if digits = [] then some text
  else
    match _read : readFrom? bias 0 1 0 digits with
    | none => none
    | some (distance, rest) =>
        let whole := place + distance
        let code := code + whole / (text.length + 1)
        let position := whole % (text.length + 1)
        if 0x10FFFF < code then none
        else
          placeFrom? (text.take position ++ code :: text.drop position) code (position + 1)
            (adapt distance isFirst (text.length + 1)) false rest
termination_by digits.length
decreasing_by exact length_lt_of_readFrom? _read

/-- The text that an ASCII form stands for. -/
def decode? (form : List Nat) : Option (List Nat) :=
  let tail := (form.reverse.takeWhile (· ≠ 45)).reverse
  let basic := (form.take (form.length - tail.length)).dropLast
  placeFrom? basic 128 0 72 true tail

end CatalogClient.Punycode
