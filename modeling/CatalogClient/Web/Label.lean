/-
# Host names beyond ASCII

A host name consists of labels between points. A label of any script has to be in composed form,
keep the rules for hyphens, marks and the direction of writing, and consist of characters that may
stand where they are. On the web it is written in ASCII behind a mark of its own.
-/

import CatalogClient.Text.Composition
import CatalogClient.Text.Cut
import CatalogClient.Text.Direction
import CatalogClient.Text.Joining
import CatalogClient.Text.Percent
import CatalogClient.Text.Punycode
import CatalogClient.Web.LabelChars

namespace CatalogClient

/-- Why a label is refused: for its form, for a character that may stand nowhere, for one that may
not stand there, or for the direction of writing. -/
inductive LabelFault
  | form
  | character
  | context
  | direction
  deriving DecidableEq, Repr

namespace Host

/-- Whether a letter that is joined to the next one comes next on the way back. -/
def meetsJoinsNext (before : List Nat) : Bool :=
  ((before.dropWhile Text.isTransparent).head?.map Text.joinsNext).getD false

/-- Whether a letter that is joined to the one before it comes next. -/
def meetsJoinsPrevious (after : List Nat) : Bool :=
  ((after.dropWhile Text.isTransparent).head?.map Text.joinsPrevious).getD false

/-- The combining class of the sign that takes the vowel from a letter. -/
def viramaClass : Nat := 9

/-- Whether a joiner may stand between the characters before it, in reverse, and those after it:
behind a sign that takes the vowel from a letter, or, if it keeps letters apart, between letters
that would be joined. -/
def isJoinerAllowed (code : Nat) (before after : List Nat) : Bool :=
  (before.head?.map Text.combiningClass == some viramaClass)
    || (decide (code = 0x200C) && meetsJoinsNext before && meetsJoinsPrevious after)

/-- Whether a character that depends on its neighbours may stand between the characters before it,
in reverse, and those after it. -/
def isContextAllowed (label : List Nat) (code : Nat) (before after : List Nat) : Bool :=
  if code = 0xB7 then before.head? = some 0x6C && after.head? = some 0x6C
  else if code = 0x375 then (after.head?.map greekRanges.hasCode).getD false
  else if code = 0x5F3 ∨ code = 0x5F4 then (before.head?.map hebrewRanges.hasCode).getD false
  else if code = 0x30FB then
    label.any fun other => decide (other ≠ 0x30FB) && japaneseRanges.hasCode other
  else if 0x660 ≤ code ∧ code ≤ 0x669 then
    label.all fun other => !(decide (0x6F0 ≤ other) && decide (other ≤ 0x6F9))
  else label.all fun other => !(decide (0x660 ≤ other) && decide (other ≤ 0x669))

/-- Whether a character is one that depends on its neighbours, joiners apart. -/
def dependsOnContext (code : Nat) : Bool :=
  [0xB7, 0x375, 0x5F3, 0x5F4, 0x30FB].contains code
    || (decide (0x660 ≤ code) && decide (code ≤ 0x669))
    || (decide (0x6F0 ≤ code) && decide (code ≤ 0x6F9))

/-- The fault of the first character that may not stand where it is, given the characters before the
rest in reverse. A joiner behind a character without a name cannot be judged. -/
def characterFault? (label before : List Nat) : List Nat → Option LabelFault
  | [] => none
  | code :: after =>
      if isLabelCode code then characterFault? label (code :: before) after
      else if code = 0x200C ∨ code = 0x200D then
        if (before.head?.map isNameless).getD false then some .form
        else if isJoinerAllowed code before after then
          characterFault? label (code :: before) after
        else some .context
      else if dependsOnContext code then
        if isContextAllowed label code before after then
          characterFault? label (code :: before) after
        else some .context
      else some .character

/-- Whether a label that is written from right to left holds only what may stand in one, ends in a
letter or a digit, and has digits of one sort. -/
def isRightLabel (directions : List Text.Direction) : Bool :=
  let ending := (directions.reverse.dropWhile (· = .mark)).head?
  directions.all (· ≠ .left)
    && (ending = some .right || ending = some .arabic || ending = some .digit
      || ending = some .arabicDigit)
    && !(directions.contains .digit && directions.contains .arabicDigit)

/-- Whether a label that is written from left to right holds only what may stand in one, and ends in
a letter or a digit. -/
def isLeftLabel (directions : List Text.Direction) : Bool :=
  let ending := (directions.reverse.dropWhile (· = .mark)).head?
  directions.all (fun direction =>
      direction ≠ .right && direction ≠ .arabic && direction ≠ .arabicDigit)
    && (ending = some .left || ending = some .digit)

/-- Whether a label keeps the rules for directions: every direction has to be known, and the other
rules apply only if something in the label is written from right to left. -/
def isDirected (label : List Nat) : Bool :=
  let directions := label.map Text.directionOf
  if label.any laterRanges.hasCode then false
  else if directions.any fun direction =>
      direction = .right || direction = .arabic || direction = .arabicDigit then
    match directions.head? with
    | some .right | some .arabic => isRightLabel directions
    | some .left => isLeftLabel directions
    | _ => false
  else true

/-- The longest label in any script. -/
def longestLabel : Nat := 254

/-- The longest label in ASCII. -/
def longestAsciiLabel : Nat := 63

/-- Why a label is refused, if it is. -/
def labelFault? (label : List Nat) : Option LabelFault :=
  if label.isEmpty ∨ longestLabel < label.length then some .form
  else if !Text.isComposed label then some .form
  else if (label.drop 2).take 2 = [45, 45] ∨ label.head? = some 45 ∨ label.getLast? = some 45 then
    some .form
  else if (label.head?.map Text.isMark).getD false then some .form
  else
    match characterFault? label [] label with
    | some fault => some fault
    | none => if isDirected label then none else some .direction

/-- The mark of a label that is written in ASCII. -/
def asciiMark : List Nat := [120, 110, 45, 45]

/-- Why an ASCII label is refused, if it is. A marked one has to be the ASCII form of the label that
it stands for, and is judged as that label. -/
def asciiFault? (label : List Nat) : Option LabelFault :=
  if asciiMark.isPrefixOf label then
    let form := label.drop 4
    if form.isEmpty ∨ form.getLast? = some 45 then some .form
    else
      match Punycode.decode? form with
      | none => some .form
      | some label => if Punycode.encode label = form then labelFault? label else some .form
  else labelFault? label

/-- The ASCII form of a label. -/
def encodeLabel (label : List Nat) : Except LabelFault (List Nat) :=
  let isAscii := label.all fun code => decide (code < 128)
  match if isAscii then asciiFault? label else labelFault? label with
  | some fault => .error fault
  | none =>
      let form := if isAscii then label else asciiMark ++ Punycode.encode label
      if longestAsciiLabel < form.length then .error .form else .ok form

/-- A text with every kind of point as the usual one. -/
def unifyPoints (text : List Char) : List Char :=
  text.map fun c => if [0x3002, 0xFF0E, 0xFF61].contains c.toNat then '.' else c

/-- The labels of a host name; a point at the end is left out. -/
def labelsOf (name : List Char) : List (List Nat) :=
  let labels := (Text.partsBetween '.' (unifyPoints name)).map (List.map Char.toNat)
  if labels.getLast? = some [] then labels.dropLast else labels

/-- Whether a host name ends in a point. -/
def endsInPoint (name : List Char) : Bool :=
  (unifyPoints name).getLast? = some '.'

/-- The ASCII form of a host name in lower case. -/
def encodeName (name : List Char) : Except LabelFault (List Char) := do
  if name.isEmpty ∨ longestLabel < name.length then throw .form
  let labels ← (labelsOf name).mapM encodeLabel
  let texts := labels.map (List.map Char.ofNat)
  let form := ['.'].intercalate (if endsInPoint name then texts ++ [[]] else texts)
  if (if endsInPoint name then 254 else 253) < form.length then throw .form
  return form

/-- Why a host name in ASCII is refused, if it is. -/
def nameFault? (name : List Char) : Option LabelFault :=
  if name.isEmpty ∨ longestLabel < name.length then some .form
  else (labelsOf name).findSome? asciiFault?

end Host

end CatalogClient
