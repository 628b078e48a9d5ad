/-
# The outline of settings files

A first look at the text of a settings file goes through it character by character. It follows where
quotes and brackets open and close and checks that every line starts with a key, a heading or a
comment. Comments become blanks. So do the line ends within lists, which puts every entry on a line
of its own; only texts between three quotes keep their lines.

Looking back from the first characters leads to the end of the text.
-/

import CatalogClient.Text.Alphanumeric
import CatalogClient.Text.Blank
import CatalogClient.Toml.Quoted

namespace CatalogClient.Toml

/-- Where a look stands: outside of keys, in a key, or after a part of it. -/
inductive KeyPart
  | outside
  | inside
  | after
  deriving DecidableEq, Repr

/-- How far a look has come: the text with its changes, how many brackets are open, the open quote
and whether it is a long one, whether a heading is open, whether a line starts, and the key. -/
structure Outline where
  text : Array Char
  depth : Int := 0
  openQuote : Option Char := none
  isLong : Bool := false
  inHeading : Bool := false
  inListHeading : Bool := false
  atLineStart : Bool := true
  hasDot : Bool := false
  key : KeyPart := .outside

/-- The character at a position, counted from the end if it is negative. -/
def charAt? (text : Array Char) (position : Int) : Option Char :=
  if 0 ≤ position then text[position.toNat]?
  else if 0 ≤ position + text.size then text[(position + text.size).toNat]?
  else none

/-- How often a character stands in a row before a position, up to a limit. -/
def runBefore (text : Array Char) (c : Char) (position : Int) : Nat → Nat
  | 0 => 0
  | limit + 1 =>
      if charAt? text (position - 1) = some c then runBefore text c (position - 1) limit + 1 else 0

/-- The text with blanks from a position to the end of the line. -/
def blankLine (text : Array Char) (position : Nat) : Nat → Array Char
  | 0 => text
  | left + 1 =>
      match text[position]? with
      | none => text
      | some c =>
          if c = '\n' then text
          else blankLine (text.setIfInBounds position ' ') (position + 1) left

namespace Outline

/-- Whether no heading is open. -/
def outsideHeadings (state : Outline) : Bool :=
  !state.inHeading && !state.inListHeading

/-- The key goes on after a blank or a point, unless another one follows. -/
def resumeKey (state : Outline) (position : Nat) : Except Fault Outline :=
  match state.text[position + 1]? with
  | none => .error .endsEarly
  | some next =>
      .ok (if !Text.isBlank next && next ≠ '.' then { state with key := .inside } else state)

/-- The end of a key, which has to be an equals sign. -/
def endKey (state : Outline) (c : Char) : Except Fault (Outline × Bool) :=
  if c = '=' then .ok ({ state with key := .outside, hasDot := false }, false)
  else .error .malformed

/-- Look at a character of a key. The answer tells whether that was all there is to it. -/
def lookInKey (state : Outline) (position : Nat) (c : Char) : Except Fault (Outline × Bool) :=
  if c = '\n' then .error .malformed
  else
    match state.openQuote with
    | some mark =>
        if c = mark ∧ runBefore state.text '\\' position position % 2 = 0 then
          .ok ({ state with key := .after, openQuote := none }, true)
        else .ok (state, true)
    | none =>
        if state.key = .inside then
          if Text.isBlank c then .ok ({ state with key := .after }, true)
          else if c = '.' then .ok ({ state with hasDot := true }, true)
          else if Text.isAlphanumeric c || c = '_' || c = '-' then .ok (state, true)
          else if state.hasDot && charAt? state.text (position - 1) = some '.' && isQuote c then
            .ok ({ state with openQuote := some c }, true)
          else state.endKey c
        else if Text.isBlank c then
          if state.hasDot then (state.resumeKey position).map (·, true) else .ok (state, true)
        else if c = '.' then
          ({ state with hasDot := true }.resumeKey position).map (·, true)
        else state.endKey c

/-- Open or close a quote; the third one in a row opens or closes a long text. -/
def turnQuote (state : Outline) (mark : Char) (isThird : Bool) : Outline :=
  let opens := if isThird then !state.isLong else state.openQuote.isNone
  { state with
    isLong := if isThird then !state.isLong else state.isLong
    openQuote := if opens then some mark else none }

/-- Look at a quote. An odd number of backslashes before it takes its meaning away from a double
one, unless it is the second in a row. -/
def lookAtQuote (state : Outline) (position : Nat) (c : Char) : Outline :=
  if c = '\'' ∧ state.openQuote ≠ some '"' then
    state.turnQuote c (runBefore state.text c position 2 = 2)
  else if c = '"' ∧ state.openQuote ≠ some '\'' then
    let run := runBefore state.text c position 2
    let backslashes := runBefore state.text '\\' (position - run) (2 * state.text.size)
    if run ≠ 1 ∧ backslashes % 2 = 1 then state else state.turnQuote c (run = 2)
  else state

/-- Look at the sign that starts a comment. -/
def lookAtComment (state : Outline) (position : Nat) (c : Char) : Outline :=
  if c = '#' && state.openQuote.isNone && state.outsideHeadings then
    { state with text := blankLine state.text position state.text.size }
  else state

/-- Look at a bracket: it belongs to a heading at the start of a line, and else to a list. -/
def lookAtBracket (state : Outline) (position : Nat) (c : Char) : Outline :=
  if state.openQuote.isSome then state
  else if c = '[' && state.outsideHeadings then
    if state.atLineStart then
      if state.text[position + 1]? = some '[' then { state with inListHeading := true }
      else { state with inHeading := true }
    else { state with depth := state.depth + 1 }
  else if c = ']' then
    if state.inHeading then { state with inHeading := false }
    else if state.inListHeading then
      { state with
        inListHeading := decide (charAt? state.text (position - 1) ≠ some ']') }
    else { state with depth := state.depth - 1 }
  else state

/-- The text with a line end after two quotes in a row turned into a third one; an earlier third one
becomes a blank. -/
def liftQuotes (text : Array Char) (position : Nat) : Array Char :=
  match charAt? text (position - 1) with
  | none => text
  | some mark =>
      if isQuote mark ∧ charAt? text (position - 2) = some mark then
        let lifted := text.setIfInBounds position mark
        if charAt? lifted (position - 3) = some mark then
          lifted.setIfInBounds ((position + text.size - 3) % text.size) ' '
        else lifted
      else text

/-- Look at the end of a line. -/
def lookAtLineEnd (state : Outline) (position : Nat) : Except Fault Outline :=
  if state.isLong then .ok { state with text := liftQuotes state.text position }
  else if state.openQuote.isSome then .error .malformed
  else if state.depth ≠ 0 then
    .ok { state with text := state.text.setIfInBounds position ' ' }
  else .ok { state with atLineStart := true }

/-- Look at the first character of a line that is no blank: a key starts, unless a heading does. -/
def startLine (state : Outline) (position : Nat) : Except Fault Outline :=
  let c := state.text[position]?
  if !state.atLineStart || c = some ' ' || c = some '\t' then .ok state
  else if !state.outsideHeadings then .ok { state with atLineStart := false }
  else if c = some '=' then .error .malformed
  else .ok { state with atLineStart := false, key := .inside }

/-- Look at a character outside of keys. -/
def lookOutside (state : Outline) (position : Nat) (c : Char) : Except Fault Outline :=
  let state := ((state.lookAtQuote position c).lookAtComment position c).lookAtBracket position c
  if c = '\n' then state.lookAtLineEnd position else state.startLine position

/-- Look at the character at a position. -/
def look (state : Outline) (position : Nat) : Except Fault Outline :=
  match state.text[position]? with
  | none => .ok state
  | some c =>
      if state.key = .outside then state.lookOutside position c
      else do
        let (state, isDone) ← state.lookInKey position c
        if isDone then return state else state.lookOutside position c

/-- Look at the given number of characters from a position on. -/
def lookOn (state : Outline) (position : Nat) : Nat → Except Fault Outline
  | 0 => .ok state
  | left + 1 => do (← state.look position).lookOn (position + 1) left

end Outline

/-- The text of a settings file with its comments and inner line ends turned into blanks, unless
quotes or keys are left open. -/
def outline (text : List Char) : Except Fault (List Char) := do
  let whole ← ({ text := text.toArray } : Outline).lookOn 0 text.length
  if whole.key ≠ .outside || whole.openQuote.isSome then throw .malformed
  return whole.text.toList

end CatalogClient.Toml
