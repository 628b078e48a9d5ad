/-
# Reading without bounds

Each part of the reading of a document carries along that what is left is shorter than the text, so
that the reading ends. Without these bounds the reading is a plain composition of its parts: a list
is an item and what follows it, a member is a name, a colon, a value and what follows it.
-/

import CatalogClient.Json.Reader

namespace CatalogClient

namespace Json

variable {α : Type} {text : List Char}

/-- What is read from the start of a text and what is left of it, without a bound on its length. -/
def bare {fits : List Char → Prop}
    (outcome : Except ReadFault (α × { rest : List Char // fits rest })) :
    Except ReadFault (α × List Char) :=
  outcome.map fun found => (found.1, found.2.1)

theorem bare_ok {fits : List Char → Prop} (value : α) (rest : { rest : List Char // fits rest }) :
    bare (.ok (value, rest)) = .ok (value, rest.1) :=
  rfl

theorem bare_widen {part whole : List Char} (fits : part.length ≤ whole.length)
    (outcome : Except ReadFault (α × Rest part)) : bare (widen fits outcome) = bare outcome := by
  cases outcome <;> rfl

theorem length_lt_of_bare {outcome : Except ReadFault (α × Rest text)} {value : α}
    {left : List Char} (h : bare outcome = .ok (value, left)) : left.length < text.length := by
  cases outcome with
  | error fault => cases h
  | ok found =>
      obtain ⟨-, rfl⟩ := Prod.mk.inj (Except.ok.inj h)
      exact found.2.2

/-- What follows a mark after the blanks at the start of a text, if the mark comes next. -/
def after? (mark : Char) (text : List Char) : Option (List Char) :=
  (next? mark text).map (·.1)

theorem after?_eq (mark : Char) (text : List Char) :
    after? mark text =
      match (skipSpace text).1 with
      | [] => none
      | c :: rest => if c = mark then some rest else none := by
  unfold after? next?
  rcases skipSpace text with ⟨_ | ⟨c, rest⟩, fits⟩
  · rfl
  · by_cases h : c = mark <;> simp [h]

theorem bare_readString_close (opening : Nat) (read rest : List Char) :
    bare (readString opening read ('"' :: rest)) = .ok (String.ofList read.reverse, rest) := by
  rw [readString]
  rfl

theorem bare_readString_unicode (opening : Nat) (read digits : List Char) :
    bare (readString opening read ('\\' :: 'u' :: digits)) =
      (bare (readUnicodeEscape digits)).bind fun found =>
        bare (readString opening (found.1 :: read) found.2) := by
  rw [readString]
  cases readUnicodeEscape digits with
  | error fault => rfl
  | ok found => exact bare_widen _ _

theorem bare_readString_escape {letter : Char} (hletter : letter ≠ 'u') (opening : Nat)
    (read rest : List Char) :
    bare (readString opening read ('\\' :: letter :: rest)) =
      match simpleEscape? letter with
      | some c => bare (readString opening (c :: read) rest)
      | none => .error (.malformed .escape (rest.length + 2)) := by
  rw [readString]
  · cases simpleEscape? letter with
    | none => rfl
    | some c => exact bare_widen _ _
  · exact hletter

theorem bare_readString_plain {c : Char} (hquote : c ≠ '"') (hescape : c ≠ '\\') (opening : Nat)
    (read rest : List Char) :
    bare (readString opening read (c :: rest)) =
      if c.toNat < 32 then .error (.malformed .control (rest.length + 1))
      else bare (readString opening (c :: read) rest) := by
  rw [readString]
  · split
    · rfl
    · exact bare_widen _ _
  all_goals
    intros
    simp_all

theorem bare_readValue_string (depth : Nat) (rest : List Char) :
    bare (readValue depth ('"' :: rest)) =
      (bare (readString (rest.length + 1) [] rest)).map fun found =>
        (.string found.1, found.2) := by
  rw [readValue]
  cases readString (rest.length + 1) [] rest <;> rfl

/-- What stands between the ends of a list or an object: nothing, or what others make of it. -/
def enclosed {β : Type} (close : Char) (empty : α)
    (others : List Char → Except ReadFault (β × List Char)) (convert : β → α) (text : List Char) :
    Except ReadFault (α × List Char) :=
  match after? close text with
  | some after => .ok (empty, after)
  | none => (others (skipSpace text).1).map fun found => (convert found.1, found.2)

theorem bare_readValue_object (depth : Nat) (rest : List Char) :
    bare (readValue (depth + 1) ('\x7b' :: rest)) =
      enclosed '\x7d' (.object []) (fun more => bare (readMembers depth more))
        (fun members => .object (Keyed.ofEntries members)) rest := by
  rw [readValue]
  unfold enclosed after?
  cases next? '\x7d' rest with
  | some after => rfl
  | none =>
      simp only [Option.map_none]
      cases readMembers depth (skipSpace rest).1 <;> rfl

theorem bare_readValue_array (depth : Nat) (rest : List Char) :
    bare (readValue (depth + 1) ('[' :: rest)) =
      enclosed ']' (.array []) (fun more => bare (readItems depth more)) .array rest := by
  rw [readValue]
  unfold enclosed after?
  cases next? ']' rest with
  | some after => rfl
  | none =>
      simp only [Option.map_none]
      cases readItems depth (skipSpace rest).1 <;> rfl

theorem bare_readValue_deepObject (rest : List Char) :
    bare (readValue 0 ('\x7b' :: rest)) = .error .deepObject := by
  rw [readValue]
  rfl

theorem bare_readValue_deepList (rest : List Char) :
    bare (readValue 0 ('[' :: rest)) = .error .deepList := by
  rw [readValue]
  rfl

/-- What comes after an entry of a list or an object: its end, or a comma and other entries. -/
def following {β : Type} (close : Char) (others : List Char → Except ReadFault (List β × List Char))
    (entry : β) (left : List Char) : Except ReadFault (List β × List Char) :=
  match after? close left, after? ',' left with
  | some after, _ => .ok ([entry], after)
  | none, some more => (others (skipSpace more).1).map fun found => (entry :: found.1, found.2)
  | none, none => .error (.malformed .comma (skipSpace left).1.length)

theorem bare_readItems (depth : Nat) (text : List Char) :
    bare (readItems depth text) =
      (bare (readValue depth text)).bind fun found =>
        following ']' (fun more => bare (readItems depth more)) found.1 found.2 := by
  rw [readItems]
  cases readValue depth text with
  | error fault => rfl
  | ok found =>
      show _ = following ']' (fun more => bare (readItems depth more)) found.1 found.2.1
      unfold following after?
      simp only
      cases next? ']' found.2.1 with
      | some after => rfl
      | none =>
          cases next? ',' found.2.1 with
          | none => rfl
          | some more =>
              simp only [Option.map_none, Option.map_some]
              cases readItems depth (skipSpace more.1).1 <;> rfl

/-- What comes after the name of a member: a colon, a value, and what comes after the member. -/
def member (depth : Nat) (name : String) (text : List Char) :
    Except ReadFault (List (String × Json) × List Char) :=
  match after? ':' text with
  | none => .error (.malformed .colon (skipSpace text).1.length)
  | some start =>
      (bare (readValue depth (skipSpace start).1)).bind fun found =>
        following '\x7d' (fun more => bare (readMembers depth more)) (name, found.1) found.2

theorem bare_readMembers (depth : Nat) (rest : List Char) :
    bare (readMembers depth ('"' :: rest)) =
      (bare (readString (rest.length + 1) [] rest)).bind fun found =>
        member depth found.1 found.2 := by
  rw [readMembers]
  cases readString (rest.length + 1) [] rest with
  | error fault => rfl
  | ok name =>
      show _ = member depth name.1 name.2.1
      unfold member after?
      simp only
      cases next? ':' name.2.1 with
      | none => rfl
      | some start =>
          simp only [Option.map_some]
          cases readValue depth (skipSpace start.1).1 with
          | error fault => rfl
          | ok found =>
              show _ = following '\x7d' (fun more => bare (readMembers depth more))
                (name.1, found.1) found.2.1
              unfold following after?
              simp only
              cases next? '\x7d' found.2.1 with
              | some after => rfl
              | none =>
                  cases next? ',' found.2.1 with
                  | none => rfl
                  | some more =>
                      simp only [Option.map_none, Option.map_some]
                      cases readMembers depth (skipSpace more.1).1 <;> rfl

theorem bare_readMembers_other {depth : Nat} {text : List Char} (h : text.head? ≠ some '"') :
    bare (readMembers depth text) = .error (.malformed .propertyName text.length) := by
  rw [readMembers]
  · rfl
  · rintro rest rfl
    exact h rfl

theorem bare_readValue_word {depth : Nat} {text : List Char}
    (h : ∀ mark ∈ ['"', '\x7b', '['], text.head? ≠ some mark) :
    bare (readValue depth text) =
      match readWord? text with
      | none => .error (.malformed .value text.length)
      | some (.error fault, _) => .error fault
      | some (.ok value, left) =>
          if left.length < text.length then .ok (value, left)
          else .error (.malformed .value text.length) := by
  rw [readValue]
  · cases readWord? text with
    | none => rfl
    | some found =>
        obtain ⟨outcome, left⟩ := found
        cases outcome with
        | error fault => rfl
        | ok value =>
            unfold shorter?
            by_cases hless : left.length < text.length
            · simp only [hless, dite_true, if_true]
              rfl
            · simp only [hless, dite_false, if_false]
              rfl
  · rintro rest rfl
    exact h _ (by decide) rfl
  · rintro rest rfl
    exact h _ (by decide) rfl
  · rintro rest rfl
    exact h _ (by decide) rfl

end Json

end CatalogClient
