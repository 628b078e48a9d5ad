/-
# Words and numbers before a sign

No word and no number of a document has an equals sign in it. So they are read before one as they
are at the end of a text, and the sign is left with all that follows.
-/

import CatalogClient.Proofs.Json.Bare

namespace CatalogClient

namespace Json

variable {α : Type}

/-! ## Blanks and digits -/

theorem dropWhile_sign {p : Char → Bool} (hsign : p '=' = false) (before rest : List Char) :
    (before ++ '=' :: rest).dropWhile p = before.dropWhile p ++ '=' :: rest := by
  induction before with
  | nil => rw [List.nil_append, List.dropWhile_cons, hsign]; rfl
  | cons c before ih =>
      rw [List.cons_append, List.dropWhile_cons, List.dropWhile_cons, ih]
      split <;> rfl

theorem takeWhile_sign {p : Char → Bool} (hsign : p '=' = false) (before rest : List Char) :
    (before ++ '=' :: rest).takeWhile p = before.takeWhile p := by
  induction before with
  | nil => rw [List.nil_append, List.takeWhile_cons, hsign]; rfl
  | cons c before ih =>
      rw [List.cons_append, List.takeWhile_cons, List.takeWhile_cons, ih]

theorem skipSpace_sign (before rest : List Char) :
    (skipSpace (before ++ '=' :: rest)).1 = (skipSpace before).1 ++ '=' :: rest :=
  dropWhile_sign rfl before rest

theorem after?_sign {mark : Char} (hmark : mark ≠ '=') (before rest : List Char) :
    after? mark (before ++ '=' :: rest) = (after? mark before).map (· ++ '=' :: rest) := by
  rw [after?_eq, after?_eq, skipSpace_sign]
  cases (skipSpace before).1 with
  | nil => exact if_neg (Ne.symm hmark)
  | cons c left =>
      by_cases h : c = mark
      · simp [h]
      · simp [h]

theorem spanDigits_sign (before rest : List Char) :
    spanDigits (before ++ '=' :: rest) =
      ((spanDigits before).1, (spanDigits before).2 ++ '=' :: rest) := by
  unfold spanDigits
  rw [takeWhile_sign rfl, dropWhile_sign rfl]

/-! ## Numbers -/

/-- What was read with an equals sign and more behind what is left. -/
def behind (rest : List Char) (found : α × List Char) : α × List Char :=
  (found.1, found.2 ++ '=' :: rest)

theorem readWhole?_of_ne {c : Char} (h : c ≠ '0') (rest : List Char) :
    readWhole? (c :: rest) = if isDigit c then some (spanDigits (c :: rest)) else none := by
  unfold readWhole?
  split
  · next heq => exact absurd (List.cons.inj heq).1 h
  · next heq =>
      obtain ⟨rfl, -⟩ := List.cons.inj heq
      rfl
  · next heq => cases heq

theorem readWhole?_sign (before rest : List Char) :
    readWhole? (before ++ '=' :: rest) = (readWhole? before).map (behind rest) := by
  cases before with
  | nil => rfl
  | cons c before =>
      by_cases hzero : c = '0'
      · subst hzero
        rfl
      · rw [List.cons_append, readWhole?_of_ne hzero, readWhole?_of_ne hzero, ← List.cons_append,
          spanDigits_sign]
        split <;> rfl

theorem readFraction?_sign (before rest : List Char) :
    readFraction? (before ++ '=' :: rest) = (readFraction? before).map (behind rest) := by
  cases before with
  | nil => rfl
  | cons c before =>
      by_cases hpoint : c = '.'
      · subst hpoint
        unfold readFraction?
        simp only [List.cons_append, spanDigits_sign]
        split <;> rfl
      · unfold readFraction?
        split
        · next heq => exact absurd (List.cons.inj heq).1 hpoint
        · split
          · next heq => exact absurd (List.cons.inj heq).1 hpoint
          · rfl

/-- The exponent that the digits at the start of a text give. -/
def exponentDigits? (negative : Bool) (text : List Char) : Option (Int × List Char) :=
  let (digits, after) := spanDigits text
  if digits.isEmpty then none
  else
    let size : Int := digitsValue digits
    some (if negative then -size else size, after)

/-- The sign of an exponent, and what follows it. -/
def splitSign : List Char → Bool × List Char
  | '-' :: rest => (true, rest)
  | '+' :: rest => (false, rest)
  | rest => (false, rest)

theorem readExponent?_cons (letter : Char) (rest : List Char) :
    readExponent? (letter :: rest) =
      if letter = 'e' ∨ letter = 'E' then
        exponentDigits? (splitSign rest).1 (splitSign rest).2
      else none :=
  rfl

theorem splitSign_of_ne {c : Char} (hminus : c ≠ '-') (hplus : c ≠ '+') (rest : List Char) :
    splitSign (c :: rest) = (false, c :: rest) := by
  unfold splitSign
  split
  · next heq => exact absurd (List.cons.inj heq).1 hminus
  · next heq => exact absurd (List.cons.inj heq).1 hplus
  · rfl

theorem splitSign_sign (before rest : List Char) :
    splitSign (before ++ '=' :: rest) = behind rest (splitSign before) := by
  cases before with
  | nil => rfl
  | cons c before =>
      by_cases hminus : c = '-'
      · subst hminus
        rfl
      · by_cases hplus : c = '+'
        · subst hplus
          rfl
        · rw [List.cons_append, splitSign_of_ne hminus hplus, splitSign_of_ne hminus hplus]
          rfl

theorem exponentDigits?_sign (negative : Bool) (before rest : List Char) :
    exponentDigits? negative (before ++ '=' :: rest) =
      (exponentDigits? negative before).map (behind rest) := by
  unfold exponentDigits?
  rw [spanDigits_sign]
  simp only
  split <;> rfl

theorem readExponent?_sign (before rest : List Char) :
    readExponent? (before ++ '=' :: rest) = (readExponent? before).map (behind rest) := by
  cases before with
  | nil => rfl
  | cons letter before =>
      rw [List.cons_append, readExponent?_cons, readExponent?_cons]
      rw [splitSign_sign]
      split
      · exact exponentDigits?_sign _ _ rest
      · rfl

theorem readUnsigned?_sign (negative : Bool) (before rest : List Char) :
    readUnsigned? negative (before ++ '=' :: rest) =
      (readUnsigned? negative before).map (behind rest) := by
  unfold readUnsigned?
  rw [readWhole?_sign]
  cases readWhole? before with
  | none => rfl
  | some whole =>
      obtain ⟨digits, left⟩ := whole
      simp only [Option.map_some, behind, readFraction?_sign]
      cases readFraction? left with
      | none =>
          simp only [Option.map_none, Option.getD_none, readExponent?_sign]
          cases readExponent? left <;> rfl
      | some fraction =>
          simp only [Option.map_some, Option.getD_some, behind, readExponent?_sign]
          cases readExponent? fraction.2 <;> rfl

/-- A number that is refused has too many digits. -/
theorem readUnsigned?_fault {negative : Bool} {text left : List Char} {fault : ReadFault}
    (h : readUnsigned? negative text = some (.error fault, left)) :
    ∃ digits, fault = .longInteger digits := by
  unfold readUnsigned? at h
  split at h
  · cases h
  · next whole rest _ =>
      simp only at h
      split at h
      · obtain ⟨hfault, -⟩ := Prod.mk.inj (Option.some.inj h)
        unfold integerOfDigits at hfault
        split at hfault
        · cases hfault
          exact ⟨_, rfl⟩
        · cases hfault
      · cases h

/-! ## Words -/

theorem exists_of_append_sign {word before tail rest : List Char} (hword : '=' ∉ word)
    (h : before ++ '=' :: rest = word ++ tail) :
    ∃ more, before = word ++ more ∧ tail = more ++ '=' :: rest := by
  rcases List.append_eq_append_iff.mp h with ⟨more, rfl, hrest⟩ | ⟨more, rfl, rfl⟩
  · cases more with
    | nil => exact ⟨[], by simp, by simpa using hrest.symm⟩
    | cons c more =>
        obtain ⟨rfl, -⟩ := List.cons.inj hrest
        exact absurd (List.mem_append_right before List.mem_cons_self) hword
  · exact ⟨more, rfl, rfl⟩

/-- The words for values without digits. -/
def words : List (List Char × Json) :=
  [("null".toList, .null), ("true".toList, .bool true), ("false".toList, .bool false),
    ("NaN".toList, .number .nan), ("Infinity".toList, .number (.infinity false)),
    ("-Infinity".toList, .number (.infinity true))]

theorem readWord?_of_word {word : List Char} {value : Json} (h : (word, value) ∈ words)
    (rest : List Char) : readWord? (word ++ rest) = some (.ok value, rest) := by
  simp only [words, List.mem_cons, Prod.mk.injEq, List.not_mem_nil, or_false] at h
  rcases h with ⟨rfl, rfl⟩ | ⟨rfl, rfl⟩ | ⟨rfl, rfl⟩ | ⟨rfl, rfl⟩ | ⟨rfl, rfl⟩ | ⟨rfl, rfl⟩ <;> rfl

/-- The number at the start of a text. -/
def readNumber? (text : List Char) : Option (Except ReadFault Json × List Char) :=
  match text with
  | '-' :: rest => (readUnsigned? true rest).map fun (value, after) => (value.map .number, after)
  | _ => (readUnsigned? false text).map fun (value, after) => (value.map .number, after)

theorem readWord?_of_no_word {text : List Char}
    (h : ∀ entry ∈ words, ∀ rest, text ≠ entry.1 ++ rest) : readWord? text = readNumber? text := by
  unfold readWord?
  split
  · exact absurd rfl (h ("null".toList, .null) (by simp [words]) _)
  · exact absurd rfl (h ("true".toList, .bool true) (by simp [words]) _)
  · exact absurd rfl (h ("false".toList, .bool false) (by simp [words]) _)
  · exact absurd rfl (h ("NaN".toList, .number .nan) (by simp [words]) _)
  · exact absurd rfl (h ("Infinity".toList, .number (.infinity false)) (by simp [words]) _)
  · exact absurd rfl (h ("-Infinity".toList, .number (.infinity true)) (by simp [words]) _)
  · rfl
  · next hother =>
      unfold readNumber?
      split
      · exact absurd rfl (hother _)
      · rfl

theorem readNumber?_of_ne {c : Char} (h : c ≠ '-') (rest : List Char) :
    readNumber? (c :: rest) =
      (readUnsigned? false (c :: rest)).map fun found => (found.1.map .number, found.2) := by
  unfold readNumber?
  split
  · next heq => exact absurd (List.cons.inj heq).1 h
  · rfl

theorem readNumber?_sign (before rest : List Char) :
    readNumber? (before ++ '=' :: rest) = (readNumber? before).map (behind rest) := by
  have hmap : ∀ found : Option (Except ReadFault Number × List Char),
      (found.map (behind rest)).map (fun found => (found.1.map Json.number, found.2)) =
        (found.map fun found => (found.1.map Json.number, found.2)).map (behind rest) :=
    fun found => by cases found <;> rfl
  cases before with
  | nil => rfl
  | cons c before =>
      by_cases hminus : c = '-'
      · subst hminus
        show (readUnsigned? true (before ++ '=' :: rest)).map _ = _
        rw [readUnsigned?_sign]
        exact hmap _
      · rw [List.cons_append, readNumber?_of_ne hminus, readNumber?_of_ne hminus,
          ← List.cons_append, readUnsigned?_sign]
        exact hmap _

theorem sign_not_mem_words : ∀ entry ∈ words, '=' ∉ entry.1 := by
  simp [words]

theorem readWord?_sign (before rest : List Char) :
    readWord? (before ++ '=' :: rest) = (readWord? before).map (behind rest) := by
  by_cases h : ∃ entry ∈ words, ∃ more, before = entry.1 ++ more
  · obtain ⟨⟨word, value⟩, hentry, more, rfl⟩ := h
    rw [List.append_assoc, readWord?_of_word hentry, readWord?_of_word hentry]
    rfl
  · have hbefore : ∀ entry ∈ words, ∀ more, before ≠ entry.1 ++ more :=
      fun entry hentry more heq => h ⟨entry, hentry, more, heq⟩
    have hwhole : ∀ entry ∈ words, ∀ more, before ++ '=' :: rest ≠ entry.1 ++ more := by
      intro entry hentry more heq
      obtain ⟨left, hleft, -⟩ := exists_of_append_sign (sign_not_mem_words entry hentry) heq
      exact hbefore entry hentry left hleft
    rw [readWord?_of_no_word hwhole, readWord?_of_no_word hbefore, readNumber?_sign]

theorem readNumber?_fault {text left : List Char} {fault : ReadFault}
    (h : readNumber? text = some (.error fault, left)) : ∃ digits, fault = .longInteger digits := by
  have hunsigned : ∀ {negative : Bool} {unsigned : List Char},
      (readUnsigned? negative unsigned).map (fun found => (found.1.map Json.number, found.2)) =
        some (.error fault, left) → ∃ digits, fault = .longInteger digits := by
    intro negative unsigned hread
    obtain ⟨⟨outcome, after⟩, hfound, heq⟩ := Option.map_eq_some_iff.mp hread
    obtain ⟨houtcome, -⟩ := Prod.mk.inj heq
    cases outcome with
    | error other =>
        obtain rfl := Except.error.inj houtcome
        exact readUnsigned?_fault hfound
    | ok value => cases houtcome
  unfold readNumber? at h
  split at h
  · exact hunsigned h
  · exact hunsigned h

theorem readWord?_fault {text left : List Char} {fault : ReadFault}
    (h : readWord? text = some (.error fault, left)) : ∃ digits, fault = .longInteger digits := by
  by_cases hword : ∃ entry ∈ words, ∃ more, text = entry.1 ++ more
  · obtain ⟨⟨word, value⟩, hentry, more, rfl⟩ := hword
    rw [readWord?_of_word hentry] at h
    cases h
  · rw [readWord?_of_no_word fun entry hentry more heq => hword ⟨entry, hentry, more, heq⟩] at h
    exact readNumber?_fault h

end Json

end CatalogClient
