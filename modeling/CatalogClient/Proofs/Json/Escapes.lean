/-
# Escapes before a sign

An equals sign is no hexadecimal digit. So an escape of four digits is read before one, or refused,
without a look at what follows the sign. Only where the second half of a pair may follow does the
reading look further ahead; but what it finds there near the sign is refused either way.
-/

import CatalogClient.Proofs.Json.Words

namespace CatalogClient

namespace Json

theorem readUnit_error {text : List Char}
    (h : ∀ a b c d next rest, text = a :: b :: c :: d :: next :: rest →
      fourDigits? a b c d = none) :
    readUnit text = .error (.malformed .unicodeEscape (text.length + 1)) := by
  unfold readUnit
  split
  · next a b c d next rest =>
      split
      · next unit hunit => cases hunit.symm.trans (h a b c d next rest rfl)
      · rfl
  · rfl

theorem fourDigits?_sign {a b c d : Char} (h : '=' ∈ [a, b, c, d]) :
    fourDigits? a b c d = none := by
  have hsign : Text.hexValue? '=' = none := by decide
  simp only [List.mem_cons, List.not_mem_nil, or_false] at h
  unfold fourDigits?
  rcases h with rfl | rfl | rfl | rfl
  · rw [hsign]
    rfl
  · rw [hsign]
    cases Text.hexValue? a <;> rfl
  · rw [hsign]
    cases Text.hexValue? a <;> cases Text.hexValue? b <;> rfl
  · rw [hsign]
    cases Text.hexValue? a <;> cases Text.hexValue? b <;> cases Text.hexValue? c <;> rfl

theorem readUnit_short {digits : List Char} (h : digits.length < 4) (rest : List Char) :
    readUnit (digits ++ '=' :: rest) =
      .error (.malformed .unicodeEscape ((digits ++ '=' :: rest).length + 1)) := by
  apply readUnit_error
  intro a b c d next tail heq
  apply fourDigits?_sign
  have hfour : (digits ++ '=' :: rest).take 4 = [a, b, c, d] := by rw [heq]; rfl
  rw [← hfour, List.take_append, List.take_of_length_le (Nat.le_of_lt h)]
  have hroom : 4 - digits.length = (3 - digits.length) + 1 := by omega
  rw [hroom, List.take_succ_cons]
  exact List.mem_append_right _ List.mem_cons_self

/-- Four digits before a sign are read, or they are none however the text goes on. -/
theorem readUnit_sign (digits : List Char) :
    (∃ unit left, left.length < digits.length ∧
        ∀ rest, bare (readUnit (digits ++ '=' :: rest)) = .ok (unit, left ++ '=' :: rest)) ∨
      ∀ rest, readUnit (digits ++ '=' :: rest) =
        .error (.malformed .unicodeEscape ((digits ++ '=' :: rest).length + 1)) := by
  match digits with
  | a :: b :: c :: d :: left =>
      cases hunit : fourDigits? a b c d with
      | some unit =>
          refine Or.inl ⟨unit, left, by simp only [List.length_cons]; omega, fun rest => ?_⟩
          cases left <;>
            simp only [List.cons_append, List.nil_append, readUnit, hunit] <;> rfl
      | none =>
          refine Or.inr fun rest => readUnit_error ?_
          intro _ _ _ _ _ _ heq
          cases left <;> cases heq <;> exact hunit
  | [] | [_] | [_, _] | [_, _, _] => exact Or.inr fun rest => readUnit_short (by simp) rest

theorem bare_readLowHalf_other {high : Nat} {text : List Char}
    (h : ∀ digits, text ≠ '\\' :: 'u' :: digits) :
    bare (readLowHalf high text) = .ok (Text.charOfUnit high, text) := by
  unfold readLowHalf
  split
  · exact absurd rfl (h _)
  · rfl

theorem bare_readLowHalf_short {high : Nat} {digits : List Char} (h : digits.length < 5) :
    bare (readLowHalf high ('\\' :: 'u' :: digits)) =
      .ok (Text.charOfUnit high, '\\' :: 'u' :: digits) := by
  unfold readLowHalf
  simp only [h, if_true]
  rfl

theorem bare_readLowHalf {high : Nat} {digits : List Char} (h : ¬ digits.length < 5) :
    bare (readLowHalf high ('\\' :: 'u' :: digits)) =
      (bare (readUnit digits)).bind fun found =>
        .ok (if Text.isLowHalf found.1 then (Text.charOfPair high found.1, found.2)
          else (Text.charOfUnit high, '\\' :: 'u' :: digits)) := by
  unfold readLowHalf
  simp only [h, if_false]
  cases readUnit digits with
  | error fault => rfl
  | ok found =>
      obtain ⟨low, rest⟩ := found
      show _ = Except.ok (if Text.isLowHalf low then _ else _)
      simp only
      split
      · exact bare_ok _ _
      · exact bare_ok _ _

theorem bare_readUnicodeEscape (text : List Char) :
    bare (readUnicodeEscape text) =
      (bare (readUnit text)).bind fun found =>
        if Text.isHighHalf found.1 then bare (readLowHalf found.1 found.2)
        else .ok (Text.charOfUnit found.1, found.2) := by
  unfold readUnicodeEscape
  cases readUnit text with
  | error fault => rfl
  | ok found =>
      obtain ⟨unit, rest⟩ := found
      show _ = if Text.isHighHalf unit then bare (readLowHalf unit rest.1) else _
      simp only
      split
      · cases readLowHalf unit rest.1 <;> rfl
      · rfl

/-- Where the second half of a pair may follow: it is read or not, or no character is however the
text goes on. The look ahead goes further than four digits, so close before the sign it depends on
how the text goes on what is left; but then nothing is read of that either. -/
theorem readLowHalf_sign (high : Nat) (before : List Char) :
    (∃ c left, left.length ≤ before.length ∧
        ∀ rest, bare (readLowHalf high (before ++ '=' :: rest)) = .ok (c, left ++ '=' :: rest)) ∨
      (∃ digits, ∀ rest, bare (readLowHalf high (before ++ '=' :: rest)) =
        .error (.malformed .unicodeEscape ((digits ++ '=' :: rest).length + 1))) ∨
      ∃ digits, before = '\\' :: 'u' :: digits ∧ digits.length < 4 := by
  by_cases h : ∃ digits, before = '\\' :: 'u' :: digits
  · obtain ⟨digits, rfl⟩ := h
    by_cases hshort : digits.length < 4
    · exact Or.inr (Or.inr ⟨digits, rfl, hshort⟩)
    have hlong : ∀ rest, ¬ (digits ++ '=' :: rest).length < 5 := by
      intro rest
      simp only [List.length_append, List.length_cons]
      omega
    rcases readUnit_sign digits with ⟨low, left, hless, hunit⟩ | hfault
    · by_cases hlow : Text.isLowHalf low = true
      · refine Or.inl ⟨Text.charOfPair high low, left, ?_, fun rest => ?_⟩
        · simp only [List.length_cons]
          omega
        · rw [List.cons_append, List.cons_append, bare_readLowHalf (hlong rest), hunit rest]
          exact congrArg Except.ok (if_pos hlow)
      · refine Or.inl ⟨Text.charOfUnit high, '\\' :: 'u' :: digits, Nat.le_refl _, fun rest => ?_⟩
        rw [List.cons_append, List.cons_append, bare_readLowHalf (hlong rest), hunit rest]
        exact congrArg Except.ok (if_neg hlow)
    · refine Or.inr (Or.inl ⟨digits, fun rest => ?_⟩)
      rw [List.cons_append, List.cons_append, bare_readLowHalf (hlong rest), hfault rest]
      rfl
  · refine Or.inl ⟨Text.charOfUnit high, before, Nat.le_refl _, fun rest => ?_⟩
    apply bare_readLowHalf_other
    intro digits heq
    obtain ⟨more, hmore, -⟩ :=
      @exists_of_append_sign ['\\', 'u'] _ _ _ (by decide) heq
    exact h ⟨more, hmore⟩

/-- An escape before a sign is read, or a text in quotes is refused at it, however the text goes on.
-/
theorem readUnicodeEscape_sign (digits : List Char) :
    (∃ c left, left.length ≤ digits.length ∧
        ∀ rest, bare (readUnicodeEscape (digits ++ '=' :: rest)) = .ok (c, left ++ '=' :: rest)) ∨
      ∃ left, ∀ opening read rest,
        bare (readString opening read ('\\' :: 'u' :: digits ++ '=' :: rest)) =
          .error (.malformed .unicodeEscape ((left ++ '=' :: rest).length + 1)) := by
  rcases readUnit_sign digits with ⟨unit, left, hless, hunit⟩ | hfault
  · by_cases hhigh : Text.isHighHalf unit = true
    · have hescape : ∀ rest, bare (readUnicodeEscape (digits ++ '=' :: rest)) =
          bare (readLowHalf unit (left ++ '=' :: rest)) := by
        intro rest
        rw [bare_readUnicodeEscape, hunit rest]
        exact if_pos hhigh
      rcases readLowHalf_sign unit left with ⟨c, other, hother, hlow⟩ | ⟨others, hlow⟩ |
        ⟨others, rfl, hshort⟩
      · exact Or.inl ⟨c, other, by omega, fun rest => (hescape rest).trans (hlow rest)⟩
      · refine Or.inr ⟨others, fun opening read rest => ?_⟩
        rw [List.cons_append, List.cons_append, bare_readString_unicode, hescape, hlow]
        rfl
      · refine Or.inr ⟨others, fun opening read rest => ?_⟩
        rw [List.cons_append, List.cons_append, bare_readString_unicode, hescape,
          List.cons_append, List.cons_append]
        by_cases hnear : (others ++ '=' :: rest).length < 5
        · rw [bare_readLowHalf_short hnear]
          show bare (readString _ _ ('\\' :: 'u' :: (others ++ '=' :: rest))) = _
          rw [bare_readString_unicode, bare_readUnicodeEscape, readUnit_short hshort]
          rfl
        · rw [bare_readLowHalf hnear, readUnit_short hshort]
          rfl
    · refine Or.inl ⟨Text.charOfUnit unit, left, Nat.le_of_lt hless, fun rest => ?_⟩
      rw [bare_readUnicodeEscape, hunit rest]
      exact if_neg hhigh
  · refine Or.inr ⟨digits, fun opening read rest => ?_⟩
    rw [List.cons_append, List.cons_append, bare_readString_unicode, bare_readUnicodeEscape, hfault]
    rfl

end Json

end CatalogClient
