/-
# Parts of texts

Cutting a text at a mark, told by where the mark is: a text without it is its only part, and the
text before the first one is the first part. Trimming takes blanks from both ends, so what neither
starts nor ends with one is what remains of it between blanks.
-/

import CatalogClient.Text.Blank
import CatalogClient.Text.Cut
import Mathlib.Data.List.Basic

namespace CatalogClient.Text

variable {mark : Char} {part text : List Char}

/-! ## Marks -/

theorem partsBetween_append (h : mark ∉ part) (rest : List Char) :
    partsBetween mark (part ++ mark :: rest) = part :: partsBetween mark rest := by
  induction part with
  | nil => simp [partsBetween]
  | cons c part ih =>
      simp only [List.mem_cons, not_or] at h
      rw [List.cons_append, partsBetween, if_neg (Ne.symm h.1), ih h.2]

theorem partsBetween_of_not_mem (h : mark ∉ text) : partsBetween mark text = [text] := by
  induction text with
  | nil => rfl
  | cons c rest ih =>
      simp only [List.mem_cons, not_or] at h
      rw [partsBetween, if_neg (Ne.symm h.1), ih h.2]

/-- A character that a mark does not start with is read into the current part. -/
theorem splitFrom_cons_of_ne {c : Char} (h : mark ≠ c) (marks : List Char) (limit : Nat)
    (read rest : List Char) :
    splitFrom (mark :: marks) limit 0 read (c :: rest) =
      splitFrom (mark :: marks) limit 0 (c :: read) rest := by
  rw [splitFrom, if_neg (Nat.lt_irrefl 0), if_neg]
  simp [List.isPrefixOf, h]

/-- A text without the first character of a mark is not cut at the mark. -/
theorem splitFrom_of_not_mem (h : mark ∉ text) (marks : List Char) (limit : Nat)
    (read : List Char) :
    splitFrom (mark :: marks) limit 0 read text = [read.reverse ++ text] := by
  induction text generalizing read with
  | nil => simp [splitFrom]
  | cons c rest ih =>
      simp only [List.mem_cons, not_or] at h
      rw [splitFrom_cons_of_ne h.1, ih h.2]
      simp

/-- A text is cut at the first mark, and then as often as the limit says. -/
theorem splitFrom_append (h : mark ∉ part) (limit : Nat) (read rest : List Char) :
    splitFrom [mark] (limit + 1) 0 read (part ++ mark :: rest) =
      (read.reverse ++ part) :: splitFrom [mark] limit 0 [] rest := by
  induction part generalizing read with
  | nil => simp [splitFrom, List.isPrefixOf]
  | cons c part ih =>
      simp only [List.mem_cons, not_or] at h
      rw [List.cons_append, splitFrom_cons_of_ne h.1, ih h.2]
      simp

/-- A text is not cut at all if the limit says so. -/
theorem splitFrom_zero (marks read : List Char) :
    splitFrom marks 0 0 read text = [read.reverse ++ text] := by
  induction text generalizing read with
  | nil => simp [splitFrom]
  | cons c rest ih =>
      rw [splitFrom, if_neg (Nat.lt_irrefl 0), if_neg (by simp), ih]
      simp

theorem splitAtAllMarks_of_not_mem (h : mark ∉ text) (marks : List Char) :
    splitAtAllMarks (mark :: marks) text = [text] :=
  splitFrom_of_not_mem h marks _ []

/-- Where one cut is allowed, it is made at the first mark. -/
theorem splitAtMarks_one (h : mark ∉ part) (rest : List Char) :
    splitAtMarks [mark] 1 (part ++ mark :: rest) = [part, rest] := by
  rw [splitAtMarks, splitFrom_append h, splitFrom_zero]
  rfl

/-- A mark that stands in a text once cuts it in two. -/
theorem splitAtAllMarks_once (h : mark ∉ part) (htext : mark ∉ text) :
    splitAtAllMarks [mark] (part ++ mark :: text) = [part, text] := by
  have hlength : (part ++ mark :: text).length = (part.length + text.length) + 1 := by
    rw [List.length_append, List.length_cons, Nat.add_assoc]
  rw [splitAtAllMarks, splitAtMarks, hlength, splitFrom_append h, splitFrom_of_not_mem htext]
  rfl

/-! ## Blanks -/

theorem isBlank_space : isBlank ' ' = true := by decide

/-- What a text starts with is dropped up to the first character that stays. -/
theorem dropWhile_outer {isOuter : Char → Bool} {outer : List Char} {c : Char}
    (houter : ∀ c ∈ outer, isOuter c = true) (hc : isOuter c = false) (rest : List Char) :
    (outer ++ c :: rest).dropWhile isOuter = c :: rest := by
  rw [List.dropWhile_append_of_pos houter, List.dropWhile_cons, hc]
  rfl

/-- A text that neither starts nor ends with a blank. -/
structure IsTrimmed (text : List Char) : Prop where
  first : ∃ c, text.head? = some c ∧ isBlank c = false
  last : ∃ c, text.getLast? = some c ∧ isBlank c = false

namespace IsTrimmed

theorem of_forall (hsome : text ≠ []) (h : ∀ c ∈ text, isBlank c = false) :
    IsTrimmed text where
  first := ⟨_, List.head?_eq_some_head hsome, h _ (List.head_mem hsome)⟩
  last := ⟨_, List.getLast?_eq_some_getLast hsome, h _ (List.getLast_mem hsome)⟩

theorem single {c : Char} (h : isBlank c = false) : IsTrimmed [c] :=
  .of_forall (by simp) (by simpa using h)

theorem append {more : List Char} (h : IsTrimmed text) (middle : List Char)
    (hmore : IsTrimmed more) : IsTrimmed (text ++ middle ++ more) := by
  obtain ⟨first, hfirst, hfirst'⟩ := h.first
  obtain ⟨last, hlast, hlast'⟩ := hmore.last
  exact ⟨⟨first, by simp [List.head?_append, hfirst], hfirst'⟩,
    ⟨last, by simp [List.getLast?_append, hlast], hlast'⟩⟩

/-- Such a text is what remains of it between blanks. -/
theorem trim_eq (h : IsTrimmed text) (before after : List Char)
    (hbefore : ∀ c ∈ before, isBlank c = true) (hafter : ∀ c ∈ after, isBlank c = true) :
    trim (before ++ text ++ after) = text := by
  obtain ⟨first, hfirst, hfirst'⟩ := h.first
  obtain ⟨last, hlast, hlast'⟩ := h.last
  obtain ⟨rest, rfl⟩ := List.head?_eq_some_iff.mp hfirst
  obtain ⟨front, hfront⟩ := List.getLast?_eq_some_iff.mp hlast
  unfold trim trimBy
  rw [List.append_assoc, List.cons_append, dropWhile_outer hbefore hfirst', ← List.cons_append,
    hfront, List.append_assoc, List.reverse_append, List.singleton_append, List.reverse_cons,
    List.append_assoc, List.singleton_append,
    dropWhile_outer (fun c hmem => hafter c (List.mem_reverse.mp hmem)) hlast']
  simp

theorem trim_cons (h : IsTrimmed text) : trim (' ' :: text) = text := by
  simpa using h.trim_eq [' '] [] (by simp [isBlank_space]) (by simp)

theorem trim_self (h : IsTrimmed text) : trim text = text := by
  simpa using h.trim_eq [] [] (by simp) (by simp)

theorem trim_concat (h : IsTrimmed text) : trim (text ++ [' ']) = text := by
  simpa using h.trim_eq [] [' '] (by simp) (by simp [isBlank_space])

end IsTrimmed

/-- The first character that is no blank stays where it is trimmed. -/
theorem head?_trim (before : List Char) {first : Char}
    (hbefore : ∀ c ∈ before, isBlank c = true) (hfirst : isBlank first = false)
    (rest : List Char) : (trim (before ++ first :: rest)).head? = some first := by
  have hkept : (rest.reverse ++ [first]).dropWhile isBlank =
      rest.reverse.dropWhile isBlank ++ [first] := by
    rw [List.dropWhile_append]
    split
    · next hempty => simp [List.isEmpty_iff.mp hempty, hfirst]
    · rfl
  unfold trim trimBy
  rw [dropWhile_outer hbefore hfirst, List.reverse_cons, hkept, List.reverse_append]
  rfl

end CatalogClient.Text
