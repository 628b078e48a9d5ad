/-
# Ordinary entries of settings files, written

Characters that need no escape are written between double quotes as they are, and letters, digits
and the like make up keys without quotes. An entry under such a key with such a text, or with a list
of such texts, is written as one line that shows all of it, and a table of such entries as these
lines.
-/

import CatalogClient.Proofs.Text.Parts
import CatalogClient.Text.Alphanumeric
import CatalogClient.Toml.Printer

namespace CatalogClient.Toml

/-! ## Texts -/

/-- A character that stands between double quotes as it is. -/
def IsOrdinary (c : Char) : Prop :=
  Text.isPrintable c = true ∧ c ≠ '"' ∧ c ≠ '\\'

instance (c : Char) : Decidable (IsOrdinary c) :=
  inferInstanceAs (Decidable (_ ∧ _))

theorem IsOrdinary.ne_of_not_printable {c other : Char} (h : IsOrdinary c)
    (hother : Text.isPrintable other = false) : c ≠ other := by
  rintro rfl
  exact Bool.false_ne_true (hother.symm.trans h.1)

/-- A text between double quotes, without escapes. -/
def quoted (text : List Char) : List Char :=
  '"' :: text ++ ['"']

theorem swapQuotes_of_not_mem {text : List Char} (hmark : '"' ∉ text) (hslash : '\\' ∉ text) :
    swapQuotes text = text := by
  fun_induction swapQuotes text with
  | case1 rest ih => simp at hslash
  | case2 rest ih => simp at hmark
  | case3 c rest _ hc ih =>
      simp only [List.mem_cons, not_or] at hmark hslash
      rw [ih hmark.2 hslash.2]
  | case4 => rfl

section Quoting

variable {text : List Char} (h : ∀ c ∈ text, IsOrdinary c)
include h

theorem doubleQuote_not_mem : '"' ∉ text := fun hmem => (h _ hmem).2.1 rfl

theorem backslash_not_mem : '\\' ∉ text := fun hmem => (h _ hmem).2.2 rfl

theorem not_mem_of_not_printable {c : Char} (hc : Text.isPrintable c = false) : c ∉ text :=
  fun hmem => (h c hmem).ne_of_not_printable hc rfl

theorem escapeChar_of_isOrdinary {c : Char} (hmem : c ∈ text) :
    Text.escapeChar (Text.quoteMark text) c = [c] := by
  have hmark : c ≠ Text.quoteMark text := by
    unfold Text.quoteMark
    split
    · exact (h c hmem).2.1
    · next hsingle =>
        rintro rfl
        simp [hmem, doubleQuote_not_mem h] at hsingle
  have hplain := h c hmem
  unfold Text.escapeChar
  rw [if_neg (not_or.mpr ⟨hmark, hplain.2.2⟩),
    if_neg (hplain.ne_of_not_printable (by decide)),
    if_neg (hplain.ne_of_not_printable (by decide)),
    if_neg (hplain.ne_of_not_printable (by decide)), if_pos hplain.1]

theorem quotedBody_of_isOrdinary : Text.quotedBody text = text := by
  unfold Text.quotedBody
  rw [List.flatMap_congr fun c hmem => escapeChar_of_isOrdinary h hmem]
  exact List.flatMap_singleton' text

end Quoting

/-- Ordinary characters are written between the quotes as they are. -/
theorem quote_of_isOrdinary {text : String} (h : ∀ c ∈ text.toList, IsOrdinary c) :
    quote text = .ok (quoted text.toList) := by
  have hbody : (if Text.quoteMark text.toList = '\'' then swapQuotes text.toList
      else text.toList) = text.toList := by
    split
    · exact swapQuotes_of_not_mem (doubleQuote_not_mem h) (backslash_not_mem h)
    · rfl
  unfold quote
  simp only [quotedBody_of_isOrdinary h, hbody,
    Text.splitAtAllMarks_of_not_mem (backslash_not_mem h)]
  rfl

/-! ## Values -/

/-- A text of ordinary characters. -/
def IsOrdinaryText (text : String) : Prop :=
  ∀ c ∈ text.toList, IsOrdinary c

instance (text : String) : Decidable (IsOrdinaryText text) :=
  List.decidableBAll IsOrdinary text.toList

/-- An ordinary text without a comma; commas may tear the texts of a list apart. -/
def IsOrdinaryItem (text : String) : Prop :=
  IsOrdinaryText text ∧ ',' ∉ text.toList

instance (text : String) : Decidable (IsOrdinaryItem text) :=
  inferInstanceAs (Decidable (_ ∧ _))

/-- The items of a list of texts, without escapes. -/
def quotedItems (texts : List String) : List Char :=
  texts.flatMap fun text => ' ' :: quoted text.toList ++ [',']

/-- How an ordinary text or a list of ordinary items is written. -/
inductive WrittenAs : Toml → List Char → Prop
  | text {text : String} (ordinary : IsOrdinaryText text) :
      WrittenAs (.string text) (quoted text.toList)
  | list {texts : List String} (ordinary : ∀ text ∈ texts, IsOrdinaryItem text) :
      WrittenAs (.list (texts.map .string)) ('[' :: quotedItems texts ++ [']'])

theorem printItems_texts {texts : List String} (h : ∀ text ∈ texts, IsOrdinaryItem text) :
    printItems (texts.map .string) = .ok (quotedItems texts) := by
  induction texts with
  | nil => rfl
  | cons text rest ih =>
      rw [List.map_cons, printItems, print, quote_of_isOrdinary (h text List.mem_cons_self).1,
        ih fun other hmem => h other (List.mem_cons_of_mem _ hmem)]
      simp [quotedItems, bind, Except.bind, pure, Except.pure]

theorem WrittenAs.print_eq {value : Toml} {text : List Char} (h : WrittenAs value text) :
    print value = .ok text := by
  cases h with
  | text ordinary => rw [print, quote_of_isOrdinary ordinary]
  | list ordinary =>
      rw [print, printItems_texts ordinary]
      rfl

/-! ## Keys -/

/-- The ranges of the digits and letters that may stand in a key without quotes. -/
def keyRanges : Text.CharRanges :=
  [(48, 57), (65, 90), (97, 122)]

section KeyChars

variable {c : Char} (h : isPlainKeyChar c = true)
include h

theorem contains_of_isPlainKeyChar : c = '-' ∨ c = '_' ∨ keyRanges.contains c = true := by
  have hrange (range : Nat × Nat) (hmem : range ∈ keyRanges)
      (hcode : range.1 ≤ c.toNat ∧ c.toNat ≤ range.2) :
      c = '-' ∨ c = '_' ∨ keyRanges.contains c = true :=
    .inr (.inr ((keyRanges.contains_iff c).mpr ⟨range, hmem, hcode⟩))
  have hranges : (((decide ('A'.val ≤ c.val ∧ c.val ≤ 'Z'.val)
      || (decide ('a'.val ≤ c.val) && decide (c.val ≤ 'z'.val)))
      || (decide ('0'.val ≤ c.val) && decide (c.val ≤ '9'.val)))
      || decide (c = '-') || decide (c = '_')) = true := h
  simp only [Bool.or_eq_true, Bool.and_eq_true, decide_eq_true_eq,
    UInt32.le_iff_toNat_le] at hranges
  rcases hranges with ((((hupper | hlower) | hdigit) | rfl) | rfl)
  · exact hrange (65, 90) (by decide) hupper
  · exact hrange (97, 122) (by decide) hlower
  · exact hrange (48, 57) (by decide) hdigit
  · exact .inl rfl
  · exact .inr (.inl rfl)

theorem isAlphanumeric_of_isPlainKeyChar :
    (Text.isAlphanumeric c || c = '_' || c = '-') = true := by
  rcases contains_of_isPlainKeyChar h with rfl | rfl | hcontains
  · simp
  · simp
  · obtain ⟨range, hrange, hcode⟩ := (keyRanges.contains_iff c).mp hcontains
    have hmem : range ∈ Text.alphanumericRanges :=
      List.mem_append_left (Text.alphanumericRanges.drop 3) hrange
    have hc : Text.isAlphanumeric c = true :=
      (Text.CharRanges.contains_iff _ c).mpr ⟨range, hmem, hcode⟩
    simp [hc]

theorem isBlank_of_isPlainKeyChar : Text.isBlank c = false := by
  rcases contains_of_isPlainKeyChar h with rfl | rfl | hcontains
  · decide
  · decide
  · have hbetween : ∀ range ∈ keyRanges, 48 ≤ range.1 ∧ range.2 ≤ 122 := by decide
    have houtside : ∀ blank ∈ Text.blankRanges, blank.2 < 48 ∨ 122 < blank.1 := by decide
    obtain ⟨range, hrange, hcode⟩ := (keyRanges.contains_iff c).mp hcontains
    rw [Bool.eq_false_iff, ne_eq, Text.isBlank, Text.CharRanges.contains_iff]
    rintro ⟨blank, hblank, hcode'⟩
    have hinside := hbetween range hrange
    have hbeyond := houtside blank hblank
    omega

theorem not_mem_of_isPlainKeyChar (marks : List Char)
    (hmarks : marks.any isPlainKeyChar = false) : c ∉ marks := fun hmem =>
  List.any_eq_false.mp hmarks c hmem h

end KeyChars

/-- A key that needs no quotes. -/
def IsPlainKey (key : String) : Prop :=
  key.toList ≠ [] ∧ ∀ c ∈ key.toList, isPlainKeyChar c = true

instance (key : String) : Decidable (IsPlainKey key) :=
  haveI := List.decidableBAll (isPlainKeyChar · = true) key.toList
  inferInstanceAs (Decidable (_ ∧ _))

theorem IsPlainKey.not_mem {key : String} (h : IsPlainKey key) {c : Char}
    (hc : isPlainKeyChar c = false) : c ∉ key.toList := fun hmem =>
  Bool.false_ne_true (hc.symm.trans (h.2 c hmem))

theorem IsPlainKey.ne {key : String} (h : IsPlainKey key) {c other : Char}
    (hmem : c ∈ key.toList) (hother : isPlainKeyChar other = false) : c ≠ other := by
  rintro rfl
  exact h.not_mem hother hmem

theorem printKey_of_isPlainKey {key : String} (h : IsPlainKey key) :
    printKey key = .ok key.toList := by
  obtain ⟨hsome, hplain⟩ := h
  have hlast : key.toList.getLast? ≠ some '\n' := by
    intro hlast
    exact absurd (hplain _ (List.mem_of_getLast? hlast)) (by decide)
  unfold printKey
  simp only [if_neg hlast]
  rw [if_pos]
  simpa [hsome] using hplain

/-! ## Lines -/

/-- An entry under a plain key with how its value is written. -/
structure Line where
  key : String
  value : Toml
  text : List Char
  isPlainKey : IsPlainKey key
  isWritten : WrittenAs value text

namespace Line

/-- The entry that a line stands for. -/
def entry (line : Line) : String × Toml :=
  (line.key, line.value)

/-- The characters of a line. -/
def chars (line : Line) : List Char :=
  line.key.toList ++ " = ".toList ++ line.text

/-- The characters of lines, each with its end. -/
def charsOf (lines : List Line) : List Char :=
  lines.flatMap fun line => line.chars ++ ['\n']

variable (write : List Char → Keyed Toml → Except Fault Section) (levels : Nat)
  (start : List Char)

theorem add_entry (part : Section) (line : Line) :
    Section.add write levels start part line.entry =
      .ok { part with lines := part.lines ++ (line.chars ++ ['\n']) } := by
  obtain ⟨key, value, text, hkey, hvalue⟩ := line
  have hprint := hvalue.print_eq
  unfold Section.add
  rw [entry, printKey_of_isPlainKey hkey]
  cases hvalue with
  | text ordinary =>
      simp only [hprint, bind, Except.bind, pure, Except.pure, chars, List.append_assoc]
  | @list texts ordinary =>
      have hnone : (texts.map Toml.string).any isTable = false := by
        rw [List.any_map]
        exact List.any_eq_false.mpr fun _ _ => Bool.false_ne_true
      simp only [hprint, hnone, bind, Except.bind, pure, Except.pure, chars, List.append_assoc,
        if_neg Bool.false_ne_true]

theorem foldlM_add_entry (lines : List Line) (part : Section) :
    (lines.map entry).foldlM (Section.add write levels start) part =
      .ok { part with lines := part.lines ++ charsOf lines } := by
  induction lines generalizing part with
  | nil => simp [charsOf, pure, Except.pure]
  | cons line rest ih =>
      rw [List.map_cons, List.foldlM_cons, add_entry]
      refine (ih _).trans ?_
      simp [charsOf, List.append_assoc]

/-- A table of such entries is written line by line. -/
theorem printFile_entries (lines : List Line) :
    printFile (lines.map entry) = .ok (charsOf lines) := by
  have htop (levels : Nat) : printTable (levels + 1) [] (lines.map entry) =
      .ok { lines := charsOf lines } := by
    rw [printTable, foldlM_add_entry]
    rfl
  have htables (room levels : Nat) (text : List Char) :
      printTables room text (levels + 1) [] = .ok text := rfl
  unfold printFile
  simp only [htop, htables, bind, Except.bind, Section.text, List.append_nil]

end Line

end CatalogClient.Toml
