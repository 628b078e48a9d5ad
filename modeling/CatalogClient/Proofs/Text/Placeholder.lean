/-
# Placeholders of joined texts

A text is read once, from left to right, so all that counts for what stands behind it is whether it
leaves a brace open, and what has been read since. The placeholders of two texts joined are those of
the first one, and then those that the second one has behind what the first one leaves open.
-/

import CatalogClient.Text.Placeholder
import Mathlib.Data.List.Induction

namespace CatalogClient.Text

/-- The state of the reading after one more character: no brace is open, or one is, and this is what
has been read since, in reverse. -/
def reading : Option (List Char) → Char → Option (List Char)
  | none, c => if c = '\x7b' then some [] else none
  | some read, c => if c = '\x7d' ∨ c = '\n' then none else some (c :: read)

/-- The parts of a text that are settled, whatever stands behind it. -/
def settledFrom : Option (List Char) → List Char → List Piece
  | _, [] => []
  | none, c :: rest =>
      if c = '\x7b' then settledFrom (some []) rest else .char c :: settledFrom none rest
  | some read, c :: rest =>
      if c = '\x7d' then .slot read.reverse :: settledFrom none rest
      else if c = '\n' then
        .char '\x7b' :: read.reverse.map .char ++ .char '\n' :: settledFrom none rest
      else settledFrom (some (c :: read)) rest

/-- What the reading of a text comes to does not depend on what stands behind it. -/
theorem piecesFrom_append (state : Option (List Char)) (text rest : List Char) :
    piecesFrom state (text ++ rest) =
      settledFrom state text ++ piecesFrom (text.foldl reading state) rest := by
  induction text generalizing state with
  | nil => cases state <;> rfl
  | cons c others ih =>
      cases state with
      | none =>
          simp only [List.cons_append, piecesFrom, settledFrom, List.foldl_cons, reading, ih]
          split <;> simp
      | some read =>
          simp only [List.cons_append, piecesFrom, settledFrom, List.foldl_cons, reading, ih]
          split
          · simp_all
          · split <;> simp_all

theorem flatMap_chars_map_char (text : List Char) :
    (text.map Piece.char).flatMap Piece.chars = text := by
  simp [List.flatMap_map, Piece.chars]

/-- The parts of a text make up the text. -/
theorem flatMap_chars_piecesFrom (state : Option (List Char)) (text : List Char) :
    (piecesFrom state text).flatMap Piece.chars =
      (match state with
        | none => []
        | some read => '\x7b' :: read.reverse) ++ text := by
  induction text generalizing state with
  | nil =>
      cases state with
      | none => rfl
      | some read => simp [piecesFrom, Piece.chars, flatMap_chars_map_char, -List.map_reverse]
  | cons c rest ih =>
      cases state with
      | none =>
          rw [piecesFrom]
          split
          · next hopen => simp [ih, hopen]
          · simp [ih, Piece.chars]
      | some read =>
          rw [piecesFrom]
          split
          · next hclose => simp [ih, Piece.chars, hclose]
          · split
            · next hbreak =>
                simp [ih, Piece.chars, hbreak, flatMap_chars_map_char, -List.map_reverse]
            · simp [ih]

theorem flatMap_chars_pieces (text : List Char) : (pieces text).flatMap Piece.chars = text :=
  flatMap_chars_piecesFrom none text

/-- The names of the placeholders among some parts. -/
def slotNames (parts : List Piece) : List (List Char) :=
  parts.filterMap Piece.name?

theorem placeholders_eq (text : String) :
    placeholders text = (slotNames (pieces text.toList)).map String.ofList := by
  rw [placeholders, slotNames, List.map_filterMap]

theorem slotNames_append (parts others : List Piece) :
    slotNames (parts ++ others) = slotNames parts ++ slotNames others :=
  List.filterMap_append

theorem slotNames_map_char (text : List Char) : slotNames (text.map .char) = [] := by
  simp [slotNames, Piece.name?]

/-- What is read since a brace was opened holds no placeholder. -/
theorem slotNames_piecesFrom_nil (state : Option (List Char)) :
    slotNames (piecesFrom state []) = [] := by
  cases state with
  | none => rfl
  | some read => exact slotNames_map_char ('\x7b' :: read.reverse)

/-- A character that leaves an open brace open. -/
def IsInside (c : Char) : Prop :=
  c ≠ '\x7d' ∧ c ≠ '\n'

instance (c : Char) : Decidable (IsInside c) :=
  inferInstanceAs (Decidable (_ ∧ _))

theorem isInside_of_all {text : List Char} (h : (text.all fun c => decide (IsInside c)) = true) :
    ∀ c ∈ text, IsInside c := by
  simpa using h

theorem settledFrom_of_inside {text : List Char} (h : ∀ c ∈ text, IsInside c) (read : List Char) :
    settledFrom (some read) text = [] := by
  induction text generalizing read with
  | nil => rfl
  | cons c rest ih =>
      obtain ⟨⟨hbrace, hbreak⟩, hrest⟩ := List.forall_mem_cons.mp h
      rw [settledFrom, if_neg hbrace, if_neg hbreak, ih hrest]

theorem foldl_reading_of_inside {text : List Char} (h : ∀ c ∈ text, IsInside c)
    (read : List Char) : text.foldl reading (some read) = some (text.reverse ++ read) := by
  induction text generalizing read with
  | nil => rfl
  | cons c rest ih =>
      obtain ⟨⟨hbrace, hbreak⟩, hrest⟩ := List.forall_mem_cons.mp h
      rw [List.foldl_cons, reading, if_neg (by simp [hbrace, hbreak]), ih hrest]
      simp

/-- A brace is open at the end of a text exactly if there is one that nothing behind it closes. It
is the first such brace. -/
theorem foldl_reading_eq_some_iff {text read : List Char} :
    text.foldl reading none = some read ↔
      ∃ before, text = before ++ '\x7b' :: read.reverse ∧ before.foldl reading none = none ∧
        ∀ c ∈ read, IsInside c := by
  constructor
  · intro h
    induction text using List.reverseRecOn generalizing read with
    | nil => cases h
    | append_singleton text c ih =>
        rw [List.foldl_append, List.foldl_cons, List.foldl_nil] at h
        cases hstate : text.foldl reading none with
        | none =>
            rw [hstate, reading] at h
            split at h
            · next hopen =>
                obtain rfl := Option.some.inj h
                exact ⟨text, by rw [hopen]; rfl, hstate, List.forall_mem_nil _⟩
            · cases h
        | some earlier =>
            rw [hstate, reading] at h
            split at h
            · cases h
            · next hinside =>
                obtain rfl := Option.some.inj h
                obtain ⟨before, hsplit, hbefore, hearlier⟩ := ih hstate
                refine ⟨before, by simp [hsplit], hbefore, List.forall_mem_cons.mpr ⟨?_, hearlier⟩⟩
                exact not_or.mp hinside
  · rintro ⟨before, rfl, hbefore, hread⟩
    rw [List.foldl_append, hbefore, List.foldl_cons, reading, if_pos rfl,
      foldl_reading_of_inside (fun c hc => hread c (List.mem_reverse.mp hc))]
    simp

/-- Whether every brace that a text opens is closed in it, or the line is broken after it. -/
def Closed (text : List Char) : Prop :=
  ∀ before after, text = before ++ '\x7b' :: after → ∃ c ∈ after, ¬IsInside c

theorem closed_iff {text : List Char} : Closed text ↔ text.foldl reading none = none := by
  constructor
  · intro h
    cases hstate : text.foldl reading none with
    | none => rfl
    | some read =>
        obtain ⟨before, hsplit, -, hread⟩ := foldl_reading_eq_some_iff.mp hstate
        obtain ⟨c, hc, hnot⟩ := h before read.reverse hsplit
        exact absurd (hread c (List.mem_reverse.mp hc)) hnot
  · rintro h before after rfl
    apply Classical.byContradiction
    intro hafter
    have hinside : ∀ c ∈ after, IsInside c := by
      intro c hc
      apply Classical.byContradiction
      exact fun hnot => hafter ⟨c, hc, hnot⟩
    rw [List.foldl_append, List.foldl_cons] at h
    cases hstate : before.foldl reading none with
    | none =>
        rw [hstate, reading, if_pos rfl, foldl_reading_of_inside hinside] at h
        cases h
    | some read =>
        rw [hstate, reading, if_neg (by decide), foldl_reading_of_inside hinside] at h
        cases h

instance (text : List Char) : Decidable (Closed text) :=
  decidable_of_iff _ closed_iff.symm

theorem closed_of_not_mem {text : List Char} (h : '\x7b' ∉ text) : Closed text := by
  rintro before after rfl
  simp at h

/-- Whatever is open is closed by a brace or a line break. -/
theorem closed_append (text : List Char) {c : Char} (h : ¬IsInside c) : Closed (text ++ [c]) := by
  have hend : c = '\x7d' ∨ c = '\n' := by rwa [IsInside, not_and_or, not_not, not_not] at h
  have hplain : c ≠ '\x7b' := by rcases hend with rfl | rfl <;> decide
  rw [closed_iff, List.foldl_append, List.foldl_cons, List.foldl_nil]
  cases text.foldl reading none with
  | none => exact if_neg hplain
  | some read => exact if_pos hend

/-- The part of a text from the brace that is open at its end, or nothing if none is. -/
def openPart (text : List Char) : List Char :=
  match text.foldl reading none with
  | none => []
  | some read => '\x7b' :: read.reverse

theorem openPart_of_closed {text : List Char} (h : Closed text) : openPart text = [] := by
  rw [openPart, closed_iff.mp h]

theorem openPart_of_open {before read : List Char} (hbefore : Closed before)
    (hread : ∀ c ∈ read, IsInside c) :
    openPart (before ++ '\x7b' :: read) = '\x7b' :: read := by
  have hstate : (before ++ '\x7b' :: read).foldl reading none = some read.reverse := by
    apply foldl_reading_eq_some_iff.mpr
    refine ⟨before, by simp, closed_iff.mp hbefore, fun c hc => ?_⟩
    exact hread c (List.mem_reverse.mp hc)
  simp only [openPart, hstate, List.reverse_reverse]

/-- A text that is not closed has a first brace that stays open. -/
theorem exists_open_of_not_closed {text : List Char} (h : ¬Closed text) :
    ∃ before read, text = before ++ '\x7b' :: read ∧ Closed before ∧ ∀ c ∈ read, IsInside c := by
  rw [closed_iff] at h
  obtain ⟨read, hstate⟩ := Option.ne_none_iff_exists'.mp h
  obtain ⟨before, hsplit, hbefore, hread⟩ := foldl_reading_eq_some_iff.mp hstate
  exact ⟨before, read.reverse, hsplit, closed_iff.mpr hbefore,
    fun c hc => hread c (List.mem_reverse.mp hc)⟩

/-- To go on with a text is to go on with what it leaves open. -/
theorem piecesFrom_foldl_reading (text rest : List Char) :
    piecesFrom (text.foldl reading none) rest = pieces (openPart text ++ rest) := by
  cases hstate : text.foldl reading none with
  | none => rw [openPart, hstate, List.nil_append, pieces]
  | some read =>
      obtain ⟨-, -, -, hread⟩ := foldl_reading_eq_some_iff.mp hstate
      have hinside : ∀ c ∈ read.reverse, IsInside c :=
        fun c hc => hread c (List.mem_reverse.mp hc)
      rw [openPart, hstate, pieces, piecesFrom_append, settledFrom, if_pos rfl,
        settledFrom_of_inside hinside, List.foldl_cons, reading, if_pos rfl,
        foldl_reading_of_inside hinside]
      simp

/-- The placeholders of two texts joined. -/
theorem slotNames_pieces_append (text rest : List Char) :
    slotNames (pieces (text ++ rest)) =
      slotNames (pieces text) ++ slotNames (pieces (openPart text ++ rest)) := by
  have halone : slotNames (pieces text) = slotNames (settledFrom none text) := by
    rw [← List.append_nil text, pieces, piecesFrom_append, slotNames_append,
      slotNames_piecesFrom_nil, List.append_nil, List.append_nil]
  rw [halone, ← piecesFrom_foldl_reading, pieces, piecesFrom_append, slotNames_append]

theorem slotNames_pieces_append_of_closed {text : List Char} (h : Closed text) (rest : List Char) :
    slotNames (pieces (text ++ rest)) = slotNames (pieces text) ++ slotNames (pieces rest) := by
  rw [slotNames_pieces_append, openPart_of_closed h, List.nil_append]

/-- Without an opening brace there is no placeholder. -/
theorem slotNames_pieces_of_not_opening {text : List Char} (h : '\x7b' ∉ text) :
    slotNames (pieces text) = [] := by
  unfold pieces
  induction text with
  | nil => rfl
  | cons c rest ih =>
      rw [List.mem_cons, not_or] at h
      rw [piecesFrom, if_neg (Ne.symm h.1)]
      exact ih h.2

/-- Without a closing brace there is none either, even where a brace is open. -/
theorem slotNames_piecesFrom_of_not_closing {text : List Char} (h : '\x7d' ∉ text)
    (state : Option (List Char)) : slotNames (piecesFrom state text) = [] := by
  induction text generalizing state with
  | nil => exact slotNames_piecesFrom_nil state
  | cons c rest ih =>
      rw [List.mem_cons, not_or] at h
      cases state with
      | none =>
          rw [piecesFrom]
          split
          · exact ih h.2 _
          · exact ih h.2 none
      | some read =>
          rw [piecesFrom, if_neg (Ne.symm h.1)]
          split
          · rw [← List.map_cons, slotNames_append, slotNames_map_char, List.nil_append]
            exact ih h.2 none
          · exact ih h.2 _

/-- A text without an opening brace has no part in the placeholders of what stands behind it. -/
theorem slotNames_pieces_skip {text : List Char} (h : '\x7b' ∉ text) (rest : List Char) :
    slotNames (pieces (text ++ rest)) = slotNames (pieces rest) := by
  rw [slotNames_pieces_append_of_closed (closed_of_not_mem h), slotNames_pieces_of_not_opening h,
    List.nil_append]

/-- A text between braces is a placeholder if nothing in it closes the first brace. -/
theorem slotNames_pieces_braces {name : List Char} (h : ∀ c ∈ name, IsInside c) :
    slotNames (pieces ('\x7b' :: name ++ ['\x7d'])) = [name] := by
  rw [pieces, List.cons_append, piecesFrom, if_pos rfl, piecesFrom_append,
    settledFrom_of_inside h, foldl_reading_of_inside h]
  simp [piecesFrom, slotNames, Piece.name?]

/-- A text with a line break between braces is none. -/
theorem slotNames_pieces_break {name : List Char} (hopening : '\x7b' ∉ name)
    (hclosing : '\x7d' ∉ name) (hbreak : '\n' ∈ name) :
    slotNames (pieces ('\x7b' :: name ++ ['\x7d'])) = [] := by
  obtain ⟨before, after, rfl⟩ := List.append_of_mem hbreak
  have hsplit : '\x7b' :: (before ++ '\n' :: after) ++ ['\x7d'] =
      ('\x7b' :: before ++ ['\n']) ++ (after ++ ['\x7d']) := by simp
  have hfirst : '\x7d' ∉ '\x7b' :: before ++ ['\n'] := by simp_all
  have hsecond : '\x7b' ∉ after ++ ['\x7d'] := by simp_all
  rw [hsplit, slotNames_pieces_append_of_closed (closed_append _ (by decide)),
    slotNames_pieces_of_not_opening hsecond, List.append_nil]
  exact slotNames_piecesFrom_of_not_closing hfirst none

end CatalogClient.Text
