/-
# Matches of the placeholder pattern

A placeholder is a match of a pattern: an opening brace, as few characters of the line as possible,
and a closing brace. Matches are looked for from left to right, and the search goes on behind each
match. This is stated here of a text and its parts, apart from the reading of a text in one pass,
which finds exactly these matches. A dollar sign before each match makes no new one, so the matches
of the marked text are the same.
-/

import CatalogClient.Proofs.Text.Placeholder
import Mathlib.Data.List.TakeWhile

namespace CatalogClient.Text

/-- The pattern fits the beginning of a text: a name without a line break stands between braces, and
the rest of the text behind them. -/
structure Fits (text name rest : List Char) : Prop where
  split : text = '\x7b' :: name ++ '\x7d' :: rest
  line : '\n' ∉ name

/-- A text has these parts, from left to right. Where the pattern fits, the part is a placeholder,
with the shortest name that fits, and where it does not, the part is the next character. -/
inductive Reads : List Char → List Piece → Prop
  | nil : Reads [] []
  | slot {text name rest : List Char} {parts : List Piece} (fits : Fits text name rest)
      (shortest : ∀ other after, Fits text other after → name.length ≤ other.length)
      (others : Reads rest parts) : Reads text (.slot name :: parts)
  | char {c : Char} {rest : List Char} {parts : List Piece}
      (plain : ∀ name after, ¬Fits (c :: rest) name after) (others : Reads rest parts) :
      Reads (c :: rest) (.char c :: parts)

/-- A text has its parts in one way only. -/
theorem Reads.unique {text : List Char} {parts others : List Piece} (h : Reads text parts)
    (h' : Reads text others) : parts = others := by
  induction h generalizing others with
  | nil =>
      cases h' with
      | nil => rfl
      | slot fits => cases fits.split
  | slot fits shortest _ ih =>
      cases h' with
      | nil => cases fits.split
      | slot fits' shortest' others' =>
          have hlength := Nat.le_antisymm (shortest _ _ fits') (shortest' _ _ fits)
          have hsplit := List.cons.inj (fits.split.symm.trans fits'.split)
          obtain ⟨rfl, hrest⟩ := List.append_inj hsplit.2 hlength
          obtain ⟨-, rfl⟩ := List.cons.inj hrest
          rw [ih others']
      | char plain => exact absurd fits (plain _ _)
  | char plain _ ih =>
      cases h' with
      | slot fits => exact absurd fits (plain _ _)
      | char _ others' => rw [ih others']

/-- The shortest name that fits has no closing brace in it. -/
theorem Fits.le_length {text name rest other after : List Char} (h : Fits text name rest)
    (hname : '\x7d' ∉ name) (h' : Fits text other after) : name.length ≤ other.length := by
  have hsplit := (List.cons.inj (h.split.symm.trans h'.split)).2
  rcases List.append_eq_append_iff.mp hsplit with ⟨more, rfl, -⟩ | ⟨more, rfl, hmore⟩
  · simp
  · cases more with
    | nil => simp
    | cons c more =>
        obtain ⟨rfl, -⟩ := List.cons.inj hmore
        simp at hname

/-- The pattern does not fit where a text has no closing brace before the end of its line. -/
theorem not_fits_of_not_closing {c : Char} {text rest : List Char} (htext : '\x7d' ∉ text)
    (hrest : ∀ first ∈ rest.head?, first = '\n') (name after : List Char) :
    ¬Fits (c :: (text ++ rest)) name after := by
  rintro ⟨hsplit, hline⟩
  have htail := (List.cons.inj hsplit).2
  rcases List.append_eq_append_iff.mp htail with ⟨more, rfl, hmore⟩ | ⟨more, rfl, hmore⟩
  · cases more with
    | nil =>
        subst hmore
        exact absurd (hrest _ rfl) (by decide)
    | cons first more =>
        subst hmore
        obtain rfl := hrest _ rfl
        simp at hline
  · cases more with
    | nil =>
        rw [List.nil_append] at hmore
        rw [← hmore] at hrest
        exact absurd (hrest _ rfl) (by decide)
    | cons first more =>
        obtain ⟨rfl, -⟩ := List.cons.inj hmore
        simp at htext

/-- Such a text is read character by character. -/
theorem Reads.prepend {text rest : List Char} {parts : List Piece} (htext : '\x7d' ∉ text)
    (hrest : ∀ first ∈ rest.head?, first = '\n') (h : Reads rest parts) :
    Reads (text ++ rest) (text.map .char ++ parts) := by
  induction text with
  | nil => exact h
  | cons c others ih =>
      rw [List.mem_cons, not_or] at htext
      exact .char (not_fits_of_not_closing htext.2 hrest) (ih htext.2)

section Equations

variable {name : List Char} (h : ∀ c ∈ name, IsInside c)

theorem pieces_cons_of_ne {c : Char} (hplain : c ≠ '\x7b') (rest : List Char) :
    pieces (c :: rest) = .char c :: pieces rest := by
  rw [pieces, piecesFrom, if_neg hplain, pieces]

include h

theorem piecesFrom_of_inside (rest : List Char) :
    piecesFrom (some []) (name ++ rest) = piecesFrom (some name.reverse) rest := by
  rw [piecesFrom_append, settledFrom_of_inside h, foldl_reading_of_inside h, List.nil_append,
    List.append_nil]

theorem pieces_slot (rest : List Char) :
    pieces ('\x7b' :: name ++ '\x7d' :: rest) = .slot name :: pieces rest := by
  rw [pieces, List.cons_append, piecesFrom, if_pos rfl, piecesFrom_of_inside h, piecesFrom,
    if_pos rfl, List.reverse_reverse, pieces]

theorem pieces_break (rest : List Char) :
    pieces ('\x7b' :: name ++ '\n' :: rest) =
      .char '\x7b' :: name.map .char ++ .char '\n' :: pieces rest := by
  rw [pieces, List.cons_append, piecesFrom, if_pos rfl, piecesFrom_of_inside h, piecesFrom,
    if_neg (by decide), if_pos rfl, List.reverse_reverse, pieces]

theorem pieces_open : pieces ('\x7b' :: name) = .char '\x7b' :: name.map .char := by
  rw [← List.append_nil name, pieces, piecesFrom, if_pos rfl, piecesFrom_of_inside h, piecesFrom,
    List.reverse_reverse, List.append_nil]

end Equations

/-- What stands before the first closing brace or line break of a text. -/
theorem exists_inside_append (text : List Char) :
    ∃ name rest, text = name ++ rest ∧ (∀ c ∈ name, IsInside c) ∧
      ∀ first ∈ rest.head?, ¬IsInside first := by
  refine ⟨text.takeWhile fun c => decide (IsInside c), text.dropWhile fun c => decide (IsInside c),
    List.takeWhile_append_dropWhile.symm, fun c hc => ?_, fun first hfirst => ?_⟩
  · simpa using List.mem_takeWhile_imp hc
  · have hnot := List.head?_dropWhile_not (fun c => decide (IsInside c)) text
    rw [hfirst] at hnot
    simpa using hnot

section Forms

variable {name : List Char} (h : ∀ c ∈ name, IsInside c)
include h

theorem not_closing_of_inside : '\x7d' ∉ '\x7b' :: name := by
  rw [List.mem_cons, not_or]
  exact ⟨by decide, fun hmem => (h _ hmem).1 rfl⟩

theorem reads_slot {rest : List Char} (hrest : Reads rest (pieces rest)) :
    Reads ('\x7b' :: name ++ '\x7d' :: rest) (pieces ('\x7b' :: name ++ '\x7d' :: rest)) := by
  have hfits : Fits ('\x7b' :: name ++ '\x7d' :: rest) name rest :=
    ⟨rfl, fun hmem => (h _ hmem).2 rfl⟩
  have hname : '\x7d' ∉ name := fun hmem => (h _ hmem).1 rfl
  rw [pieces_slot h]
  exact .slot hfits (fun other after => hfits.le_length hname) hrest

theorem reads_break {rest : List Char} (hrest : Reads ('\n' :: rest) (pieces ('\n' :: rest))) :
    Reads ('\x7b' :: name ++ '\n' :: rest) (pieces ('\x7b' :: name ++ '\n' :: rest)) := by
  rw [pieces_cons_of_ne (by decide)] at hrest
  rw [pieces_break h]
  exact hrest.prepend (not_closing_of_inside h) (by simp)

theorem reads_open : Reads ('\x7b' :: name) (pieces ('\x7b' :: name)) := by
  rw [pieces_open h]
  simpa using Reads.nil.prepend (not_closing_of_inside h) (by simp)

end Forms

/-- The reading of a text in one pass finds the matches of the pattern. The induction is on the
length of the text, since a match takes more than one character away. -/
theorem reads_pieces (text : List Char) : Reads text (pieces text) := by
  induction hlength : text.length using Nat.strongRecOn generalizing text with
  | ind length ih =>
      subst hlength
      cases text with
      | nil => exact .nil
      | cons c text =>
          by_cases hopen : c = '\x7b'
          · subst hopen
            obtain ⟨name, rest, rfl, hname, hrest⟩ := exists_inside_append text
            cases rest with
            | nil =>
                rw [List.append_nil]
                exact reads_open hname
            | cons first rest =>
                have hshorter : (first :: rest).length <
                    ('\x7b' :: (name ++ first :: rest)).length := by
                  simp only [List.length_cons, List.length_append]
                  omega
                by_cases hclose : first = '\x7d'
                · subst hclose
                  exact reads_slot hname (ih _ (Nat.lt_of_succ_lt hshorter) rest rfl)
                · have hbreak : first = '\n' := by simpa [IsInside, hclose] using hrest first rfl
                  subst hbreak
                  exact reads_break hname (ih _ hshorter _ rfl)
          · rw [pieces_cons_of_ne hopen]
            refine .char (fun name after hfits => hopen ?_) (ih _ (by simp) text rfl)
            exact (List.cons.inj hfits.split).1

/-- A text has exactly the parts that its reading in one pass yields. -/
theorem reads_iff {text : List Char} {parts : List Piece} :
    Reads text parts ↔ parts = pieces text := by
  constructor
  · intro h
    exact h.unique (reads_pieces text)
  · rintro rfl
    exact reads_pieces text

/-- What becomes of a part when it is marked: the dollar sign before a placeholder is a character of
its own. -/
def Piece.markedParts : Piece → List Piece
  | .char c => [.char c]
  | .slot name => [.char '$', .slot name]

theorem flatMap_marked_map_char (text : List Char) :
    (text.map Piece.char).flatMap Piece.marked = text := by
  simp [List.flatMap_map, Piece.marked]

theorem flatMap_markedParts_map_char (text : List Char) :
    (text.map Piece.char).flatMap Piece.markedParts = text.map .char := by
  simp [List.flatMap_map, Piece.markedParts, ← List.map_eq_flatMap]

theorem slotNames_markedParts (parts : List Piece) :
    slotNames (parts.flatMap Piece.markedParts) = slotNames parts := by
  induction parts with
  | nil => rfl
  | cons part rest ih =>
      rw [List.flatMap_cons, slotNames_append, ih, ← List.singleton_append, slotNames_append]
      cases part <;> rfl

/-- A marked text reads as before, with a dollar sign before each placeholder. The induction follows
the reading: what is open is closed by the same brace, or by the same line break, as before. -/
theorem pieces_flatMap_marked {state : Option (List Char)} {text : List Char}
    (hstate : ∀ read ∈ state, ∀ c ∈ read, IsInside c) :
    pieces ((piecesFrom state text).flatMap Piece.marked) =
      (piecesFrom state text).flatMap Piece.markedParts := by
  induction text generalizing state with
  | nil =>
      cases state with
      | none => rfl
      | some read =>
          have hread : ∀ c ∈ read.reverse, IsInside c :=
            fun c hc => hstate read rfl c (List.mem_reverse.mp hc)
          rw [piecesFrom, ← List.map_cons, flatMap_marked_map_char, flatMap_markedParts_map_char,
            pieces_open hread, List.map_cons]
  | cons c rest ih =>
      have hrest : pieces ((piecesFrom none rest).flatMap Piece.marked) =
          (piecesFrom none rest).flatMap Piece.markedParts := ih (by simp)
      cases state with
      | none =>
          rw [piecesFrom]
          split
          · exact ih (by simp)
          · next hplain =>
              rw [List.flatMap_cons, List.flatMap_cons, ← hrest]
              exact pieces_cons_of_ne hplain _
      | some read =>
          have hread : ∀ c ∈ read.reverse, IsInside c :=
            fun c hc => hstate read rfl c (List.mem_reverse.mp hc)
          rw [piecesFrom]
          split
          · have hmarked : (Piece.slot read.reverse :: piecesFrom none rest).flatMap Piece.marked =
                '$' :: ('\x7b' :: read.reverse ++
                  '\x7d' :: (piecesFrom none rest).flatMap Piece.marked) := by
              simp [Piece.marked]
            rw [hmarked, pieces_cons_of_ne (by decide), pieces_slot hread, hrest]
            rfl
          · split
            · have hmarked : (Piece.char '\x7b' :: read.reverse.map .char ++
                  Piece.char '\n' :: piecesFrom none rest).flatMap Piece.marked =
                    '\x7b' :: read.reverse ++
                      '\n' :: (piecesFrom none rest).flatMap Piece.marked := by
                rw [← List.map_cons, List.flatMap_append, flatMap_marked_map_char]
                rfl
              rw [hmarked, pieces_break hread, hrest, ← List.map_cons, List.flatMap_append,
                flatMap_markedParts_map_char]
              rfl
            · next hbrace hbreak =>
                apply ih
                rintro _ ⟨⟩ other hother
                rcases List.mem_cons.mp hother with rfl | hother
                · exact ⟨hbrace, hbreak⟩
                · exact hstate read rfl other hother

/-- The parts of a marked text are those of the text, with a dollar sign before each placeholder. -/
theorem Reads.marked {text : List Char} {parts : List Piece} (h : Reads text parts) :
    Reads (parts.flatMap Piece.marked) (parts.flatMap Piece.markedParts) := by
  obtain rfl := reads_iff.mp h
  rw [reads_iff]
  exact (pieces_flatMap_marked (by simp)).symm

theorem Reads.flatMap_chars {text : List Char} {parts : List Piece} (h : Reads text parts) :
    parts.flatMap Piece.chars = text := by
  obtain rfl := reads_iff.mp h
  exact flatMap_chars_pieces text

/-- The placeholders of a text are the names of the matches in it. -/
theorem Reads.placeholders {text : String} {parts : List Piece} (h : Reads text.toList parts) :
    placeholders text = (slotNames parts).map String.ofList := by
  obtain rfl := reads_iff.mp h
  exact placeholders_eq text

end CatalogClient.Text
