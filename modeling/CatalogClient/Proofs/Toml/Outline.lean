/-
# The outline of ordinary lines

Where all entries are ordinary, the look at the text of a settings file opens and closes quotes and
brackets as they stand there and changes nothing: piece by piece it passes the key, the equals sign
and the value of a line, and it is back at the start of a line at the end of each.
-/

import CatalogClient.Proofs.Toml.Writing
import CatalogClient.Toml.Outline

namespace CatalogClient.Toml

namespace Outline

/-- A look at the same place of another text. -/
def withText (state : Outline) (text : List Char) : Outline :=
  { state with text := text.toArray }

/-- A look at a piece of a text behind what comes before it leaves the text as it is, whatever
follows, and leads from one state to another. -/
def Passes (before piece : List Char) (state next : Outline) : Prop :=
  ∀ after, (state.withText (before ++ piece ++ after)).lookOn before.length piece.length =
    .ok (next.withText (before ++ piece ++ after))

theorem lookOn_add (state : Outline) (position left more : Nat) :
    state.lookOn position (left + more) =
      (state.lookOn position left).bind fun next => next.lookOn (position + left) more := by
  induction left generalizing state position with
  | zero => simp [lookOn, Except.bind]
  | succ left ih =>
      rw [Nat.add_right_comm, lookOn, lookOn]
      cases state.look position with
      | error fault => rfl
      | ok next =>
          show next.lookOn (position + 1) (left + more) = _
          rw [ih, Nat.add_assoc, Nat.add_comm 1]
          rfl

variable {before piece more : List Char} {state next last : Outline} {c : Char}

namespace Passes

theorem nil : Passes before [] state state := fun _ => rfl

/-- One piece after the other. -/
theorem append (h : Passes before piece state next)
    (hmore : Passes (before ++ piece) more next last) :
    Passes before (piece ++ more) state last := by
  intro after
  have hfirst := h (more ++ after)
  have hsecond := hmore after
  rw [List.length_append] at hsecond ⊢
  rw [← List.append_assoc] at hfirst ⊢
  rw [lookOn_add, hfirst]
  exact hsecond

/-- A piece of one character is passed by one look. -/
theorem single (h : ∀ after, (state.withText (before ++ c :: after)).look before.length =
    .ok (next.withText (before ++ c :: after))) : Passes before [c] state next := by
  intro after
  rw [List.append_assoc, List.singleton_append]
  simp only [lookOn, List.length_singleton, h after, bind, Except.bind]

theorem cons (h : Passes before [c] state next) (hmore : Passes (before ++ [c]) piece next last) :
    Passes before (c :: piece) state last :=
  h.append hmore

/-- Characters that each leave a state as it is do so together. -/
theorem all (h : ∀ before, ∀ c ∈ piece, Passes before [c] state state) :
    Passes before piece state state := by
  induction piece generalizing before with
  | nil => exact nil
  | cons c rest ih =>
      exact (h before c List.mem_cons_self).cons
        (ih fun before c hmem => h before c (List.mem_cons_of_mem _ hmem))

end Passes

/-! ## Looking back -/

theorem charAt?_nat (text : List Char) (position : Nat) :
    charAt? text.toArray position = text[position]? := by
  simp [charAt?]

/-- Directly behind another character there is no run. -/
theorem runBefore_behind {front after : List Char} {last mark : Char} (h : last ≠ mark)
    (limit : Nat) :
    runBefore (front ++ [last] ++ after).toArray mark (front ++ [last]).length limit = 0 := by
  cases limit with
  | zero => rfl
  | succ limit =>
      have hposition : (((front ++ [last]).length : Nat) : Int) - 1 = (front.length : Nat) := by
        simp
      rw [runBefore, hposition, charAt?_nat]
      simp [h]

/-- A run ends with the character itself. -/
theorem runBefore_succ {front after : List Char} {mark : Char} (limit : Nat) :
    runBefore (front ++ [mark] ++ after).toArray mark (front ++ [mark]).length (limit + 1) =
      runBefore (front ++ ([mark] ++ after)).toArray mark front.length limit + 1 := by
  have hposition : (((front ++ [mark]).length : Nat) : Int) - 1 = (front.length : Nat) := by
    simp
  rw [runBefore, hposition, charAt?_nat]
  simp

/-! ## Outside of quotes -/

theorem lookOutside_of_not_mem (h : c ∉ ['"', '\'', '#', '[', ']', '\n']) (position : Nat) :
    state.lookOutside position c = state.startLine position := by
  simp only [List.mem_cons, List.not_mem_nil, or_false, not_or] at h
  obtain ⟨hdouble, hsingle, hcomment, hopens, hcloses, hend⟩ := h
  simp [lookOutside, lookAtQuote, lookAtComment, lookAtBracket, hdouble, hsingle, hcomment, hopens,
    hcloses, hend]

theorem startLine_of_not_atLineStart (state : Outline) (h : state.atLineStart = false)
    (position : Nat) : state.startLine position = .ok state := by
  simp [startLine, h]

theorem getElem?_withText (state : Outline) (before after : List Char) (c : Char) :
    (state.withText (before ++ c :: after)).text[before.length]? = some c := by
  simp [withText]

theorem look_of_outside (hkey : state.key = .outside) (before after : List Char) (c : Char) :
    (state.withText (before ++ c :: after)).look before.length =
      (state.withText (before ++ c :: after)).lookOutside before.length c := by
  unfold look
  rw [getElem?_withText]
  exact if_pos hkey

/-- Behind its start and outside of keys, most characters of a line say nothing. -/
theorem Passes.plain (hkey : state.key = .outside) (hstart : state.atLineStart = false)
    (hc : c ∉ ['"', '\'', '#', '[', ']', '\n']) : Passes before [c] state state := by
  refine .single fun after => ?_
  rw [look_of_outside hkey, lookOutside_of_not_mem hc]
  exact startLine_of_not_atLineStart (state.withText (before ++ c :: after)) hstart _

/-! ## Keys -/

/-- The start of a line. -/
def lineStart : Outline := { text := #[] }

/-- Within a key. -/
def inKey : Outline := { lineStart with atLineStart := false, key := .inside }

/-- Behind a key. -/
def afterKey : Outline := { inKey with key := .after }

/-- Within a value, where so many brackets are open. -/
def inValue (depth : Int) : Outline := { lineStart with atLineStart := false, depth }

/-- Within a text between double quotes. -/
def inQuotes (depth : Int) : Outline := { inValue depth with openQuote := some '"' }

section Keys

variable (h : isPlainKeyChar c = true)
include h

/-- A key starts a line. -/
theorem passes_first : Passes before [c] lineStart inKey := by
  refine .single fun after => ?_
  have hc := not_mem_of_isPlainKeyChar h [' ', '\t', '='] (by decide)
  simp only [List.mem_cons, List.not_mem_nil, or_false, not_or] at hc
  rw [look_of_outside rfl, lookOutside_of_not_mem (not_mem_of_isPlainKeyChar h _ (by decide))]
  unfold startLine
  rw [getElem?_withText]
  simp [withText, lineStart, inKey, outsideHeadings, hc]

theorem passes_inKey : Passes before [c] inKey inKey := by
  refine .single fun after => ?_
  have hc := not_mem_of_isPlainKeyChar h ['\n', '.'] (by decide)
  simp only [List.mem_cons, List.not_mem_nil, or_false, not_or] at hc
  unfold look
  rw [getElem?_withText]
  simp [withText, lineStart, inKey, lookInKey, hc, isBlank_of_isPlainKeyChar h,
    isAlphanumeric_of_isPlainKeyChar h, bind, Except.bind, pure, Except.pure]

end Keys

theorem passes_blank : Passes before [' '] inKey afterKey := by
  refine .single fun after => ?_
  unfold look
  rw [getElem?_withText]
  have hblank : Text.isBlank ' ' = true := by decide
  simp [withText, lineStart, inKey, afterKey, lookInKey, hblank, bind, Except.bind, pure,
    Except.pure]

theorem passes_equals : Passes before ['='] afterKey (inValue 0) := by
  refine .single fun after => ?_
  have hlook : (afterKey.withText (before ++ '=' :: after)).lookInKey before.length '=' =
      .ok ((inValue 0).withText (before ++ '=' :: after), false) := by
    have hblank : Text.isBlank '=' = false := by decide
    simp [withText, lineStart, inKey, afterKey, inValue, lookInKey, endKey, hblank]
  have hkey : (afterKey.withText (before ++ '=' :: after)).key ≠ .outside := nofun
  have hmarks : '=' ∉ ['"', '\'', '#', '[', ']', '\n'] := by decide
  unfold look
  rw [getElem?_withText]
  simp only [if_neg hkey, hlook, bind, Except.bind, if_neg Bool.false_ne_true]
  rw [lookOutside_of_not_mem hmarks]
  exact startLine_of_not_atLineStart _ rfl _

/-- A key is passed up to the blank behind its equals sign. -/
theorem passes_key {key : String} (h : IsPlainKey key) :
    Passes before (key.toList ++ " = ".toList) lineStart (inValue 0) := by
  obtain ⟨hsome, hplain⟩ := h
  have hkey : Passes before key.toList lineStart inKey := by
    cases htext : key.toList with
    | nil => exact absurd htext hsome
    | cons c rest =>
        rw [htext] at hplain
        exact (passes_first (hplain c List.mem_cons_self)).cons
          (.all fun _ c hmem => passes_inKey (hplain c (List.mem_cons_of_mem _ hmem)))
  exact hkey.append (passes_blank.cons (passes_equals.cons (.plain rfl rfl (by decide))))

/-! ## Values -/

variable {depth : Int}

theorem passes_quotedChar (h : IsOrdinary c) :
    Passes before [c] (inQuotes depth) (inQuotes depth) := by
  refine .single fun after => ?_
  have hend : c ≠ '\n' := h.ne_of_not_printable (by decide)
  rw [look_of_outside rfl]
  simp [lookOutside, lookAtQuote, lookAtComment, lookAtBracket, startLine, inQuotes, inValue,
    withText, h.2.1, hend]

/-- A double quote behind at most one other opens or closes a text, unless an escape ends before
it. -/
theorem lookOutside_quote {run : Nat} (hopen : state.openQuote ≠ some '\'')
    (hstart : state.atLineStart = false) {position : Nat}
    (hrun : runBefore state.text '"' position 2 = run) (hshort : run < 2)
    (hescape : run = 1 ∨ ∀ limit, runBefore state.text '\\' position limit = 0) :
    state.lookOutside position '"' = .ok (state.turnQuote '"' false) := by
  have hquote : state.lookAtQuote position '"' = state.turnQuote '"' false := by
    unfold lookAtQuote
    rw [if_neg (by simp)]
    rcases hescape with rfl | hescape
    · simp [hopen, hrun]
    · obtain rfl | rfl : run = 0 ∨ run = 1 := by omega
      · simp [hopen, hrun, hescape]
      · simp [hopen, hrun]
  have hplain (state : Outline) :
      (state.lookAtComment position '"').lookAtBracket position '"' = state := by
    simp [lookAtComment, lookAtBracket]
  unfold lookOutside
  simp only [hquote, hplain]
  exact (if_neg (by decide)).trans
    (startLine_of_not_atLineStart (state.turnQuote '"' false) hstart _)

theorem passes_opening : Passes (before ++ [' ']) ['"'] (inValue depth) (inQuotes depth) := by
  refine .single fun after => ?_
  rw [look_of_outside rfl]
  exact lookOutside_quote (by simp [withText, inValue, lineStart]) rfl
    (runBefore_behind (by decide) 2) (by decide) (.inr (runBefore_behind (by decide)))

/-- A text ends where a quote follows one of its characters. -/
theorem passes_closing (h : IsOrdinary c) :
    Passes (before ++ [c]) ['"'] (inQuotes depth) (inValue depth) := by
  refine .single fun after => ?_
  rw [look_of_outside rfl]
  exact lookOutside_quote (by simp [withText, inQuotes]) rfl (runBefore_behind h.2.1 2) (by decide)
    (.inr (runBefore_behind h.2.2))

/-- An empty text ends right behind the quote that opens it. -/
theorem passes_closing_empty :
    Passes (before ++ [' '] ++ ['"']) ['"'] (inQuotes depth) (inValue depth) := by
  refine .single fun after => ?_
  have hrun : runBefore (before ++ [' '] ++ ['"'] ++ '"' :: after).toArray '"'
      (before ++ [' '] ++ ['"']).length 2 = 1 := by
    rw [runBefore_succ, runBefore_behind (by decide)]
  rw [look_of_outside rfl]
  exact lookOutside_quote (by simp [withText, inQuotes]) rfl hrun (by decide) (.inl rfl)

/-- A text of ordinary characters is passed from its first to its last quote. -/
theorem passes_quoted {text : List Char} (h : ∀ c ∈ text, IsOrdinary c) :
    Passes (before ++ [' ']) (quoted text) (inValue depth) (inValue depth) := by
  have hchars (before : List Char) : Passes before text (inQuotes depth) (inQuotes depth) :=
    .all fun _ c hmem => passes_quotedChar (h c hmem)
  refine (passes_opening.cons (hchars _)).append ?_
  rcases List.eq_nil_or_concat text with rfl | ⟨front, last, rfl⟩
  · exact passes_closing_empty
  · rw [List.concat_eq_append] at h ⊢
    have hlast : IsOrdinary last := h last (List.mem_append_right _ List.mem_cons_self)
    rw [← List.cons_append, ← List.append_assoc]
    exact passes_closing hlast

theorem passes_openingBracket : Passes before ['['] (inValue 0) (inValue 1) := by
  refine .single fun after => ?_
  rw [look_of_outside rfl]
  simp [lookOutside, lookAtQuote, lookAtComment, lookAtBracket, startLine, outsideHeadings,
    withText, inValue, lineStart]

theorem passes_closingBracket : Passes before [']'] (inValue 1) (inValue 0) := by
  refine .single fun after => ?_
  rw [look_of_outside rfl]
  simp [lookOutside, lookAtQuote, lookAtComment, lookAtBracket, startLine, withText, inValue,
    lineStart]

/-- The items of a list leave the brackets open that are. -/
theorem passes_items {texts : List String} (h : ∀ text ∈ texts, IsOrdinaryItem text) :
    Passes before (quotedItems texts) (inValue depth) (inValue depth) := by
  induction texts generalizing before with
  | nil => exact .nil
  | cons text rest ih =>
      have hitem : Passes before (' ' :: quoted text.toList ++ [',']) (inValue depth)
          (inValue depth) :=
        .append (.cons (.plain rfl rfl (by decide)) (passes_quoted (h text List.mem_cons_self).1))
          (.plain rfl rfl (by decide))
      exact hitem.append (ih fun other hmem => h other (List.mem_cons_of_mem _ hmem))

/-- What an ordinary value is written as is passed behind a blank. -/
theorem passes_value {value : Toml} {text : List Char} (h : WrittenAs value text) :
    Passes (before ++ [' ']) text (inValue 0) (inValue 0) := by
  cases h with
  | text ordinary => exact passes_quoted ordinary
  | list ordinary =>
      exact (passes_openingBracket.cons (passes_items ordinary)).append passes_closingBracket

/-! ## Lines -/

theorem passes_lineEnd : Passes before ['\n'] (inValue 0) lineStart := by
  refine .single fun after => ?_
  rw [look_of_outside rfl]
  simp [lookOutside, lookAtQuote, lookAtComment, lookAtBracket, lookAtLineEnd, withText, inValue,
    lineStart]

theorem passes_line (line : Line) :
    Passes before (line.chars ++ ['\n']) lineStart lineStart := by
  have hvalue : Passes (before ++ (line.key.toList ++ " = ".toList)) line.text (inValue 0)
      (inValue 0) := by
    have hblank : before ++ (line.key.toList ++ " = ".toList) =
        before ++ line.key.toList ++ [' ', '='] ++ [' '] := by simp
    rw [hblank]
    exact passes_value line.isWritten
  exact ((passes_key line.isPlainKey).append hvalue).append passes_lineEnd

/-- Lines lead from the start of a line to the start of another one. -/
theorem passes_lines (lines : List Line) :
    Passes before (Line.charsOf lines) lineStart lineStart := by
  induction lines generalizing before with
  | nil => exact .nil
  | cons line rest ih => exact (passes_line line).append ih

end Outline

/-- The outline of such lines is the lines themselves. -/
theorem outline_lines (lines : List Line) :
    outline (Line.charsOf lines) = .ok (Line.charsOf lines) := by
  have hlook : ({ text := (Line.charsOf lines).toArray } : Outline).lookOn 0
      (Line.charsOf lines).length = .ok (Outline.lineStart.withText (Line.charsOf lines)) := by
    have hpasses : Outline.Passes [] (Line.charsOf lines) Outline.lineStart Outline.lineStart :=
      Outline.passes_lines lines
    have hwhole := hpasses []
    rwa [List.nil_append, List.append_nil] at hwhole
  unfold outline
  rw [hlook]
  rfl

end CatalogClient.Toml
