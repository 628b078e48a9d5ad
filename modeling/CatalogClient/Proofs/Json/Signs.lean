/-
# Texts that go on after a sign

A document has no equals sign but in texts between quotes. So when a text comes to an equals sign,
either it is refused, at the same place and in the same words however it goes on after the sign, or
the sign stands between quotes, and then the text can go on so that it is a document. The proof
follows the reading: each of its parts is settled before a sign if the parts of it are.
-/

import CatalogClient.Proofs.Json.Escapes
import CatalogClient.Proofs.Json.Starting

namespace CatalogClient

/-- The fault at the same place of a text with more characters behind. -/
def ReadFault.shift (more : Nat) : ReadFault → ReadFault
  | .malformed problem left => .malformed problem (left + more)
  | .longInteger digits => .longInteger digits
  | .deepList => .deepList
  | .deepObject => .deepObject

theorem ReadFault.malformed_sign (problem : SyntaxProblem) (left rest : List Char) :
    ReadFault.malformed problem (left ++ '=' :: rest).length =
      (ReadFault.malformed problem (left.length + 1)).shift rest.length := by
  show ReadFault.malformed problem _ = ReadFault.malformed problem _
  rw [List.length_append, List.length_cons, Nat.add_comm rest.length, ← Nat.add_assoc]

/-- The words for a fault do not depend on how the text goes on after the sign. -/
theorem ReadFault.message_shift (fault : ReadFault) (before rest : List Char) :
    (fault.shift rest.length).message (before ++ '=' :: rest) =
      fault.message (before ++ ['=']) := by
  cases fault with
  | malformed problem left =>
      have hoffset : (before ++ '=' :: rest).length - (left + rest.length) =
          (before ++ ['=']).length - left := by
        simp only [List.length_append, List.length_cons, List.length_nil]
        omega
      have htake : ∀ offset ≤ (before ++ ['=']).length,
          (before ++ '=' :: rest).take offset = (before ++ ['=']).take offset := by
        intro offset hoffset
        rw [List.append_cons, List.take_append_of_le_length hoffset]
      show problem.label ++ ": " ++ placeInWords _ _ = problem.label ++ ": " ++ placeInWords _ _
      rw [hoffset]
      unfold placeInWords
      rw [htake _ (Nat.sub_le _ _)]
  | longInteger digits => rfl
  | deepList => rfl
  | deepObject => rfl

namespace Json

variable {α β : Type} {before : List Char}

/-! ## What is settled before a sign -/

/-- The outcome of reading a text up to an equals sign, when the text goes on after the sign. -/
def carry (rest : List Char) :
    Except ReadFault (α × List Char) → Except ReadFault (α × List Char)
  | .ok found => .ok (behind rest found)
  | .error fault => .error (fault.shift rest.length)

/-- What is read of a text is settled before an equals sign: it is the same however the text goes on
after the sign, or the text can go on so that something is read. -/
inductive Settles (read : List Char → Except ReadFault (α × List Char)) (before : List Char) : Prop
  | same (outcome : Except ReadFault (α × List Char))
      (h : ∀ rest, read (before ++ '=' :: rest) = carry rest outcome)
  | goesOn (tail : List Char) (value : α)
      (h : ∀ more, read (before ++ '=' :: (tail ++ more)) = .ok (value, more))

namespace Settles

variable {read : List Char → Except ReadFault (α × List Char)}
  {next : α → List Char → Except ReadFault (β × List Char)}

/-- Reading on from what was read. Where the text can go on, so it can after that. -/
theorem bind (h : Settles read before)
    (hsame : ∀ value left, read (before ++ ['=']) = .ok (value, left ++ ['=']) →
      Settles (next value) left)
    (hopen : ∀ value, ∃ tail result, ∀ more, next value (tail ++ more) = .ok (result, more)) :
    Settles (fun text => (read text).bind fun found => next found.1 found.2) before := by
  cases h with
  | same outcome h =>
      cases outcome with
      | error fault =>
          refine .same (.error fault) fun rest => ?_
          simp only [h]
          rfl
      | ok found =>
          cases hsame found.1 found.2 (h []) with
          | same other hother =>
              refine .same other fun rest => ?_
              simp only [h]
              exact hother rest
          | goesOn tail value hother =>
              refine .goesOn tail value fun more => ?_
              simp only [h]
              exact hother more
  | goesOn tail value h =>
      obtain ⟨others, result, hothers⟩ := hopen value
      refine .goesOn (tail ++ others) result fun more => ?_
      simp only [List.append_assoc, h]
      exact hothers more

/-- Reading a text as another one is read. -/
theorem of_eq {other : List Char → Except ReadFault (α × List Char)} {left : List Char}
    (h : Settles other left)
    (hread : ∀ rest, read (before ++ '=' :: rest) = other (left ++ '=' :: rest)) :
    Settles read before := by
  cases h with
  | same outcome h => exact .same outcome fun rest => (hread rest).trans (h rest)
  | goesOn tail value h => exact .goesOn tail value fun more => (hread _).trans (h more)

theorem map (h : Settles read before) (convert : α → β) :
    Settles (fun text => (read text).map fun found => (convert found.1, found.2)) before := by
  have hbind := @bind _ _ _ _ (fun value left => .ok (convert value, left)) h
    (fun value left _ => .same (.ok (convert value, left)) fun _ => rfl)
    (fun value => ⟨[], convert value, fun _ => rfl⟩)
  apply hbind.of_eq
  intro rest
  cases read (before ++ '=' :: rest) <;> rfl

theorem afterBlanks (h : Settles read (skipSpace before).1) :
    Settles (fun text => read (skipSpace text).1) before :=
  h.of_eq fun rest => congrArg read (skipSpace_sign before rest)

/-- A fault at a place before the sign. -/
theorem fault (problem : SyntaxProblem) (left : List Char)
    (h : ∀ rest, read (before ++ '=' :: rest) =
      .error (.malformed problem (left ++ '=' :: rest).length)) : Settles read before := by
  refine .same (.error (.malformed problem (left.length + 1))) fun rest => ?_
  rw [h, ReadFault.malformed_sign]
  rfl

end Settles

/-! ## Texts in quotes -/

/-- The rest of a text in quotes is settled before a sign, or the next quote is its end. -/
def StringSettles (read before : List Char) : Prop :=
  (∃ outcome, ∀ opening rest,
      bare (readString opening read (before ++ '=' :: rest)) = carry rest outcome) ∨
    ∃ value, ∀ opening more,
      bare (readString opening read (before ++ '=' :: '"' :: more)) = .ok (value, more)

namespace StringSettles

variable {read read' before before' : List Char}

theorem congr (h : StringSettles read' before')
    (hread : ∀ opening rest, bare (readString opening read (before ++ '=' :: rest)) =
      bare (readString opening read' (before' ++ '=' :: rest))) : StringSettles read before := by
  unfold StringSettles
  simp only [hread]
  exact h

theorem fault (problem : SyntaxProblem) (left : List Char)
    (h : ∀ opening rest, bare (readString opening read (before ++ '=' :: rest)) =
      .error (.malformed problem (left ++ '=' :: rest).length)) : StringSettles read before := by
  refine Or.inl ⟨.error (.malformed problem (left.length + 1)), fun opening rest => ?_⟩
  rw [h, ReadFault.malformed_sign]
  rfl

end StringSettles

theorem stringSettles (read before : List Char) : StringSettles read before := by
  induction hlength : before.length using Nat.strongRecOn generalizing read before with
  | ind length ih =>
      match before with
      | [] =>
          refine Or.inr ⟨String.ofList ('=' :: read).reverse, fun opening more => ?_⟩
          rw [List.nil_append, bare_readString_plain (by decide) (by decide),
            bare_readString_close]
          rfl
      | c :: before =>
          have hnext : ∀ read' left, left.length ≤ before.length → StringSettles read' left :=
            fun read' left hleft =>
              ih left.length (by simp only [← hlength, List.length_cons]; omega) read' left rfl
          by_cases hquote : c = '"'
          · subst hquote
            exact Or.inl ⟨.ok (String.ofList read.reverse, before), fun opening rest =>
              bare_readString_close _ _ _⟩
          by_cases hescape : c = '\\'
          · subst hescape
            match before with
            | [] =>
                exact .fault .escape ['\\'] fun opening rest =>
                  bare_readString_escape (by decide) opening read rest
            | letter :: before =>
                have hshort : ∀ left : List Char, left.length ≤ before.length →
                    left.length ≤ (letter :: before).length :=
                  fun left hleft => Nat.le_succ_of_le hleft
                by_cases hletter : letter = 'u'
                · subst hletter
                  rcases readUnicodeEscape_sign before with ⟨c, left, hless, hescape⟩ |
                    ⟨left, hfault⟩
                  · apply (hnext (c :: read) left (hshort left hless)).congr
                    intro opening rest
                    rw [List.cons_append, List.cons_append, bare_readString_unicode, hescape]
                    rfl
                  · exact .fault .unicodeEscape ('u' :: left) fun opening rest =>
                      hfault opening read rest
                · have hread := fun opening rest =>
                    bare_readString_escape hletter opening read (before ++ '=' :: rest)
                  cases hsimple : simpleEscape? letter with
                  | some c =>
                      simp only [hsimple] at hread
                      exact (hnext (c :: read) before (hshort before (Nat.le_refl _))).congr hread
                  | none =>
                      simp only [hsimple] at hread
                      exact .fault .escape ('\\' :: letter :: before) hread
          · have hread := fun opening rest =>
              bare_readString_plain hquote hescape opening read (before ++ '=' :: rest)
            by_cases hcontrol : c.toNat < 32
            · simp only [hcontrol, if_true] at hread
              exact .fault .control (c :: before) hread
            · simp only [hcontrol, if_false] at hread
              exact (hnext (c :: read) before (Nat.le_refl _)).congr hread

/-! ## Values -/

/-- A text in quotes is settled, as part of a longer text. -/
theorem settles_string (before : List Char) :
    Settles (fun text => bare (readString (text.length + 1) [] text)) before := by
  rcases stringSettles [] before with ⟨outcome, h⟩ | ⟨value, h⟩
  · exact .same outcome fun rest => h _ rest
  · exact .goesOn ['"'] value fun more => h _ more

theorem length_lt_of_after? {mark : Char} {text more : List Char}
    (h : after? mark text = some more) : more.length < text.length := by
  obtain ⟨rest, -, rfl⟩ := Option.map_eq_some_iff.mp h
  exact rest.2

theorem head?_sign {mark : Char} (hmark : mark ≠ '=') (h : before.head? ≠ some mark)
    (rest : List Char) : (before ++ '=' :: rest).head? ≠ some mark := by
  cases before with
  | nil => exact fun heq => hmark (Option.some.inj heq).symm
  | cons c before => exact h

theorem exists_cons_of_head? {c : Char} {text : List Char} (h : text.head? = some c) :
    ∃ rest, text = c :: rest := by
  cases text with
  | nil => cases h
  | cons d rest => exact ⟨rest, by rw [Option.some.inj h]⟩

/-- What stands between two ends is settled if what others make of it is. -/
theorem settles_enclosed {close : Char} (hclose : close ≠ '=') (empty : α)
    {others : List Char → Except ReadFault (β × List Char)} (convert : β → α)
    (h : Settles others (skipSpace before).1) :
    Settles (enclosed close empty others convert) before := by
  cases hend : after? close before with
  | some after =>
      refine .same (.ok (empty, after)) fun rest => ?_
      unfold enclosed
      rw [after?_sign hclose, hend]
      rfl
  | none =>
      apply (h.afterBlanks.map convert).of_eq
      intro rest
      unfold enclosed
      rw [after?_sign hclose, hend]
      rfl

/-- What follows an entry is settled if the other entries are. -/
theorem settles_following {close : Char} (hclose : close ≠ '=')
    {others : List Char → Except ReadFault (List β × List Char)} (entry : β)
    (h : ∀ more, more.length < before.length → Settles others more) :
    Settles (following close others entry) before := by
  have hcomma : ∀ rest, after? ',' (before ++ '=' :: rest) =
      (after? ',' before).map (· ++ '=' :: rest) := after?_sign (by decide) before
  cases hend : after? close before with
  | some after =>
      refine .same (.ok ([entry], after)) fun rest => ?_
      unfold following
      rw [after?_sign hclose, hend]
      rfl
  | none =>
      cases hmore : after? ',' before with
      | none =>
          apply Settles.fault .comma (skipSpace before).1
          intro rest
          unfold following
          rw [after?_sign hclose, hcomma, hend, hmore, skipSpace_sign]
          rfl
      | some more =>
          have hfits : (skipSpace more).1.length < before.length :=
            Nat.lt_of_le_of_lt (skipSpace more).2 (length_lt_of_after? hmore)
          apply ((h _ hfits).afterBlanks.map (entry :: ·)).of_eq
          intro rest
          unfold following
          rw [after?_sign hclose, hcomma, hend, hmore]
          rfl

theorem following_close {close : Char} (hclose : isSpace close = false)
    (others : List Char → Except ReadFault (List β × List Char)) (entry : β) (more : List Char) :
    following close others entry (close :: more) = .ok ([entry], more) := by
  have hblanks : (skipSpace (close :: more)).1 = close :: more := by
    show List.dropWhile isSpace (close :: more) = close :: more
    rw [List.dropWhile_cons, hclose]
    rfl
  have hafter : after? close (close :: more) = some more := by
    rw [after?_eq, hblanks]
    exact if_pos rfl
  unfold following
  rw [hafter]

section Steps

variable {depth : Nat}

/-- The items of a list are settled if the first one and the ones after it are. -/
theorem settles_readItems (hvalue : Settles (fun text => bare (readValue depth text)) before)
    (hitems : ∀ more, more.length < before.length →
      Settles (fun text => bare (readItems depth text)) more) :
    Settles (fun text => bare (readItems depth text)) before := by
  have hread : Settles (fun text => (bare (readValue depth text)).bind fun found =>
      following ']' (fun more => bare (readItems depth more)) found.1 found.2) before := by
    apply hvalue.bind
    · intro value left hleft
      apply settles_following (by decide)
      intro more hmore
      have hless := length_lt_of_bare hleft
      simp only [List.length_append, List.length_cons, List.length_nil] at hless
      exact hitems more (by omega)
    · intro value
      exact ⟨[']'], [value], following_close rfl _ value⟩
  exact hread.of_eq fun rest => bare_readItems depth _

/-- What follows a name is settled if the values and the members after it are. -/
theorem settles_member (hvalues : ∀ more, more.length < before.length →
      Settles (fun text => bare (readValue depth text)) more)
    (hmembers : ∀ more, more.length < before.length →
      Settles (fun text => bare (readMembers depth text)) more) (name : String) :
    Settles (member depth name) before := by
  cases hcolon : after? ':' before with
  | none =>
      apply Settles.fault .colon (skipSpace before).1
      intro rest
      unfold member
      rw [after?_sign (by decide), hcolon, skipSpace_sign]
      rfl
  | some start =>
      have hstart : (skipSpace start).1.length < before.length :=
        Nat.lt_of_le_of_lt (skipSpace start).2 (length_lt_of_after? hcolon)
      have hread : Settles (fun text => (bare (readValue depth text)).bind fun found =>
          following '\x7d' (fun more => bare (readMembers depth more)) (name, found.1) found.2)
          (skipSpace start).1 := by
        refine @Settles.bind _ _ _ _
          (fun value => following '\x7d' (fun more => bare (readMembers depth more)) (name, value))
          (hvalues _ hstart) ?_ ?_
        · intro value left hleft
          apply settles_following (by decide)
          intro more hmore
          have hless := length_lt_of_bare hleft
          simp only [List.length_append, List.length_cons, List.length_nil] at hless
          exact hmembers more (by omega)
        · intro value
          exact ⟨['\x7d'], [(name, value)], following_close rfl _ (name, value)⟩
      apply hread.afterBlanks.of_eq
      intro rest
      unfold member
      rw [after?_sign (by decide), hcolon]
      rfl

/-- A member without much of a value. -/
theorem member_of_empty (name : String) (more : List Char) :
    member depth name (':' :: '"' :: '"' :: '\x7d' :: more) =
      .ok ([(name, .string "")], more) := by
  have hvalue : bare (readValue depth ('"' :: '"' :: '\x7d' :: more)) =
      .ok (.string "", '\x7d' :: more) := by
    rw [bare_readValue_string, bare_readString_close]
    rfl
  show (bare (readValue depth ('"' :: '"' :: '\x7d' :: more))).bind _ = _
  rw [hvalue]
  show following '\x7d' (fun more => bare (readMembers depth more)) (name, .string "")
    ('\x7d' :: more) = _
  exact following_close rfl _ _ more

theorem settles_readMembers
    (hvalues : ∀ more, more.length < before.length →
      Settles (fun text => bare (readValue depth text)) more)
    (hmembers : ∀ more, more.length < before.length →
      Settles (fun text => bare (readMembers depth text)) more) :
    Settles (fun text => bare (readMembers depth text)) before := by
  by_cases hquote : before.head? = some '"'
  · obtain ⟨before, rfl⟩ := exists_cons_of_head? hquote
    have hread : Settles (fun text => (bare (readString (text.length + 1) [] text)).bind
        fun found => member depth found.1 found.2) before := by
      apply (settles_string before).bind
      · intro name left hleft
        have hless := length_lt_of_bare hleft
        simp only [List.length_append, List.length_cons, List.length_nil] at hless
        exact settles_member
          (fun more hmore => hvalues more (by simp only [List.length_cons]; omega))
          (fun more hmore => hmembers more (by simp only [List.length_cons]; omega)) name
      · intro name
        exact ⟨[':', '"', '"', '\x7d'], [(name, .string "")], member_of_empty name⟩
    exact hread.of_eq fun rest => bare_readMembers depth _
  · exact .fault .propertyName before fun rest =>
      bare_readMembers_other (head?_sign (by decide) hquote rest)

/-- A value that is no text, no list and no object is settled. -/
theorem settles_word (h : ∀ mark ∈ ['"', '\x7b', '['], before.head? ≠ some mark) :
    Settles (fun text => bare (readValue depth text)) before := by
  have hhead : ∀ rest, ∀ mark ∈ ['"', '\x7b', '['], (before ++ '=' :: rest).head? ≠ some mark := by
    intro rest mark hmark
    apply head?_sign _ (h mark hmark)
    rintro rfl
    exact absurd hmark (by decide)
  have hread := fun rest => @bare_readValue_word depth _ (hhead rest)
  cases hword : readWord? before with
  | none =>
      apply Settles.fault .value before
      intro rest
      rw [hread, readWord?_sign, hword]
      rfl
  | some found =>
      obtain ⟨outcome, left⟩ := found
      cases outcome with
      | error fault =>
          obtain ⟨digits, rfl⟩ := readWord?_fault hword
          refine .same (.error (.longInteger digits)) fun rest => ?_
          rw [hread, readWord?_sign, hword]
          rfl
      | ok value =>
          have hlength : ∀ rest, (left ++ '=' :: rest).length < (before ++ '=' :: rest).length ↔
              left.length < before.length := by
            intro rest
            simp only [List.length_append, List.length_cons]
            omega
          by_cases hless : left.length < before.length
          · refine .same (.ok (value, left)) fun rest => ?_
            rw [hread, readWord?_sign, hword]
            exact if_pos ((hlength rest).mpr hless)
          · apply Settles.fault .value before
            intro rest
            rw [hread, readWord?_sign, hword]
            exact if_neg fun hwhole => hless ((hlength rest).mp hwhole)

/-- A value is settled if the shorter lists and objects are. -/
theorem settles_readValue
    (hitems : ∀ inner more, more.length < before.length →
      Settles (fun text => bare (readItems inner text)) more)
    (hmembers : ∀ inner more, more.length < before.length →
      Settles (fun text => bare (readMembers inner text)) more) :
    Settles (fun text => bare (readValue depth text)) before := by
  by_cases hmark : ∃ mark ∈ ['"', '\x7b', '['], before.head? = some mark
  · obtain ⟨mark, hmark, hhead⟩ := hmark
    obtain ⟨before, rfl⟩ := exists_cons_of_head? hhead
    have hfits : (skipSpace before).1.length < (mark :: before).length :=
      Nat.lt_succ_of_le (skipSpace before).2
    simp only [List.mem_cons, List.not_mem_nil, or_false] at hmark
    rcases hmark with rfl | rfl | rfl
    · exact ((settles_string before).map Json.string).of_eq fun rest =>
        bare_readValue_string depth _
    · cases depth with
      | zero => exact .same (.error .deepObject) fun rest => bare_readValue_deepObject _
      | succ inner =>
          exact (settles_enclosed (by decide) _ _ (hmembers inner _ hfits)).of_eq fun rest =>
            bare_readValue_object inner _
    · cases depth with
      | zero => exact .same (.error .deepList) fun rest => bare_readValue_deepList _
      | succ inner =>
          exact (settles_enclosed (by decide) _ _ (hitems inner _ hfits)).of_eq fun rest =>
            bare_readValue_array inner _
  · exact settles_word fun mark hmem hhead => hmark ⟨mark, hmem, hhead⟩

end Steps

/-- Values, lists and objects are settled before a sign, by induction on what stands before it. -/
theorem settles_all (before : List Char) (depth : Nat) :
    Settles (fun text => bare (readValue depth text)) before ∧
      Settles (fun text => bare (readItems depth text)) before ∧
      Settles (fun text => bare (readMembers depth text)) before := by
  induction hlength : before.length using Nat.strongRecOn generalizing before depth with
  | ind length ih =>
      subst hlength
      have hvalue : Settles (fun text => bare (readValue depth text)) before :=
        settles_readValue (fun inner more hmore => (ih _ hmore more inner rfl).2.1)
          (fun inner more hmore => (ih _ hmore more inner rfl).2.2)
      exact ⟨hvalue,
        settles_readItems hvalue fun more hmore => (ih _ hmore more depth rfl).2.1,
        settles_readMembers (fun more hmore => (ih _ hmore more depth rfl).1)
          (fun more hmore => (ih _ hmore more depth rfl).2.2)⟩

/-! ## Documents -/

theorem readWithin_eq (depth : Nat) (text : List Char) :
    readWithin depth text =
      (bare (readValue depth (skipSpace text).1)).bind fun found =>
        if (skipSpace found.2).1 = [] then .ok found.1
        else .error (.malformed .extraData (skipSpace found.2).1.length) := by
  unfold readWithin
  cases readValue depth (skipSpace text).1 <;> rfl

/-- A text with an equals sign in it is refused at the same place however it goes on after the sign,
or it is the start of a document. -/
theorem read_sign (depth : Nat) (before : List Char) :
    (∃ fault : ReadFault, ∀ rest,
        read depth (before ++ '=' :: rest) = .error (fault.shift rest.length)) ∨
      ∃ tail value, read depth (before ++ '=' :: tail) = .ok value := by
  by_cases hhead : before.head? = some (Char.ofNat 0xFEFF)
  · obtain ⟨before, rfl⟩ := exists_cons_of_head? hhead
    refine Or.inl
      ⟨.malformed .byteOrderMark ((Char.ofNat 0xFEFF :: before).length + 1), fun rest => ?_⟩
    rw [← ReadFault.malformed_sign]
    exact if_pos rfl
  have hread : ∀ rest, read depth (before ++ '=' :: rest) =
      readWithin depth (before ++ '=' :: rest) := fun rest =>
    if_neg (head?_sign (by decide) hhead rest)
  have hvalue := (settles_all (skipSpace before).1 depth).1.afterBlanks
  cases hvalue with
  | same outcome h =>
      cases outcome with
      | error fault =>
          refine Or.inl ⟨fault, fun rest => ?_⟩
          rw [hread, readWithin_eq]
          simp only [h]
          rfl
      | ok found =>
          refine Or.inl ⟨.malformed .extraData ((skipSpace found.2).1.length + 1), fun rest => ?_⟩
          rw [hread, readWithin_eq, ← ReadFault.malformed_sign, ← skipSpace_sign]
          simp only [h]
          apply if_neg
          show (skipSpace (found.2 ++ '=' :: rest)).1 ≠ []
          rw [skipSpace_sign]
          exact List.append_ne_nil_of_right_ne_nil _ (List.cons_ne_nil _ _)
  | goesOn tail value h =>
      refine Or.inr ⟨tail, value, ?_⟩
      have htail := h []
      rw [List.append_nil] at htail
      rw [hread, readWithin_eq]
      simp only [htail]
      rfl

/-- Two texts that are the same up to an equals sign, where no document of at most a depth starts in
this way. -/
def PartAtSign (depth : Nat) (text other : List Char) : Prop :=
  ∃ before rest rest', text = before ++ '=' :: rest ∧ other = before ++ '=' :: rest' ∧
    ∀ tail value, read depth (before ++ '=' :: tail) ≠ .ok value

namespace PartAtSign

variable {depth : Nat} {text other : List Char}

/-- Both are refused, with the same fault at the same place and in the same words. -/
theorem refused (h : PartAtSign depth text other) :
    ∃ (fault : ReadFault) (more more' : Nat), read depth text = .error (fault.shift more) ∧
      read depth other = .error (fault.shift more') ∧
      (fault.shift more').message other = (fault.shift more).message text := by
  obtain ⟨before, rest, rest', rfl, rfl, hnone⟩ := h
  rcases read_sign depth before with ⟨fault, hfault⟩ | ⟨tail, value, hread⟩
  · exact ⟨fault, rest.length, rest'.length, hfault rest, hfault rest',
      (fault.message_shift before rest').trans (fault.message_shift before rest).symm⟩
  · exact absurd hread (hnone tail value)

end PartAtSign

end Json

end CatalogClient
