/-
# Ordinary entries of settings files, read

A line that an ordinary entry was written as is read as the entry: the key ends at its first equals
sign, the value behind it is complete, and what stands between its quotes has no escapes. So a table
of ordinary entries is read from what it was written as.
-/

import CatalogClient.Proofs.Toml.Outline
import CatalogClient.Toml.File

namespace CatalogClient.Toml

variable {text : List Char}

/-! ## Texts -/

theorem endsInEscape_of_not_mem (hslash : '\\' ∉ text) : endsInEscape text = false := by
  have hnone : text.reverse.takeWhile (· = '\\') = [] := by
    cases hreverse : text.reverse with
    | nil => rfl
    | cons c rest =>
        have hc : c ≠ '\\' := by
          rintro rfl
          exact hslash (List.mem_reverse.mp (hreverse ▸ List.mem_cons_self))
        simp [hc]
  simp [endsInEscape, hnone]

theorem replaceEscapes_of_not_mem (hslash : '\\' ∉ text) : replaceEscapes text = .ok text := by
  induction text with
  | nil => rfl
  | cons c rest ih =>
      simp only [List.mem_cons, not_or] at hslash
      rw [replaceEscapes, ih hslash.2]
      · rfl
      · rintro _ _ rfl
        exact absurd rfl hslash.1

theorem readEscapes_of_not_mem (hslash : '\\' ∉ text) : readEscapes text = .ok text := by
  have hplace (letter : Char) (length : Nat) : placeCodePoints letter length text = .ok text := by
    unfold placeCodePoints
    rw [Text.splitAtAllMarks_of_not_mem hslash]
    simp [placeFrom, Except.map]
  unfold readEscapes
  rw [Text.partsBetween_of_not_mem hslash]
  simp only [List.drop_one, List.tail_cons, knowsEscapes, Bool.not_true, if_neg Bool.false_ne_true,
    hplace, replaceEscapes_of_not_mem hslash, bind, Except.bind]

theorem getLast?_quoted (text : List Char) : (quoted text).getLast? = some '"' :=
  List.getLast?_concat ..

theorem inner_quoted (text : List Char) : inner (quoted text) = text := by
  simp [inner, quoted]

section Quoting

variable (h : ∀ c ∈ text, IsOrdinary c)
include h

theorem isWhole_quoted : isWhole '"' (quoted text) = true := by
  have hparts : Text.partsBetween '"' ((quoted text).drop 1) = [text, []] := by
    show Text.partsBetween '"' (text ++ '"' :: []) = _
    rw [Text.partsBetween_append (doubleQuote_not_mem h)]
    rfl
  have hescape := endsInEscape_of_not_mem (backslash_not_mem h)
  unfold isWhole
  rw [hparts]
  cases text with
  | nil => rfl
  | cons c rest => simp [endsOnce, hescape]

theorem withoutQuotes_quoted : withoutQuotes '"' (quoted text) = text := by
  cases text with
  | nil => rfl
  | cons c rest =>
      have hc : c ≠ '"' := (h c List.mem_cons_self).2.1
      obtain ⟨next, more, hnext⟩ := List.exists_cons_of_ne_nil (l := rest ++ ['"']) (by simp)
      have hquoted : quoted (c :: rest) = '"' :: c :: next :: more := by
        rw [quoted, List.cons_append, List.cons_append, hnext]
      have hinner := inner_quoted (c :: rest)
      rw [hquoted] at hinner ⊢
      rw [withoutQuotes, if_neg fun hmarks => hc hmarks.1, hinner]

theorem readQuoted_quoted : readQuoted '"' (quoted text) = .ok text := by
  have hslash : '\\' ∉ quoted text := by
    simp [quoted, backslash_not_mem h]
  unfold readQuoted
  simp only [isWhole_quoted h, readEscapes_of_not_mem hslash, withoutQuotes_quoted h,
    Bool.not_true, if_neg Bool.false_ne_true, if_true, bind, Except.bind, pure, Except.pure]

end Quoting

/-! ## Values -/

theorem isBlank_quote : Text.isBlank '"' = false := by decide

theorem isTrimmed_quoted (text : List Char) : Text.IsTrimmed (quoted text) :=
  (Text.IsTrimmed.single isBlank_quote).append text (.single isBlank_quote)

theorem isTrimmed_list (items : List Char) : Text.IsTrimmed ('[' :: items ++ [']']) :=
  (Text.IsTrimmed.single (c := '[') (by decide)).append items (.single (by decide))

theorem WrittenAs.isTrimmed {value : Toml} (h : WrittenAs value text) : Text.IsTrimmed text := by
  cases h with
  | text ordinary => exact isTrimmed_quoted _
  | list ordinary => exact isTrimmed_list _

/-- A text of ordinary characters is read as it is. -/
theorem readValue_quoted {text : String} (h : IsOrdinaryText text) (room : Nat) (strict : Bool) :
    readValue (room + 1) strict (quoted text.toList) = .ok (.string text) := by
  have hread := readQuoted_quoted h
  rw [quoted, List.cons_append] at hread ⊢
  rw [readValue]
  · simp [isQuote, hread, Except.map]
  all_goals exact fun hmark => absurd hmark (by decide)

/-! ## Lists -/

/-- The items of a list between its commas, of which the last one is followed by nothing. -/
def itemParts (texts : List String) : List (List Char) :=
  texts.map (fun text => ' ' :: quoted text.toList) ++ [[]]

theorem partsBetween_quotedItems {texts : List String}
    (h : ∀ text ∈ texts, IsOrdinaryItem text) :
    Text.partsBetween ',' (quotedItems texts) = itemParts texts := by
  induction texts with
  | nil => rfl
  | cons text rest ih =>
      have hcomma : ',' ∉ ' ' :: quoted text.toList := by
        simp [quoted, (h text List.mem_cons_self).2]
      have hitems : quotedItems (text :: rest) =
          (' ' :: quoted text.toList) ++ ',' :: quotedItems rest := by
        simp [quotedItems]
      rw [hitems, Text.partsBetween_append hcomma,
        ih fun other hmem => h other (List.mem_cons_of_mem _ hmem)]
      rfl

/-- A quoted text is not put together with what follows it. -/
theorem completeText_quoted {text : List Char} (h : ∀ c ∈ text, IsOrdinary c)
    (next : List Char) (rest : List (List Char)) :
    completeText (' ' :: quoted text) (next :: rest) = .ok (' ' :: quoted text, next :: rest) := by
  have hbounded : isBounded (quoted text) = true := by
    have hescape := endsInEscape_of_not_mem (backslash_not_mem h)
    have hinner : ((quoted text).drop 1).dropLast = text := inner_quoted text
    rw [isBounded, getLast?_quoted, hinner, hescape]
    simp [quoted]
  have hlong : isLongOpen (quoted text) = false := by
    cases text with
    | nil => rfl
    | cons c rest =>
        have hc : '"' ≠ c := (h c List.mem_cons_self).2.1.symm
        unfold isLongOpen
        split
        · next a b _ _ _ _ _ _ hpart _ =>
            obtain ⟨rfl, rfl, -⟩ : '"' = a ∧ c = b ∧ _ := by simpa [quoted] using hpart
            simp [hc]
        · rfl
  rw [completeText, (isTrimmed_quoted text).trim_cons, hbounded, hlong]
  rfl

theorem completeTexts_itemParts {texts : List String} (h : ∀ text ∈ texts, IsOrdinaryItem text)
    {limit : Nat} (hlimit : texts.length ≤ limit) :
    completeTexts limit (itemParts texts) = .ok (itemParts texts) := by
  induction texts generalizing limit with
  | nil => cases limit <;> rfl
  | cons text rest ih =>
      cases limit with
      | zero => exact absurd hlimit (Nat.not_succ_le_zero _)
      | succ limit =>
          have hrest := ih (fun other hmem => h other (List.mem_cons_of_mem _ hmem))
            (Nat.le_of_succ_le_succ hlimit)
          obtain ⟨next, more, hparts⟩ : ∃ next more, itemParts rest = next :: more :=
            List.exists_cons_of_ne_nil (by simp [itemParts])
          have hcons : itemParts (text :: rest) = (' ' :: quoted text.toList) :: next :: more := by
            rw [← hparts]
            rfl
          rw [hcons, completeTexts, completeText_quoted (h text List.mem_cons_self).1]
          rw [hparts] at hrest
          simp only [hrest, bind, Except.bind, pure, Except.pure]

/-- A list of ordinary items is cut at its commas. -/
theorem cutItems_quotedItems {texts : List String} (h : ∀ text ∈ texts, IsOrdinaryItem text) :
    cutItems ('[' :: quotedItems texts ++ [']']) = .ok (itemParts texts) := by
  have hinner : inner ('[' :: quotedItems texts ++ [']']) = quotedItems texts := by
    simp [inner]
  have hparts := partsBetween_quotedItems h
  cases texts with
  | nil => rfl
  | cons text rest =>
      obtain ⟨more, hmore⟩ : ∃ more, quotedItems (text :: rest) = ' ' :: '"' :: more :=
        ⟨_, rfl⟩
      have hhead (more : List Char) : (Text.trim (' ' :: '"' :: more)).head? = some '"' :=
        Text.head?_trim [' '] (by simp [Text.isBlank_space]) isBlank_quote more
      have hlists : (Text.trim ((' ' :: '"' :: more).takeWhile (· ≠ '['))).isEmpty = false := by
        rw [List.takeWhile_cons_of_pos (by decide), List.takeWhile_cons_of_pos (by decide),
          List.isEmpty_eq_false_iff]
        intro hnone
        have htrim := hhead (more.takeWhile (· ≠ '['))
        rw [hnone] at htrim
        cases htrim
      have hstarts : startsWithText ('[' :: quotedItems (text :: rest) ++ [']']) = true := by
        rw [startsWithText, hinner, hmore, hhead]
        rfl
      have hlimit : (text :: rest).length ≤ (itemParts (text :: rest)).length := by
        simp [itemParts]
      have hcomplete := completeTexts_itemParts h hlimit
      unfold cutItems
      simp only [hinner, hstarts, hparts, hcomplete]
      rw [hmore, hlists, hhead, Bool.and_false, if_neg Bool.false_ne_true, if_neg (by decide)]
      rfl

/-- Quoted texts between blanks are the items of a list. -/
theorem readItems_quoted {texts : List String} (h : ∀ text ∈ texts, IsOrdinaryItem text)
    (room : Nat) (shape? : Option Shape) (hshape : ∀ shape ∈ shape?, shape = .string) :
    readItems (readValue (room + 1) true) shape? (itemParts texts) =
      .ok (texts.map .string) := by
  induction texts generalizing shape? with
  | nil => rfl
  | cons text rest ih =>
      have htrim := (isTrimmed_quoted text.toList).trim_cons
      have hempty : (quoted text.toList).isEmpty = false := rfl
      have hrest := ih (fun other hmem => h other (List.mem_cons_of_mem _ hmem))
        (some .string) (by simp)
      show readItems _ _ ((' ' :: quoted text.toList) :: itemParts rest) = _
      rw [readItems, htrim, hempty, if_neg Bool.false_ne_true]
      simp only [readValue_quoted (h text List.mem_cons_self).1, bind, Except.bind, shape, hrest]
      refine (if_neg ?_).trans rfl
      cases shape? with
      | none => simp
      | some shape => simp [hshape shape rfl]

/-- A value is read from what it is written as. -/
theorem readValue_written {value : Toml} (h : WrittenAs value text) (room : Nat) (strict : Bool) :
    readValue (room + 3) strict text = .ok value := by
  cases h with
  | text ordinary => exact readValue_quoted ordinary (room + 2) strict
  | @list texts ordinary =>
      have htrim := (isTrimmed_list (quotedItems texts)).trim_self
      have hitems := cutItems_quotedItems ordinary
      rw [List.cons_append] at htrim hitems ⊢
      rw [readValue]
      simp only [htrim, hitems, readItems_quoted ordinary room none (by simp), bind,
        Except.bind]
      rfl

/-! ## Entries -/

/-- What comes before the first double quote of a value. -/
theorem WrittenAs.exists_front {value : Toml} (h : WrittenAs value text) :
    ∃ front, (∀ c ∈ front, c ∈ ['[', ' ', ']']) ∧
      (text = front ∨ ∃ more, text = front ++ '"' :: more) := by
  cases h with
  | text ordinary => exact ⟨[], by simp, .inr ⟨_, rfl⟩⟩
  | @list texts ordinary =>
      cases texts with
      | nil => exact ⟨['[', ']'], by simp, .inl rfl⟩
      | cons text rest => exact ⟨['[', ' '], by simp, .inr ⟨_, rfl⟩⟩

/-- A text of ordinary characters ends in its line. -/
theorem goesOn_quoted (h : ∀ c ∈ text, IsOrdinary c) : goesOn (quoted text) = .ok false := by
  cases text with
  | nil => rfl
  | cons c rest =>
      have hc : c ≠ '"' := (h c List.mem_cons_self).2.1
      have hlong : ¬ (quoted (c :: rest)).length < 3 := by simp [quoted]
      have hopen : openPart (quoted (c :: rest)) = .ok (quoted (c :: rest)) := by
        simp [openPart, quoted]
      unfold goesOn
      rw [if_neg hlong, hopen]
      simp [quoted, isQuote, hc, bind, Except.bind, pure, Except.pure]

/-- A list ends in the line that its closing bracket stands in. -/
theorem goesOn_list (items : List Char) : goesOn ('[' :: items ++ [']']) = .ok false := by
  have hopen : openPart ('[' :: items ++ [']']) = .ok ('[' :: items ++ [']']) := by
    rw [openPart, List.getLast?_concat]
    simp
  unfold goesOn
  rw [hopen]
  split
  · rfl
  · simp [isQuote, bind, Except.bind, pure, Except.pure]

theorem WrittenAs.goesOn {value : Toml} (h : WrittenAs value text) :
    Toml.goesOn text = .ok false := by
  cases h with
  | text ordinary => exact goesOn_quoted ordinary
  | list ordinary => exact goesOn_list _

/-- What is not printable is nowhere in what a value is written as. -/
theorem WrittenAs.not_mem {value : Toml} (h : WrittenAs value text) {c : Char}
    (hc : Text.isPrintable c = false) : c ∉ text := by
  have hmark (mark : Char) (hmark : Text.isPrintable mark = true) : c ≠ mark := by
    rintro rfl
    exact Bool.false_ne_true (hc.symm.trans hmark)
  have hquoted {text : List Char} (h : ∀ c ∈ text, IsOrdinary c) : c ∉ quoted text := by
    simp [quoted, not_mem_of_not_printable h hc, hmark '"' (by decide)]
  cases h with
  | text ordinary => exact hquoted ordinary
  | @list texts ordinary =>
      have hitems : c ∉ quotedItems texts := by
        simp only [quotedItems, List.mem_flatMap, not_exists, not_and]
        intro text hmem
        simpa [hmark ' ' (by decide), hmark ',' (by decide)] using hquoted (ordinary text hmem).1
      simp [hitems, hmark '[' (by decide), hmark ']' (by decide)]

/-! ## Lines -/

theorem partsAtQuotes_of_not_mem {front : List Char} (hdouble : '"' ∉ front)
    (hsingle : '\'' ∉ front) : partsAtQuotes front = [front] := by
  unfold partsAtQuotes
  rw [Text.partsBetween_of_not_mem hdouble]
  simp [cutFirst, Text.partsBetween_of_not_mem hsingle]

theorem partsAtQuotes_append {front : List Char} (hdouble : '"' ∉ front)
    (hsingle : '\'' ∉ front) (more : List Char) :
    partsAtQuotes (front ++ '"' :: more) = front :: Text.partsBetween '"' more := by
  obtain ⟨second, rest, hmore⟩ :=
    List.exists_cons_of_ne_nil (Text.partsBetween_ne_nil '"' more)
  have hnone : front.contains '\'' = false := by simpa using hsingle
  unfold partsAtQuotes
  rw [Text.partsBetween_append hdouble, hmore]
  simp only [hnone, if_neg Bool.false_ne_true, cutFirst, Text.partsBetween_of_not_mem hsingle,
    List.singleton_append]

theorem IsPlainKey.isTrimmed {key : String} (h : IsPlainKey key) : Text.IsTrimmed key.toList :=
  .of_forall h.1 fun c hmem => isBlank_of_isPlainKeyChar (h.2 c hmem)

namespace Line

variable (line : Line)

theorem chars_eq : line.chars = (line.key.toList ++ [' ']) ++ '=' :: ' ' :: line.text := by
  simp [chars]

theorem equals_not_mem : '=' ∉ line.key.toList ++ [' '] := by
  simp [line.isPlainKey.not_mem (c := '=') (by decide)]

/-- The first part of a line at its quotes is what comes before them, with one equals sign. -/
theorem partsAtQuotes_chars : ∃ front rest, '=' ∉ ' ' :: front ∧
    partsAtQuotes line.chars = ((line.key.toList ++ [' ']) ++ '=' :: ' ' :: front) :: rest := by
  obtain ⟨front, hfront, htext⟩ := line.isWritten.exists_front
  have hnone {c : Char} (hc : c ∉ ['[', ' ', ']']) : c ∉ front := fun hmem =>
    hc (hfront c hmem)
  have hdouble : '"' ∉ (line.key.toList ++ [' ']) ++ '=' :: ' ' :: front := by
    simp [line.isPlainKey.not_mem (c := '"') (by decide), hnone (c := '"') (by decide)]
  have hsingle : '\'' ∉ (line.key.toList ++ [' ']) ++ '=' :: ' ' :: front := by
    simp [line.isPlainKey.not_mem (c := '\'') (by decide), hnone (c := '\'') (by decide)]
  have hequals : '=' ∉ ' ' :: front := by
    simp [hnone (c := '=') (by decide)]
  rw [chars_eq]
  rcases htext with htext | ⟨more, htext⟩
  · rw [htext]
    exact ⟨front, [], hequals, partsAtQuotes_of_not_mem hdouble hsingle⟩
  · refine ⟨front, Text.partsBetween '"' more, hequals, ?_⟩
    rw [htext, ← List.cons_append, ← List.cons_append, ← List.append_assoc]
    exact partsAtQuotes_append hdouble hsingle more

/-- The equals sign behind the key is the first one outside of quotes. -/
theorem placeOutside_chars : placeOutside ['='] false (partsAtQuotes line.chars) = 1 := by
  obtain ⟨front, rest, hequals, hparts⟩ := line.partsAtQuotes_chars
  rw [hparts, placeOutside, Text.splitAtAllMarks_once line.equals_not_mem hequals]
  rfl

/-- A line is cut at the equals sign behind its key. -/
theorem cutEntry_chars : ∃ strict,
    cutEntry line.chars = .ok (line.key.toList, line.text, strict) := by
  have hsplit : Text.splitAtMarks ['='] 1 line.chars =
      [line.key.toList ++ [' '], ' ' :: line.text] := by
    rw [chars_eq, Text.splitAtMarks_one line.equals_not_mem]
  have hafter : afterEquals 1 line.chars = ' ' :: line.text := by
    rw [afterEquals, hsplit]
    rfl
  have hcan : canBeValue (' ' :: line.text) = .ok true := rfl
  have hdigit : Text.isUsualDigit ' ' = false := by decide
  have hkey := line.isPlainKey.isTrimmed.trim_concat
  have htext := line.isWritten.isTrimmed.trim_cons
  refine ⟨isStrict (' ' :: line.text), ?_⟩
  have hjoined : ['='].intercalate [line.key.toList ++ [' ']] = line.key.toList ++ [' '] := by
    simp [List.intercalate]
  unfold cutEntry
  simp only [placeOutside_chars, hafter, List.head?_cons, Option.any_some, hdigit,
    if_neg Bool.false_ne_true, settleEquals, hcan, bind, Except.bind, if_true, hsplit, htext,
    List.dropLast, hjoined, hkey, pure, Except.pure]

theorem readKey_key : readKey line.key.toList = .ok ([], line.key) := by
  have hpoint : line.key.toList.contains '.' = false := by
    simpa using line.isPlainKey.not_mem (c := '.') (by decide)
  unfold readKey
  rw [hpoint, if_neg Bool.false_ne_true]
  cases hkey : line.key.toList with
  | nil => exact absurd hkey line.isPlainKey.1
  | cons first rest =>
      have hmem : first ∈ line.key.toList := hkey ▸ List.mem_cons_self
      have hquote : isQuote first = false := by
        have hdouble : first ≠ '"' := line.isPlainKey.ne hmem (by decide)
        have hsingle : first ≠ '\'' := line.isPlainKey.ne hmem (by decide)
        simp [isQuote, hdouble, hsingle]
      simp only [hquote, Bool.false_and, if_neg Bool.false_ne_true]
      rw [← hkey, String.ofList_toList]

/-- The entry of a line is put at the end of a table that lacks its key. -/
theorem step_chars {entries : Keyed Toml} (hnew : entries.lookup line.key = none) :
    Building.step { root := .table entries } line.chars =
      .ok { root := .table (entries ++ [line.entry]) } := by
  have htrim : Text.trim line.chars = line.chars :=
    (line.isPlainKey.isTrimmed.append _ line.isWritten.isTrimmed).trim_self
  have hentry : addEntry (readValue (deepestValue - 1)) line.chars (.table entries) =
      .ok (.table (entries ++ [line.entry]), none) := by
    obtain ⟨strict, hcut⟩ := line.cutEntry_chars
    have hread : readValue (deepestValue - 1) strict line.text = .ok line.value :=
      readValue_written line.isWritten 985 strict
    unfold addEntry
    simp only [hcut, line.readKey_key, changeWithin, line.isWritten.goesOn, hread, putNew, hnew,
      bind, Except.bind, pure, Except.pure]
    rfl
  have hequals : line.chars.contains '=' = true := by simp [chars]
  cases hkey : line.key.toList with
  | nil => exact absurd hkey line.isPlainKey.1
  | cons first rest =>
      have hmem : first ∈ line.key.toList := hkey ▸ List.mem_cons_self
      have hbracket : first ≠ '[' := line.isPlainKey.ne hmem (by decide)
      have hbrace : first ≠ '\x7b' := line.isPlainKey.ne hmem (by decide)
      have hchars : line.chars = first :: (rest ++ " = ".toList ++ line.text) := by
        rw [chars, hkey]
        rfl
      show Building.addLine _ (Text.trim line.chars) = _
      rw [htrim]
      rw [hchars] at hentry hequals ⊢
      unfold Building.addLine Building.changeCurrent
      simp only [if_neg hbracket, if_neg hbrace, if_pos hequals, changeAt, hentry, Except.map]

theorem not_mem_chars {c : Char} (hkey : isPlainKeyChar c = false)
    (hc : Text.isPrintable c = false) : c ∉ line.chars := by
  have hmiddle : c ∉ " = ".toList := by
    intro hmem
    have hprintable : " = ".toList.all Text.isPrintable = true := by decide
    exact Bool.false_ne_true (hc.symm.trans (List.all_eq_true.mp hprintable c hmem))
  unfold chars
  simp only [List.mem_append, not_or]
  exact ⟨⟨line.isPlainKey.not_mem hkey, hmiddle⟩, line.isWritten.not_mem hc⟩

theorem return_not_mem_charsOf (lines : List Line) : '\x0d' ∉ charsOf lines := by
  simp only [charsOf, List.mem_flatMap, not_exists, not_and]
  intro line _
  simp [line.not_mem_chars (c := '\x0d') (by decide) (by decide)]

theorem partsBetween_charsOf (lines : List Line) :
    Text.partsBetween '\n' (charsOf lines) = lines.map chars ++ [[]] := by
  induction lines with
  | nil => rfl
  | cons line rest ih =>
      have hcons : charsOf (line :: rest) = line.chars ++ '\n' :: charsOf rest := by
        simp [charsOf]
      rw [hcons, Text.partsBetween_append (line.not_mem_chars (by decide) (by decide)), ih]
      rfl

/-- Every line adds its entry. What follows the last line end is empty and adds nothing. -/
theorem foldlM_step (lines : List Line) (entries : Keyed Toml)
    (hkeys : (entries.keys ++ lines.map key).Nodup) :
    (lines.map chars ++ [[]]).foldlM Building.step { root := .table entries } =
      .ok { root := .table (entries ++ lines.map entry) } := by
  induction lines generalizing entries with
  | nil =>
      rw [List.map_nil, List.map_nil, List.append_nil]
      rfl
  | cons line rest ih =>
      have hnew : entries.lookup line.key = none := by
        rw [List.lookup_eq_none_iff]
        intro entry hmem
        have hdisjoint := (List.nodup_append.mp hkeys).2.2 entry.1 (List.mem_map_of_mem hmem)
          line.key List.mem_cons_self
        simpa using hdisjoint.symm
      have hrest := ih (entries ++ [line.entry]) (by simpa [Keyed.keys, entry] using hkeys)
      rw [List.map_cons, List.cons_append, List.foldlM_cons, step_chars line hnew]
      refine hrest.trans ?_
      simp

end Line

/-- Lines of entries with keys of their own are read as these entries. -/
theorem readFile_lines (lines : List Line) (hkeys : (lines.map Line.key).Nodup) :
    readFile (Line.charsOf lines) = .ok (lines.map Line.entry) := by
  have hsteps := Line.foldlM_step lines [] (by simpa [Keyed.keys] using hkeys)
  unfold readFile
  rw [outline_lines]
  simp only [Line.partsBetween_charsOf, hsteps, bind, Except.bind]
  rfl

/-! ## Tables -/

/-- An entry that is written as one line. -/
def IsOrdinaryEntry (entry : String × Toml) : Prop :=
  IsPlainKey entry.1 ∧ ∃ text, WrittenAs entry.2 text

theorem exists_lines {entries : Keyed Toml} (h : ∀ entry ∈ entries, IsOrdinaryEntry entry) :
    ∃ lines : List Line, lines.map Line.entry = entries := by
  induction entries with
  | nil => exact ⟨[], rfl⟩
  | cons entry rest ih =>
      obtain ⟨hkey, text, hwritten⟩ := h entry List.mem_cons_self
      obtain ⟨lines, rfl⟩ := ih fun other hmem => h other (List.mem_cons_of_mem _ hmem)
      exact ⟨⟨entry.1, entry.2, text, hkey, hwritten⟩ :: lines, rfl⟩

/-- A table of ordinary entries can be written, and it is read from its text again. The text keeps
its line ends. -/
theorem readFile_printFile {entries : Keyed Toml} (h : ∀ entry ∈ entries, IsOrdinaryEntry entry)
    (hkeys : entries.keys.Nodup) :
    ∃ text, printFile entries = .ok text ∧ readFile text = .ok entries ∧ '\x0d' ∉ text := by
  obtain ⟨lines, rfl⟩ := exists_lines h
  rw [Keyed.keys, List.map_map] at hkeys
  exact ⟨Line.charsOf lines, Line.printFile_entries lines, readFile_lines lines hkeys,
    Line.return_not_mem_charsOf lines⟩

end CatalogClient.Toml
