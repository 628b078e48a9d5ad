/-
# Placeholders of whole addresses

Every query component ends with a closing brace, so a component does not reach into the next one:
the placeholders of an address are those of its path, and then those of its components one by one.
Only the path may leave a brace open, and then the first component stands inside of it.
-/

import CatalogClient.TypeScript.Url
import CatalogClient.Proofs.Text.Matching

namespace CatalogClient.Url

/-- What sets off the next component of an address. -/
def separator (text : String) : String :=
  if text.toList.contains '?' then "&" else "?"

theorem isInside_of_mem_separator {text : String} :
    ∀ c ∈ (separator text).toList, Text.IsInside c := by
  apply Text.isInside_of_all
  unfold separator
  split <;> decide

theorem not_mem_separator (text : String) : '\x7b' ∉ (separator text).toList := by
  unfold separator
  split <;> decide

theorem closed_component (text key placeholder : String) :
    Text.Closed (text ++ component key placeholder).toList := by
  have hend : (text ++ component key placeholder).toList =
      (text ++ key ++ "=\x7b" ++ placeholder).toList ++ ['\x7d'] := by
    simp [component]
  rw [hend]
  exact Text.closed_append _ (by decide)

/-- A component reads as its placeholder between braces if its key opens none. -/
theorem placeholders_component {key : String} (h : '\x7b' ∉ key.toList) (placeholder : String) :
    Text.placeholders (component key placeholder) =
      Text.placeholders ("\x7b" ++ placeholder ++ "\x7d") := by
  have hsplit : (component key placeholder).toList =
      (key ++ "=").toList ++ ("\x7b" ++ placeholder ++ "\x7d").toList := by
    simp [component]
  have hstart : '\x7b' ∉ (key ++ "=").toList := by simpa using h
  rw [Text.placeholders_eq, Text.placeholders_eq, hsplit, Text.slotNames_pieces_skip hstart]

/-- A text with neither of the braces. -/
def IsPlain (text : String) : Prop :=
  '\x7b' ∉ text.toList ∧ '\x7d' ∉ text.toList

instance (text : String) : Decidable (IsPlain text) :=
  inferInstanceAs (Decidable (_ ∧ _))

theorem IsPlain.isInside {text : String} (h : IsPlain text) (hbreak : '\n' ∉ text.toList) :
    ∀ c ∈ text.toList, Text.IsInside c := by
  rintro c hc
  constructor
  · rintro rfl
    exact h.2 hc
  · rintro rfl
    exact hbreak hc

/-- The component of a plain key that is its own placeholder. -/
theorem placeholders_component_self {key : String} (h : IsPlain key) :
    Text.placeholders (component key key) = if '\n' ∈ key.toList then [] else [key] := by
  have hbraces : ("\x7b" ++ key ++ "\x7d").toList = '\x7b' :: key.toList ++ ['\x7d'] := by simp
  rw [placeholders_component h.1, Text.placeholders_eq, hbraces]
  split
  · next hbreak => rw [Text.slotNames_pieces_break h.1 h.2 hbreak, List.map_nil]
  · next hbreak =>
      rw [Text.slotNames_pieces_braces (h.isInside hbreak), List.map_singleton,
        String.ofList_toList]

/-- The placeholders of some query components, each by itself. -/
def componentPlaceholders (query : List (String × String)) : List String :=
  query.flatMap fun entry => Text.placeholders (component entry.1 entry.2)

theorem componentPlaceholders_cons (entry : String × String) (rest : List (String × String)) :
    componentPlaceholders (entry :: rest) =
      Text.placeholders (component entry.1 entry.2) ++ componentPlaceholders rest :=
  List.flatMap_cons

/-- The placeholders that stand in the query of an address, where the first component also has what
the path leaves open in front of it. -/
def queryPlaceholders (url : Url) : List String :=
  match url.query with
  | [] => []
  | first :: rest =>
      Text.placeholders (String.ofList (Text.openPart url.path.toList) ++ separator url.path
        ++ component first.1 first.2) ++ componentPlaceholders rest

theorem placeholders_extend (text : String) (entry : String × String) :
    Text.placeholders (extend text entry) = Text.placeholders text ++
      Text.placeholders (String.ofList (Text.openPart text.toList) ++ separator text
        ++ component entry.1 entry.2) := by
  have hsplit : (extend text entry).toList =
      text.toList ++ (separator text ++ component entry.1 entry.2).toList := by
    simp [extend, separator]
  rw [Text.placeholders_eq, hsplit, Text.slotNames_pieces_append, List.map_append,
    ← Text.placeholders_eq, Text.placeholders_eq (_ ++ _ ++ _)]
  simp

theorem closed_extend (text : String) (entry : String × String) :
    Text.Closed (extend text entry).toList :=
  closed_component _ _ _

theorem placeholders_separator (text key placeholder : String) :
    Text.placeholders (separator text ++ component key placeholder) =
      Text.placeholders (component key placeholder) := by
  rw [Text.placeholders_eq, Text.placeholders_eq, String.toList_append,
    Text.slotNames_pieces_skip (not_mem_separator text)]

theorem placeholders_extend_of_closed {text : String} (h : Text.Closed text.toList)
    (entry : String × String) :
    Text.placeholders (extend text entry) =
      Text.placeholders text ++ Text.placeholders (component entry.1 entry.2) := by
  rw [placeholders_extend, Text.openPart_of_closed h, String.ofList_nil, String.empty_append,
    placeholders_separator]

theorem placeholders_foldl_extend {text : String} (h : Text.Closed text.toList)
    (query : List (String × String)) :
    Text.placeholders (query.foldl extend text) =
      Text.placeholders text ++ componentPlaceholders query := by
  induction query generalizing text with
  | nil => simp [componentPlaceholders]
  | cons entry rest ih =>
      rw [List.foldl_cons, ih (closed_extend text entry), placeholders_extend_of_closed h,
        componentPlaceholders_cons, List.append_assoc]

/-- The placeholders of an address: those of its path first, and nothing behind the path takes one
away. -/
theorem placeholders_render (url : Url) :
    Text.placeholders url.render = url.placeholders ++ url.queryPlaceholders := by
  unfold render queryPlaceholders placeholders
  cases url.query with
  | nil => simp
  | cons first rest =>
      rw [List.foldl_cons, placeholders_foldl_extend (closed_extend url.path first),
        placeholders_extend, List.append_assoc]

/-- An address and its form inside a template literal have the same parts. The placeholders are
marked in it, and nothing else is changed. -/
theorem exists_parts (url : Url) :
    ∃ parts : List Text.Piece,
      url.render.toList = parts.flatMap Text.Piece.chars ∧
      url.interpolated.toList = parts.flatMap Text.Piece.marked ∧
      Text.placeholders url.render = (Text.slotNames parts).map String.ofList :=
  ⟨Text.pieces url.render.toList, (Text.flatMap_chars_pieces _).symm, String.toList_ofList,
    Text.placeholders_eq _⟩

theorem queryPlaceholders_of_closed {url : Url} (h : Text.Closed url.path.toList) :
    url.queryPlaceholders = componentPlaceholders url.query := by
  unfold queryPlaceholders
  cases url.query with
  | nil => rfl
  | cons first rest =>
      simp only [Text.openPart_of_closed h, String.ofList_nil, String.empty_append,
        placeholders_separator]
      rfl

section Open

variable {url : Url} {before read : List Char} {first : String × String}
  {rest : List (String × String)} (hpath : url.path.toList = before ++ '\x7b' :: read)
  (hbefore : Text.Closed before) (hread : ∀ c ∈ read, Text.IsInside c)
  (hquery : url.query = first :: rest)
include hpath hbefore hread hquery

/-- Where the path leaves a brace open, the brace of the first component closes it, and all that
stands between them is the name of a placeholder. -/
theorem queryPlaceholders_of_open (hkey : ∀ c ∈ first.1.toList, Text.IsInside c)
    (hname : ∀ c ∈ first.2.toList, Text.IsInside c) :
    url.queryPlaceholders =
      (String.ofList read ++ separator url.path ++ first.1 ++ "=\x7b" ++ first.2) ::
        componentPlaceholders rest := by
  have hinside : ∀ c ∈ (String.ofList read ++ separator url.path ++ first.1 ++ "=\x7b"
      ++ first.2).toList, Text.IsInside c := by
    intro c hc
    simp only [String.toList_append, String.toList_ofList, List.mem_append] at hc
    rcases hc with (((hc | hc) | hc) | hc) | hc
    · exact hread c hc
    · exact isInside_of_mem_separator c hc
    · exact hkey c hc
    · exact @Text.isInside_of_all "=\x7b".toList (by decide) c hc
    · exact hname c hc
  have htext : (String.ofList (Text.openPart url.path.toList) ++ separator url.path
      ++ component first.1 first.2).toList = '\x7b' :: (String.ofList read ++ separator url.path
        ++ first.1 ++ "=\x7b" ++ first.2).toList ++ ['\x7d'] := by
    rw [hpath, Text.openPart_of_open hbefore hread]
    simp [component]
  unfold queryPlaceholders
  rw [hquery]
  simp only
  rw [Text.placeholders_eq, htext, Text.slotNames_pieces_braces hinside, List.map_singleton,
    String.ofList_toList, List.singleton_append]

/-- A line break in the key leaves both the open brace and that of the component plain. -/
theorem queryPlaceholders_of_break (hplain : IsPlain first.1) (hbreak : '\n' ∈ first.1.toList)
    (hself : first.2 = first.1) : url.queryPlaceholders = componentPlaceholders rest := by
  obtain ⟨start, last, hkey⟩ := List.append_of_mem hbreak
  have htext : (String.ofList (Text.openPart url.path.toList) ++ separator url.path
      ++ component first.1 first.2).toList =
        ('\x7b' :: read ++ (separator url.path).toList ++ start ++ ['\n']) ++
          ((last ++ ['=']) ++ ('\x7b' :: first.1.toList ++ ['\x7d'])) := by
    rw [hpath, Text.openPart_of_open hbefore hread, hself]
    simp [component, hkey]
  have hstart : '\x7d' ∉ '\x7b' :: read ++ (separator url.path).toList ++ start ++ ['\n'] := by
    have hopen : '\x7d' ∉ read := fun hmem => (hread _ hmem).1 rfl
    have hseparator : '\x7d' ∉ (separator url.path).toList :=
      fun hmem => (isInside_of_mem_separator _ hmem).1 rfl
    have hbegin : '\x7d' ∉ start := fun hmem => hplain.2 (by simp [hkey, hmem])
    simp [hopen, hseparator, hbegin]
  have hlast : '\x7b' ∉ last ++ ['='] := by
    have hend : '\x7b' ∉ last := fun hmem => hplain.1 (by simp [hkey, hmem])
    simp [hend]
  unfold queryPlaceholders
  rw [hquery]
  simp only
  rw [Text.placeholders_eq, htext,
    Text.slotNames_pieces_append_of_closed (Text.closed_append _ (by decide)),
    Text.slotNames_pieces_skip hlast, Text.slotNames_pieces_break hplain.1 hplain.2 hbreak]
  unfold Text.pieces
  rw [Text.slotNames_piecesFrom_of_not_closing hstart]
  rfl

end Open

/-- Further components leave the placeholders of an address as they are, in front of their own. -/
theorem placeholders_prefix_foldl_extend (text : String) (query : List (String × String)) :
    Text.placeholders text <+: Text.placeholders (query.foldl extend text) := by
  induction query generalizing text with
  | nil => exact List.prefix_refl _
  | cons entry rest ih =>
      have hfirst : Text.placeholders text <+: Text.placeholders (extend text entry) :=
        ⟨_, (placeholders_extend text entry).symm⟩
      exact hfirst.trans (ih (extend text entry))

theorem placeholders_interpolated (url : Url) :
    Text.placeholders url.interpolated = Text.placeholders url.render := by
  have hreads := Text.reads_pieces url.render.toList
  have hmarked : Text.Reads url.interpolated.toList
      ((Text.pieces url.render.toList).flatMap Text.Piece.markedParts) := by
    rw [interpolated, Text.interpolate, String.toList_ofList]
    exact hreads.marked
  rw [hmarked.placeholders, Text.slotNames_markedParts, hreads.placeholders]

/-- The address in a template literal is the address with a dollar sign before each match of the
placeholder pattern, and nothing else about it is changed. The matches in it are the same, in the
same order, and nothing more. Those of the path are the first of them, and further query components
alter, drop or reorder none of them. -/
theorem interpolation_marks_placeholders (url : Url) :
    (∃ parts,
      (∀ others, Text.Reads url.render.toList others ↔ others = parts) ∧
      url.render.toList = parts.flatMap Text.Piece.chars ∧
      url.interpolated.toList = parts.flatMap Text.Piece.marked ∧
      (∀ others, Text.Reads url.interpolated.toList others ↔
        others = parts.flatMap Text.Piece.markedParts) ∧
      Text.placeholders url.render = (Text.slotNames parts).map String.ofList) ∧
    Text.placeholders url.interpolated = Text.placeholders url.render ∧
    (∀ own, Text.Reads url.path.toList own →
      url.placeholders = (Text.slotNames own).map String.ofList) ∧
    url.placeholders <+: Text.placeholders url.render ∧
    ∀ more, Text.placeholders url.render <+:
      Text.placeholders { url with query := url.query ++ more }.render := by
  have hreads := Text.reads_pieces url.render.toList
  have hmarked : url.interpolated.toList =
      (Text.pieces url.render.toList).flatMap Text.Piece.marked := String.toList_ofList
  refine ⟨⟨Text.pieces url.render.toList, fun others => Text.reads_iff, hreads.flatMap_chars.symm,
    hmarked, fun others => ?_, hreads.placeholders⟩, placeholders_interpolated url,
    fun own hown => hown.placeholders, ⟨_, (placeholders_render url).symm⟩, fun more => ?_⟩
  · rw [hmarked, Text.reads_iff, Text.reads_iff.mp hreads.marked]
  · rw [render, render, List.foldl_append]
    exact placeholders_prefix_foldl_extend _ more

end CatalogClient.Url
