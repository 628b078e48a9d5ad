/-
# Names of path texts

A path text is a list of names between slashes. Joined texts have the names of both, the text of a
directory has the first names of what is in it, and the names are followed one after the other: a
step up takes back the last one, and a single dot stays.
-/

import CatalogClient.Storage.PathText

namespace CatalogClient

namespace PathText

section Following

/-- Where a name leads from a place. -/
def step (place : List String) (name : String) : List String :=
  if name = "." then place else if name = ".." then place.dropLast else place ++ [name]

/-- Where names lead from a place, one after the other. -/
def follow (start names : List String) : List String :=
  names.foldl step start

theorem follow_append (start names others : List String) :
    follow start (names ++ others) = follow (follow start names) others :=
  List.foldl_append

/-- Names without a step up never leave the place at which they start. -/
theorem prefix_follow {start names : List String} (h : ".." ∉ names) :
    start <+: follow start names := by
  induction names generalizing start with
  | nil => exact List.prefix_refl start
  | cons name rest ih =>
      obtain ⟨hname, hrest⟩ := not_or.mp (mt List.mem_cons.mpr h)
      refine List.IsPrefix.trans ?_ (ih hrest)
      unfold step
      rw [if_neg (Ne.symm hname)]
      split
      · exact List.prefix_refl start
      · exact List.prefix_append start [name]

/-- A single dot stays. -/
theorem follow_of_prefix_dot {start names : List String} (h : names <+: ["."]) :
    follow start names = start := by
  rcases List.prefix_cons_iff.mp h with rfl | ⟨rest, rfl, hrest⟩
  · rfl
  · rw [List.prefix_nil.mp hrest]
    rfl

end Following

section Names

theorem splitChars_ne_nil (text : List Char) : splitChars text ≠ [] := by
  cases text with
  | nil => exact List.cons_ne_nil _ _
  | cons c rest =>
      unfold splitChars
      split
      · exact List.cons_ne_nil _ _
      · split
        · exact List.cons_ne_nil _ _
        · exact List.cons_ne_nil _ _

/-- The parts around a slash are split on their own. -/
theorem splitChars_append (before after : List Char) :
    splitChars (before ++ '/' :: after) = splitChars before ++ splitChars after := by
  induction before with
  | nil => simp [splitChars]
  | cons c rest ih =>
      rw [List.cons_append, splitChars, splitChars, ih]
      split
      · rfl
      · cases hparts : splitChars rest with
        | nil => exact absurd hparts (splitChars_ne_nil rest)
        | cons part parts => rfl

theorem splitChars_of_not_mem {text : List Char} (h : '/' ∉ text) : splitChars text = [text] := by
  induction text with
  | nil => rfl
  | cons c rest ih =>
      obtain ⟨hc, hrest⟩ := not_or.mp (mt List.mem_cons.mpr h)
      rw [splitChars, if_neg (Ne.symm hc), ih hrest]

/-- The names around a slash. -/
theorem names_of_slash {text : String} {before after : List Char}
    (h : text.toList = before ++ '/' :: after) :
    names text = names (String.ofList before) ++ names (String.ofList after) := by
  simp only [names, h, String.toList_ofList, splitChars_append, List.map_append,
    List.filter_append]

/-- A text without slashes is the only name of its path. -/
theorem names_of_not_mem {text : String} (hname : text ≠ "") (hslash : '/' ∉ text.toList) :
    names text = [text] := by
  rw [names, splitChars_of_not_mem hslash]
  simp [hname]

theorem isAbsolute_of_not_mem {text : String} (hslash : '/' ∉ text.toList) :
    isAbsolute text = false :=
  decide_eq_false fun hhead => hslash (List.mem_of_mem_head? hhead)

theorem names_empty : names "" = [] := by
  decide

/-- Slashes at the end of a path add no name. -/
theorem names_append_slashes (before : List Char) (count : Nat) :
    names (String.ofList (before ++ List.replicate count '/')) = names (String.ofList before) := by
  induction count with
  | zero => rw [List.replicate_zero, List.append_nil]
  | succ count ih =>
      rw [List.replicate_succ', ← List.append_assoc, names_of_slash String.toList_ofList, ih]
      exact List.append_nil _

theorem isAbsolute_of_append {text : String} {before after : List Char}
    (h : text.toList = before ++ after) (hbefore : before ≠ []) :
    isAbsolute text = isAbsolute (String.ofList before) := by
  obtain ⟨c, rest, rfl⟩ := List.exists_cons_of_ne_nil hbefore
  unfold isAbsolute
  rw [h, String.toList_ofList]
  rfl

/-- A path that starts at the root is joined to nothing. -/
theorem join_of_isAbsolute (directory : String) {name : String} (h : isAbsolute name = true) :
    join directory name = name :=
  if_pos (of_decide_eq_true h)

/-- A joined path has the names of both its parts and starts where the first one does. -/
theorem names_join (directory : String) {name : String} (h : isAbsolute name = false) :
    names (join directory name) = names directory ++ names name ∧
      isAbsolute (join directory name) = isAbsolute directory := by
  unfold join
  rw [if_neg (of_decide_eq_false h)]
  split
  · next hdirectory =>
      rcases hdirectory with rfl | hend
      · rw [String.empty_append]
        exact ⟨by rw [names_empty, List.nil_append], h⟩
      · obtain ⟨before, hsplit⟩ := List.getLast?_eq_some_iff.mp hend
        have htext : (directory ++ name).toList = before ++ '/' :: name.toList := by
          rw [String.toList_append, hsplit, List.append_assoc]
          rfl
        have hdirectory : names directory = names (String.ofList before) := by
          rw [← @String.ofList_toList directory, hsplit]
          exact names_append_slashes before 1
        constructor
        · rw [names_of_slash htext, hdirectory, String.ofList_toList]
        · rw [isAbsolute_of_append String.toList_append, String.ofList_toList]
          rw [hsplit]
          exact List.append_ne_nil_of_right_ne_nil _ (List.cons_ne_nil _ _)
  · next hdirectory =>
      obtain ⟨hempty, -⟩ := not_or.mp hdirectory
      have htext : (directory ++ "/" ++ name).toList = directory.toList ++ '/' :: name.toList := by
        simp
      constructor
      · rw [names_of_slash htext, String.ofList_toList, String.ofList_toList]
      · rw [isAbsolute_of_append htext (mt String.toList_eq_nil_iff.mp hempty),
          String.ofList_toList]

/-- What stands before the last part ends in a slash, if there is anything. -/
theorem splitLast_fst (text : List Char) :
    (splitLast text).1 = [] ∨ ∃ before, (splitLast text).1 = before ++ ['/'] := by
  induction text with
  | nil => exact Or.inl rfl
  | cons c rest ih =>
      unfold splitLast
      split
      · split
        · next hc => exact Or.inr ⟨[], by rw [hc]; rfl⟩
        · exact Or.inl rfl
      · next head tail hnonempty hsplit =>
          rw [hsplit] at ih
          rcases ih with hhead | ⟨before, hhead⟩
          · exact absurd hhead hnonempty
          · exact Or.inr ⟨c :: before, congrArg (List.cons c) hhead⟩

/-- The last part has no slash. -/
theorem not_mem_splitLast_snd (text : List Char) : '/' ∉ (splitLast text).2 := by
  induction text with
  | nil => exact List.not_mem_nil
  | cons c rest ih =>
      unfold splitLast
      split
      · next tail hsplit =>
          rw [hsplit] at ih
          split
          · exact ih
          · next hc => exact fun hmem => (List.mem_cons.mp hmem).elim (Ne.symm hc) ih
      · next hsplit =>
          rw [hsplit] at ih
          exact ih

theorem exists_trimSlashes (text : List Char) :
    ∃ count, text = trimSlashes text ++ List.replicate count '/' := by
  induction text with
  | nil => exact ⟨0, rfl⟩
  | cons c rest ih =>
      obtain ⟨count, hrest⟩ := ih
      unfold trimSlashes
      split
      · next hempty =>
          rw [hempty, List.nil_append] at hrest
          split
          · next hc => exact ⟨count + 1, by rw [hc, hrest, List.replicate_succ]; simp⟩
          · exact ⟨count, by rw [hrest]; simp⟩
      · exact ⟨count, by rw [List.cons_append, ← hrest]⟩

/-- The text of a directory is what stands before the last part, up to slashes at the end. -/
theorem exists_directory (text : String) : ∃ count,
    (splitLast text.toList).1 = (directory text).toList ++ List.replicate count '/' ∧
      (directory text = "" → (splitLast text.toList).1 = []) := by
  obtain ⟨count, htrimmed⟩ := exists_trimSlashes (splitLast text.toList).1
  unfold directory split
  dsimp only
  split
  · exact ⟨0, by simp, fun h => by simpa using h⟩
  · next hkept =>
      refine ⟨count, by rwa [String.toList_ofList], fun hempty => absurd ?_ hkept⟩
      rw [String.ofList_eq_empty_iff.mp hempty]
      rfl

/-- The directory of a path has the first of its names and starts where the path does. -/
theorem names_directory (text : String) : names (directory text) <+: names text ∧
    (directory text ≠ "" → isAbsolute (directory text) = isAbsolute text) := by
  have hwhole := (splitLast_append text.toList).symm
  obtain ⟨count, hdirectory, -⟩ := exists_directory text
  have hnames : names (directory text) = names (String.ofList (splitLast text.toList).1) := by
    rw [hdirectory, names_append_slashes, String.ofList_toList]
  constructor
  · rw [hnames]
    rcases splitLast_fst text.toList with hnone | ⟨before, hsome⟩
    · rw [hnone]
      exact List.nil_prefix
    · rw [hsome] at hwhole ⊢
      rw [show ['/'] = List.replicate 1 '/' from rfl, names_append_slashes,
        names_of_slash (hwhole.trans (List.append_assoc _ _ _))]
      exact List.prefix_append _ _
  · intro hnonempty
    rw [hdirectory, List.append_assoc] at hwhole
    rw [isAbsolute_of_append hwhole (mt String.toList_eq_nil_iff.mp hnonempty),
      String.ofList_toList]

/-- The same for the directory that holds the last part of a path which may end in a slash. -/
theorem names_parts (text : String) : names (parts text).1 <+: names text ∧
    ((parts text).1 ≠ "" → isAbsolute (parts text).1 = isAbsolute text) := by
  obtain ⟨hnames, habsolute⟩ := names_directory text
  unfold parts
  split
  · obtain ⟨hinner, hstart⟩ := names_directory (directory text)
    refine ⟨hinner.trans hnames, fun hnonempty => (hstart hnonempty).trans (habsolute ?_)⟩
    intro hempty
    rw [hempty] at hnonempty
    exact hnonempty (by decide)
  · exact ⟨hnames, habsolute⟩

/-- A path without a directory does not start at the root. -/
theorem isAbsolute_of_directory_eq {text : String} (h : directory text = "") :
    isAbsolute text = false := by
  obtain ⟨_, -, hnone⟩ := exists_directory text
  have hwhole := splitLast_append text.toList
  rw [hnone h, List.nil_append] at hwhole
  have hslash := not_mem_splitLast_snd text.toList
  rw [hwhole] at hslash
  exact isAbsolute_of_not_mem hslash

/-- A name without slashes is the last one of its path in a directory. -/
theorem getLast?_names_join (directory : String) {name : String} (hname : name ≠ "")
    (hslash : '/' ∉ name.toList) : (names (join directory name)).getLast? = some name := by
  rw [(names_join directory (isAbsolute_of_not_mem hslash)).1, names_of_not_mem hname hslash,
    List.getLast?_concat]

end Names

end PathText

end CatalogClient
