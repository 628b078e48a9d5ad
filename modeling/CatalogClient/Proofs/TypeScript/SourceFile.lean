/-
# Adding once and finishing files

Import lines are collected without repeats: an entry is added unless it is there already, so what is
collected is what comes first. The imports also come first in the text of a file. A file that is
being written is the last one of its name, and finishing it changes no other file of the project.
-/

import CatalogClient.TypeScript.Source

namespace CatalogClient

section Adding

variable {α : Type} [DecidableEq α]

theorem mem_addOnce {entries : List α} {entry found : α} :
    found ∈ addOnce entries entry ↔ found ∈ entries ∨ found = entry := by
  unfold addOnce
  split
  · next hthere =>
      constructor
      · exact Or.inl
      · rintro (hfound | rfl)
        · exact hfound
        · exact hthere
  · simp

theorem nodup_addOnce {entries : List α} (h : entries.Nodup) (entry : α) :
    (addOnce entries entry).Nodup := by
  unfold addOnce
  split
  · exact h
  · next hnew =>
      refine List.nodup_append.mpr ⟨h, by simp, fun old hold found hfound => ?_⟩
      rw [List.mem_singleton.mp hfound]
      exact ne_of_mem_of_not_mem hold hnew

theorem mem_foldl_addOnce {more entries : List α} {found : α} :
    found ∈ more.foldl addOnce entries ↔ found ∈ entries ∨ found ∈ more := by
  induction more generalizing entries with
  | nil => simp
  | cons entry rest ih => rw [List.foldl_cons, ih, mem_addOnce, List.mem_cons, or_assoc]

theorem nodup_foldl_addOnce {entries : List α} (h : entries.Nodup) (more : List α) :
    (more.foldl addOnce entries).Nodup := by
  induction more generalizing entries with
  | nil => exact h
  | cons entry rest ih => exact ih (nodup_addOnce h entry)

/-- Entries that are new and do not repeat are all added. -/
theorem foldl_addOnce_of_nodup {more entries : List α} (h : (entries ++ more).Nodup) :
    more.foldl addOnce entries = entries ++ more := by
  induction more generalizing entries with
  | nil => simp
  | cons entry rest ih =>
      have hnew : entry ∉ entries := fun hold =>
        (List.nodup_append.mp h).2.2 entry hold entry List.mem_cons_self rfl
      have hadd : addOnce entries entry = entries ++ [entry] := by
        rw [addOnce, if_neg hnew]
      rw [List.foldl_cons, hadd, ih (by simpa using h)]
      simp

/-- Adding what was collected adds what it was collected from. -/
theorem foldl_addOnce_foldl (more first entries : List α) :
    (more.foldl addOnce first).foldl addOnce entries =
      more.foldl addOnce (first.foldl addOnce entries) := by
  induction more generalizing first with
  | nil => rfl
  | cons entry rest ih =>
      have hstep : (addOnce first entry).foldl addOnce entries =
          addOnce (first.foldl addOnce entries) entry := by
        by_cases hold : entry ∈ first
        · have hthere : entry ∈ first.foldl addOnce entries := mem_foldl_addOnce.mpr (Or.inr hold)
          rw [addOnce, if_pos hold, addOnce, if_pos hthere]
        · rw [show addOnce first entry = first ++ [entry] from if_neg hold, List.foldl_append]
          rfl
      rw [List.foldl_cons, ih, hstep, List.foldl_cons]

/-- To collect without repeats is to keep the first of equal entries. -/
theorem foldl_addOnce_eraseDups (more earlier : List α) :
    more.foldl addOnce earlier.eraseDups = (earlier ++ more).eraseDups := by
  induction more generalizing earlier with
  | nil => simp
  | cons entry rest ih =>
      have hstep : addOnce earlier.eraseDups entry = (earlier ++ [entry]).eraseDups := by
        rw [List.eraseDups_append, addOnce]
        by_cases hold : entry ∈ earlier
        · simp [hold, List.removeAll]
        · simp [hold, List.removeAll, List.eraseDups_cons]
      rw [List.foldl_cons, hstep, ih]
      simp

theorem eraseDups_eq_foldl_addOnce (entries : List α) :
    entries.eraseDups = entries.foldl addOnce [] := by
  simpa using (foldl_addOnce_eraseDups entries []).symm

theorem nodup_eraseDups (entries : List α) : entries.eraseDups.Nodup := by
  rw [eraseDups_eq_foldl_addOnce]
  exact nodup_foldl_addOnce List.nodup_nil entries

end Adding

namespace SourceFile

theorem foldl_addImport {α : Type} (line : α → String) (entries : List α) (file : SourceFile) :
    entries.foldl (fun file entry => file.addImport (line entry)) file =
      { file with imports := (entries.map line).foldl addOnce file.imports } := by
  induction entries generalizing file with
  | nil => rfl
  | cons entry rest ih => rw [List.foldl_cons, ih]; rfl

theorem foldl_addCodeBlock (blocks : List String) (file : SourceFile) :
    blocks.foldl addCodeBlock file = { file with codeBlocks := file.codeBlocks ++ blocks } := by
  induction blocks generalizing file with
  | nil => simp
  | cons block rest ih =>
      rw [List.foldl_cons, ih]
      simp [addCodeBlock]

/-- Texts that are put together start with the first one. -/
theorem exists_intercalate (separator first : String) (rest : List String) :
    ∃ more, separator.intercalate (first :: rest) = first ++ more := by
  cases rest with
  | nil => exact ⟨"", by simp⟩
  | cons next others =>
      exact ⟨separator ++ separator.intercalate (next :: others), by simp [String.append_assoc]⟩

/-- The text of a file with imports starts like the first of them. -/
theorem head?_render {file : SourceFile} {line : String} {rest : List String} {c : Char}
    (himports : file.imports = line :: rest) (hline : line.toList.head? = some c)
    (htab : c ≠ '\t') : file.render.toList.head? = some c := by
  obtain ⟨tail, htail⟩ := List.head?_eq_some_iff.mp hline
  obtain ⟨more, hmore⟩ := exists_intercalate "\n" line rest
  rw [← himports] at hmore
  have hfirst : "\n".intercalate file.imports ≠ "" := by
    rw [hmore]
    intro hempty
    have hchars := congrArg String.toList hempty
    simp [htail] at hchars
  obtain ⟨others, hothers⟩ : ∃ others, file.sections.filter (fun part => decide (part ≠ "")) =
      "\n".intercalate file.imports :: others :=
    ⟨_, List.filter_cons_of_pos (decide_eq_true hfirst)⟩
  obtain ⟨after, hafter⟩ := exists_intercalate "\n\n" ("\n".intercalate file.imports) others
  rw [render, hothers, hafter, hmore, expandTabs]
  simp [htail, htab]

end SourceFile

namespace Project

/-- A new file that is moved to the end was there already. -/
theorem moveLast_addFile {project : Project} {file : SourceFile} (hnew : file ∉ project.files) :
    ((project.addFile file).moveLast file).files = project.files ++ [file] := by
  rw [moveLast, addFile, List.erase_append_right _ hnew]
  simp

/-- The last file of a name is the one that is changed. -/
theorem changeLastFile_of_append {project : Project} {before after : List SourceFile}
    {file : SourceFile} (hfiles : project.files = before ++ file :: after)
    (hafter : ∀ other ∈ after, other.name ≠ file.name) (change : SourceFile → SourceFile) :
    (project.changeLastFile file.name change).files = before ++ change file :: after := by
  have hreverse : project.files.reverse = after.reverse ++ file :: before.reverse := by
    simp [hfiles]
  have hpassed : ∀ other ∈ after.reverse, decide (other.name ≠ file.name) = true := by
    intro other hmem
    exact decide_eq_true (hafter other (List.mem_reverse.mp hmem))
  unfold changeLastFile
  rw [hreverse, List.takeWhile_append_of_pos hpassed, List.dropWhile_append_of_pos hpassed]
  simp

/-- A change that keeps the name of a file keeps the names of all files. -/
theorem fileNames_changeLastFile (project : Project) (name : String)
    {change : SourceFile → SourceFile} (hname : ∀ file, (change file).name = file.name) :
    (project.changeLastFile name change).fileNames = project.fileNames := by
  unfold changeLastFile fileNames
  split
  · rfl
  · next file before hdrop =>
      have hsplit := congrArg List.reverse
        (List.takeWhile_append_dropWhile (p := fun file => decide (file.name ≠ name))
          (l := project.files.reverse))
      rw [hdrop] at hsplit
      have hnames := congrArg (List.map SourceFile.name) hsplit
      rw [List.reverse_reverse] at hnames
      rw [← hnames]
      simp [hname]

end Project

end CatalogClient
