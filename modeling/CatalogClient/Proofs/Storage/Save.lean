/-
# What a saving leaves

The files of a project are written one after the other, each where its path text leads. Where two
path texts lead to one place, the later file takes the place of the earlier one, and no failure
tells of it. Names without slashes lead to places of their own.
-/

import CatalogClient.Proofs.Storage.FileSystem
import CatalogClient.Proofs.Storage.PathText
import Mathlib.Data.List.Nodup

namespace CatalogClient

namespace FileSystem

variable {files next ended : FileSystem}

/-- A file without slashes in its name stands under this name. -/
theorem getLast?_of_target? {directory name : String} {target : List String}
    (hname : name ≠ "") (hslash : '/' ∉ name.toList)
    (h : files.target? (PathText.join directory name) = some target) :
    target.getLast? = some name := by
  obtain ⟨path, last, rfl, hplace, -⟩ := target?_eq_some_iff.mp h
  obtain ⟨-, -, -, hlast, -⟩ := place_eq_ok_iff.mp hplace
  rw [PathText.getLast?_names_join directory hname hslash] at hlast
  rw [List.getLast?_concat, hlast]

/-- To make directories before a writing takes no part in what it writes. -/
theorem Adds.writes {made : FileSystem} {text : String} {content : ByteArray}
    {target : List String} (hmade : Adds files made) (h : Writes made next text content target) :
    Writes files next text content target where
  grows := hmade.grows.trans h.grows
  leads := h.leads
  written := h.written
  others other hother node hnode := h.others other hother node (hmade.kept other node hnode)

theorem writes_of_writeWithin {path : String} {content : ByteArray}
    (h : files.writeWithin path content = (next, .ok ())) :
    ∃ target, Writes files next path content target := by
  simp only [writeWithin] at h
  generalize (if PathText.directory path = "" then "." else PathText.directory path) = place at h
  have hadds := adds_makeDirectories files place
  rcases hmade : files.makeDirectories place with ⟨made, outcome⟩
  rw [hmade] at h hadds
  cases outcome with
  | error fault => cases h
  | ok done =>
      cases hwrite : made.write path content with
      | error fault =>
          simp [hwrite] at h
      | ok written =>
          simp only [hwrite] at h
          obtain rfl := (Prod.mk.inj h).1
          obtain ⟨target, hwrites⟩ := writes_of_write hwrite
          exact ⟨target, hadds.writes hwrites⟩

theorem writeAll_cons_eq_ok {entry : String × String} {rest : List (String × String)}
    (h : files.writeAll (entry :: rest) = (ended, .ok ())) :
    ∃ target written, Writes files written entry.1 entry.2.toUTF8 target ∧
      written.writeAll rest = (ended, .ok ()) := by
  obtain ⟨path, text⟩ := entry
  unfold writeAll at h
  rcases hwrite : files.writeWithin path text.toUTF8 with ⟨written, outcome⟩
  rw [hwrite] at h
  cases outcome with
  | error fault => cases h
  | ok done =>
      obtain ⟨target, hwrites⟩ := writes_of_writeWithin hwrite
      exact ⟨target, written, hwrites, h⟩

/-- Further writing leaves alone whatever none of the later path texts leads to. -/
theorem kept_of_writeAll {entries : List (String × String)}
    (h : files.writeAll entries = (ended, .ok ())) :
    Grows files ended ∧ ∀ target node, files.node? target = some node →
      (∀ entry ∈ entries, ended.target? entry.1 ≠ some target) →
        ended.node? target = some node := by
  induction entries generalizing files with
  | nil =>
      obtain rfl := (Prod.mk.inj h).1
      exact ⟨.refl files, fun _ _ hnode _ => hnode⟩
  | cons entry rest ih =>
      obtain ⟨place, written, hwrites, hrest⟩ := writeAll_cons_eq_ok h
      obtain ⟨hgrows, hkept⟩ := ih hrest
      refine ⟨hwrites.grows.trans hgrows, fun target node hnode hforeign => ?_⟩
      obtain ⟨hentry, hothers⟩ := List.forall_mem_cons.mp hforeign
      apply hkept target node _ hothers
      apply hwrites.others target _ node hnode
      rintro rfl
      exact hentry (target?_of_grows hgrows hwrites.leads)

/-- Every written path text leads to a file, which holds its text unless a later path text leads
there as well. -/
theorem written_of_writeAll {before after : List (String × String)} {entry : String × String}
    (h : files.writeAll (before ++ entry :: after) = (ended, .ok ())) :
    ∃ target, ended.target? entry.1 = some target ∧
      ((∀ other ∈ after, ended.target? other.1 ≠ some target) →
        ended.node? target = some (.file entry.2.toUTF8)) := by
  induction before generalizing files with
  | nil =>
      obtain ⟨target, written, hwrites, hrest⟩ := writeAll_cons_eq_ok h
      obtain ⟨hgrows, hkept⟩ := kept_of_writeAll hrest
      exact ⟨target, target?_of_grows hgrows hwrites.leads, hkept target _ hwrites.written⟩
  | cons first others ih =>
      obtain ⟨-, written, -, hrest⟩ := writeAll_cons_eq_ok h
      exact ih hrest

end FileSystem

/-- Some entries with a property have a last one. -/
theorem exists_last {α : Type} {P : α → Prop} {entries : List α} (h : ∃ entry ∈ entries, P entry) :
    ∃ before entry after, entries = before ++ entry :: after ∧ P entry ∧
      ∀ other ∈ after, ¬P other := by
  induction entries with
  | nil =>
      obtain ⟨entry, hmem, -⟩ := h
      cases hmem
  | cons first rest ih =>
      by_cases hrest : ∃ entry ∈ rest, P entry
      · obtain ⟨before, entry, after, hsplit, hentry, hafter⟩ := ih hrest
        exact ⟨first :: before, entry, after, by rw [hsplit]; rfl, hentry, hafter⟩
      · obtain ⟨entry, hmem, hentry⟩ := h
        rcases List.mem_cons.mp hmem with rfl | hmem
        · exact ⟨[], entry, rest, rfl, hentry, fun other hother hP => hrest ⟨other, hother, hP⟩⟩
        · exact absurd ⟨entry, hmem, hentry⟩ hrest

namespace Project

/-- The place of a file of the project in a target directory. -/
def place? (directory : String) (files : FileSystem) (file : SourceFile) : Option (List String) :=
  files.target? (pathIn directory file)

/-- Whether the text of a file is found under its name in a target directory. -/
def Survives (directory : String) (files : FileSystem) (file : SourceFile) : Prop :=
  files.read (pathIn directory file) = .ok file.render.toUTF8

variable {project : Project} {directory : String} {files ended : FileSystem} {file : SourceFile}

/-- After a saving every file of the project has a place, and there stands the text of the last file
of this place. -/
theorem written_of_save (h : project.save directory files = (ended, .ok ()))
    (hfile : file ∈ project.files) :
    ∃ target before last after, project.files = before ++ last :: after ∧
      place? directory ended file = some target ∧ place? directory ended last = some target ∧
      (∀ other ∈ after, place? directory ended other ≠ some target) ∧
      ended.node? target = some (.file last.render.toUTF8) := by
  have hwritten : ∀ before last after, project.files = before ++ last :: after →
      ∃ target, place? directory ended last = some target ∧
        ((∀ other ∈ after, place? directory ended other ≠ some target) →
          ended.node? target = some (.file last.render.toUTF8)) := by
    intro before last after hsplit
    unfold save at h
    rw [hsplit, List.map_append, List.map_cons] at h
    obtain ⟨target, hplace, hnode⟩ := FileSystem.written_of_writeAll h
    refine ⟨target, hplace, fun hlast => hnode fun entry hentry => ?_⟩
    obtain ⟨other, hother, rfl⟩ := List.mem_map.mp hentry
    exact hlast other hother
  obtain ⟨first, rest, hfirst⟩ := List.append_of_mem hfile
  obtain ⟨target, hplace, -⟩ := hwritten first file rest hfirst
  obtain ⟨before, last, after, hsplit, hsame, hforeign⟩ :=
    exists_last (P := fun other => place? directory ended other = some target)
      ⟨file, hfile, hplace⟩
  obtain ⟨found, hfound, hnode⟩ := hwritten before last after hsplit
  obtain rfl := Option.some.inj (hsame.symm.trans hfound)
  exact ⟨target, before, last, after, hsplit, hplace, hsame, hforeign, hnode hforeign⟩

/-- What is read under the name of a file is the text of the last file of its place. -/
theorem read_of_save (h : project.save directory files = (ended, .ok ()))
    (hfile : file ∈ project.files) :
    ∃ before last after, project.files = before ++ last :: after ∧
      place? directory ended last = place? directory ended file ∧
      (∀ other ∈ after, place? directory ended other ≠ place? directory ended file) ∧
      ended.read (pathIn directory file) = .ok last.render.toUTF8 := by
  obtain ⟨target, before, last, after, hsplit, hplace, hsame, hforeign, hnode⟩ :=
    written_of_save h hfile
  rw [hplace]
  exact ⟨before, last, after, hsplit, hsame, hforeign, FileSystem.read_of_target? hplace hnode⟩

/-- Every file survives a saving exactly if the files that share a place have the same text. -/
theorem survive_iff (h : project.save directory files = (ended, .ok ())) :
    (∀ file ∈ project.files, Survives directory ended file) ↔
      ∀ file ∈ project.files, ∀ other ∈ project.files,
        place? directory ended file = place? directory ended other →
          file.render = other.render := by
  constructor
  · intro hsurvive file hfile other hother hsame
    obtain ⟨target, before, last, after, -, hplace, -, -, hnode⟩ := written_of_save h hfile
    have hread := FileSystem.read_of_target? hplace hnode
    have hreadOther := FileSystem.read_of_target? (hsame.symm.trans hplace) hnode
    rw [hsurvive file hfile] at hread
    rw [hsurvive other hother] at hreadOther
    have htext := (Except.ok.inj hread).trans (Except.ok.inj hreadOther).symm
    exact String.toByteArray_inj.mp htext
  · intro hsame file hfile
    obtain ⟨before, last, after, hsplit, hplace, -, hread⟩ := read_of_save h hfile
    have hlast : last ∈ project.files := by
      rw [hsplit]
      exact List.mem_append_right _ List.mem_cons_self
    rw [Survives, hread, hsame last hlast file hfile hplace]

/-- Files of different names without slashes all survive a saving. -/
theorem survive_of_fileNames (h : project.save directory files = (ended, .ok ()))
    (hnodup : project.fileNames.Nodup)
    (hnames : ∀ file ∈ project.files, file.name ≠ "" ∧ '/' ∉ file.name.toList) :
    ∀ file ∈ project.files, Survives directory ended file := by
  rw [survive_iff h]
  intro file hfile other hother hsame
  have hname : ∀ file ∈ project.files, ∀ target, place? directory ended file = some target →
      target.getLast? = some file.name := by
    intro file hfile target hplace
    obtain ⟨hname, hslash⟩ := hnames file hfile
    exact FileSystem.getLast?_of_target? hname hslash hplace
  obtain ⟨target, -, -, -, -, hplace, -⟩ := written_of_save h hfile
  have hnameOfFile := hname file hfile target hplace
  rw [hname other hother target (hsame.symm.trans hplace)] at hnameOfFile
  rw [List.inj_on_of_nodup_map hnodup hfile hother (Option.some.inj hnameOfFile).symm]

end Project

end CatalogClient
