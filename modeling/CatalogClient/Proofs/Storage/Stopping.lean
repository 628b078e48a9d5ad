/-
# Where a saving stops

A saving goes through the files of a project from the left and stops at the first one that cannot be
written. What an earlier file has changed is there for the later ones: it may stand in the way of a
directory, or be overwritten. A file that cannot be written changes no file, since it is refused
before it is opened; only the directories on the way to it may have been made by then.
-/

import CatalogClient.Proofs.Storage.Location
import CatalogClient.Proofs.Storage.Save

namespace CatalogClient

namespace FileSystem

variable {files written ended : FileSystem}

/-- Whether two file systems hold the same files with the same contents; directories may differ. -/
def SameFiles (files ended : FileSystem) : Prop :=
  ∀ place content, ended.node? place = some (.file content) ↔
    files.node? place = some (.file content)

/-- Where only directories are new, the files are the same. -/
theorem sameFiles_of_adds {text : String} (hadds : Adds files ended)
    (hnew : NewOnTheWay files ended text) : SameFiles files ended := by
  intro place content
  constructor
  · intro hnode
    rcases hnew place _ hnode with hkept | ⟨hdirectory, -⟩
    · exact hkept
    · cases hdirectory
  · exact hadds.kept place _

/-- What an attempt to write a file leaves if it fails: everything that was there, and at most some
new directories on the way to the directory of the file. -/
structure LeftAt (files ended : FileSystem) (path : String) : Prop where
  adds : Adds files ended
  towards : NewOnTheWay files ended (enclosing path)
  same : SameFiles files ended

theorem leftAt_makeDirectories (files : FileSystem) (path : String) :
    LeftAt files (files.makeDirectories (enclosing path)).1 path := by
  have hadds := adds_makeDirectories files (enclosing path)
  have hnew := newOnTheWay_makeDirectories files (enclosing path)
  exact ⟨hadds, hnew, sameFiles_of_adds hadds hnew⟩

/-- Why a file cannot be written: its directory cannot be made, or it cannot be opened there. -/
def Refuses (files ended : FileSystem) (path : String) (content : ByteArray)
    (fault : FileFault) : Prop :=
  files.makeDirectories (enclosing path) = (ended, .error fault) ∨
    files.makeDirectories (enclosing path) = (ended, .ok ()) ∧
      ended.write path content = .error fault

theorem writeWithin_eq_error_iff {path : String} {content : ByteArray} {fault : FileFault} :
    files.writeWithin path content = (ended, .error fault) ↔
      Refuses files ended path content fault := by
  rw [writeWithin_eq, Refuses]
  rcases files.makeDirectories (enclosing path) with ⟨made, refused | done⟩
  · simp
  · cases hwrite : made.write path content with
    | error refused =>
        simp only [hwrite, Prod.mk.injEq, Except.error.injEq]
        grind
    | ok next =>
        simp only [hwrite, Prod.mk.injEq]
        grind

/-- A file that cannot be written changes no other one. -/
theorem Refuses.leftAt {path : String} {content : ByteArray} {fault : FileFault}
    (h : Refuses files ended path content fault) : LeftAt files ended path := by
  have hleft := leftAt_makeDirectories files path
  rcases h with hmade | ⟨hmade, -⟩
  · rwa [hmade] at hleft
  · rwa [hmade] at hleft

/-- Entries are written after others if these are written. -/
theorem writeAll_append (files : FileSystem) (before after : List (String × String)) :
    files.writeAll (before ++ after) =
      match files.writeAll before with
      | (made, .error failure) => (made, .error failure)
      | (written, .ok ()) => written.writeAll after := by
  induction before generalizing files with
  | nil => rfl
  | cons entry rest ih =>
      obtain ⟨path, text⟩ := entry
      rw [List.cons_append, writeAll, writeAll]
      rcases files.writeWithin path text.toUTF8 with ⟨next, fault | done⟩
      · rfl
      · exact ih next

/-- The writing of entries fails exactly if there is a first one that cannot be written, once those
before it are written. -/
theorem writeAll_eq_error_iff {entries : List (String × String)} {failure : SaveFault} :
    files.writeAll entries = (ended, .error failure) ↔
      ∃ before text after written, entries = before ++ (failure.path, text) :: after ∧
        files.writeAll before = (written, .ok ()) ∧
        Refuses written ended failure.path text.toUTF8 failure.fault := by
  constructor
  · intro h
    induction entries generalizing files with
    | nil => cases h
    | cons entry rest ih =>
        obtain ⟨path, text⟩ := entry
        rw [writeAll] at h
        rcases hwrite : files.writeWithin path text.toUTF8 with ⟨next, fault | done⟩
        · rw [hwrite] at h
          cases h
          exact ⟨[], text, rest, files, rfl, rfl, writeWithin_eq_error_iff.mp hwrite⟩
        · rw [hwrite] at h
          obtain ⟨before, found, after, written, rfl, hbefore, hrefuses⟩ := ih h
          refine ⟨(path, text) :: before, found, after, written, rfl, ?_, hrefuses⟩
          rw [writeAll, hwrite]
          exact hbefore
  · rintro ⟨before, text, after, written, rfl, hbefore, hrefuses⟩
    rw [writeAll_append, hbefore]
    simp only
    rw [writeAll, writeWithin_eq_error_iff.mpr hrefuses]

end FileSystem

namespace Project

variable {project : Project} {directory : String} {files ended : FileSystem}

/-- The place of a file of the project in a target directory, whatever stands there. -/
def location (files : FileSystem) (directory : String) (file : SourceFile) : List String :=
  files.locate (pathIn directory file)

/-- What a saving that went well leaves: every path leads to its location, where the text of the
last file of this location stands, and everywhere else the files are those from before. -/
structure SavedIn (project : Project) (directory : String) (files ended : FileSystem) : Prop where
  grows : FileSystem.Grows files ended
  leads : ∀ file ∈ project.files,
    ended.target? (pathIn directory file) = some (location files directory file)
  last : ∀ before file after, project.files = before ++ file :: after →
    (∀ other ∈ after, location files directory other ≠ location files directory file) →
      ended.node? (location files directory file) = some (.file file.render.toUTF8)
  others : ∀ place, (∀ file ∈ project.files, location files directory file ≠ place) →
    ∀ content, ended.node? place = some (.file content) ↔
      files.node? place = some (.file content)

theorem savedIn_of_save (h : project.save directory files = (ended, .ok ())) :
    project.SavedIn directory files ended := by
  have hconfined := FileSystem.confined_writeAll files
    (project.files.map fun file => (pathIn directory file, file.render))
  have hgrows := (FileSystem.kept_of_writeAll h).1
  rw [show files.writeAll _ = (ended, .ok ()) from h] at hconfined
  have hwritten : ∀ before file after, project.files = before ++ file :: after →
      ended.target? (pathIn directory file) = some (location files directory file) ∧
        ((∀ other ∈ after, location files directory other ≠ location files directory file) →
          ended.node? (location files directory file) = some (.file file.render.toUTF8)) := by
    intro before file after hsplit
    rw [save, hsplit, List.map_append, List.map_cons] at h
    obtain ⟨target, htarget, hnode⟩ := FileSystem.written_of_writeAll h
    have hlocate : ∀ text found, ended.target? text = some found →
        found = files.locate text := fun text found hfound => by
      rw [← FileSystem.locate_of_working hgrows.working]
      exact FileSystem.locate_of_target? hfound
    obtain rfl := hlocate _ _ htarget
    refine ⟨htarget, fun hlast => hnode fun entry hentry hsame => ?_⟩
    obtain ⟨other, hother, rfl⟩ := List.mem_map.mp hentry
    exact hlast other hother (hlocate _ _ hsame).symm
  refine ⟨hgrows, fun file hfile => ?_, fun before file after hsplit =>
    (hwritten before file after hsplit).2, fun place hforeign content => ?_⟩
  · obtain ⟨before, after, hsplit⟩ := List.append_of_mem hfile
    exact (hwritten before file after hsplit).1
  · have hbecame := hconfined.became place
    generalize ended.node? place = node at hbecame
    cases hbecame with
    | kept => exact Iff.rfl
    | made hentry hway hnone => simp [hnone]
    | written hentry hplace =>
        obtain ⟨entry, hmem, rfl⟩ := List.mem_map.mp hentry
        obtain ⟨file, hfile, rfl⟩ := List.mem_map.mp hmem
        exact absurd hplace.symm (hforeign file hfile)

/-- What a saving that failed leaves: the files before some file were saved, this file was refused,
and the reported path is its own. No file has changed since then, and only directories on the way to
the directory of the refused file are new. -/
structure StoppedIn (project : Project) (directory : String) (files ended : FileSystem)
    (failure : SaveFault) : Prop where
  stops : ∃ before file after written, project.files = before ++ file :: after ∧
    Project.save ⟨before⟩ directory files = (written, .ok ()) ∧
    failure.path = pathIn directory file ∧
    written.Refuses ended failure.path file.render.toUTF8 failure.fault ∧
    written.LeftAt ended failure.path

theorem stoppedIn_of_save {failure : SaveFault}
    (h : project.save directory files = (ended, .error failure)) :
    project.StoppedIn directory files ended failure := by
  obtain ⟨before, text, after, written, hsplit, hbefore, hrefuses⟩ :=
    FileSystem.writeAll_eq_error_iff.mp h
  obtain ⟨firsts, others, hfiles, hfirsts, hothers⟩ := List.map_eq_append_iff.mp hsplit
  obtain ⟨file, rest, rfl, hfile, -⟩ := List.map_eq_cons_iff.mp hothers
  obtain ⟨hpath, rfl⟩ := Prod.mk.inj hfile
  refine ⟨firsts, file, rest, written, hfiles, ?_, hpath.symm, hrefuses, hrefuses.leftAt⟩
  rw [save, hfirsts]
  exact hbefore

/-- A saving goes from left to right and stops at the first failure. Either it writes all files: the
paths are those of all files in order, and every location holds the text of its last file. Or it
stops at the first file that is refused once the files before it are written, reports its path, and
leaves the files as they were then. -/
theorem save_stops_at_first_refusal (project : Project) (directory : String)
    (files : FileSystem) :
    (∃ ended, project.save directory files = (ended, .ok ()) ∧
        project.pathsIn directory =
          project.files.map (fun file => PathText.join directory file.name) ∧
        project.SavedIn directory files ended) ∨
      ∃ ended failure, project.save directory files = (ended, .error failure) ∧
        project.StoppedIn directory files ended failure := by
  rcases hsave : project.save directory files with ⟨ended, failure | done⟩
  · exact Or.inr ⟨ended, failure, rfl, stoppedIn_of_save hsave⟩
  · exact Or.inl ⟨ended, rfl, rfl, savedIn_of_save hsave⟩

end Project

end CatalogClient
