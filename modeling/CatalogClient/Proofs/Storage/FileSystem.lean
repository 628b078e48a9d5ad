/-
# What stays in a file system

Nothing is ever taken away from a file system: to make directories adds entries where there are
none, and to write a file changes nothing else. So a path text that leads somewhere keeps leading
there, and what was written is read again until something else is written at the same place. Two
path texts may lead to one place without being the same.
-/

import CatalogClient.Storage.Save

namespace CatalogClient

namespace FileSystem

variable {files next : FileSystem}

/-- To replace what stands at a path changes what is found there, and nothing else. -/
theorem lookup_replace (nodes : List (List String × FileNode)) (path other : List String)
    (node : FileNode) :
    (nodes.map fun entry => if entry.1 = path then (path, node) else entry).lookup other =
      if other = path then (nodes.lookup path).map fun _ => node else nodes.lookup other := by
  induction nodes with
  | nil =>
      split
      · rfl
      · rfl
  | cons entry rest ih =>
      obtain ⟨key, old⟩ := entry
      by_cases hkey : key = path
      · subst hkey
        by_cases hother : other = key
        · simp [hother]
        · simpa [List.lookup_cons, beq_false_of_ne hother, hother] using ih
      · by_cases hother : other = key
        · subst hother
          simp [hkey]
        · rw [List.map_cons, if_neg hkey, List.lookup_cons, beq_false_of_ne hother, ih]
          simp [List.lookup_cons, beq_false_of_ne hother, beq_false_of_ne (Ne.symm hkey)]

/-- What is put at a path is found there, and nothing else changes. -/
theorem lookup_put (files : FileSystem) (path other : List String) (node : FileNode) :
    (files.put path node).nodes.lookup other =
      if other = path then some node else files.nodes.lookup other := by
  unfold put
  cases hfound : files.nodes.lookup path with
  | some old =>
      simp only [Option.isSome_some, if_true]
      rw [lookup_replace, hfound]
      rfl
  | none =>
      simp only [Option.isSome_none, Bool.false_eq_true, if_false]
      rw [List.lookup_append]
      by_cases hother : other = path
      · subst hother
        simp [hfound]
      · simp [hother, List.lookup_cons, beq_false_of_ne hother]

theorem node?_put (files : FileSystem) {path : List String} (hpath : path ≠ [])
    (other : List String) (node : FileNode) :
    (files.put path node).node? other = if other = path then some node else files.node? other := by
  unfold node?
  rw [lookup_put]
  by_cases hroot : other = []
  · subst hroot
    simp [hpath.symm]
  · simp [hroot]

theorem working_put (files : FileSystem) (path : List String) (node : FileNode) :
    (files.put path node).working = files.working := by
  unfold put
  split
  · rfl
  · rfl

/-- Whatever stands in one file system stands in the other at the same path. -/
structure Adds (files next : FileSystem) : Prop where
  working : next.working = files.working
  kept : ∀ path node, files.node? path = some node → next.node? path = some node

namespace Adds

theorem refl (files : FileSystem) : Adds files files :=
  ⟨rfl, fun _ _ h => h⟩

theorem trans {first middle last : FileSystem} (hfirst : Adds first middle)
    (hnext : Adds middle last) : Adds first last where
  working := hnext.working.trans hfirst.working
  kept path node h := hnext.kept path node (hfirst.kept path node h)

end Adds

/-- Whatever stands in one file system stands in the other as well, though a file may have other
content. -/
structure Grows (files next : FileSystem) : Prop where
  working : next.working = files.working
  directory : ∀ path, files.node? path = some .directory → next.node? path = some .directory
  present : ∀ path, (files.node? path).isSome → (next.node? path).isSome

namespace Grows

theorem refl (files : FileSystem) : Grows files files :=
  ⟨rfl, fun _ h => h, fun _ h => h⟩

theorem trans {first middle last : FileSystem} (hfirst : Grows first middle)
    (hnext : Grows middle last) : Grows first last where
  working := hnext.working.trans hfirst.working
  directory path h := hnext.directory path (hfirst.directory path h)
  present path h := hnext.present path (hfirst.present path h)

end Grows

theorem Adds.grows (h : Adds files next) : Grows files next where
  working := h.working
  directory path hpath := h.kept path _ hpath
  present path hpath := by
    obtain ⟨node, hnode⟩ := Option.isSome_iff_exists.mp hpath
    rw [h.kept path node hnode]
    rfl

/-- Everything that a name can lead to from a directory. -/
theorem enter_eq_ok_iff {path last : List String} {name : String} :
    files.enter path name = .ok last ↔ files.node? path = some .directory ∧
      (name = "." ∧ last = path ∨
        name ≠ "." ∧ name = ".." ∧ last = path.dropLast ∨
        name ≠ "." ∧ name ≠ ".." ∧ name.utf8ByteSize ≤ longestName ∧
          (files.node? (path ++ [name])).isSome ∧ last = path ++ [name]) := by
  unfold enter
  cases hnode : files.node? path with
  | none => simp
  | some node =>
      cases node with
      | file content => simp
      | directory => grind

/-- A name that leads somewhere keeps leading there. -/
theorem enter_of_grows (h : Grows files next) {path last : List String} {name : String}
    (henter : files.enter path name = .ok last) : next.enter path name = .ok last := by
  rw [enter_eq_ok_iff] at henter ⊢
  obtain ⟨hdirectory, hlast⟩ := henter
  refine ⟨h.directory path hdirectory, hlast.imp_right (Or.imp_right ?_)⟩
  rintro ⟨hdot, hup, hshort, hthere, hlast⟩
  exact ⟨hdot, hup, hshort, h.present _ hthere, hlast⟩

/-- The way that names lead stays as it is. -/
theorem walk_of_grows (h : Grows files next) {path last names : List String}
    (hwalk : files.walk path names = .ok last) : next.walk path names = .ok last := by
  induction names generalizing path with
  | nil => exact hwalk
  | cons name rest ih =>
      unfold walk at hwalk ⊢
      cases henter : files.enter path name with
      | error error =>
          rw [henter] at hwalk
          cases hwalk
      | ok inner =>
          rw [henter] at hwalk
          rw [enter_of_grows h henter]
          exact ih hwalk

theorem walk_append {path middle names : List String} (hwalk : files.walk path names = .ok middle)
    (rest : List String) : files.walk path (names ++ rest) = files.walk middle rest := by
  induction names generalizing path with
  | nil =>
      obtain rfl := Except.ok.inj hwalk
      rfl
  | cons name others ih =>
      unfold walk at hwalk
      rw [List.cons_append, walk]
      cases henter : files.enter path name with
      | error error =>
          rw [henter] at hwalk
          cases hwalk
      | ok inner =>
          rw [henter] at hwalk
          exact ih hwalk

/-- A path text asks for an entry where its last name leads from an existing directory. -/
theorem place_eq_ok_iff {text name : String} {path : List String} :
    files.place text = .ok (path, some name) ↔ refusal? text = none ∧
      files.walk (files.origin text) (PathText.names text).dropLast = .ok path ∧
      files.node? path = some .directory ∧ (PathText.names text).getLast? = some name ∧
      name ≠ "." ∧ name ≠ ".." := by
  unfold place
  cases hrefused : refusal? text with
  | some error => simp
  | none =>
      cases hwalk : files.walk (files.origin text) (PathText.names text).dropLast with
      | error error => grind
      | ok found => grind

/-- A path text that leads to a place keeps leading there. -/
theorem place_of_grows (h : Grows files next) {text name : String} {path : List String}
    (hplace : files.place text = .ok (path, some name)) :
    next.place text = .ok (path, some name) := by
  rw [place_eq_ok_iff] at hplace ⊢
  obtain ⟨haccepted, hwalk, hdirectory, hname⟩ := hplace
  rw [show next.origin text = files.origin text by rw [origin, origin, h.working]]
  exact ⟨haccepted, walk_of_grows h hwalk, h.directory path hdirectory, hname⟩

/-- The path from the root at which the file of a path text stands or would stand, if the text can
be that of a file. -/
def target? (files : FileSystem) (text : String) : Option (List String) :=
  match files.place text with
  | .ok (path, some name) =>
      if PathText.endsInSlash text ∨ longestName < name.utf8ByteSize then none
      else some (path ++ [name])
  | _ => none

theorem target?_eq_some_iff {text : String} {target : List String} :
    files.target? text = some target ↔ ∃ path name, target = path ++ [name] ∧
      files.place text = .ok (path, some name) ∧ PathText.endsInSlash text = false ∧
      name.utf8ByteSize ≤ longestName := by
  unfold target?
  grind

theorem target?_of_grows (h : Grows files next) {text : String} {target : List String}
    (htarget : files.target? text = some target) : next.target? text = some target := by
  rw [target?_eq_some_iff] at htarget ⊢
  obtain ⟨path, name, hsplit, hplace, hfile⟩ := htarget
  exact ⟨path, name, hsplit, place_of_grows h hplace, hfile⟩

/-- The content of a file is read under every path text that leads to it. -/
theorem read_of_target? {text : String} {target : List String} {content : ByteArray}
    (htarget : files.target? text = some target)
    (hnode : files.node? target = some (.file content)) : files.read text = .ok content := by
  obtain ⟨path, name, rfl, hplace, hopen, hshort⟩ := target?_eq_some_iff.mp htarget
  obtain ⟨haccepted, hwalk, hdirectory, hlast, hdot, hup⟩ := place_eq_ok_iff.mp hplace
  have henter : files.enter path name = .ok (path ++ [name]) := by
    rw [enter_eq_ok_iff]
    exact ⟨hdirectory, Or.inr (Or.inr ⟨hdot, hup, hshort, by rw [hnode]; rfl, rfl⟩)⟩
  have hnames : PathText.names text = (PathText.names text).dropLast ++ [name] := by
    obtain ⟨before, hsplit⟩ := List.getLast?_eq_some_iff.mp hlast
    rw [hsplit, List.dropLast_concat]
  have hfull : files.walk (files.origin text) (PathText.names text) = .ok (path ++ [name]) := by
    rw [hnames, walk_append hwalk, walk, henter]
    rfl
  simp [read, find, haccepted, hfull, hnode, hopen]

/-- Whatever is read is there. -/
theorem exists?_of_read {text : String} {content : ByteArray}
    (h : files.read text = .ok content) : files.exists? text = true := by
  unfold read at h
  unfold exists?
  split at h
  · cases h
  · cases h
  · next hfind => rw [hfind]

/-- A file is written where its path text leads, unless there is a directory. -/
theorem write_eq_ok_iff {text : String} {content : ByteArray} :
    files.write text content = .ok next ↔ ∃ target, files.target? text = some target ∧
      files.node? target ≠ some .directory ∧ next = files.put target (.file content) := by
  unfold write target?
  grind

/-- To put a file where no directory stands takes nothing away. -/
theorem grows_put {path : List String} (hpath : path ≠ [])
    (hnode : files.node? path ≠ some .directory) (content : ByteArray) :
    Grows files (files.put path (.file content)) where
  working := working_put files path _
  directory other hother := by
    rw [node?_put files hpath, if_neg, hother]
    rintro rfl
    exact hnode hother
  present other hother := by
    rw [node?_put files hpath]
    split
    · rfl
    · exact hother

/-- What a writing does: its path text leads to a file of the new content, and nothing else changes.
-/
structure Writes (files next : FileSystem) (text : String) (content : ByteArray)
    (target : List String) : Prop where
  grows : Grows files next
  leads : next.target? text = some target
  written : next.node? target = some (.file content)
  others : ∀ other, other ≠ target → ∀ node, files.node? other = some node →
    next.node? other = some node

theorem writes_of_write {text : String} {content : ByteArray}
    (h : files.write text content = .ok next) :
    ∃ target, Writes files next text content target := by
  obtain ⟨target, htarget, hnode, rfl⟩ := write_eq_ok_iff.mp h
  have hpath : target ≠ [] := by
    obtain ⟨path, name, rfl, -⟩ := target?_eq_some_iff.mp htarget
    exact List.append_ne_nil_of_right_ne_nil _ (List.cons_ne_nil name [])
  have hgrows := grows_put hpath hnode content
  refine ⟨target, hgrows, target?_of_grows hgrows htarget, ?_, fun other hother node hkept => ?_⟩
  · rw [node?_put files hpath, if_pos rfl]
  · rwa [node?_put files hpath, if_neg hother]

section Directories

theorem adds_makeDirectory {text : String} (h : files.makeDirectory text = .ok next) :
    Adds files next := by
  unfold makeDirectory at h
  split at h
  · cases h
  · cases h
  · next path name hplace =>
      split at h
      · cases h
      · split at h
        · cases h
        · next habsent =>
            obtain rfl := Except.ok.inj h
            have hpath : path ++ [name] ≠ [] :=
              List.append_ne_nil_of_right_ne_nil _ (List.cons_ne_nil name [])
            refine ⟨working_put files _ _, fun other node hother => ?_⟩
            rw [node?_put files hpath, if_neg, hother]
            rintro rfl
            rw [hother] at habsent
            exact habsent rfl

theorem adds_makeLast (files : FileSystem) (text : String) :
    Adds files (files.makeLast text).1 := by
  unfold makeLast
  split
  · next made hmade => exact adds_makeDirectory hmade
  · split
    · exact .refl files
    · exact .refl files

theorem adds_makeBelow (tail text : String) (above : FileSystem × Except FileFault Unit) :
    Adds above.1 (makeBelow tail text above).1 := by
  unfold makeBelow
  split
  · split
    · exact .refl _
    · split
      · exact .refl _
      · exact adds_makeLast _ text
  · split
    · exact .refl _
    · exact adds_makeLast _ text

/-- To make directories only adds some, also where it fails halfway. -/
theorem adds_makeDirectories (files : FileSystem) (text : String) :
    Adds files (files.makeDirectories text).1 := by
  fun_induction makeDirectories files text with
  | case1 text head tail hdeeper ih => exact ih.trans (adds_makeBelow tail text _)
  | case2 text head tail hlast => exact adds_makeLast files text

end Directories

end FileSystem

end CatalogClient
