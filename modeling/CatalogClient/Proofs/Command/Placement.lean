/-
# Where a client is saved

The files of a client are called for its declared types, and a name is joined to the target
directory like any path. So a name without slashes stands directly in the directory, but one that
steps up or starts at the root leads out of it. Whatever a saving does, it does at the locations of
its files and on the way to them.
-/

import CatalogClient.Proofs.Command.Saving
import CatalogClient.Proofs.Storage.Location

namespace CatalogClient

namespace Emission

/-- No file of a declared type is called by a dot name. -/
theorem fileName_ne (name : String) : fileName name ≠ "." ∧ fileName name ≠ ".." := by
  have hlast : (fileName name).toList.getLast? = some 's' := by
    simp [fileName]
  constructor
  · intro hname
    rw [hname] at hlast
    cases hlast
  · intro hname
    rw [hname] at hlast
    cases hlast

end Emission

namespace Project

/-- The path texts of all files in a target directory, with what they are to hold. -/
def contentsIn (project : Project) (directory : String) : List (String × ByteArray) :=
  project.files.map fun file => (pathIn directory file, file.render.toUTF8)

variable {project : Project} {directory : String} {files ended : FileSystem} {file : SourceFile}

/-- A saving changes nothing but the locations of its files and the ways there. -/
theorem confined_save (project : Project) (directory : String) (files : FileSystem) :
    FileSystem.Confined files (project.save directory files).1 (project.contentsIn directory) := by
  have hconfined := FileSystem.confined_writeAll files
    (project.files.map fun file => (pathIn directory file, file.render))
  rw [List.map_map] at hconfined
  exact hconfined

/-- After a saving the location of every file holds the text of a file of this location. -/
theorem node?_locate_of_save (h : project.save directory files = (ended, .ok ()))
    (hfile : file ∈ project.files) :
    ∃ last ∈ project.files,
      files.locate (pathIn directory last) = files.locate (pathIn directory file) ∧
      ended.node? (files.locate (pathIn directory file)) = some (.file last.render.toUTF8) := by
  have hworking := (confined_save project directory files).working
  rw [h] at hworking
  obtain ⟨target, before, last, after, hsplit, hplace, hlast, -, hnode⟩ := written_of_save h hfile
  have htarget := FileSystem.locate_of_target? hplace
  have hsame := FileSystem.locate_of_target? hlast
  rw [FileSystem.locate_of_working hworking] at htarget hsame
  refine ⟨last, ?_, hsame.symm.trans htarget, ?_⟩
  · rw [hsplit]
    exact List.mem_append_right _ List.mem_cons_self
  · rw [← htarget]
    exact hnode

end Project

namespace Catalog

variable {catalog : Catalog} {packages extra : List String} {generated : Generated}

/-- A file of a client is called for a registered name or is the one of the functions. -/
theorem fileName_of_generate (h : (catalog.generate packages extra).outcome = .ok generated) :
    ∀ file ∈ generated.project.files, file.name = functionsFileName ∨
      ∃ name ∈ generated.registry.taken, file.name = Emission.fileName name := by
  obtain ⟨hdeclared, hfiles⟩ := fileNames_of_generate h
  intro file hfile
  have hname : file.name ∈ generated.project.fileNames := List.mem_map_of_mem hfile
  rw [hfiles, hdeclared] at hname
  rcases List.mem_append.mp hname with hname | hname
  · obtain ⟨name, hmem, hname⟩ := List.mem_map.mp hname
    exact Or.inr ⟨name, hmem, hname.symm⟩
  · exact Or.inl (List.mem_singleton.mp hname)

/-- No file of a client is without a name or called by a dot name. -/
theorem fileName_ne_of_generate (h : (catalog.generate packages extra).outcome = .ok generated) :
    ∀ file ∈ generated.project.files, file.name ≠ "" ∧ file.name ≠ "." ∧ file.name ≠ ".." := by
  intro file hfile
  rcases fileName_of_generate h file hfile with hname | ⟨name, -, hname⟩
  · rw [hname]
    decide
  · rw [hname]
    refine ⟨fun hempty => ?_, Emission.fileName_ne name⟩
    have hlength := congrArg String.length hempty
    simp [Emission.fileName] at hlength

/-- What a saving of a client touches, whatever the types of the catalog are called. Its files are
called for the registered names, and the last one for itself. A place that changes is the location
of one of them and holds its text, or has become a directory on the way there; a saving that
succeeds reaches all locations. Where a file goes is up to its name: one without slashes goes
directly into the target directory, one that starts at the root leaves it altogether, and any other
one is followed from there. If no name starts at the root or steps up, everything that changes is
inside the directory or on the way to it. -/
theorem save_touches_locations (h : (catalog.generate packages extra).outcome = .ok generated)
    (directory : String) (files : FileSystem) :
    (∀ file ∈ generated.project.files, file.name = functionsFileName ∨
      ∃ name ∈ generated.registry.taken, file.name = Emission.fileName name) ∧
    (∀ place, files.Became (generated.project.contentsIn directory) place
      ((generated.project.save directory files).1.node? place)) ∧
    ((generated.project.save directory files).2 = .ok () →
      ∀ file ∈ generated.project.files, ∃ last ∈ generated.project.files,
        files.locate (Project.pathIn directory last) =
          files.locate (Project.pathIn directory file) ∧
        (generated.project.save directory files).1.node?
          (files.locate (Project.pathIn directory file)) = some (.file last.render.toUTF8)) ∧
    (∀ file ∈ generated.project.files,
      files.locate (Project.pathIn directory file) =
        PathText.follow (if PathText.isAbsolute file.name then [] else files.locate directory)
          (PathText.names file.name) ∧
      ('/' ∉ file.name.toList → files.locate (Project.pathIn directory file) =
        files.locate directory ++ [file.name])) ∧
    ((∀ file ∈ generated.project.files,
        PathText.isAbsolute file.name = false ∧ ".." ∉ PathText.names file.name) →
      ∀ place, (generated.project.save directory files).1.node? place ≠ files.node? place →
        files.locate directory <+: place ∨
          (generated.project.save directory files).1.node? place = some .directory ∧
            files.OnTheWay directory place) := by
  have hconfined := Project.confined_save generated.project directory files
  refine ⟨fileName_of_generate h, hconfined.became, fun hsaved file hfile => ?_,
    fun file hfile => ⟨FileSystem.locate_join files directory file.name, fun hslash => ?_⟩,
    fun hinside place hchanged => ?_⟩
  · exact Project.node?_locate_of_save (Prod.ext rfl hsaved) hfile
  · obtain ⟨hname, hdot, hup⟩ := fileName_ne_of_generate h file hfile
    exact FileSystem.locate_join_of_not_mem files directory hname hslash hdot hup
  · have hbecame := hconfined.became place
    generalize FileSystem.node? _ place = node at hbecame hchanged ⊢
    cases hbecame with
    | kept => exact absurd rfl hchanged
    | made hmem hway =>
        obtain ⟨file, hfile, rfl⟩ := List.mem_map.mp hmem
        obtain ⟨hrelative, hup⟩ := hinside file hfile
        exact (hway.of_join hrelative hup).symm.imp_right fun hway => ⟨rfl, hway⟩
    | written hmem hplace =>
        obtain ⟨file, hfile, rfl⟩ := List.mem_map.mp hmem
        obtain ⟨hrelative, hup⟩ := hinside file hfile
        rw [hplace]
        exact Or.inl (files.prefix_locate_join directory hrelative hup)

end Catalog

namespace Sample

/-- The document of a catalog whose enumeration is called by a step up. -/
def strayDocument : Json :=
  .object [("operations", .object [("api", .object [
    ("url", .string "/api"), ("function_name", .string "getApi"),
    ("return_type", .object [("kind", .string "enum"), ("name", .string "../evil")])])])]

theorem ofJson_stray : Catalog.ofJson strayDocument = .ok (enumerationCatalog "../evil") := by
  have hread : (Catalog.ofJson strayDocument).toOption = some (enumerationCatalog "../evil") := by
    decide +kernel
  cases houtcome : Catalog.ofJson strayDocument with
  | error fault =>
      rw [houtcome] at hread
      cases hread
  | ok catalog =>
      rw [houtcome] at hread
      rw [Option.some.inj hread]

/-- The directory on the way is made first, and then left again. -/
theorem makeDirectories_stray : ({} : FileSystem).makeDirectories "ts/.." =
    ({ nodes := [(["ts"], .directory)] }, .ok ()) := by
  have habove : ({} : FileSystem).makeDirectories "ts" =
      ({ nodes := [(["ts"], .directory)] }, .ok ()) := by
    rw [FileSystem.makeDirectories, dif_neg]
    · rfl
    · rintro ⟨-, hhead, -⟩
      exact hhead rfl
  rw [FileSystem.makeDirectories, dif_pos (by decide),
    show (PathText.parts "ts/..").1 = "ts" by decide, habove]
  rfl

theorem save_stray : ∃ ended,
    (⟨[enumerationFile "../evil", enumerationFunctions "../evil"]⟩ : Project).save "ts" {} =
      (ended, .ok ()) := by
  have hpaths : Project.pathIn "ts" (enumerationFile "../evil") = "ts/../evil.ts" ∧
      Project.pathIn "ts" (enumerationFunctions "../evil") = "ts/api.ts" :=
    ⟨by decide, by decide⟩
  have hstray : FileSystem.enclosing "ts/../evil.ts" = "ts/.." := by decide
  unfold Project.save
  simp only [List.map_cons, List.map_nil, hpaths.1, hpaths.2, FileSystem.writeAll,
    FileSystem.writeWithin_eq {} "ts/../evil.ts", hstray, makeDirectories_stray,
    writeWithin_shared]
  generalize (enumerationFile "../evil").render.toUTF8 = content
  generalize (enumerationFunctions "../evil").render.toUTF8 = other
  exact ⟨_, rfl⟩

end Sample

namespace Catalog

theorem save_touches_locations_sample : ∃ catalog generated ended content,
    Catalog.ofJson Sample.strayDocument = .ok catalog ∧
      (catalog.generate []).outcome = .ok generated ∧
      generated.project.save "ts" {} = (ended, .ok ()) ∧
      ended.node? ["evil.ts"] = some (.file content) ∧
      ({} : FileSystem).locate "ts" = ["ts"] ∧ ¬["ts"] <+: ["evil.ts"] := by
  obtain ⟨generated, hgenerated, hfiles⟩ := Sample.generate_enumeration "../evil"
  have hproject : generated.project =
      ⟨[Sample.enumerationFile "../evil", Sample.enumerationFunctions "../evil"]⟩ :=
    congrArg Project.mk hfiles
  obtain ⟨ended, hsaved⟩ := Sample.save_stray
  rw [← hproject] at hsaved
  obtain ⟨-, -, hreached, -⟩ := save_touches_locations hgenerated "ts" {}
  rw [hsaved] at hreached
  obtain ⟨last, -, -, hnode⟩ :=
    hreached rfl (Sample.enumerationFile "../evil") (by rw [hfiles]; exact List.mem_cons_self)
  have hplace : ({} : FileSystem).locate
      (Project.pathIn "ts" (Sample.enumerationFile "../evil")) = ["evil.ts"] := by
    decide
  rw [hplace] at hnode
  exact ⟨_, generated, ended, _, Sample.ofJson_stray, hgenerated, hsaved, hnode, by decide,
    by decide⟩

end Catalog

end CatalogClient
