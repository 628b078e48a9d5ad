/-
# Saving a project

A project is saved file by file, in order. The directory of a file is made first. The first
failure ends the saving; the files before it stay.
-/

import CatalogClient.Log
import CatalogClient.Storage.FileSystem
import CatalogClient.TypeScript.Source

namespace CatalogClient

/-- The file that could not be saved, and why. -/
structure SaveFault where
  path : String
  fault : FileFault
  deriving DecidableEq, Repr

/-- A failed saving in words. A path with a null character is refused without any. -/
def SaveFault.message? (failure : SaveFault) : Option String :=
  if failure.fault.error = .nullCharacter then none
  else some (failure.path ++ ": " ++ failure.fault.message)

namespace FileSystem

/-- Write a file after making the directories on the way to it. -/
def writeWithin (files : FileSystem) (path : String) (content : ByteArray) :
    FileSystem × Except FileFault Unit :=
  let place := if PathText.directory path = "" then "." else PathText.directory path
  match files.makeDirectories place with
  | (made, .error fault) => (made, .error fault)
  | (made, .ok ()) =>
      match made.write path content with
      | .error fault => (made, .error fault)
      | .ok written => (written, .ok ())

/-- Write texts under their paths, in order, until one fails. -/
def writeAll (files : FileSystem) : List (String × String) → FileSystem × Except SaveFault Unit
  | [] => (files, .ok ())
  | (path, text) :: rest =>
      match files.writeWithin path text.toUTF8 with
      | (made, .error fault) => (made, .error ⟨path, fault⟩)
      | (written, .ok ()) => written.writeAll rest

end FileSystem

namespace Project

/-- The path of a file in a target directory. -/
def pathIn (target : String) (file : SourceFile) : String :=
  PathText.join target file.name

/-- The paths of all files in a target directory. -/
def pathsIn (project : Project) (target : String) : List String :=
  project.files.map (pathIn target)

/-- The record that a saving starts with. -/
def saveRecord (project : Project) (target : String) : LogRecord :=
  ⟨.info, "Saving " ++ toString project.files.length ++ " files to " ++ target⟩

/-- Save all files in a target directory. -/
def save (project : Project) (target : String) (files : FileSystem) :
    FileSystem × Except SaveFault Unit :=
  files.writeAll (project.files.map fun file => (pathIn target file, file.render))

end Project

end CatalogClient
