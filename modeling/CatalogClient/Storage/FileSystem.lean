/-
# File systems

A file system holds files and directories under paths of names from the root, and has a working
directory. A path text is followed name by name; every name on the way has to be a directory. The
operations fail as system calls do, with one of a few errors.
-/

import CatalogClient.Storage.PathText
import CatalogClient.Text.Quoted

namespace CatalogClient

/-- Why an operation on files fails. -/
inductive SystemError
  | missing
  | exists
  | notDirectory
  | isDirectory
  | nameTooLong
  | nullCharacter
  deriving DecidableEq, Repr

namespace SystemError

/-- The number of an error. A path with a null character is refused without one. -/
def number? : SystemError → Option Nat
  | missing => some 2
  | «exists» => some 17
  | notDirectory => some 20
  | isDirectory => some 21
  | nameTooLong => some 36
  | nullCharacter => none

/-- The text of an error. -/
def label : SystemError → String
  | missing => "No such file or directory"
  | «exists» => "File exists"
  | notDirectory => "Not a directory"
  | isDirectory => "Is a directory"
  | nameTooLong => "File name too long"
  | nullCharacter => "embedded null byte"

end SystemError

/-- A failed operation and the path text that it was given. -/
structure FileFault where
  error : SystemError
  path : String
  deriving DecidableEq, Repr

/-- A failed operation in words. -/
def FileFault.message (fault : FileFault) : String :=
  match fault.error.number? with
  | some number =>
      "[Errno " ++ toString number ++ "] " ++ fault.error.label ++ ": " ++ Text.quote fault.path
  | none => fault.error.label

/-- What stands at a path. -/
inductive FileNode
  | directory
  | file (content : ByteArray)

/-- Files are the same if their bytes are. -/
def FileNode.decideEq : (first second : FileNode) → Decidable (first = second)
  | .directory, .directory => isTrue rfl
  | .directory, .file _ => isFalse nofun
  | .file _, .directory => isFalse nofun
  | .file ⟨first⟩, .file ⟨second⟩ =>
      if same : first = second then isTrue (by rw [same])
      else isFalse fun equal => same (by cases equal; rfl)

instance : DecidableEq FileNode := FileNode.decideEq

/-- Files and directories under their paths, the root apart, and the working directory. -/
structure FileSystem where
  nodes : List (List String × FileNode) := []
  working : List String := []

namespace FileSystem

/-- What stands at a path of names; the root is always a directory. -/
def node? (files : FileSystem) (path : List String) : Option FileNode :=
  if path = [] then some .directory else files.nodes.lookup path

/-- The longest name in bytes. -/
def longestName : Nat := 255

/-- The longest path text in bytes. -/
def longestPath : Nat := 4095

/-- Why a path text is refused before it is followed. -/
def refusal? (text : String) : Option SystemError :=
  if text.toList.contains '\x00' then some .nullCharacter
  else if text = "" then some .missing
  else if longestPath < text.utf8ByteSize then some .nameTooLong
  else none

/-- The path that a name leads to from a directory. -/
def enter (files : FileSystem) (path : List String) (name : String) :
    Except SystemError (List String) :=
  match files.node? path with
  | none => .error .missing
  | some (.file _) => .error .notDirectory
  | some .directory =>
      if name = "." then .ok path
      else if name = ".." then .ok path.dropLast
      else if longestName < name.utf8ByteSize then .error .nameTooLong
      else if (files.node? (path ++ [name])).isSome then .ok (path ++ [name])
      else .error .missing

/-- The path that names lead to, one after the other. -/
def walk (files : FileSystem) (path : List String) : List String → Except SystemError (List String)
  | [] => .ok path
  | name :: rest =>
      match files.enter path name with
      | .error error => .error error
      | .ok next => files.walk next rest

/-- Where a path text starts. -/
def origin (files : FileSystem) (text : String) : List String :=
  if PathText.isAbsolute text then [] else files.working

/-- What stands at the end of a path text. -/
def find (files : FileSystem) (text : String) : Except SystemError (List String × FileNode) :=
  match refusal? text with
  | some error => .error error
  | none =>
      match files.walk (files.origin text) (PathText.names text) with
      | .error error => .error error
      | .ok path =>
          match files.node? path with
          | none => .error .missing
          | some .directory => .ok (path, .directory)
          | some (.file content) =>
              if PathText.endsInSlash text then .error .notDirectory else .ok (path, .file content)

/-- Whether anything stands at the end of a path text. -/
def exists? (files : FileSystem) (text : String) : Bool :=
  match files.find text with
  | .ok _ => true
  | .error _ => false

/-- Whether a directory stands at the end of a path text. -/
def isDirectory (files : FileSystem) (text : String) : Bool :=
  match files.find text with
  | .ok (_, .directory) => true
  | _ => false

/-- The content of a file. -/
def read (files : FileSystem) (text : String) : Except FileFault ByteArray :=
  match files.find text with
  | .error error => .error ⟨error, text⟩
  | .ok (_, .directory) => .error ⟨.isDirectory, text⟩
  | .ok (_, .file content) => .ok content

/-- The place at which a path text would make a new entry: the directory and the name, or the
directory alone when the last name leads to one that is there in any case. -/
def place (files : FileSystem) (text : String) : Except SystemError (List String × Option String) :=
  match refusal? text with
  | some error => .error error
  | none =>
      let names := PathText.names text
      match files.walk (files.origin text) names.dropLast with
      | .error error => .error error
      | .ok path =>
          match files.node? path, names.getLast? with
          | none, _ => .error .missing
          | some (.file _), _ => .error .notDirectory
          | some .directory, none => .ok (path, none)
          | some .directory, some name =>
              if name = "." ∨ name = ".." then .ok (path, none) else .ok (path, some name)

/-- The file system with something else at a path. -/
def put (files : FileSystem) (path : List String) (node : FileNode) : FileSystem :=
  if (files.nodes.lookup path).isSome then
    { files with
      nodes := files.nodes.map fun entry => if entry.1 = path then (path, node) else entry }
  else { files with nodes := files.nodes ++ [(path, node)] }

/-- The file system with a new directory. -/
def makeDirectory (files : FileSystem) (text : String) : Except FileFault FileSystem :=
  match files.place text with
  | .error error => .error ⟨error, text⟩
  | .ok (_, none) => .error ⟨.exists, text⟩
  | .ok (path, some name) =>
      if longestName < name.utf8ByteSize then .error ⟨.nameTooLong, text⟩
      else if (files.node? (path ++ [name])).isSome then .error ⟨.exists, text⟩
      else .ok (files.put (path ++ [name]) .directory)

/-- The file system with the content of a file written anew. -/
def write (files : FileSystem) (text : String) (content : ByteArray) :
    Except FileFault FileSystem :=
  match files.place text with
  | .error error => .error ⟨error, text⟩
  | .ok (_, none) => .error ⟨.isDirectory, text⟩
  | .ok (path, some name) =>
      if PathText.endsInSlash text then .error ⟨.isDirectory, text⟩
      else if longestName < name.utf8ByteSize then .error ⟨.nameTooLong, text⟩
      else
        match files.node? (path ++ [name]) with
        | some .directory => .error ⟨.isDirectory, text⟩
        | _ => .ok (files.put (path ++ [name]) (.file content))

/-- The file system with a new directory, or as it is if the directory is there already. -/
def makeLast (files : FileSystem) (text : String) : FileSystem × Except FileFault Unit :=
  match files.makeDirectory text with
  | .ok made => (made, .ok ())
  | .error fault => if files.isDirectory text then (files, .ok ()) else (files, .error fault)

/-- The making of a directory once the directories above it are made. Another one that was there
in the meantime is no fault, and a last part that means the directory itself needs nothing more.
-/
def makeBelow (tail text : String) : FileSystem × Except FileFault Unit →
    FileSystem × Except FileFault Unit
  | (files, .error fault) =>
      if fault.error ≠ .exists then (files, .error fault)
      else if tail = "." then (files, .ok ()) else files.makeLast text
  | (files, .ok ()) => if tail = "." then (files, .ok ()) else files.makeLast text

/-- The file system with a directory and all directories on the way to it. A directory that is there
already is no fault; what was made before a fault stays. -/
def makeDirectories (files : FileSystem) (text : String) : FileSystem × Except FileFault Unit :=
  let head := (PathText.parts text).1
  let tail := (PathText.parts text).2
  if _deeper : tail ≠ "" ∧ head ≠ "" ∧ files.exists? head = false then
    makeBelow tail text (files.makeDirectories head)
  else files.makeLast text
termination_by text.length
decreasing_by exact PathText.length_parts_lt _deeper.1

end FileSystem

end CatalogClient
