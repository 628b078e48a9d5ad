/-
# The command on a real machine

The command is run on a picture of the files that it may look at; what it made is written to disk
afterwards, its lines are printed, and the records of its log go to the error output. Neither the
web nor repositories can be reached from here.
-/

import CatalogClient.Command.Run

namespace CatalogClient.Machine

/-- What stands at a path on disk. -/
def look (path : String) : IO (Option FileNode) := do
  try
    return some (.file (← IO.FS.readBinFile path))
  catch error =>
    match error with
    | .inappropriateType _ 21 _ => return some .directory
    | _ => return none

/-- The names that lead from the root to a path text. -/
def namesOf (working : List String) (path : String) : List String :=
  let names := PathText.names path
  PathText.normalize (if PathText.isAbsolute path then names else working ++ names)

/-- The picture with what stands at a path, and the directories above it. -/
def addSight (files : FileSystem) (path : String) : IO FileSystem := do
  match ← look path with
  | none => return files
  | some node =>
      let names := namesOf files.working path
      let above := (files.makeDirectories (PathText.ofRoot names.dropLast)).1
      return if names = [] then above else above.put names node

/-- The picture of the files that a run with the given options looks at. -/
def picture (options : Options) : IO FileSystem := do
  let working := PathText.names (← IO.currentDir).toString
  let empty : FileSystem := { working }
  let start := (empty.makeDirectories (PathText.ofRoot working)).1
  let directory := options.overrides.directory.getD ""
  let withSettings ← [directory, settingsFileName, PathText.join directory settingsFileName].foldlM
    addSight start
  match (Command.settle options.overrides { files := withSettings }).2 with
  | .error _ => return withSettings
  | .ok settings =>
      let output := (settings.directory.bind Toml.text?).getD ""
      let source := (settings.url.bind Toml.text?).getD ""
      [output, PathText.join output ".git", source].foldlM addSight withSettings

/-- Write to disk what differs between two pictures. -/
def store (before after : FileSystem) : IO Unit :=
  for (path, node) in after.nodes do
    if before.node? path ≠ some node then
      match node with
      | .directory => IO.FS.createDirAll (PathText.ofRoot path)
      | .file content => IO.FS.writeBinFile (PathText.ofRoot path) content

/-- The world around a run on this machine. -/
def surroundings : Surroundings where
  web _ := .failed "no connection to the web"
  git := { failure := fun _ => some (.refused "no connection to repositories") }

/-- Print the records of a log that are to be seen. -/
def printLog (verbose : Bool) (log : Log) : IO Unit :=
  for record in log.atLeast (if verbose then .debug else .warning) do
    IO.eprintln (record.severity.label ++ ": " ++ record.text)

/-- The options in one line. -/
def usage : String :=
  "usage: [" ++ "] [".intercalate (OptionName.all.map OptionName.label) ++ "]"

/-- Run the command and answer its exit status. -/
def run (arguments : List String) : IO UInt32 := do
  match Options.read arguments with
  | .error .help =>
      IO.println usage
      return 0
  | .error .misfit =>
      IO.eprintln usage
      return 2
  | .ok options =>
      let before ← picture options
      let (session, ended) := Command.execute surroundings arguments { files := before }
      store before session.files
      IO.print session.output
      printLog options.verbose session.log
      match ended with
      | .exit status => return status.toUInt32
      | .failed _ =>
          IO.eprintln "the catalog or the settings cannot be used"
          return 1

end CatalogClient.Machine

/-- The command. -/
def main (arguments : List String) : IO UInt32 :=
  CatalogClient.Machine.run arguments
