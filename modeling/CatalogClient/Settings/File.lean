/-
# Settings files

Settings are kept in a file of a fixed name in the working directory; a file of that name in a
directory to search goes first. The token is read from the file but never written to it.
-/

import CatalogClient.Settings.Basic
import CatalogClient.Text.Lines
import CatalogClient.Toml.File
import CatalogClient.Toml.Printer

namespace CatalogClient

/-- Why a settings file cannot be written: the file cannot, or a value cannot be put into text. -/
inductive SettingsSaveFault
  | file (fault : FileFault)
  | text (fault : Toml.Fault)
  deriving DecidableEq, Repr

/-- The name of a settings file. -/
def settingsFileName : String := "axios_client.toml"

namespace Settings

/-- The settings file to read: the one in the directory to search, if there is one, or else the
one at the given path. -/
def filePath (files : FileSystem) (path : String) (searched : Option String) : String :=
  match searched with
  | none => path
  | some directory =>
      let inside := PathText.join directory settingsFileName
      if directory ≠ "" && files.isDirectory directory && files.exists? inside then inside else path

/-- The list of the packages that a settings file names: one, or the parts of a list or a table. -/
def packagesOf : Option Toml → Except SettingsFault Toml
  | none => .ok (.list [])
  | some (.string name) => .ok (.list [.string name])
  | some value =>
      match value.parts? with
      | some parts => .ok (.list parts)
      | none => .error .wrongKind

/-- The settings that the table of a settings file stands for. -/
def ofTable (entries : Keyed Toml) : Except SettingsFault Settings :=
  (packagesOf (entries.get? "packages")).map fun packages =>
    { url := entries.get? "url"
      directory := some ((entries.get? "dirname").getD (.string defaultDirectory))
      packages
      gitUrl := entries.get? "git_url"
      gitUsername := entries.get? "git_username"
      gitToken := entries.get? "git_token"
      commitMessage := some ((entries.get? "commit_message").getD (.string defaultCommitMessage)) }

/-- The settings in a file. -/
def readFile (files : FileSystem) (path : String) : Except SettingsFault Settings :=
  match files.read path with
  | .error fault => .error (.unreadable path fault)
  | .ok content =>
      match Text.ofBytes? content with
      | none => .error .undecodable
      | some text =>
          match Toml.readFile text with
          | .error .malformed => .error (.malformed path text)
          | .error fault => .error (.broken fault)
          | .ok entries => ofTable entries

/-- The settings of a settings file, if there is one. -/
def load (files : FileSystem) (path : String) (searched : Option String) :
    Except SettingsFault (Option Settings) :=
  let found := filePath files path searched
  if files.exists? found then (readFile files found).map some else .ok none

/-- The table of a settings file: everything but the token, as far as it is there. -/
def toTable (settings : Settings) : Keyed Toml :=
  let entry (key : String) (value : Option Toml) : Keyed Toml :=
    (value.map fun value => (key, value)).toList
  entry "url" settings.url ++ entry "dirname" settings.directory
    ++ [("packages", settings.packages)] ++ entry "git_url" settings.gitUrl
    ++ entry "git_username" settings.gitUsername ++ entry "commit_message" settings.commitMessage

/-- The text of a settings file. -/
def print (settings : Settings) : Except Toml.Fault String :=
  (Toml.printFile settings.toTable).map String.ofList

/-- Write a settings file. It is empty at first, and stays so if the settings cannot be written. -/
def save (settings : Settings) (files : FileSystem) (path : String) :
    FileSystem × Except SettingsSaveFault Unit :=
  match files.write path ByteArray.empty with
  | .error fault => (files, .error (.file fault))
  | .ok made =>
      match settings.print with
      | .error fault => (made, .error (.text fault))
      | .ok text =>
          match made.write path text.toUTF8 with
          | .error fault => (made, .error (.file fault))
          | .ok written => (written, .ok ())

end Settings

end CatalogClient
