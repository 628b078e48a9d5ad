/-
# Settings

What a client is generated from, where it goes, and how it is kept in a repository. Settings come
from a settings file, whose values may be of any kind, and from the options of a command, which
take their place.
-/

import CatalogClient.Machine
import CatalogClient.Repository.Git

namespace CatalogClient

/-- The message of a commit where no other is set. -/
def defaultCommitMessage : String := "Updated typescript interfaces"

/-- The directory of a client where no other is set. -/
def defaultDirectory : String := "ts"

/-- The settings of a generation. -/
structure Settings where
  url : Option Toml := none
  directory : Option Toml := none
  packages : Toml := .list []
  gitUrl : Option Toml := none
  gitUsername : Option Toml := none
  gitToken : Option Toml := none
  commitMessage : Option Toml := some (.string defaultCommitMessage)

/-- The options that take the place of settings. -/
structure Overrides where
  url : Option String := none
  directory : Option String := none
  packages : List String := []
  gitUrl : Option String := none
  gitUsername : Option String := none
  gitToken : Option String := none
  deriving DecidableEq, Repr

/-- Why settings cannot be read or used. Most faults that have to do with the kind of a value have
no words of their own: a file that is no text, a file whose reading breaks down, a value of the
wrong kind, an address that is no text, and a number beyond all bounds. Neither has what the
repository of the settings raises without being caught. -/
inductive SettingsFault
  | unreadable (path : String) (fault : FileFault)
  | malformed (path : String) (text : List Char)
  | undecodable
  | broken (fault : Toml.Fault)
  | wrongKind
  | urlNoText
  | beyondBounds
  | noUrl
  | noDirectory
  | notDirectory (shown : String)
  | repository (failure : GitFailure)
  deriving DecidableEq, Repr

/-- A fault in words, if there are any. -/
def SettingsFault.message? (fault : SettingsFault) (machine : Machine := {}) : Option String :=
  match fault with
  | .unreadable path fault => some ("Unable to read " ++ path ++ ": " ++ fault.message)
  | .malformed path text =>
      some ("Unable to read " ++ path ++ ((machine.settingsWords text).map (": " ++ ·)).getD "")
  | .noUrl => some "Catalog url is not set"
  | .noDirectory => some "Output directory is not set"
  | .notDirectory shown => some ("Output path " ++ shown ++ " is not a directory")
  | _ => none

/-- An option that is given and not empty, or else a setting. -/
def overridden (option : Option String) (setting : Option Toml) : Option Toml :=
  match option with
  | some text => if text = "" then setting else some (.string text)
  | none => setting

/-- Whether a setting is there and counts as set. -/
def isGiven (setting : Option Toml) : Bool :=
  setting.any Toml.isSet

namespace Settings

/-- The settings with options in their place. -/
def overrideWith (settings : Settings) (options : Overrides) : Settings where
  url := overridden options.url settings.url
  directory := overridden options.directory settings.directory
  packages :=
    if options.packages = [] then settings.packages else .list (options.packages.map .string)
  gitUrl := overridden options.gitUrl settings.gitUrl
  gitUsername := overridden options.gitUsername settings.gitUsername
  gitToken := overridden options.gitToken settings.gitToken
  commitMessage := settings.commitMessage

/-- Whether the client is kept in a repository. -/
def usesGit (settings : Settings) : Bool :=
  isGiven settings.gitUrl

/-- The text that the output directory has to be. -/
def directoryText (settings : Settings) : Except SettingsFault String :=
  match settings.directory with
  | some (.string text) => .ok text
  | _ => .error .wrongKind

/-- The text that the address of the catalog has to be. -/
def urlText (settings : Settings) : Except SettingsFault String :=
  match settings.url with
  | some (.string text) => .ok text
  | _ => .error .urlNoText

/-- Check that an output directory is one, unless there is nothing under its name. An integer is
taken for the number of an open file, of which the two for output are none. -/
def checkDirectory (files : FileSystem) (value : Toml) : Except SettingsFault Unit :=
  let checkNumber (number : Int) : Except SettingsFault Unit :=
    if number < -0x80000000 ∨ 0x80000000 ≤ number then .error .beyondBounds
    else if number = 1 ∨ number = 2 then .error (.notDirectory value.shown)
    else .ok ()
  match value with
  | .string text =>
      if files.exists? text && !files.isDirectory text then .error (.notDirectory text) else .ok ()
  | .number (.integer number) => checkNumber number
  | .truth _ => checkNumber 1
  | _ => .error .wrongKind

/-- Check the settings that every generation needs. -/
def validate (settings : Settings) (files : FileSystem) : Except SettingsFault Unit :=
  if isGiven settings.url then
    match settings.directory.filter Toml.isSet with
    | some directory => checkDirectory files directory
    | none => .error .noDirectory
  else .error .noUrl

end Settings

end CatalogClient
