/-
# Running the command

The command generates a client: it settles the settings, brings the repository up to date, loads
the catalog, generates the client, saves it, and publishes it. Or it writes a settings file.
Nothing is saved before the whole client is generated.
-/

import CatalogClient.Catalog.Loading
import CatalogClient.Client.Generate
import CatalogClient.Command.Options
import CatalogClient.Repository.Synchronizer
import CatalogClient.Settings.File
import CatalogClient.Storage.Save

namespace CatalogClient

/-- The world around a run: the web and the behaviour of repositories. -/
structure Surroundings where
  web : Web
  git : GitBehaviour

/-- Why a run ends early. -/
inductive RunFault
  | settings (fault : SettingsFault)
  | loading (fault : LoadFault)
  | building (fault : BuildFault)
  | saving (fault : SaveFault)
  | savingSettings (fault : SettingsSaveFault)

/-- The words in which the command reports a fault. Other faults are not its own and end it at
once. -/
def RunFault.report? (fault : RunFault) (machine : Machine := {}) : Option String :=
  match fault with
  | .settings fault => fault.message? machine
  | .loading fault => fault.message?
  | .building (.unbound placeholder function) => some (unboundMessage placeholder function)
  | .building (.rejected _) => none
  | .saving fault => fault.message?
  | .savingSettings _ => none

namespace Command

/-- The settings of a run: those of the settings file, if there is one, with the options in their
place. -/
def settle (options : Overrides) : Run RunFault Settings := do
  let files ← Run.files
  let found ← Staged.ofExcept
    ((Settings.load files settingsFileName options.directory).mapError .settings)
  match found with
  | some settings =>
      Run.print ("📋 Используется конфиг " ++ settingsFileName)
      return settings.overrideWith options
  | none =>
      let settings : Settings := { directory := some (.string defaultDirectory) }
      return settings.overrideWith options

/-- The repository of a client, whose output directory has to be a text. -/
def synchronizerOf (settings : Settings) : Except SettingsFault Synchronizer :=
  settings.directoryText.map fun directory =>
    { directory
      remoteUrl := settings.gitUrl
      username := settings.gitUsername
      token := settings.gitToken }

/-- Records that two logs have in common at their start. -/
def commonStart : Log → Log → Log
  | first :: firsts, second :: seconds =>
      if first = second then first :: commonStart firsts seconds else []
  | _, _ => []

/-- The client of a catalog for the packages of settings. A package that is no text ends the
generation when a type is held against it. That is so if it makes a difference to admit all packages
from there on. -/
def generateFor (catalog : Catalog) (packages : List Toml) : Logged RunFault Generated :=
  let given := packages.filter Toml.isSet
  let starts := (given.takeWhile fun package => package.text?.isSome).filterMap Toml.text?
  let generated := catalog.generate starts
  if starts.length = given.length then generated.mapError .building
  else
    let unlimited := catalog.generateWithin ⟨starts ++ [""]⟩ []
    if generated.log = unlimited.log
        ∧ generated.outcome.toOption = unlimited.outcome.toOption then
      generated.mapError .building
    else ⟨commonStart generated.log unlimited.log, .error (.settings .wrongKind)⟩

/-- Load the catalog and generate the client, without saving it. -/
def generate (web : Web) (settings : Settings) : Run RunFault Project := do
  Run.print ("🚀 Генерация клиента из " ++ (settings.url.getD .absent).shown)
  Run.print "📥 Загрузка каталога операций..."
  let url ← Staged.ofExcept (settings.urlText.mapError .settings)
  let files ← Run.files
  let machine ← Run.machine
  let catalog ← Run.ofLogged ((Catalog.load web files url machine).mapError .loading)
  Run.print "⚙️ Генерация кода..."
  let packages ← match settings.packages.parts? with
    | some packages => pure packages
    | none => throw (.settings .wrongKind)
  let generated ← Run.ofLogged (generateFor catalog packages)
  return generated.project

/-- Save a client in a directory. -/
def saveIn (directory : String) (project : Project) : Run RunFault Unit := do
  Staged.change (·.notes [project.saveRecord directory])
  fun session =>
    let saved := project.save directory session.files
    ({ session with files := saved.1 }, saved.2.mapError .saving)

/-- The path of a directory from the root. -/
def absolutePath (files : FileSystem) (directory : String) : String :=
  let names := PathText.names directory
  PathText.ofRoot
    (PathText.normalize (if PathText.isAbsolute directory then names else files.working ++ names))

/-- Save a client in the output directory of settings, which has to be a text, and announce it. -/
def save (settings : Settings) (project : Project) : Run RunFault Unit := do
  Run.print ("💾 Сохранение " ++ toString project.files.length ++ " файлов...")
  let directory ← match settings.directoryText with
    | .ok directory => pure directory
    | .error fault => do
        Staged.change (·.notes [project.saveRecord (settings.directory.getD .absent).shown])
        throw (.settings fault)
  saveIn directory project
  let files ← Run.files
  Run.print "✅ Генерация завершена успешно!"
  Run.print ("📦 Клиент создан в: " ++ absolutePath files directory)

/-- Bring the repository up to date before the generation. Only what it raises ends the run. -/
def prepare (git : GitBehaviour) (synchronizer : Synchronizer) : Run RunFault Synchronizer :=
  fun session =>
    let outcome := synchronizer.prepare git session
    match outcome.answer with
    | .ok _ => (outcome.session, .ok outcome.synchronizer)
    | .error failure => (outcome.session, .error (.settings (.repository failure)))

/-- Publish the saved client, and tell whether this went well. -/
def publish (git : GitBehaviour) (synchronizer : Synchronizer) (message : Toml) :
    Run RunFault Unit := fun session =>
  let outcome := synchronizer.sync git message session
  match outcome.answer with
  | .ok true => (outcome.session.print "🔄 Изменения отправлены в git", .ok ())
  | .ok false =>
      (outcome.session.print "⚠️ Не удалось синхронизировать с git, подробности в логе", .ok ())
  | .error failure => (outcome.session, .error (.settings (.repository failure)))

/-- Generate and save a client. -/
def produce (web : Web) (settings : Settings) : Run RunFault Project := do
  let project ← generate web settings
  save settings project
  return project

/-- Generate and save a client under the given settings, with its repository if it has one. -/
def run (surroundings : Surroundings) (settings : Settings) (noGit : Bool) :
    Run RunFault Project := do
  let files ← Run.files
  Staged.ofExcept ((settings.validate files).mapError .settings)
  if !noGit && settings.usesGit then
    let synchronizer ← Staged.ofExcept ((synchronizerOf settings).mapError .settings)
    let prepared ← prepare surroundings.git synchronizer
    let project ← produce surroundings.web settings
    publish surroundings.git prepared (settings.commitMessage.getD .absent)
    return project
  else produce surroundings.web settings

/-- The settings that the options alone stand for. The token is left out. -/
def settingsOf (options : Overrides) : Settings where
  url := options.url.map .string
  directory := overridden options.directory (some (.string defaultDirectory))
  packages := .list (options.packages.map .string)
  gitUrl := options.gitUrl.map .string
  gitUsername := options.gitUsername.map .string

/-- Write a settings file for the options. -/
def writeSettings (options : Overrides) : Run RunFault Unit := do
  fun session =>
    let saved := (settingsOf options).save session.files settingsFileName
    ({ session with files := saved.1 }, saved.2.mapError .savingSettings)
  Run.print ("✅ Создан конфиг файл " ++ settingsFileName)

/-- How the command ends. -/
inductive End
  | exit (status : Nat)
  | failed (fault : RunFault)

/-- The end of a run that may have ended early: a fault of the command's own is printed. -/
def finish : Session × Except RunFault Unit → Session × End
  | (session, .ok ()) => (session, .exit 0)
  | (session, .error fault) =>
      match fault.report? session.machine with
      | some text => (session.print ("❌ Ошибка генерации: " ++ text), .exit 1)
      | none => (session, .failed fault)

/-- The whole of a generation with the given options. -/
def generation (surroundings : Surroundings) (options : Options) : Run RunFault Unit := do
  let settings ← settle options.overrides
  let _ ← run surroundings settings options.noGit

/-- The command with its arguments. It prints what there is to say about its options if it is asked
for help; arguments that do not fit together end it with status two. -/
def execute (surroundings : Surroundings) (arguments : List String) (start : Session) :
    Session × End :=
  match Options.read arguments with
  | .error .help => (start.print start.machine.helpText, .exit 0)
  | .error .misfit => (start, .exit 2)
  | .ok options =>
      if options.initConfig then finish (writeSettings options.overrides start)
      else finish (generation surroundings options start)

end Command

end CatalogClient
