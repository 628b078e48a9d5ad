/-
# Synchronizing with a repository

A client is pulled or cloned before it is generated, and added, committed and pushed afterwards.
An action that fails in a way that is foreseen does not end the generation: it is reported, and the
synchronization answers that it failed. Anything else that a repository raises goes through.
-/

import CatalogClient.Session
import CatalogClient.Settings.Basic

namespace CatalogClient

/-- Where a client is kept, the credentials for its remote, and whether its repository was opened.
-/
structure Synchronizer where
  directory : String
  remoteUrl : Option Toml := none
  username : Option Toml := none
  token : Option Toml := none
  isOpen : Bool := false
  deriving DecidableEq

/-- The user name that goes with a token where no other is set. -/
def tokenUsername : String := "oauth2"

namespace Synchronizer

/-- The credentials, if there is a token. -/
def credentials (synchronizer : Synchronizer) : Option Credentials :=
  (synchronizer.token.filter Toml.isSet).map fun token =>
    ⟨(synchronizer.username.filter Toml.isSet).getD (.string tokenUsername), token⟩

/-- The directory that makes the output directory a repository. -/
def repositoryPath (synchronizer : Synchronizer) : String :=
  PathText.join synchronizer.directory ".git"

/-- Ask for an action, which the repository may refuse. -/
def request (synchronizer : Synchronizer) (git : GitBehaviour) (action : GitAction)
    (operation : GitOperation) : Run GitError Unit := fun start =>
  (start.act action,
    match git.failure operation with
    | none => .ok ()
    | some failure => .error (failure.toError operation synchronizer.directory))

/-- Set up the credentials for the next action. -/
def setUp (synchronizer : Synchronizer) : Run GitError Unit :=
  Staged.change (·.act (.setUp synchronizer.credentials))

/-- Open the repository that is there and bring it up to date. -/
def openExisting (synchronizer : Synchronizer) (git : GitBehaviour) : Run GitError Unit := do
  Run.note .info ("Opening existing repository " ++ synchronizer.directory)
  synchronizer.request git (.openExisting synchronizer.directory) .openExisting
  if isGiven synchronizer.remoteUrl && git.remotes.contains originRemote then
    synchronizer.setUp
    synchronizer.request git .pull .pull
    Run.note .info "Repository updated"

/-- Make a copy of the remote repository. -/
def clone (synchronizer : Synchronizer) (git : GitBehaviour) (url : Toml) :
    Run GitError Unit := do
  Run.note .info ("Cloning " ++ url.shown ++ " into " ++ synchronizer.directory)
  synchronizer.request git (.clone url synchronizer.directory synchronizer.credentials) .clone
  Staged.change fun session =>
    { session with files := (session.files.makeDirectories synchronizer.repositoryPath).1 }

/-- Open the repository of the output directory, or clone it if there is none. -/
def openOrClone (synchronizer : Synchronizer) (git : GitBehaviour) : Run GitError Unit := do
  let files ← Run.files
  if files.isDirectory synchronizer.repositoryPath then synchronizer.openExisting git
  else
    match synchronizer.remoteUrl.filter Toml.isSet with
    | some url => synchronizer.clone git url
    | none =>
        throw (.fault
          ⟨.openExisting, synchronizer.directory ++ " is not a repository and no remote is set"⟩)

/-- Add all changes. -/
def add (synchronizer : Synchronizer) (git : GitBehaviour) : Run GitError Unit := do
  synchronizer.request git .add .add
  Run.note .info "Changes added"

/-- Commit what was added, and tell whether there was anything to commit. -/
def commit (synchronizer : Synchronizer) (git : GitBehaviour) (message : Toml) :
    Run GitError Bool := do
  if git.hasHead && !git.isDirty then
    Run.note .info "No changes to commit"
    return false
  else
    synchronizer.request git (.commit message) .commit
    Run.note .info
      ("Created commit " ++ String.ofList (git.commitName.toList.take 8) ++ " - " ++ message.shown)
    return true

/-- Report what a push did, line by line. -/
def notePushed : List String → Run GitError Unit
  | [] => pure ()
  | report :: rest => do
      Run.note .info ("Pushed " ++ String.ofList (Text.trim report.toList))
      notePushed rest

/-- Push to the remote, if there is one. -/
def push (synchronizer : Synchronizer) (git : GitBehaviour) : Run GitError Unit := do
  if git.remotes.contains originRemote then
    synchronizer.setUp
    synchronizer.request git .push .push
    notePushed git.pushReports
  else Run.note .info "No origin remote, skipping push"

/-- Add, commit and push; nothing is pushed unless something was committed. -/
def publish (synchronizer : Synchronizer) (git : GitBehaviour) (message : Toml) :
    Run GitError Unit := do
  synchronizer.add git
  if ← synchronizer.commit git message then synchronizer.push git

/-- What a synchronization leaves, and its answer, whether it succeeded. It has none if the
repository raises anything that is not caught. -/
structure Outcome where
  synchronizer : Synchronizer
  session : Session
  answer : Except GitFailure Bool

/-- Whether a synchronization answers that it succeeded. -/
def Outcome.succeeded (outcome : Outcome) : Bool :=
  match outcome.answer with
  | .ok succeeded => succeeded
  | .error _ => false

/-- The end of a synchronization: a fault is reported. -/
def settle (synchronizer : Synchronizer) : Session × Except GitError Unit → Outcome
  | (session, .ok ()) => ⟨synchronizer, session, .ok true⟩
  | (session, .error (.fault fault)) =>
      ⟨synchronizer, session.note .error fault.message, .ok false⟩
  | (session, .error (.raised failure)) => ⟨synchronizer, session, .error failure⟩

/-- Open or clone the repository before a generation. A repository that was opened earlier stays
open when this fails. -/
def prepare (synchronizer : Synchronizer) (git : GitBehaviour) (start : Session) : Outcome :=
  match synchronizer.openOrClone git start with
  | (session, .ok ()) => settle { synchronizer with isOpen := true } (session, .ok ())
  | (session, .error error) => settle synchronizer (session, .error error)

/-- Publish the changes after a generation; the repository is opened or cloned first if it was
not. -/
def sync (synchronizer : Synchronizer) (git : GitBehaviour) (message : Toml) (start : Session) :
    Outcome :=
  if synchronizer.isOpen then settle synchronizer (synchronizer.publish git message start)
  else
    match synchronizer.openOrClone git start with
    | (session, .error error) => settle synchronizer (session, .error error)
    | (session, .ok ()) =>
        settle { synchronizer with isOpen := true } (synchronizer.publish git message session)

end Synchronizer

end CatalogClient
