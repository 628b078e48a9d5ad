/-
# Repositories

What is asked of a repository, and how it behaves. A repository may refuse every action with a
reason of its own, but of the reasons only some are foreseen. User name and token go into the
environment of the actions that talk to a remote. They and the address of the remote come from
settings, so they may be of any kind.
-/

import CatalogClient.Text.Blank
import CatalogClient.Toml.Words

namespace CatalogClient

/-- The kinds of actions on a repository. -/
inductive GitOperation
  | openExisting
  | clone
  | pull
  | add
  | commit
  | push
  deriving DecidableEq, Repr

/-- The name of an action. -/
def GitOperation.label : GitOperation → String
  | .openExisting => "open"
  | .clone => "clone"
  | .pull => "pull"
  | .add => "add"
  | .commit => "commit"
  | .push => "push"

/-- The user name and the token for a remote. -/
structure Credentials where
  username : Toml
  token : Toml
  deriving DecidableEq

/-- The program that answers when it is asked for a user name or a password. -/
def askpassScript : String :=
  "#!/bin/sh\ncase \"$1\" in\n    Username*) printf '%s\\n' \"$GIT_USERNAME\" ;;\n"
    ++ "    *) printf '%s\\n' \"$GIT_PASSWORD\" ;;\nesac\n"

/-- The variables that carry the credentials, given where the asking program lies. -/
def Credentials.variables (credentials : Credentials) (askpass : String) : Keyed Toml :=
  [("GIT_ASKPASS", .string askpass), ("GIT_TERMINAL_PROMPT", .string "0"),
    ("GIT_USERNAME", credentials.username), ("GIT_PASSWORD", credentials.token)]

/-- One action on a repository. Credentials are set up before an action that needs them. -/
inductive GitAction
  | openExisting (directory : String)
  | clone (url : Toml) (directory : String) (credentials : Option Credentials)
  | setUp (credentials : Option Credentials)
  | pull
  | add
  | commit (message : Toml)
  | push
  deriving DecidableEq

/-- The kind of an action; setting up credentials is none by itself. -/
def GitAction.operation? : GitAction → Option GitOperation
  | .openExisting _ => some .openExisting
  | .clone _ _ _ => some .clone
  | .setUp _ => none
  | .pull => some .pull
  | .add => some .add
  | .commit _ => some .commit
  | .push => some .push

/-- Why an action is refused: the program ends with a code, there is no repository or no such path,
a value is not accepted, or something else goes wrong. -/
inductive GitFailure
  | exitCode (code : Int)
  | noRepository
  | refused (reason : String)
  | unforeseen (words : String)
  deriving DecidableEq, Repr

/-- Whether a refusal of an action is caught: a missing repository when it is opened, a value that
is not accepted when it is committed, and an exit code in all actions but the opening. -/
def GitOperation.catches : GitOperation → GitFailure → Bool
  | .openExisting, .noRepository => true
  | .openExisting, _ => false
  | .commit, .refused _ => true
  | _, .exitCode _ => true
  | _, _ => false

/-- A refused action in words. -/
def GitFailure.message (operation : GitOperation) (directory : String) : GitFailure → String
  | .exitCode code =>
      "Cmd('git') failed due to: exit code(" ++ toString code ++ ")\n  cmdline: git "
        ++ operation.label
  | .noRepository => directory
  | .refused reason => reason
  | .unforeseen words => words

/-- How a repository behaves: what it refuses, its remotes, whether it has a commit, whether
anything is staged, what a push reports, the name of a new commit, and whether the remote takes a
push. A remote may turn down what is pushed although the push is not refused. Only the flags of the
reports tell so then. -/
structure GitBehaviour where
  failure : GitOperation → Option GitFailure := fun _ => none
  remotes : List String := ["origin"]
  hasHead : Bool := true
  isDirty : Bool := true
  pushReports : List String := []
  commitName : String := ""
  takesPush : Bool := true

/-- The remote that a client is pulled from and pushed to. -/
def originRemote : String := "origin"

/-- A failed action and the reason in words. -/
structure GitFault where
  operation : GitOperation
  reason : String
  deriving DecidableEq, Repr

/-- The text of the record that a failed action leaves. -/
def GitFault.message (fault : GitFault) : String :=
  "Git " ++ fault.operation.label ++ " failed: " ++ fault.reason

/-- What ends a synchronization early: a failed action that is caught, or anything else that the
repository raises. -/
inductive GitError
  | fault (fault : GitFault)
  | raised (failure : GitFailure)
  deriving DecidableEq, Repr

/-- What a refused action ends with. -/
def GitFailure.toError (operation : GitOperation) (directory : String) (failure : GitFailure) :
    GitError :=
  if operation.catches failure then .fault ⟨operation, failure.message operation directory⟩
  else .raised failure

end CatalogClient
