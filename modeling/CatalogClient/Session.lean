/-
# Sessions

A session is what a run of the program works on and leaves behind: the file system, the lines it
prints, the records of its log, and the actions it asks of a repository. The machine that it runs on
stays the same.
-/

import CatalogClient.Log
import CatalogClient.Machine
import CatalogClient.Repository.Git
import CatalogClient.Staged
import CatalogClient.Storage.FileSystem

namespace CatalogClient

/-- The state of a run. -/
structure Session where
  files : FileSystem := {}
  printed : List String := []
  log : Log := []
  actions : List GitAction := []
  machine : Machine := {}

namespace Session

/-- The session with one more record. -/
def note (session : Session) (severity : Severity) (text : String) : Session :=
  { session with log := session.log ++ [⟨severity, text⟩] }

/-- The session with further records. -/
def notes (session : Session) (log : Log) : Session :=
  { session with log := session.log ++ log }

/-- The session with one more printed line. -/
def print (session : Session) (line : String) : Session :=
  { session with printed := session.printed ++ [line] }

/-- The session with one more action. -/
def act (session : Session) (action : GitAction) : Session :=
  { session with actions := session.actions ++ [action] }

/-- The printed text. -/
def output (session : Session) : String :=
  String.join (session.printed.map (· ++ "\n"))

end Session

/-- A part of a run, which may fail. -/
abbrev Run (ε α : Type) : Type :=
  Staged Session ε α

namespace Run

variable {ε α : Type}

/-- A single record. -/
def note (severity : Severity) (text : String) : Run ε Unit :=
  Staged.change (·.note severity text)

/-- A single printed line. -/
def print (line : String) : Run ε Unit :=
  Staged.change (·.print line)

/-- The file system as it is. -/
def files : Run ε FileSystem := fun start => (start, .ok start.files)

/-- The machine of the run. -/
def machine : Run ε Machine := fun start => (start, .ok start.machine)

/-- A logged computation, which leaves the file system alone. -/
def ofLogged (computation : Logged ε α) : Run ε α := fun start =>
  (start.notes computation.log, computation.outcome)

end Run

end CatalogClient
