/-
# What the parts of a run do to a session

Most parts of a run only print lines and note records. A relation between sessions that takes no
notice of these reports holds across every computation that is put together from such parts, and so
the files, or the actions that a repository is asked for, are followed through a run without its
reports.
-/

import CatalogClient.Proofs.Staged
import CatalogClient.Session

namespace CatalogClient

namespace Session

/-- Whether the files are the same in two sessions. -/
def SameFiles (start next : Session) : Prop :=
  next.files = start.files

/-- A relation between an earlier and a later session that takes no notice of lines and records. -/
structure IgnoresReports (R : Session → Session → Prop) : Prop where
  refl : ∀ session, R session session
  trans : ∀ first middle last, R first middle → R middle last → R first last
  print : ∀ session line, R session (session.print line)
  notes : ∀ session log, R session (session.notes log)

/-- Whether a session has the given files and runs on the given machine. -/
def FindsAround (resolver : Resolver) (session : Session) : Prop :=
  session.files = resolver.files ∧ session.machine = resolver.machine

theorem sameFiles_ignoresReports : IgnoresReports SameFiles where
  refl _ := rfl
  trans _ _ _ hmiddle hlast := hlast.trans hmiddle
  print _ _ := rfl
  notes _ _ := rfl

theorem IgnoresReports.note {R : Session → Session → Prop} (hR : IgnoresReports R)
    (session : Session) (severity : Severity) (text : String) :
    R session (session.note severity text) :=
  hR.notes session [⟨severity, text⟩]

end Session

namespace Run

variable {ε α β : Type}

theorem print_bind (line : String) (next : Unit → Run ε α) (start : Session) :
    (print line >>= next) start = next () (start.print line) :=
  rfl

theorem machine_bind (next : Machine → Run ε α) (start : Session) :
    (machine >>= next) start = next start.machine start :=
  rfl

theorem files_bind (next : FileSystem → Run ε α) (start : Session) :
    (files >>= next) start = next start.files start :=
  rfl

section Keeping

variable {R : Session → Session → Prop} (hR : Session.IgnoresReports R)
include hR

theorem keeps_bind {first : Run ε α} {next : α → Run ε β} (hfirst : Staged.Effects R first)
    (hnext : ∀ value, Staged.Effects R (next value)) : Staged.Effects R (first >>= next) :=
  Staged.Effects.bind hR.trans hfirst hnext

theorem keeps_pure (value : α) : Staged.Effects R (pure value : Run ε α) :=
  Staged.Effects.pure hR.refl value

theorem keeps_throw (error : ε) : Staged.Effects R (throw error : Run ε α) :=
  Staged.Effects.throw hR.refl error

theorem keeps_print (line : String) : Staged.Effects R (print line : Run ε Unit) :=
  fun start => hR.print start line

theorem keeps_note (severity : Severity) (text : String) :
    Staged.Effects R (note severity text : Run ε Unit) :=
  fun start => hR.note start severity text

theorem keeps_files : Staged.Effects R (files : Run ε FileSystem) :=
  fun start => hR.refl start

theorem keeps_machine : Staged.Effects R (machine : Run ε Machine) :=
  fun start => hR.refl start

theorem keeps_ofExcept (outcome : Except ε α) : Staged.Effects R (Staged.ofExcept outcome) :=
  fun start => hR.refl start

theorem keeps_ofLogged (computation : Logged ε α) : Staged.Effects R (ofLogged computation) :=
  fun start => hR.notes start computation.log

end Keeping

section Settling

variable {resolver : Resolver}

theorem settles_print (line : String) :
    Staged.Settles (·.FindsAround resolver) (print line : Run ε Unit) (.ok ()) :=
  fun _ hstart => ⟨hstart, rfl⟩

theorem settles_files : Staged.Settles (·.FindsAround resolver) (Run.files : Run ε FileSystem)
    (.ok resolver.files) :=
  fun _ hstart => ⟨hstart, congrArg Except.ok hstart.1⟩

theorem settles_machine : Staged.Settles (·.FindsAround resolver) (Run.machine : Run ε Machine)
    (.ok resolver.machine) :=
  fun _ hstart => ⟨hstart, congrArg Except.ok hstart.2⟩

theorem settles_ofExcept (outcome : Except ε α) :
    Staged.Settles (·.FindsAround resolver) (Staged.ofExcept outcome : Run ε α) outcome :=
  fun _ hstart => ⟨hstart, rfl⟩

theorem settles_ofLogged (computation : Logged ε α) :
    Staged.Settles (·.FindsAround resolver) (ofLogged computation) computation.outcome :=
  fun _ hstart => ⟨hstart, rfl⟩

end Settling

end Run

end CatalogClient
