/-
# The machine

What the program finds around it and does not decide itself: what the network answers when a
reference names a document there, what is said about the options of the command and of a settings
file that cannot be read, and how far down the calls of its interpreter reach. The limits of the
calls differ from one interpreter to the next and say nothing about a document. The values that hold
by default are those of a machine without a network, on an interpreter with room for a thousand
calls in each other.
-/

import CatalogClient.Storage.FileSystem

namespace CatalogClient

/-- What is answered for a name on the network: the bytes of a document, or the words for the error
that there is none. -/
abbrev Network : Type :=
  String → Except String ByteArray

/-- A network on which no host is found. -/
def Network.unplugged : Network := fun _ =>
  .error "URLError: <urlopen error [Errno -3] Temporary failure in name resolution>"

/-- The machine that the program runs on. -/
structure Machine where
  network : Network := .unplugged
  /-- What is said about the options of the command, in lines as long as the terminal takes. -/
  helpText : String := ""
  /-- The words for what is wrong with the text of a settings file, if they are told. -/
  settingsWords : List Char → Option String := fun _ => none
  /-- How deep lists and objects of a text may stand in each other when it is read. -/
  nesting : Nat := 987
  /-- The most lists and objects above a part of a document in which references are looked for. -/
  depth : Nat := 494
  /-- The most references that may lead through each other. -/
  chain : Nat := 245
  /-- The most lists and objects above a part of the value in which references are replaced. -/
  descent : Nat := 987
  /-- The most documents that lead from the first one to one that is known. -/
  documents : Nat := 1232

/-- Whether the machine reaches to the deepest part of a document that has no references. -/
def Machine.Reaches (machine : Machine) (depth : Nat) : Prop :=
  depth ≤ machine.depth ∧ depth ≤ machine.descent

instance (machine : Machine) (depth : Nat) : Decidable (machine.Reaches depth) :=
  inferInstanceAs (Decidable (_ ∧ _))

/-- What references are resolved with: the files that they may name, and the machine. -/
structure Resolver where
  files : FileSystem := {}
  machine : Machine := {}

end CatalogClient
