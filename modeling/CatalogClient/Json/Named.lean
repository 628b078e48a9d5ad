/-
# Documents under names

A name may carry a document in itself, plainly or in base 64, or it may lead to a file or onto the
network, which is asked for the document. Other names lead to no document: those without a scheme or
of an unknown one.
-/

import CatalogClient.Json.Reader
import CatalogClient.Machine
import CatalogClient.Text.Base64
import CatalogClient.Text.Blank
import CatalogClient.Text.Casing
import CatalogClient.Web.Sending
import CatalogClient.Web.Uri

namespace CatalogClient

/-- Why a name leads to no document. -/
inductive NameProblem
  | noScheme (name : List Char)
  | unknownScheme (scheme : String)
  | noHost
  | noFileHost
  | unanswered (words : String)
  | unavailable (fault : FileFault)
  | distantFile
  | foreignFile
  | unsent (fault : SendFault)
  | noComma
  | base64 (fault : Text.Base64.Fault)
  | notText (fault : Text.Utf8Fault)
  | unread (text : List Char) (fault : ReadFault)
  deriving DecidableEq, Repr

namespace NameProblem

/-- The words for a failed opening. -/
def openingMessage (reason : String) : String :=
  "URLError: <urlopen error " ++ reason ++ ">"

/-- The words for a text that is no document. -/
def readMessage (text : List Char) (fault : ReadFault) : String :=
  (match fault with
    | .malformed _ _ => "JSONDecodeError: "
    | .longInteger _ => "ValueError: "
    | .deepList | .deepObject => "RecursionError: ") ++ fault.message text

/-- The words for a problem. -/
def message : NameProblem → String
  | .noScheme name => "ValueError: unknown url type: " ++ Text.quote (String.ofList name)
  | .unknownScheme scheme => openingMessage ("unknown url type: " ++ scheme)
  | .noHost => openingMessage "no host given"
  | .noFileHost => openingMessage "ftp error: no host given"
  | .unanswered words => words
  | .unavailable fault =>
      if fault.error.number?.isSome then openingMessage fault.message
      else "ValueError: " ++ fault.message
  | .distantFile => openingMessage "file not on local host"
  | .foreignFile => openingMessage "file:// scheme is supported only on localhost"
  | .unsent fault => fault.message
  | .noComma => "ValueError: not enough values to unpack (expected 2, got 1)"
  | .base64 fault => "Error: " ++ fault.message
  | .notText fault => "UnicodeDecodeError: " ++ fault.message
  | .unread text fault => readMessage text fault

end NameProblem

namespace Json

/-- A name without blanks around it, without the angle brackets that may enclose it, and without the
word that may announce it. -/
def unwrapName (name : List Char) : List Char :=
  let name := Text.trim name
  let name :=
    if name.head? = some '<' ∧ name.getLast? = some '>' then
      Text.trim (name.drop 1).dropLast
    else name
  if "URL:".toList.isPrefixOf name then Text.trim (name.drop 4) else name

/-- The scheme of a name in lower case, and the name after it. The scheme is what stands before the
first colon, if no slash comes earlier. -/
def nameScheme? (name : List Char) : Option (String × List Char) :=
  match Text.cut? ':' name with
  | some (start, rest) =>
      if start.isEmpty || start.contains '/' then none
      else some (Text.lowerCase (String.ofList start), rest)
  | none => none

/-- The host that a name starts with after its scheme, and the path after it. -/
def splitHost (name : List Char) : List Char × List Char :=
  match name with
  | '/' :: '/' :: _ =>
      let (host, path) := Uri.splitAuthority name
      (host, if path.isEmpty ∨ path.head? = some '/' then path else '/' :: path)
  | _ => ([], name)

/-- The document that bytes hold. -/
def ofUtf8 (machine : Machine) (bytes : List Nat) : Except NameProblem Json :=
  match Text.decodeUtf8 bytes with
  | .error fault => .error (.notText fault)
  | .ok text => (read machine.nesting text).mapError (.unread text)

/-- The document that a name carries after its scheme. -/
def ofCarried (machine : Machine) (name : List Char) : Except NameProblem Json :=
  match Text.cut? ',' name with
  | none => .error .noComma
  | some (sort, data) =>
      let bytes := Text.percentBytes data
      if ";base64".toList.isSuffixOf sort then
        match Text.Base64.decode bytes with
        | .error fault => .error (.base64 fault)
        | .ok bytes => ofUtf8 machine bytes
      else ofUtf8 machine bytes

/-- Why a host does not keep the files of this machine, if it does not. No host means this machine,
and a port means another one. -/
def hostProblem? (host : List Char) : Option NameProblem :=
  let (host, port) := Host.splitPort host
  if host.isEmpty then none
  else if !port.isEmpty then some .distantFile
  else
    match Host.lookupFault? host with
    | some reason => some (.unsent (.unsought reason))
    | none => if Host.isOwn host then none else some .distantFile

/-- Whether the path after a host starts with just two slashes, as another host would. -/
def startsLikeHost (path : List Char) : Bool :=
  decide (path.take 2 = ['/', '/']) && decide (path[2]? ≠ some '/')

/-- The document in the file that a name leads to after its scheme. The file is looked for before
its host. -/
def ofFile (resolver : Resolver) (name : List Char) : Except NameProblem Json :=
  let (host, path) := splitHost name
  let host := Text.percentDecode host
  if startsLikeHost path && !host.isEmpty && host ≠ Host.ownName then
    .error (if host = Host.ownNumberText then .unknownScheme "file" else .foreignFile)
  else
    let path := String.ofList (Text.percentDecode path)
    match resolver.files.find path with
    | .error error => .error (.unavailable ⟨error, path⟩)
    | .ok (_, node) =>
        match hostProblem? host, node with
        | some problem, _ => .error problem
        | none, .directory => .error (.unavailable ⟨.isDirectory, path⟩)
        | none, .file content => ofUtf8 resolver.machine (content.data.toList.map UInt8.toNat)

/-- The document that the network answers for a name. -/
def ofNetwork (machine : Machine) (name : List Char) : Except NameProblem Json :=
  match machine.network (String.ofList name) with
  | .error words => .error (.unanswered words)
  | .ok content => ofUtf8 machine (content.data.toList.map UInt8.toNat)

/-- Why the web is not even asked for a name, if it is not, given what follows the scheme. -/
def webProblem? (name : List Char) : Option NameProblem :=
  let (host, path) := splitHost name
  if host.isEmpty then some .noHost
  else (Host.sendFault? (Text.percentDecode host) path).map .unsent

/-- The document under a name. -/
def ofName (resolver : Resolver) (name : List Char) : Except NameProblem Json :=
  let name := unwrapName name
  match nameScheme? name with
  | none => .error (.noScheme name)
  | some (scheme, rest) =>
      if scheme = "data" then ofCarried resolver.machine rest
      else if scheme = "file" then ofFile resolver rest
      else if scheme = "http" ∨ scheme = "https" then
        match webProblem? rest with
        | some problem => .error problem
        | none => ofNetwork resolver.machine name
      else if scheme = "ftp" then
        if (splitHost rest).1.isEmpty then .error .noFileHost else ofNetwork resolver.machine name
      else .error (.unknownScheme scheme)

end Json

end CatalogClient
