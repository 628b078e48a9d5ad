/-
# Loading catalogs

A catalog lies on the web or in a file. An address on the web that names no document leads to the
document of the usual name below it. The text found there is read and its references are resolved.
-/

import CatalogClient.Catalog.Reading
import CatalogClient.Json.Reader
import CatalogClient.Log
import CatalogClient.Storage.FileSystem
import CatalogClient.Text.Encoding
import CatalogClient.Text.Lines
import CatalogClient.Web.Answer

namespace CatalogClient

/-- The name of a catalog document. -/
def catalogFileName : String := "catalog.json"

/-- Where a catalog comes from: an address on the web, or a path. -/
inductive CatalogSource
  | web (url : String)
  | file (path : String)
  deriving DecidableEq, Repr

/-- Whether a text starts with another. -/
def startsWithText (start text : String) : Bool :=
  start.toList.isPrefixOf text.toList

/-- Whether a text ends with another. -/
def endsWithText (ending text : String) : Bool :=
  ending.toList.isSuffixOf text.toList

/-- The place that a text names. -/
def CatalogSource.ofText (text : String) : CatalogSource :=
  if startsWithText "http://" text || startsWithText "https://" text then
    .web (if endsWithText ".json" text then text
      else if endsWithText "/" text then text ++ catalogFileName
      else text ++ "/" ++ catalogFileName)
  else .file text

/-- The address that is asked for, if the catalog is on the web. -/
def CatalogSource.requested : CatalogSource → List String
  | .web url => [url]
  | .file _ => []

/-- Why no catalog is loaded. An address that cannot be asked for, a file or a body that is no text,
an integer of too many digits and values that stand too deep in each other are cases of their own.
-/
inductive LoadFault
  | unfetched (url reason : String)
  | misaddressed (fault : AddressFault)
  | unreadable (path reason : String)
  | missing (path : String)
  | undecodable
  | longInteger
  | deep
  | rejected (source : String) (fault : CatalogFault)

/-- The failed loading of a text that is not read; only a malformed text has a reason in words. -/
def LoadFault.ofRead (malformed : String → LoadFault) (text : List Char) : ReadFault → LoadFault
  | .malformed problem left => malformed (ReadFault.message text (.malformed problem left))
  | .longInteger _ => .longInteger
  | .deepList => .deep
  | .deepObject => .deep

namespace CatalogSource

/-- The document from the web. -/
def fetch (web : Web) (url : String) (machine : Machine := {}) : Except LoadFault Json :=
  match (web url).body url with
  | .error (.failed reason) => .error (.unfetched url reason)
  | .error (.address fault) => .error (.misaddressed fault)
  | .ok body =>
      match Text.ofDocument? body with
      | none => .error .undecodable
      | some text =>
          (Json.readWithin machine.nesting text).mapError (.ofRead (.unfetched url) text)

/-- The document in a file. -/
def readFile (files : FileSystem) (path : String) (machine : Machine := {}) :
    Except LoadFault Json :=
  match files.read path with
  | .error fault => .error (.unreadable path fault.message)
  | .ok content =>
      match Text.ofBytes? content with
      | none => .error .undecodable
      | some text => (Json.read machine.nesting text).mapError (.ofRead (.unreadable path) text)

/-- The document at a place. -/
def document (source : CatalogSource) (web : Web) (files : FileSystem) (machine : Machine := {}) :
    Logged LoadFault Json :=
  match source with
  | .web url => do
      Logged.note .info ("Fetching catalog from " ++ url)
      Logged.ofExcept (fetch web url machine)
  | .file path =>
      if files.exists? path then do
        Logged.note .info ("Reading catalog from " ++ path)
        Logged.ofExcept (readFile files path machine)
      else Logged.fail (.missing path)

end CatalogSource

/-- The catalog that a text leads to. -/
def Catalog.load (web : Web) (files : FileSystem) (text : String) (machine : Machine := {}) :
    Logged LoadFault Catalog := do
  let value ← (CatalogSource.ofText text).document web files machine
  Logged.ofExcept ((Catalog.ofJson value ⟨files, machine⟩).mapError (.rejected text))

/-- The words before the problem of a catalog that came from somewhere. -/
def catalogMessage (sort source problem : String) : String :=
  sort ++ " catalog " ++ source ++ ": " ++ problem

/-- A rejected document in words. References without an end and without an acceptable authority have
none. -/
def CatalogFault.message? (source : String) : CatalogFault → Option String
  | .unresolved (.broken target problem) =>
      some (catalogMessage "Unresolved reference in" source
        ("Error while resolving \x60" ++ target ++ "\x60: " ++ problem.message))
  | .unresolved .misnamed => none
  | .unresolved .endless => none
  | .malformed rejection => some (catalogMessage "Malformed" source rejection.message)

/-- A failed loading in words, if it has any. -/
def LoadFault.message? : LoadFault → Option String
  | .unfetched url reason => some ("Unable to fetch catalog from " ++ url ++ ": " ++ reason)
  | .unreadable path reason => some ("Unable to read catalog " ++ path ++ ": " ++ reason)
  | .missing path =>
      some ("Unable to load catalog from " ++ path ++ ". Check the URL or the file path.")
  | .misaddressed _ => none
  | .undecodable => none
  | .longInteger => none
  | .deep => none
  | .rejected source fault => fault.message? source

end CatalogClient
