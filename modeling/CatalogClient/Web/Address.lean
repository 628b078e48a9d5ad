/-
# Addresses on the web

An address names a host, perhaps with the user and the port, and a path on it with a query and a
fragment. A request goes to the usual form of its address: the host is in lower case and in ASCII, a
port that goes without saying is left out, steps within the path are taken, and characters that may
not stand where they are become percent escapes.
-/

import CatalogClient.Text.Casing
import CatalogClient.Text.Integer
import CatalogClient.Text.Quoted
import CatalogClient.Web.Host
import CatalogClient.Web.Label
import CatalogClient.Web.Uri

namespace CatalogClient

/-- An address in its usual form. -/
structure Address where
  scheme : List Char
  user : List Char
  host : List Char
  port : Option Int
  path : List Char
  query : Option (List Char)
  fragment : Option (List Char)
  deriving DecidableEq, Repr

/-- Why a text is no address that can be asked for: it has no usual form, its host is marked as one
of any script but is none, or the zone of its host is not written in ASCII. -/
inductive AddressFault
  | malformed
  | label (fault : LabelFault)
  | zone
  deriving DecidableEq, Repr

namespace Address

/-- The longest text of an address. -/
def longest : Nat := 65536

/-- Whether a character is a control of ASCII. -/
def isControl (c : Char) : Bool :=
  decide (c.toNat < 0x20) || decide (c.toNat = 0x7F)

/-- Whether a character of ASCII can be seen and is none of the given ones. -/
def isVisibleExcept (others : String) (c : Char) : Bool :=
  decide (0x20 < c.toNat) && decide (c.toNat < 0x7F) && !others.toList.contains c

/-- Whether a character may stand in a path. -/
def isPathChar : Char → Bool :=
  isVisibleExcept "\"#<>?\x60\x7b\x7d"

/-- Whether a character may stand in a query. -/
def isQueryChar : Char → Bool :=
  isVisibleExcept "\"#<>"

/-- Whether a character may stand in a fragment. -/
def isFragmentChar : Char → Bool :=
  isVisibleExcept "\"<>\x60"

/-- Whether a character may stand in the name of a user. -/
def isUserChar : Char → Bool :=
  isVisibleExcept "\"#<>?\x60\x7b\x7d/;=@[\\]^|"

/-- Whether a character may stand in the name of a host. -/
def isHostChar : Char → Bool :=
  isVisibleExcept "#/:<>?@[]^"

/-- A text in which the characters outside a class are percent escapes. -/
def escape (isKept : Char → Bool) (text : List Char) : List Char :=
  text.flatMap fun c =>
    if isKept c then [c]
    else (Text.utf8Bytes [c]).flatMap fun byte =>
      '%' :: (Text.hexPadded 2 byte).map Char.toUpper

/-- Whether a host looks like a short number: four runs of digits between points. -/
def looksLikeNumber (host : List Char) : Bool :=
  let runs := Text.partsBetween '.' host
  decide (runs.length = 4) && runs.all fun run => !run.isEmpty && run.all Host.isDigit

/-- The usual form of a host. -/
def readHost (host : List Char) : Except AddressFault (List Char) :=
  if host.isEmpty then .ok []
  else if looksLikeNumber host then
    if Host.isShortNumber host then .ok host else .error .malformed
  else if host.head? = some '[' ∧ host.getLast? = some ']' then
    let number := (host.drop 1).dropLast
    if Host.isZonedNumber number then .ok number else .error .malformed
  else if host.all fun c => decide (c.toNat < 128) then
    .ok (escape isHostChar (host.map Char.toLower))
  else
    (Host.encodeName (Text.lowerCase (String.ofList host)).toList).mapError fun _ => .malformed

/-- The ports that go without saying. -/
def usualPorts : List (String × Int) :=
  [("ftp", 21), ("http", 80), ("https", 443), ("ws", 80), ("wss", 443)]

/-- The port that a text stands for, unless it goes without saying. -/
def readPort (scheme text : List Char) : Except AddressFault (Option Int) :=
  if text.isEmpty then .ok none
  else
    match Text.readInteger? text with
    | none => .error .malformed
    | some port =>
        .ok (if usualPorts.lookup (String.ofList scheme) = some port then none else some port)

/-- The user, the host and the port of an authority. -/
def splitAuthority (authority : List Char) : List Char × List Char × List Char :=
  let rest := (authority.reverse.takeWhile (· ≠ '@')).reverse
  let user := (authority.take (authority.length - rest.length)).dropLast
  let hostLength :=
    if rest.head? = some '[' ∧ rest.contains ']' then
      rest.length - (rest.reverse.takeWhile (· ≠ ']')).length
    else (rest.takeWhile (· ≠ ':')).length
  let after := rest.drop hostLength
  (user, rest.take hostLength, if after.head? = some ':' then after.drop 1 else after)

/-- A path in which the steps to the same level are left out and every step up takes back the part
before it. -/
def normalizePath (path : List Char) : List Char :=
  let parts := Text.partsBetween '/' path
  if parts.contains ['.'] || parts.contains ['.', '.'] then
    ['/'].intercalate (parts.foldl (fun way part =>
      if part = ['.'] then way
      else if part = ['.', '.'] then if way = [[]] then way else way.dropLast
      else way ++ [part]) [])
  else path

/-- The text before a mark and the text after it, if the mark occurs. -/
def splitOptional (mark : Char) (text : List Char) : List Char × Option (List Char) :=
  match Text.cut? mark text with
  | some (before, after) => (before, some after)
  | none => (text, none)

/-- The usual form of an address. -/
def normalize (text : List Char) : Except AddressFault Address := do
  if longest < text.length ∨ text.any isControl then throw .malformed
  let (scheme, rest) := Uri.splitScheme text
  let (authority, rest) := Uri.splitAuthority rest
  let (rest, fragment) := splitOptional '#' rest
  let (path, query) := splitOptional '?' rest
  let (user, host, port) := splitAuthority authority
  let host ← readHost host
  let port ← readPort scheme port
  return {
    scheme, host, port
    user := escape isUserChar user
    path := escape isPathChar (normalizePath path)
    query := query.map (escape isQueryChar)
    fragment := fragment.map (escape isFragmentChar) }

/-- Why the host of an address cannot be asked, if it cannot. -/
def hostFault? (address : Address) : Option AddressFault :=
  let decoded :=
    if "xn--".toList.isPrefixOf address.host then Host.nameFault? address.host else none
  match decoded with
  | some fault => some (.label fault)
  | none => if address.host.all fun c => decide (c.toNat < 128) then none else some .zone

/-- The address that a text stands for in a request. -/
def read (text : List Char) : Except AddressFault Address := do
  let address ← normalize text
  match address.hostFault? with
  | some fault => throw fault
  | none => return address

/-- The text of the user, the host and the port. -/
def printAuthority (address : Address) : List Char :=
  (if address.user.isEmpty then [] else address.user ++ ['@'])
    ++ (if address.host.contains ':' then '[' :: address.host ++ [']'] else address.host)
    ++ ((address.port.map fun port => ':' :: (toString port).toList).getD [])

/-- The text of an address. -/
def print (address : Address) : List Char :=
  address.scheme ++ [':']
    ++ (if address.printAuthority.isEmpty then [] else '/' :: '/' :: address.printAuthority)
    ++ address.path
    ++ ((address.query.map ('?' :: ·)).getD [])
    ++ ((address.fragment.map ('#' :: ·)).getD [])

end Address

end CatalogClient
