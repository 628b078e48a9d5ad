/-
# Names of documents

The name of a document consists of a scheme, the authority that keeps it, its path, a query, and a
fragment that points into it. Every part may be missing. Blanks and controls in front of a name and
line ends within it do not count.
-/

import CatalogClient.Web.Host

namespace CatalogClient

/-- A name of a document in its parts. -/
structure Uri where
  scheme : List Char := []
  authority : List Char := []
  path : List Char := []
  query : List Char := []
  fragment : List Char := []
  deriving DecidableEq, Repr

namespace Uri

/-- The schemes whose names always show the place of an authority. -/
def schemesWithAuthority : List String := [
  "ftp", "http", "gopher", "nntp", "telnet", "imap", "wais", "file", "mms", "https", "shttp",
  "snews", "prospero", "rtsp", "rtsps", "rtspu", "rsync", "svn", "svn+ssh", "sftp", "nfs", "git",
  "git+ssh", "ws", "wss"]

/-- The schemes whose paths may end in parameters; names without a scheme may as well. -/
def schemesWithParameters : List String := [
  "", "ftp", "hdl", "prospero", "http", "imap", "https", "shttp", "rtsp", "rtsps", "rtspu", "sip",
  "sips", "mms", "sftp", "tel"]

/-- Characters beyond ASCII that look like a separator of the parts of a name. -/
def separatorLookalikes : List Nat := [
  0x2047, 0x2048, 0x2049, 0x2100, 0x2101, 0x2105, 0x2106, 0x2A74, 0xFE13, 0xFE16, 0xFE55, 0xFE56,
  0xFE5F, 0xFE6B, 0xFF03, 0xFF0F, 0xFF1A, 0xFF1F, 0xFF20]

/-- Whether a character is a letter of ASCII. -/
def isLetter (c : Char) : Bool :=
  ('a' ≤ c && c ≤ 'z') || ('A' ≤ c && c ≤ 'Z')

/-- Whether a character may stand in a scheme. -/
def isSchemeChar (c : Char) : Bool :=
  isLetter c || Host.isDigit c || c = '+' || c = '-' || c = '.'

/-- The scheme of a text in lower case, and the text after it. -/
def splitScheme (text : List Char) : List Char × List Char :=
  match Text.cut? ':' text with
  | some (c :: start, rest) =>
      if isLetter c && start.all isSchemeChar then ((c :: start).map Char.toLower, rest)
      else ([], text)
  | _ => ([], text)

/-- The authority that a text starts with, and the text after it. -/
def splitAuthority : List Char → List Char × List Char
  | '/' :: '/' :: rest =>
      let inside := fun c : Char => c ≠ '/' && c ≠ '?' && c ≠ '#'
      (rest.takeWhile inside, rest.dropWhile inside)
  | text => ([], text)

/-- Whether what stands between brackets is the number of a host: a long one, or one of a version to
come. -/
def isBracketedNumber (text : List Char) : Bool :=
  match text with
  | 'v' :: version =>
      let isHex := fun c => (Text.hexValue? c).isSome
      match version.takeWhile isHex, version.dropWhile isHex with
      | _ :: _, '.' :: _ :: _ => true
      | _, _ => false
  | _ => Host.isZonedNumber text

/-- Whether the brackets of an authority that has both kinds enclose the number of its host, with
only a user before and only a port behind. Without brackets around its host, the host has to be such
a number itself. -/
def isBracketedAuthority (text : List Char) : Bool :=
  let place := (text.reverse.takeWhile (· ≠ '@')).reverse
  match Text.cut? '[' place with
  | some (before, after) =>
      let (host, port) := (Text.cut? ']' after).getD (after, [])
      before.isEmpty && (port.isEmpty || port.head? = some ':') && isBracketedNumber host
  | none => isBracketedNumber (place.takeWhile (· ≠ ':'))

/-- Whether an authority is acceptable: its brackets come in both kinds and enclose the number of
its host, and no character looks like a separator. -/
def isAuthority (text : List Char) : Bool :=
  (text.contains '[' == text.contains ']')
    && (!text.contains '[' || isBracketedAuthority text)
    && text.all fun c => !separatorLookalikes.contains c.toNat

/-- A text up to a mark and the text after it, which is empty without the mark. -/
def splitAtMark (mark : Char) (text : List Char) : List Char × List Char :=
  (Text.cut? mark text).getD (text, [])

/-- A text as names of documents are read: without the blanks and controls in front and without line
ends and tabs. -/
def clean (text : List Char) : List Char :=
  (text.dropWhile fun c => decide (c.toNat ≤ 0x20)).filter fun c =>
    c ≠ '\t' && c ≠ '\n' && c ≠ '\x0d'

/-- The parts of a name, unless its authority is not acceptable. -/
def split? (text : List Char) : Option Uri :=
  let (scheme, rest) := splitScheme (clean text)
  let (authority, rest) := splitAuthority rest
  if isAuthority authority then
    let (rest, fragment) := splitAtMark '#' rest
    let (path, query) := splitAtMark '?' rest
    some { scheme, authority, path, query, fragment }
  else none

/-- A path with two slashes in front for the place of the authority, unless there is no authority
and the path starts with two slashes of its own. -/
def printHierarchy (uri : Uri) : List Char :=
  let shown := !uri.authority.isEmpty
    || (schemesWithAuthority.contains (String.ofList uri.scheme)
      && decide (uri.path.take 2 ≠ ['/', '/']))
  if shown then
    let path := if uri.path.isEmpty || uri.path.head? = some '/' then uri.path else '/' :: uri.path
    '/' :: '/' :: uri.authority ++ path
  else uri.path

/-- The text of a name, in which empty parts leave no mark. -/
def print (uri : Uri) : List Char :=
  (if uri.scheme.isEmpty then [] else uri.scheme ++ [':'])
    ++ uri.printHierarchy
    ++ (if uri.query.isEmpty then [] else '?' :: uri.query)
    ++ (if uri.fragment.isEmpty then [] else '#' :: uri.fragment)

/-- The part of a path after its last slash. -/
def lastPart (path : List Char) : List Char :=
  (path.reverse.takeWhile (· ≠ '/')).reverse

/-- The name without the mark of parameters, if no parameters follow it. -/
def withoutEmptyParameters (uri : Uri) : Uri :=
  if schemesWithParameters.contains (String.ofList uri.scheme)
      && Text.cut? ';' (lastPart uri.path) = some ((lastPart uri.path).dropLast, []) then
    { uri with path := uri.path.dropLast }
  else uri

/-- The name that a text means within a document of the given name, as far as the text is a path:
the path starts where the other one ends, and every step up takes back the name before it. -/
def mergePaths (base path : List Char) : List Char :=
  let outer := Text.partsBetween '/' base
  let outer := if outer.getLast? = some [] then outer else outer.dropLast
  let inner := Text.partsBetween '/' path
  let segments :=
    if path.head? = some '/' then inner
    else
      let all := outer ++ inner
      all.take 1 ++ (all.drop 1).dropLast.filter (!·.isEmpty) ++ (all.drop 1).drop (all.length - 2)
  let way := segments.foldl (fun way segment =>
    if segment = ['.', '.'] then way.dropLast
    else if segment = ['.'] then way
    else way ++ [segment]) []
  let last := segments.getLast?
  let way := if last = some ['.'] ∨ last = some ['.', '.'] then way ++ [[]] else way
  let merged := ['/'].intercalate way
  if merged.isEmpty then ['/'] else merged

/-- The text of the name that a text means within a document of the given name. Only names of files
are completed; a text that is no such name stands for itself, and the empty text for the document.
-/
def resolve? (base text : List Char) : Option (List Char) :=
  if base.isEmpty then some text
  else if text.isEmpty then some base
  else
    match split? base, split? text with
    | some outer, some inner =>
        let scheme := if inner.scheme.isEmpty then outer.scheme else inner.scheme
        if scheme ≠ outer.scheme ∨ scheme ≠ "file".toList then some text
        else if !inner.authority.isEmpty then some (print { inner with scheme })
        else if inner.path.isEmpty then
          let query := if inner.query.isEmpty then outer.query else inner.query
          some (print { outer with query, fragment := inner.fragment })
        else some (print { inner with
          scheme, authority := outer.authority, path := mergePaths outer.path inner.path })
    | _, _ => none

end Uri

end CatalogClient
