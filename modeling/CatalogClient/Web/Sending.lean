/-
# Requests that cannot be sent

Before a request is sent, its port has to be a number, its host and its path may hold no blanks or
controls, its path has to be in ASCII, and its host has to be one that can be looked up.
-/

import CatalogClient.Text.Integer
import CatalogClient.Text.Quoted
import CatalogClient.Web.LocalHost

namespace CatalogClient

/-- Why a request cannot be sent. A character that cannot be written is given with its position and
the number of such characters in a row. -/
inductive SendFault
  | port (text : List Char)
  | control (text : List Char) (found : Char)
  | unwritten (encoding : String) (bound : Nat) (first : Char) (position count : Nat)
  | unsought (reason : String)
  | refused
  deriving DecidableEq, Repr

namespace SendFault

/-- The words for a fault. -/
def message : SendFault → String
  | .port text => "InvalidURL: nonnumeric port: '" ++ String.ofList text ++ "'"
  | .control text found =>
      "InvalidURL: URL can't contain control characters. " ++ Text.quote (String.ofList text)
        ++ " (found at least " ++ Text.quote (String.singleton found) ++ ")"
  | .unwritten encoding bound first position count =>
      "UnicodeEncodeError: '" ++ encoding ++ "' codec can't encode "
        ++ (if count = 1 then
            "character '" ++ String.ofList (Text.hexEscape first) ++ "' in position "
              ++ toString position
          else
            "characters in position " ++ toString position ++ "-"
              ++ toString (position + count - 1))
        ++ ": ordinal not in range(" ++ toString bound ++ ")"
  | .unsought reason =>
      "UnicodeError: encoding with 'idna' codec failed (UnicodeError: " ++ reason ++ ")"
  | .refused => "URLError: <urlopen error [Errno 111] Connection refused>"

end SendFault

namespace Host

/-- Whether a character is a blank or a control of ASCII. -/
def isUnsent (c : Char) : Bool :=
  decide (c.toNat ≤ 0x20) || decide (c.toNat = 0x7F)

/-- The first blank or control in a text. -/
def controlFault? (text : List Char) : Option SendFault :=
  (text.find? isUnsent).map (.control text)

/-- The first characters of a text that lie beyond a bound, given how much was written before. -/
def writingFault? (encoding : String) (bound offset : Nat) (text : List Char) : Option SendFault :=
  let isBeyond := fun c : Char => decide (bound ≤ c.toNat)
  let start := text.takeWhile (!isBeyond ·)
  let beyond := (text.drop start.length).takeWhile isBeyond
  beyond.head?.map fun first =>
    .unwritten encoding bound first (offset + start.length) beyond.length

/-- A host without its port, and the text of the port, which follows the last colon behind all
brackets. -/
def splitWebPort (host : List Char) : List Char × List Char :=
  let port := (host.reverse.takeWhile fun c => c ≠ ':' && c ≠ ']').reverse
  let front := host.take (host.length - port.length)
  if front.getLast? = some ':' then (front.dropLast, port) else (host, [])

/-- What stands between the brackets of a host, if it stands in brackets. -/
def withoutBrackets (host : List Char) : List Char :=
  if host.head? = some '[' ∧ host.getLast? = some ']' then (host.drop 1).dropLast else host

/-- Whether a host is the number of the machine itself, of which there are many. -/
def isLoop (host : List Char) : Bool :=
  (machineNumber? host).any fun number => number / 0x1000000 = 127

/-- Why a request to a host for a path cannot be sent, if something keeps it before the host is
looked up. The path is written behind the word for the request. -/
def sendFault? (host path : List Char) : Option SendFault :=
  let (name, port) := splitWebPort host
  let name := withoutBrackets name
  if !port.isEmpty && (Text.readInteger? port).isNone then some (.port port)
  else
    (controlFault? name).or <| (controlFault? path).or <|
      (writingFault? "ascii" 128 "GET ".length path).or <|
        (writingFault? "latin-1" 256 0 host).or <|
          ((lookupFault? name).map .unsought).or
            (if isLoop name then some .refused else none)

end Host

end CatalogClient
