/-
# The machine itself

The name of a file may give the machine that keeps it, which has to be this one. The machine itself
is called by a name, which is the same in any case, or by its number. A number has up to four parts
between points, of which the last one fills the places that are left, and every part is written to
the base 8, 10 or 16.
-/

import CatalogClient.Text.Cut
import CatalogClient.Text.Percent
import CatalogClient.Web.Host

namespace CatalogClient.Host

/-- The number that digits to a base stand for. -/
def valueToBase? (base : Nat) (digits : List Char) : Option Nat :=
  digits.foldlM (fun value c => (Text.hexValue? c).bind fun digit =>
    if digit < base then some (base * value + digit) else none) 0

/-- The value of a part of a number: hexadecimal behind a zero and an x, octal behind a zero, and
decimal otherwise. -/
def partValue? : List Char → Option Nat
  | [] => none
  | '0' :: 'x' :: digits | '0' :: 'X' :: digits =>
      if digits.isEmpty then none else valueToBase? 16 digits
  | '0' :: digits => valueToBase? 8 digits
  | digits => valueToBase? 10 digits

/-- The machine that a text is the number of. Every part but the last one is a byte, and the last
one fills the bytes that are left. -/
def machineNumber? (text : List Char) : Option Nat :=
  let parts := Text.partsBetween '.' text
  (parts.mapM partValue?).bind fun values =>
    let front := values.dropLast
    let room := Nat.pow 256 (4 - front.length)
    match values.getLast? with
    | none => none
    | some last =>
        if front.length ≤ 3 ∧ front.all (· ≤ 255) ∧ last < room then
          some (front.foldl (fun number value => 256 * number + value) 0 * room + last)
        else none

/-- The number of the machine itself. -/
def ownNumber : Nat := 0x7F000001

/-- The number of the machine itself in its usual form. -/
def ownNumberText : List Char := "127.0.0.1".toList

/-- The name of the machine itself. -/
def ownName : List Char := "localhost".toList

/-- Whether a host is the machine itself. -/
def isOwn (host : List Char) : Bool :=
  decide (host.map Char.toLower = ownName) || decide (machineNumber? host = some ownNumber)

/-- A host without its port, and the digits of the port. -/
def splitPort (host : List Char) : List Char × List Char :=
  let port := (host.reverse.takeWhile isDigit).reverse
  let front := host.take (host.length - port.length)
  if front.getLast? = some ':' then (front.dropLast, port) else (host, [])

/-- The longest label that is looked up. -/
def longestLookup : Nat := 63

/-- Why a host in ASCII cannot be looked up, if it cannot: a label is empty or too long. Only the
last label may be empty. -/
def lookupFault? (host : List Char) : Option String :=
  let labels := Text.partsBetween '.' host
  let isLong := fun label : List Char => decide (longestLookup < label.length)
  if host.any fun c => decide (128 ≤ c.toNat) then none
  else if labels.dropLast.any fun label => label.isEmpty || isLong label then
    some "label empty or too long"
  else if labels.getLast?.any isLong then some "label too long"
  else none

end CatalogClient.Host
