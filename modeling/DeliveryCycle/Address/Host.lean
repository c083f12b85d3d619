import DeliveryCycle.Address.Domain.Name
import DeliveryCycle.Address.Internet
import DeliveryCycle.Text.Ascii
import DeliveryCycle.Text.LowerCase
import DeliveryCycle.Text.Percent

/-!
# Hosts

The host of an address is a numeric address or a name. A text that looks like a numeric address must
be one. A name in ASCII is written in small letters, and any other name as a domain name.
-/

namespace DeliveryCycle.Address

inductive HostError where
  | badQuad (text : List Char)
  | badGroups (text : List Char)
  | badName (text : List Char)
deriving DecidableEq, Repr

def HostError.message : HostError → String
  | .badQuad text => "Invalid IPv4 address: " ++ Text.quoted (String.ofList text)
  | .badGroups text => "Invalid IPv6 address: " ++ Text.quoted (String.ofList text)
  | .badName text => "Invalid IDNA hostname: " ++ Text.quoted (String.ofList text)

/-- Whether a text is four rows of digits with dots between them. -/
def looksLikeQuad (text : List Char) : Bool :=
  let parts := Text.segments '.' text
  parts.length = 4 && parts.all fun part => !part.isEmpty && part.all Char.isDigit

def isBracketed (text : List Char) : Bool :=
  2 ≤ text.length && text.head? = some '[' && text.getLast? = some ']'

/-- The signs that do not stand for themselves in the name of a host. -/
def hostEscaped : List Char := "#/:<>?@[]^".toList

/-- A host as it is written in an address, without brackets. -/
def encodeHost (text : List Char) : Except HostError (List Char) :=
  if text.isEmpty then .ok []
  else if looksLikeQuad text then if isQuad text then .ok text else .error (.badQuad text)
  else if isBracketed text then
    let inner := (text.drop 1).dropLast
    if isGroupAddress inner then .ok inner else .error (.badGroups text)
  else if text.all fun character => !Text.isWide character then
    .ok (Text.encodePercent hostEscaped (text.map Char.toLower))
  else (Domain.encode (Text.lowerCase text)).mapError fun _ => .badName text

end DeliveryCycle.Address
