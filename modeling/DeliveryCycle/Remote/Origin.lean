import DeliveryCycle.Address.Reader

/-!
# Where an answer comes from

A client keeps track of where an answer comes from. It takes this from the text of the address that
was asked, and it refuses an answer if the text does not say how the address was asked, or if what
stands in it as a host has brackets around something other than a numeric address of groups.
-/

namespace DeliveryCycle.Remote

inductive OriginError where
  | noScheme (address : List Char)
  | loneBracket
  | badNumber (text : List Char)
  | quadInBrackets
  /-- A numeric address of a form that is still to come, badly written. -/
  | badFutureNumber
deriving DecidableEq, Repr

def OriginError.message : OriginError → String
  | .noScheme address => "unknown url type: " ++ Text.quoted (String.ofList address)
  | .loneBracket => "Invalid IPv6 URL"
  | .badNumber text =>
      Text.quoted (String.ofList text) ++ " does not appear to be an IPv4 or IPv6 address"
  | .quadInBrackets => "An IPv4 address cannot be in brackets"
  | .badFutureNumber => "IPvFuture address is invalid"

/-- An address without a mark that is empty. -/
def withoutEmptyMark (address : List Char) : List Char :=
  if address.getLast? = some '#' then address.dropLast else address

/-- Whether an address, up to its mark, begins with some word and a colon. -/
def saysScheme (address : List Char) : Bool :=
  let front := ((Text.splitAtLast '#' address).1).getD address
  let inWord (character : Char) : Bool := character ≠ '/' && character ≠ ':'
  match front.takeWhile inWord, front.dropWhile inWord with
  | _ :: _, ':' :: _ => true
  | _, _ => false

/-- Whether a text is a version in hexadecimal digits, a dot and something more. -/
def isFutureNumber (text : List Char) : Bool :=
  let isDigit (character : Char) : Bool := (Text.hexValue? character).isSome
  match text.takeWhile isDigit, text.dropWhile isDigit with
  | _ :: _, '.' :: _ :: _ => true
  | _, _ => false

def checkBracketed (text : List Char) : Except OriginError Unit :=
  match text with
  | 'v' :: version => if isFutureNumber version then .ok () else .error .badFutureNumber
  | _ =>
      if Address.isQuad text then .error .quadInBrackets
      else if Address.isGroupAddress text then .ok ()
      else .error (.badNumber text)

def checkBrackets (host : List Char) : Except OriginError Unit :=
  match host.contains '[', host.contains ']' with
  | true, true =>
      let behind := ((Text.splitAtFirst '[' host).2).getD []
      checkBracketed (Text.splitAtFirst ']' behind).1
  | false, false => .ok ()
  | _, _ => .error .loneBracket

/-- Lets through the text of an address that says where an answer comes from. -/
def checkOrigin (address : List Char) : Except OriginError Unit :=
  if saysScheme address then
    checkBrackets (Address.splitAuthority (Address.splitScheme address).2).1
  else .error (.noScheme (withoutEmptyMark address))

end DeliveryCycle.Remote
