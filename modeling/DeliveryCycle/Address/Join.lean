import DeliveryCycle.Address.Reader

/-!
# Addresses under a base

A service has a base address, which ends in a slash. The address of a request is the one of its
path under the base: the path of the base, the path of the request without the slashes at its
beginning, and all else as in the base. An address that says itself which host to ask stays as it
is.
-/

namespace DeliveryCycle.Address

/-- Lets through parts of which none is too long. -/
def checkParts (parts : Components) : Except ReadError Unit :=
  let named : List (Part × List Char) :=
    [(.scheme, parts.scheme), (.authority, parts.authority), (.path, parts.path),
      (.query, parts.query.getD []), (.fragment, parts.fragment.getD [])]
  match named.find? fun (_, text) => greatestLength < text.length with
  | some (part, _) => .error (.partTooLong part)
  | none => .ok ()

def withTarget (address : Address) (target : List Char) : Except ReadError Address := do
  let (path, query) := Text.splitAtFirst '?' target
  let parts : Components := ⟨address.scheme, address.authority, path, query, address.fragment⟩
  checkParts parts
  parts.address

/-- An address as a base, with a slash at its end. -/
def asBase (address : Address) : Except ReadError Address :=
  if address.target.getLast? = some '/' then .ok address
  else address.withTarget (address.target ++ ['/'])

def join (base request : Address) : Except ReadError Address :=
  if request.isAbsolute then .ok request
  else base.withTarget (base.target ++ request.target.dropWhile (· = '/'))

def baseOfText (text : List Char) : Except ReadError Address := do
  (← ofText text).asBase

end DeliveryCycle.Address
