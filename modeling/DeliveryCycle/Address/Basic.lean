import DeliveryCycle.Address.Host
import DeliveryCycle.Text.Base64

/-!
# Addresses

An address names a scheme, the host to ask and how to ask it, and a path with a query and a mark.
Every part is kept as it is written: in ASCII, with all other characters in percent encoding, and
with everything in it that has several forms in its plain one.
-/

namespace DeliveryCycle

structure Address where
  scheme : List Char
  /-- A user and a password, with a colon between them. -/
  userinfo : List Char
  host : List Char
  port : Option Int
  path : List Char
  query : Option (List Char)
  fragment : Option (List Char)
deriving DecidableEq, Repr

namespace Address

def hostAndPort (address : Address) : List Char :=
  let host := if address.host.contains ':' then '[' :: (address.host ++ [']']) else address.host
  host ++ match address.port with
    | some port => ':' :: (toString port).toList
    | none => []

/-- The user, the host and the port. -/
def authority (address : Address) : List Char :=
  (if address.userinfo.isEmpty then [] else address.userinfo ++ ['@']) ++ address.hostAndPort

/-- A part behind its mark, if it is there. -/
def marked (mark : Char) : Option (List Char) → List Char
  | some part => mark :: part
  | none => []

def text (address : Address) : List Char :=
  (if address.scheme.isEmpty then [] else address.scheme ++ [':']) ++
    (if address.authority.isEmpty then [] else '/' :: '/' :: address.authority) ++
    address.path ++ marked '?' address.query ++ marked '#' address.fragment

/-- The path, which is a slash if it is empty, and the query. -/
def target (address : Address) : List Char :=
  (if address.path.isEmpty then ['/'] else address.path) ++ marked '?' address.query

def isAbsolute (address : Address) : Bool := !address.scheme.isEmpty && !address.host.isEmpty

/-- The credentials that an address holds, as they are sent. -/
def credentials? (address : Address) : Option String :=
  let (user, password) := Text.splitAtFirst ':' address.userinfo
  let user := Text.decodePercent user
  let password := Text.decodePercent (password.getD [])
  if user.isEmpty && password.isEmpty then none
  else some (String.ofList (Text.base64 (Text.textBytes (user ++ ':' :: password))))

/-- Why the host of an address cannot be told in a request. -/
inductive HostLineError where
  | badName (error : Domain.NameError)
  | wide (stretch : Text.WideStretch)
deriving DecidableEq, Repr

/-- Lets through an address whose host can be told. A host that begins like an encoded label must be
one. -/
def checkHostLine (address : Address) : Except HostLineError Unit :=
  if address.host.isEmpty then .ok ()
  else do
    if Domain.encodedStart.isPrefixOf address.host then
      let _ ← (Domain.decode address.host).mapError .badName
    (Text.checkAscii address.hostAndPort).mapError .wide

end Address

end DeliveryCycle
