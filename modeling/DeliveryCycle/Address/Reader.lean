import DeliveryCycle.Address.Basic
import DeliveryCycle.Number.IntegerText

/-!
# Reading addresses

A text is first cut into its parts; every part may be missing. Then each part is brought into the
form in which it is kept: the scheme and the name of the host in small letters, the port without
what it has beside its number and only if it is not the usual one of the scheme, the path without
the steps `.` and `..`, and everything in percent encoding. A text with a control character, or one
that is too long, is no address.
-/

namespace DeliveryCycle.Address

inductive Part where
  | scheme | authority | path | query | fragment
deriving DecidableEq, Repr

def Part.name : Part → String
  | .scheme => "scheme"
  | .authority => "authority"
  | .path => "path"
  | .query => "query"
  | .fragment => "fragment"

inductive ReadError where
  | tooLong
  | partTooLong (part : Part)
  | unprintable (character : Char) (position : Nat)
  | badHost (error : HostError)
  | badPort (text : List Char)
  /-- Without scheme and host, the path begins like a host. -/
  | doubleSlash
  /-- Without scheme and host, the path begins with a colon. -/
  | leadingColon
deriving DecidableEq, Repr

def ReadError.message : ReadError → String
  | .tooLong => "URL too long"
  | .partTooLong part => s!"URL component '{part.name}' too long"
  | .unprintable character position =>
      "Invalid non-printable ASCII character in URL, " ++ Text.quoted character.toString ++
        s!" at position {position}."
  | .badHost error => error.message
  | .badPort text => "Invalid port: " ++ Text.quoted (String.ofList text)
  | .doubleSlash => "Relative URLs cannot have a path starting with '//'"
  | .leadingColon => "Relative URLs cannot have a path starting with ':'"

def greatestLength : Nat := 65536

def isControl (character : Char) : Bool := character.toNat < 0x20 || character.toNat = 0x7F

def checkText (text : List Char) : Except ReadError Unit :=
  if greatestLength < text.length then .error .tooLong
  else
    match text.find? isControl with
    | some character => .error (.unprintable character (text.findIdx isControl))
    | none => .ok ()

section Parts

structure Components where
  scheme : List Char
  authority : List Char
  path : List Char
  query : Option (List Char)
  fragment : Option (List Char)
deriving DecidableEq, Repr

def isScheme (text : List Char) : Bool :=
  text.isEmpty || (text.head?.any Char.isAlpha &&
    text.all fun character => character.isAlphanum || ['+', '-', '.'].contains character)

/-- A scheme, if there is one, and the text behind its colon. -/
def splitScheme (text : List Char) : List Char × List Char :=
  match Text.splitAtFirst ':' text with
  | (front, some rest) => if isScheme front then (front, rest) else ([], text)
  | (_, none) => ([], text)

/-- What names the host, if there is such a part, and the text behind it. -/
def splitAuthority : List Char → List Char × List Char
  | '/' :: '/' :: rest =>
      let inAuthority (character : Char) : Bool := !(['/', '?', '#'].contains character)
      (rest.takeWhile inAuthority, rest.dropWhile inAuthority)
  | text => ([], text)

/-- A text cut into the parts of an address. -/
def Components.ofText (text : List Char) : Components :=
  let (scheme, text) := splitScheme text
  let (authority, text) := splitAuthority text
  let (text, fragment) := Text.splitAtFirst '#' text
  let (path, query) := Text.splitAtFirst '?' text
  ⟨scheme, authority, path, query, fragment⟩

/-- The texts of the user, the host with its brackets, and the port. -/
structure Authority where
  userinfo : List Char
  host : List Char
  port : List Char
deriving DecidableEq, Repr

/-- The host at the beginning of a text, and the rest of the text. -/
def splitHost (text : List Char) : List Char × List Char :=
  match text.head?, Text.splitAtLast ']' text with
  | some '[', (some inner, rest) => (inner ++ [']'], rest)
  | _, _ => (text.takeWhile (· ≠ ':'), text.dropWhile (· ≠ ':'))

def Authority.ofText (text : List Char) : Authority :=
  let (userinfo, text) := Text.splitAtLast '@' text
  let (host, text) := splitHost text
  ⟨userinfo.getD [], host, match text with
    | ':' :: port => port
    | port => port⟩

end Parts

section Plain

def queryEscaped : List Char := "\"#<>".toList

def fragmentEscaped : List Char := "\"<>`".toList

def pathEscaped : List Char := queryEscaped ++ "?`\x7b\x7d".toList

def userEscaped : List Char := pathEscaped ++ "/;=@[\\]^|".toList

/-- The ports that need not be named. -/
def usualPorts : List (String × Int) :=
  [("ftp", 21), ("http", 80), ("https", 443), ("ws", 80), ("wss", 443)]

/-- The port of a scheme, if it is not the usual one. -/
def readPort (scheme text : List Char) : Except ReadError (Option Int) :=
  if text.isEmpty then .ok none
  else
    match Number.settingInteger (String.ofList text) with
    | .error _ => .error (.badPort text)
    | .ok port =>
        .ok (if usualPorts.contains (String.ofList scheme, port) then none else some port)

/-- Carries out the steps of a path; `passed` are the segments already passed, last one first. -/
def walkSegments (passed : List (List Char)) : List (List Char) → List (List Char)
  | [] => passed.reverse
  | segment :: rest =>
      if segment = ['.'] then walkSegments passed rest
      else if segment = ['.', '.'] then
        walkSegments (if passed = [[]] then passed else passed.drop 1) rest
      else walkSegments (segment :: passed) rest

/-- A path without the steps `.` and `..`. -/
def plainPath (path : List Char) : List Char :=
  Text.joinSegments '/' (walkSegments [] (Text.segments '/' path))

/-- Lets through a path that stands alone. -/
def checkLonePath : List Char → Except ReadError Unit
  | '/' :: '/' :: _ => .error .doubleSlash
  | ':' :: _ => .error .leadingColon
  | _ => .ok ()

/-- The address of parts that are cut from a text. -/
def Components.address (parts : Components) : Except ReadError Address := do
  let authority := Authority.ofText parts.authority
  let userinfo := Text.encodePercent userEscaped authority.userinfo
  let host ← (encodeHost authority.host).mapError .badHost
  let port ← readPort parts.scheme authority.port
  let alone := parts.scheme.isEmpty && userinfo.isEmpty && host.isEmpty && port.isNone
  if alone then checkLonePath parts.path
  let path := if alone then parts.path else plainPath parts.path
  return {
    scheme := parts.scheme.map Char.toLower
    userinfo := userinfo
    host := host
    port := port
    path := Text.encodePercent pathEscaped path
    query := parts.query.map (Text.encodePercent queryEscaped)
    fragment := parts.fragment.map (Text.encodePercent fragmentEscaped) }

end Plain

def ofText (text : List Char) : Except ReadError Address := do
  checkText text
  (Components.ofText text).address

end DeliveryCycle.Address
