import DeliveryCycle.Address.Domain.Context
import DeliveryCycle.Address.Domain.Direction
import DeliveryCycle.Address.Domain.Permitted
import DeliveryCycle.Text.Punycode
import DeliveryCycle.Text.Surrogate

/-!
# Labels of domain names

A label is one part of a domain name. It is composed, starts with no mark, has no hyphens where they
would be misread, consists of characters that may stand in it, and can be read in either direction.
A label in ASCII is written as it is. Any other one is written as `xn--` and its characters in
ASCII. A label that begins that way is read back before it is checked, and it has to be what is
written for the label that was read.
-/

namespace DeliveryCycle.Address.Domain

inductive LabelError where
  | empty
  | tooLong
  | notComposed
  | hyphensInside
  | hyphenAtEnd
  | initialMark
  | joinerMisplaced (place : Neighbours)
  /-- It is not known what stands before a joiner. -/
  | joinerUncharted (place : Neighbours)
  | misplaced (place : Neighbours)
  | notPermitted (place : Neighbours)
  | misdirected (error : DirectionError) (label : List Nat)
  /-- Nothing follows the beginning of an encoded label. -/
  | nothingEncoded
  | encodedHyphenAtEnd
  | undecodable
  /-- The label is encoded, but not in the way it is written. -/
  | oddlyEncoded
deriving DecidableEq, Repr

/-- A code as it is named. -/
def codeName (code : Nat) : String :=
  "U+" ++ String.ofList ((Text.hexDigits (if code < 0x10000 then 4 else if code < 0x100000 then 5
    else 6) code).map Char.toUpper)

def LabelError.message : LabelError → String
  | .empty => "Empty Label"
  | .tooLong => "Label too long"
  | .notComposed => "Label must be in Normalization Form C"
  | .hyphensInside => "Label has disallowed hyphens in 3rd and 4th position"
  | .hyphenAtEnd => "Label must not start or end with a hyphen"
  | .initialMark => "Label begins with an illegal combining character"
  | .joinerMisplaced place =>
      s!"Joiner {codeName place.code} not allowed at position {place.position} in " ++
        Text.quotedCodes place.label
  | .joinerUncharted place =>
      s!"Unknown codepoint adjacent to joiner {codeName place.code} at position " ++
        s!"{place.position} in " ++ Text.quotedCodes place.label
  | .misplaced place =>
      s!"Codepoint {codeName place.code} not allowed at position {place.position} in " ++
        Text.quotedCodes place.label
  | .notPermitted place =>
      s!"Codepoint {codeName place.code} at position {place.position} of " ++
        Text.quotedCodes place.label ++ " not allowed"
  | .misdirected error label => error.message (Text.quotedCodes label)
  | .nothingEncoded => "Malformed A-label, no Punycode eligible content found"
  | .encodedHyphenAtEnd => "A-label must not end with a hyphen"
  | .undecodable => "Invalid A-label"
  | .oddlyEncoded => "A-label is not the canonical Punycode encoding of its U-label"

def hyphen : Nat := 0x2D

/-- Lets through a code that may stand where it stands. -/
def checkCode (place : Neighbours) : Except LabelError Unit :=
  if permittedCodes.contains place.code || laterCodes.contains place.code then .ok ()
  else if isJoiner place.code then
    if place.followsUncharted then .error (.joinerUncharted place)
    else if joinerAllowed place then .ok () else .error (.joinerMisplaced place)
  else if isContextual place.code then
    if contextAllowed place then .ok () else .error (.misplaced place)
  else .error (.notPermitted place)

/-- Lets through codes that may stand where they stand; `before` are those before them. -/
def checkCodes (before : List Nat) : List Nat → Except LabelError Unit
  | [] => .ok ()
  | code :: behind => do
      checkCode ⟨before, code, behind⟩
      checkCodes (code :: before) behind

/-- Lets through a condition, or gives the reason why it does not hold. -/
def require {Reason : Type} (holds : Bool) (reason : Reason) : Except Reason Unit :=
  if holds then .ok () else .error reason

/-- The greatest length of a text that is checked as a label. -/
def greatestChecked : Nat := 254

def checkLabel (label : List Nat) : Except LabelError Unit := do
  require (!label.isEmpty) .empty
  require (label.length ≤ greatestChecked) .tooLong
  require (Text.isComposed label) .notComposed
  require (!((label.drop 2).take 2 = [hyphen, hyphen])) .hyphensInside
  require (!(label.head? = some hyphen || label.getLast? = some hyphen)) .hyphenAtEnd
  require (!label.head?.any markCodes.contains) .initialMark
  checkCodes [] label
  (checkDirection label).mapError fun error => .misdirected error label

/-- What stands before the characters of a label that is not in ASCII. -/
def encodedStart : List Char := "xn--".toList

/-- The label that a text in ASCII stands for. -/
def decodeLabel (label : List Char) : Except LabelError (List Nat) := do
  let label := label.map Char.toLower
  if encodedStart.isPrefixOf label then
    let encoded := label.drop encodedStart.length
    require (!encoded.isEmpty) .nothingEncoded
    require (!(encoded.getLast? = some '-')) .encodedHyphenAtEnd
    match Text.fromPunycode? encoded with
    | none => throw .undecodable
    | some decoded =>
        checkLabel decoded
        require (Text.toPunycode decoded = encoded) .oddlyEncoded
        return decoded
  else
    let codes := label.map (·.toNat)
    checkLabel codes
    return codes

def greatestLabel : Nat := 63

def encodeLabel (label : List Char) : Except LabelError (List Char) := do
  let codes := label.map (·.toNat)
  let written ←
    if codes.all (· < 0x80) then do
      let _ ← decodeLabel label
      pure label
    else do
      checkLabel codes
      pure (encodedStart ++ Text.toPunycode codes)
  require (written.length ≤ greatestLabel) .tooLong
  return written

end DeliveryCycle.Address.Domain
