import DeliveryCycle.Text.Surrogate

/-!
# Encodings of JSON texts

A JSON text arrives as bytes in one of five encodings. Its first two characters belong to ASCII, so
the zeros among its first four bytes tell which one it is. In UTF-8 a byte order mark at the start
is dropped.

Bytes that stop inside a character, or that stand for a code beyond all characters, cannot be
decoded. A surrogate without a partner stands for itself, so what is decoded is a list of codes.
-/

namespace DeliveryCycle.Json

inductive Encoding where
  | utf8
  | utf16 (bigEndian : Bool)
  | utf32 (bigEndian : Bool)
deriving DecidableEq, Repr

namespace Encoding

def detect : List Nat → Encoding
  | first :: second :: third :: fourth :: _ =>
      if first = 0 then if second = 0 then .utf32 true else .utf16 true
      else if second = 0 then
        if third = 0 && fourth = 0 then .utf32 false else .utf16 false
      else .utf8
  | [first, second] =>
      if first = 0 then .utf16 true else if second = 0 then .utf16 false else .utf8
  | _ => .utf8

/-- The number whose bytes are listed, the most significant one first. -/
def bigEndianValue (bytes : List Nat) : Nat := bytes.foldl (fun value byte => value * 256 + byte) 0

/-- The number whose bytes are listed in one of the two orders. -/
def unitValue (bigEndian : Bool) (bytes : List Nat) : Nat :=
  bigEndianValue (if bigEndian then bytes else bytes.reverse)

def name : Encoding → String
  | .utf8 => "utf-8"
  | .utf16 true => "utf-16-be"
  | .utf16 false => "utf-16-le"
  | .utf32 true => "utf-32-be"
  | .utf32 false => "utf-32-le"

end Encoding

inductive DecodingFault where
  | truncated
  | beyondAllCharacters
deriving DecidableEq, Repr

def DecodingFault.reason : DecodingFault → String
  | .truncated => "truncated data"
  | .beyondAllCharacters => "code point not in range(0x110000)"

/-- Bytes that cannot be decoded, with their place. -/
structure DecodingError where
  encoding : Encoding
  start : Nat
  bytes : List Nat
  fault : DecodingFault
deriving DecidableEq, Repr

def DecodingError.message (error : DecodingError) : String :=
  let place := match error.bytes with
    | [byte] => s!"byte 0x{String.ofList (Text.hexDigits 2 byte)} in position {error.start}"
    | bytes => s!"bytes in position {error.start}-{error.start + bytes.length - 1}"
  s!"'{error.encoding.name}' codec can't decode {place}: {error.fault.reason}"

/-- The units of sixteen bits of a list of bytes. -/
def readUnits16 (bigEndian : Bool) : (start : Nat) → List Nat → Except DecodingError (List Nat)
  | _, [] => .ok []
  | start, [byte] => .error ⟨.utf16 bigEndian, start, [byte], .truncated⟩
  | start, first :: second :: rest => do
      let units ← readUnits16 bigEndian (start + 2) rest
      return Encoding.unitValue bigEndian [first, second] :: units

/-- The codes of a list of units of sixteen bits. -/
def codesOfUnits : List Nat → List Nat
  | [] => []
  | [unit] => [unit]
  | first :: second :: rest =>
      if Text.isHighSurrogate first && Text.isLowSurrogate second then
        Text.joinSurrogates first second :: codesOfUnits rest
      else first :: codesOfUnits (second :: rest)

/-- The codes of a list of bytes, four for each. -/
def readUnits32 (bigEndian : Bool) : (start : Nat) → List Nat → Except DecodingError (List Nat)
  | _, [] => .ok []
  | start, first :: second :: third :: fourth :: rest =>
      let bytes := [first, second, third, fourth]
      let code := Encoding.unitValue bigEndian bytes
      if 0x110000 ≤ code then .error ⟨.utf32 bigEndian, start, bytes, .beyondAllCharacters⟩
      else do
        let codes ← readUnits32 bigEndian (start + 4) rest
        return code :: codes
  | start, bytes => .error ⟨.utf32 bigEndian, start, bytes, .truncated⟩

/-- The codes of a JSON text whose bytes were taken for UTF-8. -/
def decodeCodes (text : List Char) : Except DecodingError (List Nat) :=
  let bytes := Text.textBytes text
  match Encoding.detect bytes with
  | .utf8 =>
      match text with
      | '\ufeff' :: rest => .ok (rest.map Char.toNat)
      | _ => .ok (text.map Char.toNat)
  | .utf16 bigEndian => (readUnits16 bigEndian 0 bytes).map codesOfUnits
  | .utf32 bigEndian => readUnits32 bigEndian 0 bytes

end DeliveryCycle.Json
