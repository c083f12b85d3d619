/-!
# UTF-8

A character is written as one to four bytes. `utf8Bytes` writes a code and `decodeBytes` reads
bytes, in which whatever is no character reads as the replacement character.
-/

namespace DeliveryCycle.Text

def utf8Bytes (code : Nat) : List Nat :=
  if code < 0x80 then [code]
  else if code < 0x800 then [0xC0 + code / 0x40, 0x80 + code % 0x40]
  else if code < 0x10000 then
    [0xE0 + code / 0x1000, 0x80 + code / 0x40 % 0x40, 0x80 + code % 0x40]
  else
    [0xF0 + code / 0x40000, 0x80 + code / 0x1000 % 0x40, 0x80 + code / 0x40 % 0x40,
      0x80 + code % 0x40]

def textBytes (text : List Char) : List Nat :=
  text.flatMap fun character => utf8Bytes character.toNat

/-- How many bytes follow a first byte, and the range of the second byte. -/
def followers? (first : Nat) : Option (Nat × Nat × Nat) :=
  if 0xC2 ≤ first && first ≤ 0xDF then some (1, 0x80, 0xBF)
  else if first = 0xE0 then some (2, 0xA0, 0xBF)
  else if first = 0xED then some (2, 0x80, 0x9F)
  else if 0xE1 ≤ first && first ≤ 0xEF then some (2, 0x80, 0xBF)
  else if first = 0xF0 then some (3, 0x90, 0xBF)
  else if 0xF1 ≤ first && first ≤ 0xF3 then some (3, 0x80, 0xBF)
  else if first = 0xF4 then some (3, 0x80, 0x8F)
  else none

/-- The value bits of the first byte of a sequence. -/
def leadBits (count first : Nat) : Nat :=
  if count = 1 then first - 0xC0 else if count = 2 then first - 0xE0 else first - 0xF0

/-- Reads the bytes that must follow; `none` in front if one is missing or out of its range. -/
def readFollowers (value : Nat) : (count low high : Nat) → List Nat → Option Nat × List Nat
  | 0, _, _, bytes => (some value, bytes)
  | _ + 1, _, _, [] => (none, [])
  | count + 1, low, high, byte :: bytes =>
      if low ≤ byte && byte ≤ high then
        readFollowers (value * 0x40 + (byte - 0x80)) count 0x80 0xBF bytes
      else (none, byte :: bytes)

/-- The character that stands for bytes that cannot be read. -/
def replacementChar : Char := '\ufffd'

def decodeBytes : (fuel : Nat) → List Nat → List Char
  | 0, _ | _ + 1, [] => []
  | fuel + 1, first :: bytes =>
      if first < 0x80 then Char.ofNat first :: decodeBytes fuel bytes
      else
        match followers? first with
        | none => replacementChar :: decodeBytes fuel bytes
        | some (count, low, high) =>
            match readFollowers (leadBits count first) count low high bytes with
            | (some code, rest) => Char.ofNat code :: decodeBytes fuel rest
            | (none, rest) => replacementChar :: decodeBytes fuel rest

end DeliveryCycle.Text
