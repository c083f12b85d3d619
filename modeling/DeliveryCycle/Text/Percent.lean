import DeliveryCycle.Text.Quoted
import DeliveryCycle.Text.Utf8

/-!
# Percent encoding

The parts of an address are written in ASCII. A character that may not stand for itself is written
as its bytes in UTF-8, each as a percent sign and two hexadecimal digits. `encode` writes a part of
an address and `decode` reads one; bytes that are not UTF-8 read as the replacement character. A
percent sign always stands for itself, so that what is encoded already stays as it is.
-/

namespace DeliveryCycle.Text

/-- The bytes of a text whose percent signs are read where two hexadecimal digits follow. -/
def percentBytes : List Char → List Nat
  | [] => []
  | '%' :: first :: second :: rest =>
      match hexValue? first, hexValue? second with
      | some high, some low => (high * 16 + low) :: percentBytes rest
      | _, _ => 0x25 :: percentBytes (first :: second :: rest)
  | character :: rest => utf8Bytes character.toNat ++ percentBytes rest
termination_by text => text.length

/-- The characters that a part of an address stands for. -/
def decodePercent (part : List Char) : List Char :=
  let bytes := percentBytes part
  decodeBytes bytes.length bytes

/-- A byte as a percent sign and two capital hexadecimal digits. -/
def percentByte (byte : Nat) : List Char := '%' :: (hexDigits 2 byte).map Char.toUpper

def isPlain (escaped : List Char) (character : Char) : Bool :=
  let code := character.toNat
  0x21 ≤ code && code ≤ 0x7E && !(escaped.contains character)

/-- A text in which the signs that are `escaped`, and what is no sign of ASCII, stand for bytes. -/
def encodePercent (escaped : List Char) (text : List Char) : List Char :=
  text.flatMap fun character =>
    if isPlain escaped character then [character]
    else (utf8Bytes character.toNat).flatMap percentByte

/-- A text of signs that stand for themselves is written as it is. -/
theorem encodePercent_of_isPlain {escaped text : List Char}
    (plain : ∀ character ∈ text, isPlain escaped character = true) :
    encodePercent escaped text = text := by
  induction text with
  | nil => rfl
  | cons character rest ih =>
      have rest_plain := ih fun other mem => plain other (List.mem_cons_of_mem _ mem)
      unfold encodePercent at rest_plain ⊢
      rw [List.flatMap_cons, rest_plain, if_pos (plain character List.mem_cons_self)]
      rfl

end DeliveryCycle.Text
