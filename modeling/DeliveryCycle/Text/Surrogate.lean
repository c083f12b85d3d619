import DeliveryCycle.Text.Quoted
import DeliveryCycle.Text.Utf8

/-!
# Surrogates

Two codes of sixteen bits, a high and a low surrogate, stand together for one character beyond the
first 65536. A surrogate that has no partner is no character, so a text with one is no string. Such
a text is kept as a list of codes, and it cannot be written in UTF-8.
-/

namespace DeliveryCycle.Text

/-- Whether a code is the first one of a pair. -/
def isHighSurrogate (code : Nat) : Bool := 0xD800 ≤ code && code < 0xDC00

/-- Whether a code is the second one of a pair. -/
def isLowSurrogate (code : Nat) : Bool := 0xDC00 ≤ code && code < 0xE000

def isSurrogate (code : Nat) : Bool := 0xD800 ≤ code && code < 0xE000

/-- The code of the character that two surrogates stand for. -/
def joinSurrogates (high low : Nat) : Nat := 0x10000 + (high - 0xD800) * 0x400 + (low - 0xDC00)

def charOfCode (code : Nat) : Char := if isSurrogate code then replacementChar else Char.ofNat code

/-- A text of codes, with the replacement character for every surrogate. -/
def ofCodes (codes : List Nat) : String := String.ofList (codes.map charOfCode)

/-- A code of a text between quotes of the given kind. -/
def quotedCode (quote : Char) (code : Nat) : List Char :=
  if isSurrogate code then '\\' :: 'u' :: hexDigits 4 code else quotedChar quote (Char.ofNat code)

def quotedCodes (codes : List Nat) : String :=
  let quote := quoteFor (codes.map charOfCode)
  String.ofList (quote :: (codes.flatMap (quotedCode quote) ++ [quote]))

/-- Surrogates that cannot be written: the first of them, its place and how many there are. -/
structure UnpairedSurrogate where
  first : Nat
  start : Nat
  count : Nat
deriving DecidableEq, Repr

/-- The first surrogates in a text of codes. -/
def firstSurrogates? (codes : List Nat) : Option UnpairedSurrogate :=
  match codes.dropWhile (!isSurrogate ·) with
  | [] => none
  | first :: rest =>
      some ⟨first, (codes.takeWhile (!isSurrogate ·)).length,
        (rest.takeWhile isSurrogate).length + 1⟩

def unencodableMessage (encoding shown : String) (start count : Nat) (reason : String) : String :=
  let place :=
    if count = 1 then s!"character '{shown}' in position {start}"
    else s!"characters in position {start}-{start + count - 1}"
  s!"'{encoding}' codec can't encode {place}: {reason}"

def UnpairedSurrogate.message (error : UnpairedSurrogate) : String :=
  unencodableMessage "utf-8" (String.ofList ('\\' :: 'u' :: hexDigits 4 error.first)) error.start
    error.count "surrogates not allowed"

end DeliveryCycle.Text
