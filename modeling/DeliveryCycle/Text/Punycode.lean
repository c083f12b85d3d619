import DeliveryCycle.Text.Segments

/-!
# Punycode

A text of a domain name is written in ASCII as its characters of ASCII, a hyphen, and the places of
all others. The others are told in the order of their codes: each as the number of steps since the
one before it, where a step leads to the next place of the text, or to the next code once the text
has ended. Numbers have digits of base 36, of which the least comes first; how many digits a number
needs follows a `bias` that adapts to the numbers before it. A text is a list of codes.
-/

namespace DeliveryCycle.Text

/-- The smallest digit that goes on, for the digit at an index. -/
def threshold (index bias : Nat) : Nat := min (max (36 * (index + 1) - bias) 1) 26

/-- A threshold lets some digit end a number. -/
theorem threshold_pos (index bias : Nat) : 0 < threshold index bias := by
  unfold threshold; omega

/-- The bias of a number that is divided until it is small; `steps` counts the divisions. -/
def reducedBias (number steps : Nat) : Nat :=
  if 455 < number then reducedBias (number / 35) (steps + 1)
  else 36 * steps + 36 * number / (number + 38)
termination_by number
decreasing_by omega

/-- The bias after a number, when the text has `size` characters. -/
def adaptedBias (number size : Nat) (isFirst : Bool) : Nat :=
  let scaled := if isFirst then number / 700 else number / 2
  reducedBias (scaled + scaled / size) 0

section Reading

def digit36? (character : Char) : Option Nat :=
  let code := character.toNat
  if 0x61 ≤ code && code ≤ 0x7A then some (code - 0x61)
  else if 0x41 ≤ code && code ≤ 0x5A then some (code - 0x41)
  else if 0x30 ≤ code && code ≤ 0x39 then some (code - 22)
  else none

/-- Reads one number and the text behind it. -/
def readNumber (bias : Nat) (index weight value : Nat) : List Char → Option (Nat × List Char)
  | [] => none
  | character :: rest =>
      match digit36? character with
      | none => none
      | some digit =>
          let value := value + digit * weight
          if digit < threshold index bias then some (value, rest)
          else readNumber bias (index + 1) (weight * (36 - threshold index bias)) value rest

theorem length_readNumber {bias index weight value number : Nat} {text rest : List Char}
    (read : readNumber bias index weight value text = some (number, rest)) :
    rest.length < text.length := by
  induction text generalizing index weight value with
  | nil => simp [readNumber] at read
  | cons character tail ih =>
      unfold readNumber at read
      split at read
      · simp at read
      · dsimp only at read
        split at read
        · simp only [Option.some.injEq, Prod.mk.injEq] at read
          simp [← read.2]
        · have shorter := ih read
          simp only [List.length_cons]
          omega

/-- Puts the codes that numbers tell into a text; `position` is the place behind the last one. -/
def insertCodes (code position bias : Nat) (isFirst : Bool) (codes : List Nat)
    (text : List Char) : Option (List Nat) :=
  match text with
  | [] => some codes
  | first :: others =>
      match read : readNumber bias 0 1 0 (first :: others) with
      | none => none
      | some (number, rest) =>
          let size := codes.length + 1
          let code := code + (position + number) / size
          if 0x10FFFF < code then none
          else
            have : rest.length < (first :: others).length := length_readNumber read
            let position := (position + number) % size
            insertCodes code (position + 1) (adaptedBias number size isFirst) false
              (codes.take position ++ code :: codes.drop position) rest
termination_by text.length
decreasing_by exact this

/-- The text that is written as characters of ASCII. -/
def fromPunycode? (text : List Char) : Option (List Nat) :=
  let (basic, extended) := splitAtLast '-' text
  insertCodes 0x80 0 72 true ((basic.getD []).map (·.toNat)) extended

end Reading

section Writing

def digitChar36 (digit : Nat) : Char :=
  if digit < 26 then Char.ofNat (0x61 + digit) else Char.ofNat (22 + digit)

def writtenNumber (bias index number : Nat) : List Char :=
  let least := threshold index bias
  if number < least then [digitChar36 number]
  else
    digitChar36 (least + (number - least) % (36 - least)) ::
      writtenNumber bias (index + 1) ((number - least) / (36 - least))
termination_by number
decreasing_by
  have := threshold_pos index bias
  exact Nat.lt_of_le_of_lt (Nat.div_le_self _ _) (by omega)

/-- How far the writing of a text has come: how many characters are told, the steps since. -/
structure Telling where
  told : Nat
  steps : Nat
  bias : Nat
  isFirst : Bool
  written : List Char
deriving DecidableEq, Repr

/-- Passes one place of the text while the codes up to `code` are told. -/
def Telling.pass (telling : Telling) (code place : Nat) : Telling :=
  if place < code then { telling with steps := telling.steps + 1 }
  else if place = code then
    { told := telling.told + 1
      steps := 0
      bias := adaptedBias telling.steps (telling.told + 1) telling.isFirst
      isFirst := false
      written := telling.written ++ writtenNumber telling.bias 0 telling.steps }
  else telling

/-- Tells the places of codes, which are given in ascending order. -/
def Telling.tell (telling : Telling) (codes : List Nat) (reached : Nat) : List Nat → Telling
  | [] => telling
  | code :: others =>
      let start := { telling with steps := telling.steps + (code - reached) * (telling.told + 1) }
      let passed := codes.foldl (fun telling place => telling.pass code place) start
      Telling.tell { passed with steps := passed.steps + 1 } codes (code + 1) others

/-- The codes outside ASCII in ascending order, each once. -/
def wideCodes (codes : List Nat) : List Nat :=
  ((codes.filter (0x80 ≤ ·)).mergeSort (fun left right => left ≤ right)).eraseDups

def toPunycode (codes : List Nat) : List Char :=
  let basic := codes.filter (· < 0x80)
  let telling := Telling.tell ⟨basic.length, 0, 72, true, []⟩ codes 0x80 (wideCodes codes)
  let front := if basic.isEmpty then [] else basic.map Char.ofNat ++ ['-']
  front ++ telling.written

end Writing

end DeliveryCycle.Text
