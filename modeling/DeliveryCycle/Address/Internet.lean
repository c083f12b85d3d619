import DeliveryCycle.Text.Quoted
import DeliveryCycle.Text.Segments

/-!
# Numeric addresses of hosts

A host can be named by a number instead of a name. The older form has four numbers below 256 with
dots between them. The newer one has eight groups of hexadecimal digits with colons between them, of
which a row of zeros may be left out once; the last two groups may be written in the older form, and
a zone may follow a percent sign.
-/

namespace DeliveryCycle.Address

def isOctet (text : List Char) : Bool :=
  !text.isEmpty && text.length ≤ 3 && text.all Char.isDigit &&
    (text.length = 1 || text.head? ≠ some '0') &&
    text.foldl (fun value digit => value * 10 + (digit.toNat - 48)) 0 < 256

def isQuad (text : List Char) : Bool :=
  let parts := Text.segments '.' text
  parts.length = 4 && parts.all isOctet

def isGroup (text : List Char) : Bool :=
  !text.isEmpty && text.length ≤ 4 && text.all fun digit => (Text.hexValue? digit).isSome

/-- Groups in which the last one, if it is an address of four numbers, counts as two. -/
def widenGroups (groups : List (List Char)) : Option (List (List Char)) :=
  match groups.getLast? with
  | some last =>
      if last.contains '.' then
        if isQuad last then some (groups.dropLast ++ [['0'], ['0']]) else none
      else some groups
  | none => some groups

/-- How many groups there are at one side of the row of zeros, if they are groups. -/
def sideCount? (groups : List (List Char)) : Option Nat :=
  if groups = [[]] then some 0
  else if groups.all isGroup then some groups.length
  else none

/-- Whether groups, at least three, are those of an address. -/
def areGroups (groups : List (List Char)) : Bool :=
  match ((groups.drop 1).dropLast).findIdx? (·.isEmpty) with
  | none => groups.length = 8 && groups.all isGroup
  | some index =>
      match sideCount? (groups.take (index + 1)), sideCount? (groups.drop (index + 2)) with
      | some high, some low => high + low < 8
      | _, _ => false

/-- Whether a text is an address of eight groups, without a zone. -/
def isGrouped (text : List Char) : Bool :=
  let groups := Text.segments ':' text
  3 ≤ groups.length && (widenGroups groups).any fun groups =>
    groups.length ≤ 9 && areGroups groups

def isGroupAddress (text : List Char) : Bool :=
  let (front, zone) := Text.splitAtFirst '%' text
  !text.contains '/' && isGrouped front &&
    zone.all fun zone => !zone.isEmpty && !zone.contains '%'

end DeliveryCycle.Address
