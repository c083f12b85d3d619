import DeliveryCycle.Address.Domain.Permitted

/-!
# The direction of a label

Some scripts are written from right to left. A label with a character of such a script has to be
read without doubt when it stands in a line of the other direction: it starts with a letter from
right to left, has no letter from left to right, has numbers of one kind and ends with a letter or
a number. `checkDirection` lets such a label through, and every label without these scripts. A label
with a character whose direction is not known is refused.
-/

namespace DeliveryCycle.Address.Domain

inductive Direction where
  | left
  | right
  | arabic
  | arabicNumber
  | europeanNumber
  | mark
  | neutral
  | unknown
deriving DecidableEq, Repr

/-- Letters from right to left, without those of the Arabic scripts. -/
def rightCodes : Text.CodeSet :=
  .ofLines [
    "5BE-5C0-2 5C3 5C6 5D0-5EA 5EF-5F4 7C0-7EA 7F4-7F5 7FA 7FE-815 81A 824 828 830-83E",
    "840-858 85E 200F FB1D-FB1F-2 FB20-FB28 FB2A-FB36 FB38-FB3C FB3E-FB40-2 FB41-FB43-2",
    "FB44-FB46-2 FB47-FB4F 10800-10805 10808-1080A-2 1080B-10835 10837-10838 1083C",
    "1083F-10855 10857-1089E 108A7-108AF 108E0-108F2 108F4-108F5 108FB-1091B 10920-10939",
    "1093F 10980-109B7 109BC-109CF 109D2-10A00 10A10-10A13 10A15-10A17 10A19-10A35",
    "10A40-10A48 10A50-10A58 10A60-10A9F 10AC0-10AE4 10AEB-10AF6 10B00-10B35 10B40-10B55",
    "10B58-10B72 10B78-10B91 10B99-10B9C 10BA9-10BAF 10C00-10C48 10C80-10CB2 10CC0-10CF2",
    "10CFA-10CFF 10E80-10EA9 10EAD 10EB0-10EB1 10F00-10F27 10F70-10F81 10F86-10F89",
    "10FB0-10FCB 10FE0-10FF6 1E800-1E8C4 1E8C7-1E8CF 1E900-1E943 1E94B 1E950-1E959",
    "1E95E-1E95F" ]

def arabicCodes : Text.CodeSet :=
  .ofLines [
    "608 60B-60D-2 61B-64A 66D-66F 671-6D5 6E5-6E6 6EE-6EF 6FA-70D 70F-710 712-72F 74D-7A5",
    "7B1 860-86A 870-88E 8A0-8C9 FB50-FBC2 FBD3-FD3D FD50-FD8F FD92-FDC7 FDF0-FDFC FE70-FE74",
    "FE76-FEFC 10D00-10D23 10F30-10F45 10F51-10F59 1EC71-1ECB4 1ED01-1ED3D 1EE00-1EE03",
    "1EE05-1EE1F 1EE21-1EE22 1EE24 1EE27-1EE29-2 1EE2A-1EE32 1EE34-1EE37 1EE39-1EE3B-2 1EE42",
    "1EE47-1EE4D-2 1EE4E-1EE4F 1EE51-1EE52 1EE54 1EE57-1EE61-2 1EE62-1EE64-2 1EE67-1EE6A",
    "1EE6C-1EE72 1EE74-1EE77 1EE79-1EE7C 1EE7E-1EE80-2 1EE81-1EE89 1EE8B-1EE9B 1EEA1-1EEA3",
    "1EEA5-1EEA9 1EEAB-1EEBB" ]

/-- Digits of the Arabic scripts. -/
def arabicNumberCodes : Text.CodeSet :=
  .ofLines [
    "600-605 660-669 66B-66C 6DD 890-891 8E2 10D30-10D39 10E60-10E7E" ]

def europeanNumberCodes : Text.CodeSet :=
  .ofLines [
    "30-39 B2-B3 B9 6F0-6F9 2070 2074-2079 2080-2089 2488-249B FF10-FF19 102E1-102FB",
    "1D7CE-1D7FF 1F100-1F10A 1FBF0-1FBF9" ]

/-- Marks that take the direction of the character before them. -/
def attachedCodes : Text.CodeSet :=
  .ofLines [
    "300-36F 483-489 591-5BD 5BF-5C1-2 5C2-5C4-2 5C5-5C7-2 610-61A 64B-65F 670 6D6-6DC",
    "6DF-6E4 6E7-6E8 6EA-6ED 711 730-74A 7A6-7B0 7EB-7F3 7FD 816-819 81B-823 825-827 829-82D",
    "859-85B 898-89F 8CA-8E1 8E3-902 93A-93C-2 941-948 94D 951-957 962-963 981 9BC 9C1-9C4",
    "9CD 9E2-9E3 9FE A01-A02 A3C A41-A42 A47-A48 A4B-A4D A51 A70-A71 A75 A81-A82 ABC AC1-AC5",
    "AC7-AC8 ACD AE2-AE3 AFA-AFF B01 B3C B3F-B41-2 B42-B44 B4D B55-B56 B62-B63 B82 BC0 BCD",
    "C00 C04 C3C-C3E-2 C3F-C40 C46-C48 C4A-C4D C55-C56 C62-C63 C81 CBC CCC-CCD CE2-CE3",
    "D00-D01 D3B-D3C D41-D44 D4D D62-D63 D81 DCA DD2-DD4 DD6 E31 E34-E3A E47-E4E EB1 EB4-EBC",
    "EC8-ECD F18-F19 F35-F39-2 F71-F7E F80-F84 F86-F87 F8D-F97 F99-FBC FC6 102D-1030",
    "1032-1037 1039-103A 103D-103E 1058-1059 105E-1060 1071-1074 1082 1085-1086 108D 109D",
    "135D-135F 1712-1714 1732-1733 1752-1753 1772-1773 17B4-17B5 17B7-17BD 17C6 17C9-17D3",
    "17DD 180B-180D 180F 1885-1886 18A9 1920-1922 1927-1928 1932 1939-193B 1A17-1A18 1A1B",
    "1A56-1A58-2 1A59-1A5E 1A60-1A62-2 1A65-1A6C 1A73-1A7C 1A7F 1AB0-1ACE 1B00-1B03",
    "1B34-1B36-2 1B37-1B3A 1B3C 1B42 1B6B-1B73 1B80-1B81 1BA2-1BA5 1BA8-1BA9 1BAB-1BAD",
    "1BE6-1BE8-2 1BE9 1BED-1BEF-2 1BF0-1BF1 1C2C-1C33 1C36-1C37 1CD0-1CD2 1CD4-1CE0",
    "1CE2-1CE8 1CED 1CF4 1CF8-1CF9 1DC0-1DFF 20D0-20F0 2CEF-2CF1 2D7F 2DE0-2DFF 302A-302D",
    "3099-309A A66F-A672 A674-A67D A69E-A69F A6F0-A6F1 A802 A806 A80B A825-A826 A82C",
    "A8C4-A8C5 A8E0-A8F1 A8FF A926-A92D A947-A951 A980-A982 A9B3 A9B6-A9B9 A9BC-A9BD A9E5",
    "AA29-AA2E AA31-AA32 AA35-AA36 AA43 AA4C AA7C AAB0-AAB2-2 AAB3-AAB4 AAB7-AAB8 AABE-AABF",
    "AAC1 AAEC-AAED AAF6 ABE5 ABE8 ABED FB1E FE00-FE0F FE20-FE2F 101FD 102E0 10376-1037A",
    "10A01-10A03 10A05-10A06 10A0C-10A0F 10A38-10A3A 10A3F 10AE5-10AE6 10D24-10D27",
    "10EAB-10EAC 10F46-10F50 10F82-10F85 11001 11038-11046 11070 11073-11074 1107F-11081",
    "110B3-110B6 110B9-110BA 110C2 11100-11102 11127-1112B 1112D-11134 11173 11180-11181",
    "111B6-111BE 111C9-111CC 111CF 1122F-11231 11234-11236-2 11237 1123E 112DF 112E3-112EA",
    "11300-11301 1133B-1133C 11340 11366-1136C 11370-11374 11438-1143F 11442-11444 11446",
    "1145E 114B3-114B8 114BA 114BF-114C0 114C2-114C3 115B2-115B5 115BC-115BD 115BF-115C0",
    "115DC-115DD 11633-1163A 1163D-1163F-2 11640 116AB-116AD-2 116B0-116B5 116B7 1171D-1171F",
    "11722-11725 11727-1172B 1182F-11837 11839-1183A 1193B-1193C 1193E 11943 119D4-119D7",
    "119DA-119DB 119E0 11A01-11A06 11A09-11A0A 11A33-11A38 11A3B-11A3E 11A47 11A51-11A56",
    "11A59-11A5B 11A8A-11A96 11A98-11A99 11C30-11C36 11C38-11C3D 11C92-11CA7 11CAA-11CB0",
    "11CB2-11CB3 11CB5-11CB6 11D31-11D36 11D3A-11D3C-2 11D3D-11D3F-2 11D40-11D45 11D47",
    "11D90-11D91 11D95-11D97-2 11EF3-11EF4 16AF0-16AF4 16B30-16B36 16F4F 16F8F-16F92 16FE4",
    "1BC9D-1BC9E 1CF00-1CF2D 1CF30-1CF46 1D167-1D169 1D17B-1D182 1D185-1D18B 1D1AA-1D1AD",
    "1D242-1D244 1DA00-1DA36 1DA3B-1DA6C 1DA75 1DA84 1DA9B-1DA9F 1DAA1-1DAAF 1E000-1E006",
    "1E008-1E018 1E01B-1E021 1E023-1E024 1E026-1E02A 1E130-1E136 1E2AE 1E2EC-1E2EF",
    "1E8D0-1E8D6 1E944-1E94A E0100-E01EF" ]

/-- The characters of labels that have no direction of their own. -/
def neutralCodes : Text.CodeSet :=
  .ofLines [
    "2D B7 2B9-2BA 2C6-2CF 2EC 375 200C-200D 2E2F 30FB A67F A717-A71F A788" ]

def directionOf (code : Nat) : Direction :=
  if laterCodes.contains code then .unknown
  else if rightCodes.contains code then .right
  else if arabicCodes.contains code then .arabic
  else if arabicNumberCodes.contains code then .arabicNumber
  else if europeanNumberCodes.contains code then .europeanNumber
  else if attachedCodes.contains code then .mark
  else if neutralCodes.contains code then .neutral
  else .left

/-- Whether a direction makes a label one from right to left. -/
def Direction.isRightward : Direction → Bool
  | .right | .arabic | .arabicNumber => true
  | _ => false

/-- Whether a label may end with a direction, marks behind it apart. -/
def Direction.canEnd : Direction → Bool
  | .right | .arabic | .arabicNumber | .europeanNumber => true
  | _ => false

/-- Why a label cannot be read without doubt. Positions are counted from one. -/
inductive DirectionError where
  | unknown (position : Nat)
  | badStart
  | leftInRight (position : Nat)
  | rightInLeft (position : Nat)
  | mixedNumbers
  | badEnd
deriving DecidableEq, Repr

def DirectionError.message (label : String) : DirectionError → String
  | .unknown position => s!"Unknown directionality in label {label} at position {position}"
  | .badStart => s!"First codepoint in label {label} must be directionality L, R or AL"
  | .leftInRight position =>
      s!"Invalid direction for codepoint at position {position} in a right-to-left label"
  | .rightInLeft position =>
      s!"Invalid direction for codepoint at position {position} in a left-to-right label"
  | .mixedNumbers => "Can not mix numeral types in a right-to-left label"
  | .badEnd => "Label ends with illegal codepoint directionality"

/-- Whether two directions are those of numbers of different kinds. -/
def Direction.mixes (first second : Direction) : Bool :=
  (first = .arabicNumber && second = .europeanNumber) ||
    (first = .europeanNumber && second = .arabicNumber)

/-- Checks what follows in a label from right to left; `passed` are the directions before it. -/
def checkRightward (passed : List Direction) : List Direction → Except DirectionError Unit
  | [] =>
      match passed.dropWhile (· = .mark) with
      | [] => .error .badEnd
      | last :: _ => if last.canEnd then .ok () else .error .badEnd
  | direction :: rest =>
      if direction = .left then .error (.leftInRight (passed.length + 1))
      else if passed.any direction.mixes then .error .mixedNumbers
      else checkRightward (direction :: passed) rest

/-- Lets through directions of a label that can be read without doubt. -/
def checkDirections (directions : List Direction) : Except DirectionError Unit :=
  if directions.contains .unknown then .error (.unknown (directions.idxOf .unknown + 1))
  else if directions.any (·.isRightward) then
    match directions.head? with
    | some .right | some .arabic => checkRightward [] directions
    | some .left => .error (.rightInLeft (directions.findIdx (·.isRightward) + 1))
    | _ => .error .badStart
  else .ok ()

/-- Lets through a label that can be read without doubt. -/
def checkDirection (label : List Nat) : Except DirectionError Unit :=
  checkDirections (label.map directionOf)

end DeliveryCycle.Address.Domain
