import DeliveryCycle.Text.CodeTable

/-!
# Characters of domain names

A label of a domain name holds small letters, digits, marks and the hyphen, of any script. Whether
some other characters may stand in a label depends on what stands beside them; they are not in these
tables.
-/

namespace DeliveryCycle.Address.Domain

def permittedCodes : Text.CodeSet :=
  .ofLines [
    "2D 30-39 61-7A DF-F6 F8-FF 101-131-2 135-137-2 138-13E-2 142-148-2 14B-177-2 17A-180-2",
    "183-185-2 188 18C-18D 192 195 199-19B 19E 1A1-1A5-2 1A8-1AA-2 1AB-1AD-2 1B0 1B4-1B6-2",
    "1B9-1BB 1BD-1C3 1CE-1DC-2 1DD-1EF-2 1F0 1F5 1F9-233-2 234-239 23C 23F-240 242 247-24F-2",
    "250-2AF 2B9-2C1 2C6-2D1 2EC-2EE-2 300-33F 342 346-34E 350-36F 371-373-2 377 37B-37D 390",
    "3AC-3CE 3D7-3EF-2 3F3 3F8 3FB-3FC 430-45F 461-483-2 484-487 48B-4BF-2 4C2-4CE-2",
    "4CF-52F-2 559 560-586 588 591-5BD 5BF-5C1-2 5C2-5C4-2 5C5-5C7-2 5D0-5EA 5EF-5F2 610-61A",
    "620-63F 641-65F 66E-674 679-6D3 6D5-6DC 6DF-6E8 6EA-6EF 6FA-6FF 710-74A 74D-7B1 7C0-7F5",
    "7FD 800-82D 840-85B 860-86A 870-887 889-88E 898-8E1 8E3-957 960-963 966-96F 971-983",
    "985-98C 98F-990 993-9A8 9AA-9B0 9B2 9B6-9B9 9BC-9C4 9C7-9C8 9CB-9CE 9D7 9E0-9E3 9E6-9F1",
    "9FC-9FE-2 A01-A03 A05-A0A A0F-A10 A13-A28 A2A-A30 A32 A35 A38-A39 A3C-A3E-2 A3F-A42",
    "A47-A48 A4B-A4D A51 A5C A66-A75 A81-A83 A85-A8D A8F-A91 A93-AA8 AAA-AB0 AB2-AB3 AB5-AB9",
    "ABC-AC5 AC7-AC9 ACB-ACD AD0 AE0-AE3 AE6-AEF AF9-AFF B01-B03 B05-B0C B0F-B10 B13-B28",
    "B2A-B30 B32-B33 B35-B39 B3C-B44 B47-B48 B4B-B4D B55-B57 B5F-B63 B66-B6F B71 B82-B83",
    "B85-B8A B8E-B90 B92-B95 B99-B9A B9C-B9E-2 B9F BA3-BA4 BA8-BAA BAE-BB9 BBE-BC2 BC6-BC8",
    "BCA-BCD BD0 BD7 BE6-BEF C00-C0C C0E-C10 C12-C28 C2A-C39 C3C-C44 C46-C48 C4A-C4D C55-C56",
    "C58-C5A C5D C60-C63 C66-C6F C80-C83 C85-C8C C8E-C90 C92-CA8 CAA-CB3 CB5-CB9 CBC-CC4",
    "CC6-CC8 CCA-CCD CD5-CD6 CDD-CDE CE0-CE3 CE6-CEF CF1-CF2 D00-D0C D0E-D10 D12-D44 D46-D48",
    "D4A-D4E D54-D57 D5F-D63 D66-D6F D7A-D7F D81-D83 D85-D96 D9A-DB1 DB3-DBB DBD DC0-DC6 DCA",
    "DCF-DD4 DD6-DD8-2 DD9-DDF DE6-DEF DF2-DF3 E01-E32 E34-E3A E40-E4E E50-E59 E81-E82",
    "E84-E86-2 E87-E8A E8C-EA3 EA5-EA7-2 EA8-EB2 EB4-EBD EC0-EC4 EC6-EC8-2 EC9-ECD ED0-ED9",
    "EDE-EDF F00 F0B F18-F19 F20-F29 F35-F39-2 F3E-F42 F44-F47 F49-F4C F4E-F51 F53-F56",
    "F58-F5B F5D-F68 F6A-F6C F71-F72 F74 F7A-F80 F82-F84 F86-F92 F94-F97 F99-F9C F9E-FA1",
    "FA3-FA6 FA8-FAB FAD-FB8 FBA-FBC FC6 1000-1049 1050-109D 10D0-10FA 10FD-10FF 1200-1248",
    "124A-124D 1250-1256 1258-125A-2 125B-125D 1260-1288 128A-128D 1290-12B0 12B2-12B5",
    "12B8-12BE 12C0-12C2-2 12C3-12C5 12C8-12D6 12D8-1310 1312-1315 1318-135A 135D-135F",
    "1380-138F 13A0-13F5 1401-166C 166F-167F 1681-169A 16A0-16EA 16F1-16F8 1700-1715",
    "171F-1734 1740-1753 1760-176C 176E-1770 1772-1773 1780-17B3 17B6-17D3 17D7 17DC-17DD",
    "17E0-17E9 1810-1819 1820-1878 1880-18AA 18B0-18F5 1900-191E 1920-192B 1930-193B",
    "1946-196D 1970-1974 1980-19AB 19B0-19C9 19D0-19D9 1A00-1A1B 1A20-1A5E 1A60-1A7C",
    "1A7F-1A89 1A90-1A99 1AA7 1AB0-1ABD 1ABF-1ACE 1B00-1B4C 1B50-1B59 1B6B-1B73 1B80-1BF3",
    "1C00-1C37 1C40-1C49 1C4D-1C7D 1CD0-1CD2 1CD4-1CFA 1D00-1D2B 1D2F 1D3B 1D4E 1D6B-1D77",
    "1D79-1D9A 1DC0-1DFF 1E01-1E95-2 1E96-1E99 1E9C-1E9D 1E9F-1EFF-2 1F00-1F07 1F10-1F15",
    "1F20-1F27 1F30-1F37 1F40-1F45 1F50-1F57 1F60-1F67 1F70-1F7C-2 1FB0-1FB1 1FB6 1FC6",
    "1FD0-1FD2 1FD6-1FD7 1FE0-1FE2 1FE4-1FE7 1FF6 214E 2184 2C30-2C5F 2C61 2C65-2C66",
    "2C68-2C6C-2 2C71-2C73-2 2C74-2C76-2 2C77-2C7B 2C81-2CE3-2 2CE4 2CEC-2CEE-2 2CEF-2CF1",
    "2CF3 2D00-2D25 2D27 2D2D 2D30-2D67 2D7F-2D96 2DA0-2DA6 2DA8-2DAE 2DB0-2DB6 2DB8-2DBE",
    "2DC0-2DC6 2DC8-2DCE 2DD0-2DD6 2DD8-2DDE 2DE0-2DFF 2E2F 3005-3007 302A-302D 303C",
    "3041-3096 3099-309A 309D-309E 30A1-30FA 30FC-30FE 3105-312F 31A0-31BF 31F0-31FF",
    "3400-4DBF 4E00-A48C A4D0-A4FD A500-A60C A610-A62B A641-A66D-2 A66E-A66F A674-A67D",
    "A67F-A69B-2 A69E-A6E5 A6F0-A6F1 A717-A71F A723-A72F-2 A730-A731 A733-A771-2 A772-A778",
    "A77A-A77C-2 A77F-A787-2 A788 A78C-A78E-2 A78F-A793-2 A794-A795 A797-A7A9-2 A7AF",
    "A7B5-A7C3-2 A7C8-A7CA-2 A7D1-A7D9-2 A7F6-A7F7 A7FA-A827 A82C A840-A873 A880-A8C5",
    "A8D0-A8D9 A8E0-A8F7 A8FB-A8FD-2 A8FE-A92D A930-A953 A980-A9C0 A9CF-A9D9 A9E0-A9FE",
    "AA00-AA36 AA40-AA4D AA50-AA59 AA60-AA76 AA7A-AAC2 AADB-AADD AAE0-AAEF AAF2-AAF6",
    "AB01-AB06 AB09-AB0E AB11-AB16 AB20-AB26 AB28-AB2E AB30-AB5A AB60-AB68 ABC0-ABEA",
    "ABEC-ABED ABF0-ABF9 AC00-D7A3 FA0E-FA0F FA11-FA13-2 FA14 FA1F-FA23-2 FA24 FA27-FA29",
    "FB1E FE20-FE2F FE73 10000-1000B 1000D-10026 10028-1003A 1003C-1003D 1003F-1004D",
    "10050-1005D 10080-100FA 101FD 10280-1029C 102A0-102D0 102E0 10300-1031F 1032D-10340",
    "10342-10349 10350-1037A 10380-1039D 103A0-103C3 103C8-103CF 10428-1049D 104A0-104A9",
    "104D8-104FB 10500-10527 10530-10563 10597-105A1 105A3-105B1 105B3-105B9 105BB-105BC",
    "10600-10736 10740-10755 10760-10767 10780 10800-10805 10808-1080A-2 1080B-10835",
    "10837-10838 1083C 1083F-10855 10860-10876 10880-1089E 108E0-108F2 108F4-108F5",
    "10900-10915 10920-10939 10980-109B7 109BE-109BF 10A00-10A03 10A05-10A06 10A0C-10A13",
    "10A15-10A17 10A19-10A35 10A38-10A3A 10A3F 10A60-10A7C 10A80-10A9C 10AC0-10AC7",
    "10AC9-10AE6 10B00-10B35 10B40-10B55 10B60-10B72 10B80-10B91 10C00-10C48 10CC0-10CF2",
    "10D00-10D27 10D30-10D39 10E80-10EA9 10EAB-10EAC 10EB0-10EB1 10F00-10F1C 10F27",
    "10F30-10F50 10F70-10F85 10FB0-10FC4 10FE0-10FF6 11000-11046 11066-11075 1107F-110BA",
    "110C2 110D0-110E8 110F0-110F9 11100-11134 11136-1113F 11144-11147 11150-11173 11176",
    "11180-111C4 111C9-111CC 111CE-111DA 111DC 11200-11211 11213-11237 1123E 11280-11286",
    "11288-1128A-2 1128B-1128D 1128F-1129D 1129F-112A8 112B0-112EA 112F0-112F9 11300-11303",
    "11305-1130C 1130F-11310 11313-11328 1132A-11330 11332-11333 11335-11339 1133B-11344",
    "11347-11348 1134B-1134D 11350 11357 1135D-11363 11366-1136C 11370-11374 11400-1144A",
    "11450-11459 1145E-11461 11480-114C5 114C7 114D0-114D9 11580-115B5 115B8-115C0",
    "115D8-115DD 11600-11640 11644 11650-11659 11680-116B8 116C0-116C9 11700-1171A",
    "1171D-1172B 11730-11739 11740-11746 11800-1183A 118C0-118E9 118FF-11906 11909",
    "1190C-11913 11915-11916 11918-11935 11937-11938 1193B-11943 11950-11959 119A0-119A7",
    "119AA-119D7 119DA-119E1 119E3-119E4 11A00-11A3E 11A47 11A50-11A99 11A9D 11AB0-11AF8",
    "11C00-11C08 11C0A-11C36 11C38-11C40 11C50-11C59 11C72-11C8F 11C92-11CA7 11CA9-11CB6",
    "11D00-11D06 11D08-11D09 11D0B-11D36 11D3A-11D3C-2 11D3D-11D3F-2 11D40-11D47 11D50-11D59",
    "11D60-11D65 11D67-11D68 11D6A-11D8E 11D90-11D91 11D93-11D98 11DA0-11DA9 11EE0-11EF6",
    "11FB0 12000-12399 12480-12543 12F90-12FF0 13000-1342E 14400-14646 16800-16A38",
    "16A40-16A5E 16A60-16A69 16A70-16ABE 16AC0-16AC9 16AD0-16AED 16AF0-16AF4 16B00-16B36",
    "16B40-16B43 16B50-16B59 16B63-16B77 16B7D-16B8F 16E60-16E7F 16F00-16F4A 16F4F-16F87",
    "16F8F-16F9F 16FE0-16FE1 16FE3-16FE4 16FF0-16FF1 17000-187F7 18800-18CD5 18D00-18D08",
    "1AFF0-1AFF3 1AFF5-1AFFB 1AFFD-1AFFE 1B000-1B122 1B150-1B152 1B164-1B167 1B170-1B2FB",
    "1BC00-1BC6A 1BC70-1BC7C 1BC80-1BC88 1BC90-1BC99 1BC9D-1BC9E 1CF00-1CF2D 1CF30-1CF46",
    "1DA00-1DA36 1DA3B-1DA6C 1DA75 1DA84 1DA9B-1DA9F 1DAA1-1DAAF 1DF00-1DF1E 1E000-1E006",
    "1E008-1E018 1E01B-1E021 1E023-1E024 1E026-1E02A 1E100-1E12C 1E130-1E13D 1E140-1E149",
    "1E14E 1E290-1E2AE 1E2C0-1E2F9 1E7E0-1E7E6 1E7E8-1E7EB 1E7ED-1E7EE 1E7F0-1E7FE",
    "1E800-1E8C4 1E8D0-1E8D6 1E922-1E94B 1E950-1E959 20000-2A6DF 2A700-2B738 2B740-2B81D",
    "2B820-2CEA1 2CEB0-2EBE0 30000-3134A" ]

/-- Marks, which belong to the character before them. -/
def markCodes : Text.CodeSet :=
  .ofLines [
    "300-36F 483-489 591-5BD 5BF-5C1-2 5C2-5C4-2 5C5-5C7-2 610-61A 64B-65F 670 6D6-6DC",
    "6DF-6E4 6E7-6E8 6EA-6ED 711 730-74A 7A6-7B0 7EB-7F3 7FD 816-819 81B-823 825-827 829-82D",
    "859-85B 898-89F 8CA-8E1 8E3-903 93A-93C 93E-94F 951-957 962-963 981-983 9BC-9BE-2",
    "9BF-9C4 9C7-9C8 9CB-9CD 9D7 9E2-9E3 9FE A01-A03 A3C-A3E-2 A3F-A42 A47-A48 A4B-A4D A51",
    "A70-A71 A75 A81-A83 ABC-ABE-2 ABF-AC5 AC7-AC9 ACB-ACD AE2-AE3 AFA-AFF B01-B03 B3C-B3E-2",
    "B3F-B44 B47-B48 B4B-B4D B55-B57 B62-B63 B82 BBE-BC2 BC6-BC8 BCA-BCD BD7 C00-C04",
    "C3C-C3E-2 C3F-C44 C46-C48 C4A-C4D C55-C56 C62-C63 C81-C83 CBC-CBE-2 CBF-CC4 CC6-CC8",
    "CCA-CCD CD5-CD6 CE2-CE3 D00-D03 D3B-D3C D3E-D44 D46-D48 D4A-D4D D57 D62-D63 D81-D83 DCA",
    "DCF-DD4 DD6-DD8-2 DD9-DDF DF2-DF3 E31 E34-E3A E47-E4E EB1 EB4-EBC EC8-ECD F18-F19",
    "F35-F39-2 F3E-F3F F71-F84 F86-F87 F8D-F97 F99-FBC FC6 102B-103E 1056-1059 105E-1060",
    "1062-1064 1067-106D 1071-1074 1082-108D 108F 109A-109D 135D-135F 1712-1715 1732-1734",
    "1752-1753 1772-1773 17B4-17D3 17DD 180B-180D 180F 1885-1886 18A9 1920-192B 1930-193B",
    "1A17-1A1B 1A55-1A5E 1A60-1A7C 1A7F 1AB0-1ACE 1B00-1B04 1B34-1B44 1B6B-1B73 1B80-1B82",
    "1BA1-1BAD 1BE6-1BF3 1C24-1C37 1CD0-1CD2 1CD4-1CE8 1CED 1CF4 1CF7-1CF9 1DC0-1DFF",
    "20D0-20F0 2CEF-2CF1 2D7F 2DE0-2DFF 302A-302F 3099-309A A66F-A672 A674-A67D A69E-A69F",
    "A6F0-A6F1 A802 A806 A80B A823-A827 A82C A880-A881 A8B4-A8C5 A8E0-A8F1 A8FF A926-A92D",
    "A947-A953 A980-A983 A9B3-A9C0 A9E5 AA29-AA36 AA43 AA4C-AA4D AA7B-AA7D AAB0-AAB2-2",
    "AAB3-AAB4 AAB7-AAB8 AABE-AABF AAC1 AAEB-AAEF AAF5-AAF6 ABE3-ABEA ABEC-ABED FB1E",
    "FE00-FE0F FE20-FE2F 101FD 102E0 10376-1037A 10A01-10A03 10A05-10A06 10A0C-10A0F",
    "10A38-10A3A 10A3F 10AE5-10AE6 10D24-10D27 10EAB-10EAC 10F46-10F50 10F82-10F85",
    "11000-11002 11038-11046 11070 11073-11074 1107F-11082 110B0-110BA 110C2 11100-11102",
    "11127-11134 11145-11146 11173 11180-11182 111B3-111C0 111C9-111CC 111CE-111CF",
    "1122C-11237 1123E 112DF-112EA 11300-11303 1133B-1133C 1133E-11344 11347-11348",
    "1134B-1134D 11357 11362-11363 11366-1136C 11370-11374 11435-11446 1145E 114B0-114C3",
    "115AF-115B5 115B8-115C0 115DC-115DD 11630-11640 116AB-116B7 1171D-1172B 1182C-1183A",
    "11930-11935 11937-11938 1193B-1193E 11940-11942-2 11943 119D1-119D7 119DA-119E0 119E4",
    "11A01-11A0A 11A33-11A39 11A3B-11A3E 11A47 11A51-11A5B 11A8A-11A99 11C2F-11C36",
    "11C38-11C3F 11C92-11CA7 11CA9-11CB6 11D31-11D36 11D3A-11D3C-2 11D3D-11D3F-2 11D40-11D45",
    "11D47 11D8A-11D8E 11D90-11D91 11D93-11D97 11EF3-11EF6 16AF0-16AF4 16B30-16B36",
    "16F4F-16F51-2 16F52-16F87 16F8F-16F92 16FE4 16FF0-16FF1 1BC9D-1BC9E 1CF00-1CF2D",
    "1CF30-1CF46 1D165-1D169 1D16D-1D172 1D17B-1D182 1D185-1D18B 1D1AA-1D1AD 1D242-1D244",
    "1DA00-1DA36 1DA3B-1DA6C 1DA75 1DA84 1DA9B-1DA9F 1DAA1-1DAAF 1E000-1E006 1E008-1E018",
    "1E01B-1E021 1E023-1E024 1E026-1E02A 1E130-1E136 1E2AE 1E2EC-1E2EF 1E8D0-1E8D6",
    "1E944-1E94A E0100-E01EF" ]

/-- Later additions, which may stand anywhere in a label, too; nothing else is known of them. -/
def laterCodes : Text.CodeSet :=
  .ofLines [
    "5C8 88F 897 C5C CDC CF3 ECE 1ACF-1ADD 1AE0-1AEB 1C8A A7CD-A7CF-2 A7DB 105C0-105F3",
    "10940-10959 10D40-10D4F 10D69-10D6D 10D6F-10D85 10EC2-10EC7 10EFA-10EFF 1123F-11241",
    "11380-11389 1138B 1138E-11390-2 11391-113B5 113B7-113C0 113C2 113C5-113C7-2 113C8-113CA",
    "113CC-113D3 113E1-113E2 116D0-116E3 11B60-11B67 11BC0-11BE0 11BF0-11BF9 11DB0-11DDB",
    "11DE0-11DE9 11F00-11F10 11F12-11F3A 11F3E-11F42 11F50-11F5A 1342F 13440-13455",
    "13460-143FA 16100-16139 16D40-16D6C 16D70-16D79 16EBB-16ED3 16FF2-16FF3 187F8-187FF",
    "18CFF 18D09-18D1E 18D80-18DF2 1B132 1B155 1DF25-1DF2A 1E08F 1E4D0-1E4F9 1E5D0-1E5FA",
    "1E6C0-1E6DE 1E6E0-1E6F5 1E6FE-1E6FF 2B739-2B73F 2CEA2-2CEAD 2EBF0-2EE5D 31350-33479" ]

/-- The ideographs that have no names of their own. -/
def namelessCodes : Text.CodeSet := .ofLines ["17000-187F7 18D00-18D08"]

/-- Whether it is not known of a code what it stands for. -/
def isUncharted (code : Nat) : Bool := laterCodes.contains code || namelessCodes.contains code

end DeliveryCycle.Address.Domain
