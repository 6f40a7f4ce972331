import DocSearch.Unicode.CodeRange

/-!
# Case properties

Three tables of Unicode 17.0: which characters are cased, which are passed over when the case
context of a letter is looked up, and the simple lowercase mapping. In the mapping an entry
`a-b=t` sends every code point from `a` to `b` to the one as far behind `t`, and `a~b=t` does so
for every second code point. The only lowercase mapping to more than one character, that of the
capital I with a dot above, is added by `lowercaseOf`.
-/

namespace DocSearch.Unicode

/-- The code points with the property `Cased`. -/
def casedRows : List String := [
  "0041-005A 0061-007A 00AA 00B5 00BA 00C0-00D6 00D8-00F6 00F8-01BA 01BC-01BF 01C4-0293",
  "0296-02B8 02C0-02C1 02E0-02E4 0345 0370-0373 0376-0377 037A-037D 037F 0386 0388-038A 038C",
  "038E-03A1 03A3-03F5 03F7-0481 048A-052F 0531-0556 0560-0588 10A0-10C5 10C7 10CD 10D0-10FA",
  "10FC-10FF 13A0-13F5 13F8-13FD 1C80-1C8A 1C90-1CBA 1CBD-1CBF 1D00-1DBF 1E00-1F15 1F18-1F1D",
  "1F20-1F45 1F48-1F4D 1F50-1F57 1F59 1F5B 1F5D 1F5F-1F7D 1F80-1FB4 1FB6-1FBC 1FBE 1FC2-1FC4",
  "1FC6-1FCC 1FD0-1FD3 1FD6-1FDB 1FE0-1FEC 1FF2-1FF4 1FF6-1FFC 2071 207F 2090-209C 2102 2107",
  "210A-2113 2115 2119-211D 2124 2126 2128 212A-212D 212F-2134 2139 213C-213F 2145-2149 214E",
  "2160-217F 2183-2184 24B6-24E9 2C00-2CE4 2CEB-2CEE 2CF2-2CF3 2D00-2D25 2D27 2D2D A640-A66D",
  "A680-A69D A722-A787 A78B-A78E A790-A7DC A7F1-A7F6 A7F8-A7FA AB30-AB5A AB5C-AB69 AB70-ABBF",
  "FB00-FB06 FB13-FB17 FF21-FF3A FF41-FF5A 10400-1044F 104B0-104D3 104D8-104FB 10570-1057A",
  "1057C-1058A 1058C-10592 10594-10595 10597-105A1 105A3-105B1 105B3-105B9 105BB-105BC 10780",
  "10783-10785 10787-107B0 107B2-107BA 10C80-10CB2 10CC0-10CF2 10D50-10D65 10D70-10D85",
  "118A0-118DF 16E40-16E7F 16EA0-16EB8 16EBB-16ED3 1D400-1D454 1D456-1D49C 1D49E-1D49F 1D4A2",
  "1D4A5-1D4A6 1D4A9-1D4AC 1D4AE-1D4B9 1D4BB 1D4BD-1D4C3 1D4C5-1D505 1D507-1D50A 1D50D-1D514",
  "1D516-1D51C 1D51E-1D539 1D53B-1D53E 1D540-1D544 1D546 1D54A-1D550 1D552-1D6A5 1D6A8-1D6C0",
  "1D6C2-1D6DA 1D6DC-1D6FA 1D6FC-1D714 1D716-1D734 1D736-1D74E 1D750-1D76E 1D770-1D788",
  "1D78A-1D7A8 1D7AA-1D7C2 1D7C4-1D7CB 1DF00-1DF09 1DF0B-1DF1E 1DF25-1DF2A 1E030-1E06D",
  "1E900-1E943 1F130-1F149 1F150-1F169 1F170-1F189"]

/-- The code points with the property `Case_Ignorable`. -/
def caseIgnorableRows : List String := [
  "0027 002E 003A 005E 0060 00A8 00AD 00AF 00B4 00B7-00B8 02B0-036F 0374-0375 037A 0384-0385",
  "0387 0483-0489 0559 055F 0591-05BD 05BF 05C1-05C2 05C4-05C5 05C7 05F4 0600-0605 0610-061A",
  "061C 0640 064B-065F 0670 06D6-06DD 06DF-06E8 06EA-06ED 070F 0711 0730-074A 07A6-07B0",
  "07EB-07F5 07FA 07FD 0816-082D 0859-085B 0888 0890-0891 0897-089F 08C9-0902 093A 093C",
  "0941-0948 094D 0951-0957 0962-0963 0971 0981 09BC 09C1-09C4 09CD 09E2-09E3 09FE 0A01-0A02",
  "0A3C 0A41-0A42 0A47-0A48 0A4B-0A4D 0A51 0A70-0A71 0A75 0A81-0A82 0ABC 0AC1-0AC5 0AC7-0AC8",
  "0ACD 0AE2-0AE3 0AFA-0AFF 0B01 0B3C 0B3F 0B41-0B44 0B4D 0B55-0B56 0B62-0B63 0B82 0BC0 0BCD",
  "0C00 0C04 0C3C 0C3E-0C40 0C46-0C48 0C4A-0C4D 0C55-0C56 0C62-0C63 0C81 0CBC 0CBF 0CC6",
  "0CCC-0CCD 0CE2-0CE3 0D00-0D01 0D3B-0D3C 0D41-0D44 0D4D 0D62-0D63 0D81 0DCA 0DD2-0DD4 0DD6",
  "0E31 0E34-0E3A 0E46-0E4E 0EB1 0EB4-0EBC 0EC6 0EC8-0ECE 0F18-0F19 0F35 0F37 0F39 0F71-0F7E",
  "0F80-0F84 0F86-0F87 0F8D-0F97 0F99-0FBC 0FC6 102D-1030 1032-1037 1039-103A 103D-103E",
  "1058-1059 105E-1060 1071-1074 1082 1085-1086 108D 109D 10FC 135D-135F 1712-1714 1732-1733",
  "1752-1753 1772-1773 17B4-17B5 17B7-17BD 17C6 17C9-17D3 17D7 17DD 180B-180F 1843 1885-1886",
  "18A9 1920-1922 1927-1928 1932 1939-193B 1A17-1A18 1A1B 1A56 1A58-1A5E 1A60 1A62 1A65-1A6C",
  "1A73-1A7C 1A7F 1AA7 1AB0-1ADD 1AE0-1AEB 1B00-1B03 1B34 1B36-1B3A 1B3C 1B42 1B6B-1B73",
  "1B80-1B81 1BA2-1BA5 1BA8-1BA9 1BAB-1BAD 1BE6 1BE8-1BE9 1BED 1BEF-1BF1 1C2C-1C33 1C36-1C37",
  "1C78-1C7D 1CD0-1CD2 1CD4-1CE0 1CE2-1CE8 1CED 1CF4 1CF8-1CF9 1D2C-1D6A 1D78 1D9B-1DFF 1FBD",
  "1FBF-1FC1 1FCD-1FCF 1FDD-1FDF 1FED-1FEF 1FFD-1FFE 200B-200F 2018-2019 2024 2027 202A-202E",
  "2060-2064 2066-206F 2071 207F 2090-209C 20D0-20F0 2C7C-2C7D 2CEF-2CF1 2D6F 2D7F 2DE0-2DFF",
  "2E2F 3005 302A-302D 3031-3035 303B 3099-309E 30FC-30FE A015 A4F8-A4FD A60C A66F-A672",
  "A674-A67D A67F A69C-A69F A6F0-A6F1 A700-A721 A770 A788-A78A A7F1-A7F4 A7F8-A7F9 A802 A806",
  "A80B A825-A826 A82C A8C4-A8C5 A8E0-A8F1 A8FF A926-A92D A947-A951 A980-A982 A9B3 A9B6-A9B9",
  "A9BC-A9BD A9CF A9E5-A9E6 AA29-AA2E AA31-AA32 AA35-AA36 AA43 AA4C AA70 AA7C AAB0 AAB2-AAB4",
  "AAB7-AAB8 AABE-AABF AAC1 AADD AAEC-AAED AAF3-AAF4 AAF6 AB5B-AB5F AB69-AB6B ABE5 ABE8 ABED",
  "FB1E FBB2-FBC2 FE00-FE0F FE13 FE20-FE2F FE52 FE55 FEFF FF07 FF0E FF1A FF3E FF40 FF70",
  "FF9E-FF9F FFE3 FFF9-FFFB 101FD 102E0 10376-1037A 10780-10785 10787-107B0 107B2-107BA",
  "10A01-10A03 10A05-10A06 10A0C-10A0F 10A38-10A3A 10A3F 10AE5-10AE6 10D24-10D27 10D4E",
  "10D69-10D6D 10D6F 10EAB-10EAC 10EC5 10EFA-10EFF 10F46-10F50 10F82-10F85 11001 11038-11046",
  "11070 11073-11074 1107F-11081 110B3-110B6 110B9-110BA 110BD 110C2 110CD 11100-11102",
  "11127-1112B 1112D-11134 11173 11180-11181 111B6-111BE 111C9-111CC 111CF 1122F-11231 11234",
  "11236-11237 1123E 11241 112DF 112E3-112EA 11300-11301 1133B-1133C 11340 11366-1136C",
  "11370-11374 113BB-113C0 113CE 113D0 113D2 113E1-113E2 11438-1143F 11442-11444 11446 1145E",
  "114B3-114B8 114BA 114BF-114C0 114C2-114C3 115B2-115B5 115BC-115BD 115BF-115C0 115DC-115DD",
  "11633-1163A 1163D 1163F-11640 116AB 116AD 116B0-116B5 116B7 1171D 1171F 11722-11725",
  "11727-1172B 1182F-11837 11839-1183A 1193B-1193C 1193E 11943 119D4-119D7 119DA-119DB 119E0",
  "11A01-11A0A 11A33-11A38 11A3B-11A3E 11A47 11A51-11A56 11A59-11A5B 11A8A-11A96 11A98-11A99",
  "11B60 11B62-11B64 11B66 11C30-11C36 11C38-11C3D 11C3F 11C92-11CA7 11CAA-11CB0 11CB2-11CB3",
  "11CB5-11CB6 11D31-11D36 11D3A 11D3C-11D3D 11D3F-11D45 11D47 11D90-11D91 11D95 11D97 11DD9",
  "11EF3-11EF4 11F00-11F01 11F36-11F3A 11F40 11F42 11F5A 13430-13440 13447-13455 1611E-16129",
  "1612D-1612F 16AF0-16AF4 16B30-16B36 16B40-16B43 16D40-16D42 16D6B-16D6C 16F4F 16F8F-16F9F",
  "16FE0-16FE1 16FE3-16FE4 16FF2-16FF3 1AFF0-1AFF3 1AFF5-1AFFB 1AFFD-1AFFE 1BC9D-1BC9E",
  "1BCA0-1BCA3 1CF00-1CF2D 1CF30-1CF46 1D167-1D169 1D173-1D182 1D185-1D18B 1D1AA-1D1AD",
  "1D242-1D244 1DA00-1DA36 1DA3B-1DA6C 1DA75 1DA84 1DA9B-1DA9F 1DAA1-1DAAF 1E000-1E006",
  "1E008-1E018 1E01B-1E021 1E023-1E024 1E026-1E02A 1E030-1E06D 1E08F 1E130-1E13D 1E2AE",
  "1E2EC-1E2EF 1E4EB-1E4EF 1E5EE-1E5EF 1E6E3 1E6E6 1E6EE-1E6EF 1E6F5 1E6FF 1E8D0-1E8D6",
  "1E944-1E94B 1F3FB-1F3FF E0001 E0020-E007F E0100-E01EF"]

/-- The simple lowercase mapping, for the code points that it changes. -/
def lowercaseRows : List String := [
  "0041-005A=0061 00C0-00D6=00E0 00D8-00DE=00F8 0100~012E=0101 0132~0136=0133 0139~0147=013A",
  "014A~0176=014B 0178=00FF 0179~017D=017A 0181=0253 0182~0184=0183 0186=0254 0187=0188",
  "0189-018A=0256 018B=018C 018E=01DD 018F=0259 0190=025B 0191=0192 0193=0260 0194=0263",
  "0196=0269 0197=0268 0198=0199 019C=026F 019D=0272 019F=0275 01A0~01A4=01A1 01A6=0280",
  "01A7=01A8 01A9=0283 01AC=01AD 01AE=0288 01AF=01B0 01B1-01B2=028A 01B3~01B5=01B4 01B7=0292",
  "01B8=01B9 01BC=01BD 01C4=01C6 01C5=01C6 01C7=01C9 01C8=01C9 01CA=01CC 01CB~01DB=01CC",
  "01DE~01EE=01DF 01F1=01F3 01F2~01F4=01F3 01F6=0195 01F7=01BF 01F8~021E=01F9 0220=019E",
  "0222~0232=0223 023A=2C65 023B=023C 023D=019A 023E=2C66 0241=0242 0243=0180 0244=0289",
  "0245=028C 0246~024E=0247 0370~0372=0371 0376=0377 037F=03F3 0386=03AC 0388-038A=03AD",
  "038C=03CC 038E-038F=03CD 0391-03A1=03B1 03A3-03AB=03C3 03CF=03D7 03D8~03EE=03D9 03F4=03B8",
  "03F7=03F8 03F9=03F2 03FA=03FB 03FD-03FF=037B 0400-040F=0450 0410-042F=0430 0460~0480=0461",
  "048A~04BE=048B 04C0=04CF 04C1~04CD=04C2 04D0~052E=04D1 0531-0556=0561 10A0-10C5=2D00",
  "10C7=2D27 10CD=2D2D 13A0-13EF=AB70 13F0-13F5=13F8 1C89=1C8A 1C90-1CBA=10D0 1CBD-1CBF=10FD",
  "1E00~1E94=1E01 1E9E=00DF 1EA0~1EFE=1EA1 1F08-1F0F=1F00 1F18-1F1D=1F10 1F28-1F2F=1F20",
  "1F38-1F3F=1F30 1F48-1F4D=1F40 1F59~1F5F=1F51 1F68-1F6F=1F60 1F88-1F8F=1F80 1F98-1F9F=1F90",
  "1FA8-1FAF=1FA0 1FB8-1FB9=1FB0 1FBA-1FBB=1F70 1FBC=1FB3 1FC8-1FCB=1F72 1FCC=1FC3",
  "1FD8-1FD9=1FD0 1FDA-1FDB=1F76 1FE8-1FE9=1FE0 1FEA-1FEB=1F7A 1FEC=1FE5 1FF8-1FF9=1F78",
  "1FFA-1FFB=1F7C 1FFC=1FF3 2126=03C9 212A=006B 212B=00E5 2132=214E 2160-216F=2170 2183=2184",
  "24B6-24CF=24D0 2C00-2C2F=2C30 2C60=2C61 2C62=026B 2C63=1D7D 2C64=027D 2C67~2C6B=2C68",
  "2C6D=0251 2C6E=0271 2C6F=0250 2C70=0252 2C72=2C73 2C75=2C76 2C7E-2C7F=023F 2C80~2CE2=2C81",
  "2CEB~2CED=2CEC 2CF2=2CF3 A640~A66C=A641 A680~A69A=A681 A722~A72E=A723 A732~A76E=A733",
  "A779~A77B=A77A A77D=1D79 A77E~A786=A77F A78B=A78C A78D=0265 A790~A792=A791 A796~A7A8=A797",
  "A7AA=0266 A7AB=025C A7AC=0261 A7AD=026C A7AE=026A A7B0=029E A7B1=0287 A7B2=029D A7B3=AB53",
  "A7B4~A7C2=A7B5 A7C4=A794 A7C5=0282 A7C6=1D8E A7C7~A7C9=A7C8 A7CB=0264 A7CC~A7DA=A7CD",
  "A7DC=019B A7F5=A7F6 FF21-FF3A=FF41 10400-10427=10428 104B0-104D3=104D8 10570-1057A=10597",
  "1057C-1058A=105A3 1058C-10592=105B3 10594-10595=105BB 10C80-10CB2=10CC0 10D50-10D65=10D70",
  "118A0-118BF=118C0 16E40-16E5F=16E60 16EA0-16EB8=16EBB 1E900-1E921=1E922"]

/-- The ranges of `casedRows`. -/
def casedRanges : List CodeRange := CodeRange.table casedRows

/-- The ranges of `caseIgnorableRows`. -/
def caseIgnorableRanges : List CodeRange := CodeRange.table caseIgnorableRows

/-- The entries of `lowercaseRows`: a range and where its first code point is sent. -/
def lowercaseEntries : List (Assigned Nat) :=
  Assigned.table CodeRange.ofText codePoint lowercaseRows

/-- The character is cased. -/
def isCased (c : Char) : Bool := CodeRange.anyContains casedRanges c.toNat

/-- The character is passed over when the case context of a letter is looked up. -/
def isCaseIgnorable (c : Char) : Bool := CodeRange.anyContains caseIgnorableRanges c.toNat

/-- The lowercase of a character on its own. -/
def lowercaseOf (c : Char) : List Char :=
  if c.toNat = 0x130 then ['i', Char.ofNat 0x307]
  else match Assigned.find? lowercaseEntries c.toNat with
    | some e => [Char.ofNat (e.value + (c.toNat - e.range.first))]
    | none => [c]

end DocSearch.Unicode
