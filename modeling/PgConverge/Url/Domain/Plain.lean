import PgConverge.Text.Table

/-!
# Characters that stand for themselves in domain names

Letters, marks, numbers and most signs, without capitals and without characters that are only
another form of others. ASCII characters are not in the table.

## Main definitions

* `Url.isPlain` — whether a character stands for itself.
-/

namespace PgConverge.Url

open Text (Table)

/-- The characters up to U+FFFF. -/
def plainToFFFF : Table := .ofText
  "A1-A7 A9 AB-AC AE B0-B1 B6-B7 BB BF D7 DF-FF 101 103 105 107 109 10B 10D 10F 111 113 115 117
   119 11B 11D 11F 121 123 125 127 129 12B 12D 12F 131 135 137-138 13A 13C 13E 142 144 146 148 14B
   14D 14F 151 153 155 157 159 15B 15D 15F 161 163 165 167 169 16B 16D 16F 171 173 175 177 17A 17C
   17E 180 183 185 188 18C-18D 192 195 199-19B 19E 1A1 1A3 1A5 1A8 1AA-1AB 1AD 1B0 1B4 1B6 1B9-1BB
   1BD-1C3 1CE 1D0 1D2 1D4 1D6 1D8 1DA 1DC-1DD 1DF 1E1 1E3 1E5 1E7 1E9 1EB 1ED 1EF-1F0 1F5 1F9 1FB
   1FD 1FF 201 203 205 207 209 20B 20D 20F 211 213 215 217 219 21B 21D 21F 221 223 225 227 229 22B
   22D 22F 231 233-239 23C 23F-240 242 247 249 24B 24D 24F-2AF 2B9-2D7 2DE-2DF 2E5-33F 342 346-34E
   350-36F 371 373 375 377 37B-37D 390 3AC-3CE 3D7 3D9 3DB 3DD 3DF 3E1 3E3 3E5 3E7 3E9 3EB 3ED 3EF
   3F3 3F6 3F8 3FB-3FC 430-45F 461 463 465 467 469 46B 46D 46F 471 473 475 477 479 47B 47D 47F
   481-489 48B 48D 48F 491 493 495 497 499 49B 49D 49F 4A1 4A3 4A5 4A7 4A9 4AB 4AD 4AF 4B1 4B3 4B5
   4B7 4B9 4BB 4BD 4BF 4C2 4C4 4C6 4C8 4CA 4CC 4CE-4CF 4D1 4D3 4D5 4D7 4D9 4DB 4DD 4DF 4E1 4E3 4E5
   4E7 4E9 4EB 4ED 4EF 4F1 4F3 4F5 4F7 4F9 4FB 4FD 4FF 501 503 505 507 509 50B 50D 50F 511 513 515
   517 519 51B 51D 51F 521 523 525 527 529 52B 52D 52F 559-586 588-58A 58D-58F 591-5C7 5D0-5EA
   5EF-5F4 606-61B 61D-674 679-6DC 6DE-70D 710-74A 74D-7B1 7C0-7FA 7FD-82D 830-83E 840-85B 85E
   860-86A 870-88F 897-8E1 8E3-957 960-983 985-98C 98F-990 993-9A8 9AA-9B0 9B2 9B6-9B9 9BC-9C4
   9C7-9C8 9CB-9CE 9D7 9E0-9E3 9E6-9FE A01-A03 A05-A0A A0F-A10 A13-A28 A2A-A30 A32 A35 A38-A39 A3C
   A3E-A42 A47-A48 A4B-A4D A51 A5C A66-A76 A81-A83 A85-A8D A8F-A91 A93-AA8 AAA-AB0 AB2-AB3 AB5-AB9
   ABC-AC5 AC7-AC9 ACB-ACD AD0 AE0-AE3 AE6-AF1 AF9-AFF B01-B03 B05-B0C B0F-B10 B13-B28 B2A-B30
   B32-B33 B35-B39 B3C-B44 B47-B48 B4B-B4D B55-B57 B5F-B63 B66-B77 B82-B83 B85-B8A B8E-B90 B92-B95
   B99-B9A B9C B9E-B9F BA3-BA4 BA8-BAA BAE-BB9 BBE-BC2 BC6-BC8 BCA-BCD BD0 BD7 BE6-BFA C00-C0C
   C0E-C10 C12-C28 C2A-C39 C3C-C44 C46-C48 C4A-C4D C55-C56 C58-C5A C5C-C5D C60-C63 C66-C6F C77-C8C
   C8E-C90 C92-CA8 CAA-CB3 CB5-CB9 CBC-CC4 CC6-CC8 CCA-CCD CD5-CD6 CDC-CDE CE0-CE3 CE6-CEF CF1-CF3
   D00-D0C D0E-D10 D12-D44 D46-D48 D4A-D4F D54-D63 D66-D7F D81-D83 D85-D96 D9A-DB1 DB3-DBB DBD
   DC0-DC6 DCA DCF-DD4 DD6 DD8-DDF DE6-DEF DF2-DF4 E01-E32 E34-E3A E3F-E5B E81-E82 E84 E86-E8A
   E8C-EA3 EA5 EA7-EB2 EB4-EBD EC0-EC4 EC6 EC8-ECE ED0-ED9 EDE-EDF F00-F0B F0D-F42 F44-F47 F49-F4C
   F4E-F51 F53-F56 F58-F5B F5D-F68 F6A-F6C F71-F72 F74 F7A-F80 F82-F92 F94-F97 F99-F9C F9E-FA1
   FA3-FA6 FA8-FAB FAD-FB8 FBA-FBC FBE-FCC FCE-FDA 1000-109F 10D0-10FB 10FD-115E 1161-1248
   124A-124D 1250-1256 1258 125A-125D 1260-1288 128A-128D 1290-12B0 12B2-12B5 12B8-12BE 12C0
   12C2-12C5 12C8-12D6 12D8-1310 1312-1315 1318-135A 135D-137C 1380-1399 13A0-13F5 1400-167F
   1681-169C 16A0-16F8 1700-1715 171F-1736 1740-1753 1760-176C 176E-1770 1772-1773 1780-17B3
   17B6-17DD 17E0-17E9 17F0-17F9 1800-180A 1810-1819 1820-1878 1880-18AA 18B0-18F5 1900-191E
   1920-192B 1930-193B 1940 1944-196D 1970-1974 1980-19AB 19B0-19C9 19D0-19DA 19DE-1A1B 1A1E-1A5E
   1A60-1A7C 1A7F-1A89 1A90-1A99 1AA0-1AAD 1AB0-1ADD 1AE0-1AEB 1B00-1B4C 1B4E-1BF3 1BFC-1C37
   1C3B-1C49 1C4D-1C7F 1C8A 1CC0-1CC7 1CD0-1CFA 1D00-1D2B 1D2F 1D3B 1D4E 1D6B-1D77 1D79-1D9A
   1DC0-1DFF 1E01 1E03 1E05 1E07 1E09 1E0B 1E0D 1E0F 1E11 1E13 1E15 1E17 1E19 1E1B 1E1D 1E1F 1E21
   1E23 1E25 1E27 1E29 1E2B 1E2D 1E2F 1E31 1E33 1E35 1E37 1E39 1E3B 1E3D 1E3F 1E41 1E43 1E45 1E47
   1E49 1E4B 1E4D 1E4F 1E51 1E53 1E55 1E57 1E59 1E5B 1E5D 1E5F 1E61 1E63 1E65 1E67 1E69 1E6B 1E6D
   1E6F 1E71 1E73 1E75 1E77 1E79 1E7B 1E7D 1E7F 1E81 1E83 1E85 1E87 1E89 1E8B 1E8D 1E8F 1E91 1E93
   1E95-1E99 1E9C-1E9D 1E9F 1EA1 1EA3 1EA5 1EA7 1EA9 1EAB 1EAD 1EAF 1EB1 1EB3 1EB5 1EB7 1EB9 1EBB
   1EBD 1EBF 1EC1 1EC3 1EC5 1EC7 1EC9 1ECB 1ECD 1ECF 1ED1 1ED3 1ED5 1ED7 1ED9 1EDB 1EDD 1EDF 1EE1
   1EE3 1EE5 1EE7 1EE9 1EEB 1EED 1EEF 1EF1 1EF3 1EF5 1EF7 1EF9 1EFB 1EFD 1EFF-1F07 1F10-1F15
   1F20-1F27 1F30-1F37 1F40-1F45 1F50-1F57 1F60-1F67 1F70 1F72 1F74 1F76 1F78 1F7A 1F7C 1FB0-1FB1
   1FB6 1FC6 1FD0-1FD2 1FD6-1FD7 1FE0-1FE2 1FE4-1FE7 1FF6 200C-200D 2010 2012-2016 2018-2023 2027
   2030-2032 2035 2038-203B 203D 203F-2046 204A-2056 2058-205E 20A0-20A7 20A9-20C1 20D0-20F0 2104
   2108 2114 2117-2118 211E-211F 2123 2125 2127 2129 212E 213A 2141-2144 214A-214F 2180-2182
   2184-2188 218A-218B 2190-222B 222E 2231-2328 232B-2429 2440-244A 24EB-2A0B 2A0D-2A73 2A77-2ADB
   2ADD-2B73 2B76-2BFF 2C30-2C5F 2C61 2C65-2C66 2C68 2C6A 2C6C 2C71 2C73-2C74 2C76-2C7B 2C81 2C83
   2C85 2C87 2C89 2C8B 2C8D 2C8F 2C91 2C93 2C95 2C97 2C99 2C9B 2C9D 2C9F 2CA1 2CA3 2CA5 2CA7 2CA9
   2CAB 2CAD 2CAF 2CB1 2CB3 2CB5 2CB7 2CB9 2CBB 2CBD 2CBF 2CC1 2CC3 2CC5 2CC7 2CC9 2CCB 2CCD 2CCF
   2CD1 2CD3 2CD5 2CD7 2CD9 2CDB 2CDD 2CDF 2CE1 2CE3-2CEA 2CEC 2CEE-2CF1 2CF3 2CF9-2D25 2D27 2D2D
   2D30-2D67 2D70 2D7F-2D96 2DA0-2DA6 2DA8-2DAE 2DB0-2DB6 2DB8-2DBE 2DC0-2DC6 2DC8-2DCE 2DD0-2DD6
   2DD8-2DDE 2DE0-2E5D 2E80-2E99 2E9B-2E9E 2EA0-2EF2 3001 3003-3035 3037 303B-303F 3041-3096
   3099-309A 309D-309E 30A0-30FE 3105-312F 3190-3191 31A0-31E5 31F0-31FF 3248-324F 327F 3400-A48C
   A490-A4C6 A4D0-A62B A641 A643 A645 A647 A649 A64B A64D A64F A651 A653 A655 A657 A659 A65B A65D
   A65F A661 A663 A665 A667 A669 A66B A66D-A67F A681 A683 A685 A687 A689 A68B A68D A68F A691 A693
   A695 A697 A699 A69B A69E-A6F7 A700-A721 A723 A725 A727 A729 A72B A72D A72F-A731 A733 A735 A737
   A739 A73B A73D A73F A741 A743 A745 A747 A749 A74B A74D A74F A751 A753 A755 A757 A759 A75B A75D
   A75F A761 A763 A765 A767 A769 A76B A76D A76F A771-A778 A77A A77C A77F A781 A783 A785 A787-A78A
   A78C A78E-A78F A791 A793-A795 A797 A799 A79B A79D A79F A7A1 A7A3 A7A5 A7A7 A7A9 A7AF A7B5 A7B7
   A7B9 A7BB A7BD A7BF A7C1 A7C3 A7C8 A7CA A7CD A7CF A7D1 A7D3 A7D5 A7D7 A7D9 A7DB A7F6-A7F7
   A7FA-A82C A830-A839 A840-A877 A880-A8C5 A8CE-A8D9 A8E0-A953 A95F-A97C A980-A9CD A9CF-A9D9
   A9DE-A9FE AA00-AA36 AA40-AA4D AA50-AA59 AA5C-AAC2 AADB-AAF6 AB01-AB06 AB09-AB0E AB11-AB16
   AB20-AB26 AB28-AB2E AB30-AB5B AB60-AB68 AB6A-AB6B ABC0-ABED ABF0-ABF9 AC00-D7A3 D7B0-D7C6
   D7CB-D7FB FA0E-FA0F FA11 FA13-FA14 FA1F FA21 FA23-FA24 FA27-FA29 FB1E FBB2-FBD2 FD3E-FD4F
   FD90-FD91 FDC8-FDCF FDFD-FDFF FE20-FE2F FE45-FE46 FE73"

/-- The characters from U+10000 on. -/
def plainFrom10000 : Table := .ofText
  "10000-1000B 1000D-10026 10028-1003A 1003C-1003D 1003F-1004D 10050-1005D 10080-100FA 10100-10102
   10107-10133 10137-1018E 10190-1019C 101A0 101D0-101FD 10280-1029C 102A0-102D0 102E0-102FB
   10300-10323 1032D-1034A 10350-1037A 10380-1039D 1039F-103C3 103C8-103D5 10428-1049D 104A0-104A9
   104D8-104FB 10500-10527 10530-10563 1056F 10597-105A1 105A3-105B1 105B3-105B9 105BB-105BC
   105C0-105F3 10600-10736 10740-10755 10760-10767 10780 10800-10805 10808 1080A-10835 10837-10838
   1083C 1083F-10855 10857-1089E 108A7-108AF 108E0-108F2 108F4-108F5 108FB-1091B 1091F-10939
   1093F-10959 10980-109B7 109BC-109CF 109D2-10A03 10A05-10A06 10A0C-10A13 10A15-10A17 10A19-10A35
   10A38-10A3A 10A3F-10A48 10A50-10A58 10A60-10A9F 10AC0-10AE6 10AEB-10AF6 10B00-10B35 10B39-10B55
   10B58-10B72 10B78-10B91 10B99-10B9C 10BA9-10BAF 10C00-10C48 10CC0-10CF2 10CFA-10D27 10D30-10D39
   10D40-10D4F 10D69-10D85 10D8E-10D8F 10E60-10E7E 10E80-10EA9 10EAB-10EAD 10EB0-10EB1 10EC2-10EC7
   10ED0-10ED8 10EFA-10F27 10F30-10F59 10F70-10F89 10FB0-10FCB 10FE0-10FF6 11000-1104D 11052-11075
   1107F-110BC 110BE-110C2 110D0-110E8 110F0-110F9 11100-11134 11136-11147 11150-11176 11180-111DF
   111E1-111F4 11200-11211 11213-11241 11280-11286 11288 1128A-1128D 1128F-1129D 1129F-112A9
   112B0-112EA 112F0-112F9 11300-11303 11305-1130C 1130F-11310 11313-11328 1132A-11330 11332-11333
   11335-11339 1133B-11344 11347-11348 1134B-1134D 11350 11357 1135D-11363 11366-1136C 11370-11374
   11380-11389 1138B 1138E 11390-113B5 113B7-113C0 113C2 113C5 113C7-113CA 113CC-113D5 113D7-113D8
   113E1-113E2 11400-1145B 1145D-11461 11480-114C7 114D0-114D9 11580-115B5 115B8-115DD 11600-11644
   11650-11659 11660-1166C 11680-116B9 116C0-116C9 116D0-116E3 11700-1171A 1171D-1172B 11730-11746
   11800-1183B 118C0-118F2 118FF-11906 11909 1190C-11913 11915-11916 11918-11935 11937-11938
   1193B-11946 11950-11959 119A0-119A7 119AA-119D7 119DA-119E4 11A00-11A47 11A50-11AA2 11AB0-11AF8
   11B00-11B09 11B60-11B67 11BC0-11BE1 11BF0-11BF9 11C00-11C08 11C0A-11C36 11C38-11C45 11C50-11C6C
   11C70-11C8F 11C92-11CA7 11CA9-11CB6 11D00-11D06 11D08-11D09 11D0B-11D36 11D3A 11D3C-11D3D
   11D3F-11D47 11D50-11D59 11D60-11D65 11D67-11D68 11D6A-11D8E 11D90-11D91 11D93-11D98 11DA0-11DA9
   11DB0-11DDB 11DE0-11DE9 11EE0-11EF8 11F00-11F10 11F12-11F3A 11F3E-11F5A 11FB0 11FC0-11FF1
   11FFF-12399 12400-1246E 12470-12474 12480-12543 12F90-12FF2 13000-1342F 13440-13455 13460-143FA
   14400-14646 16100-16139 16800-16A38 16A40-16A5E 16A60-16A69 16A6E-16ABE 16AC0-16AC9 16AD0-16AED
   16AF0-16AF5 16B00-16B45 16B50-16B59 16B5B-16B61 16B63-16B77 16B7D-16B8F 16D40-16D79 16E60-16E9A
   16EBB-16ED3 16F00-16F4A 16F4F-16F87 16F8F-16F9F 16FE0-16FE4 16FF0-16FF6 17000-18CD5 18CFF-18D1E
   18D80-18DF2 1AFF0-1AFF3 1AFF5-1AFFB 1AFFD-1AFFE 1B000-1B122 1B132 1B150-1B152 1B155 1B164-1B167
   1B170-1B2FB 1BC00-1BC6A 1BC70-1BC7C 1BC80-1BC88 1BC90-1BC99 1BC9C-1BC9F 1CC00-1CCD5 1CCFA-1CCFC
   1CD00-1CEB3 1CEBA-1CED0 1CEE0-1CEF0 1CF00-1CF2D 1CF30-1CF46 1CF50-1CFC3 1D000-1D0F5 1D100-1D126
   1D129-1D15D 1D165-1D172 1D17B-1D1BA 1D1C1-1D1EA 1D200-1D245 1D2C0-1D2D3 1D2E0-1D2F3 1D300-1D356
   1D360-1D378 1D800-1DA8B 1DA9B-1DA9F 1DAA1-1DAAF 1DF00-1DF1E 1DF25-1DF2A 1E000-1E006 1E008-1E018
   1E01B-1E021 1E023-1E024 1E026-1E02A 1E08F 1E100-1E12C 1E130-1E13D 1E140-1E149 1E14E-1E14F
   1E290-1E2AE 1E2C0-1E2F9 1E2FF 1E4D0-1E4F9 1E5D0-1E5FA 1E5FF 1E6C0-1E6DE 1E6E0-1E6F5 1E6FE-1E6FF
   1E7E0-1E7E6 1E7E8-1E7EB 1E7ED-1E7EE 1E7F0-1E7FE 1E800-1E8C4 1E8C7-1E8D6 1E922-1E94B 1E950-1E959
   1E95E-1E95F 1EC71-1ECB4 1ED01-1ED3D 1EEF0-1EEF1 1F000-1F02B 1F030-1F093 1F0A0-1F0AE 1F0B1-1F0BF
   1F0C1-1F0CF 1F0D1-1F0F5 1F10B-1F10F 1F12F 1F150-1F169 1F16D-1F18F 1F191-1F1AD 1F1E6-1F1FF
   1F260-1F265 1F300-1F6D8 1F6DC-1F6EC 1F6F0-1F6FC 1F700-1F7D9 1F7E0-1F7EB 1F7F0 1F800-1F80B
   1F810-1F847 1F850-1F859 1F860-1F887 1F890-1F8AD 1F8B0-1F8BB 1F8C0-1F8C1 1F8D0-1F8D8 1F900-1FA57
   1FA60-1FA6D 1FA70-1FA7C 1FA80-1FA8A 1FA8E-1FAC6 1FAC8 1FACD-1FADC 1FADF-1FAEA 1FAEF-1FAF8
   1FB00-1FB92 1FB94-1FBEF 1FBFA 20000-2A6DF 2A700-2B81D 2B820-2CEAD 2CEB0-2EBE0 2EBF0-2EE5D
   30000-3134A 31350-33479"

/-- The characters beyond ASCII that stand for themselves. -/
def plainCharacters : Table := plainToFFFF.append plainFrom10000

/-- Whether a character beyond ASCII stands for itself. -/
def isPlain (c : Char) : Bool := plainCharacters.contains c

end PgConverge.Url
