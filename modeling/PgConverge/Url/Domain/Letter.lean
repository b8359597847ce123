import PgConverge.Text.Table

/-!
# Characters from U+0080 to U+1FFF that stand for others in domain names

Capitals and composed letters, each with what it stands for. The characters of a range stand for as
many characters in a row, the first of which is given.
-/

namespace PgConverge.Url

open Text (Table)

/-- The characters up to U+1FFF that stand for others. -/
def lettersTo1FFF : Table := .ofText
  "A0=20 A8=20.308 AA=61 AF=20.304 B2-B3=32 B4=20.301 B5=3BC B8=20.327 B9=31 BA=6F BC=31.2044.34
   BD=31.2044.32 BE=33.2044.34 C0-D6=E0 D8-DE=F8 100=101 102=103 104=105 106=107 108=109 10A=10B
   10C=10D 10E=10F 110=111 112=113 114=115 116=117 118=119 11A=11B 11C=11D 11E=11F 120=121 122=123
   124=125 126=127 128=129 12A=12B 12C=12D 12E=12F 130=69.307 132=69.6A 133=69.6A 134=135 136=137
   139=13A 13B=13C 13D=13E 13F=6C.B7 140=6C.B7 141=142 143=144 145=146 147=148 149=2BC.6E 14A=14B
   14C=14D 14E=14F 150=151 152=153 154=155 156=157 158=159 15A=15B 15C=15D 15E=15F 160=161 162=163
   164=165 166=167 168=169 16A=16B 16C=16D 16E=16F 170=171 172=173 174=175 176=177 178=FF 179=17A
   17B=17C 17D=17E 17F=73 181=253 182=183 184=185 186=254 187=188 189-18A=256 18B=18C 18E=1DD
   18F=259 190=25B 191=192 193=260 194=263 196=269 197=268 198=199 19C=26F 19D=272 19F=275 1A0=1A1
   1A2=1A3 1A4=1A5 1A6=280 1A7=1A8 1A9=283 1AC=1AD 1AE=288 1AF=1B0 1B1-1B2=28A 1B3=1B4 1B5=1B6
   1B7=292 1B8=1B9 1BC=1BD 1C4=64.17E 1C5=64.17E 1C6=64.17E 1C7=6C.6A 1C8=6C.6A 1C9=6C.6A
   1CA=6E.6A 1CB=6E.6A 1CC=6E.6A 1CD=1CE 1CF=1D0 1D1=1D2 1D3=1D4 1D5=1D6 1D7=1D8 1D9=1DA 1DB=1DC
   1DE=1DF 1E0=1E1 1E2=1E3 1E4=1E5 1E6=1E7 1E8=1E9 1EA=1EB 1EC=1ED 1EE=1EF 1F1=64.7A 1F2=64.7A
   1F3=64.7A 1F4=1F5 1F6=195 1F7=1BF 1F8=1F9 1FA=1FB 1FC=1FD 1FE=1FF 200=201 202=203 204=205
   206=207 208=209 20A=20B 20C=20D 20E=20F 210=211 212=213 214=215 216=217 218=219 21A=21B 21C=21D
   21E=21F 220=19E 222=223 224=225 226=227 228=229 22A=22B 22C=22D 22E=22F 230=231 232=233
   23A=2C65 23B=23C 23D=19A 23E=2C66 241=242 243=180 244=289 245=28C 246=247 248=249 24A=24B
   24C=24D 24E=24F 2B0=68 2B1=266 2B2=6A 2B3=72 2B4=279 2B5=27B 2B6=281 2B7=77 2B8=79 2D8=20.306
   2D9=20.307 2DA=20.30A 2DB=20.328 2DC=20.303 2DD=20.30B 2E0=263 2E1=6C 2E2=73 2E3=78 2E4=295
   340-341=300 343=313 344=308.301 345=3B9 370=371 372=373 374=2B9 376=377 37A=20.3B9 37E=3B
   37F=3F3 384=20.301 385=20.308.301 386=3AC 387=B7 388-38A=3AD 38C=3CC 38E-38F=3CD 391-3A1=3B1
   3A3-3AB=3C3 3CF=3D7 3D0=3B2 3D1=3B8 3D2=3C5 3D3=3CD 3D4=3CB 3D5=3C6 3D6=3C0 3D8=3D9 3DA=3DB
   3DC=3DD 3DE=3DF 3E0=3E1 3E2=3E3 3E4=3E5 3E6=3E7 3E8=3E9 3EA=3EB 3EC=3ED 3EE=3EF 3F0=3BA 3F1=3C1
   3F2=3C3 3F4=3B8 3F5=3B5 3F7=3F8 3F9=3C3 3FA=3FB 3FD-3FF=37B 400-40F=450 410-42F=430 460=461
   462=463 464=465 466=467 468=469 46A=46B 46C=46D 46E=46F 470=471 472=473 474=475 476=477 478=479
   47A=47B 47C=47D 47E=47F 480=481 48A=48B 48C=48D 48E=48F 490=491 492=493 494=495 496=497 498=499
   49A=49B 49C=49D 49E=49F 4A0=4A1 4A2=4A3 4A4=4A5 4A6=4A7 4A8=4A9 4AA=4AB 4AC=4AD 4AE=4AF 4B0=4B1
   4B2=4B3 4B4=4B5 4B6=4B7 4B8=4B9 4BA=4BB 4BC=4BD 4BE=4BF 4C0=4CF 4C1=4C2 4C3=4C4 4C5=4C6 4C7=4C8
   4C9=4CA 4CB=4CC 4CD=4CE 4D0=4D1 4D2=4D3 4D4=4D5 4D6=4D7 4D8=4D9 4DA=4DB 4DC=4DD 4DE=4DF 4E0=4E1
   4E2=4E3 4E4=4E5 4E6=4E7 4E8=4E9 4EA=4EB 4EC=4ED 4EE=4EF 4F0=4F1 4F2=4F3 4F4=4F5 4F6=4F7 4F8=4F9
   4FA=4FB 4FC=4FD 4FE=4FF 500=501 502=503 504=505 506=507 508=509 50A=50B 50C=50D 50E=50F 510=511
   512=513 514=515 516=517 518=519 51A=51B 51C=51D 51E=51F 520=521 522=523 524=525 526=527 528=529
   52A=52B 52C=52D 52E=52F 531-556=561 587=565.582 675=627.674 676=648.674 677=6C7.674 678=64A.674
   958=915.93C 959=916.93C 95A=917.93C 95B=91C.93C 95C=921.93C 95D=922.93C 95E=92B.93C 95F=92F.93C
   9DC=9A1.9BC 9DD=9A2.9BC 9DF=9AF.9BC A33=A32.A3C A36=A38.A3C A59=A16.A3C A5A=A17.A3C A5B=A1C.A3C
   A5E=A2B.A3C B5C=B21.B3C B5D=B22.B3C E33=E4D.E32 EB3=ECD.EB2 EDC=EAB.E99 EDD=EAB.EA1 F0C=F0B
   F43=F42.FB7 F4D=F4C.FB7 F52=F51.FB7 F57=F56.FB7 F5C=F5B.FB7 F69=F40.FB5 F73=F71.F72 F75=F71.F74
   F76=FB2.F80 F77=FB2.F71.F80 F78=FB3.F80 F79=FB3.F71.F80 F81=F71.F80 F93=F92.FB7 F9D=F9C.FB7
   FA2=FA1.FB7 FA7=FA6.FB7 FAC=FAB.FB7 FB9=F90.FB5 10A0-10C5=2D00 10C7=2D27 10CD=2D2D 10FC=10DC
   13F8-13FD=13F0 1C80=432 1C81=434 1C82=43E 1C83-1C84=441 1C85=442 1C86=44A 1C87=463 1C88=A64B
   1C89=1C8A 1C90-1CBA=10D0 1CBD-1CBF=10FD 1D2C=61 1D2D=E6 1D2E=62 1D30-1D31=64 1D32=1DD
   1D33-1D3A=67 1D3C=6F 1D3D=223 1D3E=70 1D3F=72 1D40-1D41=74 1D42=77 1D43=61 1D44-1D45=250
   1D46=1D02 1D47=62 1D48-1D49=64 1D4A=259 1D4B-1D4C=25B 1D4D=67 1D4F=6B 1D50=6D 1D51=14B 1D52=6F
   1D53=254 1D54-1D55=1D16 1D56=70 1D57-1D58=74 1D59=1D1D 1D5A=26F 1D5B=76 1D5C=1D25 1D5D-1D5F=3B2
   1D60-1D61=3C6 1D62=69 1D63=72 1D64-1D65=75 1D66-1D67=3B2 1D68=3C1 1D69-1D6A=3C6 1D78=43D
   1D9B=252 1D9C=63 1D9D=255 1D9E=F0 1D9F=25C 1DA0=66 1DA1=25F 1DA2=261 1DA3=265 1DA4-1DA6=268
   1DA7=1D7B 1DA8=29D 1DA9=26D 1DAA=1D85 1DAB=29F 1DAC=271 1DAD=270 1DAE-1DB1=272 1DB2=278
   1DB3-1DB4=282 1DB5=1AB 1DB6-1DB7=289 1DB8=1D1C 1DB9-1DBA=28B 1DBB=7A 1DBC-1DBE=290 1DBF=3B8
   1E00=1E01 1E02=1E03 1E04=1E05 1E06=1E07 1E08=1E09 1E0A=1E0B 1E0C=1E0D 1E0E=1E0F 1E10=1E11
   1E12=1E13 1E14=1E15 1E16=1E17 1E18=1E19 1E1A=1E1B 1E1C=1E1D 1E1E=1E1F 1E20=1E21 1E22=1E23
   1E24=1E25 1E26=1E27 1E28=1E29 1E2A=1E2B 1E2C=1E2D 1E2E=1E2F 1E30=1E31 1E32=1E33 1E34=1E35
   1E36=1E37 1E38=1E39 1E3A=1E3B 1E3C=1E3D 1E3E=1E3F 1E40=1E41 1E42=1E43 1E44=1E45 1E46=1E47
   1E48=1E49 1E4A=1E4B 1E4C=1E4D 1E4E=1E4F 1E50=1E51 1E52=1E53 1E54=1E55 1E56=1E57 1E58=1E59
   1E5A=1E5B 1E5C=1E5D 1E5E=1E5F 1E60=1E61 1E62=1E63 1E64=1E65 1E66=1E67 1E68=1E69 1E6A=1E6B
   1E6C=1E6D 1E6E=1E6F 1E70=1E71 1E72=1E73 1E74=1E75 1E76=1E77 1E78=1E79 1E7A=1E7B 1E7C=1E7D
   1E7E=1E7F 1E80=1E81 1E82=1E83 1E84=1E85 1E86=1E87 1E88=1E89 1E8A=1E8B 1E8C=1E8D 1E8E=1E8F
   1E90=1E91 1E92=1E93 1E94=1E95 1E9A=61.2BE 1E9B=1E61 1E9E=DF 1EA0=1EA1 1EA2=1EA3 1EA4=1EA5
   1EA6=1EA7 1EA8=1EA9 1EAA=1EAB 1EAC=1EAD 1EAE=1EAF 1EB0=1EB1 1EB2=1EB3 1EB4=1EB5 1EB6=1EB7
   1EB8=1EB9 1EBA=1EBB 1EBC=1EBD 1EBE=1EBF 1EC0=1EC1 1EC2=1EC3 1EC4=1EC5 1EC6=1EC7 1EC8=1EC9
   1ECA=1ECB 1ECC=1ECD 1ECE=1ECF 1ED0=1ED1 1ED2=1ED3 1ED4=1ED5 1ED6=1ED7 1ED8=1ED9 1EDA=1EDB
   1EDC=1EDD 1EDE=1EDF 1EE0=1EE1 1EE2=1EE3 1EE4=1EE5 1EE6=1EE7 1EE8=1EE9 1EEA=1EEB 1EEC=1EED
   1EEE=1EEF 1EF0=1EF1 1EF2=1EF3 1EF4=1EF5 1EF6=1EF7 1EF8=1EF9 1EFA=1EFB 1EFC=1EFD 1EFE=1EFF
   1F08-1F0F=1F00 1F18-1F1D=1F10 1F28-1F2F=1F20 1F38-1F3F=1F30 1F48-1F4D=1F40 1F59=1F51 1F5B=1F53
   1F5D=1F55 1F5F=1F57 1F68-1F6F=1F60 1F71=3AC 1F73=3AD 1F75=3AE 1F77=3AF 1F79=3CC 1F7B=3CD
   1F7D=3CE 1F80=1F00.3B9 1F81=1F01.3B9 1F82=1F02.3B9 1F83=1F03.3B9 1F84=1F04.3B9 1F85=1F05.3B9
   1F86=1F06.3B9 1F87=1F07.3B9 1F88=1F00.3B9 1F89=1F01.3B9 1F8A=1F02.3B9 1F8B=1F03.3B9
   1F8C=1F04.3B9 1F8D=1F05.3B9 1F8E=1F06.3B9 1F8F=1F07.3B9 1F90=1F20.3B9 1F91=1F21.3B9
   1F92=1F22.3B9 1F93=1F23.3B9 1F94=1F24.3B9 1F95=1F25.3B9 1F96=1F26.3B9 1F97=1F27.3B9
   1F98=1F20.3B9 1F99=1F21.3B9 1F9A=1F22.3B9 1F9B=1F23.3B9 1F9C=1F24.3B9 1F9D=1F25.3B9
   1F9E=1F26.3B9 1F9F=1F27.3B9 1FA0=1F60.3B9 1FA1=1F61.3B9 1FA2=1F62.3B9 1FA3=1F63.3B9
   1FA4=1F64.3B9 1FA5=1F65.3B9 1FA6=1F66.3B9 1FA7=1F67.3B9 1FA8=1F60.3B9 1FA9=1F61.3B9
   1FAA=1F62.3B9 1FAB=1F63.3B9 1FAC=1F64.3B9 1FAD=1F65.3B9 1FAE=1F66.3B9 1FAF=1F67.3B9
   1FB2=1F70.3B9 1FB3=3B1.3B9 1FB4=3AC.3B9 1FB7=1FB6.3B9 1FB8-1FB9=1FB0 1FBA=1F70 1FBB=3AC
   1FBC=3B1.3B9 1FBD=20.313 1FBE=3B9 1FBF=20.313 1FC0=20.342 1FC1=20.308.342 1FC2=1F74.3B9
   1FC3=3B7.3B9 1FC4=3AE.3B9 1FC7=1FC6.3B9 1FC8=1F72 1FC9=3AD 1FCA=1F74 1FCB=3AE 1FCC=3B7.3B9
   1FCD=20.313.300 1FCE=20.313.301 1FCF=20.313.342 1FD3=390 1FD8-1FD9=1FD0 1FDA=1F76 1FDB=3AF
   1FDD=20.314.300 1FDE=20.314.301 1FDF=20.314.342 1FE3=3B0 1FE8-1FE9=1FE0 1FEA=1F7A 1FEB=3CD
   1FEC=1FE5 1FED=20.308.300 1FEE=20.308.301 1FEF=60 1FF2=1F7C.3B9 1FF3=3C9.3B9 1FF4=3CE.3B9
   1FF7=1FF6.3B9 1FF8=1F78 1FF9=3CC 1FFA=1F7C 1FFB=3CE 1FFC=3C9.3B9 1FFD=20.301 1FFE=20.314"

end PgConverge.Url
