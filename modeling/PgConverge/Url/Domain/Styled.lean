import PgConverge.Text.Table

/-!
# Characters from U+10000 on that stand for others in domain names

Capitals and letters in special styles, each with what it stands for. The characters of a range
stand for as many characters in a row, the first of which is given.
-/

namespace PgConverge.Url

open Text (Table)

/-- The characters from U+10000 on that stand for others. -/
def styledFrom10000 : Table := .ofText
  "10400-10427=10428 104B0-104D3=104D8 10570-1057A=10597 1057C-1058A=105A3 1058C-10592=105B3
   10594-10595=105BB 10781-10782=2D0 10783=E6 10784=299 10785=253 10787=2A3 10788=AB66 10789=2A5
   1078A=2A4 1078B-1078C=256 1078D=1D91 1078E=258 1078F=25E 10790=2A9 10791=264 10792=262
   10793=260 10794=29B 10795=127 10796=29C 10797=267 10798=284 10799-1079A=2AA 1079B=26C
   1079C=1DF04 1079D=A78E 1079E=26E 1079F=1DF05 107A0=28E 107A1=1DF06 107A2=F8 107A3-107A4=276
   107A5=71 107A6=27A 107A7=1DF08 107A8-107A9=27D 107AA=280 107AB=2A8 107AC=2A6 107AD=AB67
   107AE=2A7 107AF=288 107B0=2C71 107B2=28F 107B3-107B4=2A1 107B5=298 107B6-107B8=1C0 107B9=1DF0A
   107BA=1DF1E 10C80-10CB2=10CC0 10D50-10D65=10D70 118A0-118BF=118C0 16E40-16E5F=16E60
   16EA0-16EB8=16EBB 1CCD6-1CCEF=61 1CCF0-1CCF9=30 1D15E=1D157.1D165 1D15F=1D158.1D165
   1D160=1D158.1D165.1D16E 1D161=1D158.1D165.1D16F 1D162=1D158.1D165.1D170 1D163=1D158.1D165.1D171
   1D164=1D158.1D165.1D172 1D1BB=1D1B9.1D165 1D1BC=1D1BA.1D165 1D1BD=1D1B9.1D165.1D16E
   1D1BE=1D1BA.1D165.1D16E 1D1BF=1D1B9.1D165.1D16F 1D1C0=1D1BA.1D165.1D16F 1D400-1D419=61
   1D41A-1D433=61 1D434-1D44D=61 1D44E-1D454=61 1D456-1D467=69 1D468-1D481=61 1D482-1D49B=61
   1D49C=61 1D49E-1D49F=63 1D4A2=67 1D4A5-1D4A6=6A 1D4A9-1D4AC=6E 1D4AE-1D4B5=73 1D4B6-1D4B9=61
   1D4BB=66 1D4BD-1D4C3=68 1D4C5-1D4CF=70 1D4D0-1D4E9=61 1D4EA-1D503=61 1D504-1D505=61
   1D507-1D50A=64 1D50D-1D514=6A 1D516-1D51C=73 1D51E-1D537=61 1D538-1D539=61 1D53B-1D53E=64
   1D540-1D544=69 1D546=6F 1D54A-1D550=73 1D552-1D56B=61 1D56C-1D585=61 1D586-1D59F=61
   1D5A0-1D5B9=61 1D5BA-1D5D3=61 1D5D4-1D5ED=61 1D5EE-1D607=61 1D608-1D621=61 1D622-1D63B=61
   1D63C-1D655=61 1D656-1D66F=61 1D670-1D689=61 1D68A-1D6A3=61 1D6A4=131 1D6A5=237 1D6A8-1D6B8=3B1
   1D6B9=3B8 1D6BA-1D6C0=3C3 1D6C1=2207 1D6C2-1D6D2=3B1 1D6D3=3C3 1D6D4-1D6DA=3C3 1D6DB=2202
   1D6DC=3B5 1D6DD=3B8 1D6DE=3BA 1D6DF=3C6 1D6E0=3C1 1D6E1=3C0 1D6E2-1D6F2=3B1 1D6F3=3B8
   1D6F4-1D6FA=3C3 1D6FB=2207 1D6FC-1D70C=3B1 1D70D=3C3 1D70E-1D714=3C3 1D715=2202 1D716=3B5
   1D717=3B8 1D718=3BA 1D719=3C6 1D71A=3C1 1D71B=3C0 1D71C-1D72C=3B1 1D72D=3B8 1D72E-1D734=3C3
   1D735=2207 1D736-1D746=3B1 1D747=3C3 1D748-1D74E=3C3 1D74F=2202 1D750=3B5 1D751=3B8 1D752=3BA
   1D753=3C6 1D754=3C1 1D755=3C0 1D756-1D766=3B1 1D767=3B8 1D768-1D76E=3C3 1D76F=2207
   1D770-1D780=3B1 1D781=3C3 1D782-1D788=3C3 1D789=2202 1D78A=3B5 1D78B=3B8 1D78C=3BA 1D78D=3C6
   1D78E=3C1 1D78F=3C0 1D790-1D7A0=3B1 1D7A1=3B8 1D7A2-1D7A8=3C3 1D7A9=2207 1D7AA-1D7BA=3B1
   1D7BB=3C3 1D7BC-1D7C2=3C3 1D7C3=2202 1D7C4=3B5 1D7C5=3B8 1D7C6=3BA 1D7C7=3C6 1D7C8=3C1
   1D7C9=3C0 1D7CA=3DD 1D7CB=3DD 1D7CE-1D7D7=30 1D7D8-1D7E1=30 1D7E2-1D7EB=30 1D7EC-1D7F5=30
   1D7F6-1D7FF=30 1E030-1E038=430 1E039-1E03B=43A 1E03C-1E046=43E 1E047=44B 1E048-1E049=44D
   1E04A=A689 1E04B=4D9 1E04C=456 1E04D=458 1E04E=4E9 1E04F=4AF 1E050=4CF 1E051-1E059=430
   1E05A-1E05B=43A 1E05C-1E05D=43E 1E05E=441 1E05F-1E064=443 1E065-1E066=44A 1E067=491 1E068=456
   1E069=455 1E06A=45F 1E06B=4AB 1E06C=A651 1E06D=4B1 1E900-1E921=1E922 1EE00-1EE01=627 1EE02=62C
   1EE03=62F 1EE05=648 1EE06=632 1EE07=62D 1EE08=637 1EE09=64A 1EE0A-1EE0D=643 1EE0E=633 1EE0F=639
   1EE10=641 1EE11=635 1EE12=642 1EE13=631 1EE14=634 1EE15-1EE16=62A 1EE17=62E 1EE18=630 1EE19=636
   1EE1A=638 1EE1B=63A 1EE1C=66E 1EE1D=6BA 1EE1E=6A1 1EE1F=66F 1EE21=628 1EE22=62C 1EE24=647
   1EE27=62D 1EE29=64A 1EE2A-1EE2D=643 1EE2E=633 1EE2F=639 1EE30=641 1EE31=635 1EE32=642 1EE34=634
   1EE35-1EE36=62A 1EE37=62E 1EE39=636 1EE3B=63A 1EE42=62C 1EE47=62D 1EE49=64A 1EE4B=644 1EE4D=646
   1EE4E=633 1EE4F=639 1EE51=635 1EE52=642 1EE54=634 1EE57=62E 1EE59=636 1EE5B=63A 1EE5D=6BA
   1EE5F=66F 1EE61=628 1EE62=62C 1EE64=647 1EE67=62D 1EE68=637 1EE69=64A 1EE6A=643 1EE6C-1EE6D=645
   1EE6E=633 1EE6F=639 1EE70=641 1EE71=635 1EE72=642 1EE74=634 1EE75-1EE76=62A 1EE77=62E 1EE79=636
   1EE7A=638 1EE7B=63A 1EE7C=66E 1EE7E=6A1 1EE80-1EE81=627 1EE82=62C 1EE83=62F 1EE84-1EE85=647
   1EE86=632 1EE87=62D 1EE88=637 1EE89=64A 1EE8B-1EE8D=644 1EE8E=633 1EE8F=639 1EE90=641 1EE91=635
   1EE92=642 1EE93=631 1EE94=634 1EE95-1EE96=62A 1EE97=62E 1EE98=630 1EE99=636 1EE9A=638 1EE9B=63A
   1EEA1=628 1EEA2=62C 1EEA3=62F 1EEA5=648 1EEA6=632 1EEA7=62D 1EEA8=637 1EEA9=64A 1EEAB-1EEAD=644
   1EEAE=633 1EEAF=639 1EEB0=641 1EEB1=635 1EEB2=642 1EEB3=631 1EEB4=634 1EEB5-1EEB6=62A 1EEB7=62E
   1EEB8=630 1EEB9=636 1EEBA=638 1EEBB=63A 1F101=30.2C 1F102=31.2C 1F103=32.2C 1F104=33.2C
   1F105=34.2C 1F106=35.2C 1F107=36.2C 1F108=37.2C 1F109=38.2C 1F10A=39.2C 1F110=28.61.29
   1F111=28.62.29 1F112=28.63.29 1F113=28.64.29 1F114=28.65.29 1F115=28.66.29 1F116=28.67.29
   1F117=28.68.29 1F118=28.69.29 1F119=28.6A.29 1F11A=28.6B.29 1F11B=28.6C.29 1F11C=28.6D.29
   1F11D=28.6E.29 1F11E=28.6F.29 1F11F=28.70.29 1F120=28.71.29 1F121=28.72.29 1F122=28.73.29
   1F123=28.74.29 1F124=28.75.29 1F125=28.76.29 1F126=28.77.29 1F127=28.78.29 1F128=28.79.29
   1F129=28.7A.29 1F12A=3014.73.3015 1F12B=63 1F12C=72 1F12D=63.64 1F12E=77.7A 1F130-1F149=61
   1F14A=68.76 1F14B=6D.76 1F14C=73.64 1F14D=73.73 1F14E=70.70.76 1F14F=77.63 1F16A=6D.63
   1F16B=6D.64 1F16C=6D.72 1F190=64.6A 1F200=307B.304B 1F201=30B3.30B3 1F202=30B5 1F210=624B
   1F211=5B57 1F212=53CC 1F213=30C7 1F214=4E8C 1F215=591A 1F216=89E3 1F217=5929 1F218=4EA4
   1F219=6620 1F21A=7121 1F21B=6599 1F21C=524D 1F21D=5F8C 1F21E=518D 1F21F=65B0 1F220=521D
   1F221=7D42 1F222=751F 1F223=8CA9 1F224=58F0 1F225=5439 1F226=6F14 1F227=6295 1F228=6355
   1F229=4E00 1F22A=4E09 1F22B=904A 1F22C=5DE6 1F22D=4E2D 1F22E=53F3 1F22F=6307 1F230=8D70
   1F231=6253 1F232=7981 1F233=7A7A 1F234=5408 1F235=6E80 1F236=6709 1F237=6708 1F238=7533
   1F239=5272 1F23A=55B6 1F23B=914D 1F240=3014.672C.3015 1F241=3014.4E09.3015 1F242=3014.4E8C.3015
   1F243=3014.5B89.3015 1F244=3014.70B9.3015 1F245=3014.6253.3015 1F246=3014.76D7.3015
   1F247=3014.52DD.3015 1F248=3014.6557.3015 1F250=5F97 1F251=53EF 1FBF0-1FBF9=30 2F800=4E3D
   2F801=4E38 2F802=4E41 2F803=20122 2F804=4F60 2F805=4FAE 2F806=4FBB 2F807=5002 2F808=507A
   2F809=5099 2F80A=50E7 2F80B=50CF 2F80C=349E 2F80D=2063A 2F80E=514D 2F80F=5154 2F810=5164
   2F811=5177 2F812=2051C 2F813=34B9 2F814=5167 2F815=518D 2F816=2054B 2F817=5197 2F818=51A4
   2F819=4ECC 2F81A=51AC 2F81B=51B5 2F81C=291DF 2F81D=51F5 2F81E=5203 2F81F=34DF 2F820=523B
   2F821=5246 2F822=5272 2F823=5277 2F824=3515 2F825=52C7 2F826=52C9 2F827=52E4 2F828=52FA
   2F829-2F82A=5305 2F82B=5317 2F82C=5349 2F82D=5351 2F82E=535A 2F82F=5373 2F830=537D 2F831=537F
   2F832=537F 2F833=537F 2F834=20A2C 2F835=7070 2F836=53CA 2F837=53DF 2F838=20B63 2F839=53EB
   2F83A=53F1 2F83B=5406 2F83C=549E 2F83D=5438 2F83E=5448 2F83F=5468 2F840=54A2 2F841=54F6
   2F842=5510 2F843=5553 2F844=5563 2F845=5584 2F846=5584 2F847=5599 2F848=55AB 2F849=55B3
   2F84A=55C2 2F84B=5716 2F84C=5606 2F84D=5717 2F84E=5651 2F84F=5674 2F850=5207 2F851=58EE
   2F852=57CE 2F853=57F4 2F854=580D 2F855=578B 2F856=5832 2F857=5831 2F858=58AC 2F859=214E4
   2F85A=58F2 2F85B=58F7 2F85C=5906 2F85D=591A 2F85E=5922 2F85F=5962 2F860=216A8 2F861=216EA
   2F862=59EC 2F863=5A1B 2F864=5A27 2F865=59D8 2F866=5A66 2F867=36EE 2F868=36FC 2F869=5B08
   2F86A=5B3E 2F86B=5B3E 2F86C=219C8 2F86D=5BC3 2F86E=5BD8 2F86F=5BE7 2F870=5BF3 2F871=21B18
   2F872=5BFF 2F873=5C06 2F874=5F53 2F875=5C22 2F876=3781 2F877=5C60 2F878=5C6E 2F879=5CC0
   2F87A=5C8D 2F87B=21DE4 2F87C=5D43 2F87D=21DE6 2F87E=5D6E 2F87F=5D6B 2F880=5D7C 2F881-2F882=5DE1
   2F883=382F 2F884=5DFD 2F885=5E28 2F886=5E3D 2F887=5E69 2F888=3862 2F889=22183 2F88A=387C
   2F88B=5EB0 2F88C=5EB3 2F88D=5EB6 2F88E=5ECA 2F88F=2A392 2F890=5EFE 2F891=22331 2F892=22331
   2F893=8201 2F894=5F22 2F895=5F22 2F896=38C7 2F897=232B8 2F898=261DA 2F899=5F62 2F89A=5F6B
   2F89B=38E3 2F89C=5F9A 2F89D=5FCD 2F89E=5FD7 2F89F=5FF9 2F8A0=6081 2F8A1=393A 2F8A2=391C
   2F8A3=6094 2F8A4=226D4 2F8A5=60C7 2F8A6=6148 2F8A7=614C 2F8A8=614E 2F8A9=614C 2F8AA=617A
   2F8AB=618E 2F8AC=61B2 2F8AD=61A4 2F8AE=61AF 2F8AF=61DE 2F8B0=61F2 2F8B1=61F6 2F8B2=6210
   2F8B3=621B 2F8B4=625D 2F8B5=62B1 2F8B6=62D4 2F8B7=6350 2F8B8=22B0C 2F8B9=633D 2F8BA=62FC
   2F8BB=6368 2F8BC=6383 2F8BD=63E4 2F8BE=22BF1 2F8BF=6422 2F8C0=63C5 2F8C1=63A9 2F8C2=3A2E
   2F8C3=6469 2F8C4=647E 2F8C5=649D 2F8C6=6477 2F8C7=3A6C 2F8C8=654F 2F8C9=656C 2F8CA=2300A
   2F8CB=65E3 2F8CC=66F8 2F8CD=6649 2F8CE=3B19 2F8CF=6691 2F8D0=3B08 2F8D1=3AE4 2F8D2=5192
   2F8D3=5195 2F8D4=6700 2F8D5=669C 2F8D6=80AD 2F8D7=43D9 2F8D8=6717 2F8D9=671B 2F8DA=6721
   2F8DB=675E 2F8DC=6753 2F8DD=233C3 2F8DE=3B49 2F8DF=67FA 2F8E0=6785 2F8E1=6852 2F8E2=6885
   2F8E3=2346D 2F8E4=688E 2F8E5=681F 2F8E6=6914 2F8E7=3B9D 2F8E8=6942 2F8E9=69A3 2F8EA=69EA
   2F8EB=6AA8 2F8EC=236A3 2F8ED=6ADB 2F8EE=3C18 2F8EF=6B21 2F8F0=238A7 2F8F1=6B54 2F8F2=3C4E
   2F8F3=6B72 2F8F4=6B9F 2F8F5-2F8F6=6BBA 2F8F7=23A8D 2F8F8=21D0B 2F8F9=23AFA 2F8FA=6C4E
   2F8FB=23CBC 2F8FC=6CBF 2F8FD=6CCD 2F8FE=6C67 2F8FF=6D16 2F900=6D3E 2F901=6D77 2F902=6D41
   2F903=6D69 2F904=6D78 2F905=6D85 2F906=23D1E 2F907=6D34 2F908=6E2F 2F909=6E6E 2F90A=3D33
   2F90B=6ECB 2F90C=6EC7 2F90D=23ED1 2F90E=6DF9 2F90F=6F6E 2F910=23F5E 2F911=23F8E 2F912=6FC6
   2F913=7039 2F914=701E 2F915=701B 2F916=3D96 2F917=704A 2F918=707D 2F919=7077 2F91A=70AD
   2F91B=20525 2F91C=7145 2F91D=24263 2F91E=719C 2F91F=243AB 2F920=7228 2F921=7235 2F922=7250
   2F923=24608 2F924=7280 2F925=7295 2F926=24735 2F927=24814 2F928=737A 2F929=738B 2F92A=3EAC
   2F92B=73A5 2F92C=3EB8 2F92D=3EB8 2F92E=7447 2F92F=745C 2F930=7471 2F931=7485 2F932=74CA
   2F933=3F1B 2F934=7524 2F935=24C36 2F936=753E 2F937=24C92 2F938=7570 2F939=2219F 2F93A=7610
   2F93B=24FA1 2F93C=24FB8 2F93D=25044 2F93E=3FFC 2F93F=4008 2F940=76F4 2F941=250F3 2F942=250F2
   2F943=25119 2F944=25133 2F945-2F946=771E 2F947=771F 2F948=774A 2F949=4039 2F94A=778B 2F94B=4046
   2F94C=4096 2F94D=2541D 2F94E=784E 2F94F=788C 2F950=78CC 2F951=40E3 2F952=25626 2F953=7956
   2F954=2569A 2F955=256C5 2F956=798F 2F957=79EB 2F958=412F 2F959=7A40 2F95A=7A4A 2F95B=7A4F
   2F95C=2597C 2F95D=25AA7 2F95E=25AA7 2F95F=7AEE 2F960=4202 2F961=25BAB 2F962=7BC6 2F963=7BC9
   2F964=4227 2F965=25C80 2F966=7CD2 2F967=42A0 2F968=7CE8 2F969=7CE3 2F96A=7D00 2F96B=25F86
   2F96C=7D63 2F96D=4301 2F96E=7DC7 2F96F=7E02 2F970=7E45 2F971=4334 2F972=26228 2F973=26247
   2F974=4359 2F975=262D9 2F976=7F7A 2F977=2633E 2F978=7F95 2F979=7FFA 2F97A=8005 2F97B=264DA
   2F97C=26523 2F97D=8060 2F97E=265A8 2F97F=8070 2F980=2335F 2F981=43D5 2F982=80B2 2F983=8103
   2F984=440B 2F985=813E 2F986=5AB5 2F987=267A7 2F988=267B5 2F989=23393 2F98A=2339C 2F98B=8201
   2F98C=8204 2F98D=8F9E 2F98E=446B 2F98F=8291 2F990=828B 2F991=829D 2F992=52B3 2F993=82B1
   2F994=82B3 2F995=82BD 2F996=82E6 2F997=26B3C 2F998=82E5 2F999=831D 2F99A=8363 2F99B=83AD
   2F99C=8323 2F99D=83BD 2F99E=83E7 2F99F=8457 2F9A0=8353 2F9A1=83CA 2F9A2=83CC 2F9A3=83DC
   2F9A4=26C36 2F9A5=26D6B 2F9A6=26CD5 2F9A7=452B 2F9A8=84F1 2F9A9=84F3 2F9AA=8516 2F9AB=273CA
   2F9AC=8564 2F9AD=26F2C 2F9AE=455D 2F9AF=4561 2F9B0=26FB1 2F9B1=270D2 2F9B2=456B 2F9B3=8650
   2F9B4=865C 2F9B5=8667 2F9B6=8669 2F9B7=86A9 2F9B8=8688 2F9B9=870E 2F9BA=86E2 2F9BB=8779
   2F9BC=8728 2F9BD=876B 2F9BE=8786 2F9BF=45D7 2F9C0=87E1 2F9C1=8801 2F9C2=45F9 2F9C3=8860
   2F9C4=8863 2F9C5=27667 2F9C6=88D7 2F9C7=88DE 2F9C8=4635 2F9C9=88FA 2F9CA=34BB 2F9CB=278AE
   2F9CC=27966 2F9CD=46BE 2F9CE=46C7 2F9CF=8AA0 2F9D0=8AED 2F9D1=8B8A 2F9D2=8C55 2F9D3=27CA8
   2F9D4=8CAB 2F9D5=8CC1 2F9D6=8D1B 2F9D7=8D77 2F9D8=27F2F 2F9D9=20804 2F9DA=8DCB 2F9DB=8DBC
   2F9DC=8DF0 2F9DD=208DE 2F9DE=8ED4 2F9DF=8F38 2F9E0=285D2 2F9E1=285ED 2F9E2=9094 2F9E3=90F1
   2F9E4=9111 2F9E5=2872E 2F9E6=911B 2F9E7=9238 2F9E8-2F9E9=92D7 2F9EA=927C 2F9EB=93F9 2F9EC=9415
   2F9ED=28BFA 2F9EE=958B 2F9EF=4995 2F9F0=95B7 2F9F1=28D77 2F9F2=49E6 2F9F3=96C3 2F9F4=5DB2
   2F9F5=9723 2F9F6=29145 2F9F7=2921A 2F9F8=4A6E 2F9F9=4A76 2F9FA=97E0 2F9FB=2940A 2F9FC=4AB2
   2F9FD=29496 2F9FE=980B 2F9FF=980B 2FA00=9829 2FA01=295B6 2FA02=98E2 2FA03=4B33 2FA04=9929
   2FA05=99A7 2FA06=99C2 2FA07=99FE 2FA08=4BCE 2FA09=29B30 2FA0A=9B12 2FA0B=9C40 2FA0C=9CFD
   2FA0D=4CCE 2FA0E=4CED 2FA0F=9D67 2FA10=2A0CE 2FA11=4CF8 2FA12=2A105 2FA13=2A20E 2FA14=2A291
   2FA15=9EBB 2FA16=4D56 2FA17=9EF9 2FA18=9EFE 2FA19=9F05 2FA1A=9F0F 2FA1B=9F16 2FA1C=9F3B
   2FA1D=2A600"

end PgConverge.Url
