import PgConverge.Text.Table

/-!
# Characters from U+3300 to U+FFFF that stand for others in domain names

Squared words, compatible ideographs and forms of letters, each with what it stands for. The
characters of a range stand for as many characters in a row, the first of which is given.
-/

namespace PgConverge.Url

open Text (Table)

/-- The characters from U+3300 to U+FFFF that stand for others. -/
def formsToFFFF : Table := .ofText
  "3300=30A2.30D1.30FC.30C8 3301=30A2.30EB.30D5.30A1 3302=30A2.30F3.30DA.30A2 3303=30A2.30FC.30EB
   3304=30A4.30CB.30F3.30B0 3305=30A4.30F3.30C1 3306=30A6.30A9.30F3 3307=30A8.30B9.30AF.30FC.30C9
   3308=30A8.30FC.30AB.30FC 3309=30AA.30F3.30B9 330A=30AA.30FC.30E0 330B=30AB.30A4.30EA
   330C=30AB.30E9.30C3.30C8 330D=30AB.30ED.30EA.30FC 330E=30AC.30ED.30F3 330F=30AC.30F3.30DE
   3310=30AE.30AC 3311=30AE.30CB.30FC 3312=30AD.30E5.30EA.30FC 3313=30AE.30EB.30C0.30FC
   3314=30AD.30ED 3315=30AD.30ED.30B0.30E9.30E0 3316=30AD.30ED.30E1.30FC.30C8.30EB
   3317=30AD.30ED.30EF.30C3.30C8 3318=30B0.30E9.30E0 3319=30B0.30E9.30E0.30C8.30F3
   331A=30AF.30EB.30BC.30A4.30ED 331B=30AF.30ED.30FC.30CD 331C=30B1.30FC.30B9 331D=30B3.30EB.30CA
   331E=30B3.30FC.30DD 331F=30B5.30A4.30AF.30EB 3320=30B5.30F3.30C1.30FC.30E0
   3321=30B7.30EA.30F3.30B0 3322=30BB.30F3.30C1 3323=30BB.30F3.30C8 3324=30C0.30FC.30B9
   3325=30C7.30B7 3326=30C9.30EB 3327=30C8.30F3 3328=30CA.30CE 3329=30CE.30C3.30C8
   332A=30CF.30A4.30C4 332B=30D1.30FC.30BB.30F3.30C8 332C=30D1.30FC.30C4 332D=30D0.30FC.30EC.30EB
   332E=30D4.30A2.30B9.30C8.30EB 332F=30D4.30AF.30EB 3330=30D4.30B3 3331=30D3.30EB
   3332=30D5.30A1.30E9.30C3.30C9 3333=30D5.30A3.30FC.30C8 3334=30D6.30C3.30B7.30A7.30EB
   3335=30D5.30E9.30F3 3336=30D8.30AF.30BF.30FC.30EB 3337=30DA.30BD 3338=30DA.30CB.30D2
   3339=30D8.30EB.30C4 333A=30DA.30F3.30B9 333B=30DA.30FC.30B8 333C=30D9.30FC.30BF
   333D=30DD.30A4.30F3.30C8 333E=30DC.30EB.30C8 333F=30DB.30F3 3340=30DD.30F3.30C9
   3341=30DB.30FC.30EB 3342=30DB.30FC.30F3 3343=30DE.30A4.30AF.30ED 3344=30DE.30A4.30EB
   3345=30DE.30C3.30CF 3346=30DE.30EB.30AF 3347=30DE.30F3.30B7.30E7.30F3 3348=30DF.30AF.30ED.30F3
   3349=30DF.30EA 334A=30DF.30EA.30D0.30FC.30EB 334B=30E1.30AC 334C=30E1.30AC.30C8.30F3
   334D=30E1.30FC.30C8.30EB 334E=30E4.30FC.30C9 334F=30E4.30FC.30EB 3350=30E6.30A2.30F3
   3351=30EA.30C3.30C8.30EB 3352=30EA.30E9 3353=30EB.30D4.30FC 3354=30EB.30FC.30D6.30EB
   3355=30EC.30E0 3356=30EC.30F3.30C8.30B2.30F3 3357=30EF.30C3.30C8 3358=30.70B9 3359=31.70B9
   335A=32.70B9 335B=33.70B9 335C=34.70B9 335D=35.70B9 335E=36.70B9 335F=37.70B9 3360=38.70B9
   3361=39.70B9 3362=31.30.70B9 3363=31.31.70B9 3364=31.32.70B9 3365=31.33.70B9 3366=31.34.70B9
   3367=31.35.70B9 3368=31.36.70B9 3369=31.37.70B9 336A=31.38.70B9 336B=31.39.70B9 336C=32.30.70B9
   336D=32.31.70B9 336E=32.32.70B9 336F=32.33.70B9 3370=32.34.70B9 3371=68.70.61 3372=64.61
   3373=61.75 3374=62.61.72 3375=6F.76 3376=70.63 3377=64.6D 3378=64.6D.32 3379=64.6D.33
   337A=69.75 337B=5E73.6210 337C=662D.548C 337D=5927.6B63 337E=660E.6CBB 337F=682A.5F0F.4F1A.793E
   3380=70.61 3381=6E.61 3382=3BC.61 3383=6D.61 3384=6B.61 3385=6B.62 3386=6D.62 3387=67.62
   3388=63.61.6C 3389=6B.63.61.6C 338A=70.66 338B=6E.66 338C=3BC.66 338D=3BC.67 338E=6D.67
   338F=6B.67 3390=68.7A 3391=6B.68.7A 3392=6D.68.7A 3393=67.68.7A 3394=74.68.7A 3395=3BC.6C
   3396=6D.6C 3397=64.6C 3398=6B.6C 3399=66.6D 339A=6E.6D 339B=3BC.6D 339C=6D.6D 339D=63.6D
   339E=6B.6D 339F=6D.6D.32 33A0=63.6D.32 33A1=6D.32 33A2=6B.6D.32 33A3=6D.6D.33 33A4=63.6D.33
   33A5=6D.33 33A6=6B.6D.33 33A7=6D.2215.73 33A8=6D.2215.73.32 33A9=70.61 33AA=6B.70.61
   33AB=6D.70.61 33AC=67.70.61 33AD=72.61.64 33AE=72.61.64.2215.73 33AF=72.61.64.2215.73.32
   33B0=70.73 33B1=6E.73 33B2=3BC.73 33B3=6D.73 33B4=70.76 33B5=6E.76 33B6=3BC.76 33B7=6D.76
   33B8=6B.76 33B9=6D.76 33BA=70.77 33BB=6E.77 33BC=3BC.77 33BD=6D.77 33BE=6B.77 33BF=6D.77
   33C0=6B.3C9 33C1=6D.3C9 33C3=62.71 33C4=63.63 33C5=63.64 33C6=63.2215.6B.67 33C8=64.62
   33C9=67.79 33CA=68.61 33CB=68.70 33CC=69.6E 33CD=6B.6B 33CE=6B.6D 33CF=6B.74 33D0=6C.6D
   33D1=6C.6E 33D2=6C.6F.67 33D3=6C.78 33D4=6D.62 33D5=6D.69.6C 33D6=6D.6F.6C 33D7=70.68
   33D9=70.70.6D 33DA=70.72 33DB=73.72 33DC=73.76 33DD=77.62 33DE=76.2215.6D 33DF=61.2215.6D
   33E0=31.65E5 33E1=32.65E5 33E2=33.65E5 33E3=34.65E5 33E4=35.65E5 33E5=36.65E5 33E6=37.65E5
   33E7=38.65E5 33E8=39.65E5 33E9=31.30.65E5 33EA=31.31.65E5 33EB=31.32.65E5 33EC=31.33.65E5
   33ED=31.34.65E5 33EE=31.35.65E5 33EF=31.36.65E5 33F0=31.37.65E5 33F1=31.38.65E5 33F2=31.39.65E5
   33F3=32.30.65E5 33F4=32.31.65E5 33F5=32.32.65E5 33F6=32.33.65E5 33F7=32.34.65E5 33F8=32.35.65E5
   33F9=32.36.65E5 33FA=32.37.65E5 33FB=32.38.65E5 33FC=32.39.65E5 33FD=33.30.65E5 33FE=33.31.65E5
   33FF=67.61.6C A640=A641 A642=A643 A644=A645 A646=A647 A648=A649 A64A=A64B A64C=A64D A64E=A64F
   A650=A651 A652=A653 A654=A655 A656=A657 A658=A659 A65A=A65B A65C=A65D A65E=A65F A660=A661
   A662=A663 A664=A665 A666=A667 A668=A669 A66A=A66B A66C=A66D A680=A681 A682=A683 A684=A685
   A686=A687 A688=A689 A68A=A68B A68C=A68D A68E=A68F A690=A691 A692=A693 A694=A695 A696=A697
   A698=A699 A69A=A69B A69C=44A A69D=44C A722=A723 A724=A725 A726=A727 A728=A729 A72A=A72B
   A72C=A72D A72E=A72F A732=A733 A734=A735 A736=A737 A738=A739 A73A=A73B A73C=A73D A73E=A73F
   A740=A741 A742=A743 A744=A745 A746=A747 A748=A749 A74A=A74B A74C=A74D A74E=A74F A750=A751
   A752=A753 A754=A755 A756=A757 A758=A759 A75A=A75B A75C=A75D A75E=A75F A760=A761 A762=A763
   A764=A765 A766=A767 A768=A769 A76A=A76B A76C=A76D A76E=A76F A770=A76F A779=A77A A77B=A77C
   A77D=1D79 A77E=A77F A780=A781 A782=A783 A784=A785 A786=A787 A78B=A78C A78D=265 A790=A791
   A792=A793 A796=A797 A798=A799 A79A=A79B A79C=A79D A79E=A79F A7A0=A7A1 A7A2=A7A3 A7A4=A7A5
   A7A6=A7A7 A7A8=A7A9 A7AA=266 A7AB=25C A7AC=261 A7AD=26C A7AE=26A A7B0=29E A7B1=287 A7B2=29D
   A7B3=AB53 A7B4=A7B5 A7B6=A7B7 A7B8=A7B9 A7BA=A7BB A7BC=A7BD A7BE=A7BF A7C0=A7C1 A7C2=A7C3
   A7C4=A794 A7C5=282 A7C6=1D8E A7C7=A7C8 A7C9=A7CA A7CB=264 A7CC=A7CD A7CE=A7CF A7D0=A7D1
   A7D2=A7D3 A7D4=A7D5 A7D6=A7D7 A7D8=A7D9 A7DA=A7DB A7DC=19B A7F1=73 A7F2=63 A7F3=66 A7F4=71
   A7F5=A7F6 A7F8=127 A7F9=153 AB5C=A727 AB5D=AB37 AB5E=26B AB5F=AB52 AB69=28D AB70-ABBF=13A0
   F900=8C48 F901=66F4 F902=8ECA F903=8CC8 F904=6ED1 F905=4E32 F906=53E5 F907=9F9C F908=9F9C
   F909=5951 F90A=91D1 F90B=5587 F90C=5948 F90D=61F6 F90E=7669 F90F=7F85 F910=863F F911=87BA
   F912=88F8 F913=908F F914=6A02 F915=6D1B F916=70D9 F917=73DE F918=843D F919=916A F91A=99F1
   F91B=4E82 F91C=5375 F91D=6B04 F91E=721B F91F=862D F920=9E1E F921=5D50 F922=6FEB F923=85CD
   F924=8964 F925=62C9 F926=81D8 F927=881F F928=5ECA F929=6717 F92A=6D6A F92B=72FC F92C=90CE
   F92D=4F86 F92E=51B7 F92F=52DE F930=64C4 F931=6AD3 F932=7210 F933=76E7 F934=8001 F935=8606
   F936=865C F937=8DEF F938=9732 F939=9B6F F93A=9DFA F93B=788C F93C=797F F93D=7DA0 F93E=83C9
   F93F=9304 F940=9E7F F941=8AD6 F942=58DF F943=5F04 F944=7C60 F945=807E F946=7262 F947=78CA
   F948=8CC2 F949=96F7 F94A=58D8 F94B=5C62 F94C=6A13 F94D=6DDA F94E=6F0F F94F=7D2F F950=7E37
   F951=964B F952=52D2 F953=808B F954=51DC F955=51CC F956=7A1C F957=7DBE F958=83F1 F959=9675
   F95A=8B80 F95B=62CF F95C=6A02 F95D=8AFE F95E=4E39 F95F=5BE7 F960=6012 F961=7387 F962=7570
   F963=5317 F964=78FB F965=4FBF F966=5FA9 F967=4E0D F968=6CCC F969=6578 F96A=7D22 F96B=53C3
   F96C=585E F96D=7701 F96E=8449 F96F=8AAA F970=6BBA F971=8FB0 F972=6C88 F973=62FE F974=82E5
   F975=63A0 F976=7565 F977=4EAE F978=5169 F979=51C9 F97A=6881 F97B=7CE7 F97C=826F F97D=8AD2
   F97E=91CF F97F=52F5 F980=5442 F981=5973 F982=5EEC F983=65C5 F984=6FFE F985=792A F986=95AD
   F987=9A6A F988=9E97 F989=9ECE F98A=529B F98B=66C6 F98C=6B77 F98D=8F62 F98E=5E74 F98F=6190
   F990=6200 F991=649A F992=6F23 F993=7149 F994=7489 F995=79CA F996=7DF4 F997=806F F998=8F26
   F999=84EE F99A=9023 F99B=934A F99C=5217 F99D=52A3 F99E=54BD F99F=70C8 F9A0=88C2 F9A1=8AAA
   F9A2=5EC9 F9A3=5FF5 F9A4=637B F9A5=6BAE F9A6=7C3E F9A7=7375 F9A8=4EE4 F9A9=56F9 F9AA=5BE7
   F9AB=5DBA F9AC=601C F9AD=73B2 F9AE=7469 F9AF=7F9A F9B0=8046 F9B1=9234 F9B2=96F6 F9B3=9748
   F9B4=9818 F9B5=4F8B F9B6=79AE F9B7=91B4 F9B8=96B8 F9B9=60E1 F9BA=4E86 F9BB=50DA F9BC=5BEE
   F9BD=5C3F F9BE=6599 F9BF=6A02 F9C0=71CE F9C1=7642 F9C2=84FC F9C3=907C F9C4=9F8D F9C5=6688
   F9C6=962E F9C7=5289 F9C8=677B F9C9=67F3 F9CA=6D41 F9CB=6E9C F9CC=7409 F9CD=7559 F9CE=786B
   F9CF=7D10 F9D0=985E F9D1=516D F9D2=622E F9D3=9678 F9D4=502B F9D5=5D19 F9D6=6DEA F9D7=8F2A
   F9D8=5F8B F9D9=6144 F9DA=6817 F9DB=7387 F9DC=9686 F9DD=5229 F9DE=540F F9DF=5C65 F9E0=6613
   F9E1=674E F9E2=68A8 F9E3=6CE5 F9E4=7406 F9E5=75E2 F9E6=7F79 F9E7=88CF F9E8=88E1 F9E9=91CC
   F9EA=96E2 F9EB=533F F9EC=6EBA F9ED=541D F9EE=71D0 F9EF=7498 F9F0=85FA F9F1=96A3 F9F2=9C57
   F9F3=9E9F F9F4=6797 F9F5=6DCB F9F6=81E8 F9F7=7ACB F9F8=7B20 F9F9=7C92 F9FA=72C0 F9FB=7099
   F9FC=8B58 F9FD=4EC0 F9FE=8336 F9FF=523A FA00=5207 FA01=5EA6 FA02=62D3 FA03=7CD6 FA04=5B85
   FA05=6D1E FA06=66B4 FA07=8F3B FA08=884C FA09=964D FA0A=898B FA0B=5ED3 FA0C=5140 FA0D=55C0
   FA10=585A FA12=6674 FA15=51DE FA16=732A FA17=76CA FA18=793C FA19=795E FA1A=7965 FA1B=798F
   FA1C=9756 FA1D=7CBE FA1E=7FBD FA20=8612 FA22=8AF8 FA25=9038 FA26=90FD FA2A=98EF FA2B=98FC
   FA2C=9928 FA2D=9DB4 FA2E=90DE FA2F=96B7 FA30=4FAE FA31=50E7 FA32=514D FA33=52C9 FA34=52E4
   FA35=5351 FA36=559D FA37=5606 FA38=5668 FA39=5840 FA3A=58A8 FA3B=5C64 FA3C=5C6E FA3D=6094
   FA3E=6168 FA3F=618E FA40=61F2 FA41=654F FA42=65E2 FA43=6691 FA44=6885 FA45=6D77 FA46=6E1A
   FA47=6F22 FA48=716E FA49=722B FA4A=7422 FA4B=7891 FA4C=793E FA4D=7949 FA4E=7948 FA4F=7950
   FA50=7956 FA51=795D FA52-FA53=798D FA54=7A40 FA55=7A81 FA56=7BC0 FA57=7DF4 FA58=7E09 FA59=7E41
   FA5A=7F72 FA5B=8005 FA5C=81ED FA5D=8279 FA5E=8279 FA5F=8457 FA60=8910 FA61=8996 FA62=8B01
   FA63=8B39 FA64=8CD3 FA65=8D08 FA66=8FB6 FA67=9038 FA68=96E3 FA69=97FF FA6A=983B FA6B=6075
   FA6C=242EE FA6D=8218 FA70=4E26 FA71=51B5 FA72=5168 FA73=4F80 FA74=5145 FA75=5180 FA76=52C7
   FA77=52FA FA78=559D FA79=5555 FA7A=5599 FA7B=55E2 FA7C=585A FA7D=58B3 FA7E=5944 FA7F=5954
   FA80=5A62 FA81=5B28 FA82=5ED2 FA83=5ED9 FA84=5F69 FA85=5FAD FA86=60D8 FA87=614E FA88=6108
   FA89=618E FA8A=6160 FA8B=61F2 FA8C=6234 FA8D=63C4 FA8E=641C FA8F=6452 FA90=6556 FA91=6674
   FA92=6717 FA93=671B FA94=6756 FA95=6B79 FA96=6BBA FA97=6D41 FA98=6EDB FA99=6ECB FA9A=6F22
   FA9B=701E FA9C=716E FA9D=77A7 FA9E=7235 FA9F=72AF FAA0=732A FAA1=7471 FAA2=7506 FAA3=753B
   FAA4=761D FAA5=761F FAA6=76CA FAA7=76DB FAA8=76F4 FAA9=774A FAAA=7740 FAAB=78CC FAAC=7AB1
   FAAD=7BC0 FAAE=7C7B FAAF=7D5B FAB0=7DF4 FAB1=7F3E FAB2=8005 FAB3=8352 FAB4=83EF FAB5=8779
   FAB6=8941 FAB7=8986 FAB8=8996 FAB9=8ABF FABA=8AF8 FABB=8ACB FABC=8B01 FABD=8AFE FABE=8AED
   FABF=8B39 FAC0=8B8A FAC1=8D08 FAC2=8F38 FAC3=9072 FAC4=9199 FAC5=9276 FAC6=967C FAC7=96E3
   FAC8=9756 FAC9=97DB FACA=97FF FACB=980B FACC=983B FACD=9B12 FACE=9F9C FACF=2284A FAD0=22844
   FAD1=233D5 FAD2=3B9D FAD3=4018 FAD4=4039 FAD5=25249 FAD6=25CD0 FAD7=27ED3 FAD8=9F43 FAD9=9F8E
   FB00=66.66 FB01=66.69 FB02=66.6C FB03=66.66.69 FB04=66.66.6C FB05=73.74 FB06=73.74 FB13=574.576
   FB14=574.565 FB15=574.56B FB16=57E.576 FB17=574.56D FB1D=5D9.5B4 FB1F=5F2.5B7 FB20=5E2 FB21=5D0
   FB22-FB23=5D3 FB24-FB26=5DB FB27=5E8 FB28=5EA FB29=2B FB2A=5E9.5C1 FB2B=5E9.5C2
   FB2C=5E9.5BC.5C1 FB2D=5E9.5BC.5C2 FB2E=5D0.5B7 FB2F=5D0.5B8 FB30=5D0.5BC FB31=5D1.5BC
   FB32=5D2.5BC FB33=5D3.5BC FB34=5D4.5BC FB35=5D5.5BC FB36=5D6.5BC FB38=5D8.5BC FB39=5D9.5BC
   FB3A=5DA.5BC FB3B=5DB.5BC FB3C=5DC.5BC FB3E=5DE.5BC FB40=5E0.5BC FB41=5E1.5BC FB43=5E3.5BC
   FB44=5E4.5BC FB46=5E6.5BC FB47=5E7.5BC FB48=5E8.5BC FB49=5E9.5BC FB4A=5EA.5BC FB4B=5D5.5B9
   FB4C=5D1.5BF FB4D=5DB.5BF FB4E=5E4.5BF FB4F=5D0.5DC FB50=671 FB51=671 FB52=67B FB53=67B
   FB54=67B FB55=67B FB56=67E FB57=67E FB58=67E FB59=67E FB5A=680 FB5B=680 FB5C=680 FB5D=680
   FB5E=67A FB5F=67A FB60=67A FB61=67A FB62=67F FB63=67F FB64=67F FB65=67F FB66=679 FB67=679
   FB68=679 FB69=679 FB6A=6A4 FB6B=6A4 FB6C=6A4 FB6D=6A4 FB6E=6A6 FB6F=6A6 FB70=6A6 FB71=6A6
   FB72=684 FB73=684 FB74=684 FB75=684 FB76=683 FB77=683 FB78=683 FB79=683 FB7A=686 FB7B=686
   FB7C=686 FB7D-FB7E=686 FB7F=687 FB80=687 FB81=687 FB82=68D FB83=68D FB84=68C FB85=68C FB86=68E
   FB87=68E FB88=688 FB89=688 FB8A=698 FB8B=698 FB8C=691 FB8D=691 FB8E=6A9 FB8F=6A9 FB90=6A9
   FB91=6A9 FB92=6AF FB93=6AF FB94=6AF FB95=6AF FB96=6B3 FB97=6B3 FB98=6B3 FB99=6B3 FB9A=6B1
   FB9B=6B1 FB9C=6B1 FB9D=6B1 FB9E=6BA FB9F-FBA0=6BA FBA1=6BB FBA2=6BB FBA3=6BB FBA4=6C0
   FBA5-FBA6=6C0 FBA7=6C1 FBA8=6C1 FBA9=6C1 FBAA=6BE FBAB=6BE FBAC=6BE FBAD=6BE FBAE=6D2
   FBAF-FBB0=6D2 FBB1=6D3 FBD3=6AD FBD4=6AD FBD5=6AD FBD6=6AD FBD7=6C7 FBD8=6C7 FBD9=6C6 FBDA=6C6
   FBDB=6C8 FBDC=6C8 FBDD=6C7.674 FBDE=6CB FBDF=6CB FBE0=6C5 FBE1=6C5 FBE2=6C9 FBE3=6C9 FBE4=6D0
   FBE5=6D0 FBE6=6D0 FBE7=6D0 FBE8=649 FBE9=649 FBEA=626.627 FBEB=626.627 FBEC=626.6D5
   FBED=626.6D5 FBEE=626.648 FBEF=626.648 FBF0=626.6C7 FBF1=626.6C7 FBF2=626.6C6 FBF3=626.6C6
   FBF4=626.6C8 FBF5=626.6C8 FBF6=626.6D0 FBF7=626.6D0 FBF8=626.6D0 FBF9=626.649 FBFA=626.649
   FBFB=626.649 FBFC=6CC FBFD=6CC FBFE=6CC FBFF=6CC FC00=626.62C FC01=626.62D FC02=626.645
   FC03=626.649 FC04=626.64A FC05=628.62C FC06=628.62D FC07=628.62E FC08=628.645 FC09=628.649
   FC0A=628.64A FC0B=62A.62C FC0C=62A.62D FC0D=62A.62E FC0E=62A.645 FC0F=62A.649 FC10=62A.64A
   FC11=62B.62C FC12=62B.645 FC13=62B.649 FC14=62B.64A FC15=62C.62D FC16=62C.645 FC17=62D.62C
   FC18=62D.645 FC19=62E.62C FC1A=62E.62D FC1B=62E.645 FC1C=633.62C FC1D=633.62D FC1E=633.62E
   FC1F=633.645 FC20=635.62D FC21=635.645 FC22=636.62C FC23=636.62D FC24=636.62E FC25=636.645
   FC26=637.62D FC27=637.645 FC28=638.645 FC29=639.62C FC2A=639.645 FC2B=63A.62C FC2C=63A.645
   FC2D=641.62C FC2E=641.62D FC2F=641.62E FC30=641.645 FC31=641.649 FC32=641.64A FC33=642.62D
   FC34=642.645 FC35=642.649 FC36=642.64A FC37=643.627 FC38=643.62C FC39=643.62D FC3A=643.62E
   FC3B=643.644 FC3C=643.645 FC3D=643.649 FC3E=643.64A FC3F=644.62C FC40=644.62D FC41=644.62E
   FC42=644.645 FC43=644.649 FC44=644.64A FC45=645.62C FC46=645.62D FC47=645.62E FC48=645.645
   FC49=645.649 FC4A=645.64A FC4B=646.62C FC4C=646.62D FC4D=646.62E FC4E=646.645 FC4F=646.649
   FC50=646.64A FC51=647.62C FC52=647.645 FC53=647.649 FC54=647.64A FC55=64A.62C FC56=64A.62D
   FC57=64A.62E FC58=64A.645 FC59=64A.649 FC5A=64A.64A FC5B=630.670 FC5C=631.670 FC5D=649.670
   FC5E=20.64C.651 FC5F=20.64D.651 FC60=20.64E.651 FC61=20.64F.651 FC62=20.650.651 FC63=20.651.670
   FC64=626.631 FC65=626.632 FC66=626.645 FC67=626.646 FC68=626.649 FC69=626.64A FC6A=628.631
   FC6B=628.632 FC6C=628.645 FC6D=628.646 FC6E=628.649 FC6F=628.64A FC70=62A.631 FC71=62A.632
   FC72=62A.645 FC73=62A.646 FC74=62A.649 FC75=62A.64A FC76=62B.631 FC77=62B.632 FC78=62B.645
   FC79=62B.646 FC7A=62B.649 FC7B=62B.64A FC7C=641.649 FC7D=641.64A FC7E=642.649 FC7F=642.64A
   FC80=643.627 FC81=643.644 FC82=643.645 FC83=643.649 FC84=643.64A FC85=644.645 FC86=644.649
   FC87=644.64A FC88=645.627 FC89=645.645 FC8A=646.631 FC8B=646.632 FC8C=646.645 FC8D=646.646
   FC8E=646.649 FC8F=646.64A FC90=649.670 FC91=64A.631 FC92=64A.632 FC93=64A.645 FC94=64A.646
   FC95=64A.649 FC96=64A.64A FC97=626.62C FC98=626.62D FC99=626.62E FC9A=626.645 FC9B=626.647
   FC9C=628.62C FC9D=628.62D FC9E=628.62E FC9F=628.645 FCA0=628.647 FCA1=62A.62C FCA2=62A.62D
   FCA3=62A.62E FCA4=62A.645 FCA5=62A.647 FCA6=62B.645 FCA7=62C.62D FCA8=62C.645 FCA9=62D.62C
   FCAA=62D.645 FCAB=62E.62C FCAC=62E.645 FCAD=633.62C FCAE=633.62D FCAF=633.62E FCB0=633.645
   FCB1=635.62D FCB2=635.62E FCB3=635.645 FCB4=636.62C FCB5=636.62D FCB6=636.62E FCB7=636.645
   FCB8=637.62D FCB9=638.645 FCBA=639.62C FCBB=639.645 FCBC=63A.62C FCBD=63A.645 FCBE=641.62C
   FCBF=641.62D FCC0=641.62E FCC1=641.645 FCC2=642.62D FCC3=642.645 FCC4=643.62C FCC5=643.62D
   FCC6=643.62E FCC7=643.644 FCC8=643.645 FCC9=644.62C FCCA=644.62D FCCB=644.62E FCCC=644.645
   FCCD=644.647 FCCE=645.62C FCCF=645.62D FCD0=645.62E FCD1=645.645 FCD2=646.62C FCD3=646.62D
   FCD4=646.62E FCD5=646.645 FCD6=646.647 FCD7=647.62C FCD8=647.645 FCD9=647.670 FCDA=64A.62C
   FCDB=64A.62D FCDC=64A.62E FCDD=64A.645 FCDE=64A.647 FCDF=626.645 FCE0=626.647 FCE1=628.645
   FCE2=628.647 FCE3=62A.645 FCE4=62A.647 FCE5=62B.645 FCE6=62B.647 FCE7=633.645 FCE8=633.647
   FCE9=634.645 FCEA=634.647 FCEB=643.644 FCEC=643.645 FCED=644.645 FCEE=646.645 FCEF=646.647
   FCF0=64A.645 FCF1=64A.647 FCF2=640.64E.651 FCF3=640.64F.651 FCF4=640.650.651 FCF5=637.649
   FCF6=637.64A FCF7=639.649 FCF8=639.64A FCF9=63A.649 FCFA=63A.64A FCFB=633.649 FCFC=633.64A
   FCFD=634.649 FCFE=634.64A FCFF=62D.649 FD00=62D.64A FD01=62C.649 FD02=62C.64A FD03=62E.649
   FD04=62E.64A FD05=635.649 FD06=635.64A FD07=636.649 FD08=636.64A FD09=634.62C FD0A=634.62D
   FD0B=634.62E FD0C=634.645 FD0D=634.631 FD0E=633.631 FD0F=635.631 FD10=636.631 FD11=637.649
   FD12=637.64A FD13=639.649 FD14=639.64A FD15=63A.649 FD16=63A.64A FD17=633.649 FD18=633.64A
   FD19=634.649 FD1A=634.64A FD1B=62D.649 FD1C=62D.64A FD1D=62C.649 FD1E=62C.64A FD1F=62E.649
   FD20=62E.64A FD21=635.649 FD22=635.64A FD23=636.649 FD24=636.64A FD25=634.62C FD26=634.62D
   FD27=634.62E FD28=634.645 FD29=634.631 FD2A=633.631 FD2B=635.631 FD2C=636.631 FD2D=634.62C
   FD2E=634.62D FD2F=634.62E FD30=634.645 FD31=633.647 FD32=634.647 FD33=637.645 FD34=633.62C
   FD35=633.62D FD36=633.62E FD37=634.62C FD38=634.62D FD39=634.62E FD3A=637.645 FD3B=638.645
   FD3C=627.64B FD3D=627.64B FD50=62A.62C.645 FD51=62A.62D.62C FD52=62A.62D.62C FD53=62A.62D.645
   FD54=62A.62E.645 FD55=62A.645.62C FD56=62A.645.62D FD57=62A.645.62E FD58=62C.645.62D
   FD59=62C.645.62D FD5A=62D.645.64A FD5B=62D.645.649 FD5C=633.62D.62C FD5D=633.62C.62D
   FD5E=633.62C.649 FD5F=633.645.62D FD60=633.645.62D FD61=633.645.62C FD62=633.645.645
   FD63=633.645.645 FD64=635.62D.62D FD65=635.62D.62D FD66=635.645.645 FD67=634.62D.645
   FD68=634.62D.645 FD69=634.62C.64A FD6A=634.645.62E FD6B=634.645.62E FD6C=634.645.645
   FD6D=634.645.645 FD6E=636.62D.649 FD6F=636.62E.645 FD70=636.62E.645 FD71=637.645.62D
   FD72=637.645.62D FD73=637.645.645 FD74=637.645.64A FD75=639.62C.645 FD76=639.645.645
   FD77=639.645.645 FD78=639.645.649 FD79=63A.645.645 FD7A=63A.645.64A FD7B=63A.645.649
   FD7C=641.62E.645 FD7D=641.62E.645 FD7E=642.645.62D FD7F=642.645.645 FD80=644.62D.645
   FD81=644.62D.64A FD82=644.62D.649 FD83=644.62C.62C FD84=644.62C.62C FD85=644.62E.645
   FD86=644.62E.645 FD87=644.645.62D FD88=644.645.62D FD89=645.62D.62C FD8A=645.62D.645
   FD8B=645.62D.64A FD8C=645.62C.62D FD8D=645.62C.645 FD8E=645.62E.62C FD8F=645.62E.645
   FD92=645.62C.62E FD93=647.645.62C FD94=647.645.645 FD95=646.62D.645 FD96=646.62D.649
   FD97=646.62C.645 FD98=646.62C.645 FD99=646.62C.649 FD9A=646.645.64A FD9B=646.645.649
   FD9C=64A.645.645 FD9D=64A.645.645 FD9E=628.62E.64A FD9F=62A.62C.64A FDA0=62A.62C.649
   FDA1=62A.62E.64A FDA2=62A.62E.649 FDA3=62A.645.64A FDA4=62A.645.649 FDA5=62C.645.64A
   FDA6=62C.62D.649 FDA7=62C.645.649 FDA8=633.62E.649 FDA9=635.62D.64A FDAA=634.62D.64A
   FDAB=636.62D.64A FDAC=644.62C.64A FDAD=644.645.64A FDAE=64A.62D.64A FDAF=64A.62C.64A
   FDB0=64A.645.64A FDB1=645.645.64A FDB2=642.645.64A FDB3=646.62D.64A FDB4=642.645.62D
   FDB5=644.62D.645 FDB6=639.645.64A FDB7=643.645.64A FDB8=646.62C.62D FDB9=645.62E.64A
   FDBA=644.62C.645 FDBB=643.645.645 FDBC=644.62C.645 FDBD=646.62C.62D FDBE=62C.62D.64A
   FDBF=62D.62C.64A FDC0=645.62C.64A FDC1=641.645.64A FDC2=628.62D.64A FDC3=643.645.645
   FDC4=639.62C.645 FDC5=635.645.645 FDC6=633.62E.64A FDC7=646.62C.64A FDF0=635.644.6D2
   FDF1=642.644.6D2 FDF2=627.644.644.647 FDF3=627.643.628.631 FDF4=645.62D.645.62F
   FDF5=635.644.639.645 FDF6=631.633.648.644 FDF7=639.644.64A.647 FDF8=648.633.644.645
   FDF9=635.644.649 FDFA=635.644.649.20.627.644.644.647.20.639.644.64A.647.20.648.633.644.645
   FDFB=62C.644.20.62C.644.627.644.647 FDFC=631.6CC.627.644 FE10=2C FE11=3001 FE13-FE14=3A FE15=21
   FE16=3F FE17-FE18=3016 FE31=2014 FE32=2013 FE33=5F FE34=5F FE35-FE36=28 FE37=7B FE38=7D
   FE39-FE3A=3014 FE3B-FE3C=3010 FE3D-FE3E=300A FE3F-FE40=3008 FE41-FE44=300C FE47=5B FE48=5D
   FE49=20.305 FE4A=20.305 FE4B=20.305 FE4C=20.305 FE4D=5F FE4E=5F FE4F=5F FE50=2C FE51=3001
   FE54=3B FE55=3A FE56=3F FE57=21 FE58=2014 FE59-FE5A=28 FE5B=7B FE5C=7D FE5D-FE5E=3014 FE5F=23
   FE60=26 FE61-FE62=2A FE63=2D FE64=3C FE65=3E FE66=3D FE68=5C FE69-FE6A=24 FE6B=40 FE70=20.64B
   FE71=640.64B FE72=20.64C FE74=20.64D FE76=20.64E FE77=640.64E FE78=20.64F FE79=640.64F
   FE7A=20.650 FE7B=640.650 FE7C=20.651 FE7D=640.651 FE7E=20.652 FE7F=640.652 FE80-FE81=621
   FE82-FE83=622 FE84-FE85=623 FE86-FE87=624 FE88-FE89=625 FE8A=626 FE8B=626 FE8C-FE8D=626
   FE8E-FE8F=627 FE90=628 FE91=628 FE92-FE93=628 FE94-FE95=629 FE96=62A FE97=62A FE98-FE99=62A
   FE9A=62B FE9B=62B FE9C-FE9D=62B FE9E=62C FE9F=62C FEA0-FEA1=62C FEA2=62D FEA3=62D FEA4-FEA5=62D
   FEA6=62E FEA7=62E FEA8-FEA9=62E FEAA-FEAB=62F FEAC-FEAD=630 FEAE-FEAF=631 FEB0-FEB1=632
   FEB2=633 FEB3=633 FEB4-FEB5=633 FEB6=634 FEB7=634 FEB8-FEB9=634 FEBA=635 FEBB=635 FEBC-FEBD=635
   FEBE=636 FEBF=636 FEC0-FEC1=636 FEC2=637 FEC3=637 FEC4-FEC5=637 FEC6=638 FEC7=638 FEC8-FEC9=638
   FECA=639 FECB=639 FECC-FECD=639 FECE=63A FECF=63A FED0=63A FED1=641 FED2=641 FED3=641
   FED4-FED5=641 FED6=642 FED7=642 FED8-FED9=642 FEDA=643 FEDB=643 FEDC-FEDD=643 FEDE=644 FEDF=644
   FEE0-FEE1=644 FEE2=645 FEE3=645 FEE4-FEE5=645 FEE6=646 FEE7=646 FEE8-FEE9=646 FEEA=647 FEEB=647
   FEEC-FEED=647 FEEE-FEEF=648 FEF0-FEF1=649 FEF2=64A FEF3=64A FEF4=64A FEF5=644.622 FEF6=644.622
   FEF7=644.623 FEF8=644.623 FEF9=644.625 FEFA=644.625 FEFB=644.627 FEFC=644.627 FF01-FF20=21
   FF21-FF3A=61 FF3B-FF5E=5B FF5F-FF60=2985 FF61=2E FF62-FF63=300C FF64=3001 FF65=30FB FF66=30F2
   FF67=30A1 FF68=30A3 FF69=30A5 FF6A=30A7 FF6B=30A9 FF6C=30E3 FF6D=30E5 FF6E=30E7 FF6F=30C3
   FF70=30FC FF71=30A2 FF72=30A4 FF73=30A6 FF74=30A8 FF75-FF76=30AA FF77=30AD FF78=30AF FF79=30B1
   FF7A=30B3 FF7B=30B5 FF7C=30B7 FF7D=30B9 FF7E=30BB FF7F=30BD FF80=30BF FF81=30C1 FF82=30C4
   FF83=30C6 FF84=30C8 FF85-FF8A=30CA FF8B=30D2 FF8C=30D5 FF8D=30D8 FF8E=30DB FF8F-FF93=30DE
   FF94=30E4 FF95=30E6 FF96-FF9B=30E8 FF9C=30EF FF9D=30F3 FF9E-FF9F=3099 FFA1-FFA2=1100 FFA3=11AA
   FFA4=1102 FFA5-FFA6=11AC FFA7-FFA9=1103 FFAA-FFAF=11B0 FFB0=111A FFB1-FFB3=1106 FFB4=1121
   FFB5-FFBE=1109 FFC2-FFC7=1161 FFCA-FFCF=1167 FFD2-FFD7=116D FFDA-FFDC=1173 FFE0-FFE1=A2 FFE2=AC
   FFE3=20.304 FFE4=A6 FFE5=A5 FFE6=20A9 FFE8=2502 FFE9-FFEC=2190 FFED=25A0 FFEE=25CB"

end PgConverge.Url
