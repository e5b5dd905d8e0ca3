import MarkupRules.Unicode.Ranges

/-!
Scripts of characters, by the four-letter abbreviations of the standard.

A character has one script. Its script extensions are all scripts that use it,
joined by `+`.
-/
namespace MarkupRules.Unicode

/-- Where each run of characters of one script starts. -/
def scriptTable : CodeLabels := CodeLabels.ofText
  "0=Zyyy 41=Latn 5B=Zyyy 61=Latn 7B=Zyyy AA=Latn AB=Zyyy BA=Latn BB=Zyyy C0=Latn D7=Zyyy
  D8=Latn F7=Zyyy F8=Latn 2B9=Zyyy 2E0=Latn 2E5=Zyyy 2EA=Bopo 2EC=Zyyy 300=Zinh 370=Grek
  374=Zyyy 375=Grek 378= 37A=Grek 37E=Zyyy 37F=Grek 380= 384=Grek 385=Zyyy 386=Grek 387=Zyyy
  388=Grek 38B= 38C=Grek 38D= 38E=Grek 3A2= 3A3=Grek 3E2=Copt 3F0=Grek 400=Cyrl 485=Zinh
  487=Cyrl 530= 531=Armn 557= 559=Armn 58B= 58D=Armn 590= 591=Hebr 5C8= 5D0=Hebr 5EB= 5EF=Hebr
  5F5= 600=Arab 605=Zyyy 606=Arab 60C=Zyyy 60D=Arab 61B=Zyyy 61C=Arab 61F=Zyyy 620=Arab
  640=Zyyy 641=Arab 64B=Zinh 656=Arab 670=Zinh 671=Arab 6DD=Zyyy 6DE=Arab 700=Syrc 70E=
  70F=Syrc 74B= 74D=Syrc 750=Arab 780=Thaa 7B2= 7C0=Nkoo 7FB= 7FD=Nkoo 800=Samr 82E= 830=Samr
  83F= 840=Mand 85C= 85E=Mand 85F= 860=Syrc 86B= 870=Arab 892= 897=Arab 8E2=Zyyy 8E3=Arab
  900=Deva 951=Zinh 955=Deva 964=Zyyy 966=Deva 980=Beng 984= 985=Beng 98D= 98F=Beng 991=
  993=Beng 9A9= 9AA=Beng 9B1= 9B2=Beng 9B3= 9B6=Beng 9BA= 9BC=Beng 9C5= 9C7=Beng 9C9= 9CB=Beng
  9CF= 9D7=Beng 9D8= 9DC=Beng 9DE= 9DF=Beng 9E4= 9E6=Beng 9FF= A01=Guru A04= A05=Guru A0B=
  A0F=Guru A11= A13=Guru A29= A2A=Guru A31= A32=Guru A34= A35=Guru A37= A38=Guru A3A= A3C=Guru
  A3D= A3E=Guru A43= A47=Guru A49= A4B=Guru A4E= A51=Guru A52= A59=Guru A5D= A5E=Guru A5F=
  A66=Guru A77= A81=Gujr A84= A85=Gujr A8E= A8F=Gujr A92= A93=Gujr AA9= AAA=Gujr AB1= AB2=Gujr
  AB4= AB5=Gujr ABA= ABC=Gujr AC6= AC7=Gujr ACA= ACB=Gujr ACE= AD0=Gujr AD1= AE0=Gujr AE4=
  AE6=Gujr AF2= AF9=Gujr B00= B01=Orya B04= B05=Orya B0D= B0F=Orya B11= B13=Orya B29= B2A=Orya
  B31= B32=Orya B34= B35=Orya B3A= B3C=Orya B45= B47=Orya B49= B4B=Orya B4E= B55=Orya B58=
  B5C=Orya B5E= B5F=Orya B64= B66=Orya B78= B82=Taml B84= B85=Taml B8B= B8E=Taml B91= B92=Taml
  B96= B99=Taml B9B= B9C=Taml B9D= B9E=Taml BA0= BA3=Taml BA5= BA8=Taml BAB= BAE=Taml BBA=
  BBE=Taml BC3= BC6=Taml BC9= BCA=Taml BCE= BD0=Taml BD1= BD7=Taml BD8= BE6=Taml BFB= C00=Telu
  C0D= C0E=Telu C11= C12=Telu C29= C2A=Telu C3A= C3C=Telu C45= C46=Telu C49= C4A=Telu C4E=
  C55=Telu C57= C58=Telu C5B= C5C=Telu C5E= C60=Telu C64= C66=Telu C70= C77=Telu C80=Knda C8D=
  C8E=Knda C91= C92=Knda CA9= CAA=Knda CB4= CB5=Knda CBA= CBC=Knda CC5= CC6=Knda CC9= CCA=Knda
  CCE= CD5=Knda CD7= CDC=Knda CDF= CE0=Knda CE4= CE6=Knda CF0= CF1=Knda CF4= D00=Mlym D0D=
  D0E=Mlym D11= D12=Mlym D45= D46=Mlym D49= D4A=Mlym D50= D54=Mlym D64= D66=Mlym D80= D81=Sinh
  D84= D85=Sinh D97= D9A=Sinh DB2= DB3=Sinh DBC= DBD=Sinh DBE= DC0=Sinh DC7= DCA=Sinh DCB=
  DCF=Sinh DD5= DD6=Sinh DD7= DD8=Sinh DE0= DE6=Sinh DF0= DF2=Sinh DF5= E01=Thai E3B= E3F=Zyyy
  E40=Thai E5C= E81=Laoo E83= E84=Laoo E85= E86=Laoo E8B= E8C=Laoo EA4= EA5=Laoo EA6= EA7=Laoo
  EBE= EC0=Laoo EC5= EC6=Laoo EC7= EC8=Laoo ECF= ED0=Laoo EDA= EDC=Laoo EE0= F00=Tibt F48=
  F49=Tibt F6D= F71=Tibt F98= F99=Tibt FBD= FBE=Tibt FCD= FCE=Tibt FD5=Zyyy FD9=Tibt FDB=
  1000=Mymr 10A0=Geor 10C6= 10C7=Geor 10C8= 10CD=Geor 10CE= 10D0=Geor 10FB=Zyyy 10FC=Geor
  1100=Hang 1200=Ethi 1249= 124A=Ethi 124E= 1250=Ethi 1257= 1258=Ethi 1259= 125A=Ethi 125E=
  1260=Ethi 1289= 128A=Ethi 128E= 1290=Ethi 12B1= 12B2=Ethi 12B6= 12B8=Ethi 12BF= 12C0=Ethi
  12C1= 12C2=Ethi 12C6= 12C8=Ethi 12D7= 12D8=Ethi 1311= 1312=Ethi 1316= 1318=Ethi 135B=
  135D=Ethi 137D= 1380=Ethi 139A= 13A0=Cher 13F6= 13F8=Cher 13FE= 1400=Cans 1680=Ogam 169D=
  16A0=Runr 16EB=Zyyy 16EE=Runr 16F9= 1700=Tglg 1716= 171F=Tglg 1720=Hano 1735=Zyyy 1737=
  1740=Buhd 1754= 1760=Tagb 176D= 176E=Tagb 1771= 1772=Tagb 1774= 1780=Khmr 17DE= 17E0=Khmr
  17EA= 17F0=Khmr 17FA= 1800=Mong 1802=Zyyy 1804=Mong 1805=Zyyy 1806=Mong 181A= 1820=Mong
  1879= 1880=Mong 18AB= 18B0=Cans 18F6= 1900=Limb 191F= 1920=Limb 192C= 1930=Limb 193C=
  1940=Limb 1941= 1944=Limb 1950=Tale 196E= 1970=Tale 1975= 1980=Talu 19AC= 19B0=Talu 19CA=
  19D0=Talu 19DB= 19DE=Talu 19E0=Khmr 1A00=Bugi 1A1C= 1A1E=Bugi 1A20=Lana 1A5F= 1A60=Lana
  1A7D= 1A7F=Lana 1A8A= 1A90=Lana 1A9A= 1AA0=Lana 1AAE= 1AB0=Zinh 1ADE= 1AE0=Zinh 1AEC=
  1B00=Bali 1B4D= 1B4E=Bali 1B80=Sund 1BC0=Batk 1BF4= 1BFC=Batk 1C00=Lepc 1C38= 1C3B=Lepc
  1C4A= 1C4D=Lepc 1C50=Olck 1C80=Cyrl 1C8B= 1C90=Geor 1CBB= 1CBD=Geor 1CC0=Sund 1CC8=
  1CD0=Zinh 1CD3=Zyyy 1CD4=Zinh 1CE1=Zyyy 1CE2=Zinh 1CE9=Zyyy 1CED=Zinh 1CEE=Zyyy 1CF4=Zinh
  1CF5=Zyyy 1CF8=Zinh 1CFA=Zyyy 1CFB= 1D00=Latn 1D26=Grek 1D2B=Cyrl 1D2C=Latn 1D5D=Grek
  1D62=Latn 1D66=Grek 1D6B=Latn 1D78=Cyrl 1D79=Latn 1DBF=Grek 1DC0=Zinh 1E00=Latn 1F00=Grek
  1F16= 1F18=Grek 1F1E= 1F20=Grek 1F46= 1F48=Grek 1F4E= 1F50=Grek 1F58= 1F59=Grek 1F5A=
  1F5B=Grek 1F5C= 1F5D=Grek 1F5E= 1F5F=Grek 1F7E= 1F80=Grek 1FB5= 1FB6=Grek 1FC5= 1FC6=Grek
  1FD4= 1FD6=Grek 1FDC= 1FDD=Grek 1FF0= 1FF2=Grek 1FF5= 1FF6=Grek 1FFF= 2000=Zyyy 200C=Zinh
  200E=Zyyy 2065= 2066=Zyyy 2071=Latn 2072= 2074=Zyyy 207F=Latn 2080=Zyyy 208F= 2090=Latn
  209D= 20A0=Zyyy 20C2= 20D0=Zinh 20F1= 2100=Zyyy 2126=Grek 2127=Zyyy 212A=Latn 212C=Zyyy
  2132=Latn 2133=Zyyy 214E=Latn 214F=Zyyy 2160=Latn 2189=Zyyy 218C= 2190=Zyyy 242A= 2440=Zyyy
  244B= 2460=Zyyy 2800=Brai 2900=Zyyy 2B74= 2B76=Zyyy 2C00=Glag 2C60=Latn 2C80=Copt 2CF4=
  2CF9=Copt 2D00=Geor 2D26= 2D27=Geor 2D28= 2D2D=Geor 2D2E= 2D30=Tfng 2D68= 2D6F=Tfng 2D71=
  2D7F=Tfng 2D80=Ethi 2D97= 2DA0=Ethi 2DA7= 2DA8=Ethi 2DAF= 2DB0=Ethi 2DB7= 2DB8=Ethi 2DBF=
  2DC0=Ethi 2DC7= 2DC8=Ethi 2DCF= 2DD0=Ethi 2DD7= 2DD8=Ethi 2DDF= 2DE0=Cyrl 2E00=Zyyy 2E5E=
  2E80=Hani 2E9A= 2E9B=Hani 2EF4= 2F00=Hani 2FD6= 2FF0=Zyyy 3005=Hani 3006=Zyyy 3007=Hani
  3008=Zyyy 3021=Hani 302A=Zinh 302E=Hang 3030=Zyyy 3038=Hani 303C=Zyyy 3040= 3041=Hira 3097=
  3099=Zinh 309B=Zyyy 309D=Hira 30A0=Zyyy 30A1=Kana 30FB=Zyyy 30FD=Kana 3100= 3105=Bopo 3130=
  3131=Hang 318F= 3190=Zyyy 31A0=Bopo 31C0=Zyyy 31E6= 31EF=Zyyy 31F0=Kana 3200=Hang 321F=
  3220=Zyyy 3260=Hang 327F=Zyyy 32D0=Kana 32FF=Zyyy 3300=Kana 3358=Zyyy 3400=Hani 4DC0=Zyyy
  4E00=Hani A000=Yiii A48D= A490=Yiii A4C7= A4D0=Lisu A500=Vaii A62C= A640=Cyrl A6A0=Bamu
  A6F8= A700=Zyyy A722=Latn A788=Zyyy A78B=Latn A7DD= A7F1=Latn A800=Sylo A82D= A830=Zyyy
  A83A= A840=Phag A878= A880=Saur A8C6= A8CE=Saur A8DA= A8E0=Deva A900=Kali A92E=Zyyy
  A92F=Kali A930=Rjng A954= A95F=Rjng A960=Hang A97D= A980=Java A9CE= A9CF=Zyyy A9D0=Java
  A9DA= A9DE=Java A9E0=Mymr A9FF= AA00=Cham AA37= AA40=Cham AA4E= AA50=Cham AA5A= AA5C=Cham
  AA60=Mymr AA80=Tavt AAC3= AADB=Tavt AAE0=Mtei AAF7= AB01=Ethi AB07= AB09=Ethi AB0F=
  AB11=Ethi AB17= AB20=Ethi AB27= AB28=Ethi AB2F= AB30=Latn AB5B=Zyyy AB5C=Latn AB65=Grek
  AB66=Latn AB6A=Zyyy AB6C= AB70=Cher ABC0=Mtei ABEE= ABF0=Mtei ABFA= AC00=Hang D7A4=
  D7B0=Hang D7C7= D7CB=Hang D7FC= D800= E000= F900=Hani FA6E= FA70=Hani FADA= FB00=Latn FB07=
  FB13=Armn FB18= FB1D=Hebr FB37= FB38=Hebr FB3D= FB3E=Hebr FB3F= FB40=Hebr FB42= FB43=Hebr
  FB45= FB46=Hebr FB50=Arab FD3E=Zyyy FD40=Arab FDD0= FDF0=Arab FE00=Zinh FE10=Zyyy FE1A=
  FE20=Zinh FE2E=Cyrl FE30=Zyyy FE53= FE54=Zyyy FE67= FE68=Zyyy FE6C= FE70=Arab FE75=
  FE76=Arab FEFD= FEFF=Zyyy FF00= FF01=Zyyy FF21=Latn FF3B=Zyyy FF41=Latn FF5B=Zyyy FF66=Kana
  FF70=Zyyy FF71=Kana FF9E=Zyyy FFA0=Hang FFBF= FFC2=Hang FFC8= FFCA=Hang FFD0= FFD2=Hang
  FFD8= FFDA=Hang FFDD= FFE0=Zyyy FFE7= FFE8=Zyyy FFEF= FFF9=Zyyy FFFE= 10000=Linb 1000C=
  1000D=Linb 10027= 10028=Linb 1003B= 1003C=Linb 1003E= 1003F=Linb 1004E= 10050=Linb 1005E=
  10080=Linb 100FB= 10100=Zyyy 10103= 10107=Zyyy 10134= 10137=Zyyy 10140=Grek 1018F=
  10190=Zyyy 1019D= 101A0=Grek 101A1= 101D0=Zyyy 101FD=Zinh 101FE= 10280=Lyci 1029D=
  102A0=Cari 102D1= 102E0=Zinh 102E1=Zyyy 102FC= 10300=Ital 10324= 1032D=Ital 10330=Goth
  1034B= 10350=Perm 1037B= 10380=Ugar 1039E= 1039F=Ugar 103A0=Xpeo 103C4= 103C8=Xpeo 103D6=
  10400=Dsrt 10450=Shaw 10480=Osma 1049E= 104A0=Osma 104AA= 104B0=Osge 104D4= 104D8=Osge
  104FC= 10500=Elba 10528= 10530=Aghb 10564= 1056F=Aghb 10570=Vith 1057B= 1057C=Vith 1058B=
  1058C=Vith 10593= 10594=Vith 10596= 10597=Vith 105A2= 105A3=Vith 105B2= 105B3=Vith 105BA=
  105BB=Vith 105BD= 105C0=Todr 105F4= 10600=Lina 10737= 10740=Lina 10756= 10760=Lina 10768=
  10780=Latn 10786= 10787=Latn 107B1= 107B2=Latn 107BB= 10800=Cprt 10806= 10808=Cprt 10809=
  1080A=Cprt 10836= 10837=Cprt 10839= 1083C=Cprt 1083D= 1083F=Cprt 10840=Armi 10856=
  10857=Armi 10860=Palm 10880=Nbat 1089F= 108A7=Nbat 108B0= 108E0=Hatr 108F3= 108F4=Hatr
  108F6= 108FB=Hatr 10900=Phnx 1091C= 1091F=Phnx 10920=Lydi 1093A= 1093F=Lydi 10940=Sidt
  1095A= 10980=Mero 109A0=Merc 109B8= 109BC=Merc 109D0= 109D2=Merc 10A00=Khar 10A04=
  10A05=Khar 10A07= 10A0C=Khar 10A14= 10A15=Khar 10A18= 10A19=Khar 10A36= 10A38=Khar 10A3B=
  10A3F=Khar 10A49= 10A50=Khar 10A59= 10A60=Sarb 10A80=Narb 10AA0= 10AC0=Mani 10AE7=
  10AEB=Mani 10AF7= 10B00=Avst 10B36= 10B39=Avst 10B40=Prti 10B56= 10B58=Prti 10B60=Phli
  10B73= 10B78=Phli 10B80=Phlp 10B92= 10B99=Phlp 10B9D= 10BA9=Phlp 10BB0= 10C00=Orkh 10C49=
  10C80=Hung 10CB3= 10CC0=Hung 10CF3= 10CFA=Hung 10D00=Rohg 10D28= 10D30=Rohg 10D3A=
  10D40=Gara 10D66= 10D69=Gara 10D86= 10D8E=Gara 10D90= 10E60=Arab 10E7F= 10E80=Yezi 10EAA=
  10EAB=Yezi 10EAE= 10EB0=Yezi 10EB2= 10EC2=Arab 10EC8= 10ED0=Arab 10ED9= 10EFA=Arab
  10F00=Sogo 10F28= 10F30=Sogd 10F5A= 10F70=Ougr 10F8A= 10FB0=Chrs 10FCC= 10FE0=Elym 10FF7=
  11000=Brah 1104E= 11052=Brah 11076= 1107F=Brah 11080=Kthi 110C3= 110CD=Kthi 110CE=
  110D0=Sora 110E9= 110F0=Sora 110FA= 11100=Cakm 11135= 11136=Cakm 11148= 11150=Mahj 11177=
  11180=Shrd 111E0= 111E1=Sinh 111F5= 11200=Khoj 11212= 11213=Khoj 11242= 11280=Mult 11287=
  11288=Mult 11289= 1128A=Mult 1128E= 1128F=Mult 1129E= 1129F=Mult 112AA= 112B0=Sind 112EB=
  112F0=Sind 112FA= 11300=Gran 11304= 11305=Gran 1130D= 1130F=Gran 11311= 11313=Gran 11329=
  1132A=Gran 11331= 11332=Gran 11334= 11335=Gran 1133A= 1133B=Zinh 1133C=Gran 11345=
  11347=Gran 11349= 1134B=Gran 1134E= 11350=Gran 11351= 11357=Gran 11358= 1135D=Gran 11364=
  11366=Gran 1136D= 11370=Gran 11375= 11380=Tutg 1138A= 1138B=Tutg 1138C= 1138E=Tutg 1138F=
  11390=Tutg 113B6= 113B7=Tutg 113C1= 113C2=Tutg 113C3= 113C5=Tutg 113C6= 113C7=Tutg 113CB=
  113CC=Tutg 113D6= 113D7=Tutg 113D9= 113E1=Tutg 113E3= 11400=Newa 1145C= 1145D=Newa 11462=
  11480=Tirh 114C8= 114D0=Tirh 114DA= 11580=Sidd 115B6= 115B8=Sidd 115DE= 11600=Modi 11645=
  11650=Modi 1165A= 11660=Mong 1166D= 11680=Takr 116BA= 116C0=Takr 116CA= 116D0=Mymr 116E4=
  11700=Ahom 1171B= 1171D=Ahom 1172C= 11730=Ahom 11747= 11800=Dogr 1183C= 118A0=Wara 118F3=
  118FF=Wara 11900=Diak 11907= 11909=Diak 1190A= 1190C=Diak 11914= 11915=Diak 11917=
  11918=Diak 11936= 11937=Diak 11939= 1193B=Diak 11947= 11950=Diak 1195A= 119A0=Nand 119A8=
  119AA=Nand 119D8= 119DA=Nand 119E5= 11A00=Zanb 11A48= 11A50=Soyo 11AA3= 11AB0=Cans
  11AC0=Pauc 11AF9= 11B00=Deva 11B0A= 11B60=Shrd 11B68= 11BC0=Sunu 11BE2= 11BF0=Sunu 11BFA=
  11C00=Bhks 11C09= 11C0A=Bhks 11C37= 11C38=Bhks 11C46= 11C50=Bhks 11C6D= 11C70=Marc 11C90=
  11C92=Marc 11CA8= 11CA9=Marc 11CB7= 11D00=Gonm 11D07= 11D08=Gonm 11D0A= 11D0B=Gonm 11D37=
  11D3A=Gonm 11D3B= 11D3C=Gonm 11D3E= 11D3F=Gonm 11D48= 11D50=Gonm 11D5A= 11D60=Gong 11D66=
  11D67=Gong 11D69= 11D6A=Gong 11D8F= 11D90=Gong 11D92= 11D93=Gong 11D99= 11DA0=Gong 11DAA=
  11DB0=Tols 11DDC= 11DE0=Tols 11DEA= 11EE0=Maka 11EF9= 11F00=Kawi 11F11= 11F12=Kawi 11F3B=
  11F3E=Kawi 11F5B= 11FB0=Lisu 11FB1= 11FC0=Taml 11FF2= 11FFF=Taml 12000=Xsux 1239A=
  12400=Xsux 1246F= 12470=Xsux 12475= 12480=Xsux 12544= 12F90=Cpmn 12FF3= 13000=Egyp 13456=
  13460=Egyp 143FB= 14400=Hluw 14647= 16100=Gukh 1613A= 16800=Bamu 16A39= 16A40=Mroo 16A5F=
  16A60=Mroo 16A6A= 16A6E=Mroo 16A70=Tnsa 16ABF= 16AC0=Tnsa 16ACA= 16AD0=Bass 16AEE=
  16AF0=Bass 16AF6= 16B00=Hmng 16B46= 16B50=Hmng 16B5A= 16B5B=Hmng 16B62= 16B63=Hmng 16B78=
  16B7D=Hmng 16B90= 16D40=Krai 16D7A= 16E40=Medf 16E9B= 16EA0=Berf 16EB9= 16EBB=Berf 16ED4=
  16F00=Plrd 16F4B= 16F4F=Plrd 16F88= 16F8F=Plrd 16FA0= 16FE0=Tang 16FE1=Nshu 16FE2=Hani
  16FE4=Kits 16FE5= 16FF0=Hani 16FF7= 17000=Tang 18B00=Kits 18CD6= 18CFF=Kits 18D00=Tang
  18D1F= 18D80=Tang 18DF3= 1AFF0=Kana 1AFF4= 1AFF5=Kana 1AFFC= 1AFFD=Kana 1AFFF= 1B000=Kana
  1B001=Hira 1B120=Kana 1B123= 1B132=Hira 1B133= 1B150=Hira 1B153= 1B155=Kana 1B156=
  1B164=Kana 1B168= 1B170=Nshu 1B2FC= 1BC00=Dupl 1BC6B= 1BC70=Dupl 1BC7D= 1BC80=Dupl 1BC89=
  1BC90=Dupl 1BC9A= 1BC9C=Dupl 1BCA0=Zyyy 1BCA4= 1CC00=Zyyy 1CCFD= 1CD00=Zyyy 1CEB4=
  1CEBA=Zyyy 1CED1= 1CEE0=Zyyy 1CEF1= 1CF00=Zinh 1CF2E= 1CF30=Zinh 1CF47= 1CF50=Zyyy 1CFC4=
  1D000=Zyyy 1D0F6= 1D100=Zyyy 1D127= 1D129=Zyyy 1D167=Zinh 1D16A=Zyyy 1D17B=Zinh 1D183=Zyyy
  1D185=Zinh 1D18C=Zyyy 1D1AA=Zinh 1D1AE=Zyyy 1D1EB= 1D200=Grek 1D246= 1D2C0=Zyyy 1D2D4=
  1D2E0=Zyyy 1D2F4= 1D300=Zyyy 1D357= 1D360=Zyyy 1D379= 1D400=Zyyy 1D455= 1D456=Zyyy 1D49D=
  1D49E=Zyyy 1D4A0= 1D4A2=Zyyy 1D4A3= 1D4A5=Zyyy 1D4A7= 1D4A9=Zyyy 1D4AD= 1D4AE=Zyyy 1D4BA=
  1D4BB=Zyyy 1D4BC= 1D4BD=Zyyy 1D4C4= 1D4C5=Zyyy 1D506= 1D507=Zyyy 1D50B= 1D50D=Zyyy 1D515=
  1D516=Zyyy 1D51D= 1D51E=Zyyy 1D53A= 1D53B=Zyyy 1D53F= 1D540=Zyyy 1D545= 1D546=Zyyy 1D547=
  1D54A=Zyyy 1D551= 1D552=Zyyy 1D6A6= 1D6A8=Zyyy 1D7CC= 1D7CE=Zyyy 1D800=Sgnw 1DA8C=
  1DA9B=Sgnw 1DAA0= 1DAA1=Sgnw 1DAB0= 1DF00=Latn 1DF1F= 1DF25=Latn 1DF2B= 1E000=Glag 1E007=
  1E008=Glag 1E019= 1E01B=Glag 1E022= 1E023=Glag 1E025= 1E026=Glag 1E02B= 1E030=Cyrl 1E06E=
  1E08F=Cyrl 1E090= 1E100=Hmnp 1E12D= 1E130=Hmnp 1E13E= 1E140=Hmnp 1E14A= 1E14E=Hmnp 1E150=
  1E290=Toto 1E2AF= 1E2C0=Wcho 1E2FA= 1E2FF=Wcho 1E300= 1E4D0=Nagm 1E4FA= 1E5D0=Onao 1E5FB=
  1E5FF=Onao 1E600= 1E6C0=Tayo 1E6DF= 1E6E0=Tayo 1E6F6= 1E6FE=Tayo 1E700= 1E7E0=Ethi 1E7E7=
  1E7E8=Ethi 1E7EC= 1E7ED=Ethi 1E7EF= 1E7F0=Ethi 1E7FF= 1E800=Mend 1E8C5= 1E8C7=Mend 1E8D7=
  1E900=Adlm 1E94C= 1E950=Adlm 1E95A= 1E95E=Adlm 1E960= 1EC71=Zyyy 1ECB5= 1ED01=Zyyy 1ED3E=
  1EE00=Arab 1EE04= 1EE05=Arab 1EE20= 1EE21=Arab 1EE23= 1EE24=Arab 1EE25= 1EE27=Arab 1EE28=
  1EE29=Arab 1EE33= 1EE34=Arab 1EE38= 1EE39=Arab 1EE3A= 1EE3B=Arab 1EE3C= 1EE42=Arab 1EE43=
  1EE47=Arab 1EE48= 1EE49=Arab 1EE4A= 1EE4B=Arab 1EE4C= 1EE4D=Arab 1EE50= 1EE51=Arab 1EE53=
  1EE54=Arab 1EE55= 1EE57=Arab 1EE58= 1EE59=Arab 1EE5A= 1EE5B=Arab 1EE5C= 1EE5D=Arab 1EE5E=
  1EE5F=Arab 1EE60= 1EE61=Arab 1EE63= 1EE64=Arab 1EE65= 1EE67=Arab 1EE6B= 1EE6C=Arab 1EE73=
  1EE74=Arab 1EE78= 1EE79=Arab 1EE7D= 1EE7E=Arab 1EE7F= 1EE80=Arab 1EE8A= 1EE8B=Arab 1EE9C=
  1EEA1=Arab 1EEA4= 1EEA5=Arab 1EEAA= 1EEAB=Arab 1EEBC= 1EEF0=Arab 1EEF2= 1F000=Zyyy 1F02C=
  1F030=Zyyy 1F094= 1F0A0=Zyyy 1F0AF= 1F0B1=Zyyy 1F0C0= 1F0C1=Zyyy 1F0D0= 1F0D1=Zyyy 1F0F6=
  1F100=Zyyy 1F1AE= 1F1E6=Zyyy 1F200=Hira 1F201=Zyyy 1F203= 1F210=Zyyy 1F23C= 1F240=Zyyy
  1F249= 1F250=Zyyy 1F252= 1F260=Zyyy 1F266= 1F300=Zyyy 1F6D9= 1F6DC=Zyyy 1F6ED= 1F6F0=Zyyy
  1F6FD= 1F700=Zyyy 1F7DA= 1F7E0=Zyyy 1F7EC= 1F7F0=Zyyy 1F7F1= 1F800=Zyyy 1F80C= 1F810=Zyyy
  1F848= 1F850=Zyyy 1F85A= 1F860=Zyyy 1F888= 1F890=Zyyy 1F8AE= 1F8B0=Zyyy 1F8BC= 1F8C0=Zyyy
  1F8C2= 1F8D0=Zyyy 1F8D9= 1F900=Zyyy 1FA58= 1FA60=Zyyy 1FA6E= 1FA70=Zyyy 1FA7D= 1FA80=Zyyy
  1FA8B= 1FA8E=Zyyy 1FAC7= 1FAC8=Zyyy 1FAC9= 1FACD=Zyyy 1FADD= 1FADF=Zyyy 1FAEB= 1FAEF=Zyyy
  1FAF9= 1FB00=Zyyy 1FB93= 1FB94=Zyyy 1FBFB= 20000=Hani 2A6E0= 2A700=Hani 2B81E= 2B820=Hani
  2CEAE= 2CEB0=Hani 2EBE1= 2EBF0=Hani 2EE5E= 2F800=Hani 2FA1E= 30000=Hani 3134B= 31350=Hani
  3347A= E0001=Zyyy E0002= E0020=Zyyy E0080= E0100=Zinh E01F0="

/-- Where each run of characters with the same script extensions starts. -/
def scriptExtensionTable : CodeLabels := CodeLabels.ofText
  "0=Zyyy 41=Latn 5B=Zyyy 61=Latn 7B=Zyyy AA=Latn AB=Zyyy
  B7=Avst+Cari+Copt+Dupl+Elba+Geor+Glag+Gong+Goth+Grek+Hani+Latn+Lydi+Mahj+Perm+Shaw B8=Zyyy
  BA=Latn BB=Zyyy C0=Latn D7=Zyyy D8=Latn F7=Zyyy F8=Latn 2B9=Zyyy
  2BC=Beng+Cyrl+Deva+Latn+Lisu+Thai+Toto 2BD=Zyyy 2C7=Bopo+Latn 2C8=Zyyy 2C9=Bopo+Latn
  2CC=Zyyy 2CD=Latn+Lisu 2CE=Zyyy 2D7=Latn+Thai 2D8=Zyyy 2D9=Bopo+Latn 2DA=Zyyy 2E0=Latn
  2E5=Zyyy 2EA=Bopo 2EC=Zyyy 300=Cher+Copt+Cyrl+Grek+Latn+Perm+Tale+Sunu
  301=Cher+Cyrl+Grek+Latn+Osge+Tale+Sunu+Todr 302=Cher+Cyrl+Latn+Tfng
  303=Glag+Latn+Syrc+Thai+Sunu 304=Aghb+Cher+Copt+Cyrl+Goth+Grek+Latn+Osge+Syrc+Tfng+Todr
  305=Copt+Elba+Glag+Goth+Kana+Latn 306=Cyrl+Grek+Latn+Perm+Tfng
  307=Copt+Dupl+Hebr+Latn+Perm+Syrc+Tale+Tfng+Todr
  308=Armn+Cyrl+Dupl+Goth+Grek+Hebr+Latn+Perm+Syrc+Tale+Tfng 309=Latn+Tfng 30A=Dupl+Latn+Syrc
  30B=Cher+Cyrl+Latn+Osge 30C=Cher+Latn+Tale 30D=Latn+Sunu 30E=Ethi+Latn 30F=Zinh
  310=Latn+Sunu 311=Cyrl+Latn+Todr 312=Zinh 313=Grek+Latn+Perm+Todr 314=Zinh
  323=Cher+Dupl+Kana+Latn+Syrc+Tfng 324=Cher+Dupl+Latn+Syrc 325=Latn+Syrc 326=Zinh
  32D=Latn+Syrc+Sunu 32E=Latn+Syrc 32F=Zinh 330=Cher+Latn+Syrc
  331=Aghb+Cher+Goth+Latn+Syrc+Thai+Sunu 332=Zinh 342=Grek 343=Zinh 345=Grek 346=Zinh
  358=Latn+Osge 359=Zinh 35E=Aghb+Latn+Todr 35F=Zinh 363=Latn 370=Grek 374=Copt+Grek 376=Grek
  378= 37A=Grek 37E=Zyyy 37F=Grek 380= 384=Grek 385=Zyyy 386=Grek 387=Zyyy 388=Grek 38B=
  38C=Grek 38D= 38E=Grek 3A2= 3A3=Grek 3E2=Copt 3F0=Grek 400=Cyrl 483=Cyrl+Perm 484=Cyrl+Glag
  485=Cyrl+Latn 487=Cyrl+Glag 488=Cyrl 530= 531=Armn 557= 559=Armn 589=Armn+Geor+Glag 58A=Armn
  58B= 58D=Armn 590= 591=Hebr 5C8= 5D0=Hebr 5EB= 5EF=Hebr 5F5= 600=Arab 605=Zyyy 606=Arab
  60C=Arab+Nkoo+Rohg+Syrc+Thaa+Yezi+Gara 60D=Arab 61B=Arab+Nkoo+Rohg+Syrc+Thaa+Yezi+Gara
  61C=Arab+Syrc+Thaa 61D=Arab 61F=Adlm+Arab+Nkoo+Rohg+Syrc+Thaa+Yezi+Gara 620=Arab
  640=Adlm+Arab+Mand+Mani+Ougr+Phlp+Rohg+Sogd+Syrc 641=Arab 64B=Arab+Syrc 656=Arab
  660=Arab+Thaa+Yezi 66A=Arab 670=Arab+Syrc 671=Arab 6D4=Arab+Rohg 6D5=Arab 6DD=Zyyy 6DE=Arab
  700=Syrc 70E= 70F=Syrc 74B= 74D=Syrc 750=Arab 780=Thaa 7B2= 7C0=Nkoo 7FB= 7FD=Nkoo 800=Samr
  82E= 830=Samr 83F= 840=Mand 85C= 85E=Mand 85F= 860=Syrc 86B= 870=Arab 892= 897=Arab 8E2=Zyyy
  8E3=Arab 900=Deva
  951=Beng+Deva+Gran+Gujr+Guru+Knda+Latn+Mlym+Nand+Newa+Orya+Shrd+Taml+Telu+Tirh
  952=Beng+Deva+Gran+Gujr+Guru+Knda+Latn+Mlym+Newa+Orya+Taml+Telu+Tirh 953=Zinh 955=Deva
  964=Beng+Deva+Dogr+Gong+Gonm+Gran+Gujr+Guru+Knda+Mahj+Mlym+Nand+Orya+Sind+Sinh+Sylo+Takr+Taml+Telu+Tirh+Onao
  965=Beng+Deva+Dogr+Gong+Gonm+Gran+Gujr+Guru+Knda+Limb+Mahj+Mlym+Nand+Orya+Sind+Sinh+Sylo+Takr+Taml+Telu+Tirh+Gukh+Onao
  966=Deva+Dogr+Kthi+Mahj 970=Deva 980=Beng 984= 985=Beng 98D= 98F=Beng 991= 993=Beng 9A9=
  9AA=Beng 9B1= 9B2=Beng 9B3= 9B6=Beng 9BA= 9BC=Beng 9C5= 9C7=Beng 9C9= 9CB=Beng 9CF= 9D7=Beng
  9D8= 9DC=Beng 9DE= 9DF=Beng 9E4= 9E6=Beng+Cakm+Sylo 9F0=Beng 9FF= A01=Guru A04= A05=Guru
  A0B= A0F=Guru A11= A13=Guru A29= A2A=Guru A31= A32=Guru A34= A35=Guru A37= A38=Guru A3A=
  A3C=Guru A3D= A3E=Guru A43= A47=Guru A49= A4B=Guru A4E= A51=Guru A52= A59=Guru A5D= A5E=Guru
  A5F= A66=Guru+Mult A70=Guru A77= A81=Gujr A84= A85=Gujr A8E= A8F=Gujr A92= A93=Gujr AA9=
  AAA=Gujr AB1= AB2=Gujr AB4= AB5=Gujr ABA= ABC=Gujr AC6= AC7=Gujr ACA= ACB=Gujr ACE= AD0=Gujr
  AD1= AE0=Gujr AE4= AE6=Gujr+Khoj AF0=Gujr AF2= AF9=Gujr B00= B01=Orya B04= B05=Orya B0D=
  B0F=Orya B11= B13=Orya B29= B2A=Orya B31= B32=Orya B34= B35=Orya B3A= B3C=Orya B45= B47=Orya
  B49= B4B=Orya B4E= B55=Orya B58= B5C=Orya B5E= B5F=Orya B64= B66=Orya B78= B82=Taml B84=
  B85=Taml B8B= B8E=Taml B91= B92=Taml B96= B99=Taml B9B= B9C=Taml B9D= B9E=Taml BA0= BA3=Taml
  BA5= BA8=Taml BAB= BAE=Taml BBA= BBE=Taml BC3= BC6=Taml BC9= BCA=Taml BCE= BD0=Taml BD1=
  BD7=Taml BD8= BE6=Gran+Taml BF4=Taml BFB= C00=Telu C0D= C0E=Telu C11= C12=Telu C29= C2A=Telu
  C3A= C3C=Telu C45= C46=Telu C49= C4A=Telu C4E= C55=Telu C57= C58=Telu C5B= C5C=Telu C5E=
  C60=Telu C64= C66=Telu C70= C77=Telu C80=Knda C8D= C8E=Knda C91= C92=Knda CA9= CAA=Knda CB4=
  CB5=Knda CBA= CBC=Knda CC5= CC6=Knda CC9= CCA=Knda CCE= CD5=Knda CD7= CDC=Knda CDF= CE0=Knda
  CE4= CE6=Knda+Nand+Tutg CF0= CF1=Knda CF4= D00=Mlym D0D= D0E=Mlym D11= D12=Mlym D45=
  D46=Mlym D49= D4A=Mlym D50= D54=Mlym D64= D66=Mlym D80= D81=Sinh D84= D85=Sinh D97= D9A=Sinh
  DB2= DB3=Sinh DBC= DBD=Sinh DBE= DC0=Sinh DC7= DCA=Sinh DCB= DCF=Sinh DD5= DD6=Sinh DD7=
  DD8=Sinh DE0= DE6=Sinh DF0= DF2=Sinh DF5= E01=Thai E3B= E3F=Zyyy E40=Thai E5C= E81=Laoo E83=
  E84=Laoo E85= E86=Laoo E8B= E8C=Laoo EA4= EA5=Laoo EA6= EA7=Laoo EBE= EC0=Laoo EC5= EC6=Laoo
  EC7= EC8=Laoo ECF= ED0=Laoo EDA= EDC=Laoo EE0= F00=Tibt F48= F49=Tibt F6D= F71=Tibt F98=
  F99=Tibt FBD= FBE=Tibt FCD= FCE=Tibt FD5=Zyyy FD9=Tibt FDB= 1000=Mymr 1040=Cakm+Mymr+Tale
  104A=Mymr 10A0=Geor 10C6= 10C7=Geor 10C8= 10CD=Geor 10CE= 10D0=Geor 10FB=Geor+Glag+Latn
  10FC=Geor 1100=Hang 1200=Ethi 1249= 124A=Ethi 124E= 1250=Ethi 1257= 1258=Ethi 1259=
  125A=Ethi 125E= 1260=Ethi 1289= 128A=Ethi 128E= 1290=Ethi 12B1= 12B2=Ethi 12B6= 12B8=Ethi
  12BF= 12C0=Ethi 12C1= 12C2=Ethi 12C6= 12C8=Ethi 12D7= 12D8=Ethi 1311= 1312=Ethi 1316=
  1318=Ethi 135B= 135D=Ethi 137D= 1380=Ethi 139A= 13A0=Cher 13F6= 13F8=Cher 13FE= 1400=Cans
  1680=Ogam 169D= 16A0=Runr 16F9= 1700=Tglg 1716= 171F=Tglg 1720=Hano 1735=Buhd+Hano+Tagb+Tglg
  1737= 1740=Buhd 1754= 1760=Tagb 176D= 176E=Tagb 1771= 1772=Tagb 1774= 1780=Khmr 17DE=
  17E0=Khmr 17EA= 17F0=Khmr 17FA= 1800=Mong 1802=Mong+Phag 1804=Mong 1805=Mong+Phag 1806=Mong
  181A= 1820=Mong 1879= 1880=Mong 18AB= 18B0=Cans 18F6= 1900=Limb 191F= 1920=Limb 192C=
  1930=Limb 193C= 1940=Limb 1941= 1944=Limb 1950=Tale 196E= 1970=Tale 1975= 1980=Talu 19AC=
  19B0=Talu 19CA= 19D0=Talu 19DB= 19DE=Talu 19E0=Khmr 1A00=Bugi 1A1C= 1A1E=Bugi 1A20=Lana
  1A5F= 1A60=Lana 1A7D= 1A7F=Lana 1A8A= 1A90=Lana 1A9A= 1AA0=Lana 1AAE= 1AB0=Zinh 1ADE=
  1AE0=Zinh 1AEC= 1B00=Bali 1B4D= 1B4E=Bali 1B80=Sund 1BC0=Batk 1BF4= 1BFC=Batk 1C00=Lepc
  1C38= 1C3B=Lepc 1C4A= 1C4D=Lepc 1C50=Olck 1C80=Cyrl 1C8B= 1C90=Geor 1CBB= 1CBD=Geor
  1CC0=Sund 1CC8= 1CD0=Beng+Deva+Gran+Knda 1CD1=Deva 1CD2=Beng+Deva+Gran+Knda
  1CD3=Deva+Gran+Knda 1CD4=Deva 1CD5=Beng+Deva+Newa+Telu+Tirh 1CD6=Beng+Deva+Telu
  1CD7=Deva+Newa+Shrd 1CD8=Beng+Deva+Newa+Telu 1CD9=Deva+Shrd
  1CDA=Deva+Knda+Mlym+Orya+Taml+Telu 1CDB=Deva 1CDC=Deva+Shrd 1CDE=Deva 1CE0=Deva+Shrd
  1CE1=Beng+Deva 1CE2=Deva+Newa+Tirh 1CE3=Deva 1CE9=Deva+Nand+Newa 1CEA=Beng+Deva+Shrd
  1CEB=Deva+Newa 1CEC=Deva 1CED=Beng+Deva+Newa+Shrd 1CEE=Deva
  1CF2=Beng+Deva+Gran+Knda+Mlym+Nand+Orya+Sinh+Telu+Tirh+Tutg 1CF3=Deva+Gran
  1CF4=Deva+Gran+Knda+Tutg 1CF5=Beng+Deva 1CF7=Beng 1CF8=Deva+Gran 1CFA=Nand 1CFB= 1D00=Latn
  1D26=Grek 1D2B=Cyrl 1D2C=Latn 1D5D=Grek 1D62=Latn 1D66=Grek 1D6B=Latn 1D78=Cyrl 1D79=Latn
  1DBF=Grek 1DC2=Zinh 1DF8=Cyrl+Latn+Syrc 1DF9=Zinh 1DFA=Syrc 1DFB=Zinh 1E00=Latn 1F00=Grek
  1F16= 1F18=Grek 1F1E= 1F20=Grek 1F46= 1F48=Grek 1F4E= 1F50=Grek 1F58= 1F59=Grek 1F5A=
  1F5B=Grek 1F5C= 1F5D=Grek 1F5E= 1F5F=Grek 1F7E= 1F80=Grek 1FB5= 1FB6=Grek 1FC5= 1FC6=Grek
  1FD4= 1FD6=Grek 1FDC= 1FDD=Grek 1FF0= 1FF2=Grek 1FF5= 1FF6=Grek 1FFF= 2000=Zyyy 200C=Zinh
  200E=Zyyy 202F=Latn+Mong+Phag 2030=Zyyy 204F=Adlm+Arab 2050=Zyyy
  205A=Cari+Geor+Glag+Hung+Lyci+Orkh 205B=Zyyy 205D=Cari+Grek+Hung+Mero 205E=Zyyy 2065=
  2066=Zyyy 2071=Latn 2072= 2074=Zyyy 207F=Latn 2080=Zyyy 208F= 2090=Latn 209D= 20A0=Zyyy
  20C2= 20D0=Zinh 20F0=Deva+Gran+Latn 20F1= 2100=Zyyy 2126=Grek 2127=Zyyy 212A=Latn 212C=Zyyy
  2132=Latn 2133=Zyyy 214E=Latn 214F=Zyyy 2160=Latn 2189=Zyyy 218C= 2190=Zyyy 242A= 2440=Zyyy
  244B= 2460=Zyyy 2800=Brai 2900=Zyyy 2B74= 2B76=Zyyy 2C00=Glag 2C60=Latn 2C80=Copt 2CF4=
  2CF9=Copt 2D00=Geor 2D26= 2D27=Geor 2D28= 2D2D=Geor 2D2E= 2D30=Tfng 2D68= 2D6F=Tfng 2D71=
  2D7F=Tfng 2D80=Ethi 2D97= 2DA0=Ethi 2DA7= 2DA8=Ethi 2DAF= 2DB0=Ethi 2DB7= 2DB8=Ethi 2DBF=
  2DC0=Ethi 2DC7= 2DC8=Ethi 2DCF= 2DD0=Ethi 2DD7= 2DD8=Ethi 2DDF= 2DE0=Cyrl 2E00=Zyyy
  2E17=Copt+Latn 2E18=Zyyy 2E30=Avst+Orkh 2E31=Avst+Cari+Geor+Hung+Kthi+Lydi+Samr 2E32=Zyyy
  2E3C=Dupl 2E3D=Zyyy 2E41=Adlm+Arab+Hung 2E42=Zyyy 2E43=Cyrl+Glag 2E44=Zyyy 2E5E= 2E80=Hani
  2E9A= 2E9B=Hani 2EF4= 2F00=Hani 2FD6= 2FF0=Hani+Tang 3000=Zyyy
  3001=Bopo+Hang+Hani+Hira+Kana+Mong+Yiii 3002=Bopo+Hang+Hani+Hira+Kana+Mong+Phag+Yiii
  3003=Bopo+Hang+Hani+Hira+Kana 3004=Zyyy 3005=Hani
  3008=Bopo+Hang+Hani+Hira+Kana+Mong+Tibt+Yiii
  300A=Bopo+Hang+Hani+Hira+Kana+Lisu+Mong+Tibt+Yiii 300C=Bopo+Hang+Hani+Hira+Kana+Yiii
  3012=Zyyy 3013=Bopo+Hang+Hani+Hira+Kana 3014=Bopo+Hang+Hani+Hira+Kana+Yiii
  301C=Bopo+Hang+Hani+Hira+Kana 3020=Zyyy 3021=Hani 302A=Bopo+Hani 302E=Hang
  3030=Bopo+Hang+Hani+Hira+Kana 3031=Hira+Kana 3036=Zyyy 3037=Bopo+Hang+Hani+Hira+Kana
  3038=Hani 303C=Hani+Hira+Kana 303E=Hani 3040= 3041=Hira 3097= 3099=Hira+Kana 309D=Hira
  30A0=Hira+Kana 30A1=Kana 30FB=Bopo+Hang+Hani+Hira+Kana+Yiii 30FC=Hira+Kana 30FD=Kana 3100=
  3105=Bopo 3130= 3131=Hang 318F= 3190=Hani 31A0=Bopo 31C0=Hani 31E6= 31EF=Hani+Tang 31F0=Kana
  3200=Hang 321F= 3220=Hani 3248=Zyyy 3260=Hang 327F=Zyyy 3280=Hani 32B1=Zyyy 32C0=Hani
  32CC=Zyyy 32D0=Kana 32FF=Hani 3300=Kana 3358=Hani 3371=Zyyy 337B=Hani 3380=Zyyy 33E0=Hani
  33FF=Zyyy 3400=Hani 4DC0=Zyyy 4E00=Hani A000=Yiii A48D= A490=Yiii A4C7= A4D0=Lisu A500=Vaii
  A62C= A640=Cyrl A66F=Cyrl+Glag A670=Cyrl A6A0=Bamu A6F8= A700=Hani+Latn A708=Zyyy A722=Latn
  A788=Zyyy A78B=Latn A7DD= A7F1=Latn A800=Sylo A82D=
  A830=Deva+Dogr+Gujr+Guru+Khoj+Knda+Kthi+Mahj+Mlym+Modi+Nand+Shrd+Sind+Takr+Tirh+Tutg
  A833=Deva+Dogr+Gujr+Guru+Khoj+Knda+Kthi+Mahj+Modi+Nand+Shrd+Sind+Takr+Tirh+Tutg
  A836=Deva+Dogr+Gujr+Guru+Khoj+Kthi+Mahj+Modi+Sind+Takr+Tirh
  A838=Deva+Dogr+Gujr+Guru+Khoj+Kthi+Mahj+Modi+Shrd+Sind+Takr+Tirh
  A839=Deva+Dogr+Gujr+Guru+Khoj+Kthi+Mahj+Modi+Sind+Takr+Tirh A83A= A840=Phag A878= A880=Saur
  A8C6= A8CE=Saur A8DA= A8E0=Deva A8F1=Beng+Deva+Tutg A8F2=Deva A8F3=Deva+Taml A8F4=Deva
  A900=Kali A92E=Kali+Latn+Mymr A92F=Kali A930=Rjng A954= A95F=Rjng A960=Hang A97D= A980=Java
  A9CE= A9CF=Bugi+Java A9D0=Java A9DA= A9DE=Java A9E0=Mymr A9FF= AA00=Cham AA37= AA40=Cham
  AA4E= AA50=Cham AA5A= AA5C=Cham AA60=Mymr AA80=Tavt AAC3= AADB=Tavt AAE0=Mtei AAF7=
  AB01=Ethi AB07= AB09=Ethi AB0F= AB11=Ethi AB17= AB20=Ethi AB27= AB28=Ethi AB2F= AB30=Latn
  AB5B=Zyyy AB5C=Latn AB65=Grek AB66=Latn AB6A=Zyyy AB6C= AB70=Cher ABC0=Mtei ABEE= ABF0=Mtei
  ABFA= AC00=Hang D7A4= D7B0=Hang D7C7= D7CB=Hang D7FC= D800= E000= F900=Hani FA6E= FA70=Hani
  FADA= FB00=Latn FB07= FB13=Armn FB18= FB1D=Hebr FB37= FB38=Hebr FB3D= FB3E=Hebr FB3F=
  FB40=Hebr FB42= FB43=Hebr FB45= FB46=Hebr FB50=Arab FD3E=Arab+Nkoo FD40=Arab FDD0= FDF0=Arab
  FDF2=Arab+Thaa FDF3=Arab FDFD=Arab+Thaa FDFE=Arab FE00=Zinh FE10=Zyyy FE1A= FE20=Zinh
  FE2E=Cyrl FE30=Zyyy FE45=Bopo+Hang+Hani+Hira+Kana FE47=Zyyy FE53= FE54=Zyyy FE67= FE68=Zyyy
  FE6C= FE70=Arab FE75= FE76=Arab FEFD= FEFF=Zyyy FF00= FF01=Zyyy FF21=Latn FF3B=Zyyy
  FF41=Latn FF5B=Zyyy FF61=Bopo+Hang+Hani+Hira+Kana+Yiii FF66=Kana FF70=Hira+Kana FF71=Kana
  FF9E=Hira+Kana FFA0=Hang FFBF= FFC2=Hang FFC8= FFCA=Hang FFD0= FFD2=Hang FFD8= FFDA=Hang
  FFDD= FFE0=Zyyy FFE7= FFE8=Zyyy FFEF= FFF9=Zyyy FFFE= 10000=Linb 1000C= 1000D=Linb 10027=
  10028=Linb 1003B= 1003C=Linb 1003E= 1003F=Linb 1004E= 10050=Linb 1005E= 10080=Linb 100FB=
  10100=Cpmn+Cprt+Linb 10102=Cprt+Linb 10103= 10107=Cprt+Lina+Linb 10134= 10137=Cprt+Linb
  10140=Grek 1018F= 10190=Zyyy 1019D= 101A0=Grek 101A1= 101D0=Zyyy 101FD=Zinh 101FE=
  10280=Lyci 1029D= 102A0=Cari 102D1= 102E0=Arab+Copt 102FC= 10300=Ital 10324= 1032D=Ital
  10330=Goth 1034B= 10350=Perm 1037B= 10380=Ugar 1039E= 1039F=Ugar 103A0=Xpeo 103C4=
  103C8=Xpeo 103D6= 10400=Dsrt 10450=Shaw 10480=Osma 1049E= 104A0=Osma 104AA= 104B0=Osge
  104D4= 104D8=Osge 104FC= 10500=Elba 10528= 10530=Aghb 10564= 1056F=Aghb 10570=Vith 1057B=
  1057C=Vith 1058B= 1058C=Vith 10593= 10594=Vith 10596= 10597=Vith 105A2= 105A3=Vith 105B2=
  105B3=Vith 105BA= 105BB=Vith 105BD= 105C0=Todr 105F4= 10600=Lina 10737= 10740=Lina 10756=
  10760=Lina 10768= 10780=Latn 10786= 10787=Latn 107B1= 107B2=Latn 107BB= 10800=Cprt 10806=
  10808=Cprt 10809= 1080A=Cprt 10836= 10837=Cprt 10839= 1083C=Cprt 1083D= 1083F=Cprt
  10840=Armi 10856= 10857=Armi 10860=Palm 10880=Nbat 1089F= 108A7=Nbat 108B0= 108E0=Hatr
  108F3= 108F4=Hatr 108F6= 108FB=Hatr 10900=Phnx 1091C= 1091F=Phnx 10920=Lydi 1093A=
  1093F=Lydi 10940=Sidt 1095A= 10980=Mero 109A0=Merc 109B8= 109BC=Merc 109D0= 109D2=Merc
  10A00=Khar 10A04= 10A05=Khar 10A07= 10A0C=Khar 10A14= 10A15=Khar 10A18= 10A19=Khar 10A36=
  10A38=Khar 10A3B= 10A3F=Khar 10A49= 10A50=Khar 10A59= 10A60=Sarb 10A80=Narb 10AA0=
  10AC0=Mani 10AE7= 10AEB=Mani 10AF2=Mani+Ougr 10AF3=Mani 10AF7= 10B00=Avst 10B36= 10B39=Avst
  10B40=Prti 10B56= 10B58=Prti 10B60=Phli 10B73= 10B78=Phli 10B80=Phlp 10B92= 10B99=Phlp
  10B9D= 10BA9=Phlp 10BB0= 10C00=Orkh 10C49= 10C80=Hung 10CB3= 10CC0=Hung 10CF3= 10CFA=Hung
  10D00=Rohg 10D28= 10D30=Rohg 10D3A= 10D40=Gara 10D66= 10D69=Gara 10D86= 10D8E=Gara 10D90=
  10E60=Arab 10E7F= 10E80=Yezi 10EAA= 10EAB=Yezi 10EAE= 10EB0=Yezi 10EB2= 10EC2=Arab 10EC8=
  10ED0=Arab 10ED9= 10EFA=Arab 10F00=Sogo 10F28= 10F30=Sogd 10F5A= 10F70=Ougr 10F8A=
  10FB0=Chrs 10FCC= 10FE0=Elym 10FF7= 11000=Brah 1104E= 11052=Brah 11076= 1107F=Brah
  11080=Kthi 110C3= 110CD=Kthi 110CE= 110D0=Sora 110E9= 110F0=Sora 110FA= 11100=Cakm 11135=
  11136=Cakm 11148= 11150=Mahj 11177= 11180=Shrd 111E0= 111E1=Sinh 111F5= 11200=Khoj 11212=
  11213=Khoj 11242= 11280=Mult 11287= 11288=Mult 11289= 1128A=Mult 1128E= 1128F=Mult 1129E=
  1129F=Mult 112AA= 112B0=Sind 112EB= 112F0=Sind 112FA= 11300=Gran 11301=Gran+Taml 11302=Gran
  11303=Gran+Taml 11304= 11305=Gran 1130D= 1130F=Gran 11311= 11313=Gran 11329= 1132A=Gran
  11331= 11332=Gran 11334= 11335=Gran 1133A= 1133B=Gran+Taml 1133D=Gran 11345= 11347=Gran
  11349= 1134B=Gran 1134E= 11350=Gran 11351= 11357=Gran 11358= 1135D=Gran 11364= 11366=Gran
  1136D= 11370=Gran 11375= 11380=Tutg 1138A= 1138B=Tutg 1138C= 1138E=Tutg 1138F= 11390=Tutg
  113B6= 113B7=Tutg 113C1= 113C2=Tutg 113C3= 113C5=Tutg 113C6= 113C7=Tutg 113CB= 113CC=Tutg
  113D6= 113D7=Tutg 113D9= 113E1=Tutg 113E3= 11400=Newa 1145C= 1145D=Newa 11462= 11480=Tirh
  114C8= 114D0=Tirh 114DA= 11580=Sidd 115B6= 115B8=Sidd 115DE= 11600=Modi 11645= 11650=Modi
  1165A= 11660=Mong 1166D= 11680=Takr 116BA= 116C0=Takr 116CA= 116D0=Mymr 116E4= 11700=Ahom
  1171B= 1171D=Ahom 1172C= 11730=Ahom 11747= 11800=Dogr 1183C= 118A0=Wara 118F3= 118FF=Wara
  11900=Diak 11907= 11909=Diak 1190A= 1190C=Diak 11914= 11915=Diak 11917= 11918=Diak 11936=
  11937=Diak 11939= 1193B=Diak 11947= 11950=Diak 1195A= 119A0=Nand 119A8= 119AA=Nand 119D8=
  119DA=Nand 119E5= 11A00=Zanb 11A48= 11A50=Soyo 11AA3= 11AB0=Cans 11AC0=Pauc 11AF9=
  11B00=Deva 11B0A= 11B60=Shrd 11B68= 11BC0=Sunu 11BE2= 11BF0=Sunu 11BFA= 11C00=Bhks 11C09=
  11C0A=Bhks 11C37= 11C38=Bhks 11C46= 11C50=Bhks 11C6D= 11C70=Marc 11C90= 11C92=Marc 11CA8=
  11CA9=Marc 11CB7= 11D00=Gonm 11D07= 11D08=Gonm 11D0A= 11D0B=Gonm 11D37= 11D3A=Gonm 11D3B=
  11D3C=Gonm 11D3E= 11D3F=Gonm 11D48= 11D50=Gonm 11D5A= 11D60=Gong 11D66= 11D67=Gong 11D69=
  11D6A=Gong 11D8F= 11D90=Gong 11D92= 11D93=Gong 11D99= 11DA0=Gong 11DAA= 11DB0=Tols 11DDC=
  11DE0=Tols 11DEA= 11EE0=Maka 11EF9= 11F00=Kawi 11F11= 11F12=Kawi 11F3B= 11F3E=Kawi 11F5B=
  11FB0=Lisu 11FB1= 11FC0=Taml 11FD0=Gran+Taml 11FD2=Taml 11FD3=Gran+Taml 11FD4=Taml 11FF2=
  11FFF=Taml 12000=Xsux 1239A= 12400=Xsux 1246F= 12470=Xsux 12475= 12480=Xsux 12544=
  12F90=Cpmn 12FF3= 13000=Egyp 13456= 13460=Egyp 143FB= 14400=Hluw 14647= 16100=Gukh 1613A=
  16800=Bamu 16A39= 16A40=Mroo 16A5F= 16A60=Mroo 16A6A= 16A6E=Mroo 16A70=Tnsa 16ABF=
  16AC0=Tnsa 16ACA= 16AD0=Bass 16AEE= 16AF0=Bass 16AF6= 16B00=Hmng 16B46= 16B50=Hmng 16B5A=
  16B5B=Hmng 16B62= 16B63=Hmng 16B78= 16B7D=Hmng 16B90= 16D40=Krai 16D7A= 16E40=Medf 16E9B=
  16EA0=Berf 16EB9= 16EBB=Berf 16ED4= 16F00=Plrd 16F4B= 16F4F=Plrd 16F88= 16F8F=Plrd 16FA0=
  16FE0=Tang 16FE1=Nshu 16FE2=Hani 16FE4=Kits 16FE5= 16FF0=Hani 16FF7= 17000=Tang 18B00=Kits
  18CD6= 18CFF=Kits 18D00=Tang 18D1F= 18D80=Tang 18DF3= 1AFF0=Kana 1AFF4= 1AFF5=Kana 1AFFC=
  1AFFD=Kana 1AFFF= 1B000=Kana 1B001=Hira 1B120=Kana 1B123= 1B132=Hira 1B133= 1B150=Hira
  1B153= 1B155=Kana 1B156= 1B164=Kana 1B168= 1B170=Nshu 1B2FC= 1BC00=Dupl 1BC6B= 1BC70=Dupl
  1BC7D= 1BC80=Dupl 1BC89= 1BC90=Dupl 1BC9A= 1BC9C=Dupl 1BCA4= 1CC00=Zyyy 1CCFD= 1CD00=Zyyy
  1CEB4= 1CEBA=Zyyy 1CED1= 1CEE0=Zyyy 1CEF1= 1CF00=Zinh 1CF2E= 1CF30=Zinh 1CF47= 1CF50=Zyyy
  1CFC4= 1D000=Zyyy 1D0F6= 1D100=Zyyy 1D127= 1D129=Zyyy 1D167=Zinh 1D16A=Zyyy 1D17B=Zinh
  1D183=Zyyy 1D185=Zinh 1D18C=Zyyy 1D1AA=Zinh 1D1AE=Zyyy 1D1EB= 1D200=Grek 1D246= 1D2C0=Zyyy
  1D2D4= 1D2E0=Zyyy 1D2F4= 1D300=Zyyy 1D357= 1D360=Hani 1D372=Zyyy 1D379= 1D400=Zyyy 1D455=
  1D456=Zyyy 1D49D= 1D49E=Zyyy 1D4A0= 1D4A2=Zyyy 1D4A3= 1D4A5=Zyyy 1D4A7= 1D4A9=Zyyy 1D4AD=
  1D4AE=Zyyy 1D4BA= 1D4BB=Zyyy 1D4BC= 1D4BD=Zyyy 1D4C4= 1D4C5=Zyyy 1D506= 1D507=Zyyy 1D50B=
  1D50D=Zyyy 1D515= 1D516=Zyyy 1D51D= 1D51E=Zyyy 1D53A= 1D53B=Zyyy 1D53F= 1D540=Zyyy 1D545=
  1D546=Zyyy 1D547= 1D54A=Zyyy 1D551= 1D552=Zyyy 1D6A6= 1D6A8=Zyyy 1D7CC= 1D7CE=Zyyy
  1D800=Sgnw 1DA8C= 1DA9B=Sgnw 1DAA0= 1DAA1=Sgnw 1DAB0= 1DF00=Latn 1DF1F= 1DF25=Latn 1DF2B=
  1E000=Glag 1E007= 1E008=Glag 1E019= 1E01B=Glag 1E022= 1E023=Glag 1E025= 1E026=Glag 1E02B=
  1E030=Cyrl 1E06E= 1E08F=Cyrl 1E090= 1E100=Hmnp 1E12D= 1E130=Hmnp 1E13E= 1E140=Hmnp 1E14A=
  1E14E=Hmnp 1E150= 1E290=Toto 1E2AF= 1E2C0=Wcho 1E2FA= 1E2FF=Wcho 1E300= 1E4D0=Nagm 1E4FA=
  1E5D0=Onao 1E5FB= 1E5FF=Onao 1E600= 1E6C0=Tayo 1E6DF= 1E6E0=Tayo 1E6F6= 1E6FE=Tayo 1E700=
  1E7E0=Ethi 1E7E7= 1E7E8=Ethi 1E7EC= 1E7ED=Ethi 1E7EF= 1E7F0=Ethi 1E7FF= 1E800=Mend 1E8C5=
  1E8C7=Mend 1E8D7= 1E900=Adlm 1E94C= 1E950=Adlm 1E95A= 1E95E=Adlm 1E960= 1EC71=Zyyy 1ECB5=
  1ED01=Zyyy 1ED3E= 1EE00=Arab 1EE04= 1EE05=Arab 1EE20= 1EE21=Arab 1EE23= 1EE24=Arab 1EE25=
  1EE27=Arab 1EE28= 1EE29=Arab 1EE33= 1EE34=Arab 1EE38= 1EE39=Arab 1EE3A= 1EE3B=Arab 1EE3C=
  1EE42=Arab 1EE43= 1EE47=Arab 1EE48= 1EE49=Arab 1EE4A= 1EE4B=Arab 1EE4C= 1EE4D=Arab 1EE50=
  1EE51=Arab 1EE53= 1EE54=Arab 1EE55= 1EE57=Arab 1EE58= 1EE59=Arab 1EE5A= 1EE5B=Arab 1EE5C=
  1EE5D=Arab 1EE5E= 1EE5F=Arab 1EE60= 1EE61=Arab 1EE63= 1EE64=Arab 1EE65= 1EE67=Arab 1EE6B=
  1EE6C=Arab 1EE73= 1EE74=Arab 1EE78= 1EE79=Arab 1EE7D= 1EE7E=Arab 1EE7F= 1EE80=Arab 1EE8A=
  1EE8B=Arab 1EE9C= 1EEA1=Arab 1EEA4= 1EEA5=Arab 1EEAA= 1EEAB=Arab 1EEBC= 1EEF0=Arab 1EEF2=
  1F000=Zyyy 1F02C= 1F030=Zyyy 1F094= 1F0A0=Zyyy 1F0AF= 1F0B1=Zyyy 1F0C0= 1F0C1=Zyyy 1F0D0=
  1F0D1=Zyyy 1F0F6= 1F100=Zyyy 1F1AE= 1F1E6=Zyyy 1F200=Hira 1F201=Zyyy 1F203= 1F210=Zyyy
  1F23C= 1F240=Zyyy 1F249= 1F250=Hani 1F252= 1F260=Zyyy 1F266= 1F300=Zyyy 1F6D9= 1F6DC=Zyyy
  1F6ED= 1F6F0=Zyyy 1F6FD= 1F700=Zyyy 1F7DA= 1F7E0=Zyyy 1F7EC= 1F7F0=Zyyy 1F7F1= 1F800=Zyyy
  1F80C= 1F810=Zyyy 1F848= 1F850=Zyyy 1F85A= 1F860=Zyyy 1F888= 1F890=Zyyy 1F8AE= 1F8B0=Zyyy
  1F8BC= 1F8C0=Zyyy 1F8C2= 1F8D0=Zyyy 1F8D9= 1F900=Zyyy 1FA58= 1FA60=Zyyy 1FA6E= 1FA70=Zyyy
  1FA7D= 1FA80=Zyyy 1FA8B= 1FA8E=Zyyy 1FAC7= 1FAC8=Zyyy 1FAC9= 1FACD=Zyyy 1FADD= 1FADF=Zyyy
  1FAEB= 1FAEF=Zyyy 1FAF9= 1FB00=Zyyy 1FB93= 1FB94=Zyyy 1FBFB= 20000=Hani 2A6E0= 2A700=Hani
  2B81E= 2B820=Hani 2CEAE= 2CEB0=Hani 2EBE1= 2EBF0=Hani 2EE5E= 2F800=Hani 2FA1E= 30000=Hani
  3134B= 31350=Hani 3347A= E0001=Zyyy E0002= E0020=Zyyy E0080= E0100=Zinh E01F0="

/-- The script of a character. -/
def script (c : Char) : String := scriptTable.label c

/-- Whether a character has a script. -/
def inScript (name : String) (c : Char) : Bool := script c == name

/-- Whether a script is among the extensions of a character. -/
def inScriptExtensions (name : String) (c : Char) : Bool :=
  ((scriptExtensionTable.label c).splitOn "+").contains name

/-- The names of the scripts, as written without case, blank, `_` and `-`. -/
def scriptNames : List (String × String) :=
  [("adlm", "Adlm"), ("adlam", "Adlm"), ("aghb", "Aghb"), ("caucasianalbanian", "Aghb"),
    ("ahom", "Ahom"), ("arab", "Arab"), ("arabic", "Arab"), ("armi", "Armi"),
    ("imperialaramaic", "Armi"), ("armn", "Armn"), ("armenian", "Armn"), ("avst", "Avst"),
    ("avestan", "Avst"), ("bali", "Bali"), ("balinese", "Bali"), ("bamu", "Bamu"),
    ("bamum", "Bamu"), ("bass", "Bass"), ("bassavah", "Bass"), ("batk", "Batk"),
    ("batak", "Batk"), ("beng", "Beng"), ("bengali", "Beng"), ("bhks", "Bhks"),
    ("bhaiksuki", "Bhks"), ("bopo", "Bopo"), ("bopomofo", "Bopo"), ("brah", "Brah"),
    ("brahmi", "Brah"), ("brai", "Brai"), ("braille", "Brai"), ("bugi", "Bugi"),
    ("buginese", "Bugi"), ("buhd", "Buhd"), ("buhid", "Buhd"), ("cakm", "Cakm"),
    ("chakma", "Cakm"), ("cans", "Cans"), ("canadianaboriginal", "Cans"), ("cari", "Cari"),
    ("carian", "Cari"), ("cham", "Cham"), ("cher", "Cher"), ("cherokee", "Cher"),
    ("chrs", "Chrs"), ("chorasmian", "Chrs"), ("copt", "Copt"), ("coptic", "Copt"),
    ("qaac", "Copt"), ("cpmn", "Cpmn"), ("cyprominoan", "Cpmn"), ("cprt", "Cprt"),
    ("cypriot", "Cprt"), ("cyrl", "Cyrl"), ("cyrillic", "Cyrl"), ("deva", "Deva"),
    ("devanagari", "Deva"), ("diak", "Diak"), ("divesakuru", "Diak"), ("dogr", "Dogr"),
    ("dogra", "Dogr"), ("dsrt", "Dsrt"), ("deseret", "Dsrt"), ("dupl", "Dupl"),
    ("duployan", "Dupl"), ("egyp", "Egyp"), ("egyptianhieroglyphs", "Egyp"), ("elba", "Elba"),
    ("elbasan", "Elba"), ("elym", "Elym"), ("elymaic", "Elym"), ("ethi", "Ethi"),
    ("ethiopic", "Ethi"), ("geor", "Geor"), ("georgian", "Geor"), ("glag", "Glag"),
    ("glagolitic", "Glag"), ("gong", "Gong"), ("gunjalagondi", "Gong"), ("gonm", "Gonm"),
    ("masaramgondi", "Gonm"), ("goth", "Goth"), ("gothic", "Goth"), ("gran", "Gran"),
    ("grantha", "Gran"), ("grek", "Grek"), ("greek", "Grek"), ("gujr", "Gujr"),
    ("gujarati", "Gujr"), ("guru", "Guru"), ("gurmukhi", "Guru"), ("hang", "Hang"),
    ("hangul", "Hang"), ("hani", "Hani"), ("han", "Hani"), ("hano", "Hano"),
    ("hanunoo", "Hano"), ("hatr", "Hatr"), ("hatran", "Hatr"), ("hebr", "Hebr"),
    ("hebrew", "Hebr"), ("hira", "Hira"), ("hiragana", "Hira"), ("hluw", "Hluw"),
    ("anatolianhieroglyphs", "Hluw"), ("hmng", "Hmng"), ("pahawhhmong", "Hmng"),
    ("hmnp", "Hmnp"), ("nyiakengpuachuehmong", "Hmnp"), ("hung", "Hung"),
    ("oldhungarian", "Hung"), ("ital", "Ital"), ("olditalic", "Ital"), ("java", "Java"),
    ("javanese", "Java"), ("kali", "Kali"), ("kayahli", "Kali"), ("kana", "Kana"),
    ("katakana", "Kana"), ("kawi", "Kawi"), ("khar", "Khar"), ("kharoshthi", "Khar"),
    ("khmr", "Khmr"), ("khmer", "Khmr"), ("khoj", "Khoj"), ("khojki", "Khoj"), ("kits", "Kits"),
    ("khitansmallscript", "Kits"), ("knda", "Knda"), ("kannada", "Knda"), ("kthi", "Kthi"),
    ("kaithi", "Kthi"), ("lana", "Lana"), ("taitham", "Lana"), ("laoo", "Laoo"),
    ("lao", "Laoo"), ("latn", "Latn"), ("latin", "Latn"), ("lepc", "Lepc"), ("lepcha", "Lepc"),
    ("limb", "Limb"), ("limbu", "Limb"), ("lina", "Lina"), ("lineara", "Lina"),
    ("linb", "Linb"), ("linearb", "Linb"), ("lisu", "Lisu"), ("lyci", "Lyci"),
    ("lycian", "Lyci"), ("lydi", "Lydi"), ("lydian", "Lydi"), ("mahj", "Mahj"),
    ("mahajani", "Mahj"), ("maka", "Maka"), ("makasar", "Maka"), ("mand", "Mand"),
    ("mandaic", "Mand"), ("mani", "Mani"), ("manichaean", "Mani"), ("marc", "Marc"),
    ("marchen", "Marc"), ("medf", "Medf"), ("medefaidrin", "Medf"), ("mend", "Mend"),
    ("mendekikakui", "Mend"), ("merc", "Merc"), ("meroiticcursive", "Merc"), ("mero", "Mero"),
    ("meroitichieroglyphs", "Mero"), ("mlym", "Mlym"), ("malayalam", "Mlym"), ("modi", "Modi"),
    ("mong", "Mong"), ("mongolian", "Mong"), ("mroo", "Mroo"), ("mro", "Mroo"),
    ("mtei", "Mtei"), ("meeteimayek", "Mtei"), ("mult", "Mult"), ("multani", "Mult"),
    ("mymr", "Mymr"), ("myanmar", "Mymr"), ("nagm", "Nagm"), ("nagmundari", "Nagm"),
    ("nand", "Nand"), ("nandinagari", "Nand"), ("narb", "Narb"), ("oldnortharabian", "Narb"),
    ("nbat", "Nbat"), ("nabataean", "Nbat"), ("newa", "Newa"), ("nkoo", "Nkoo"),
    ("nko", "Nkoo"), ("nshu", "Nshu"), ("nushu", "Nshu"), ("ogam", "Ogam"), ("ogham", "Ogam"),
    ("olck", "Olck"), ("olchiki", "Olck"), ("orkh", "Orkh"), ("oldturkic", "Orkh"),
    ("orya", "Orya"), ("oriya", "Orya"), ("osge", "Osge"), ("osage", "Osge"), ("osma", "Osma"),
    ("osmanya", "Osma"), ("ougr", "Ougr"), ("olduyghur", "Ougr"), ("palm", "Palm"),
    ("palmyrene", "Palm"), ("pauc", "Pauc"), ("paucinhau", "Pauc"), ("perm", "Perm"),
    ("oldpermic", "Perm"), ("phag", "Phag"), ("phagspa", "Phag"), ("phli", "Phli"),
    ("inscriptionalpahlavi", "Phli"), ("phlp", "Phlp"), ("psalterpahlavi", "Phlp"),
    ("phnx", "Phnx"), ("phoenician", "Phnx"), ("plrd", "Plrd"), ("miao", "Plrd"),
    ("prti", "Prti"), ("inscriptionalparthian", "Prti"), ("rjng", "Rjng"), ("rejang", "Rjng"),
    ("rohg", "Rohg"), ("hanifirohingya", "Rohg"), ("runr", "Runr"), ("runic", "Runr"),
    ("samr", "Samr"), ("samaritan", "Samr"), ("sarb", "Sarb"), ("oldsoutharabian", "Sarb"),
    ("saur", "Saur"), ("saurashtra", "Saur"), ("sgnw", "Sgnw"), ("signwriting", "Sgnw"),
    ("shaw", "Shaw"), ("shavian", "Shaw"), ("shrd", "Shrd"), ("sharada", "Shrd"),
    ("sidd", "Sidd"), ("siddham", "Sidd"), ("sind", "Sind"), ("khudawadi", "Sind"),
    ("sinh", "Sinh"), ("sinhala", "Sinh"), ("sogd", "Sogd"), ("sogdian", "Sogd"),
    ("sogo", "Sogo"), ("oldsogdian", "Sogo"), ("sora", "Sora"), ("sorasompeng", "Sora"),
    ("soyo", "Soyo"), ("soyombo", "Soyo"), ("sund", "Sund"), ("sundanese", "Sund"),
    ("sylo", "Sylo"), ("sylotinagri", "Sylo"), ("syrc", "Syrc"), ("syriac", "Syrc"),
    ("tagb", "Tagb"), ("tagbanwa", "Tagb"), ("takr", "Takr"), ("takri", "Takr"),
    ("tale", "Tale"), ("taile", "Tale"), ("talu", "Talu"), ("newtailue", "Talu"),
    ("taml", "Taml"), ("tamil", "Taml"), ("tang", "Tang"), ("tangut", "Tang"), ("tavt", "Tavt"),
    ("taiviet", "Tavt"), ("telu", "Telu"), ("telugu", "Telu"), ("tfng", "Tfng"),
    ("tifinagh", "Tfng"), ("tglg", "Tglg"), ("tagalog", "Tglg"), ("thaa", "Thaa"),
    ("thaana", "Thaa"), ("thai", "Thai"), ("tibt", "Tibt"), ("tibetan", "Tibt"),
    ("tirh", "Tirh"), ("tirhuta", "Tirh"), ("tnsa", "Tnsa"), ("tangsa", "Tnsa"),
    ("toto", "Toto"), ("ugar", "Ugar"), ("ugaritic", "Ugar"), ("vaii", "Vaii"), ("vai", "Vaii"),
    ("vith", "Vith"), ("vithkuqi", "Vith"), ("wara", "Wara"), ("warangciti", "Wara"),
    ("wcho", "Wcho"), ("wancho", "Wcho"), ("xpeo", "Xpeo"), ("oldpersian", "Xpeo"),
    ("xsux", "Xsux"), ("cuneiform", "Xsux"), ("yezi", "Yezi"), ("yezidi", "Yezi"),
    ("yiii", "Yiii"), ("yi", "Yiii"), ("zanb", "Zanb"), ("zanabazarsquare", "Zanb"),
    ("zinh", "Zinh"), ("inherited", "Zinh"), ("qaai", "Zinh"), ("zyyy", "Zyyy"),
    ("common", "Zyyy"), ("gara", "Gara"), ("garay", "Gara"), ("gukh", "Gukh"),
    ("gurungkhema", "Gukh"), ("krai", "Krai"), ("kiratrai", "Krai"), ("onao", "Onao"),
    ("olonal", "Onao"), ("sunu", "Sunu"), ("sunuwar", "Sunu"), ("todr", "Todr"),
    ("todhri", "Todr"), ("tutg", "Tutg"), ("tulutigalari", "Tutg"), ("berf", "Berf"),
    ("beriaerfe", "Berf"), ("sidt", "Sidt"), ("sidetic", "Sidt"), ("tayo", "Tayo"),
    ("taiyo", "Tayo"), ("tols", "Tols"), ("tolongsiki", "Tols")]

end MarkupRules.Unicode
