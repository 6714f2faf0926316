import BracketQuery.Text.Partition

/-!
Data of the Unicode standard: the scripts of characters.
-/

namespace BracketQuery.Regex

/-- The script of every character that has one, or is common to several. -/
def script : Text.Partition where
  values :=
    "
    adlm adlam; ahom; hluw anatolianhieroglyphs; arab arabic; armn armenian; avst avestan; bali
    balinese; bamu bamum; bass bassavah; batk batak; beng bengali; bhks bhaiksuki; bopo bopomofo;
    brah brahmi; brai braille; bugi buginese; buhd buhid; cans canadianaboriginal; cari carian;
    aghb caucasianalbanian; cakm chakma; cham; cher cherokee; chrs chorasmian; zyyy common; copt
    qaac coptic; xsux cuneiform; cprt cypriot; cpmn cyprominoan; cyrl cyrillic; dsrt deseret; deva
    devanagari; diak divesakuru; dogr dogra; dupl duployan; egyp egyptianhieroglyphs; elba elbasan;
    elym elymaic; ethi ethiopic; gara garay; geor georgian; glag glagolitic; goth gothic; gran
    grantha; grek greek; gujr gujarati; gong gunjalagondi; guru gurmukhi; gukh gurungkhema; han
    hani; hang hangul; rohg hanifirohingya; hano hanunoo; hatr hatran; hebr hebrew; hira hiragana;
    armi imperialaramaic; qaai zinh inherited; phli inscriptionalpahlavi; prti
    inscriptionalparthian; java javanese; kthi kaithi; knda kannada; kana katakana; hrkt
    katakanaorhiragana; kawi; kali kayahli; khar kharoshthi; kits khitansmallscript; khmr khmer;
    khoj khojki; sind khudawadi; krai kiratrai; lao laoo; latn latin; lepc lepcha; limb limbu; lina
    lineara; linb linearb; lisu; lyci lycian; lydi lydian; mahj mahajani; maka makasar; mlym
    malayalam; mand mandaic; mani manichaean; marc marchen; gonm masaramgondi; medf medefaidrin;
    mtei meeteimayek; mend mendekikakui; merc meroiticcursive; mero meroitichieroglyphs; miao plrd;
    modi; mong mongolian; mro mroo; mult multani; mymr myanmar; nbat nabataean; nagm nagmundari;
    nand nandinagari; talu newtailue; newa; nko nkoo; nshu nushu; hmnp nyiakengpuachuehmong; ogam
    ogham; olck olchiki; onao olonal; hung oldhungarian; ital olditalic; narb oldnortharabian; perm
    oldpermic; xpeo oldpersian; sogo oldsogdian; sarb oldsoutharabian; orkh oldturkic; ougr
    olduyghur; orya oriya; osge osage; osma osmanya; hmng pahawhhmong; palm palmyrene; pauc
    paucinhau; phag phagspa; phnx phoenician; phlp psalterpahlavi; rjng rejang; runr runic; samr
    samaritan; saur saurashtra; shrd sharada; shaw shavian; sidd siddham; sgnw signwriting; sinh
    sinhala; sogd sogdian; sora sorasompeng; soyo soyombo; sund sundanese; sunu sunuwar; sylo
    sylotinagri; syrc syriac; tglg tagalog; tagb tagbanwa; tale taile; lana taitham; tavt taiviet;
    takr takri; taml tamil; tnsa tangsa; tang tangut; telu telugu; thaa thaana; thai; tibt tibetan;
    tfng tifinagh; tirh tirhuta; todr todhri; toto; tutg tulutigalari; ugar ugaritic; zzzz unknown;
    vai vaii; vith vithkuqi; wcho wancho; wara warangciti; yezi yezidi; yi yiii; zanb
    zanabazarsquare"
  runs :=
    "
    0-40:18 41-5a:4a 5b-60:18 61-7a:4a 7b-a9:18 aa:4a ab-b9:18 ba:4a bb-bf:18 c0-d6:4a d7:18
    d8-f6:4a f7:18 f8-2b8:4a 2b9-2df:18 2e0-2e4:4a 2e5-2e9:18 2ea-2eb:c 2ec-2ff:18 300-36f:39
    370-373:2c 374:18 375-377:2c 37a-37d:2c 37e:18 37f:2c 384:2c 385:18 386:2c 387:18 388-38a:2c
    38c:2c 38e-3a1:2c 3a3-3e1:2c 3e2-3ef:19 3f0-3ff:2c 400-484:1d 485-486:39 487-52f:1d 531-556:4
    559-58a:4 58d-58f:4 591-5c7:36 5d0-5ea:36 5ef-5f4:36 600-604:3 605:18 606-60b:3 60c:18
    60d-61a:3 61b:18 61c-61e:3 61f:18 620-63f:3 640:18 641-64a:3 64b-655:39 656-66f:3 670:39
    671-6dc:3 6dd:18 6de-6ff:3 700-70d:90 70f-74a:90 74d-74f:90 750-77f:3 780-7b1:9b 7c0-7fa:69
    7fd-7ff:69 800-82d:83 830-83e:83 840-85b:55 85e:55 860-86a:90 870-88e:3 890-891:3 897-8e1:3
    8e2:18 8e3-8ff:3 900-950:1f 951-954:39 955-963:1f 964-965:18 966-97f:1f 980-983:a 985-98c:a
    98f-990:a 993-9a8:a 9aa-9b0:a 9b2:a 9b6-9b9:a 9bc-9c4:a 9c7-9c8:a 9cb-9ce:a 9d7:a 9dc-9dd:a
    9df-9e3:a 9e6-9fe:a a01-a03:2f a05-a0a:2f a0f-a10:2f a13-a28:2f a2a-a30:2f a32-a33:2f
    a35-a36:2f a38-a39:2f a3c:2f a3e-a42:2f a47-a48:2f a4b-a4d:2f a51:2f a59-a5c:2f a5e:2f
    a66-a76:2f a81-a83:2d a85-a8d:2d a8f-a91:2d a93-aa8:2d aaa-ab0:2d ab2-ab3:2d ab5-ab9:2d
    abc-ac5:2d ac7-ac9:2d acb-acd:2d ad0:2d ae0-ae3:2d ae6-af1:2d af9-aff:2d b01-b03:78 b05-b0c:78
    b0f-b10:78 b13-b28:78 b2a-b30:78 b32-b33:78 b35-b39:78 b3c-b44:78 b47-b48:78 b4b-b4d:78
    b55-b57:78 b5c-b5d:78 b5f-b63:78 b66-b77:78 b82-b83:97 b85-b8a:97 b8e-b90:97 b92-b95:97
    b99-b9a:97 b9c:97 b9e-b9f:97 ba3-ba4:97 ba8-baa:97 bae-bb9:97 bbe-bc2:97 bc6-bc8:97 bca-bcd:97
    bd0:97 bd7:97 be6-bfa:97 c00-c0c:9a c0e-c10:9a c12-c28:9a c2a-c39:9a c3c-c44:9a c46-c48:9a
    c4a-c4d:9a c55-c56:9a c58-c5a:9a c5d:9a c60-c63:9a c66-c6f:9a c77-c7f:9a c80-c8c:3e c8e-c90:3e
    c92-ca8:3e caa-cb3:3e cb5-cb9:3e cbc-cc4:3e cc6-cc8:3e cca-ccd:3e cd5-cd6:3e cdd-cde:3e
    ce0-ce3:3e ce6-cef:3e cf1-cf3:3e d00-d0c:54 d0e-d10:54 d12-d44:54 d46-d48:54 d4a-d4f:54
    d54-d63:54 d66-d7f:54 d81-d83:89 d85-d96:89 d9a-db1:89 db3-dbb:89 dbd:89 dc0-dc6:89 dca:89
    dcf-dd4:89 dd6:89 dd8-ddf:89 de6-def:89 df2-df4:89 e01-e3a:9c e3f:18 e40-e5b:9c e81-e82:49
    e84:49 e86-e8a:49 e8c-ea3:49 ea5:49 ea7-ebd:49 ec0-ec4:49 ec6:49 ec8-ece:49 ed0-ed9:49
    edc-edf:49 f00-f47:9d f49-f6c:9d f71-f97:9d f99-fbc:9d fbe-fcc:9d fce-fd4:9d fd5-fd8:18
    fd9-fda:9d 1000-109f:63 10a0-10c5:28 10c7:28 10cd:28 10d0-10fa:28 10fb:18 10fc-10ff:28
    1100-11ff:32 1200-1248:26 124a-124d:26 1250-1256:26 1258:26 125a-125d:26 1260-1288:26
    128a-128d:26 1290-12b0:26 12b2-12b5:26 12b8-12be:26 12c0:26 12c2-12c5:26 12c8-12d6:26
    12d8-1310:26 1312-1315:26 1318-135a:26 135d-137c:26 1380-1399:26 13a0-13f5:16 13f8-13fd:16
    1400-167f:11 1680-169c:6c 16a0-16ea:82 16eb-16ed:18 16ee-16f8:82 1700-1715:91 171f:91
    1720-1734:34 1735-1736:18 1740-1753:10 1760-176c:92 176e-1770:92 1772-1773:92 1780-17dd:45
    17e0-17e9:45 17f0-17f9:45 1800-1801:60 1802-1803:18 1804:60 1805:18 1806-1819:60 1820-1878:60
    1880-18aa:60 18b0-18f5:11 1900-191e:4c 1920-192b:4c 1930-193b:4c 1940:4c 1944-194f:4c
    1950-196d:93 1970-1974:93 1980-19ab:67 19b0-19c9:67 19d0-19da:67 19de-19df:67 19e0-19ff:45
    1a00-1a1b:f 1a1e-1a1f:f 1a20-1a5e:94 1a60-1a7c:94 1a7f-1a89:94 1a90-1a99:94 1aa0-1aad:94
    1ab0-1ace:39 1b00-1b4c:6 1b4e-1b7f:6 1b80-1bbf:8d 1bc0-1bf3:9 1bfc-1bff:9 1c00-1c37:4b
    1c3b-1c49:4b 1c4d-1c4f:4b 1c50-1c7f:6d 1c80-1c8a:1d 1c90-1cba:28 1cbd-1cbf:28 1cc0-1cc7:8d
    1cd0-1cd2:39 1cd3:18 1cd4-1ce0:39 1ce1:18 1ce2-1ce8:39 1ce9-1cec:18 1ced:39 1cee-1cf3:18
    1cf4:39 1cf5-1cf7:18 1cf8-1cf9:39 1cfa:18 1d00-1d25:4a 1d26-1d2a:2c 1d2b:1d 1d2c-1d5c:4a
    1d5d-1d61:2c 1d62-1d65:4a 1d66-1d6a:2c 1d6b-1d77:4a 1d78:1d 1d79-1dbe:4a 1dbf:2c 1dc0-1dff:39
    1e00-1eff:4a 1f00-1f15:2c 1f18-1f1d:2c 1f20-1f45:2c 1f48-1f4d:2c 1f50-1f57:2c 1f59:2c 1f5b:2c
    1f5d:2c 1f5f-1f7d:2c 1f80-1fb4:2c 1fb6-1fc4:2c 1fc6-1fd3:2c 1fd6-1fdb:2c 1fdd-1fef:2c
    1ff2-1ff4:2c 1ff6-1ffe:2c 2000-200b:18 200c-200d:39 200e-2064:18 2066-2070:18 2071:4a
    2074-207e:18 207f:4a 2080-208e:18 2090-209c:4a 20a0-20c0:18 20d0-20f0:39 2100-2125:18 2126:2c
    2127-2129:18 212a-212b:4a 212c-2131:18 2132:4a 2133-214d:18 214e:4a 214f-215f:18 2160-2188:4a
    2189-218b:18 2190-2429:18 2440-244a:18 2460-27ff:18 2800-28ff:e 2900-2b73:18 2b76-2b95:18
    2b97-2bff:18 2c00-2c5f:29 2c60-2c7f:4a 2c80-2cf3:19 2cf9-2cff:19 2d00-2d25:28 2d27:28 2d2d:28
    2d30-2d67:9e 2d6f-2d70:9e 2d7f:9e 2d80-2d96:26 2da0-2da6:26 2da8-2dae:26 2db0-2db6:26
    2db8-2dbe:26 2dc0-2dc6:26 2dc8-2dce:26 2dd0-2dd6:26 2dd8-2dde:26 2de0-2dff:1d 2e00-2e5d:18
    2e80-2e99:31 2e9b-2ef3:31 2f00-2fd5:31 2ff0-3004:18 3005:31 3006:18 3007:31 3008-3020:18
    3021-3029:31 302a-302d:39 302e-302f:32 3030-3037:18 3038-303b:31 303c-303f:18 3041-3096:37
    3099-309a:39 309b-309c:18 309d-309f:37 30a0:18 30a1-30fa:3f 30fb-30fc:18 30fd-30ff:3f
    3105-312f:c 3131-318e:32 3190-319f:18 31a0-31bf:c 31c0-31e5:18 31ef:18 31f0-31ff:3f
    3200-321e:32 3220-325f:18 3260-327e:32 327f-32cf:18 32d0-32fe:3f 32ff:18 3300-3357:3f
    3358-33ff:18 3400-4dbf:31 4dc0-4dff:18 4e00-9fff:31 a000-a48c:aa a490-a4c6:aa a4d0-a4ff:4f
    a500-a62b:a5 a640-a69f:1d a6a0-a6f7:7 a700-a721:18 a722-a787:4a a788-a78a:18 a78b-a7cd:4a
    a7d0-a7d1:4a a7d3:4a a7d5-a7dc:4a a7f2-a7ff:4a a800-a82c:8f a830-a839:18 a840-a877:7e
    a880-a8c5:84 a8ce-a8d9:84 a8e0-a8ff:1f a900-a92d:42 a92e:18 a92f:42 a930-a953:81 a95f:81
    a960-a97c:32 a980-a9cd:3c a9cf:18 a9d0-a9d9:3c a9de-a9df:3c a9e0-a9fe:63 aa00-aa36:15
    aa40-aa4d:15 aa50-aa59:15 aa5c-aa5f:15 aa60-aa7f:63 aa80-aac2:95 aadb-aadf:95 aae0-aaf6:5a
    ab01-ab06:26 ab09-ab0e:26 ab11-ab16:26 ab20-ab26:26 ab28-ab2e:26 ab30-ab5a:4a ab5b:18
    ab5c-ab64:4a ab65:2c ab66-ab69:4a ab6a-ab6b:18 ab70-abbf:16 abc0-abed:5a abf0-abf9:5a
    ac00-d7a3:32 d7b0-d7c6:32 d7cb-d7fb:32 f900-fa6d:31 fa70-fad9:31 fb00-fb06:4a fb13-fb17:4
    fb1d-fb36:36 fb38-fb3c:36 fb3e:36 fb40-fb41:36 fb43-fb44:36 fb46-fb4f:36 fb50-fbc2:3
    fbd3-fd3d:3 fd3e-fd3f:18 fd40-fd8f:3 fd92-fdc7:3 fdcf:3 fdf0-fdff:3 fe00-fe0f:39 fe10-fe19:18
    fe20-fe2d:39 fe2e-fe2f:1d fe30-fe52:18 fe54-fe66:18 fe68-fe6b:18 fe70-fe74:3 fe76-fefc:3
    feff:18 ff01-ff20:18 ff21-ff3a:4a ff3b-ff40:18 ff41-ff5a:4a ff5b-ff65:18 ff66-ff6f:3f ff70:18
    ff71-ff9d:3f ff9e-ff9f:18 ffa0-ffbe:32 ffc2-ffc7:32 ffca-ffcf:32 ffd2-ffd7:32 ffda-ffdc:32
    ffe0-ffe6:18 ffe8-ffee:18 fff9-fffd:18 10000-1000b:4e 1000d-10026:4e 10028-1003a:4e
    1003c-1003d:4e 1003f-1004d:4e 10050-1005d:4e 10080-100fa:4e 10100-10102:18 10107-10133:18
    10137-1013f:18 10140-1018e:2c 10190-1019c:18 101a0:2c 101d0-101fc:18 101fd:39 10280-1029c:50
    102a0-102d0:12 102e0:39 102e1-102fb:18 10300-10323:70 1032d-1032f:70 10330-1034a:2a
    10350-1037a:72 10380-1039d:a3 1039f:a3 103a0-103c3:73 103c8-103d5:73 10400-1044f:1e
    10450-1047f:86 10480-1049d:7a 104a0-104a9:7a 104b0-104d3:79 104d8-104fb:79 10500-10527:24
    10530-10563:13 1056f:13 10570-1057a:a6 1057c-1058a:a6 1058c-10592:a6 10594-10595:a6
    10597-105a1:a6 105a3-105b1:a6 105b3-105b9:a6 105bb-105bc:a6 105c0-105f3:a0 10600-10736:4d
    10740-10755:4d 10760-10767:4d 10780-10785:4a 10787-107b0:4a 107b2-107ba:4a 10800-10805:1b
    10808:1b 1080a-10835:1b 10837-10838:1b 1083c:1b 1083f:1b 10840-10855:38 10857-1085f:38
    10860-1087f:7c 10880-1089e:64 108a7-108af:64 108e0-108f2:35 108f4-108f5:35 108fb-108ff:35
    10900-1091b:7f 1091f:7f 10920-10939:51 1093f:51 10980-1099f:5d 109a0-109b7:5c 109bc-109cf:5c
    109d2-109ff:5c 10a00-10a03:43 10a05-10a06:43 10a0c-10a13:43 10a15-10a17:43 10a19-10a35:43
    10a38-10a3a:43 10a3f-10a48:43 10a50-10a58:43 10a60-10a7f:75 10a80-10a9f:71 10ac0-10ae6:56
    10aeb-10af6:56 10b00-10b35:5 10b39-10b3f:5 10b40-10b55:3b 10b58-10b5f:3b 10b60-10b72:3a
    10b78-10b7f:3a 10b80-10b91:80 10b99-10b9c:80 10ba9-10baf:80 10c00-10c48:76 10c80-10cb2:6f
    10cc0-10cf2:6f 10cfa-10cff:6f 10d00-10d27:33 10d30-10d39:33 10d40-10d65:27 10d69-10d85:27
    10d8e-10d8f:27 10e60-10e7e:3 10e80-10ea9:a9 10eab-10ead:a9 10eb0-10eb1:a9 10ec2-10ec4:3
    10efc-10eff:3 10f00-10f27:74 10f30-10f59:8a 10f70-10f89:77 10fb0-10fcb:17 10fe0-10ff6:25
    11000-1104d:d 11052-11075:d 1107f:d 11080-110c2:3d 110cd:3d 110d0-110e8:8b 110f0-110f9:8b
    11100-11134:14 11136-11147:14 11150-11176:52 11180-111df:85 111e1-111f4:89 11200-11211:46
    11213-11241:46 11280-11286:62 11288:62 1128a-1128d:62 1128f-1129d:62 1129f-112a9:62
    112b0-112ea:47 112f0-112f9:47 11300-11303:2b 11305-1130c:2b 1130f-11310:2b 11313-11328:2b
    1132a-11330:2b 11332-11333:2b 11335-11339:2b 1133b:39 1133c-11344:2b 11347-11348:2b
    1134b-1134d:2b 11350:2b 11357:2b 1135d-11363:2b 11366-1136c:2b 11370-11374:2b 11380-11389:a2
    1138b:a2 1138e:a2 11390-113b5:a2 113b7-113c0:a2 113c2:a2 113c5:a2 113c7-113ca:a2 113cc-113d5:a2
    113d7-113d8:a2 113e1-113e2:a2 11400-1145b:68 1145d-11461:68 11480-114c7:9f 114d0-114d9:9f
    11580-115b5:87 115b8-115dd:87 11600-11644:5f 11650-11659:5f 11660-1166c:60 11680-116b9:96
    116c0-116c9:96 116d0-116e3:63 11700-1171a:1 1171d-1172b:1 11730-11746:1 11800-1183b:21
    118a0-118f2:a8 118ff:a8 11900-11906:20 11909:20 1190c-11913:20 11915-11916:20 11918-11935:20
    11937-11938:20 1193b-11946:20 11950-11959:20 119a0-119a7:66 119aa-119d7:66 119da-119e4:66
    11a00-11a47:ab 11a50-11aa2:8c 11ab0-11abf:11 11ac0-11af8:7d 11b00-11b09:1f 11bc0-11be1:8e
    11bf0-11bf9:8e 11c00-11c08:b 11c0a-11c36:b 11c38-11c45:b 11c50-11c6c:b 11c70-11c8f:57
    11c92-11ca7:57 11ca9-11cb6:57 11d00-11d06:58 11d08-11d09:58 11d0b-11d36:58 11d3a:58
    11d3c-11d3d:58 11d3f-11d47:58 11d50-11d59:58 11d60-11d65:2e 11d67-11d68:2e 11d6a-11d8e:2e
    11d90-11d91:2e 11d93-11d98:2e 11da0-11da9:2e 11ee0-11ef8:53 11f00-11f10:41 11f12-11f3a:41
    11f3e-11f5a:41 11fb0:4f 11fc0-11ff1:97 11fff:97 12000-12399:1a 12400-1246e:1a 12470-12474:1a
    12480-12543:1a 12f90-12ff2:1c 13000-13455:23 13460-143fa:23 14400-14646:2 16100-16139:30
    16800-16a38:7 16a40-16a5e:61 16a60-16a69:61 16a6e-16a6f:61 16a70-16abe:98 16ac0-16ac9:98
    16ad0-16aed:8 16af0-16af5:8 16b00-16b45:7b 16b50-16b59:7b 16b5b-16b61:7b 16b63-16b77:7b
    16b7d-16b8f:7b 16d40-16d79:48 16e40-16e9a:59 16f00-16f4a:5e 16f4f-16f87:5e 16f8f-16f9f:5e
    16fe0:99 16fe1:6a 16fe2-16fe3:31 16fe4:44 16ff0-16ff1:31 17000-187f7:99 18800-18aff:99
    18b00-18cd5:44 18cff:44 18d00-18d08:99 1aff0-1aff3:3f 1aff5-1affb:3f 1affd-1affe:3f 1b000:3f
    1b001-1b11f:37 1b120-1b122:3f 1b132:37 1b150-1b152:37 1b155:3f 1b164-1b167:3f 1b170-1b2fb:6a
    1bc00-1bc6a:22 1bc70-1bc7c:22 1bc80-1bc88:22 1bc90-1bc99:22 1bc9c-1bc9f:22 1bca0-1bca3:18
    1cc00-1ccf9:18 1cd00-1ceb3:18 1cf00-1cf2d:39 1cf30-1cf46:39 1cf50-1cfc3:18 1d000-1d0f5:18
    1d100-1d126:18 1d129-1d166:18 1d167-1d169:39 1d16a-1d17a:18 1d17b-1d182:39 1d183-1d184:18
    1d185-1d18b:39 1d18c-1d1a9:18 1d1aa-1d1ad:39 1d1ae-1d1ea:18 1d200-1d245:2c 1d2c0-1d2d3:18
    1d2e0-1d2f3:18 1d300-1d356:18 1d360-1d378:18 1d400-1d454:18 1d456-1d49c:18 1d49e-1d49f:18
    1d4a2:18 1d4a5-1d4a6:18 1d4a9-1d4ac:18 1d4ae-1d4b9:18 1d4bb:18 1d4bd-1d4c3:18 1d4c5-1d505:18
    1d507-1d50a:18 1d50d-1d514:18 1d516-1d51c:18 1d51e-1d539:18 1d53b-1d53e:18 1d540-1d544:18
    1d546:18 1d54a-1d550:18 1d552-1d6a5:18 1d6a8-1d7cb:18 1d7ce-1d7ff:18 1d800-1da8b:88
    1da9b-1da9f:88 1daa1-1daaf:88 1df00-1df1e:4a 1df25-1df2a:4a 1e000-1e006:29 1e008-1e018:29
    1e01b-1e021:29 1e023-1e024:29 1e026-1e02a:29 1e030-1e06d:1d 1e08f:1d 1e100-1e12c:6b
    1e130-1e13d:6b 1e140-1e149:6b 1e14e-1e14f:6b 1e290-1e2ae:a1 1e2c0-1e2f9:a7 1e2ff:a7
    1e4d0-1e4f9:65 1e5d0-1e5fa:6e 1e5ff:6e 1e7e0-1e7e6:26 1e7e8-1e7eb:26 1e7ed-1e7ee:26
    1e7f0-1e7fe:26 1e800-1e8c4:5b 1e8c7-1e8d6:5b 1e900-1e94b:0 1e950-1e959:0 1e95e-1e95f:0
    1ec71-1ecb4:18 1ed01-1ed3d:18 1ee00-1ee03:3 1ee05-1ee1f:3 1ee21-1ee22:3 1ee24:3 1ee27:3
    1ee29-1ee32:3 1ee34-1ee37:3 1ee39:3 1ee3b:3 1ee42:3 1ee47:3 1ee49:3 1ee4b:3 1ee4d-1ee4f:3
    1ee51-1ee52:3 1ee54:3 1ee57:3 1ee59:3 1ee5b:3 1ee5d:3 1ee5f:3 1ee61-1ee62:3 1ee64:3
    1ee67-1ee6a:3 1ee6c-1ee72:3 1ee74-1ee77:3 1ee79-1ee7c:3 1ee7e:3 1ee80-1ee89:3 1ee8b-1ee9b:3
    1eea1-1eea3:3 1eea5-1eea9:3 1eeab-1eebb:3 1eef0-1eef1:3 1f000-1f02b:18 1f030-1f093:18
    1f0a0-1f0ae:18 1f0b1-1f0bf:18 1f0c1-1f0cf:18 1f0d1-1f0f5:18 1f100-1f1ad:18 1f1e6-1f1ff:18
    1f200:37 1f201-1f202:18 1f210-1f23b:18 1f240-1f248:18 1f250-1f251:18 1f260-1f265:18
    1f300-1f6d7:18 1f6dc-1f6ec:18 1f6f0-1f6fc:18 1f700-1f776:18 1f77b-1f7d9:18 1f7e0-1f7eb:18
    1f7f0:18 1f800-1f80b:18 1f810-1f847:18 1f850-1f859:18 1f860-1f887:18 1f890-1f8ad:18
    1f8b0-1f8bb:18 1f8c0-1f8c1:18 1f900-1fa53:18 1fa60-1fa6d:18 1fa70-1fa7c:18 1fa80-1fa89:18
    1fa8f-1fac6:18 1face-1fadc:18 1fadf-1fae9:18 1faf0-1faf8:18 1fb00-1fb92:18 1fb94-1fbf9:18
    20000-2a6df:31 2a700-2b739:31 2b740-2b81d:31 2b820-2cea1:31 2ceb0-2ebe0:31 2ebf0-2ee5d:31
    2f800-2fa1d:31 30000-3134a:31 31350-323af:31 e0001:18 e0020-e007f:18 e0100-e01ef:39"

/-- The scripts in which a character is used, where they are not just the script it has. -/
def scriptExtensions : String :=
  "
  b7:5,12,19,22,24,28,29,2a,2c,2e,31,4a,51,52,72,86 2bc:a,1d,1f,4a,4f,9c,a1 2c7:c,4a 2c9-2cb:c,4a
  2cd:4a,4f 2d7:4a,9c 2d9:c,4a 300:16,19,1d,2c,4a,72,8e,93 301:16,1d,2c,4a,79,8e,93,a0
  302:16,1d,4a,9e 303:29,4a,8e,90,9c 304:13,16,19,1d,2a,2c,4a,79,90,9e,a0 305:19,24,29,2a,3f,4a
  306:1d,2c,4a,72 307:19,22,36,4a,72,90,93,9e,a0 308:4,1d,22,2a,2c,36,4a,72,90,93 309:4a,9e
  30a:22,4a,90 30b:16,1d,4a,79 30c:16,4a,93 30d:4a,8e 30e:26,4a 310:4a,8e 311:1d,4a,a0
  313:2c,4a,72,a0 320:4a,90 323:16,22,3f,4a,90 324:16,22,4a,90 325:4a,90 32d:4a,8e,90 32e:4a,90
  330:16,4a,90 331:13,16,2a,4a,8e,9c 342:2c 345:2c 358:4a,79 35e:13,4a,a0 363-36f:4a 374-375:19,2c
  483:1d,72 484:1d,29 485-486:1d,4a 487:1d,29 589:4,28,29 60c:3,27,33,69,90,9b,a9
  61b:3,27,33,69,90,9b,a9 61c:3,90,9b 61f:0,3,27,33,69,90,9b,a9 640:0,3,33,55,56,77,80,8a,90
  64b-655:3,90 660-669:3,9b,a9 670:3,90 6d4:3,33 951:a,1f,2b,2d,2f,3e,4a,54,78,85,97,9a,9f
  952:a,1f,2b,2d,2f,3e,4a,54,78,97,9a,9f
  964:a,1f,21,2b,2d,2e,2f,3e,47,52,54,58,66,6e,78,89,8f,96,97,9a,9f
  965:a,1f,21,2b,2d,2e,2f,30,3e,47,4c,52,54,58,66,6e,78,89,8f,96,97,9a,9f 966-96f:1f,21,3d,52
  9e6-9ef:a,14,8f a66-a6f:2f,62 ae6-aef:2d,46 be6-bf3:2b,97 ce6-cef:3e,66,a2 1040-1049:14,63,93
  10fb:28,29,4a 16eb-16ed:82 1735-1736:10,34,91,92 1802-1803:60,7e 1805:60,7e 1cd0:a,1f,2b,3e
  1cd1:1f 1cd2:a,1f,2b,3e 1cd3:1f,2b,3e 1cd4:1f 1cd5-1cd6:a,1f 1cd7:1f,85 1cd8:a,1f 1cd9:1f,85
  1cda:1f,3e,54,78,97,9a 1cdb:1f 1cdc-1cdd:1f,85 1cde-1cdf:1f 1ce0:1f,85 1ce1:a,1f 1ce2-1ce8:1f
  1ce9:1f,66 1cea:a,1f 1ceb-1cec:1f 1ced:a,1f 1cee-1cf1:1f 1cf2:a,1f,2b,3e,54,66,78,89,9a,9f,a2
  1cf3:1f,2b 1cf4:1f,2b,3e,a2 1cf5-1cf6:a,1f 1cf7:a 1cf8-1cf9:1f,2b 1cfa:66 1dc0-1dc1:2c
  1df8:1d,4a,90 1dfa:90 202f:4a,60,7e 204f:0,3 205a:12,28,29,50,6f,76 205d:12,2c,5d,6f
  20f0:1f,2b,4a 2e17:19,4a 2e30:5,76 2e31:5,12,28,3d,51,6f,83 2e3c:22 2e41:0,3,6f 2e43:1d,29
  2ff0-2fff:31,99 3001:c,31,32,37,3f,60,aa 3002:c,31,32,37,3f,60,7e,aa 3003:c,31,32,37,3f 3006:31
  3008-3009:c,31,32,37,3f,60,9d,aa 300a-300b:c,31,32,37,3f,4f,60,9d,aa 300c-3011:c,31,32,37,3f,aa
  3013:c,31,32,37,3f 3014-301b:c,31,32,37,3f,aa 301c-301f:c,31,32,37,3f 302a-302d:c,31
  3030:c,31,32,37,3f 3031-3035:37,3f 3037:c,31,32,37,3f 303c-303d:31,37,3f 303e-303f:31
  3099-309c:37,3f 30a0:37,3f 30fb:c,31,32,37,3f,aa 30fc:37,3f 3190-319f:31 31c0-31e5:31 31ef:31,99
  3220-3247:31 3280-32b0:31 32c0-32cb:31 32ff:31 3358-3370:31 337b-337f:31 33e0-33fe:31 a66f:1d,29
  a700-a707:31,4a a830-a832:1f,21,2d,2f,3d,3e,46,47,52,54,5f,66,85,96,9f,a2
  a833-a835:1f,21,2d,2f,3d,3e,46,47,52,5f,66,85,96,9f,a2 a836-a837:1f,21,2d,2f,3d,46,47,52,5f,96,9f
  a838:1f,21,2d,2f,3d,46,47,52,5f,85,96,9f a839:1f,21,2d,2f,3d,46,47,52,5f,96,9f a8f1:a,1f,a2
  a8f3:1f,97 a92e:42,4a,63 a9cf:f,3c fd3e-fd3f:3,69 fdf2:3,9b fdfd:3,9b fe45-fe46:c,31,32,37,3f
  ff61-ff65:c,31,32,37,3f,aa ff70:37,3f ff9e-ff9f:37,3f 10100-10101:1b,1c,4e 10102:1b,4e
  10107-10133:1b,4d,4e 10137-1013f:1b,4e 102e0-102fb:3,19 10af2:56,77 11301:2b,97 11303:2b,97
  1133b-1133c:2b,97 11fd0-11fd1:2b,97 11fd3:2b,97 1bca0-1bca3:22 1d360-1d371:31 1f250-1f251:31"

end BracketQuery.Regex
