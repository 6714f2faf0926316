import BracketQuery.Text.Partition

/-!
Data of the Unicode standard: the general categories of characters.
-/

namespace BracketQuery.Regex

/-- The category of every character that has one; the other characters are not assigned. -/
def generalCategory : Text.Partition where
  values :=
    "
    lu uppercaseletter; ll lowercaseletter; lt titlecaseletter; lm modifierletter; lo otherletter;
    mn nonspacingmark; mc spacingmark; me enclosingmark; nd digit decimalnumber; nl letternumber;
    no othernumber; pc connectorpunctuation; pd dashpunctuation; ps openpunctuation; pe
    closepunctuation; pi initialpunctuation; pf finalpunctuation; po otherpunctuation; sm
    mathsymbol; sc currencysymbol; sk modifiersymbol; so othersymbol; zs spaceseparator; zl
    lineseparator; zp paragraphseparator; cc cntrl control; cf format; co privateuse; cs surrogate"
  runs :=
    "
    0-1f:19 20:16 21-23:11 24:13 25-27:11 28:d 29:e 2a:11 2b:12 2c:11 2d:c 2e-2f:11 30-39:8
    3a-3b:11 3c-3e:12 3f-40:11 41-5a:0 5b:d 5c:11 5d:e 5e:14 5f:b 60:14 61-7a:1 7b:d 7c:12 7d:e
    7e:12 7f-9f:19 a0:16 a1:11 a2-a5:13 a6:15 a7:11 a8:14 a9:15 aa:4 ab:f ac:12 ad:1a ae:15 af:14
    b0:15 b1:12 b2-b3:a b4:14 b5:1 b6-b7:11 b8:14 b9:a ba:4 bb:10 bc-be:a bf:11 c0-d6:0 d7:12
    d8-de:0 df-f6:1 f7:12 f8-ff:1 100:0 101:1 102:0 103:1 104:0 105:1 106:0 107:1 108:0 109:1 10a:0
    10b:1 10c:0 10d:1 10e:0 10f:1 110:0 111:1 112:0 113:1 114:0 115:1 116:0 117:1 118:0 119:1 11a:0
    11b:1 11c:0 11d:1 11e:0 11f:1 120:0 121:1 122:0 123:1 124:0 125:1 126:0 127:1 128:0 129:1 12a:0
    12b:1 12c:0 12d:1 12e:0 12f:1 130:0 131:1 132:0 133:1 134:0 135:1 136:0 137-138:1 139:0 13a:1
    13b:0 13c:1 13d:0 13e:1 13f:0 140:1 141:0 142:1 143:0 144:1 145:0 146:1 147:0 148-149:1 14a:0
    14b:1 14c:0 14d:1 14e:0 14f:1 150:0 151:1 152:0 153:1 154:0 155:1 156:0 157:1 158:0 159:1 15a:0
    15b:1 15c:0 15d:1 15e:0 15f:1 160:0 161:1 162:0 163:1 164:0 165:1 166:0 167:1 168:0 169:1 16a:0
    16b:1 16c:0 16d:1 16e:0 16f:1 170:0 171:1 172:0 173:1 174:0 175:1 176:0 177:1 178-179:0 17a:1
    17b:0 17c:1 17d:0 17e-180:1 181-182:0 183:1 184:0 185:1 186-187:0 188:1 189-18b:0 18c-18d:1
    18e-191:0 192:1 193-194:0 195:1 196-198:0 199-19b:1 19c-19d:0 19e:1 19f-1a0:0 1a1:1 1a2:0 1a3:1
    1a4:0 1a5:1 1a6-1a7:0 1a8:1 1a9:0 1aa-1ab:1 1ac:0 1ad:1 1ae-1af:0 1b0:1 1b1-1b3:0 1b4:1 1b5:0
    1b6:1 1b7-1b8:0 1b9-1ba:1 1bb:4 1bc:0 1bd-1bf:1 1c0-1c3:4 1c4:0 1c5:2 1c6:1 1c7:0 1c8:2 1c9:1
    1ca:0 1cb:2 1cc:1 1cd:0 1ce:1 1cf:0 1d0:1 1d1:0 1d2:1 1d3:0 1d4:1 1d5:0 1d6:1 1d7:0 1d8:1 1d9:0
    1da:1 1db:0 1dc-1dd:1 1de:0 1df:1 1e0:0 1e1:1 1e2:0 1e3:1 1e4:0 1e5:1 1e6:0 1e7:1 1e8:0 1e9:1
    1ea:0 1eb:1 1ec:0 1ed:1 1ee:0 1ef-1f0:1 1f1:0 1f2:2 1f3:1 1f4:0 1f5:1 1f6-1f8:0 1f9:1 1fa:0
    1fb:1 1fc:0 1fd:1 1fe:0 1ff:1 200:0 201:1 202:0 203:1 204:0 205:1 206:0 207:1 208:0 209:1 20a:0
    20b:1 20c:0 20d:1 20e:0 20f:1 210:0 211:1 212:0 213:1 214:0 215:1 216:0 217:1 218:0 219:1 21a:0
    21b:1 21c:0 21d:1 21e:0 21f:1 220:0 221:1 222:0 223:1 224:0 225:1 226:0 227:1 228:0 229:1 22a:0
    22b:1 22c:0 22d:1 22e:0 22f:1 230:0 231:1 232:0 233-239:1 23a-23b:0 23c:1 23d-23e:0 23f-240:1
    241:0 242:1 243-246:0 247:1 248:0 249:1 24a:0 24b:1 24c:0 24d:1 24e:0 24f-293:1 294:4 295-2af:1
    2b0-2c1:3 2c2-2c5:14 2c6-2d1:3 2d2-2df:14 2e0-2e4:3 2e5-2eb:14 2ec:3 2ed:14 2ee:3 2ef-2ff:14
    300-36f:5 370:0 371:1 372:0 373:1 374:3 375:14 376:0 377:1 37a:3 37b-37d:1 37e:11 37f:0
    384-385:14 386:0 387:11 388-38a:0 38c:0 38e-38f:0 390:1 391-3a1:0 3a3-3ab:0 3ac-3ce:1 3cf:0
    3d0-3d1:1 3d2-3d4:0 3d5-3d7:1 3d8:0 3d9:1 3da:0 3db:1 3dc:0 3dd:1 3de:0 3df:1 3e0:0 3e1:1 3e2:0
    3e3:1 3e4:0 3e5:1 3e6:0 3e7:1 3e8:0 3e9:1 3ea:0 3eb:1 3ec:0 3ed:1 3ee:0 3ef-3f3:1 3f4:0 3f5:1
    3f6:12 3f7:0 3f8:1 3f9-3fa:0 3fb-3fc:1 3fd-42f:0 430-45f:1 460:0 461:1 462:0 463:1 464:0 465:1
    466:0 467:1 468:0 469:1 46a:0 46b:1 46c:0 46d:1 46e:0 46f:1 470:0 471:1 472:0 473:1 474:0 475:1
    476:0 477:1 478:0 479:1 47a:0 47b:1 47c:0 47d:1 47e:0 47f:1 480:0 481:1 482:15 483-487:5
    488-489:7 48a:0 48b:1 48c:0 48d:1 48e:0 48f:1 490:0 491:1 492:0 493:1 494:0 495:1 496:0 497:1
    498:0 499:1 49a:0 49b:1 49c:0 49d:1 49e:0 49f:1 4a0:0 4a1:1 4a2:0 4a3:1 4a4:0 4a5:1 4a6:0 4a7:1
    4a8:0 4a9:1 4aa:0 4ab:1 4ac:0 4ad:1 4ae:0 4af:1 4b0:0 4b1:1 4b2:0 4b3:1 4b4:0 4b5:1 4b6:0 4b7:1
    4b8:0 4b9:1 4ba:0 4bb:1 4bc:0 4bd:1 4be:0 4bf:1 4c0-4c1:0 4c2:1 4c3:0 4c4:1 4c5:0 4c6:1 4c7:0
    4c8:1 4c9:0 4ca:1 4cb:0 4cc:1 4cd:0 4ce-4cf:1 4d0:0 4d1:1 4d2:0 4d3:1 4d4:0 4d5:1 4d6:0 4d7:1
    4d8:0 4d9:1 4da:0 4db:1 4dc:0 4dd:1 4de:0 4df:1 4e0:0 4e1:1 4e2:0 4e3:1 4e4:0 4e5:1 4e6:0 4e7:1
    4e8:0 4e9:1 4ea:0 4eb:1 4ec:0 4ed:1 4ee:0 4ef:1 4f0:0 4f1:1 4f2:0 4f3:1 4f4:0 4f5:1 4f6:0 4f7:1
    4f8:0 4f9:1 4fa:0 4fb:1 4fc:0 4fd:1 4fe:0 4ff:1 500:0 501:1 502:0 503:1 504:0 505:1 506:0 507:1
    508:0 509:1 50a:0 50b:1 50c:0 50d:1 50e:0 50f:1 510:0 511:1 512:0 513:1 514:0 515:1 516:0 517:1
    518:0 519:1 51a:0 51b:1 51c:0 51d:1 51e:0 51f:1 520:0 521:1 522:0 523:1 524:0 525:1 526:0 527:1
    528:0 529:1 52a:0 52b:1 52c:0 52d:1 52e:0 52f:1 531-556:0 559:3 55a-55f:11 560-588:1 589:11
    58a:c 58d-58e:15 58f:13 591-5bd:5 5be:c 5bf:5 5c0:11 5c1-5c2:5 5c3:11 5c4-5c5:5 5c6:11 5c7:5
    5d0-5ea:4 5ef-5f2:4 5f3-5f4:11 600-605:1a 606-608:12 609-60a:11 60b:13 60c-60d:11 60e-60f:15
    610-61a:5 61b:11 61c:1a 61d-61f:11 620-63f:4 640:3 641-64a:4 64b-65f:5 660-669:8 66a-66d:11
    66e-66f:4 670:5 671-6d3:4 6d4:11 6d5:4 6d6-6dc:5 6dd:1a 6de:15 6df-6e4:5 6e5-6e6:3 6e7-6e8:5
    6e9:15 6ea-6ed:5 6ee-6ef:4 6f0-6f9:8 6fa-6fc:4 6fd-6fe:15 6ff:4 700-70d:11 70f:1a 710:4 711:5
    712-72f:4 730-74a:5 74d-7a5:4 7a6-7b0:5 7b1:4 7c0-7c9:8 7ca-7ea:4 7eb-7f3:5 7f4-7f5:3 7f6:15
    7f7-7f9:11 7fa:3 7fd:5 7fe-7ff:13 800-815:4 816-819:5 81a:3 81b-823:5 824:3 825-827:5 828:3
    829-82d:5 830-83e:11 840-858:4 859-85b:5 85e:11 860-86a:4 870-887:4 888:14 889-88e:4 890-891:1a
    897-89f:5 8a0-8c8:4 8c9:3 8ca-8e1:5 8e2:1a 8e3-902:5 903:6 904-939:4 93a:5 93b:6 93c:5 93d:4
    93e-940:6 941-948:5 949-94c:6 94d:5 94e-94f:6 950:4 951-957:5 958-961:4 962-963:5 964-965:11
    966-96f:8 970:11 971:3 972-980:4 981:5 982-983:6 985-98c:4 98f-990:4 993-9a8:4 9aa-9b0:4 9b2:4
    9b6-9b9:4 9bc:5 9bd:4 9be-9c0:6 9c1-9c4:5 9c7-9c8:6 9cb-9cc:6 9cd:5 9ce:4 9d7:6 9dc-9dd:4
    9df-9e1:4 9e2-9e3:5 9e6-9ef:8 9f0-9f1:4 9f2-9f3:13 9f4-9f9:a 9fa:15 9fb:13 9fc:4 9fd:11 9fe:5
    a01-a02:5 a03:6 a05-a0a:4 a0f-a10:4 a13-a28:4 a2a-a30:4 a32-a33:4 a35-a36:4 a38-a39:4 a3c:5
    a3e-a40:6 a41-a42:5 a47-a48:5 a4b-a4d:5 a51:5 a59-a5c:4 a5e:4 a66-a6f:8 a70-a71:5 a72-a74:4
    a75:5 a76:11 a81-a82:5 a83:6 a85-a8d:4 a8f-a91:4 a93-aa8:4 aaa-ab0:4 ab2-ab3:4 ab5-ab9:4 abc:5
    abd:4 abe-ac0:6 ac1-ac5:5 ac7-ac8:5 ac9:6 acb-acc:6 acd:5 ad0:4 ae0-ae1:4 ae2-ae3:5 ae6-aef:8
    af0:11 af1:13 af9:4 afa-aff:5 b01:5 b02-b03:6 b05-b0c:4 b0f-b10:4 b13-b28:4 b2a-b30:4 b32-b33:4
    b35-b39:4 b3c:5 b3d:4 b3e:6 b3f:5 b40:6 b41-b44:5 b47-b48:6 b4b-b4c:6 b4d:5 b55-b56:5 b57:6
    b5c-b5d:4 b5f-b61:4 b62-b63:5 b66-b6f:8 b70:15 b71:4 b72-b77:a b82:5 b83:4 b85-b8a:4 b8e-b90:4
    b92-b95:4 b99-b9a:4 b9c:4 b9e-b9f:4 ba3-ba4:4 ba8-baa:4 bae-bb9:4 bbe-bbf:6 bc0:5 bc1-bc2:6
    bc6-bc8:6 bca-bcc:6 bcd:5 bd0:4 bd7:6 be6-bef:8 bf0-bf2:a bf3-bf8:15 bf9:13 bfa:15 c00:5
    c01-c03:6 c04:5 c05-c0c:4 c0e-c10:4 c12-c28:4 c2a-c39:4 c3c:5 c3d:4 c3e-c40:5 c41-c44:6
    c46-c48:5 c4a-c4d:5 c55-c56:5 c58-c5a:4 c5d:4 c60-c61:4 c62-c63:5 c66-c6f:8 c77:11 c78-c7e:a
    c7f:15 c80:4 c81:5 c82-c83:6 c84:11 c85-c8c:4 c8e-c90:4 c92-ca8:4 caa-cb3:4 cb5-cb9:4 cbc:5
    cbd:4 cbe:6 cbf:5 cc0-cc4:6 cc6:5 cc7-cc8:6 cca-ccb:6 ccc-ccd:5 cd5-cd6:6 cdd-cde:4 ce0-ce1:4
    ce2-ce3:5 ce6-cef:8 cf1-cf2:4 cf3:6 d00-d01:5 d02-d03:6 d04-d0c:4 d0e-d10:4 d12-d3a:4 d3b-d3c:5
    d3d:4 d3e-d40:6 d41-d44:5 d46-d48:6 d4a-d4c:6 d4d:5 d4e:4 d4f:15 d54-d56:4 d57:6 d58-d5e:a
    d5f-d61:4 d62-d63:5 d66-d6f:8 d70-d78:a d79:15 d7a-d7f:4 d81:5 d82-d83:6 d85-d96:4 d9a-db1:4
    db3-dbb:4 dbd:4 dc0-dc6:4 dca:5 dcf-dd1:6 dd2-dd4:5 dd6:5 dd8-ddf:6 de6-def:8 df2-df3:6 df4:11
    e01-e30:4 e31:5 e32-e33:4 e34-e3a:5 e3f:13 e40-e45:4 e46:3 e47-e4e:5 e4f:11 e50-e59:8
    e5a-e5b:11 e81-e82:4 e84:4 e86-e8a:4 e8c-ea3:4 ea5:4 ea7-eb0:4 eb1:5 eb2-eb3:4 eb4-ebc:5 ebd:4
    ec0-ec4:4 ec6:3 ec8-ece:5 ed0-ed9:8 edc-edf:4 f00:4 f01-f03:15 f04-f12:11 f13:15 f14:11
    f15-f17:15 f18-f19:5 f1a-f1f:15 f20-f29:8 f2a-f33:a f34:15 f35:5 f36:15 f37:5 f38:15 f39:5
    f3a:d f3b:e f3c:d f3d:e f3e-f3f:6 f40-f47:4 f49-f6c:4 f71-f7e:5 f7f:6 f80-f84:5 f85:11
    f86-f87:5 f88-f8c:4 f8d-f97:5 f99-fbc:5 fbe-fc5:15 fc6:5 fc7-fcc:15 fce-fcf:15 fd0-fd4:11
    fd5-fd8:15 fd9-fda:11 1000-102a:4 102b-102c:6 102d-1030:5 1031:6 1032-1037:5 1038:6 1039-103a:5
    103b-103c:6 103d-103e:5 103f:4 1040-1049:8 104a-104f:11 1050-1055:4 1056-1057:6 1058-1059:5
    105a-105d:4 105e-1060:5 1061:4 1062-1064:6 1065-1066:4 1067-106d:6 106e-1070:4 1071-1074:5
    1075-1081:4 1082:5 1083-1084:6 1085-1086:5 1087-108c:6 108d:5 108e:4 108f:6 1090-1099:8
    109a-109c:6 109d:5 109e-109f:15 10a0-10c5:0 10c7:0 10cd:0 10d0-10fa:1 10fb:11 10fc:3
    10fd-10ff:1 1100-1248:4 124a-124d:4 1250-1256:4 1258:4 125a-125d:4 1260-1288:4 128a-128d:4
    1290-12b0:4 12b2-12b5:4 12b8-12be:4 12c0:4 12c2-12c5:4 12c8-12d6:4 12d8-1310:4 1312-1315:4
    1318-135a:4 135d-135f:5 1360-1368:11 1369-137c:a 1380-138f:4 1390-1399:15 13a0-13f5:0
    13f8-13fd:1 1400:c 1401-166c:4 166d:15 166e:11 166f-167f:4 1680:16 1681-169a:4 169b:d 169c:e
    16a0-16ea:4 16eb-16ed:11 16ee-16f0:9 16f1-16f8:4 1700-1711:4 1712-1714:5 1715:6 171f-1731:4
    1732-1733:5 1734:6 1735-1736:11 1740-1751:4 1752-1753:5 1760-176c:4 176e-1770:4 1772-1773:5
    1780-17b3:4 17b4-17b5:5 17b6:6 17b7-17bd:5 17be-17c5:6 17c6:5 17c7-17c8:6 17c9-17d3:5
    17d4-17d6:11 17d7:3 17d8-17da:11 17db:13 17dc:4 17dd:5 17e0-17e9:8 17f0-17f9:a 1800-1805:11
    1806:c 1807-180a:11 180b-180d:5 180e:1a 180f:5 1810-1819:8 1820-1842:4 1843:3 1844-1878:4
    1880-1884:4 1885-1886:5 1887-18a8:4 18a9:5 18aa:4 18b0-18f5:4 1900-191e:4 1920-1922:5
    1923-1926:6 1927-1928:5 1929-192b:6 1930-1931:6 1932:5 1933-1938:6 1939-193b:5 1940:15
    1944-1945:11 1946-194f:8 1950-196d:4 1970-1974:4 1980-19ab:4 19b0-19c9:4 19d0-19d9:8 19da:a
    19de-19ff:15 1a00-1a16:4 1a17-1a18:5 1a19-1a1a:6 1a1b:5 1a1e-1a1f:11 1a20-1a54:4 1a55:6 1a56:5
    1a57:6 1a58-1a5e:5 1a60:5 1a61:6 1a62:5 1a63-1a64:6 1a65-1a6c:5 1a6d-1a72:6 1a73-1a7c:5 1a7f:5
    1a80-1a89:8 1a90-1a99:8 1aa0-1aa6:11 1aa7:3 1aa8-1aad:11 1ab0-1abd:5 1abe:7 1abf-1ace:5
    1b00-1b03:5 1b04:6 1b05-1b33:4 1b34:5 1b35:6 1b36-1b3a:5 1b3b:6 1b3c:5 1b3d-1b41:6 1b42:5
    1b43-1b44:6 1b45-1b4c:4 1b4e-1b4f:11 1b50-1b59:8 1b5a-1b60:11 1b61-1b6a:15 1b6b-1b73:5
    1b74-1b7c:15 1b7d-1b7f:11 1b80-1b81:5 1b82:6 1b83-1ba0:4 1ba1:6 1ba2-1ba5:5 1ba6-1ba7:6
    1ba8-1ba9:5 1baa:6 1bab-1bad:5 1bae-1baf:4 1bb0-1bb9:8 1bba-1be5:4 1be6:5 1be7:6 1be8-1be9:5
    1bea-1bec:6 1bed:5 1bee:6 1bef-1bf1:5 1bf2-1bf3:6 1bfc-1bff:11 1c00-1c23:4 1c24-1c2b:6
    1c2c-1c33:5 1c34-1c35:6 1c36-1c37:5 1c3b-1c3f:11 1c40-1c49:8 1c4d-1c4f:4 1c50-1c59:8
    1c5a-1c77:4 1c78-1c7d:3 1c7e-1c7f:11 1c80-1c88:1 1c89:0 1c8a:1 1c90-1cba:0 1cbd-1cbf:0
    1cc0-1cc7:11 1cd0-1cd2:5 1cd3:11 1cd4-1ce0:5 1ce1:6 1ce2-1ce8:5 1ce9-1cec:4 1ced:5 1cee-1cf3:4
    1cf4:5 1cf5-1cf6:4 1cf7:6 1cf8-1cf9:5 1cfa:4 1d00-1d2b:1 1d2c-1d6a:3 1d6b-1d77:1 1d78:3
    1d79-1d9a:1 1d9b-1dbf:3 1dc0-1dff:5 1e00:0 1e01:1 1e02:0 1e03:1 1e04:0 1e05:1 1e06:0 1e07:1
    1e08:0 1e09:1 1e0a:0 1e0b:1 1e0c:0 1e0d:1 1e0e:0 1e0f:1 1e10:0 1e11:1 1e12:0 1e13:1 1e14:0
    1e15:1 1e16:0 1e17:1 1e18:0 1e19:1 1e1a:0 1e1b:1 1e1c:0 1e1d:1 1e1e:0 1e1f:1 1e20:0 1e21:1
    1e22:0 1e23:1 1e24:0 1e25:1 1e26:0 1e27:1 1e28:0 1e29:1 1e2a:0 1e2b:1 1e2c:0 1e2d:1 1e2e:0
    1e2f:1 1e30:0 1e31:1 1e32:0 1e33:1 1e34:0 1e35:1 1e36:0 1e37:1 1e38:0 1e39:1 1e3a:0 1e3b:1
    1e3c:0 1e3d:1 1e3e:0 1e3f:1 1e40:0 1e41:1 1e42:0 1e43:1 1e44:0 1e45:1 1e46:0 1e47:1 1e48:0
    1e49:1 1e4a:0 1e4b:1 1e4c:0 1e4d:1 1e4e:0 1e4f:1 1e50:0 1e51:1 1e52:0 1e53:1 1e54:0 1e55:1
    1e56:0 1e57:1 1e58:0 1e59:1 1e5a:0 1e5b:1 1e5c:0 1e5d:1 1e5e:0 1e5f:1 1e60:0 1e61:1 1e62:0
    1e63:1 1e64:0 1e65:1 1e66:0 1e67:1 1e68:0 1e69:1 1e6a:0 1e6b:1 1e6c:0 1e6d:1 1e6e:0 1e6f:1
    1e70:0 1e71:1 1e72:0 1e73:1 1e74:0 1e75:1 1e76:0 1e77:1 1e78:0 1e79:1 1e7a:0 1e7b:1 1e7c:0
    1e7d:1 1e7e:0 1e7f:1 1e80:0 1e81:1 1e82:0 1e83:1 1e84:0 1e85:1 1e86:0 1e87:1 1e88:0 1e89:1
    1e8a:0 1e8b:1 1e8c:0 1e8d:1 1e8e:0 1e8f:1 1e90:0 1e91:1 1e92:0 1e93:1 1e94:0 1e95-1e9d:1 1e9e:0
    1e9f:1 1ea0:0 1ea1:1 1ea2:0 1ea3:1 1ea4:0 1ea5:1 1ea6:0 1ea7:1 1ea8:0 1ea9:1 1eaa:0 1eab:1
    1eac:0 1ead:1 1eae:0 1eaf:1 1eb0:0 1eb1:1 1eb2:0 1eb3:1 1eb4:0 1eb5:1 1eb6:0 1eb7:1 1eb8:0
    1eb9:1 1eba:0 1ebb:1 1ebc:0 1ebd:1 1ebe:0 1ebf:1 1ec0:0 1ec1:1 1ec2:0 1ec3:1 1ec4:0 1ec5:1
    1ec6:0 1ec7:1 1ec8:0 1ec9:1 1eca:0 1ecb:1 1ecc:0 1ecd:1 1ece:0 1ecf:1 1ed0:0 1ed1:1 1ed2:0
    1ed3:1 1ed4:0 1ed5:1 1ed6:0 1ed7:1 1ed8:0 1ed9:1 1eda:0 1edb:1 1edc:0 1edd:1 1ede:0 1edf:1
    1ee0:0 1ee1:1 1ee2:0 1ee3:1 1ee4:0 1ee5:1 1ee6:0 1ee7:1 1ee8:0 1ee9:1 1eea:0 1eeb:1 1eec:0
    1eed:1 1eee:0 1eef:1 1ef0:0 1ef1:1 1ef2:0 1ef3:1 1ef4:0 1ef5:1 1ef6:0 1ef7:1 1ef8:0 1ef9:1
    1efa:0 1efb:1 1efc:0 1efd:1 1efe:0 1eff-1f07:1 1f08-1f0f:0 1f10-1f15:1 1f18-1f1d:0 1f20-1f27:1
    1f28-1f2f:0 1f30-1f37:1 1f38-1f3f:0 1f40-1f45:1 1f48-1f4d:0 1f50-1f57:1 1f59:0 1f5b:0 1f5d:0
    1f5f:0 1f60-1f67:1 1f68-1f6f:0 1f70-1f7d:1 1f80-1f87:1 1f88-1f8f:2 1f90-1f97:1 1f98-1f9f:2
    1fa0-1fa7:1 1fa8-1faf:2 1fb0-1fb4:1 1fb6-1fb7:1 1fb8-1fbb:0 1fbc:2 1fbd:14 1fbe:1 1fbf-1fc1:14
    1fc2-1fc4:1 1fc6-1fc7:1 1fc8-1fcb:0 1fcc:2 1fcd-1fcf:14 1fd0-1fd3:1 1fd6-1fd7:1 1fd8-1fdb:0
    1fdd-1fdf:14 1fe0-1fe7:1 1fe8-1fec:0 1fed-1fef:14 1ff2-1ff4:1 1ff6-1ff7:1 1ff8-1ffb:0 1ffc:2
    1ffd-1ffe:14 2000-200a:16 200b-200f:1a 2010-2015:c 2016-2017:11 2018:f 2019:10 201a:d
    201b-201c:f 201d:10 201e:d 201f:f 2020-2027:11 2028:17 2029:18 202a-202e:1a 202f:16
    2030-2038:11 2039:f 203a:10 203b-203e:11 203f-2040:b 2041-2043:11 2044:12 2045:d 2046:e
    2047-2051:11 2052:12 2053:11 2054:b 2055-205e:11 205f:16 2060-2064:1a 2066-206f:1a 2070:a
    2071:3 2074-2079:a 207a-207c:12 207d:d 207e:e 207f:3 2080-2089:a 208a-208c:12 208d:d 208e:e
    2090-209c:3 20a0-20c0:13 20d0-20dc:5 20dd-20e0:7 20e1:5 20e2-20e4:7 20e5-20f0:5 2100-2101:15
    2102:0 2103-2106:15 2107:0 2108-2109:15 210a:1 210b-210d:0 210e-210f:1 2110-2112:0 2113:1
    2114:15 2115:0 2116-2117:15 2118:12 2119-211d:0 211e-2123:15 2124:0 2125:15 2126:0 2127:15
    2128:0 2129:15 212a-212d:0 212e:15 212f:1 2130-2133:0 2134:1 2135-2138:4 2139:1 213a-213b:15
    213c-213d:1 213e-213f:0 2140-2144:12 2145:0 2146-2149:1 214a:15 214b:12 214c-214d:15 214e:1
    214f:15 2150-215f:a 2160-2182:9 2183:0 2184:1 2185-2188:9 2189:a 218a-218b:15 2190-2194:12
    2195-2199:15 219a-219b:12 219c-219f:15 21a0:12 21a1-21a2:15 21a3:12 21a4-21a5:15 21a6:12
    21a7-21ad:15 21ae:12 21af-21cd:15 21ce-21cf:12 21d0-21d1:15 21d2:12 21d3:15 21d4:12
    21d5-21f3:15 21f4-22ff:12 2300-2307:15 2308:d 2309:e 230a:d 230b:e 230c-231f:15 2320-2321:12
    2322-2328:15 2329:d 232a:e 232b-237b:15 237c:12 237d-239a:15 239b-23b3:12 23b4-23db:15
    23dc-23e1:12 23e2-2429:15 2440-244a:15 2460-249b:a 249c-24e9:15 24ea-24ff:a 2500-25b6:15
    25b7:12 25b8-25c0:15 25c1:12 25c2-25f7:15 25f8-25ff:12 2600-266e:15 266f:12 2670-2767:15 2768:d
    2769:e 276a:d 276b:e 276c:d 276d:e 276e:d 276f:e 2770:d 2771:e 2772:d 2773:e 2774:d 2775:e
    2776-2793:a 2794-27bf:15 27c0-27c4:12 27c5:d 27c6:e 27c7-27e5:12 27e6:d 27e7:e 27e8:d 27e9:e
    27ea:d 27eb:e 27ec:d 27ed:e 27ee:d 27ef:e 27f0-27ff:12 2800-28ff:15 2900-2982:12 2983:d 2984:e
    2985:d 2986:e 2987:d 2988:e 2989:d 298a:e 298b:d 298c:e 298d:d 298e:e 298f:d 2990:e 2991:d
    2992:e 2993:d 2994:e 2995:d 2996:e 2997:d 2998:e 2999-29d7:12 29d8:d 29d9:e 29da:d 29db:e
    29dc-29fb:12 29fc:d 29fd:e 29fe-2aff:12 2b00-2b2f:15 2b30-2b44:12 2b45-2b46:15 2b47-2b4c:12
    2b4d-2b73:15 2b76-2b95:15 2b97-2bff:15 2c00-2c2f:0 2c30-2c5f:1 2c60:0 2c61:1 2c62-2c64:0
    2c65-2c66:1 2c67:0 2c68:1 2c69:0 2c6a:1 2c6b:0 2c6c:1 2c6d-2c70:0 2c71:1 2c72:0 2c73-2c74:1
    2c75:0 2c76-2c7b:1 2c7c-2c7d:3 2c7e-2c80:0 2c81:1 2c82:0 2c83:1 2c84:0 2c85:1 2c86:0 2c87:1
    2c88:0 2c89:1 2c8a:0 2c8b:1 2c8c:0 2c8d:1 2c8e:0 2c8f:1 2c90:0 2c91:1 2c92:0 2c93:1 2c94:0
    2c95:1 2c96:0 2c97:1 2c98:0 2c99:1 2c9a:0 2c9b:1 2c9c:0 2c9d:1 2c9e:0 2c9f:1 2ca0:0 2ca1:1
    2ca2:0 2ca3:1 2ca4:0 2ca5:1 2ca6:0 2ca7:1 2ca8:0 2ca9:1 2caa:0 2cab:1 2cac:0 2cad:1 2cae:0
    2caf:1 2cb0:0 2cb1:1 2cb2:0 2cb3:1 2cb4:0 2cb5:1 2cb6:0 2cb7:1 2cb8:0 2cb9:1 2cba:0 2cbb:1
    2cbc:0 2cbd:1 2cbe:0 2cbf:1 2cc0:0 2cc1:1 2cc2:0 2cc3:1 2cc4:0 2cc5:1 2cc6:0 2cc7:1 2cc8:0
    2cc9:1 2cca:0 2ccb:1 2ccc:0 2ccd:1 2cce:0 2ccf:1 2cd0:0 2cd1:1 2cd2:0 2cd3:1 2cd4:0 2cd5:1
    2cd6:0 2cd7:1 2cd8:0 2cd9:1 2cda:0 2cdb:1 2cdc:0 2cdd:1 2cde:0 2cdf:1 2ce0:0 2ce1:1 2ce2:0
    2ce3-2ce4:1 2ce5-2cea:15 2ceb:0 2cec:1 2ced:0 2cee:1 2cef-2cf1:5 2cf2:0 2cf3:1 2cf9-2cfc:11
    2cfd:a 2cfe-2cff:11 2d00-2d25:1 2d27:1 2d2d:1 2d30-2d67:4 2d6f:3 2d70:11 2d7f:5 2d80-2d96:4
    2da0-2da6:4 2da8-2dae:4 2db0-2db6:4 2db8-2dbe:4 2dc0-2dc6:4 2dc8-2dce:4 2dd0-2dd6:4 2dd8-2dde:4
    2de0-2dff:5 2e00-2e01:11 2e02:f 2e03:10 2e04:f 2e05:10 2e06-2e08:11 2e09:f 2e0a:10 2e0b:11
    2e0c:f 2e0d:10 2e0e-2e16:11 2e17:c 2e18-2e19:11 2e1a:c 2e1b:11 2e1c:f 2e1d:10 2e1e-2e1f:11
    2e20:f 2e21:10 2e22:d 2e23:e 2e24:d 2e25:e 2e26:d 2e27:e 2e28:d 2e29:e 2e2a-2e2e:11 2e2f:3
    2e30-2e39:11 2e3a-2e3b:c 2e3c-2e3f:11 2e40:c 2e41:11 2e42:d 2e43-2e4f:11 2e50-2e51:15
    2e52-2e54:11 2e55:d 2e56:e 2e57:d 2e58:e 2e59:d 2e5a:e 2e5b:d 2e5c:e 2e5d:c 2e80-2e99:15
    2e9b-2ef3:15 2f00-2fd5:15 2ff0-2fff:15 3000:16 3001-3003:11 3004:15 3005:3 3006:4 3007:9 3008:d
    3009:e 300a:d 300b:e 300c:d 300d:e 300e:d 300f:e 3010:d 3011:e 3012-3013:15 3014:d 3015:e
    3016:d 3017:e 3018:d 3019:e 301a:d 301b:e 301c:c 301d:d 301e-301f:e 3020:15 3021-3029:9
    302a-302d:5 302e-302f:6 3030:c 3031-3035:3 3036-3037:15 3038-303a:9 303b:3 303c:4 303d:11
    303e-303f:15 3041-3096:4 3099-309a:5 309b-309c:14 309d-309e:3 309f:4 30a0:c 30a1-30fa:4 30fb:11
    30fc-30fe:3 30ff:4 3105-312f:4 3131-318e:4 3190-3191:15 3192-3195:a 3196-319f:15 31a0-31bf:4
    31c0-31e5:15 31ef:15 31f0-31ff:4 3200-321e:15 3220-3229:a 322a-3247:15 3248-324f:a 3250:15
    3251-325f:a 3260-327f:15 3280-3289:a 328a-32b0:15 32b1-32bf:a 32c0-33ff:15 3400-4dbf:4
    4dc0-4dff:15 4e00-a014:4 a015:3 a016-a48c:4 a490-a4c6:15 a4d0-a4f7:4 a4f8-a4fd:3 a4fe-a4ff:11
    a500-a60b:4 a60c:3 a60d-a60f:11 a610-a61f:4 a620-a629:8 a62a-a62b:4 a640:0 a641:1 a642:0 a643:1
    a644:0 a645:1 a646:0 a647:1 a648:0 a649:1 a64a:0 a64b:1 a64c:0 a64d:1 a64e:0 a64f:1 a650:0
    a651:1 a652:0 a653:1 a654:0 a655:1 a656:0 a657:1 a658:0 a659:1 a65a:0 a65b:1 a65c:0 a65d:1
    a65e:0 a65f:1 a660:0 a661:1 a662:0 a663:1 a664:0 a665:1 a666:0 a667:1 a668:0 a669:1 a66a:0
    a66b:1 a66c:0 a66d:1 a66e:4 a66f:5 a670-a672:7 a673:11 a674-a67d:5 a67e:11 a67f:3 a680:0 a681:1
    a682:0 a683:1 a684:0 a685:1 a686:0 a687:1 a688:0 a689:1 a68a:0 a68b:1 a68c:0 a68d:1 a68e:0
    a68f:1 a690:0 a691:1 a692:0 a693:1 a694:0 a695:1 a696:0 a697:1 a698:0 a699:1 a69a:0 a69b:1
    a69c-a69d:3 a69e-a69f:5 a6a0-a6e5:4 a6e6-a6ef:9 a6f0-a6f1:5 a6f2-a6f7:11 a700-a716:14
    a717-a71f:3 a720-a721:14 a722:0 a723:1 a724:0 a725:1 a726:0 a727:1 a728:0 a729:1 a72a:0 a72b:1
    a72c:0 a72d:1 a72e:0 a72f-a731:1 a732:0 a733:1 a734:0 a735:1 a736:0 a737:1 a738:0 a739:1 a73a:0
    a73b:1 a73c:0 a73d:1 a73e:0 a73f:1 a740:0 a741:1 a742:0 a743:1 a744:0 a745:1 a746:0 a747:1
    a748:0 a749:1 a74a:0 a74b:1 a74c:0 a74d:1 a74e:0 a74f:1 a750:0 a751:1 a752:0 a753:1 a754:0
    a755:1 a756:0 a757:1 a758:0 a759:1 a75a:0 a75b:1 a75c:0 a75d:1 a75e:0 a75f:1 a760:0 a761:1
    a762:0 a763:1 a764:0 a765:1 a766:0 a767:1 a768:0 a769:1 a76a:0 a76b:1 a76c:0 a76d:1 a76e:0
    a76f:1 a770:3 a771-a778:1 a779:0 a77a:1 a77b:0 a77c:1 a77d-a77e:0 a77f:1 a780:0 a781:1 a782:0
    a783:1 a784:0 a785:1 a786:0 a787:1 a788:3 a789-a78a:14 a78b:0 a78c:1 a78d:0 a78e:1 a78f:4
    a790:0 a791:1 a792:0 a793-a795:1 a796:0 a797:1 a798:0 a799:1 a79a:0 a79b:1 a79c:0 a79d:1 a79e:0
    a79f:1 a7a0:0 a7a1:1 a7a2:0 a7a3:1 a7a4:0 a7a5:1 a7a6:0 a7a7:1 a7a8:0 a7a9:1 a7aa-a7ae:0 a7af:1
    a7b0-a7b4:0 a7b5:1 a7b6:0 a7b7:1 a7b8:0 a7b9:1 a7ba:0 a7bb:1 a7bc:0 a7bd:1 a7be:0 a7bf:1 a7c0:0
    a7c1:1 a7c2:0 a7c3:1 a7c4-a7c7:0 a7c8:1 a7c9:0 a7ca:1 a7cb-a7cc:0 a7cd:1 a7d0:0 a7d1:1 a7d3:1
    a7d5:1 a7d6:0 a7d7:1 a7d8:0 a7d9:1 a7da:0 a7db:1 a7dc:0 a7f2-a7f4:3 a7f5:0 a7f6:1 a7f7:4
    a7f8-a7f9:3 a7fa:1 a7fb-a801:4 a802:5 a803-a805:4 a806:5 a807-a80a:4 a80b:5 a80c-a822:4
    a823-a824:6 a825-a826:5 a827:6 a828-a82b:15 a82c:5 a830-a835:a a836-a837:15 a838:13 a839:15
    a840-a873:4 a874-a877:11 a880-a881:6 a882-a8b3:4 a8b4-a8c3:6 a8c4-a8c5:5 a8ce-a8cf:11
    a8d0-a8d9:8 a8e0-a8f1:5 a8f2-a8f7:4 a8f8-a8fa:11 a8fb:4 a8fc:11 a8fd-a8fe:4 a8ff:5 a900-a909:8
    a90a-a925:4 a926-a92d:5 a92e-a92f:11 a930-a946:4 a947-a951:5 a952-a953:6 a95f:11 a960-a97c:4
    a980-a982:5 a983:6 a984-a9b2:4 a9b3:5 a9b4-a9b5:6 a9b6-a9b9:5 a9ba-a9bb:6 a9bc-a9bd:5
    a9be-a9c0:6 a9c1-a9cd:11 a9cf:3 a9d0-a9d9:8 a9de-a9df:11 a9e0-a9e4:4 a9e5:5 a9e6:3 a9e7-a9ef:4
    a9f0-a9f9:8 a9fa-a9fe:4 aa00-aa28:4 aa29-aa2e:5 aa2f-aa30:6 aa31-aa32:5 aa33-aa34:6 aa35-aa36:5
    aa40-aa42:4 aa43:5 aa44-aa4b:4 aa4c:5 aa4d:6 aa50-aa59:8 aa5c-aa5f:11 aa60-aa6f:4 aa70:3
    aa71-aa76:4 aa77-aa79:15 aa7a:4 aa7b:6 aa7c:5 aa7d:6 aa7e-aaaf:4 aab0:5 aab1:4 aab2-aab4:5
    aab5-aab6:4 aab7-aab8:5 aab9-aabd:4 aabe-aabf:5 aac0:4 aac1:5 aac2:4 aadb-aadc:4 aadd:3
    aade-aadf:11 aae0-aaea:4 aaeb:6 aaec-aaed:5 aaee-aaef:6 aaf0-aaf1:11 aaf2:4 aaf3-aaf4:3 aaf5:6
    aaf6:5 ab01-ab06:4 ab09-ab0e:4 ab11-ab16:4 ab20-ab26:4 ab28-ab2e:4 ab30-ab5a:1 ab5b:14
    ab5c-ab5f:3 ab60-ab68:1 ab69:3 ab6a-ab6b:14 ab70-abbf:1 abc0-abe2:4 abe3-abe4:6 abe5:5
    abe6-abe7:6 abe8:5 abe9-abea:6 abeb:11 abec:6 abed:5 abf0-abf9:8 ac00-d7a3:4 d7b0-d7c6:4
    d7cb-d7fb:4 e000-f8ff:1b f900-fa6d:4 fa70-fad9:4 fb00-fb06:1 fb13-fb17:1 fb1d:4 fb1e:5
    fb1f-fb28:4 fb29:12 fb2a-fb36:4 fb38-fb3c:4 fb3e:4 fb40-fb41:4 fb43-fb44:4 fb46-fbb1:4
    fbb2-fbc2:14 fbd3-fd3d:4 fd3e:e fd3f:d fd40-fd4f:15 fd50-fd8f:4 fd92-fdc7:4 fdcf:15 fdf0-fdfb:4
    fdfc:13 fdfd-fdff:15 fe00-fe0f:5 fe10-fe16:11 fe17:d fe18:e fe19:11 fe20-fe2f:5 fe30:11
    fe31-fe32:c fe33-fe34:b fe35:d fe36:e fe37:d fe38:e fe39:d fe3a:e fe3b:d fe3c:e fe3d:d fe3e:e
    fe3f:d fe40:e fe41:d fe42:e fe43:d fe44:e fe45-fe46:11 fe47:d fe48:e fe49-fe4c:11 fe4d-fe4f:b
    fe50-fe52:11 fe54-fe57:11 fe58:c fe59:d fe5a:e fe5b:d fe5c:e fe5d:d fe5e:e fe5f-fe61:11 fe62:12
    fe63:c fe64-fe66:12 fe68:11 fe69:13 fe6a-fe6b:11 fe70-fe74:4 fe76-fefc:4 feff:1a ff01-ff03:11
    ff04:13 ff05-ff07:11 ff08:d ff09:e ff0a:11 ff0b:12 ff0c:11 ff0d:c ff0e-ff0f:11 ff10-ff19:8
    ff1a-ff1b:11 ff1c-ff1e:12 ff1f-ff20:11 ff21-ff3a:0 ff3b:d ff3c:11 ff3d:e ff3e:14 ff3f:b ff40:14
    ff41-ff5a:1 ff5b:d ff5c:12 ff5d:e ff5e:12 ff5f:d ff60:e ff61:11 ff62:d ff63:e ff64-ff65:11
    ff66-ff6f:4 ff70:3 ff71-ff9d:4 ff9e-ff9f:3 ffa0-ffbe:4 ffc2-ffc7:4 ffca-ffcf:4 ffd2-ffd7:4
    ffda-ffdc:4 ffe0-ffe1:13 ffe2:12 ffe3:14 ffe4:15 ffe5-ffe6:13 ffe8:15 ffe9-ffec:12 ffed-ffee:15
    fff9-fffb:1a fffc-fffd:15 10000-1000b:4 1000d-10026:4 10028-1003a:4 1003c-1003d:4 1003f-1004d:4
    10050-1005d:4 10080-100fa:4 10100-10102:11 10107-10133:a 10137-1013f:15 10140-10174:9
    10175-10178:a 10179-10189:15 1018a-1018b:a 1018c-1018e:15 10190-1019c:15 101a0:15
    101d0-101fc:15 101fd:5 10280-1029c:4 102a0-102d0:4 102e0:5 102e1-102fb:a 10300-1031f:4
    10320-10323:a 1032d-10340:4 10341:9 10342-10349:4 1034a:9 10350-10375:4 10376-1037a:5
    10380-1039d:4 1039f:11 103a0-103c3:4 103c8-103cf:4 103d0:11 103d1-103d5:9 10400-10427:0
    10428-1044f:1 10450-1049d:4 104a0-104a9:8 104b0-104d3:0 104d8-104fb:1 10500-10527:4
    10530-10563:4 1056f:11 10570-1057a:0 1057c-1058a:0 1058c-10592:0 10594-10595:0 10597-105a1:1
    105a3-105b1:1 105b3-105b9:1 105bb-105bc:1 105c0-105f3:4 10600-10736:4 10740-10755:4
    10760-10767:4 10780-10785:3 10787-107b0:3 107b2-107ba:3 10800-10805:4 10808:4 1080a-10835:4
    10837-10838:4 1083c:4 1083f-10855:4 10857:11 10858-1085f:a 10860-10876:4 10877-10878:15
    10879-1087f:a 10880-1089e:4 108a7-108af:a 108e0-108f2:4 108f4-108f5:4 108fb-108ff:a
    10900-10915:4 10916-1091b:a 1091f:11 10920-10939:4 1093f:11 10980-109b7:4 109bc-109bd:a
    109be-109bf:4 109c0-109cf:a 109d2-109ff:a 10a00:4 10a01-10a03:5 10a05-10a06:5 10a0c-10a0f:5
    10a10-10a13:4 10a15-10a17:4 10a19-10a35:4 10a38-10a3a:5 10a3f:5 10a40-10a48:a 10a50-10a58:11
    10a60-10a7c:4 10a7d-10a7e:a 10a7f:11 10a80-10a9c:4 10a9d-10a9f:a 10ac0-10ac7:4 10ac8:15
    10ac9-10ae4:4 10ae5-10ae6:5 10aeb-10aef:a 10af0-10af6:11 10b00-10b35:4 10b39-10b3f:11
    10b40-10b55:4 10b58-10b5f:a 10b60-10b72:4 10b78-10b7f:a 10b80-10b91:4 10b99-10b9c:11
    10ba9-10baf:a 10c00-10c48:4 10c80-10cb2:0 10cc0-10cf2:1 10cfa-10cff:a 10d00-10d23:4
    10d24-10d27:5 10d30-10d39:8 10d40-10d49:8 10d4a-10d4d:4 10d4e:3 10d4f:4 10d50-10d65:0
    10d69-10d6d:5 10d6e:c 10d6f:3 10d70-10d85:1 10d8e-10d8f:12 10e60-10e7e:a 10e80-10ea9:4
    10eab-10eac:5 10ead:c 10eb0-10eb1:4 10ec2-10ec4:4 10efc-10eff:5 10f00-10f1c:4 10f1d-10f26:a
    10f27:4 10f30-10f45:4 10f46-10f50:5 10f51-10f54:a 10f55-10f59:11 10f70-10f81:4 10f82-10f85:5
    10f86-10f89:11 10fb0-10fc4:4 10fc5-10fcb:a 10fe0-10ff6:4 11000:6 11001:5 11002:6 11003-11037:4
    11038-11046:5 11047-1104d:11 11052-11065:a 11066-1106f:8 11070:5 11071-11072:4 11073-11074:5
    11075:4 1107f-11081:5 11082:6 11083-110af:4 110b0-110b2:6 110b3-110b6:5 110b7-110b8:6
    110b9-110ba:5 110bb-110bc:11 110bd:1a 110be-110c1:11 110c2:5 110cd:1a 110d0-110e8:4
    110f0-110f9:8 11100-11102:5 11103-11126:4 11127-1112b:5 1112c:6 1112d-11134:5 11136-1113f:8
    11140-11143:11 11144:4 11145-11146:6 11147:4 11150-11172:4 11173:5 11174-11175:11 11176:4
    11180-11181:5 11182:6 11183-111b2:4 111b3-111b5:6 111b6-111be:5 111bf-111c0:6 111c1-111c4:4
    111c5-111c8:11 111c9-111cc:5 111cd:11 111ce:6 111cf:5 111d0-111d9:8 111da:4 111db:11 111dc:4
    111dd-111df:11 111e1-111f4:a 11200-11211:4 11213-1122b:4 1122c-1122e:6 1122f-11231:5
    11232-11233:6 11234:5 11235:6 11236-11237:5 11238-1123d:11 1123e:5 1123f-11240:4 11241:5
    11280-11286:4 11288:4 1128a-1128d:4 1128f-1129d:4 1129f-112a8:4 112a9:11 112b0-112de:4 112df:5
    112e0-112e2:6 112e3-112ea:5 112f0-112f9:8 11300-11301:5 11302-11303:6 11305-1130c:4
    1130f-11310:4 11313-11328:4 1132a-11330:4 11332-11333:4 11335-11339:4 1133b-1133c:5 1133d:4
    1133e-1133f:6 11340:5 11341-11344:6 11347-11348:6 1134b-1134d:6 11350:4 11357:6 1135d-11361:4
    11362-11363:6 11366-1136c:5 11370-11374:5 11380-11389:4 1138b:4 1138e:4 11390-113b5:4 113b7:4
    113b8-113ba:6 113bb-113c0:5 113c2:6 113c5:6 113c7-113ca:6 113cc-113cd:6 113ce:5 113cf:6 113d0:5
    113d1:4 113d2:5 113d3:4 113d4-113d5:11 113d7-113d8:11 113e1-113e2:5 11400-11434:4 11435-11437:6
    11438-1143f:5 11440-11441:6 11442-11444:5 11445:6 11446:5 11447-1144a:4 1144b-1144f:11
    11450-11459:8 1145a-1145b:11 1145d:11 1145e:5 1145f-11461:4 11480-114af:4 114b0-114b2:6
    114b3-114b8:5 114b9:6 114ba:5 114bb-114be:6 114bf-114c0:5 114c1:6 114c2-114c3:5 114c4-114c5:4
    114c6:11 114c7:4 114d0-114d9:8 11580-115ae:4 115af-115b1:6 115b2-115b5:5 115b8-115bb:6
    115bc-115bd:5 115be:6 115bf-115c0:5 115c1-115d7:11 115d8-115db:4 115dc-115dd:5 11600-1162f:4
    11630-11632:6 11633-1163a:5 1163b-1163c:6 1163d:5 1163e:6 1163f-11640:5 11641-11643:11 11644:4
    11650-11659:8 11660-1166c:11 11680-116aa:4 116ab:5 116ac:6 116ad:5 116ae-116af:6 116b0-116b5:5
    116b6:6 116b7:5 116b8:4 116b9:11 116c0-116c9:8 116d0-116e3:8 11700-1171a:4 1171d:5 1171e:6
    1171f:5 11720-11721:6 11722-11725:5 11726:6 11727-1172b:5 11730-11739:8 1173a-1173b:a
    1173c-1173e:11 1173f:15 11740-11746:4 11800-1182b:4 1182c-1182e:6 1182f-11837:5 11838:6
    11839-1183a:5 1183b:11 118a0-118bf:0 118c0-118df:1 118e0-118e9:8 118ea-118f2:a 118ff-11906:4
    11909:4 1190c-11913:4 11915-11916:4 11918-1192f:4 11930-11935:6 11937-11938:6 1193b-1193c:5
    1193d:6 1193e:5 1193f:4 11940:6 11941:4 11942:6 11943:5 11944-11946:11 11950-11959:8
    119a0-119a7:4 119aa-119d0:4 119d1-119d3:6 119d4-119d7:5 119da-119db:5 119dc-119df:6 119e0:5
    119e1:4 119e2:11 119e3:4 119e4:6 11a00:4 11a01-11a0a:5 11a0b-11a32:4 11a33-11a38:5 11a39:6
    11a3a:4 11a3b-11a3e:5 11a3f-11a46:11 11a47:5 11a50:4 11a51-11a56:5 11a57-11a58:6 11a59-11a5b:5
    11a5c-11a89:4 11a8a-11a96:5 11a97:6 11a98-11a99:5 11a9a-11a9c:11 11a9d:4 11a9e-11aa2:11
    11ab0-11af8:4 11b00-11b09:11 11bc0-11be0:4 11be1:11 11bf0-11bf9:8 11c00-11c08:4 11c0a-11c2e:4
    11c2f:6 11c30-11c36:5 11c38-11c3d:5 11c3e:6 11c3f:5 11c40:4 11c41-11c45:11 11c50-11c59:8
    11c5a-11c6c:a 11c70-11c71:11 11c72-11c8f:4 11c92-11ca7:5 11ca9:6 11caa-11cb0:5 11cb1:6
    11cb2-11cb3:5 11cb4:6 11cb5-11cb6:5 11d00-11d06:4 11d08-11d09:4 11d0b-11d30:4 11d31-11d36:5
    11d3a:5 11d3c-11d3d:5 11d3f-11d45:5 11d46:4 11d47:5 11d50-11d59:8 11d60-11d65:4 11d67-11d68:4
    11d6a-11d89:4 11d8a-11d8e:6 11d90-11d91:5 11d93-11d94:6 11d95:5 11d96:6 11d97:5 11d98:4
    11da0-11da9:8 11ee0-11ef2:4 11ef3-11ef4:5 11ef5-11ef6:6 11ef7-11ef8:11 11f00-11f01:5 11f02:4
    11f03:6 11f04-11f10:4 11f12-11f33:4 11f34-11f35:6 11f36-11f3a:5 11f3e-11f3f:6 11f40:5 11f41:6
    11f42:5 11f43-11f4f:11 11f50-11f59:8 11f5a:5 11fb0:4 11fc0-11fd4:a 11fd5-11fdc:15
    11fdd-11fe0:13 11fe1-11ff1:15 11fff:11 12000-12399:4 12400-1246e:9 12470-12474:11 12480-12543:4
    12f90-12ff0:4 12ff1-12ff2:11 13000-1342f:4 13430-1343f:1a 13440:5 13441-13446:4 13447-13455:5
    13460-143fa:4 14400-14646:4 16100-1611d:4 1611e-16129:5 1612a-1612c:6 1612d-1612f:5
    16130-16139:8 16800-16a38:4 16a40-16a5e:4 16a60-16a69:8 16a6e-16a6f:11 16a70-16abe:4
    16ac0-16ac9:8 16ad0-16aed:4 16af0-16af4:5 16af5:11 16b00-16b2f:4 16b30-16b36:5 16b37-16b3b:11
    16b3c-16b3f:15 16b40-16b43:3 16b44:11 16b45:15 16b50-16b59:8 16b5b-16b61:a 16b63-16b77:4
    16b7d-16b8f:4 16d40-16d42:3 16d43-16d6a:4 16d6b-16d6c:3 16d6d-16d6f:11 16d70-16d79:8
    16e40-16e5f:0 16e60-16e7f:1 16e80-16e96:a 16e97-16e9a:11 16f00-16f4a:4 16f4f:5 16f50:4
    16f51-16f87:6 16f8f-16f92:5 16f93-16f9f:3 16fe0-16fe1:3 16fe2:11 16fe3:3 16fe4:5 16ff0-16ff1:6
    17000-187f7:4 18800-18cd5:4 18cff-18d08:4 1aff0-1aff3:3 1aff5-1affb:3 1affd-1affe:3
    1b000-1b122:4 1b132:4 1b150-1b152:4 1b155:4 1b164-1b167:4 1b170-1b2fb:4 1bc00-1bc6a:4
    1bc70-1bc7c:4 1bc80-1bc88:4 1bc90-1bc99:4 1bc9c:15 1bc9d-1bc9e:5 1bc9f:11 1bca0-1bca3:1a
    1cc00-1ccef:15 1ccf0-1ccf9:8 1cd00-1ceb3:15 1cf00-1cf2d:5 1cf30-1cf46:5 1cf50-1cfc3:15
    1d000-1d0f5:15 1d100-1d126:15 1d129-1d164:15 1d165-1d166:6 1d167-1d169:5 1d16a-1d16c:15
    1d16d-1d172:6 1d173-1d17a:1a 1d17b-1d182:5 1d183-1d184:15 1d185-1d18b:5 1d18c-1d1a9:15
    1d1aa-1d1ad:5 1d1ae-1d1ea:15 1d200-1d241:15 1d242-1d244:5 1d245:15 1d2c0-1d2d3:a 1d2e0-1d2f3:a
    1d300-1d356:15 1d360-1d378:a 1d400-1d419:0 1d41a-1d433:1 1d434-1d44d:0 1d44e-1d454:1
    1d456-1d467:1 1d468-1d481:0 1d482-1d49b:1 1d49c:0 1d49e-1d49f:0 1d4a2:0 1d4a5-1d4a6:0
    1d4a9-1d4ac:0 1d4ae-1d4b5:0 1d4b6-1d4b9:1 1d4bb:1 1d4bd-1d4c3:1 1d4c5-1d4cf:1 1d4d0-1d4e9:0
    1d4ea-1d503:1 1d504-1d505:0 1d507-1d50a:0 1d50d-1d514:0 1d516-1d51c:0 1d51e-1d537:1
    1d538-1d539:0 1d53b-1d53e:0 1d540-1d544:0 1d546:0 1d54a-1d550:0 1d552-1d56b:1 1d56c-1d585:0
    1d586-1d59f:1 1d5a0-1d5b9:0 1d5ba-1d5d3:1 1d5d4-1d5ed:0 1d5ee-1d607:1 1d608-1d621:0
    1d622-1d63b:1 1d63c-1d655:0 1d656-1d66f:1 1d670-1d689:0 1d68a-1d6a5:1 1d6a8-1d6c0:0 1d6c1:12
    1d6c2-1d6da:1 1d6db:12 1d6dc-1d6e1:1 1d6e2-1d6fa:0 1d6fb:12 1d6fc-1d714:1 1d715:12
    1d716-1d71b:1 1d71c-1d734:0 1d735:12 1d736-1d74e:1 1d74f:12 1d750-1d755:1 1d756-1d76e:0
    1d76f:12 1d770-1d788:1 1d789:12 1d78a-1d78f:1 1d790-1d7a8:0 1d7a9:12 1d7aa-1d7c2:1 1d7c3:12
    1d7c4-1d7c9:1 1d7ca:0 1d7cb:1 1d7ce-1d7ff:8 1d800-1d9ff:15 1da00-1da36:5 1da37-1da3a:15
    1da3b-1da6c:5 1da6d-1da74:15 1da75:5 1da76-1da83:15 1da84:5 1da85-1da86:15 1da87-1da8b:11
    1da9b-1da9f:5 1daa1-1daaf:5 1df00-1df09:1 1df0a:4 1df0b-1df1e:1 1df25-1df2a:1 1e000-1e006:5
    1e008-1e018:5 1e01b-1e021:5 1e023-1e024:5 1e026-1e02a:5 1e030-1e06d:3 1e08f:5 1e100-1e12c:4
    1e130-1e136:5 1e137-1e13d:3 1e140-1e149:8 1e14e:4 1e14f:15 1e290-1e2ad:4 1e2ae:5 1e2c0-1e2eb:4
    1e2ec-1e2ef:5 1e2f0-1e2f9:8 1e2ff:13 1e4d0-1e4ea:4 1e4eb:3 1e4ec-1e4ef:5 1e4f0-1e4f9:8
    1e5d0-1e5ed:4 1e5ee-1e5ef:5 1e5f0:4 1e5f1-1e5fa:8 1e5ff:11 1e7e0-1e7e6:4 1e7e8-1e7eb:4
    1e7ed-1e7ee:4 1e7f0-1e7fe:4 1e800-1e8c4:4 1e8c7-1e8cf:a 1e8d0-1e8d6:5 1e900-1e921:0
    1e922-1e943:1 1e944-1e94a:5 1e94b:3 1e950-1e959:8 1e95e-1e95f:11 1ec71-1ecab:a 1ecac:15
    1ecad-1ecaf:a 1ecb0:13 1ecb1-1ecb4:a 1ed01-1ed2d:a 1ed2e:15 1ed2f-1ed3d:a 1ee00-1ee03:4
    1ee05-1ee1f:4 1ee21-1ee22:4 1ee24:4 1ee27:4 1ee29-1ee32:4 1ee34-1ee37:4 1ee39:4 1ee3b:4 1ee42:4
    1ee47:4 1ee49:4 1ee4b:4 1ee4d-1ee4f:4 1ee51-1ee52:4 1ee54:4 1ee57:4 1ee59:4 1ee5b:4 1ee5d:4
    1ee5f:4 1ee61-1ee62:4 1ee64:4 1ee67-1ee6a:4 1ee6c-1ee72:4 1ee74-1ee77:4 1ee79-1ee7c:4 1ee7e:4
    1ee80-1ee89:4 1ee8b-1ee9b:4 1eea1-1eea3:4 1eea5-1eea9:4 1eeab-1eebb:4 1eef0-1eef1:12
    1f000-1f02b:15 1f030-1f093:15 1f0a0-1f0ae:15 1f0b1-1f0bf:15 1f0c1-1f0cf:15 1f0d1-1f0f5:15
    1f100-1f10c:a 1f10d-1f1ad:15 1f1e6-1f202:15 1f210-1f23b:15 1f240-1f248:15 1f250-1f251:15
    1f260-1f265:15 1f300-1f3fa:15 1f3fb-1f3ff:14 1f400-1f6d7:15 1f6dc-1f6ec:15 1f6f0-1f6fc:15
    1f700-1f776:15 1f77b-1f7d9:15 1f7e0-1f7eb:15 1f7f0:15 1f800-1f80b:15 1f810-1f847:15
    1f850-1f859:15 1f860-1f887:15 1f890-1f8ad:15 1f8b0-1f8bb:15 1f8c0-1f8c1:15 1f900-1fa53:15
    1fa60-1fa6d:15 1fa70-1fa7c:15 1fa80-1fa89:15 1fa8f-1fac6:15 1face-1fadc:15 1fadf-1fae9:15
    1faf0-1faf8:15 1fb00-1fb92:15 1fb94-1fbef:15 1fbf0-1fbf9:8 20000-2a6df:4 2a700-2b739:4
    2b740-2b81d:4 2b820-2cea1:4 2ceb0-2ebe0:4 2ebf0-2ee5d:4 2f800-2fa1d:4 30000-3134a:4
    31350-323af:4 e0001:1a e0020-e007f:1a e0100-e01ef:5 f0000-ffffd:1b 100000-10fffd:1b"

end BracketQuery.Regex
