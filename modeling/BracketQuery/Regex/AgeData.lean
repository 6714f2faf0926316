import BracketQuery.Text.Partition

/-!
Data of the Unicode standard: the versions that brought the characters.
-/

namespace BracketQuery.Regex

/-- The version in which each character was assigned, from the first on. -/
def age : Text.Partition where
  values :=
    "
    1.1 v11; 2.0 v20; 2.1 v21; 3.0 v30; 3.1 v31; 3.2 v32; 4.0 v40; 4.1 v41; 5.0 v50; 5.1 v51; 5.2
    v52; 6.0 v60; 6.1 v61; 6.2 v62; 6.3 v63; 7.0 v70; 8.0 v80; 9.0 v90; 10.0 v100; 11.0 v110; 12.0
    v120; 12.1 v121; 13.0 v130; 14.0 v140; 15.0 v150; 15.1 v151; 16.0 v160; na unassigned"
  runs :=
    "
    0-1f5:0 1f6-1f9:3 1fa-217:0 218-21f:3 220:5 221:6 222-233:3 234-236:6 237-241:7 242-24f:8
    250-2a8:0 2a9-2ad:3 2ae-2af:6 2b0-2de:0 2df:3 2e0-2e9:0 2ea-2ee:3 2ef-2ff:6 300-345:0 346-34e:3
    34f:5 350-357:6 358-35c:7 35d-35f:6 360-361:0 362:3 363-36f:5 370-373:9 374-375:0 376-377:9
    37a:0 37b-37d:8 37e:0 37f:f 384-38a:0 38c:0 38e-3a1:0 3a3-3ce:0 3cf:9 3d0-3d6:0 3d7:3 3d8-3d9:5
    3da:0 3db:3 3dc:0 3dd:3 3de:0 3df:3 3e0:0 3e1:3 3e2-3f3:0 3f4-3f5:4 3f6:5 3f7-3fb:6 3fc-3ff:7
    400:3 401-40c:0 40d:3 40e-44f:0 450:3 451-45c:0 45d:3 45e-486:0 487:9 488-489:3 48a-48b:5
    48c-48f:3 490-4c4:0 4c5-4c6:5 4c7-4c8:0 4c9-4ca:5 4cb-4cc:0 4cd-4ce:5 4cf:8 4d0-4eb:0 4ec-4ed:3
    4ee-4f5:0 4f6-4f7:7 4f8-4f9:0 4fa-4ff:8 500-50f:5 510-513:8 514-523:9 524-525:a 526-527:b
    528-52f:f 531-556:0 559-55f:0 560:13 561-587:0 588:13 589:0 58a:3 58d-58e:f 58f:c 591-5a1:1
    5a2:7 5a3-5af:1 5b0-5b9:0 5ba:8 5bb-5c3:0 5c4:1 5c5-5c7:7 5d0-5ea:0 5ef:13 5f0-5f4:0 600-603:6
    604:c 605:f 606-60a:9 60b:7 60c:0 60d-615:6 616-61a:9 61b:0 61c:e 61d:17 61e:7 61f:0 620:b
    621-63a:0 63b-63f:9 640-652:0 653-655:3 656-658:6 659-65e:7 65f:b 660-66d:0 66e-66f:5 670-6b7:0
    6b8-6b9:3 6ba-6be:0 6bf:3 6c0-6ce:0 6cf:3 6d0-6ed:0 6ee-6ef:6 6f0-6f9:0 6fa-6fe:3 6ff:6
    700-70d:3 70f-72c:3 72d-72f:6 730-74a:3 74d-74f:6 750-76d:7 76e-77f:9 780-7b0:3 7b1:5 7c0-7fa:8
    7fd-7ff:13 800-82d:a 830-83e:a 840-85b:b 85e:b 860-86a:12 870-88e:17 890-891:17 897:1a
    898-89f:17 8a0:c 8a1:f 8a2-8ac:c 8ad-8b2:f 8b3-8b4:10 8b5:17 8b6-8bd:11 8be-8c7:16 8c8-8d2:17
    8d3:13 8d4-8e2:11 8e3:10 8e4-8fe:c 8ff:f 900:a 901-903:0 904:6 905-939:0 93a-93b:b 93c-94d:0
    94e:a 94f:b 950-954:0 955:a 956-957:b 958-970:0 971-972:9 973-977:b 978:f 979-97a:a 97b-97c:8
    97d:7 97e-97f:8 980:f 981-983:0 985-98c:0 98f-990:0 993-9a8:0 9aa-9b0:0 9b2:0 9b6-9b9:0 9bc:0
    9bd:6 9be-9c4:0 9c7-9c8:0 9cb-9cd:0 9ce:7 9d7:0 9dc-9dd:0 9df-9e3:0 9e6-9fa:0 9fb:a 9fc-9fd:12
    9fe:13 a01:6 a02:0 a03:6 a05-a0a:0 a0f-a10:0 a13-a28:0 a2a-a30:0 a32-a33:0 a35-a36:0 a38-a39:0
    a3c:0 a3e-a42:0 a47-a48:0 a4b-a4d:0 a51:9 a59-a5c:0 a5e:0 a66-a74:0 a75:9 a76:13 a81-a83:0
    a85-a8b:0 a8c:6 a8d:0 a8f-a91:0 a93-aa8:0 aaa-ab0:0 ab2-ab3:0 ab5-ab9:0 abc-ac5:0 ac7-ac9:0
    acb-acd:0 ad0:0 ae0:0 ae1-ae3:6 ae6-aef:0 af0:c af1:6 af9:10 afa-aff:12 b01-b03:0 b05-b0c:0
    b0f-b10:0 b13-b28:0 b2a-b30:0 b32-b33:0 b35:6 b36-b39:0 b3c-b43:0 b44:9 b47-b48:0 b4b-b4d:0
    b55:16 b56-b57:0 b5c-b5d:0 b5f-b61:0 b62-b63:9 b66-b70:0 b71:6 b72-b77:b b82-b83:0 b85-b8a:0
    b8e-b90:0 b92-b95:0 b99-b9a:0 b9c:0 b9e-b9f:0 ba3-ba4:0 ba8-baa:0 bae-bb5:0 bb6:7 bb7-bb9:0
    bbe-bc2:0 bc6-bc8:0 bca-bcd:0 bd0:9 bd7:0 be6:7 be7-bf2:0 bf3-bfa:6 c00:f c01-c03:0 c04:13
    c05-c0c:0 c0e-c10:0 c12-c28:0 c2a-c33:0 c34:f c35-c39:0 c3c:17 c3d:9 c3e-c44:0 c46-c48:0
    c4a-c4d:0 c55-c56:0 c58-c59:9 c5a:10 c5d:17 c60-c61:0 c62-c63:9 c66-c6f:0 c77:14 c78-c7f:9
    c80:11 c81:f c82-c83:0 c84:13 c85-c8c:0 c8e-c90:0 c92-ca8:0 caa-cb3:0 cb5-cb9:0 cbc-cbd:6
    cbe-cc4:0 cc6-cc8:0 cca-ccd:0 cd5-cd6:0 cdd:17 cde:0 ce0-ce1:0 ce2-ce3:8 ce6-cef:0 cf1-cf2:8
    cf3:18 d00:12 d01:f d02-d03:0 d04:16 d05-d0c:0 d0e-d10:0 d12-d28:0 d29:b d2a-d39:0 d3a:b
    d3b-d3c:12 d3d:9 d3e-d43:0 d44:9 d46-d48:0 d4a-d4d:0 d4e:b d4f:11 d54-d56:11 d57:0 d58-d5e:11
    d5f:10 d60-d61:0 d62-d63:9 d66-d6f:0 d70-d75:9 d76-d78:11 d79-d7f:9 d81:16 d82-d83:3 d85-d96:3
    d9a-db1:3 db3-dbb:3 dbd:3 dc0-dc6:3 dca:3 dcf-dd4:3 dd6:3 dd8-ddf:3 de6-def:f df2-df4:3
    e01-e3a:0 e3f-e5b:0 e81-e82:0 e84:0 e86:14 e87-e88:0 e89:14 e8a:0 e8c:14 e8d:0 e8e-e93:14
    e94-e97:0 e98:14 e99-e9f:0 ea0:14 ea1-ea3:0 ea5:0 ea7:0 ea8-ea9:14 eaa-eab:0 eac:14 ead-eb9:0
    eba:14 ebb-ebd:0 ec0-ec4:0 ec6:0 ec8-ecd:0 ece:18 ed0-ed9:0 edc-edd:0 ede-edf:c f00-f47:1
    f49-f69:1 f6a:3 f6b-f6c:9 f71-f8b:1 f8c-f8f:b f90-f95:1 f96:3 f97:1 f99-fad:1 fae-fb0:3
    fb1-fb7:1 fb8:3 fb9:1 fba-fbc:3 fbe-fcc:3 fce:9 fcf:3 fd0-fd1:7 fd2-fd4:9 fd5-fd8:a fd9-fda:b
    1000-1021:3 1022:9 1023-1027:3 1028:9 1029-102a:3 102b:9 102c-1032:3 1033-1035:9 1036-1039:3
    103a-103f:9 1040-1059:3 105a-1099:9 109a-109d:a 109e-109f:9 10a0-10c5:0 10c7:c 10cd:c
    10d0-10f6:0 10f7-10f8:5 10f9-10fa:7 10fb:0 10fc:7 10fd-10ff:c 1100-1159:0 115a-115e:a
    115f-11a2:0 11a3-11a7:a 11a8-11f9:0 11fa-11ff:a 1200-1206:3 1207:7 1208-1246:3 1247:7 1248:3
    124a-124d:3 1250-1256:3 1258:3 125a-125d:3 1260-1286:3 1287:7 1288:3 128a-128d:3 1290-12ae:3
    12af:7 12b0:3 12b2-12b5:3 12b8-12be:3 12c0:3 12c2-12c5:3 12c8-12ce:3 12cf:7 12d0-12d6:3
    12d8-12ee:3 12ef:7 12f0-130e:3 130f:7 1310:3 1312-1315:3 1318-131e:3 131f:7 1320-1346:3 1347:7
    1348-135a:3 135d-135e:b 135f-1360:7 1361-137c:3 1380-1399:7 13a0-13f4:3 13f5:10 13f8-13fd:10
    1400:a 1401-1676:3 1677-167f:a 1680-169c:3 16a0-16f0:3 16f1-16f8:f 1700-170c:5 170d:17
    170e-1714:5 1715:17 171f:17 1720-1736:5 1740-1753:5 1760-176c:5 176e-1770:5 1772-1773:5
    1780-17dc:3 17dd:6 17e0-17e9:3 17f0-17f9:6 1800-180e:3 180f:17 1810-1819:3 1820-1877:3 1878:13
    1880-18a9:3 18aa:9 18b0-18f5:a 1900-191c:6 191d-191e:f 1920-192b:6 1930-193b:6 1940:6
    1944-196d:6 1970-1974:6 1980-19a9:7 19aa-19ab:a 19b0-19c9:7 19d0-19d9:7 19da:a 19de-19df:7
    19e0-19ff:6 1a00-1a1b:7 1a1e-1a1f:7 1a20-1a5e:a 1a60-1a7c:a 1a7f-1a89:a 1a90-1a99:a 1aa0-1aad:a
    1ab0-1abe:f 1abf-1ac0:16 1ac1-1ace:17 1b00-1b4b:8 1b4c:17 1b4e-1b4f:1a 1b50-1b7c:8 1b7d-1b7e:17
    1b7f:1a 1b80-1baa:9 1bab-1bad:c 1bae-1bb9:9 1bba-1bbf:c 1bc0-1bf3:b 1bfc-1bff:b 1c00-1c37:9
    1c3b-1c49:9 1c4d-1c7f:9 1c80-1c88:11 1c89-1c8a:1a 1c90-1cba:13 1cbd-1cbf:13 1cc0-1cc7:c
    1cd0-1cf2:a 1cf3-1cf6:c 1cf7:12 1cf8-1cf9:f 1cfa:14 1d00-1d6b:6 1d6c-1dc3:7 1dc4-1dca:8
    1dcb-1de6:9 1de7-1df5:f 1df6-1df9:12 1dfa:17 1dfb:11 1dfc:b 1dfd:a 1dfe-1dff:8 1e00-1e9a:0
    1e9b:1 1e9c-1e9f:9 1ea0-1ef9:0 1efa-1eff:9 1f00-1f15:0 1f18-1f1d:0 1f20-1f45:0 1f48-1f4d:0
    1f50-1f57:0 1f59:0 1f5b:0 1f5d:0 1f5f-1f7d:0 1f80-1fb4:0 1fb6-1fc4:0 1fc6-1fd3:0 1fd6-1fdb:0
    1fdd-1fef:0 1ff2-1ff4:0 1ff6-1ffe:0 2000-202e:0 202f:3 2030-2046:0 2047:5 2048-204d:3
    204e-2052:5 2053-2054:6 2055-2056:7 2057:5 2058-205e:7 205f-2063:5 2064:9 2066-2069:e
    206a-2070:0 2071:5 2074-208e:0 2090-2094:7 2095-209c:b 20a0-20aa:0 20ab:1 20ac:2 20ad-20af:3
    20b0-20b1:5 20b2-20b5:7 20b6-20b8:a 20b9:b 20ba:d 20bb-20bd:f 20be:10 20bf:12 20c0:17
    20d0-20e1:0 20e2-20e3:3 20e4-20ea:5 20eb:7 20ec-20ef:8 20f0:9 2100-2138:0 2139-213a:3 213b:6
    213c:7 213d-214b:5 214c:7 214d-214e:8 214f:9 2150-2152:a 2153-2182:0 2183:3 2184:8 2185-2188:9
    2189:a 218a-218b:10 2190-21ea:0 21eb-21f3:3 21f4-21ff:5 2200-22f1:0 22f2-22ff:5 2300:0 2301:3
    2302-237a:0 237b:3 237c:5 237d-239a:3 239b-23ce:5 23cf-23d0:6 23d1-23db:7 23dc-23e7:8 23e8:a
    23e9-23f3:b 23f4-23fa:f 23fb-23fe:11 23ff:12 2400-2424:0 2425-2426:3 2427-2429:1a 2440-244a:0
    2460-24ea:0 24eb-24fe:5 24ff:6 2500-2595:0 2596-259f:5 25a0-25ef:0 25f0-25f7:3 25f8-25ff:5
    2600-2613:0 2614-2615:6 2616-2617:5 2618:7 2619:3 261a-266f:0 2670-2671:3 2672-267d:5
    267e-267f:7 2680-2689:5 268a-2691:6 2692-269c:7 269d:9 269e-269f:a 26a0-26a1:6 26a2-26b1:7
    26b2:8 26b3-26bc:9 26bd-26bf:a 26c0-26c3:9 26c4-26cd:a 26ce:b 26cf-26e1:a 26e2:b 26e3:a
    26e4-26e7:b 26e8-26ff:a 2700:f 2701-2704:0 2705:b 2706-2709:0 270a-270b:b 270c-2727:0 2728:b
    2729-274b:0 274c:b 274d:0 274e:b 274f-2752:0 2753-2755:b 2756:0 2757:a 2758-275e:0 275f-2760:b
    2761-2767:0 2768-2775:5 2776-2794:0 2795-2797:b 2798-27af:0 27b0:b 27b1-27be:0 27bf:b
    27c0-27c6:7 27c7-27ca:8 27cb:c 27cc:9 27cd:c 27ce-27cf:b 27d0-27eb:5 27ec-27ef:9 27f0-27ff:5
    2800-28ff:3 2900-2aff:5 2b00-2b0d:6 2b0e-2b13:7 2b14-2b1a:8 2b1b-2b1f:9 2b20-2b23:8 2b24-2b4c:9
    2b4d-2b4f:f 2b50-2b54:9 2b55-2b59:a 2b5a-2b73:f 2b76-2b95:f 2b97:16 2b98-2bb9:f 2bba-2bbc:13
    2bbd-2bc8:f 2bc9:14 2bca-2bd1:f 2bd2:12 2bd3-2beb:13 2bec-2bef:10 2bf0-2bfe:13 2bff:14
    2c00-2c2e:7 2c2f:17 2c30-2c5e:7 2c5f:17 2c60-2c6c:8 2c6d-2c6f:9 2c70:a 2c71-2c73:9 2c74-2c77:8
    2c78-2c7d:9 2c7e-2c7f:a 2c80-2cea:7 2ceb-2cf1:a 2cf2-2cf3:c 2cf9-2d25:7 2d27:c 2d2d:c
    2d30-2d65:7 2d66-2d67:c 2d6f:7 2d70:b 2d7f:b 2d80-2d96:7 2da0-2da6:7 2da8-2dae:7 2db0-2db6:7
    2db8-2dbe:7 2dc0-2dc6:7 2dc8-2dce:7 2dd0-2dd6:7 2dd8-2dde:7 2de0-2dff:9 2e00-2e17:7 2e18-2e1b:9
    2e1c-2e1d:7 2e1e-2e30:9 2e31:a 2e32-2e3b:c 2e3c-2e42:f 2e43-2e44:11 2e45-2e49:12 2e4a-2e4e:13
    2e4f:14 2e50-2e52:16 2e53-2e5d:17 2e80-2e99:3 2e9b-2ef3:3 2f00-2fd5:3 2ff0-2ffb:3 2ffc-2fff:19
    3000-3037:0 3038-303a:3 303b-303d:5 303e:3 303f:0 3041-3094:0 3095-3096:5 3099-309e:0
    309f-30a0:5 30a1-30fe:0 30ff:5 3105-312c:0 312d:9 312e:12 312f:13 3131-318e:0 3190-319f:0
    31a0-31b7:3 31b8-31ba:b 31bb-31bf:16 31c0-31cf:7 31d0-31e3:9 31e4-31e5:1a 31ef:19 31f0-31ff:5
    3200-321c:0 321d-321e:6 3220-3243:0 3244-324f:a 3250:6 3251-325f:5 3260-327b:0 327c-327d:6
    327e:7 327f-32b0:0 32b1-32bf:5 32c0-32cb:0 32cc-32cf:6 32d0-32fe:0 32ff:15 3300-3376:0
    3377-337a:6 337b-33dd:0 33de-33df:6 33e0-33fe:0 33ff:6 3400-4db5:3 4db6-4dbf:16 4dc0-4dff:6
    4e00-9fa5:0 9fa6-9fbb:7 9fbc-9fc3:9 9fc4-9fcb:a 9fcc:c 9fcd-9fd5:10 9fd6-9fea:12 9feb-9fef:13
    9ff0-9ffc:16 9ffd-9fff:17 a000-a48c:3 a490-a4a1:3 a4a2-a4a3:5 a4a4-a4b3:3 a4b4:5 a4b5-a4c0:3
    a4c1:5 a4c2-a4c4:3 a4c5:5 a4c6:3 a4d0-a4ff:a a500-a62b:9 a640-a65f:9 a660-a661:b a662-a673:9
    a674-a67b:c a67c-a697:9 a698-a69d:f a69e:10 a69f:c a6a0-a6f7:a a700-a716:7 a717-a71a:8
    a71b-a71f:9 a720-a721:8 a722-a78c:9 a78d-a78e:b a78f:10 a790-a791:b a792-a793:c a794-a79f:f
    a7a0-a7a9:b a7aa:c a7ab-a7ad:f a7ae:11 a7af:13 a7b0-a7b1:f a7b2-a7b7:10 a7b8-a7b9:13
    a7ba-a7bf:14 a7c0-a7c1:17 a7c2-a7c6:14 a7c7-a7ca:16 a7cb-a7cd:1a a7d0-a7d1:17 a7d3:17
    a7d5-a7d9:17 a7da-a7dc:1a a7f2-a7f4:17 a7f5-a7f6:16 a7f7:f a7f8-a7f9:c a7fa:b a7fb-a7ff:9
    a800-a82b:7 a82c:16 a830-a839:a a840-a877:8 a880-a8c4:9 a8c5:11 a8ce-a8d9:9 a8e0-a8fb:a
    a8fc-a8fd:10 a8fe-a8ff:13 a900-a953:9 a95f:9 a960-a97c:a a980-a9cd:a a9cf-a9d9:a a9de-a9df:a
    a9e0-a9fe:f aa00-aa36:9 aa40-aa4d:9 aa50-aa59:9 aa5c-aa5f:9 aa60-aa7b:a aa7c-aa7f:f aa80-aac2:a
    aadb-aadf:a aae0-aaf6:c ab01-ab06:b ab09-ab0e:b ab11-ab16:b ab20-ab26:b ab28-ab2e:b ab30-ab5f:f
    ab60-ab63:10 ab64-ab65:f ab66-ab67:14 ab68-ab6b:16 ab70-abbf:10 abc0-abed:a abf0-abf9:a
    ac00-d7a3:1 d7b0-d7c6:a d7cb-d7fb:a e000-fa2d:0 fa2e-fa2f:c fa30-fa6a:5 fa6b-fa6d:a fa70-fad9:7
    fb00-fb06:0 fb13-fb17:0 fb1d:3 fb1e-fb36:0 fb38-fb3c:0 fb3e:0 fb40-fb41:0 fb43-fb44:0
    fb46-fbb1:0 fbb2-fbc1:b fbc2:17 fbd3-fd3f:0 fd40-fd4f:17 fd50-fd8f:0 fd92-fdc7:0 fdcf:17
    fdd0-fdef:4 fdf0-fdfb:0 fdfc:5 fdfd:6 fdfe-fdff:17 fe00-fe0f:5 fe10-fe19:7 fe20-fe23:0
    fe24-fe26:9 fe27-fe2d:f fe2e-fe2f:10 fe30-fe44:0 fe45-fe46:5 fe47-fe48:6 fe49-fe52:0
    fe54-fe66:0 fe68-fe6b:0 fe70-fe72:0 fe73:5 fe74:0 fe76-fefc:0 feff:0 ff01-ff5e:0 ff5f-ff60:5
    ff61-ffbe:0 ffc2-ffc7:0 ffca-ffcf:0 ffd2-ffd7:0 ffda-ffdc:0 ffe0-ffe6:0 ffe8-ffee:0 fff9-fffb:3
    fffc:2 fffd-ffff:0 10000-1000b:6 1000d-10026:6 10028-1003a:6 1003c-1003d:6 1003f-1004d:6
    10050-1005d:6 10080-100fa:6 10100-10102:6 10107-10133:6 10137-1013f:6 10140-1018a:7
    1018b-1018c:f 1018d-1018e:11 10190-1019b:9 1019c:16 101a0:f 101d0-101fd:9 10280-1029c:9
    102a0-102d0:9 102e0-102fb:f 10300-1031e:4 1031f:f 10320-10323:4 1032d-1032f:12 10330-1034a:4
    10350-1037a:f 10380-1039d:6 1039f:6 103a0-103c3:7 103c8-103d5:7 10400-10425:4 10426-10427:6
    10428-1044d:4 1044e-1049d:6 104a0-104a9:6 104b0-104d3:11 104d8-104fb:11 10500-10527:f
    10530-10563:f 1056f:f 10570-1057a:17 1057c-1058a:17 1058c-10592:17 10594-10595:17
    10597-105a1:17 105a3-105b1:17 105b3-105b9:17 105bb-105bc:17 105c0-105f3:1a 10600-10736:f
    10740-10755:f 10760-10767:f 10780-10785:17 10787-107b0:17 107b2-107ba:17 10800-10805:6 10808:6
    1080a-10835:6 10837-10838:6 1083c:6 1083f:6 10840-10855:a 10857-1085f:a 10860-1089e:f
    108a7-108af:f 108e0-108f2:10 108f4-108f5:10 108fb-108ff:10 10900-10919:8 1091a-1091b:a 1091f:8
    10920-10939:9 1093f:9 10980-109b7:c 109bc-109bd:10 109be-109bf:c 109c0-109cf:10 109d2-109ff:10
    10a00-10a03:7 10a05-10a06:7 10a0c-10a13:7 10a15-10a17:7 10a19-10a33:7 10a34-10a35:13
    10a38-10a3a:7 10a3f-10a47:7 10a48:13 10a50-10a58:7 10a60-10a7f:a 10a80-10a9f:f 10ac0-10ae6:f
    10aeb-10af6:f 10b00-10b35:a 10b39-10b55:a 10b58-10b72:a 10b78-10b7f:a 10b80-10b91:f
    10b99-10b9c:f 10ba9-10baf:f 10c00-10c48:a 10c80-10cb2:10 10cc0-10cf2:10 10cfa-10cff:10
    10d00-10d27:13 10d30-10d39:13 10d40-10d65:1a 10d69-10d85:1a 10d8e-10d8f:1a 10e60-10e7e:a
    10e80-10ea9:16 10eab-10ead:16 10eb0-10eb1:16 10ec2-10ec4:1a 10efc:1a 10efd-10eff:18
    10f00-10f27:13 10f30-10f59:13 10f70-10f89:17 10fb0-10fcb:16 10fe0-10ff6:14 11000-1104d:b
    11052-1106f:b 11070-11075:17 1107f:f 11080-110c1:a 110c2:17 110cd:13 110d0-110e8:c
    110f0-110f9:c 11100-11134:c 11136-11143:c 11144-11146:13 11147:16 11150-11176:f 11180-111c8:c
    111c9-111cc:10 111cd:f 111ce-111cf:16 111d0-111d9:c 111da:f 111db-111df:10 111e1-111f4:f
    11200-11211:f 11213-1123d:f 1123e:11 1123f-11241:18 11280-11286:10 11288:10 1128a-1128d:10
    1128f-1129d:10 1129f-112a9:10 112b0-112ea:f 112f0-112f9:f 11300:10 11301-11303:f 11305-1130c:f
    1130f-11310:f 11313-11328:f 1132a-11330:f 11332-11333:f 11335-11339:f 1133b:13 1133c-11344:f
    11347-11348:f 1134b-1134d:f 11350:10 11357:f 1135d-11363:f 11366-1136c:f 11370-11374:f
    11380-11389:1a 1138b:1a 1138e:1a 11390-113b5:1a 113b7-113c0:1a 113c2:1a 113c5:1a 113c7-113ca:1a
    113cc-113d5:1a 113d7-113d8:1a 113e1-113e2:1a 11400-11459:11 1145a:16 1145b:11 1145d:11 1145e:13
    1145f:14 11460-11461:16 11480-114c7:f 114d0-114d9:f 11580-115b5:f 115b8-115c9:f 115ca-115dd:10
    11600-11644:f 11650-11659:f 11660-1166c:11 11680-116b7:c 116b8:14 116b9:17 116c0-116c9:c
    116d0-116e3:1a 11700-11719:10 1171a:13 1171d-1172b:10 11730-1173f:10 11740-11746:17
    11800-1183b:13 118a0-118f2:f 118ff:f 11900-11906:16 11909:16 1190c-11913:16 11915-11916:16
    11918-11935:16 11937-11938:16 1193b-11946:16 11950-11959:16 119a0-119a7:14 119aa-119d7:14
    119da-119e4:14 11a00-11a47:12 11a50-11a83:12 11a84-11a85:14 11a86-11a9c:12 11a9d:13
    11a9e-11aa2:12 11ab0-11abf:17 11ac0-11af8:f 11b00-11b09:18 11bc0-11be1:1a 11bf0-11bf9:1a
    11c00-11c08:11 11c0a-11c36:11 11c38-11c45:11 11c50-11c6c:11 11c70-11c8f:11 11c92-11ca7:11
    11ca9-11cb6:11 11d00-11d06:12 11d08-11d09:12 11d0b-11d36:12 11d3a:12 11d3c-11d3d:12
    11d3f-11d47:12 11d50-11d59:12 11d60-11d65:13 11d67-11d68:13 11d6a-11d8e:13 11d90-11d91:13
    11d93-11d98:13 11da0-11da9:13 11ee0-11ef8:13 11f00-11f10:18 11f12-11f3a:18 11f3e-11f59:18
    11f5a:1a 11fb0:16 11fc0-11ff1:14 11fff:14 12000-1236e:8 1236f-12398:f 12399:10 12400-12462:8
    12463-1246e:f 12470-12473:8 12474:f 12480-12543:10 12f90-12ff2:17 13000-1342e:a 1342f:18
    13430-13438:14 13439-13455:18 13460-143fa:1a 14400-14646:10 16100-16139:1a 16800-16a38:b
    16a40-16a5e:f 16a60-16a69:f 16a6e-16a6f:f 16a70-16abe:17 16ac0-16ac9:17 16ad0-16aed:f
    16af0-16af5:f 16b00-16b45:f 16b50-16b59:f 16b5b-16b61:f 16b63-16b77:f 16b7d-16b8f:f
    16d40-16d79:1a 16e40-16e9a:13 16f00-16f44:c 16f45-16f4a:14 16f4f:14 16f50-16f7e:c
    16f7f-16f87:14 16f8f-16f9f:c 16fe0:11 16fe1:12 16fe2-16fe3:14 16fe4:16 16ff0-16ff1:16
    17000-187ec:11 187ed-187f1:13 187f2-187f7:14 18800-18af2:11 18af3-18cd5:16 18cff:1a
    18d00-18d08:16 1aff0-1aff3:17 1aff5-1affb:17 1affd-1affe:17 1b000-1b001:b 1b002-1b11e:12
    1b11f-1b122:17 1b132:18 1b150-1b152:14 1b155:18 1b164-1b167:14 1b170-1b2fb:12 1bc00-1bc6a:f
    1bc70-1bc7c:f 1bc80-1bc88:f 1bc90-1bc99:f 1bc9c-1bca3:f 1cc00-1ccf9:1a 1cd00-1ceb3:1a
    1cf00-1cf2d:17 1cf30-1cf46:17 1cf50-1cfc3:17 1d000-1d0f5:4 1d100-1d126:4 1d129:9 1d12a-1d1dd:4
    1d1de-1d1e8:10 1d1e9-1d1ea:17 1d200-1d245:7 1d2c0-1d2d3:18 1d2e0-1d2f3:13 1d300-1d356:6
    1d360-1d371:8 1d372-1d378:13 1d400-1d454:4 1d456-1d49c:4 1d49e-1d49f:4 1d4a2:4 1d4a5-1d4a6:4
    1d4a9-1d4ac:4 1d4ae-1d4b9:4 1d4bb:4 1d4bd-1d4c0:4 1d4c1:6 1d4c2-1d4c3:4 1d4c5-1d505:4
    1d507-1d50a:4 1d50d-1d514:4 1d516-1d51c:4 1d51e-1d539:4 1d53b-1d53e:4 1d540-1d544:4 1d546:4
    1d54a-1d550:4 1d552-1d6a3:4 1d6a4-1d6a5:7 1d6a8-1d7c9:4 1d7ca-1d7cb:8 1d7ce-1d7ff:4
    1d800-1da8b:10 1da9b-1da9f:10 1daa1-1daaf:10 1df00-1df1e:17 1df25-1df2a:18 1e000-1e006:11
    1e008-1e018:11 1e01b-1e021:11 1e023-1e024:11 1e026-1e02a:11 1e030-1e06d:18 1e08f:18
    1e100-1e12c:14 1e130-1e13d:14 1e140-1e149:14 1e14e-1e14f:14 1e290-1e2ae:17 1e2c0-1e2f9:14
    1e2ff:14 1e4d0-1e4f9:18 1e5d0-1e5fa:1a 1e5ff:1a 1e7e0-1e7e6:17 1e7e8-1e7eb:17 1e7ed-1e7ee:17
    1e7f0-1e7fe:17 1e800-1e8c4:f 1e8c7-1e8d6:f 1e900-1e94a:11 1e94b:14 1e950-1e959:11
    1e95e-1e95f:11 1ec71-1ecb4:13 1ed01-1ed3d:14 1ee00-1ee03:c 1ee05-1ee1f:c 1ee21-1ee22:c 1ee24:c
    1ee27:c 1ee29-1ee32:c 1ee34-1ee37:c 1ee39:c 1ee3b:c 1ee42:c 1ee47:c 1ee49:c 1ee4b:c
    1ee4d-1ee4f:c 1ee51-1ee52:c 1ee54:c 1ee57:c 1ee59:c 1ee5b:c 1ee5d:c 1ee5f:c 1ee61-1ee62:c
    1ee64:c 1ee67-1ee6a:c 1ee6c-1ee72:c 1ee74-1ee77:c 1ee79-1ee7c:c 1ee7e:c 1ee80-1ee89:c
    1ee8b-1ee9b:c 1eea1-1eea3:c 1eea5-1eea9:c 1eeab-1eebb:c 1eef0-1eef1:c 1f000-1f02b:9
    1f030-1f093:9 1f0a0-1f0ae:b 1f0b1-1f0be:b 1f0bf:f 1f0c1-1f0cf:b 1f0d1-1f0df:b 1f0e0-1f0f5:f
    1f100-1f10a:a 1f10b-1f10c:f 1f10d-1f10f:16 1f110-1f12e:a 1f12f:13 1f130:b 1f131:a 1f132-1f13c:b
    1f13d:a 1f13e:b 1f13f:a 1f140-1f141:b 1f142:a 1f143-1f145:b 1f146:a 1f147-1f149:b 1f14a-1f14e:a
    1f14f-1f156:b 1f157:a 1f158-1f15e:b 1f15f:a 1f160-1f169:b 1f16a-1f16b:c 1f16c:14 1f16d-1f16f:16
    1f170-1f178:b 1f179:a 1f17a:b 1f17b-1f17c:a 1f17d-1f17e:b 1f17f:a 1f180-1f189:b 1f18a-1f18d:a
    1f18e-1f18f:b 1f190:a 1f191-1f19a:b 1f19b-1f1ac:11 1f1ad:16 1f1e6-1f1ff:b 1f200:a 1f201-1f202:b
    1f210-1f231:a 1f232-1f23a:b 1f23b:11 1f240-1f248:a 1f250-1f251:b 1f260-1f265:12 1f300-1f320:b
    1f321-1f32c:f 1f32d-1f32f:10 1f330-1f335:b 1f336:f 1f337-1f37c:b 1f37d:f 1f37e-1f37f:10
    1f380-1f393:b 1f394-1f39f:f 1f3a0-1f3c4:b 1f3c5:f 1f3c6-1f3ca:b 1f3cb-1f3ce:f 1f3cf-1f3d3:10
    1f3d4-1f3df:f 1f3e0-1f3f0:b 1f3f1-1f3f7:f 1f3f8-1f3ff:10 1f400-1f43e:b 1f43f:f 1f440:b 1f441:f
    1f442-1f4f7:b 1f4f8:f 1f4f9-1f4fc:b 1f4fd-1f4fe:f 1f4ff:10 1f500-1f53d:b 1f53e-1f53f:f
    1f540-1f543:c 1f544-1f54a:f 1f54b-1f54f:10 1f550-1f567:b 1f568-1f579:f 1f57a:11 1f57b-1f5a3:f
    1f5a4:11 1f5a5-1f5fa:f 1f5fb-1f5ff:b 1f600:c 1f601-1f610:b 1f611:c 1f612-1f614:b 1f615:c
    1f616:b 1f617:c 1f618:b 1f619:c 1f61a:b 1f61b:c 1f61c-1f61e:b 1f61f:c 1f620-1f625:b
    1f626-1f627:c 1f628-1f62b:b 1f62c:c 1f62d:b 1f62e-1f62f:c 1f630-1f633:b 1f634:c 1f635-1f640:b
    1f641-1f642:f 1f643-1f644:10 1f645-1f64f:b 1f650-1f67f:f 1f680-1f6c5:b 1f6c6-1f6cf:f 1f6d0:10
    1f6d1-1f6d2:11 1f6d3-1f6d4:12 1f6d5:14 1f6d6-1f6d7:16 1f6dc:18 1f6dd-1f6df:17 1f6e0-1f6ec:f
    1f6f0-1f6f3:f 1f6f4-1f6f6:11 1f6f7-1f6f8:12 1f6f9:13 1f6fa:14 1f6fb-1f6fc:16 1f700-1f773:b
    1f774-1f776:18 1f77b-1f77f:18 1f780-1f7d4:f 1f7d5-1f7d8:13 1f7d9:18 1f7e0-1f7eb:14 1f7f0:17
    1f800-1f80b:f 1f810-1f847:f 1f850-1f859:f 1f860-1f887:f 1f890-1f8ad:f 1f8b0-1f8b1:16
    1f8b2-1f8bb:1a 1f8c0-1f8c1:1a 1f900-1f90b:12 1f90c:16 1f90d-1f90f:14 1f910-1f918:10
    1f919-1f91e:11 1f91f:12 1f920-1f927:11 1f928-1f92f:12 1f930:11 1f931-1f932:12 1f933-1f93e:11
    1f93f:14 1f940-1f94b:11 1f94c:12 1f94d-1f94f:13 1f950-1f95e:11 1f95f-1f96b:12 1f96c-1f970:13
    1f971:14 1f972:16 1f973-1f976:13 1f977-1f978:16 1f979:17 1f97a:13 1f97b:14 1f97c-1f97f:13
    1f980-1f984:10 1f985-1f991:11 1f992-1f997:12 1f998-1f9a2:13 1f9a3-1f9a4:16 1f9a5-1f9aa:14
    1f9ab-1f9ad:16 1f9ae-1f9af:14 1f9b0-1f9b9:13 1f9ba-1f9bf:14 1f9c0:10 1f9c1-1f9c2:13
    1f9c3-1f9ca:14 1f9cb:16 1f9cc:17 1f9cd-1f9cf:14 1f9d0-1f9e6:12 1f9e7-1f9ff:13 1fa00-1fa53:14
    1fa60-1fa6d:13 1fa70-1fa73:14 1fa74:16 1fa75-1fa77:18 1fa78-1fa7a:14 1fa7b-1fa7c:17
    1fa80-1fa82:14 1fa83-1fa86:16 1fa87-1fa88:18 1fa89:1a 1fa8f:1a 1fa90-1fa95:14 1fa96-1faa8:16
    1faa9-1faac:17 1faad-1faaf:18 1fab0-1fab6:16 1fab7-1faba:17 1fabb-1fabd:18 1fabe:1a 1fabf:18
    1fac0-1fac2:16 1fac3-1fac5:17 1fac6:1a 1face-1facf:18 1fad0-1fad6:16 1fad7-1fad9:17
    1fada-1fadb:18 1fadc:1a 1fadf:1a 1fae0-1fae7:17 1fae8:18 1fae9:1a 1faf0-1faf6:17 1faf7-1faf8:18
    1fb00-1fb92:16 1fb94-1fbca:16 1fbcb-1fbef:1a 1fbf0-1fbf9:16 1fffe-1ffff:1 20000-2a6d6:4
    2a6d7-2a6dd:16 2a6de-2a6df:17 2a700-2b734:a 2b735-2b738:17 2b739:18 2b740-2b81d:b
    2b820-2cea1:10 2ceb0-2ebe0:12 2ebf0-2ee5d:19 2f800-2fa1d:4 2fffe-2ffff:1 30000-3134a:16
    31350-323af:18 3fffe-3ffff:1 4fffe-4ffff:1 5fffe-5ffff:1 6fffe-6ffff:1 7fffe-7ffff:1
    8fffe-8ffff:1 9fffe-9ffff:1 afffe-affff:1 bfffe-bffff:1 cfffe-cffff:1 dfffe-dffff:1 e0001:4
    e0020-e007f:4 e0100-e01ef:6 efffe-10ffff:1"

end BracketQuery.Regex
