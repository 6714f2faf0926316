import BracketQuery.Text.Partition

/-!
Data of the Unicode standard: how characters take part in clusters, words and sentences.
-/

namespace BracketQuery.Regex

/-- The part of each character in clusters that are read as one. -/
def clusterBreak : Text.Partition where
  values :=
    "
    cr; cn control; eb ebase; ebg ebasegaz; em emodifier; ex extend; gaz glueafterzwj; l; lf; lv;
    lvt; xx other; pp prepend; ri regionalindicator; sm spacingmark; t; v; zwj"
  runs :=
    "
    0-9:1 a:8 b-c:1 d:0 e-1f:1 7f-9f:1 ad:1 300-36f:5 483-489:5 591-5bd:5 5bf:5 5c1-5c2:5 5c4-5c5:5
    5c7:5 600-605:c 610-61a:5 61c:1 64b-65f:5 670:5 6d6-6dc:5 6dd:c 6df-6e4:5 6e7-6e8:5 6ea-6ed:5
    70f:c 711:5 730-74a:5 7a6-7b0:5 7eb-7f3:5 7fd:5 816-819:5 81b-823:5 825-827:5 829-82d:5
    859-85b:5 890-891:c 897-89f:5 8ca-8e1:5 8e2:c 8e3-902:5 903:e 93a:5 93b:e 93c:5 93e-940:e
    941-948:5 949-94c:e 94d:5 94e-94f:e 951-957:5 962-963:5 981:5 982-983:e 9bc:5 9be:5 9bf-9c0:e
    9c1-9c4:5 9c7-9c8:e 9cb-9cc:e 9cd:5 9d7:5 9e2-9e3:5 9fe:5 a01-a02:5 a03:e a3c:5 a3e-a40:e
    a41-a42:5 a47-a48:5 a4b-a4d:5 a51:5 a70-a71:5 a75:5 a81-a82:5 a83:e abc:5 abe-ac0:e ac1-ac5:5
    ac7-ac8:5 ac9:e acb-acc:e acd:5 ae2-ae3:5 afa-aff:5 b01:5 b02-b03:e b3c:5 b3e-b3f:5 b40:e
    b41-b44:5 b47-b48:e b4b-b4c:e b4d:5 b55-b57:5 b62-b63:5 b82:5 bbe:5 bbf:e bc0:5 bc1-bc2:e
    bc6-bc8:e bca-bcc:e bcd:5 bd7:5 c00:5 c01-c03:e c04:5 c3c:5 c3e-c40:5 c41-c44:e c46-c48:5
    c4a-c4d:5 c55-c56:5 c62-c63:5 c81:5 c82-c83:e cbc:5 cbe:e cbf-cc0:5 cc1:e cc2:5 cc3-cc4:e
    cc6-cc8:5 cca-ccd:5 cd5-cd6:5 ce2-ce3:5 cf3:e d00-d01:5 d02-d03:e d3b-d3c:5 d3e:5 d3f-d40:e
    d41-d44:5 d46-d48:e d4a-d4c:e d4d:5 d4e:c d57:5 d62-d63:5 d81:5 d82-d83:e dca:5 dcf:5 dd0-dd1:e
    dd2-dd4:5 dd6:5 dd8-dde:e ddf:5 df2-df3:e e31:5 e33:e e34-e3a:5 e47-e4e:5 eb1:5 eb3:e eb4-ebc:5
    ec8-ece:5 f18-f19:5 f35:5 f37:5 f39:5 f3e-f3f:e f71-f7e:5 f7f:e f80-f84:5 f86-f87:5 f8d-f97:5
    f99-fbc:5 fc6:5 102d-1030:5 1031:e 1032-1037:5 1039-103a:5 103b-103c:e 103d-103e:5 1056-1057:e
    1058-1059:5 105e-1060:5 1071-1074:5 1082:5 1084:e 1085-1086:5 108d:5 109d:5 1100-115f:7
    1160-11a7:10 11a8-11ff:f 135d-135f:5 1712-1715:5 1732-1734:5 1752-1753:5 1772-1773:5
    17b4-17b5:5 17b6:e 17b7-17bd:5 17be-17c5:e 17c6:5 17c7-17c8:e 17c9-17d3:5 17dd:5 180b-180d:5
    180e:1 180f:5 1885-1886:5 18a9:5 1920-1922:5 1923-1926:e 1927-1928:5 1929-192b:e 1930-1931:e
    1932:5 1933-1938:e 1939-193b:5 1a17-1a18:5 1a19-1a1a:e 1a1b:5 1a55:e 1a56:5 1a57:e 1a58-1a5e:5
    1a60:5 1a62:5 1a65-1a6c:5 1a6d-1a72:e 1a73-1a7c:5 1a7f:5 1ab0-1ace:5 1b00-1b03:5 1b04:e
    1b34-1b3d:5 1b3e-1b41:e 1b42-1b44:5 1b6b-1b73:5 1b80-1b81:5 1b82:e 1ba1:e 1ba2-1ba5:5
    1ba6-1ba7:e 1ba8-1bad:5 1be6:5 1be7:e 1be8-1be9:5 1bea-1bec:e 1bed:5 1bee:e 1bef-1bf3:5
    1c24-1c2b:e 1c2c-1c33:5 1c34-1c35:e 1c36-1c37:5 1cd0-1cd2:5 1cd4-1ce0:5 1ce1:e 1ce2-1ce8:5
    1ced:5 1cf4:5 1cf7:e 1cf8-1cf9:5 1dc0-1dff:5 200b:1 200c:5 200d:11 200e-200f:1 2028-202e:1
    2060-206f:1 20d0-20f0:5 2cef-2cf1:5 2d7f:5 2de0-2dff:5 302a-302f:5 3099-309a:5 a66f-a672:5
    a674-a67d:5 a69e-a69f:5 a6f0-a6f1:5 a802:5 a806:5 a80b:5 a823-a824:e a825-a826:5 a827:e a82c:5
    a880-a881:e a8b4-a8c3:e a8c4-a8c5:5 a8e0-a8f1:5 a8ff:5 a926-a92d:5 a947-a951:5 a952:e a953:5
    a960-a97c:7 a980-a982:5 a983:e a9b3:5 a9b4-a9b5:e a9b6-a9b9:5 a9ba-a9bb:e a9bc-a9bd:5
    a9be-a9bf:e a9c0:5 a9e5:5 aa29-aa2e:5 aa2f-aa30:e aa31-aa32:5 aa33-aa34:e aa35-aa36:5 aa43:5
    aa4c:5 aa4d:e aa7c:5 aab0:5 aab2-aab4:5 aab7-aab8:5 aabe-aabf:5 aac1:5 aaeb:e aaec-aaed:5
    aaee-aaef:e aaf5:e aaf6:5 abe3-abe4:e abe5:5 abe6-abe7:e abe8:5 abe9-abea:e abec:e abed:5
    ac00:9 ac01-ac1b:a ac1c:9 ac1d-ac37:a ac38:9 ac39-ac53:a ac54:9 ac55-ac6f:a ac70:9 ac71-ac8b:a
    ac8c:9 ac8d-aca7:a aca8:9 aca9-acc3:a acc4:9 acc5-acdf:a ace0:9 ace1-acfb:a acfc:9 acfd-ad17:a
    ad18:9 ad19-ad33:a ad34:9 ad35-ad4f:a ad50:9 ad51-ad6b:a ad6c:9 ad6d-ad87:a ad88:9 ad89-ada3:a
    ada4:9 ada5-adbf:a adc0:9 adc1-addb:a addc:9 addd-adf7:a adf8:9 adf9-ae13:a ae14:9 ae15-ae2f:a
    ae30:9 ae31-ae4b:a ae4c:9 ae4d-ae67:a ae68:9 ae69-ae83:a ae84:9 ae85-ae9f:a aea0:9 aea1-aebb:a
    aebc:9 aebd-aed7:a aed8:9 aed9-aef3:a aef4:9 aef5-af0f:a af10:9 af11-af2b:a af2c:9 af2d-af47:a
    af48:9 af49-af63:a af64:9 af65-af7f:a af80:9 af81-af9b:a af9c:9 af9d-afb7:a afb8:9 afb9-afd3:a
    afd4:9 afd5-afef:a aff0:9 aff1-b00b:a b00c:9 b00d-b027:a b028:9 b029-b043:a b044:9 b045-b05f:a
    b060:9 b061-b07b:a b07c:9 b07d-b097:a b098:9 b099-b0b3:a b0b4:9 b0b5-b0cf:a b0d0:9 b0d1-b0eb:a
    b0ec:9 b0ed-b107:a b108:9 b109-b123:a b124:9 b125-b13f:a b140:9 b141-b15b:a b15c:9 b15d-b177:a
    b178:9 b179-b193:a b194:9 b195-b1af:a b1b0:9 b1b1-b1cb:a b1cc:9 b1cd-b1e7:a b1e8:9 b1e9-b203:a
    b204:9 b205-b21f:a b220:9 b221-b23b:a b23c:9 b23d-b257:a b258:9 b259-b273:a b274:9 b275-b28f:a
    b290:9 b291-b2ab:a b2ac:9 b2ad-b2c7:a b2c8:9 b2c9-b2e3:a b2e4:9 b2e5-b2ff:a b300:9 b301-b31b:a
    b31c:9 b31d-b337:a b338:9 b339-b353:a b354:9 b355-b36f:a b370:9 b371-b38b:a b38c:9 b38d-b3a7:a
    b3a8:9 b3a9-b3c3:a b3c4:9 b3c5-b3df:a b3e0:9 b3e1-b3fb:a b3fc:9 b3fd-b417:a b418:9 b419-b433:a
    b434:9 b435-b44f:a b450:9 b451-b46b:a b46c:9 b46d-b487:a b488:9 b489-b4a3:a b4a4:9 b4a5-b4bf:a
    b4c0:9 b4c1-b4db:a b4dc:9 b4dd-b4f7:a b4f8:9 b4f9-b513:a b514:9 b515-b52f:a b530:9 b531-b54b:a
    b54c:9 b54d-b567:a b568:9 b569-b583:a b584:9 b585-b59f:a b5a0:9 b5a1-b5bb:a b5bc:9 b5bd-b5d7:a
    b5d8:9 b5d9-b5f3:a b5f4:9 b5f5-b60f:a b610:9 b611-b62b:a b62c:9 b62d-b647:a b648:9 b649-b663:a
    b664:9 b665-b67f:a b680:9 b681-b69b:a b69c:9 b69d-b6b7:a b6b8:9 b6b9-b6d3:a b6d4:9 b6d5-b6ef:a
    b6f0:9 b6f1-b70b:a b70c:9 b70d-b727:a b728:9 b729-b743:a b744:9 b745-b75f:a b760:9 b761-b77b:a
    b77c:9 b77d-b797:a b798:9 b799-b7b3:a b7b4:9 b7b5-b7cf:a b7d0:9 b7d1-b7eb:a b7ec:9 b7ed-b807:a
    b808:9 b809-b823:a b824:9 b825-b83f:a b840:9 b841-b85b:a b85c:9 b85d-b877:a b878:9 b879-b893:a
    b894:9 b895-b8af:a b8b0:9 b8b1-b8cb:a b8cc:9 b8cd-b8e7:a b8e8:9 b8e9-b903:a b904:9 b905-b91f:a
    b920:9 b921-b93b:a b93c:9 b93d-b957:a b958:9 b959-b973:a b974:9 b975-b98f:a b990:9 b991-b9ab:a
    b9ac:9 b9ad-b9c7:a b9c8:9 b9c9-b9e3:a b9e4:9 b9e5-b9ff:a ba00:9 ba01-ba1b:a ba1c:9 ba1d-ba37:a
    ba38:9 ba39-ba53:a ba54:9 ba55-ba6f:a ba70:9 ba71-ba8b:a ba8c:9 ba8d-baa7:a baa8:9 baa9-bac3:a
    bac4:9 bac5-badf:a bae0:9 bae1-bafb:a bafc:9 bafd-bb17:a bb18:9 bb19-bb33:a bb34:9 bb35-bb4f:a
    bb50:9 bb51-bb6b:a bb6c:9 bb6d-bb87:a bb88:9 bb89-bba3:a bba4:9 bba5-bbbf:a bbc0:9 bbc1-bbdb:a
    bbdc:9 bbdd-bbf7:a bbf8:9 bbf9-bc13:a bc14:9 bc15-bc2f:a bc30:9 bc31-bc4b:a bc4c:9 bc4d-bc67:a
    bc68:9 bc69-bc83:a bc84:9 bc85-bc9f:a bca0:9 bca1-bcbb:a bcbc:9 bcbd-bcd7:a bcd8:9 bcd9-bcf3:a
    bcf4:9 bcf5-bd0f:a bd10:9 bd11-bd2b:a bd2c:9 bd2d-bd47:a bd48:9 bd49-bd63:a bd64:9 bd65-bd7f:a
    bd80:9 bd81-bd9b:a bd9c:9 bd9d-bdb7:a bdb8:9 bdb9-bdd3:a bdd4:9 bdd5-bdef:a bdf0:9 bdf1-be0b:a
    be0c:9 be0d-be27:a be28:9 be29-be43:a be44:9 be45-be5f:a be60:9 be61-be7b:a be7c:9 be7d-be97:a
    be98:9 be99-beb3:a beb4:9 beb5-becf:a bed0:9 bed1-beeb:a beec:9 beed-bf07:a bf08:9 bf09-bf23:a
    bf24:9 bf25-bf3f:a bf40:9 bf41-bf5b:a bf5c:9 bf5d-bf77:a bf78:9 bf79-bf93:a bf94:9 bf95-bfaf:a
    bfb0:9 bfb1-bfcb:a bfcc:9 bfcd-bfe7:a bfe8:9 bfe9-c003:a c004:9 c005-c01f:a c020:9 c021-c03b:a
    c03c:9 c03d-c057:a c058:9 c059-c073:a c074:9 c075-c08f:a c090:9 c091-c0ab:a c0ac:9 c0ad-c0c7:a
    c0c8:9 c0c9-c0e3:a c0e4:9 c0e5-c0ff:a c100:9 c101-c11b:a c11c:9 c11d-c137:a c138:9 c139-c153:a
    c154:9 c155-c16f:a c170:9 c171-c18b:a c18c:9 c18d-c1a7:a c1a8:9 c1a9-c1c3:a c1c4:9 c1c5-c1df:a
    c1e0:9 c1e1-c1fb:a c1fc:9 c1fd-c217:a c218:9 c219-c233:a c234:9 c235-c24f:a c250:9 c251-c26b:a
    c26c:9 c26d-c287:a c288:9 c289-c2a3:a c2a4:9 c2a5-c2bf:a c2c0:9 c2c1-c2db:a c2dc:9 c2dd-c2f7:a
    c2f8:9 c2f9-c313:a c314:9 c315-c32f:a c330:9 c331-c34b:a c34c:9 c34d-c367:a c368:9 c369-c383:a
    c384:9 c385-c39f:a c3a0:9 c3a1-c3bb:a c3bc:9 c3bd-c3d7:a c3d8:9 c3d9-c3f3:a c3f4:9 c3f5-c40f:a
    c410:9 c411-c42b:a c42c:9 c42d-c447:a c448:9 c449-c463:a c464:9 c465-c47f:a c480:9 c481-c49b:a
    c49c:9 c49d-c4b7:a c4b8:9 c4b9-c4d3:a c4d4:9 c4d5-c4ef:a c4f0:9 c4f1-c50b:a c50c:9 c50d-c527:a
    c528:9 c529-c543:a c544:9 c545-c55f:a c560:9 c561-c57b:a c57c:9 c57d-c597:a c598:9 c599-c5b3:a
    c5b4:9 c5b5-c5cf:a c5d0:9 c5d1-c5eb:a c5ec:9 c5ed-c607:a c608:9 c609-c623:a c624:9 c625-c63f:a
    c640:9 c641-c65b:a c65c:9 c65d-c677:a c678:9 c679-c693:a c694:9 c695-c6af:a c6b0:9 c6b1-c6cb:a
    c6cc:9 c6cd-c6e7:a c6e8:9 c6e9-c703:a c704:9 c705-c71f:a c720:9 c721-c73b:a c73c:9 c73d-c757:a
    c758:9 c759-c773:a c774:9 c775-c78f:a c790:9 c791-c7ab:a c7ac:9 c7ad-c7c7:a c7c8:9 c7c9-c7e3:a
    c7e4:9 c7e5-c7ff:a c800:9 c801-c81b:a c81c:9 c81d-c837:a c838:9 c839-c853:a c854:9 c855-c86f:a
    c870:9 c871-c88b:a c88c:9 c88d-c8a7:a c8a8:9 c8a9-c8c3:a c8c4:9 c8c5-c8df:a c8e0:9 c8e1-c8fb:a
    c8fc:9 c8fd-c917:a c918:9 c919-c933:a c934:9 c935-c94f:a c950:9 c951-c96b:a c96c:9 c96d-c987:a
    c988:9 c989-c9a3:a c9a4:9 c9a5-c9bf:a c9c0:9 c9c1-c9db:a c9dc:9 c9dd-c9f7:a c9f8:9 c9f9-ca13:a
    ca14:9 ca15-ca2f:a ca30:9 ca31-ca4b:a ca4c:9 ca4d-ca67:a ca68:9 ca69-ca83:a ca84:9 ca85-ca9f:a
    caa0:9 caa1-cabb:a cabc:9 cabd-cad7:a cad8:9 cad9-caf3:a caf4:9 caf5-cb0f:a cb10:9 cb11-cb2b:a
    cb2c:9 cb2d-cb47:a cb48:9 cb49-cb63:a cb64:9 cb65-cb7f:a cb80:9 cb81-cb9b:a cb9c:9 cb9d-cbb7:a
    cbb8:9 cbb9-cbd3:a cbd4:9 cbd5-cbef:a cbf0:9 cbf1-cc0b:a cc0c:9 cc0d-cc27:a cc28:9 cc29-cc43:a
    cc44:9 cc45-cc5f:a cc60:9 cc61-cc7b:a cc7c:9 cc7d-cc97:a cc98:9 cc99-ccb3:a ccb4:9 ccb5-cccf:a
    ccd0:9 ccd1-cceb:a ccec:9 cced-cd07:a cd08:9 cd09-cd23:a cd24:9 cd25-cd3f:a cd40:9 cd41-cd5b:a
    cd5c:9 cd5d-cd77:a cd78:9 cd79-cd93:a cd94:9 cd95-cdaf:a cdb0:9 cdb1-cdcb:a cdcc:9 cdcd-cde7:a
    cde8:9 cde9-ce03:a ce04:9 ce05-ce1f:a ce20:9 ce21-ce3b:a ce3c:9 ce3d-ce57:a ce58:9 ce59-ce73:a
    ce74:9 ce75-ce8f:a ce90:9 ce91-ceab:a ceac:9 cead-cec7:a cec8:9 cec9-cee3:a cee4:9 cee5-ceff:a
    cf00:9 cf01-cf1b:a cf1c:9 cf1d-cf37:a cf38:9 cf39-cf53:a cf54:9 cf55-cf6f:a cf70:9 cf71-cf8b:a
    cf8c:9 cf8d-cfa7:a cfa8:9 cfa9-cfc3:a cfc4:9 cfc5-cfdf:a cfe0:9 cfe1-cffb:a cffc:9 cffd-d017:a
    d018:9 d019-d033:a d034:9 d035-d04f:a d050:9 d051-d06b:a d06c:9 d06d-d087:a d088:9 d089-d0a3:a
    d0a4:9 d0a5-d0bf:a d0c0:9 d0c1-d0db:a d0dc:9 d0dd-d0f7:a d0f8:9 d0f9-d113:a d114:9 d115-d12f:a
    d130:9 d131-d14b:a d14c:9 d14d-d167:a d168:9 d169-d183:a d184:9 d185-d19f:a d1a0:9 d1a1-d1bb:a
    d1bc:9 d1bd-d1d7:a d1d8:9 d1d9-d1f3:a d1f4:9 d1f5-d20f:a d210:9 d211-d22b:a d22c:9 d22d-d247:a
    d248:9 d249-d263:a d264:9 d265-d27f:a d280:9 d281-d29b:a d29c:9 d29d-d2b7:a d2b8:9 d2b9-d2d3:a
    d2d4:9 d2d5-d2ef:a d2f0:9 d2f1-d30b:a d30c:9 d30d-d327:a d328:9 d329-d343:a d344:9 d345-d35f:a
    d360:9 d361-d37b:a d37c:9 d37d-d397:a d398:9 d399-d3b3:a d3b4:9 d3b5-d3cf:a d3d0:9 d3d1-d3eb:a
    d3ec:9 d3ed-d407:a d408:9 d409-d423:a d424:9 d425-d43f:a d440:9 d441-d45b:a d45c:9 d45d-d477:a
    d478:9 d479-d493:a d494:9 d495-d4af:a d4b0:9 d4b1-d4cb:a d4cc:9 d4cd-d4e7:a d4e8:9 d4e9-d503:a
    d504:9 d505-d51f:a d520:9 d521-d53b:a d53c:9 d53d-d557:a d558:9 d559-d573:a d574:9 d575-d58f:a
    d590:9 d591-d5ab:a d5ac:9 d5ad-d5c7:a d5c8:9 d5c9-d5e3:a d5e4:9 d5e5-d5ff:a d600:9 d601-d61b:a
    d61c:9 d61d-d637:a d638:9 d639-d653:a d654:9 d655-d66f:a d670:9 d671-d68b:a d68c:9 d68d-d6a7:a
    d6a8:9 d6a9-d6c3:a d6c4:9 d6c5-d6df:a d6e0:9 d6e1-d6fb:a d6fc:9 d6fd-d717:a d718:9 d719-d733:a
    d734:9 d735-d74f:a d750:9 d751-d76b:a d76c:9 d76d-d787:a d788:9 d789-d7a3:a d7b0-d7c6:10
    d7cb-d7fb:f fb1e:5 fe00-fe0f:5 fe20-fe2f:5 feff:1 ff9e-ff9f:5 fff0-fffb:1 101fd:5 102e0:5
    10376-1037a:5 10a01-10a03:5 10a05-10a06:5 10a0c-10a0f:5 10a38-10a3a:5 10a3f:5 10ae5-10ae6:5
    10d24-10d27:5 10d69-10d6d:5 10eab-10eac:5 10efc-10eff:5 10f46-10f50:5 10f82-10f85:5 11000:e
    11001:5 11002:e 11038-11046:5 11070:5 11073-11074:5 1107f-11081:5 11082:e 110b0-110b2:e
    110b3-110b6:5 110b7-110b8:e 110b9-110ba:5 110bd:c 110c2:5 110cd:c 11100-11102:5 11127-1112b:5
    1112c:e 1112d-11134:5 11145-11146:e 11173:5 11180-11181:5 11182:e 111b3-111b5:e 111b6-111be:5
    111bf:e 111c0:5 111c2-111c3:c 111c9-111cc:5 111ce:e 111cf:5 1122c-1122e:e 1122f-11231:5
    11232-11233:e 11234-11237:5 1123e:5 11241:5 112df:5 112e0-112e2:e 112e3-112ea:5 11300-11301:5
    11302-11303:e 1133b-1133c:5 1133e:5 1133f:e 11340:5 11341-11344:e 11347-11348:e 1134b-1134c:e
    1134d:5 11357:5 11362-11363:e 11366-1136c:5 11370-11374:5 113b8:5 113b9-113ba:e 113bb-113c0:5
    113c2:5 113c5:5 113c7-113c9:5 113ca:e 113cc-113cd:e 113ce-113d0:5 113d1:c 113d2:5 113e1-113e2:5
    11435-11437:e 11438-1143f:5 11440-11441:e 11442-11444:5 11445:e 11446:5 1145e:5 114b0:5
    114b1-114b2:e 114b3-114b8:5 114b9:e 114ba:5 114bb-114bc:e 114bd:5 114be:e 114bf-114c0:5 114c1:e
    114c2-114c3:5 115af:5 115b0-115b1:e 115b2-115b5:5 115b8-115bb:e 115bc-115bd:5 115be:e
    115bf-115c0:5 115dc-115dd:5 11630-11632:e 11633-1163a:5 1163b-1163c:e 1163d:5 1163e:e
    1163f-11640:5 116ab:5 116ac:e 116ad:5 116ae-116af:e 116b0-116b7:5 1171d:5 1171e:e 1171f:5
    11722-11725:5 11726:e 11727-1172b:5 1182c-1182e:e 1182f-11837:5 11838:e 11839-1183a:5 11930:5
    11931-11935:e 11937-11938:e 1193b-1193e:5 1193f:c 11940:e 11941:c 11942:e 11943:5 119d1-119d3:e
    119d4-119d7:5 119da-119db:5 119dc-119df:e 119e0:5 119e4:e 11a01-11a0a:5 11a33-11a38:5 11a39:e
    11a3a:c 11a3b-11a3e:5 11a47:5 11a51-11a56:5 11a57-11a58:e 11a59-11a5b:5 11a84-11a89:c
    11a8a-11a96:5 11a97:e 11a98-11a99:5 11c2f:e 11c30-11c36:5 11c38-11c3d:5 11c3e:e 11c3f:5
    11c92-11ca7:5 11ca9:e 11caa-11cb0:5 11cb1:e 11cb2-11cb3:5 11cb4:e 11cb5-11cb6:5 11d31-11d36:5
    11d3a:5 11d3c-11d3d:5 11d3f-11d45:5 11d46:c 11d47:5 11d8a-11d8e:e 11d90-11d91:5 11d93-11d94:e
    11d95:5 11d96:e 11d97:5 11ef3-11ef4:5 11ef5-11ef6:e 11f00-11f01:5 11f02:c 11f03:e 11f34-11f35:e
    11f36-11f3a:5 11f3e-11f3f:e 11f40-11f42:5 11f5a:5 13430-1343f:1 13440:5 13447-13455:5
    1611e-16129:5 1612a-1612c:e 1612d-1612f:5 16af0-16af4:5 16b30-16b36:5 16d63:10 16d67-16d6a:10
    16f4f:5 16f51-16f87:e 16f8f-16f92:5 16fe4:5 16ff0-16ff1:5 1bc9d-1bc9e:5 1bca0-1bca3:1
    1cf00-1cf2d:5 1cf30-1cf46:5 1d165-1d169:5 1d16d-1d172:5 1d173-1d17a:1 1d17b-1d182:5
    1d185-1d18b:5 1d1aa-1d1ad:5 1d242-1d244:5 1da00-1da36:5 1da3b-1da6c:5 1da75:5 1da84:5
    1da9b-1da9f:5 1daa1-1daaf:5 1e000-1e006:5 1e008-1e018:5 1e01b-1e021:5 1e023-1e024:5
    1e026-1e02a:5 1e08f:5 1e130-1e136:5 1e2ae:5 1e2ec-1e2ef:5 1e4ec-1e4ef:5 1e5ee-1e5ef:5
    1e8d0-1e8d6:5 1e944-1e94a:5 1f1e6-1f1ff:d 1f3fb-1f3ff:5 e0000-e001f:1 e0020-e007f:5
    e0080-e00ff:1 e0100-e01ef:5 e01f0-e0fff:1"

/-- The part of each character in words. -/
def wordBreak : Text.Partition where
  values :=
    "
    le aletter; cr; dq doublequote; eb ebase; ebg ebasegaz; em emodifier; extend; ex extendnumlet;
    fo format; gaz glueafterzwj; hl hebrewletter; ka katakana; lf; ml midletter; mn midnum; mb
    midnumlet; nl newline; nu numeric; xx other; ri regionalindicator; sq singlequote; wsegspace;
    zwj"
  runs :=
    "
    a:c b-c:10 d:1 20:15 22:2 27:14 2c:e 2e:f 30-39:11 3a:d 3b:e 41-5a:0 5f:7 61-7a:0 85:10 aa:0
    ad:8 b5:0 b7:d ba:0 c0-d6:0 d8-f6:0 f8-2d7:0 2de-2ff:0 300-36f:6 370-374:0 376-377:0 37a-37d:0
    37e:e 37f:0 386:0 387:d 388-38a:0 38c:0 38e-3a1:0 3a3-3f5:0 3f7-481:0 483-489:6 48a-52f:0
    531-556:0 559-55c:0 55e:0 55f:d 560-588:0 589:e 58a:0 591-5bd:6 5bf:6 5c1-5c2:6 5c4-5c5:6 5c7:6
    5d0-5ea:a 5ef-5f2:a 5f3:0 5f4:d 600-605:11 60c-60d:e 610-61a:6 61c:8 620-64a:0 64b-65f:6
    660-669:11 66b:11 66c:e 66e-66f:0 670:6 671-6d3:0 6d5:0 6d6-6dc:6 6dd:11 6df-6e4:6 6e5-6e6:0
    6e7-6e8:6 6ea-6ed:6 6ee-6ef:0 6f0-6f9:11 6fa-6fc:0 6ff:0 70f-710:0 711:6 712-72f:0 730-74a:6
    74d-7a5:0 7a6-7b0:6 7b1:0 7c0-7c9:11 7ca-7ea:0 7eb-7f3:6 7f4-7f5:0 7f8:e 7fa:0 7fd:6 800-815:0
    816-819:6 81a:0 81b-823:6 824:0 825-827:6 828:0 829-82d:6 840-858:0 859-85b:6 860-86a:0
    870-887:0 889-88e:0 890-891:11 897-89f:6 8a0-8c9:0 8ca-8e1:6 8e2:11 8e3-903:6 904-939:0
    93a-93c:6 93d:0 93e-94f:6 950:0 951-957:6 958-961:0 962-963:6 966-96f:11 971-980:0 981-983:6
    985-98c:0 98f-990:0 993-9a8:0 9aa-9b0:0 9b2:0 9b6-9b9:0 9bc:6 9bd:0 9be-9c4:6 9c7-9c8:6
    9cb-9cd:6 9ce:0 9d7:6 9dc-9dd:0 9df-9e1:0 9e2-9e3:6 9e6-9ef:11 9f0-9f1:0 9fc:0 9fe:6 a01-a03:6
    a05-a0a:0 a0f-a10:0 a13-a28:0 a2a-a30:0 a32-a33:0 a35-a36:0 a38-a39:0 a3c:6 a3e-a42:6 a47-a48:6
    a4b-a4d:6 a51:6 a59-a5c:0 a5e:0 a66-a6f:11 a70-a71:6 a72-a74:0 a75:6 a81-a83:6 a85-a8d:0
    a8f-a91:0 a93-aa8:0 aaa-ab0:0 ab2-ab3:0 ab5-ab9:0 abc:6 abd:0 abe-ac5:6 ac7-ac9:6 acb-acd:6
    ad0:0 ae0-ae1:0 ae2-ae3:6 ae6-aef:11 af9:0 afa-aff:6 b01-b03:6 b05-b0c:0 b0f-b10:0 b13-b28:0
    b2a-b30:0 b32-b33:0 b35-b39:0 b3c:6 b3d:0 b3e-b44:6 b47-b48:6 b4b-b4d:6 b55-b57:6 b5c-b5d:0
    b5f-b61:0 b62-b63:6 b66-b6f:11 b71:0 b82:6 b83:0 b85-b8a:0 b8e-b90:0 b92-b95:0 b99-b9a:0 b9c:0
    b9e-b9f:0 ba3-ba4:0 ba8-baa:0 bae-bb9:0 bbe-bc2:6 bc6-bc8:6 bca-bcd:6 bd0:0 bd7:6 be6-bef:11
    c00-c04:6 c05-c0c:0 c0e-c10:0 c12-c28:0 c2a-c39:0 c3c:6 c3d:0 c3e-c44:6 c46-c48:6 c4a-c4d:6
    c55-c56:6 c58-c5a:0 c5d:0 c60-c61:0 c62-c63:6 c66-c6f:11 c80:0 c81-c83:6 c85-c8c:0 c8e-c90:0
    c92-ca8:0 caa-cb3:0 cb5-cb9:0 cbc:6 cbd:0 cbe-cc4:6 cc6-cc8:6 cca-ccd:6 cd5-cd6:6 cdd-cde:0
    ce0-ce1:0 ce2-ce3:6 ce6-cef:11 cf1-cf2:0 cf3:6 d00-d03:6 d04-d0c:0 d0e-d10:0 d12-d3a:0
    d3b-d3c:6 d3d:0 d3e-d44:6 d46-d48:6 d4a-d4d:6 d4e:0 d54-d56:0 d57:6 d5f-d61:0 d62-d63:6
    d66-d6f:11 d7a-d7f:0 d81-d83:6 d85-d96:0 d9a-db1:0 db3-dbb:0 dbd:0 dc0-dc6:0 dca:6 dcf-dd4:6
    dd6:6 dd8-ddf:6 de6-def:11 df2-df3:6 e31:6 e34-e3a:6 e47-e4e:6 e50-e59:11 eb1:6 eb4-ebc:6
    ec8-ece:6 ed0-ed9:11 f00:0 f18-f19:6 f20-f29:11 f35:6 f37:6 f39:6 f3e-f3f:6 f40-f47:0 f49-f6c:0
    f71-f84:6 f86-f87:6 f88-f8c:0 f8d-f97:6 f99-fbc:6 fc6:6 102b-103e:6 1040-1049:11 1056-1059:6
    105e-1060:6 1062-1064:6 1067-106d:6 1071-1074:6 1082-108d:6 108f:6 1090-1099:11 109a-109d:6
    10a0-10c5:0 10c7:0 10cd:0 10d0-10fa:0 10fc-1248:0 124a-124d:0 1250-1256:0 1258:0 125a-125d:0
    1260-1288:0 128a-128d:0 1290-12b0:0 12b2-12b5:0 12b8-12be:0 12c0:0 12c2-12c5:0 12c8-12d6:0
    12d8-1310:0 1312-1315:0 1318-135a:0 135d-135f:6 1380-138f:0 13a0-13f5:0 13f8-13fd:0 1401-166c:0
    166f-167f:0 1680:15 1681-169a:0 16a0-16ea:0 16ee-16f8:0 1700-1711:0 1712-1715:6 171f-1731:0
    1732-1734:6 1740-1751:0 1752-1753:6 1760-176c:0 176e-1770:0 1772-1773:6 17b4-17d3:6 17dd:6
    17e0-17e9:11 180b-180d:6 180e:8 180f:6 1810-1819:11 1820-1878:0 1880-1884:0 1885-1886:6
    1887-18a8:0 18a9:6 18aa:0 18b0-18f5:0 1900-191e:0 1920-192b:6 1930-193b:6 1946-194f:11
    19d0-19da:11 1a00-1a16:0 1a17-1a1b:6 1a55-1a5e:6 1a60-1a7c:6 1a7f:6 1a80-1a89:11 1a90-1a99:11
    1ab0-1ace:6 1b00-1b04:6 1b05-1b33:0 1b34-1b44:6 1b45-1b4c:0 1b50-1b59:11 1b6b-1b73:6
    1b80-1b82:6 1b83-1ba0:0 1ba1-1bad:6 1bae-1baf:0 1bb0-1bb9:11 1bba-1be5:0 1be6-1bf3:6
    1c00-1c23:0 1c24-1c37:6 1c40-1c49:11 1c4d-1c4f:0 1c50-1c59:11 1c5a-1c7d:0 1c80-1c8a:0
    1c90-1cba:0 1cbd-1cbf:0 1cd0-1cd2:6 1cd4-1ce8:6 1ce9-1cec:0 1ced:6 1cee-1cf3:0 1cf4:6
    1cf5-1cf6:0 1cf7-1cf9:6 1cfa:0 1d00-1dbf:0 1dc0-1dff:6 1e00-1f15:0 1f18-1f1d:0 1f20-1f45:0
    1f48-1f4d:0 1f50-1f57:0 1f59:0 1f5b:0 1f5d:0 1f5f-1f7d:0 1f80-1fb4:0 1fb6-1fbc:0 1fbe:0
    1fc2-1fc4:0 1fc6-1fcc:0 1fd0-1fd3:0 1fd6-1fdb:0 1fe0-1fec:0 1ff2-1ff4:0 1ff6-1ffc:0
    2000-2006:15 2008-200a:15 200c:6 200d:16 200e-200f:8 2018-2019:f 2024:f 2027:d 2028-2029:10
    202a-202e:8 202f:7 203f-2040:7 2044:e 2054:7 205f:15 2060-2064:8 2066-206f:8 2071:0 207f:0
    2090-209c:0 20d0-20f0:6 2102:0 2107:0 210a-2113:0 2115:0 2119-211d:0 2124:0 2126:0 2128:0
    212a-212d:0 212f-2139:0 213c-213f:0 2145-2149:0 214e:0 2160-2188:0 24b6-24e9:0 2c00-2ce4:0
    2ceb-2cee:0 2cef-2cf1:6 2cf2-2cf3:0 2d00-2d25:0 2d27:0 2d2d:0 2d30-2d67:0 2d6f:0 2d7f:6
    2d80-2d96:0 2da0-2da6:0 2da8-2dae:0 2db0-2db6:0 2db8-2dbe:0 2dc0-2dc6:0 2dc8-2dce:0 2dd0-2dd6:0
    2dd8-2dde:0 2de0-2dff:6 2e2f:0 3000:15 3005:0 302a-302f:6 3031-3035:b 303b-303c:0 3099-309a:6
    309b-309c:b 30a0-30fa:b 30fc-30ff:b 3105-312f:0 3131-318e:0 31a0-31bf:0 31f0-31ff:b 32d0-32fe:b
    3300-3357:b a000-a48c:0 a4d0-a4fd:0 a500-a60c:0 a610-a61f:0 a620-a629:11 a62a-a62b:0
    a640-a66e:0 a66f-a672:6 a674-a67d:6 a67f-a69d:0 a69e-a69f:6 a6a0-a6ef:0 a6f0-a6f1:6 a708-a7cd:0
    a7d0-a7d1:0 a7d3:0 a7d5-a7dc:0 a7f2-a801:0 a802:6 a803-a805:0 a806:6 a807-a80a:0 a80b:6
    a80c-a822:0 a823-a827:6 a82c:6 a840-a873:0 a880-a881:6 a882-a8b3:0 a8b4-a8c5:6 a8d0-a8d9:11
    a8e0-a8f1:6 a8f2-a8f7:0 a8fb:0 a8fd-a8fe:0 a8ff:6 a900-a909:11 a90a-a925:0 a926-a92d:6
    a930-a946:0 a947-a953:6 a960-a97c:0 a980-a983:6 a984-a9b2:0 a9b3-a9c0:6 a9cf:0 a9d0-a9d9:11
    a9e5:6 a9f0-a9f9:11 aa00-aa28:0 aa29-aa36:6 aa40-aa42:0 aa43:6 aa44-aa4b:0 aa4c-aa4d:6
    aa50-aa59:11 aa7b-aa7d:6 aab0:6 aab2-aab4:6 aab7-aab8:6 aabe-aabf:6 aac1:6 aae0-aaea:0
    aaeb-aaef:6 aaf2-aaf4:0 aaf5-aaf6:6 ab01-ab06:0 ab09-ab0e:0 ab11-ab16:0 ab20-ab26:0 ab28-ab2e:0
    ab30-ab69:0 ab70-abe2:0 abe3-abea:6 abec-abed:6 abf0-abf9:11 ac00-d7a3:0 d7b0-d7c6:0
    d7cb-d7fb:0 fb00-fb06:0 fb13-fb17:0 fb1d:a fb1e:6 fb1f-fb28:a fb2a-fb36:a fb38-fb3c:a fb3e:a
    fb40-fb41:a fb43-fb44:a fb46-fb4f:a fb50-fbb1:0 fbd3-fd3d:0 fd50-fd8f:0 fd92-fdc7:0 fdf0-fdfb:0
    fe00-fe0f:6 fe13:d fe20-fe2f:6 fe33-fe34:7 fe4d-fe4f:7 fe50:e fe52:f fe54:e fe55:d fe70-fe74:0
    fe76-fefc:0 feff:8 ff07:f ff0c:e ff0e:f ff10-ff19:11 ff1a:d ff1b:e ff21-ff3a:0 ff3f:7
    ff41-ff5a:0 ff66-ff9d:b ff9e-ff9f:6 ffa0-ffbe:0 ffc2-ffc7:0 ffca-ffcf:0 ffd2-ffd7:0 ffda-ffdc:0
    fff9-fffb:8 10000-1000b:0 1000d-10026:0 10028-1003a:0 1003c-1003d:0 1003f-1004d:0 10050-1005d:0
    10080-100fa:0 10140-10174:0 101fd:6 10280-1029c:0 102a0-102d0:0 102e0:6 10300-1031f:0
    1032d-1034a:0 10350-10375:0 10376-1037a:6 10380-1039d:0 103a0-103c3:0 103c8-103cf:0
    103d1-103d5:0 10400-1049d:0 104a0-104a9:11 104b0-104d3:0 104d8-104fb:0 10500-10527:0
    10530-10563:0 10570-1057a:0 1057c-1058a:0 1058c-10592:0 10594-10595:0 10597-105a1:0
    105a3-105b1:0 105b3-105b9:0 105bb-105bc:0 105c0-105f3:0 10600-10736:0 10740-10755:0
    10760-10767:0 10780-10785:0 10787-107b0:0 107b2-107ba:0 10800-10805:0 10808:0 1080a-10835:0
    10837-10838:0 1083c:0 1083f-10855:0 10860-10876:0 10880-1089e:0 108e0-108f2:0 108f4-108f5:0
    10900-10915:0 10920-10939:0 10980-109b7:0 109be-109bf:0 10a00:0 10a01-10a03:6 10a05-10a06:6
    10a0c-10a0f:6 10a10-10a13:0 10a15-10a17:0 10a19-10a35:0 10a38-10a3a:6 10a3f:6 10a60-10a7c:0
    10a80-10a9c:0 10ac0-10ac7:0 10ac9-10ae4:0 10ae5-10ae6:6 10b00-10b35:0 10b40-10b55:0
    10b60-10b72:0 10b80-10b91:0 10c00-10c48:0 10c80-10cb2:0 10cc0-10cf2:0 10d00-10d23:0
    10d24-10d27:6 10d30-10d39:11 10d40-10d49:11 10d4a-10d65:0 10d69-10d6d:6 10d6f-10d85:0
    10e80-10ea9:0 10eab-10eac:6 10eb0-10eb1:0 10ec2-10ec4:0 10efc-10eff:6 10f00-10f1c:0 10f27:0
    10f30-10f45:0 10f46-10f50:6 10f70-10f81:0 10f82-10f85:6 10fb0-10fc4:0 10fe0-10ff6:0
    11000-11002:6 11003-11037:0 11038-11046:6 11066-1106f:11 11070:6 11071-11072:0 11073-11074:6
    11075:0 1107f-11082:6 11083-110af:0 110b0-110ba:6 110bd:11 110c2:6 110cd:11 110d0-110e8:0
    110f0-110f9:11 11100-11102:6 11103-11126:0 11127-11134:6 11136-1113f:11 11144:0 11145-11146:6
    11147:0 11150-11172:0 11173:6 11176:0 11180-11182:6 11183-111b2:0 111b3-111c0:6 111c1-111c4:0
    111c9-111cc:6 111ce-111cf:6 111d0-111d9:11 111da:0 111dc:0 11200-11211:0 11213-1122b:0
    1122c-11237:6 1123e:6 1123f-11240:0 11241:6 11280-11286:0 11288:0 1128a-1128d:0 1128f-1129d:0
    1129f-112a8:0 112b0-112de:0 112df-112ea:6 112f0-112f9:11 11300-11303:6 11305-1130c:0
    1130f-11310:0 11313-11328:0 1132a-11330:0 11332-11333:0 11335-11339:0 1133b-1133c:6 1133d:0
    1133e-11344:6 11347-11348:6 1134b-1134d:6 11350:0 11357:6 1135d-11361:0 11362-11363:6
    11366-1136c:6 11370-11374:6 11380-11389:0 1138b:0 1138e:0 11390-113b5:0 113b7:0 113b8-113c0:6
    113c2:6 113c5:6 113c7-113ca:6 113cc-113d0:6 113d1:0 113d2:6 113d3:0 113e1-113e2:6 11400-11434:0
    11435-11446:6 11447-1144a:0 11450-11459:11 1145e:6 1145f-11461:0 11480-114af:0 114b0-114c3:6
    114c4-114c5:0 114c7:0 114d0-114d9:11 11580-115ae:0 115af-115b5:6 115b8-115c0:6 115d8-115db:0
    115dc-115dd:6 11600-1162f:0 11630-11640:6 11644:0 11650-11659:11 11680-116aa:0 116ab-116b7:6
    116b8:0 116c0-116c9:11 116d0-116e3:11 1171d-1172b:6 11730-11739:11 11800-1182b:0 1182c-1183a:6
    118a0-118df:0 118e0-118e9:11 118ff-11906:0 11909:0 1190c-11913:0 11915-11916:0 11918-1192f:0
    11930-11935:6 11937-11938:6 1193b-1193e:6 1193f:0 11940:6 11941:0 11942-11943:6 11950-11959:11
    119a0-119a7:0 119aa-119d0:0 119d1-119d7:6 119da-119e0:6 119e1:0 119e3:0 119e4:6 11a00:0
    11a01-11a0a:6 11a0b-11a32:0 11a33-11a39:6 11a3a:0 11a3b-11a3e:6 11a47:6 11a50:0 11a51-11a5b:6
    11a5c-11a89:0 11a8a-11a99:6 11a9d:0 11ab0-11af8:0 11bc0-11be0:0 11bf0-11bf9:11 11c00-11c08:0
    11c0a-11c2e:0 11c2f-11c36:6 11c38-11c3f:6 11c40:0 11c50-11c59:11 11c72-11c8f:0 11c92-11ca7:6
    11ca9-11cb6:6 11d00-11d06:0 11d08-11d09:0 11d0b-11d30:0 11d31-11d36:6 11d3a:6 11d3c-11d3d:6
    11d3f-11d45:6 11d46:0 11d47:6 11d50-11d59:11 11d60-11d65:0 11d67-11d68:0 11d6a-11d89:0
    11d8a-11d8e:6 11d90-11d91:6 11d93-11d97:6 11d98:0 11da0-11da9:11 11ee0-11ef2:0 11ef3-11ef6:6
    11f00-11f01:6 11f02:0 11f03:6 11f04-11f10:0 11f12-11f33:0 11f34-11f3a:6 11f3e-11f42:6
    11f50-11f59:11 11f5a:6 11fb0:0 12000-12399:0 12400-1246e:0 12480-12543:0 12f90-12ff0:0
    13000-1342f:0 13430-1343f:8 13440:6 13441-13446:0 13447-13455:6 13460-143fa:0 14400-14646:0
    16100-1611d:0 1611e-1612f:6 16130-16139:11 16800-16a38:0 16a40-16a5e:0 16a60-16a69:11
    16a70-16abe:0 16ac0-16ac9:11 16ad0-16aed:0 16af0-16af4:6 16b00-16b2f:0 16b30-16b36:6
    16b40-16b43:0 16b50-16b59:11 16b63-16b77:0 16b7d-16b8f:0 16d40-16d6c:0 16d70-16d79:11
    16e40-16e7f:0 16f00-16f4a:0 16f4f:6 16f50:0 16f51-16f87:6 16f8f-16f92:6 16f93-16f9f:0
    16fe0-16fe1:0 16fe3:0 16fe4:6 16ff0-16ff1:6 1aff0-1aff3:b 1aff5-1affb:b 1affd-1affe:b 1b000:b
    1b120-1b122:b 1b155:b 1b164-1b167:b 1bc00-1bc6a:0 1bc70-1bc7c:0 1bc80-1bc88:0 1bc90-1bc99:0
    1bc9d-1bc9e:6 1bca0-1bca3:8 1ccf0-1ccf9:11 1cf00-1cf2d:6 1cf30-1cf46:6 1d165-1d169:6
    1d16d-1d172:6 1d173-1d17a:8 1d17b-1d182:6 1d185-1d18b:6 1d1aa-1d1ad:6 1d242-1d244:6
    1d400-1d454:0 1d456-1d49c:0 1d49e-1d49f:0 1d4a2:0 1d4a5-1d4a6:0 1d4a9-1d4ac:0 1d4ae-1d4b9:0
    1d4bb:0 1d4bd-1d4c3:0 1d4c5-1d505:0 1d507-1d50a:0 1d50d-1d514:0 1d516-1d51c:0 1d51e-1d539:0
    1d53b-1d53e:0 1d540-1d544:0 1d546:0 1d54a-1d550:0 1d552-1d6a5:0 1d6a8-1d6c0:0 1d6c2-1d6da:0
    1d6dc-1d6fa:0 1d6fc-1d714:0 1d716-1d734:0 1d736-1d74e:0 1d750-1d76e:0 1d770-1d788:0
    1d78a-1d7a8:0 1d7aa-1d7c2:0 1d7c4-1d7cb:0 1d7ce-1d7ff:11 1da00-1da36:6 1da3b-1da6c:6 1da75:6
    1da84:6 1da9b-1da9f:6 1daa1-1daaf:6 1df00-1df1e:0 1df25-1df2a:0 1e000-1e006:6 1e008-1e018:6
    1e01b-1e021:6 1e023-1e024:6 1e026-1e02a:6 1e030-1e06d:0 1e08f:6 1e100-1e12c:0 1e130-1e136:6
    1e137-1e13d:0 1e140-1e149:11 1e14e:0 1e290-1e2ad:0 1e2ae:6 1e2c0-1e2eb:0 1e2ec-1e2ef:6
    1e2f0-1e2f9:11 1e4d0-1e4eb:0 1e4ec-1e4ef:6 1e4f0-1e4f9:11 1e5d0-1e5ed:0 1e5ee-1e5ef:6 1e5f0:0
    1e5f1-1e5fa:11 1e7e0-1e7e6:0 1e7e8-1e7eb:0 1e7ed-1e7ee:0 1e7f0-1e7fe:0 1e800-1e8c4:0
    1e8d0-1e8d6:6 1e900-1e943:0 1e944-1e94a:6 1e94b:0 1e950-1e959:11 1ee00-1ee03:0 1ee05-1ee1f:0
    1ee21-1ee22:0 1ee24:0 1ee27:0 1ee29-1ee32:0 1ee34-1ee37:0 1ee39:0 1ee3b:0 1ee42:0 1ee47:0
    1ee49:0 1ee4b:0 1ee4d-1ee4f:0 1ee51-1ee52:0 1ee54:0 1ee57:0 1ee59:0 1ee5b:0 1ee5d:0 1ee5f:0
    1ee61-1ee62:0 1ee64:0 1ee67-1ee6a:0 1ee6c-1ee72:0 1ee74-1ee77:0 1ee79-1ee7c:0 1ee7e:0
    1ee80-1ee89:0 1ee8b-1ee9b:0 1eea1-1eea3:0 1eea5-1eea9:0 1eeab-1eebb:0 1f130-1f149:0
    1f150-1f169:0 1f170-1f189:0 1f1e6-1f1ff:13 1f3fb-1f3ff:6 1fbf0-1fbf9:11 e0001:8 e0020-e007f:6
    e0100-e01ef:6"

/-- The part of each character in sentences. -/
def sentenceBreak : Text.Partition where
  values :=
    "
    at aterm; cr; cl close; ex extend; fo format; lf; lo lower; nu numeric; le oletter; xx other;
    sc scontinue; st sterm; se sep; sp; up upper"
  runs :=
    "
    9:d a:5 b-c:d d:1 20:d 21:b 22:2 27-29:2 2c-2d:a 2e:0 30-39:7 3a-3b:a 3f:b 41-5a:e 5b:2 5d:2
    61-7a:6 7b:2 7d:2 85:c a0:d aa:6 ab:2 ad:4 b5:6 ba:6 bb:2 c0-d6:e d8-de:e df-f6:6 f8-ff:6 100:e
    101:6 102:e 103:6 104:e 105:6 106:e 107:6 108:e 109:6 10a:e 10b:6 10c:e 10d:6 10e:e 10f:6 110:e
    111:6 112:e 113:6 114:e 115:6 116:e 117:6 118:e 119:6 11a:e 11b:6 11c:e 11d:6 11e:e 11f:6 120:e
    121:6 122:e 123:6 124:e 125:6 126:e 127:6 128:e 129:6 12a:e 12b:6 12c:e 12d:6 12e:e 12f:6 130:e
    131:6 132:e 133:6 134:e 135:6 136:e 137-138:6 139:e 13a:6 13b:e 13c:6 13d:e 13e:6 13f:e 140:6
    141:e 142:6 143:e 144:6 145:e 146:6 147:e 148-149:6 14a:e 14b:6 14c:e 14d:6 14e:e 14f:6 150:e
    151:6 152:e 153:6 154:e 155:6 156:e 157:6 158:e 159:6 15a:e 15b:6 15c:e 15d:6 15e:e 15f:6 160:e
    161:6 162:e 163:6 164:e 165:6 166:e 167:6 168:e 169:6 16a:e 16b:6 16c:e 16d:6 16e:e 16f:6 170:e
    171:6 172:e 173:6 174:e 175:6 176:e 177:6 178-179:e 17a:6 17b:e 17c:6 17d:e 17e-180:6 181-182:e
    183:6 184:e 185:6 186-187:e 188:6 189-18b:e 18c-18d:6 18e-191:e 192:6 193-194:e 195:6 196-198:e
    199-19b:6 19c-19d:e 19e:6 19f-1a0:e 1a1:6 1a2:e 1a3:6 1a4:e 1a5:6 1a6-1a7:e 1a8:6 1a9:e
    1aa-1ab:6 1ac:e 1ad:6 1ae-1af:e 1b0:6 1b1-1b3:e 1b4:6 1b5:e 1b6:6 1b7-1b8:e 1b9-1ba:6 1bb:8
    1bc:e 1bd-1bf:6 1c0-1c3:8 1c4-1c5:e 1c6:6 1c7-1c8:e 1c9:6 1ca-1cb:e 1cc:6 1cd:e 1ce:6 1cf:e
    1d0:6 1d1:e 1d2:6 1d3:e 1d4:6 1d5:e 1d6:6 1d7:e 1d8:6 1d9:e 1da:6 1db:e 1dc-1dd:6 1de:e 1df:6
    1e0:e 1e1:6 1e2:e 1e3:6 1e4:e 1e5:6 1e6:e 1e7:6 1e8:e 1e9:6 1ea:e 1eb:6 1ec:e 1ed:6 1ee:e
    1ef-1f0:6 1f1-1f2:e 1f3:6 1f4:e 1f5:6 1f6-1f8:e 1f9:6 1fa:e 1fb:6 1fc:e 1fd:6 1fe:e 1ff:6 200:e
    201:6 202:e 203:6 204:e 205:6 206:e 207:6 208:e 209:6 20a:e 20b:6 20c:e 20d:6 20e:e 20f:6 210:e
    211:6 212:e 213:6 214:e 215:6 216:e 217:6 218:e 219:6 21a:e 21b:6 21c:e 21d:6 21e:e 21f:6 220:e
    221:6 222:e 223:6 224:e 225:6 226:e 227:6 228:e 229:6 22a:e 22b:6 22c:e 22d:6 22e:e 22f:6 230:e
    231:6 232:e 233-239:6 23a-23b:e 23c:6 23d-23e:e 23f-240:6 241:e 242:6 243-246:e 247:6 248:e
    249:6 24a:e 24b:6 24c:e 24d:6 24e:e 24f-293:6 294:8 295-2b8:6 2b9-2bf:8 2c0-2c1:6 2c6-2d1:8
    2e0-2e4:6 2ec:8 2ee:8 300-36f:3 370:e 371:6 372:e 373:6 374:8 376:e 377:6 37a-37d:6 37e:a 37f:e
    386:e 388-38a:e 38c:e 38e-38f:e 390:6 391-3a1:e 3a3-3ab:e 3ac-3ce:6 3cf:e 3d0-3d1:6 3d2-3d4:e
    3d5-3d7:6 3d8:e 3d9:6 3da:e 3db:6 3dc:e 3dd:6 3de:e 3df:6 3e0:e 3e1:6 3e2:e 3e3:6 3e4:e 3e5:6
    3e6:e 3e7:6 3e8:e 3e9:6 3ea:e 3eb:6 3ec:e 3ed:6 3ee:e 3ef-3f3:6 3f4:e 3f5:6 3f7:e 3f8:6
    3f9-3fa:e 3fb-3fc:6 3fd-42f:e 430-45f:6 460:e 461:6 462:e 463:6 464:e 465:6 466:e 467:6 468:e
    469:6 46a:e 46b:6 46c:e 46d:6 46e:e 46f:6 470:e 471:6 472:e 473:6 474:e 475:6 476:e 477:6 478:e
    479:6 47a:e 47b:6 47c:e 47d:6 47e:e 47f:6 480:e 481:6 483-489:3 48a:e 48b:6 48c:e 48d:6 48e:e
    48f:6 490:e 491:6 492:e 493:6 494:e 495:6 496:e 497:6 498:e 499:6 49a:e 49b:6 49c:e 49d:6 49e:e
    49f:6 4a0:e 4a1:6 4a2:e 4a3:6 4a4:e 4a5:6 4a6:e 4a7:6 4a8:e 4a9:6 4aa:e 4ab:6 4ac:e 4ad:6 4ae:e
    4af:6 4b0:e 4b1:6 4b2:e 4b3:6 4b4:e 4b5:6 4b6:e 4b7:6 4b8:e 4b9:6 4ba:e 4bb:6 4bc:e 4bd:6 4be:e
    4bf:6 4c0-4c1:e 4c2:6 4c3:e 4c4:6 4c5:e 4c6:6 4c7:e 4c8:6 4c9:e 4ca:6 4cb:e 4cc:6 4cd:e
    4ce-4cf:6 4d0:e 4d1:6 4d2:e 4d3:6 4d4:e 4d5:6 4d6:e 4d7:6 4d8:e 4d9:6 4da:e 4db:6 4dc:e 4dd:6
    4de:e 4df:6 4e0:e 4e1:6 4e2:e 4e3:6 4e4:e 4e5:6 4e6:e 4e7:6 4e8:e 4e9:6 4ea:e 4eb:6 4ec:e 4ed:6
    4ee:e 4ef:6 4f0:e 4f1:6 4f2:e 4f3:6 4f4:e 4f5:6 4f6:e 4f7:6 4f8:e 4f9:6 4fa:e 4fb:6 4fc:e 4fd:6
    4fe:e 4ff:6 500:e 501:6 502:e 503:6 504:e 505:6 506:e 507:6 508:e 509:6 50a:e 50b:6 50c:e 50d:6
    50e:e 50f:6 510:e 511:6 512:e 513:6 514:e 515:6 516:e 517:6 518:e 519:6 51a:e 51b:6 51c:e 51d:6
    51e:e 51f:6 520:e 521:6 522:e 523:6 524:e 525:6 526:e 527:6 528:e 529:6 52a:e 52b:6 52c:e 52d:6
    52e:e 52f:6 531-556:e 559:8 55d:a 560-588:6 589:b 591-5bd:3 5bf:3 5c1-5c2:3 5c4-5c5:3 5c7:3
    5d0-5ea:8 5ef-5f3:8 600-605:7 60c-60d:a 610-61a:3 61c:4 61d-61f:b 620-64a:8 64b-65f:3 660-669:7
    66b-66c:7 66e-66f:8 670:3 671-6d3:8 6d4:b 6d5:8 6d6-6dc:3 6dd:7 6df-6e4:3 6e5-6e6:8 6e7-6e8:3
    6ea-6ed:3 6ee-6ef:8 6f0-6f9:7 6fa-6fc:8 6ff:8 700-702:b 70f:4 710:8 711:3 712-72f:8 730-74a:3
    74d-7a5:8 7a6-7b0:3 7b1:8 7c0-7c9:7 7ca-7ea:8 7eb-7f3:3 7f4-7f5:8 7f8:a 7f9:b 7fa:8 7fd:3
    800-815:8 816-819:3 81a:8 81b-823:3 824:8 825-827:3 828:8 829-82d:3 837:b 839:b 83d-83e:b
    840-858:8 859-85b:3 860-86a:8 870-887:8 889-88e:8 890-891:7 897-89f:3 8a0-8c9:8 8ca-8e1:3 8e2:7
    8e3-903:3 904-939:8 93a-93c:3 93d:8 93e-94f:3 950:8 951-957:3 958-961:8 962-963:3 964-965:b
    966-96f:7 971-980:8 981-983:3 985-98c:8 98f-990:8 993-9a8:8 9aa-9b0:8 9b2:8 9b6-9b9:8 9bc:3
    9bd:8 9be-9c4:3 9c7-9c8:3 9cb-9cd:3 9ce:8 9d7:3 9dc-9dd:8 9df-9e1:8 9e2-9e3:3 9e6-9ef:7
    9f0-9f1:8 9fc:8 9fe:3 a01-a03:3 a05-a0a:8 a0f-a10:8 a13-a28:8 a2a-a30:8 a32-a33:8 a35-a36:8
    a38-a39:8 a3c:3 a3e-a42:3 a47-a48:3 a4b-a4d:3 a51:3 a59-a5c:8 a5e:8 a66-a6f:7 a70-a71:3
    a72-a74:8 a75:3 a81-a83:3 a85-a8d:8 a8f-a91:8 a93-aa8:8 aaa-ab0:8 ab2-ab3:8 ab5-ab9:8 abc:3
    abd:8 abe-ac5:3 ac7-ac9:3 acb-acd:3 ad0:8 ae0-ae1:8 ae2-ae3:3 ae6-aef:7 af9:8 afa-aff:3
    b01-b03:3 b05-b0c:8 b0f-b10:8 b13-b28:8 b2a-b30:8 b32-b33:8 b35-b39:8 b3c:3 b3d:8 b3e-b44:3
    b47-b48:3 b4b-b4d:3 b55-b57:3 b5c-b5d:8 b5f-b61:8 b62-b63:3 b66-b6f:7 b71:8 b82:3 b83:8
    b85-b8a:8 b8e-b90:8 b92-b95:8 b99-b9a:8 b9c:8 b9e-b9f:8 ba3-ba4:8 ba8-baa:8 bae-bb9:8 bbe-bc2:3
    bc6-bc8:3 bca-bcd:3 bd0:8 bd7:3 be6-bef:7 c00-c04:3 c05-c0c:8 c0e-c10:8 c12-c28:8 c2a-c39:8
    c3c:3 c3d:8 c3e-c44:3 c46-c48:3 c4a-c4d:3 c55-c56:3 c58-c5a:8 c5d:8 c60-c61:8 c62-c63:3
    c66-c6f:7 c80:8 c81-c83:3 c85-c8c:8 c8e-c90:8 c92-ca8:8 caa-cb3:8 cb5-cb9:8 cbc:3 cbd:8
    cbe-cc4:3 cc6-cc8:3 cca-ccd:3 cd5-cd6:3 cdd-cde:8 ce0-ce1:8 ce2-ce3:3 ce6-cef:7 cf1-cf2:8 cf3:3
    d00-d03:3 d04-d0c:8 d0e-d10:8 d12-d3a:8 d3b-d3c:3 d3d:8 d3e-d44:3 d46-d48:3 d4a-d4d:3 d4e:8
    d54-d56:8 d57:3 d5f-d61:8 d62-d63:3 d66-d6f:7 d7a-d7f:8 d81-d83:3 d85-d96:8 d9a-db1:8 db3-dbb:8
    dbd:8 dc0-dc6:8 dca:3 dcf-dd4:3 dd6:3 dd8-ddf:3 de6-def:7 df2-df3:3 e01-e30:8 e31:3 e32-e33:8
    e34-e3a:3 e40-e46:8 e47-e4e:3 e50-e59:7 e81-e82:8 e84:8 e86-e8a:8 e8c-ea3:8 ea5:8 ea7-eb0:8
    eb1:3 eb2-eb3:8 eb4-ebc:3 ebd:8 ec0-ec4:8 ec6:8 ec8-ece:3 ed0-ed9:7 edc-edf:8 f00:8 f18-f19:3
    f20-f29:7 f35:3 f37:3 f39:3 f3a-f3d:2 f3e-f3f:3 f40-f47:8 f49-f6c:8 f71-f84:3 f86-f87:3
    f88-f8c:8 f8d-f97:3 f99-fbc:3 fc6:3 1000-102a:8 102b-103e:3 103f:8 1040-1049:7 104a-104b:b
    1050-1055:8 1056-1059:3 105a-105d:8 105e-1060:3 1061:8 1062-1064:3 1065-1066:8 1067-106d:3
    106e-1070:8 1071-1074:3 1075-1081:8 1082-108d:3 108e:8 108f:3 1090-1099:7 109a-109d:3
    10a0-10c5:e 10c7:e 10cd:e 10d0-10fa:8 10fc:6 10fd-1248:8 124a-124d:8 1250-1256:8 1258:8
    125a-125d:8 1260-1288:8 128a-128d:8 1290-12b0:8 12b2-12b5:8 12b8-12be:8 12c0:8 12c2-12c5:8
    12c8-12d6:8 12d8-1310:8 1312-1315:8 1318-135a:8 135d-135f:3 1362:b 1367-1368:b 1380-138f:8
    13a0-13f5:e 13f8-13fd:6 1401-166c:8 166e:b 166f-167f:8 1680:d 1681-169a:8 169b-169c:2
    16a0-16ea:8 16ee-16f8:8 1700-1711:8 1712-1715:3 171f-1731:8 1732-1734:3 1735-1736:b 1740-1751:8
    1752-1753:3 1760-176c:8 176e-1770:8 1772-1773:3 1780-17b3:8 17b4-17d3:3 17d4-17d5:b 17d7:8
    17dc:8 17dd:3 17e0-17e9:7 1802:a 1803:b 1808:a 1809:b 180b-180d:3 180e:4 180f:3 1810-1819:7
    1820-1878:8 1880-1884:8 1885-1886:3 1887-18a8:8 18a9:3 18aa:8 18b0-18f5:8 1900-191e:8
    1920-192b:3 1930-193b:3 1944-1945:b 1946-194f:7 1950-196d:8 1970-1974:8 1980-19ab:8 19b0-19c9:8
    19d0-19da:7 1a00-1a16:8 1a17-1a1b:3 1a20-1a54:8 1a55-1a5e:3 1a60-1a7c:3 1a7f:3 1a80-1a89:7
    1a90-1a99:7 1aa7:8 1aa8-1aab:b 1ab0-1ace:3 1b00-1b04:3 1b05-1b33:8 1b34-1b44:3 1b45-1b4c:8
    1b4e-1b4f:b 1b50-1b59:7 1b5a-1b5b:b 1b5e-1b5f:b 1b6b-1b73:3 1b7d-1b7f:b 1b80-1b82:3 1b83-1ba0:8
    1ba1-1bad:3 1bae-1baf:8 1bb0-1bb9:7 1bba-1be5:8 1be6-1bf3:3 1c00-1c23:8 1c24-1c37:3 1c3b-1c3c:b
    1c40-1c49:7 1c4d-1c4f:8 1c50-1c59:7 1c5a-1c7d:8 1c7e-1c7f:b 1c80-1c88:6 1c89:e 1c8a:6
    1c90-1cba:8 1cbd-1cbf:8 1cd0-1cd2:3 1cd4-1ce8:3 1ce9-1cec:8 1ced:3 1cee-1cf3:8 1cf4:3
    1cf5-1cf6:8 1cf7-1cf9:3 1cfa:8 1d00-1dbf:6 1dc0-1dff:3 1e00:e 1e01:6 1e02:e 1e03:6 1e04:e
    1e05:6 1e06:e 1e07:6 1e08:e 1e09:6 1e0a:e 1e0b:6 1e0c:e 1e0d:6 1e0e:e 1e0f:6 1e10:e 1e11:6
    1e12:e 1e13:6 1e14:e 1e15:6 1e16:e 1e17:6 1e18:e 1e19:6 1e1a:e 1e1b:6 1e1c:e 1e1d:6 1e1e:e
    1e1f:6 1e20:e 1e21:6 1e22:e 1e23:6 1e24:e 1e25:6 1e26:e 1e27:6 1e28:e 1e29:6 1e2a:e 1e2b:6
    1e2c:e 1e2d:6 1e2e:e 1e2f:6 1e30:e 1e31:6 1e32:e 1e33:6 1e34:e 1e35:6 1e36:e 1e37:6 1e38:e
    1e39:6 1e3a:e 1e3b:6 1e3c:e 1e3d:6 1e3e:e 1e3f:6 1e40:e 1e41:6 1e42:e 1e43:6 1e44:e 1e45:6
    1e46:e 1e47:6 1e48:e 1e49:6 1e4a:e 1e4b:6 1e4c:e 1e4d:6 1e4e:e 1e4f:6 1e50:e 1e51:6 1e52:e
    1e53:6 1e54:e 1e55:6 1e56:e 1e57:6 1e58:e 1e59:6 1e5a:e 1e5b:6 1e5c:e 1e5d:6 1e5e:e 1e5f:6
    1e60:e 1e61:6 1e62:e 1e63:6 1e64:e 1e65:6 1e66:e 1e67:6 1e68:e 1e69:6 1e6a:e 1e6b:6 1e6c:e
    1e6d:6 1e6e:e 1e6f:6 1e70:e 1e71:6 1e72:e 1e73:6 1e74:e 1e75:6 1e76:e 1e77:6 1e78:e 1e79:6
    1e7a:e 1e7b:6 1e7c:e 1e7d:6 1e7e:e 1e7f:6 1e80:e 1e81:6 1e82:e 1e83:6 1e84:e 1e85:6 1e86:e
    1e87:6 1e88:e 1e89:6 1e8a:e 1e8b:6 1e8c:e 1e8d:6 1e8e:e 1e8f:6 1e90:e 1e91:6 1e92:e 1e93:6
    1e94:e 1e95-1e9d:6 1e9e:e 1e9f:6 1ea0:e 1ea1:6 1ea2:e 1ea3:6 1ea4:e 1ea5:6 1ea6:e 1ea7:6 1ea8:e
    1ea9:6 1eaa:e 1eab:6 1eac:e 1ead:6 1eae:e 1eaf:6 1eb0:e 1eb1:6 1eb2:e 1eb3:6 1eb4:e 1eb5:6
    1eb6:e 1eb7:6 1eb8:e 1eb9:6 1eba:e 1ebb:6 1ebc:e 1ebd:6 1ebe:e 1ebf:6 1ec0:e 1ec1:6 1ec2:e
    1ec3:6 1ec4:e 1ec5:6 1ec6:e 1ec7:6 1ec8:e 1ec9:6 1eca:e 1ecb:6 1ecc:e 1ecd:6 1ece:e 1ecf:6
    1ed0:e 1ed1:6 1ed2:e 1ed3:6 1ed4:e 1ed5:6 1ed6:e 1ed7:6 1ed8:e 1ed9:6 1eda:e 1edb:6 1edc:e
    1edd:6 1ede:e 1edf:6 1ee0:e 1ee1:6 1ee2:e 1ee3:6 1ee4:e 1ee5:6 1ee6:e 1ee7:6 1ee8:e 1ee9:6
    1eea:e 1eeb:6 1eec:e 1eed:6 1eee:e 1eef:6 1ef0:e 1ef1:6 1ef2:e 1ef3:6 1ef4:e 1ef5:6 1ef6:e
    1ef7:6 1ef8:e 1ef9:6 1efa:e 1efb:6 1efc:e 1efd:6 1efe:e 1eff-1f07:6 1f08-1f0f:e 1f10-1f15:6
    1f18-1f1d:e 1f20-1f27:6 1f28-1f2f:e 1f30-1f37:6 1f38-1f3f:e 1f40-1f45:6 1f48-1f4d:e 1f50-1f57:6
    1f59:e 1f5b:e 1f5d:e 1f5f:e 1f60-1f67:6 1f68-1f6f:e 1f70-1f7d:6 1f80-1f87:6 1f88-1f8f:e
    1f90-1f97:6 1f98-1f9f:e 1fa0-1fa7:6 1fa8-1faf:e 1fb0-1fb4:6 1fb6-1fb7:6 1fb8-1fbc:e 1fbe:6
    1fc2-1fc4:6 1fc6-1fc7:6 1fc8-1fcc:e 1fd0-1fd3:6 1fd6-1fd7:6 1fd8-1fdb:e 1fe0-1fe7:6 1fe8-1fec:e
    1ff2-1ff4:6 1ff6-1ff7:6 1ff8-1ffc:e 2000-200a:d 200b:4 200c-200d:3 200e-200f:4 2013-2014:a
    2018-201f:2 2024:0 2028-2029:c 202a-202e:4 202f:d 2039-203a:2 203c-203d:b 2045-2046:2
    2047-2049:b 205f:d 2060-2064:4 2066-206f:4 2071:6 207d-207e:2 207f:6 208d-208e:2 2090-209c:6
    20d0-20f0:3 2102:e 2107:e 210a:6 210b-210d:e 210e-210f:6 2110-2112:e 2113:6 2115:e 2119-211d:e
    2124:e 2126:e 2128:e 212a-212d:e 212f:6 2130-2133:e 2134:6 2135-2138:8 2139:6 213c-213d:6
    213e-213f:e 2145:e 2146-2149:6 214e:6 2160-216f:e 2170-217f:6 2180-2182:8 2183:e 2184:6
    2185-2188:8 2308-230b:2 2329-232a:2 24b6-24cf:e 24d0-24e9:6 275b-2760:2 2768-2775:2 27c5-27c6:2
    27e6-27ef:2 2983-2998:2 29d8-29db:2 29fc-29fd:2 2c00-2c2f:e 2c30-2c5f:6 2c60:e 2c61:6
    2c62-2c64:e 2c65-2c66:6 2c67:e 2c68:6 2c69:e 2c6a:6 2c6b:e 2c6c:6 2c6d-2c70:e 2c71:6 2c72:e
    2c73-2c74:6 2c75:e 2c76-2c7d:6 2c7e-2c80:e 2c81:6 2c82:e 2c83:6 2c84:e 2c85:6 2c86:e 2c87:6
    2c88:e 2c89:6 2c8a:e 2c8b:6 2c8c:e 2c8d:6 2c8e:e 2c8f:6 2c90:e 2c91:6 2c92:e 2c93:6 2c94:e
    2c95:6 2c96:e 2c97:6 2c98:e 2c99:6 2c9a:e 2c9b:6 2c9c:e 2c9d:6 2c9e:e 2c9f:6 2ca0:e 2ca1:6
    2ca2:e 2ca3:6 2ca4:e 2ca5:6 2ca6:e 2ca7:6 2ca8:e 2ca9:6 2caa:e 2cab:6 2cac:e 2cad:6 2cae:e
    2caf:6 2cb0:e 2cb1:6 2cb2:e 2cb3:6 2cb4:e 2cb5:6 2cb6:e 2cb7:6 2cb8:e 2cb9:6 2cba:e 2cbb:6
    2cbc:e 2cbd:6 2cbe:e 2cbf:6 2cc0:e 2cc1:6 2cc2:e 2cc3:6 2cc4:e 2cc5:6 2cc6:e 2cc7:6 2cc8:e
    2cc9:6 2cca:e 2ccb:6 2ccc:e 2ccd:6 2cce:e 2ccf:6 2cd0:e 2cd1:6 2cd2:e 2cd3:6 2cd4:e 2cd5:6
    2cd6:e 2cd7:6 2cd8:e 2cd9:6 2cda:e 2cdb:6 2cdc:e 2cdd:6 2cde:e 2cdf:6 2ce0:e 2ce1:6 2ce2:e
    2ce3-2ce4:6 2ceb:e 2cec:6 2ced:e 2cee:6 2cef-2cf1:3 2cf2:e 2cf3:6 2cf9-2cfb:b 2d00-2d25:6
    2d27:6 2d2d:6 2d30-2d67:8 2d6f:8 2d7f:3 2d80-2d96:8 2da0-2da6:8 2da8-2dae:8 2db0-2db6:8
    2db8-2dbe:8 2dc0-2dc6:8 2dc8-2dce:8 2dd0-2dd6:8 2dd8-2dde:8 2de0-2dff:3 2e00-2e0d:2 2e1c-2e1d:2
    2e20-2e29:2 2e2e:b 2e2f:8 2e3c:b 2e42:2 2e53-2e54:b 2e55-2e5c:2 3000:d 3001:a 3002:b
    3005-3007:8 3008-3011:2 3014-301b:2 301d-301f:2 3021-3029:8 302a-302f:3 3031-3035:8 3038-303c:8
    3041-3096:8 3099-309a:3 309d-309f:8 30a1-30fa:8 30fc-30ff:8 3105-312f:8 3131-318e:8 31a0-31bf:8
    31f0-31ff:8 3400-4dbf:8 4e00-a48c:8 a4d0-a4fd:8 a4ff:b a500-a60c:8 a60e-a60f:b a610-a61f:8
    a620-a629:7 a62a-a62b:8 a640:e a641:6 a642:e a643:6 a644:e a645:6 a646:e a647:6 a648:e a649:6
    a64a:e a64b:6 a64c:e a64d:6 a64e:e a64f:6 a650:e a651:6 a652:e a653:6 a654:e a655:6 a656:e
    a657:6 a658:e a659:6 a65a:e a65b:6 a65c:e a65d:6 a65e:e a65f:6 a660:e a661:6 a662:e a663:6
    a664:e a665:6 a666:e a667:6 a668:e a669:6 a66a:e a66b:6 a66c:e a66d:6 a66e:8 a66f-a672:3
    a674-a67d:3 a67f:8 a680:e a681:6 a682:e a683:6 a684:e a685:6 a686:e a687:6 a688:e a689:6 a68a:e
    a68b:6 a68c:e a68d:6 a68e:e a68f:6 a690:e a691:6 a692:e a693:6 a694:e a695:6 a696:e a697:6
    a698:e a699:6 a69a:e a69b-a69d:6 a69e-a69f:3 a6a0-a6ef:8 a6f0-a6f1:3 a6f3:b a6f7:b a717-a71f:8
    a722:e a723:6 a724:e a725:6 a726:e a727:6 a728:e a729:6 a72a:e a72b:6 a72c:e a72d:6 a72e:e
    a72f-a731:6 a732:e a733:6 a734:e a735:6 a736:e a737:6 a738:e a739:6 a73a:e a73b:6 a73c:e a73d:6
    a73e:e a73f:6 a740:e a741:6 a742:e a743:6 a744:e a745:6 a746:e a747:6 a748:e a749:6 a74a:e
    a74b:6 a74c:e a74d:6 a74e:e a74f:6 a750:e a751:6 a752:e a753:6 a754:e a755:6 a756:e a757:6
    a758:e a759:6 a75a:e a75b:6 a75c:e a75d:6 a75e:e a75f:6 a760:e a761:6 a762:e a763:6 a764:e
    a765:6 a766:e a767:6 a768:e a769:6 a76a:e a76b:6 a76c:e a76d:6 a76e:e a76f-a778:6 a779:e a77a:6
    a77b:e a77c:6 a77d-a77e:e a77f:6 a780:e a781:6 a782:e a783:6 a784:e a785:6 a786:e a787:6 a788:8
    a78b:e a78c:6 a78d:e a78e:6 a78f:8 a790:e a791:6 a792:e a793-a795:6 a796:e a797:6 a798:e a799:6
    a79a:e a79b:6 a79c:e a79d:6 a79e:e a79f:6 a7a0:e a7a1:6 a7a2:e a7a3:6 a7a4:e a7a5:6 a7a6:e
    a7a7:6 a7a8:e a7a9:6 a7aa-a7ae:e a7af:6 a7b0-a7b4:e a7b5:6 a7b6:e a7b7:6 a7b8:e a7b9:6 a7ba:e
    a7bb:6 a7bc:e a7bd:6 a7be:e a7bf:6 a7c0:e a7c1:6 a7c2:e a7c3:6 a7c4-a7c7:e a7c8:6 a7c9:e a7ca:6
    a7cb-a7cc:e a7cd:6 a7d0:e a7d1:6 a7d3:6 a7d5:6 a7d6:e a7d7:6 a7d8:e a7d9:6 a7da:e a7db:6 a7dc:e
    a7f2-a7f4:6 a7f5:e a7f6:6 a7f7:8 a7f8-a7fa:6 a7fb-a801:8 a802:3 a803-a805:8 a806:3 a807-a80a:8
    a80b:3 a80c-a822:8 a823-a827:3 a82c:3 a840-a873:8 a876-a877:b a880-a881:3 a882-a8b3:8
    a8b4-a8c5:3 a8ce-a8cf:b a8d0-a8d9:7 a8e0-a8f1:3 a8f2-a8f7:8 a8fb:8 a8fd-a8fe:8 a8ff:3
    a900-a909:7 a90a-a925:8 a926-a92d:3 a92f:b a930-a946:8 a947-a953:3 a960-a97c:8 a980-a983:3
    a984-a9b2:8 a9b3-a9c0:3 a9c8-a9c9:b a9cf:8 a9d0-a9d9:7 a9e0-a9e4:8 a9e5:3 a9e6-a9ef:8
    a9f0-a9f9:7 a9fa-a9fe:8 aa00-aa28:8 aa29-aa36:3 aa40-aa42:8 aa43:3 aa44-aa4b:8 aa4c-aa4d:3
    aa50-aa59:7 aa5d-aa5f:b aa60-aa76:8 aa7a:8 aa7b-aa7d:3 aa7e-aaaf:8 aab0:3 aab1:8 aab2-aab4:3
    aab5-aab6:8 aab7-aab8:3 aab9-aabd:8 aabe-aabf:3 aac0:8 aac1:3 aac2:8 aadb-aadd:8 aae0-aaea:8
    aaeb-aaef:3 aaf0-aaf1:b aaf2-aaf4:8 aaf5-aaf6:3 ab01-ab06:8 ab09-ab0e:8 ab11-ab16:8 ab20-ab26:8
    ab28-ab2e:8 ab30-ab5a:6 ab5c-ab69:6 ab70-abbf:6 abc0-abe2:8 abe3-abea:3 abeb:b abec-abed:3
    abf0-abf9:7 ac00-d7a3:8 d7b0-d7c6:8 d7cb-d7fb:8 f900-fa6d:8 fa70-fad9:8 fb00-fb06:6 fb13-fb17:6
    fb1d:8 fb1e:3 fb1f-fb28:8 fb2a-fb36:8 fb38-fb3c:8 fb3e:8 fb40-fb41:8 fb43-fb44:8 fb46-fbb1:8
    fbd3-fd3d:8 fd3e-fd3f:2 fd50-fd8f:8 fd92-fdc7:8 fdf0-fdfb:8 fe00-fe0f:3 fe10-fe11:a fe12:b
    fe13-fe14:a fe15-fe16:b fe17-fe18:2 fe20-fe2f:3 fe31-fe32:a fe35-fe44:2 fe47-fe48:2 fe50-fe51:a
    fe52:0 fe54-fe55:a fe56-fe57:b fe58:a fe59-fe5e:2 fe63:a fe70-fe74:8 fe76-fefc:8 feff:4 ff01:b
    ff08-ff09:2 ff0c-ff0d:a ff0e:0 ff10-ff19:7 ff1a-ff1b:a ff1f:b ff21-ff3a:e ff3b:2 ff3d:2
    ff41-ff5a:6 ff5b:2 ff5d:2 ff5f-ff60:2 ff61:b ff62-ff63:2 ff64:a ff66-ff9d:8 ff9e-ff9f:3
    ffa0-ffbe:8 ffc2-ffc7:8 ffca-ffcf:8 ffd2-ffd7:8 ffda-ffdc:8 fff9-fffb:4 10000-1000b:8
    1000d-10026:8 10028-1003a:8 1003c-1003d:8 1003f-1004d:8 10050-1005d:8 10080-100fa:8
    10140-10174:8 101fd:3 10280-1029c:8 102a0-102d0:8 102e0:3 10300-1031f:8 1032d-1034a:8
    10350-10375:8 10376-1037a:3 10380-1039d:8 103a0-103c3:8 103c8-103cf:8 103d1-103d5:8
    10400-10427:e 10428-1044f:6 10450-1049d:8 104a0-104a9:7 104b0-104d3:e 104d8-104fb:6
    10500-10527:8 10530-10563:8 10570-1057a:e 1057c-1058a:e 1058c-10592:e 10594-10595:e
    10597-105a1:6 105a3-105b1:6 105b3-105b9:6 105bb-105bc:6 105c0-105f3:8 10600-10736:8
    10740-10755:8 10760-10767:8 10780:6 10781-10782:8 10783-10785:6 10787-107b0:6 107b2-107ba:6
    10800-10805:8 10808:8 1080a-10835:8 10837-10838:8 1083c:8 1083f-10855:8 10860-10876:8
    10880-1089e:8 108e0-108f2:8 108f4-108f5:8 10900-10915:8 10920-10939:8 10980-109b7:8
    109be-109bf:8 10a00:8 10a01-10a03:3 10a05-10a06:3 10a0c-10a0f:3 10a10-10a13:8 10a15-10a17:8
    10a19-10a35:8 10a38-10a3a:3 10a3f:3 10a56-10a57:b 10a60-10a7c:8 10a80-10a9c:8 10ac0-10ac7:8
    10ac9-10ae4:8 10ae5-10ae6:3 10b00-10b35:8 10b40-10b55:8 10b60-10b72:8 10b80-10b91:8
    10c00-10c48:8 10c80-10cb2:e 10cc0-10cf2:6 10d00-10d23:8 10d24-10d27:3 10d30-10d39:7
    10d40-10d49:7 10d4a-10d4f:8 10d50-10d65:e 10d69-10d6d:3 10d6f:8 10d70-10d85:6 10e80-10ea9:8
    10eab-10eac:3 10eb0-10eb1:8 10ec2-10ec4:8 10efc-10eff:3 10f00-10f1c:8 10f27:8 10f30-10f45:8
    10f46-10f50:3 10f55-10f59:b 10f70-10f81:8 10f82-10f85:3 10f86-10f89:b 10fb0-10fc4:8
    10fe0-10ff6:8 11000-11002:3 11003-11037:8 11038-11046:3 11047-11048:b 11066-1106f:7 11070:3
    11071-11072:8 11073-11074:3 11075:8 1107f-11082:3 11083-110af:8 110b0-110ba:3 110bd:7
    110be-110c1:b 110c2:3 110cd:7 110d0-110e8:8 110f0-110f9:7 11100-11102:3 11103-11126:8
    11127-11134:3 11136-1113f:7 11141-11143:b 11144:8 11145-11146:3 11147:8 11150-11172:8 11173:3
    11176:8 11180-11182:3 11183-111b2:8 111b3-111c0:3 111c1-111c4:8 111c5-111c6:b 111c9-111cc:3
    111cd:b 111ce-111cf:3 111d0-111d9:7 111da:8 111dc:8 111de-111df:b 11200-11211:8 11213-1122b:8
    1122c-11237:3 11238-11239:b 1123b-1123c:b 1123e:3 1123f-11240:8 11241:3 11280-11286:8 11288:8
    1128a-1128d:8 1128f-1129d:8 1129f-112a8:8 112a9:b 112b0-112de:8 112df-112ea:3 112f0-112f9:7
    11300-11303:3 11305-1130c:8 1130f-11310:8 11313-11328:8 1132a-11330:8 11332-11333:8
    11335-11339:8 1133b-1133c:3 1133d:8 1133e-11344:3 11347-11348:3 1134b-1134d:3 11350:8 11357:3
    1135d-11361:8 11362-11363:3 11366-1136c:3 11370-11374:3 11380-11389:8 1138b:8 1138e:8
    11390-113b5:8 113b7:8 113b8-113c0:3 113c2:3 113c5:3 113c7-113ca:3 113cc-113d0:3 113d1:8 113d2:3
    113d3:8 113d4-113d5:b 113e1-113e2:3 11400-11434:8 11435-11446:3 11447-1144a:8 1144b-1144c:b
    11450-11459:7 1145e:3 1145f-11461:8 11480-114af:8 114b0-114c3:3 114c4-114c5:8 114c7:8
    114d0-114d9:7 11580-115ae:8 115af-115b5:3 115b8-115c0:3 115c2-115c3:b 115c9-115d7:b
    115d8-115db:8 115dc-115dd:3 11600-1162f:8 11630-11640:3 11641-11642:b 11644:8 11650-11659:7
    11680-116aa:8 116ab-116b7:3 116b8:8 116c0-116c9:7 116d0-116e3:7 11700-1171a:8 1171d-1172b:3
    11730-11739:7 1173c-1173e:b 11740-11746:8 11800-1182b:8 1182c-1183a:3 118a0-118bf:e
    118c0-118df:6 118e0-118e9:7 118ff-11906:8 11909:8 1190c-11913:8 11915-11916:8 11918-1192f:8
    11930-11935:3 11937-11938:3 1193b-1193e:3 1193f:8 11940:3 11941:8 11942-11943:3 11944:b 11946:b
    11950-11959:7 119a0-119a7:8 119aa-119d0:8 119d1-119d7:3 119da-119e0:3 119e1:8 119e3:8 119e4:3
    11a00:8 11a01-11a0a:3 11a0b-11a32:8 11a33-11a39:3 11a3a:8 11a3b-11a3e:3 11a42-11a43:b 11a47:3
    11a50:8 11a51-11a5b:3 11a5c-11a89:8 11a8a-11a99:3 11a9b-11a9c:b 11a9d:8 11ab0-11af8:8
    11bc0-11be0:8 11bf0-11bf9:7 11c00-11c08:8 11c0a-11c2e:8 11c2f-11c36:3 11c38-11c3f:3 11c40:8
    11c41-11c42:b 11c50-11c59:7 11c72-11c8f:8 11c92-11ca7:3 11ca9-11cb6:3 11d00-11d06:8
    11d08-11d09:8 11d0b-11d30:8 11d31-11d36:3 11d3a:3 11d3c-11d3d:3 11d3f-11d45:3 11d46:8 11d47:3
    11d50-11d59:7 11d60-11d65:8 11d67-11d68:8 11d6a-11d89:8 11d8a-11d8e:3 11d90-11d91:3
    11d93-11d97:3 11d98:8 11da0-11da9:7 11ee0-11ef2:8 11ef3-11ef6:3 11ef7-11ef8:b 11f00-11f01:3
    11f02:8 11f03:3 11f04-11f10:8 11f12-11f33:8 11f34-11f3a:3 11f3e-11f42:3 11f43-11f44:b
    11f50-11f59:7 11f5a:3 11fb0:8 12000-12399:8 12400-1246e:8 12480-12543:8 12f90-12ff0:8
    13000-1342f:8 13430-1343f:4 13440:3 13441-13446:8 13447-13455:3 13460-143fa:8 14400-14646:8
    16100-1611d:8 1611e-1612f:3 16130-16139:7 16800-16a38:8 16a40-16a5e:8 16a60-16a69:7
    16a6e-16a6f:b 16a70-16abe:8 16ac0-16ac9:7 16ad0-16aed:8 16af0-16af4:3 16af5:b 16b00-16b2f:8
    16b30-16b36:3 16b37-16b38:b 16b40-16b43:8 16b44:b 16b50-16b59:7 16b63-16b77:8 16b7d-16b8f:8
    16d40-16d6c:8 16d6e-16d6f:b 16d70-16d79:7 16e40-16e5f:e 16e60-16e7f:6 16e98:b 16f00-16f4a:8
    16f4f:3 16f50:8 16f51-16f87:3 16f8f-16f92:3 16f93-16f9f:8 16fe0-16fe1:8 16fe3:8 16fe4:3
    16ff0-16ff1:3 17000-187f7:8 18800-18cd5:8 18cff-18d08:8 1aff0-1aff3:8 1aff5-1affb:8
    1affd-1affe:8 1b000-1b122:8 1b132:8 1b150-1b152:8 1b155:8 1b164-1b167:8 1b170-1b2fb:8
    1bc00-1bc6a:8 1bc70-1bc7c:8 1bc80-1bc88:8 1bc90-1bc99:8 1bc9d-1bc9e:3 1bc9f:b 1bca0-1bca3:4
    1ccf0-1ccf9:7 1cf00-1cf2d:3 1cf30-1cf46:3 1d165-1d169:3 1d16d-1d172:3 1d173-1d17a:4
    1d17b-1d182:3 1d185-1d18b:3 1d1aa-1d1ad:3 1d242-1d244:3 1d400-1d419:e 1d41a-1d433:6
    1d434-1d44d:e 1d44e-1d454:6 1d456-1d467:6 1d468-1d481:e 1d482-1d49b:6 1d49c:e 1d49e-1d49f:e
    1d4a2:e 1d4a5-1d4a6:e 1d4a9-1d4ac:e 1d4ae-1d4b5:e 1d4b6-1d4b9:6 1d4bb:6 1d4bd-1d4c3:6
    1d4c5-1d4cf:6 1d4d0-1d4e9:e 1d4ea-1d503:6 1d504-1d505:e 1d507-1d50a:e 1d50d-1d514:e
    1d516-1d51c:e 1d51e-1d537:6 1d538-1d539:e 1d53b-1d53e:e 1d540-1d544:e 1d546:e 1d54a-1d550:e
    1d552-1d56b:6 1d56c-1d585:e 1d586-1d59f:6 1d5a0-1d5b9:e 1d5ba-1d5d3:6 1d5d4-1d5ed:e
    1d5ee-1d607:6 1d608-1d621:e 1d622-1d63b:6 1d63c-1d655:e 1d656-1d66f:6 1d670-1d689:e
    1d68a-1d6a5:6 1d6a8-1d6c0:e 1d6c2-1d6da:6 1d6dc-1d6e1:6 1d6e2-1d6fa:e 1d6fc-1d714:6
    1d716-1d71b:6 1d71c-1d734:e 1d736-1d74e:6 1d750-1d755:6 1d756-1d76e:e 1d770-1d788:6
    1d78a-1d78f:6 1d790-1d7a8:e 1d7aa-1d7c2:6 1d7c4-1d7c9:6 1d7ca:e 1d7cb:6 1d7ce-1d7ff:7
    1da00-1da36:3 1da3b-1da6c:3 1da75:3 1da84:3 1da88:b 1da9b-1da9f:3 1daa1-1daaf:3 1df00-1df09:6
    1df0a:8 1df0b-1df1e:6 1df25-1df2a:6 1e000-1e006:3 1e008-1e018:3 1e01b-1e021:3 1e023-1e024:3
    1e026-1e02a:3 1e030-1e06d:6 1e08f:3 1e100-1e12c:8 1e130-1e136:3 1e137-1e13d:8 1e140-1e149:7
    1e14e:8 1e290-1e2ad:8 1e2ae:3 1e2c0-1e2eb:8 1e2ec-1e2ef:3 1e2f0-1e2f9:7 1e4d0-1e4eb:8
    1e4ec-1e4ef:3 1e4f0-1e4f9:7 1e5d0-1e5ed:8 1e5ee-1e5ef:3 1e5f0:8 1e5f1-1e5fa:7 1e7e0-1e7e6:8
    1e7e8-1e7eb:8 1e7ed-1e7ee:8 1e7f0-1e7fe:8 1e800-1e8c4:8 1e8d0-1e8d6:3 1e900-1e921:e
    1e922-1e943:6 1e944-1e94a:3 1e94b:8 1e950-1e959:7 1ee00-1ee03:8 1ee05-1ee1f:8 1ee21-1ee22:8
    1ee24:8 1ee27:8 1ee29-1ee32:8 1ee34-1ee37:8 1ee39:8 1ee3b:8 1ee42:8 1ee47:8 1ee49:8 1ee4b:8
    1ee4d-1ee4f:8 1ee51-1ee52:8 1ee54:8 1ee57:8 1ee59:8 1ee5b:8 1ee5d:8 1ee5f:8 1ee61-1ee62:8
    1ee64:8 1ee67-1ee6a:8 1ee6c-1ee72:8 1ee74-1ee77:8 1ee79-1ee7c:8 1ee7e:8 1ee80-1ee89:8
    1ee8b-1ee9b:8 1eea1-1eea3:8 1eea5-1eea9:8 1eeab-1eebb:8 1f130-1f149:e 1f150-1f169:e
    1f170-1f189:e 1f676-1f678:2 1fbf0-1fbf9:7 20000-2a6df:8 2a700-2b739:8 2b740-2b81d:8
    2b820-2cea1:8 2ceb0-2ebe0:8 2ebf0-2ee5d:8 2f800-2fa1d:8 30000-3134a:8 31350-323af:8 e0001:4
    e0020-e007f:3 e0100-e01ef:3"

end BracketQuery.Regex
