import Precedence.Character.Table

namespace Precedence

/-- The scripts of all code points, by the codes of four letters. -/
def scriptText : String :=
  String.join
    ["Zyyy:41 Latn:1a Zyyy:6 Latn:1a Zyyy:2f Latn Zyyy:f Latn Zyyy:5 Latn:17 Zyyy Latn:1f Zyyy ",
     "Latn:1c1 Zyyy:27 Latn:5 Zyyy:5 Bopo:2 Zyyy:14 Zinh:70 Grek:4 Zyyy Grek:3 Zzzz:2 Grek:4 ",
     "Zyyy Grek Zzzz:4 Grek Zyyy Grek Zyyy Grek:3 Zzzz Grek Zzzz Grek:14 Zzzz Grek:3f Copt:e ",
     "Grek:10 Cyrl:85 Zinh:2 Cyrl:a9 Zzzz Armn:26 Zzzz:2 Armn:32 Zzzz:2 Armn:3 Zzzz Hebr:37 ",
     "Zzzz:8 Hebr:1b Zzzz:4 Hebr:6 Zzzz:b Arab:5 Zyyy Arab:6 Zyyy Arab:e Zyyy Arab:3 Zyyy ",
     "Arab:20 Zyyy Arab:a Zinh:b Arab:1a Zinh Arab:6c Zyyy Arab:22 Syrc:e Zzzz Syrc:3c Zzzz:2 ",
     "Syrc:3 Arab:30 Thaa:32 Zzzz:e Nkoo:3b Zzzz:2 Nkoo:3 Samr:2e Zzzz:2 Samr:f Zzzz Mand:1c ",
     "Zzzz:2 Mand Zzzz Syrc:b Zzzz:5 Arab:1f Zzzz Arab:2 Zzzz:5 Arab:4b Zyyy Arab:1d Deva:51 ",
     "Zinh:4 Deva:f Zyyy:2 Deva:1a Beng:4 Zzzz Beng:8 Zzzz:2 Beng:2 Zzzz:2 Beng:16 Zzzz Beng:7 ",
     "Zzzz Beng Zzzz:3 Beng:4 Zzzz:2 Beng:9 Zzzz:2 Beng:2 Zzzz:2 Beng:4 Zzzz:8 Beng Zzzz:4 ",
     "Beng:2 Zzzz Beng:5 Zzzz:2 Beng:19 Zzzz:2 Guru:3 Zzzz Guru:6 Zzzz:4 Guru:2 Zzzz:2 Guru:16 ",
     "Zzzz Guru:7 Zzzz Guru:2 Zzzz Guru:2 Zzzz Guru:2 Zzzz:2 Guru Zzzz Guru:5 Zzzz:4 Guru:2 ",
     "Zzzz:2 Guru:3 Zzzz:3 Guru Zzzz:7 Guru:4 Zzzz Guru Zzzz:7 Guru:11 Zzzz:a Gujr:3 Zzzz Gujr:9 ",
     "Zzzz Gujr:3 Zzzz Gujr:16 Zzzz Gujr:7 Zzzz Gujr:2 Zzzz Gujr:5 Zzzz:2 Gujr:a Zzzz Gujr:3 ",
     "Zzzz Gujr:3 Zzzz:2 Gujr Zzzz:f Gujr:4 Zzzz:2 Gujr:c Zzzz:7 Gujr:7 Zzzz Orya:3 Zzzz Orya:8 ",
     "Zzzz:2 Orya:2 Zzzz:2 Orya:16 Zzzz Orya:7 Zzzz Orya:2 Zzzz Orya:5 Zzzz:2 Orya:9 Zzzz:2 ",
     "Orya:2 Zzzz:2 Orya:3 Zzzz:7 Orya:3 Zzzz:4 Orya:2 Zzzz Orya:5 Zzzz:2 Orya:12 Zzzz:a Taml:2 ",
     "Zzzz Taml:6 Zzzz:3 Taml:3 Zzzz Taml:4 Zzzz:3 Taml:2 Zzzz Taml Zzzz Taml:2 Zzzz:3 Taml:2 ",
     "Zzzz:3 Taml:3 Zzzz:3 Taml:c Zzzz:4 Taml:5 Zzzz:3 Taml:3 Zzzz Taml:4 Zzzz:2 Taml Zzzz:6 ",
     "Taml Zzzz:e Taml:15 Zzzz:5 Telu:d Zzzz Telu:3 Zzzz Telu:17 Zzzz Telu:10 Zzzz:2 Telu:9 Zzzz ",
     "Telu:3 Zzzz Telu:4 Zzzz:7 Telu:2 Zzzz Telu:3 Zzzz:2 Telu Zzzz:2 Telu:4 Zzzz:2 Telu:a ",
     "Zzzz:7 Telu:9 Knda:d Zzzz Knda:3 Zzzz Knda:17 Zzzz Knda:a Zzzz Knda:5 Zzzz:2 Knda:9 Zzzz ",
     "Knda:3 Zzzz Knda:4 Zzzz:7 Knda:2 Zzzz:6 Knda:2 Zzzz Knda:4 Zzzz:2 Knda:a Zzzz Knda:3 ",
     "Zzzz:c Mlym:d Zzzz Mlym:3 Zzzz Mlym:33 Zzzz Mlym:3 Zzzz Mlym:6 Zzzz:4 Mlym:10 Zzzz:2 ",
     "Mlym:1a Zzzz Sinh:3 Zzzz Sinh:12 Zzzz:3 Sinh:18 Zzzz Sinh:9 Zzzz Sinh Zzzz:2 Sinh:7 Zzzz:3 ",
     "Sinh Zzzz:4 Sinh:6 Zzzz Sinh Zzzz Sinh:8 Zzzz:6 Sinh:a Zzzz:2 Sinh:3 Zzzz:c Thai:3a Zzzz:4 ",
     "Zyyy Thai:1c Zzzz:25 Laoo:2 Zzzz Laoo Zzzz Laoo:5 Zzzz Laoo:18 Zzzz Laoo Zzzz Laoo:17 ",
     "Zzzz:2 Laoo:5 Zzzz Laoo Zzzz Laoo:7 Zzzz Laoo:a Zzzz:2 Laoo:4 Zzzz:20 Tibt:48 Zzzz Tibt:24 ",
     "Zzzz:4 Tibt:27 Zzzz Tibt:24 Zzzz Tibt:f Zzzz Tibt:7 Zyyy:4 Tibt:2 Zzzz:25 Mymr:a0 Geor:26 ",
     "Zzzz Geor Zzzz:5 Geor Zzzz:2 Geor:2b Zyyy Geor:4 Hang:100 Ethi:49 Zzzz Ethi:4 Zzzz:2 ",
     "Ethi:7 Zzzz Ethi Zzzz Ethi:4 Zzzz:2 Ethi:29 Zzzz Ethi:4 Zzzz:2 Ethi:21 Zzzz Ethi:4 Zzzz:2 ",
     "Ethi:7 Zzzz Ethi Zzzz Ethi:4 Zzzz:2 Ethi:f Zzzz Ethi:39 Zzzz Ethi:4 Zzzz:2 Ethi:43 Zzzz:2 ",
     "Ethi:20 Zzzz:3 Ethi:1a Zzzz:6 Cher:56 Zzzz:2 Cher:6 Zzzz:2 Cans:280 Ogam:1d Zzzz:3 Runr:4b ",
     "Zyyy:3 Runr:b Zzzz:7 Tglg:16 Zzzz:9 Tglg Hano:15 Zyyy:2 Zzzz:9 Buhd:14 Zzzz:c Tagb:d Zzzz ",
     "Tagb:3 Zzzz Tagb:2 Zzzz:c Khmr:5e Zzzz:2 Khmr:a Zzzz:6 Khmr:a Zzzz:6 Mong:2 Zyyy:2 Mong ",
     "Zyyy Mong:14 Zzzz:6 Mong:59 Zzzz:7 Mong:2b Zzzz:5 Cans:46 Zzzz:a Limb:1f Zzzz Limb:c ",
     "Zzzz:4 Limb:c Zzzz:4 Limb Zzzz:3 Limb:c Tale:1e Zzzz:2 Tale:5 Zzzz:b Talu:2c Zzzz:4 ",
     "Talu:1a Zzzz:6 Talu:b Zzzz:3 Talu:2 Khmr:20 Bugi:1c Zzzz:2 Bugi:2 Lana:3f Zzzz Lana:1d ",
     "Zzzz:2 Lana:b Zzzz:6 Lana:a Zzzz:6 Lana:e Zzzz:2 Zinh:1f Zzzz:31 Bali:4d Zzzz Bali:32 ",
     "Sund:40 Batk:34 Zzzz:8 Batk:4 Lepc:38 Zzzz:3 Lepc:f Zzzz:3 Lepc:3 Olck:30 Cyrl:b Zzzz:5 ",
     "Geor:2b Zzzz:2 Geor:3 Sund:8 Zzzz:8 Zinh:3 Zyyy Zinh:d Zyyy Zinh:7 Zyyy:4 Zinh Zyyy:6 Zinh ",
     "Zyyy:3 Zinh:2 Zyyy Zzzz:5 Latn:26 Grek:5 Cyrl Latn:31 Grek:5 Latn:4 Grek:5 Latn:d Cyrl ",
     "Latn:46 Grek Zinh:40 Latn:100 Grek:16 Zzzz:2 Grek:6 Zzzz:2 Grek:26 Zzzz:2 Grek:6 Zzzz:2 ",
     "Grek:8 Zzzz Grek Zzzz Grek Zzzz Grek Zzzz Grek:1f Zzzz:2 Grek:35 Zzzz Grek:f Zzzz Grek:e ",
     "Zzzz:2 Grek:6 Zzzz Grek:13 Zzzz:2 Grek:3 Zzzz Grek:9 Zzzz Zyyy:c Zinh:2 Zyyy:57 Zzzz ",
     "Zyyy:b Latn Zzzz:2 Zyyy:b Latn Zyyy:f Zzzz Latn:d Zzzz:3 Zyyy:21 Zzzz:f Zinh:21 Zzzz:f ",
     "Zyyy:26 Grek Zyyy:3 Latn:2 Zyyy:6 Latn Zyyy:1b Latn Zyyy:11 Latn:29 Zyyy:3 Zzzz:4 Zyyy:29a ",
     "Zzzz:16 Zyyy:b Zzzz:15 Zyyy:3a0 Brai:100 Zyyy:274 Zzzz:2 Zyyy:20 Zzzz Zyyy:69 Glag:60 ",
     "Latn:20 Copt:74 Zzzz:5 Copt:7 Geor:26 Zzzz Geor Zzzz:5 Geor Zzzz:2 Tfng:38 Zzzz:7 Tfng:2 ",
     "Zzzz:e Tfng Ethi:17 Zzzz:9 Ethi:7 Zzzz Ethi:7 Zzzz Ethi:7 Zzzz Ethi:7 Zzzz Ethi:7 Zzzz ",
     "Ethi:7 Zzzz Ethi:7 Zzzz Ethi:7 Zzzz Cyrl:20 Zyyy:5e Zzzz:22 Hani:1a Zzzz Hani:59 Zzzz:c ",
     "Hani:d6 Zzzz:1a Zyyy:15 Hani Zyyy Hani Zyyy:19 Hani:9 Zinh:4 Hang:2 Zyyy:8 Hani:4 Zyyy:4 ",
     "Zzzz Hira:56 Zzzz:2 Zinh:2 Zyyy:2 Hira:3 Zyyy Kana:5a Zyyy:2 Kana:3 Zzzz:5 Bopo:2b Zzzz ",
     "Hang:5e Zzzz Zyyy:10 Bopo:20 Zyyy:26 Zzzz:9 Zyyy Kana:10 Hang:1f Zzzz Zyyy:40 Hang:1f ",
     "Zyyy:51 Kana:2f Zyyy Kana:58 Zyyy:a8 Hani:19c0 Zyyy:40 Hani:5200 Yiii:48d Zzzz:3 Yiii:37 ",
     "Zzzz:9 Lisu:30 Vaii:12c Zzzz:14 Cyrl:60 Bamu:58 Zzzz:8 Zyyy:22 Latn:66 Zyyy:3 Latn:43 ",
     "Zzzz:2 Latn:2 Zzzz Latn Zzzz Latn:8 Zzzz:15 Latn:e Sylo:2d Zzzz:3 Zyyy:a Zzzz:6 Phag:38 ",
     "Zzzz:8 Saur:46 Zzzz:8 Saur:c Zzzz:6 Deva:20 Kali:2e Zyyy Kali Rjng:24 Zzzz:b Rjng Hang:1d ",
     "Zzzz:3 Java:4e Zzzz Zyyy Java:a Zzzz:4 Java:2 Mymr:1f Zzzz Cham:37 Zzzz:9 Cham:e Zzzz:2 ",
     "Cham:a Zzzz:2 Cham:4 Mymr:20 Tavt:43 Zzzz:18 Tavt:5 Mtei:17 Zzzz:a Ethi:6 Zzzz:2 Ethi:6 ",
     "Zzzz:2 Ethi:6 Zzzz:9 Ethi:7 Zzzz Ethi:7 Zzzz Latn:2b Zyyy Latn:9 Grek Latn:4 Zyyy:2 Zzzz:4 ",
     "Cher:50 Mtei:2e Zzzz:2 Mtei:a Zzzz:6 Hang:2ba4 Zzzz:c Hang:17 Zzzz:4 Hang:31 Zzzz:2104 ",
     "Hani:16e Zzzz:2 Hani:6a Zzzz:26 Latn:7 Zzzz:c Armn:5 Zzzz:5 Hebr:1a Zzzz Hebr:5 Zzzz Hebr ",
     "Zzzz Hebr:2 Zzzz Hebr:2 Zzzz Hebr:a Arab:73 Zzzz:10 Arab:16b Zyyy:2 Arab:50 Zzzz:2 Arab:36 ",
     "Zzzz:7 Arab Zzzz:20 Arab:10 Zinh:10 Zyyy:a Zzzz:6 Zinh:e Cyrl:2 Zyyy:23 Zzzz Zyyy:13 Zzzz ",
     "Zyyy:4 Zzzz:4 Arab:5 Zzzz Arab:87 Zzzz:2 Zyyy Zzzz Zyyy:20 Latn:1a Zyyy:6 Latn:1a Zyyy:b ",
     "Kana:a Zyyy Kana:2d Zyyy:2 Hang:1f Zzzz:3 Hang:6 Zzzz:2 Hang:6 Zzzz:2 Hang:6 Zzzz:2 Hang:3 ",
     "Zzzz:3 Zyyy:7 Zzzz Zyyy:7 Zzzz:a Zyyy:5 Zzzz:2 Linb:c Zzzz Linb:1a Zzzz Linb:13 Zzzz ",
     "Linb:2 Zzzz Linb:f Zzzz:2 Linb:e Zzzz:22 Linb:7b Zzzz:5 Zyyy:3 Zzzz:4 Zyyy:2d Zzzz:3 ",
     "Zyyy:9 Grek:4f Zzzz Zyyy:d Zzzz:3 Grek Zzzz:2f Zyyy:2d Zinh Zzzz:82 Lyci:1d Zzzz:3 Cari:31 ",
     "Zzzz:f Zinh Zyyy:1b Zzzz:4 Ital:24 Zzzz:9 Ital:3 Goth:1b Zzzz:5 Perm:2b Zzzz:5 Ugar:1e ",
     "Zzzz Ugar Xpeo:24 Zzzz:4 Xpeo:e Zzzz:2a Dsrt:50 Shaw:30 Osma:1e Zzzz:2 Osma:a Zzzz:6 ",
     "Osge:24 Zzzz:4 Osge:24 Zzzz:4 Elba:28 Zzzz:8 Aghb:34 Zzzz:b Aghb Vith:b Zzzz Vith:f Zzzz ",
     "Vith:7 Zzzz Vith:2 Zzzz Vith:b Zzzz Vith:f Zzzz Vith:7 Zzzz Vith:2 Zzzz:3 Todr:34 Zzzz:c ",
     "Lina:137 Zzzz:9 Lina:16 Zzzz:a Lina:8 Zzzz:18 Latn:6 Zzzz Latn:2a Zzzz Latn:9 Zzzz:45 ",
     "Cprt:6 Zzzz:2 Cprt Zzzz Cprt:2c Zzzz Cprt:2 Zzzz:3 Cprt Zzzz:2 Cprt Armi:16 Zzzz Armi:9 ",
     "Palm:20 Nbat:1f Zzzz:8 Nbat:9 Zzzz:30 Hatr:13 Zzzz Hatr:2 Zzzz:5 Hatr:5 Phnx:1c Zzzz:3 ",
     "Phnx Lydi:1a Zzzz:5 Lydi Zzzz:40 Mero:20 Merc:18 Zzzz:4 Merc:14 Zzzz:2 Merc:2e Khar:4 Zzzz ",
     "Khar:2 Zzzz:5 Khar:8 Zzzz Khar:3 Zzzz Khar:1d Zzzz:2 Khar:3 Zzzz:4 Khar:a Zzzz:7 Khar:9 ",
     "Zzzz:7 Sarb:20 Narb:20 Zzzz:20 Mani:27 Zzzz:4 Mani:c Zzzz:9 Avst:36 Zzzz:3 Avst:7 Prti:16 ",
     "Zzzz:2 Prti:8 Phli:13 Zzzz:5 Phli:8 Phlp:12 Zzzz:7 Phlp:4 Zzzz:c Phlp:7 Zzzz:50 Orkh:49 ",
     "Zzzz:37 Hung:33 Zzzz:d Hung:33 Zzzz:7 Hung:6 Rohg:28 Zzzz:8 Rohg:a Zzzz:6 Gara:26 Zzzz:3 ",
     "Gara:1d Zzzz:8 Gara:2 Zzzz:d0 Arab:1f Zzzz Yezi:2a Zzzz Yezi:3 Zzzz:2 Yezi:2 Zzzz:10 ",
     "Arab:3 Zzzz:37 Arab:4 Sogo:28 Zzzz:8 Sogd:2a Zzzz:16 Ougr:1a Zzzz:26 Chrs:1c Zzzz:14 ",
     "Elym:17 Zzzz:9 Brah:4e Zzzz:4 Brah:24 Zzzz:9 Brah Kthi:43 Zzzz:a Kthi Zzzz:2 Sora:19 ",
     "Zzzz:7 Sora:a Zzzz:6 Cakm:35 Zzzz Cakm:12 Zzzz:8 Mahj:27 Zzzz:9 Shrd:60 Zzzz Sinh:14 ",
     "Zzzz:b Khoj:12 Zzzz Khoj:2f Zzzz:3e Mult:7 Zzzz Mult Zzzz Mult:4 Zzzz Mult:f Zzzz Mult:b ",
     "Zzzz:6 Sind:3b Zzzz:5 Sind:a Zzzz:6 Gran:4 Zzzz Gran:8 Zzzz:2 Gran:2 Zzzz:2 Gran:16 Zzzz ",
     "Gran:7 Zzzz Gran:2 Zzzz Gran:5 Zzzz Zinh Gran:9 Zzzz:2 Gran:2 Zzzz:2 Gran:3 Zzzz:2 Gran ",
     "Zzzz:6 Gran Zzzz:5 Gran:7 Zzzz:2 Gran:7 Zzzz:3 Gran:5 Zzzz:b Tutg:a Zzzz Tutg Zzzz:2 Tutg ",
     "Zzzz Tutg:26 Zzzz Tutg:a Zzzz Tutg Zzzz:2 Tutg Zzzz Tutg:4 Zzzz Tutg:a Zzzz Tutg:2 Zzzz:8 ",
     "Tutg:2 Zzzz:1d Newa:5c Zzzz Newa:5 Zzzz:1e Tirh:48 Zzzz:8 Tirh:a Zzzz:a6 Sidd:36 Zzzz:2 ",
     "Sidd:26 Zzzz:22 Modi:45 Zzzz:b Modi:a Zzzz:6 Mong:d Zzzz:13 Takr:3a Zzzz:6 Takr:a Zzzz:6 ",
     "Mymr:14 Zzzz:1c Ahom:1b Zzzz:2 Ahom:f Zzzz:4 Ahom:17 Zzzz:b9 Dogr:3c Zzzz:64 Wara:53 ",
     "Zzzz:c Wara Diak:7 Zzzz:2 Diak Zzzz:2 Diak:8 Zzzz Diak:2 Zzzz Diak:1e Zzzz Diak:2 Zzzz:2 ",
     "Diak:c Zzzz:9 Diak:a Zzzz:46 Nand:8 Zzzz:2 Nand:2e Zzzz:2 Nand:b Zzzz:1b Zanb:48 Zzzz:8 ",
     "Soyo:53 Zzzz:d Cans:10 Pauc:39 Zzzz:7 Deva:a Zzzz:b6 Sunu:22 Zzzz:e Sunu:a Zzzz:6 Bhks:9 ",
     "Zzzz Bhks:2d Zzzz Bhks:e Zzzz:a Bhks:1d Zzzz:3 Marc:20 Zzzz:2 Marc:16 Zzzz Marc:e Zzzz:49 ",
     "Gonm:7 Zzzz Gonm:2 Zzzz Gonm:2c Zzzz:3 Gonm Zzzz Gonm:2 Zzzz Gonm:9 Zzzz:8 Gonm:a Zzzz:6 ",
     "Gong:6 Zzzz Gong:2 Zzzz Gong:25 Zzzz Gong:2 Zzzz Gong:6 Zzzz:7 Gong:a Zzzz:136 Maka:19 ",
     "Zzzz:7 Kawi:11 Zzzz Kawi:29 Zzzz:3 Kawi:1d Zzzz:55 Lisu Zzzz:f Taml:32 Zzzz:d Taml ",
     "Xsux:39a Zzzz:66 Xsux:6f Zzzz Xsux:5 Zzzz:b Xsux:c4 Zzzz:a4c Cpmn:63 Zzzz:d Egyp:456 ",
     "Zzzz:a Egyp:f9b Zzzz:5 Hluw:247 Zzzz:1ab9 Gukh:3a Zzzz:6c6 Bamu:239 Zzzz:7 Mroo:1f Zzzz ",
     "Mroo:a Zzzz:4 Mroo:2 Tnsa:4f Zzzz Tnsa:a Zzzz:6 Bass:1e Zzzz:2 Bass:6 Zzzz:a Hmng:46 ",
     "Zzzz:a Hmng:a Zzzz Hmng:7 Zzzz Hmng:15 Zzzz:5 Hmng:13 Zzzz:1b0 Krai:3a Zzzz:c6 Medf:5b ",
     "Zzzz:65 Plrd:4b Zzzz:4 Plrd:39 Zzzz:7 Plrd:11 Zzzz:40 Tang Nshu Hani:2 Kits Zzzz:b Hani:2 ",
     "Zzzz:e Tang:17f8 Zzzz:8 Tang:300 Kits:1d6 Zzzz:29 Kits Tang:9 Zzzz:22e7 Kana:4 Zzzz Kana:7 ",
     "Zzzz Kana:2 Zzzz Kana Hira:11f Kana:3 Zzzz:f Hira Zzzz:1d Hira:3 Zzzz:2 Kana Zzzz:e Kana:4 ",
     "Zzzz:8 Nshu:18c Zzzz:904 Dupl:6b Zzzz:5 Dupl:d Zzzz:3 Dupl:9 Zzzz:7 Dupl:a Zzzz:2 Dupl:4 ",
     "Zyyy:4 Zzzz:f5c Zyyy:fa Zzzz:6 Zyyy:1b4 Zzzz:4c Zinh:2e Zzzz:2 Zinh:17 Zzzz:9 Zyyy:74 ",
     "Zzzz:3c Zyyy:f6 Zzzz:a Zyyy:27 Zzzz:2 Zyyy:3e Zinh:3 Zyyy:11 Zinh:8 Zyyy:2 Zinh:7 Zyyy:1e ",
     "Zinh:4 Zyyy:3d Zzzz:15 Grek:46 Zzzz:7a Zyyy:14 Zzzz:c Zyyy:14 Zzzz:c Zyyy:57 Zzzz:9 ",
     "Zyyy:19 Zzzz:87 Zyyy:55 Zzzz Zyyy:47 Zzzz Zyyy:2 Zzzz:2 Zyyy Zzzz:2 Zyyy:2 Zzzz:2 Zyyy:4 ",
     "Zzzz Zyyy:c Zzzz Zyyy Zzzz Zyyy:7 Zzzz Zyyy:41 Zzzz Zyyy:4 Zzzz:2 Zyyy:8 Zzzz Zyyy:7 Zzzz ",
     "Zyyy:1c Zzzz Zyyy:4 Zzzz Zyyy:5 Zzzz Zyyy Zzzz:3 Zyyy:7 Zzzz Zyyy:154 Zzzz:2 Zyyy:124 ",
     "Zzzz:2 Zyyy:32 Sgnw:28c Zzzz:f Sgnw:5 Zzzz Sgnw:f Zzzz:450 Latn:1f Zzzz:6 Latn:6 Zzzz:d5 ",
     "Glag:7 Zzzz Glag:11 Zzzz:2 Glag:7 Zzzz Glag:2 Zzzz Glag:5 Zzzz:5 Cyrl:3e Zzzz:21 Cyrl ",
     "Zzzz:70 Hmnp:2d Zzzz:3 Hmnp:e Zzzz:2 Hmnp:a Zzzz:4 Hmnp:2 Zzzz:140 Toto:1f Zzzz:11 Wcho:3a ",
     "Zzzz:5 Wcho Zzzz:1d0 Nagm:2a Zzzz:d6 Onao:2b Zzzz:4 Onao Zzzz:1e0 Ethi:7 Zzzz Ethi:4 Zzzz ",
     "Ethi:2 Zzzz Ethi:f Zzzz Mend:c5 Zzzz:2 Mend:10 Zzzz:29 Adlm:4c Zzzz:4 Adlm:a Zzzz:4 Adlm:2 ",
     "Zzzz:311 Zyyy:44 Zzzz:4c Zyyy:3d Zzzz:c2 Arab:4 Zzzz Arab:1b Zzzz Arab:2 Zzzz Arab Zzzz:2 ",
     "Arab Zzzz Arab:a Zzzz Arab:4 Zzzz Arab Zzzz Arab Zzzz:6 Arab Zzzz:4 Arab Zzzz Arab Zzzz ",
     "Arab Zzzz Arab:3 Zzzz Arab:2 Zzzz Arab Zzzz:2 Arab Zzzz Arab Zzzz Arab Zzzz Arab Zzzz Arab ",
     "Zzzz Arab:2 Zzzz Arab Zzzz:2 Arab:4 Zzzz Arab:7 Zzzz Arab:4 Zzzz Arab:4 Zzzz Arab Zzzz ",
     "Arab:a Zzzz Arab:11 Zzzz:5 Arab:3 Zzzz Arab:5 Zzzz Arab:11 Zzzz:34 Arab:2 Zzzz:10e Zyyy:2c ",
     "Zzzz:4 Zyyy:64 Zzzz:c Zyyy:f Zzzz:2 Zyyy:f Zzzz Zyyy:f Zzzz Zyyy:25 Zzzz:a Zyyy:ae Zzzz:38 ",
     "Zyyy:1a Hira Zyyy:2 Zzzz:d Zyyy:2c Zzzz:4 Zyyy:9 Zzzz:7 Zyyy:2 Zzzz:e Zyyy:6 Zzzz:9a ",
     "Zyyy:3d8 Zzzz:4 Zyyy:11 Zzzz:3 Zyyy:d Zzzz:3 Zyyy:77 Zzzz:4 Zyyy:5f Zzzz:6 Zyyy:c Zzzz:4 ",
     "Zyyy Zzzz:f Zyyy:c Zzzz:4 Zyyy:38 Zzzz:8 Zyyy:a Zzzz:6 Zyyy:28 Zzzz:8 Zyyy:1e Zzzz:2 ",
     "Zyyy:c Zzzz:4 Zyyy:2 Zzzz:3e Zyyy:154 Zzzz:c Zyyy:e Zzzz:2 Zyyy:d Zzzz:3 Zyyy:a Zzzz:5 ",
     "Zyyy:38 Zzzz:7 Zyyy:f Zzzz:2 Zyyy:b Zzzz:6 Zyyy:9 Zzzz:7 Zyyy:93 Zzzz Zyyy:66 Zzzz:406 ",
     "Hani:a6e0 Zzzz:20 Hani:103a Zzzz:6 Hani:de Zzzz:2 Hani:1682 Zzzz:e Hani:1d31 Zzzz:f ",
     "Hani:26e Zzzz:9a2 Hani:21e Zzzz:5e2 Hani:134b Zzzz:5 Hani:1060 Zzzz:adc51 Zyyy Zzzz:1e ",
     "Zyyy:60 Zzzz:80 Zinh:f0 Zzzz:2fe10"]

/-- The code of each script and its names. -/
def scriptNameText : String :=
  String.join
    ["Adlm:Adlam Ahom:Ahom Hluw:Anatolian_Hieroglyphs Arab:Arabic Armn:Armenian Avst:Avestan ",
     "Bali:Balinese Bamu:Bamum Bass:Bassa_Vah Batk:Batak Beng:Bengali Bhks:Bhaiksuki ",
     "Bopo:Bopomofo Brah:Brahmi Brai:Braille Bugi:Buginese Buhd:Buhid Cans:Canadian_Aboriginal ",
     "Cari:Carian Aghb:Caucasian_Albanian Cakm:Chakma Cham:Cham Cher:Cherokee Chrs:Chorasmian ",
     "Zyyy:Common Copt:Coptic:Qaac Xsux:Cuneiform Cprt:Cypriot Cpmn:Cypro_Minoan Cyrl:Cyrillic ",
     "Dsrt:Deseret Deva:Devanagari Diak:Dives_Akuru Dogr:Dogra Dupl:Duployan ",
     "Egyp:Egyptian_Hieroglyphs Elba:Elbasan Elym:Elymaic Ethi:Ethiopic Gara:Garay Geor:Georgian ",
     "Glag:Glagolitic Goth:Gothic Gran:Grantha Grek:Greek Gujr:Gujarati Gong:Gunjala_Gondi ",
     "Guru:Gurmukhi Gukh:Gurung_Khema Hani:Han Hang:Hangul Rohg:Hanifi_Rohingya Hano:Hanunoo ",
     "Hatr:Hatran Hebr:Hebrew Hira:Hiragana Armi:Imperial_Aramaic Zinh:Inherited:Qaai ",
     "Phli:Inscriptional_Pahlavi Prti:Inscriptional_Parthian Java:Javanese Kthi:Kaithi ",
     "Knda:Kannada Kana:Katakana Kawi:Kawi Kali:Kayah_Li Khar:Kharoshthi ",
     "Kits:Khitan_Small_Script Khmr:Khmer Khoj:Khojki Sind:Khudawadi Krai:Kirat_Rai Laoo:Lao ",
     "Latn:Latin Lepc:Lepcha Limb:Limbu Lina:Linear_A Linb:Linear_B Lisu:Lisu Lyci:Lycian ",
     "Lydi:Lydian Mahj:Mahajani Maka:Makasar Mlym:Malayalam Mand:Mandaic Mani:Manichaean ",
     "Marc:Marchen Gonm:Masaram_Gondi Medf:Medefaidrin Mtei:Meetei_Mayek Mend:Mende_Kikakui ",
     "Merc:Meroitic_Cursive Mero:Meroitic_Hieroglyphs Plrd:Miao Modi:Modi Mong:Mongolian ",
     "Mroo:Mro Mult:Multani Mymr:Myanmar Nbat:Nabataean Nagm:Nag_Mundari Nand:Nandinagari ",
     "Talu:New_Tai_Lue Newa:Newa Nkoo:Nko Nshu:Nushu Hmnp:Nyiakeng_Puachue_Hmong Ogam:Ogham ",
     "Olck:Ol_Chiki Onao:Ol_Onal Hung:Old_Hungarian Ital:Old_Italic Narb:Old_North_Arabian ",
     "Perm:Old_Permic Xpeo:Old_Persian Sogo:Old_Sogdian Sarb:Old_South_Arabian Orkh:Old_Turkic ",
     "Ougr:Old_Uyghur Orya:Oriya Osge:Osage Osma:Osmanya Hmng:Pahawh_Hmong Palm:Palmyrene ",
     "Pauc:Pau_Cin_Hau Phag:Phags_Pa Phnx:Phoenician Phlp:Psalter_Pahlavi Rjng:Rejang Runr:Runic ",
     "Samr:Samaritan Saur:Saurashtra Shrd:Sharada Shaw:Shavian Sidd:Siddham Sgnw:SignWriting ",
     "Sinh:Sinhala Sogd:Sogdian Sora:Sora_Sompeng Soyo:Soyombo Sund:Sundanese Sunu:Sunuwar ",
     "Sylo:Syloti_Nagri Syrc:Syriac Tglg:Tagalog Tagb:Tagbanwa Tale:Tai_Le Lana:Tai_Tham ",
     "Tavt:Tai_Viet Takr:Takri Taml:Tamil Tnsa:Tangsa Tang:Tangut Telu:Telugu Thaa:Thaana ",
     "Thai:Thai Tibt:Tibetan Tfng:Tifinagh Tirh:Tirhuta Todr:Todhri Toto:Toto Tutg:Tulu_Tigalari ",
     "Ugar:Ugaritic Vaii:Vai Vith:Vithkuqi Wcho:Wancho Wara:Warang_Citi Yezi:Yezidi Yiii:Yi ",
     "Zanb:Zanabazar_Square"]

/-- For each script, the characters of other scripts that are used in it too. -/
def scriptExtensionText : String :=
  String.join
    ["Adlm:61f,640,204f,2e41 Arab:60c,61b,61f,640,64b-655,670,204f,2e41,fd3e-fd3f,102e0-102fb ",
     "Armn:308 Avst:b7,2e30-2e31 Beng:2bc,951-952,964-965,1cd0,1cd2,1cd5-1cd6,1cd8,1ce1,1cea,",
     "1ced,1cf2,1cf5-1cf7,a8f1 Bopo:2c7,2c9-2cb,2d9,3001-3003,3008-3011,3013-301f,302a-302d,3030,",
     "3037,30fb,fe45-fe46,ff61-ff65 Bugi:a9cf Buhd:1735-1736 Cari:b7,205a,205d,2e31 Aghb:304,331,",
     "35e Cakm:9e6-9ef,1040-1049 Cher:300-302,304,30b-30c,323-324,330-331 Copt:b7,300,304-305,",
     "307,374-375,2e17,102e0-102fb Cprt:10100-10102,10107-10133,10137-1013f Cpmn:10100-10101 ",
     "Cyrl:2bc,300-302,304,306,308,30b,311,485-486,1df8,2e43 Deva:2bc,951-952,964-965,1cd0-1cf6,",
     "1cf8-1cf9,20f0,a830-a839 Dogr:964-96f,a830-a839 Dupl:b7,307-308,30a,323-324,2e3c,",
     "1bca0-1bca3 Elba:b7,305 Ethi:30e Gara:60c,61b,61f Geor:b7,589,10fb,205a,2e31 Glag:b7,303,",
     "305,484,487,589,10fb,205a,2e43,a66f Goth:b7,304-305,308,331 Gran:951-952,964-965,be6-bf3,",
     "1cd0,1cd2-1cd3,1cf2-1cf4,1cf8-1cf9,20f0,1133b,11fd0-11fd1,11fd3 Grek:b7,300-301,304,306,",
     "308,313,342,345,374,1dc0-1dc1,205d Gujr:951-952,964-965,a830-a839 Gong:b7,964-965 ",
     "Guru:951-952,964-965,a830-a839 Gukh:965 Hani:b7,2ff0-2fff,3001-3003,3006,3008-3011,",
     "3013-301f,302a-302d,3030,3037,303c-303f,30fb,3190-319f,31c0-31e5,31ef,3220-3247,3280-32b0,",
     "32c0-32cb,32ff,3358-3370,337b-337f,33e0-33fe,a700-a707,fe45-fe46,ff61-ff65,1d360-1d371,",
     "1f250-1f251 Hang:3001-3003,3008-3011,3013-301f,3030,3037,30fb,fe45-fe46,ff61-ff65 Rohg:60c,",
     "61b,61f,640,6d4 Hano:1735-1736 Hebr:307-308 Hira:3001-3003,3008-3011,3013-301f,3030-3035,",
     "3037,303c-303d,3099-309c,30a0,30fb-30fc,fe45-fe46,ff61-ff65,ff70,ff9e-ff9f Java:a9cf ",
     "Kthi:966-96f,2e31,a830-a839 Knda:951-952,964-965,1cd0,1cd2-1cd3,1cda,1cf2,1cf4,a830-a835 ",
     "Kana:305,323,3001-3003,3008-3011,3013-301f,3030-3035,3037,303c-303d,3099-309c,30a0,",
     "30fb-30fc,fe45-fe46,ff61-ff65,ff70,ff9e-ff9f Kali:a92e Khoj:ae6-aef,a830-a839 Sind:964-965,",
     "a830-a839 Latn:b7,2bc,2c7,2c9-2cb,2cd,2d7,2d9,300-30e,310-311,313,323-325,32d-32e,330-331,",
     "358,35e,363-36f,485-486,951-952,10fb,1df8,202f,20f0,2e17,a700-a707,a92e Limb:965 ",
     "Lina:10107-10133 Linb:10100-10102,10107-10133,10137-1013f Lisu:2bc,2cd,300a-300b Lyci:205a ",
     "Lydi:b7,2e31 Mahj:b7,964-96f,a830-a839 Mlym:951-952,964-965,1cda,1cf2,a830-a832 Mand:640 ",
     "Mani:640 Gonm:964-965 Mero:205d Modi:a830-a839 Mong:1802-1803,1805,202f,3001-3002,",
     "3008-300b Mult:a66-a6f Mymr:a92e Nand:951,964-965,ce6-cef,1ce9,1cf2,1cfa,a830-a835 ",
     "Newa:951-952,1cd5,1cd7-1cd8,1ce2,1ce9,1ceb,1ced Nkoo:60c,61b,61f,fd3e-fd3f Onao:964-965 ",
     "Hung:205a,205d,2e31,2e41 Perm:b7,300,306-308,313,483 Orkh:205a,2e30 Ougr:640,10af2 ",
     "Orya:951-952,964-965,1cda,1cf2 Osge:301,304,30b,358 Phag:1802-1803,1805,202f,3002 Phlp:640 ",
     "Runr:16eb-16ed Samr:2e31 Shrd:951,1cd7,1cd9,1cdc-1cdd,1ce0,1cea,1ced,a830-a835,a838 ",
     "Shaw:b7 Sinh:964-965,1cf2 Sogd:640 Sunu:300-301,303,30d,310,32d,331 Sylo:964-965,9e6-9ef ",
     "Syrc:303-304,307-308,30a,323-325,32d-32e,330-331,60c,61b-61c,61f,640,64b-655,670,1df8,1dfa ",
     "Tglg:1735-1736 Tagb:1735-1736 Tale:300-301,307-308,30c,1040-1049 Takr:964-965,a830-a839 ",
     "Taml:951-952,964-965,1cda,a8f3,11301,11303,1133b-1133c Tang:2ff0-2fff,31ef Telu:951-952,",
     "964-965,1cd5-1cd6,1cd8,1cda,1cf2 Thaa:60c,61b-61c,61f,660-669,fdf2,fdfd Thai:2bc,2d7,303,",
     "331 Tibt:3008-300b Tfng:302,304,306-309,323 Tirh:951-952,964-965,1cd5,1ce2,1cf2,a830-a839 ",
     "Todr:301,304,307,311,313,35e Toto:2bc Tutg:ce6-cef,1cf2,1cf4,a830-a835,a8f1 Yezi:60c,61b,",
     "61f,660-669 Yiii:3001-3002,3008-3011,3014-301b,30fb,ff61-ff65"]

/-- The common and inherited characters that are used in some scripts only. -/
def scriptBoundText : String :=
  String.join
    ["b7,2bc,2c7,2c9-2cb,2cd,2d7,2d9,300-30e,310-311,313,323-325,32d-32e,330-331,342,345,358,35e,",
     "363-36f,374,485-486,60c,61b,61f,640,64b-655,670,951-952,964-965,10fb,16eb-16ed,1735-1736,",
     "1802-1803,1805,1cd0-1cfa,1dc0-1dc1,1df8,1dfa,202f,204f,205a,205d,20f0,2e17,2e30-2e31,2e3c,",
     "2e41,2e43,2ff0-2fff,3001-3003,3006,3008-3011,3013-301f,302a-302d,3030-3035,3037,303c-303f,",
     "3099-309c,30a0,30fb-30fc,3190-319f,31c0-31e5,31ef,3220-3247,3280-32b0,32c0-32cb,32ff,",
     "3358-3370,337b-337f,33e0-33fe,a700-a707,a830-a839,a92e,a9cf,fd3e-fd3f,fe45-fe46,ff61-ff65,",
     "ff70,ff9e-ff9f,10100-10102,10107-10133,10137-1013f,102e0-102fb,1133b,1bca0-1bca3,",
     "1d360-1d371,1f250-1f251"]

/-- The code of the script that a name in plain form stands for. -/
def scriptCode? (name : String) : Option (List Char) :=
  ((rowsOf scriptNameText).find? fun names => (names.map plainName).contains name).map
    (·.headD [])

/-- The characters of a script. -/
def Charset.ofScript (code : List Char) : Charset := ofRuns scriptText [String.ofList code]

/-- The characters that are used in a script, those that it shares with others included. -/
def Charset.ofScriptUse (code : List Char) : Charset :=
  let shared := (rowsOf scriptExtensionText).find? fun row => row.headD [] == code
  ((ofScript code).diff (ofText scriptBoundText.toList)).union
    ((shared.map fun row => ofText (row.getLastD [])).getD empty)

end Precedence
