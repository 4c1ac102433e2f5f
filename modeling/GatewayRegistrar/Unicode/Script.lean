import GatewayRegistrar.Unicode.Table

/-!
# Scripts

The script of each character, and the scripts that use it. Scripts have names of four letters.
-/

namespace GatewayRegistrar.Unicode

/-- The characters of each script. -/
def scriptTable : List (String × String) :=
  [("Adlm", "1e900 4b 5 9 5 1"),
   ("Aghb", "10530 33 c 0"),
   ("Ahom", "11700 1a 3 e 5 16"),
   ("Arab", "600 4 2 5 2 d 2 2 2 1f 2 9 c 19 2 6b 2 21 51 2f f1 1e 2 1 6 4a 2 1c f251 72 11 16a 3 4f 3 35 8 0 21 f
    71 4 2 86 f64 1e 44 2 38 3 df01 3 2 1a 2 1 2 0 3 0 2 9 2 3 2 0 2 0 7 0 5 0 2 0 2 0 2 2 2 1 2 0 3 0 2 0 2 0 2 0
    2 0 2 1 2 0 3 3 2 6 2 3 2 3 2 0 2 9 2 10 6 2 2 4 2 10 35 1"),
   ("Armi", "10840 15 2 8"),
   ("Armn", "531 25 3 31 3 2 f584 4"),
   ("Avst", "10b00 35 4 6"),
   ("Bali", "1b00 4c 2 31"),
   ("Bamu", "a6a0 57 c109 238"),
   ("Bass", "16ad0 1d 3 5"),
   ("Batk", "1bc0 33 9 3"),
   ("Beng", "980 3 2 7 3 1 3 15 2 6 2 0 4 3 3 8 3 1 3 3 9 0 5 1 2 4 3 18"),
   ("Bhks", "11c00 8 2 2c 2 d b 1c"),
   ("Bopo", "2ea 1 2e1a 2a 71 1f"),
   ("Brah", "11000 4d 5 23 a 0"),
   ("Brai", "2800 ff"),
   ("Bugi", "1a00 1b 3 1"),
   ("Buhd", "1740 13"),
   ("Cakm", "11100 34 2 11"),
   ("Cans", "1400 27f 231 45 101bb f"),
   ("Cari", "102a0 30"),
   ("Cham", "aa00 36 a d 3 9 3 3"),
   ("Cher", "13a0 55 3 5 9773 4f"),
   ("Chrs", "10fb0 1b"),
   ("Copt", "3e2 d 2891 73 6 6"),
   ("Cpmn", "12f90 62"),
   ("Cprt", "10800 5 3 0 2 2b 2 1 4 0 3 0"),
   ("Cyrl", "400 84 3 a8 1751 a a1 0 4d 0 1068 1f 7841 5f 578f 1 e201 3d 22 0"),
   ("Deva", "900 50 5 e 3 19 9f61 1f 7201 9"),
   ("Diak", "11900 6 3 0 3 7 2 1 2 1d 2 1 3 b a 9"),
   ("Dogr", "11800 3b"),
   ("Dsrt", "10400 4f"),
   ("Dupl", "1bc00 6a 6 c 4 8 8 9 3 3"),
   ("Egyp", "13000 455 b f9a"),
   ("Elba", "10500 27"),
   ("Elym", "10fe0 16"),
   ("Ethi", "1200 48 2 3 3 6 2 0 2 3 3 28 2 3 3 20 2 3 3 6 2 0 2 3 3 e 2 38 2 3 3 42 3 1f 4 19 19e7 16 a 6 2 6 2 6
    2 6 2 6 2 6 2 6 2 6 7d23 5 3 5 3 5 a 6 2 6 13cb2 6 2 3 2 1 2 e"),
   ("Gara", "10d40 25 4 1c 9 1"),
   ("Geor", "10a0 25 2 0 6 0 3 2a 2 3 b91 2a 3 2 1041 25 2 0 6 0"),
   ("Glag", "2c00 5f 1b3a1 6 2 10 3 6 2 1 2 4"),
   ("Gong", "11d60 5 2 1 2 24 2 1 2 5 8 9"),
   ("Gonm", "11d00 6 2 1 2 2b 4 0 2 1 2 8 9 9"),
   ("Goth", "10330 1a"),
   ("Gran", "11300 3 2 7 3 1 3 15 2 6 2 1 2 4 3 8 3 1 3 2 3 0 7 0 6 6 3 6 4 4"),
   ("Grek", "370 3 2 2 3 3 2 0 5 0 2 0 2 2 2 0 2 13 2 3e f f 1927 4 33 4 5 4 55 0 141 15 3 5 3 25 3 5 3 7 2 0 2 0 2
    0 2 1e 3 34 2 e 2 d 3 5 2 12 3 2 2 8 128 0 8a3f 0 55db 4e 12 0 d060 45"),
   ("Gujr", "a81 2 2 8 2 2 2 15 2 6 2 1 2 4 3 9 2 2 2 2 3 0 10 3 3 b 8 6"),
   ("Gukh", "16100 39"),
   ("Guru", "a01 2 2 5 5 1 3 15 2 6 2 1 2 1 2 1 3 0 2 4 5 1 3 2 4 0 8 3 2 0 8 10"),
   ("Hang", "1100 ff 1e2f 1 102 5d 72 1e 42 1e 76e2 1c 284 2ba3 d 16 5 30 27a5 1e 4 5 3 5 3 5 3 2"),
   ("Hani", "2e80 19 2 58 d d5 30 0 2 0 1a 8 f 3 3c5 19bf 41 51ff 5901 16d 3 69 7509 1 d 1 900f a6df 21 1039 7 dd 3
    1681 f 1d30 10 26d 9a3 21d 5e3 134a 6 105f"),
   ("Hano", "1720 14"),
   ("Hatr", "108e0 12 2 1 6 4"),
   ("Hebr", "591 36 9 1a 5 5 f529 19 2 4 2 0 2 1 2 1 2 9"),
   ("Hira", "3041 55 7 2 17f62 11e 13 0 1e 2 40ae 0"),
   ("Hluw", "14400 246"),
   ("Hmng", "16b00 45 b 9 2 6 2 14 6 12"),
   ("Hmnp", "1e100 2c 4 d 3 9 5 1"),
   ("Hung", "10c80 32 e 32 8 5"),
   ("Ital", "10300 23 a 2"),
   ("Java", "a980 4d 3 9 5 1"),
   ("Kali", "a900 2d 2 0"),
   ("Kana", "30a1 59 3 2 f1 f d1 2e 2 57 cc0f 9 2 2c b053 3 2 6 2 1 2 0 120 2 33 0 f 3"),
   ("Kawi", "11f00 10 2 28 4 1c"),
   ("Khar", "10a00 3 2 1 6 7 2 2 2 1c 3 2 5 9 8 8"),
   ("Khmr", "1780 5d 3 9 7 9 1e7 1f"),
   ("Khoj", "11200 11 2 2e"),
   ("Kits", "16fe4 0 1b1c 1d5 2a 0"),
   ("Knda", "c80 c 2 2 2 16 2 9 2 4 3 8 2 2 2 3 8 1 7 1 2 3 3 9 2 2"),
   ("Krai", "16d40 39"),
   ("Kthi", "11080 42 b 0"),
   ("Lana", "1a20 3e 2 1c 3 a 7 9 7 d"),
   ("Laoo", "e81 1 2 0 2 4 2 17 2 0 2 16 3 4 2 0 2 6 2 9 3 3"),
   ("Latn", "41 19 7 19 30 0 10 0 6 16 2 1e 2 1c0 28 4 1a1c 25 7 30 6 3 6 c 2 45 42 ff 172 0 e 0 11 c 8e 1 7 0 1c 0
    12 28 ad8 1f 7aa3 65 4 42 3 1 2 0 2 7 16 d 331 2a 2 8 2 3 4f97 6 41b 19 7 19 826 5 2 29 2 8 d746 1e 7 5"),
   ("Lepc", "1c00 37 4 e 4 2"),
   ("Limb", "1900 1e 2 b 5 b 5 0 4 b"),
   ("Lina", "10600 136 a 15 b 7"),
   ("Linb", "10000 b 2 19 2 12 2 1 2 e 3 d 23 7a"),
   ("Lisu", "a4d0 2f 7ab1 0"),
   ("Lyci", "10280 1c"),
   ("Lydi", "10920 19 6 0"),
   ("Mahj", "11150 26"),
   ("Maka", "11ee0 18"),
   ("Mand", "840 1b 3 0"),
   ("Mani", "10ac0 26 5 b"),
   ("Marc", "11c70 1f 3 15 2 d"),
   ("Medf", "16e40 5a"),
   ("Mend", "1e800 c4 3 f"),
   ("Merc", "109a0 17 5 13 3 2d"),
   ("Mero", "10980 1f"),
   ("Mlym", "d00 c 2 2 2 32 2 2 2 5 5 f 3 19"),
   ("Modi", "11600 44 c 9"),
   ("Mong", "1800 1 3 0 2 13 7 58 8 2a fdb6 c"),
   ("Mroo", "16a40 1e 2 9 5 1"),
   ("Mtei", "aae0 16 ca 2d 3 9"),
   ("Mult", "11280 6 2 0 2 3 2 e 2 a"),
   ("Mymr", "1000 9f 9941 1e 62 1f 6c51 13"),
   ("Nagm", "1e4d0 29"),
   ("Nand", "119a0 7 3 2d 3 a"),
   ("Narb", "10a80 1f"),
   ("Nbat", "10880 1e 9 8"),
   ("Newa", "11400 5b 2 4"),
   ("Nkoo", "7c0 3a 3 2"),
   ("Nshu", "16fe1 0 418f 18b"),
   ("Ogam", "1680 1c"),
   ("Olck", "1c50 2f"),
   ("Onao", "1e5d0 2a 5 0"),
   ("Orkh", "10c00 48"),
   ("Orya", "b01 2 2 7 3 1 3 15 2 6 2 1 2 4 3 8 3 1 3 2 8 2 5 1 2 4 3 11"),
   ("Osge", "104b0 23 5 23"),
   ("Osma", "10480 1d 3 9"),
   ("Ougr", "10f70 19"),
   ("Palm", "10860 1f"),
   ("Pauc", "11ac0 38"),
   ("Perm", "10350 2a"),
   ("Phag", "a840 37"),
   ("Phli", "10b60 12 6 7"),
   ("Phlp", "10b80 11 8 3 d 6"),
   ("Phnx", "10900 1b 4 0"),
   ("Plrd", "16f00 4a 5 38 8 10"),
   ("Prti", "10b40 15 3 7"),
   ("Rjng", "a930 23 c 0"),
   ("Rohg", "10d00 27 9 9"),
   ("Runr", "16a0 4a 4 a"),
   ("Samr", "800 2d 3 e"),
   ("Sarb", "10a60 1f"),
   ("Saur", "a880 45 9 b"),
   ("Sgnw", "1d800 28b 10 4 2 e"),
   ("Shaw", "10450 2f"),
   ("Shrd", "11180 5f"),
   ("Sidd", "11580 35 3 25"),
   ("Sind", "112b0 3a 6 9"),
   ("Sinh", "d81 2 2 11 4 17 2 8 2 0 3 6 4 0 5 5 2 0 2 7 7 9 3 2 103ed 13"),
   ("Sogd", "10f30 29"),
   ("Sogo", "10f00 27"),
   ("Sora", "110d0 18 8 9"),
   ("Soyo", "11a50 52"),
   ("Sund", "1b80 3f 101 7"),
   ("Sunu", "11bc0 21 f 9"),
   ("Sylo", "a800 2c"),
   ("Syrc", "700 d 2 3b 3 2 111 a"),
   ("Tagb", "1760 c 2 2 2 1"),
   ("Takr", "11680 39 7 9"),
   ("Tale", "1950 1d 3 4"),
   ("Talu", "1980 2b 5 19 7 a 4 1"),
   ("Taml", "b82 1 2 5 4 2 2 3 4 1 2 0 2 1 4 1 4 2 4 b 5 4 4 2 2 3 3 0 7 0 f 14 113c6 31 e 0"),
   ("Tang", "16fe0 0 20 17f7 9 2ff 201 8"),
   ("Tavt", "aa80 42 19 4"),
   ("Telu", "c00 c 2 2 2 16 2 f 3 8 2 2 2 3 8 1 2 2 3 0 3 3 3 9 8 8"),
   ("Tfng", "2d30 37 8 1 f 0"),
   ("Tglg", "1700 15 a 0"),
   ("Thaa", "780 31"),
   ("Thai", "e01 39 6 1b"),
   ("Tibt", "f00 47 2 23 5 26 2 23 2 e 2 6 5 1"),
   ("Tirh", "11480 47 9 9"),
   ("Tnsa", "16a70 4e 2 9"),
   ("Todr", "105c0 33"),
   ("Toto", "1e290 1e"),
   ("Tutg", "11380 9 2 0 3 0 2 25 2 9 2 0 3 0 2 3 2 9 2 1 9 1"),
   ("Ugar", "10380 1d 2 0"),
   ("Vaii", "a500 12b"),
   ("Vith", "10570 a 2 e 2 6 2 1 2 a 2 e 2 6 2 1"),
   ("Wara", "118a0 52 d 0"),
   ("Wcho", "1e2c0 39 6 0"),
   ("Xpeo", "103a0 23 5 d"),
   ("Xsux", "12000 399 67 6e 2 4 c c3"),
   ("Yezi", "10e80 29 2 2 3 1"),
   ("Yiii", "a000 48c 4 36"),
   ("Zanb", "11a00 47"),
   ("Zinh", "300 6f 116 1 1c5 a 1b 0 2e1 3 115c 1e 202 2 2 c 2 6 5 0 7 0 4 1 c7 3f 20d 1 c3 20 f3a 3 6c 1 cd66 f 11
    d 3d0 0 e3 0 105b 0 bbc5 2d 3 16 221 2 12 7 3 6 1f 3 c2f53 ef"),
   ("Zyyy", "0 40 1b 5 1b 2e 2 e 2 4 18 0 20 0 1c2 26 6 4 3 13 75 0 a 0 7 0 2 0 27e 0 7 0 f 0 4 0 21 0 9d 0 205 0
    82 1 4da 0 196 3 123 0 5f0 2 48 1 cc 1 2 0 4ce 0 e 0 8 3 2 5 2 2 3 0 306 b 3 56 2 a 4 a 2 e 12 20 40 25 2 2 3
    5 2 1a 2 10 2a 2 5 299 17 a 16 39f 101 273 3 1f 2 68 201 5d 193 14 2 0 2 18 10 7 5 3 5c 1 4 0 5b 1 94 f 21 25
    a 0 31 3f 20 50 30 0 59 a7 19c1 3f 5901 21 67 2 a6 9 f5 0 a1 0 18c 0 f 1 51d3 1 d1 9 17 22 2 12 2 3 94 0 2 1f
    1b 5 1b a b 0 2e 1 41 6 2 6 b 4 103 2 5 2c 4 8 51 c 34 2c e5 1a b9a5 3 f5d f9 7 1b3 9d 73 3d f5 b 26 3 3d 4 10
    9 1 8 1d 5 3c d6 13 d 13 d 56 a 18 88 54 2 46 2 1 3 0 3 1 3 3 2 b 2 0 2 6 2 40 2 3 3 7 2 6 2 1b 2 3 2 4 2 0 4
    6 2 153 3 123 3 31 1472 43 4d 3c 2c3 2b 5 63 d e 3 e 2 e 2 24 b ad 39 19 2 1 e 2b 5 8 8 1 f 5 9b 3d7 5 10 4 c
    4 76 5 5e 7 b 5 0 10 b 5 37 9 9 7 27 9 1d 3 b 5 1 3f 153 d d 3 c 4 9 6 37 8 e 3 a 7 8 8 92 2 65 c0408 0 1f 5f"),
   ("Zzzz", "378 1 7 3 8 0 2 0 15 0 18e 0 27 1 33 1 4 0 38 7 1c 3 7 a 10f 0 3d 1 66 d 3c 1 32 1 10 0 1d 1 2 0 c 4
    20 0 3 4 ee 0 9 1 3 1 17 0 8 0 2 2 5 1 a 1 3 1 5 7 2 3 3 0 6 1 1a 1 4 0 7 3 3 1 17 0 8 0 3 0 3 0 3 1 2 0 6 3 3
    1 4 2 2 6 5 0 2 6 12 9 4 0 a 0 4 0 17 0 8 0 3 0 6 1 b 0 4 0 4 1 2 e 5 1 d 6 8 0 4 0 9 1 3 1 17 0 8 0 3 0 6 1 a
    1 3 1 4 6 4 3 3 0 6 1 13 9 3 0 7 2 4 0 5 2 3 0 2 0 3 2 3 2 4 2 d 3 6 2 4 0 5 1 2 5 2 d 16 4 e 0 4 0 18 0 11 1
    a 0 4 0 5 6 3 0 4 1 2 1 5 1 b 6 17 0 4 0 18 0 b 0 6 1 a 0 4 0 5 6 3 5 3 0 5 1 b 0 4 b e 0 4 0 34 0 4 0 7 3 11
    1 1b 0 4 0 13 2 19 0 a 0 2 1 8 2 2 3 7 0 2 0 9 5 b 1 4 b 3b 3 1e 24 3 0 2 0 6 0 19 0 2 0 18 1 6 0 2 0 8 0 b 1
    5 1f 49 0 25 3 28 0 25 0 10 0 e 24 c7 0 2 4 2 1 17a 0 5 1 8 0 2 0 5 1 2a 0 5 1 22 0 5 1 8 0 2 0 5 1 10 0 3a 0
    5 1 44 1 21 2 1b 5 57 1 7 1 29e 2 5a 6 17 8 19 8 15 b e 0 4 0 3 b 5f 1 b 5 b 5 1b 5 5a 6 2c 4 47 9 20 0 d 3 d
    3 2 2 2b 1 6 a 2d 3 1b 5 c 2 3f 1 42 0 1e 1 c 5 b 5 f 1 20 30 4e 0 a7 7 3d 2 10 2 3f 4 2c 1 c 7 2c 4 217 1 7 1
    27 1 7 1 9 0 2 0 2 0 2 0 20 1 36 0 10 0 f 1 7 0 14 1 4 0 a 0 66 0 d 1 1c 0 e 2 22 e 22 e 8d 3 29b 15 c 14 715
    1 21 0 15e 4 2e 0 2 4 2 1 39 6 3 d 19 8 8 0 8 0 8 0 8 0 8 0 8 0 8 0 8 0 7f 21 1b 0 5a b d7 19 51 0 57 1 68 4
    2c 0 5f 0 57 8 31 0 726e 2 38 8 15d 13 b9 7 cf 1 3 0 2 0 9 14 3c 2 b 5 39 7 47 7 d 5 75 a 1f 2 4f 0 c 3 22 0
    38 8 f 1 b 1 68 17 1d 9 7 1 7 1 7 8 8 0 8 0 3d 3 7f 1 b 5 2ba5 b 18 3 32 2103 16f 1 6b 25 8 b 6 4 1b 0 6 0 2 0
    3 0 3 0 7e f 1be 1 37 6 2 1f 2b 5 34 0 14 0 5 3 6 0 88 1 2 0 bf 2 7 1 7 1 7 1 4 2 8 0 8 9 6 1 d 0 1b 0 14 0 3
    0 10 1 f 21 7c 4 4 3 2e 2 59 0 e 2 2 2e 2f 81 1e 2 32 e 1d 3 25 8 1f 4 2c 4 1f 0 26 3 f 29 9f 1 b 5 25 3 25 3
    29 7 35 a d 0 10 0 8 0 3 0 c 0 10 0 8 0 3 2 35 b 138 8 17 9 9 17 7 0 2b 0 a 44 7 1 2 0 2d 0 3 2 2 1 18 0 49 7
    a 2f 14 0 3 4 22 2 1c 4 2 3f 39 3 15 1 33 0 3 4 9 0 4 0 1e 1 4 3 b 6 a 6 41 1f 28 3 d 8 37 2 1e 1 1c 4 1b 6 5
    b 8 4f 4a 36 34 c 34 6 2f 7 b 5 27 2 1e 7 3 cf 20 0 2b 0 4 1 3 f 4 36 2d 7 2b 15 1b 25 1d 13 18 8 4f 3 25 8 45
    9 2 1 1a 6 b 5 36 0 13 7 28 8 61 0 15 a 13 0 30 3d 8 0 2 0 5 0 10 0 c 5 3c 4 b 5 5 0 9 1 3 1 17 0 8 0 3 0 6 0
    b 1 3 1 4 1 2 5 2 4 8 1 8 2 6 a b 0 2 1 2 0 27 0 b 0 2 1 2 0 5 0 b 0 3 7 3 1c 5d 0 6 1d 49 7 b a5 37 1 27 21
    46 a b 5 e 12 3b 5 b 5 15 1b 1c 1 10 3 18 b8 3d 63 54 b 9 1 2 1 9 0 3 0 1f 0 3 1 d 8 b 45 9 1 2f 1 c 1a 49 7
    54 c 4a 6 b b5 23 d b 5 a 0 2e 0 f 9 1e 2 21 1 17 0 f 48 8 0 3 0 2d 2 2 0 3 0 a 7 b 5 7 0 3 0 26 0 3 0 7 6 b
    135 1a 6 12 0 2a 2 1e 54 2 e 33 c 39c 65 70 0 6 a c5 a4b 64 c 457 9 f9c 4 248 1ab8 3b 6c5 23a 6 20 0 b 3 52 0
    b 5 1f 1 7 9 47 9 b 0 8 0 16 4 14 1af 3b c5 5c 64 4c 3 3a 6 12 3f 6 a 3 d 17f9 7 4d7 28 b 22e6 5 0 8 0 3 0 124
    e 2 1c 4 1 2 d 5 7 18d 903 6c 4 e 2 a 6 b 1 9 f5b fb 5 1b5 4b 2f 1 18 8 75 3b f7 9 28 1 c3 14 47 79 15 b 15 b
    58 8 1a 86 56 0 48 0 3 1 2 1 3 1 5 0 d 0 2 0 8 0 42 0 5 1 9 0 8 0 1d 0 5 0 6 0 2 2 8 0 155 1 125 1 2bf e 6 0
    10 44f 20 5 7 d4 8 0 12 1 8 0 3 0 6 4 3f 20 2 6f 2e 2 f 1 b 3 3 13f 20 10 3b 4 2 1cf 2b d5 2c 3 2 1df 8 0 5 0
    3 0 10 0 c6 1 11 28 4d 3 b 3 3 310 45 4b 3e c1 5 0 1c 0 3 0 2 1 2 0 b 0 5 0 2 0 2 5 2 3 2 0 2 0 2 0 4 0 3 0 2
    1 2 0 2 0 2 0 2 0 2 0 3 0 2 1 5 0 8 0 5 0 5 0 2 0 b 0 12 4 4 0 6 0 12 33 3 10d 2d 3 65 b 10 1 10 0 10 0 26 9
    af 37 1e c 2d 3 a 6 3 d 7 99 3d9 3 12 2 e 2 78 3 60 5 d 3 2 e d 3 39 7 b 5 29 7 1f 1 d 3 3 3d 155 b f 1 e 2 b
    4 39 6 10 1 c 5 a 6 94 0 67 405 a6e1 1f 103b 5 df 1 1683 d 1d32 e 26f 9a1 21f 5e1 134c 4 1061 adc50 2 1d 61 7f
    f1 2fe0f")]

/-- The characters that a script uses, for the scripts that use characters of other scripts or share their own. -/
def sharedScriptTable : List (String × String) :=
  [("Adlm", "61f 0 21 0 1a0f 0 df2 0 1babf 4b 5 9 5 1"),
   ("Aghb", "304 0 2d 0 2d 0 101d2 33 c 0"),
   ("Arab", "600 4 2 d6 2 21 51 2f f1 1e 2 1 6 4a 2 1c 1750 0 df2 0 cd0f 72 11 1bc 3 35 8 0 21 f 71 4 2 86 3e4 1b
    b65 1e 44 2 38 3 df01 3 2 1a 2 1 2 0 3 0 2 9 2 3 2 0 2 0 7 0 5 0 2 0 2 0 2 2 2 1 2 0 3 0 2 0 2 0 2 0 2 0 2 1 2
    0 3 3 2 6 2 3 2 3 2 0 2 9 2 10 6 2 2 4 2 10 35 1"),
   ("Armn", "308 0 229 25 3 31 3 2 f584 4"),
   ("Avst", "b7 0 2d79 1 dccf 35 4 6"),
   ("Beng", "2bc 0 695 1 12 1 1b 3 2 7 3 1 3 15 2 6 2 0 4 3 3 8 3 1 3 3 9 0 5 1 2 4 3 18 12d2 0 2 0 3 1 2 0 9 0 9 0
    3 0 5 0 3 2 8bfa 0"),
   ("Bopo", "2c7 0 2 2 e 0 11 1 2d16 2 5 9 2 c b 3 3 0 7 0 c4 0 a 2a 71 1f cc86 1 11b 4"),
   ("Bugi", "1a00 1b 3 1 8fb0 0"),
   ("Buhd", "1735 1 a 13"),
   ("Cakm", "9e6 9 651 9 100b7 34 2 11"),
   ("Cari", "b7 0 1fa3 0 3 0 dd4 0 d46f 30"),
   ("Cher", "300 2 2 0 7 1 17 1 c 1 106f 55 3 5 9773 4f"),
   ("Copt", "b7 0 249 0 4 1 2 0 6d 1 6d d 2891 73 6 6 118 0 d4c9 1b"),
   ("Cpmn", "10100 1 2e8f 62"),
   ("Cprt", "10100 2 5 2c 4 8 6c1 5 3 0 2 2b 2 1 4 0 3 0"),
   ("Cyrl", "2bc 0 44 2 2 0 2 0 2 0 3 0 6 0 ef 12f 1751 a a1 0 4d 0 80 0 fe8 1f 44 0 77fd 5f 578f 1 e201 3d 22 0"),
   ("Deva", "2bc 0 644 52 3 2a 1351 26 2 1 3f7 0 8740 9 a7 1f 7201 9"),
   ("Dogr", "964 b 9ec1 9 6fc7 3b"),
   ("Dupl", "b7 0 250 1 2 0 19 1 2b18 0 18dc4 6a 6 c 4 8 8 9 3 7"),
   ("Elba", "b7 0 24e 0 101fb 27"),
   ("Ethi", "30e 0 ef2 48 2 3 3 6 2 0 2 3 3 28 2 3 3 20 2 3 3 6 2 0 2 3 3 e 2 38 2 3 3 42 3 1f 4 19 19e7 16 a 6 2 6
    2 6 2 6 2 6 2 6 2 6 2 6 7d23 5 3 5 3 5 a 6 2 6 13cb2 6 2 3 2 1 2 e"),
   ("Gara", "60c 0 f 0 4 0 10721 25 4 1c 9 1"),
   ("Geor", "b7 0 4d2 0 b17 25 2 0 6 0 3 2f b91 2a 3 2 39b 0 ca6 25 2 0 6 0 104 0"),
   ("Glag", "b7 0 24c 0 2 0 17f 0 3 0 102 0 b72 0 f5f 0 ba6 5f 1e4 0 782c 0 13991 6 2 10 3 6 2 1 2 4"),
   ("Gong", "b7 0 8ad 1 113fb 5 2 1 2 24 2 1 2 5 8 9"),
   ("Gonm", "964 1 1139b 6 2 1 2 2b 4 0 2 1 2 8 9 9"),
   ("Goth", "b7 0 24d 1 3 0 29 0 ffff 1a"),
   ("Gran", "951 1 12 1 281 d 10dd 0 2 1 1f 2 4 1 3f7 0 f210 3 2 7 3 1 3 15 2 6 2 1 2 4 2 9 3 1 3 2 3 0 7 0 6 6 3 6
    4 4 c5c 1 2 0"),
   ("Grek", "b7 0 249 1 3 0 2 0 2 0 b 0 2f 0 3 0 2b 7 3 3 2 0 5 0 2 0 2 2 2 0 2 13 2 3e f f 1927 4 33 4 5 4 55 2
    13f 15 3 5 3 25 3 5 3 7 2 0 2 0 2 0 2 1e 3 34 2 e 2 d 3 5 2 12 3 2 2 8 5f 0 c9 0 8a3f 0 55db 4e 12 0 d060 45"),
   ("Gujr", "951 1 12 1 11c 2 2 8 2 2 2 15 2 6 2 1 2 4 3 9 2 2 2 2 3 0 10 3 3 b 8 6 9d31 9"),
   ("Gukh", "965 0 1579b 39"),
   ("Guru", "951 1 12 1 9c 2 2 5 5 1 3 15 2 6 2 1 2 1 2 1 3 0 2 4 5 1 3 2 4 0 8 3 2 0 8 10 9dba 9"),
   ("Hang", "1100 ff 1e02 2 5 9 2 c f 2 7 0 c4 0 36 5d 72 1e 42 1e 76e2 1c 284 2ba3 d 16 5 30 264a 1 11b 4 3b 1e 4
    5 3 5 3 5 3 2"),
   ("Hani", "b7 0 2dc9 19 2 58 d d5 1b f 2 2 2 c 2 c 2 c 3 0 7 8 bc 0 95 f 21 25 a 0 31 27 39 30 10 b 34 0 59 18 b
    4 61 1e 2 19bf 41 51ff 701 7 51f9 16d 3 69 36c 1 11b 4 707d 1 d 1 636f 11 1edf 1 daf a6df 21 1039 7 dd 3 1681
    f 1d30 10 26d 9a3 21d 5e3 134a 6 105f"),
   ("Hano", "1720 16"),
   ("Hebr", "307 1 289 36 9 1a 5 5 f529 19 2 4 2 0 2 1 2 1 2 9"),
   ("Hira", "3001 2 5 9 2 c 11 5 2 0 5 1 4 55 3 7 5b 1 cd49 1 11b 4 b 0 2e 1 b062 11e 13 0 1e 2 40ae 0"),
   ("Hung", "205a 0 3 0 dd4 0 10 0 de3f 32 e 32 8 5"),
   ("Java", "a980 4d 2 a 5 1"),
   ("Kali", "a900 2f"),
   ("Kana", "305 0 1e 0 2cde 2 5 9 2 c 11 5 2 0 5 1 5c 3 4 5f f1 f d1 2e 2 57 caee 1 11b 3e b051 3 2 6 2 1 2 0 120
    2 33 0 f 3"),
   ("Khoj", "ae6 9 9d41 9 69c7 11 2 2e"),
   ("Knda", "951 1 12 1 31b c 2 2 2 16 2 9 2 4 3 8 2 2 2 3 8 1 7 1 2 3 3 9 2 2 fdd 0 2 1 7 0 18 0 2 0 8b3c 5"),
   ("Kthi", "966 9 24c2 0 79ff 9 6847 42 b 0"),
   ("Latn", "41 19 7 19 30 0 d 0 3 0 6 16 2 1e 2 1c0 4 0 b 0 2 2 2 0 a 0 2 0 7 4 1c e 2 1 2 0 10 2 8 1 2 1 27 0 6 0
    5 c 116 1 4cb 1 7a9 0 c05 25 7 30 6 3 6 c 2 45 3a 0 8 ff 130 0 42 0 e 0 11 c 54 0 3a 1 7 0 1c 0 12 28 ad8 1f
    198 0 78e9 7 1b 65 4 42 3 1 2 0 2 7 16 d 12f 0 202 2a 2 8 2 3 4f97 6 41b 19 7 19 826 5 2 29 2 8 d746 1e 7 5"),
   ("Limb", "965 0 f9b 1e 2 b 5 b 5 0 4 b"),
   ("Lina", "10107 2c 4cd 136 a 15 b 7"),
   ("Linb", "10000 b 2 19 2 12 2 1 2 e 3 d 23 7a 6 2 5 2c 4 8"),
   ("Lisu", "2bc 0 11 0 2d3d 1 74c5 2f 7ab1 0"),
   ("Lyci", "205a 0 e226 1c"),
   ("Lydi", "b7 0 2d7a 0 daef 19 6 0"),
   ("Mahj", "b7 0 8ad b 9ec1 9 6917 26"),
   ("Mand", "640 0 200 1b 3 0"),
   ("Mani", "640 0 10480 26 5 b"),
   ("Mero", "205d 0 e923 1f"),
   ("Mlym", "951 1 12 1 39b c 2 2 2 32 2 2 2 5 5 f 3 19 f5b 0 18 0 8b3e 2"),
   ("Modi", "a830 9 6dc7 44 c 9"),
   ("Mong", "1800 19 7 58 8 2a 785 0 fd2 1 6 3 e655 c"),
   ("Mult", "a66 9 10811 6 2 0 2 3 2 e 2 a"),
   ("Mymr", "1000 9f 988f 0 b2 1e 62 1f 6c51 13"),
   ("Nand", "951 0 13 1 381 9 ffa 0 9 0 8 0 8b36 5 716b 7 3 2d 3 a"),
   ("Newa", "951 1 1383 0 2 1 a 0 7 0 2 0 2 0 f713 5b 2 4"),
   ("Nkoo", "60c 0 f 0 4 0 1a1 3a 3 2 f53f 1"),
   ("Onao", "964 1 1dc6b 2a 5 0"),
   ("Orkh", "205a 0 dd6 0 ddd0 48"),
   ("Orya", "951 1 12 1 19c 2 2 7 3 1 3 15 2 6 2 1 2 4 3 8 3 1 3 2 8 2 5 1 2 4 3 11 1163 0 18 0"),
   ("Osge", "301 0 3 0 7 0 4d 0 10158 23 5 23"),
   ("Ougr", "640 0 104b2 0 47e 19"),
   ("Perm", "b7 0 249 0 6 2 b 0 170 0 fecd 2a"),
   ("Phag", "1802 1 2 0 82a 0 fd3 0 783e 37"),
   ("Phlp", "640 0 10540 11 8 3 d 6"),
   ("Rohg", "60c 0 f 0 4 0 21 0 94 0 1062c 27 9 9"),
   ("Runr", "16a0 58"),
   ("Samr", "800 2d 3 e 25f3 0"),
   ("Shaw", "b7 0 10399 2f"),
   ("Shrd", "951 0 1386 0 2 0 3 1 3 0 a 0 3 0 8b43 5 3 0 6948 5f"),
   ("Sind", "964 1 9ecb 9 6a77 3a 6 9"),
   ("Sinh", "964 1 41c 2 2 11 4 17 2 8 2 0 3 6 4 0 5 5 2 0 2 7 7 9 3 2 efe 0 f4ef 13"),
   ("Sogd", "640 0 108f0 29"),
   ("Sunu", "300 1 2 0 a 0 3 0 1d 0 4 0 1188f 21 f 9"),
   ("Sylo", "964 1 81 9 9e11 2c"),
   ("Syrc", "303 1 3 1 2 0 19 2 8 1 2 1 2db 0 f 1 3 0 21 0 b a 1b 0 90 d 2 3b 3 2 111 a 158e 0 2 0"),
   ("Tagb", "1735 1 2a c 2 2 2 1"),
   ("Takr", "964 1 9ecb 9 6e47 39 7 9"),
   ("Tale", "300 1 6 1 4 0 d34 9 907 1d 3 4"),
   ("Taml", "951 1 12 1 21d 1 2 5 4 2 2 3 4 1 2 0 2 1 4 1 4 2 4 b 5 4 4 2 2 3 3 0 7 0 f 14 10e0 0 8c19 0 6a0e 0 2 0
    38 1 c84 31 e 0"),
   ("Tang", "2ff0 f 1f0 0 13df1 0 20 17f7 9 2ff 201 8"),
   ("Telu", "951 1 12 1 29b c 2 2 2 16 2 f 3 8 2 2 2 3 8 1 2 2 3 0 3 3 3 9 8 8 1056 1 2 0 2 0 18 0"),
   ("Tfng", "302 0 2 0 2 3 1a 0 2a0d 37 8 1 f 0"),
   ("Tglg", "1700 15 a 0 16 1"),
   ("Thaa", "60c 0 f 1 3 0 41 9 117 31 f641 0 b 0"),
   ("Thai", "2bc 0 1b 0 2c 0 2e 0 ad0 39 6 1b"),
   ("Tibt", "f00 47 2 23 5 26 2 23 2 e 2 6 5 1 202e 3"),
   ("Tirh", "951 1 12 1 1370 0 d 0 10 0 8b3e 9 6c47 47 9 9"),
   ("Todr", "301 0 3 0 3 0 a 0 2 0 4b 0 10262 33"),
   ("Toto", "2bc 0 1dfd4 1e"),
   ("Tutg", "ce6 9 1003 0 2 0 8b3c 5 bc 0 6a8f 9 2 0 3 0 2 25 2 9 2 0 3 0 2 3 2 9 2 1 9 1"),
   ("Yezi", "60c 0 f 0 4 0 41 9 10817 29 2 2 3 1"),
   ("Yiii", "3001 1 6 9 3 7 e0 0 6f05 48c 4 36 5a9b 4"),
   ("Zinh", "30f 0 3 0 2 e 4 6 3 0 3 f 2 1 2 11 2 4 2 3 5f1 1 115c 1e 2f4 35 2 0 2 4 20d 1 c3 1f dd11 f 11 d 3d0 0
    cd03 2d 3 16 221 2 12 7 3 6 1f 3 c2f53 ef"),
   ("Zyyy", "0 40 1b 5 1b 2e 2 b 2 1 2 4 18 0 20 0 1c2 2 2 9 2 0 4 0 2 8 2 0 2 5 6 4 3 13 7f 0 7 0 2 0 27e 0 d8 0
    205 0 55d 0 196 3 1028 b 3 20 2 1e 2 9 2 1 2 6 2 a 4 a 2 e 12 20 40 25 2 2 3 5 2 1a 2 10 2a 2 5 299 17 a 16
    39f 101 273 3 1f 2 68 201 16 2 17 3 9 2 3 2 0 2 19 1a3 0 4 0 e 0 e 0 16 0 212 17 20 0 32 e d 3 a2 9 6 5f 20 0
    19c1 3f 5909 19 67 2 3d1 0 f 1 52a5 9 17 14 3 b 2 12 2 3 94 0 2 1f 1b 5 1b 5 80 6 2 6 b 4 193 c 34 2c ca04 f9
    7 1b3 9d 73 3d f5 b 26 3 3d 4 10 9 1 8 1d 5 3c d6 13 d 13 d 56 1c 6 88 54 2 46 2 1 3 0 3 1 3 3 2 b 2 0 2 6 2
    40 2 3 3 7 2 6 2 1b 2 3 2 4 2 0 4 6 2 153 3 123 3 31 1472 43 4d 3c 2c3 2b 5 63 d e 3 e 2 e 2 24 b ad 39 19 2 1
    e 2b 5 8 18 5 9b 3d7 5 10 4 c 4 76 5 5e 7 b 5 0 10 b 5 37 9 9 7 27 9 1d 3 b 5 1 3f 153 d d 3 c 4 9 6 37 8 e 3
    a 7 8 8 92 2 65 c0408 0 1f 5f")]

/-- The names of scripts in their loose spelling, and the short names they stand for. -/
def scriptNames : List (String × String) :=
  [("adlm", "Adlm"), ("adlam", "Adlm"), ("aghb", "Aghb"), ("caucasianalbanian", "Aghb"), ("ahom", "Ahom"),
   ("arab", "Arab"), ("arabic", "Arab"), ("armi", "Armi"), ("imperialaramaic", "Armi"), ("armn", "Armn"),
   ("armenian", "Armn"), ("avst", "Avst"), ("avestan", "Avst"), ("bali", "Bali"), ("balinese", "Bali"),
   ("bamu", "Bamu"), ("bamum", "Bamu"), ("bass", "Bass"), ("bassavah", "Bass"), ("batk", "Batk"),
   ("batak", "Batk"), ("beng", "Beng"), ("bengali", "Beng"), ("bhks", "Bhks"), ("bhaiksuki", "Bhks"),
   ("bopo", "Bopo"), ("bopomofo", "Bopo"), ("brah", "Brah"), ("brahmi", "Brah"), ("brai", "Brai"),
   ("braille", "Brai"), ("bugi", "Bugi"), ("buginese", "Bugi"), ("buhd", "Buhd"), ("buhid", "Buhd"),
   ("cakm", "Cakm"), ("chakma", "Cakm"), ("cans", "Cans"), ("canadianaboriginal", "Cans"), ("cari", "Cari"),
   ("carian", "Cari"), ("cham", "Cham"), ("cher", "Cher"), ("cherokee", "Cher"), ("chrs", "Chrs"),
   ("chorasmian", "Chrs"), ("copt", "Copt"), ("coptic", "Copt"), ("qaac", "Copt"), ("cpmn", "Cpmn"),
   ("cyprominoan", "Cpmn"), ("cprt", "Cprt"), ("cypriot", "Cprt"), ("cyrl", "Cyrl"), ("cyrillic", "Cyrl"),
   ("deva", "Deva"), ("devanagari", "Deva"), ("diak", "Diak"), ("divesakuru", "Diak"), ("dogr", "Dogr"),
   ("dogra", "Dogr"), ("dsrt", "Dsrt"), ("deseret", "Dsrt"), ("dupl", "Dupl"), ("duployan", "Dupl"),
   ("egyp", "Egyp"), ("egyptianhieroglyphs", "Egyp"), ("elba", "Elba"), ("elbasan", "Elba"), ("elym", "Elym"),
   ("elymaic", "Elym"), ("ethi", "Ethi"), ("ethiopic", "Ethi"), ("gara", "Gara"), ("garay", "Gara"),
   ("geor", "Geor"), ("georgian", "Geor"), ("glag", "Glag"), ("glagolitic", "Glag"), ("gong", "Gong"),
   ("gunjalagondi", "Gong"), ("gonm", "Gonm"), ("masaramgondi", "Gonm"), ("goth", "Goth"), ("gothic", "Goth"),
   ("gran", "Gran"), ("grantha", "Gran"), ("grek", "Grek"), ("greek", "Grek"), ("gujr", "Gujr"),
   ("gujarati", "Gujr"), ("gukh", "Gukh"), ("gurungkhema", "Gukh"), ("guru", "Guru"), ("gurmukhi", "Guru"),
   ("hang", "Hang"), ("hangul", "Hang"), ("hani", "Hani"), ("han", "Hani"), ("hano", "Hano"), ("hanunoo", "Hano"),
   ("hatr", "Hatr"), ("hatran", "Hatr"), ("hebr", "Hebr"), ("hebrew", "Hebr"), ("hira", "Hira"),
   ("hiragana", "Hira"), ("hluw", "Hluw"), ("anatolianhieroglyphs", "Hluw"), ("hmng", "Hmng"),
   ("pahawhhmong", "Hmng"), ("hmnp", "Hmnp"), ("nyiakengpuachuehmong", "Hmnp"), ("hrkt", "Hrkt"),
   ("katakanaorhiragana", "Hrkt"), ("hung", "Hung"), ("oldhungarian", "Hung"), ("ital", "Ital"),
   ("olditalic", "Ital"), ("java", "Java"), ("javanese", "Java"), ("kali", "Kali"), ("kayahli", "Kali"),
   ("kana", "Kana"), ("katakana", "Kana"), ("kawi", "Kawi"), ("khar", "Khar"), ("kharoshthi", "Khar"),
   ("khmr", "Khmr"), ("khmer", "Khmr"), ("khoj", "Khoj"), ("khojki", "Khoj"), ("kits", "Kits"),
   ("khitansmallscript", "Kits"), ("knda", "Knda"), ("kannada", "Knda"), ("krai", "Krai"), ("kiratrai", "Krai"),
   ("kthi", "Kthi"), ("kaithi", "Kthi"), ("lana", "Lana"), ("taitham", "Lana"), ("laoo", "Laoo"), ("lao", "Laoo"),
   ("latn", "Latn"), ("latin", "Latn"), ("lepc", "Lepc"), ("lepcha", "Lepc"), ("limb", "Limb"), ("limbu", "Limb"),
   ("lina", "Lina"), ("lineara", "Lina"), ("linb", "Linb"), ("linearb", "Linb"), ("lisu", "Lisu"),
   ("lyci", "Lyci"), ("lycian", "Lyci"), ("lydi", "Lydi"), ("lydian", "Lydi"), ("mahj", "Mahj"),
   ("mahajani", "Mahj"), ("maka", "Maka"), ("makasar", "Maka"), ("mand", "Mand"), ("mandaic", "Mand"),
   ("mani", "Mani"), ("manichaean", "Mani"), ("marc", "Marc"), ("marchen", "Marc"), ("medf", "Medf"),
   ("medefaidrin", "Medf"), ("mend", "Mend"), ("mendekikakui", "Mend"), ("merc", "Merc"),
   ("meroiticcursive", "Merc"), ("mero", "Mero"), ("meroitichieroglyphs", "Mero"), ("mlym", "Mlym"),
   ("malayalam", "Mlym"), ("modi", "Modi"), ("mong", "Mong"), ("mongolian", "Mong"), ("mroo", "Mroo"),
   ("mro", "Mroo"), ("mtei", "Mtei"), ("meeteimayek", "Mtei"), ("mult", "Mult"), ("multani", "Mult"),
   ("mymr", "Mymr"), ("myanmar", "Mymr"), ("nagm", "Nagm"), ("nagmundari", "Nagm"), ("nand", "Nand"),
   ("nandinagari", "Nand"), ("narb", "Narb"), ("oldnortharabian", "Narb"), ("nbat", "Nbat"), ("nabataean", "Nbat"),
   ("newa", "Newa"), ("nkoo", "Nkoo"), ("nko", "Nkoo"), ("nshu", "Nshu"), ("nushu", "Nshu"), ("ogam", "Ogam"),
   ("ogham", "Ogam"), ("olck", "Olck"), ("olchiki", "Olck"), ("onao", "Onao"), ("olonal", "Onao"),
   ("orkh", "Orkh"), ("oldturkic", "Orkh"), ("orya", "Orya"), ("oriya", "Orya"), ("osge", "Osge"),
   ("osage", "Osge"), ("osma", "Osma"), ("osmanya", "Osma"), ("ougr", "Ougr"), ("olduyghur", "Ougr"),
   ("palm", "Palm"), ("palmyrene", "Palm"), ("pauc", "Pauc"), ("paucinhau", "Pauc"), ("perm", "Perm"),
   ("oldpermic", "Perm"), ("phag", "Phag"), ("phagspa", "Phag"), ("phli", "Phli"),
   ("inscriptionalpahlavi", "Phli"), ("phlp", "Phlp"), ("psalterpahlavi", "Phlp"), ("phnx", "Phnx"),
   ("phoenician", "Phnx"), ("plrd", "Plrd"), ("miao", "Plrd"), ("prti", "Prti"), ("inscriptionalparthian", "Prti"),
   ("rjng", "Rjng"), ("rejang", "Rjng"), ("rohg", "Rohg"), ("hanifirohingya", "Rohg"), ("runr", "Runr"),
   ("runic", "Runr"), ("samr", "Samr"), ("samaritan", "Samr"), ("sarb", "Sarb"), ("oldsoutharabian", "Sarb"),
   ("saur", "Saur"), ("saurashtra", "Saur"), ("sgnw", "Sgnw"), ("signwriting", "Sgnw"), ("shaw", "Shaw"),
   ("shavian", "Shaw"), ("shrd", "Shrd"), ("sharada", "Shrd"), ("sidd", "Sidd"), ("siddham", "Sidd"),
   ("sind", "Sind"), ("khudawadi", "Sind"), ("sinh", "Sinh"), ("sinhala", "Sinh"), ("sogd", "Sogd"),
   ("sogdian", "Sogd"), ("sogo", "Sogo"), ("oldsogdian", "Sogo"), ("sora", "Sora"), ("sorasompeng", "Sora"),
   ("soyo", "Soyo"), ("soyombo", "Soyo"), ("sund", "Sund"), ("sundanese", "Sund"), ("sunu", "Sunu"),
   ("sunuwar", "Sunu"), ("sylo", "Sylo"), ("sylotinagri", "Sylo"), ("syrc", "Syrc"), ("syriac", "Syrc"),
   ("tagb", "Tagb"), ("tagbanwa", "Tagb"), ("takr", "Takr"), ("takri", "Takr"), ("tale", "Tale"),
   ("taile", "Tale"), ("talu", "Talu"), ("newtailue", "Talu"), ("taml", "Taml"), ("tamil", "Taml"),
   ("tang", "Tang"), ("tangut", "Tang"), ("tavt", "Tavt"), ("taiviet", "Tavt"), ("telu", "Telu"),
   ("telugu", "Telu"), ("tfng", "Tfng"), ("tifinagh", "Tfng"), ("tglg", "Tglg"), ("tagalog", "Tglg"),
   ("thaa", "Thaa"), ("thaana", "Thaa"), ("thai", "Thai"), ("tibt", "Tibt"), ("tibetan", "Tibt"), ("tirh", "Tirh"),
   ("tirhuta", "Tirh"), ("tnsa", "Tnsa"), ("tangsa", "Tnsa"), ("todr", "Todr"), ("todhri", "Todr"),
   ("toto", "Toto"), ("tutg", "Tutg"), ("tulutigalari", "Tutg"), ("ugar", "Ugar"), ("ugaritic", "Ugar"),
   ("vaii", "Vaii"), ("vai", "Vaii"), ("vith", "Vith"), ("vithkuqi", "Vith"), ("wara", "Wara"),
   ("warangciti", "Wara"), ("wcho", "Wcho"), ("wancho", "Wcho"), ("xpeo", "Xpeo"), ("oldpersian", "Xpeo"),
   ("xsux", "Xsux"), ("cuneiform", "Xsux"), ("yezi", "Yezi"), ("yezidi", "Yezi"), ("yiii", "Yiii"), ("yi", "Yiii"),
   ("zanb", "Zanb"), ("zanabazarsquare", "Zanb"), ("zinh", "Zinh"), ("inherited", "Zinh"), ("qaai", "Zinh"),
   ("zyyy", "Zyyy"), ("common", "Zyyy"), ("zzzz", "Zzzz"), ("unknown", "Zzzz")]

/-- The characters of the script with the given short name. -/
def script (name : String) : CodeSet := (codeSetOf? scriptTable name).getD .empty

/-- The characters that the script with the given short name uses. -/
def scriptWithShared (name : String) : CodeSet := (codeSetOf? sharedScriptTable name).getD (script name)

end GatewayRegistrar.Unicode
