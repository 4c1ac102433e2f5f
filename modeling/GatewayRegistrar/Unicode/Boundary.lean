import GatewayRegistrar.Unicode.Table

/-!
# Boundaries

The classes of characters that decide where a text may be cut: between what a reader takes for single characters,
between words, and between sentences.
-/

namespace GatewayRegistrar.Unicode

/-- The characters of each class for boundaries between what a reader takes for single characters. -/
def graphemeTable : List (String × String) :=
  [("CR", "d 0"),
   ("Control", "0 9 2 1 2 11 60 20 e 0 56f 0 11f2 0 7fd 0 3 1 19 6 32 f de90 0 f1 b 3435 f 8861 3 14d0 7 c2e86 1f
    61 7f f1 e0f"),
   ("Extend", "300 6f 114 6 108 2c 2 0 2 1 2 1 2 0 49 a 31 14 11 0 66 6 3 5 3 1 2 3 24 0 1f 1a 5c a 3b 8 a 0 19 3 2
    8 2 2 2 4 2c 2 3c 8 2b 17 2 1f 38 0 2 0 5 7 5 0 4 6 b 1 1e 0 3b 0 2 0 3 3 9 0 a 0 b 1 1b 0 3 1 3a 0 5 1 5 1 3
    2 4 0 1f 1 4 0 c 1 3a 0 5 4 2 1 5 0 15 1 17 5 2 0 3b 0 2 1 2 3 9 0 8 2 b 1 1f 0 3c 0 2 0 d 0 a 0 29 0 4 0 38 0
    2 2 6 2 2 3 8 1 c 1 1e 0 3b 0 3 1 2 0 4 2 2 3 8 1 c 1 1d 1 3a 1 2 0 3 3 9 0 a 0 b 1 1e 0 49 0 5 0 3 2 2 0 9 0
    52 0 3 6 d 7 63 0 3 8 c 6 4a 1 1c 0 2 0 2 0 38 d 2 4 2 1 6 a 2 23 a 0 67 3 2 5 2 1 3 1 1a 1 5 2 11 3 e 0 3 1 7
    0 10 0 2c0 2 3b3 3 1d 2 1e 1 1f 1 41 1 2 6 9 0 3 a a 0 2e 2 2 0 76 1 23 0 77 2 5 1 a 0 7 2 dc 1 3 0 3b 0 2 6 2
    0 2 0 3 7 7 9 3 0 31 1e 32 3 31 9 5 2 27 8 d 1 21 3 3 5 39 0 2 1 4 0 2 4 39 7 3 1 99 2 2 c 2 6 5 0 7 0 4 1 c7
    3f 20d 0 c4 20 bff 2 8e 0 61 1f 22b 5 6a 1 75d5 3 2 9 21 1 51 1 111 0 4 0 5 0 1a 1 6 0 98 1 1b 11 e 0 27 7 1a
    a 2 0 2d 2 31 0 3 3 3 1 3 0 25 0 44 5 3 1 3 1 d 0 9 0 30 0 34 0 2 2 3 1 6 1 2 0 2b 1 9 0 ef 0 3 0 5 0 4f31 0
    2e2 f 11 f 16f 1 25e 0 e3 0 96 4 687 2 2 1 6 3 29 2 5 0 a6 1 23e 3 42 4 13e 1 50 3 47 a 32 3 7c 0 37 e 2a 0 3
    1 b 2 32 3 3 1 8 0 3e 2 25 4 2 7 3f 0 d 1 35 8 2 0 9 3 3 0 60 2 3 3 7 0 3 0 9e 0 4 7 16 1 3a 1 2 0 2 0 d 0 a 0
    f 6 4 4 44 0 3 5 2 0 3 0 2 2 5 2 2 0 f 1 56 7 3 2 2 0 18 0 52 0 3 5 2 0 3 0 2 1 2 1 ec 0 3 3 7 1 2 1 1c 1 56 7
    3 0 2 1 6b 0 2 0 3 7 66 0 2 0 3 3 2 4 104 8 2 1 f6 0 b 3 5 0 91 3 3 1 5 0 21 9 29 5 3 3 9 0 a 5 3 2 2f c 2 1
    197 6 2 5 2 0 53 15 3 6 2 1 2 1 7b 5 4 0 2 1 2 6 2 0 49 1 4 0 2 0 15c 1 c 1 35 4 6 2 18 0 14e6 0 7 e 2cc9 b 4
    2 9c1 4 3c 6 419 0 40 3 52 0 c 1 4cac 1 1262 2d 3 16 21f 4 4 5 9 7 3 6 1f 3 95 2 7bc 36 5 31 9 0 f 0 17 4 2 e
    551 6 2 10 3 6 2 1 2 4 65 0 a1 6 178 0 3e 3 1fd 3 ff 1 2e1 6 6e 6 ab1 4 c0c21 5f 81 ef"),
   ("L", "1100 5f 9801 1c"),
   ("LF", "a 0"),
   ("LV", "ac00 0 1c 0 1c 0 1c 0 1c 0 1c 0 1c 0 1c 0 1c 0 1c 0 1c 0 1c 0 1c 0 1c 0 1c 0 1c 0 1c 0 1c 0 1c 0 1c 0 1c
    0 1c 0 1c 0 1c 0 1c 0 1c 0 1c 0 1c 0 1c 0 1c 0 1c 0 1c 0 1c 0 1c 0 1c 0 1c 0 1c 0 1c 0 1c 0 1c 0 1c 0 1c 0 1c
    0 1c 0 1c 0 1c 0 1c 0 1c 0 1c 0 1c 0 1c 0 1c 0 1c 0 1c 0 1c 0 1c 0 1c 0 1c 0 1c 0 1c 0 1c 0 1c 0 1c 0 1c 0 1c
    0 1c 0 1c 0 1c 0 1c 0 1c 0 1c 0 1c 0 1c 0 1c 0 1c 0 1c 0 1c 0 1c 0 1c 0 1c 0 1c 0 1c 0 1c 0 1c 0 1c 0 1c 0 1c
    0 1c 0 1c 0 1c 0 1c 0 1c 0 1c 0 1c 0 1c 0 1c 0 1c 0 1c 0 1c 0 1c 0 1c 0 1c 0 1c 0 1c 0 1c 0 1c 0 1c 0 1c 0 1c
    0 1c 0 1c 0 1c 0 1c 0 1c 0 1c 0 1c 0 1c 0 1c 0 1c 0 1c 0 1c 0 1c 0 1c 0 1c 0 1c 0 1c 0 1c 0 1c 0 1c 0 1c 0 1c
    0 1c 0 1c 0 1c 0 1c 0 1c 0 1c 0 1c 0 1c 0 1c 0 1c 0 1c 0 1c 0 1c 0 1c 0 1c 0 1c 0 1c 0 1c 0 1c 0 1c 0 1c 0 1c
    0 1c 0 1c 0 1c 0 1c 0 1c 0 1c 0 1c 0 1c 0 1c 0 1c 0 1c 0 1c 0 1c 0 1c 0 1c 0 1c 0 1c 0 1c 0 1c 0 1c 0 1c 0 1c
    0 1c 0 1c 0 1c 0 1c 0 1c 0 1c 0 1c 0 1c 0 1c 0 1c 0 1c 0 1c 0 1c 0 1c 0 1c 0 1c 0 1c 0 1c 0 1c 0 1c 0 1c 0 1c
    0 1c 0 1c 0 1c 0 1c 0 1c 0 1c 0 1c 0 1c 0 1c 0 1c 0 1c 0 1c 0 1c 0 1c 0 1c 0 1c 0 1c 0 1c 0 1c 0 1c 0 1c 0 1c
    0 1c 0 1c 0 1c 0 1c 0 1c 0 1c 0 1c 0 1c 0 1c 0 1c 0 1c 0 1c 0 1c 0 1c 0 1c 0 1c 0 1c 0 1c 0 1c 0 1c 0 1c 0 1c
    0 1c 0 1c 0 1c 0 1c 0 1c 0 1c 0 1c 0 1c 0 1c 0 1c 0 1c 0 1c 0 1c 0 1c 0 1c 0 1c 0 1c 0 1c 0 1c 0 1c 0 1c 0 1c
    0 1c 0 1c 0 1c 0 1c 0 1c 0 1c 0 1c 0 1c 0 1c 0 1c 0 1c 0 1c 0 1c 0 1c 0 1c 0 1c 0 1c 0 1c 0 1c 0 1c 0 1c 0 1c
    0 1c 0 1c 0 1c 0 1c 0 1c 0 1c 0 1c 0 1c 0 1c 0 1c 0 1c 0 1c 0 1c 0 1c 0 1c 0 1c 0 1c 0 1c 0 1c 0 1c 0 1c 0 1c
    0 1c 0 1c 0 1c 0 1c 0 1c 0 1c 0 1c 0 1c 0 1c 0 1c 0 1c 0 1c 0 1c 0 1c 0 1c 0 1c 0 1c 0 1c 0 1c 0 1c 0 1c 0 1c
    0 1c 0 1c 0 1c 0 1c 0 1c 0 1c 0 1c 0 1c 0 1c 0 1c 0 1c 0 1c 0 1c 0 1c 0 1c 0 1c 0 1c 0 1c 0 1c 0 1c 0 1c 0 1c
    0 1c 0 1c 0 1c 0 1c 0 1c 0 1c 0 1c 0 1c 0 1c 0 1c 0 1c 0 1c 0 1c 0 1c 0 1c 0 1c 0 1c 0 1c 0 1c 0 1c 0 1c 0 1c
    0 1c 0 1c 0 1c 0 1c 0 1c 0 1c 0 1c 0 1c 0 1c 0 1c 0 1c 0 1c 0 1c 0 1c 0 1c 0 1c 0 1c 0 1c 0 1c 0 1c 0 1c 0 1c
    0 1c 0 1c 0 1c 0 1c 0"),
   ("LVT", "ac01 1a 2 1a 2 1a 2 1a 2 1a 2 1a 2 1a 2 1a 2 1a 2 1a 2 1a 2 1a 2 1a 2 1a 2 1a 2 1a 2 1a 2 1a 2 1a 2 1a
    2 1a 2 1a 2 1a 2 1a 2 1a 2 1a 2 1a 2 1a 2 1a 2 1a 2 1a 2 1a 2 1a 2 1a 2 1a 2 1a 2 1a 2 1a 2 1a 2 1a 2 1a 2 1a
    2 1a 2 1a 2 1a 2 1a 2 1a 2 1a 2 1a 2 1a 2 1a 2 1a 2 1a 2 1a 2 1a 2 1a 2 1a 2 1a 2 1a 2 1a 2 1a 2 1a 2 1a 2 1a
    2 1a 2 1a 2 1a 2 1a 2 1a 2 1a 2 1a 2 1a 2 1a 2 1a 2 1a 2 1a 2 1a 2 1a 2 1a 2 1a 2 1a 2 1a 2 1a 2 1a 2 1a 2 1a
    2 1a 2 1a 2 1a 2 1a 2 1a 2 1a 2 1a 2 1a 2 1a 2 1a 2 1a 2 1a 2 1a 2 1a 2 1a 2 1a 2 1a 2 1a 2 1a 2 1a 2 1a 2 1a
    2 1a 2 1a 2 1a 2 1a 2 1a 2 1a 2 1a 2 1a 2 1a 2 1a 2 1a 2 1a 2 1a 2 1a 2 1a 2 1a 2 1a 2 1a 2 1a 2 1a 2 1a 2 1a
    2 1a 2 1a 2 1a 2 1a 2 1a 2 1a 2 1a 2 1a 2 1a 2 1a 2 1a 2 1a 2 1a 2 1a 2 1a 2 1a 2 1a 2 1a 2 1a 2 1a 2 1a 2 1a
    2 1a 2 1a 2 1a 2 1a 2 1a 2 1a 2 1a 2 1a 2 1a 2 1a 2 1a 2 1a 2 1a 2 1a 2 1a 2 1a 2 1a 2 1a 2 1a 2 1a 2 1a 2 1a
    2 1a 2 1a 2 1a 2 1a 2 1a 2 1a 2 1a 2 1a 2 1a 2 1a 2 1a 2 1a 2 1a 2 1a 2 1a 2 1a 2 1a 2 1a 2 1a 2 1a 2 1a 2 1a
    2 1a 2 1a 2 1a 2 1a 2 1a 2 1a 2 1a 2 1a 2 1a 2 1a 2 1a 2 1a 2 1a 2 1a 2 1a 2 1a 2 1a 2 1a 2 1a 2 1a 2 1a 2 1a
    2 1a 2 1a 2 1a 2 1a 2 1a 2 1a 2 1a 2 1a 2 1a 2 1a 2 1a 2 1a 2 1a 2 1a 2 1a 2 1a 2 1a 2 1a 2 1a 2 1a 2 1a 2 1a
    2 1a 2 1a 2 1a 2 1a 2 1a 2 1a 2 1a 2 1a 2 1a 2 1a 2 1a 2 1a 2 1a 2 1a 2 1a 2 1a 2 1a 2 1a 2 1a 2 1a 2 1a 2 1a
    2 1a 2 1a 2 1a 2 1a 2 1a 2 1a 2 1a 2 1a 2 1a 2 1a 2 1a 2 1a 2 1a 2 1a 2 1a 2 1a 2 1a 2 1a 2 1a 2 1a 2 1a 2 1a
    2 1a 2 1a 2 1a 2 1a 2 1a 2 1a 2 1a 2 1a 2 1a 2 1a 2 1a 2 1a 2 1a 2 1a 2 1a 2 1a 2 1a 2 1a 2 1a 2 1a 2 1a 2 1a
    2 1a 2 1a 2 1a 2 1a 2 1a 2 1a 2 1a 2 1a 2 1a 2 1a 2 1a 2 1a 2 1a 2 1a 2 1a 2 1a 2 1a 2 1a 2 1a 2 1a 2 1a 2 1a
    2 1a 2 1a 2 1a 2 1a 2 1a 2 1a 2 1a 2 1a 2 1a 2 1a 2 1a 2 1a 2 1a 2 1a 2 1a 2 1a 2 1a 2 1a 2 1a 2 1a 2 1a 2 1a
    2 1a 2 1a 2 1a 2 1a 2 1a 2 1a 2 1a 2 1a 2 1a 2 1a 2 1a 2 1a 2 1a 2 1a 2 1a 2 1a 2 1a 2 1a 2 1a 2 1a 2 1a 2 1a
    2 1a 2 1a 2 1a 2 1a 2 1a 2 1a 2 1a 2 1a 2 1a 2 1a 2 1a 2 1a 2 1a 2 1a 2 1a 2 1a 2 1a 2 1a 2 1a 2 1a 2 1a 2 1a
    2 1a 2 1a 2 1a 2 1a 2 1a"),
   ("Prepend", "600 5 d8 0 32 0 181 1 51 0 46c 0 1036f 0 10 0 f5 1 20e 0 56e 0 2 0 f9 0 4a 5 2bd 0 1bc 0"),
   ("Regional_Indicator", "1f1e6 19"),
   ("SpacingMark", "903 0 38 0 3 2 9 3 2 1 33 1 3c 1 7 1 3 1 37 0 3b 2 43 0 3b 2 9 0 2 1 36 1 3d 0 7 1 3 1 73 0 2 1
    4 2 2 2 35 2 3e 3 3e 1 3b 0 3 0 2 1 2f 0 f 1 3c 1 6 2 2 2 36 1 4d 1 7 6 14 1 40 0 80 0 8b 1 40 0 b2 0 a 1 1a 1
    2d 0 732 0 8 7 2 1 15b 3 3 2 5 1 2 5 e1 1 3b 0 2 0 16 5 92 0 3a 3 41 0 1f 0 5 1 40 0 3 2 2 0 36 7 9 1 ac 0 16
    0 8b2c 1 3 0 59 1 33 f 8f 0 31 0 31 1 5 1 3 1 70 1 3 1 19 0 9e 0 3 1 6 0 ee 1 2 1 2 1 2 0 6414 0 2 0 80 0 2e 2
    5 1 74 0 19 1 3c 0 31 2 a 0 f 0 5e 2 4 1 ad 2 20 1 3c 0 2 3 3 1 3 1 16 1 56 1 10 0 2 1 68 2 9 1 4 0 6c 1 7 0 2
    1 2 0 3 0 ef 1 7 3 3 0 72 2 9 1 2 0 6e 0 2 1 6f 0 8 0 106 2 a 0 f9 4 2 1 8 0 2 0 8f 2 9 3 5 0 55 0 1e 1 3f 0
    198 0 f 0 6b 0 8 0 3 0 d6 4 5 1 2 0 15f 1 d 0 31 1 9 1 41eb 2 e25 36"),
   ("T", "11a8 57 c5cc 30"),
   ("V", "1160 47 c609 16 959d 0 4 3"),
   ("ZWJ", "200d 0")]

/-- The names of the classes for boundaries between what a reader takes for single characters, in their loose
spelling, and the full names. -/
def graphemeNames : List (String × String) :=
  [("cr", "CR"), ("cn", "Control"), ("control", "Control"), ("ex", "Extend"), ("extend", "Extend"), ("l", "L"),
   ("lf", "LF"), ("lv", "LV"), ("lvt", "LVT"), ("pp", "Prepend"), ("prepend", "Prepend"),
   ("ri", "Regional_Indicator"), ("regionalindicator", "Regional_Indicator"), ("sm", "SpacingMark"),
   ("spacingmark", "SpacingMark"), ("t", "T"), ("v", "V"), ("zwj", "ZWJ")]

/-- The characters of each class for boundaries between words. -/
def wordTable : List (String × String) :=
  [("ALetter", "41 19 7 19 30 0 b 0 3 0 2 0 6 16 2 1e 2 1df 7 21 71 4 2 1 3 3 2 0 7 0 2 2 2 0 2 13 2 52 2 8a 9 a5 2
    25 3 3 2 0 2 28 2 0 69 0 2d 2a 24 1 2 62 2 0 10 1 8 1 b 2 3 0 10 1 2 1d 1e 58 c 0 19 20 a 1 5 0 6 15 5 0 a 0 4
    0 18 18 8 a 6 17 2 5 12 29 3b 35 4 0 13 0 8 9 10 f 5 7 3 1 3 15 2 6 2 0 4 3 4 0 11 0 e 1 2 2 f 1 b 0 9 5 5 1 3
    15 2 6 2 1 2 1 2 1 20 3 2 0 14 2 11 8 2 2 2 15 2 6 2 1 2 4 4 0 13 0 10 1 18 0 c 7 3 1 3 15 2 6 2 1 2 4 4 0 1f
    1 2 2 10 0 12 0 2 5 4 2 2 3 4 1 2 0 2 1 4 1 4 2 4 b 17 0 35 7 2 2 2 16 2 f 4 0 1b 2 3 0 3 1 1f 0 5 7 2 2 2 16
    2 9 2 4 4 0 20 1 2 1 10 1 12 8 2 2 2 28 3 0 11 0 6 2 9 2 19 5 6 11 4 17 2 8 2 0 3 6 13a 0 40 7 2 23 1c 4 114
    25 2 0 6 0 3 2a 2 14c 2 3 3 6 2 0 2 3 3 28 2 3 3 20 2 3 3 6 2 0 2 3 3 e 2 38 2 3 3 42 26 f 11 55 3 5 4 26b 3
    10 2 19 6 4a 4 a 8 11 e 12 f 11 f c 2 2 b0 58 8 4 3 21 2 0 6 45 b 1e e2 16 ef 2e 12 7 37 1d e 1 b 2b 1b 23 2a
    2 b 23 3 a 6 2a 3 2 2a 3 2 5 2 1 4 0 6 bf 41 115 3 5 3 25 3 5 3 7 2 0 2 0 2 0 2 1e 3 34 2 6 2 0 4 2 2 6 4 3 3
    5 5 c 6 2 2 6 75 0 e 0 11 c 66 0 5 0 3 9 2 0 4 4 7 0 2 0 2 0 2 3 2 a 3 3 6 4 5 0 12 28 32e 33 717 e4 7 3 4 1 d
    25 2 0 6 0 3 37 8 0 11 16 a 6 2 6 2 6 2 6 2 6 2 6 2 6 2 6 51 0 1d6 0 36 1 c9 2a 2 5d 12 1f 6e41 48c 44 2d 3
    10c 4 f b 1 15 2e 11 1e 3 4f 19 c5 3 1 2 0 2 7 16 f 2 2 2 3 2 16 1e 33 f 31 3f 5 4 0 2 1 c 1b b 16 1a 1c 8 2e
    1d 0 31 28 18 2 2 7 95 a 8 2 d 5 3 5 3 5 a 6 2 6 2 39 7 72 1e 2ba3 d 16 5 30 2305 6 d 4 39 61 22 16a 13 3f 3
    35 29 b 75 4 2 86 25 19 7 19 46 1e 4 5 3 5 3 5 3 2 24 b 2 19 2 12 2 1 2 e 3 d 23 7a 46 34 10c 1c 4 30 30 1f e
    1d 6 25 b 1d 3 23 5 7 2 4 2b 9d 13 23 5 23 5 27 9 33 d a 2 e 2 6 2 1 2 a 2 e 2 6 2 1 4 33 d 136 a 15 b 7 19 5
    2 29 2 8 46 5 3 0 2 2b 2 1 4 0 3 16 b 16 a 1e 42 12 2 1 b 15 b 19 47 37 7 1 41 0 10 3 2 2 2 1c 2b 1c 4 1c 24 7
    2 1b 1c 35 b 15 b 12 e 11 6f 48 38 32 e 32 e 23 27 1b a 16 fb 29 7 1 11 2 3c 1c b 0 9 15 2b 11 2f 14 1c 16 d
    34 3a 1 3 0 e 2c 21 18 1b 23 1e 0 3 0 9 22 4 0 d 2f f 3 16 0 2 0 24 11 2 18 14 1 40 6 2 0 2 3 2 e 2 9 8 2e 27
    7 3 1 3 15 2 6 2 1 2 4 4 0 13 0 d 4 1f 9 2 0 3 0 2 25 2 0 1a 0 2 0 2d 34 13 3 15 2 1f 2f 15 1 2 0 b9 2e 2a 3
    25 2f 15 0 3c 2a e 0 148 2b 75 3f 20 7 3 0 3 7 2 1 2 17 10 0 2 0 5f 7 3 26 11 0 2 0 1d 0 b 27 8 0 16 0 c 2d 14
    0 13 48 c8 20 20 8 2 24 12 0 32 1d 71 6 2 1 2 25 16 0 1a 5 2 1 2 1f f 0 148 12 10 0 2 c 2 21 7d 0 50 399 67 6e
    12 c3 a4d 60 10 42f 12 5 1a f9a 6 246 1aba 1d 6e3 238 8 1e 12 4e 12 1d 13 2f 11 3 20 14 6 12 1b1 2c d4 3f 81
    4a 6 0 43 c 41 1 2 0 4c1d 6a 6 c 4 8 8 9 1767 54 2 46 2 1 3 0 3 1 3 3 2 b 2 0 2 6 2 40 2 3 3 7 2 6 2 1b 2 3 2
    4 2 0 4 6 2 153 3 18 2 18 2 1e 2 18 2 1e 2 18 2 1e 2 18 2 1e 2 18 2 7 735 1e 7 5 106 3d 93 2c b 6 11 0 142 1d
    13 2b 1e5 1b e5 1d 3 0 1f0 6 2 3 2 1 2 e 2 c4 3c 43 8 0 4b5 3 2 1a 2 1 2 0 3 0 2 9 2 3 2 0 2 0 7 0 5 0 2 0 2 0
    2 2 2 1 2 0 3 0 2 0 2 0 2 0 2 0 2 1 2 0 3 3 2 6 2 3 2 3 2 0 2 9 2 10 6 2 2 4 2 10 275 19 7 19 7 19"),
   ("CR", "d 0"),
   ("Double_Quote", "22 0"),
   ("Extend", "300 6f 114 6 108 2c 2 0 2 1 2 1 2 0 49 a 31 14 11 0 66 6 3 5 3 1 2 3 24 0 1f 1a 5c a 3b 8 a 0 19 3 2
    8 2 2 2 4 2c 2 3c 8 2b 17 2 20 37 2 2 11 2 6 b 1 1e 2 39 0 2 6 3 1 3 2 a 0 b 1 1b 0 3 2 39 0 2 4 5 1 3 2 4 0
    1f 1 4 0 c 2 39 0 2 7 2 2 2 2 15 1 17 5 2 2 39 0 2 6 3 1 3 2 8 2 b 1 1f 0 3c 4 4 2 2 3 a 0 29 4 38 0 2 6 2 2 2
    3 8 1 c 1 1e 2 39 0 2 6 2 2 2 3 8 1 c 1 10 0 d 3 38 1 2 6 2 2 2 3 a 0 b 1 1e 2 47 0 5 5 2 0 2 7 13 1 3e 0 3 6
    d 7 63 0 3 8 c 6 4a 1 1c 0 2 0 2 0 5 1 32 13 2 1 6 a 2 23 a 0 65 13 18 3 5 2 2 2 3 6 4 3 e b 2 0 b 3 2c0 2 3b3
    3 1d 2 1e 1 1f 1 41 1f a 0 2e 2 2 0 76 1 23 0 77 b 5 b dc 4 3a 9 2 1c 3 0 31 1e 32 4 30 10 27 8 d 2 1f c 39 d
    31 13 99 2 2 14 5 0 7 0 3 2 c7 3f 20d 0 c4 20 bff 2 8e 0 61 1f 22b 5 6a 1 75d5 3 2 9 21 1 51 1 111 0 4 0 5 0
    18 4 5 0 54 1 33 11 1b 11 e 0 27 7 1a c 2d 3 30 d 25 0 44 d d 0 9 1 2e 2 33 0 2 2 3 1 6 1 2 0 2a 4 6 1 ed 7 2
    1 4f31 0 2e2 f 11 f 16f 1 25e 0 e3 0 96 4 687 2 2 1 6 3 29 2 5 0 a6 1 23e 3 42 4 13e 1 50 3 47 a 32 3 7b 2 36
    e 2a 0 3 1 b 3 2e a 8 0 3e 2 25 d 11 1 2d 0 d 2 31 d 9 3 2 1 5d b 7 0 3 0 9e b 16 3 38 1 2 6 3 1 3 2 a 0 b 1 3
    6 4 4 44 8 2 0 3 0 2 3 2 4 2 0 f 1 53 11 18 0 52 13 ec 6 3 8 1c 1 53 10 6b c 66 e 101 e f6 5 2 1 3 3 2 0 2 1
    8e 6 3 6 4 0 1d 9 29 6 2 3 9 0 a a 2f f 196 7 2 7 53 15 2 d 7b 5 4 0 2 1 2 6 2 0 43 4 2 1 2 4 15c 3 a 1 2 0 31
    6 4 4 18 0 14e6 0 7 e 2cc9 11 9c1 4 3c 6 419 0 2 36 8 3 52 0 c 1 4cac 1 1262 2d 3 16 21f 4 4 5 9 7 3 6 1f 3 95
    2 7bc 36 5 31 9 0 f 0 17 4 2 e 551 6 2 10 3 6 2 1 2 4 65 0 a1 6 178 0 3e 3 1fd 3 ff 1 2e1 6 6e 6 ab1 4 c0c21
    5f 81 ef"),
   ("ExtendNumLet", "5f 0 1fd0 0 10 1 14 0 dddf 1 19 2 f0 0"),
   ("Format", "ad 0 56f 0 11f2 0 800 1 1b 4 32 4 2 9 de90 0 fa 2 3435 f 8861 3 14d0 7 c2e87 0"),
   ("Hebrew_Letter", "5d0 1a 5 3 f52b 0 2 9 2 c 2 4 2 0 2 1 2 1 2 9"),
   ("Katakana", "3031 4 66 1 4 5a 2 3 f1 f d1 2e 2 57 cc0f 37 b053 3 2 6 2 1 2 0 120 2 33 0 f 3"),
   ("LF", "a 0"),
   ("MidLetter", "3a 0 7d 0 2d0 0 1d8 0 95 0 1a33 0 ddec 0 42 0 c5 0"),
   ("MidNum", "2c 0 f 0 343 0 20b 0 83 1 5f 0 18c 0 184c 0 de0c 0 4 0 b8 0 f 0"),
   ("MidNumLet", "2e 0 1fea 1 b 0 de2e 0 b5 0 7 0"),
   ("Newline", "b 1 79 0 1fa3 1"),
   ("Numeric", "30 9 5c7 5 5b 9 2 0 72 0 13 9 c7 9 c7 1 51 0 84 9 77 9 77 9 77 9 77 9 77 9 77 9 77 9 77 9 77 9 61 9
    77 9 47 9 117 9 47 9 747 9 27 9 12d 9 81 a a6 9 7 9 b7 9 57 9 87 9 7 9 89c7 9 2a7 9 27 9 c7 9 17 9 57 9 197 9
    5317 9 587 9 887 9 7 9 31d 9 4e 0 10 0 23 9 3d 9 91 9 117 9 157 9 77 9 177 9 67 9 7 13 4d 9 1a7 9 67 9 297 9
    57 9 f7 9 47 9 1a7 9 41d7 9 927 9 57 9 87 9 217 9 5f77 9 ad5 31 941 9 1a7 9 1f7 9 f8 9 356 9 1297 9"),
   ("Regional_Indicator", "1f1e6 19"),
   ("Single_Quote", "27 0"),
   ("WSegSpace", "20 0 1660 0 980 6 2 2 55 0 fa1 0"),
   ("ZWJ", "200d 0")]

/-- The names of the classes for boundaries between words, in their loose spelling, and the full names. -/
def wordNames : List (String × String) :=
  [("le", "ALetter"), ("aletter", "ALetter"), ("cr", "CR"), ("dq", "Double_Quote"),
   ("doublequote", "Double_Quote"), ("extend", "Extend"), ("ex", "ExtendNumLet"), ("extendnumlet", "ExtendNumLet"),
   ("fo", "Format"), ("format", "Format"), ("hl", "Hebrew_Letter"), ("hebrewletter", "Hebrew_Letter"),
   ("ka", "Katakana"), ("katakana", "Katakana"), ("lf", "LF"), ("ml", "MidLetter"), ("midletter", "MidLetter"),
   ("mn", "MidNum"), ("midnum", "MidNum"), ("mb", "MidNumLet"), ("midnumlet", "MidNumLet"), ("nl", "Newline"),
   ("newline", "Newline"), ("nu", "Numeric"), ("numeric", "Numeric"), ("ri", "Regional_Indicator"),
   ("regionalindicator", "Regional_Indicator"), ("sq", "Single_Quote"), ("singlequote", "Single_Quote"),
   ("wsegspace", "WSegSpace"), ("zwj", "ZWJ")]

/-- The characters of each class for boundaries between sentences. -/
def sentenceTable : List (String × String) :=
  [("ATerm", "2e 0 1ff6 0 de2e 0 bc 0"),
   ("CR", "d 0"),
   ("Close", "22 0 5 2 32 0 2 0 1e 0 2 0 2e 0 10 0 e7f 3 75e 1 97c 7 1a 1 b 1 37 1 f 1 27a 3 1e 1 431 5 8 d 50 1 20
    9 194 15 40 3 21 1 403 d f 1 3 9 19 0 13 7 1ac 9 3 7 2 2 cd1f 1 d8 1 1d f 3 1 11 5 aa 1 32 0 2 0 1e 0 2 0 2 1
    2 1 f713 2"),
   ("Extend", "300 6f 114 6 108 2c 2 0 2 1 2 1 2 0 49 a 31 14 11 0 66 6 3 5 3 1 2 3 24 0 1f 1a 5c a 3b 8 a 0 19 3 2
    8 2 2 2 4 2c 2 3c 8 2b 17 2 20 37 2 2 11 2 6 b 1 1e 2 39 0 2 6 3 1 3 2 a 0 b 1 1b 0 3 2 39 0 2 4 5 1 3 2 4 0
    1f 1 4 0 c 2 39 0 2 7 2 2 2 2 15 1 17 5 2 2 39 0 2 6 3 1 3 2 8 2 b 1 1f 0 3c 4 4 2 2 3 a 0 29 4 38 0 2 6 2 2 2
    3 8 1 c 1 1e 2 39 0 2 6 2 2 2 3 8 1 c 1 10 0 d 3 38 1 2 6 2 2 2 3 a 0 b 1 1e 2 47 0 5 5 2 0 2 7 13 1 3e 0 3 6
    d 7 63 0 3 8 c 6 4a 1 1c 0 2 0 2 0 5 1 32 13 2 1 6 a 2 23 a 0 65 13 18 3 5 2 2 2 3 6 4 3 e b 2 0 b 3 2c0 2 3b3
    3 1d 2 1e 1 1f 1 41 1f a 0 2e 2 2 0 76 1 23 0 77 b 5 b dc 4 3a 9 2 1c 3 0 31 1e 32 4 30 10 27 8 d 2 1f c 39 d
    31 13 99 2 2 14 5 0 7 0 3 2 c7 3f 20d 1 c3 20 bff 2 8e 0 61 1f 22b 5 6a 1 75d5 3 2 9 21 1 51 1 111 0 4 0 5 0
    18 4 5 0 54 1 33 11 1b 11 e 0 27 7 1a c 2d 3 30 d 25 0 44 d d 0 9 1 2e 2 33 0 2 2 3 1 6 1 2 0 2a 4 6 1 ed 7 2
    1 4f31 0 2e2 f 11 f 16f 1 25e 0 e3 0 96 4 687 2 2 1 6 3 29 2 5 0 a6 1 23e 3 42 4 13e 1 50 3 47 a 32 3 7b 2 36
    e 2a 0 3 1 b 3 2e a 8 0 3e 2 25 d 11 1 2d 0 d 2 31 d 9 3 2 1 5d b 7 0 3 0 9e b 16 3 38 1 2 6 3 1 3 2 a 0 b 1 3
    6 4 4 44 8 2 0 3 0 2 3 2 4 2 0 f 1 53 11 18 0 52 13 ec 6 3 8 1c 1 53 10 6b c 66 e 101 e f6 5 2 1 3 3 2 0 2 1
    8e 6 3 6 4 0 1d 9 29 6 2 3 9 0 a a 2f f 196 7 2 7 53 15 2 d 7b 5 4 0 2 1 2 6 2 0 43 4 2 1 2 4 15c 3 a 1 2 0 31
    6 4 4 18 0 14e6 0 7 e 2cc9 11 9c1 4 3c 6 419 0 2 36 8 3 52 0 c 1 4cac 1 1262 2d 3 16 21f 4 4 5 9 7 3 6 1f 3 95
    2 7bc 36 5 31 9 0 f 0 17 4 2 e 551 6 2 10 3 6 2 1 2 4 65 0 a1 6 178 0 3e 3 1fd 3 ff 1 2e1 6 6e 6 c16d6 5f 81
    ef"),
   ("Format", "ad 0 56f 0 f3 0 10ff 0 7fd 0 3 1 1b 4 32 4 2 9 de90 0 fa 2 3435 f 8861 3 14d0 7 c2e87 0"),
   ("LF", "a 0"),
   ("Lower", "61 19 30 0 b 0 5 0 25 17 2 7 2 0 2 0 2 0 2 0 2 0 2 0 2 0 2 0 2 0 2 0 2 0 2 0 2 0 2 0 2 0 2 0 2 0 2 0
    2 0 2 0 2 0 2 0 2 0 2 0 2 0 2 0 2 0 2 1 2 0 2 0 2 0 2 0 2 0 2 0 2 0 2 1 2 0 2 0 2 0 2 0 2 0 2 0 2 0 2 0 2 0 2
    0 2 0 2 0 2 0 2 0 2 0 2 0 2 0 2 0 2 0 2 0 2 0 2 0 2 0 3 0 2 0 2 2 3 0 2 0 3 0 4 1 5 0 3 0 4 2 3 0 3 0 2 0 2 0
    3 0 2 1 2 0 3 0 4 0 2 0 3 1 3 2 7 0 3 0 3 0 2 0 2 0 2 0 2 0 2 0 2 0 2 0 2 1 2 0 2 0 2 0 2 0 2 0 2 0 2 0 2 0 2
    1 3 0 2 0 4 0 2 0 2 0 2 0 2 0 2 0 2 0 2 0 2 0 2 0 2 0 2 0 2 0 2 0 2 0 2 0 2 0 2 0 2 0 2 0 2 0 2 0 2 0 2 0 2 0
    2 0 2 0 2 0 2 0 2 6 3 0 3 1 2 0 5 0 2 0 2 0 2 0 2 44 2 23 8 1 1f 4 8d 0 2 0 4 0 3 3 13 0 1c 22 2 1 4 2 2 0 2 0
    2 0 2 0 2 0 2 0 2 0 2 0 2 0 2 0 2 0 2 4 2 0 3 0 3 1 34 2f 2 0 2 0 2 0 2 0 2 0 2 0 2 0 2 0 2 0 2 0 2 0 2 0 2 0
    2 0 2 0 2 0 2 0 a 0 2 0 2 0 2 0 2 0 2 0 2 0 2 0 2 0 2 0 2 0 2 0 2 0 2 0 2 0 2 0 2 0 2 0 2 0 2 0 2 0 2 0 2 0 2
    0 2 0 2 0 2 0 3 0 2 0 2 0 2 0 2 0 2 0 2 1 2 0 2 0 2 0 2 0 2 0 2 0 2 0 2 0 2 0 2 0 2 0 2 0 2 0 2 0 2 0 2 0 2 0
    2 0 2 0 2 0 2 0 2 0 2 0 2 0 2 0 2 0 2 0 2 0 2 0 2 0 2 0 2 0 2 0 2 0 2 0 2 0 2 0 2 0 2 0 2 0 2 0 2 0 2 0 2 0 2
    0 2 0 2 0 2 0 31 28 b74 0 2fc 5 883 8 2 0 76 bf 42 0 2 0 2 0 2 0 2 0 2 0 2 0 2 0 2 0 2 0 2 0 2 0 2 0 2 0 2 0 2
    0 2 0 2 0 2 0 2 0 2 0 2 0 2 0 2 0 2 0 2 0 2 0 2 0 2 0 2 0 2 0 2 0 2 0 2 0 2 0 2 0 2 0 2 0 2 0 2 0 2 0 2 0 2 0
    2 0 2 0 2 0 2 0 2 0 2 0 2 0 2 0 2 0 2 0 2 0 2 0 2 0 2 0 2 0 2 0 2 0 2 0 2 0 2 0 2 0 2 0 2 0 2 0 2 0 2 0 2 0 2
    0 2 0 2 0 2 0 2 8 2 0 2 0 2 0 2 0 2 0 2 0 2 0 2 0 2 0 2 0 2 0 2 0 2 0 2 0 2 0 2 0 2 0 2 0 2 0 2 0 2 0 2 0 2 0
    2 0 2 0 2 0 2 0 2 0 2 0 2 0 2 0 2 0 2 0 2 0 2 0 2 0 2 0 2 0 2 0 2 0 2 0 2 0 2 0 2 0 2 0 2 0 2 0 2 0 2 8 9 5 b
    7 9 7 9 5 b 7 9 7 9 d 3 7 9 7 9 7 9 4 2 1 7 0 4 2 2 1 9 3 3 1 9 7 b 2 2 1 7a 0 e 0 11 c 6e 0 4 1 4 0 1c 0 5 0
    5 0 3 1 9 3 5 0 22 f 5 0 34c 19 747 2f 2 0 4 1 2 0 2 0 2 0 5 0 2 1 2 7 4 0 2 0 2 0 2 0 2 0 2 0 2 0 2 0 2 0 2 0
    2 0 2 0 2 0 2 0 2 0 2 0 2 0 2 0 2 0 2 0 2 0 2 0 2 0 2 0 2 0 2 0 2 0 2 0 2 0 2 0 2 0 2 0 2 0 2 0 2 0 2 0 2 0 2
    0 2 0 2 0 2 0 2 0 2 0 2 0 2 0 2 0 2 0 2 0 2 0 2 1 8 0 2 0 5 0 d 25 2 0 6 0 7914 0 2 0 2 0 2 0 2 0 2 0 2 0 2 0
    2 0 2 0 2 0 2 0 2 0 2 0 2 0 2 0 2 0 2 0 2 0 2 0 2 0 2 0 2 0 14 0 2 0 2 0 2 0 2 0 2 0 2 0 2 0 2 0 2 0 2 0 2 0 2
    0 2 2 86 0 2 0 2 0 2 0 2 0 2 0 2 2 2 0 2 0 2 0 2 0 2 0 2 0 2 0 2 0 2 0 2 0 2 0 2 0 2 0 2 0 2 0 2 0 2 0 2 0 2 0
    2 0 2 0 2 0 2 0 2 0 2 0 2 0 2 0 2 0 2 0 2 0 2 9 2 0 2 0 3 0 2 0 2 0 2 0 2 0 5 0 2 0 3 0 2 2 2 0 2 0 2 0 2 0 2
    0 2 0 2 0 2 0 2 0 2 0 6 0 6 0 2 0 2 0 2 0 2 0 2 0 2 0 2 0 5 0 2 0 3 0 4 0 2 0 2 0 2 0 2 0 2 0 17 2 2 0 2 2 336
    2a 2 d 7 4f 4f41 6 d 4 42a 19 4ce 27 89 23 9c a 2 e 2 6 2 1 1c4 0 3 2 2 29 2 8 506 32 7e 15 b3b 1f 5581 1f
    659b 19 1b 6 2 11 1b 19 1b 3 2 0 2 6 2 a 1b 19 1b 19 1b 19 1b 19 1b 19 1b 19 1b 19 1b 19 1b 1b 1d 18 2 5 1b 18
    2 5 1b 18 2 5 1b 18 2 5 1b 18 2 5 2 0 735 9 2 13 7 5 106 3d 8b5 21"),
   ("Numeric", "30 9 5c7 5 5b 9 2 1 71 0 13 9 c7 9 c7 1 51 0 84 9 77 9 77 9 77 9 77 9 77 9 77 9 77 9 77 9 77 9 61 9
    77 9 47 9 117 9 47 9 747 9 27 9 12d 9 81 a a6 9 7 9 b7 9 57 9 87 9 7 9 89c7 9 2a7 9 27 9 c7 9 17 9 57 9 197 9
    5317 9 587 9 887 9 7 9 31d 9 4e 0 10 0 23 9 3d 9 91 9 117 9 157 9 77 9 177 9 67 9 7 13 4d 9 1a7 9 67 9 297 9
    57 9 f7 9 47 9 1a7 9 41d7 9 927 9 57 9 87 9 217 9 5f77 9 ad5 31 941 9 1a7 9 1f7 9 f8 9 356 9 1297 9"),
   ("OLetter", "1bb 0 5 3 d1 0 25 6 7 b 1b 0 2 0 86 0 1e5 0 77 1a 5 4 2d 2a 24 1 2 62 2 0 10 1 8 1 b 2 3 0 11 0 2
    1d 1e 58 c 0 19 20 a 1 5 0 6 15 5 0 a 0 4 0 18 18 8 a 6 17 2 5 12 29 3b 35 4 0 13 0 8 9 10 f 5 7 3 1 3 15 2 6
    2 0 4 3 4 0 11 0 e 1 2 2 f 1 b 0 9 5 5 1 3 15 2 6 2 1 2 1 2 1 20 3 2 0 14 2 11 8 2 2 2 15 2 6 2 1 2 4 4 0 13 0
    10 1 18 0 c 7 3 1 3 15 2 6 2 1 2 4 4 0 1f 1 2 2 10 0 12 0 2 5 4 2 2 3 4 1 2 0 2 1 4 1 4 2 4 b 17 0 35 7 2 2 2
    16 2 f 4 0 1b 2 3 0 3 1 1f 0 5 7 2 2 2 16 2 9 2 4 4 0 20 1 2 1 10 1 12 8 2 2 2 28 3 0 11 0 6 2 9 2 19 5 6 11 4
    17 2 8 2 0 3 6 3b 2f 2 1 d 6 3b 1 2 0 2 4 2 17 2 0 2 9 2 1 a 0 3 4 2 0 16 3 21 0 40 7 2 23 1c 4 74 2a 15 0 11
    5 5 3 4 0 4 1 8 2 5 c d 0 42 2a 3 14b 2 3 3 6 2 0 2 3 3 28 2 3 3 20 2 3 3 6 2 0 2 3 3 e 2 38 2 3 3 42 26 f 72
    26b 3 10 2 19 6 4a 4 a 8 11 e 12 f 11 f c 2 2 10 33 24 0 5 0 44 58 8 4 3 21 2 0 6 45 b 1e 32 1d 3 4 c 2b 5 19
    37 16 a 34 53 0 5e 2e 12 7 37 1d e 1 b 2b 1b 23 2a 2 b 23 13 2a 3 2 2a 3 2 5 2 1 4 0 43b 3 48 2 3 3 ba8 37 8 0
    11 16 a 6 2 6 2 6 2 6 2 6 2 6 2 6 2 6 51 0 1d6 2 1a 8 8 4 3 4 5 55 7 2 2 59 2 3 6 2a 2 5d 12 1f 31 f 201 19bf
    41 568c 44 2d 3 10c 4 f b 1 43 0 11 0 21 4f 28 8 69 0 7 0 68 0 4 6 2 2 2 3 2 16 1e 33 f 31 3f 5 4 0 2 1 c 1b b
    16 1a 1c 8 2e 1d 0 11 4 2 9 b 4 2 28 18 2 2 7 15 16 4 0 4 31 2 0 4 1 3 4 3 0 2 0 19 2 3 a 8 2 d 5 3 5 3 5 a 6
    2 6 92 22 1e 2ba3 d 16 5 30 2105 16d 3 69 44 0 2 9 2 c 2 4 2 0 2 1 2 1 2 6b 22 16a 13 3f 3 35 29 b 75 4 2 86
    6a 37 3 1e 4 5 3 5 3 5 3 2 24 b 2 19 2 12 2 1 2 e 3 d 23 7a 46 34 10c 1c 4 30 30 1f e 1d 6 25 b 1d 3 23 5 7 2
    4 7b 4d 63 27 9 33 5d 33 d 136 a 15 b 7 1a 1 7e 5 3 0 2 2b 2 1 4 0 3 16 b 16 a 1e 42 12 2 1 b 15 b 19 47 37 7
    1 41 0 10 3 2 2 2 1c 2b 1c 4 1c 24 7 2 1b 1c 35 b 15 b 12 e 11 6f 48 b8 23 27 5 20 0 111 29 7 1 11 2 3c 1c b 0
    9 15 2b 11 2f 14 1c 16 d 34 3a 1 3 0 e 2c 21 18 1b 23 1e 0 3 0 9 22 4 0 d 2f f 3 16 0 2 0 24 11 2 18 14 1 40 6
    2 0 2 3 2 e 2 9 8 2e 27 7 3 1 3 15 2 6 2 1 2 4 4 0 13 0 d 4 1f 9 2 0 3 0 2 25 2 0 1a 0 2 0 2d 34 13 3 15 2 1f
    2f 15 1 2 0 b9 2e 2a 3 25 2f 15 0 3c 2a e 0 48 1a 26 6 ba 2b d4 7 3 0 3 7 2 1 2 17 10 0 2 0 5f 7 3 26 11 0 2 0
    1d 0 b 27 8 0 16 0 c 2d 14 0 13 48 c8 20 20 8 2 24 12 0 32 1d 71 6 2 1 2 25 16 0 1a 5 2 1 2 1f f 0 148 12 10 0
    2 c 2 21 7d 0 50 399 67 6e 12 c3 a4d 60 10 42f 12 5 1a f9a 6 246 1aba 1d 6e3 238 8 1e 12 4e 12 1d 13 2f 11 3
    20 14 6 12 1b1 2c 194 4a 6 0 43 c 41 1 2 0 1d 17f7 9 4d5 2a 9 22e8 3 2 6 2 1 2 122 10 0 1e 2 3 0 f 3 9 18b 905
    6a 6 c 4 8 8 9 2271 0 1f6 2c b 6 11 0 142 1d 13 2b 1e5 1b e5 1d 3 0 1f0 6 2 3 2 1 2 e 2 c4 87 0 4b5 3 2 1a 2 1
    2 0 3 0 2 9 2 3 2 0 2 0 7 0 5 0 2 0 2 0 2 2 2 1 2 0 3 0 2 0 2 0 2 0 2 0 2 1 2 0 3 3 2 6 2 3 2 3 2 0 2 9 2 10 6
    2 2 4 2 10 1145 a6df 21 1039 7 dd 3 1681 f 1d30 10 26d 9a3 21d 5e3 134a 6 105f"),
   ("SContinue", "2c 1 d 1 343 0 1df 0 af 1 1eb 0 100a 0 6 0 80b 1 fed 0 ce0f 1 2 1 1d 1 1e 1 3 1 3 0 b 0 a9 1 d 1
    49 0"),
   ("STerm", "21 0 1e 0 54a 0 94 2 b5 0 2c 2 f7 0 3e 0 2 0 4 1 126 1 6e5 1 317 0 5 1 306 0 c7 1 9e 1 2e 0 6 0 13b 1
    163 3 a3 1 b 1 3 1 1e 2 bc 1 42 1 3bd 1 a 2 cb0 2 133 0 e 0 17 1 1ae 0 74fd 0 10f 1 e4 0 4 0 17f 1 57 1 60 0
    99 1 94 2 91 1 fa 0 5227 0 3 1 40 1 aa 0 1e 0 42 0 af5 1 4fe 4 2d 3 be 1 76 3 80 2 82 1 7 0 11 1 59 1 2 1 6d 0
    12b 1 76 1 176 1 6 e 6a 1 fa 2 206 0 2 0 fc 1 58 1 1a5 1 2b5 1 4b 1 4b2a 1 86 0 42 1 c 0 22a 1 129 0 4e07 0
    1de9 0"),
   ("Sep", "85 0 1fa3 1"),
   ("Sp", "9 0 2 1 14 0 80 0 15e0 0 980 a 25 0 30 0 fa1 0"),
   ("Upper", "41 19 66 16 2 6 22 0 2 0 2 0 2 0 2 0 2 0 2 0 2 0 2 0 2 0 2 0 2 0 2 0 2 0 2 0 2 0 2 0 2 0 2 0 2 0 2 0
    2 0 2 0 2 0 2 0 2 0 2 0 2 0 3 0 2 0 2 0 2 0 2 0 2 0 2 0 2 0 3 0 2 0 2 0 2 0 2 0 2 0 2 0 2 0 2 0 2 0 2 0 2 0 2
    0 2 0 2 0 2 0 2 0 2 0 2 0 2 0 2 0 2 0 2 0 2 1 2 0 2 0 4 1 2 0 2 1 2 2 3 3 2 1 2 2 4 1 2 1 2 0 2 0 2 1 2 0 3 0
    2 1 2 2 2 0 2 1 4 0 8 1 2 1 2 1 2 0 2 0 2 0 2 0 2 0 2 0 2 0 2 0 3 0 2 0 2 0 2 0 2 0 2 0 2 0 2 0 2 0 3 1 2 0 2
    2 2 0 2 0 2 0 2 0 2 0 2 0 2 0 2 0 2 0 2 0 2 0 2 0 2 0 2 0 2 0 2 0 2 0 2 0 2 0 2 0 2 0 2 0 2 0 2 0 2 0 2 0 2 0
    2 0 2 0 8 1 2 1 3 0 2 3 2 0 2 0 2 0 2 0 122 0 2 0 4 0 9 0 7 0 2 2 2 0 2 1 2 10 2 8 24 0 3 2 4 0 2 0 2 0 2 0 2
    0 2 0 2 0 2 0 2 0 2 0 2 0 2 0 6 0 3 0 2 1 3 32 31 0 2 0 2 0 2 0 2 0 2 0 2 0 2 0 2 0 2 0 2 0 2 0 2 0 2 0 2 0 2
    0 2 0 a 0 2 0 2 0 2 0 2 0 2 0 2 0 2 0 2 0 2 0 2 0 2 0 2 0 2 0 2 0 2 0 2 0 2 0 2 0 2 0 2 0 2 0 2 0 2 0 2 0 2 0
    2 0 2 1 2 0 2 0 2 0 2 0 2 0 2 0 3 0 2 0 2 0 2 0 2 0 2 0 2 0 2 0 2 0 2 0 2 0 2 0 2 0 2 0 2 0 2 0 2 0 2 0 2 0 2
    0 2 0 2 0 2 0 2 0 2 0 2 0 2 0 2 0 2 0 2 0 2 0 2 0 2 0 2 0 2 0 2 0 2 0 2 0 2 0 2 0 2 0 2 0 2 0 2 0 2 0 2 0 2 0
    2 0 3 25 b4a 25 2 0 6 0 2d3 55 894 0 177 0 2 0 2 0 2 0 2 0 2 0 2 0 2 0 2 0 2 0 2 0 2 0 2 0 2 0 2 0 2 0 2 0 2 0
    2 0 2 0 2 0 2 0 2 0 2 0 2 0 2 0 2 0 2 0 2 0 2 0 2 0 2 0 2 0 2 0 2 0 2 0 2 0 2 0 2 0 2 0 2 0 2 0 2 0 2 0 2 0 2
    0 2 0 2 0 2 0 2 0 2 0 2 0 2 0 2 0 2 0 2 0 2 0 2 0 2 0 2 0 2 0 2 0 2 0 2 0 2 0 2 0 2 0 2 0 2 0 2 0 2 0 2 0 2 0
    2 0 2 0 a 0 2 0 2 0 2 0 2 0 2 0 2 0 2 0 2 0 2 0 2 0 2 0 2 0 2 0 2 0 2 0 2 0 2 0 2 0 2 0 2 0 2 0 2 0 2 0 2 0 2
    0 2 0 2 0 2 0 2 0 2 0 2 0 2 0 2 0 2 0 2 0 2 0 2 0 2 0 2 0 2 0 2 0 2 0 2 0 2 0 2 0 2 0 2 0 2 0 a 7 9 5 b 7 9 7
    9 5 c 0 2 0 2 0 2 0 9 7 19 7 9 7 9 7 9 4 c 4 c 3 d 4 c 4 106 0 5 0 4 2 3 2 3 0 4 4 7 0 2 0 2 0 2 3 3 3 b 1 6 0
    1b f 14 0 333 19 731 2f 31 0 2 2 3 0 2 0 2 0 2 3 2 0 3 0 9 2 2 0 2 0 2 0 2 0 2 0 2 0 2 0 2 0 2 0 2 0 2 0 2 0 2
    0 2 0 2 0 2 0 2 0 2 0 2 0 2 0 2 0 2 0 2 0 2 0 2 0 2 0 2 0 2 0 2 0 2 0 2 0 2 0 2 0 2 0 2 0 2 0 2 0 2 0 2 0 2 0
    2 0 2 0 2 0 2 0 2 0 2 0 2 0 2 0 2 0 9 0 2 0 5 0 794e 0 2 0 2 0 2 0 2 0 2 0 2 0 2 0 2 0 2 0 2 0 2 0 2 0 2 0 2 0
    2 0 2 0 2 0 2 0 2 0 2 0 2 0 2 0 14 0 2 0 2 0 2 0 2 0 2 0 2 0 2 0 2 0 2 0 2 0 2 0 2 0 2 0 88 0 2 0 2 0 2 0 2 0
    2 0 2 0 4 0 2 0 2 0 2 0 2 0 2 0 2 0 2 0 2 0 2 0 2 0 2 0 2 0 2 0 2 0 2 0 2 0 2 0 2 0 2 0 2 0 2 0 2 0 2 0 2 0 2
    0 2 0 2 0 2 0 2 0 2 0 b 0 2 0 2 1 2 0 2 0 2 0 2 0 5 0 2 0 3 0 2 0 4 0 2 0 2 0 2 0 2 0 2 0 2 0 2 0 2 0 2 0 2 4
    2 4 2 0 2 0 2 0 2 0 2 0 2 0 2 0 2 3 2 0 2 1 4 0 6 0 2 0 2 0 2 0 19 0 572c 19 4c6 27 89 23 9d a 2 e 2 6 2 1 6eb
    32 9e 15 b3b 1f 5581 1f 65a1 19 1b 19 1b 19 1b 0 2 1 3 0 3 1 3 3 2 7 1b 19 1b 1 2 3 3 7 2 6 1c 1 2 3 2 4 2 0 4
    6 1c 19 1b 19 1b 19 1b 19 1b 19 1b 19 1f 18 22 18 22 18 22 18 22 18 22 0 1136 21 80f 19 7 19 7 19")]

/-- The names of the classes for boundaries between sentences, in their loose spelling, and the full names. -/
def sentenceNames : List (String × String) :=
  [("at", "ATerm"), ("aterm", "ATerm"), ("cr", "CR"), ("cl", "Close"), ("close", "Close"), ("ex", "Extend"),
   ("extend", "Extend"), ("fo", "Format"), ("format", "Format"), ("lf", "LF"), ("lo", "Lower"), ("lower", "Lower"),
   ("nu", "Numeric"), ("numeric", "Numeric"), ("le", "OLetter"), ("oletter", "OLetter"), ("sc", "SContinue"),
   ("scontinue", "SContinue"), ("st", "STerm"), ("sterm", "STerm"), ("se", "Sep"), ("sep", "Sep"), ("sp", "Sp"),
   ("up", "Upper"), ("upper", "Upper")]

end GatewayRegistrar.Unicode
