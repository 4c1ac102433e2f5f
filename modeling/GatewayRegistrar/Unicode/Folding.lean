import GatewayRegistrar.Unicode.Table

/-!
# Simple case folding

Characters that fold to one character are spellings of each other. Most of them come in pairs, and the pairs in runs:
the first member, its distance to the second, the step to the next pair and the number of pairs.
-/

namespace GatewayRegistrar.Unicode

/-- Runs of pairs of characters that fold alike. -/
def foldingRuns : String :=
  "41 20 1 a 4c 20 1 7 54 20 1 7 c0 20 1 5 c6 20 1 11 d8 20 1 7 df 1dbf 1 1 ff 79 1 1 100 1 2 18 132 1 2 3 139 1
    2 8 14a 1 2 17 179 1 2 3 180 c3 1 1 181 d2 1 1 182 1 2 2 186 ce 1 1 187 1 1 1 189 cd 1 2 18b 1 1 1 18e 4f 1 1
    18f ca 1 1 190 cb 1 1 191 1 1 1 193 cd 1 1 194 cf 1 1 195 61 1 1 196 d3 1 1 197 d1 1 1 198 1 1 1 19a a3 1 1
    19b a641 1 1 19c d3 1 1 19d d5 1 1 19e 82 1 1 19f d6 1 1 1a0 1 2 3 1a6 da 1 1 1a7 1 1 1 1a9 da 1 1 1ac 1 1 1
    1ae da 1 1 1af 1 1 1 1b1 d9 1 2 1b3 1 2 2 1b7 db 1 1 1b8 1 1 1 1bc 1 1 1 1bf 38 1 1 1cd 1 2 8 1de 1 2 9 1f4 1
    1 1 1f8 1 2 14 222 1 2 9 23a 2a2b 1 1 23b 1 1 1 23e 2a28 1 1 23f 2a3f 1 2 241 1 1 1 244 45 1 1 245 47 1 1 246
    1 2 5 250 2a1f 1 1 251 2a1c 1 1 252 2a1e 1 1 25c a54f 1 1 261 a54b 1 1 264 a567 1 1 265 a528 1 1 266 a544 1 1
    26a a544 1 1 26b 29f7 1 1 26c a541 1 1 271 29fd 1 1 27d 29e7 1 1 282 a543 1 1 287 a52a 1 1 29d a515 1 1 29e
    a512 1 1 370 1 2 2 376 1 1 1 37b 82 1 3 37f 74 1 1 386 26 1 1 388 25 1 3 38c 40 1 1 38e 3f 1 2 390 1c43 1 1
    391 20 2 2 394 20 2 2 397 20 1 1 39b 20 2 2 39e 20 1 2 3a4 20 1 2 3a7 20 1 2 3aa 20 1 2 3b0 1c33 1 1 3cf 8 1 1
    3d8 1 2 c 3f2 7 1 1 3f7 1 1 1 3fa 1 1 1 400 50 1 10 410 20 1 2 413 20 2 2 416 20 1 8 41f 20 1 2 423 20 1 7 42b
    20 1 5 460 1 1 1 464 1 2 f 48a 1 2 1b 4c0 f 1 1 4c1 1 2 7 4d0 1 2 30 531 30 1 26 10a0 1c60 1 26 10c7 1c60 1 1
    10cd 1c60 1 1 10d0 bc0 1 2b 10fd bc0 1 3 13a0 97d0 1 50 13f0 8 1 6 1c89 1 1 1 1d79 8a04 1 1 1d7d ee6 1 1 1d8e
    8a38 1 1 1e00 1 2 30 1e62 1 2 1a 1ea0 1 2 30 1f00 8 1 8 1f10 8 1 6 1f20 8 1 8 1f30 8 1 8 1f40 8 1 6 1f51 8 2 4
    1f60 8 1 8 1f70 4a 1 2 1f72 56 1 4 1f76 64 1 2 1f78 80 1 2 1f7a 70 1 2 1f7c 7e 1 2 1f80 8 1 8 1f90 8 1 8 1fa0
    8 1 8 1fb0 8 1 2 1fb3 9 1 1 1fc3 9 1 1 1fd0 8 1 2 1fe0 8 1 2 1fe5 7 1 1 1ff3 9 1 1 2132 1c 1 1 2160 10 1 10
    2183 1 1 1 24b6 1a 1 1a 2c00 30 1 30 2c60 1 1 1 2c67 1 2 3 2c72 1 1 1 2c75 1 1 1 2c80 1 2 32 2ceb 1 2 2 2cf2 1
    1 1 a640 1 2 5 a64c 1 2 11 a680 1 2 e a722 1 2 7 a732 1 2 1f a779 1 2 2 a77e 1 2 5 a78b 1 1 1 a790 1 2 2 a794
    30 1 1 a796 1 2 a a7b3 3a0 1 1 a7b4 1 2 8 a7c7 1 2 2 a7cc 1 1 1 a7d0 1 1 1 a7d6 1 2 3 a7f5 1 1 1 fb05 1 1 1
    ff21 20 1 1a 10400 28 1 28 104b0 28 1 24 10570 27 1 b 1057c 27 1 f 1058c 27 1 7 10594 27 1 2 10c80 40 1 33
    10d50 20 1 16 118a0 20 1 20 16e40 20 1 20 1e900 22 1 22"

/-- Groups of three or more characters that fold alike. -/
def foldingGroups : List (List Nat) :=
  [[0x4B, 0x6B, 0x212A], [0x53, 0x73, 0x17F], [0xB5, 0x39C, 0x3BC], [0xC5, 0xE5, 0x212B], [0x1C4, 0x1C5, 0x1C6],
   [0x1C7, 0x1C8, 0x1C9], [0x1CA, 0x1CB, 0x1CC], [0x1F1, 0x1F2, 0x1F3], [0x345, 0x399, 0x3B9, 0x1FBE],
   [0x392, 0x3B2, 0x3D0], [0x395, 0x3B5, 0x3F5], [0x398, 0x3B8, 0x3D1, 0x3F4], [0x39A, 0x3BA, 0x3F0],
   [0x3A0, 0x3C0, 0x3D6], [0x3A1, 0x3C1, 0x3F1], [0x3A3, 0x3C2, 0x3C3], [0x3A6, 0x3C6, 0x3D5],
   [0x3A9, 0x3C9, 0x2126], [0x412, 0x432, 0x1C80], [0x414, 0x434, 0x1C81], [0x41E, 0x43E, 0x1C82],
   [0x421, 0x441, 0x1C83], [0x422, 0x442, 0x1C84, 0x1C85], [0x42A, 0x44A, 0x1C86], [0x462, 0x463, 0x1C87],
   [0x1C88, 0xA64A, 0xA64B], [0x1E60, 0x1E61, 0x1E9B]]

/-- The pairs of the runs that four numbers each describe. -/
def pairsOfRuns : List Nat → List (List Nat)
  | first :: distance :: step :: count :: rest =>
    (List.range count).map (fun i => [first + i * step, first + i * step + distance]) ++ pairsOfRuns rest
  | _ => []

/-- All groups of characters that fold alike. -/
def foldingClasses : List (List Nat) := pairsOfRuns (hexNumbers foldingRuns) ++ foldingGroups

/-- The set with every spelling of its members that differs in case. -/
def foldClosure (s : CodeSet) : CodeSet :=
  let added := foldingClasses.flatMap fun group => if group.any s.holdsCode then group else []
  s.union (.ofRanges (added.map fun n => ⟨n, n⟩))

end GatewayRegistrar.Unicode
