import GatewayRegistrar.Unicode.CodeSet

/-!
# Sequences of bytes

An automaton works on the bytes of UTF-8, so for it a set of characters is a list of sequences of ranges of bytes
(`rangeSequences`).
-/

namespace GatewayRegistrar.Pattern

/-- A range of bytes. -/
abbrev ByteRange := Nat × Nat

/-- The bytes of a code point in UTF-8. -/
def utf8Bytes (n : Nat) : List Nat :=
  if n < 0x80 then [n]
  else if n < 0x800 then [0xC0 + n / 64, 0x80 + n % 64]
  else if n < 0x10000 then [0xE0 + n / 4096, 0x80 + n / 64 % 64, 0x80 + n % 64]
  else [0xF0 + n / 262144, 0x80 + n / 4096 % 64, 0x80 + n / 64 % 64, 0x80 + n % 64]

/-- The range, cut at each of the given ascending points that lies in it. -/
def cutAtPoints (r : CodeRange) : List Nat → List CodeRange
  | [] => [r]
  | p :: rest =>
    if r.first < p ∧ p ≤ r.last then ⟨r.first, p - 1⟩ :: cutAtPoints ⟨p, r.last⟩ rest else cutAtPoints r rest

/-- The range, cut so that each part either lies in one block of the first size or is made of whole blocks, and so on
for the larger sizes. -/
def cutAtBlocks : List Nat → CodeRange → List CodeRange
  | [], r => [r]
  | size :: larger, r =>
    if r.first / size = r.last / size then [r]
    else
      let low := (r.first + size - 1) / size * size
      let high := (r.last + 1) / size * size
      (if r.first < low then [⟨r.first, low - 1⟩] else [])
        ++ (if low < high then cutAtBlocks larger ⟨low, high - 1⟩ else [])
        ++ (if high ≤ r.last then [⟨high, r.last⟩] else [])

/-- The sequences of byte ranges for a range of characters: those whose characters are equally long and differ in a
way that ranges of bytes can express. -/
def rangeSequences (r : CodeRange) : List (List ByteRange) :=
  let parts := (cutAtPoints r [0x80, 0x800, 0xD800, 0xE000, 0x10000]).filter fun r => r.first ≠ 0xD800
  let parts := parts.flatMap fun r => if r.last < 0x80 then [r] else cutAtBlocks [64, 4096, 262144] r
  parts.map fun r => (utf8Bytes r.first).zip (utf8Bytes r.last)

end GatewayRegistrar.Pattern
