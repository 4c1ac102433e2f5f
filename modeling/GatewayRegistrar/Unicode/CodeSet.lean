/-!
# Sets of characters

A set of characters is a list of closed ranges of code points, in ascending order and apart from each other. The
surrogates between `D7FF` and `E000` are no characters: ranges on either side of them count as adjacent.
-/

namespace GatewayRegistrar

/-- A closed range of code points. -/
structure CodeRange where
  first : Nat
  last : Nat
deriving DecidableEq, Repr

/-- A set of characters, as ascending ranges that are apart. -/
structure CodeSet where
  ranges : List CodeRange
deriving DecidableEq, Repr

namespace CodeSet

/-- The character that follows a code point. -/
def after (n : Nat) : Nat := if n = 0xD7FF then 0xE000 else n + 1

/-- The character that precedes a code point. -/
def before (n : Nat) : Nat := if n = 0xE000 then 0xD7FF else n - 1

/-- The last code point. -/
def maxCode : Nat := 0x10FFFF

/-- The set without members. -/
def empty : CodeSet := ⟨[]⟩

/-- The set of all characters. -/
def all : CodeSet := ⟨[⟨0, maxCode⟩]⟩

/-- Joins a range with those of the following that it touches or overlaps, and these in turn; the ranges are in
ascending order of their first members. -/
def mergeFrom (r : CodeRange) : List CodeRange → List CodeRange
  | [] => [r]
  | s :: rest =>
    if s.first ≤ after r.last then mergeFrom ⟨r.first, max r.last s.last⟩ rest else r :: mergeFrom s rest

/-- Joins ranges that touch or overlap, given in ascending order of their first members. -/
def merge : List CodeRange → List CodeRange
  | [] => []
  | r :: rest => mergeFrom r rest

/-- The set of the characters in any of the ranges. -/
def ofRanges (rs : List CodeRange) : CodeSet :=
  ⟨merge ((rs.filter fun r => r.first ≤ r.last).mergeSort fun r s => r.first ≤ s.first)⟩

/-- The characters from `first` to `last`. -/
def range (first last : Char) : CodeSet := ofRanges [⟨first.toNat, last.toNat⟩]

/-- The set with one member. -/
def singleton (c : Char) : CodeSet := ⟨[⟨c.toNat, c.toNat⟩]⟩

/-- Whether the set has no member. -/
def isEmpty (s : CodeSet) : Bool := s.ranges.isEmpty

/-- Whether the code point belongs to the set. -/
def holdsCode (s : CodeSet) (n : Nat) : Bool := s.ranges.any fun r => r.first ≤ n && n ≤ r.last

/-- Whether the character belongs to the set. -/
def holds (s : CodeSet) (c : Char) : Bool := s.holdsCode c.toNat

/-- The characters of either set. -/
def union (s t : CodeSet) : CodeSet := ofRanges (s.ranges ++ t.ranges)

/-- The gaps between ranges, from `start` on. -/
def gaps (start : Nat) : List CodeRange → List CodeRange
  | [] => if start ≤ maxCode then [⟨start, maxCode⟩] else []
  | r :: rest =>
    if start < r.first then ⟨start, before r.first⟩ :: gaps (after r.last) rest else gaps (after r.last) rest

/-- The characters outside the set. -/
def complement (s : CodeSet) : CodeSet := ⟨gaps 0 s.ranges⟩

/-- The characters of both sets. -/
def inter (s t : CodeSet) : CodeSet :=
  ofRanges (s.ranges.flatMap fun r => t.ranges.filterMap fun u =>
    if max r.first u.first ≤ min r.last u.last then some ⟨max r.first u.first, min r.last u.last⟩ else none)

/-- The characters of the first set outside the second. -/
def diff (s t : CodeSet) : CodeSet := s.inter t.complement

/-- The characters of exactly one of the sets. -/
def symmDiff (s t : CodeSet) : CodeSet := (s.union t).diff (s.inter t)

/-- Whether every member is below `80`. -/
def isAscii (s : CodeSet) : Bool := s.ranges.all fun r => r.last < 0x80

end CodeSet

end GatewayRegistrar
