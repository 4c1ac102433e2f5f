import GatewayRegistrar.Pattern.Classes
import GatewayRegistrar.Pattern.Node

/-!
# Searching a text for a pattern

A text with `n` characters has the places `0` to `n`. A set of places is a number: the place `p` belongs to it when its
bit `p` is set. A node carries each set of places, where a match may begin, to the places where it may then end
(`Node.reach`); a text matches when any place can be reached from any other.
-/

namespace GatewayRegistrar.Pattern

/-- A set of places of a text. -/
abbrev Places := Nat

/-- A text to be searched, with the sets of letters that make up words. -/
structure Subject where
  chars : Array Char
  unicodeWord : CodeSet
  asciiWord : CodeSet

namespace Subject

/-- A text to be searched. -/
def ofText (s : String) : Subject := ⟨s.toList.toArray, ShortClass.word.members, ShortClass.word.asciiMembers⟩

/-- All places of the text. -/
def all (t : Subject) : Places := 1 <<< (t.chars.size + 1) - 1

/-- The set of the places for which a condition holds. -/
def placesWhere (t : Subject) (holds : Nat → Bool) : Places :=
  (List.range (t.chars.size + 1)).foldl (fun s p => if holds p then s ||| 1 <<< p else s) 0

/-- The character before a place. -/
def before? (t : Subject) (p : Nat) : Option Char := if p = 0 then none else t.chars[p - 1]?

/-- The character behind a place. -/
def behind? (t : Subject) (p : Nat) : Option Char := t.chars[p]?

/-- Whether the condition on the two sides holds, given whether each side is part of a word. -/
def edgeHolds (edge : WordEdge) (before behind : Bool) : Bool :=
  match edge with
  | .boundary => before != behind
  | .inside => before == behind
  | .start => !before && behind
  | .stop => before && !behind
  | .startHalf => !before
  | .stopHalf => !behind

/-- Whether a condition holds at a place. -/
def lookHolds (t : Subject) (l : Look) (p : Nat) : Bool :=
  let before := t.before? p
  let behind := t.behind? p
  match l with
  | .startText => before.isNone
  | .endText => behind.isNone
  | .startLine carriageReturn =>
    before.isNone || before == some '\n' || (carriageReturn && before == some '\r' && behind != some '\n')
  | .endLine carriageReturn =>
    behind.isNone || (if carriageReturn then behind == some '\r' || (behind == some '\n' && before != some '\r')
      else behind == some '\n')
  | .word edge unicode =>
    let word := if unicode then t.unicodeWord else t.asciiWord
    edgeHolds edge (before.any word.holds) (behind.any word.holds)

end Subject

/-- Everything that `f` reaches from a set in any number of rounds. The first argument bounds the rounds. -/
def closure (f : Places → Places) : Nat → Places → Places
  | 0, s => s
  | n + 1, s =>
    let next := s ||| f s
    if next = s then s else closure f n next

/-- What `f` reaches in exactly the given number of rounds. -/
def iterate (f : Places → Places) : Nat → Places → Places
  | 0, s => s
  | n + 1, s =>
    let next := f s
    if next = s then s else iterate f n next

/-- The places where a match of the node may end that begins at one of the given places. -/
def Node.reach (t : Subject) : Node → Places → Places
  | .empty, s => s
  | .symbol cs, s => (s &&& t.placesWhere fun p => (t.behind? p).any cs.holds) <<< 1
  | .look l, s => s &&& t.placesWhere (t.lookHolds l)
  | .repeated least none body, s => closure (body.reach t) (t.chars.size + 1) (iterate (body.reach t) least s)
  | .repeated least (some most) body, s => closure (body.reach t) (most - least) (iterate (body.reach t) least s)
  | .capture body, s | .group body, s => body.reach t s
  | .sequence a b, s => b.reach t (a.reach t s)
  | .choice a b, s => a.reach t s ||| b.reach t s

/-- Whether the node matches anywhere in the text. -/
def Node.matchesIn (n : Node) (text : String) : Bool :=
  let t := Subject.ofText text
  n.reach t t.all != 0

end GatewayRegistrar.Pattern
