import GatewayRegistrar.Pattern.Bytes
import Std.Data.HashMap

/-!
# Building automata

What counts of an automaton is how much room its states take. It grows state by state, and building stops as soon as it
takes more than it may.

States that read the bytes of a set of characters are used again where possible: `stateFor` remembers for what they
were built. Its memory is a table of limited size, in which each key has its place; a key that comes later takes the
place of the one that stood there.
-/

namespace GatewayRegistrar.Pattern

/-- The room that an automaton may take. -/
def roomLimit : Nat := 10485760

/-- The room for a state, apart from its transitions. -/
def stateRoom : Nat := 32

/-- An automaton that is being built: the number of its states, the room they take, and what is remembered of the set
of characters that is being worked on. -/
structure Building where
  states : Nat := 0
  room : Nat := 0
  known : Std.HashMap Nat (List Nat × Nat) := {}

/-- A step of building; `none` when there is not enough room. -/
abbrev BuildStep := Building → Option Building

namespace Building

/-- One more state, with room for its transitions. -/
def add (extra : Nat) : BuildStep := fun b =>
  let room := b.room + stateRoom + extra
  if room ≤ roomLimit then some { b with states := b.states + 1, room } else none

/-- A state that reads nothing, or a single range of bytes, and leads on to one other state. -/
def plain : BuildStep := add 0

/-- A state that reads a byte, by the number of its transitions. -/
def branch (transitions : Nat) : BuildStep := add (8 * transitions)

/-- A state that leads on to several others without reading. -/
def fork (ways : Nat) : BuildStep := add (4 * ways)

/-- A step that is taken a number of times. -/
def times (step : BuildStep) : Nat → BuildStep
  | 0, b => some b
  | n + 1, b => (step b).bind (times step n)

/-! ## States that are used again -/

/-- The place of a key in a table of the given size: a product over the numbers of the key in 64-bit arithmetic. -/
def placeOf (size : Nat) (key : List Nat) : Nat :=
  (key.foldl (fun h n => (h ^^^ UInt64.ofNat n) * 1099511628211) (14695981039346656037 : UInt64)).toNat % size

/-- The state for a key: the one that was built for it, if that is still remembered, or a new one. -/
def stateFor (size extra : Nat) (key : List Nat) (b : Building) : Option (Nat × Building) :=
  let place := placeOf size key
  let build : Option (Nat × Building) :=
    (b.add extra).map fun c => (b.states, { c with known := c.known.insert place (key, b.states) })
  match b.known[place]? with
  | some (k, state) => if k = key then some (state, b) else build
  | none => build

/-- Sequences in ascending order, grouped by their first range. -/
def byFirst : List (List ByteRange) → List (ByteRange × List (List ByteRange))
  | [] => []
  | [] :: rest => byFirst rest
  | (r :: tail) :: rest =>
    match byFirst rest with
    | (s, tails) :: more => if r = s then (s, tail :: tails) :: more else (r, [tail]) :: (s, tails) :: more
    | [] => [(r, [tail])]

/-- The states that read sequences of at most the given length, of which the first one is returned; all lead to
`target`. States with the same transitions are one state. -/
def sharedEndings (target : Nat) : Nat → List (List ByteRange) → Building → Option (Nat × Building)
  | 0, _, b => some (target, b)
  | n + 1, sequences, b =>
    match byFirst sequences with
    | [] => some (target, b)
    | groups => do
      let (key, b) ← groups.foldlM
        (fun (key, b) ((low, high), tails) => do
          let (next, b) ← sharedEndings target n tails b
          return (key ++ [low, high, next], b))
        ([], b)
      b.stateFor 10000 (8 * groups.length) key

/-- The states that read a sequence from its end, which lead to `target`. Sequences that begin alike share states. -/
def sharedBeginning (target : Nat) (sequence : List ByteRange) (b : Building) : Option Building := do
  let (_, b) ← sequence.foldlM (fun (next, b) (low, high) => b.stateFor 1000 0 [next, low, high]) (target, b)
  return b

end Building

end GatewayRegistrar.Pattern
