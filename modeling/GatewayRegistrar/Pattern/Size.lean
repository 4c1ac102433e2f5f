import GatewayRegistrar.Pattern.Blueprint
import GatewayRegistrar.Pattern.Building

/-!
# How much room a pattern takes

A pattern is refused when an automaton for it would take too much room. There are two automata for a pattern, one for
each direction. Forwards, the sequences of bytes of a set share their endings, and backwards their beginnings. A choice
between texts becomes a tree.
-/

namespace GatewayRegistrar.Pattern

/-- The direction in which an automaton reads. -/
inductive Direction where
  | forwards
  | backwards
deriving DecidableEq, Repr

/-- The states for a set of characters. -/
def setStates (d : Direction) (s : CodeSet) : BuildStep := fun b => do
  let b := { b with known := {} }
  let sequences := s.ranges.flatMap rangeSequences
  if s.isAscii then (← b.plain).branch s.ranges.length
  else
    match d with
    | .forwards => (Building.sharedEndings b.states 4 sequences (← b.plain)).map (·.2)
    | .backwards =>
      let b ← b.fork sequences.length
      sequences.foldlM (fun c sequence => Building.sharedBeginning b.states sequence c) (← b.plain)

/-! ## Trees of texts -/

/-- What follows each first byte, in the order in which these bytes come first. -/
def byFirstByte (words : List (List Nat)) : List (Nat × List (List Nat)) :=
  words.foldl
    (fun groups word =>
      match word with
      | [] => groups
      | byte :: rest =>
        if groups.any (·.1 = byte) then
          groups.map fun (b, tails) => if b = byte then (b, tails ++ [rest]) else (b, tails)
        else groups ++ [(byte, [rest])])
    []

/-- The words between those that end here. -/
def betweenEnds : List (List Nat) → List (List (List Nat))
  | [] => [[]]
  | [] :: rest => [] :: betweenEnds rest
  | word :: rest =>
    match betweenEnds rest with
    | [] => [[word]]
    | chunk :: more => (word :: chunk) :: more

/-- The states for a tree of words, in the order of preference, that are no longer than the first argument. Words that
stand on different sides of one that ends do not share a beginning. -/
def treeStates : Nat → List (List Nat) → BuildStep
  | 0, _, b => some b
  | n + 1, words, b => do
    let words :=
      match words with
      | [] :: rest => [] :: rest.dropWhile (·.isEmpty)
      | _ => words
    let chunks := betweenEnds words
    let groups := (chunks.map byFirstByte).filter (!·.isEmpty)
    let b ← groups.foldlM
      (fun b group => do
        let b ← group.foldlM (fun b (_, tails) => if tails.all (·.isEmpty) then some b else treeStates n tails b) b
        if group.length = 1 then b.plain else b.branch group.length)
      b
    b.fork (groups.length + (chunks.length - 1))

/-! ## Blueprints -/

namespace Blueprint

/-- The characters of a text. -/
def text? : Blueprint → Option (List Char)
  | text cs => some cs
  | _ => none

/-- The bytes of a text in the order in which they are read. -/
def wordOf (d : Direction) (cs : List Char) : List Nat :=
  let bytes := cs.flatMap fun c => utf8Bytes c.toNat
  match d with
  | .forwards => bytes
  | .backwards => bytes.reverse

/-- The states for the ends of a capture around others. Only the automaton that reads forwards has them. -/
def captureStates (d : Direction) (inner : BuildStep) : BuildStep := fun b =>
  match d with
  | .forwards => do (← inner (← b.plain)).plain
  | .backwards => inner b

/-- The states for a repetition, given those for a single round. -/
def repeatedStates (least : Nat) (most : Option Nat) (needsText : Bool) (once : BuildStep) : BuildStep := fun b =>
  let exactly : BuildStep := fun b => if least = 0 then b.plain else b.times once least
  match most with
  | none =>
    if 0 < least then do (← exactly b).fork 2
    else if needsText then do once (← b.fork 2)
    else do (← (← (← once b).fork 2).fork 2).plain
  | some most =>
    if least = 0 ∧ most = 1 then do (← once (← b.fork 2)).plain
    else if least = most then exactly b
    else do (← (← exactly b).plain).times (fun b => do once (← b.fork 2)) (most - least)

mutual

/-- The states for a blueprint. -/
def states (d : Direction) : Blueprint → BuildStep
  | empty, b | look _, b => b.plain
  | text cs, b => b.times Building.plain (wordOf d cs).length
  | set s, b => setStates d s b
  | repeated least most body, b => repeatedStates least most (body.needsText? == some true) (body.states d) b
  | capture body, b => captureStates d (body.states d) b
  | sequence bs, b =>
    match d with
    | .forwards => statesInOrder d bs b
    | .backwards => statesFromEnd d bs b
  | choice bs, b =>
    match bs.mapM text? with
    | some texts => do
      let words := texts.map (wordOf d)
      treeStates (words.foldl (fun n word => max n (word.length + 1)) 0) words (← b.plain)
    | none => branchStates d bs.length 0 bs b

/-- The states for several blueprints. -/
def statesInOrder (d : Direction) : List Blueprint → BuildStep
  | [], b => some b
  | x :: xs, b => do statesInOrder d xs (← x.states d b)

/-- The states for several blueprints, of which the last one comes first. -/
def statesFromEnd (d : Direction) : List Blueprint → BuildStep
  | [], b => some b
  | x :: xs, b => do x.states d (← statesFromEnd d xs b)

/-- The states for the branches of a choice, of which there are `count`, with those where the ways part and come
together; these follow the second branch. The second number is that of the branches before. -/
def branchStates (d : Direction) (count : Nat) : Nat → List Blueprint → BuildStep
  | _, [], b => some b
  | n, x :: xs, b => do
    let b ← x.states d b
    branchStates d count (n + 1) xs (← if n = 1 then do (← b.fork count).plain else some b)

end

/-- The condition that holds only where an automaton begins to read. -/
def firstPlace : Direction → Look
  | .forwards => .startText
  | .backwards => .endText

mutual

/-- Whether a match can only begin where the text does, for the given direction. -/
def isAnchored (d : Direction) : Blueprint → Bool
  | empty | text _ | set _ => false
  | look l => l == firstPlace d
  | repeated least _ body => 0 < least && body.isAnchored d
  | capture body => body.isAnchored d
  | sequence bs =>
    match d with
    | .forwards => firstAnchored d bs
    | .backwards => lastAnchored d bs
  | choice bs => allAnchored d bs

/-- Whether one of the parts is anchored that stand before any characters. -/
def firstAnchored (d : Direction) : List Blueprint → Bool
  | [] => false
  | b :: bs => b.isAnchored d || (b.onlyEmpty && firstAnchored d bs)

/-- Whether one of the parts is anchored that stand behind all characters. -/
def lastAnchored (d : Direction) : List Blueprint → Bool
  | [] => false
  | b :: bs => lastAnchored d bs || (bs.all (·.onlyEmpty) && b.isAnchored d)

/-- Whether all branches are anchored. -/
def allAnchored (d : Direction) : List Blueprint → Bool
  | [] => true
  | b :: bs => b.isAnchored d && allAnchored d bs

end

/-- The automaton for one direction. Unless it is anchored, it begins with a loop that skips any bytes. -/
def automaton? (d : Direction) (p : Blueprint) : Option Building := do
  let start : Building := {}
  let b ← if p.isAnchored d then start.plain else do (← (← start.fork 2).plain).branch 1
  (← captureStates d (p.states d) b).plain

end Blueprint

/-- Whether there is enough room for both automata for a node. -/
def Node.fits (n : Node) : Bool :=
  let p := n.blueprint
  (p.automaton? .forwards).isSome && (p.automaton? .backwards).isSome

end GatewayRegistrar.Pattern
