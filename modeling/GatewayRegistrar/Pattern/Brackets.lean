import GatewayRegistrar.Pattern.Escape

/-!
# Classes in brackets
-/

namespace GatewayRegistrar.Pattern

open Scan

/-- The items of a class so far, in their order, and the place they cover. -/
structure ItemList where
  span : Span
  items : List ClassTree

namespace ItemList

/-- No items, at a place. -/
def empty (p : Position) : ItemList := ⟨.empty p, []⟩

/-- One more item. -/
def push (l : ItemList) (item : ClassTree) : ItemList :=
  ⟨⟨if l.items.isEmpty then item.span.first else l.span.first, item.span.last⟩, l.items ++ [item]⟩

/-- The items as one tree. -/
def tree (l : ItemList) : ClassTree :=
  match l.items with
  | [] => .empty l.span
  | [item] => item
  | items => .union l.span items

end ItemList

/-- The named class with this name. -/
def namedClass? : String → Option NamedClass
  | "alnum" => some .alnum
  | "alpha" => some .alpha
  | "ascii" => some .ascii
  | "blank" => some .blank
  | "cntrl" => some .cntrl
  | "digit" => some .digit
  | "graph" => some .graph
  | "lower" => some .lower
  | "print" => some .print
  | "punct" => some .punct
  | "space" => some .space
  | "upper" => some .upper
  | "word" => some .word
  | "xdigit" => some .xdigit
  | _ => none

/-- A named class such as `[:alpha:]`; when none stands here the cursor does not move. -/
def namedClassItem : Scan (Option ClassTree) := do
  let before ← get
  if !(← bumpIf "[:") then return none
  let negated ← bumpIf "^"
  let c ← get
  let name := c.rest.takeWhile (· != ':')
  set (name.foldl (fun c _ => pastNext c) c)
  if ← bumpIf ":]" then
    match namedClass? (String.ofList name) with
    | some kind => return some (.named ⟨before.position, ← position⟩ negated kind)
    | none =>
      set before
      return none
  else
    set before
    return none

/-- One character or escape in brackets. -/
def classPrimitive : Scan Primitive := do
  match ← peek with
  | some '\\' => escape
  | c =>
    let span ← hereChar
    let _ ← bump
    return .literal { span, char := c.getD ' ' }

/-- A character, an escape or a range; `opening` is the place of the bracket that has to be closed. -/
def classItem (opening : Span) : Scan ClassTree := do
  let first ← classPrimitive
  skipBlanks
  match ← peek with
  | none => fail opening .classUnclosed
  | some c =>
    let second ← peekSecondVisible
    if c != '-' || second == some ']' || second == some '-' then return ← first.classTree
    if !(← bumpSkip) then return ← fail opening .classUnclosed
    let last ← classPrimitive
    let span : Span := ⟨first.span.first, last.span.last⟩
    let low ← first.rangeEnd
    let high ← last.rangeEnd
    if low.char ≤ high.char then return .range span low high else fail span .classRangeInvalid

/-- Hyphens at the beginning of a class, which stand for themselves; the first argument bounds their number. -/
def leadingHyphens (start : Position) : Nat → ItemList → Scan ItemList
  | 0, items => return items
  | n + 1, items => do
    if (← peek) == some '-' then
      let span ← hereChar
      let items := items.push (.literal { span, char := '-' })
      if !(← bumpSkip) then return ← fail (.empty start) .classUnclosed
      leadingHyphens start n items
    else return items

/-- The opening bracket with what belongs to it: the place, whether the class is negated, and the items that stand
for themselves only at the beginning. -/
def openBracket : Scan (Span × Bool × ItemList) := do
  let start ← position
  if !(← bumpSkip) then return ← fail ⟨start, ← position⟩ .classUnclosed
  let negated := (← peek) == some '^'
  if negated then
    if !(← bumpSkip) then return ← fail ⟨start, ← position⟩ .classUnclosed
  let items ← leadingHyphens start (← get).rest.length (.empty (← position))
  if items.items.isEmpty && (← peek) == some ']' then
    let items := items.push (.literal { span := ← hereChar, char := ']' })
    if !(← bumpSkip) then return ← fail ⟨start, ← position⟩ .classUnclosed
    return (⟨start, ← position⟩, negated, items)
  else return (⟨start, ← position⟩, negated, items)

/-- The left side of an operator that waits for its right side. -/
abbrev PendingOperator := Option (ClassOperator × ClassTree)

/-- Joins the left side that waits with what has been read since. -/
def closeOperator (pending : PendingOperator) (items : ItemList) : ClassTree :=
  match pending with
  | none => items.tree
  | some (operator, left) => .combined ⟨left.span.first, items.tree.span.last⟩ operator left items.tree

/-- The operator that stands here. -/
def classOperator : Scan (Option ClassOperator) := do
  if ← bumpIf "&&" then return some .intersection
  if ← bumpIf "--" then return some .difference
  if ← bumpIf "~~" then return some .symmetricDifference
  return none

mutual

/-- A class in brackets, with the cursor on the opening bracket. The first argument bounds the steps. -/
def bracketed : Nat → Scan ClassTree
  | 0 => do fail (← here) .classUnclosed
  | n + 1 => do
    let (opening, negated, items) ← openBracket
    bracketBody n opening negated none items

/-- The class from the given items on, up to its closing bracket. -/
def bracketBody : Nat → Span → Bool → PendingOperator → ItemList → Scan ClassTree
  | 0, opening, _, _, _ => fail opening .classUnclosed
  | n + 1, opening, negated, pending, items => do
    skipBlanks
    match ← peek with
    | none => fail opening .classUnclosed
    | some '[' =>
      match ← namedClassItem with
      | some item => bracketBody n opening negated pending (items.push item)
      | none =>
        let inner ← bracketed n
        bracketBody n opening negated pending (items.push inner)
    | some ']' =>
      let _ ← bump
      return .bracketed ⟨opening.first, ← position⟩ negated (closeOperator pending items)
    | some _ =>
      match ← classOperator with
      | some operator =>
        bracketBody n opening negated (some (operator, closeOperator pending items)) (.empty (← position))
      | none =>
        let item ← classItem opening
        bracketBody n opening negated pending (items.push item)

end

end GatewayRegistrar.Pattern
