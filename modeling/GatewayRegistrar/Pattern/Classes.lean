import GatewayRegistrar.Pattern.Fault
import GatewayRegistrar.Pattern.Tree
import GatewayRegistrar.Unicode.Age
import GatewayRegistrar.Unicode.Boundary
import GatewayRegistrar.Unicode.Contribution
import GatewayRegistrar.Unicode.Folding
import GatewayRegistrar.Unicode.Script

/-!
# The characters of a class

What the classes of a pattern stand for, under the flags that hold where they are written. Without the `u` flag a
class may only hold characters of ASCII, because it would match single bytes otherwise.
-/

namespace GatewayRegistrar.Pattern

/-- The flags that hold at a place of a pattern. -/
structure Flags where
  ignoreCase : Bool := false
  multiLine : Bool := false
  dotMatchesNewline : Bool := false
  unicode : Bool := true
  carriageReturn : Bool := false
deriving DecidableEq, Repr

/-- The flags after some of them have been set. -/
def Flags.with (f : Flags) (items : List FlagItem) : Flags where
  ignoreCase := (flagState? .ignoreCase items).getD f.ignoreCase
  multiLine := (flagState? .multiLine items).getD f.multiLine
  dotMatchesNewline := (flagState? .dotMatchesNewline items).getD f.dotMatchesNewline
  unicode := (flagState? .unicode items).getD f.unicode
  carriageReturn := (flagState? .carriageReturn items).getD f.carriageReturn

/-! ## Sets with a name -/

/-- The digits, blanks and word characters of ASCII. -/
def ShortClass.asciiMembers : ShortClass → CodeSet
  | digit => .ofRanges [⟨0x30, 0x39⟩]
  | space => .ofRanges [⟨0x09, 0x0D⟩, ⟨0x20, 0x20⟩]
  | word => .ofRanges [⟨0x30, 0x39⟩, ⟨0x41, 0x5A⟩, ⟨0x5F, 0x5F⟩, ⟨0x61, 0x7A⟩]

/-- The digits, blanks and word characters of all writing systems. -/
def ShortClass.members : ShortClass → CodeSet
  | digit => Unicode.category "Nd"
  | space => Unicode.property "White_Space"
  | word =>
    [Unicode.property "Alphabetic", Unicode.category "M", Unicode.category "Nd", Unicode.category "Pc",
      Unicode.property "Join_Control"].foldl .union .empty

/-- The characters of a named class. -/
def NamedClass.members : NamedClass → CodeSet
  | alnum => .ofRanges [⟨0x30, 0x39⟩, ⟨0x41, 0x5A⟩, ⟨0x61, 0x7A⟩]
  | alpha => .ofRanges [⟨0x41, 0x5A⟩, ⟨0x61, 0x7A⟩]
  | ascii => .ofRanges [⟨0, 0x7F⟩]
  | blank => .ofRanges [⟨0x09, 0x09⟩, ⟨0x20, 0x20⟩]
  | cntrl => .ofRanges [⟨0, 0x1F⟩, ⟨0x7F, 0x7F⟩]
  | digit => .ofRanges [⟨0x30, 0x39⟩]
  | graph => .ofRanges [⟨0x21, 0x7E⟩]
  | lower => .ofRanges [⟨0x61, 0x7A⟩]
  | print => .ofRanges [⟨0x20, 0x7E⟩]
  | punct => .ofRanges [⟨0x21, 0x2F⟩, ⟨0x3A, 0x40⟩, ⟨0x5B, 0x60⟩, ⟨0x7B, 0x7E⟩]
  | space => .ofRanges [⟨0x09, 0x0D⟩, ⟨0x20, 0x20⟩]
  | upper => .ofRanges [⟨0x41, 0x5A⟩]
  | word => .ofRanges [⟨0x30, 0x39⟩, ⟨0x41, 0x5A⟩, ⟨0x5F, 0x5F⟩, ⟨0x61, 0x7A⟩]
  | xdigit => .ofRanges [⟨0x30, 0x39⟩, ⟨0x41, 0x46⟩, ⟨0x61, 0x66⟩]

/-! ## Properties -/

/-- The loose spelling of a name of a property: without case, blanks, hyphens, underscores and an `is` in front. The
name `isc` keeps its first letters, because it is not that of the category `C`. -/
def looseName (name : String) : String :=
  let chars := name.toList
  let begins := chars.take 2 |>.map (·.toLower)
  let isPrefixed := begins = ['i', 's']
  let kept := (if isPrefixed then chars.drop 2 else chars).filter fun c =>
    c.toNat < 0x80 && c != ' ' && c != '_' && c != '-'
  let loose := kept.map (·.toLower)
  if isPrefixed ∧ loose = ['c'] then "isc" else String.ofList loose

/-- The entry of a list of names. -/
def entryNamed? (names : List (String × String)) (name : String) : Option String :=
  (names.find? (·.1 = name)).map (·.2)

/-- The characters of the general category that a loose name stands for. Surrogates are no characters. -/
def categoryNamed? (name : String) : Except FaultKind (Option CodeSet) :=
  match name with
  | "any" => .ok (some .all)
  | "ascii" => .ok (some (.ofRanges [⟨0, 0x7F⟩]))
  | "assigned" => .ok (some (Unicode.category "Cn").complement)
  | _ =>
    match entryNamed? Unicode.categoryNames name with
    | none => .ok none
    | some "Cs" => .error .propertyValueNotFound
    | some short => .ok (some (Unicode.category short))

/-- The characters of the script that a loose name stands for. Two names are known that no character's script has. -/
def scriptNamed? (members : String → CodeSet) (name : String) : Except FaultKind (Option CodeSet) :=
  match entryNamed? Unicode.scriptNames name with
  | none => .ok none
  | some "Hrkt" | some "Zzzz" => .error .propertyValueNotFound
  | some short => .ok (some (members short))

/-- The characters with a property of the given name. The short names of two properties mean categories. -/
def charactersNamed (name : String) : Except FaultKind CodeSet := do
  let loose := looseName name
  let meansCategory := loose = "cf" ∨ loose = "sc" ∨ loose = "lc"
  match if meansCategory then none else entryNamed? Unicode.propertyNames loose with
  | some full => return (Unicode.contribution? full).getD (Unicode.property full)
  | none =>
    match ← categoryNamed? loose with
    | some s => return s
    | none =>
      match ← scriptNamed? Unicode.script loose with
      | some s => return s
      | none => throw .propertyNotFound

/-- The characters of the class of a table that a loose name stands for. -/
def classNamed? (names table : List (String × String)) (name : String) : Option CodeSet :=
  (entryNamed? names name).bind (Unicode.codeSetOf? table)

/-- The characters for which the property with a loose name has the value with a loose name. -/
def charactersOf? (name value : String) : Except FaultKind (Option CodeSet) :=
  match name with
  | "gc" | "generalcategory" => categoryNamed? value
  | "sc" | "script" => scriptNamed? Unicode.script value
  | "scx" | "scriptextensions" => scriptNamed? Unicode.scriptWithShared value
  | "age" => .ok (Unicode.charactersOfAge? value)
  | "gcb" | "graphemeclusterbreak" => .ok (classNamed? Unicode.graphemeNames Unicode.graphemeTable value)
  | "wb" | "wordbreak" => .ok (classNamed? Unicode.wordNames Unicode.wordTable value)
  | "sb" | "sentencebreak" => .ok (classNamed? Unicode.sentenceNames Unicode.sentenceTable value)
  | _ =>
    if (entryNamed? Unicode.propertyNames name).isSome || Unicode.unlistedPropertyNames.contains name then .ok none
    else .error .propertyNotFound

/-- The characters for which a property has the given value. -/
def charactersValued (name value : String) : Except FaultKind CodeSet := do
  match ← charactersOf? (looseName name) (looseName value) with
  | some s => return s
  | none => throw .propertyValueNotFound

/-- The characters that a query asks for. -/
def PropertyQuery.members : PropertyQuery → Except FaultKind CodeSet
  | letter c => charactersNamed (String.singleton c)
  | named name => charactersNamed name
  | valued name value => charactersValued name value

/-! ## Classes under flags -/

namespace Flags

/-- The letters of ASCII in both cases. -/
def asciiFoldClosure (s : CodeSet) : CodeSet :=
  let lowered := (s.inter (.ofRanges [⟨0x41, 0x5A⟩])).ranges.map fun r => ⟨r.first + 32, r.last + 32⟩
  let raised := (s.inter (.ofRanges [⟨0x61, 0x7A⟩])).ranges.map fun r => ⟨r.first - 32, r.last - 32⟩
  .ofRanges (s.ranges ++ lowered ++ raised)

/-- The set with both cases where the flags ask for them. -/
def folded (f : Flags) (s : CodeSet) : CodeSet :=
  if f.ignoreCase then (if f.unicode then Unicode.foldClosure s else asciiFoldClosure s) else s

/-- The set, or the characters outside it; the latter may not be asked for without the `u` flag. -/
def negated (f : Flags) (span : Span) (negate : Bool) (s : CodeSet) : Except Fault CodeSet :=
  if negate then (if f.unicode then .ok s.complement else .error ⟨.invalidEncoding, span⟩)
  else if f.unicode || s.isAscii then .ok s
  else .error ⟨.invalidEncoding, span⟩

/-- The character that a literal stands for. -/
def literal (f : Flags) (l : Literal) : Except Fault Char :=
  if !f.unicode && l.isByte && 0x7F < l.char.toNat then .error ⟨.invalidEncoding, l.span⟩ else .ok l.char

/-- The character that a literal in a class stands for. -/
def classLiteral (f : Flags) (l : Literal) : Except Fault Char := do
  let c ← f.literal l
  if f.unicode || c.toNat < 0x80 then return c else throw ⟨.unicodeNotAllowed, l.span⟩

/-- The characters of a class with a letter of its own. -/
def short (f : Flags) (span : Span) (negate : Bool) (kind : ShortClass) : Except Fault CodeSet :=
  f.negated span negate (if f.unicode then kind.members else kind.asciiMembers)

/-- The characters with a property. -/
def property (f : Flags) (span : Span) (negate : Bool) (query : PropertyQuery) : Except Fault CodeSet :=
  if !f.unicode then .error ⟨.unicodeNotAllowed, span⟩
  else
    match query.members with
    | .ok s => f.negated span negate (f.folded s)
    | .error kind => .error ⟨kind, span⟩

/-- Two classes, combined. -/
def combine (operator : ClassOperator) (s t : CodeSet) : CodeSet :=
  match operator with
  | .intersection => s.inter t
  | .difference => s.diff t
  | .symmetricDifference => s.symmDiff t

mutual

/-- The characters of what stands in brackets, before the case is folded. -/
def members (f : Flags) : ClassTree → Except Fault CodeSet
  | .empty _ => .ok .empty
  | .literal l => do
    let c ← f.classLiteral l
    return .singleton c
  | .range _ first last => do
    let low ← f.classLiteral first
    let high ← f.classLiteral last
    return .range low high
  | .named span negate kind => f.negated span negate (f.folded kind.members)
  | .short span negate kind => f.short span negate kind
  | .property span negate query => f.property span negate query
  | .bracketed span negate body => do
    let s ← f.members body
    f.negated span negate (f.folded s)
  | .union _ items => f.unionMembers items
  | .combined _ operator left right => do
    let s ← f.members left
    let t ← f.members right
    return combine operator (f.folded s) (f.folded t)

/-- The characters of any of several classes. -/
def unionMembers (f : Flags) : List ClassTree → Except Fault CodeSet
  | [] => .ok .empty
  | t :: rest => do
    let s ← f.members t
    let more ← f.unionMembers rest
    return s.union more

end

end Flags

end GatewayRegistrar.Pattern
