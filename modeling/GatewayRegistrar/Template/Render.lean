import GatewayRegistrar.Template.Helper
import GatewayRegistrar.Template.Output

/-!
# Filling in templates

The parts of a template are filled in one after the other. Blocks open scopes for their bodies; directives name bodies
that can be included later on. Filling in is strict: a tag without a value is a fault of the whole template.

A template that includes another one is filled in with the help of a given function for inclusions, so that it can be
followed part by part (`renderParts`). Nothing in a template bounds how deep inclusions lie in one another: a body may
include itself, and then filling it in never ends. What bounds them is the room on the stack of the program that fills
them in (`Inclusions.upTo`). Where there is too little of it, filling in has no result, neither a text nor a fault.
-/

namespace GatewayRegistrar.Template

/-- What surrounds the parts that are being filled in: the outermost value, the scopes from the innermost on, the bodies
that have been named outside the innermost scope, and the blanks before each line. -/
structure Setting where
  root : Value
  scopes : List Scope
  bodies : List (String × List Part)
  indentation : String

/-- What has been written, and the bodies that have been named in the innermost scope, the last one first. -/
structure Progress where
  output : Output
  named : List (String × List Part)

/-- A step of filling in: what it has written, a fault, or no result at all. -/
abbrev Outcome := ExceptT Fault Option Progress

/-! ## Terms -/

mutual

/-- What a term comes to. -/
def Term.evaluate (e : Setting) : Term → Except FaultKind Operand
  | .path p => do
    let found ← lookUp e.root e.scopes p
    return ⟨some p.written, found⟩
  | .literal v => .ok ⟨none, .computed v⟩
  | .call helper arguments options => do
    let args ← evaluateAll e arguments
    let opts ← evaluateOptions e options
    let v ← Invocation.value ⟨helper, args, sortEntries opts⟩
    return ⟨none, .computed v⟩

/-- What several terms come to. -/
def evaluateAll (e : Setting) : List Term → Except FaultKind (List Operand)
  | [] => .ok []
  | t :: rest => do
    let o ← t.evaluate e
    let more ← evaluateAll e rest
    return o :: more

/-- What options come to. -/
def evaluateOptions (e : Setting) : List (String × Term) → Except FaultKind (List (String × Operand))
  | [] => .ok []
  | (name, t) :: rest => do
    let o ← t.evaluate e
    let more ← evaluateOptions e rest
    return (name, o) :: more

end

/-- The name that a tag begins with. -/
def Head.nameText (e : Setting) : Head → Except FaultKind String
  | .name text => .ok text
  | .path p => .ok p.written
  | .call t => do
    let o ← t.evaluate e
    return o.found.value.plain

/-- What a tag begins with, as a value. -/
def Head.evaluate (e : Setting) : Head → Except FaultKind Operand
  | .name text => .ok ⟨some text, .missing⟩
  | .path p => (Term.path p).evaluate e
  | .call t => t.evaluate e

/-- The call that a tag makes. -/
def Tag.invocation (e : Setting) (t : Tag) : Except FaultKind Invocation := do
  let name ← t.head.nameText e
  let args ← evaluateAll e t.arguments
  let opts ← evaluateOptions e t.options
  return ⟨name, args, sortEntries opts⟩

/-! ## Writing -/

/-- Writes a text, with the indentation of the inclusion that it stands in. -/
def write (e : Setting) (s : String) (p : Progress) : Progress := { p with output := p.output.write e.indentation s }

/-- Writes the value of a tag without arguments. -/
def writeValue (e : Setting) (t : Tag) (p : Progress) : Except FaultKind Progress := do
  let o ← t.head.evaluate e
  if o.found.isMissing then throw (.noValue o.written)
  return write e o.found.value.plain p

/-- Writes the value of a call, or checks a call that has none. -/
def writeCall (e : Setting) (t : Tag) (p : Progress) : Except FaultKind Progress := do
  let i ← t.invocation e
  match helperNamed? i.name with
  | none => throw (.unknownHelper i.name)
  | some h =>
    match ← h.value? i with
    | some v => return if h.isTest then { p with output := p.output.append v.plain } else write e v.plain p
    | none =>
      h.checkWithoutBody i
      return p

/-- Writes what a tag gives: a call when it has arguments or is named like a helper, a value otherwise. -/
def writeExpression (e : Setting) (t : Tag) (p : Progress) : Except FaultKind Progress :=
  if t.isBare then do
    let name ← t.head.nameText e
    if (helperNamed? name).isSome then writeCall e t p else writeValue e t p
  else writeCall e t p

/-! ## Scopes of blocks -/

/-- The setting with one more scope. -/
def Setting.opened (e : Setting) (s : Scope) : Setting := { e with scopes := s :: e.scopes }

/-- The scope whose current value is that of an operand. -/
def Scope.of (found : Found) : Scope :=
  match found.way? with
  | some way => { base := way }
  | none => { own := some found.value }

/-- The names that a block gives to the current value and to its key. -/
def scopeNames (bound : List String) (found : Found) (key : Value) : List (String × Option Value) :=
  let first (name : String) : String × Option Value :=
    (name, match found.way? with
      | some _ => none
      | none => some found.value)
  match bound with
  | [] => []
  | [name] => [first name]
  | name :: keyName :: _ => [first name, (keyName, some key)]

/-- The scope of one round of a loop: the current value is the member of a collection at a key. -/
def roundScope (collection : Found) (bound : List String) (count index : Nat) (key : String) (keyValue v : Value)
    (extra : List (String × Value)) : Scope :=
  let found : Found :=
    match collection.way? with
    | some way => .reached (way ++ [key]) v
    | none => .computed v
  { Scope.of found with
    loop :=
      [("first", .boolean (index = 0)), ("last", .boolean (index + 1 = count)), ("index", .integer index)] ++ extra
    names := scopeNames bound found keyValue }

/-- The scopes of the rounds over a collection; `none` when there is nothing to go over. -/
def rounds? (collection : Found) (bound : List String) : Option (List Scope) :=
  match collection.value with
  | .list items =>
    some (items.zipIdx.map fun (v, n) =>
      roundScope collection bound items.length n (toString n) (.integer n) v [])
  | .table entries =>
    some (entries.zipIdx.map fun ((k, v), n) =>
      roundScope collection bound entries.length n k (.text k) v [("key", .text k)])
  | _ => none

/-! ## Parts -/

/-- A function that fills in an inclusion: the tag, its margin and its body. -/
abbrev Inclusions := Setting → Tag → Margin → Option (List Part) → Progress → Outcome

/-- A fault at a place. -/
def placed {α : Type} (place : Option Place) : Except FaultKind α → ExceptT Fault Option α
  | .ok a => pure a
  | .error kind => throw ⟨kind, place⟩

/-- Gives a fault the place of the part that it lies in. -/
def located (place : Option Place) (o : Outcome) : Outcome := o.adapt (·.within place)

/-- The fault of a block that has nothing to go over and no other branch. -/
def givesUp (o : Operand) : Outcome := throw ⟨.noValue o.written, none⟩

/-- Carries out a directive: only `inline` is known, which names its body. -/
def direct (e : Setting) (t : Tag) (body : Option (List Part)) (p : Progress) : Except FaultKind Progress := do
  let i ← t.invocation e
  if i.name != "inline" then throw (.unknownDirective i.name)
  let o ← i.argument "inline" 0
  match o.found.value, body with
  | .text name, some parts => return { p with named := (name, parts) :: p.named }
  | .text _, none => throw .noDirectiveBody
  | _, _ => throw .notText

/-- Fills in what stands in a scope of its own: the bodies that are named there are forgotten behind it. -/
def enclosed (e : Setting) (p : Progress) (fill : Setting → Progress → Outcome) : Outcome := do
  let after ← fill { e with bodies := p.named ++ e.bodies } { p with named := [] }
  return { after with named := p.named }

/-- Fills in a part that has a margin: `indents` says whether its first text is indented. -/
def withMargin (indents : Bool) (p : Progress) (fill : Progress → Outcome) : Outcome := do
  let after ← fill { p with output := p.output.beginning indents }
  return { after with output := p.output.behind after.output }

mutual

/-- Fills in a part. -/
def renderPart (inclusions : Inclusions) (e : Setting) (p : Progress) : Part → Outcome
  | .text s => pure (write e s p)
  | .comment => pure p
  | .expression place t => placed (some place) (writeExpression e t p)
  | .directive place t body => placed (some place) (direct e t body p)
  | .inclusion place t margin body => located (some place) (inclusions e t margin body p)
  | .block place t margin body inverse =>
    located place <| withMargin (p.output.pending || (margin.alone && p.output.lineEnded)) p fun p => do
      let i ← placed none (t.invocation e)
      match helperNamed? i.name with
      | none => throw ⟨.unknownHelper i.name, none⟩
      | some .ifTrue => do
        if ← placed none i.condition then renderParts inclusions e p body else renderInverse inclusions e p inverse
      | some .unlessTrue => do
        if ← placed none i.condition then renderInverse inclusions e p inverse else renderParts inclusions e p body
      | some .each => do
        let o ← placed none (i.argument "each" 0)
        match rounds? o.found t.bound, inverse with
        | some [], none => pure p
        | some (s :: rest), _ =>
          enclosed e p fun e p => (s :: rest).foldlM (fun p s => renderParts inclusions (e.opened s) p body) p
        | _, some _ => renderInverse inclusions e p inverse
        | none, none => givesUp o
      | some .within => do
        let o ← placed none (i.argument "with" 0)
        if isTruthy false o.found.value then
          let names := scopeNames (t.bound.take 1) o.found .null
          let names := if t.bound.length = 1 then names else []
          enclosed e p fun e p => renderParts inclusions (e.opened { Scope.of o.found with names }) p body
        else
          match inverse with
          | some _ => renderInverse inclusions e p inverse
          | none => givesUp o
      | some .verbatim => renderParts inclusions e p body
      | some .log => do
        placed none i.checkLevel
        return p
      | some h => do
        let v ← placed none (h.value? i)
        if h.isTest then
          if isTruthy false (v.getD .null) then renderParts inclusions e p body
          else renderInverse inclusions e p inverse
        else return write e (v.getD .null).plain p

/-- Fills in parts, one after the other. -/
def renderParts (inclusions : Inclusions) (e : Setting) (p : Progress) : List Part → Outcome
  | [] => pure p
  | part :: rest => do
    let p ← renderPart inclusions e p part
    renderParts inclusions e p rest

/-- Fills in the parts that stand for the other case, if there are any. -/
def renderInverse (inclusions : Inclusions) (e : Setting) (p : Progress) : Option (List Part) → Outcome
  | none => pure p
  | some parts => renderParts inclusions e p parts

end

/-! ## Inclusions -/

/-- The name that stands for the body given to an inclusion. -/
def bodyName : String := "@partial-block"

/-- The parts that an inclusion stands for: those with its name, or else its own body. -/
def includedParts (e : Setting) (name : String) (body : Option (List Part)) (p : Progress) :
    Except FaultKind (List Part) :=
  match (entryOf? name (p.named ++ e.bodies)).or body with
  | some parts => .ok parts
  | none => .error (if name = bodyName then .noInclusionBody else .unknownInclusion name)

/-- A value as a table: the items of a list and the characters of a text are entries under their indices. -/
def spreadEntries : Value → List (String × Value)
  | .table entries => entries
  | .list items => items.zipIdx.map fun (v, n) => (toString n, v)
  | .text s => s.toList.zipIdx.map fun (c, n) => (toString n, .text (String.singleton c))
  | _ => []

/-- The scope inside an inclusion. Its current value is the first argument, or else the current value outside; options
are added to it, and they are names as well. -/
def inclusionScope (e : Setting) (i : Invocation) : Except FaultKind Scope := do
  let current := e.scopes.head?.getD {}
  let s : Scope :=
    match i.arguments.head? with
    | some o => .of o.found
    | none => { base := current.base, own := current.own }
  if i.options.isEmpty then return s
  else
    let v ← s.reach e.root []
    let added := i.options.map fun (name, o) => (name, o.found.value)
    return { s with
      own := some (.table (sortEntries (spreadEntries v.value ++ added)))
      names := added.map fun (name, v) => (name, some v) }

/-- Fills in the body of an inclusion, whose text then has a name. -/
def nameBody (inclusions : Inclusions) (e : Setting) (body : Option (List Part)) (p : Progress) : Outcome :=
  match body with
  | none => pure p
  | some parts => do
    let done ← renderParts inclusions e { p with output := { p.output with text := "" } } parts
    return ⟨{ done.output with text := p.output.text }, (bodyName, [.text done.output.text]) :: done.named⟩

/-- Fills in an inclusion, given the function for the inclusions in it. -/
def includeWith (inclusions : Inclusions) : Inclusions := fun e t margin body p => do
  let i ← placed none (t.invocation e)
  let parts ← placed none (includedParts e i.name body p)
  let s ← placed none (inclusionScope e i)
  let indents := margin.alone && (p.output.lineEnded || !margin.indentation.isEmpty)
  withMargin indents p fun p => enclosed e p fun e p => do
    let e := e.opened s
    let p ← nameBody inclusions e body p
    renderParts inclusions { e with indentation := e.indentation ++ margin.indentation } p parts

/-- Inclusions for which there is room, given how many fit into one another. Those that lie deeper have no result. -/
def Inclusions.upTo : Nat → Inclusions
  | 0 => fun _ _ _ _ _ => none
  | n + 1 => includeWith (upTo n)

/-- The text of a template for a value, given the room for inclusions. -/
def renderText (room : Nat) (parts : List Part) (root : Value) : Option (Except Fault String) :=
  let start : Setting := { root, scopes := [{}], bodies := [], indentation := "" }
  ExceptT.run do
    let done ← renderParts (.upTo room) start ⟨{}, []⟩ parts
    return done.output.text

end GatewayRegistrar.Template
