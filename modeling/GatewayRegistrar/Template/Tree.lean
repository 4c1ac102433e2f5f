import GatewayRegistrar.Template.Path
import GatewayRegistrar.Value.Basic

/-!
# Templates

A template is a list of parts: text that stands for itself, and tags that are filled in. Every tag knows its place, so
that a fault can be reported there.
-/

namespace GatewayRegistrar.Template

/-- A place in a template: the line and the column, counted from one. -/
structure Place where
  line : Nat
  column : Nat
deriving DecidableEq, Repr

/-- What an argument asks for. -/
inductive Term where
  | path (p : Path)
  | literal (v : Value)
  | call (helper : String) (arguments : List Term) (options : List (String × Term))
deriving Repr, Inhabited

/-- What a tag begins with: a name, a path, or a call whose result is the name. -/
inductive Head where
  | name (text : String)
  | path (p : Path)
  | call (t : Term)
deriving Repr, Inhabited

/-- What stands in a tag. -/
structure Tag where
  head : Head
  arguments : List Term
  options : List (String × Term)
  bound : List String
deriving Repr, Inhabited

/-- The name with which a tag is closed; `none` when only a computation gives it. -/
def Tag.closingName? (t : Tag) : Option String :=
  match t.head with
  | .name text => some text
  | .path p => some p.written
  | .call _ => none

/-- Whether the tag has neither arguments nor options. -/
def Tag.isBare (t : Tag) : Bool := t.arguments.isEmpty && t.options.isEmpty

/-- How a tag stands on its line: whether it is alone there, and the blanks before it that each line of an inclusion is
to begin with. -/
structure Margin where
  alone : Bool
  indentation : String
deriving DecidableEq, Repr, Inhabited

/-- A part of a template. A block that continues another one has no place of its own. -/
inductive Part where
  | text (s : String)
  | comment
  | expression (place : Place) (tag : Tag)
  | block (place : Option Place) (tag : Tag) (margin : Margin) (body : List Part) (inverse : Option (List Part))
  | directive (place : Place) (tag : Tag) (body : Option (List Part))
  | inclusion (place : Place) (tag : Tag) (margin : Margin) (body : Option (List Part))
deriving Repr, Inhabited

end GatewayRegistrar.Template
