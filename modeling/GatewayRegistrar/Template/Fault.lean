import GatewayRegistrar.Template.Tree
import GatewayRegistrar.Text.Quoted

/-!
# Faults in filling in a template
-/

namespace GatewayRegistrar.Template

/-- Why a template cannot be filled in. -/
inductive FaultKind where
  | noValue (path : Option String)
  | notAnIndex (key : String)
  | unknownHelper (name : String)
  | noArgument (helper : String) (index : Nat)
  | noNamedArgument (helper name : String)
  | unknownInclusion (name : String)
  | noInclusionBody
  | unknownDirective (name : String)
  | noDirectiveBody
  | notText
  | unknownLogLevel (level : String)
deriving DecidableEq, Repr

/-- The reason in words. -/
def FaultKind.reason : FaultKind → String
  | noValue path =>
    "Failed to access variable in strict mode "
      ++ (match path with
        | some p => "Some(" ++ quotedForm p ++ ")"
        | none => "None")
  | notAnIndex key => "Cannot access array/vector with string index, " ++ key
  | unknownHelper name => "Helper not found " ++ name
  | noArgument helper index =>
    "Helper/Decorator " ++ helper ++ " param at index " ++ toString index ++ " required but not found"
  | noNamedArgument helper name =>
    "Helper/Decorator " ++ helper ++ " param with name " ++ name ++ " required but not found"
  | unknownInclusion name => "Partial not found " ++ name
  | noInclusionBody => "Partial block cound not be found"
  | unknownDirective name => "Decorator not found " ++ name
  | noDirectiveBody => "Block content required"
  | notText => "Invalid param type, String expected"
  | unknownLogLevel level => "Invalid logging level: " ++ level

/-- A fault with the place of the tag that it lies in, as soon as that is known. -/
structure Fault where
  kind : FaultKind
  place : Option Place
deriving DecidableEq, Repr

/-- The fault in words. -/
def Fault.message (f : Fault) : String :=
  match f.place with
  | some p =>
    "Error rendering \"Unnamed template\" line " ++ toString p.line ++ ", col " ++ toString p.column ++ ": "
      ++ f.kind.reason
  | none => f.kind.reason

/-- The fault, at the given place unless it has one already. -/
def Fault.within (place : Option Place) (f : Fault) : Fault := { f with place := f.place.or place }

end GatewayRegistrar.Template
