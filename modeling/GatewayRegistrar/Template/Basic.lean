import GatewayRegistrar.Service.Identity
import GatewayRegistrar.Template.Layout
import GatewayRegistrar.Template.Render

/-!
# Tag templates

The tags of a registration are filled in from the service: its name in the catalog, its tags as they are, and its stage
names. A template with a fault gives the empty tag, so that the tags keep the places of their templates. Where filling
in one of them has no result, there are no tags.
-/

namespace GatewayRegistrar

/-- What templates may refer to. -/
def Identity.templateValue (i : Identity) : Value :=
  .table [("Name", .text i.canonicalName), ("StageNames", .ofTexts i.stageNames),
    ("Tags", .ofTextTable (sortEntries i.tags))]

/-- Why a template gives no text. -/
inductive TemplateFault where
  | malformed
  | rendering (f : Template.Fault)
deriving DecidableEq, Repr

/-- The fault in words. -/
def TemplateFault.message : TemplateFault → String
  | malformed => "Template error: Template is malformed"
  | rendering f => "Template error: " ++ f.message

/-- The tag that a template gives for a service, given the room for inclusions. -/
def renderTemplate (room : Nat) (template : String) (i : Identity) : Option (Except TemplateFault String) :=
  match Template.partsOfText? template with
  | none => some (.error .malformed)
  | some parts => (Template.renderText room parts i.templateValue).map (·.mapError .rendering)

/-- One tag for each template, empty where the template has a fault. -/
def renderTags (room : Nat) (templates : List String) (i : Identity) : Option (List String) :=
  templates.mapM fun t => (renderTemplate room t i).map (·.toOption.getD "")

/-- The tags that are not empty. -/
def renderCompact (room : Nat) (templates : List String) (i : Identity) : Option (List String) :=
  (renderTags room templates i).map (·.filter (!·.isEmpty))

/-- How the tags of a registration are collected. -/
inductive TagMode where
  | strict
  | compact
deriving DecidableEq, Repr

/-- The tags in the given mode. -/
def TagMode.render : TagMode → Nat → List String → Identity → Option (List String)
  | strict => renderTags
  | compact => renderCompact

end GatewayRegistrar
