import GatewayRegistrar.Json.Parser
import GatewayRegistrar.Value.Decode

/-!
# Resources

A resource is a gateway as the provider lists it: nothing about it is certain, not even its identifier.
-/

namespace GatewayRegistrar

/-- A listed gateway. A tag may be reported without a value. -/
structure Resource where
  id? : Option String := none
  name? : Option String := none
  tags : List (String × Option String) := []
  stageNames : List String := []
deriving DecidableEq, Repr

/-- An order in which the tags of a resource are gone through. A map of tags has none of its own, and each process draws
one anew. -/
structure TagOrder where
  arrange : List (String × Option String) → List (String × Option String)
  perm : ∀ tags, (arrange tags).Perm tags

/-- The order in which the tags are listed. -/
def TagOrder.asListed : TagOrder := ⟨id, List.Perm.refl⟩

namespace Resource

/-- The resource with its tags in an order. -/
def inOrder (o : TagOrder) (r : Resource) : Resource := { r with tags := o.arrange r.tags }

/-- The resource with the given identifier and name. -/
def named (id name : String) : Resource := { id? := some id, name? := some name }

/-- The resource with one more tag, which takes the place of a tag with the same key. -/
def withTag (r : Resource) (key value : String) : Resource :=
  { r with tags := insertSorted key (some value) r.tags }

/-- The fields of a resource. -/
def fields : FieldChecks :=
  [("resource_id", Decoder.optionalText.check), ("name", Decoder.optionalText.check),
   ("tags", (Decoder.mapOf Decoder.optionalText).check), ("stage_names", (Decoder.listOf Decoder.text).check)]

/-- What a list of resources asks for. -/
def selection : Json.Selection := .items (.fields (fields.map (·.1)))

/-- Decodes a resource. Identifier and name may be absent from a table but not from a list. -/
def decode : Decoder Resource := fun v => do
  let entries ← recordEntries "RawResource" 2 true fields v
  return {
    id? := ← optionalField "resource_id" Decoder.optionalText none entries
    name? := ← optionalField "name" Decoder.optionalText none entries
    tags := ← optionalField "tags" (Decoder.mapOf Decoder.optionalText) [] entries
    stageNames := ← optionalField "stage_names" (Decoder.listOf Decoder.text) [] entries }

/-- The resource as a table with all four fields. -/
def encode (r : Resource) : Value :=
  .table [("resource_id", .ofText? r.id?), ("name", .ofText? r.name?),
    ("tags", .table (r.tags.map fun (k, v) => (k, .ofText? v))), ("stage_names", .ofTexts r.stageNames)]

end Resource

end GatewayRegistrar
