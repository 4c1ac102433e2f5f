import GatewayRegistrar.Proofs.Json.Values
import GatewayRegistrar.Proofs.Value.Decoding
import GatewayRegistrar.Service.Resource

/-!
# Resources and their texts

A resource is decoded from its table with its tags in normal form (`Resource.decode_encode`). Of a list of resources
only the fields of each are asked for, and these are all that is written (`readsBack_resources`): **the text of a list
of resources is read as that list**, in either layout (`parseSelected?_resources`).
-/

namespace GatewayRegistrar
namespace Resource

open Json

/-- The resource with its tags in normal form. -/
def normalized (r : Resource) : Resource := { r with tags := sortEntries r.tags }

/-! ## Decoding -/

theorem optionalText_ofText? (s? : Option String) : Decoder.optionalText (.ofText? s?) = .ok s? := by
  cases s? <;> rfl

/-- **What is encoded of a resource is decoded with its tags in normal form.** -/
theorem decode_encode (r : Resource) : decode r.encode = .ok r.normalized := by
  have hid := optionalText_ofText? r.id?
  have hname := optionalText_ofText? r.name?
  have htags := mapOf_table optionalText_ofText? r.tags
  have hstages := listOf_ofTexts r.stageNames
  have hentries : recordEntries "RawResource" 2 true fields r.encode = .ok _ :=
    recordEntries_table (by decide) <| .cons hid <| .cons hname <| .cons htags <| .cons hstages .nil
  simp [decode, hentries, optionalField, entryOf?, hid, hname, htags, hstages, bind, Except.bind, pure, Except.pure,
    normalized]

/-! ## Texts -/

/-- All of each resource is asked for. -/
theorem readsBack_resources (ds : List Resource) (l : Layout) {n : Nat} :
    ReadsBack (selected selection (n + 3)) l (.list (ds.map encode)) := by
  refine readsBack_items fun v hv => ?_
  obtain ⟨d, _, rfl⟩ := List.mem_map.1 hv
  refine readsBack_fields ?_ l.deeper
  simp [fields, plain_ofText?, plain_table plain_ofText?, plain_ofTexts]

/-- **The text of a list of resources is read as that list**, in either layout. -/
theorem parseSelected?_resources (ds : List Resource) (l : Layout) :
    parseSelected? selection (String.ofList (write l (.list (ds.map encode)))) = some (.list (ds.map encode)) := by
  have hread := parseSelected?_write (readsBack_resources ds l) [] (by simp)
  rwa [List.append_nil] at hread

/-- What is read are the resources with their tags in normal form. -/
theorem listOf_resources (ds : List Resource) :
    Decoder.listOf decode (.list (ds.map encode)) = .ok (ds.map normalized) :=
  mapM_ok decode_encode ds

end Resource
end GatewayRegistrar
