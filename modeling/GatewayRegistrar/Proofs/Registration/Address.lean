import GatewayRegistrar.Proofs.Config.Layers
import GatewayRegistrar.Proofs.Config.Validity
import GatewayRegistrar.Registration.Consul
import Mathlib.Data.List.DropRight

/-!
# Where registrations go

The URL of the register request is the address of the agent without the slashes at its end, and a path behind it
(`registerUrl_eq`). Slashes are taken away even from the scheme: what is left of an address that ends with its scheme
has none any more (`hasScheme_registerUrl_iff`). A URL names a host where something other than a slash follows its
scheme, and so does the URL of the request exactly where the address does (`namesHost_registerUrl_iff`). That an
address is valid says only that it has a scheme.
-/

namespace GatewayRegistrar.Consul

/-- The schemes by which an agent is reached. -/
def schemes : List String := ["http://", "https://"]

/-- What stands behind the scheme of a URL. -/
def BehindScheme (url : String) (rest : List Char) : Prop := ∃ scheme ∈ schemes, url.toList = scheme.toList ++ rest

/-- Whether a URL says where the agent is: something other than a slash follows its scheme at once. -/
def NamesHost (url : String) : Prop := ∃ c rest, BehindScheme url (c :: rest) ∧ c ≠ '/'

variable {url : String} {rest : List Char}

/-! ## Schemes -/

theorem hasScheme_iff : hasScheme url = true ↔ ∃ rest, BehindScheme url rest := by
  simp only [hasScheme, startsWith, Bool.or_eq_true, Option.isSome_iff_exists, dropStart?_eq_some_iff, BehindScheme,
    schemes, List.mem_cons, List.not_mem_nil, or_false, exists_eq_or_imp, exists_eq_left, exists_or]

/-- A URL has one scheme. -/
theorem BehindScheme.unique {other : List Char} (h : BehindScheme url rest) (hother : BehindScheme url other) :
    rest = other := by
  obtain ⟨scheme, hscheme, hurl⟩ := h
  obtain ⟨scheme', hscheme', hurl'⟩ := hother
  rw [hurl] at hurl'
  by_cases hsame : scheme = scheme'
  · rw [hsame] at hurl'
    exact List.append_cancel_left hurl'
  · simp only [schemes, List.mem_cons, List.not_mem_nil, or_false] at hscheme hscheme'
    rcases hscheme with rfl | rfl <;> rcases hscheme' with rfl | rfl <;> simp at hsame hurl'

/-! ## Slashes at the end -/

/-- What is left of a text without the slashes at its end. -/
abbrev cut (cs : List Char) : List Char := cs.rdropWhile (· == '/')

theorem toList_withoutSlashes (s : String) : (withoutSlashes s).toList = cut s.toList := by
  simp [withoutSlashes, List.rdropWhile]

/-- What is taken away is slashes only. -/
theorem exists_cut_append (cs : List Char) : ∃ n, cs = cut cs ++ List.replicate n '/' := by
  have hall : ∀ c ∈ cs.rtakeWhile (· == '/'), c = '/' := fun c hc => by simpa using List.mem_rtakeWhile_imp hc
  refine ⟨(cs.rtakeWhile (· == '/')).length, ?_⟩
  rw [← List.eq_replicate_iff.2 ⟨rfl, hall⟩]
  exact List.rdropWhile_append_rtakeWhile.symm

theorem getLast?_cut (cs : List Char) : (cut cs).getLast? ≠ some '/' := fun h => by
  have hne : cut cs ≠ [] := fun hnil => by simp [hnil] at h
  have hlast := List.rdropWhile_last_not (· == '/') cs hne
  rw [List.getLast?_eq_some_getLast hne] at h
  simp [Option.some.inj h] at hlast

/-- Nothing is taken away before a character that is no slash. -/
theorem cut_append {front : List Char} (h : ∃ c ∈ rest, c ≠ '/') : cut (front ++ rest) = front ++ cut rest := by
  have hrest : (rest.reverse.dropWhile (· == '/')).isEmpty = false := by
    rw [List.isEmpty_eq_false_iff, Ne, List.dropWhile_eq_nil_iff]
    obtain ⟨c, hc, hne⟩ := h
    exact fun hall => hne (beq_iff_eq.1 (hall c (List.mem_reverse.2 hc)))
  simp [cut, List.rdropWhile, List.dropWhile_append, hrest]

theorem cut_append_slashes {front : List Char} (h : ∀ c ∈ rest, c = '/') : cut (front ++ rest) = cut front := by
  have hrest : rest.reverse.dropWhile (· == '/') = [] :=
    List.dropWhile_eq_nil_iff.2 fun c hc => beq_iff_eq.2 (h c (List.mem_reverse.1 hc))
  simp [cut, List.rdropWhile, List.dropWhile_append, hrest]

/-- A text that is not all slashes keeps its first character. -/
theorem cut_eq_cons {c : Char} (h : ∃ d ∈ c :: rest, d ≠ '/') : ∃ more, cut (c :: rest) = c :: more := by
  cases hcut : cut (c :: rest) with
  | nil =>
    obtain ⟨n, hn⟩ := exists_cut_append (c :: rest)
    obtain ⟨d, hd, hne⟩ := h
    rw [hcut, List.nil_append] at hn
    exact absurd (List.eq_of_mem_replicate (hn ▸ hd)) hne
  | cons d more =>
    have hprefix : cut (c :: rest) <+: c :: rest := List.rdropWhile_prefix _ _
    rw [hcut] at hprefix
    exact ⟨more, by rw [(List.cons_prefix_cons.1 hprefix).1]⟩

/-! ## The URL of the request -/

/-- The path of the register request. -/
def registerPath : String := "/v1/catalog/register"

variable {address : String}

/-- **The URL is the address without the slashes at its end, and the path.** -/
theorem registerUrl_eq (address : String) : ∃ base n, address.toList = base ++ List.replicate n '/' ∧
    base.getLast? ≠ some '/' ∧ (registerUrl address).toList = base ++ registerPath.toList := by
  obtain ⟨n, hn⟩ := exists_cut_append address.toList
  refine ⟨_, n, hn, getLast?_cut _, ?_⟩
  rw [registerUrl, String.toList_append, toList_withoutSlashes, registerPath]

/-- An address with more than slashes behind its scheme keeps the scheme. -/
theorem behindScheme_registerUrl (h : BehindScheme address rest) (hrest : ∃ c ∈ rest, c ≠ '/') :
    BehindScheme (registerUrl address) (cut rest ++ registerPath.toList) := by
  obtain ⟨scheme, hscheme, haddress⟩ := h
  refine ⟨scheme, hscheme, ?_⟩
  rw [registerUrl, String.toList_append, toList_withoutSlashes, haddress, cut_append hrest, List.append_assoc,
    registerPath]

/-- An address with nothing but slashes behind its scheme loses the scheme. -/
theorem hasScheme_registerUrl_of_slashes (h : BehindScheme address rest) (hrest : ∀ c ∈ rest, c = '/') :
    hasScheme (registerUrl address) = false := by
  obtain ⟨scheme, hscheme, haddress⟩ := h
  have hbase : withoutSlashes address = String.ofList (cut scheme.toList) := by
    rw [← String.ofList_toList (s := withoutSlashes address), toList_withoutSlashes, haddress, cut_append_slashes hrest]
  rw [registerUrl, hbase]
  simp only [schemes, List.mem_cons, List.not_mem_nil, or_false] at hscheme
  rcases hscheme with rfl | rfl <;> decide

theorem hasScheme_registerUrl_iff (h : BehindScheme address rest) :
    hasScheme (registerUrl address) = true ↔ ∃ c ∈ rest, c ≠ '/' := by
  refine ⟨fun hscheme => ?_, fun hrest => hasScheme_iff.2 ⟨_, behindScheme_registerUrl h hrest⟩⟩
  by_contra hnone
  rw [hasScheme_registerUrl_of_slashes h (by simpa using hnone)] at hscheme
  cases hscheme

/-- **The URL names a host exactly where the address does.** -/
theorem namesHost_registerUrl_iff (h : BehindScheme address rest) :
    NamesHost (registerUrl address) ↔ NamesHost address := by
  constructor
  · rintro ⟨c, more, hurl, hc⟩
    obtain ⟨d, hd, hne⟩ := (hasScheme_registerUrl_iff h).1 (hasScheme_iff.2 ⟨_, hurl⟩)
    have hbehind := hurl.unique (behindScheme_registerUrl h ⟨d, hd, hne⟩)
    cases rest with
    | nil => simp at hd
    | cons first rest =>
      obtain ⟨kept, hkept⟩ := cut_eq_cons ⟨d, hd, hne⟩
      rw [hkept, List.cons_append] at hbehind
      obtain ⟨rfl, _⟩ := List.cons.inj hbehind
      exact ⟨c, rest, h, hc⟩
  · rintro ⟨c, more, haddress, hc⟩
    have hsome : ∃ d ∈ c :: more, d ≠ '/' := ⟨c, List.mem_cons_self, hc⟩
    obtain ⟨kept, hkept⟩ := cut_eq_cons hsome
    have hurl := behindScheme_registerUrl haddress hsome
    rw [hkept, List.cons_append] at hurl
    exact ⟨c, _, hurl, hc⟩

/-- An address from the environment names a host where it says so itself, or where it has no scheme and begins with
something other than a slash. -/
theorem namesHost_withScheme_iff (given : String) : NamesHost (withScheme given) ↔
    NamesHost given ∨ hasScheme given = false ∧ ∃ c rest, given.toList = c :: rest ∧ c ≠ '/' := by
  unfold withScheme
  split
  · rename_i hscheme
    simp [hscheme]
  · rename_i hscheme
    have hbehind : BehindScheme ("http://" ++ given) given.toList :=
      ⟨"http://", List.mem_cons_self, String.toList_append⟩
    have hnot : ¬ NamesHost given := fun ⟨_, _, h, _⟩ => hscheme (hasScheme_iff.2 ⟨_, h⟩)
    simp only [hnot, false_or, Bool.eq_false_iff.2 hscheme, true_and]
    constructor
    · rintro ⟨c, rest, h, hc⟩
      exact ⟨c, rest, hbehind.unique h, hc⟩
    · rintro ⟨c, rest, h, hc⟩
      exact ⟨c, rest, h ▸ hbehind, hc⟩

/-- **What the validity of an address is worth.** The URL for a valid configuration is the address without the slashes
at its end, and the path. It begins with a scheme exactly where something other than slashes follows the scheme of the
address, and names a host exactly where the address does; an address that the environment gives does so where the text
of the variable names a host, or where it has no scheme and begins with something other than a slash. -/
theorem registerUrl_of_isValid {c : Config} (h : c.isValid = true) :
    (∃ base n, c.agent.address.toList = base ++ List.replicate n '/' ∧ base.getLast? ≠ some '/' ∧
      (registerUrl c.agent.address).toList = base ++ registerPath.toList) ∧
    ((∃ rest, BehindScheme (registerUrl c.agent.address) rest) ↔
      ∃ rest, BehindScheme c.agent.address rest ∧ ∃ x ∈ rest, x ≠ '/') ∧
    (NamesHost (registerUrl c.agent.address) ↔ NamesHost c.agent.address) ∧
    ∀ given, c.agent.address = withScheme given →
      (NamesHost (registerUrl c.agent.address) ↔
        NamesHost given ∨ hasScheme given = false ∧ ∃ x rest, given.toList = x :: rest ∧ x ≠ '/') := by
  obtain ⟨_, _, hscheme, _, _⟩ := Config.isValid_iff.1 h
  obtain ⟨rest, hbehind⟩ := hasScheme_iff.1 hscheme
  refine ⟨registerUrl_eq _, ?_, namesHost_registerUrl_iff hbehind, fun given hgiven => ?_⟩
  · rw [← hasScheme_iff, hasScheme_registerUrl_iff hbehind]
    constructor
    · exact fun hrest => ⟨rest, hbehind, hrest⟩
    · rintro ⟨other, hother, hrest⟩
      rwa [hbehind.unique hother]
  · rw [namesHost_registerUrl_iff hbehind, hgiven, namesHost_withScheme_iff]

/-- The address that is meant for a proxy, with a path and slashes behind it. -/
theorem registerUrl_behind_proxy :
    let c := (Config.standard "now").override [("CONSUL_HTTP_ADDR", "proxy/consul//")]
    c.isValid = true ∧ registerUrl c.agent.address = "http://proxy/consul/v1/catalog/register" ∧
      NamesHost (registerUrl c.agent.address) := by
  intro c
  have hvalid : c.isValid = true := by decide +kernel
  refine ⟨hvalid, by decide +kernel, ?_⟩
  exact ((registerUrl_of_isValid hvalid).2.2.2 "proxy/consul//" (by decide +kernel)).2
    (.inr ⟨by decide +kernel, 'p', "roxy/consul//".toList, by decide +kernel, by decide⟩)

/-- An empty variable gives a valid configuration whose URL has no scheme and no host. -/
theorem registerUrl_of_empty_variable :
    let c := (Config.standard "now").override [("CONSUL_HTTP_ADDR", "")]
    c.isValid = true ∧ registerUrl c.agent.address = "http:/v1/catalog/register" ∧
      ¬ (∃ rest, BehindScheme (registerUrl c.agent.address) rest) ∧ ¬ NamesHost (registerUrl c.agent.address) := by
  intro c
  have hscheme : ¬ ∃ rest, BehindScheme (registerUrl c.agent.address) rest := by
    rw [← hasScheme_iff]
    decide +kernel
  exact ⟨by decide +kernel, by decide +kernel, hscheme, fun ⟨_, _, h, _⟩ => hscheme ⟨_, h⟩⟩

end GatewayRegistrar.Consul
