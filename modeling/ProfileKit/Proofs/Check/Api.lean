import ProfileKit.Proofs.Check.Pipeline
import ProfileKit.Settings

/-!
# Which API profiles are accepted

What makes an API profile acceptable is said by `AcceptableApi`, without the check: a valid id, numbers that are
counts, a type, and what the type asks for. A single service needs an address on the web and a model. A pool is
either made of members, all of which are known as far as any API profile is, or of endpoints, all of which are
services of their own; it is never both (`ApiProfile.PoolsMembers`, `ApiProfile.PoolsEndpoints`).

The check finds no error in an API profile if and only if it is acceptable and, where types that are not known
are errors, of a known type (`Check.clean_api_iff_acceptable`). With the settings that apply when none are made
a type may be any text that is not blank (`Check.api_accepted_iff`).
-/

namespace ProfileKit

/-! ## Specification -/

/-- A text is there and is not blank. -/
def IsFilled (s : Option String) : Prop := ∃ text, s = some text ∧ Text.trim text ≠ ""

/-- A text is there that is an address on the web, with any blanks around it. -/
def IsAddress (s : Option String) : Prop := ∃ text, s = some text ∧ Url.isWebAddress (Text.trim text) = true

/-- An endpoint that can be called as a service of its own. -/
structure ApiEndpoint.Usable (e : ApiEndpoint) : Prop where
  model : IsFilled e.model
  address : IsAddress e.baseUrl
  weight : IsCount e.weight

namespace ApiProfile

variable {x : ReferenceIndex} {p : ApiProfile} {id : String}

/-- The type is this name, with any blanks around it. -/
def HasType (p : ApiProfile) (name : String) : Prop := ∃ text, p.type = some text ∧ Text.trim text = name

/-- One of the members is this id, which is not empty, with any blanks around it. -/
def HasMember (p : ApiProfile) (id : String) : Prop :=
  ∃ text ∈ p.members.getD [], Text.trim text = id ∧ id ≠ ""

/-- A pool in the older way: there are members and no endpoints. If any API profile is known, all members are. -/
structure PoolsMembers (x : ReferenceIndex) (p : ApiProfile) : Prop where
  noEndpoints : p.endpoints.getD [] = []
  someMember : ∃ id, p.HasMember id
  known : (∀ id, p.HasMember id → x.contains .api id = true) ∨ ∀ other, x.contains .api other = false

/-- A pool of endpoints, without members. -/
structure PoolsEndpoints (p : ApiProfile) : Prop where
  someEndpoint : p.endpoints.getD [] ≠ []
  noMember : ∀ id, ¬ p.HasMember id
  usable : ∀ e ∈ p.endpoints.getD [], e.Usable

end ApiProfile

/-- An API profile that can be called, as far as other API profiles are known. -/
structure AcceptableApi (x : ReferenceIndex) (p : ApiProfile) : Prop where
  id : ∃ id, p.id = some id ∧ Id.isValid (Text.trim id) = true
  timeout : IsCount p.timeout
  concurrency : IsCount p.concurrency
  rpm : IsCount p.rpm
  maxRetries : IsCount p.maxRetries
  type : IsFilled p.type
  service : p.HasType "openai_compat" → IsAddress p.baseUrl ∧ IsFilled p.model
  pool : p.HasType "pool" → p.PoolsMembers x ∨ p.PoolsEndpoints

namespace Check

open Finding (errorIf warningIf)

variable {c : Context} {p : ApiProfile} {e : ApiEndpoint} {s : Option String} {name id : String}

/-! ## Texts -/

theorem filled_eq_some_iff : filled s = some name ↔ ∃ text, s = some text ∧ Text.trim text = name ∧ name ≠ "" := by
  simp only [filled, Option.bind_eq_some_iff, Text.nonBlank?_eq_some_iff]

theorem isFilled_iff : IsFilled s ↔ (filled s).isSome = true := by
  simp only [IsFilled, Option.isSome_iff_exists, filled_eq_some_iff]
  constructor
  · rintro ⟨text, hs, hne⟩
    exact ⟨_, text, hs, rfl, hne⟩
  · rintro ⟨_, text, hs, rfl, hne⟩
    exact ⟨text, hs, hne⟩

theorem isAddress_iff : IsAddress s ↔ ∃ url, filled s = some url ∧ Url.isWebAddress url = true := by
  simp only [IsAddress, filled_eq_some_iff]
  constructor
  · rintro ⟨text, hs, haddress⟩
    refine ⟨_, ⟨text, hs, rfl, fun hempty => ?_⟩, haddress⟩
    rw [hempty] at haddress
    revert haddress
    decide
  · rintro ⟨_, ⟨text, hs, rfl, -⟩, haddress⟩
    exact ⟨text, hs, haddress⟩

theorem isFilled_of_isAddress (h : IsAddress s) : IsFilled s := by
  obtain ⟨url, hurl, -⟩ := isAddress_iff.1 h
  exact isFilled_iff.2 (hurl ▸ rfl)

/-! ## Services and pools -/

theorem clean_service_iff : Clean (service p) ↔ IsAddress p.baseUrl ∧ IsFilled p.model := by
  rw [service, clean_append, isAddress_iff, isFilled_iff, clean_errorIf, Option.isNone_eq_false_iff]
  cases filled p.baseUrl <;> simp [Finding.error?]

theorem clean_endpoint_iff : Clean (endpoint e) ↔ e.Usable := by
  have hcomplete : e.isComplete = ((filled e.baseUrl).isSome && (filled e.model).isSome) := rfl
  rw [endpoint, clean_append, clean_errorIf, Bool.or_eq_false_iff, isBadCount_eq_false_iff, hcomplete]
  constructor
  · rintro ⟨⟨hfilled, hweight⟩, haddress⟩
    simp only [Bool.not_eq_false', Bool.and_eq_true, Option.isSome_iff_exists] at hfilled
    obtain ⟨⟨url, hurl⟩, model, hmodel⟩ := hfilled
    refine ⟨isFilled_iff.2 (hmodel ▸ rfl), isAddress_iff.2 ⟨url, hurl, ?_⟩, hweight⟩
    simpa [hurl] using haddress
  · rintro ⟨hmodel, haddress, hweight⟩
    obtain ⟨url, hurl, haddress⟩ := isAddress_iff.1 haddress
    simp [hurl, isFilled_iff.1 hmodel, hweight, haddress]

theorem isComplete_of_usable (h : e.Usable) : e.isComplete = true := by
  have haddress := isFilled_iff.1 (isFilled_of_isAddress h.address)
  have hmodel := isFilled_iff.1 h.model
  exact Bool.and_eq_true_iff.2 ⟨haddress, hmodel⟩

theorem mem_members_iff : id ∈ (p.members.getD []).filterMap Text.nonBlank? ↔ p.HasMember id := by
  simp only [List.mem_filterMap, Text.nonBlank?_eq_some_iff, ApiProfile.HasMember]

theorem members_eq_nil_iff :
    (p.members.getD []).filterMap Text.nonBlank? = [] ↔ ∀ id, ¬ p.HasMember id := by
  simp only [List.eq_nil_iff_forall_not_mem, mem_members_iff]

/-- The members of a pool are in order if all are known, or if no API profile is. -/
theorem clean_memberReferences_iff :
    Clean (((p.members.getD []).filterMap Text.nonBlank?).flatMap (c.reference .api)) ↔
      (∀ id, p.HasMember id → c.index.contains .api id = true) ∨
        ∀ other, c.index.contains .api other = false := by
  simp only [clean_flatMap, clean_reference, ReferenceIndex.isEmptyFor_iff, mem_members_iff]
  constructor
  · intro h
    by_cases hempty : ∀ other, c.index.contains .api other = false
    · exact .inr hempty
    · exact .inl fun id hid => (h id hid).resolve_left hempty
  · rintro (hknown | hempty) id hid
    · exact .inr (hknown id hid)
    · exact .inl hempty

theorem clean_pool_iff : Clean (pool c p) ↔ p.PoolsMembers c.index ∨ p.PoolsEndpoints := by
  simp only [pool, clean_append, clean_errorIf, Bool.and_eq_false_iff, Bool.not_eq_false', List.isEmpty_iff]
  by_cases hendpoints : p.endpoints.getD [] = []
  · have hnot : ¬ p.PoolsEndpoints := fun h => h.someEndpoint hendpoints
    simp only [hendpoints, true_or, true_and, if_true, or_iff_left hnot]
    by_cases hmembers : (p.members.getD []).filterMap Text.nonBlank? = []
    · rw [if_pos hmembers]
      constructor
      · simp [Finding.error?]
      · rintro ⟨-, ⟨id, hid⟩, -⟩
        exact absurd hid (members_eq_nil_iff.1 hmembers id)
    · rw [if_neg hmembers, clean_cons, clean_memberReferences_iff]
      rw [members_eq_nil_iff, not_forall_not] at hmembers
      exact ⟨fun h => ⟨hendpoints, hmembers, h.2⟩, fun h => ⟨rfl, h.known⟩⟩
  · have hnot : ¬ p.PoolsMembers c.index := fun h => hendpoints h.noEndpoints
    rw [or_iff_right hnot, if_neg hendpoints, members_eq_nil_iff]
    simp only [hendpoints, false_or, clean_append, clean_flatMap, clean_endpoint_iff, clean_errorIf,
      Bool.not_eq_false', List.any_eq_true]
    constructor
    · rintro ⟨hmembers, husable, -⟩
      exact ⟨hendpoints, hmembers, husable⟩
    · rintro ⟨-, hmembers, husable⟩
      obtain ⟨e, he⟩ := List.exists_mem_of_ne_nil _ hendpoints
      exact ⟨hmembers, husable, e, he, isComplete_of_usable (husable e he)⟩

/-! ## Types -/

theorem hasType_iff (hname : name ≠ "") : p.HasType name ↔ filled p.type = some name := by
  simp [ApiProfile.HasType, filled_eq_some_iff, hname]

theorem trim_filled (h : filled s = some name) : Text.trim name = name := by
  obtain ⟨text, -, htext⟩ := Option.bind_eq_some_iff.1 h
  exact (Text.nonBlank?_eq_some_iff.1 (Text.nonBlank?_of_nonBlank? htext)).1

theorem ofName?_of_filled (h : filled s = some name) :
    ApiType.ofName? name =
      if name = "openai_compat" then some .single else if name = "pool" then some .pool else none := by
  simp only [ApiType.ofName?, trim_filled h, List.find?_cons, ApiType.name, eq_comm (b := name)]
  by_cases hsingle : name = "openai_compat" <;> by_cases hpool : name = "pool" <;> simp [hsingle, hpool]

/-- The findings that depend on the type of an API profile. -/
def typeFindings (c : Context) (p : ApiProfile) : List Finding :=
  match filled p.type with
  | none => [.error .missingApiType]
  | some name =>
    match ApiType.ofName? name with
    | some .single => service p
    | some .pool => pool c p
    | none => c.unknownType .unknownApiType

theorem api_eq (c : Context) (p : ApiProfile) :
    api c p = errorIf (isBadCount p.timeout) .invalidTimeout
      ++ errorIf (isBadCount p.concurrency) .invalidConcurrency
      ++ errorIf (isBadCount p.rpm) .invalidRpm
      ++ errorIf (isBadCount p.maxRetries) .invalidMaxRetries
      ++ typeFindings c p := rfl

theorem clean_typeFindings_iff :
    Clean (typeFindings c p) ↔ IsFilled p.type ∧
      (p.HasType "openai_compat" → IsAddress p.baseUrl ∧ IsFilled p.model) ∧
      (p.HasType "pool" → p.PoolsMembers c.index ∨ p.PoolsEndpoints) ∧
      (c.strictTypes = true → p.HasType "openai_compat" ∨ p.HasType "pool") := by
  simp only [isFilled_iff (s := p.type), hasType_iff (show "openai_compat" ≠ "" by decide),
    hasType_iff (show "pool" ≠ "" by decide), typeFindings]
  cases hname : filled p.type with
  | none => simp [Finding.error?]
  | some name =>
    simp only [ofName?_of_filled hname, Option.some.injEq, Option.isSome_some, true_and]
    by_cases hsingle : name = "openai_compat"
    · simp [hsingle, clean_service_iff]
    · by_cases hpool : name = "pool"
      · simp [hpool, clean_pool_iff]
      · simp only [hsingle, hpool, if_false, false_implies, true_and, or_self, Context.unknownType]
        cases c.strictTypes <;> simp [Finding.error?]

/-- A check without errors: an acceptable profile, and a known type where other types are errors. -/
theorem clean_api_iff_acceptable :
    Clean (findings c (.api p)) ↔
      AcceptableApi c.index p ∧ (c.strictTypes = true → p.HasType "openai_compat" ∨ p.HasType "pool") := by
  simp only [findings, api_eq, clean_append, clean_identity_iff, clean_errorIf, isBadCount_eq_false_iff,
    clean_typeFindings_iff]
  constructor
  · rintro ⟨hid, ⟨⟨⟨htimeout, hconcurrency⟩, hrpm⟩, hretries⟩, htype, hservice, hpool, hstrict⟩
    exact ⟨⟨hid, htimeout, hconcurrency, hrpm, hretries, htype, hservice, hpool⟩, hstrict⟩
  · rintro ⟨⟨hid, htimeout, hconcurrency, hrpm, hretries, htype, hservice, hpool⟩, hstrict⟩
    exact ⟨hid, ⟨⟨⟨htimeout, hconcurrency⟩, hrpm⟩, hretries⟩, htype, hservice, hpool, hstrict⟩

/-- With the settings that apply when none are made, an API profile is accepted if and only if it is acceptable. -/
theorem api_accepted_iff (x : ReferenceIndex) (p : ApiProfile) :
    ((Context.mk x Settings.default.strictTypes).check (.api p)).errors = [] ↔ AcceptableApi x p := by
  rw [← List.isEmpty_iff]
  refine isOk_ofFindings.trans (clean_api_iff_acceptable.trans ?_)
  exact and_iff_left (fun h => nomatch h)

end Check
end ProfileKit
