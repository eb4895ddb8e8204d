import VaultKern.Extension.PendingSubmission

/-! # Records of pending submissions are read as they were written

Each part of a record that was read is read again from the object that is made of it, and what a transaction
holds is enough for its record to be read between its submission and its deadline.
-/

namespace VaultKern.Pending

open Filling (JsText isBlankUnit)
open JsValue Utf16

variable {library : Library}

/-! ## Origins -/

def IsHttp (url : Url) : Prop := url.protocol = ofString "http:" ∨ url.protocol = ofString "https:"

/-- A parsed address has no blanks, and its origin is parsed to the same protocol, host and port. -/
structure Reparses (library : Library) : Prop where
  solid : ∀ value url, library.newUrl value = some url → IsHttp url →
    ∀ unit ∈ url.hostname ++ url.port, isBlankUnit unit = false
  again : ∀ value url hostname, library.newUrl value = some url → IsHttp url → canonicalHostname url = some hostname →
    library.newUrl (originText url.protocol hostname url.port) = some { url with hostname }

theorem canonicalHostname_some {url : Url} {hostname : JsText} (canonical : canonicalHostname url = some hostname) :
    hostname ≠ [] ∧ hostname.getLast? ≠ some 46 ∧ hostname ⊆ url.hostname := by
  have within : (if url.hostname.getLast? = some 46 then url.hostname.dropLast else url.hostname) ⊆ url.hostname := by
    split
    · exact List.dropLast_subset _
    · exact List.Subset.refl _
  simp only [canonicalHostname] at canonical
  generalize (if url.hostname.getLast? = some 46 then url.hostname.dropLast else url.hostname) = host at canonical within
  split at canonical
  · cases canonical
  · rename_i whole
    cases canonical
    exact ⟨(not_or.mp whole).1, (not_or.mp whole).2, within⟩

theorem trim_solid {value : JsText} (solid : ∀ unit ∈ value, isBlankUnit unit = false) : value.trim = value := by
  have kept : ∀ text : JsText, (∀ unit ∈ text, isBlankUnit unit = false) → text.dropWhile isBlankUnit = text := by
    intro text solid
    cases text with
    | nil => rfl
    | cons unit rest => rw [List.dropWhile_cons_of_neg (by simp [solid unit List.mem_cons_self])]
  rw [Filling.JsText.trim, kept value solid, kept value.reverse fun unit member => solid unit (List.mem_reverse.mp member),
    List.reverse_reverse]

theorem canonicalHttpOrigin_some {value origin : JsText} (found : canonicalHttpOrigin library value = some origin) :
    ∃ url hostname, library.newUrl value = some url ∧ IsHttp url ∧ canonicalHostname url = some hostname ∧
      origin = originText url.protocol hostname url.port := by
  unfold canonicalHttpOrigin at found
  split at found
  · cases found
  · simp only [Option.bind_eq_bind, Option.bind_eq_some_iff, guard_some, Option.pure_def, Option.some.injEq] at found
    obtain ⟨url, parsed, _, http, hostname, canonical, rfl⟩ := found
    exact ⟨url, hostname, parsed, http, canonical, rfl⟩

theorem solid_of_all {text : JsText} (all : (text.all fun unit => !isBlankUnit unit) = true) :
    ∀ unit ∈ text, isBlankUnit unit = false := by
  simpa using all

/-- An origin is its own origin. -/
theorem canonicalHttpOrigin_again (law : Reparses library) {value origin : JsText}
    (found : canonicalHttpOrigin library value = some origin) : canonicalHttpOrigin library origin = some origin := by
  obtain ⟨url, hostname, parsed, http, canonical, rfl⟩ := canonicalHttpOrigin_some found
  obtain ⟨filled, undotted, within⟩ := canonicalHostname_some canonical
  have solid : ∀ unit ∈ originText url.protocol hostname url.port, isBlankUnit unit = false := by
    intro unit member
    have solid := law.solid value url parsed http
    simp only [originText, List.append_assoc, List.mem_append] at member
    rcases member with protocol | slashes | host | port
    · rcases http with same | same <;> rw [same] at protocol
      · exact solid_of_all (by decide) unit protocol
      · exact solid_of_all (by decide) unit protocol
    · exact solid_of_all (by decide) unit slashes
    · exact solid unit (List.mem_append_left _ (within host))
    · split at port
      · cases port
      · rcases List.mem_append.mp port with colon | digits
        · exact solid_of_all (by decide) unit colon
        · exact solid unit (List.mem_append_right _ digits)
  have filled' : originText url.protocol hostname url.port ≠ [] := by
    rcases http with same | same <;> simp [originText, same, ofString, filled]
  have same : canonicalHostname { url with hostname } = some hostname := by
    simp [canonicalHostname, undotted, filled]
  unfold canonicalHttpOrigin
  rw [if_neg (by simp [filled', trim_solid solid]), law.again value url hostname parsed http canonical]
  have http' : url.protocol = ofString "http:" ∨ url.protocol = ofString "https:" := http
  simp only [Option.bind_eq_bind, Option.bind_some, guard_pos http', same, Option.pure_def]

/-! ## Names -/

@[simp] theorem stateFromUnknown_text (state : PendingState) :
    stateFromUnknown (some (.string state.text)) = some state := by
  cases state with
  | terminal state => cases state <;> rfl
  | _ => rfl

theorem stateFromUnknown_some {value : Option JsValue} {state : PendingState}
    (read : stateFromUnknown value = some state) : value = some (.string state.text) := by
  obtain ⟨text, isText, found⟩ := Option.bind_eq_some_iff.mp read
  have same : state.text = text := by simpa using List.find?_some found
  rw [asText_some isText, same]

theorem find_code (code : PersistConflictCode) :
    (persistConflictCodes.find? fun other => other.text = code.text) = some code := by
  cases code <;> rfl

/-! ## Texts -/

theorem checked_some {check : JsText → Bool} {value : Option JsValue} {text : JsText}
    (read : checked check value = some text) : value = some (.string text) ∧ check text = true := by
  obtain ⟨isText, passes⟩ := Option.filter_eq_some_iff.mp read
  exact ⟨asText_some isText, passes⟩

@[simp] theorem checked_string {check : JsText → Bool} {text : JsText} (passes : check text = true) :
    checked check (some (.string text)) = some text := by
  simp [checked, passes]

theorem checked_map {check : JsText → Bool} {text : Option JsText} (passes : ∀ t ∈ text, check t = true) :
    checked check (text.map JsValue.string) = text := by
  cases text with
  | none => rfl
  | some text => exact checked_string (passes text rfl)

/-- A digit of a canonical id, or what separates the groups. -/
def isUuidUnit (unit : UInt16) : Bool := unit = 45 || isHexUnit unit

theorem isUuidUnit_plain {unit : UInt16} (plain : isUuidUnit unit = true) :
    isBlankUnit unit = false ∧ isControl unit = false ∧ isHigh unit = false ∧ isLow unit = false ∧ utf8Size unit = 1 := by
  have each : ∀ n < 128, isUuidUnit (UInt16.ofNat n) = true → isBlankUnit (UInt16.ofNat n) = false ∧
      isControl (UInt16.ofNat n) = false ∧ isHigh (UInt16.ofNat n) = false ∧ isLow (UInt16.ofNat n) = false ∧
      utf8Size (UInt16.ofNat n) = 1 := by decide
  have small : unit.toNat < 128 := by
    simp only [isUuidUnit, isHexUnit, Bool.or_eq_true, Bool.and_eq_true, decide_eq_true_eq, UInt16.le_iff_toNat_le] at plain
    rcases plain with rfl | ⟨-, most⟩ | ⟨-, most⟩
    · decide
    · exact Nat.lt_of_le_of_lt most (by decide)
    · exact Nat.lt_of_le_of_lt most (by decide)
  simpa using each unit.toNat small (by simpa using plain)

theorem wellFormed_plain {text : JsText} (plain : ∀ unit ∈ text, isHigh unit = false ∧ isLow unit = false) :
    wellFormed text = true := by
  induction text using wellFormed.induct with
  | case1 => rfl
  | case2 unit =>
      obtain ⟨high, low⟩ := plain unit List.mem_cons_self
      rw [wellFormed, high, low]
      rfl
  | case3 unit next rest high _ =>
      rw [(plain unit List.mem_cons_self).1] at high
      cases high
  | case4 unit next rest _ ih =>
      obtain ⟨high, low⟩ := plain unit List.mem_cons_self
      rw [wellFormed, high, low, ih fun other member => plain other (List.mem_cons_of_mem _ member)]
      rfl

theorem isCanonicalUuid_units {text : JsText} (canonical : isCanonicalUuid text = true) :
    text.length = 36 ∧ ∀ unit ∈ text, isUuidUnit unit = true := by
  obtain ⟨long, each⟩ := Bool.and_eq_true_iff.mp canonical
  refine ⟨of_decide_eq_true long, fun unit member => ?_⟩
  obtain ⟨place, within, rfl⟩ := List.mem_iff_getElem.mp member
  have here := List.all_eq_true.mp each (text[place], place) (List.mem_zipIdx_iff_getElem?.mpr (by simp [within]))
  split at here
  · simp only [decide_eq_true_eq] at here
    simp [isUuidUnit, here]
  · simp [isUuidUnit, here]

/-- An id is also good for a token. -/
theorem isCanonicalNonNilUuid_token {text : JsText} (canonical : isCanonicalNonNilUuid text = true) :
    isValidPendingAutofillToken text = true := by
  obtain ⟨long, each⟩ := isCanonicalUuid_units (Bool.and_eq_true_iff.mp canonical).2
  have solid : text.trim = text := trim_solid fun unit member => (isUuidUnit_plain (each unit member)).1
  have formed : wellFormed text = true := wellFormed_plain fun unit member =>
    ⟨(isUuidUnit_plain (each unit member)).2.2.1, (isUuidUnit_plain (each unit member)).2.2.2.1⟩
  have size : utf8Length text = 36 := by
    have ones : text.map utf8Size = List.replicate 36 1 := by
      rw [List.eq_replicate_iff, List.length_map, long]
      refine ⟨rfl, fun n member => ?_⟩
      obtain ⟨unit, among, rfl⟩ := List.mem_map.mp member
      exact (isUuidUnit_plain (each unit among)).2.2.2.2
    rw [utf8Length, ones]
    rfl
  have bounded : boundedUtf8Length text 128 = some 36 := by
    simp [boundedUtf8Length, long, formed, size]
  have quiet : text.any isControl = false := by
    rw [List.any_eq_false]
    intro unit member
    rw [(isUuidUnit_plain (each unit member)).2.1]
    exact Bool.false_ne_true
  simp [isValidPendingAutofillToken, long, solid, bounded, quiet]

/-! ## Fields of an entry -/

theorem PendingAutofillCustomField.toRecord_lookup (field : PendingAutofillCustomField) :
    field.toRecord.lookup "key" = some (.string field.key) ∧ field.toRecord.lookup "value" = some (.string field.value) ∧
      field.toRecord.lookup "protected" = some (.bool field.isProtected) := ⟨rfl, rfl, rfl⟩

theorem customFieldsFromUnknown_again {items : List JsValue} {keys : List JsText} {total : Nat}
    {fields : List PendingAutofillCustomField}
    (read : customFieldsFromUnknown library items keys total = some fields) :
    customFieldsFromUnknown library (fields.map fun field => .object field.toRecord) keys total = some fields ∧
      fields.length = items.length := by
  induction items generalizing keys total fields with
  | nil =>
      cases read
      exact ⟨rfl, rfl⟩
  | cons item rest ih =>
      simp only [customFieldsFromUnknown, Option.bind_eq_bind, Option.bind_eq_some_iff, guard_some, Option.pure_def,
        Option.some.injEq] at read
      obtain ⟨custom, isObject, key, isKey, value, isValue, isProtected, isFlag, keyBytes, keySize, valueBytes, valueSize,
        _, allowed, _, small, others, later, rfl⟩ := read
      obtain ⟨again, sameLength⟩ := ih later
      refine ⟨?_, by rw [List.length_cons, sameLength, List.length_cons]⟩
      simp only [List.map_cons, customFieldsFromUnknown, PendingAutofillCustomField.toRecord_lookup, asObject_object,
        Option.bind_eq_bind, Option.bind_some, asText_string, asBool_bool, keySize, valueSize, guard_pos allowed,
        guard_pos small, again, Option.pure_def]

theorem entryFieldsFromUnknown_again {value : Option JsValue} {fields : PendingAutofillDesiredFields}
    (read : entryFieldsFromUnknown library value = some fields) :
    entryFieldsFromUnknown library (some (.object fields.toRecord)) = some fields := by
  simp only [entryFieldsFromUnknown, Option.bind_eq_bind, Option.bind_eq_some_iff, guard_some, Option.pure_def,
    Option.some.injEq] at read
  obtain ⟨candidate, isObject, title, isTitle, username, isUsername, password, isPassword, _, filled, url, isUrl, notes,
    isNotes, totpUri, isTotp, items, isArray, sizes, sized, _, http, totpBytes, totpSized, _, small, customFields, custom,
    rfl⟩ := read
  obtain ⟨again, sameLength⟩ := customFieldsFromUnknown_again custom
  have small' : (customFields.map fun field => JsValue.object field.toRecord).length ≤ maxCustomFields ∧
      sizes.sum + totpBytes.sum ≤ maxEntryFieldsBytes := by
    rw [List.length_map, sameLength]
    exact small
  have totp : totpUriFromUnknown (some ((totpUri.map JsValue.string).getD .null)) = some totpUri := by
    cases totpUri <;> rfl
  simp only [entryFieldsFromUnknown, PendingAutofillDesiredFields.toRecord, asObject_object, Option.bind_eq_bind,
    Option.bind_some, JsRecord.lookup_cons, String.reduceEq, if_true, if_false, asText_string, guard_pos filled, totp,
    asArray_array, sized, guard_pos http, totpSized, guard_pos small', again, Option.pure_def]

theorem updateFieldsFromUnknown_again {value : Option JsValue} {empty reject : Bool} {fields : PendingAutofillUpdateFields}
    (read : updateFieldsFromUnknown library value empty reject = some fields) :
    updateFieldsFromUnknown library (some (.object fields.toRecord)) empty false = some fields := by
  simp only [updateFieldsFromUnknown, Option.bind_eq_bind, Option.bind_eq_some_iff, guard_some, Option.pure_def,
    Option.some.injEq] at read
  obtain ⟨candidate, isObject, _, known, username, isUsername, password, isPassword, _, filled, url, isUrl, _, http, _,
    small, rfl⟩ := read
  have known' : (false = true → ∀ f ∈ PendingAutofillUpdateFields.toRecord { username, password, url },
      f.1 = "username" ∨ f.1 = "password" ∨ f.1 = "url") := nofun
  simp only [updateFieldsFromUnknown, asObject_object, Option.bind_eq_bind, Option.bind_some, guard_pos known']
  simp only [PendingAutofillUpdateFields.toRecord, Option.bind_some, JsRecord.lookup_cons, String.reduceEq, if_true,
    if_false, asText_string, guard_pos filled, guard_pos http, guard_pos small, Option.pure_def]

/-- The address is a text of the fields. -/
def UrlOf (value : Option JsValue) (url : JsText) : Prop :=
  ∃ fields, asObject value = some fields ∧ asText (fields.lookup "url") = some url

theorem entryFieldsFromUnknown_url {value : Option JsValue} {fields : PendingAutofillDesiredFields}
    (read : entryFieldsFromUnknown library value = some fields) : UrlOf value fields.url := by
  simp only [entryFieldsFromUnknown, Option.bind_eq_bind, Option.bind_eq_some_iff, Option.pure_def,
    Option.some.injEq] at read
  obtain ⟨candidate, isObject, title, -, username, -, password, -, _, -, url, isUrl, notes, -, totpUri, -, items, -, sizes, -,
    _, -, totpBytes, -, _, -, customFields, -, rfl⟩ := read
  exact ⟨candidate, isObject, isUrl⟩

theorem updateFieldsFromUnknown_url {value : Option JsValue} {empty reject : Bool} {fields : PendingAutofillUpdateFields}
    (read : updateFieldsFromUnknown library value empty reject = some fields) : UrlOf value fields.url := by
  simp only [updateFieldsFromUnknown, Option.bind_eq_bind, Option.bind_eq_some_iff, Option.pure_def,
    Option.some.injEq] at read
  obtain ⟨candidate, isObject, _, -, username, -, password, -, _, -, url, isUrl, _, -, _, -, rfl⟩ := read
  exact ⟨candidate, isObject, isUrl⟩

/-! ## Lists of ids -/

/-- A list of ids as it is kept. -/
structure MatchingIds (ids : List JsText) : Prop where
  canonical : ∀ id ∈ ids, isCanonicalNonNilUuid id = true
  distinct : ids.Nodup
  sorted : ids.Pairwise (· ≤ ·)
  few : ids.length ≤ maxMatchingEntryIds

theorem entryIdsFromUnknown_some {items : List JsValue} {seen ids : List JsText}
    (read : entryIdsFromUnknown items seen = some ids) :
    (∀ id ∈ ids, isCanonicalNonNilUuid id = true ∧ id ∉ seen) ∧ ids.Nodup ∧ ids.length = items.length := by
  induction items generalizing seen ids with
  | nil =>
      cases read
      exact ⟨fun _ member => absurd member List.not_mem_nil, List.nodup_nil, rfl⟩
  | cons item rest ih =>
      simp only [entryIdsFromUnknown, Option.bind_eq_bind, Option.bind_eq_some_iff, guard_some, Option.pure_def,
        Option.some.injEq] at read
      obtain ⟨id, isId, _, new, others, later, rfl⟩ := read
      obtain ⟨each, distinct, sameLength⟩ := ih later
      refine ⟨fun other member => ?_, ?_, by rw [List.length_cons, sameLength, List.length_cons]⟩
      · rcases List.mem_cons.mp member with rfl | among
        · exact ⟨(checked_some isId).2, new⟩
        · exact ⟨(each other among).1, fun old => (each other among).2 (List.mem_cons_of_mem _ old)⟩
      · exact List.nodup_cons.mpr ⟨fun among => (each id among).2 List.mem_cons_self, distinct⟩

theorem entryIdsFromUnknown_strings {ids seen : List JsText} (canonical : ∀ id ∈ ids, isCanonicalNonNilUuid id = true)
    (distinct : ids.Nodup) (new : ∀ id ∈ ids, id ∉ seen) :
    entryIdsFromUnknown (ids.map JsValue.string) seen = some ids := by
  induction ids generalizing seen with
  | nil => rfl
  | cons id rest ih =>
      obtain ⟨apart, distinct⟩ := List.nodup_cons.mp distinct
      have new' : ∀ other ∈ rest, other ∉ id :: seen := by
        intro other member old
        rcases List.mem_cons.mp old with rfl | earlier
        · exact apart member
        · exact new other (List.mem_cons_of_mem _ member) earlier
      have again := ih (fun other member => canonical other (List.mem_cons_of_mem _ member)) distinct new'
      simp only [List.map_cons, entryIdsFromUnknown, checked_string (canonical id List.mem_cons_self),
        Option.bind_eq_bind, Option.bind_some, guard_pos (new id List.mem_cons_self), again, Option.pure_def]

theorem normalizeCanonicalIds_some {value : Option JsValue} {ids : List JsText}
    (read : normalizeCanonicalIds value = some ids) : MatchingIds ids := by
  simp only [normalizeCanonicalIds, Option.bind_eq_bind, Option.bind_eq_some_iff, guard_some, Option.pure_def,
    Option.some.injEq] at read
  obtain ⟨items, -, _, few, found, each, rfl⟩ := read
  obtain ⟨canonical, distinct, sameLength⟩ := entryIdsFromUnknown_some each
  have perm : (sortIds found).Perm found := List.perm_insertionSort _ found
  exact {
    canonical := fun id member => (canonical id (perm.mem_iff.mp member)).1
    distinct := perm.nodup_iff.mpr distinct
    sorted := List.pairwise_insertionSort _ found
    few := by rwa [perm.length_eq, sameLength] }

theorem MatchingIds.normalized {ids : List JsText} (kept : MatchingIds ids) :
    normalizeCanonicalIds (some (.array (ids.map JsValue.string))) = some ids := by
  have few : (ids.map JsValue.string).length ≤ maxMatchingEntryIds := by
    rw [List.length_map]
    exact kept.few
  have read := entryIdsFromUnknown_strings kept.canonical kept.distinct fun _ _ => List.not_mem_nil
  have sorted : sortIds ids = ids := kept.sorted.insertionSort_eq
  simp only [normalizeCanonicalIds, asArray_array, Option.bind_eq_bind, Option.bind_some, guard_pos few, read, sorted,
    Option.pure_def]

theorem MatchingIds.filter {ids : List JsText} (kept : MatchingIds ids) (p : JsText → Bool) : MatchingIds (ids.filter p) where
  canonical id member := kept.canonical id (List.mem_filter.mp member).1
  distinct := kept.distinct.filter p
  sorted := kept.sorted.filter p
  few := (List.length_filter_le p ids).trans kept.few

/-! ## Plans -/

/-- A plan that is read again as it is. -/
def PendingAutofillPlan.Settled (library : Library) (plan : PendingAutofillPlan) : Prop :=
  pendingAutofillPlanFromUnknown library (some (.object plan.toRecord)) = some plan

theorem PendingAutofillPlan.Settled.eq {plan : PendingAutofillPlan} (settled : plan.Settled library) :
    pendingAutofillPlanFromUnknown library (some (.object plan.toRecord)) = some plan := settled

theorem settled_update {entryId : JsText} {expectedFields desiredFields : PendingAutofillUpdateFields}
    (canonical : isCanonicalNonNilUuid entryId = true)
    (expected : updateFieldsFromUnknown library (some (.object expectedFields.toRecord)) true false = some expectedFields)
    (desired : updateFieldsFromUnknown library (some (.object desiredFields.toRecord)) false false = some desiredFields) :
    PendingAutofillPlan.Settled library (.update entryId expectedFields desiredFields) := by
  simp only [PendingAutofillPlan.Settled, pendingAutofillPlanFromUnknown, PendingAutofillPlan.toRecord, asObject_object,
    Option.bind_eq_bind, Option.bind_some, JsRecord.lookup_cons, String.reduceEq, if_true, if_false, asText_string,
    updatePlanFromUnknown, expected, desired, checked_string canonical, Option.pure_def]

theorem settled_create {parentGroupId plannedEntryId : JsText} {ids : List JsText}
    {desiredFields : PendingAutofillDesiredFields} (parent : isCanonicalNonNilUuid parentGroupId = true)
    (planned : isCanonicalNonNilUuid plannedEntryId = true) (matching : MatchingIds ids)
    (desired : entryFieldsFromUnknown library (some (.object desiredFields.toRecord)) = some desiredFields) :
    PendingAutofillPlan.Settled library (.create parentGroupId plannedEntryId ids desiredFields) := by
  have apart : ¬ (some (ofString "create") = some (ofString "update")) := by decide
  simp only [PendingAutofillPlan.Settled, pendingAutofillPlanFromUnknown, PendingAutofillPlan.toRecord, asObject_object,
    Option.bind_eq_bind, Option.bind_some, JsRecord.lookup_cons, String.reduceEq, if_true, if_false, asText_string,
    apart, createPlanFromUnknown, desired, guard_pos True.intro, checked_string parent, checked_string planned,
    matching.normalized, Option.pure_def]

theorem updatePlanFromUnknown_some {candidate : JsRecord} {reject : Bool} {plan : PendingAutofillPlan}
    (read : updatePlanFromUnknown library candidate reject = some plan) :
    plan.Settled library ∧ ∃ entryId expectedFields desiredFields, plan = .update entryId expectedFields desiredFields ∧
      updateFieldsFromUnknown library (candidate.lookup "expectedFields") true reject = some expectedFields ∧
      updateFieldsFromUnknown library (candidate.lookup "desiredFields") false reject = some desiredFields := by
  simp only [updatePlanFromUnknown, Option.bind_eq_bind, Option.bind_eq_some_iff, Option.pure_def,
    Option.some.injEq] at read
  obtain ⟨expectedFields, expected, desiredFields, desired, entryId, isId, rfl⟩ := read
  exact ⟨settled_update (checked_some isId).2 (updateFieldsFromUnknown_again expected)
    (updateFieldsFromUnknown_again desired), entryId, expectedFields, desiredFields, rfl, expected, desired⟩

theorem createPlanFromUnknown_some {candidate : JsRecord} {plan : PendingAutofillPlan}
    (read : createPlanFromUnknown library candidate = some plan) :
    plan.Settled library ∧ ∃ parentGroupId plannedEntryId ids desiredFields,
      plan = .create parentGroupId plannedEntryId ids desiredFields ∧ isCanonicalNonNilUuid parentGroupId = true ∧
      entryFieldsFromUnknown library (candidate.lookup "desiredFields") = some desiredFields := by
  simp only [createPlanFromUnknown, Option.bind_eq_bind, Option.bind_eq_some_iff, guard_some, Option.pure_def,
    Option.some.injEq] at read
  obtain ⟨desiredFields, desired, _, mode, parent, isParent, planned, isPlanned, ids, matching, rfl⟩ := read
  exact ⟨settled_create (checked_some isParent).2 (checked_some isPlanned).2 (normalizeCanonicalIds_some matching)
    (entryFieldsFromUnknown_again desired), parent, planned, ids, desiredFields, rfl, (checked_some isParent).2, desired⟩

theorem pendingAutofillPlanFromUnknown_settled {value : Option JsValue} {plan : PendingAutofillPlan}
    (read : pendingAutofillPlanFromUnknown library value = some plan) : plan.Settled library := by
  obtain ⟨candidate, isObject, read⟩ := Option.bind_eq_some_iff.mp read
  split at read
  · exact (updatePlanFromUnknown_some read).1
  · exact (createPlanFromUnknown_some read).1

theorem pendingAutofillPlanInputFromUnknown_settled {value : Option JsValue} {plannedEntryId : Option JsText}
    {plan : PendingAutofillPlan} (read : pendingAutofillPlanInputFromUnknown library value plannedEntryId = some plan) :
    plan.Settled library := by
  obtain ⟨candidate, isObject, read⟩ := Option.bind_eq_some_iff.mp read
  split at read
  · exact (updatePlanFromUnknown_some read).1
  · exact pendingAutofillPlanFromUnknown_settled read

theorem withPlannedEntryId_lookup (candidate : JsRecord) (plannedEntryId : Option JsText) {name : String}
    (apart : name ≠ "plannedEntryId") : (withPlannedEntryId candidate plannedEntryId).lookup name = candidate.lookup name := by
  cases plannedEntryId with
  | none => rfl
  | some id => rw [withPlannedEntryId, JsRecord.lookup_set, if_neg apart]

theorem withPlannedEntryId_urls {candidate : JsRecord} {plannedEntryId : Option JsText} {plan : PendingAutofillPlan}
    (notUpdate : ¬ asText (candidate.lookup "mode") = some (ofString "update"))
    (read : pendingAutofillPlanFromUnknown library (some (.object (withPlannedEntryId candidate plannedEntryId))) = some plan) :
    ∃ desiredFields, entryFieldsFromUnknown library (candidate.lookup "desiredFields") = some desiredFields ∧
      plan.urls = [desiredFields.url] := by
  rw [pendingAutofillPlanFromUnknown, asObject_object, Option.bind_eq_bind, Option.bind_some,
    withPlannedEntryId_lookup _ _ (by decide), if_neg notUpdate] at read
  obtain ⟨-, parent, planned, ids, desiredFields, rfl, -, desired⟩ := createPlanFromUnknown_some read
  rw [withPlannedEntryId_lookup _ _ (by decide)] at desired
  exact ⟨desiredFields, desired, rfl⟩

/-- The planned entry does not change the addresses. -/
theorem pendingAutofillPlanInputFromUnknown_urls {value : Option JsValue} {first second : Option JsText}
    {plan other : PendingAutofillPlan} (read : pendingAutofillPlanInputFromUnknown library value first = some plan)
    (read' : pendingAutofillPlanInputFromUnknown library value second = some other) : plan.urls = other.urls := by
  obtain ⟨candidate, isObject, read⟩ := Option.bind_eq_some_iff.mp read
  obtain ⟨candidate', isObject', read'⟩ := Option.bind_eq_some_iff.mp read'
  cases isObject.symm.trans isObject'
  split at read
  · rename_i isUpdate
    rw [if_pos isUpdate] at read'
    cases read.symm.trans read'
    rfl
  · rename_i notUpdate
    rw [if_neg notUpdate] at read'
    obtain ⟨desiredFields, desired, same⟩ := withPlannedEntryId_urls notUpdate read
    obtain ⟨desiredFields', desired', same'⟩ := withPlannedEntryId_urls notUpdate read'
    cases desired.symm.trans desired'
    rw [same, same']

/-! ## Submissions and conflicts -/

def PendingAutofillSubmission.Settled (library : Library) (submission : PendingAutofillSubmission) : Prop :=
  pendingAutofillSubmissionFromUnknown library (some (.object submission.toRecord)) = some submission

theorem submission_lookup (submission : PendingAutofillSubmission) :
    submission.toRecord.lookup "url" = some (.string submission.url) ∧
      submission.toRecord.lookup "username" = some (.string submission.username) ∧
      submission.toRecord.lookup "password" = some (.string submission.password) ∧
      submission.toRecord.lookup "newPassword" = submission.newPassword.map JsValue.string ∧
      submission.toRecord.lookup "saveOnly" = (if submission.saveOnly then some (.bool true) else none) ∧
      submission.toRecord.lookup "submittedAt" = some (integer submission.submittedAt) := by
  obtain ⟨url, username, password, newPassword, saveOnly, submittedAt⟩ := submission
  cases newPassword <;> cases saveOnly <;> exact ⟨rfl, rfl, rfl, rfl, rfl, rfl⟩

theorem pendingAutofillSubmissionFromUnknown_some {value : Option JsValue} {submission : PendingAutofillSubmission}
    (read : pendingAutofillSubmissionFromUnknown library value = some submission) :
    submission.Settled library ∧ 0 ≤ submission.submittedAt ∧ IsSafe submission.submittedAt := by
  simp only [pendingAutofillSubmissionFromUnknown, Option.bind_eq_bind, Option.bind_eq_some_iff, guard_some,
    Option.pure_def, Option.some.injEq] at read
  obtain ⟨candidate, isObject, url, isUrl, username, isUsername, password, isPassword, _, filled, newPassword, isNew,
    saveOnly, isSave, submittedAt, isTime, _, notNegative, _, small, _, notBlank, _, http, same⟩ := read
  have safe := (safeInteger_some isTime).2
  have new : optional asText ((newPassword.filter (· ≠ [])).map JsValue.string) = some (newPassword.filter (· ≠ [])) := by
    cases newPassword.filter (· ≠ []) <;> rfl
  have save : optional asBool (if saveOnly = some true then some (.bool true) else none) =
      some (if saveOnly = some true then some true else none) := by
    split <;> rfl
  have small' : ∀ field ∈ [url, username, password] ++ (newPassword.filter (· ≠ [])).toList,
      (boundedUtf8Length field maxFieldBytes).isSome := by
    intro field member
    refine small field (List.mem_append.mpr ((List.mem_append.mp member).imp_right fun new => ?_))
    exact Option.mem_toList.mpr (Option.filter_eq_some_iff.mp (Option.mem_toList.mp new)).1
  have again : (newPassword.filter (· ≠ [])).filter (· ≠ []) = newPassword.filter (· ≠ []) := by
    rw [Option.filter_filter]
    simp
  have flag : (if saveOnly = some true then some true else none) = some true ↔ saveOnly = some true := by
    split <;> simp_all
  cases same
  refine ⟨?_, notNegative, safe⟩
  simp only [PendingAutofillSubmission.Settled, pendingAutofillSubmissionFromUnknown, submission_lookup, asObject_object,
    Option.bind_eq_bind, Option.bind_some, asText_string, guard_pos filled, new, decide_eq_true_eq, save,
    safeInteger_integer safe, guard_pos notNegative, guard_pos small', guard_pos notBlank, guard_pos http, again, flag,
    Option.pure_def]

theorem conflictFromUnknown_some {value : Option JsValue} {conflict : PendingAutofillPersistConflict}
    (read : conflictFromUnknown value = some conflict) : conflict.retryable = codeRetryable conflict.code := by
  simp only [conflictFromUnknown, Option.bind_eq_bind, Option.bind_eq_some_iff, guard_some, Option.pure_def,
    Option.some.injEq] at read
  obtain ⟨candidate, -, code, -, retryable, -, _, same, rfl⟩ := read
  exact same

theorem conflictFromUnknown_toRecord {conflict : PendingAutofillPersistConflict}
    (same : conflict.retryable = codeRetryable conflict.code) :
    conflictFromUnknown (some (.object conflict.toRecord)) = some conflict := by
  simp only [conflictFromUnknown, PendingAutofillPersistConflict.toRecord, asObject_object, Option.bind_eq_bind,
    Option.bind_some, JsRecord.lookup_cons, String.reduceEq, if_true, if_false, asText_string, find_code, asBool_bool,
    guard_pos same, Option.pure_def]

/-! ## Transactions -/

structure PendingAutofillBase.Valid (library : Library) (base : PendingAutofillBase) : Prop where
  token : isValidPendingAutofillToken base.transactionId = true
  origin : canonicalHttpOrigin library base.origin = some base.origin

/-- What a record that is planned, persisting or in conflict is bound to, and when. -/
structure Executes (submittedAt : Int) (vaultId operationId : JsText) (recoveryDeadlineAt : Int) : Prop where
  submitted : 0 ≤ submittedAt ∧ IsSafe submittedAt
  deadline : IsSafe recoveryDeadlineAt ∧ recoveryDeadlineAt ≤ submittedAt + pendingAutofillRecoveryTtlMs
  operation : isValidPendingAutofillToken operationId = true
  vault : isValidPendingAutofillVaultId vaultId = true

structure PendingAutofillExecutable.Valid (library : Library) (executable : PendingAutofillExecutable) : Prop where
  base : executable.toPendingAutofillBase.Valid library
  executes : Executes executable.submittedAt executable.vaultId executable.operationId executable.recoveryDeadlineAt
  settled : executable.plan.Settled library
  bound : ∀ url ∈ executable.plan.urls, canonicalHttpOrigin library url = some executable.origin

structure PendingAutofillAttempt.Valid (attempt : PendingAutofillAttempt) : Prop where
  token : isValidPendingAutofillToken attempt.attemptId = true
  counted : 1 ≤ attempt.attemptCount ∧ IsSafe attempt.attemptCount
  times : IsSafe attempt.lastAttemptAt ∧ IsSafe attempt.leaseExpiresAt

/-- What a transaction is at any time. -/
def PendingAutofillTransaction.Valid (library : Library) (captureTtlMs : Int) : PendingAutofillTransaction → Prop
  | .captured base submission expiresAt =>
      base.Valid library ∧ submission.Settled library ∧ canonicalHttpOrigin library submission.url = some base.origin ∧
        expiresAt = submission.submittedAt + captureTtlMs ∧ IsSafe expiresAt
  | .planned executable => executable.Valid library
  | .persisting executable attempt => executable.Valid library ∧ ∀ a ∈ attempt, a.Valid
  | .persistConflict executable conflict =>
      executable.Valid library ∧ conflict.retryable = codeRetryable conflict.code
  | .legacyConflict base submittedAt vaultId operationId recoveryDeadlineAt =>
      base.Valid library ∧ Executes submittedAt vaultId operationId recoveryDeadlineAt
  | .terminal transaction =>
      transaction.toPendingAutofillBase.Valid library ∧ IsSafe transaction.completedAt ∧
        (∀ id ∈ transaction.operationId, isValidPendingAutofillToken id = true) ∧
        ∀ id ∈ transaction.entryId, isCanonicalNonNilUuid id = true

/-- From the submission to the deadline. -/
def PendingAutofillTransaction.InTime (now : Int) : PendingAutofillTransaction → Prop
  | .captured _ submission expiresAt => submission.submittedAt ≤ now ∧ now < expiresAt
  | .planned executable => executable.submittedAt ≤ now ∧ now < executable.recoveryDeadlineAt
  | .persisting executable _ => executable.submittedAt ≤ now ∧ now < executable.recoveryDeadlineAt
  | .persistConflict executable _ => executable.submittedAt ≤ now ∧ now < executable.recoveryDeadlineAt
  | .legacyConflict _ submittedAt _ _ recoveryDeadlineAt => submittedAt ≤ now ∧ now < recoveryDeadlineAt
  | .terminal _ => True

/-! ## Written and read -/

/-- The fields are there. -/
def Holds (record fields : JsRecord) : Prop := ∀ f ∈ fields, record.lookup f.1 = some f.2

theorem baseFromUnknown_holds {record : JsRecord} {base : PendingAutofillBase} (valid : base.Valid library)
    (held : Holds record base.toRecord) : baseFromUnknown library record base.tabId = some base := by
  simp only [Holds, PendingAutofillBase.toRecord, List.forall_mem_cons] at held
  obtain ⟨version, transactionId, tabId, origin, -⟩ := held
  simp only [baseFromUnknown, version, transactionId, tabId, origin, asNumber_number, asText_string,
    checked_string valid.token, guard_pos True.intro, valid.origin, Option.bind_eq_bind, Option.bind_some, Option.pure_def]

theorem executableFromUnknown_holds {record : JsRecord} {executable : PendingAutofillExecutable} {state : PendingState}
    {now : Int} (valid : executable.Valid library)
    (inTime : executable.submittedAt ≤ now ∧ now < executable.recoveryDeadlineAt)
    (held : Holds record executable.toRecord) :
    executableFromUnknown library record executable.toPendingAutofillBase state now = inState record executable state := by
  obtain ⟨base, ⟨⟨notNegative, safe⟩, ⟨safe', latest⟩, operation, vault⟩, settled, bound⟩ := valid
  simp only [Holds, PendingAutofillExecutable.toRecord, PendingAutofillBase.toRecord, List.cons_append, List.nil_append,
    List.forall_mem_cons] at held
  obtain ⟨-, -, -, -, submittedAt, vaultId, operationId, plan, deadline, -⟩ := held
  have order : executable.submittedAt ≤ executable.recoveryDeadlineAt ∧
      executable.recoveryDeadlineAt ≤ executable.submittedAt + pendingAutofillRecoveryTtlMs := ⟨by omega, latest⟩
  have begun : 0 ≤ executable.submittedAt ∧ executable.submittedAt ≤ now := ⟨notNegative, inTime.1⟩
  simp only [executableFromUnknown, submittedAt, vaultId, operationId, plan, deadline, safeInteger_integer safe,
    safeInteger_integer safe', guard_pos begun, guard_pos order, checked_string operation, checked_string vault,
    settled.eq, guard_pos bound, Option.bind_eq_bind, Option.bind_some]

/-- The record has the fields of the transaction; a conflict that stands in a record that is persisting does not
matter. -/
def PendingAutofillTransaction.WrittenAs (transaction : PendingAutofillTransaction) (record : JsRecord) : Prop :=
  ∀ name, name ≠ "conflict" ∨ transaction.state ≠ .persisting → record.lookup name = transaction.toRecord.lookup name

theorem toRecord_distinct (transaction : PendingAutofillTransaction) : (transaction.toRecord.map (·.1)).Nodup := by
  cases transaction with
  | persisting executable attempt =>
      cases attempt <;>
        simp [PendingAutofillTransaction.toRecord, PendingAutofillExecutable.toRecord, PendingAutofillBase.toRecord,
          PendingAutofillAttempt.toRecord, stateField]
  | terminal transaction =>
      obtain ⟨base, state, operationId, entryId, completedAt⟩ := transaction
      cases operationId <;> cases entryId <;>
        simp [PendingAutofillTransaction.toRecord, PendingAutofillBase.toRecord, stateField]
  | _ =>
      simp [PendingAutofillTransaction.toRecord, PendingAutofillExecutable.toRecord, PendingAutofillBase.toRecord, stateField]

theorem PendingAutofillTransaction.WrittenAs.holds {transaction : PendingAutofillTransaction} {record : JsRecord}
    (written : transaction.WrittenAs record) : Holds record transaction.toRecord := by
  intro f member
  rw [written f.1 ?_, JsRecord.lookup_of_mem (toRecord_distinct transaction) member]
  cases transaction with
  | persisting executable attempt =>
      have absent : "conflict" ∉ (PendingAutofillTransaction.persisting executable attempt).toRecord.map (·.1) := by
        cases attempt <;>
          simp [PendingAutofillTransaction.toRecord, PendingAutofillExecutable.toRecord, PendingAutofillBase.toRecord,
            PendingAutofillAttempt.toRecord, stateField]
      exact .inl fun isConflict => absent (List.mem_map.mpr ⟨f, member, isConflict⟩)
  | _ => exact .inr nofun

theorem Holds.of_append {record first second : JsRecord} (held : Holds record (first ++ second)) :
    Holds record first ∧ Holds record second :=
  ⟨fun f member => held f (List.mem_append_left _ member), fun f member => held f (List.mem_append_right _ member)⟩

theorem terminal_ids (transaction : PendingAutofillTerminal) :
    (PendingAutofillTransaction.terminal transaction).toRecord.lookup "operationId" =
        transaction.operationId.map JsValue.string ∧
      (PendingAutofillTransaction.terminal transaction).toRecord.lookup "entryId" =
        transaction.entryId.map JsValue.string := by
  obtain ⟨base, state, operationId, entryId, completedAt⟩ := transaction
  cases operationId <;> cases entryId <;> exact ⟨rfl, rfl⟩

theorem PendingAutofillTransaction.Valid.base {transaction : PendingAutofillTransaction} {captureTtlMs : Int}
    (valid : transaction.Valid library captureTtlMs) : transaction.base.Valid library := by
  cases transaction with
  | planned executable => exact PendingAutofillExecutable.Valid.base valid
  | persisting executable attempt | persistConflict executable conflict => exact valid.1.base
  | captured base submission expiresAt => exact valid.1
  | legacyConflict base submittedAt vaultId operationId recoveryDeadlineAt => exact valid.1
  | terminal transaction => exact valid.1

/-- The fields of the base and the state are in every record. -/
theorem Holds.head {transaction : PendingAutofillTransaction} {record : JsRecord} (held : Holds record transaction.toRecord) :
    Holds record transaction.base.toRecord ∧ record.lookup "state" = some (.string transaction.state.text) := by
  cases transaction with
  | planned | persisting | persistConflict =>
      obtain ⟨heldExecutable, heldRest⟩ := held.of_append
      exact ⟨heldExecutable.of_append.1, heldRest _ List.mem_cons_self⟩
  | captured | legacyConflict | terminal =>
      obtain ⟨heldBase, heldRest⟩ := held.of_append
      exact ⟨heldBase, heldRest _ List.mem_cons_self⟩

theorem attemptFromUnknown_written {executable : PendingAutofillExecutable} {attempt : Option PendingAutofillAttempt}
    {record : JsRecord} (attempted : ∀ a ∈ attempt, a.Valid)
    (written : (PendingAutofillTransaction.persisting executable attempt).WrittenAs record) :
    attemptFromUnknown record = some attempt := by
  cases attempt with
  | none =>
      have missing : ∀ name ∈ ["attemptId", "attemptCount", "lastAttemptAt", "leaseExpiresAt"],
          record.lookup name = none := by
        intro name member
        have apart : name ≠ "conflict" := by rintro rfl; simp at member
        rw [written name (.inl apart)]
        simp only [List.mem_cons, List.not_mem_nil, or_false] at member
        rcases member with rfl | rfl | rfl | rfl <;> rfl
      rw [attemptFromUnknown, if_neg]
      rintro ⟨name, member, present⟩
      rw [missing name member] at present
      cases present
  | some attempt =>
      obtain ⟨token, ⟨counted, safe⟩, safe', safe''⟩ := attempted attempt rfl
      obtain ⟨_, held⟩ := written.holds.of_append
      simp only [Holds, Option.map_some, Option.getD_some, PendingAutofillAttempt.toRecord, List.forall_mem_cons] at held
      obtain ⟨-, attemptId, attemptCount, lastAttemptAt, leaseExpiresAt, -⟩ := held
      rw [attemptFromUnknown, if_pos ⟨"attemptId", List.mem_cons_self, by rw [attemptId]; rfl⟩]
      simp only [attemptId, attemptCount, lastAttemptAt, leaseExpiresAt, checked_string token,
        safeInteger_integer safe, safeInteger_integer safe', safeInteger_integer safe'', guard_pos counted,
        Option.bind_eq_bind, Option.bind_some, Option.pure_def]

theorem capturedFromUnknown_written {base : PendingAutofillBase} {submission : PendingAutofillSubmission} {expiresAt : Int}
    {record : JsRecord} {now captureTtlMs : Int}
    (valid : (PendingAutofillTransaction.captured base submission expiresAt).Valid library captureTtlMs)
    (inTime : submission.submittedAt ≤ now ∧ now < expiresAt)
    (held : Holds record (PendingAutofillTransaction.captured base submission expiresAt).toRecord) :
    capturedFromUnknown library record base now captureTtlMs = some (.captured base submission expiresAt) := by
  obtain ⟨-, settled, origin, lifetime, safe⟩ := valid
  obtain ⟨-, heldRest⟩ := Holds.of_append held
  simp only [Holds, stateField, List.forall_mem_cons] at heldRest
  obtain ⟨-, submitted, expires, -⟩ := heldRest
  have read : pendingAutofillSubmissionFromUnknown library (some (.object submission.toRecord)) = some submission := settled
  simp only [capturedFromUnknown, submitted, expires, read, safeInteger_integer safe, guard_pos origin, guard_pos inTime.1,
    guard_pos lifetime, guard_pos inTime.2, Option.bind_eq_bind, Option.bind_some, Option.pure_def]

theorem legacyConflict_written {base : PendingAutofillBase} {submittedAt recoveryDeadlineAt : Int}
    {vaultId operationId : JsText} {record : JsRecord} {now : Int}
    (executes : Executes submittedAt vaultId operationId recoveryDeadlineAt)
    (inTime : submittedAt ≤ now ∧ now < recoveryDeadlineAt)
    (written : (PendingAutofillTransaction.legacyConflict base submittedAt vaultId operationId recoveryDeadlineAt).WrittenAs
      record) :
    executableFromUnknown library record base .persistConflict now =
      some (.legacyConflict base submittedAt vaultId operationId recoveryDeadlineAt) := by
  obtain ⟨⟨notNegative, safe⟩, ⟨safe', latest⟩, operation, vault⟩ := executes
  obtain ⟨-, heldRest⟩ := written.holds.of_append
  simp only [Holds, stateField, List.forall_mem_cons] at heldRest
  obtain ⟨-, submitted, heldVault, heldOperation, deadline, heldConflict, -⟩ := heldRest
  have noPlan : record.lookup "plan" = none := written "plan" (.inl (by decide))
  have unplanned : pendingAutofillPlanFromUnknown library none = none := rfl
  have order : submittedAt ≤ recoveryDeadlineAt ∧ recoveryDeadlineAt ≤ submittedAt + pendingAutofillRecoveryTtlMs :=
    ⟨by omega, latest⟩
  have ambiguous : conflictFromUnknown (some (.object (PendingAutofillPersistConflict.toRecord
      { code := .legacyCreateOutcomeAmbiguous, retryable := false }))) =
      some { code := .legacyCreateOutcomeAmbiguous, retryable := false } := conflictFromUnknown_toRecord rfl
  simp only [executableFromUnknown, submitted, heldVault, heldOperation, deadline, heldConflict, noPlan, unplanned,
    safeInteger_integer safe, safeInteger_integer safe', guard_pos (And.intro notNegative inTime.1), guard_pos order,
    checked_string operation, checked_string vault, ambiguous, guard_pos (And.intro True.intro True.intro),
    Option.bind_eq_bind, Option.bind_some, Option.pure_def]

theorem terminalFromUnknown_written {transaction : PendingAutofillTerminal} {record : JsRecord} {captureTtlMs : Int}
    (valid : (PendingAutofillTransaction.terminal transaction).Valid library captureTtlMs)
    (written : (PendingAutofillTransaction.terminal transaction).WrittenAs record) :
    terminalFromUnknown record transaction.toPendingAutofillBase transaction.state = some (.terminal transaction) := by
  obtain ⟨-, safe, operation, entry⟩ := valid
  obtain ⟨-, heldRest⟩ := written.holds.of_append
  have completed : record.lookup "completedAt" = some (integer transaction.completedAt) :=
    heldRest ("completedAt", _) (by simp)
  have operationId : checked isValidPendingAutofillToken (record.lookup "operationId") = transaction.operationId := by
    rw [written "operationId" (.inl (by decide)), (terminal_ids transaction).1, checked_map operation]
  have entryId : checked isCanonicalNonNilUuid (record.lookup "entryId") = transaction.entryId := by
    rw [written "entryId" (.inl (by decide)), (terminal_ids transaction).2, checked_map entry]
  simp only [terminalFromUnknown, completed, operationId, entryId, safeInteger_integer safe, Option.bind_eq_bind,
    Option.bind_some, Option.pure_def]

/-- A transaction is read from what was written of it, at any time from its submission to its deadline. -/
theorem pendingAutofillTransactionFromUnknown_written {transaction : PendingAutofillTransaction} {record : JsRecord}
    {now captureTtlMs : Int} (valid : transaction.Valid library captureTtlMs) (inTime : transaction.InTime now)
    (written : transaction.WrittenAs record) :
    pendingAutofillTransactionFromUnknown library (.object record) transaction.base.tabId now captureTtlMs =
      some transaction := by
  have held := written.holds
  obtain ⟨heldBase, state⟩ := held.head
  simp only [pendingAutofillTransactionFromUnknown, asObject_object, baseFromUnknown_holds valid.base heldBase, state,
    stateFromUnknown_text, Option.bind_eq_bind, Option.bind_some]
  cases transaction with
  | captured base submission expiresAt => exact capturedFromUnknown_written valid inTime held
  | planned executable => exact executableFromUnknown_holds valid inTime held.of_append.1
  | persisting executable attempt =>
      have attempted : attemptFromUnknown record = some attempt := attemptFromUnknown_written valid.2 written
      refine (executableFromUnknown_holds valid.1 inTime held.of_append.1).trans ?_
      change (attemptFromUnknown record).map _ = _
      rw [attempted]
      rfl
  | persistConflict executable conflict =>
      have heldConflict : record.lookup "conflict" = some (.object conflict.toRecord) :=
        held.of_append.2 ("conflict", _) (by simp)
      refine (executableFromUnknown_holds valid.1 inTime held.of_append.1).trans ?_
      change (conflictFromUnknown (record.lookup "conflict")).map _ = _
      rw [heldConflict, conflictFromUnknown_toRecord valid.2]
      rfl
  | legacyConflict base submittedAt vaultId operationId recoveryDeadlineAt =>
      exact legacyConflict_written valid.2 inTime written
  | terminal transaction => exact terminalFromUnknown_written valid written

/-! ## What is accepted -/

def PendingAutofillTransaction.submission : PendingAutofillTransaction → Option PendingAutofillSubmission
  | .captured _ submission _ => some submission
  | _ => none

def PendingAutofillTransaction.plan : PendingAutofillTransaction → Option PendingAutofillPlan
  | .planned executable => some executable.plan
  | .persisting executable _ => some executable.plan
  | .persistConflict executable _ => some executable.plan
  | _ => none

def PendingAutofillTransaction.conflict : PendingAutofillTransaction → Option PendingAutofillPersistConflict
  | .persistConflict _ conflict => some conflict
  | .legacyConflict _ _ _ _ _ => some { code := .legacyCreateOutcomeAmbiguous, retryable := false }
  | _ => none

/-- The submission is not later than now, nor than the deadline, and what is captured has not expired. -/
def PendingAutofillTransaction.Ordered (now : Int) : PendingAutofillTransaction → Prop
  | .captured _ submission expiresAt => submission.submittedAt ≤ now ∧ now < expiresAt
  | .planned executable => executable.submittedAt ≤ now ∧ executable.submittedAt ≤ executable.recoveryDeadlineAt
  | .persisting executable _ => executable.submittedAt ≤ now ∧ executable.submittedAt ≤ executable.recoveryDeadlineAt
  | .persistConflict executable _ => executable.submittedAt ≤ now ∧ executable.submittedAt ≤ executable.recoveryDeadlineAt
  | .legacyConflict _ submittedAt _ _ recoveryDeadlineAt => submittedAt ≤ now ∧ submittedAt ≤ recoveryDeadlineAt
  | .terminal _ => True

/-- The fields of the state are in the record, or their parts are read from there; they are bound to the tab, to
the origin and to each other, and the times are in order. -/
structure Accepted (library : Library) (record : JsRecord) (expectedTabId : Rat) (now captureTtlMs : Int)
    (transaction : PendingAutofillTransaction) : Prop where
  fields : ∀ f ∈ transaction.toRecord, f.1 ∉ ["submission", "plan", "conflict"] → record.lookup f.1 = some f.2
  submission : ∀ submission ∈ transaction.submission,
    pendingAutofillSubmissionFromUnknown library (record.lookup "submission") = some submission
  plan : ∀ plan ∈ transaction.plan, pendingAutofillPlanFromUnknown library (record.lookup "plan") = some plan
  conflict : ∀ conflict ∈ transaction.conflict, conflictFromUnknown (record.lookup "conflict") = some conflict
  valid : transaction.Valid library captureTtlMs
  tab : transaction.base.tabId = expectedTabId
  ordered : transaction.Ordered now

theorem baseFromUnknown_some {record : JsRecord} {expectedTabId : Rat} {base : PendingAutofillBase}
    (read : baseFromUnknown library record expectedTabId = some base) :
    base.Valid library ∧ Holds record base.toRecord ∧ base.tabId = expectedTabId := by
  simp only [baseFromUnknown, Option.bind_eq_bind, Option.bind_eq_some_iff, guard_some, Option.pure_def,
    Option.some.injEq] at read
  obtain ⟨_, version, transactionId, isToken, _, tabId, origin, isOrigin, _, canonical, rfl⟩ := read
  obtain ⟨token, valid⟩ := checked_some isToken
  refine ⟨⟨valid, canonical⟩, ?_, rfl⟩
  simp only [Holds, PendingAutofillBase.toRecord, List.forall_mem_cons]
  exact ⟨asNumber_some version, token, asNumber_some tabId, asText_some isOrigin, nofun⟩

theorem capturedFromUnknown_accepted {record : JsRecord} {base : PendingAutofillBase} {now captureTtlMs : Int}
    {transaction : PendingAutofillTransaction} (valid : base.Valid library) (held : Holds record base.toRecord)
    (state : record.lookup "state" = some (.string PendingState.captured.text))
    (read : capturedFromUnknown library record base now captureTtlMs = some transaction) :
    Accepted library record base.tabId now captureTtlMs transaction := by
  simp only [capturedFromUnknown, Option.bind_eq_bind, Option.bind_eq_some_iff, guard_some, Option.pure_def,
    Option.some.injEq] at read
  obtain ⟨submission, isSubmission, _, origin, _, begun, expiresAt, expires, _, lifetime, _, before, rfl⟩ := read
  obtain ⟨isTime, safe⟩ := safeInteger_some expires
  obtain ⟨settled, -⟩ := pendingAutofillSubmissionFromUnknown_some isSubmission
  exact {
    fields := by
      intro f member scalar
      rcases List.mem_append.mp member with inBase | rest
      · exact held f inBase
      · simp only [stateField, List.mem_cons, List.not_mem_nil, or_false] at rest
        rcases rest with rfl | rfl | rfl
        · exact state
        · simp at scalar
        · exact isTime
    submission := fun _ same => Option.some.inj same ▸ isSubmission
    plan := nofun
    conflict := nofun
    valid := ⟨valid, settled, origin, lifetime, safe⟩
    tab := rfl
    ordered := ⟨begun, before⟩ }

theorem terminalFromUnknown_accepted {record : JsRecord} {base : PendingAutofillBase} {state : TerminalState}
    {now captureTtlMs : Int} {transaction : PendingAutofillTransaction} (valid : base.Valid library)
    (held : Holds record base.toRecord)
    (isState : record.lookup "state" = some (.string (PendingState.terminal state).text))
    (read : terminalFromUnknown record base state = some transaction) :
    Accepted library record base.tabId now captureTtlMs transaction := by
  simp only [terminalFromUnknown, Option.bind_eq_bind, Option.bind_eq_some_iff, Option.pure_def, Option.some.injEq] at read
  obtain ⟨completedAt, completed, rfl⟩ := read
  obtain ⟨isTime, safe⟩ := safeInteger_some completed
  exact {
    fields := by
      intro f member scalar
      rcases List.mem_append.mp member with inBase | rest
      · exact held f inBase
      · simp only [stateField, List.mem_cons, List.mem_append, Option.mem_toList, Option.map_eq_some_iff,
          List.not_mem_nil, or_false] at rest
        rcases rest with rfl | (⟨id, found, rfl⟩ | ⟨id, found, rfl⟩) | rfl
        · exact isState
        · exact (checked_some found).1
        · exact (checked_some found).1
        · exact isTime
    submission := nofun
    plan := nofun
    conflict := nofun
    valid := ⟨valid, safe, fun id found => (checked_some found).2, fun id found => (checked_some found).2⟩
    tab := rfl
    ordered := trivial }

theorem attemptFromUnknown_some {record : JsRecord} {attempt : Option PendingAutofillAttempt}
    (read : attemptFromUnknown record = some attempt) :
    (∀ a ∈ attempt, a.Valid) ∧ Holds record ((attempt.map PendingAutofillAttempt.toRecord).getD []) := by
  rw [attemptFromUnknown] at read
  split at read
  · simp only [Option.bind_eq_bind, Option.bind_eq_some_iff, guard_some, Option.pure_def, Option.some.injEq] at read
    obtain ⟨attemptId, isToken, attemptCount, isCount, _, counted, lastAttemptAt, isLast, leaseExpiresAt, isLease, rfl⟩ := read
    obtain ⟨token, valid⟩ := checked_some isToken
    obtain ⟨count, safe⟩ := safeInteger_some isCount
    obtain ⟨last, safe'⟩ := safeInteger_some isLast
    obtain ⟨lease, safe''⟩ := safeInteger_some isLease
    refine ⟨fun a same => Option.some.inj same ▸ ⟨valid, ⟨counted, safe⟩, safe', safe''⟩, ?_⟩
    simp only [Option.map_some, Option.getD_some, Holds, PendingAutofillAttempt.toRecord, List.forall_mem_cons]
    exact ⟨token, count, last, lease, nofun⟩
  · cases read
    exact ⟨nofun, nofun⟩

theorem inState_accepted {record : JsRecord} {executable : PendingAutofillExecutable} {state : PendingState}
    {now captureTtlMs : Int} {transaction : PendingAutofillTransaction} (valid : executable.Valid library)
    (held : ∀ f ∈ executable.toRecord, f.1 ≠ "plan" → record.lookup f.1 = some f.2)
    (isPlan : pendingAutofillPlanFromUnknown library (record.lookup "plan") = some executable.plan)
    (ordered : executable.submittedAt ≤ now ∧ executable.submittedAt ≤ executable.recoveryDeadlineAt)
    (isState : record.lookup "state" = some (.string state.text))
    (pending : pendingAutofillStateIsRecoveryProtected state = true)
    (read : inState record executable state = some transaction) :
    Accepted library record executable.tabId now captureTtlMs transaction := by
  have scalar : ∀ {f : String × JsValue}, f.1 ∉ ["submission", "plan", "conflict"] → f.1 ≠ "plan" := by
    intro f other same
    simp [same] at other
  cases state with
  | captured => cases pending
  | terminal state => cases pending
  | planned =>
      cases read
      exact {
        fields := fun f member other => (List.mem_append.mp member).elim (held f · (scalar other)) fun rest => by
          rw [List.mem_singleton.mp rest]
          exact isState
        submission := nofun
        plan := fun _ same => Option.some.inj same ▸ isPlan
        conflict := nofun
        valid := valid
        tab := rfl
        ordered := ordered }
  | persisting =>
      obtain ⟨attempt, attempted, rfl⟩ := Option.map_eq_some_iff.mp read
      obtain ⟨valid', heldAttempt⟩ := attemptFromUnknown_some attempted
      exact {
        fields := fun f member other => (List.mem_append.mp member).elim (held f · (scalar other)) fun rest =>
          (List.mem_cons.mp rest).elim (fun same => same ▸ isState) (heldAttempt f)
        submission := nofun
        plan := fun _ same => Option.some.inj same ▸ isPlan
        conflict := nofun
        valid := ⟨valid, valid'⟩
        tab := rfl
        ordered := ordered }
  | persistConflict =>
      obtain ⟨conflict, isConflict, rfl⟩ := Option.map_eq_some_iff.mp read
      exact {
        fields := fun f member other => (List.mem_append.mp member).elim (held f · (scalar other)) fun rest => by
          simp only [stateField, List.mem_cons, List.not_mem_nil, or_false] at rest
          rcases rest with rfl | rfl
          · exact isState
          · simp at other
        submission := nofun
        plan := fun _ same => Option.some.inj same ▸ isPlan
        conflict := fun _ same => Option.some.inj same ▸ isConflict
        valid := ⟨valid, conflictFromUnknown_some isConflict⟩
        tab := rfl
        ordered := ordered }

theorem executableFromUnknown_accepted {record : JsRecord} {base : PendingAutofillBase} {state : PendingState}
    {now captureTtlMs : Int} {transaction : PendingAutofillTransaction} (valid : base.Valid library)
    (held : Holds record base.toRecord) (isState : record.lookup "state" = some (.string state.text))
    (pending : pendingAutofillStateIsRecoveryProtected state = true)
    (read : executableFromUnknown library record base state now = some transaction) :
    Accepted library record base.tabId now captureTtlMs transaction := by
  simp only [executableFromUnknown, Option.bind_eq_bind, Option.bind_eq_some_iff, guard_some] at read
  obtain ⟨submittedAt, submitted, _, begun, recoveryDeadlineAt, deadline, _, order, operationId, isOperation, vaultId, isVault,
    read⟩ := read
  obtain ⟨isSubmitted, safe⟩ := safeInteger_some submitted
  obtain ⟨isDeadline, safe'⟩ := safeInteger_some deadline
  obtain ⟨heldOperation, operation⟩ := checked_some isOperation
  obtain ⟨heldVault, vault⟩ := checked_some isVault
  have executes : Executes submittedAt vaultId operationId recoveryDeadlineAt :=
    ⟨⟨begun.1, safe⟩, ⟨safe', order.2⟩, operation, vault⟩
  split at read
  · simp only [Option.bind_eq_some_iff, guard_some, Option.pure_def, Option.some.injEq] at read
    obtain ⟨_, ⟨rfl, ambiguous⟩, rfl⟩ := read
    exact {
      fields := by
        intro f member other
        rcases List.mem_append.mp member with inBase | rest
        · exact held f inBase
        · simp only [stateField, List.mem_cons, List.not_mem_nil, or_false] at rest
          rcases rest with rfl | rfl | rfl | rfl | rfl | rfl
          · exact isState
          · exact isSubmitted
          · exact heldVault
          · exact heldOperation
          · exact isDeadline
          · simp at other
      submission := nofun
      plan := nofun
      conflict := fun _ same => Option.some.inj same ▸ ambiguous
      valid := ⟨valid, executes⟩
      tab := rfl
      ordered := ⟨begun.2, order.1⟩ }
  · rename_i plan isPlan
    obtain ⟨_, bound, read⟩ := Option.bind_eq_some_iff.mp read
    refine inState_accepted ?_ ?_ isPlan ⟨begun.2, order.1⟩ isState pending read
    · exact ⟨valid, executes, pendingAutofillPlanFromUnknown_settled isPlan, guard_some.mp bound⟩
    · intro f member other
      rcases List.mem_append.mp member with inBase | rest
      · exact held f inBase
      · simp only [List.mem_cons, List.not_mem_nil, or_false] at rest
        rcases rest with rfl | rfl | rfl | rfl | rfl
        · exact isSubmitted
        · exact heldVault
        · exact heldOperation
        · exact absurd rfl other
        · exact isDeadline

/-- Nothing is accepted without the fields of its state, or that is not bound or out of order. -/
theorem pendingAutofillTransactionFromUnknown_accepted {value : JsValue} {expectedTabId : Rat} {now captureTtlMs : Int}
    {transaction : PendingAutofillTransaction}
    (read : pendingAutofillTransactionFromUnknown library value expectedTabId now captureTtlMs = some transaction) :
    ∃ record, value = .object record ∧ Accepted library record expectedTabId now captureTtlMs transaction := by
  simp only [pendingAutofillTransactionFromUnknown, Option.bind_eq_bind, Option.bind_eq_some_iff] at read
  obtain ⟨record, isObject, base, isBase, state, isState, read⟩ := read
  refine ⟨record, Option.some.inj (asObject_some isObject), ?_⟩
  obtain ⟨valid, held, rfl⟩ := baseFromUnknown_some isBase
  have isState := stateFromUnknown_some isState
  cases state with
  | captured => exact capturedFromUnknown_accepted valid held isState read
  | terminal state => exact terminalFromUnknown_accepted valid held isState read
  | planned => exact executableFromUnknown_accepted valid held isState rfl read
  | persisting => exact executableFromUnknown_accepted valid held isState rfl read
  | persistConflict => exact executableFromUnknown_accepted valid held isState rfl read

end VaultKern.Pending
