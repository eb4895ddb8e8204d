import VaultKern.Autofill.Pending
import VaultKern.Guarantees.AutofillOnce
import VaultKern.Guarantees.PlanDigest

/-! # Pending plans resumed

The plan of a pending generation is rebuilt from it and from the generation the plan was made
against. It has the digest of the receipt where the vaults still say what the plan said.
-/

namespace VaultKern

open Framing Kdbx

/-! ## Validated plans are short -/

section Short

variable {library : AutofillLibrary} {name : String}

theorem short_of_le {text : String} {limit : Nat} (within : text.utf8ByteSize ≤ limit) (small : limit < 2 ^ 64) :
    Short text := Nat.lt_of_le_of_lt within small

theorem charsWidth_size (text : String) : charsWidth text.toList = text.utf8ByteSize := by
  rw [← bytes_length, bytes_size]

theorem mem_hyphenated {digits : List Char} {c : Char} (member : c ∈ hyphenated digits) : c ∈ digits ∨ c = '-' := by
  unfold hyphenated at member
  simp only [List.mem_append, List.mem_cons, or_assoc] at member
  have sub {n m : Nat} (inside : c ∈ (digits.drop n).take m) : c ∈ digits :=
    List.mem_of_mem_drop (List.mem_of_mem_take inside)
  rcases member with inside | rfl | inside | rfl | inside | rfl | inside | rfl | inside
  · exact .inl (List.mem_of_mem_take inside)
  · exact .inr rfl
  · exact .inl (sub inside)
  · exact .inr rfl
  · exact .inl (sub inside)
  · exact .inr rfl
  · exact .inl (sub inside)
  · exact .inr rfl
  · exact .inl (List.mem_of_mem_drop inside)

theorem hyphenated_length (digits : List Char) : (hyphenated digits).length ≤ 2 * digits.length + 4 := by
  unfold hyphenated
  simp only [List.length_append, List.length_cons, List.length_take, List.length_drop]
  omega

theorem uuidToString_short (id : Uuid) : Short (uuidToString id) := by
  have ascii : ∀ c ∈ hyphenated (hexDigits 32 id.val), c.utf8Size = 1 := by
    intro c member
    rcases mem_hyphenated member with digit | rfl
    · obtain ⟨nibble, small, rfl⟩ := mem_hexDigits_lower digit
      exact (hexLower_sha256 small).2
    · rfl
  have width := hyphenated_length (hexDigits 32 id.val)
  rw [hexDigits_length] at width
  unfold Short uuidToString
  rw [ascii_utf8ByteSize ascii]
  omega

/-- Go on where the condition holds. -/
theorem requirePlan_bind {A : Type} {condition : Bool} {message : String} {next : Unit → AutofillResult A} {a : A} :
    (requirePlan condition message >>= next) = .ok a ↔ condition = true ∧ next () = .ok a := by
  unfold requirePlan
  cases condition with
  | true => simp
  | false => simp [bind, Except.bind]

theorem validateCanonicalUuid_short {value : String} (valid : validateCanonicalUuid name value = .ok ()) : Short value := by
  obtain ⟨id, _, _, named⟩ := validateCanonicalUuid_ok valid
  rw [← named]
  exact uuidToString_short id

theorem validateUpdateFields_ok {fields : AutofillUpdateFieldsDto} {valid : ValidatedUpdateFields} {allowEmptyPassword : Bool}
    (checked : validateUpdateFields library name fields allowEmptyPassword = .ok valid) :
    valid = ⟨fields.username, fields.password, fields.url⟩ ∧ valid.Short := by
  unfold validateUpdateFields at checked
  simp only [↓requirePlan_bind, decide_eq_true_eq] at checked
  obtain ⟨username, password, url, _, checked⟩ := checked
  obtain ⟨_, _, same⟩ := Fallible.bind_ok.mp checked
  cases same
  have small : maxFieldBytes < 2 ^ 64 := by decide
  exact ⟨rfl, short_of_le username small, short_of_le password small, short_of_le url small⟩

/-- A custom field as a plan holds it. -/
def checkedCustomField (field : EntryCustomFieldDto) : String × CustomField :=
  (field.key, { value := field.value, isProtected := effectiveXmlFieldProtection field.value field.isProtected })

def checkedCustomFields (fields : List EntryCustomFieldDto) : BTreeMap String CustomField :=
  BTreeMap.lastWins (fields.map checkedCustomField)

theorem checkedCustomFields_keys (list : List EntryCustomFieldDto) :
    (list.map checkedCustomField).map Prod.fst = list.map (·.key) := by
  rw [List.map_map]
  rfl

theorem validateCustomFields_from {list : List EntryCustomFieldDto} {start fields : BTreeMap String CustomField} :
    validateCustomFields name list start = .ok fields ↔
      (∀ field ∈ list, invalidCustomField field = false ∧ start.contains field.key = false) ∧
        (list.map (·.key)).Nodup ∧
        fields = (list.map checkedCustomField).foldl (fun m binding => m.insert binding.1 binding.2) start := by
  induction list generalizing start with
  | nil =>
      rw [validateCustomFields]
      constructor
      · rintro ⟨⟩
        simp
      · rintro ⟨_, _, same⟩
        rw [same]
        rfl
  | cons field rest ih =>
      rw [validateCustomFields]
      simp only [requirePlan_bind, ih, Bool.not_eq_true', List.map_cons, List.nodup_cons,
        List.forall_mem_cons, List.foldl_cons, checkedCustomField]
      constructor
      · rintro ⟨valid, fresh, each, distinct, same⟩
        have apart : ∀ other ∈ rest, other.key ≠ field.key := by
          intro other member equal
          have absent := (each other member).2
          rw [Std.ExtTreeMap.contains_insert, equal] at absent
          simp at absent
        refine ⟨⟨⟨valid, fresh⟩, fun other member => ⟨(each other member).1, ?_⟩⟩, ⟨?_, distinct⟩, same⟩
        · have absent := (each other member).2
          rw [Std.ExtTreeMap.contains_insert, Bool.or_eq_false_iff] at absent
          exact absent.2
        · intro member
          obtain ⟨other, inside, equal⟩ := List.mem_map.mp member
          exact apart other inside equal
      · rintro ⟨⟨⟨valid, fresh⟩, each⟩, ⟨apart, distinct⟩, same⟩
        refine ⟨valid, fresh, fun other member => ⟨(each other member).1, ?_⟩, distinct, same⟩
        rw [Std.ExtTreeMap.contains_insert, (each other member).2, Bool.or_false]
        have other_key : field.key ≠ other.key := by
          intro equal
          exact apart (equal ▸ List.mem_map_of_mem member)
        simpa using other_key

theorem validateCustomFields_ok {list : List EntryCustomFieldDto} {fields : BTreeMap String CustomField} :
    validateCustomFields name list ∅ = .ok fields ↔
      (∀ field ∈ list, invalidCustomField field = false) ∧ (list.map (·.key)).Nodup ∧ fields = checkedCustomFields list := by
  rw [validateCustomFields_from]
  simp [checkedCustomFields, BTreeMap.lastWins]

theorem validateTotpUri_ok {uri : Option String} {totp : Option TotpSpec} :
    validateTotpUri library name uri = .ok totp ↔ totp = none ∧ uri = none ∨ ∃ text spec, uri = some text ∧ totp = some spec ∧
      text.isEmpty = false ∧ trimText text = text ∧ hasControl text = false ∧ text.utf8ByteSize ≤ maxTotpUriBytes ∧
        TotpSpec.parseOtpauth text = some spec ∧ validTotpSpec library spec = true := by
  unfold validateTotpUri
  cases uri with
  | none =>
      constructor
      · rintro ⟨⟩
        exact .inl ⟨rfl, rfl⟩
      · rintro (⟨rfl, _⟩ | ⟨text, spec, absent, _⟩)
        · rfl
        · cases absent
  | some text =>
      dsimp only
      split
      · rename_i refused
        simp only [Bool.or_eq_true, decide_eq_true_eq, gt_iff_lt] at refused
        constructor
        · intro impossible
          cases impossible
        · rintro (⟨_, impossible⟩ | ⟨text', spec, same, _, named, trimmed, plain, small, _⟩)
          · cases impossible
          · cases same
            grind
      · rename_i passed
        simp only [Bool.or_eq_true, decide_eq_true_eq, gt_iff_lt, not_or, Bool.not_eq_true, not_lt, ne_eq, not_not] at passed
        cases parsed : TotpSpec.parseOtpauth text with
        | none => simp [parsed]
        | some spec => by_cases valid : validTotpSpec library spec <;> grind

/-- What is asked of the fields of an entry. -/
structure FieldsChecked (library : AutofillLibrary) (name : String) (fields : EntryFieldsDto) (valid : ValidatedFields) : Prop where
  title : fields.title.utf8ByteSize ≤ maxFieldBytes
  username : fields.username.utf8ByteSize ≤ maxFieldBytes
  password : fields.password.utf8ByteSize ≤ maxFieldBytes
  url : fields.url.utf8ByteSize ≤ maxFieldBytes
  notes : fields.notes.utf8ByteSize ≤ maxFieldBytes
  totp : validateTotpUri library name fields.totpUri = .ok valid.totp
  few : fields.customFields.length ≤ maxCustomFields
  custom : ∀ field ∈ fields.customFields, invalidCustomField field = false
  distinct : (fields.customFields.map (·.key)).Nodup
  total : fieldsBytes fields ≤ maxPlanBytes
  values : valid.values = ⟨fields.title, fields.username, fields.password, fields.url, fields.notes⟩
  customFields : valid.customFields = checkedCustomFields fields.customFields

theorem validateFields_ok {fields : EntryFieldsDto} {valid : ValidatedFields} :
    validateFields library name fields = .ok valid ↔ FieldsChecked library name fields valid := by
  unfold validateFields
  simp only [↓requirePlan_bind, Fallible.bind_ok, decide_eq_true_eq, validateCustomFields_ok]
  constructor
  · rintro ⟨title, username, password, url, notes, totp, uri, few, custom, ⟨each, distinct, rfl⟩, total, same⟩
    cases same
    exact ⟨title, username, password, url, notes, uri, few, each, distinct, total, rfl, rfl⟩
  · intro checked
    refine ⟨checked.title, checked.username, checked.password, checked.url, checked.notes, _, checked.totp, checked.few, _,
      ⟨checked.custom, checked.distinct, rfl⟩, checked.total, ?_⟩
    rw [← checked.customFields, ← checked.values]
    rfl

theorem TotpSpec.Within.short {bound : Nat} {spec : TotpSpec} (within : spec.Within bound) (readable : spec.Readable)
    (small : bound < 2 ^ 64) : spec.Short := by
  refine ⟨?_, Nat.lt_of_le_of_lt readable.digits.2 (by decide), readable.period.2, ?_, ?_⟩
  · exact short_of_le (charsWidth_size _ ▸ within.1) small
  · intro issuer named
    exact short_of_le (charsWidth_size _ ▸ within.2.1 issuer named) small
  · intro account named
    exact short_of_le (charsWidth_size _ ▸ within.2.2 account named) small

theorem FieldsChecked.short {fields : EntryFieldsDto} {valid : ValidatedFields}
    (checked : FieldsChecked library name fields valid) : valid.Short := by
  have small : maxFieldBytes < 2 ^ 64 := by decide
  refine ⟨?_, ?_, ?_, ?_⟩
  · rw [checked.values]
    exact ⟨short_of_le checked.title small, short_of_le checked.username small, short_of_le checked.password small,
      short_of_le checked.url small, short_of_le checked.notes small⟩
  · intro spec held
    rcases validateTotpUri_ok.mp checked.totp with ⟨absent, _⟩ | ⟨text, spec', _, present, _, _, _, size, parsed, _⟩
    · rw [absent] at held
      cases held
    · rw [present] at held
      cases held
      have bounded : text.utf8ByteSize < 2 ^ 64 := Nat.lt_of_le_of_lt size (by decide)
      exact (parseOtpauth_within parsed).short (parseOtpauth_readable parsed) (charsWidth_size text ▸ bounded)
  · rw [checked.customFields]
    have size := BTreeMap.lastWins_size_le (fields.customFields.map checkedCustomField)
    have few := checked.few
    rw [List.length_map] at size
    unfold maxCustomFields at few
    unfold checkedCustomFields
    omega
  · intro key field held
    rw [checked.customFields] at held
    obtain ⟨given, member, same⟩ := List.mem_map.mp (BTreeMap.mem_of_lastWins held)
    cases same
    have valid := checked.custom given member
    simp only [invalidCustomField, Bool.or_eq_false_iff, decide_eq_false_iff_not, not_lt, gt_iff_lt] at valid
    exact ⟨short_of_le valid.1.1.1.1.1.1.2 (by decide), short_of_le valid.2 small⟩

/-- What is asked of a plan. -/
def PlanChecked (library : AutofillLibrary) (dto : AutofillPersistPlanDto) (plan : ValidatedPlan) : Prop :=
  match dto with
  | .update entryId expected desired => validateCanonicalUuid "entry_id" entryId = .ok () ∧
      ∃ expected' desired', validateUpdateFields library "expected_fields" expected true = .ok expected' ∧
        validateUpdateFields library "desired_fields" desired false = .ok desired' ∧
        (∃ origin, httpOrigin library "expected_fields.url" expected'.url = .ok origin ∧
          httpOrigin library "desired_fields.url" desired'.url = .ok origin) ∧ plan = .update entryId expected' desired'
  | .create parent planned ids desired => validateCanonicalUuid "parent_group_id" parent = .ok () ∧
      validateCanonicalUuid "planned_entry_id" planned = .ok () ∧ ids.length ≤ maxMatchingIds ∧
        (∀ id ∈ ids, validateCanonicalUuid "expected_matching_entry_id" id = .ok ()) ∧
        (ids.mergeSort fun left right => left ≤ right).Nodup ∧
        ∃ desired', FieldsChecked library "desired_fields" desired desired' ∧
          validateDesiredFields library "desired_fields" desired' = .ok () ∧
          plan = .create parent planned (ids.mergeSort fun left right => left ≤ right) desired'

theorem fromDto_ok {dto : AutofillPersistPlanDto} {plan : ValidatedPlan} :
    ValidatedPlan.fromDto library dto = .ok plan ↔ PlanChecked library dto plan := by
  cases dto with
  | update entryId expected desired =>
      unfold ValidatedPlan.fromDto PlanChecked
      simp only [↓requirePlan_bind, Fallible.bind_ok, decide_eq_true_eq]
      constructor
      · rintro ⟨⟨⟩, canonical, expected', old, desired', new, origin, oldOrigin, origin', newOrigin, rfl, same⟩
        cases same
        exact ⟨canonical, _, _, old, new, ⟨_, oldOrigin, newOrigin⟩, rfl⟩
      · rintro ⟨canonical, expected', desired', old, new, ⟨origin, oldOrigin, newOrigin⟩, rfl⟩
        exact ⟨(), canonical, _, old, _, new, _, oldOrigin, _, newOrigin, rfl, rfl⟩
  | create parent planned ids desired =>
      unfold ValidatedPlan.fromDto PlanChecked
      simp only [↓requirePlan_bind, Fallible.bind_ok, decide_eq_true_eq, validateFields_ok]
      constructor
      · rintro ⟨⟨⟩, parentValid, ⟨⟩, plannedValid, few, ⟨⟩, each, distinct, desired', fields, ⟨⟩, usable, same⟩
        cases same
        exact ⟨parentValid, plannedValid, few, Fallible.forM_ok.mp each, distinct, desired', fields, usable, rfl⟩
      · rintro ⟨parentValid, plannedValid, few, each, distinct, desired', fields, usable, rfl⟩
        exact ⟨(), parentValid, (), plannedValid, few, (), Fallible.forM_ok.mpr each, distinct, desired', fields, (), usable, rfl⟩

theorem PlanChecked.short {dto : AutofillPersistPlanDto} {plan : ValidatedPlan} (checked : PlanChecked library dto plan) :
    plan.Short := by
  cases dto with
  | update entryId expected desired =>
      obtain ⟨canonical, expected', desired', old, new, _, rfl⟩ := checked
      exact ⟨validateCanonicalUuid_short canonical, (validateUpdateFields_ok old).2, (validateUpdateFields_ok new).2⟩
  | create parent planned ids desired =>
      obtain ⟨parentValid, plannedValid, few, each, _, desired', fields, _, rfl⟩ := checked
      refine ⟨validateCanonicalUuid_short parentValid, validateCanonicalUuid_short plannedValid, ?_, ?_, fields.short⟩
      · rw [List.length_mergeSort]
        exact Nat.lt_of_le_of_lt few (by decide)
      · intro id member
        exact validateCanonicalUuid_short (each id (List.mem_mergeSort.mp member))

end Short

/-! ## Fields that mean the same -/

section Fields

variable {library : AutofillLibrary} {name : String}

theorem canonicalCustomFields_iff {list : List EntryCustomFieldDto} {fields : BTreeMap String (String × Bool)} :
    canonicalCustomFields list = some fields ↔ (list.map (·.key)).Nodup ∧
      ∀ key : String, fields[key]? = (checkedCustomFields list)[key]?.map fun field => (field.value, field.isProtected) := by
  have views : list.map (fun field => (field.key, (field.value, effectiveXmlFieldProtection field.value field.isProtected))) =
      (list.map checkedCustomField).map fun binding => (binding.1, (binding.2.value, binding.2.isProtected)) := by
    rw [List.map_map]
    rfl
  have lookups := BTreeMap.lastWins_map (fun field : CustomField => (field.value, field.isProtected)) (list.map checkedCustomField)
  have sizes (pairs : List (String × String × Bool)) :
      (BTreeMap.lastWins pairs).size = pairs.length ↔ (pairs.map Prod.fst).Nodup := BTreeMap.lastWins_size
  have size := sizes ((list.map checkedCustomField).map fun binding => (binding.1, (binding.2.value, binding.2.isProtected)))
  have keys : ((list.map checkedCustomField).map fun binding => (binding.1, (binding.2.value, binding.2.isProtected))).map
      Prod.fst = list.map (·.key) := by
    rw [← views, List.map_map]
    rfl
  rw [keys, List.length_map, List.length_map] at size
  unfold canonicalCustomFields
  rw [views]
  dsimp only
  split
  · rename_i whole
    constructor
    · rintro ⟨⟩
      exact ⟨size.mp whole, lookups⟩
    · rintro ⟨_, same⟩
      congr 1
      apply Std.ExtTreeMap.ext_getElem?
      intro key
      exact (lookups key).trans (same key).symm
  · rename_i partly
    constructor
    · rintro ⟨⟩
    · rintro ⟨distinct, _⟩
      exact absurd (size.mpr distinct) partly

theorem checkedCustomFields_size {list : List EntryCustomFieldDto} (distinct : (list.map (·.key)).Nodup) :
    (checkedCustomFields list).size = list.length := by
  rw [← checkedCustomFields_keys] at distinct
  rw [checkedCustomFields, BTreeMap.lastWins_size.mpr distinct, List.length_map]

theorem customFieldsSemanticallyEqual_iff {left right : List EntryCustomFieldDto} :
    customFieldsSemanticallyEqual left right = true ↔ (left.map (·.key)).Nodup ∧ (right.map (·.key)).Nodup ∧
      checkedCustomFields left = checkedCustomFields right := by
  have told {a b : CustomField} (same : (a.value, a.isProtected) = (b.value, b.isProtected)) : a = b := by
    cases a
    cases b
    simp_all
  have canonical {list : List EntryCustomFieldDto} (distinct : (list.map (·.key)).Nodup) :
      ∃ fields, canonicalCustomFields list = some fields := by
    exact ⟨_, canonicalCustomFields_iff.mpr ⟨distinct, fun key =>
      BTreeMap.lastWins_map (fun field : CustomField => (field.value, field.isProtected)) (list.map checkedCustomField) key⟩⟩
  unfold customFieldsSemanticallyEqual
  constructor
  · intro same
    split at same
    · cases same
    · cases here : canonicalCustomFields left with
      | none => simp [here] at same
      | some fields =>
          cases there : canonicalCustomFields right with
          | none => simp [here, there] at same
          | some fields' =>
              simp only [here, there, decide_eq_true_eq] at same
              obtain ⟨leftDistinct, leftLookups⟩ := canonicalCustomFields_iff.mp here
              obtain ⟨rightDistinct, rightLookups⟩ := canonicalCustomFields_iff.mp there
              refine ⟨leftDistinct, rightDistinct, ?_⟩
              apply Std.ExtTreeMap.ext_getElem?
              intro key
              have equal := (leftLookups key).symm.trans ((congrArg (fun m => m[key]?) same).trans (rightLookups key))
              exact Option.map_injective (fun _ _ => told) equal
  · rintro ⟨leftDistinct, rightDistinct, same⟩
    have length : left.length = right.length := by
      rw [← checkedCustomFields_size leftDistinct, ← checkedCustomFields_size rightDistinct, same]
    obtain ⟨fields, here⟩ := canonical leftDistinct
    obtain ⟨fields', there⟩ := canonical rightDistinct
    rw [if_neg (not_not.mpr length), here, there]
    simp only [decide_eq_true_eq]
    apply Std.ExtTreeMap.ext_getElem?
    intro key
    rw [(canonicalCustomFields_iff.mp here).2 key, (canonicalCustomFields_iff.mp there).2 key, same]

/-- Which fields are refused is told by what is checked of them. -/
theorem invalidCustomField_congr {left right : EntryCustomFieldDto} (same : checkedCustomField left = checkedCustomField right) :
    invalidCustomField left = invalidCustomField right := by
  have keys : left.key = right.key := congrArg Prod.fst same
  have values : left.value = right.value := congrArg (fun binding => binding.2.value) same
  unfold invalidCustomField
  rw [keys, values]

theorem checkedCustomFields_source {list other : List EntryCustomFieldDto} (distinct : (list.map (·.key)).Nodup)
    (same : checkedCustomFields list = checkedCustomFields other) {field : EntryCustomFieldDto} (member : field ∈ list) :
    ∃ given ∈ other, checkedCustomField given = checkedCustomField field := by
  rw [← checkedCustomFields_keys] at distinct
  have stored : (checkedCustomFields list)[field.key]? = some (checkedCustomField field).2 :=
    BTreeMap.lastWins_of_mem distinct (List.mem_map_of_mem member)
  rw [same] at stored
  obtain ⟨given, inside, equal⟩ := List.mem_map.mp (BTreeMap.mem_of_lastWins stored)
  exact ⟨given, inside, equal⟩

/-- Limits on fields that mean the same as fields that were checked. -/
structure WithinLimits (fields : EntryFieldsDto) : Prop where
  totpUri : ∀ uri ∈ fields.totpUri, uri.utf8ByteSize ≤ maxTotpUriBytes
  total : fieldsBytes fields ≤ maxPlanBytes

/-- A URI without blanks and control characters. -/
def PlainText (text : String) : Prop := text.isEmpty = false ∧ ∀ c ∈ text.toList, isWhitespace c = false ∧ isControl c = false

theorem PlainText.trimmed {text : String} (plain : PlainText text) : trimText text = text := by
  have keep {chars : List Char} (solid : ∀ c ∈ chars, isWhitespace c = false) : chars.dropWhile isWhitespace = chars := by
    cases chars with
    | nil => rfl
    | cons c rest =>
        rw [List.dropWhile_cons, solid c List.mem_cons_self]
        rfl
  unfold trimText
  rw [keep fun c member => (plain.2 c member).1, keep fun c member => (plain.2 c (List.mem_reverse.mp member)).1,
    List.reverse_reverse, String.ofList_toList]

theorem PlainText.noControl {text : String} (plain : PlainText text) : hasControl text = false := by
  unfold hasControl
  rw [List.any_eq_false]
  intro c member
  rw [(plain.2 c member).2]
  exact Bool.false_ne_true

theorem totpFieldsSemanticallyEqual_iff {left right : Option String} : totpFieldsSemanticallyEqual left right = true ↔
    left = none ∧ right = none ∨ ∃ text text' spec, left = some text ∧ right = some text' ∧
      TotpSpec.parseOtpauth text = some spec ∧ TotpSpec.parseOtpauth text' = some spec := by
  unfold totpFieldsSemanticallyEqual
  cases left with
  | none => cases right <;> simp
  | some text =>
      cases right with
      | none => simp
      | some text' =>
          cases here : TotpSpec.parseOtpauth text with
          | none => simp [here]
          | some spec =>
              cases there : TotpSpec.parseOtpauth text' with
              | none => simp [here, there]
              | some spec' => simp [here, there, eq_comm]

theorem entryFieldsSemanticallyEqual_iff {left right : EntryFieldsDto} : entryFieldsSemanticallyEqual left right = true ↔
    (left.title = right.title ∧ left.username = right.username ∧ left.password = right.password ∧ left.url = right.url ∧
      left.notes = right.notes) ∧ totpFieldsSemanticallyEqual left.totpUri right.totpUri = true ∧
      customFieldsSemanticallyEqual left.customFields right.customFields = true := by
  unfold entryFieldsSemanticallyEqual
  simp only [Bool.and_eq_true, decide_eq_true_eq, and_assoc]

/-- One-time passwords of checked fields that pass as the same. -/
theorem validateTotpUri_same {desired actual : Option String} {totp : Option TotpSpec}
    (checked : validateTotpUri library name desired = .ok totp) (plain : ∀ uri ∈ actual, PlainText uri) :
    validateTotpUri library name actual = .ok totp ↔
      totpFieldsSemanticallyEqual actual desired = true ∧ ∀ uri ∈ actual, uri.utf8ByteSize ≤ maxTotpUriBytes := by
  rw [validateTotpUri_ok, totpFieldsSemanticallyEqual_iff]
  rcases validateTotpUri_ok.mp checked with ⟨rfl, rfl⟩ | ⟨text, spec, rfl, rfl, _, _, _, _, parsed, usable⟩
  · constructor
    · rintro (⟨_, rfl⟩ | ⟨_, _, _, absent, _⟩)
      · exact ⟨.inl ⟨rfl, rfl⟩, fun uri held => by cases held⟩
      · cases absent
    · rintro ⟨⟨rfl, _⟩ | ⟨_, _, _, _, absent, _⟩, _⟩
      · exact .inl ⟨rfl, rfl⟩
      · cases absent
  · constructor
    · rintro (⟨absent, _⟩ | ⟨text', spec', rfl, same, _, _, _, small, again, _⟩)
      · cases absent
      · cases same
        exact ⟨.inr ⟨text', text, spec, rfl, rfl, again, parsed⟩, fun uri held => by cases held; exact small⟩
    · rintro ⟨⟨_, absent⟩ | ⟨text', text'', spec', rfl, same, here, there⟩, small⟩
      · cases absent
      · cases same
        cases parsed.symm.trans there
        have solid := plain text' rfl
        exact .inr ⟨text', spec, rfl, rfl, solid.1, solid.trimmed, solid.noControl, small text' rfl, here, usable⟩

/-- Fields pass as the same ones exactly where they mean the same, within the limits. -/
theorem FieldsChecked.same_iff {desired actual : EntryFieldsDto} {valid : ValidatedFields}
    (checked : FieldsChecked library name desired valid) (plain : ∀ uri ∈ actual.totpUri, PlainText uri) :
    FieldsChecked library name actual valid ↔ entryFieldsSemanticallyEqual actual desired = true ∧ WithinLimits actual := by
  rw [entryFieldsSemanticallyEqual_iff, customFieldsSemanticallyEqual_iff]
  constructor
  · intro again
    have values := again.values.symm.trans checked.values
    obtain ⟨title, username, password, url, notes⟩ := ValidatedEntryFields.mk.inj values
    obtain ⟨totp, small⟩ := (validateTotpUri_same checked.totp plain).mp again.totp
    have custom := again.customFields.symm.trans checked.customFields
    exact ⟨⟨⟨title, username, password, url, notes⟩, totp, again.distinct, checked.distinct, custom⟩, small, again.total⟩
  · rintro ⟨⟨⟨title, username, password, url, notes⟩, totp, distinct, _, custom⟩, small, total⟩
    refine {
      title := title ▸ checked.title
      username := username ▸ checked.username
      password := password ▸ checked.password
      url := url ▸ checked.url
      notes := notes ▸ checked.notes
      totp := (validateTotpUri_same checked.totp plain).mpr ⟨totp, small⟩
      few := ?_
      custom := ?_
      distinct := distinct
      total := total
      values := ?_
      customFields := checked.customFields.trans custom.symm }
    · rw [← checkedCustomFields_size distinct, custom, checkedCustomFields_size checked.distinct]
      exact checked.few
    · intro field member
      obtain ⟨given, inside, same⟩ := checkedCustomFields_source distinct custom member
      rw [← invalidCustomField_congr same]
      exact checked.custom given inside
    · rw [checked.values, title, username, password, url, notes]

end Fields

/-! ## The URI that an entry shows -/

theorem formEncode_plain {text : String} {c : Char} (member : c ∈ (formEncode text).toList) :
    isWhitespace c = false ∧ isControl c = false := by
  have table : (List.range 256).all (fun n => (let c := Char.ofNat n
      if c.isAlphanum || c = '*' || c = '-' || c = '.' || c = '_' then [c]
      else if c = ' ' then ['+']
      else ['%', hexUpper (n / 16), hexUpper (n % 16)]).all fun c => !isWhitespace c && !isControl c) = true := by
    decide +kernel
  unfold formEncode at member
  rw [String.toList_ofList, List.mem_flatMap] at member
  obtain ⟨byte, _, here⟩ := member
  have plain := List.all_eq_true.mp (List.all_eq_true.mp table byte.toNat (List.mem_range.mpr byte.toNat_lt)) c here
  simpa only [Bool.and_eq_true, Bool.not_eq_true'] using plain

theorem isDigit_plain {c : Char} (digit : c.isDigit = true) : isWhitespace c = false ∧ isControl c = false := by
  simp only [Char.isDigit, Bool.and_eq_true, decide_eq_true_eq, UInt32.le_iff_toNat_le, ge_iff_le] at digit
  simp only [isWhitespace, isControl, Bool.or_eq_false_iff, Bool.and_eq_false_iff, decide_eq_false_iff_not,
    UInt32.le_iff_toNat_le, ← UInt32.toNat_inj]
  simp at digit ⊢
  omega

theorem totpToUri_plain (title username : String) (totp : TotpSpec) : PlainText (totpToUri title username totp) := by
  have number {n : Nat} {c : Char} (member : c ∈ (toString n).toList) := isDigit_plain (toString_chars n c member)
  have fixed : ∀ text ∈ ["otpauth://totp/", ":", "?secret=", "&issuer=", "&algorithm=", "&digits=", "&period=", "SHA1", "SHA256",
      "SHA512"], ∀ c ∈ text.toList, isWhitespace c = false ∧ isControl c = false := by
    have plain : (["otpauth://totp/", ":", "?secret=", "&issuer=", "&algorithm=", "&digits=", "&period=", "SHA1", "SHA256",
        "SHA512"].all fun text => text.toList.all fun c => !isWhitespace c && !isControl c) = true := by decide +kernel
    intro text member c here
    simpa only [Bool.and_eq_true, Bool.not_eq_true'] using
      List.all_eq_true.mp (List.all_eq_true.mp plain text member) c here
  have algorithm {c : Char} (member : c ∈ totp.algorithm.uriText.toList) : isWhitespace c = false ∧ isControl c = false := by
    apply fixed totp.algorithm.uriText _ c member
    cases totp.algorithm <;> simp [TotpAlgorithm.uriText]
  have label {issuer account : String} {c : Char} (member : c ∈ (if account.isEmpty then formEncode issuer
      else formEncode issuer ++ ":" ++ formEncode account).toList) : isWhitespace c = false ∧ isControl c = false := by
    split at member
    · exact formEncode_plain member
    · simp only [String.toList_append, List.mem_append] at member
      rcases member with (first | colon) | second
      · exact formEncode_plain first
      · exact fixed ":" (by simp) c colon
      · exact formEncode_plain second
  constructor
  · unfold totpToUri
    simp [String.isEmpty_iff]
  · intro c member
    unfold totpToUri at member
    simp only [String.toList_append, List.mem_append, or_assoc] at member
    rcases member with scheme | name | secretKey | secret | issuerKey | issuer | algorithmKey | hash | digitsKey | digits |
      periodKey | period
    · exact fixed _ (by simp) c scheme
    · exact label name
    · exact fixed _ (by simp) c secretKey
    · exact formEncode_plain secret
    · exact fixed _ (by simp) c issuerKey
    · exact formEncode_plain issuer
    · exact fixed _ (by simp) c algorithmKey
    · exact algorithm hash
    · exact fixed _ (by simp) c digitsKey
    · exact number digits
    · exact fixed _ (by simp) c periodKey
    · exact number period

theorem entryFields_plain (entry : Entry) : ∀ uri ∈ (entryFields entry).totpUri, PlainText uri := by
  intro uri held
  obtain ⟨totp, _, rfl⟩ := Option.map_eq_some_iff.mp held
  exact totpToUri_plain entry.title entry.username totp

/-! ## The receipt of a saved candidate -/

section Receipt

variable {services : AutofillServices} {input : AutofillPersistEngineInput} {plan : ValidatedPlan}
  {prepared : PreparedAutofillPersist}

/-- What a receipt binds a pending plan to. -/
def AutofillReceipt.pendingBinding (receipt : AutofillReceipt) : PendingAutofillReceiptBinding :=
  { transactionId := receipt.transactionId
    sourceIdentitySha256 := receipt.sourceIdentitySha256
    planSha256 := receipt.planSha256
    mode := receipt.mode
    entryId := receipt.entryId }

theorem AutofillReceipt.pendingBinding_congr {left right : AutofillReceipt} (same : left.binding = right.binding) :
    left.pendingBinding = right.pendingBinding := by
  have parts : left.transactionId = right.transactionId ∧ left.sourceIdentitySha256 = right.sourceIdentitySha256 ∧
      left.planSha256 = right.planSha256 ∧ left.mode = right.mode ∧ left.entryId = right.entryId := by
    cases left
    cases right
    simp_all [AutofillReceipt.binding]
  unfold AutofillReceipt.pendingBinding
  rw [parts.1, parts.2.1, parts.2.2.1, parts.2.2.2.1, parts.2.2.2.2]

theorem requirePending_bind {A : Type} {condition : Bool} {message : String} {next : Unit → PendingResult A} {a : A} :
    (requirePending condition message >>= next) = .ok a ↔ condition = true ∧ next () = .ok a := by
  unfold requirePending
  cases condition with
  | true => simp
  | false => simp [bind, Except.bind]

theorem foundPending_bind {A B : Type} {found : Option A} {message : String} {next : A → PendingResult B} {b : B} :
    (foundPending found message >>= next) = .ok b ↔ ∃ a, found = some a ∧ next a = .ok b := by
  unfold foundPending
  cases found with
  | some a => simp
  | none => simp [bind, Except.bind]

theorem fromEngine_ok {A : Type} {result : AutofillResult A} {a : A} : fromEngine result = .ok a ↔ result = .ok a := by
  unfold fromEngine
  cases result <;> simp

theorem isSha256Text_nonempty {text : String} (digest : isSha256Text text = true) : text.isEmpty = false := by
  unfold isSha256Text at digest
  simp only [Bool.and_eq_true, decide_eq_true_eq] at digest
  rw [Bool.eq_false_iff]
  intro empty
  rw [String.isEmpty_iff] at empty
  rw [empty] at digest
  exact absurd digest.1 (by decide)

/-- The receipt of a valid request is one that a pending plan is bound to. -/
theorem pendingReceiptBinding_intended (law : AutofillLaw services) (valid : validatedAutofillPlan services input = .ok plan)
    {receipt : AutofillReceipt} (same : receipt.binding = (intendedReceipt services input plan).binding) :
    pendingReceiptBinding receipt = .ok (intendedReceipt services input plan).pendingBinding := by
  obtain ⟨id, parsed, named⟩ := validated_canonical valid
  have digest : isSha256Text (intendedReceipt services input plan).planSha256 = true := hexText_sha256 (law.digest _)
  unfold validatedAutofillPlan at valid
  simp only [validateToken, ↓requirePlan_bind, Bool.and_eq_true, Bool.not_eq_true', decide_eq_true_eq] at valid
  obtain ⟨⟨⟨⟨transaction, _⟩, _⟩, _⟩, _, _, source, checked⟩ := valid
  have bound := AutofillReceipt.pendingBinding_congr same
  have entryId : (intendedReceipt services input plan).entryId.isEmpty = false := by
    rw [Bool.eq_false_iff]
    intro empty
    rw [String.isEmpty_iff] at empty
    have impossible : uuidParseStr "" = some id := empty ▸ parsed
    exact absurd impossible (by simp [show uuidParseStr "" = none by decide])
  obtain ⟨transactionId, sourceIdentity, planSha, mode, entry⟩ := PendingAutofillReceiptBinding.mk.inj bound
  unfold pendingReceiptBinding
  rw [transactionId, sourceIdentity, planSha, mode, entry]
  simp only [requirePending_bind]
  refine ⟨?_, ?_, ?_, ?_, ?_, ?_, rfl⟩
  · rw [Bool.not_eq_true']
    exact transaction
  · rw [Bool.not_eq_true']
    exact isSha256Text_nonempty source
  · rw [Bool.not_eq_true']
    exact isSha256Text_nonempty digest
  · rw [Bool.not_eq_true']
    exact entryId
  · rw [Bool.and_eq_true]
    exact ⟨source, digest⟩
  · have here : uuidParseStr (intendedReceipt services input plan).entryId = some id := parsed
    rw [here, Option.any_some, decide_eq_true_eq]
    exact named

/-- A prepared candidate holds the receipt of its operation, once. -/
theorem PreparedRun.pendingBinding (run : PreparedRun services input plan prepared) (law : AutofillLaw services)
    (valid : validatedAutofillPlan services input = .ok plan) :
    requiredPendingAutofillReceiptBinding services prepared.candidate input.operationId =
      .ok (intendedReceipt services input plan).pendingBinding := by
  obtain ⟨current, others, json, named, alike, ledger, same⟩ := run.final law valid
  have distinct : ((prunedReceipts others current input.nowEpochMs).map (·.operationId)).Nodup :=
    prunedReceipts_distinct (ledger.distinct (run.known law valid))
  have member : current ∈ prunedReceipts others current input.nowEpochMs :=
    (prunedReceipts_perm others current input.nowEpochMs).mem_iff.mpr List.mem_cons_self
  have only : (prunedReceipts others current input.nowEpochMs).filter (fun receipt => receipt.operationId = input.operationId) =
      [current] := by
    rw [← named]
    generalize prunedReceipts others current input.nowEpochMs = list at distinct member
    induction list with
    | nil => cases member
    | cons receipt rest ih =>
        rw [List.map_cons, List.nodup_cons] at distinct
        rcases List.mem_cons.mp member with rfl | inside
        · rw [List.filter_cons_of_pos (by simp), List.filter_eq_nil_iff.mpr]
          intro other inside
          rw [decide_eq_true_eq]
          intro equal
          exact distinct.1 (equal ▸ List.mem_map_of_mem inside)
        · rw [List.filter_cons_of_neg, ih distinct.2 inside]
          rw [decide_eq_true_eq]
          intro equal
          exact distinct.1 (equal ▸ List.mem_map_of_mem inside)
  have stored : prepared.candidate.metaCustomData[autofillReceiptKey]? = some json := by
    rw [same]
    simp
  have found : pendingAutofillReceiptBinding services prepared.candidate input.operationId =
      .ok (some (intendedReceipt services input plan).pendingBinding) := by
    unfold pendingAutofillReceiptBinding
    rw [stored]
    dsimp only
    rw [law.readsBack _ _ ledger.printed]
    dsimp only
    rw [if_neg (by decide), only]
    dsimp only
    rw [pendingReceiptBinding_intended law valid alike]
    rfl
  unfold requiredPendingAutofillReceiptBinding
  rw [found]
  rfl

end Receipt

/-! ## Digests -/

section Digests

theorem hexText_injective {a b : List UInt8} (same : hexText a = hexText b) : a = b := by
  have chars : (a.flatMap fun byte => hexDigits 2 byte.toNat) = b.flatMap fun byte => hexDigits 2 byte.toNat := by
    have lists := congrArg String.toList same
    simp only [hexText, String.toList_ofList] at lists
    exact lists
  clear same
  induction a generalizing b with
  | nil =>
      cases b with
      | nil => rfl
      | cons byte rest =>
          have lengths := congrArg List.length chars
          simp [hexDigits_length] at lengths
          omega
  | cons byte rest ih =>
      cases b with
      | nil =>
          have lengths := congrArg List.length chars
          simp [hexDigits_length] at lengths
      | cons byte' rest' =>
          rw [List.flatMap_cons, List.flatMap_cons] at chars
          obtain ⟨here, there⟩ := List.append_inj chars (by rw [hexDigits_length, hexDigits_length])
          have numbers := hexDigits_injective byte.toNat_lt byte'.toNat_lt here
          rw [UInt8.toNat_inj.mp numbers, ih there]

/-- The text that the digest of a plan is taken of. -/
def planText (transactionId vaultId sourceIdentitySha256 : String) (plan : ValidatedPlan) : List UInt8 :=
  hashText "vaultkern-autofill-persist-v1" ++ hashText transactionId ++ hashText vaultId ++ hashText sourceIdentitySha256 ++
    hashPlan plan

theorem hashValidatedPlan_eq (library : AutofillLibrary) (transactionId vaultId sourceIdentitySha256 : String) (plan : ValidatedPlan) :
    hashValidatedPlan library transactionId vaultId sourceIdentitySha256 plan =
      hexText (library.sha256 (planText transactionId vaultId sourceIdentitySha256 plan)) := rfl

theorem planText_injective {transactionId vaultId sourceIdentitySha256 : String} {p q : ValidatedPlan} (left : p.Short)
    (right : q.Short)
    (same : planText transactionId vaultId sourceIdentitySha256 p = planText transactionId vaultId sourceIdentitySha256 q) :
    p = q := hashPlan_injective left right (List.append_cancel_left same)

end Digests

/-! ## Resuming -/

section Resuming

variable {services : AutofillServices} {input : AutofillPersistEngineInput} {plan : ValidatedPlan}
  {prepared : PreparedAutofillPersist} {planBaseline verified : Vault}

/-- The generations still say what the plan said: the baseline what it expects, and the pending one what it asks for. -/
def StillPlanned (planBaseline pending : Vault) : AutofillPersistPlanDto → Prop
  | .update entryId expected desired => autofillUpdateFieldsForVault planBaseline entryId = some expected ∧
      autofillUpdateFieldsForVault pending entryId = some desired
  | .create parent planned ids desired => ∃ id group target entry, uuidParseStr planned = some id ∧
      locateSerializedAutofillEntry pending.activeRecycleBin id pending.root false = some (group, target, false) ∧
      uuidToString group = parent ∧
      matchingModelEntryIds planBaseline target = ids.mergeSort (fun left right => left ≤ right) ∧
      findEntryById planned pending.root = some entry ∧
      entryFieldsSemanticallyEqual (entryFields entry) desired = true ∧ WithinLimits (entryFields entry)

theorem mergeSort_again (ids : List String) :
    ((ids.mergeSort fun left right => left ≤ right).mergeSort fun left right => left ≤ right) =
    ids.mergeSort fun left right => left ≤ right := by
  apply List.mergeSort_of_pairwise
  apply List.pairwise_mergeSort
  · intro a b c first second
    rw [decide_eq_true_eq] at first second ⊢
    exact String.le_trans first second
  · intro a b
    rw [Bool.or_eq_true, decide_eq_true_eq, decide_eq_true_eq]
    exact String.le_total a b

theorem reconstruct_update {binding : PendingAutofillReceiptBinding} {dto : AutofillPersistPlanDto} (mode : binding.mode = .update) :
    reconstructPendingAutofillPlan planBaseline verified binding = .ok dto ↔ ∃ expected desired,
      autofillUpdateFieldsForVault planBaseline binding.entryId = some expected ∧
        autofillUpdateFieldsForVault verified binding.entryId = some desired ∧
        dto = .update binding.entryId expected desired := by
  unfold reconstructPendingAutofillPlan
  rw [mode]
  simp only [foundPending_bind]
  constructor
  · rintro ⟨expected, old, desired, new, same⟩
    exact ⟨expected, desired, old, new, (Except.ok.inj same).symm⟩
  · rintro ⟨expected, desired, old, new, rfl⟩
    exact ⟨expected, old, desired, new, rfl⟩

theorem reconstruct_create {binding : PendingAutofillReceiptBinding} {dto : AutofillPersistPlanDto} (mode : binding.mode = .create) :
    reconstructPendingAutofillPlan planBaseline verified binding = .ok dto ↔ ∃ id group target entry,
      uuidParseStr binding.entryId = some id ∧
      locateSerializedAutofillEntry verified.activeRecycleBin id verified.root false = some (group, target, false) ∧
      findEntryById binding.entryId verified.root = some entry ∧
      dto = .create (uuidToString group) binding.entryId (matchingModelEntryIds planBaseline target) (entryFields entry) := by
  unfold reconstructPendingAutofillPlan
  rw [mode]
  simp only [foundPending_bind, requirePending_bind, entryFieldsForVault, Option.map_eq_some_iff, Bool.not_eq_true']
  constructor
  · rintro ⟨id, parsed, ⟨group, target, recycled⟩, located, live, fields, ⟨entry, found, shown⟩, same⟩
    cases live
    cases shown
    exact ⟨id, group, target, entry, parsed, located, found, (Except.ok.inj same).symm⟩
  · rintro ⟨id, group, target, entry, parsed, located, found, rfl⟩
    exact ⟨id, parsed, ⟨group, target, false⟩, located, rfl, entryFields entry, ⟨entry, found, rfl⟩, rfl⟩

/-- What is rebuilt is checked as the plan itself exactly where the generations still say it. -/
theorem reconstruct_iff (checked : PlanChecked services.toAutofillLibrary input.plan plan) :
    (∃ dto, reconstructPendingAutofillPlan planBaseline verified (intendedReceipt services input plan).pendingBinding = .ok dto ∧
      PlanChecked services.toAutofillLibrary dto plan) ↔ StillPlanned planBaseline verified input.plan := by
  generalize input.plan = given at checked
  cases given with
  | update entryId expected desired =>
      obtain ⟨canonical, expected', desired', old, new, origins, rfl⟩ := checked
      obtain ⟨oldSame, _⟩ := validateUpdateFields_ok old
      obtain ⟨newSame, _⟩ := validateUpdateFields_ok new
      constructor
      · rintro ⟨dto, rebuilt, again⟩
        obtain ⟨expected'', desired'', inBaseline, inPending, rfl⟩ := (reconstruct_update rfl).mp rebuilt
        obtain ⟨_, _, _, oldAgain, newAgain, _, same⟩ := again
        cases same
        have oldEqual := oldSame.symm.trans (validateUpdateFields_ok oldAgain).1
        have newEqual := newSame.symm.trans (validateUpdateFields_ok newAgain).1
        have told {a b : AutofillUpdateFieldsDto} (same : (⟨a.username, a.password, a.url⟩ : ValidatedUpdateFields) =
            ⟨b.username, b.password, b.url⟩) : a = b := by
          cases a
          cases b
          cases same
          rfl
        rw [StillPlanned, told oldEqual, told newEqual]
        exact ⟨inBaseline, inPending⟩
      · rintro ⟨inBaseline, inPending⟩
        exact ⟨_, (reconstruct_update rfl).mpr ⟨expected, desired, inBaseline, inPending, rfl⟩,
          canonical, expected', desired', old, new, origins, rfl⟩
  | create parent planned ids desired =>
      obtain ⟨parentValid, plannedValid, few, each, distinct, desired', fields, usable, rfl⟩ := checked
      constructor
      · rintro ⟨dto, rebuilt, again⟩
        obtain ⟨id, group, target, entry, parsed, located, found, rfl⟩ := (reconstruct_create rfl).mp rebuilt
        obtain ⟨_, _, _, _, _, desired'', fieldsAgain, _, same⟩ := again
        obtain ⟨parents, _, lists, contents⟩ := ValidatedPlan.create.inj same
        rw [← contents] at fieldsAgain
        obtain ⟨equal, limits⟩ := (fields.same_iff (entryFields_plain entry)).mp fieldsAgain
        refine ⟨id, group, target, entry, parsed, located, parents.symm, ?_, found, equal, limits⟩
        rw [lists]
        exact (mergeSort_again _).symm
      · rintro ⟨id, group, target, entry, parsed, located, rfl, matching, found, equal, limits⟩
        refine ⟨_, (reconstruct_create rfl).mpr ⟨id, group, target, entry, parsed, located, found, rfl⟩, ?_⟩
        have fieldsAgain := (fields.same_iff (entryFields_plain entry)).mpr ⟨equal, limits⟩
        refine ⟨parentValid, plannedValid, ?_, ?_, ?_, desired', fieldsAgain, usable, ?_⟩
        · rw [matching, List.length_mergeSort]
          exact few
        · intro other member
          rw [matching, List.mem_mergeSort] at member
          exact each other member
        · rw [matching, mergeSort_again]
          exact distinct
        · rw [matching, mergeSort_again]
          rfl

theorem planSha256_ok (valid : validatedAutofillPlan services input = .ok plan) {dto : AutofillPersistPlanDto} {digest : String} :
    planSha256 services input.transactionId input.vaultId input.sourceIdentitySha256 dto = .ok digest ↔
      ∃ rebuilt, PlanChecked services.toAutofillLibrary dto rebuilt ∧ digest = hashValidatedPlan services.toAutofillLibrary
        input.transactionId input.vaultId input.sourceIdentitySha256 rebuilt := by
  unfold validatedAutofillPlan at valid
  simp only [validateToken, ↓requirePlan_bind] at valid
  obtain ⟨transaction, _, vaultId, source, _⟩ := valid
  unfold planSha256 validateToken
  simp only [↓requirePlan_bind, Fallible.bind_ok, fromDto_ok]
  constructor
  · rintro ⟨_, _, _, rebuilt, checked, same⟩
    exact ⟨rebuilt, checked, (Except.ok.inj same).symm⟩
  · rintro ⟨rebuilt, checked, rfl⟩
    exact ⟨transaction, vaultId, source, rebuilt, checked, rfl⟩

/-- The digest of the rebuilt plan tells it from the plan that was saved. -/
def DigestsApart (services : AutofillServices) (input : AutofillPersistEngineInput) (planBaseline pending : Vault) : Prop :=
  ∀ plan dto rebuilt, ValidatedPlan.fromDto services.toAutofillLibrary input.plan = .ok plan →
    reconstructPendingAutofillPlan planBaseline pending (intendedReceipt services input plan).pendingBinding = .ok dto →
    ValidatedPlan.fromDto services.toAutofillLibrary dto = .ok rebuilt →
    services.sha256 (planText input.transactionId input.vaultId input.sourceIdentitySha256 rebuilt) =
      services.sha256 (planText input.transactionId input.vaultId input.sourceIdentitySha256 plan) →
    planText input.transactionId input.vaultId input.sourceIdentitySha256 rebuilt =
      planText input.transactionId input.vaultId input.sourceIdentitySha256 plan

/-- A saved candidate is what the same request replays; if it is new, its target is as the plan asks. -/
theorem serializeAndVerify_ok {reload : Vault → Option Vault} {now : UInt64} {clock : Int}
    (saved : serializeAndVerifyAutofillCandidate services reload input prepared now clock = .ok verified) :
    (∃ replay, prepareAutofillPersist services (replayRequest input verified now clock) = .ok replay ∧
      replay.candidate = verified) ∧
    (prepared.outcome.isNeedsPublish = true → ∃ fields, entryFieldsForVault verified prepared.outcome.entryId = some fields ∧
      satisfiesPostcondition fields input.plan = true) := by
  unfold serializeAndVerifyAutofillCandidate at saved
  obtain ⟨expected, _, saved⟩ := foundPending_bind.mp saved
  obtain ⟨reloaded, _, saved⟩ := foundPending_bind.mp saved
  obtain ⟨replay, again, saved⟩ := Fallible.bind_ok.mp saved
  obtain ⟨exactly, saved⟩ := requirePending_bind.mp saved
  obtain ⟨actual, _, saved⟩ := foundPending_bind.mp saved
  obtain ⟨_, saved⟩ := requirePending_bind.mp saved
  simp only [Bool.and_eq_true, decide_eq_true_eq] at exactly
  rw [fromEngine_ok] at again
  dsimp only at saved
  by_cases publish : prepared.outcome.isNeedsPublish = true
  · rw [if_pos publish] at saved
    obtain ⟨_, saved⟩ := requirePending_bind.mp saved
    obtain ⟨fields, found, saved⟩ := foundPending_bind.mp saved
    obtain ⟨holds, saved⟩ := requirePending_bind.mp saved
    cases saved
    exact ⟨⟨replay, again, exactly.2⟩, fun _ => ⟨fields, found, holds⟩⟩
  · rw [if_neg publish] at saved
    cases saved
    exact ⟨⟨replay, again, exactly.2⟩, fun here => absurd here publish⟩

/-- A pending generation is bound to the plan it was saved for. -/
theorem saved_binding (law : AutofillLaw services) (valid : validatedAutofillPlan services input = .ok plan)
    {reload : Vault → Option Vault} {now : UInt64} {clock : Int}
    (saved : serializeAndVerifyAutofillCandidate services reload input prepared now clock = .ok verified) :
    requiredPendingAutofillReceiptBinding services verified input.operationId =
      .ok (intendedReceipt services input plan).pendingBinding := by
  obtain ⟨⟨replay, again, candidate⟩, _⟩ := serializeAndVerify_ok saved
  obtain ⟨plan', valid', ⟨run⟩⟩ := prepareAutofillPersist_ok.mp again
  have same : plan' = plan := Except.ok.inj (valid'.symm.trans valid)
  have bound := run.pendingBinding law valid'
  rw [candidate, same] at bound
  exact bound

/-- The plan of a saved candidate is rebuilt with its digest exactly where the generations still say it. -/
theorem pending_plan_resumes (law : AutofillLaw services) (accepted : prepareAutofillPersist services input = .ok prepared)
    {reload : Vault → Option Vault} {now : UInt64} {clock : Int}
    (saved : serializeAndVerifyAutofillCandidate services reload input prepared now clock = .ok verified)
    (apart : DigestsApart services input planBaseline verified) :
    (∃ dto, resumePendingPlan services input.vaultId input.sourceIdentitySha256 input.operationId planBaseline verified =
      .ok (dto, prepared.planSha256)) ↔ StillPlanned planBaseline verified input.plan := by
  obtain ⟨plan, valid, ⟨run⟩⟩ := prepareAutofillPersist_ok.mp accepted
  have checked := fromDto_ok.mp (validated_dto valid)
  have bound := saved_binding law valid saved
  have digest : prepared.planSha256 = (intendedReceipt services input plan).pendingBinding.planSha256 := run.digest
  rw [← reconstruct_iff checked]
  unfold resumePendingPlan
  rw [bound, Fallible.ok_bind]
  simp only [↓requirePending_bind, Fallible.bind_ok, fromEngine_ok]
  constructor
  · rintro ⟨dto, _, dto', rebuilt, digest', hashed, equal, same⟩
    cases same
    obtain ⟨plan', checked', hash⟩ := (planSha256_ok valid).mp hashed
    refine ⟨dto, rebuilt, ?_⟩
    have digests : services.sha256 (planText input.transactionId input.vaultId input.sourceIdentitySha256 plan') =
        services.sha256 (planText input.transactionId input.vaultId input.sourceIdentitySha256 plan) :=
      hexText_injective (hash.symm.trans digest)
    have texts := apart plan dto plan' (validated_dto valid) rebuilt (fromDto_ok.mpr checked') digests
    rw [planText_injective checked.short checked'.short texts.symm]
    exact checked'
  · rintro ⟨dto, rebuilt, checked'⟩
    refine ⟨dto, ?_, dto, rebuilt, _, (planSha256_ok valid).mpr ⟨plan, checked', rfl⟩, ?_, ?_⟩
    · exact decide_eq_true rfl
    · exact decide_eq_true rfl
    · rw [digest]
      rfl

end Resuming

/-! ## Samples -/

/-- A candidate that a reload gives back, and that shows what the plan asks for. -/
def savesAsItIs (candidate : Vault) (entryId : String) (plan : AutofillPersistPlanDto) : Bool :=
  candidate.historyMaxItems.isNone && candidate.historyMaxSize.isNone
    && (entryIds candidate.root).all (fun id => !(groupIds candidate.root).contains id)
    && (serializedAutofillTargetState candidate entryId).isSome && countLiveEntryId entryId candidate.root = 1
    && (entryFieldsForVault candidate entryId).any fun fields => satisfiesPostcondition fields plan

theorem serializeAndVerify_asItIs {services : AutofillServices} {input : AutofillPersistEngineInput}
    {prepared : PreparedAutofillPersist} (law : AutofillLaw services)
    (accepted : prepareAutofillPersist services input = .ok prepared) {entryId : String}
    (publish : prepared.outcome = .needsPublish entryId) (same : savesAsItIs prepared.candidate entryId input.plan = true) :
    serializeAndVerifyAutofillCandidate services some input prepared input.nowEpochMs input.clock =
      .ok prepared.candidate := by
  obtain ⟨plan, valid, ⟨run⟩⟩ := prepareAutofillPersist_ok.mp accepted
  simp only [savesAsItIs, Bool.and_eq_true, decide_eq_true_eq, Option.isNone_iff_eq_none, Option.isSome_iff_exists,
    Option.any_eq_true, List.all_eq_true, Bool.not_eq_true', List.contains_eq_mem, decide_eq_false_iff_not] at same
  obtain ⟨⟨⟨⟨⟨items, size⟩, apart⟩, state, located⟩, once⟩, fields, found, satisfied⟩ := same
  let later := replayRequest input prepared.candidate input.nowEpochMs input.clock
  have request : SameRequest input later := ⟨rfl, rfl, rfl, rfl, rfl⟩
  have replayed : prepareAutofillPersist services later = .ok
      { candidate := prepared.candidate, outcome := .replayed plan.entryId, planSha256 := prepared.planSha256 } := by
    unfold prepareAutofillPersist
    rw [request.validated, valid]
    exact run.readBack law valid apart request rfl rfl rfl rfl
  unfold serializeAndVerifyAutofillCandidate
  rw [publish, items, size]
  refine foundPending_bind.mpr ⟨state, located, foundPending_bind.mpr ⟨prepared.candidate, rfl, ?_⟩⟩
  refine Fallible.bind_ok.mpr ⟨_, fromEngine_ok.mpr replayed, requirePending_bind.mpr ⟨?_, ?_⟩⟩
  · exact (Bool.and_eq_true _ _).mpr ⟨rfl, decide_eq_true rfl⟩
  · refine foundPending_bind.mpr ⟨state, located, requirePending_bind.mpr ⟨decide_eq_true rfl, ?_⟩⟩
    refine requirePending_bind.mpr ⟨decide_eq_true once, foundPending_bind.mpr ⟨fields, found, ?_⟩⟩
    exact requirePending_bind.mpr ⟨satisfied, rfl⟩

theorem pending_plan_resumes_login : ∃ prepared verified,
    prepareAutofillPersist updateServices (sampleRequest updateSample (loginVault "old" 0) (loginVault "old" 0)
      (loginVault "old" 0)) = .ok prepared ∧
    ∃ dto, resumePendingPlan updateServices "vault-1" sampleSource "operation-1" (loginVault "old" 0) verified =
      .ok (dto, prepared.planSha256) := by
  have merges : (autofillCandidate (sampleRequest updateSample (loginVault "old" 0) (loginVault "old" 0) (loginVault "old" 0))
      updatedPlan false).toOption.map (fun merged =>
        let verified := (protectTargetXmlForbiddenFields merged (uuidToString 10)).withLedger (sampleJson updateReceipt "update")
        (savesAsItIs verified (uuidToString 10) updateSample,
          decide (reconstructPendingAutofillPlan (loginVault "old" 0) verified updateReceipt.pendingBinding = .ok updateSample),
          autofillUpdateFieldsForVault (loginVault "old" 0) (uuidToString 10),
          autofillUpdateFieldsForVault verified (uuidToString 10))) =
      some (true, true, some ⟨"ada", "old", "https://example.com/login"⟩, some ⟨"ada", "new", "https://example.com/login"⟩) := by
    decide +kernel
  obtain ⟨merged, merges, result⟩ := Fallible.ok_of_toOption merges
  simp only [Prod.mk.injEq, decide_eq_true_eq] at result
  obtain ⟨shown, rebuilt, expected, desired⟩ := result
  have success := updateSample_prepared rfl rfl merges
  have saved := serializeAndVerify_asItIs (sampleServices_law rfl) success rfl shown
  refine ⟨_, _, success, (pending_plan_resumes (sampleServices_law rfl) success saved ?_).mpr ⟨expected, desired⟩⟩
  intro plan dto other valid rebuilt' checked _
  obtain ⟨_, _, _, _, _, _, named⟩ := fromDto_ok.mp valid
  have same : dto = updateSample := by
    rw [named] at rebuilt'
    exact Except.ok.inj (rebuilt'.symm.trans rebuilt)
  rw [same] at checked
  rw [Except.ok.inj (checked.symm.trans valid)]

/-- A login that is like the new one, with an attribute of a passkey. -/
def passkeyLoginVault : Vault :=
  { name := "Vault"
    root :=
      { id := 1, title := "Root"
        entries := [{ id := 10, title := "Example", username := "ada", password := "new", url := "https://example.com/login"
                      attributes := (∅ : BTreeMap String CustomField).insert "KPEX_PASSKEY_USERNAME" ⟨"ada", false⟩ }] } }

def secondLoginFields : EntryFieldsDto :=
  { title := "Example", username := "ada", password := "new", url := "https://example.com/login", notes := ""
    totpUri := none, customFields := [] }

/-- A second login for the site, next to the first one. -/
def secondLoginSample : AutofillPersistPlanDto :=
  .create (uuidToString 1) (uuidToString 5) [uuidToString 10] secondLoginFields

def secondLoginDigest : List UInt8 :=
  [138, 86, 40, 101, 131, 161, 57, 66, 192, 160, 171, 79, 174, 46, 160, 32, 252, 50, 195, 169, 91, 83, 208, 59, 249, 52, 113,
    217, 233, 215, 235, 41]

def secondLoginReceipt : AutofillReceipt := sampleReceipt (hexText secondLoginDigest) .create 5

def secondLoginPlan : ValidatedPlan := .create (uuidToString 1) (uuidToString 5) [uuidToString 10] sampleFields

/-- The digests of two plans: the second login as the only one, and next to the first one. -/
def secondLoginServices : AutofillServices :=
  { sampleServices secondLoginDigest (sampleLedger secondLoginReceipt) (sampleJson secondLoginReceipt "create") with
    sha256 := fun text =>
      if text = planText "transaction-1" "vault-1" sampleSource (.create (uuidToString 1) (uuidToString 5) []
        { values := ⟨"Example", "ada", "new", "https://example.com/login", ""⟩, customFields := ∅, totp := none })
      then createDigest else secondLoginDigest }

/-- The login with the passkey was expected by the plan, and is not found when it is rebuilt. -/
theorem hiddenAttribute_notRebuilt : ¬ ∀ (services : AutofillServices) (input : AutofillPersistEngineInput)
    (prepared : PreparedAutofillPersist) (reload : Vault → Option Vault) (now : UInt64) (clock : Int) (verified : Vault),
    AutofillLaw services → prepareAutofillPersist services input = .ok prepared →
    serializeAndVerifyAutofillCandidate services reload input prepared now clock = .ok verified →
    ∃ dto, resumePendingPlan services input.vaultId input.sourceIdentitySha256 input.operationId input.baselineSource verified =
      .ok (dto, prepared.planSha256) := by
  intro claim
  let input := sampleRequest secondLoginSample passkeyLoginVault passkeyLoginVault passkeyLoginVault
  have law : AutofillLaw secondLoginServices := by
    constructor
    · exact ⟨(@sampleServices_law secondLoginDigest (sampleLedger secondLoginReceipt)
        (sampleJson secondLoginReceipt "create") rfl).readsBack⟩
    · intro bytes
      unfold secondLoginServices
      dsimp only
      split <;> rfl
  have valid : (validatedAutofillPlan secondLoginServices input).toOption = some secondLoginPlan := by decide +kernel
  have intended : intendedReceipt secondLoginServices input secondLoginPlan = secondLoginReceipt := by decide +kernel
  have text : isXml10Text (sampleJson secondLoginReceipt "create") = true := by apply sampleJson_text <;> decide +kernel
  have small : (sampleJson secondLoginReceipt "create").utf8ByteSize ≤ maxLedgerBytes := by decide +kernel
  have merges : (autofillCandidate input secondLoginPlan false).toOption.map (fun merged =>
      let verified := (protectTargetXmlForbiddenFields merged (uuidToString 5)).withLedger
        (sampleJson secondLoginReceipt "create")
      (savesAsItIs verified (uuidToString 5) secondLoginSample,
        (resumePendingPlan secondLoginServices "vault-1" sampleSource "operation-1" passkeyLoginVault
          verified).toOption.isNone)) = some (true, true) := by
    decide +kernel
  obtain ⟨merged, merges, result⟩ := Fallible.ok_of_toOption merges
  obtain ⟨shown, lost⟩ := Prod.mk.inj result
  have success := sampleRequest_prepared (if_pos rfl : secondLoginServices.printLedger (sampleLedger secondLoginReceipt) = _)
    (Fallible.toOption_some valid) intended rfl rfl merges text small
  rw [show secondLoginPlan.entryId = uuidToString 5 from rfl] at success
  have saved := serializeAndVerify_asItIs law success rfl shown
  obtain ⟨dto, resumed⟩ := claim secondLoginServices input _ some _ _ _ law success saved
  have impossible := congrArg (fun result : PendingResult (AutofillPersistPlanDto × String) => result.toOption.isNone) resumed
  exact Bool.false_ne_true (impossible.symm.trans lost)

end VaultKern
