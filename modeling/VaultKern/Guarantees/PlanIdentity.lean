import VaultKern.Guarantees.AutofillPending

/-! # Which plans share a digest

The digest of a plan is taken of a text that two plans share just when they ask for the same
change: the order of custom fields and of matching entries does not count.
-/

namespace VaultKern

/-- Desired fields that say the same. A TOTP counts by what its URI says, a custom field with
    the protection it is stored with. -/
structure SameEntryFields (fields other : EntryFieldsDto) : Prop where
  title : fields.title = other.title
  username : fields.username = other.username
  password : fields.password = other.password
  url : fields.url = other.url
  notes : fields.notes = other.notes
  totp : fields.totpUri.bind TotpSpec.parseOtpauth = other.totpUri.bind TotpSpec.parseOtpauth
  customFields : (fields.customFields.map checkedCustomField).Perm (other.customFields.map checkedCustomField)

/-- Plans that ask for the same change. -/
def SamePlan : AutofillPersistPlanDto → AutofillPersistPlanDto → Prop
  | .update entryId expected desired, .update entryId' expected' desired' =>
      entryId = entryId' ∧ expected = expected' ∧ desired = desired'
  | .create parent planned ids desired, .create parent' planned' ids' desired' =>
      parent = parent' ∧ planned = planned' ∧ ids.Perm ids' ∧ SameEntryFields desired desired'
  | _, _ => False

section Checked

variable {library : AutofillLibrary} {name : String}

theorem validateUpdateFields_iff {fields other : AutofillUpdateFieldsDto} {valid valid' : ValidatedUpdateFields}
    {allowEmptyPassword : Bool} (checked : validateUpdateFields library name fields allowEmptyPassword = .ok valid)
    (checked' : validateUpdateFields library name other allowEmptyPassword = .ok valid') :
    valid = valid' ↔ fields = other := by
  rw [(validateUpdateFields_ok checked).1, (validateUpdateFields_ok checked').1]
  cases fields
  cases other
  simp

/-- The TOTP of checked fields is what their URI says. -/
theorem FieldsChecked.parsed {fields : EntryFieldsDto} {valid : ValidatedFields}
    (checked : FieldsChecked library name fields valid) : valid.totp = fields.totpUri.bind TotpSpec.parseOtpauth := by
  rcases validateTotpUri_ok.mp checked.totp with ⟨absent, none⟩ | ⟨text, spec, given, present, _, _, _, _, parsed, _⟩
  · rw [absent, none]
    rfl
  · rw [present, given, Option.bind_some, parsed]

theorem FieldsChecked.told_iff {fields other : EntryFieldsDto} {valid valid' : ValidatedFields}
    (checked : FieldsChecked library name fields valid) (checked' : FieldsChecked library name other valid') :
    valid = valid' ↔ SameEntryFields fields other := by
  have customs : valid.customFields = valid'.customFields ↔
      (fields.customFields.map checkedCustomField).Perm (other.customFields.map checkedCustomField) := by
    rw [checked.customFields, checked'.customFields]
    apply BTreeMap.lastWins_eq_iff
    · rw [checkedCustomFields_keys]
      exact checked.distinct
    · rw [checkedCustomFields_keys]
      exact checked'.distinct
  constructor
  · rintro rfl
    have values := checked.values.symm.trans checked'.values
    simp only [ValidatedEntryFields.mk.injEq] at values
    obtain ⟨title, username, password, url, notes⟩ := values
    exact ⟨title, username, password, url, notes, checked.parsed.symm.trans checked'.parsed, customs.mp rfl⟩
  · intro same
    have values : valid.values = valid'.values := by
      rw [checked.values, checked'.values, same.title, same.username, same.password, same.url, same.notes]
    have totps : valid.totp = valid'.totp := by
      rw [checked.parsed, checked'.parsed, same.totp]
    cases valid
    cases valid'
    simp only [ValidatedFields.mk.injEq]
    exact ⟨values, customs.mpr same.customFields, totps⟩

/-- Sorted lists of texts are equal when they hold the same texts. -/
theorem mergeSort_eq_iff {ids others : List String} :
    (ids.mergeSort fun left right => left ≤ right) = (others.mergeSort fun left right => left ≤ right) ↔ ids.Perm others := by
  have sorted (list : List String) : (list.mergeSort fun left right => left ≤ right).Pairwise fun a b => decide (a ≤ b) = true := by
    apply List.pairwise_mergeSort
    · intro a b c first second
      rw [decide_eq_true_eq] at first second ⊢
      exact String.le_trans first second
    · intro a b
      rw [Bool.or_eq_true, decide_eq_true_eq, decide_eq_true_eq]
      exact String.le_total a b
  constructor
  · intro same
    have perm := List.mergeSort_perm ids fun left right => decide (left ≤ right)
    rw [same] at perm
    exact perm.symm.trans (List.mergeSort_perm others _)
  · intro perm
    apply List.Perm.eq_of_pairwise _ (sorted ids) (sorted others)
    · exact ((List.mergeSort_perm ids _).trans perm).trans (List.mergeSort_perm others _).symm
    · intro a b _ _ first second
      rw [decide_eq_true_eq] at first second
      exact String.le_antisymm first second

/-- The checks leave of a plan just what it asks for. -/
theorem PlanChecked.told_iff {dto dto' : AutofillPersistPlanDto} {plan plan' : ValidatedPlan}
    (checked : PlanChecked library dto plan) (checked' : PlanChecked library dto' plan') :
    plan = plan' ↔ SamePlan dto dto' := by
  cases dto with
  | update entryId expected desired =>
      obtain ⟨_, old, new, oldFields, newFields, _, rfl⟩ := checked
      cases dto' with
      | update entryId' expected' desired' =>
          obtain ⟨_, old', new', oldFields', newFields', _, rfl⟩ := checked'
          simp only [ValidatedPlan.update.injEq, SamePlan, validateUpdateFields_iff oldFields oldFields',
            validateUpdateFields_iff newFields newFields']
      | create parent planned ids desired =>
          obtain ⟨_, _, _, _, _, _, _, _, rfl⟩ := checked'
          simp [SamePlan]
  | create parent planned ids desired =>
      obtain ⟨_, _, _, _, _, wanted, fields, _, rfl⟩ := checked
      cases dto' with
      | update entryId' expected' desired' =>
          obtain ⟨_, _, _, _, _, _, rfl⟩ := checked'
          simp [SamePlan]
      | create parent' planned' ids' desired' =>
          obtain ⟨_, _, _, _, _, wanted', fields', _, rfl⟩ := checked'
          simp only [ValidatedPlan.create.injEq, SamePlan, mergeSort_eq_iff, fields.told_iff fields']

end Checked

/-- What a digest is taken of: three texts and the plan, each of them told. -/
theorem planText_told {transactionId vaultId sourceIdentitySha256 transactionId' vaultId' sourceIdentitySha256' : String}
    {p q : ValidatedPlan} (short : Short transactionId ∧ Short vaultId ∧ Short sourceIdentitySha256 ∧ p.Short)
    (short' : Short transactionId' ∧ Short vaultId' ∧ Short sourceIdentitySha256' ∧ q.Short)
    (same : planText transactionId vaultId sourceIdentitySha256 p = planText transactionId' vaultId' sourceIdentitySha256' q) :
    transactionId = transactionId' ∧ vaultId = vaultId' ∧ sourceIdentitySha256 = sourceIdentitySha256' ∧ p = q := by
  simp only [planText, List.append_assoc] at same
  have same := List.append_cancel_left same
  obtain ⟨transactions, same⟩ := Codes.told delimits_hashText short.1 short'.1 same
  obtain ⟨vaults, same⟩ := Codes.told delimits_hashText short.2.1 short'.2.1 same
  obtain ⟨sources, same⟩ := Codes.told delimits_hashText short.2.2.1 short'.2.2.1 same
  exact ⟨transactions, vaults, sources, hashPlan_injective short.2.2.2 short'.2.2.2 same⟩

theorem validateToken_short {name value : String} {limit : Nat} (valid : validateToken name value limit = .ok ())
    (small : limit < 2 ^ 64) : Short value := by
  have passed := requirePlan_ok.mp valid
  simp only [Bool.and_eq_true, decide_eq_true_eq] at passed
  exact short_of_le passed.1.1.2 small

theorem validated_short {services : AutofillServices} {input : AutofillPersistEngineInput} {plan : ValidatedPlan}
    (valid : validatedAutofillPlan services input = .ok plan) : Short input.transactionId ∧ Short input.vaultId ∧
      Short input.sourceIdentitySha256 ∧ PlanChecked services.toAutofillLibrary input.plan plan := by
  unfold validatedAutofillPlan at valid
  obtain ⟨_, transaction, valid⟩ := Fallible.bind_ok.mp valid
  obtain ⟨_, _, valid⟩ := Fallible.bind_ok.mp valid
  obtain ⟨_, vault, valid⟩ := Fallible.bind_ok.mp valid
  obtain ⟨_, source, valid⟩ := Fallible.bind_ok.mp valid
  have hex := requirePlan_ok.mp source
  simp only [isSha256Text, Bool.and_eq_true, decide_eq_true_eq] at hex
  exact ⟨validateToken_short transaction (by decide), validateToken_short vault (by decide),
    short_of_le (Nat.le_of_eq hex.1) (by decide), fromDto_ok.mp valid⟩

/-- The digest is taken of a text that two plans share just when they ask for the same change,
    and two requests just when their transaction, vault and source are the same as well. -/
theorem planText_identifies (services : AutofillServices) :
    (∀ (transactionId vaultId sourceIdentitySha256 : String) (plan : ValidatedPlan),
      hashValidatedPlan services.toAutofillLibrary transactionId vaultId sourceIdentitySha256 plan =
        hexText (services.sha256 (planText transactionId vaultId sourceIdentitySha256 plan))) ∧
    (∀ (dto dto' : AutofillPersistPlanDto) (plan plan' : ValidatedPlan),
      ValidatedPlan.fromDto services.toAutofillLibrary dto = .ok plan →
      ValidatedPlan.fromDto services.toAutofillLibrary dto' = .ok plan' →
      (plan = plan' ↔ SamePlan dto dto') ∧
      ∀ transactionId vaultId sourceIdentitySha256 : String,
        planText transactionId vaultId sourceIdentitySha256 plan = planText transactionId vaultId sourceIdentitySha256 plan' ↔
          SamePlan dto dto') ∧
    ∀ (input input' : AutofillPersistEngineInput) (plan plan' : ValidatedPlan),
      validatedAutofillPlan services input = .ok plan → validatedAutofillPlan services input' = .ok plan' →
      (planText input.transactionId input.vaultId input.sourceIdentitySha256 plan =
          planText input'.transactionId input'.vaultId input'.sourceIdentitySha256 plan' ↔
        input.transactionId = input'.transactionId ∧ input.vaultId = input'.vaultId ∧
          input.sourceIdentitySha256 = input'.sourceIdentitySha256 ∧ SamePlan input.plan input'.plan) := by
  refine ⟨hashValidatedPlan_eq services.toAutofillLibrary, ?_, ?_⟩
  · intro dto dto' plan plan' valid valid'
    have checked := fromDto_ok.mp valid
    have checked' := fromDto_ok.mp valid'
    have same := checked.told_iff checked'
    refine ⟨same, fun transactionId vaultId sourceIdentitySha256 => ?_⟩
    rw [← same]
    constructor
    · exact planText_injective checked.short checked'.short
    · rintro rfl
      rfl
  · intro input input' plan plan' valid valid'
    obtain ⟨transaction, vault, source, checked⟩ := validated_short valid
    obtain ⟨transaction', vault', source', checked'⟩ := validated_short valid'
    rw [← checked.told_iff checked']
    constructor
    · exact planText_told ⟨transaction, vault, source, checked.short⟩ ⟨transaction', vault', source', checked'.short⟩
    · rintro ⟨transactions, vaults, sources, rfl⟩
      rw [transactions, vaults, sources]

/-! ## Two custom fields in either order -/

def pinnedField : EntryCustomFieldDto := { key := "Pin", value := "1234", isProtected := true }
def linkField : EntryCustomFieldDto := { key := "Link", value := "home", isProtected := false }

def fieldsSample (fields : List EntryCustomFieldDto) : EntryFieldsDto :=
  { title := "Example", username := "ada", password := "new", url := "https://example.com/login", notes := ""
    totpUri := none, customFields := fields }

theorem canonical_ok {name value : String} (passes : (validateCanonicalUuid name value).toBool = true) :
    validateCanonicalUuid name value = .ok () := by
  cases valid : validateCanonicalUuid name value with
  | ok done => rfl
  | error e =>
      rw [valid] at passes
      cases passes

/-- The sample passes with any two custom fields that pass, and with its matching entries in any order. -/
theorem fieldsSample_valid {fields : List EntryCustomFieldDto} {ids : List String}
    (passes : ((validateFields createServices.toAutofillLibrary "desired_fields" (fieldsSample fields)).bind
      (validateDesiredFields createServices.toAutofillLibrary "desired_fields")).toBool = true)
    (named : (ids.all fun id => (validateCanonicalUuid "expected_matching_entry_id" id).toBool) = true)
    (distinct : ids.Nodup) (few : ids.length ≤ maxMatchingIds) :
    ∃ plan, ValidatedPlan.fromDto createServices.toAutofillLibrary
      (.create (uuidToString 1) (uuidToString 5) ids (fieldsSample fields)) = .ok plan := by
  cases checked : validateFields createServices.toAutofillLibrary "desired_fields" (fieldsSample fields) with
  | error e =>
      rw [checked] at passes
      cases passes
  | ok wanted =>
      rw [checked] at passes
      have usable : validateDesiredFields createServices.toAutofillLibrary "desired_fields" wanted = .ok () := by
        cases usable : validateDesiredFields createServices.toAutofillLibrary "desired_fields" wanted with
        | ok done => rfl
        | error e =>
            rw [Except.bind, usable] at passes
            cases passes
      have each : ∀ id ∈ ids, validateCanonicalUuid "expected_matching_entry_id" id = .ok () := by
        intro id member
        exact canonical_ok (List.all_eq_true.mp named id member)
      have parent : validateCanonicalUuid "parent_group_id" (uuidToString 1) = .ok () := canonical_ok (by decide +kernel)
      have planned : validateCanonicalUuid "planned_entry_id" (uuidToString 5) = .ok () := canonical_ok (by decide +kernel)
      exact ⟨_, fromDto_ok.mpr ⟨parent, planned, few, each, (List.mergeSort_perm ids _).nodup_iff.mpr distinct, wanted,
        validateFields_ok.mp checked, usable, rfl⟩⟩

theorem planText_identifies_fields :
    ∃ plan plan', ValidatedPlan.fromDto createServices.toAutofillLibrary (.create (uuidToString 1) (uuidToString 5)
        [uuidToString 8, uuidToString 7] (fieldsSample [pinnedField, linkField])) = .ok plan ∧
      ValidatedPlan.fromDto createServices.toAutofillLibrary (.create (uuidToString 1) (uuidToString 5)
        [uuidToString 7, uuidToString 8] (fieldsSample [linkField, pinnedField])) = .ok plan' ∧
      planText "transaction-1" "vault" sampleSource plan = planText "transaction-1" "vault" sampleSource plan' := by
  have distinct : [uuidToString 8, uuidToString 7].Nodup := by decide +kernel
  obtain ⟨plan, passed⟩ := @fieldsSample_valid [pinnedField, linkField] [uuidToString 8, uuidToString 7]
    (by decide +kernel) (by decide +kernel) distinct (by decide)
  obtain ⟨plan', passed'⟩ := @fieldsSample_valid [linkField, pinnedField] [uuidToString 7, uuidToString 8]
    (by decide +kernel) (by decide +kernel) ((List.Perm.swap _ _ _).nodup_iff.mpr distinct) (by decide)
  refine ⟨plan, plan', passed, passed', ?_⟩
  apply (((planText_identifies createServices).2.1 _ _ plan plan' passed passed').2 _ _ _).mpr
  exact ⟨rfl, rfl, .swap _ _ _, ⟨rfl, rfl, rfl, rfl, rfl, rfl, .swap _ _ _⟩⟩

end VaultKern
