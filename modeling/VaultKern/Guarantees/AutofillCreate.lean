import VaultKern.Guarantees.AutofillOnce
import VaultKern.Guarantees.Placement
import VaultKern.Guarantees.NoOrphans

/-! # Creation of a login

A create adds one entry to the local vault, after the logins that match its fields were
compared with those that it was confirmed against. The merge keeps that entry.
-/

namespace VaultKern

/-! ## Matching logins -/

/-- The live logins of the vault that have these fields. -/
def Vault.matching (vault : Vault) (fields : ValidatedFields) : List Entry :=
  (liveEntriesInGroup vault.activeRecycleBin vault.root false).filter fun entry => entryMatchesValidated entry fields

theorem mem_exactMatchingEntryIds {vault : Vault} {fields : ValidatedFields} {id : String} :
    id ∈ exactMatchingEntryIds vault fields ↔ ∃ entry ∈ vault.matching fields, uuidToString entry.id = id := by
  unfold exactMatchingEntryIds
  rw [(List.mergeSort_perm _ _).mem_iff, List.mem_map]
  rfl

/-- The plan was confirmed against exactly the logins that match in this vault. -/
def ConfirmedAgainst (vault : Vault) (fields : ValidatedFields) (expected : List String) : Prop :=
  ∀ id, id ∈ expected ↔ ∃ entry ∈ vault.matching fields, uuidToString entry.id = id

theorem confirmed_of_eq {vault : Vault} {fields : ValidatedFields} {expected : List String}
    (same : exactMatchingEntryIds vault fields = expected) : ConfirmedAgainst vault fields expected := by
  intro id
  rw [← same]
  exact mem_exactMatchingEntryIds

/-! ## The planned entry -/

section Planned

variable {vault : Vault} {planned parent : String} {desired : ValidatedFields} {nowEpochMs : UInt64} {clock : Int}

/-- An entry with all that was planned for it. -/
structure PlannedEntry (entry : Entry) (planned : String) (desired : ValidatedFields) : Prop where
  id : uuidToString entry.id = planned
  title : entry.title = desired.values.title
  username : entry.username = desired.values.username
  password : entry.password = desired.values.password
  url : entry.url = desired.values.url
  notes : entry.notes = desired.values.notes
  totp : entry.totp = desired.totp
  attributes : entry.attributes = desired.customFields
  passkey : entry.passkey = none
  history : entry.history = []

/-- Every custom field is protected where XML asks for it. -/
def ProtectedFields (fields : BTreeMap String CustomField) : Prop :=
  ∀ (key : String) (field : CustomField), fields[key]? = some field →
    effectiveXmlFieldProtection field.value field.isProtected = field.isProtected

theorem ProtectedFields.protect {fields : BTreeMap String CustomField} (known : ProtectedFields fields) :
    (fields.map fun _ field => { field with isProtected := effectiveXmlFieldProtection field.value field.isProtected }) = fields := by
  apply Std.ExtTreeMap.ext_getElem?
  intro key
  rw [Std.ExtTreeMap.getElem?_map]
  cases held : fields[key]? with
  | none => rfl
  | some field =>
      rw [Option.map_some, known key field held]

theorem validateCustomFields_protected {name : String} {list : List EntryCustomFieldDto} {start fields : BTreeMap String CustomField}
    (known : ProtectedFields start) (valid : validateCustomFields name list start = .ok fields) : ProtectedFields fields := by
  induction list generalizing start with
  | nil =>
      cases valid
      exact known
  | cons field rest ih =>
      unfold validateCustomFields at valid
      obtain ⟨_, _, valid⟩ := Fallible.bind_ok.mp valid
      obtain ⟨_, _, valid⟩ := Fallible.bind_ok.mp valid
      apply ih _ valid
      intro key found held
      rw [BTreeMap.insert_lookup] at held
      split at held
      · cases held
        exact effectiveProtection_again field.value field.isProtected
      · exact known key found held

theorem fromDto_protected {library : AutofillLibrary} {dto : AutofillPersistPlanDto} {expected : List String}
    (valid : ValidatedPlan.fromDto library dto = .ok (.create parent planned expected desired)) :
    ProtectedFields desired.customFields := by
  cases dto with
  | update entryId old new =>
      simp only [ValidatedPlan.fromDto, Fallible.bind_ok] at valid
      obtain ⟨_, _, _, _, _, _, _, _, _, _, _, _, same⟩ := valid
      cases same
  | create parent' planned' expected' fields =>
      simp only [ValidatedPlan.fromDto, Fallible.bind_ok] at valid
      obtain ⟨_, _, _, _, _, _, _, _, _, _, checked, fieldsValid, _, _, same⟩ := valid
      cases same
      simp only [validateFields, Fallible.bind_ok] at fieldsValid
      obtain ⟨_, _, _, _, _, _, _, _, _, _, totp, _, _, _, custom, customValid, _, _, same⟩ := fieldsValid
      cases same
      apply validateCustomFields_protected _ customValid
      intro key field held
      simp at held

/-- The entry that a create makes of the one that the core added. -/
theorem plannedEntry_fields {id : Uuid} {entry : Entry} (known : ProtectedFields desired.customFields)
    (initialized : initializeCreatedEntryTimes nowEpochMs (applyFields desired nowEpochMs (createdEntry id clock.toNat
      { title := desired.values.title
        username := desired.values.username
        password := desired.values.password
        url := desired.values.url
        notes := desired.values.notes })) = .ok entry) :
    PlannedEntry entry (uuidToString id) desired := by
  unfold initializeCreatedEntryTimes at initialized
  dsimp only at initialized
  split at initialized
  · cases initialized
    have none_ : (createdEntry id clock.toNat
        { title := desired.values.title, username := desired.values.username, password := desired.values.password
          url := desired.values.url, notes := desired.values.notes }).attributes = ∅ := rfl
    refine ⟨rfl, rfl, rfl, rfl, rfl, rfl, rfl, ?_, rfl, rfl⟩
    simp only [applyFields, protectXmlForbiddenFields, none_]
    have unextended (keep : String → CustomField → Bool) :
        extendMap desired.customFields (Std.ExtTreeMap.filter keep (∅ : BTreeMap String CustomField)) = desired.customFields := by
      have empty : Std.ExtTreeMap.filter keep (∅ : BTreeMap String CustomField) = ∅ := by
        apply Std.ExtTreeMap.ext_getElem?
        simp
      rw [empty]
      rfl
    rw [unextended]
    exact known.protect
  · cases initialized

theorem usesUuid_unplaced {id : Uuid} (unused : vault.usesUuid id = false) :
    ∀ placed ∈ placedEntries vault.root, placed.2.id ≠ id := by
  intro placed inside same
  apply (usesUuid_eq_false.mp unused).1
  apply List.mem_append_right
  rw [entriesIn_placed, List.map_map]
  exact List.mem_map.mpr ⟨placed, inside, same⟩

/-- What a create leaves in the local vault: the planned entry in the planned group, and the rest. -/
structure AddedEntry (before after : Vault) (parent planned : String) (desired : ValidatedFields) (group : Uuid) (entry : Entry) :
    Prop where
  parentNamed : uuidToString group = parent
  fields : PlannedEntry entry planned desired
  new : ∀ placed ∈ placedEntries before.root, uuidToString placed.2.id ≠ planned
  entries : (placedEntries after.root).Perm ((group, entry) :: placedEntries before.root)
  rest : after = { before with root := after.root }

theorem createPlannedEntry_ok {after : Vault} (known : ProtectedFields desired.customFields)
    (canonical : ∃ id, uuidParseStr planned = some id ∧ uuidToString id = planned)
    (created : createPlannedEntry clock parent planned desired nowEpochMs vault = .ok after) :
    ∃ group entry, AddedEntry vault after parent planned desired group entry := by
  unfold createPlannedEntry at created
  split at created
  · cases created
  · cases created
  · rename_i view local' added
    obtain ⟨id, root, rfl, unused, put, rfl, rfl⟩ := addEntryWithId_ok added
    split at created
    · cases created
    · rename_i found held
      obtain ⟨entry, initialized, same⟩ := Fallible.bind_ok.mp created
      cases same
      have parsed : uuidParseStr (uuidToString id) = some id := by
        obtain ⟨other, parsed, named⟩ := canonical
        rw [uuidToString_injective named] at parsed
        exact parsed
      have search : findEntryById (uuidToString id) root = some found := by
        simp only [findEntryMut, projectEntry, createdEntry, parsed, Option.bind_some] at held
        exact held
      obtain ⟨group, groupNamed, bags⟩ := placedEntries_addEntry put
      obtain ⟨front, place, back, before, written⟩ := @putEntryById_split _ _ entry root search
      have foundId : found.id = id := uuidToString_injective (findEntryById_named root search)
      -- of the identifier there is only the entry that the core added
      have inside : (place, found) ∈ placedEntries root := by
        rw [before]
        exact List.mem_append_right _ List.mem_cons_self
      have here := (List.mem_cons.mp (bags.mem_iff.mp inside)).resolve_right fun old =>
        usesUuid_unplaced unused _ old foundId
      cases here
      have others : (front ++ back).Perm (placedEntries vault.root) := by
        rw [before] at bags
        exact (List.perm_middle.symm.trans bags).cons_inv
      have planned := plannedEntry_fields known initialized
      refine ⟨group, entry, groupNamed, planned, fun placed inside named => ?_, ?_, ?_⟩
      · exact usesUuid_unplaced unused placed inside (uuidToString_injective named)
      · simp only [putEntryMut, projectEntry, createdEntry, parsed]
        rw [written]
        exact List.perm_middle.trans (others.cons _)
      · simp only [putEntryMut, projectEntry, createdEntry, parsed]

end Planned

/-! ## The merged entry -/

section Merged

variable {baseline local' current candidate : Vault} {group : Uuid} {entry : Entry}

/-- An entry of the local vault that the source lacks is kept, or was the baseline's own. -/
theorem merged_added (merged : MergedVaults baseline local' current candidate)
    (inside : (group, entry) ∈ placedEntries local'.root)
    (absent : ∀ placed ∈ placedEntries current.root, placed.2.id ≠ entry.id) :
    (group, entry) ∈ placedEntries candidate.root ∨ (group, entry) ∈ placedEntries baseline.root := by
  obtain ⟨validBase, validLocal, validCurrent, outcome⟩ := merged
  cases outcome with
  | agree same => exact .inl inside
  | theirs same => exact .inr (same ▸ inside)
  | ours same => exact .inl inside
  | @patched result patch recoverable =>
      obtain ⟨run⟩ := threeWayFieldPatch_ok.mp patch
      obtain ⟨lrow, lheld, lparent, lvalue⟩ := (placed_row validLocal.toUniqueIds).mp inside
      have lacks : current.flat.entries[entry.id]? = none := by
        cases held : current.flat.entries[entry.id]? with
        | none => rfl
        | some rrow =>
            have named : rrow.value.id = entry.id := (Vault.flat_wellFormed validCurrent.toUniqueIds).entryId held
            have placed := (placed_row validCurrent.toUniqueIds).mpr ⟨rrow, by rw [named]; exact held, rfl, rfl⟩
            exact absurd named (absent _ placed)
      have choice := run.entry_chosen entry.id
      rw [withoutAutofillReceipts_flat, withoutAutofillReceipts_flat, withoutAutofillReceipts_flat, lheld, lacks] at choice
      have kept (chosen : run.entries[entry.id]? = some lrow) : (group, entry) ∈ placedEntries result.vault.root := by
        obtain ⟨row, held, parent, value⟩ := (run.entry_place entry.id group entry).mpr ⟨lrow, chosen, lparent, lvalue⟩
        exact (placed_row run.result_uniqueIds).mpr ⟨row, held, parent, value⟩
      cases inBase : baseline.flat.entries[entry.id]? with
      | none =>
          rw [inBase] at choice
          generalize chosen : run.entries[entry.id]? = row at choice
          cases choice
          exact .inl (kept chosen)
      | some brow =>
          rw [inBase] at choice
          generalize chosen : run.entries[entry.id]? = row at choice
          cases choice with
          | localKept _ => exact .inl (kept chosen)
          | remoteDeleted untouched =>
              have same : SameEntry brow lrow := Classical.not_not.mp fun apart => untouched (.inl apart)
              refine .inr ((placed_row validBase.toUniqueIds).mpr ⟨brow, inBase, same.1.trans lparent, same.2.trans lvalue⟩)

theorem findEntry_absent {vault : Vault} {entryId : String}
    (canonical : ∃ id, uuidParseStr entryId = some id ∧ uuidToString id = entryId)
    (absent : findEntry vault entryId = none) : ∀ placed ∈ placedEntries vault.root, uuidToString placed.2.id ≠ entryId := by
  obtain ⟨id, parsed, named⟩ := canonical
  have search := findEntry_entry vault entryId
  rw [absent, findEntryMut, parsed, Option.bind_some, named] at search
  rintro ⟨parent, entry⟩ inside
  obtain ⟨group, there, _, member⟩ := mem_placedEntries.mp inside
  exact findEntryById_none vault.root search.symm group there entry member

theorem PlannedEntry.protect {planned : String} {desired : ValidatedFields} (fields : PlannedEntry entry planned desired)
    (known : ProtectedFields desired.customFields) : PlannedEntry (protectEntryAndHistory entry) planned desired := by
  obtain ⟨id, title, username, password, url, notes, totp, attributes, passkey, history⟩ := fields
  refine ⟨id, title, username, password, url, notes, totp, ?_, passkey, ?_⟩
  · simp only [protectEntryAndHistory, protectXmlForbiddenFields, attributes]
    exact known.protect
  · simp only [protectEntryAndHistory, history, List.map_nil]

end Merged

/-! ## The create -/

section Create

variable {services : AutofillServices} {input : AutofillPersistEngineInput} {prepared : PreparedAutofillPersist}
  {parent planned : String} {expected : List String} {desired : ValidatedFields} {current before after : Vault}
  {nowEpochMs : UInt64} {clock : Int}

/-- The planned entry is live somewhere already, with the planned fields. -/
structure AdoptedEntry (vault : Vault) (planned : String) (expected : List String) (desired : ValidatedFields) : Prop where
  live : ∃ entry, findEntry vault planned = some (entry, false) ∧ entryMatchesValidated entry desired = true
  unexpected : planned ∉ expected

/-- What a create does to the local vault. -/
inductive CreateOutcome (current before : Vault) (parent planned : String) (expected : List String)
    (desired : ValidatedFields) : Vault → Prop
  | inCurrent (adopted : AdoptedEntry current planned expected desired) :
      CreateOutcome current before parent planned expected desired before
  | inLocal (adopted : AdoptedEntry before planned expected desired)
      (absent : findEntry current planned = none) (confirmed : ConfirmedAgainst current desired expected)
      (others : ∀ id, id ∈ expected ↔ id ≠ planned ∧ ∃ entry ∈ before.matching desired, uuidToString entry.id = id) :
      CreateOutcome current before parent planned expected desired before
  | added {after : Vault} {group : Uuid} {entry : Entry} (added : AddedEntry before after parent planned desired group entry)
      (absent : findEntry current planned = none) (confirmedCurrent : ConfirmedAgainst current desired expected)
      (confirmedLocal : ConfirmedAgainst before desired expected) :
      CreateOutcome current before parent planned expected desired after

theorem applyCreatePlan_ok (known : ProtectedFields desired.customFields)
    (canonical : ∃ id, uuidParseStr planned = some id ∧ uuidToString id = planned)
    (applied : applyCreatePlan clock parent planned expected desired current nowEpochMs before = .ok after) :
    CreateOutcome current before parent planned expected desired after := by
  unfold applyCreatePlan at applied
  dsimp only at applied
  split at applied
  · rename_i entry recycled live
    unfold adoptCurrentEntry at applied
    split at applied
    · rename_i checks
      cases applied
      simp only [Bool.and_eq_true, Bool.not_eq_true', List.contains_eq_mem, decide_eq_false_iff_not] at checks
      obtain ⟨⟨rfl, unexpected⟩, fields⟩ := checks
      exact .inCurrent ⟨⟨entry, live, fields⟩, unexpected⟩
    · cases applied
  · rename_i absent
    split at applied
    · cases applied
    · rename_i unexpected
      rw [List.contains_eq_mem, decide_eq_true_eq] at unexpected
      split at applied
      · cases applied
      · split at applied
        · cases applied
        · rename_i confirmed
          have confirmedCurrent := confirmed_of_eq (Classical.not_not.mp confirmed)
          split at applied
          · rename_i entry recycled live
            unfold adoptLocalEntry at applied
            split at applied
            · rename_i checks
              simp only [Bool.and_eq_true, Bool.not_eq_true'] at checks
              obtain ⟨rfl, fields⟩ := checks
              split at applied
              · rename_i others
                cases applied
                refine .inLocal ⟨⟨entry, live, fields⟩, unexpected⟩ absent confirmedCurrent fun id => ?_
                rw [← others, List.mem_filter, mem_exactMatchingEntryIds, decide_eq_true_eq, and_comm]
              · cases applied
            · cases applied
          · split at applied
            · cases applied
            · rename_i confirmedLocal
              obtain ⟨group, entry, added⟩ := createPlannedEntry_ok known canonical applied
              exact .added added absent confirmedCurrent (confirmed_of_eq (Classical.not_not.mp confirmedLocal))

/-- A create that adds nothing adds no entry. -/
theorem not_added_self {group : Uuid} {entry : Entry} : ¬ AddedEntry before before parent planned desired group entry := by
  intro added
  have lengths := added.entries.length_eq
  rw [List.length_cons] at lengths
  omega

/-- The candidate has the entry that the create added to the local vault, and no other of its id. -/
theorem published_added {baseline merged candidate local' : Vault} {group : Uuid} {entry : Entry} {json : String}
    (merges : MergedVaults baseline local' current merged) (known : ProtectedFields desired.customFields)
    (canonical : ∃ id, uuidParseStr planned = some id ∧ uuidToString id = planned)
    (absent : findEntry current planned = none) (added : AddedEntry before local' parent planned desired group entry)
    (final : candidate = (protectTargetXmlForbiddenFields merged planned).withLedger json) :
    (∃ published, PlannedEntry published planned desired ∧
      (placedEntries candidate.root).filter (fun placed => uuidToString placed.2.id = planned) = [(group, published)]) ∨
      (group, entry) ∈ placedEntries baseline.root := by
  have named := added.fields.id
  have inside : (group, entry) ∈ placedEntries local'.root := added.entries.mem_iff.mpr List.mem_cons_self
  have lacks : ∀ placed ∈ placedEntries current.root, placed.2.id ≠ entry.id := by
    intro placed here same
    exact findEntry_absent canonical absent placed here (same ▸ named)
  rcases merged_added merges inside lacks with here | own
  · left
    have root : candidate.root = (protectTargetXmlForbiddenFields merged planned).root := by
      rw [final, withLedger_root]
    have ids := protectTarget_ids merged planned
    have unique : candidate.UniqueIds := by
      constructor
      · rw [root, ids.1]
        exact merges.unique.groups
      · rw [root, ids.2.1]
        exact merges.unique.entries
    have contents : merged.contents = candidate.contents := by
      rw [← protectTarget_contents merged planned, Vault.contents, Vault.contents, root]
    obtain ⟨published, there, alike⟩ := placed_of_contents contents here
    have sameId : published.id = entry.id := by
      have sameIds := congrArg (fun entry : Entry => entry.id) alike
      exact sameIds
    obtain ⟨other, place, otherId, either⟩ := protectTarget_placed (root ▸ there)
    have same := placed_unique merges.unique place here (otherId.trans sameId)
    cases same
    have fields : PlannedEntry published planned desired := by
      rcases either with rfl | rfl
      · exact added.fields
      · exact added.fields.protect known
    refine ⟨published, fields, ?_⟩
    rw [← fields.id]
    exact placed_filter unique there
  · exact .inr own

/-- The published candidate of a create. Unless the local vault holds the receipt already, the planned
    entry is adopted from the source or the local vault, or it is added to the local vault after the
    matching logins of both were found to be those that the plan was confirmed against. -/
theorem autofill_create_adds (law : AutofillLaw services) {published : String}
    (valid : validatedAutofillPlan services input = .ok (.create parent planned expected desired))
    (success : prepareAutofillPersist services input = .ok prepared) (publish : prepared.outcome = .needsPublish published) :
    ∃ local' merged json, mergeAutofillCandidate input.baselineSource local' input.currentSource = .ok merged ∧
      prepared.candidate = (protectTargetXmlForbiddenFields merged planned).withLedger json ∧
      prepared.candidate.contents = merged.contents ∧
      prepared.candidate.HoldsReceipt services (intendedReceipt services input (.create parent planned expected desired)) ∧
      (input.baseLoaded.HoldsReceipt services (intendedReceipt services input (.create parent planned expected desired)) ∧
          local' = input.baseLoaded ∨
        CreateOutcome input.currentSource input.baseLoaded parent planned expected desired local' ∧
          ∀ group entry, AddedEntry input.baseLoaded local' parent planned desired group entry →
            (∃ published, PlannedEntry published planned desired ∧
              (placedEntries prepared.candidate.root).filter (fun placed => uuidToString placed.2.id = planned) =
                [(group, published)]) ∨
            (group, entry) ∈ placedEntries input.baselineSource.root) := by
  obtain ⟨plan, valid', ⟨run⟩⟩ := prepareAutofillPersist_ok.mp success
  cases Except.ok.inj (valid.symm.trans valid')
  obtain ⟨current, others, json, named, alike, ledger, final⟩ := run.final law valid
  have contents := run.candidate_contents law valid
  have canonical : ∃ id, uuidParseStr planned = some id ∧ uuidToString id = planned := validated_canonical valid
  have known : ProtectedFields desired.customFields := fromDto_protected (validated_dto valid)
  rcases run.published publish with ⟨held, merges⟩ | ⟨local', applied, merges⟩
  · exact ⟨input.baseLoaded, run.merged, json, merges, final, contents, run.candidate_holds law valid, .inl ⟨held, rfl⟩⟩
  · have outcome := applyCreatePlan_ok known canonical applied
    refine ⟨local', run.merged, json, merges, final, contents, run.candidate_holds law valid, .inr ⟨outcome, ?_⟩⟩
    intro group entry added
    cases outcome with
    | inCurrent _ => exact absurd added not_added_self
    | inLocal _ _ _ _ => exact absurd added not_added_self
    | added _ absent _ _ => exact published_added (mergeAutofillCandidate_ok merges) known canonical absent added final

end Create

/-- A login that differs from the planned one in its title and its password. -/
def otherLogin (title password : String) (modifiedAt : Nat) : Vault :=
  { name := "Vault"
    root :=
      { id := 1, title := "Root"
        entries := [{ id := 10, title, username := "ada", password, url := "https://example.com/login", modifiedAt }] } }

/-- The other login is changed by another device. -/
theorem autofill_create_adds_login : ∃ prepared local' merged json,
    prepareAutofillPersist createServices (sampleRequest createSample (otherLogin "Other" "other" 1)
      (otherLogin "Other" "other" 1) (otherLogin "Other" "theirs" 7)) = .ok prepared ∧
    mergeAutofillCandidate (otherLogin "Other" "other" 1) local' (otherLogin "Other" "theirs" 7) = .ok merged ∧
    prepared.candidate = (protectTargetXmlForbiddenFields merged (uuidToString 5)).withLedger json ∧
    ((entriesIn prepared.candidate.root).map fun entry => (entry.id, entry.password)) = [(10, "theirs"), (5, "new")] := by
  have merges : (autofillCandidate (sampleRequest createSample (otherLogin "Other" "other" 1) (otherLogin "Other" "other" 1)
      (otherLogin "Other" "theirs" 7)) createdPlan false).toOption.map (fun merged =>
        (entriesIn (protectTargetXmlForbiddenFields merged (uuidToString 5)).root).map fun entry => (entry.id, entry.password)) =
      some [(10, "theirs"), (5, "new")] := by decide +kernel
  obtain ⟨_, merges, passwords⟩ := Fallible.ok_of_toOption merges
  have success := createSample_prepared rfl rfl merges
  obtain ⟨local', merged, json, merges, candidate, _⟩ := autofill_create_adds (sampleServices_law rfl)
    (createSample_valid (otherLogin "Other" "other" 1) (otherLogin "Other" "other" 1) (otherLogin "Other" "theirs" 7)) success rfl
  exact ⟨_, local', merged, json, success, merges, candidate, passwords⟩

/-- One side changes the title and the other the password, and the merge matches the planned login. -/
theorem mergedMatch_duplicated : ¬ ∀ (services : AutofillServices) (input : AutofillPersistEngineInput)
    (prepared : PreparedAutofillPersist) (published parent planned : String) (expected : List String) (desired : ValidatedFields)
    (merged : Vault), AutofillLaw services →
    validatedAutofillPlan services input = .ok (.create parent planned expected desired) →
    prepareAutofillPersist services input = .ok prepared → prepared.outcome = .needsPublish published →
    mergeAutofillCandidate input.baselineSource input.baseLoaded input.currentSource = .ok merged →
      ConfirmedAgainst merged desired expected := by
  intro claim
  have applied : (autofillCandidate (sampleRequest createSample (otherLogin "Other" "other" 1)
      (otherLogin "Example" "other" 5) (otherLogin "Other" "new" 7)) createdPlan false).toOption.map (fun _ => ()) =
        some () := by decide +kernel
  have matches_ : (mergeAutofillCandidate (otherLogin "Other" "other" 1) (otherLogin "Example" "other" 5)
      (otherLogin "Other" "new" 7)).toOption.map (fun merged => (merged.matching sampleFields).map (·.id)) =
        some [10] := by decide +kernel
  obtain ⟨_, applied, _⟩ := Fallible.ok_of_toOption applied
  have success := createSample_prepared rfl rfl applied
  obtain ⟨merged, merges, ids⟩ := Fallible.ok_of_toOption matches_
  obtain ⟨entry, inside, _⟩ := List.mem_map.mp (ids ▸ List.mem_singleton_self (10 : Uuid))
  have confirmed := claim createServices _ _ _ _ _ _ _ merged (sampleServices_law rfl)
    (createSample_valid (otherLogin "Other" "other" 1) (otherLogin "Example" "other" 5) (otherLogin "Other" "new" 7))
    success rfl merges
  have listed := (confirmed (uuidToString entry.id)).mpr ⟨entry, inside, rfl⟩
  cases listed

end VaultKern
