import VaultKern.Guarantees.AutofillOnce
import VaultKern.Guarantees.Recoverable
import VaultKern.Guarantees.RuntimeEdits

/-! # Updates of a login

An update swaps the fields of its target in the local vault. The merge with the source then
takes them unless the source wrote others since the baseline, and what it overwrites is kept
in the history of the target.
-/

namespace VaultKern

/-! ## The fields of an update -/

inductive UpdateField where
  | username
  | password
  | url

namespace UpdateField

def get : UpdateField → Entry → String
  | username, entry => entry.username
  | password, entry => entry.password
  | url, entry => entry.url

def desired : UpdateField → ValidatedUpdateFields → String
  | username, fields => fields.username
  | password, fields => fields.password
  | url, fields => fields.url

@[simp] theorem get_withoutProtection (field : UpdateField) (entry : Entry) :
    field.get entry.withoutProtection = field.get entry := by
  cases field <;> rfl

@[simp] theorem get_plain (field : UpdateField) (entry : Entry) : field.get (withoutProtection entry) = field.get entry := by
  cases field <;> rfl

theorem get_snapshot (field : UpdateField) (entry : Entry) : field.get (prepareEntryHistorySnapshot entry) = field.get entry := by
  unfold prepareEntryHistorySnapshot
  cases field <;> dsimp only <;> split <;> rfl

end UpdateField

theorem entryMatchesUpdateFields_iff {entry : Entry} {fields : ValidatedUpdateFields} :
    entryMatchesUpdateFields entry fields = true ↔ ∀ field : UpdateField, field.get entry = field.desired fields := by
  simp only [entryMatchesUpdateFields, Bool.and_eq_true, decide_eq_true_eq]
  constructor
  · rintro ⟨⟨username, password⟩, url⟩ field
    cases field with
    | username => exact username
    | password => exact password
    | url => exact url
  · intro same
    exact ⟨⟨same .username, same .password⟩, same .url⟩

/-! ## The merged fields -/

section Fields

variable {baseline local' current candidate : Vault}

/-- The current source wrote this value into the entry after the baseline. -/
def WrittenSince (baseline current : Vault) (field : UpdateField) (id : Uuid) (value : String) : Prop :=
  (∃ r ∈ entriesIn current.root, r.id = id ∧ field.get r = value) ∧
    ∀ b ∈ entriesIn baseline.root, b.id = id → value ≠ field.get b

/-- A field of a merged entry, and what became of the value that the source wrote. -/
structure MergedField (baseline local' current : Vault) (field : UpdateField) (merged : Entry) : Prop where
  value : (∃ l ∈ entriesIn local'.root, l.id = merged.id ∧ field.get merged = field.get l) ∨
    WrittenSince baseline current field merged.id (field.get merged)
  kept : ∀ r ∈ entriesIn current.root, r.id = merged.id → ∀ b ∈ entriesIn baseline.root, b.id = merged.id →
    field.get r ≠ field.get b → (∀ l ∈ entriesIn local'.root, l.id = merged.id → field.get r ≠ field.get l) →
    field.get merged = field.get r ∨ ∃ version ∈ merged.history, field.get version = field.get r

theorem takesChange_field {result : ThreeWayPatchResult} {id : Uuid} {b l r merged : FlatEntry}
    (keeps : KeepsWrites result id b l r merged) (field : UpdateField) :
    TakesChange (field.get b.value) (field.get l.value) (field.get r.value) (field.get merged.value)
      (l.value.modifiedAt > r.value.modifiedAt) := by
  cases field with
  | username => exact keeps.units .username
  | password => exact keeps.units .password
  | url => exact keeps.units .url

theorem losing_field {result : ThreeWayPatchResult} {id : Uuid} {b l r merged : FlatEntry}
    (keeps : KeepsWrites result id b l r merged) (field : UpdateField)
    (conflict : ThreeWay.Conflicts (field.get b.value) (field.get l.value) (field.get r.value)) :
    prepareEntryHistorySnapshot (if l.value.modifiedAt > r.value.modifiedAt then r.value else l.value) ∈
      merged.value.history := by
  cases field with
  | username => exact (keeps.losingUnit .username conflict).1
  | password => exact (keeps.losingUnit .password conflict).1
  | url => exact (keeps.losingUnit .url conflict).1

/-- A row of all three sides: the local value stays unless the source wrote one, which is not lost. -/
theorem sharedField {result : ThreeWayPatchResult} {id : Uuid} {b l r m : FlatEntry}
    (keeps : KeepsWrites result id b l r m) (field : UpdateField) :
    (field.get m.value = field.get l.value ∨ field.get m.value = field.get r.value ∧ field.get r.value ≠ field.get b.value) ∧
      (field.get r.value ≠ field.get b.value → field.get r.value ≠ field.get l.value →
        field.get m.value = field.get r.value ∨ ∃ version ∈ m.value.history, field.get version = field.get r.value) := by
  have takes := takesChange_field keeps field
  by_cases unchanged : field.get l.value = field.get b.value
  · have merged := takes.theirsOnly unchanged
    constructor
    · by_cases same : field.get r.value = field.get b.value
      · exact .inl (merged.trans (same.trans unchanged.symm))
      · exact .inr ⟨merged, same⟩
    · exact fun _ _ => .inl merged
  · by_cases quiet : field.get r.value = field.get b.value
    · exact ⟨.inl (takes.oursOnly quiet), fun written => absurd quiet written⟩
    · have merged := takes.both unchanged quiet
      by_cases later : l.value.modifiedAt > r.value.modifiedAt
      · rw [decide_eq_true later, if_pos rfl] at merged
        constructor
        · exact .inl merged
        · intro _ apart
          have losing := losing_field keeps field ⟨unchanged, quiet, Ne.symm apart⟩
          rw [if_pos later] at losing
          exact .inr ⟨_, losing, field.get_snapshot r.value⟩
      · rw [decide_eq_false later, if_neg Bool.false_ne_true] at merged
        exact ⟨.inr ⟨merged, quiet⟩, fun _ _ => .inl merged⟩

/-- A local value stays where the entry is new on a side, which wrote nothing into it. -/
theorem MergedField.ofLocal {field : UpdateField} {m l : Entry} (target : l ∈ entriesIn local'.root) (same : l.id = m.id)
    (alike : field.get m = field.get l)
    (absent : (∀ b ∈ entriesIn baseline.root, b.id ≠ m.id) ∨ ∀ r ∈ entriesIn current.root, r.id ≠ m.id) :
    MergedField baseline local' current field m := by
  constructor
  · exact .inl ⟨l, target, same, alike⟩
  · intro r here named b there named' _ _
    rcases absent with lacks | lacks
    · exact absurd named' (lacks b there)
    · exact absurd named (lacks r here)

/-- An entry of all three sides. -/
theorem MergedField.ofShared {field : UpdateField} {m b l r : Entry} (validBase : baseline.UniqueIds)
    (validCurrent : current.UniqueIds) (inBase : b ∈ entriesIn baseline.root) (baseId : b.id = m.id)
    (target : l ∈ entriesIn local'.root) (same : l.id = m.id) (inCurrent : r ∈ entriesIn current.root) (currentId : r.id = m.id)
    (either : field.get m = field.get l ∨ field.get m = field.get r ∧ field.get r ≠ field.get b)
    (kept : field.get r ≠ field.get b → field.get r ≠ field.get l →
      field.get m = field.get r ∨ ∃ version ∈ m.history, field.get version = field.get r) :
    MergedField baseline local' current field m := by
  constructor
  · rcases either with ours | ⟨theirs, written⟩
    · exact .inl ⟨l, target, same, ours⟩
    · refine .inr ⟨⟨r, inCurrent, currentId, theirs.symm⟩, fun other there named => ?_⟩
      rw [entry_same validBase there inBase (named.trans baseId.symm), theirs]
      exact written
  · intro r' here named b' there named' written apart
    obtain rfl := entry_same validCurrent here inCurrent (named.trans currentId.symm)
    obtain rfl := entry_same validBase there inBase (named'.trans baseId.symm)
    exact kept written (apart l target same)

/-- A merge by fields, after the receipts were taken away. -/
theorem mergedField_patched {result : ThreeWayPatchResult} (validBase : baseline.UniqueIds) (validLocal : local'.UniqueIds)
    (validCurrent : current.UniqueIds) (run : PatchRun (withoutAutofillReceipts baseline) (withoutAutofillReceipts local')
      (withoutAutofillReceipts current) result) (field : UpdateField) {m : Entry} (inside : m ∈ entriesIn result.vault.root)
    {l : Entry} (target : l ∈ entriesIn local'.root) (same : l.id = m.id) :
    MergedField baseline local' current field m := by
  obtain ⟨row, held, value⟩ := (entry_row run.result_uniqueIds).mp inside
  obtain ⟨chosen, there, _, sameValue⟩ := (run.entry_place m.id row.parent row.value).mp ⟨row, held, rfl, rfl⟩
  obtain ⟨lrow, lheld, lvalue⟩ := (entry_row validLocal).mp target
  rw [same] at lheld
  have choice := run.entry_chosen m.id
  rw [there, withoutAutofillReceipts_flat, withoutAutofillReceipts_flat, withoutAutofillReceipts_flat, lheld] at choice
  have value' : chosen.value = m := sameValue.trans value
  -- a side without a row has no entry of that id
  have lacks {vault : Vault} (unique : vault.UniqueIds) (absent : vault.flat.entries[m.id]? = none) :
      ∀ entry ∈ entriesIn vault.root, entry.id ≠ m.id := by
    intro entry here named
    have found := entry_named unique here named
    rw [absent] at found
    cases found
  cases inBase : baseline.flat.entries[m.id]? with
  | none =>
      rw [inBase] at choice
      refine .ofLocal target same ?_ (.inl (lacks validBase inBase))
      cases inCurrent : current.flat.entries[m.id]? with
      | none =>
          rw [inCurrent] at choice
          cases choice
          rw [← value', ← lvalue]
      | some rrow =>
          rw [inCurrent] at choice
          cases choice with
          | bothAdded record => rw [← value', ← lvalue, record.2]
  | some brow =>
      cases inCurrent : current.flat.entries[m.id]? with
      | none =>
          rw [inBase, inCurrent] at choice
          refine .ofLocal target same ?_ (.inr (lacks validCurrent inCurrent))
          cases choice
          rw [← value', ← lvalue]
      | some rrow =>
          have inBase' : (withoutAutofillReceipts baseline).flat.entries[m.id]? = some brow := by
            rw [withoutAutofillReceipts_flat, inBase]
          have inCurrent' : (withoutAutofillReceipts current).flat.entries[m.id]? = some rrow := by
            rw [withoutAutofillReceipts_flat, inCurrent]
          obtain ⟨mrow, stored, keeps⟩ :=
            run.keepsWrites inBase' ((withoutAutofillReceipts_flat local').symm ▸ lheld) inCurrent'
          rw [held] at stored
          cases stored
          obtain ⟨either, kept⟩ := sharedField keeps field
          rw [value, lvalue] at either kept
          have baseId : brow.value.id = m.id := run.wfBase.entryId inBase'
          have currentId : rrow.value.id = m.id := run.wfRemote.entryId inCurrent'
          exact .ofShared validBase validCurrent ((entry_row validBase).mpr ⟨brow, by rw [baseId, inBase], rfl⟩) baseId
            target same ((entry_row validCurrent).mpr ⟨rrow, by rw [currentId, inCurrent], rfl⟩) currentId either kept

theorem mergedField (merged : MergedVaults baseline local' current candidate) (field : UpdateField) {m : Entry}
    (inside : m ∈ entriesIn candidate.root) {l : Entry} (target : l ∈ entriesIn local'.root) (same : l.id = m.id) :
    MergedField baseline local' current field m := by
  obtain ⟨validBase, validLocal, validCurrent, outcome⟩ := merged
  cases outcome with
  | agree alike =>
      subst alike
      exact ⟨.inl ⟨m, inside, rfl, rfl⟩, fun r here named _ _ _ _ apart => absurd rfl (apart r here named)⟩
  | ours alike =>
      subst alike
      refine ⟨.inl ⟨m, inside, rfl, rfl⟩, fun r here named b there named' written _ => ?_⟩
      exact absurd (congrArg field.get (entry_same validBase.toUniqueIds here there (named.trans named'.symm))) written
  | theirs alike =>
      subst alike
      constructor
      · by_cases kept : field.get m = field.get l
        · exact .inl ⟨l, target, same, kept⟩
        · refine .inr ⟨⟨m, inside, rfl, rfl⟩, fun b there named => ?_⟩
          rw [entry_same validBase.toUniqueIds there target (named.trans same.symm)]
          exact kept
      · intro r here named _ _ _ _ _
        exact .inl (congrArg field.get (entry_same validCurrent.toUniqueIds inside here named.symm))
  | patched patch _ =>
      obtain ⟨run⟩ := threeWayFieldPatch_ok.mp patch
      exact mergedField_patched validBase.toUniqueIds validLocal.toUniqueIds validCurrent.toUniqueIds run field inside
        target same

end Fields

/-! ## The update -/

section Update

variable {services : AutofillServices} {input : AutofillPersistEngineInput} {prepared : PreparedAutofillPersist}
  {entryId : String} {expected desired : ValidatedUpdateFields} {before after : Vault} {nowEpochMs : UInt64}

/-- The target with the desired fields, a later time and its former self in its history. -/
def Entry.updated (target : Entry) (desired : ValidatedUpdateFields) (nowEpochMs : UInt64) : Entry :=
  { target with
    username := desired.username
    password := desired.password
    url := desired.url
    modifiedAt := nextModifiedAt nowEpochMs target
    history := target.history ++ [prepareEntryHistorySnapshot target] }

theorem applyUpdateFields_updated (target : Entry) (desired : ValidatedUpdateFields) (nowEpochMs : UInt64) :
    withoutProtection (applyUpdateFields desired nowEpochMs target.snapshotted) =
      withoutProtection (target.updated desired nowEpochMs) := by
  apply Entry.ext'
  · simp only [withoutProtection, applyUpdateFields, protectXmlForbiddenFields, Entry.snapshotted, Entry.updated,
      nextModifiedAt, EntryFields.mk.injEq, true_and, and_true]
    apply Std.ExtTreeMap.ext_getElem?
    intro key
    simp only [Std.ExtTreeMap.getElem?_map, Option.map_map, Function.comp_def]
  · rfl

/-- What the update leaves: the target has the desired fields already, or it had the expected ones
    and now has the desired ones. -/
structure SwappedTarget (before : Vault) (entryId : String) (expected desired : ValidatedUpdateFields) (nowEpochMs : UInt64)
    (after : Vault) (target : Entry) : Prop where
  live : findEntry before entryId = some (target, false)
  swapped : entryMatchesUpdateFields target desired = true ∧ after = before ∨
    entryMatchesUpdateFields target expected = true ∧ ∃ updated,
      withoutProtection updated = withoutProtection (target.updated desired nowEpochMs) ∧ after = before.putEntry entryId updated

theorem liveEntryMatches_iff {fields : ValidatedUpdateFields} : liveEntryMatchesUpdateFields before entryId fields = true ↔
    ∃ target, findEntry before entryId = some (target, false) ∧ entryMatchesUpdateFields target fields = true := by
  unfold liveEntryMatchesUpdateFields
  cases findEntry before entryId with
  | none => simp
  | some found =>
      obtain ⟨target, recycled⟩ := found
      cases recycled <;> simp

theorem findEntry_named {target : Entry} {recycled : Bool} (live : findEntry before entryId = some (target, recycled))
    (canonical : ∃ id, uuidParseStr entryId = some id ∧ uuidToString id = entryId) :
    findEntryById entryId before.root = some target := by
  obtain ⟨id, parsed, named⟩ := canonical
  have search := findEntry_entry before entryId
  rw [live, findEntryMut, parsed, Option.bind_some, named] at search
  exact search.symm

theorem applyUpdatePlan_ok (canonical : ∃ id, uuidParseStr entryId = some id ∧ uuidToString id = entryId)
    (applied : applyUpdatePlan entryId expected desired nowEpochMs before = .ok after) :
    ∃ target, SwappedTarget before entryId expected desired nowEpochMs after target := by
  unfold applyUpdatePlan at applied
  split at applied
  · rename_i done
    obtain ⟨target, live, fields⟩ := liveEntryMatches_iff.mp done
    cases applied
    exact ⟨target, live, .inl ⟨fields, rfl⟩⟩
  · split at applied
    · cases applied
    · rename_i notDone expects
      rw [Bool.not_eq_true', Bool.not_eq_false] at expects
      obtain ⟨target, live, fields⟩ := liveEntryMatches_iff.mp expects
      split at applied
      · rename_i same
        exact absurd (same ▸ expects) notDone
      · have found := findEntry_named live canonical
        obtain ⟨id, parsed, named⟩ := canonical
        have snapshot : autofillMutation (snapshotEntryToHistory entryId) before =
            .ok (before.putEntry entryId target.snapshotted) := by
          simp [autofillMutation, snapshotEntryToHistory, onEntry, Attempt.within, found, Vault.putEntry, Entry.snapshotted]
        have again : findEntryMut (before.putEntry entryId target.snapshotted) entryId = some target.snapshotted := by
          rw [findEntryMut, parsed, Option.bind_some, named]
          exact snapshotted_found found
        rw [snapshot, Fallible.ok_bind, again] at applied
        cases applied
        refine ⟨target, live, .inr ⟨fields, _, applyUpdateFields_updated target desired nowEpochMs, ?_⟩⟩
        simp only [putEntryMut, parsed, named, Vault.putEntry]
        rw [putEntryById_twice (snapshotted_named found)]

/-- The target of the vault with the update has the desired fields. -/
theorem SwappedTarget.desired_there {target : Entry} (swap : SwappedTarget before entryId expected desired nowEpochMs after target)
    (canonical : ∃ id, uuidParseStr entryId = some id ∧ uuidToString id = entryId) :
    ∃ l ∈ entriesIn after.root, l.id = target.id ∧ ∀ field : UpdateField, field.get l = field.desired desired := by
  have found := findEntry_named swap.live canonical
  rcases swap.swapped with ⟨fields, rfl⟩ | ⟨_, updated, alike, rfl⟩
  · exact ⟨target, findEntryById_mem _ found, rfl, entryMatchesUpdateFields_iff.mp fields⟩
  · have id : updated.id = target.id := by
      have ids := congrArg (fun entry : Entry => entry.id) alike
      exact ids
    have named' : uuidToString updated.id = entryId := by
      rw [id]
      exact findEntryById_named _ found
    refine ⟨updated, findEntryById_mem _ (findEntryById_put named' before.root found), id, fun field => ?_⟩
    have fields := congrArg field.get alike
    rw [field.get_plain, field.get_plain] at fields
    rw [fields]
    cases field <;> rfl

theorem version_of_contents {m m' : Entry} (alike : m'.withoutProtection = m.withoutProtection) {version : Entry}
    (member : version ∈ m'.history) : ∃ other ∈ m.history, ∀ field : UpdateField, field.get other = field.get version := by
  have histories := congrArg Entry.history alike
  have inside : withoutProtection version ∈ m'.withoutProtection.history := List.mem_map_of_mem member
  rw [histories] at inside
  obtain ⟨other, there, same⟩ := List.mem_map.mp inside
  refine ⟨other, there, fun field => ?_⟩
  have fields := congrArg field.get same
  rwa [field.get_plain, field.get_plain] at fields

/-- The published candidate of an update. The update is made in the local vault unless that has the
    receipt already, and then merged; each field of the target is the desired one or was written by the
    source since the baseline, and a value that the source wrote is not lost. -/
theorem autofill_update_swaps (law : AutofillLaw services) {published : String}
    (valid : validatedAutofillPlan services input = .ok (.update entryId expected desired))
    (success : prepareAutofillPersist services input = .ok prepared) (publish : prepared.outcome = .needsPublish published) :
    ∃ local' merged json, mergeAutofillCandidate input.baselineSource local' input.currentSource = .ok merged ∧
      prepared.candidate = (protectTargetXmlForbiddenFields merged entryId).withLedger json ∧
      prepared.candidate.contents = merged.contents ∧
      prepared.candidate.HoldsReceipt services (intendedReceipt services input (.update entryId expected desired)) ∧
      (input.baseLoaded.HoldsReceipt services (intendedReceipt services input (.update entryId expected desired)) ∧
          local' = input.baseLoaded ∨
        ∃ target, SwappedTarget input.baseLoaded entryId expected desired input.nowEpochMs local' target ∧
          ∀ m ∈ entriesIn prepared.candidate.root, m.id = target.id → ∀ field : UpdateField,
            (field.get m = field.desired desired ∨
              WrittenSince input.baselineSource input.currentSource field target.id (field.get m)) ∧
            ∀ r ∈ entriesIn input.currentSource.root, r.id = target.id →
              ∀ b ∈ entriesIn input.baselineSource.root, b.id = target.id → field.get r ≠ field.get b →
                field.get r ≠ field.desired desired →
                  field.get m = field.get r ∨ ∃ version ∈ m.history, field.get version = field.get r) := by
  obtain ⟨plan, valid', ⟨run⟩⟩ := prepareAutofillPersist_ok.mp success
  cases Except.ok.inj (valid.symm.trans valid')
  obtain ⟨current, others, json, named, alike, ledger, final⟩ := run.final law valid
  have contents := run.candidate_contents law valid
  rcases run.published publish with ⟨held, merges⟩ | ⟨local', applied, merges⟩
  · exact ⟨input.baseLoaded, run.merged, json, merges, final, contents, run.candidate_holds law valid, .inl ⟨held, rfl⟩⟩
  · have canonical : ∃ id, uuidParseStr entryId = some id ∧ uuidToString id = entryId := validated_canonical valid
    obtain ⟨target, swap⟩ := applyUpdatePlan_ok canonical applied
    obtain ⟨l, there, id, fields⟩ := swap.desired_there canonical
    refine ⟨local', run.merged, json, merges, final, contents, run.candidate_holds law valid, .inr ⟨target, swap, ?_⟩⟩
    intro m inside same field
    obtain ⟨parent, placed⟩ := mem_entriesIn.mp inside
    obtain ⟨m', placed', unprotected⟩ := placed_of_contents contents placed
    have inside' : m' ∈ entriesIn run.merged.root := mem_entriesIn.mpr ⟨parent, placed'⟩
    have sameId : m'.id = m.id := by
      have ids := congrArg (fun entry : Entry => entry.id) unprotected
      exact ids
    have sameField : field.get m' = field.get m := by
      have fields := congrArg field.get unprotected
      rwa [field.get_withoutProtection, field.get_withoutProtection] at fields
    have merged := mergedField (mergeAutofillCandidate_ok merges) field inside' there (by rw [id, sameId, same])
    have identity : m'.id = target.id := sameId.trans same
    constructor
    · rcases merged.value with ⟨l', there', id', value⟩ | written
      · have unique := (mergeAutofillCandidate_ok merges).validLocal.toUniqueIds
        have one := entry_same unique there' there (id'.trans (identity.trans id.symm))
        rw [← sameField, value, one, fields field]
        exact .inl rfl
      · rw [← sameField, ← identity]
        exact .inr written
    · intro r here rid b based bid written apart
      have kept := merged.kept r here (rid.trans identity.symm) b based (bid.trans identity.symm) written (by
        intro l' there' id'
        have unique := (mergeAutofillCandidate_ok merges).validLocal.toUniqueIds
        rw [entry_same unique there' there (id'.trans (identity.trans id.symm)), fields field]
        exact apart)
      rw [← sameField]
      rcases kept with same' | ⟨version, member, value⟩
      · exact .inl same'
      · obtain ⟨other, member', values⟩ := version_of_contents unprotected member
        exact .inr ⟨other, member', (values field).trans value⟩

end Update

/-- Another device added a login. -/
def busyVault : Vault :=
  let vault := loginVault "old" 0
  let bank : Entry := { id := 11, title := "Bank", username := "ada", password := "theirs", modifiedAt := 5 }
  { vault with root := { vault.root with entries := vault.root.entries ++ [bank] } }

theorem autofill_update_swaps_login : ∃ prepared local' merged json,
    prepareAutofillPersist updateServices (sampleRequest updateSample (loginVault "old" 0) (loginVault "old" 0) busyVault) =
      .ok prepared ∧
    mergeAutofillCandidate (loginVault "old" 0) local' busyVault = .ok merged ∧
    prepared.candidate = (protectTargetXmlForbiddenFields merged (uuidToString 10)).withLedger json ∧
    ((entriesIn prepared.candidate.root).map fun entry => (entry.id, entry.password)) = [(10, "new"), (11, "theirs")] := by
  have merges : (autofillCandidate (sampleRequest updateSample (loginVault "old" 0) (loginVault "old" 0) busyVault) updatedPlan
      false).toOption.map (fun merged =>
        (entriesIn (protectTargetXmlForbiddenFields merged (uuidToString 10)).root).map fun entry => (entry.id, entry.password)) =
      some [(10, "new"), (11, "theirs")] := by decide +kernel
  obtain ⟨_, merges, passwords⟩ := Fallible.ok_of_toOption merges
  have success := updateSample_prepared rfl rfl merges
  obtain ⟨local', merged, json, merges, candidate, _⟩ := autofill_update_swaps (sampleServices_law rfl)
    (updateSample_valid (loginVault "old" 0) (loginVault "old" 0) busyVault) success rfl
  exact ⟨_, local', merged, json, success, merges, candidate, passwords⟩

/-- An earlier password of the source is overwritten by the update. -/
theorem earlierPassword_overwritten : ¬ ∀ (services : AutofillServices) (input : AutofillPersistEngineInput)
    (prepared : PreparedAutofillPersist) (published entryId : String) (expected desired : ValidatedUpdateFields),
    AutofillLaw services → validatedAutofillPlan services input = .ok (.update entryId expected desired) →
    prepareAutofillPersist services input = .ok prepared → prepared.outcome = .needsPublish published →
    ∀ r ∈ entriesIn input.currentSource.root, uuidToString r.id = entryId → ∀ field : UpdateField,
      field.get r ≠ field.desired expected → field.get r ≠ field.desired desired →
        ∀ m ∈ entriesIn prepared.candidate.root, m.id = r.id → field.get m = field.get r := by
  intro claim
  have merges : (autofillCandidate (sampleRequest updateSample (loginVault "old" 0) (loginVault "old" 0)
      (loginVault "theirs" 5)) updatedPlan false).toOption.map (fun merged =>
        (entriesIn (protectTargetXmlForbiddenFields merged (uuidToString 10)).root).map fun entry => (entry.id, entry.password)) =
      some [(10, "new")] := by decide +kernel
  have valid := updateSample_valid (loginVault "old" 0) (loginVault "old" 0) (loginVault "theirs" 5)
  obtain ⟨merged, merges, passwords⟩ := Fallible.ok_of_toOption merges
  have success := updateSample_prepared rfl rfl merges
  obtain ⟨m, inside, here⟩ := List.mem_map.mp (passwords ▸ List.mem_singleton_self ((10 : Uuid), "new"))
  obtain ⟨id, password⟩ := Prod.mk.inj here
  have kept := claim updateServices _ _ _ _ _ _ (sampleServices_law rfl) valid success rfl
    (entriesIn (loginVault "theirs" 5).root)[0] (List.getElem_mem _) rfl .password (by decide) (by decide) m inside id
  have changed : m.password = "theirs" := kept
  rw [password] at changed
  exact absurd changed (by decide)

end VaultKern
