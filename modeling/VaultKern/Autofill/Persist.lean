import VaultKern.Autofill.Ledger

/-! # Persisting an autofill plan

A plan is applied to the local vault, and what comes of it is merged with what the source
holds now. A vault with the receipt of the operation is not changed again.
-/

namespace VaultKern

deriving instance DecidableEq for Vault

/-! ## Merging -/

abbrev SeenIdentifiers := BTreeSet Uuid × BTreeSet Uuid

def mergeConflict {A : Type} (text : String) : AutofillResult A := .error (.mergeConflict (.message text))

def visitEntries : List Entry → SeenIdentifiers → AutofillResult SeenIdentifiers
  | [], seen => .ok seen
  | entry :: rest, (groups, entries) =>
      if entries.contains entry.id then mergeConflict ("duplicate entry UUID " ++ uuidToString entry.id)
      else visitEntries rest (groups, entries.insert entry.id)

mutual
def visitGroup : Group → SeenIdentifiers → AutofillResult SeenIdentifiers
  | ⟨fields, entries, children⟩, (groups, seen) =>
      if groups.contains fields.id then mergeConflict ("duplicate group UUID " ++ uuidToString fields.id)
      else do
        let seen ← visitEntries entries (groups.insert fields.id, seen)
        visitChildren children seen

def visitChildren : List Group → SeenIdentifiers → AutofillResult SeenIdentifiers
  | [], seen => .ok seen
  | child :: rest, seen => do
      let seen ← visitGroup child seen
      visitChildren rest seen
end

def visitDeleted : List DeletedObject → BTreeSet Uuid → AutofillResult Unit
  | [], _ => .ok ()
  | item :: rest, deleted =>
      if deleted.contains item.id then mergeConflict ("duplicate deleted-object UUID " ++ uuidToString item.id)
      else visitDeleted rest (deleted.insert item.id)

def validateVaultIdentifiers (vault : Vault) : AutofillResult Unit := do
  let (groups, entries) ← visitGroup vault.root (∅, ∅)
  if entries.toList.any fun id => groups.contains id then mergeConflict "entry and group UUID namespaces collide"
  else visitDeleted vault.deletedObjects ∅

def withoutAutofillReceipts (vault : Vault) : Vault :=
  if vault.metaCustomData.contains autofillReceiptKey then (deleteVaultCustomData autofillReceiptKey vault).2
  else vault

/-- The common patch, with every conflict recoverable from history. -/
def patchRecoverably (baseline local' current : Vault) : AutofillResult Vault :=
  match threeWayFieldPatch baseline local' current with
  | .error error => .error (.mergeConflict (.patch error))
  | .ok patched =>
      match ensurePatchConflictHistoryIsRecoverable patched.vault patched.requiredHistorySnapshots with
      | .error error => .error (.mergeConflict (.recovery error))
      | .ok _ => .ok patched.vault

def mergeAutofillCandidate (baseline local' current : Vault) : AutofillResult Vault := do
  validateVaultIdentifiers baseline
  validateVaultIdentifiers local'
  validateVaultIdentifiers current
  if baseline.root.id ≠ local'.root.id || baseline.root.id ≠ current.root.id then
    mergeConflict "vault root identity changed"
  else if local' = current then .ok local'
  else if local' = baseline then .ok current
  else if current = baseline then .ok local'
  else
    patchRecoverably (withoutAutofillReceipts baseline) (withoutAutofillReceipts local')
      (withoutAutofillReceipts current)

/-! ## Entries -/

section Recycling

/-- The recycle bin that entries in it are recycled by. -/
def Vault.activeRecycleBin (vault : Vault) : Option Uuid :=
  if vault.recycleBinEnabled.getD true then vault.recycleBinGroup else none

variable (bin : Option Uuid)

mutual
/-- `find_entry_in_group`, with whether the entry is recycled. -/
def findEntryInGroup (entryId : Uuid) : Group → Bool → Option (Entry × Bool)
  | ⟨fields, entries, children⟩, ancestorRecycled =>
      let recycled := ancestorRecycled || bin = some fields.id
      ((entries.find? fun entry => entry.id = entryId).map fun entry => (entry, recycled)).or
        (findEntryInChildren entryId children recycled)

def findEntryInChildren (entryId : Uuid) : List Group → Bool → Option (Entry × Bool)
  | [], _ => none
  | child :: rest, recycled =>
      (findEntryInGroup entryId child recycled).or (findEntryInChildren entryId rest recycled)
end

mutual
def groupIsLiveInTree (groupId : Uuid) : Group → Bool → Bool
  | ⟨fields, _, children⟩, ancestorRecycled =>
      let recycled := ancestorRecycled || bin = some fields.id
      (!recycled && fields.id = groupId) || groupIsLiveInChildren groupId children recycled

def groupIsLiveInChildren (groupId : Uuid) : List Group → Bool → Bool
  | [], _ => false
  | child :: rest, recycled => groupIsLiveInTree groupId child recycled || groupIsLiveInChildren groupId rest recycled
end

mutual
/-- The entries that are not recycled. -/
def liveEntriesInGroup : Group → Bool → List Entry
  | ⟨fields, entries, children⟩, ancestorRecycled =>
      let recycled := ancestorRecycled || bin = some fields.id
      (if recycled then [] else entries) ++ liveEntriesInChildren children recycled

def liveEntriesInChildren : List Group → Bool → List Entry
  | [], _ => []
  | child :: rest, recycled => liveEntriesInGroup child recycled ++ liveEntriesInChildren rest recycled
end

end Recycling

def findEntry (vault : Vault) (entryId : String) : Option (Entry × Bool) :=
  (uuidParseStr entryId).bind fun id => findEntryInGroup vault.activeRecycleBin id vault.root false

def groupIsLive (vault : Vault) (groupId : String) : Bool :=
  (uuidParseStr groupId).any fun id => groupIsLiveInTree vault.activeRecycleBin id vault.root false

/-- `find_entry_mut`, by the text of the UUID. -/
def findEntryMut (vault : Vault) (entryId : String) : Option Entry :=
  (uuidParseStr entryId).bind fun id => findEntryById (uuidToString id) vault.root

/-- Write through the reference that `find_entry_mut` returns. -/
def putEntryMut (entryId : String) (entry : Entry) (vault : Vault) : Vault :=
  match uuidParseStr entryId with
  | none => vault
  | some id => { vault with root := putEntryById (uuidToString id) entry vault.root }

def entryMatchesUpdateFields (entry : Entry) (fields : ValidatedUpdateFields) : Bool :=
  entry.username = fields.username && entry.password = fields.password && entry.url = fields.url

def liveEntryMatchesUpdateFields (vault : Vault) (entryId : String) (fields : ValidatedUpdateFields) : Bool :=
  (findEntry vault entryId).any fun (entry, recycled) => !recycled && entryMatchesUpdateFields entry fields

def customFieldsMatch (actual expected : BTreeMap String CustomField) : Bool :=
  (actual.keys.filter fun key => !isReservedCredentialAttribute key).length = expected.size
    && expected.toList.all fun (key, expectedField) => actual[key]?.any fun actualField =>
      actualField.value = expectedField.value
        && effectiveXmlFieldProtection actualField.value actualField.isProtected = expectedField.isProtected

def entryMatchesValidated (entry : Entry) (fields : ValidatedFields) : Bool :=
  entry.title = fields.values.title && entry.username = fields.values.username
    && entry.password = fields.values.password && entry.url = fields.values.url && entry.notes = fields.values.notes
    && entry.totp = fields.totp && customFieldsMatch entry.attributes fields.customFields

def exactMatchingEntryIds (vault : Vault) (fields : ValidatedFields) : List String :=
  (((liveEntriesInGroup vault.activeRecycleBin vault.root false).filter fun entry => entryMatchesValidated entry fields).map
    fun entry => uuidToString entry.id).mergeSort fun left right => left ≤ right

/-! ## Applying a plan -/

def protectXmlForbiddenFields (entry : Entry) : Entry :=
  let protection := entry.fieldProtection
  { entry with
    fieldProtection :=
      { protectTitle := effectiveXmlFieldProtection entry.title protection.protectTitle
        protectUsername := effectiveXmlFieldProtection entry.username protection.protectUsername
        protectPassword := effectiveXmlFieldProtection entry.password protection.protectPassword
        protectUrl := effectiveXmlFieldProtection entry.url protection.protectUrl
        protectNotes := effectiveXmlFieldProtection entry.notes protection.protectNotes }
    attributes := entry.attributes.map fun _ field =>
      { field with isProtected := effectiveXmlFieldProtection field.value field.isProtected } }

/-- The entry, and the versions of its history. -/
def protectEntryAndHistory (entry : Entry) : Entry :=
  { protectXmlForbiddenFields entry with history := entry.history.map protectXmlForbiddenFields }

def protectTargetXmlForbiddenFields (candidate : Vault) (entryId : String) : Vault :=
  match findEntryMut candidate entryId with
  | none => candidate
  | some entry => putEntryMut entryId (protectEntryAndHistory entry) candidate

/-- `now / 1000`, but later than the entry's own time. -/
def nextModifiedAt (nowEpochMs : UInt64) (entry : Entry) : Nat :=
  max (nowEpochMs.toNat / 1000) (min (entry.modifiedAt + 1) (2 ^ 64 - 1))

def applyUpdateFields (fields : ValidatedUpdateFields) (nowEpochMs : UInt64) (entry : Entry) : Entry :=
  { protectXmlForbiddenFields
      { entry with
        username := fields.username
        password := fields.password
        url := fields.url } with
    modifiedAt := nextModifiedAt nowEpochMs entry }

def applyFields (fields : ValidatedFields) (nowEpochMs : UInt64) (entry : Entry) : Entry :=
  let preserveRawTotp := entry.totp.isNone && fields.totp.isNone
  let preserveRawPasskey := entry.passkey.isNone
  let preserved := entry.attributes.filter fun key _ =>
    (preserveRawTotp && isTotpPersistentAttributeKey key)
      || (preserveRawPasskey && PasskeyRecord.isPersistentAttributeKey key)
  { protectXmlForbiddenFields
      { entry with
        title := fields.values.title
        username := fields.values.username
        password := fields.values.password
        url := fields.values.url
        notes := fields.values.notes
        totp := fields.totp
        attributes := extendMap fields.customFields preserved } with
    modifiedAt := nextModifiedAt nowEpochMs entry }

def initializeCreatedEntryTimes (nowEpochMs : UInt64) (entry : Entry) : AutofillResult Entry :=
  let creationTime := nowEpochMs.toNat / 1000
  if creationTime < 2 ^ 63 then
    .ok { entry with
          createdAt := creationTime
          modifiedAt := creationTime
          expires := false
          expiryTime := some creationTime
          lastAccessedAt := some creationTime
          usageCount := some 0
          locationChangedAt := some creationTime }
  else .error (.mutation (.message "creation time exceeds the KDBX domain"))

def autofillConflict {A : Type} (code : AutofillPersistConflictCode) : AutofillResult A := .error (.conflict code)

def applyUpdatePlan (entryId : String) (expectedFields desiredFields : ValidatedUpdateFields) (nowEpochMs : UInt64)
    (local' : Vault) : AutofillResult Vault :=
  if liveEntryMatchesUpdateFields local' entryId desiredFields then .ok local'
  else if !liveEntryMatchesUpdateFields local' entryId expectedFields then
    autofillConflict .updatePreconditionFailed
  else if expectedFields = desiredFields then .ok local'
  else do
    let local' ← autofillMutation (snapshotEntryToHistory entryId) local'
    match findEntryMut local' entryId with
    | none => .error (.mutation (.message "entry disappeared"))
    | some entry => return putEntryMut entryId (applyUpdateFields desiredFields nowEpochMs entry) local'

/-- The entry of a create is in the current source already. -/
def adoptCurrentEntry (entry : Entry) (recycled plannedExpected : Bool) (desiredFields : ValidatedFields)
    (local' : Vault) : AutofillResult Vault :=
  if !recycled && !plannedExpected && entryMatchesValidated entry desiredFields then .ok local'
  else autofillConflict .plannedEntryIdCollision

/-- The entry of a create is in the local vault already. -/
def adoptLocalEntry (entry : Entry) (recycled : Bool) (plannedEntryId : String) (expectedMatchingEntryIds : List String)
    (desiredFields : ValidatedFields) (local' : Vault) : AutofillResult Vault :=
  if !recycled && entryMatchesValidated entry desiredFields then
    if (exactMatchingEntryIds local' desiredFields).filter (· ≠ plannedEntryId) = expectedMatchingEntryIds then
      .ok local'
    else autofillConflict .createMatchingSetChanged
  else autofillConflict .plannedEntryIdCollision

/-- `add_entry_with_id` and what follows it; `clock` is the time of the core. -/
def createPlannedEntry (clock : Int) (parentGroupId plannedEntryId : String) (desiredFields : ValidatedFields)
    (nowEpochMs : UInt64) (local' : Vault) : AutofillResult Vault :=
  match addEntryWithId clock parentGroupId plannedEntryId
      { title := desiredFields.values.title
        username := desiredFields.values.username
        password := desiredFields.values.password
        url := desiredFields.values.url
        notes := desiredFields.values.notes } local' with
  | (.error (.uuidCollision _), _) => autofillConflict .plannedEntryIdCollision
  | (.error e, _) => .error (.mutation (.core e))
  | (.ok created, local') =>
      match findEntryMut local' created.id with
      | none => .error (.mutation (.message "created entry missing"))
      | some entry => do
          let entry ← initializeCreatedEntryTimes nowEpochMs (applyFields desiredFields nowEpochMs entry)
          return putEntryMut created.id entry local'

def applyCreatePlan (clock : Int) (parentGroupId plannedEntryId : String) (expectedMatchingEntryIds : List String)
    (desiredFields : ValidatedFields) (currentSource : Vault) (nowEpochMs : UInt64) (local' : Vault) :
    AutofillResult Vault :=
  let plannedExpected := expectedMatchingEntryIds.contains plannedEntryId
  match findEntry currentSource plannedEntryId with
  | some (entry, recycled) => adoptCurrentEntry entry recycled plannedExpected desiredFields local'
  | none =>
      if plannedExpected then autofillConflict .plannedEntryIdCollision
      else if !groupIsLive currentSource parentGroupId || !groupIsLive local' parentGroupId then
        autofillConflict .createMatchingSetChanged
      else if exactMatchingEntryIds currentSource desiredFields ≠ expectedMatchingEntryIds then
        autofillConflict .createMatchingSetChanged
      else match findEntry local' plannedEntryId with
        | some (entry, recycled) =>
            adoptLocalEntry entry recycled plannedEntryId expectedMatchingEntryIds desiredFields local'
        | none =>
            if exactMatchingEntryIds local' desiredFields ≠ expectedMatchingEntryIds then
              autofillConflict .createMatchingSetChanged
            else createPlannedEntry clock parentGroupId plannedEntryId desiredFields nowEpochMs local'

def applyPlanToLocalCandidate (clock : Int) (plan : ValidatedPlan) (currentSource : Vault) (nowEpochMs : UInt64)
    (local' : Vault) : AutofillResult Vault :=
  match plan with
  | .update entryId expectedFields desiredFields =>
      applyUpdatePlan entryId expectedFields desiredFields nowEpochMs local'
  | .create parentGroupId plannedEntryId expectedMatchingEntryIds desiredFields =>
      applyCreatePlan clock parentGroupId plannedEntryId expectedMatchingEntryIds desiredFields currentSource
        nowEpochMs local'

/-! ## Preparing -/

inductive AutofillPersistLogicalOutcome where
  | needsPublish (entryId : String)
  | replayed (entryId : String)
  | replayedNeedsPublish (entryId : String)
  deriving DecidableEq

structure PreparedAutofillPersist where
  candidate : Vault
  outcome : AutofillPersistLogicalOutcome
  planSha256 : String

structure AutofillPersistEngineInput where
  baselineSource : Vault
  baseLoaded : Vault
  currentSource : Vault
  transactionId : String
  operationId : String
  vaultId : String
  sourceIdentitySha256 : String
  plan : AutofillPersistPlanDto
  nowEpochMs : UInt64
  /-- The clock of the core. -/
  clock : Int

section Preparing

variable (services : AutofillServices)

def intendedReceipt (input : AutofillPersistEngineInput) (plan : ValidatedPlan) : AutofillReceipt :=
  { operationId := input.operationId
    transactionId := input.transactionId
    sourceIdentitySha256 := input.sourceIdentitySha256
    planSha256 := hashValidatedPlan services.toAutofillLibrary input.transactionId input.vaultId
      input.sourceIdentitySha256 plan
    mode := plan.mode
    entryId := plan.entryId
    committedAtEpochMs := input.nowEpochMs }

def checkReceiptBinding (intended : AutofillReceipt) (existing : Option AutofillReceipt) : AutofillResult Unit :=
  match existing with
  | none => .ok ()
  | some existing =>
      if sameReceiptBinding existing intended then .ok () else autofillConflict .operationBindingMismatch

/-- The merge, of a local vault to which the plan was applied unless a receipt says that it was. -/
def autofillCandidate (input : AutofillPersistEngineInput) (plan : ValidatedPlan) (applied : Bool) :
    AutofillResult Vault := do
  if applied then mergeAutofillCandidate input.baselineSource input.baseLoaded input.currentSource
  else
    let local' ← applyPlanToLocalCandidate input.clock plan input.currentSource input.nowEpochMs input.baseLoaded
    mergeAutofillCandidate input.baselineSource local' input.currentSource

/-- The candidate as it is published. -/
def finishAutofillCandidate (input : AutofillPersistEngineInput) (plan : ValidatedPlan) (receipts : Receipts)
    (candidate : Vault) : AutofillResult Vault :=
  writePrunedLedger services (protectTargetXmlForbiddenFields candidate plan.entryId) (receipts.toList.map Prod.snd)
    input.operationId input.nowEpochMs

def validatedAutofillPlan (input : AutofillPersistEngineInput) : AutofillResult ValidatedPlan := do
  validateToken "transaction_id" input.transactionId maxRequestIdBytes
  validateToken "operation_id" input.operationId maxRequestIdBytes
  validateToken "vault_id" input.vaultId maxVaultIdBytes
  requirePlan (isSha256Text input.sourceIdentitySha256) "invalid source_identity_sha256"
  ValidatedPlan.fromDto services.toAutofillLibrary input.plan

/-- `prepare_autofill_persist`, after the checks of the plan. -/
def prepareValidatedPlan (input : AutofillPersistEngineInput) (plan : ValidatedPlan) :
    AutofillResult PreparedAutofillPersist := do
  let intended := intendedReceipt services input plan
  let baseReceipts ← readReceipts services input.baseLoaded
  let currentReceipts ← readReceipts services input.currentSource
  checkReceiptBinding intended baseReceipts[input.operationId]?
  checkReceiptBinding intended currentReceipts[input.operationId]?
  let mergedReceipts ← mergeReceiptMaps baseReceipts currentReceipts
  let candidate ← autofillCandidate input plan
    (baseReceipts.contains input.operationId || currentReceipts.contains input.operationId)
  if currentReceipts.contains input.operationId then
    let candidate ← finishAutofillCandidate services input plan mergedReceipts candidate
    return {
      candidate
      outcome := if candidate = input.currentSource then .replayed plan.entryId else .replayedNeedsPublish plan.entryId
      planSha256 := intended.planSha256 }
  else
    let receipts ← insertReceipt mergedReceipts intended
    let candidate ← finishAutofillCandidate services input plan receipts candidate
    return {
      candidate
      outcome := .needsPublish plan.entryId
      planSha256 := intended.planSha256 }

def prepareAutofillPersist (input : AutofillPersistEngineInput) : AutofillResult PreparedAutofillPersist := do
  let plan ← validatedAutofillPlan services input
  prepareValidatedPlan services input plan

end Preparing

end VaultKern
