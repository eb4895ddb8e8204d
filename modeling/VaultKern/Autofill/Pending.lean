import VaultKern.Autofill.Persist
import VaultKern.Runtime.HistoryLimits

/-! # Pending autofill plans

A candidate whose publication is uncertain is kept as a pending generation. Before it is kept it
is read back and checked; after a restart its plan is rebuilt from the generation the plan was
made against and the pending one, and must have the digest of the receipt.
-/

namespace VaultKern

/-! ## The fields of an entry -/

/-- `entry_fields_for_vault`. -/
def entryFields (entry : Entry) : EntryFieldsDto :=
  { title := entry.title
    username := entry.username
    password := entry.password
    url := entry.url
    notes := entry.notes
    totpUri := entry.totp.map (totpToUri entry.title entry.username)
    customFields := listEntryCustomFields entry }

def entryFieldsForVault (vault : Vault) (entryId : String) : Option EntryFieldsDto :=
  (findEntryById entryId vault.root).map entryFields

def autofillUpdateFieldsForVault (vault : Vault) (entryId : String) : Option AutofillUpdateFieldsDto :=
  (entryFieldsForVault vault entryId).map fun fields =>
    { username := fields.username, password := fields.password, url := fields.url }

def entryFieldsSemanticallyEqual (left right : EntryFieldsDto) : Bool :=
  left.title = right.title && left.username = right.username && left.password = right.password
    && left.url = right.url && left.notes = right.notes && totpFieldsSemanticallyEqual left.totpUri right.totpUri
    && customFieldsSemanticallyEqual left.customFields right.customFields

/-! ## The target as it was serialized -/

/-- The fields that may be spelled differently and mean the same. -/
def normalizedFields (fields : EntryFields) : EntryFields :=
  { fields with
    totp := fields.totp.map fun totp =>
      let account := totp.accountName.getD fields.username
      { totp with
        issuer := some (totp.issuer.getD fields.title)
        accountName := if account.isEmpty then none else some account }
    iconId := if fields.iconId = some 0 then none else fields.iconId
    autoType := fields.autoType.filter fun autoType =>
      !(autoType.enabled.isNone && autoType.obfuscation.isNone && autoType.defaultSequence.isNone
        && autoType.associations.isEmpty)
    rawState := {}
    opaqueXml := []
    customDataBlocks := [] }

mutual
def normalizedSerializedEntry : Entry → Entry
  | ⟨fields, history⟩ => ⟨normalizedFields fields, normalizedSerializedHistory history⟩

def normalizedSerializedHistory : List Entry → List Entry
  | [] => []
  | version :: rest => normalizedSerializedEntry version :: normalizedSerializedHistory rest
end

section Locating

variable (bin : Option Uuid) (entryId : Uuid)

mutual
/-- The group of the entry, the entry, and whether it is recycled. -/
def locateSerializedAutofillEntry : Group → Bool → Option (Uuid × Entry × Bool)
  | ⟨fields, entries, children⟩, ancestorRecycled =>
      let recycled := ancestorRecycled || bin = some fields.id
      match entries.find? fun entry => entry.id = entryId with
      | some entry => some (fields.id, normalizedSerializedEntry entry, recycled)
      | none => locateSerializedIn children recycled

def locateSerializedIn : List Group → Bool → Option (Uuid × Entry × Bool)
  | [], _ => none
  | child :: rest, recycled => (locateSerializedAutofillEntry child recycled).or (locateSerializedIn rest recycled)
end

end Locating

mutual
def countLiveEntryId (entryId : String) : Group → Nat
  | ⟨_, entries, children⟩ =>
      (entries.filter fun entry => uuidToString entry.id = entryId).length + countLiveEntryIdIn entryId children

def countLiveEntryIdIn (entryId : String) : List Group → Nat
  | [] => 0
  | child :: rest => countLiveEntryId entryId child + countLiveEntryIdIn entryId rest
end

structure SerializedAutofillTargetState where
  parentId : Option Uuid
  entry : Option Entry
  recycled : Bool
  deletedObjects : List DeletedObject
  deriving DecidableEq

def serializedAutofillTargetState (vault : Vault) (entryId : String) : Option SerializedAutofillTargetState :=
  (uuidParseStr entryId).map fun id =>
    let located := locateSerializedAutofillEntry vault.activeRecycleBin id vault.root false
    { parentId := located.map (·.1)
      entry := located.map (·.2.1)
      recycled := located.any (·.2.2)
      deletedObjects := (vault.deletedObjects.filter fun item => item.id = id).mergeSort
        fun left right => left.deletedAt ≤ right.deletedAt }

/-! ## Checking the serialized candidate -/

inductive PendingPlanError where
  | message (text : String)
  | engine (error : AutofillPersistEngineError)
  deriving DecidableEq

abbrev PendingResult (A : Type) := Except PendingPlanError A

def requirePending (condition : Bool) (message : String) : PendingResult Unit :=
  if condition then .ok () else .error (.message message)

def foundPending {A : Type} (found : Option A) (message : String) : PendingResult A :=
  match found with
  | some a => .ok a
  | none => .error (.message message)

def fromEngine {A : Type} (result : AutofillResult A) : PendingResult A :=
  match result with
  | .ok a => .ok a
  | .error e => .error (.engine e)

def AutofillPersistLogicalOutcome.entryId : AutofillPersistLogicalOutcome → String
  | .needsPublish entryId => entryId
  | .replayed entryId => entryId
  | .replayedNeedsPublish entryId => entryId

def AutofillPersistLogicalOutcome.isNeedsPublish : AutofillPersistLogicalOutcome → Bool
  | .needsPublish _ => true
  | _ => false

def AutofillPersistLogicalOutcome.isReplayed : AutofillPersistLogicalOutcome → Bool
  | .replayed _ => true
  | _ => false

/-- The target is as the plan says. -/
def satisfiesPostcondition (fields : EntryFieldsDto) : AutofillPersistPlanDto → Bool
  | .update _ _ desired =>
      fields.username = desired.username && fields.password = desired.password && fields.url = desired.url
  | .create _ _ _ desired => entryFieldsSemanticallyEqual fields desired

section Saving

variable (services : AutofillServices)

/-- The same request, about one vault in all three places. -/
def replayRequest (input : AutofillPersistEngineInput) (vault : Vault) (now : UInt64) (clock : Int) :
    AutofillPersistEngineInput :=
  { input with
    baselineSource := vault
    baseLoaded := vault
    currentSource := vault
    nowEpochMs := now
    clock }

/-- `reload` writes the candidate and reads what was written. -/
def serializeAndVerifyAutofillCandidate (reload : Vault → Option Vault) (input : AutofillPersistEngineInput)
    (prepared : PreparedAutofillPersist) (now : UInt64) (clock : Int) : PendingResult Vault := do
  let entryId := prepared.outcome.entryId
  let limited := prepared.candidate.historyMaxItems.isSome || prepared.candidate.historyMaxSize.isSome
  let expected ← foundPending
    (serializedAutofillTargetState (if limited then enforceHistoryLimits prepared.candidate else prepared.candidate) entryId)
    "invalid autofill target entry ID"
  let verified ← foundPending (reload prepared.candidate) "failed to reload the serialized autofill candidate"
  let replay ← fromEngine (prepareAutofillPersist services (replayRequest input verified now clock))
  requirePending (replay.outcome.isReplayed && replay.candidate = verified)
    "serialized receipt is not an exact replay binding"
  let actual ← foundPending (serializedAutofillTargetState verified entryId) "invalid autofill target entry ID"
  requirePending (actual = expected) "serialized target entry state changed during KDBX roundtrip"
  if prepared.outcome.isNeedsPublish then
    requirePending (countLiveEntryId entryId verified.root = 1) "serialized target entry identity is not unique"
    let fields ← foundPending (entryFieldsForVault verified entryId) "entry not found"
    requirePending (satisfiesPostcondition fields input.plan)
      "serialized target entry does not satisfy the planned postcondition"
  return verified

end Saving

/-! ## Rebuilding the plan -/

structure PendingAutofillReceiptBinding where
  transactionId : String
  sourceIdentitySha256 : String
  planSha256 : String
  mode : ReceiptMode
  entryId : String
  deriving DecidableEq

def pendingReceiptBinding (receipt : AutofillReceipt) : PendingResult PendingAutofillReceiptBinding := do
  requirePending (!receipt.transactionId.isEmpty) "pending autofill receipt field transactionId is invalid"
  requirePending (!receipt.sourceIdentitySha256.isEmpty) "pending autofill receipt field sourceIdentitySha256 is invalid"
  requirePending (!receipt.planSha256.isEmpty) "pending autofill receipt field planSha256 is invalid"
  requirePending (!receipt.entryId.isEmpty) "pending autofill receipt field entryId is invalid"
  requirePending (isSha256Text receipt.sourceIdentitySha256 && isSha256Text receipt.planSha256)
    "pending autofill receipt digest is invalid"
  requirePending ((uuidParseStr receipt.entryId).any fun id => uuidToString id = receipt.entryId)
    "pending autofill receipt entry ID is invalid"
  return {
    transactionId := receipt.transactionId
    sourceIdentitySha256 := receipt.sourceIdentitySha256
    planSha256 := receipt.planSha256
    mode := receipt.mode
    entryId := receipt.entryId }

def pendingAutofillReceiptBinding (services : AutofillServices) (vault : Vault) (operationId : String) :
    PendingResult (Option PendingAutofillReceiptBinding) :=
  match vault.metaCustomData[autofillReceiptKey]? with
  | none => .ok none
  | some json =>
      match services.parseLedger json with
      | none => .error (.message "pending autofill receipt ledger is malformed")
      | some ledger =>
          if ledger.version ≠ 1 then .error (.message "pending autofill receipt ledger version is invalid")
          else match ledger.receipts.filter fun receipt => receipt.operationId = operationId with
            | [] => .ok none
            | [receipt] => (pendingReceiptBinding receipt).map some
            | _ => .error (.message "pending autofill operation receipt is duplicated")

def requiredPendingAutofillReceiptBinding (services : AutofillServices) (vault : Vault) (operationId : String) :
    PendingResult PendingAutofillReceiptBinding := do
  let binding ← pendingAutofillReceiptBinding services vault operationId
  foundPending binding "pending autofill operation receipt is missing"

/-- Whether an entry is like the target, by what its record holds. -/
def matchesModelEntry (target entry : Entry) : Bool :=
  entry.title = target.title && entry.username = target.username && entry.password = target.password
    && entry.url = target.url && entry.notes = target.notes && entry.totp = target.totp
    && entry.attributes = target.attributes

mutual
def collectMatchingModelEntryIds (bin : Option Uuid) (target : Entry) : Group → Bool → List String
  | ⟨fields, entries, children⟩, ancestorRecycled =>
      let recycled := ancestorRecycled || bin = some fields.id
      (if recycled then [] else (entries.filter (matchesModelEntry target)).map fun entry => uuidToString entry.id)
        ++ collectMatchingModelIn bin target children recycled

def collectMatchingModelIn (bin : Option Uuid) (target : Entry) : List Group → Bool → List String
  | [], _ => []
  | child :: rest, recycled =>
      collectMatchingModelEntryIds bin target child recycled ++ collectMatchingModelIn bin target rest recycled
end

def matchingModelEntryIds (vault : Vault) (target : Entry) : List String :=
  (collectMatchingModelEntryIds vault.activeRecycleBin target vault.root false).mergeSort fun left right => left ≤ right

def reconstructPendingAutofillPlan (previous pending : Vault) (binding : PendingAutofillReceiptBinding) :
    PendingResult AutofillPersistPlanDto :=
  match binding.mode with
  | .update => do
      let expected ← foundPending (autofillUpdateFieldsForVault previous binding.entryId)
        "pending update baseline entry is missing"
      let desired ← foundPending (autofillUpdateFieldsForVault pending binding.entryId)
        "pending update target entry is missing"
      return .update binding.entryId expected desired
  | .create => do
      let targetId ← foundPending (uuidParseStr binding.entryId) "pending create target entry ID is invalid"
      let (parentGroupId, target, recycled) ← foundPending
        (locateSerializedAutofillEntry pending.activeRecycleBin targetId pending.root false)
        "pending create target entry is missing"
      requirePending (!recycled) "pending create target entry is recycled"
      let desired ← foundPending (entryFieldsForVault pending binding.entryId) "entry not found"
      return .create (uuidToString parentGroupId) binding.entryId (matchingModelEntryIds previous target) desired

section Resuming

variable (services : AutofillServices)

def planSha256 (transactionId vaultId sourceIdentitySha256 : String) (plan : AutofillPersistPlanDto) :
    AutofillResult String := do
  validateToken "transaction_id" transactionId maxRequestIdBytes
  validateToken "vault_id" vaultId maxVaultIdBytes
  requirePlan (isSha256Text sourceIdentitySha256) "invalid source_identity_sha256"
  let plan ← ValidatedPlan.fromDto services.toAutofillLibrary plan
  return hashValidatedPlan services.toAutofillLibrary transactionId vaultId sourceIdentitySha256 plan

/-- The plan of a pending chain, rebuilt and checked against the receipt, and its digest. -/
def resumePendingPlan (vaultId sourceIdentitySha256 operationId : String) (planBaseline pending : Vault) :
    PendingResult (AutofillPersistPlanDto × String) := do
  let binding ← requiredPendingAutofillReceiptBinding services pending operationId
  requirePending (binding.sourceIdentitySha256 = sourceIdentitySha256)
    "pending autofill receipt source identity does not match the vault source"
  let plan ← reconstructPendingAutofillPlan planBaseline pending binding
  let digest ← fromEngine (planSha256 services binding.transactionId vaultId binding.sourceIdentitySha256 plan)
  requirePending (digest = binding.planSha256) "pending autofill plan digest does not match authenticated generations"
  return (plan, digest)

end Resuming

end VaultKern
