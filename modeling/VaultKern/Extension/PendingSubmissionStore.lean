import VaultKern.Lib.Attempt
import VaultKern.Extension.PendingSubmission

/-! # The store of pending submissions

Pending submissions lie in the session storage of the browser, each under a key for its tab or for its
recovery. An operation reads what is there, checks it and writes the next record; operations run one after
the other. Where an operation gives `null` or throws, the computation fails.
-/

namespace VaultKern.Pending

open Filling (JsText startsWith)
open JsValue Utf16 Attempt

def pendingAutofillTransactionTtlMs : Int := 2 * 60 * 1000
def pendingAutofillAttemptLeaseMs : Int := 30 * 1000
def pendingAutofillCompletionTtlMs : Int := 5 * 60 * 1000
def maxWalBytes : Nat := 4 * 1024 * 1024

/-! ## The browser -/

/-- What `Date.now` gives. -/
def Time := { time : Int // -8640000000000000 ≤ time ∧ time ≤ 8640000000000000 }

structure Services extends Library where
  now : Nat → Time
  createId : Nat → JsText
  /-- Whether the access level can be set, and whether a call of the storage succeeds. -/
  trusted : Nat → Bool
  answers : Nat → Bool
  digest : Nat → JsText → Option (List UInt8)
  /-- What the matching entries are taken for, or nothing when it throws; it may not be there at all. -/
  findExactMatchingEntryIds : Option (Nat → JsText → PendingAutofillDesiredFields → Option JsValue)

abbrev StorageItems := List (JsText × JsValue)

structure World where
  storage : StorageItems
  calls : Nat
  writes : StorageItems

abbrev Storing := Attempt Unit World

/-- `null`. -/
def absent {A : Type} : Storing A := fail ()

def present {A : Type} (value : Option A) : Storing A := require () value

def demand (condition : Prop) [Decidable condition] : Storing Unit := ensure (decide condition) ()

/-- The result, or `null`. -/
def orNull {A : Type} (m : Storing A) : Storing (Option A) := fun world =>
  match m world with
  | (.ok a, world') => (.ok (some a), world')
  | (.error _, world') => (.ok none, world')

def givenOr {A : Type} (value : Option A) (otherwise : Storing A) : Storing A :=
  match value with
  | some a => pure a
  | none => otherwise

/-- The number of the call, which the browser may answer as it likes. -/
def nextCall : Storing Nat := fun world => (.ok world.calls, { world with calls := world.calls + 1 })

def putItem (storage : StorageItems) (key : JsText) (value : JsValue) : StorageItems :=
  if (storage.lookup key).isSome then storage.map fun item => if item.1 = key then (key, value) else item
  else storage ++ [(key, value)]

section Store

variable (services : Services)

def readNow : Storing Int := do return (services.now (← nextCall)).val

def createId : Storing JsText := do return services.createId (← nextCall)

def trustedStorage : Storing Bool := do return services.trusted (← nextCall)

def sessionGet (key : JsText) : Storing (Option JsValue) := do
  demand (services.answers (← nextCall))
  return (← get).storage.lookup key

def sessionGetAll : Storing StorageItems := do
  demand (services.answers (← nextCall))
  return (← get).storage

def sessionSet (items : StorageItems) : Storing Bool := do
  if services.answers (← nextCall) then
    modify fun world => {
      world with
      storage := items.foldl (fun storage item => putItem storage item.1 item.2) world.storage
      writes := world.writes ++ items }
    return true
  else return false

def sessionRemove (keys : List JsText) : Storing Bool := do
  if services.answers (← nextCall) then
    modify fun world => { world with storage := world.storage.filter fun item => item.1 ∉ keys }
    return true
  else return false

def hashVaultId (vaultId : JsText) : Storing (Option JsText) := do
  match services.digest (← nextCall) vaultId with
  | some bytes =>
      return if bytes.length = 32 then
        some (bytes.flatMap fun byte => [hexUnit (byte.toUInt16 / 16), hexUnit (byte.toUInt16 % 16)])
      else none
  | none => return none

/-! ## Keys -/

def transactionStoragePrefix : JsText := ofString "vaultkernPendingAutofillTransaction:"
def recoveryStoragePrefix : JsText := ofString "vaultkernPendingAutofillRecovery:"
def completionStoragePrefix : JsText := ofString "vaultkernPendingAutofillCompletion:"

def pendingAutofillTransactionStorageKey (library : Library) (tabId : Rat) : JsText :=
  transactionStoragePrefix ++ library.numberText tabId

def pendingAutofillRecoveryStorageKey (transactionId : JsText) : JsText := recoveryStoragePrefix ++ transactionId

def pendingAutofillCompletionStorageKey (transactionId : JsText) : JsText := completionStoragePrefix ++ transactionId

/-- What comes after the prefix. -/
def suffixAfter (start key : JsText) : Option JsText :=
  if start.isPrefixOf key then some (key.drop start.length) else none

def digitsValue (digits : JsText) : Nat := digits.foldl (fun value digit => 10 * value + (digit.toNat - 48)) 0

def tabIdFromStorageKey (key : JsText) : Option Rat := do
  let suffix ← suffixAfter transactionStoragePrefix key
  guard (suffix ≠ [] ∧ suffix.all fun digit => 48 ≤ digit && digit ≤ 57)
  guard (IsSafe (digitsValue suffix))
  return (digitsValue suffix : Int)

def transactionIdFromRecoveryStorageKey (key : JsText) : Option JsText := suffixAfter recoveryStoragePrefix key

def transactionIdFromCompletionStorageKey (key : JsText) : Option JsText := suffixAfter completionStoragePrefix key

/-- Whether a transaction can lie under the key. -/
def isWalKey (key : JsText) : Bool :=
  (tabIdFromStorageKey key).isSome || (transactionIdFromRecoveryStorageKey key).isSome

/-! ## Raw records -/

def expectedEntryId : PendingAutofillPlan → JsText
  | .update entryId _ _ => entryId
  | .create _ plannedEntryId _ _ => plannedEntryId

def plansEqual (left right : PendingAutofillPlan) : Bool :=
  stringify services.numberText (.object left.toRecord) = stringify services.numberText (.object right.toRecord)

def rawExpectedEntryId (value : JsValue) : Option JsText :=
  let plan := (value.field "plan").getD .null
  let mutation := (value.field "mutation").getD .null
  let entryId :=
    if asText (plan.field "mode") = some (ofString "update") then plan.field "entryId"
    else if asText (plan.field "mode") = some (ofString "create") then plan.field "plannedEntryId"
    else if asText (mutation.field "mode") = some (ofString "update") then mutation.field "entryId"
    else if asText (mutation.field "mode") = some (ofString "create") then mutation.field "createdEntryId"
    else none
  checked isCanonicalNonNilUuid entryId

def isPointerTombstone (value : JsValue) : Bool :=
  match value with
  | .object fields =>
      asNumber (fields.lookup "version") = some pendingAutofillTransactionVersion && fields.length = 2 &&
        ((checked isValidPendingAutofillToken (fields.lookup "recoveryTransactionId")).isSome ||
          (checked isValidPendingAutofillToken (fields.lookup "completedTransactionId")).isSome ||
          asBool (fields.lookup "invalidated") = some true)
  | _ => false

/-- When the record is swept; `none` if never. -/
def rawDeadline (value : JsValue) (currentTime : Int) : Option Int :=
  match value with
  | .null => none
  | .bool _ | .number _ | .string _ => some 0
  | _ =>
      if isPointerTombstone value then none
      else
        let isCaptured := asText (value.field "state") = some (ofString "captured")
        let submittedAt := safeInteger
          (if isCaptured then (value.field "submission").bind (·.field "submittedAt") else value.field "submittedAt")
        match submittedAt with
        | none => some 0
        | some submittedAt =>
            let lifetime := if isCaptured then pendingAutofillTransactionTtlMs else pendingAutofillRecoveryTtlMs
            if submittedAt < 0 ∨ submittedAt > currentTime ∨ submittedAt > maxSafeInteger - lifetime then some 0
            else
              match safeInteger (value.field (if isCaptured then "expiresAt" else "recoveryDeadlineAt")) with
              | some deadline => some (min deadline (submittedAt + lifetime))
              | none => some (submittedAt + lifetime)

def storageHasTransactionWal (items : StorageItems) (transactionId : JsText) : Bool :=
  items.any fun item => isWalKey item.1 && asText (item.2.field "transactionId") = some transactionId

def pendingWalFits (value : JsValue) : Bool :=
  let serialized := stringify services.numberText value
  serialized.length ≤ maxWalBytes && utf8Length serialized ≤ maxWalBytes

/-! ## Completions -/

inductive CompletionOutcome where
  | persisted | expiredUnknown | dismissed | expired
  deriving DecidableEq

def CompletionOutcome.text : CompletionOutcome → JsText
  | .persisted => ofString "persisted"
  | .expiredUnknown => ofString "expired_unknown"
  | .dismissed => ofString "dismissed"
  | .expired => ofString "expired"

structure PendingAutofillCompletionRecord where
  transactionId : JsText
  operationId : Option JsText
  vaultIdHash : Option JsText
  entryId : Option JsText
  outcome : CompletionOutcome
  completedAt : Int
  expiresAt : Int

/-- A field that is left out when there is no value. -/
def given (name : String) (value : Option JsValue) : JsRecord := (value.map fun value => (name, value)).toList

def PendingAutofillCompletionRecord.toRecord (record : PendingAutofillCompletionRecord) : JsRecord :=
  [("version", .number pendingAutofillTransactionVersion), ("transactionId", .string record.transactionId)] ++
    given "operationId" (record.operationId.map .string) ++ given "vaultIdHash" (record.vaultIdHash.map .string) ++
    given "entryId" (record.entryId.map .string) ++
    [("outcome", .string record.outcome.text), ("completedAt", integer record.completedAt),
      ("expiresAt", integer record.expiresAt)]

def completionRecordFromUnknown (value : Option JsValue) (expectedTransactionId : JsText) :
    Option PendingAutofillCompletionRecord := do
  let candidate ← asObject value
  guard (asNumber (candidate.lookup "version") = some pendingAutofillTransactionVersion)
  guard (asText (candidate.lookup "transactionId") = some expectedTransactionId)
  let outcome ← (asText (candidate.lookup "outcome")).bind fun text =>
    [CompletionOutcome.persisted, .expiredUnknown, .dismissed, .expired].find? fun outcome => outcome.text = text
  let completedAt ← safeInteger (candidate.lookup "completedAt")
  let expiresAt ← safeInteger (candidate.lookup "expiresAt")
  return {
    transactionId := expectedTransactionId
    operationId := checked isValidPendingAutofillToken (candidate.lookup "operationId")
    vaultIdHash := checked (fun text => text ≠ []) (candidate.lookup "vaultIdHash")
    entryId := checked isCanonicalNonNilUuid (candidate.lookup "entryId")
    outcome, completedAt, expiresAt }

def loadCompletionRecordUnqueued (transactionId : JsText) : Storing PendingAutofillCompletionRecord := do
  demand (← trustedStorage services)
  let value ← sessionGet services (pendingAutofillCompletionStorageKey transactionId)
  present (completionRecordFromUnknown value transactionId)

structure CompletionOptions where
  operationId : Option JsText := none
  vaultId : Option JsText := none
  entryId : Option JsText := none

def hashGiven (vaultId : Option JsText) : Storing (Option JsText) :=
  match vaultId.filter (· ≠ []) with
  | some vaultId => do
      let hash ← present (← hashVaultId services vaultId)
      return some hash
  | none => return none

def writeCompletion (transactionId : JsText) (outcome : CompletionOutcome) (options : CompletionOptions) :
    Storing PendingAutofillCompletionRecord := do
  demand (← trustedStorage services)
  let completedAt ← readNow services
  let vaultIdHash ← hashGiven services options.vaultId
  let record : PendingAutofillCompletionRecord := {
    transactionId, vaultIdHash, outcome, completedAt
    operationId := options.operationId.filter fun id => isValidPendingAutofillToken id
    entryId := options.entryId.filter fun id => isCanonicalNonNilUuid id
    expiresAt := completedAt + pendingAutofillCompletionTtlMs }
  demand (← sessionSet services [(pendingAutofillCompletionStorageKey transactionId, .object record.toRecord)])
  return record

/-! ## Records that take the place of another -/

def persistAtKey (key : JsText) (value : JsRecord) : Storing Unit := do
  demand (pendingWalFits services (.object value))
  demand (← trustedStorage services)
  demand (← sessionSet services [(key, .object value)])

def terminalTransaction (base : PendingAutofillBase) (state : TerminalState) (operationId entryId : Option JsText) :
    Storing PendingAutofillTerminal := do
  return {
    base with
    state
    operationId := operationId.filter fun id => isValidPendingAutofillToken id
    entryId := entryId.filter fun id => isCanonicalNonNilUuid id
    completedAt := ← readNow services }

def terminalRecord (terminal : PendingAutofillTerminal) : JsRecord :=
  [("version", .number pendingAutofillTransactionVersion), ("transactionId", .string terminal.transactionId),
    stateField (.terminal terminal.state), ("tabId", .number terminal.tabId), ("origin", .string terminal.origin)] ++
    given "operationId" (terminal.operationId.map .string) ++ given "entryId" (terminal.entryId.map .string) ++
    [("completedAt", integer terminal.completedAt)]

def scrubWalKey (key : JsText) (terminal : PendingAutofillTerminal) : Storing Unit := do
  if ← trustedStorage services then
    let _ ← sessionSet services [(key, .object (terminalRecord terminal))]
    let _ ← sessionRemove services [key]

def scrubInvalidWalKey (key : JsText) : Storing Unit := do
  if ← trustedStorage services then
    let _ ← sessionSet services
      [(key, .object [("version", .number pendingAutofillTransactionVersion), ("invalidated", .bool true)])]
    let _ ← sessionRemove services [key]

/-! ## Records of the first version -/

inductive LegacyState where
  | terminal (state : TerminalState)
  | captured | associated | saveNew | mutating | mutated | saveFailed
  deriving DecidableEq

def LegacyState.text : LegacyState → JsText
  | .terminal state => state.text
  | .captured => ofString "captured"
  | .associated => ofString "associated"
  | .saveNew => ofString "save_new"
  | .mutating => ofString "mutating"
  | .mutated => ofString "mutated"
  | .saveFailed => ofString "save_failed"

def legacyStateFromUnknown (value : Option JsValue) : Option LegacyState :=
  (asText value).bind fun text =>
    [LegacyState.terminal .persisted, .terminal .dismissed, .terminal .expired, .captured, .associated, .saveNew,
      .mutating, .mutated, .saveFailed].find? fun state => state.text = text

def TerminalState.outcome : TerminalState → CompletionOutcome
  | .persisted => .persisted
  | .dismissed => .dismissed
  | .expired => .expired

/-- What the records made from one of the first version have in common. -/
structure LegacyBase extends PendingAutofillBase where
  submittedAt : Int
  vaultId : JsText
  operationId : JsText
  recoveryDeadlineAt : Int

def LegacyBase.toRecord (base : LegacyBase) : JsRecord :=
  [("version", .number pendingAutofillTransactionVersion), ("transactionId", .string base.transactionId),
    ("tabId", .number base.tabId), ("origin", .string base.origin), ("submittedAt", integer base.submittedAt),
    ("vaultId", .string base.vaultId), ("operationId", .string base.operationId),
    ("recoveryDeadlineAt", integer base.recoveryDeadlineAt)]

def LegacyBase.executable (base : LegacyBase) (plan : PendingAutofillPlan) : PendingAutofillExecutable :=
  { base with plan }

def persistMigrated (key : JsText) (base : LegacyBase) (isPlanned : Bool) (plan : PendingAutofillPlan) :
    Storing PendingAutofillTransaction := do
  persistAtKey services key
    (base.toRecord ++ [stateField (if isPlanned then .planned else .persisting), ("plan", .object plan.toRecord)])
  return if isPlanned then .planned (base.executable plan) else .persisting (base.executable plan) none

def placeholderEntryId : JsText := ofString "00000000-0000-4000-8000-000000000001"

/-- The ids that match now, if they can be found. -/
def resolveCurrent (vaultId : JsText) (desiredFields : PendingAutofillDesiredFields) : Storing (Option (List JsText)) := do
  match services.findExactMatchingEntryIds with
  | none => return none
  | some find => return (find (← nextCall) vaultId desiredFields).bind fun value => normalizeCanonicalIds (some value)

/-- The entries that matched before the one that was created. -/
def matchingBefore (base : LegacyBase) (desiredFields : PendingAutofillDesiredFields) (createdEntryId : JsText) :
    Storing (List JsText) := do
  let current ← present (← resolveCurrent services base.vaultId desiredFields)
  return current.filter (· ≠ createdEntryId)

/-- The mutation is a create. -/
def migrateCreate (key : JsText) (base : LegacyBase) (state : LegacyState) (mutation : JsRecord) :
    Storing PendingAutofillTransaction := do
  demand (asText (mutation.lookup "mode") = some (ofString "create"))
  let baseline ← present (optional normalizeCanonicalIds (mutation.lookup "baselineMatchingEntryIds"))
  let createdEntryId := checked isCanonicalNonNilUuid (mutation.lookup "createdEntryId")
  let temporaryPlan ← present (pendingAutofillPlanFromUnknown services.toLibrary (some (.object (
    [("mode", text "create")] ++ given "parentGroupId" (mutation.lookup "parentGroupId") ++
      [("plannedEntryId", .string (createdEntryId.getD placeholderEntryId)),
        ("expectedMatchingEntryIds", .array ((baseline.getD []).map JsValue.string))] ++
      given "desiredFields" (mutation.lookup "desiredFields")))))
  match temporaryPlan with
  | .update _ _ _ => absent
  | .create parentGroupId _ _ desiredFields =>
      if state = .saveNew ∨ state = .associated then do
        let current ← present (← resolveCurrent services base.vaultId desiredFields)
        let plannedEntryId ← createId services
        demand (isCanonicalNonNilUuid plannedEntryId)
        persistMigrated services key base true (.create parentGroupId plannedEntryId current desiredFields)
      else
        match createdEntryId with
        | some createdEntryId => do
            let matching ← givenOr baseline (matchingBefore services base desiredFields createdEntryId)
            persistMigrated services key base false (.create parentGroupId createdEntryId matching desiredFields)
        | none => do
            demand (state = .mutating)
            let baseline ← present baseline
            let current ← present (← resolveCurrent services base.vaultId desiredFields)
            match current.filter (· ∉ baseline) with
            | [added] => persistMigrated services key base false (.create parentGroupId added baseline desiredFields)
            | _ => do
                persistAtKey services key (base.toRecord ++ [stateField .persistConflict, ("conflict",
                  .object (PendingAutofillPersistConflict.toRecord
                    { code := .legacyCreateOutcomeAmbiguous, retryable := false }))])
                return .legacyConflict base.toPendingAutofillBase base.submittedAt base.vaultId base.operationId
                  base.recoveryDeadlineAt

/-- The recovery begins now. -/
def recoveryDeadline (submittedAt : Int) : Storing Int := do
  let now ← readNow services
  return min (now + pendingAutofillRecoveryTtlMs) (submittedAt + pendingAutofillRecoveryTtlMs)

def migrateExecutable (key : JsText) (raw : JsRecord) (base : PendingAutofillBase) (submittedAt : Int)
    (state : LegacyState) : Storing PendingAutofillTransaction := do
  let vaultId ← present (checked isValidPendingAutofillVaultId (raw.lookup "vaultId"))
  let mutation ← present (asObject (raw.lookup "mutation"))
  let operationId ← givenOr (checked isValidPendingAutofillToken (raw.lookup "operationId")) (createId services)
  demand (isValidPendingAutofillToken operationId)
  let recoveryDeadlineAt ← recoveryDeadline services submittedAt
  let base : LegacyBase := { base with submittedAt, vaultId, operationId, recoveryDeadlineAt }
  if asText (mutation.lookup "mode") = some (ofString "update") then do
    demand (state ≠ .saveNew)
    let plan ← present (pendingAutofillPlanFromUnknown services.toLibrary (some (.object mutation)))
    persistMigrated services key base (state = .associated) plan
  else migrateCreate services key base state mutation

/-- The record is of the first version. -/
def migrateLegacy (raw : JsRecord) (tabId : Rat) (key : JsText) : Storing PendingAutofillTransaction := do
  let transactionId ← present (checked isValidPendingAutofillToken (raw.lookup "transactionId"))
  let submission ← present (pendingAutofillSubmissionFromUnknown services.toLibrary (some (.object raw)))
  let origin ← present (canonicalHttpOrigin services.toLibrary submission.url)
  demand (asNumber (raw.lookup "tabId") = some tabId)
  demand (asText (raw.lookup "origin") = some origin)
  let base : PendingAutofillBase := { transactionId, tabId, origin }
  match ← present (legacyStateFromUnknown (raw.lookup "state")) with
  | .terminal state => do
      let completion ← writeCompletion services transactionId state.outcome {
        operationId := checked isValidPendingAutofillToken (raw.lookup "operationId")
        vaultId := asText (raw.lookup "vaultId") }
      scrubWalKey services key (← terminalTransaction services base state completion.operationId none)
      absent
  | .captured => do
      let expiresAt ← present (safeInteger (raw.lookup "expiresAt"))
      demand (expiresAt = submission.submittedAt + pendingAutofillTransactionTtlMs)
      demand ((← readNow services) < expiresAt)
      persistAtKey services key
        [("version", .number pendingAutofillTransactionVersion), ("transactionId", .string transactionId),
          stateField .captured, ("tabId", .number tabId), ("origin", .string origin),
          ("submission", .object submission.toRecord), ("expiresAt", integer expiresAt)]
      return .captured base submission expiresAt
  | state => migrateExecutable services key raw base submission.submittedAt state

/-! ## Loading -/

def loadAtKeyUnqueued (key : JsText) (tabId : Rat) : Storing PendingAutofillTransaction := do
  demand (← trustedStorage services)
  let raw ← present (← sessionGet services key)
  demand (isPointerTombstone raw = false)
  if asNumber (raw.field "version") = some 1 then
    migrateLegacy services (← present (asObject (some raw))) tabId key
  else do
    let now ← readNow services
    let transaction ← present
      (pendingAutofillTransactionFromUnknown services.toLibrary raw tabId now pendingAutofillTransactionTtlMs)
    match transaction with
    | .terminal _ => absent
    | transaction =>
        match ← orNull (loadCompletionRecordUnqueued services transaction.base.transactionId) with
        | some completion => do
            scrubWalKey services key
              (← terminalTransaction services transaction.base .persisted completion.operationId completion.entryId)
            absent
        | none => return transaction

def loadForTabUnqueued (tabId : Rat) : Storing PendingAutofillTransaction :=
  loadAtKeyUnqueued services (pendingAutofillTransactionStorageKey services.toLibrary tabId) tabId

def loadRecoveryUnqueued (transactionId : JsText) : Storing PendingAutofillTransaction := do
  demand (← trustedStorage services)
  let key := pendingAutofillRecoveryStorageKey transactionId
  let raw ← sessionGet services key
  let tabId := (raw.bind fun raw => asNumber (raw.field "tabId")).getD (-1)
  let transaction ← loadAtKeyUnqueued services key tabId
  demand (transaction.base.transactionId = transactionId ∧ pendingAutofillStateIsRecoveryProtected transaction.state)
  return transaction

/-! ## Steps of a transaction -/

structure PersistBinding where
  transactionId : JsText
  operationId : JsText
  vaultId : JsText
  entryId : JsText

structure ConflictBinding extends PersistBinding where
  conflict : PendingAutofillPersistConflict

/-- What the client of the runtime lets through as a conflict on a plan. -/
def validConflictForPlan (plan : PendingAutofillPlan) (conflict : PendingAutofillPersistConflict) : Bool :=
  conflict.retryable = codeRetryable conflict.code &&
    match plan with
    | .update _ _ _ => conflict.code ≠ .createMatchingSetChanged && conflict.code ≠ .plannedEntryIdCollision &&
        conflict.code ≠ .legacyCreateOutcomeAmbiguous
    | .create _ _ _ _ => conflict.code ≠ .updatePreconditionFailed

/-- The object that is to be persisted again and the attempt on it so far. -/
def claimable : PendingAutofillTransaction → Option (PendingAutofillExecutable × Option PendingAutofillAttempt)
  | .planned executable => some (executable, none)
  | .persisting executable attempt => some (executable, attempt)
  | .persistConflict executable conflict => if conflict.retryable then some (executable, none) else none
  | _ => none

def leaseHolds (attempt : Option PendingAutofillAttempt) : Storing Bool :=
  match attempt with
  | some attempt => do return decide ((← readNow services) < attempt.leaseExpiresAt)
  | none => return false

def claimAtKey (key : JsText) (current : PendingAutofillTransaction) : Storing Unit := do
  let (executable, attempt) ← present (claimable current)
  demand ((← readNow services) < executable.recoveryDeadlineAt)
  if !(← leaseHolds services attempt) then
    let attemptId ← createId services
    demand (isValidPendingAutofillToken attemptId)
    let attemptCount := ((attempt.map (·.attemptCount)).getD 0) + 1
    let lastAttemptAt ← readNow services
    let leaseExpiresAt := (← readNow services) + pendingAutofillAttemptLeaseMs
    persistAtKey services key (JsRecord.spread current.toRecord (stateField .persisting ::
      PendingAutofillAttempt.toRecord { attemptId, attemptCount, lastAttemptAt, leaseExpiresAt }))

def boundTo (executable : PendingAutofillExecutable) (binding : PersistBinding) : Bool :=
  executable.transactionId = binding.transactionId && executable.operationId = binding.operationId &&
    executable.vaultId = binding.vaultId && expectedEntryId executable.plan = binding.entryId

def recordConflictAtKey (key : JsText) (current : Option PendingAutofillTransaction) (binding : ConflictBinding) :
    Storing Unit := do
  match current with
  | some (.persisting executable _) => do
      demand (boundTo executable binding.toPersistBinding)
      persistAtKey services key
        [("version", .number pendingAutofillTransactionVersion), ("transactionId", .string executable.transactionId),
          stateField .persistConflict, ("tabId", .number executable.tabId), ("origin", .string executable.origin),
          ("submittedAt", integer executable.submittedAt), ("vaultId", .string executable.vaultId),
          ("operationId", .string executable.operationId), ("plan", .object executable.plan.toRecord),
          ("recoveryDeadlineAt", integer executable.recoveryDeadlineAt),
          ("conflict", .object binding.conflict.toRecord)]
  | _ => absent

/-- A transaction whose outcome can be recorded. -/
def completable : PendingAutofillTransaction → Option PendingAutofillExecutable
  | .planned executable => some executable
  | .persisting executable _ => some executable
  | _ => none

def completeAtKey (key : JsText) (current : Option PendingAutofillTransaction) (binding : PersistBinding) :
    Storing Unit := do
  match (current.bind completable).filter fun executable => boundTo executable binding with
  | some executable => do
      let _ ← writeCompletion services binding.transactionId .persisted
        { operationId := some binding.operationId, vaultId := some binding.vaultId, entryId := some binding.entryId }
      scrubWalKey services key (← terminalTransaction services executable.toPendingAutofillBase .persisted
        (some binding.operationId) (some binding.entryId))
  | none => do
      let previous ← orNull (loadCompletionRecordUnqueued services binding.transactionId)
      let vaultIdHash ← present (← hashVaultId services binding.vaultId)
      let previous ← present previous
      demand (previous.outcome = .expiredUnknown ∧ previous.operationId = some binding.operationId ∧
        previous.entryId = some binding.entryId ∧ previous.vaultIdHash = some vaultIdHash)
      let _ ← writeCompletion services binding.transactionId .persisted
        { operationId := some binding.operationId, vaultId := some binding.vaultId, entryId := some binding.entryId }

/-- The operation and the vault of a transaction, if it has any. -/
def PendingAutofillTransaction.operation : PendingAutofillTransaction → Option JsText × Option JsText
  | .captured _ _ _ => (none, none)
  | .planned executable => (some executable.operationId, some executable.vaultId)
  | .persisting executable _ => (some executable.operationId, some executable.vaultId)
  | .persistConflict executable _ => (some executable.operationId, some executable.vaultId)
  | .legacyConflict _ _ vaultId operationId _ => (some operationId, some vaultId)
  | .terminal transaction => (transaction.operationId, none)

def terminalizeAtKey (key : JsText) (current : PendingAutofillTransaction) (state : TerminalState) : Storing Unit := do
  let operationId := current.operation.1
  let _ ← writeCompletion services current.base.transactionId state.outcome
    { operationId, vaultId := current.operation.2 }
  scrubWalKey services key (← terminalTransaction services current.base state operationId none)

/-- What a captured submission or a conflict is planned from: the vault it is bound to, its plan and its
times. -/
structure Plannable where
  vaultId : Option JsText := none
  plan : Option PendingAutofillPlan := none
  collided : Bool := false
  submittedAt : Int
  recoveryDeadlineAt : Option Int := none

def plannable : PendingAutofillTransaction → Option Plannable
  | .captured _ submission _ => some { submittedAt := submission.submittedAt }
  | .persistConflict executable conflict => some {
      vaultId := some executable.vaultId
      plan := some executable.plan
      collided := conflict.code = .plannedEntryIdCollision
      submittedAt := executable.submittedAt
      recoveryDeadlineAt := some executable.recoveryDeadlineAt }
  | .legacyConflict _ submittedAt vaultId _ recoveryDeadlineAt => some {
      vaultId := some vaultId
      submittedAt
      recoveryDeadlineAt := some recoveryDeadlineAt }
  | _ => none

structure PlanInput where
  vaultId : JsText
  plan : JsValue

def retainedPlannedEntryId (rawMode : Option JsText) (basis : Plannable) : Option JsText :=
  match basis.plan with
  | some (.create _ plannedEntryId _ _) =>
      if rawMode = some (ofString "create") ∧ basis.collided = false then some plannedEntryId else none
  | _ => none

def plannedEntryIdFor (preliminary : PendingAutofillPlan) (retained : Option JsText) : Storing (Option JsText) :=
  match preliminary with
  | .update _ _ _ => return none
  | .create _ _ _ _ => do
      let plannedEntryId ← givenOr retained (createId services)
      demand (isCanonicalNonNilUuid plannedEntryId)
      return some plannedEntryId

def planAtKey (key : JsText) (current : PendingAutofillTransaction) (transactionId : JsText) (input : PlanInput) :
    Storing Unit := do
  demand (isValidPendingAutofillVaultId input.vaultId)
  let base := current.base
  demand (base.transactionId = transactionId)
  let basis ← present (plannable current)
  demand (∀ vaultId ∈ basis.vaultId, input.vaultId = vaultId)
  let library := services.toLibrary
  let rawMode := asText (input.plan.field "mode")
  let retained := retainedPlannedEntryId rawMode basis
  let isCreate := rawMode = some (ofString "create")
  let preliminary ← present (pendingAutofillPlanInputFromUnknown library (some input.plan)
    (if isCreate then some (retained.getD placeholderEntryId) else none))
  demand (∀ url ∈ preliminary.urls, canonicalHttpOrigin library url = some base.origin)
  let comparablePlan := pendingAutofillPlanInputFromUnknown library (some input.plan) retained
  demand (∀ existingPlan ∈ basis.plan, ∀ comparable ∈ comparablePlan, plansEqual services existingPlan comparable = false)
  let operationId ← createId services
  demand (isCanonicalNonNilUuid operationId)
  let plannedEntryId ← plannedEntryIdFor services preliminary retained
  let plan ← present (pendingAutofillPlanInputFromUnknown library (some input.plan) plannedEntryId)
  let recoveryDeadlineAt ← givenOr basis.recoveryDeadlineAt (recoveryDeadline services basis.submittedAt)
  persistAtKey services key
    [("version", .number pendingAutofillTransactionVersion), ("transactionId", .string transactionId),
      stateField .planned, ("tabId", .number base.tabId), ("origin", .string base.origin),
      ("submittedAt", integer basis.submittedAt), ("vaultId", .string input.vaultId),
      ("operationId", .string operationId), ("plan", .object plan.toRecord),
      ("recoveryDeadlineAt", integer recoveryDeadlineAt)]

/-! ## Operations -/

def loadForTabUrl (tabId : Rat) (tabUrl : JsText) : Storing Unit := do
  let current ← loadForTabUnqueued services tabId
  if canonicalHttpOrigin services.toLibrary tabUrl ≠ some current.base.origin ∧
      !pendingAutofillStateIsRecoveryProtected current.state then
    terminalizeAtKey services (pendingAutofillTransactionStorageKey services.toLibrary tabId) current .dismissed

def putCaptured (tabId : Rat) (value : JsValue) : Storing Unit := do
  let session ← trustedStorage services
  let submission := pendingAutofillSubmissionFromUnknown services.toLibrary (some value)
  let currentTime ← readNow services
  demand session
  demand ((safeInteger (some (.number tabId))).isSome ∧ 0 ≤ tabId)
  let submission ← present submission
  let origin ← present (canonicalHttpOrigin services.toLibrary submission.url)
  demand (submission.submittedAt ≤ currentTime ∧
    currentTime < submission.submittedAt + pendingAutofillTransactionTtlMs)
  let existing ← orNull (loadForTabUnqueued services tabId)
  demand (∀ transaction ∈ existing, transaction.state = .captured)
  let transactionId ← createId services
  demand (isValidPendingAutofillToken transactionId)
  let captured : JsRecord :=
    [("version", .number pendingAutofillTransactionVersion), ("transactionId", .string transactionId),
      stateField .captured, ("tabId", .number tabId), ("origin", .string origin),
      ("submission", .object submission.toRecord),
      ("expiresAt", integer (submission.submittedAt + pendingAutofillTransactionTtlMs))]
  demand (pendingWalFits services (.object captured))
  let _ ← sessionSet services [(pendingAutofillTransactionStorageKey services.toLibrary tabId, .object captured)]

def detachForRecovery (tabId : Rat) (transactionId : JsText) : Storing Unit := do
  let session ← trustedStorage services
  let current ← loadForTabUnqueued services tabId
  demand (session ∧ current.base.transactionId = transactionId ∧
    pendingAutofillStateIsRecoveryProtected current.state)
  let key := pendingAutofillTransactionStorageKey services.toLibrary tabId
  demand (← sessionSet services
    [(pendingAutofillRecoveryStorageKey transactionId, .object current.toRecord),
      (key, .object [("version", .number pendingAutofillTransactionVersion),
        ("recoveryTransactionId", .string transactionId)])])
  let _ ← sessionRemove services [key]

def claimForTab (tabId : Rat) (transactionId : JsText) : Storing Unit := do
  let current ← loadForTabUnqueued services tabId
  demand (current.base.transactionId = transactionId)
  claimAtKey services (pendingAutofillTransactionStorageKey services.toLibrary tabId) current

def loadCompletion (transactionId : JsText) : Storing Unit := do
  let completion ← loadCompletionRecordUnqueued services transactionId
  if completion.expiresAt ≤ (← readNow services) then
    if ← trustedStorage services then
      let items ← sessionGetAll services
      if !storageHasTransactionWal items transactionId then
        let _ ← sessionRemove services [pendingAutofillCompletionStorageKey transactionId]

def dismissForTab (tabId : Rat) (transactionId : JsText) : Storing Unit := do
  let current ← loadForTabUnqueued services tabId
  demand (current.base.transactionId = transactionId ∧ current.state ≠ .persisting)
  terminalizeAtKey services (pendingAutofillTransactionStorageKey services.toLibrary tabId) current .dismissed

def dismissRecovery (transactionId : JsText) : Storing Unit := do
  let current ← loadRecoveryUnqueued services transactionId
  demand (current.state ≠ .persisting)
  terminalizeAtKey services (pendingAutofillRecoveryStorageKey transactionId) current .dismissed

/-- `listTabTransactions`, and with a filter `listProtectedTabTransactions`. -/
def listTabTransactions : Storing (List PendingAutofillTransaction) := do
  demand (← trustedStorage services)
  let items ← sessionGetAll services
  let loaded ← (items.filterMap fun item => tabIdFromStorageKey item.1).mapM fun tabId =>
    orNull (loadForTabUnqueued services tabId)
  return loaded.reduceOption

def listProtectedTabTransactions : Storing (List PendingAutofillTransaction) := do
  let transactions ← listTabTransactions services
  return transactions.filter fun transaction => pendingAutofillStateIsRecoveryProtected transaction.state

def listRecoveries : Storing (List PendingAutofillTransaction) := do
  demand (← trustedStorage services)
  let items ← sessionGetAll services
  let ids := (items.filterMap fun item => transactionIdFromRecoveryStorageKey item.1).filter (· ≠ [])
  let loaded ← ids.mapM fun transactionId => orNull (loadRecoveryUnqueued services transactionId)
  return loaded.reduceOption

def clearUnprotectedForTab (tabId : Rat) (transactionId : JsText) : Storing Unit := do
  let current ← loadForTabUnqueued services tabId
  demand (current.base.transactionId = transactionId ∧ !pendingAutofillStateIsRecoveryProtected current.state)
  terminalizeAtKey services (pendingAutofillTransactionStorageKey services.toLibrary tabId) current .dismissed

/-! ## Sweeps -/

/-- What is known of a record that may not be readable. -/
def rawBase (key : JsText) (value : JsValue) (transactionId : JsText) (otherwise : String) : PendingAutofillBase :=
  { transactionId
    tabId := (tabIdFromStorageKey key).getD ((asNumber (value.field "tabId")).getD (-1))
    origin := (asText (value.field "origin")).getD (ofString otherwise) }

def cleanupCompletedTransactions : Storing Unit := do
  demand (← trustedStorage services)
  let items ← sessionGetAll services
  items.forM fun (key, value) => do
    match checked isValidPendingAutofillToken (value.field "transactionId") with
    | some transactionId =>
        if isWalKey key then
          if (← orNull (loadCompletionRecordUnqueued services transactionId)).isSome then
            scrubWalKey services key (← terminalTransaction services
              (rawBase key value transactionId "https://completed.invalid") .persisted none none)
    | none => pure ()

def terminalOf : CompletionOutcome → TerminalState
  | .persisted => .persisted
  | .dismissed => .dismissed
  | .expiredUnknown => .expired
  | .expired => .expired

def sweepInvalid (deadline currentTime : Int) (key : JsText) : Storing Unit := do
  if deadline ≤ currentTime then scrubInvalidWalKey services key

/-- The record has expired and nobody works on it. -/
def expireItem (key : JsText) (value : JsValue) (transactionId : JsText) (operationId : Option JsText) : Storing Unit := do
  let completion ← orNull (writeCompletion services transactionId
    (if operationId.isSome then .expiredUnknown else .expired)
    { operationId, vaultId := asText (value.field "vaultId"), entryId := rawExpectedEntryId value })
  if completion.isSome then
    scrubWalKey services key (← terminalTransaction services
      (rawBase key value transactionId "https://expired.invalid") .expired operationId none)

/-- One record of `clearExpired`; the end of a lease that keeps it. -/
def sweepItem (activeClaims : List JsText) (currentTime : Int) (key : JsText) (value : JsValue) :
    Storing (Option Rat) := do
  match rawDeadline value currentTime with
  | none => return none
  | some deadline =>
      match checked isValidPendingAutofillToken (value.field "transactionId") with
      | none => do
          sweepInvalid services deadline currentTime key
          return none
      | some transactionId => do
          match ← orNull (loadCompletionRecordUnqueued services transactionId) with
          | some existing => do
              scrubWalKey services key (← terminalTransaction services
                (rawBase key value transactionId "https://completed.invalid") (terminalOf existing.outcome)
                existing.operationId existing.entryId)
              return none
          | none =>
              if currentTime < deadline then return none
              else
                let leaseExpiresAt := (asNumber (value.field "leaseExpiresAt")).getD 0
                let operationId := checked isValidPendingAutofillToken (value.field "operationId")
                if (∃ id ∈ operationId, transactionId ++ ofString ":" ++ id ∈ activeClaims) ∧
                    (currentTime : Rat) < leaseExpiresAt then
                  return some leaseExpiresAt
                else
                  expireItem services key value transactionId operationId
                  return none

/-- The receipts that have expired and whose transaction is gone. -/
def expiredCompletionKeys (items : StorageItems) (currentTime : Int) : List JsText :=
  items.filterMap fun item => do
    let transactionId ← transactionIdFromCompletionStorageKey item.1
    let completion ← completionRecordFromUnknown (some item.2) transactionId
    guard (transactionId ≠ [] ∧ completion.expiresAt ≤ currentTime ∧
      ¬ (isValidPendingAutofillToken transactionId ∧ storageHasTransactionWal items transactionId))
    return item.1

def removeExpired (currentTime : Int) : Storing Unit := do
  let after ← sessionGetAll services
  let expired := expiredCompletionKeys after currentTime
  if expired ≠ [] then
    let _ ← sessionRemove services expired

def clearExpired (activeClaims : List JsText) : Storing (List Rat) := do
  demand (← trustedStorage services)
  let items ← sessionGetAll services
  let currentTime ← readNow services
  let leases ← (items.filter fun item => isWalKey item.1).mapM fun item =>
    sweepItem services activeClaims currentTime item.1 item.2
  removeExpired services currentTime
  return leases.reduceOption

/-! ## Runs -/

inductive Operation where
  | loadForTab (tabId : Rat)
  | loadForTabUrl (tabId : Rat) (tabUrl : JsText)
  | putCaptured (tabId : Rat) (value : JsValue)
  | plan (tabId : Rat) (transactionId : JsText) (input : PlanInput)
  | claimForTab (tabId : Rat) (transactionId : JsText)
  | recordConflictForTab (tabId : Rat) (binding : ConflictBinding)
  | completeForTab (tabId : Rat) (binding : PersistBinding)
  | detachForRecovery (tabId : Rat) (transactionId : JsText)
  | loadRecovery (transactionId : JsText)
  | planRecovery (transactionId : JsText) (input : PlanInput)
  | claimRecovery (transactionId : JsText)
  | recordConflictRecovery (transactionId : JsText) (binding : ConflictBinding)
  | completeRecovery (transactionId : JsText) (binding : PersistBinding)
  | loadCompletion (transactionId : JsText)
  | dismissForTab (tabId : Rat) (transactionId : JsText)
  | dismissRecovery (transactionId : JsText)
  | listTabTransactions
  | listProtectedTabTransactions
  | listRecoveries
  | clearUnprotectedForTab (tabId : Rat) (transactionId : JsText)
  | cleanupCompletedTransactions
  | clearExpired (activeClaims : List JsText)

/-- A conflict that is recorded was returned by the runtime. -/
def Operation.FromRuntime : Operation → Prop
  | recordConflictForTab _ binding => ∃ plan, validConflictForPlan plan binding.conflict = true
  | recordConflictRecovery _ binding => ∃ plan, validConflictForPlan plan binding.conflict = true
  | _ => True

def Operation.perform : Operation → Storing Unit
  | loadForTab tabId => do let _ ← loadForTabUnqueued services tabId
  | loadForTabUrl tabId tabUrl => Pending.loadForTabUrl services tabId tabUrl
  | putCaptured tabId value => Pending.putCaptured services tabId value
  | plan tabId transactionId input => do
      planAtKey services (pendingAutofillTransactionStorageKey services.toLibrary tabId)
        (← loadForTabUnqueued services tabId) transactionId input
  | claimForTab tabId transactionId => Pending.claimForTab services tabId transactionId
  | recordConflictForTab tabId binding => do
      recordConflictAtKey services (pendingAutofillTransactionStorageKey services.toLibrary tabId)
        (← orNull (loadForTabUnqueued services tabId)) binding
  | completeForTab tabId binding => do
      completeAtKey services (pendingAutofillTransactionStorageKey services.toLibrary tabId)
        (← orNull (loadForTabUnqueued services tabId)) binding
  | detachForRecovery tabId transactionId => Pending.detachForRecovery services tabId transactionId
  | loadRecovery transactionId => do let _ ← loadRecoveryUnqueued services transactionId
  | planRecovery transactionId input => do
      planAtKey services (pendingAutofillRecoveryStorageKey transactionId)
        (← loadRecoveryUnqueued services transactionId) transactionId input
  | claimRecovery transactionId => do
      claimAtKey services (pendingAutofillRecoveryStorageKey transactionId) (← loadRecoveryUnqueued services transactionId)
  | recordConflictRecovery transactionId binding => do
      recordConflictAtKey services (pendingAutofillRecoveryStorageKey transactionId)
        (← orNull (loadRecoveryUnqueued services transactionId)) binding
  | completeRecovery transactionId binding => do
      completeAtKey services (pendingAutofillRecoveryStorageKey transactionId)
        (← orNull (loadRecoveryUnqueued services transactionId)) binding
  | loadCompletion transactionId => Pending.loadCompletion services transactionId
  | dismissForTab tabId transactionId => Pending.dismissForTab services tabId transactionId
  | dismissRecovery transactionId => Pending.dismissRecovery services transactionId
  | listTabTransactions => do let _ ← Pending.listTabTransactions services
  | listProtectedTabTransactions => do let _ ← Pending.listProtectedTabTransactions services
  | listRecoveries => do let _ ← Pending.listRecoveries services
  | clearUnprotectedForTab tabId transactionId => Pending.clearUnprotectedForTab services tabId transactionId
  | cleanupCompletedTransactions => Pending.cleanupCompletedTransactions services
  | clearExpired activeClaims => do let _ ← Pending.clearExpired services activeClaims

/-- One operation after the other. -/
def run (operations : List Operation) (world : World) : World :=
  operations.foldl (fun world operation => (operation.perform services world).2) world

end Store

end VaultKern.Pending
