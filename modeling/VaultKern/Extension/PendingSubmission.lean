import VaultKern.Lib.JsValue
import VaultKern.Extension.PageFields

/-! # Pending submissions

What the extension remembers of a submitted login until it is saved, and how a stored record of it is read.
-/

namespace VaultKern.Pending

open Filling (JsText isBlankUnit)
open JsValue Utf16

/-! ## Origins -/

/-- What is read of a `URL`. -/
structure Url where
  protocol : JsText
  hostname : JsText
  port : JsText
  deriving DecidableEq

structure Library where
  newUrl : JsText → Option Url
  toLowerCase : JsText → JsText
  /-- `Number.prototype.toString`. -/
  numberText : Rat → JsText

def canonicalHostname (url : Url) : Option JsText :=
  let hostname := if url.hostname.getLast? = some 46 then url.hostname.dropLast else url.hostname
  if hostname = [] ∨ hostname.getLast? = some 46 then none else some hostname

def originText (protocol hostname port : JsText) : JsText :=
  protocol ++ ofString "//" ++ hostname ++ if port = [] then [] else ofString ":" ++ port

/-- The origin of `parseCanonicalHttpUrl`. -/
def canonicalHttpOrigin (library : Library) (value : JsText) : Option JsText :=
  if value = [] ∨ value.trim ≠ value then none
  else do
    let url ← library.newUrl value
    guard (url.protocol = ofString "http:" ∨ url.protocol = ofString "https:")
    let hostname ← canonicalHostname url
    return originText url.protocol hostname url.port

/-! ## Records -/

def pendingAutofillTransactionVersion : Rat := 2

def pendingAutofillRecoveryTtlMs : Int := 15 * 60 * 1000

structure PendingAutofillSubmission where
  url : JsText
  username : JsText
  password : JsText
  newPassword : Option JsText := none
  saveOnly : Bool := false
  submittedAt : Int

structure PendingAutofillCustomField where
  key : JsText
  value : JsText
  isProtected : Bool

structure PendingAutofillDesiredFields where
  title : JsText
  username : JsText
  password : JsText
  url : JsText
  notes : JsText
  totpUri : Option JsText
  customFields : List PendingAutofillCustomField

structure PendingAutofillUpdateFields where
  username : JsText
  password : JsText
  url : JsText

inductive PendingAutofillPlan where
  | update (entryId : JsText) (expectedFields desiredFields : PendingAutofillUpdateFields)
  | create (parentGroupId plannedEntryId : JsText) (expectedMatchingEntryIds : List JsText)
      (desiredFields : PendingAutofillDesiredFields)

inductive PersistConflictCode where
  | activeVaultMismatch | updatePreconditionFailed | createMatchingSetChanged | plannedEntryIdCollision
  | operationBindingMismatch | sourceChangedRetryExhausted | legacyCreateOutcomeAmbiguous | concurrentVaultChanges
  deriving DecidableEq

structure PendingAutofillPersistConflict where
  code : PersistConflictCode
  retryable : Bool
  deriving DecidableEq

structure PendingAutofillBase where
  transactionId : JsText
  tabId : Rat
  origin : JsText

structure PendingAutofillExecutable extends PendingAutofillBase where
  submittedAt : Int
  vaultId : JsText
  operationId : JsText
  plan : PendingAutofillPlan
  recoveryDeadlineAt : Int

structure PendingAutofillAttempt where
  attemptId : JsText
  attemptCount : Int
  lastAttemptAt : Int
  leaseExpiresAt : Int

inductive TerminalState where
  | persisted | dismissed | expired
  deriving DecidableEq

structure PendingAutofillTerminal extends PendingAutofillBase where
  state : TerminalState
  operationId : Option JsText
  entryId : Option JsText
  completedAt : Int

inductive PendingAutofillTransaction where
  | captured (base : PendingAutofillBase) (submission : PendingAutofillSubmission) (expiresAt : Int)
  | planned (executable : PendingAutofillExecutable)
  | persisting (executable : PendingAutofillExecutable) (attempt : Option PendingAutofillAttempt)
  | persistConflict (executable : PendingAutofillExecutable) (conflict : PendingAutofillPersistConflict)
  /-- A create without a plan, whose outcome is not known. -/
  | legacyConflict (base : PendingAutofillBase) (submittedAt : Int) (vaultId operationId : JsText)
      (recoveryDeadlineAt : Int)
  | terminal (transaction : PendingAutofillTerminal)

/-! ## States and codes -/

inductive PendingState where
  | captured | planned | persisting | persistConflict
  | terminal (state : TerminalState)
  deriving DecidableEq

def TerminalState.text : TerminalState → JsText
  | .persisted => ofString "persisted"
  | .dismissed => ofString "dismissed"
  | .expired => ofString "expired"

def PendingState.text : PendingState → JsText
  | .captured => ofString "captured"
  | .planned => ofString "planned"
  | .persisting => ofString "persisting"
  | .persistConflict => ofString "persist_conflict"
  | .terminal state => state.text

def pendingStates : List PendingState :=
  [.captured, .terminal .persisted, .terminal .dismissed, .terminal .expired, .planned, .persisting, .persistConflict]

def stateFromUnknown (value : Option JsValue) : Option PendingState :=
  (asText value).bind fun text => pendingStates.find? fun state => state.text = text

def PersistConflictCode.text : PersistConflictCode → JsText
  | .activeVaultMismatch => ofString "active_vault_mismatch"
  | .updatePreconditionFailed => ofString "update_precondition_failed"
  | .createMatchingSetChanged => ofString "create_matching_set_changed"
  | .plannedEntryIdCollision => ofString "planned_entry_id_collision"
  | .operationBindingMismatch => ofString "operation_binding_mismatch"
  | .sourceChangedRetryExhausted => ofString "source_changed_retry_exhausted"
  | .legacyCreateOutcomeAmbiguous => ofString "legacy_create_outcome_ambiguous"
  | .concurrentVaultChanges => ofString "concurrent_vault_changes"

def persistConflictCodes : List PersistConflictCode :=
  [.activeVaultMismatch, .updatePreconditionFailed, .createMatchingSetChanged, .plannedEntryIdCollision,
    .operationBindingMismatch, .sourceChangedRetryExhausted, .legacyCreateOutcomeAmbiguous, .concurrentVaultChanges]

/-! ## Checks of texts -/

def nilUuid : JsText := ofString "00000000-0000-0000-0000-000000000000"

def isHexUnit (unit : UInt16) : Bool := (48 ≤ unit && unit ≤ 57) || (97 ≤ unit && unit ≤ 102)

/-- `CANONICAL_UUID`. -/
def isCanonicalUuid (text : JsText) : Bool :=
  text.length = 36 && text.zipIdx.all fun place =>
    if place.2 = 8 ∨ place.2 = 13 ∨ place.2 = 18 ∨ place.2 = 23 then place.1 = 45 else isHexUnit place.1

def isCanonicalNonNilUuid (value : JsText) : Bool := value ≠ nilUuid && isCanonicalUuid value

def boundedUtf8Length (value : JsText) (maximum : Nat) : Option Nat :=
  if value.length > maximum || !wellFormed value then none
  else if utf8Length value ≤ maximum then some (utf8Length value) else none

def isControl (unit : UInt16) : Bool := unit ≤ 0x1f || unit = 0x7f

def isValidPendingAutofillToken (value : JsText) : Bool :=
  16 ≤ value.length && value.length ≤ 128 && value.trim = value && (boundedUtf8Length value 128).isSome &&
    !value.any isControl

def maxFieldBytes : Nat := 1048576
def maxTotpUriBytes : Nat := 8 * 1024
def maxCustomKeyBytes : Nat := 256
def maxCustomFields : Nat := 128
def maxEntryFieldsBytes : Nat := 8 * 1024 * 1024
def maxMatchingEntryIds : Nat := 4096
def maxVaultIdBytes : Nat := 4 * 1024

def isValidPendingAutofillVaultId (value : JsText) : Bool :=
  value ≠ [] && value.trim = value && !value.any isControl && (boundedUtf8Length value maxVaultIdBytes).isSome

/-- The two halves of a pair are in a text together. -/
def isXml10Text (value : JsText) : Bool :=
  wellFormed value && value.all fun unit =>
    unit = 9 || unit = 10 || unit = 13 || (0x20 ≤ unit && unit ≤ 0xfffd)

def reservedCustomFieldKeys : List JsText :=
  [ofString "title", ofString "username", ofString "password", ofString "url", ofString "notes"]

/-- A text that passes a check. -/
def checked (check : JsText → Bool) (value : Option JsValue) : Option JsText := (asText value).filter check

/-- A field that may be missing. -/
def optional {A : Type} (read : Option JsValue → Option A) (value : Option JsValue) : Option (Option A) :=
  match value with
  | none => some none
  | some value => (read (some value)).map some

/-! ## Plans -/

section Parsing

variable (library : Library)

def customKeyAllowed (key : JsText) : Bool :=
  key ≠ [] && key.trim = key && !key.any (fun unit => unit < 0x20 || (0x7f ≤ unit && unit ≤ 0x9f)) &&
    isXml10Text key && !reservedCustomFieldKeys.contains (library.toLowerCase key)

def customFieldsFromUnknown : List JsValue → List JsText → Nat → Option (List PendingAutofillCustomField)
  | [], _, _ => some []
  | field :: rest, customFieldKeys, totalBytes => do
      let custom ← asObject (some field)
      let key ← asText (custom.lookup "key")
      let value ← asText (custom.lookup "value")
      let isProtected ← asBool (custom.lookup "protected")
      let keyBytes ← boundedUtf8Length key maxCustomKeyBytes
      let valueBytes ← boundedUtf8Length value maxFieldBytes
      guard (customKeyAllowed library key ∧ key ∉ customFieldKeys)
      guard (totalBytes + (keyBytes + valueBytes) ≤ maxEntryFieldsBytes)
      let others ← customFieldsFromUnknown rest (key :: customFieldKeys) (totalBytes + (keyBytes + valueBytes))
      return { key, value, isProtected } :: others

/-- A text or `null`. -/
def totpUriFromUnknown : Option JsValue → Option (Option JsText)
  | some .null => some none
  | value => (asText value).map some

def entryFieldsFromUnknown (value : Option JsValue) : Option PendingAutofillDesiredFields := do
  let candidate ← asObject value
  let title ← asText (candidate.lookup "title")
  let username ← asText (candidate.lookup "username")
  let password ← asText (candidate.lookup "password")
  guard (password ≠ [])
  let url ← asText (candidate.lookup "url")
  let notes ← asText (candidate.lookup "notes")
  let totpUri ← totpUriFromUnknown (candidate.lookup "totpUri")
  let customFields ← asArray (candidate.lookup "customFields")
  let sizes ← [title, username, password, url, notes].mapM (boundedUtf8Length · maxFieldBytes)
  guard ((canonicalHttpOrigin library url).isSome)
  let totpBytes ← totpUri.toList.mapM (boundedUtf8Length · maxTotpUriBytes)
  let totalBytes := sizes.sum + totpBytes.sum
  guard (customFields.length ≤ maxCustomFields ∧ totalBytes ≤ maxEntryFieldsBytes)
  let customFields ← customFieldsFromUnknown library customFields [] totalBytes
  return { title, username, password, url, notes, totpUri, customFields }

def updateFieldsFromUnknown (value : Option JsValue) (allowEmptyPassword rejectUnknownFields : Bool) :
    Option PendingAutofillUpdateFields := do
  let candidate ← asObject value
  guard (rejectUnknownFields → ∀ f ∈ candidate, f.1 = "username" ∨ f.1 = "password" ∨ f.1 = "url")
  let username ← asText (candidate.lookup "username")
  let password ← asText (candidate.lookup "password")
  guard (allowEmptyPassword ∨ password ≠ [])
  let url ← asText (candidate.lookup "url")
  guard ((canonicalHttpOrigin library url).isSome)
  guard (∀ field ∈ [username, password, url], (boundedUtf8Length field maxFieldBytes).isSome)
  return { username, password, url }

/-- Distinct canonical ids. -/
def entryIdsFromUnknown : List JsValue → List JsText → Option (List JsText)
  | [], _ => some []
  | item :: rest, uniqueIds => do
      let entryId ← checked isCanonicalNonNilUuid (some item)
      guard (entryId ∉ uniqueIds)
      let others ← entryIdsFromUnknown rest (entryId :: uniqueIds)
      return entryId :: others

/-- `Array.prototype.sort`, by code units. -/
def sortIds (ids : List JsText) : List JsText := ids.insertionSort (· ≤ ·)

/-- `normalizeCanonicalIds`. -/
def normalizeCanonicalIds (value : Option JsValue) : Option (List JsText) := do
  let items ← asArray value
  guard (items.length ≤ maxMatchingEntryIds)
  let ids ← entryIdsFromUnknown items []
  return sortIds ids

def updatePlanFromUnknown (candidate : JsRecord) (rejectUnknownFields : Bool) : Option PendingAutofillPlan := do
  let expectedFields ← updateFieldsFromUnknown library (candidate.lookup "expectedFields") true rejectUnknownFields
  let desiredFields ← updateFieldsFromUnknown library (candidate.lookup "desiredFields") false rejectUnknownFields
  let entryId ← checked isCanonicalNonNilUuid (candidate.lookup "entryId")
  return .update entryId expectedFields desiredFields

def createPlanFromUnknown (candidate : JsRecord) : Option PendingAutofillPlan := do
  let desiredFields ← entryFieldsFromUnknown library (candidate.lookup "desiredFields")
  guard (asText (candidate.lookup "mode") = some (ofString "create"))
  let parentGroupId ← checked isCanonicalNonNilUuid (candidate.lookup "parentGroupId")
  let plannedEntryId ← checked isCanonicalNonNilUuid (candidate.lookup "plannedEntryId")
  let matchingIds ← normalizeCanonicalIds (candidate.lookup "expectedMatchingEntryIds")
  return .create parentGroupId plannedEntryId matchingIds desiredFields

def pendingAutofillPlanFromUnknown (value : Option JsValue) : Option PendingAutofillPlan := do
  let candidate ← asObject value
  if asText (candidate.lookup "mode") = some (ofString "update") then updatePlanFromUnknown library candidate false
  else createPlanFromUnknown library candidate

/-- The plan with an entry that is to be created, where one is given. -/
def withPlannedEntryId (candidate : JsRecord) (plannedEntryId : Option JsText) : JsRecord :=
  match plannedEntryId with
  | some id => JsRecord.set candidate "plannedEntryId" (.string id)
  | none => candidate

def pendingAutofillPlanInputFromUnknown (value : Option JsValue) (plannedEntryId : Option JsText) :
    Option PendingAutofillPlan := do
  let candidate ← asObject value
  if asText (candidate.lookup "mode") = some (ofString "update") then updatePlanFromUnknown library candidate true
  else pendingAutofillPlanFromUnknown library (some (.object (withPlannedEntryId candidate plannedEntryId)))

/-! ## Submissions and conflicts -/

def pendingAutofillSubmissionFromUnknown (value : Option JsValue) : Option PendingAutofillSubmission := do
  let candidate ← asObject value
  let url ← asText (candidate.lookup "url")
  let username ← asText (candidate.lookup "username")
  let password ← asText (candidate.lookup "password")
  guard (password ≠ [])
  let newPassword ← optional asText (candidate.lookup "newPassword")
  let saveOnly ← optional asBool (candidate.lookup "saveOnly")
  let submittedAt ← safeInteger (candidate.lookup "submittedAt")
  guard (0 ≤ submittedAt)
  guard (∀ field ∈ [url, username, password] ++ newPassword.toList, (boundedUtf8Length field maxFieldBytes).isSome)
  guard (Filling.JsText.trim url ≠ [])
  guard ((canonicalHttpOrigin library url).isSome)
  return {
    url, username, password, submittedAt
    newPassword := newPassword.filter (· ≠ [])
    saveOnly := saveOnly = some true }

def codeRetryable (code : PersistConflictCode) : Bool :=
  code = .activeVaultMismatch || code = .sourceChangedRetryExhausted

def conflictFromUnknown (value : Option JsValue) : Option PendingAutofillPersistConflict := do
  let candidate ← asObject value
  let code ← (asText (candidate.lookup "code")).bind fun text => persistConflictCodes.find? fun code => code.text = text
  let retryable ← asBool (candidate.lookup "retryable")
  guard (retryable = codeRetryable code)
  return { code, retryable }

/-! ## Transactions -/

def baseFromUnknown (candidate : JsRecord) (expectedTabId : Rat) : Option PendingAutofillBase := do
  guard (asNumber (candidate.lookup "version") = some pendingAutofillTransactionVersion)
  let transactionId ← checked isValidPendingAutofillToken (candidate.lookup "transactionId")
  guard (asNumber (candidate.lookup "tabId") = some expectedTabId)
  let origin ← asText (candidate.lookup "origin")
  guard (canonicalHttpOrigin library origin = some origin)
  return { transactionId, origin, tabId := expectedTabId }

def capturedFromUnknown (candidate : JsRecord) (base : PendingAutofillBase) (now expectedCaptureTtlMs : Int) :
    Option PendingAutofillTransaction := do
  let submission ← pendingAutofillSubmissionFromUnknown library (candidate.lookup "submission")
  guard (canonicalHttpOrigin library submission.url = some base.origin)
  guard (submission.submittedAt ≤ now)
  let expiresAt ← safeInteger (candidate.lookup "expiresAt")
  guard (expiresAt = submission.submittedAt + expectedCaptureTtlMs)
  guard (now < expiresAt)
  return .captured base submission expiresAt

def terminalFromUnknown (candidate : JsRecord) (base : PendingAutofillBase) (state : TerminalState) :
    Option PendingAutofillTransaction := do
  let completedAt ← safeInteger (candidate.lookup "completedAt")
  return .terminal {
    base with
    state, completedAt
    operationId := checked isValidPendingAutofillToken (candidate.lookup "operationId")
    entryId := checked isCanonicalNonNilUuid (candidate.lookup "entryId") }

def PendingAutofillPlan.urls : PendingAutofillPlan → List JsText
  | .update _ expectedFields desiredFields => [desiredFields.url, expectedFields.url]
  | .create _ _ _ desiredFields => [desiredFields.url]

def attemptFromUnknown (candidate : JsRecord) : Option (Option PendingAutofillAttempt) :=
  if ∃ name ∈ ["attemptId", "attemptCount", "lastAttemptAt", "leaseExpiresAt"], (candidate.lookup name).isSome then do
    let attemptId ← checked isValidPendingAutofillToken (candidate.lookup "attemptId")
    let attemptCount ← safeInteger (candidate.lookup "attemptCount")
    guard (1 ≤ attemptCount)
    let lastAttemptAt ← safeInteger (candidate.lookup "lastAttemptAt")
    let leaseExpiresAt ← safeInteger (candidate.lookup "leaseExpiresAt")
    return some { attemptId, attemptCount, lastAttemptAt, leaseExpiresAt }
  else some none

/-- What the state adds to a record with a plan. -/
def inState (candidate : JsRecord) (executable : PendingAutofillExecutable) (state : PendingState) :
    Option PendingAutofillTransaction :=
  match state with
  | .planned => some (.planned executable)
  | .persistConflict => (conflictFromUnknown (candidate.lookup "conflict")).map (.persistConflict executable)
  | _ => (attemptFromUnknown candidate).map (.persisting executable)

/-- A record that is planned, persisting or in conflict. -/
def executableFromUnknown (candidate : JsRecord) (base : PendingAutofillBase) (state : PendingState) (now : Int) :
    Option PendingAutofillTransaction := do
  let submittedAt ← safeInteger (candidate.lookup "submittedAt")
  guard (0 ≤ submittedAt ∧ submittedAt ≤ now)
  let recoveryDeadlineAt ← safeInteger (candidate.lookup "recoveryDeadlineAt")
  guard (submittedAt ≤ recoveryDeadlineAt ∧ recoveryDeadlineAt ≤ submittedAt + pendingAutofillRecoveryTtlMs)
  let operationId ← checked isValidPendingAutofillToken (candidate.lookup "operationId")
  let vaultId ← checked isValidPendingAutofillVaultId (candidate.lookup "vaultId")
  let conflict := conflictFromUnknown (candidate.lookup "conflict")
  match pendingAutofillPlanFromUnknown library (candidate.lookup "plan") with
  | none =>
      guard (state = .persistConflict ∧ conflict = some { code := .legacyCreateOutcomeAmbiguous, retryable := false })
      return .legacyConflict base submittedAt vaultId operationId recoveryDeadlineAt
  | some plan =>
      guard (∀ url ∈ plan.urls, canonicalHttpOrigin library url = some base.origin)
      inState candidate { base with submittedAt, vaultId, operationId, plan, recoveryDeadlineAt } state

def pendingAutofillTransactionFromUnknown (value : JsValue) (expectedTabId : Rat) (now expectedCaptureTtlMs : Int) :
    Option PendingAutofillTransaction := do
  let candidate ← asObject (some value)
  let base ← baseFromUnknown library candidate expectedTabId
  match ← stateFromUnknown (candidate.lookup "state") with
  | .captured => capturedFromUnknown library candidate base now expectedCaptureTtlMs
  | .terminal state => terminalFromUnknown candidate base state
  | state => executableFromUnknown library candidate base state now

end Parsing

/-! ## Objects -/

def PendingAutofillSubmission.toRecord (submission : PendingAutofillSubmission) : JsRecord :=
  [("url", .string submission.url), ("username", .string submission.username),
    ("password", .string submission.password)] ++
    (submission.newPassword.map fun text => ("newPassword", JsValue.string text)).toList ++
    (if submission.saveOnly then [("saveOnly", JsValue.bool true)] else []) ++
    [("submittedAt", integer submission.submittedAt)]

def PendingAutofillCustomField.toRecord (field : PendingAutofillCustomField) : JsRecord :=
  [("key", .string field.key), ("value", .string field.value), ("protected", .bool field.isProtected)]

def PendingAutofillDesiredFields.toRecord (fields : PendingAutofillDesiredFields) : JsRecord :=
  [("title", .string fields.title), ("username", .string fields.username), ("password", .string fields.password),
    ("url", .string fields.url), ("notes", .string fields.notes),
    ("totpUri", (fields.totpUri.map JsValue.string).getD .null),
    ("customFields", .array (fields.customFields.map fun field => .object field.toRecord))]

def PendingAutofillUpdateFields.toRecord (fields : PendingAutofillUpdateFields) : JsRecord :=
  [("username", .string fields.username), ("password", .string fields.password), ("url", .string fields.url)]

def PendingAutofillPlan.toRecord : PendingAutofillPlan → JsRecord
  | .update entryId expectedFields desiredFields =>
      [("mode", text "update"), ("entryId", .string entryId), ("expectedFields", .object expectedFields.toRecord),
        ("desiredFields", .object desiredFields.toRecord)]
  | .create parentGroupId plannedEntryId expectedMatchingEntryIds desiredFields =>
      [("mode", text "create"), ("parentGroupId", .string parentGroupId), ("plannedEntryId", .string plannedEntryId),
        ("expectedMatchingEntryIds", .array (expectedMatchingEntryIds.map JsValue.string)),
        ("desiredFields", .object desiredFields.toRecord)]

def PendingAutofillPersistConflict.toRecord (conflict : PendingAutofillPersistConflict) : JsRecord :=
  [("code", .string conflict.code.text), ("retryable", .bool conflict.retryable)]

def PendingAutofillBase.toRecord (base : PendingAutofillBase) : JsRecord :=
  [("version", .number pendingAutofillTransactionVersion), ("transactionId", .string base.transactionId),
    ("tabId", .number base.tabId), ("origin", .string base.origin)]

def PendingAutofillExecutable.toRecord (executable : PendingAutofillExecutable) : JsRecord :=
  executable.toPendingAutofillBase.toRecord ++
    [("submittedAt", integer executable.submittedAt), ("vaultId", .string executable.vaultId),
      ("operationId", .string executable.operationId), ("plan", .object executable.plan.toRecord),
      ("recoveryDeadlineAt", integer executable.recoveryDeadlineAt)]

def PendingAutofillAttempt.toRecord (attempt : PendingAutofillAttempt) : JsRecord :=
  [("attemptId", .string attempt.attemptId), ("attemptCount", integer attempt.attemptCount),
    ("lastAttemptAt", integer attempt.lastAttemptAt), ("leaseExpiresAt", integer attempt.leaseExpiresAt)]

def stateField (state : PendingState) : String × JsValue := ("state", .string state.text)

/-- The object that the reader returns. -/
def PendingAutofillTransaction.toRecord : PendingAutofillTransaction → JsRecord
  | .captured base submission expiresAt =>
      base.toRecord ++ [stateField .captured, ("submission", .object submission.toRecord), ("expiresAt", integer expiresAt)]
  | .planned executable => executable.toRecord ++ [stateField .planned]
  | .persisting executable attempt =>
      executable.toRecord ++ stateField .persisting :: (attempt.map PendingAutofillAttempt.toRecord).getD []
  | .persistConflict executable conflict =>
      executable.toRecord ++ [stateField .persistConflict, ("conflict", .object conflict.toRecord)]
  | .legacyConflict base submittedAt vaultId operationId recoveryDeadlineAt =>
      base.toRecord ++
        [stateField .persistConflict, ("submittedAt", integer submittedAt), ("vaultId", .string vaultId),
          ("operationId", .string operationId), ("recoveryDeadlineAt", integer recoveryDeadlineAt),
          ("conflict", .object (PendingAutofillPersistConflict.toRecord
            { code := .legacyCreateOutcomeAmbiguous, retryable := false }))]
  | .terminal transaction =>
      transaction.toPendingAutofillBase.toRecord ++ stateField (.terminal transaction.state) ::
        ((transaction.operationId.map fun id => ("operationId", JsValue.string id)).toList ++
          (transaction.entryId.map fun id => ("entryId", JsValue.string id)).toList ++
          [("completedAt", integer transaction.completedAt)])

def PendingAutofillTransaction.base : PendingAutofillTransaction → PendingAutofillBase
  | .captured base _ _ => base
  | .planned executable => executable.toPendingAutofillBase
  | .persisting executable _ => executable.toPendingAutofillBase
  | .persistConflict executable _ => executable.toPendingAutofillBase
  | .legacyConflict base _ _ _ _ => base
  | .terminal transaction => transaction.toPendingAutofillBase

def PendingAutofillTransaction.state : PendingAutofillTransaction → PendingState
  | .captured _ _ _ => .captured
  | .planned _ => .planned
  | .persisting _ _ => .persisting
  | .persistConflict _ _ => .persistConflict
  | .legacyConflict _ _ _ _ _ => .persistConflict
  | .terminal transaction => .terminal transaction.state

def pendingAutofillStateIsRecoveryProtected (state : PendingState) : Bool :=
  state = .planned || state = .persisting || state = .persistConflict

end VaultKern.Pending
