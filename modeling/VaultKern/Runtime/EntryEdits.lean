import VaultKern.Runtime.Session

/-! # Edits of entries by the runtime

Each request chains several mutators of the core. `totpCode` computes one-time codes and
`decodeBase64Url` decodes text without padding; both are those of libraries.
-/

namespace VaultKern

open Attempt

section Edits

variable (totpCode : TotpSpec → Nat → Option String) (decodeBase64Url : String → Option (List UInt8))

/-! ## Times -/

def touchEntryModifiedAt (entryId : String) (modifiedAt : Nat) : VaultEdit Unit := do
  let _ ← core (updateEntryTimes entryId { modifiedAt := some modifiedAt })

def initializeEntryCreationTimes (entryId : String) (creationTime : Nat) : VaultEdit Unit := do
  ensure (creationTime < 2 ^ 63) (.message "creation time exceeds i64")
  let _ ← core (updateEntryExpiry entryId false (some creationTime))
  let _ ← core (updateEntryTimes entryId
    { createdAt := some creationTime
      modifiedAt := some creationTime
      lastAccessedAt := some (some creationTime)
      usageCount := some (some 0)
      locationChangedAt := some (some creationTime) })

/-! ## Creating -/

structure CreateEntryRequest where
  parentGroupId : String
  requestedEntryId : Option String
  title : String
  username : String
  password : String
  url : String
  notes : String
  totpUri : Option String

/-- The entry that a request describes, as the core creates it. -/
def CreateEntryRequest.create (request : CreateEntryRequest) : EntryCreate :=
  { title := request.title
    username := request.username
    password := request.password
    url := request.url
    notes := request.notes }

/-- An existing entry of the requested id is the one that the request describes. -/
def matchesRequest (request : CreateEntryRequest) (totp : Option TotpSpec) (entryId : String) (existing : Entry)
    (vault : Vault) : Bool :=
  let inRequestedParent := match findGroupById request.parentGroupId vault.root with
    | some group => group.entries.any fun entry => uuidToString entry.id = entryId
    | none => false
  inRequestedParent && existing.title = request.title && existing.username = request.username
    && existing.password = request.password && existing.url = request.url && existing.notes = request.notes
    && existing.totp = totp

def plannedIdCollision (entryId : String) : RuntimeError :=
  .message ("planned entry id collision: " ++ entryId ++ " does not match the requested entry")

/-- `drawn` and `coreNow` are the id that the core draws and its reading of the clock. -/
def addRequestedEntry (drawn : Uuid) (coreNow : Int) (modifiedAt : Nat) (request : CreateEntryRequest)
    (totp : Option TotpSpec) : VaultEdit String := do
  let created ← core (match request.requestedEntryId with
    | some entryId => addEntryWithId coreNow request.parentGroupId entryId request.create
    | none => addEntry drawn coreNow request.parentGroupId request.create)
  initializeEntryCreationTimes created.id modifiedAt
  match totp with
  | some totp =>
      let _ ← core (setEntryTotp created.id totp)
  | none => pure ()
  return created.id

/-- The entry that already has the requested id. -/
def requestedEntry (request : CreateEntryRequest) (vault : Vault) : Option (String × Entry) := do
  let entryId ← request.requestedEntryId
  let existing ← findEntryById entryId vault.root
  return (entryId, existing)

def createEntryIn (drawn : Uuid) (coreNow : Int) (modifiedAt : Nat) (request : CreateEntryRequest)
    (totp : Option TotpSpec) : VaultEdit String := do
  let vault ← get
  match requestedEntry request vault with
  | some (entryId, existing) =>
      ensure (matchesRequest request totp entryId existing vault) (plannedIdCollision entryId)
      return entryId
  | none => addRequestedEntry drawn coreNow modifiedAt request totp

def Runtime.createEntry (drawn : Uuid) (coreNow : Int) (vaultId : String) (request : CreateEntryRequest) :
    Runtime EntryDetailDto := do
  let modifiedAt := (← get).now
  let totp ← lift (parseTotpUri request.totpUri)
  let entryId ← onVault vaultId (createEntryIn drawn coreNow modifiedAt request totp)
  getEntryDetail totpCode vaultId entryId

/-! ## Updating -/

def readEntryTotp (entryId : String) : VaultEdit (Option TotpSpec) := do
  let entry ← core (readEntry entryId)
  return entry.totp

def updateTotp (entryId : String) (requested : Option TotpSpec) (hadProjectableTotp : Bool) : VaultEdit Unit := do
  match requested with
  | some totp =>
      let _ ← core (setEntryTotp entryId totp)
  | none =>
      if hadProjectableTotp then
        let _ ← core (clearEntryTotp entryId)

def deleteCustomFields (entryId : String) : List String → VaultEdit Unit
  | [] => pure ()
  | key :: rest => do
      let _ ← core (deleteEntryCustomField entryId key)
      deleteCustomFields entryId rest

/-- Fields with a blank key are passed over. -/
def upsertCustomFields (entryId : String) : List EntryCustomFieldDto → VaultEdit Unit
  | [] => pure ()
  | field :: rest => do
      if (trimText field.key).isEmpty then pure ()
      else
        let _ ← core (upsertEntryCustomField entryId
          { key := field.key, value := field.value, isProtected := field.isProtected })
      upsertCustomFields entryId rest

def replaceCustomFields (entryId : String) (customFields : List EntryCustomFieldDto) : VaultEdit Unit := do
  let existingKeys := (listEntryCustomFields (← core (readEntry entryId))).map (·.key)
  deleteCustomFields entryId (existingKeys.filter fun key => !(customFields.map (·.key)).contains key)
  upsertCustomFields entryId customFields

/-- The steps after the history snapshot and before the history limits. -/
def applyEntryFields (modifiedAt : Nat) (entryId : String) (fields : EntryFieldsDto)
    (requestedTotp : Option TotpSpec) (hadProjectableTotp : Bool) : VaultEdit Unit := do
  let _ ← core (updateEntryFields entryId
    { title := some fields.title
      username := some fields.username
      password := some fields.password
      url := some fields.url
      notes := some fields.notes })
  updateTotp entryId requestedTotp hadProjectableTotp
  replaceCustomFields entryId fields.customFields
  touchEntryModifiedAt entryId modifiedAt

/-- A snapshot of the entry, a change of it, and the history limits. -/
def editWithHistory (entryId : String) (change : VaultEdit Unit) : VaultEdit Unit := do
  let _ ← core (snapshotEntryToHistory entryId)
  change
  modify enforceHistoryLimits

def updateEntryFieldsIn (modifiedAt : Nat) (entryId : String) (fields : EntryFieldsDto)
    (requestedTotp : Option TotpSpec) : VaultEdit Unit := do
  let hadProjectableTotp := (← readEntryTotp entryId).isSome
  editWithHistory entryId (applyEntryFields modifiedAt entryId fields requestedTotp hadProjectableTotp)

def Runtime.updateEntryFields (vaultId entryId : String) (fields : EntryFieldsDto) : Runtime EntryDetailDto := do
  let modifiedAt := (← get).now
  let requestedTotp ← lift (parseTotpUri fields.totpUri)
  onVault vaultId (updateEntryFieldsIn modifiedAt entryId fields requestedTotp)
  getEntryDetail totpCode vaultId entryId

/-- What `compare_and_update_entry_fields` finds before it updates: nothing to do, or the entry as it
    is already, or a reason to go on. -/
inductive Comparison where
  | refused
  | already (detail : EntryDetailDto)
  | proceed

def compareEntryFields (vaultId entryId : String) (expectedFields desiredFields : EntryFieldsDto)
    (session : Session) : Comparison :=
  if session.activeVaultId ≠ some vaultId then .refused
  else match parseTotpUri desiredFields.totpUri, (getEntryDetail totpCode vaultId entryId session).1 with
    | .ok _, .ok current =>
        if !entryDetailMatchesFields current expectedFields then .refused
        else if expectedFields = desiredFields then .already current
        else .proceed
    | _, _ => .refused

def Runtime.compareAndUpdateEntryFields (vaultId entryId : String) (expectedFields desiredFields : EntryFieldsDto) :
    Runtime (Option EntryDetailDto) := do
  match compareEntryFields totpCode vaultId entryId expectedFields desiredFields (← get) with
  | .refused => return none
  | .already current => return some current
  | .proceed => some <$> Runtime.updateEntryFields totpCode vaultId entryId desiredFields

/-! ## Passkeys -/

structure EntryPasskeyUpdateDto where
  username : String
  credentialId : String
  generatedUserId : Option String
  relyingParty : String
  userHandle : Option String
  backupEligible : Bool
  backupState : Bool

mutual
/-- A group whose entry of that id has no passkey does not end the search. -/
def clonedEntryPasskeyById (entryId : String) : Group → Option PasskeyRecord
  | ⟨_, entries, children⟩ =>
      match entries.find? (namedEntry entryId) with
      | some entry => entry.passkey
      | none => clonedEntryPasskeyIn entryId children

def clonedEntryPasskeyIn (entryId : String) : List Group → Option PasskeyRecord
  | [] => none
  | child :: rest => (clonedEntryPasskeyById entryId child).or (clonedEntryPasskeyIn entryId rest)
end

def validatePasskeyCredentialId (credentialId : String) : Except RuntimeError Unit :=
  match decodeBase64Url credentialId with
  | none => .error (.message "invalid passkey credential id base64url")
  | some bytes =>
      if bytes.isEmpty then .error (.message "passkey credential id must not be empty") else .ok ()

def validatePasskeyUserHandle (userHandle : String) : Except RuntimeError Unit :=
  match decodeBase64Url userHandle with
  | none => .error (.message "invalid passkey user handle base64url")
  | some bytes =>
      if bytes.isEmpty || bytes.length > 64 then .error (.message "passkey user handle must be 1 to 64 bytes")
      else .ok ()

def applyPasskeyMetadataUpdate (passkey : EntryPasskeyUpdateDto) (existingPasskey : Option PasskeyRecord) :
    Except RuntimeError PasskeyRecord := do
  validatePasskeyCredentialId decodeBase64Url passkey.credentialId
  if let some userHandle := passkey.userHandle then validatePasskeyUserHandle decodeBase64Url userHandle
  let existing ← existingPasskey.elim
    (.error (.message "passkey metadata can only update an existing passkey")) Except.ok
  if (trimText existing.privateKeyPem).isEmpty then throw (.message "passkey private key material is empty")
  return {
    username := passkey.username
    credentialId := passkey.credentialId
    generatedUserId := passkey.generatedUserId
    privateKeyPem := existing.privateKeyPem
    relyingParty := passkey.relyingParty
    userHandle := passkey.userHandle
    backupEligible := passkey.backupEligible
    backupState := passkey.backupState }

mutual
def entryHasCustomDataKey (entryId key : String) : Group → Bool
  | ⟨_, entries, children⟩ =>
      (entries.find? (namedEntry entryId)).any (fun entry => entry.customData.contains key)
        || childHasCustomDataKey entryId key children

def childHasCustomDataKey (entryId key : String) : List Group → Bool
  | [] => false
  | child :: rest => entryHasCustomDataKey entryId key child || childHasCustomDataKey entryId key rest
end

def platformPasskeyLabels : List String :=
  ["VaultKern.PlatformPasskey.RelyingPartyName", "VaultKern.PlatformPasskey.UserDisplayName"]

/-- `clear_platform_passkey_display_labels`, for the labels that are left. -/
def clearPasskeyLabels (entryId : String) : List String → VaultEdit Unit
  | [] => pure ()
  | key :: rest => do
      if entryHasCustomDataKey entryId key (← get).root then
        let _ ← core (deleteEntryCustomData entryId key)
      clearPasskeyLabels entryId rest

def applyPasskey (modifiedAt : Nat) (entryId : String) (passkey : PasskeyRecord) : VaultEdit Unit := do
  clearPasskeyLabels entryId platformPasskeyLabels
  let _ ← core (setEntryPasskey entryId passkey)
  touchEntryModifiedAt entryId modifiedAt

def setEntryPasskeyIn (modifiedAt : Nat) (entryId : String) (update : EntryPasskeyUpdateDto) : VaultEdit Unit := do
  let existingPasskey := clonedEntryPasskeyById entryId (← get).root
  let passkey ← lift (applyPasskeyMetadataUpdate decodeBase64Url update existingPasskey)
  editWithHistory entryId (applyPasskey modifiedAt entryId passkey)

def Runtime.setEntryPasskey (vaultId entryId : String) (update : EntryPasskeyUpdateDto) : Runtime EntryDetailDto := do
  let modifiedAt := (← get).now
  onVault vaultId (setEntryPasskeyIn decodeBase64Url modifiedAt entryId update)
  getEntryDetail totpCode vaultId entryId

end Edits

end VaultKern
