import VaultKern.Passkey.Signing
import VaultKern.Runtime.EntryEdits

/-! # Requests of a ceremony

User verification, reading credentials, signing, and the registration of a new passkey: the
vault is changed first, then saved, then committed, and can be rolled back before that.
-/

namespace VaultKern

open Attempt

/-! ## Passkeys of a vault -/

mutual
/-- `visit_passkey_entries_in_group`: the entries with passkeys, outside of the recycle bin. -/
def visitPasskeyEntriesInGroup (isRecycleBin : Uuid → Bool) (ancestorRecycled : Bool) :
    Group → List (Entry × PasskeyRecord)
  | ⟨fields, entries, children⟩ =>
      let groupRecycled := ancestorRecycled || isRecycleBin fields.id
      (entries.filterMap fun entry => if groupRecycled then none else entry.passkey.map fun passkey => (entry, passkey))
        ++ visitPasskeyEntriesInChildren isRecycleBin groupRecycled children

def visitPasskeyEntriesInChildren (isRecycleBin : Uuid → Bool) (ancestorRecycled : Bool) :
    List Group → List (Entry × PasskeyRecord)
  | [] => []
  | child :: rest =>
      visitPasskeyEntriesInGroup isRecycleBin ancestorRecycled child
        ++ visitPasskeyEntriesInChildren isRecycleBin ancestorRecycled rest
end

def visitPasskeyEntries (vault : Vault) : List (Entry × PasskeyRecord) :=
  visitPasskeyEntriesInGroup
    (fun id => vault.recycleBinEnabled.getD true && vault.recycleBinGroup = some id) false vault.root

def visitPasskeys (vault : Vault) : List PasskeyRecord := (visitPasskeyEntries vault).map Prod.snd

def hasCredential (credentialId relyingParty : String) (passkey : PasskeyRecord) : Bool :=
  passkey.credentialId = credentialId && passkey.relyingParty = relyingParty

def findUniquePasskey (vault : Vault) (credentialId relyingParty : String) : Except RuntimeError PasskeyRecord :=
  match (visitPasskeys vault).filter (hasCredential credentialId relyingParty) with
  | [] => .error (.message ("passkey credential not found: " ++ credentialId))
  | [passkey] => .ok passkey
  | _ => .error (.message ("multiple passkey credentials found for credential id: " ++ credentialId))

def findPasskeyEntryIdByRelyingPartyAndUserHandle (vault : Vault) (relyingParty : String) (userHandle : Option String) :
    Option String :=
  ((visitPasskeyEntries vault).find? fun (_, passkey) =>
    passkey.relyingParty = relyingParty && passkey.userHandle = userHandle).map fun (entry, _) => uuidToString entry.id

def Entry.holdsCredential (entry : Entry) (credentialId : String) : Bool :=
  entry.passkey.any fun passkey => passkey.credentialId = credentialId

def entryHasPasskeyCredential (root : Group) (entryId credentialId : String) : Option Bool :=
  (findEntryById entryId root).map fun entry => entry.holdsCredential credentialId

def clonedEntryById (root : Group) (entryId : String) : Option Entry :=
  (findEntryById entryId root).map fun entry => { entry with history := [] }

/-! ## Rolling back -/

def historyMatchesPasskeyRegistrationRollback (current history : Entry) (credentialId : Option String) : Bool :=
  match current.passkey, history.passkey with
  | some currentPasskey, some historyPasskey =>
      (credentialId.all fun credentialId => currentPasskey.credentialId = credentialId)
        && historyPasskey.relyingParty = currentPasskey.relyingParty
        && historyPasskey.userHandle = currentPasskey.userHandle
        && historyPasskey.credentialId ≠ currentPasskey.credentialId
  | _, _ => false

/-- The entry has another credential by now. -/
def credentialMoved (entry : Entry) (credentialId : Option String) : Bool :=
  credentialId.any fun credentialId => !entry.holdsCredential credentialId

/-- The history without the snapshot of the registration. -/
def retainedHistory (entry : Entry) (credentialId : Option String) : List Entry :=
  if entry.history.getLast?.any fun history => historyMatchesPasskeyRegistrationRollback entry history credentialId then
    entry.history.dropLast
  else entry.history

def restoredFromSnapshot (credentialId : Option String) (restored entry : Entry) : Entry :=
  if credentialMoved entry credentialId then entry
  else { restored with history := retainedHistory entry credentialId }

def restoredFromLatestHistory (entryId : String) (credentialId : Option String) (entry : Entry) :
    Except RuntimeError Entry :=
  if credentialMoved entry credentialId then .ok entry
  else match entry.history.getLast? with
    | none => .error (.message ("passkey registration rollback history not found: " ++ entryId))
    | some history =>
        if historyMatchesPasskeyRegistrationRollback entry history credentialId then
          .ok { history with history := entry.history.dropLast }
        else .error (.message ("passkey registration rollback history does not match: " ++ entryId))

/-- `restore_entry_from_snapshot` and `restore_entry_from_latest_history`: put back what is made of the entry. -/
def restoreEntry (entryId : String) (restore : Entry → Except RuntimeError Entry) : VaultEdit Unit := fun vault =>
  match findEntryById entryId vault.root with
  | none => (.error (.message ("entry not found: " ++ entryId)), vault)
  | some entry =>
      match restore entry with
      | .error e => (.error e, vault)
      | .ok entry => (.ok (), { vault with root := putEntryById entryId entry vault.root })

def restoreRegistration (rollback : PasskeyRegistrationRollbackState) : VaultEdit Unit := do
  let root := (← get).root
  if rollback.created then
    if rollback.credentialId.any fun credentialId =>
        entryHasPasskeyCredential root rollback.entryId credentialId ≠ some true then return ()
    else core (deleteEntry rollback.entryId)
  else match rollback.rollbackEntry with
    | some restored =>
        restoreEntry rollback.entryId fun entry => .ok (restoredFromSnapshot rollback.credentialId restored entry)
    | none =>
        if rollback.credentialId.isSome then return ()
        else restoreEntry rollback.entryId (restoredFromLatestHistory rollback.entryId rollback.credentialId)

def restorePasskeyRegistrationRollback (rollback : PasskeyRegistrationRollbackState) : Runtime Unit :=
  onVault rollback.vaultId (restoreRegistration rollback)

/-! ## What the runtime relies on -/

inductive SaveVaultStatus where
  | saved
  | merged
  | savedToCache
  | conflictCopy
  deriving DecidableEq

structure SaveVaultResult where
  status : SaveVaultStatus
  conflictCopyPath : Option String
  deriving DecidableEq

/-- The parts of the runtime around the ceremonies: how it saves a vault and asks a user. -/
structure PasskeyServices extends SigningLibrary where
  saveVault : String → Runtime SaveVaultResult
  authorizeUser : Session → String → PasskeyUserVerificationMethod → Option String → Except RuntimeError Unit

def ensurePrimaryPasskeySave (result : SaveVaultResult) : Except RuntimeError Unit :=
  demand (result.status ≠ .conflictCopy)
    ("passkey mutation was saved only to conflict copy: " ++ result.conflictCopyPath.getD "unknown") (.ok ())

section Requests

variable (services : PasskeyServices)

/-! ## User verification -/

def cancelled : RuntimeError := .message "browser request was cancelled"

def recordUserVerification (expectedPhase : PasskeyCeremonyPhase) (vaultId : String)
    (method : PasskeyUserVerificationMethod) (verifiedAt : Nat) : Attempt RuntimeError PasskeyCeremonyLedgerEntry Unit := do
  let entry ← get
  ensure (entry.phase = expectedPhase) (.message "passkey ceremony phase mismatch")
  lift (validatePasskeyCeremonyNotExpired entry verifiedAt)
  bindVault vaultId
  modify fun entry =>
    { entry with userVerification := some { vaultId, method, verifiedAtEpochMs := verifiedAt } }

/-- The user takes until `verifiedAt`. The request may be cancelled before that and after it. -/
def verifyPasskeyUser (token : String) (expectedPhase : PasskeyCeremonyPhase) (vaultId : String)
    (method : PasskeyUserVerificationMethod) (password : Option String) (cancelledBefore cancelledAfter : Bool)
    (verifiedAt : Nat) : PasskeyCommand Unit := do
  ensure (!cancelledBefore) cancelled
  ensure (expectedPhase = .userAuthorization || expectedPhase = .userSelection)
    (.message "passkey user verification expected phase must allow user verification")
  let runtime ← get
  ensure (runtime.session.activeVaultId = some vaultId) (.message "passkey user verification vault mismatch")
  let entry ← readCeremony token
  ensure (entry.phase = expectedPhase) (.message "passkey ceremony phase mismatch")
  lift (validatePasskeyCeremonyNotExpired entry runtime.nowMs)
  lift (validatePasskeyCeremonyVaultBinding entry vaultId)
  lift (services.authorizeUser runtime.session vaultId method password)
  ensure (!cancelledAfter) cancelled
  modify fun runtime => { runtime with nowMs := verifiedAt }
  onCeremony token (recordUserVerification expectedPhase vaultId method verifiedAt)

/-- The proof is gone afterwards, whatever it was worth. -/
def consumeUserVerification (vaultId : String) (now : Nat) : Attempt RuntimeError PasskeyCeremonyLedgerEntry Bool :=
  fun entry =>
    let verified := passkeyUserVerificationIsValid entry vaultId now
    let entry' := { entry with userVerification := none }
    if entry.identity.userVerification = .required && !verified then
      (.error (.message "passkey user verification was not verified"), entry')
    else (.ok verified, entry')

def consumePasskeyCeremonyUserVerification (token vaultId : String) : PasskeyCommand Bool := do
  onCeremony token (consumeUserVerification vaultId (← get).nowMs)

def validatePasskeyUserPresenceBeforeVaultLookup (token vaultId : String) (userPresenceVerified : Bool) :
    PasskeyCommand Unit := do
  let now := (← get).nowMs
  let entry ← readCeremony token
  let userVerified := passkeyUserVerificationIsValid entry vaultId now
  ensure (!(entry.identity.userVerification = .required && !userVerified))
    (.message "passkey user verification was not verified")
  ensure (userPresenceVerified || userVerified) (.message "passkey user presence was not verified")

/-! ## Reading credentials -/

def validatePasskeyCeremonyForS3Read (token : String) (expectedPhase : PasskeyCeremonyPhase)
    (expectedCeremony : PasskeyCeremonyKind) (vaultId relyingParty : String) : PasskeyCommand Unit := do
  lift (validatePasskeyRelyingPartyId services.toWebLibrary relyingParty)
  ensure (expectedPhase = .credentialResolution)
    (.message "passkey ceremony expected phase must be s3_credential_resolution")
  let now := (← get).nowMs
  let entry ← readCeremony token
  ensure (entry.phase = expectedPhase) (.message "passkey ceremony phase mismatch")
  ensure (entry.identity.ceremony = expectedCeremony) (.message "passkey ceremony type mismatch")
  ensure (entry.identity.relyingParty = relyingParty) (.message "passkey ceremony relying party mismatch")
  lift (validatePasskeyCeremonyNotExpired entry now)
  lift (validatePasskeyCeremonyVaultBinding entry vaultId)

/-- The vault that a ceremony of phase 3 reads. -/
def passkeyVaultForS3 (token : String) (expectedPhase : PasskeyCeremonyPhase) (expectedCeremony : PasskeyCeremonyKind)
    (vaultId relyingParty : String) : PasskeyCommand Vault := do
  validatePasskeyCeremonyForS3Read services token expectedPhase expectedCeremony vaultId relyingParty
  let _ ← loadedVault vaultId
  bindPasskeyCeremonyVaultAfterVaultLookup token vaultId
  loadedVault vaultId

def passkeyCredentialStatusBatch (token : String) (expectedPhase : PasskeyCeremonyPhase) (vaultId : String)
    (credentialIds : List String) (relyingParty : String) : PasskeyCommand (List (String × Bool)) := do
  let vault ← passkeyVaultForS3 services token expectedPhase .create vaultId relyingParty
  return credentialIds.map fun credentialId =>
    (credentialId, (visitPasskeys vault).any (hasCredential credentialId relyingParty))

structure PasskeyCredentialCandidate where
  credentialId : String
  username : String
  userHandle : Option String
  deriving DecidableEq

def listPasskeyCredentials (token : String) (expectedPhase : PasskeyCeremonyPhase) (vaultId relyingParty : String) :
    PasskeyCommand (List PasskeyCredentialCandidate) := do
  let vault ← passkeyVaultForS3 services token expectedPhase .get vaultId relyingParty
  let candidates := (visitPasskeys vault).filter fun passkey => passkey.relyingParty = relyingParty
  return (candidates.filter fun passkey => (candidates.map (·.credentialId)).count passkey.credentialId = 1).map
    fun passkey =>
      { credentialId := passkey.credentialId, username := passkey.username, userHandle := passkey.userHandle }

/-! ## Signing in -/

/-- `discoverable` is looked at only if it is given. -/
def validatePasskeyCeremonyForS4 (token : String) (expectedPhase : PasskeyCeremonyPhase)
    (expectedCeremony : PasskeyCeremonyKind) (vaultId origin relyingParty : String) (discoverable : Option Bool)
    (clientData : String) : PasskeyCommand PasskeyClientDataExpectations := do
  ensure (expectedPhase = .completionAndMutation) expectedS4
  let now := (← get).nowMs
  let entry ← readCeremony token
  ensure (entry.phase = expectedPhase) (.message "passkey ceremony phase mismatch")
  ensure (entry.identity.ceremony = expectedCeremony) (.message "passkey ceremony type mismatch")
  ensure (entry.identity.origin = origin) (.message "passkey ceremony origin mismatch")
  ensure (entry.identity.relyingParty = relyingParty) (.message "passkey ceremony relying party mismatch")
  ensure (discoverable.all fun discoverable => entry.identity.discoverable = discoverable)
    (.message "passkey ceremony discoverable mismatch")
  lift (validatePasskeyCeremonyNotExpired entry now)
  lift (validatePasskeyCeremonyVaultBinding entry vaultId)
  lift (validatePasskeyCeremonyClientData services.toWebLibrary clientData expectedCeremony origin
    entry.identity.challenge entry.identity.topOrigin entry.identity.ancestorOrigins)
  return {
    challenge := entry.identity.challenge
    topOrigin := entry.identity.topOrigin
    ancestorOrigins := entry.identity.ancestorOrigins }

structure CreatePasskeyAssertionRequest where
  vaultId : String
  relyingParty : String
  origin : String
  credentialId : Option String
  discoverable : Bool
  userPresenceVerified : Bool
  relatedOriginVerified : Bool
  clientData : String

def createPasskeyAssertion (token : String) (expectedPhase : PasskeyCeremonyPhase)
    (request : CreatePasskeyAssertionRequest) : PasskeyCommand PasskeyAssertion := do
  let expectations ← validatePasskeyCeremonyForS4 services token expectedPhase .get request.vaultId request.origin
    request.relyingParty (some request.discoverable) request.clientData
  let credentialId ← Attempt.require (.message "passkey assertion credential id is required") request.credentialId
  validatePasskeyUserPresenceBeforeVaultLookup token request.vaultId request.userPresenceVerified
  let _ ← loadedVault request.vaultId
  bindPasskeyCeremonyVaultAfterVaultLookup token request.vaultId
  let _ ← lift (findUniquePasskey (← loadedVault request.vaultId) credentialId request.relyingParty)
  let userVerified ← consumePasskeyCeremonyUserVerification token request.vaultId
  ensure (request.userPresenceVerified || userVerified) (.message "passkey user presence was not verified")
  let passkey ← lift (findUniquePasskey (← loadedVault request.vaultId) credentialId request.relyingParty)
  lift (createAssertion services.toSigningLibrary passkey
    { relyingParty := request.relyingParty
      origin := request.origin
      credentialId
      discoverable := request.discoverable
      userPresenceVerified := request.userPresenceVerified || userVerified
      userVerified
      relatedOriginVerified := request.relatedOriginVerified
      clientData := request.clientData } expectations)

/-! ## Registering a passkey -/

/-- The checks of `set_passkey_registration_rollback` and `set_passkey_ceremony_durable_state`. -/
def checkRegistrationOpen (entry : PasskeyCeremonyLedgerEntry) : Except RuntimeError Unit :=
  demand (entry.phase = .completionAndMutation) "passkey ceremony phase mismatch" <|
    demand (entry.identity.ceremony = .create) "passkey ceremony type mismatch" <|
    demand (entry.durableState ≠ .committed) "passkey ceremony already committed" (.ok ())

def setPasskeyRegistrationRollback (token : String) (rollback : PasskeyRegistrationRollbackState)
    (durableState : PasskeyCeremonyDurableState) : PasskeyCommand Unit :=
  onCeremony token do
    lift (checkRegistrationOpen (← get))
    modify fun entry => { entry with registrationRollback := some rollback, durableState }

def setPasskeyCeremonyDurableState (token : String) (durableState : PasskeyCeremonyDurableState) : PasskeyCommand Unit :=
  onCeremony token do
    lift (checkRegistrationOpen (← get))
    modify fun entry => { entry with durableState }

structure CreatePasskeyRegistrationRequest where
  vaultId : String
  relyingParty : String
  origin : String
  userName : String
  userDisplayName : Option String
  userHandle : String
  publicKeyAlgorithm : Int
  relatedOriginVerified : Bool
  clientData : String

/-- What is drawn for a new passkey: its credential id and key, and the id of a new entry. -/
structure DrawnCredential where
  credentialId : String
  key : GeneratedKey
  entryId : Uuid

structure PasskeyRegistrationDto where
  entryId : String
  credentialId : String
  created : Bool
  authenticatorData : List UInt8

/-- The steps of an update between the snapshot and the history limits. -/
def replacePasskey (entryId : String) (passkey : PasskeyRecord) (refreshUsername : Bool) (modifiedAt : Nat) :
    VaultEdit Unit := do
  let _ ← core (setEntryPasskey entryId passkey)
  if refreshUsername then
    let _ ← core (updateEntryFields entryId { username := some passkey.username })
  touchEntryModifiedAt entryId modifiedAt

def registeredEntryTitle (request : CreatePasskeyRegistrationRequest) : String :=
  if (trimText request.relyingParty).isEmpty then
    (request.userDisplayName.filter fun name => !(trimText name).isEmpty).getD request.userName
  else request.relyingParty

def registeredEntry (request : CreatePasskeyRegistrationRequest) (id : Uuid) : Entry :=
  { id
    title := registeredEntryTitle request
    username := request.userName
    password := ""
    url := "https://" ++ request.relyingParty
    notes := "Created by WebAuthn passkey registration" }

def addPasskeyEntry (entry : Entry) (passkey : PasskeyRecord) (modifiedAt : Nat) : VaultEdit Unit := do
  modify fun vault => { vault with root := vault.root.addEntry entry }
  let _ ← core (setEntryPasskey (uuidToString entry.id) passkey)
  initializeEntryCreationTimes (uuidToString entry.id) modifiedAt

/-- A passkey of the vault may have the new credential id if it is the one that is replaced. -/
def credentialCollides (vault : Vault) (existing : Option (String × Entry)) (credentialId : String) : Bool :=
  let allowed := if existing.any fun (_, entry) => entry.holdsCredential credentialId then 1 else 0
  (visitPasskeys vault).countP (fun passkey => passkey.credentialId = credentialId) > allowed

/-- The entry of the user at the relying party, as it is before the registration. -/
def existingRegistration (vault : Vault) (relyingParty : String) (userHandle : Option String) :
    Except RuntimeError (Option (String × Entry)) :=
  match findPasskeyEntryIdByRelyingPartyAndUserHandle vault relyingParty userHandle with
  | none => .ok none
  | some entryId =>
      match clonedEntryById vault.root entryId with
      | none => .error (.message ("entry not found: " ++ entryId))
      | some entry => .ok (some (entryId, entry))

/-- Whether the username of the entry is the one of its passkey. -/
def followsPasskeyUsername (entry : Entry) : Bool := entry.passkey.any fun passkey => entry.username = passkey.username

def storeRegistration (token : String) (request : CreatePasskeyRegistrationRequest) (drawn : DrawnCredential)
    (registration : PasskeyRegistration) (modifiedAt : Nat) (existing : Option (String × Entry)) :
    PasskeyCommand PasskeyRegistrationDto := do
  let passkey := registration.passkey
  match existing with
  | some (entryId, rollbackEntry) =>
      setPasskeyRegistrationRollback token
        { vaultId := request.vaultId
          entryId
          credentialId := some passkey.credentialId
          created := false
          rollbackEntry := some rollbackEntry } .snapshot
      onSession (onVault request.vaultId (editWithHistory entryId
        (replacePasskey entryId passkey (followsPasskeyUsername rollbackEntry) modifiedAt)))
      setPasskeyCeremonyDurableState token .mutated
      return {
        entryId
        credentialId := passkey.credentialId
        created := false
        authenticatorData := registration.authenticatorData }
  | none =>
      let entry := registeredEntry request drawn.entryId
      setPasskeyRegistrationRollback token
        { vaultId := request.vaultId
          entryId := uuidToString entry.id
          credentialId := some passkey.credentialId
          created := true
          rollbackEntry := none } .snapshot
      onSession (onVault request.vaultId (addPasskeyEntry entry passkey modifiedAt))
      setPasskeyCeremonyDurableState token .mutated
      return {
        entryId := uuidToString entry.id
        credentialId := passkey.credentialId
        created := true
        authenticatorData := registration.authenticatorData }

def registrationRequest (request : CreatePasskeyRegistrationRequest) (userVerified : Bool) : PasskeyRegistrationRequest :=
  { relyingParty := request.relyingParty
    origin := request.origin
    userName := request.userName
    userHandle := request.userHandle
    publicKeyAlgorithm := request.publicKeyAlgorithm
    userVerified
    relatedOriginVerified := request.relatedOriginVerified
    clientData := request.clientData }

structure PreparedRegistration where
  vault : Vault
  registration : PasskeyRegistration
  modifiedAt : Nat
  existing : Option (String × Entry)

/-- The part of `create_passkey_registration` that changes no vault. -/
def prepareRegistration (token : String) (expectedPhase : PasskeyCeremonyPhase)
    (request : CreatePasskeyRegistrationRequest) (drawn : DrawnCredential) : PasskeyCommand PreparedRegistration := do
  let expectations ← validatePasskeyCeremonyForS4 services token expectedPhase .create request.vaultId request.origin
    request.relyingParty none request.clientData
  lift (validatePasskeyRegistrationParameters services.toSigningLibrary request.userHandle request.publicKeyAlgorithm)
  let _ ← loadedVault request.vaultId
  bindPasskeyCeremonyVaultAfterVaultLookup token request.vaultId
  let userVerified ← consumePasskeyCeremonyUserVerification token request.vaultId
  let modifiedAt := (← get).session.now
  let registration ← lift (createRegistrationWithCredentialId services.toSigningLibrary
    (registrationRequest request userVerified) expectations drawn.credentialId drawn.key)
  let vault ← loadedVault request.vaultId
  let existing ← lift (existingRegistration vault request.relyingParty registration.passkey.userHandle)
  ensure (!credentialCollides vault existing registration.passkey.credentialId)
    (.message "passkey credential id collision")
  return { vault, registration, modifiedAt, existing }

def createPasskeyRegistration (token : String) (expectedPhase : PasskeyCeremonyPhase)
    (request : CreatePasskeyRegistrationRequest) (drawn : DrawnCredential) : PasskeyCommand PasskeyRegistrationDto := do
  let prepared ← prepareRegistration services token expectedPhase request drawn
  storeRegistration token request drawn prepared.registration prepared.modifiedAt prepared.existing

/-! ## Saving, committing and aborting -/

def isClosedCreate (entry : PasskeyCeremonyLedgerEntry) : Bool :=
  entry.identity.ceremony = .create && entry.phase.isClosed

def checkSavable (entry : PasskeyCeremonyLedgerEntry) (vaultId : String) (now : Nat) : Except RuntimeError Unit := do
  demand (entry.identity.ceremony = .create) "passkey ceremony type mismatch" (.ok ())
  validatePasskeyCeremonyNotExpired entry now
  demand (entry.durableState ≠ .committed) "passkey ceremony already committed" (.ok ())
  match entry.registrationRollback with
  | none => .error (.message "passkey registration rollback state missing")
  | some rollback => demand (rollback.vaultId = vaultId) "passkey ceremony vault mismatch" (.ok ())

def markSaved (expectedPhase : PasskeyCeremonyPhase) : Attempt RuntimeError PasskeyCeremonyLedgerEntry Unit := do
  let entry ← get
  ensure (entry.phase = expectedPhase) (.message "passkey ceremony phase mismatch")
  ensure (entry.durableState ≠ .committed) (.message "passkey ceremony already committed")
  modify fun entry => { entry with durableState := .saved }

/-- A save for a closed ceremony does nothing. -/
def savePasskeyRegistration (token : String) (expectedPhase : PasskeyCeremonyPhase) (vaultId : String) :
    PasskeyCommand (Option SaveVaultResult) := do
  ensure (expectedPhase = .completionAndMutation) expectedS4
  let now := (← get).nowMs
  let entry ← readCeremony token
  if entry.phase ≠ expectedPhase then
    ensure (isClosedCreate entry) (.message "passkey ceremony phase mismatch")
    return none
  else
    lift (checkSavable entry vaultId now)
    let result ← onSession (services.saveVault vaultId)
    lift (ensurePrimaryPasskeySave result)
    onCeremony token (markSaved expectedPhase)
    return some result

def closeRegistration (closedPhase : PasskeyCeremonyPhase) (entry : PasskeyCeremonyLedgerEntry) :
    PasskeyCeremonyLedgerEntry :=
  { entry with phase := closedPhase, durableState := .none, registrationRollback := none }

def closePasskeyRegistrationRollback (token : String) (closedPhase : PasskeyCeremonyPhase) : PasskeyCommand Unit :=
  onCeremony token (modify (closeRegistration closedPhase))

/-- Undo a registration, and save again what was saved with it. -/
def rollBackRegistration (entry : PasskeyCeremonyLedgerEntry) : PasskeyCommand Unit := do
  match entry.registrationRollback with
  | none => return ()
  | some rollback =>
      onSession (restorePasskeyRegistrationRollback rollback)
      if entry.durableState = .saved then
        let result ← onSession (services.saveVault rollback.vaultId)
        lift (ensurePrimaryPasskeySave result)

def abortPasskeyRegistration (token : String) (expectedPhase closedPhase : PasskeyCeremonyPhase) :
    PasskeyCommand Unit := do
  ensure (expectedPhase = .completionAndMutation) expectedS4
  ensure (closedPhase = .closedAborted || closedPhase = .closedFailed)
    (.message "passkey ceremony rollback must close aborted or failed")
  let entry ← readCeremony token
  if entry.phase ≠ expectedPhase then
    ensure (isClosedCreate entry) (.message "passkey ceremony phase mismatch")
  else
    ensure (entry.identity.ceremony = .create) (.message "passkey ceremony type mismatch")
    ensure (entry.durableState ≠ .committed) (.message "passkey ceremony already committed")
    rollBackRegistration services entry
    closePasskeyRegistrationRollback token closedPhase

/-- What `commit_passkey_registration` does to the ceremony. -/
def commitRegistration (expectedPhase : PasskeyCeremonyPhase) (vaultId entryId credentialId : String) (now : Nat) :
    Attempt RuntimeError PasskeyCeremonyLedgerEntry Unit := fun entry =>
  let refuse (text : String) := (.error (.message text), entry)
  if entry.phase ≠ expectedPhase then
    if isClosedCreate entry then (.ok (), entry) else refuse "passkey ceremony phase mismatch"
  else if entry.identity.ceremony ≠ .create then refuse "passkey ceremony type mismatch"
  else if entry.durableState = .committed then (.ok (), entry)
  else if entry.identity.expiresAtEpochMs ≤ now then refuse "passkey ceremony expired"
  else match entry.registrationRollback with
    | none => refuse "passkey registration rollback state missing"
    | some rollback =>
        if rollback.vaultId ≠ vaultId || rollback.entryId ≠ entryId || rollback.credentialId ≠ some credentialId then
          refuse "passkey registration rollback identity mismatch"
        else if entry.durableState ≠ .saved then refuse "passkey ceremony must be saved before commit"
        else (.ok (), { entry with durableState := .committed, registrationRollback := none })

def commitPasskeyRegistration (token : String) (expectedPhase : PasskeyCeremonyPhase)
    (vaultId entryId credentialId : String) : PasskeyCommand Unit := do
  ensure (expectedPhase = .completionAndMutation) expectedS4
  onCeremony token (commitRegistration expectedPhase vaultId entryId credentialId (← get).nowMs)

/-! ## Reconciliation -/

/-- The ceremony waits for its completion, but its connection is gone or its time is over. -/
def isOrphaned (activeConnectionId : String) (now : Nat) (entry : PasskeyCeremonyLedgerEntry) : Bool :=
  entry.phase = .completionAndMutation && entry.deliveryState = .notDelivered
    && !(entry.identity.connectionId = activeConnectionId && now < entry.identity.expiresAtEpochMs)

def closeCommitted (activeConnectionId : String) (now : Nat) (entry : PasskeyCeremonyLedgerEntry) :
    PasskeyCeremonyLedgerEntry :=
  if isOrphaned activeConnectionId now entry && entry.durableState = .committed then
    { entry with phase := .closedDelivered, deliveryState := .unknownDelivery }
  else entry

def needsRollback (entry : PasskeyCeremonyLedgerEntry) : Bool :=
  entry.identity.ceremony = .create
    && (entry.durableState = .snapshot || entry.durableState = .mutated || entry.durableState = .saved)

/-- The tokens that were rolled back. One that cannot be is passed over. -/
def rollBackTokens : List String → PasskeyCommand (List String)
  | [] => return []
  | token :: rest => fun runtime =>
      let aborted := abortPasskeyRegistration services token .completionAndMutation .closedFailed runtime
      let later := rollBackTokens rest aborted.2
      match aborted.1, later.1 with
      | .ok (), .ok tokens => (.ok (token :: tokens), later.2)
      | _, _ => later

def orphanedTokens (select : PasskeyCeremonyLedgerEntry → Bool) (activeConnectionId : String)
    (runtime : PasskeyRuntime) : List String :=
  (runtime.ceremonies.toList.filter fun (_, entry) =>
    isOrphaned activeConnectionId runtime.nowMs entry && select entry).map Prod.fst

def reconcilePasskeyCeremonyLedger (activeConnectionId : String) :
    PasskeyCommand (List (String × PasskeyCeremonyDeliveryState)) := do
  lift (validatePasskeyCeremonyConnectionId activeConnectionId)
  let runtime ← get
  let committed := orphanedTokens (fun entry => entry.durableState = .committed) activeConnectionId runtime
  let rollbackTokens := orphanedTokens needsRollback activeConnectionId runtime
  modify fun runtime =>
    { runtime with ceremonies := runtime.ceremonies.map fun _ => closeCommitted activeConnectionId runtime.nowMs }
  let rolledBack ← rollBackTokens services rollbackTokens
  return committed.map (fun token => (token, .unknownDelivery)) ++ rolledBack.map fun token => (token, .notDelivered)

end Requests

end VaultKern
