import VaultKern.Passkey.Registration

/-! # Platform passkeys

Passkeys for the other applications of a system. Every operation runs under a lease of one
vault and one session generation, and may have unlocked the session for it.
-/

namespace VaultKern

open Attempt

/-! ## Leases and the session -/

structure PlatformPasskeyOperationLease where
  vaultId : String
  sessionGeneration : UInt64
  userVerificationConsumed : Bool
  pendingRegistration : Option PasskeyRegistrationRollbackState
  deriving DecidableEq

/-- The runtime as the platform operations see it. -/
structure PlatformRuntime where
  session : Session
  currentVaultRefId : Option String
  preloadedForUnlock : Option String
  sessionGeneration : UInt64
  platformPasskeyOperations : BTreeMap (List UInt8) PlatformPasskeyOperationLease
  pendingPlatformRelock : Option (String × UInt64)

abbrev PlatformCommand (A : Type) := Attempt RuntimeError PlatformRuntime A

/-- Work on the session. -/
def inSession {A : Type} (m : Runtime A) : PlatformCommand A := fun runtime =>
  ((m runtime.session).1, { runtime with session := (m runtime.session).2 })

namespace PlatformRuntime

def advanceSessionGeneration (runtime : PlatformRuntime) : PlatformRuntime :=
  { runtime with sessionGeneration := runtime.sessionGeneration + 1, pendingPlatformRelock := none }

/-- The vaults stay opened, without their content. -/
def lockAll (runtime : PlatformRuntime) : PlatformRuntime :=
  { runtime with
    session := { runtime.session with loaded := runtime.session.loaded.map fun _ _ => none, activeVaultId := none }
    preloadedForUnlock := none }

def lockSession (runtime : PlatformRuntime) : PlatformRuntime := runtime.advanceSessionGeneration.lockAll

/-- `set_current_vault` of the vault session. -/
def makeCurrent (vaultRefId : String) (runtime : PlatformRuntime) : PlatformRuntime :=
  { runtime.lockAll with currentVaultRefId := some vaultRefId }

def insertLocked (vaultId : String) (runtime : PlatformRuntime) : PlatformRuntime :=
  { runtime with session := { runtime.session with loaded := runtime.session.loaded.insert vaultId none } }

def removeLoaded (vaultId : String) (runtime : PlatformRuntime) : PlatformRuntime :=
  { runtime with
    session := { runtime.session with
      loaded := runtime.session.loaded.erase vaultId
      activeVaultId := runtime.session.activeVaultId.filter fun active => active ≠ vaultId }
    preloadedForUnlock := runtime.preloadedForUnlock.filter fun preloaded => preloaded ≠ vaultId }

def clearCurrentVault (runtime : PlatformRuntime) : PlatformRuntime :=
  { runtime with
    session := { runtime.session with activeVaultId := none }
    currentVaultRefId := none
    preloadedForUnlock := none }

end PlatformRuntime

def noActiveVault : RuntimeError := .message "platform passkey operation requires an active unlocked vault"

def activePlatformPasskeyVaultId : PlatformCommand String := do
  let session := (← get).session
  let vaultId ← Attempt.require noActiveVault session.activeVaultId
  match session.loaded[vaultId]? with
  | some (some _) => return vaultId
  | _ => fail noActiveVault

def PlatformRuntime.isUnlocked (runtime : PlatformRuntime) : Bool :=
  runtime.session.activeVaultId.any fun vaultId => runtime.session.loaded[vaultId]?.any Option.isSome

def loadedPlatformVault (vaultId : String) : PlatformCommand Vault := do
  lift ((← get).session.vault vaultId)

/-! ## Locking and unlocking -/

section Unlocking

/-- What reading a source gives. A local file becomes the current vault by it. -/
structure SourceSnapshot where
  vaultId : String
  localReference : Option String

def loadSourceSnapshot (answer : Except RuntimeError SourceSnapshot) : PlatformCommand String := do
  let snapshot ← lift answer
  match snapshot.localReference with
  | some vaultRefId => modify (PlatformRuntime.makeCurrent vaultRefId)
  | none => pure ()
  modify (PlatformRuntime.insertLocked snapshot.vaultId)
  return snapshot.vaultId

def finishUnlock (vaultId : String) (vault : Vault) (reference : Option String) : PlatformCommand Unit := do
  ensure ((← get).session.loaded.contains vaultId) (notOpened vaultId)
  modify fun runtime => { runtime with
    session := { runtime.session with
      loaded := runtime.session.loaded.insert vaultId (some vault)
      activeVaultId := some vaultId }
    currentVaultRefId := reference.or runtime.currentVaultRefId
    preloadedForUnlock := none }
  modify PlatformRuntime.advanceSessionGeneration

/-- What the outside world answers to an unlock: the reference of the vault and its content. -/
structure UnlockAnswer where
  reference : Except RuntimeError (Option String)
  opened : Except RuntimeError Vault

def unlockVault (vaultId : String) (answer : UnlockAnswer) : PlatformCommand Unit := do
  let reference ← lift answer.reference
  ensure ((← get).session.loaded.contains vaultId) (notOpened vaultId)
  let vault ← lift answer.opened
  finishUnlock vaultId vault reference

def noCurrentVault : RuntimeError := .message "no current vault selected"

def unlockCurrentVault (source : Except RuntimeError String) (snapshot : Except RuntimeError SourceSnapshot)
    (answer : UnlockAnswer) : PlatformCommand Unit := do
  let runtime ← get
  let _ ← Attempt.require noCurrentVault runtime.currentVaultRefId
  let vaultId ← lift source
  if runtime.preloadedForUnlock = some vaultId then unlockVault vaultId answer
  else
    let vaultId ← loadSourceSnapshot snapshot
    unlockVault vaultId answer

/-- The answers to a quick unlock, in their order. -/
structure QuickUnlockAnswer where
  enabled : Except RuntimeError Unit
  authorized : Except RuntimeError Unit
  snapshot : Except RuntimeError SourceSnapshot
  opened : Except RuntimeError Vault

def unlockCurrentVaultWithQuickUnlock (answer : QuickUnlockAnswer) : PlatformCommand Unit := do
  lift answer.enabled
  let reference ← Attempt.require noCurrentVault (← get).currentVaultRefId
  lift answer.authorized
  let vaultId ← loadSourceSnapshot answer.snapshot
  let vault ← lift answer.opened
  finishUnlock vaultId vault (some reference)

def operationActive : RuntimeError := .message "session has an active platform passkey operation"

def ensureNoActivePlatformPasskeyOperation : PlatformCommand Unit := do
  ensure (← get).platformPasskeyOperations.isEmpty operationActive

def tryLockSession : PlatformCommand Unit := do
  ensureNoActivePlatformPasskeyOperation
  modify PlatformRuntime.lockSession

def closeVault (vaultId : String) (baseRemoved : Except RuntimeError Unit) : PlatformCommand Unit := do
  ensure ((← get).session.loaded.contains vaultId) (notOpened vaultId)
  ensureNoActivePlatformPasskeyOperation
  lift baseRemoved
  modify fun runtime => (runtime.removeLoaded vaultId).advanceSessionGeneration

def setCurrentVault (vaultRefId : String) (marked : Except RuntimeError Unit) : PlatformCommand Unit := do
  lift marked
  modify fun runtime => (runtime.makeCurrent vaultRefId).advanceSessionGeneration

/-- `add_local_vault_reference` and `add_onedrive_vault_reference`. -/
def addVaultReference (stored : Except RuntimeError String) : PlatformCommand Unit := do
  let vaultRefId ← lift stored
  modify (PlatformRuntime.makeCurrent vaultRefId)

/-- The vault of the reference, if it goes, and whether it was the current one. -/
def deleteVaultReference (deletion : Except RuntimeError (Option (String × Bool))) : PlatformCommand Unit := do
  match ← lift deletion with
  | none => pure ()
  | some (vaultId, deletedCurrent) => do
      modify (PlatformRuntime.removeLoaded vaultId)
      if deletedCurrent then modify PlatformRuntime.clearCurrentVault

def preloadCurrentVault (source : Except RuntimeError String) (snapshot : Except RuntimeError SourceSnapshot) :
    PlatformCommand Unit := do
  let runtime ← get
  if runtime.currentVaultRefId.isNone then return ()
  else
    let vaultId ← lift source
    if runtime.preloadedForUnlock = some vaultId || runtime.session.loaded[vaultId]?.any Option.isSome then return ()
    else
      let _ ← loadSourceSnapshot snapshot
      modify fun runtime => { runtime with preloadedForUnlock := some vaultId }

end Unlocking

/-! ## Credentials -/

structure PlatformServices extends SigningLibrary where
  encodeBase64Url : List UInt8 → String
  /-- Save a vault. The live vault may be merged with what is stored. -/
  saveVault : String → VaultEdit SaveVaultResult

structure PlatformPasskeyCredential where
  credentialId : List UInt8
  relyingParty : String
  relyingPartyName : String
  userHandle : List UInt8
  userName : String
  userDisplayName : String
  deriving DecidableEq

def platformCredentialLabel (value fallback : String) : String := if (trimText value).isEmpty then fallback else value

section Operations

variable (services : PlatformServices)

def decodeStored (text error : String) : Except RuntimeError (List UInt8) :=
  match services.decodeBase64Url text with
  | none => .error (.message error)
  | some bytes => .ok bytes

def platformPasskeyCredential (passkey : PasskeyRecord) (relyingPartyName userDisplayName : String) :
    Except RuntimeError PlatformPasskeyCredential := do
  let credentialId ← decodeStored services passkey.credentialId
    "stored platform passkey credential id was not base64url"
  demand (!credentialId.isEmpty) "stored platform passkey credential id is empty" (.ok ())
  match passkey.userHandle with
  | none => .error (.message "platform passkey credential has no discoverable user handle")
  | some userHandle =>
      let userHandle ← decodeStored services userHandle "stored platform passkey user handle was not base64url"
      demand (!userHandle.isEmpty && userHandle.length ≤ 64)
        "stored platform passkey user handle has an invalid length" <| .ok
          { credentialId
            relyingParty := passkey.relyingParty
            relyingPartyName := platformCredentialLabel relyingPartyName passkey.relyingParty
            userHandle
            userName := passkey.username
            userDisplayName := platformCredentialLabel userDisplayName passkey.username }

def platformRelyingPartyNameKey : String := "VaultKern.PlatformPasskey.RelyingPartyName"

def platformUserDisplayNameKey : String := "VaultKern.PlatformPasskey.UserDisplayName"

/-- The discoverable credentials of a vault, without those whose id is there twice. -/
def platformCredentials (vault : Vault) : List PlatformPasskeyCredential :=
  let candidates := (visitPasskeyEntries vault).filterMap fun (entry, passkey) =>
    match platformPasskeyCredential services passkey (entry.customData[platformRelyingPartyNameKey]?.getD entry.title)
        (entry.customData[platformUserDisplayNameKey]?.getD entry.username) with
    | .ok credential => some ((passkey.relyingParty, passkey.credentialId), credential)
    | .error _ => none
  (candidates.filter fun (key, _) => (candidates.map Prod.fst).count key = 1).map Prod.snd

def listPlatformPasskeyCredentials : PlatformCommand (List PlatformPasskeyCredential) := do
  let vaultId ← activePlatformPasskeyVaultId
  return platformCredentials services (← loadedPlatformVault vaultId)

/-! ## Registering -/

structure PlatformPasskeyRegistrationInput where
  relyingParty : String
  relyingPartyName : String
  userName : String
  userDisplayName : String
  userHandle : List UInt8
  publicKeyAlgorithm : Int
  userVerified : Bool

def validatePlatformRelyingParty (relyingParty : String) : Except RuntimeError Unit :=
  let invalid := "invalid platform passkey relying party"
  demand (!(trimText relyingParty).isEmpty && relyingParty = normalizePasskeyOriginHost relyingParty
      && relyingParty.toList.getLast? ≠ some '.') invalid <|
    demand (isPasskeyLoopbackHost relyingParty || services.isIpAddress relyingParty
      || (services.domainStr relyingParty).isSome) invalid (.ok ())

def windowsPluginAuthenticatorAaguid : List UInt8 :=
  [0xc8, 0xb2, 0xf4, 0xa1, 0x7d, 0x31, 0x4e, 0x59, 0x9a, 0x62, 0x0f, 0xd3, 0xb6, 0xe4, 0xc7, 0x21]

def platformAuthenticatorData (relyingParty : String) (credentialId publicKeyCose : List UInt8) (userVerified : Bool) :
    List UInt8 :=
  textDigest services.toSigningLibrary relyingParty ++ [registrationFlags userVerified] ++ List.replicate 4 0
    ++ windowsPluginAuthenticatorAaguid
    ++ [UInt8.ofNat (credentialId.length / 256), UInt8.ofNat credentialId.length] ++ credentialId ++ publicKeyCose

def platformRegistrationRequest (input : PlatformPasskeyRegistrationInput) : PasskeyRegistrationRequest :=
  { relyingParty := input.relyingParty
    origin := ""
    userName := input.userName
    userHandle := services.encodeBase64Url input.userHandle
    publicKeyAlgorithm := input.publicKeyAlgorithm
    userVerified := input.userVerified
    relatedOriginVerified := false
    clientData := "" }

def createPlatformRegistrationWithCredentialId (input : PlatformPasskeyRegistrationInput) (credentialId : List UInt8)
    (key : GeneratedKey) : Except RuntimeError PasskeyRegistration := do
  validatePlatformRelyingParty services input.relyingParty
  demand input.userVerified "platform passkey user verification was not verified" (.ok ())
  let request := platformRegistrationRequest services input
  validatePasskeyRegistrationParameters services.toSigningLibrary request.userHandle request.publicKeyAlgorithm
  let encoded := services.encodeBase64Url credentialId
  let bytes ← decodeStored services encoded "generated passkey credential id was not base64url"
  demand (!bytes.isEmpty && bytes.length < 2 ^ 16) "passkey credential id has an invalid length" <| .ok
    { passkey := registeredPasskey request encoded key
      authenticatorData := platformAuthenticatorData services input.relyingParty bytes key.publicKeyCose input.userVerified }

def setPlatformPasskeyDisplayLabels (entryId relyingPartyName userDisplayName : String) : VaultEdit Unit := do
  let _ ← core (upsertEntryCustomData entryId { key := platformRelyingPartyNameKey, value := relyingPartyName })
  let _ ← core (upsertEntryCustomData entryId { key := platformUserDisplayNameKey, value := userDisplayName })

/-- The steps of an update between the snapshot and the history limits. -/
def replacePlatformPasskey (entryId : String) (passkey : PasskeyRecord) (rollbackEntry : Entry)
    (relyingPartyName userDisplayName : String) (modifiedAt : Nat) : VaultEdit Unit := do
  let refreshTitle := rollbackEntry.passkey.any fun passkey => rollbackEntry.title = passkey.relyingParty
  let refreshUsername := followsPasskeyUsername rollbackEntry
  let _ ← core (setEntryPasskey entryId passkey)
  setPlatformPasskeyDisplayLabels entryId relyingPartyName userDisplayName
  if refreshTitle || refreshUsername then
    let _ ← core (updateEntryFields entryId
      { title := if refreshTitle then some relyingPartyName else none
        username := if refreshUsername then some userDisplayName else none })
  touchEntryModifiedAt entryId modifiedAt

def addPlatformPasskeyEntry (entry : Entry) (passkey : PasskeyRecord) (relyingPartyName userDisplayName : String)
    (modifiedAt : Nat) : VaultEdit Unit := do
  let entryId := uuidToString entry.id
  modify fun vault => { vault with root := vault.root.addEntry entry }
  let _ ← core (setEntryPasskey entryId passkey)
  setPlatformPasskeyDisplayLabels entryId relyingPartyName userDisplayName
  initializeEntryCreationTimes entryId modifiedAt

/-- A change that fails is taken back. -/
def changeOrRollBack (rollback : PasskeyRegistrationRollbackState) (change : VaultEdit Unit) : Runtime Unit :=
  fun session =>
    match onVault rollback.vaultId change session with
    | (.ok _, session) => (.ok (), session)
    | (.error e, session) => (.error e, (restorePasskeyRegistrationRollback rollback session).2)

structure PlatformPasskeyRegistrationOutput where
  entryId : String
  credential : PlatformPasskeyCredential
  authenticatorData : List UInt8

def platformEntry (input : PlatformPasskeyRegistrationInput) (relyingPartyName userDisplayName : String) (id : Uuid) :
    Entry :=
  { id
    title := relyingPartyName
    username := userDisplayName
    password := ""
    url := "https://" ++ input.relyingParty
    notes := "Created by system passkey provider" }

def preparePlatformPasskeyRegistration (input : PlatformPasskeyRegistrationInput) (drawn : DrawnCredential) :
    PlatformCommand (PlatformPasskeyRegistrationOutput × PasskeyRegistrationRollbackState) := do
  let vaultId ← activePlatformPasskeyVaultId
  let relyingPartyName := platformCredentialLabel input.relyingPartyName input.relyingParty
  let userDisplayName := platformCredentialLabel input.userDisplayName input.userName
  let bytes ← lift (decodeStored services drawn.credentialId
    "generated platform passkey credential id was not base64url")
  let registration ← lift (createPlatformRegistrationWithCredentialId services input bytes drawn.key)
  let passkey := registration.passkey
  let credential ← lift (platformPasskeyCredential services passkey relyingPartyName userDisplayName)
  let modifiedAt := (← get).session.now
  let vault ← loadedPlatformVault vaultId
  let existing ← lift (existingRegistration vault input.relyingParty passkey.userHandle)
  ensure (!(visitPasskeys vault).any fun other => other.credentialId = passkey.credentialId)
    (.message "platform passkey credential id collision")
  match existing with
  | some (entryId, rollbackEntry) =>
      let rollback : PasskeyRegistrationRollbackState :=
        { vaultId
          entryId
          credentialId := some passkey.credentialId
          created := false
          rollbackEntry := some rollbackEntry }
      inSession (changeOrRollBack rollback (editWithHistory entryId
        (replacePlatformPasskey entryId passkey rollbackEntry relyingPartyName userDisplayName modifiedAt)))
      return ({ entryId, credential, authenticatorData := registration.authenticatorData }, rollback)
  | none =>
      let entry := platformEntry input relyingPartyName userDisplayName drawn.entryId
      let entryId := uuidToString entry.id
      let rollback : PasskeyRegistrationRollbackState :=
        { vaultId
          entryId
          credentialId := some passkey.credentialId
          created := true
          rollbackEntry := none }
      inSession (changeOrRollBack rollback
        (addPlatformPasskeyEntry entry passkey relyingPartyName userDisplayName modifiedAt))
      return ({ entryId, credential, authenticatorData := registration.authenticatorData }, rollback)

/-- The saved vault has the credential of the registration. -/
def retainsRegistration (rollback : PasskeyRegistrationRollbackState) (session : Session) : Bool :=
  rollback.credentialId.all fun credentialId =>
    match session.vault rollback.vaultId with
    | .ok vault => entryHasPasskeyCredential vault.root rollback.entryId credentialId = some true
    | .error _ => false

/-- A registration that was not saved is taken back. -/
def commitPlatformPasskeyRegistration (rollback : PasskeyRegistrationRollbackState) : Runtime Unit := fun session =>
  let takeBack (e : RuntimeError) (session : Session) : Except RuntimeError Unit × Session :=
    (.error e, (restorePasskeyRegistrationRollback rollback session).2)
  match onVault rollback.vaultId (services.saveVault rollback.vaultId) session with
  | (.error e, session) => takeBack e session
  | (.ok result, session) =>
      if result.status = .conflictCopy then
        takeBack (.message ("platform passkey registration was saved only to conflict copy: "
          ++ result.conflictCopyPath.getD "unknown")) session
      else if retainsRegistration rollback session then (.ok (), session)
      else
        takeBack (.message "platform passkey registration was not retained by the committed vault generation") session

/-! ## Signing in -/

structure PlatformPasskeyAssertionInput where
  relyingParty : String
  allowedCredentialIds : List (List UInt8)
  clientDataHash : List UInt8
  userVerified : Bool

structure PlatformPasskeyAssertionOutput where
  credentialId : List UInt8
  authenticatorData : List UInt8
  signature : List UInt8
  userHandle : List UInt8

def createPlatformAssertion (passkey : PasskeyRecord) (input : PlatformPasskeyAssertionInput)
    (credentialId : List UInt8) : Except RuntimeError PlatformPasskeyAssertionOutput := do
  validatePlatformRelyingParty services input.relyingParty
  demand input.userVerified "platform passkey user verification was not verified" (.ok ())
  demand (input.clientDataHash.length = 32) "platform passkey clientDataHash must be a SHA-256 digest" (.ok ())
  demand (passkey.relyingParty = input.relyingParty) "passkey relying party mismatch" (.ok ())
  let stored ← decodeStored services passkey.credentialId "stored passkey credential id was not base64url"
  demand (stored = credentialId) "passkey credential id mismatch" (.ok ())
  let data := authenticatorData services.toSigningLibrary input.relyingParty passkey input.userVerified
  let signature ← signWith services.toSigningLibrary passkey.privateKeyPem (data ++ input.clientDataHash)
  match passkey.userHandle with
  | none => .error (.message "platform passkey credential has no discoverable user handle")
  | some userHandle =>
      let userHandle ← decodeStored services userHandle "stored passkey user handle was not base64url"
      return { credentialId := stored, authenticatorData := data, signature, userHandle }

def platformAssertion (vault : Vault) (input : PlatformPasskeyAssertionInput) :
    Except RuntimeError PlatformPasskeyAssertionOutput := do
  let allowed := input.allowedCredentialIds.map services.encodeBase64Url
  let selected := (visitPasskeys vault).find? fun passkey =>
    passkey.relyingParty = input.relyingParty && (allowed.isEmpty || allowed.contains passkey.credentialId)
  match selected with
  | none => .error (.message "platform passkey credential not found")
  | some selected =>
      let passkey ← findUniquePasskey vault selected.credentialId input.relyingParty
      let credentialId ← decodeStored services passkey.credentialId
        "stored platform passkey credential id was not base64url"
      createPlatformAssertion services passkey input credentialId

def createPlatformPasskeyAssertion (input : PlatformPasskeyAssertionInput) :
    PlatformCommand PlatformPasskeyAssertionOutput := do
  let vaultId ← activePlatformPasskeyVaultId
  lift (platformAssertion services (← loadedPlatformVault vaultId) input)

/-! ## Operations under a lease -/

def notActive : RuntimeError := .message "platform passkey operation is not active"

def leaseMismatch : RuntimeError := .message "platform passkey operation no longer matches the verified vault"

def PlatformRuntime.putLease (operationId : List UInt8) (lease : PlatformPasskeyOperationLease)
    (runtime : PlatformRuntime) : PlatformRuntime :=
  { runtime with platformPasskeyOperations := runtime.platformPasskeyOperations.insert operationId lease }

/-- The lease of an operation, which must be for the active vault and this session generation. -/
def matchingLease (operationId : List UInt8) : PlatformCommand PlatformPasskeyOperationLease := do
  let activeVaultId ← activePlatformPasskeyVaultId
  let runtime ← get
  let lease ← Attempt.require notActive runtime.platformPasskeyOperations[operationId]?
  ensure (lease.vaultId = activeVaultId && lease.sessionGeneration = runtime.sessionGeneration) leaseMismatch
  return lease

def consumePlatformPasskeyOperationVerification (operationId : List UInt8) : PlatformCommand Unit := do
  let lease ← matchingLease operationId
  ensure (!lease.userVerificationConsumed) (.message "platform passkey user verification was already consumed")
  modify (PlatformRuntime.putLease operationId { lease with userVerificationConsumed := true })

def registerPlatformPasskeyForOperation (operationId : List UInt8) (input : PlatformPasskeyRegistrationInput)
    (drawn : DrawnCredential) : PlatformCommand PlatformPasskeyRegistrationOutput := do
  consumePlatformPasskeyOperationVerification operationId
  let (output, rollback) ← preparePlatformPasskeyRegistration services input drawn
  let lease ← Attempt.require (.message "platform passkey operation ended during registration")
    (← get).platformPasskeyOperations[operationId]?
  modify (PlatformRuntime.putLease operationId { lease with pendingRegistration := some rollback })
  return output

def commitPlatformPasskeyRegistrationOperation (operationId : List UInt8) : PlatformCommand Unit := do
  let lease ← matchingLease operationId
  let rollback ← Attempt.require (.message "platform passkey registration was not prepared") lease.pendingRegistration
  modify (PlatformRuntime.putLease operationId { lease with pendingRegistration := none })
  inSession (commitPlatformPasskeyRegistration services rollback)

def createPlatformPasskeyAssertionForOperation (operationId : List UInt8) (input : PlatformPasskeyAssertionInput) :
    PlatformCommand PlatformPasskeyAssertionOutput := do
  consumePlatformPasskeyOperationVerification operationId
  createPlatformPasskeyAssertion services input

/-- What a prepare does after its checks. -/
def openLease (operationId : List UInt8) (wasUnlocked : Bool) (answer : QuickUnlockAnswer) :
    PlatformCommand (List PlatformPasskeyCredential × Bool) := do
  if !wasUnlocked then unlockCurrentVaultWithQuickUnlock answer
  let vaultId ← activePlatformPasskeyVaultId
  let credentials ← listPlatformPasskeyCredentials services
  let generation := (← get).sessionGeneration
  modify (PlatformRuntime.putLease operationId
    { vaultId
      sessionGeneration := generation
      userVerificationConsumed := false
      pendingRegistration := none })
  if !wasUnlocked then modify fun runtime => { runtime with pendingPlatformRelock := some (vaultId, generation) }
  return (credentials, !wasUnlocked)

/-- A failure after an unlock locks again. -/
def preparePlatformPasskeyOperation (operationId : List UInt8) (answer : QuickUnlockAnswer) :
    PlatformCommand (List PlatformPasskeyCredential × Bool) := do
  ensure (operationId.length = 16) (.message "platform passkey operation id must be 16 bytes")
  ensure (!(← get).platformPasskeyOperations.contains operationId)
    (.message "platform passkey operation is already active")
  fun runtime =>
    match openLease services operationId runtime.isUnlocked answer runtime with
    | (.ok result, after) => (.ok result, after)
    | (.error e, after) => (.error e, if runtime.isUnlocked then after else after.lockSession)

/-- A registration that was not committed goes with its lease. -/
def PlatformRuntime.dropLease (operationId : List UInt8) (runtime : PlatformRuntime) : PlatformRuntime :=
  match runtime.platformPasskeyOperations[operationId]? with
  | none => runtime
  | some lease =>
      { runtime with
        platformPasskeyOperations := runtime.platformPasskeyOperations.erase operationId
        session := match lease.pendingRegistration with
          | none => runtime.session
          | some rollback => (restorePasskeyRegistrationRollback rollback runtime.session).2 }

/-- Lock a session that was unlocked for operations, after the last of them. -/
def PlatformRuntime.relock (runtime : PlatformRuntime) : PlatformRuntime :=
  match runtime.pendingPlatformRelock with
  | none => runtime
  | some (vaultId, generation) =>
      let sameLeaseRemains := runtime.platformPasskeyOperations.toList.any fun (_, lease) =>
        lease.vaultId = vaultId && lease.sessionGeneration = generation
      if !sameLeaseRemains && runtime.sessionGeneration = generation && runtime.session.activeVaultId = some vaultId then
        { runtime with pendingPlatformRelock := none }.lockSession
      else runtime

def endPlatformPasskeyOperation (operationId : List UInt8) : PlatformCommand Unit :=
  modify fun runtime => (runtime.dropLease operationId).relock

end Operations

/-! ## Requests -/

inductive PlatformRequest where
  | prepare (operationId : List UInt8) (answer : QuickUnlockAnswer)
  | register (operationId : List UInt8) (input : PlatformPasskeyRegistrationInput) (drawn : DrawnCredential)
  | commit (operationId : List UInt8)
  | assert (operationId : List UInt8) (input : PlatformPasskeyAssertionInput)
  | finish (operationId : List UInt8)
  | lock
  | tryLock
  | close (vaultId : String) (baseRemoved : Except RuntimeError Unit)
  | setCurrent (vaultRefId : String) (marked : Except RuntimeError Unit)
  | addReference (stored : Except RuntimeError String)
  | deleteReference (deletion : Except RuntimeError (Option (String × Bool)))
  | openLocal (snapshot : Except RuntimeError SourceSnapshot)
  | preload (source : Except RuntimeError String) (snapshot : Except RuntimeError SourceSnapshot)
  | unlock (vaultId : String) (answer : UnlockAnswer)
  | unlockCurrent (source : Except RuntimeError String) (snapshot : Except RuntimeError SourceSnapshot)
      (answer : UnlockAnswer)
  | quickUnlock (answer : QuickUnlockAnswer)
  /-- Any other request, and time that passes. -/
  | elsewhere (loaded : BTreeMap String (Option Vault)) (now : Nat)

inductive PlatformResponse where
  | done
  | prepared (credentials : List PlatformPasskeyCredential) (autoUnlocked : Bool)
  | registered (output : PlatformPasskeyRegistrationOutput)
  | asserted (output : PlatformPasskeyAssertionOutput)

/-- A request that has no other answer. -/
def noAnswer (m : PlatformCommand Unit) : PlatformCommand PlatformResponse := do
  m
  return .done

variable (services : PlatformServices)

def PlatformRequest.handle : PlatformRequest → PlatformCommand PlatformResponse
  | .prepare operationId answer => do
      let (credentials, autoUnlocked) ← preparePlatformPasskeyOperation services operationId answer
      return .prepared credentials autoUnlocked
  | .register operationId input drawn => do
      return .registered (← registerPlatformPasskeyForOperation services operationId input drawn)
  | .commit operationId => noAnswer (commitPlatformPasskeyRegistrationOperation services operationId)
  | .assert operationId input => do
      return .asserted (← createPlatformPasskeyAssertionForOperation services operationId input)
  | .finish operationId => noAnswer (endPlatformPasskeyOperation operationId)
  | .lock => noAnswer (modify PlatformRuntime.lockSession)
  | .tryLock => noAnswer tryLockSession
  | .close vaultId baseRemoved => noAnswer (closeVault vaultId baseRemoved)
  | .setCurrent vaultRefId marked => noAnswer (setCurrentVault vaultRefId marked)
  | .addReference stored => noAnswer (addVaultReference stored)
  | .deleteReference deletion => noAnswer (deleteVaultReference deletion)
  | .openLocal snapshot => do
      let _ ← loadSourceSnapshot snapshot
      return .done
  | .preload source snapshot => noAnswer (preloadCurrentVault source snapshot)
  | .unlock vaultId answer => noAnswer (unlockVault vaultId answer)
  | .unlockCurrent source snapshot answer => noAnswer (unlockCurrentVault source snapshot answer)
  | .quickUnlock answer => noAnswer (unlockCurrentVaultWithQuickUnlock answer)
  | .elsewhere loaded now => noAnswer (modify fun runtime =>
      { runtime with session := { runtime.session with loaded, now } })

/-- The runtime after a request, whether it failed or not. -/
def PlatformRequest.after (request : PlatformRequest) (runtime : PlatformRuntime) : PlatformRuntime :=
  (request.handle services runtime).2

def runPlatformRequests (requests : List PlatformRequest) (runtime : PlatformRuntime) : PlatformRuntime :=
  requests.foldl (fun runtime request => request.after services runtime) runtime

/-- A runtime without leases. -/
def PlatformRuntime.start (session : Session) (currentVaultRefId preloadedForUnlock : Option String)
    (sessionGeneration : UInt64) : PlatformRuntime :=
  { session
    currentVaultRefId
    preloadedForUnlock
    sessionGeneration
    platformPasskeyOperations := ∅
    pendingPlatformRelock := none }

end VaultKern
