import VaultKern.Passkey.Origins

/-! # Passkey ceremonies

The ledger of ceremonies: how each is registered, goes from phase to phase and is bound to
a vault. Reading the clock more than once in a request gives the same time.
-/

namespace VaultKern

open Attempt

/-! ## Ceremonies -/

inductive PasskeyCeremonyPhase where
  | preAuthorization
  | userAuthorization
  | networkValidation
  | credentialResolution
  | userSelection
  | completionAndMutation
  | closedAborted
  | closedDelivered
  | closedFailed
  deriving DecidableEq

inductive PasskeyCeremonyDurableState where
  | none
  | snapshot
  | mutated
  | saved
  | committed
  deriving DecidableEq

inductive PasskeyCeremonyDeliveryState where
  | notDelivered
  | delivered
  | unknownDelivery
  deriving DecidableEq

inductive PasskeyFrameKind where
  | top
  | subframe
  deriving DecidableEq

inductive PasskeyUserVerificationRequirement where
  | required
  | preferred
  | discouraged
  deriving DecidableEq

inductive PasskeyUserVerificationMethod where
  | masterPassword
  | quickUnlock
  deriving DecidableEq

structure PasskeyCeremonyIdentity where
  connectionId : String
  origin : String
  topOrigin : Option String
  ancestorOrigins : List String
  relyingParty : String
  ceremony : PasskeyCeremonyKind
  discoverable : Bool
  userVerification : PasskeyUserVerificationRequirement
  challenge : String
  requestId : Int
  tabId : Int
  frameId : Int
  frameKind : PasskeyFrameKind
  registeredAtEpochMs : Nat
  expiresAtEpochMs : Nat
  deriving DecidableEq

structure PasskeyUserVerificationProof where
  vaultId : String
  method : PasskeyUserVerificationMethod
  verifiedAtEpochMs : Nat
  deriving DecidableEq

/-- What an abort needs to know to undo a registration. -/
structure PasskeyRegistrationRollbackState where
  vaultId : String
  entryId : String
  credentialId : Option String
  created : Bool
  rollbackEntry : Option Entry
  deriving DecidableEq

structure PasskeyCeremonyLedgerEntry where
  identity : PasskeyCeremonyIdentity
  phase : PasskeyCeremonyPhase
  vaultId : Option String
  durableState : PasskeyCeremonyDurableState
  deliveryState : PasskeyCeremonyDeliveryState
  userVerification : Option PasskeyUserVerificationProof
  registrationRollback : Option PasskeyRegistrationRollbackState
  deriving DecidableEq

/-- The runtime as the ceremonies see it. -/
structure PasskeyRuntime where
  session : Session
  /-- `current_unix_time_ms`. -/
  nowMs : Nat
  ceremonies : BTreeMap String PasskeyCeremonyLedgerEntry

abbrev PasskeyCommand (A : Type) := Attempt RuntimeError PasskeyRuntime A

def notRegistered (token : String) : RuntimeError := .message ("passkey ceremony not registered: " ++ token)

/-- Work on a ceremony of the ledger. -/
def onCeremony {A : Type} (token : String) (m : Attempt RuntimeError PasskeyCeremonyLedgerEntry A) : PasskeyCommand A :=
  within (fun runtime => runtime.ceremonies[token]?)
    (fun entry runtime => { runtime with ceremonies := runtime.ceremonies.insert token entry }) (notRegistered token) m

/-- Work on the session. -/
def onSession {A : Type} (m : Runtime A) : PasskeyCommand A := fun runtime =>
  ((m runtime.session).1, { runtime with session := (m runtime.session).2 })

def readCeremony (token : String) : PasskeyCommand PasskeyCeremonyLedgerEntry := do
  Attempt.require (notRegistered token) (← get).ceremonies[token]?

/-! ## Checks -/

section Checks

variable (entry : PasskeyCeremonyLedgerEntry)

def validatePasskeyCeremonyTtl (registeredAt expiresAt now : Nat) : Except RuntimeError Unit :=
  demand (registeredAt < expiresAt && expiresAt - registeredAt ≤ 300000 && now < expiresAt && registeredAt ≤ now + 5000)
    "invalid passkey ceremony ttl" (.ok ())

def validatePasskeyCeremonyNotExpired (now : Nat) : Except RuntimeError Unit :=
  demand (now < entry.identity.expiresAtEpochMs) "passkey ceremony expired" (.ok ())

def validatePasskeyCeremonyConnectionId (connectionId : String) : Except RuntimeError Unit :=
  demand (!(trimText connectionId).isEmpty && connectionId.utf8ByteSize ≤ 256) "invalid passkey ceremony connection id"
    (.ok ())

/-- The ceremony is bound to no other vault. -/
def validatePasskeyCeremonyVaultBinding (vaultId : String) : Except RuntimeError Unit :=
  demand (!(trimText vaultId).isEmpty && entry.vaultId.all fun bound => bound = vaultId) "passkey ceremony vault mismatch"
    (.ok ())

def passkeyUserVerificationIsValid (vaultId : String) (now : Nat) : Bool :=
  entry.userVerification.any fun proof =>
    proof.vaultId = vaultId && entry.identity.registeredAtEpochMs ≤ proof.verifiedAtEpochMs
      && proof.verifiedAtEpochMs ≤ now && proof.verifiedAtEpochMs ≤ entry.identity.expiresAtEpochMs

end Checks

def PasskeyCeremonyPhase.isClosed : PasskeyCeremonyPhase → Bool
  | .closedAborted | .closedDelivered | .closedFailed => true
  | _ => false

/-- `active_edges` of the transition contract. -/
def passkeyCeremonyActiveTransitionEdges : List (PasskeyCeremonyPhase × PasskeyCeremonyPhase) :=
  [(.preAuthorization, .userAuthorization),
    (.userAuthorization, .networkValidation),
    (.userAuthorization, .credentialResolution),
    (.networkValidation, .credentialResolution),
    (.credentialResolution, .userSelection),
    (.credentialResolution, .completionAndMutation),
    (.userSelection, .completionAndMutation)]

def passkeyCeremonyActiveTransitionEdgeAllowed (library : WebLibrary) (expectedPhase nextPhase : PasskeyCeremonyPhase)
    (identity : PasskeyCeremonyIdentity) (relatedOriginVerified : Bool) : Bool :=
  match expectedPhase, nextPhase with
  | .userAuthorization, .networkValidation =>
      !passkeyCeremonyOriginMatchesRelyingParty library identity.origin identity.relyingParty
  | .userAuthorization, .credentialResolution =>
      passkeyCeremonyOriginMatchesRelyingParty library identity.origin identity.relyingParty
  | .networkValidation, .credentialResolution => relatedOriginVerified
  | _, _ => true

def isLegalPasskeyCeremonyTransition (library : WebLibrary) (expectedPhase nextPhase : PasskeyCeremonyPhase)
    (identity : PasskeyCeremonyIdentity) (relatedOriginVerified : Bool) : Bool :=
  if relatedOriginVerified && (expectedPhase, nextPhase) ≠ (.networkValidation, .credentialResolution) then false
  else if passkeyCeremonyActiveTransitionEdges.contains (expectedPhase, nextPhase) then
    passkeyCeremonyActiveTransitionEdgeAllowed library expectedPhase nextPhase identity relatedOriginVerified
  else match nextPhase with
    | .closedDelivered => expectedPhase = .completionAndMutation
    | .closedAborted | .closedFailed => !expectedPhase.isClosed
    | _ => false

def isStalePasskeyPhaseAdvanceNoop (currentPhase expectedPhase nextPhase : PasskeyCeremonyPhase) : Bool :=
  expectedPhase = .completionAndMutation && currentPhase = nextPhase && nextPhase.isClosed

def isPasskeyCeremonyVaultBindingPhase (phase : PasskeyCeremonyPhase) : Bool :=
  phase = .userAuthorization || phase = .credentialResolution || phase = .userSelection

/-! ## Registering -/

/-- An expired ceremony goes unless it has a registration to undo. -/
def outlivesExpiry (now : Nat) (entry : PasskeyCeremonyLedgerEntry) : Bool :=
  now < entry.identity.expiresAtEpochMs
    || (entry.phase = .completionAndMutation && entry.identity.ceremony = .create && entry.durableState ≠ .none)

def pruneExpiredPasskeyCeremonies (ceremonies : BTreeMap String PasskeyCeremonyLedgerEntry) (now : Nat) :
    BTreeMap String PasskeyCeremonyLedgerEntry :=
  ceremonies.filter fun _ entry => outlivesExpiry now entry

section Registering

variable (library : WebLibrary)

def validateOrigins (label : String) : List String → Except RuntimeError Unit
  | [] => .ok ()
  | origin :: rest => do
      validatePasskeyCeremonyOriginValue library origin label
      validateOrigins label rest

/-- The checks of a new ceremony that look at nothing else. -/
def validatePasskeyCeremonyIdentity (identity : PasskeyCeremonyIdentity) (now : Nat) : Except RuntimeError Unit := do
  validatePasskeyCeremonyTtl identity.registeredAtEpochMs identity.expiresAtEpochMs now
  validatePasskeyCeremonyConnectionId identity.connectionId
  validatePasskeyCeremonyChallenge library identity.challenge
  validatePasskeyCeremonyOriginAndRelyingPartyForS0 library identity.origin identity.relyingParty
  validateOrigins library "top" identity.topOrigin.toList
  validateOrigins library "ancestor" identity.ancestorOrigins
  let last := identity.ancestorOrigins.getLast?
  demand (0 ≤ identity.tabId && 0 ≤ identity.frameId) "passkey ceremony frame position is invalid" <|
    demand (identity.frameKind = if identity.frameId = 0 then .top else .subframe)
      "passkey ceremony frame kind mismatch" <|
    demand (!(identity.frameKind = .top && (identity.topOrigin.isSome || !identity.ancestorOrigins.isEmpty)))
      "passkey ceremony top frame cannot have ancestor origins" <|
    demand (!(!identity.ancestorOrigins.isEmpty && identity.topOrigin.isNone))
      "passkey ceremony top origin is required when ancestors are present" <|
    demand (identity.topOrigin.all fun top => last.all fun last => passkeyCeremonyOriginsAreSameOrigin library top last)
      "passkey ceremony top origin must match the last ancestor" <|
    demand (!(identity.frameKind = .subframe && (identity.topOrigin.isNone || identity.ancestorOrigins.isEmpty)))
      "passkey ceremony subframe top origin is required" (.ok ())

/-- Another ceremony of the same place is still open. -/
def competesWith (identity : PasskeyCeremonyIdentity) (existing : PasskeyCeremonyLedgerEntry) : Bool :=
  !existing.phase.isClosed && identity.registeredAtEpochMs < existing.identity.expiresAtEpochMs
    && existing.identity.origin = identity.origin && existing.identity.relyingParty = identity.relyingParty
    && existing.identity.tabId = identity.tabId && existing.identity.frameId = identity.frameId

def newCeremony (identity : PasskeyCeremonyIdentity) : PasskeyCeremonyLedgerEntry :=
  { identity
    phase := .preAuthorization
    vaultId := none
    durableState := .none
    deliveryState := .notDelivered
    userVerification := none
    registrationRollback := none }

/-- The pruning comes first, also when the registration then fails. -/
def registerPasskeyCeremony (token : String) (identity : PasskeyCeremonyIdentity) : PasskeyCommand Unit := do
  let now := (← get).nowMs
  modify fun runtime => { runtime with ceremonies := pruneExpiredPasskeyCeremonies runtime.ceremonies now }
  lift (validatePasskeyCeremonyIdentity library identity now)
  let ceremonies := (← get).ceremonies
  match ceremonies[token]? with
  | some existing => ensure (existing.identity = identity) (.message "passkey ceremony token already registered")
  | none =>
      ensure (!ceremonies.values.any (competesWith identity))
        (.message "passkey ceremony already active for origin, relying party, tab, and frame")
      modify fun runtime => { runtime with ceremonies := runtime.ceremonies.insert token (newCeremony identity) }

/-! ## Phases -/

/-- What `advance_passkey_ceremony_phase` does to the ceremony. -/
def advancePhase (now : Nat) (expectedPhase nextPhase : PasskeyCeremonyPhase) (relatedOriginVerified : Bool) :
    Attempt RuntimeError PasskeyCeremonyLedgerEntry Unit := fun entry =>
  let refuse (text : String) := (.error (.message text), entry)
  if entry.phase ≠ expectedPhase then
    if isStalePasskeyPhaseAdvanceNoop entry.phase expectedPhase nextPhase then (.ok (), entry)
    else refuse "passkey ceremony phase mismatch"
  else if expectedPhase = .networkValidation && nextPhase = .credentialResolution && !relatedOriginVerified then
    refuse "passkey ceremony related origin evidence is required"
  else if !isLegalPasskeyCeremonyTransition library expectedPhase nextPhase entry.identity relatedOriginVerified then
    refuse "illegal passkey ceremony phase transition"
  else if nextPhase = .closedDelivered && entry.identity.ceremony = .create && entry.durableState ≠ .committed then
    refuse "passkey ceremony must be committed before delivery"
  else if !nextPhase.isClosed && entry.identity.expiresAtEpochMs ≤ now then refuse "passkey ceremony expired"
  else
    (.ok (), { entry with
      phase := nextPhase
      deliveryState := if nextPhase = .closedDelivered then .delivered else entry.deliveryState })

def advancePasskeyCeremonyPhase (token : String) (expectedPhase nextPhase : PasskeyCeremonyPhase)
    (relatedOriginVerified : Bool) : PasskeyCommand Unit := do
  onCeremony token (advancePhase library (← get).nowMs expectedPhase nextPhase relatedOriginVerified)

end Registering

/-! ## Vault bindings -/

def bindVault (vaultId : String) : Attempt RuntimeError PasskeyCeremonyLedgerEntry Unit := do
  lift (validatePasskeyCeremonyVaultBinding (← get) vaultId)
  modify fun entry => { entry with vaultId := some (entry.vaultId.getD vaultId) }

def bindPasskeyCeremonyVaultAfterVaultLookup (token vaultId : String) : PasskeyCommand Unit :=
  onCeremony token (bindVault vaultId)

/-- `loaded_vault`. -/
def loadedVault (vaultId : String) : PasskeyCommand Vault := do
  lift ((← get).session.vault vaultId)

def bindPasskeyCeremonyVault (token : String) (expectedPhase : PasskeyCeremonyPhase) (vaultId : String) :
    PasskeyCommand Unit := do
  let now := (← get).nowMs
  let entry ← readCeremony token
  ensure (isPasskeyCeremonyVaultBindingPhase expectedPhase && entry.phase = expectedPhase && !entry.phase.isClosed)
    (.message "passkey ceremony phase mismatch")
  lift (validatePasskeyCeremonyNotExpired entry now)
  lift (validatePasskeyCeremonyVaultBinding entry vaultId)
  let _ ← loadedVault vaultId
  onCeremony token (bindVault vaultId)

/-! ## Delivery -/

def markUnknownDelivery (expectedPhase : PasskeyCeremonyPhase) :
    Attempt RuntimeError PasskeyCeremonyLedgerEntry Unit := fun entry =>
  let refuse (text : String) := (.error (.message text), entry)
  if entry.phase = .closedDelivered && entry.deliveryState = .unknownDelivery then (.ok (), entry)
  else if entry.phase ≠ expectedPhase then refuse "passkey ceremony phase mismatch"
  else if entry.identity.ceremony = .create && entry.durableState ≠ .committed then
    refuse "passkey ceremony is not committed"
  else if entry.identity.ceremony = .get && entry.durableState ≠ .none then
    refuse "passkey get ceremony cannot have durable state"
  else (.ok (), { entry with phase := .closedDelivered, deliveryState := .unknownDelivery })

def expectedS4 : RuntimeError := .message "passkey ceremony expected phase must be s4_completion_and_mutation"

def markPasskeyCeremonyUnknownDelivery (token : String) (expectedPhase : PasskeyCeremonyPhase) : PasskeyCommand Unit := do
  ensure (expectedPhase = .completionAndMutation) expectedS4
  onCeremony token (markUnknownDelivery expectedPhase)

end VaultKern
