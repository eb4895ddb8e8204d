import VaultKern.Passkey.Registration

/-! # Runs of requests

The requests that the ledger of ceremonies answers, and whatever else may happen between
them to the vaults and the clock.
-/

namespace VaultKern

inductive PasskeyRequest where
  | register (token : String) (identity : PasskeyCeremonyIdentity)
  | advance (token : String) (expectedPhase nextPhase : PasskeyCeremonyPhase) (relatedOriginVerified : Bool)
  | bind (token : String) (expectedPhase : PasskeyCeremonyPhase) (vaultId : String)
  | query (token : String)
  | reconcile (activeConnectionId : String)
  | markUnknownDelivery (token : String) (expectedPhase : PasskeyCeremonyPhase)
  | verifyUser (token : String) (expectedPhase : PasskeyCeremonyPhase) (vaultId : String)
      (method : PasskeyUserVerificationMethod) (password : Option String) (cancelledBefore cancelledAfter : Bool)
      (verifiedAt : Nat)
  | createAssertion (token : String) (expectedPhase : PasskeyCeremonyPhase) (request : CreatePasskeyAssertionRequest)
  | createRegistration (token : String) (expectedPhase : PasskeyCeremonyPhase)
      (request : CreatePasskeyRegistrationRequest) (drawn : DrawnCredential)
  | save (token : String) (expectedPhase : PasskeyCeremonyPhase) (vaultId : String)
  | abort (token : String) (expectedPhase closedPhase : PasskeyCeremonyPhase)
  | commit (token : String) (expectedPhase : PasskeyCeremonyPhase) (vaultId entryId credentialId : String)
  | credentialStatus (token : String) (expectedPhase : PasskeyCeremonyPhase) (vaultId : String)
      (credentialIds : List String) (relyingParty : String)
  | listCredentials (token : String) (expectedPhase : PasskeyCeremonyPhase) (vaultId relyingParty : String)
  /-- Any other request, and time that passes. -/
  | elsewhere (session : Session) (nowMs : Nat)

structure PasskeyCeremonyLedgerDto where
  phase : PasskeyCeremonyPhase
  durableState : PasskeyCeremonyDurableState
  deliveryState : PasskeyCeremonyDeliveryState
  deriving DecidableEq

inductive PasskeyResponse where
  | done
  | ledger (entry : Option PasskeyCeremonyLedgerDto)
  | reconciled (ceremonies : List (String × PasskeyCeremonyDeliveryState))
  | assertion (assertion : PasskeyAssertion)
  | registration (registration : PasskeyRegistrationDto)
  | saved (result : Option SaveVaultResult)
  | statuses (statuses : List (String × Bool))
  | credentials (credentials : List PasskeyCredentialCandidate)

def queryPasskeyCeremonyLedger (token : String) (runtime : PasskeyRuntime) : Option PasskeyCeremonyLedgerDto :=
  runtime.ceremonies[token]?.map fun entry =>
    { phase := entry.phase, durableState := entry.durableState, deliveryState := entry.deliveryState }

variable (services : PasskeyServices)

def PasskeyRequest.handle : PasskeyRequest → PasskeyCommand PasskeyResponse
  | .register token identity => do
      registerPasskeyCeremony services.toWebLibrary token identity
      return .done
  | .advance token expectedPhase nextPhase relatedOriginVerified => do
      advancePasskeyCeremonyPhase services.toWebLibrary token expectedPhase nextPhase relatedOriginVerified
      return .done
  | .bind token expectedPhase vaultId => do
      bindPasskeyCeremonyVault token expectedPhase vaultId
      return .done
  | .query token => do
      return .ledger (queryPasskeyCeremonyLedger token (← get))
  | .reconcile activeConnectionId => do
      return .reconciled (← reconcilePasskeyCeremonyLedger services activeConnectionId)
  | .markUnknownDelivery token expectedPhase => do
      markPasskeyCeremonyUnknownDelivery token expectedPhase
      return .done
  | .verifyUser token expectedPhase vaultId method password cancelledBefore cancelledAfter verifiedAt => do
      verifyPasskeyUser services token expectedPhase vaultId method password cancelledBefore cancelledAfter verifiedAt
      return .done
  | .createAssertion token expectedPhase request => do
      return .assertion (← createPasskeyAssertion services token expectedPhase request)
  | .createRegistration token expectedPhase request drawn => do
      return .registration (← createPasskeyRegistration services token expectedPhase request drawn)
  | .save token expectedPhase vaultId => do
      return .saved (← savePasskeyRegistration services token expectedPhase vaultId)
  | .abort token expectedPhase closedPhase => do
      abortPasskeyRegistration services token expectedPhase closedPhase
      return .done
  | .commit token expectedPhase vaultId entryId credentialId => do
      commitPasskeyRegistration token expectedPhase vaultId entryId credentialId
      return .done
  | .credentialStatus token expectedPhase vaultId credentialIds relyingParty => do
      return .statuses
        (← passkeyCredentialStatusBatch services token expectedPhase vaultId credentialIds relyingParty)
  | .listCredentials token expectedPhase vaultId relyingParty => do
      return .credentials (← listPasskeyCredentials services token expectedPhase vaultId relyingParty)
  | .elsewhere session nowMs => do
      modify fun runtime => { runtime with session, nowMs }
      return .done

/-- The runtime after a request, whether it failed or not. -/
def PasskeyRequest.after (request : PasskeyRequest) (runtime : PasskeyRuntime) : PasskeyRuntime :=
  (request.handle services runtime).2

/-- The runtimes that runs of allowed requests lead to, from an empty ledger. -/
inductive PasskeyReaches (allowed : PasskeyRequest → PasskeyRuntime → Prop) : PasskeyRuntime → Prop
  | start (session : Session) (nowMs : Nat) : PasskeyReaches allowed ⟨session, nowMs, ∅⟩
  | step {runtime : PasskeyRuntime} (request : PasskeyRequest) (reached : PasskeyReaches allowed runtime)
      (accepted : allowed request runtime) : PasskeyReaches allowed (request.after services runtime)

/-- The runtime after one request after the other. -/
def runRequests (requests : List PasskeyRequest) (runtime : PasskeyRuntime) : PasskeyRuntime :=
  requests.foldl (fun runtime request => request.after services runtime) runtime

theorem PasskeyReaches.run {allowed : PasskeyRequest → PasskeyRuntime → Prop} {requests : List PasskeyRequest}
    {runtime : PasskeyRuntime} (reached : PasskeyReaches services allowed runtime)
    (accepted : ∀ request ∈ requests, ∀ runtime, allowed request runtime) :
    PasskeyReaches services allowed (runRequests services requests runtime) := by
  induction requests generalizing runtime with
  | nil => exact reached
  | cons request rest ih =>
      refine ih (reached.step request (accepted request List.mem_cons_self runtime)) fun later member => ?_
      exact accepted later (List.mem_cons_of_mem _ member)

end VaultKern
