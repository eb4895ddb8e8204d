import VaultKern.Guarantees.CeremonyRuns

/-! # User verification

Each verification of a user is good for one signature of its ceremony and its vault. The
proof stays in the ledger from the verification to the signature that takes it away.
-/

namespace VaultKern

open Attempt

/-! ## Proofs of the ledger -/

/-- A ceremony that keeps its proof or loses it. -/
structure ProofStep (before after : PasskeyCeremonyLedgerEntry) : Prop where
  identity : after.identity = before.identity
  proof : after.userVerification = before.userVerification ∨ after.userVerification = none

instance : Std.Refl ProofStep := ⟨fun _ => ⟨rfl, .inl rfl⟩⟩

theorem IdleStep.proofs {before after : PasskeyCeremonyLedgerEntry} (idle : IdleStep before after) :
    ProofStep before after :=
  ⟨idle.quiet.identity, idle.proof⟩

theorem Settles.proofs {services : PasskeyServices} {calls : List (String × PasskeyRuntime)} {token : String}
    {before after : PasskeyCeremonyLedgerEntry} (settles : Settles services calls token before after) : ProofStep before after := by
  cases settles <;> exact ⟨rfl, .inl rfl⟩

/-- Every proof was there before, in the same ceremony. -/
def KeepsProofs (before after : PasskeyRuntime) : Prop :=
  ∀ (token : String) (entry : PasskeyCeremonyLedgerEntry) (proof : PasskeyUserVerificationProof),
    after.ceremonies[token]? = some entry → entry.userVerification = some proof →
    ∃ earlier, before.ceremonies[token]? = some earlier ∧ earlier.identity = entry.identity ∧
      earlier.userVerification = some proof

namespace KeepsProofs

variable {first second third : PasskeyRuntime}

theorem of_same (same : second.ceremonies = first.ceremonies) : KeepsProofs first second := by
  intro token entry proof held verified
  rw [same] at held
  exact ⟨entry, held, rfl, verified⟩

theorem trans (early : KeepsProofs first second) (late : KeepsProofs second third) : KeepsProofs first third := by
  intro token entry proof held verified
  obtain ⟨mid, held', identity, verified'⟩ := late token entry proof held verified
  obtain ⟨earlier, found, identity', verified''⟩ := early token mid proof held' verified'
  exact ⟨earlier, found, identity'.trans identity, verified''⟩

theorem of_moves {R : PasskeyCeremonyLedgerEntry → PasskeyCeremonyLedgerEntry → Prop}
    (moves : LedgerMoves R first second) (proofs : ∀ {a b}, R a b → ProofStep a b) : KeepsProofs first second := by
  intro token entry proof held verified
  have here := moves token
  rw [held] at here
  generalize first.ceremonies[token]? = a at here ⊢
  cases here with
  | some step =>
      refine ⟨_, rfl, (proofs step).identity.symm, ?_⟩
      rcases (proofs step).proof with kept | lost
      · rw [← kept, verified]
      · rw [lost] at verified
        cases verified

theorem of_settles {services : PasskeyServices} {calls : List (String × PasskeyRuntime)}
    (settles : LedgerSettles services calls first second) :
    KeepsProofs first second := by
  intro token entry proof held verified
  have here := settles token
  rw [held] at here
  generalize first.ceremonies[token]? = a at here ⊢
  cases here with
  | some settled =>
      refine ⟨_, rfl, settled.proofs.identity.symm, ?_⟩
      rcases settled.proofs.proof with kept | lost
      · rw [← kept, verified]
      · rw [lost] at verified
        cases verified

/-- A new ceremony has no proof. -/
theorem of_registers {library : WebLibrary} (registers : Registers library first second) : KeepsProofs first second := by
  intro token entry proof held verified
  have kept (pruned : (pruneExpiredPasskeyCeremonies first.ceremonies first.nowMs)[token]? = some entry) :
      ∃ earlier, first.ceremonies[token]? = some earlier ∧ earlier.identity = entry.identity ∧
        earlier.userVerification = some proof := by
    rw [pruned_lookup] at pruned
    exact ⟨entry, (Option.filter_eq_some_iff.mp pruned).1, rfl, verified⟩
  rcases registers.outcome with same | ⟨fresh, identity, _, _, _, same⟩
  · rw [same] at held
    exact kept held
  · rw [same, BTreeMap.insert_lookup] at held
    split at held
    · cases held
      cases verified
    · exact kept held

end KeepsProofs

section Commands

variable {A B : Type}

theorem keepsProofs_bind {m : PasskeyCommand A} {next : A → PasskeyCommand B} (first : Moves KeepsProofs m)
    (rest : ∀ a, Moves KeepsProofs (next a)) : Moves KeepsProofs (m >>= next) :=
  Moves.bind (R := KeepsProofs) (fun _ _ _ => KeepsProofs.trans) first rest

theorem keepsProofs_of_readOnly {m : PasskeyCommand A} (reads : ReadOnly m) : Moves KeepsProofs m :=
  reads.moves fun _ => .of_same rfl

theorem keepsProofs_of_idle {m : PasskeyCommand A} (idle : Moves (Idle IdleStep) m) : Moves KeepsProofs m :=
  fun runtime => .of_moves (idle runtime).ledger fun step => step.proofs

theorem onSession_keepsProofs (m : Runtime A) : Moves KeepsProofs (onSession m) := fun _ => .of_same rfl

theorem onCeremony_keepsProofs {token : String} {m : Attempt RuntimeError PasskeyCeremonyLedgerEntry A}
    (moves : Moves ProofStep m) : Moves KeepsProofs (onCeremony token m) :=
  fun runtime => .of_moves (onCeremony_moves Std.Refl.refl moves runtime) id

end Commands

/-! ## Requests that verify nobody -/

section Requests

variable (services : PasskeyServices)

theorem advancePhase_proofs {library : WebLibrary} (now : Nat) (expectedPhase nextPhase : PasskeyCeremonyPhase)
    (relatedOriginVerified : Bool) :
    Moves ProofStep (advancePhase library now expectedPhase nextPhase relatedOriginVerified) := by
  intro entry
  rcases advancePhase_cases library now expectedPhase nextPhase relatedOriginVerified entry with
    same | ⟨_, _, _, _, _, moved⟩
  · rw [same]
    exact Std.Refl.refl entry
  · rw [moved]
    exact ⟨rfl, .inl rfl⟩

theorem advance_keepsProofs {library : WebLibrary} (token : String) (expectedPhase nextPhase : PasskeyCeremonyPhase)
    (relatedOriginVerified : Bool) :
    Moves KeepsProofs (advancePasskeyCeremonyPhase library token expectedPhase nextPhase relatedOriginVerified) :=
  keepsProofs_bind (keepsProofs_of_readOnly .get) fun _ =>
    onCeremony_keepsProofs (advancePhase_proofs _ expectedPhase nextPhase relatedOriginVerified)

theorem mark_keepsProofs (library : WebLibrary) (token : String) (expectedPhase : PasskeyCeremonyPhase) :
    Moves KeepsProofs (markPasskeyCeremonyUnknownDelivery token expectedPhase) := by
  intro runtime
  refine ReadOnly.peel (.ensure _ _) (.of_same rfl) fun _ expected => ?_
  obtain rfl : expectedPhase = .completionAndMutation := by simpa using (ensure_ok.mp expected).1
  refine onCeremony_keepsProofs (fun entry => ?_) runtime
  rcases markUnknownDelivery_cases library entry with same | ⟨_, _, _, moved⟩
  · rw [same]
    exact Std.Refl.refl entry
  · rw [moved]
    exact ⟨rfl, .inl rfl⟩

theorem setRollback_keepsProofs (token : String) (rollback : PasskeyRegistrationRollbackState)
    (durableState : PasskeyCeremonyDurableState) :
    Moves KeepsProofs (setPasskeyRegistrationRollback token rollback durableState) := by
  refine onCeremony_keepsProofs fun entry => ?_
  cases checked : checkRegistrationOpen entry with
  | error e => simpa [bind_run, checked] using Std.Refl.refl (r := ProofStep) entry
  | ok _ => simp [bind_run, checked, ProofStep.mk]

theorem setDurableState_keepsProofs (token : String) (durableState : PasskeyCeremonyDurableState) :
    Moves KeepsProofs (setPasskeyCeremonyDurableState token durableState) := by
  refine onCeremony_keepsProofs fun entry => ?_
  cases checked : checkRegistrationOpen entry with
  | error e => simpa [bind_run, checked] using Std.Refl.refl (r := ProofStep) entry
  | ok _ => simp [bind_run, checked, ProofStep.mk]

theorem storeRegistration_keepsProofs (token : String) (request : CreatePasskeyRegistrationRequest)
    (drawn : DrawnCredential) (registration : PasskeyRegistration) (modifiedAt : Nat)
    (existing : Option (String × Entry)) :
    Moves KeepsProofs (storeRegistration token request drawn registration modifiedAt existing) := by
  cases existing with
  | none =>
      exact keepsProofs_bind (setRollback_keepsProofs token _ _) fun _ => keepsProofs_bind (onSession_keepsProofs _)
        fun _ => keepsProofs_bind (setDurableState_keepsProofs token _) fun _ => keepsProofs_of_readOnly (.pure _)
  | some found =>
      exact keepsProofs_bind (setRollback_keepsProofs token _ _) fun _ => keepsProofs_bind (onSession_keepsProofs _)
        fun _ => keepsProofs_bind (setDurableState_keepsProofs token _) fun _ => keepsProofs_of_readOnly (.pure _)

theorem createRegistration_keepsProofs (token : String) (expectedPhase : PasskeyCeremonyPhase)
    (request : CreatePasskeyRegistrationRequest) (drawn : DrawnCredential) :
    Moves KeepsProofs (createPasskeyRegistration services token expectedPhase request drawn) := by
  rw [createPasskeyRegistration]
  exact keepsProofs_bind (keepsProofs_of_idle (prepareRegistration_idle services)) fun _ =>
    storeRegistration_keepsProofs token request drawn _ _ _

theorem markSaved_proofs (expectedPhase : PasskeyCeremonyPhase) : Moves ProofStep (markSaved expectedPhase) := by
  intro entry
  unfold markSaved
  by_cases phase : entry.phase = expectedPhase
  · by_cases committed : entry.durableState = .committed
    · simpa [bind_run, phase, committed] using Std.Refl.refl (r := ProofStep) entry
    · simp [bind_run, phase, committed, ProofStep.mk]
  · simpa [bind_run, phase] using Std.Refl.refl (r := ProofStep) entry

theorem save_keepsProofs (token : String) (expectedPhase : PasskeyCeremonyPhase) (vaultId : String) :
    Moves KeepsProofs (savePasskeyRegistration services token expectedPhase vaultId) := by
  refine keepsProofs_bind (keepsProofs_of_readOnly (.ensure _ _)) fun _ => ?_
  refine keepsProofs_bind (keepsProofs_of_readOnly .get) fun _ => ?_
  refine keepsProofs_bind (keepsProofs_of_readOnly (readCeremony_readOnly token)) fun entry => ?_
  split
  · exact keepsProofs_of_readOnly (.bind (.ensure _ _) fun _ => .pure none)
  · exact keepsProofs_bind (keepsProofs_of_readOnly (.lift _)) fun _ => keepsProofs_bind (onSession_keepsProofs _)
      fun _ => keepsProofs_bind (keepsProofs_of_readOnly (.lift _)) fun _ =>
      keepsProofs_bind (onCeremony_keepsProofs (markSaved_proofs expectedPhase)) fun _ =>
      keepsProofs_of_readOnly (.pure _)

theorem commit_keepsProofs (token : String) (expectedPhase : PasskeyCeremonyPhase) (vaultId entryId credentialId : String) :
    Moves KeepsProofs (commitPasskeyRegistration token expectedPhase vaultId entryId credentialId) := by
  intro runtime
  refine ReadOnly.peel (.ensure _ _) (.of_same rfl) fun _ expected => ?_
  obtain rfl : expectedPhase = .completionAndMutation := by simpa using (ensure_ok.mp expected).1
  refine ReadOnly.peel .get (.of_same rfl) fun _ _ => ?_
  refine onCeremony_keepsProofs (fun entry => ?_) runtime
  rcases commitRegistration_cases vaultId entryId credentialId _ entry with same | ⟨_, _, committed⟩
  · rw [same]
    exact Std.Refl.refl entry
  · rw [committed]
    exact ⟨rfl, .inl rfl⟩

/-! ## A request that verifies a user -/

theorem recordUserVerification_cases (expectedPhase : PasskeyCeremonyPhase) (vaultId : String)
    (method : PasskeyUserVerificationMethod) (verifiedAt : Nat) (entry : PasskeyCeremonyLedgerEntry) :
    (∃ e, recordUserVerification expectedPhase vaultId method verifiedAt entry = (.error e, entry)) ∨
      recordUserVerification expectedPhase vaultId method verifiedAt entry = (.ok (), { entry with
        vaultId := some (entry.vaultId.getD vaultId)
        userVerification := some { vaultId, method, verifiedAtEpochMs := verifiedAt } }) := by
  unfold recordUserVerification
  by_cases phase : entry.phase = expectedPhase
  · cases expired : validatePasskeyCeremonyNotExpired entry verifiedAt with
    | error e => exact .inl ⟨e, by simp [bind_run, phase, expired]⟩
    | ok _ =>
        cases binding : validatePasskeyCeremonyVaultBinding entry vaultId with
        | error e => exact .inl ⟨e, by simp [bind_run, phase, expired, bindVault, binding]⟩
        | ok _ => exact .inr (by simp [bind_run, phase, expired, bindVault, binding])
  · exact .inl ⟨.message "passkey ceremony phase mismatch", by simp [bind_run, phase]⟩

/-- The proof of a ceremony is new only if its user has been verified. -/
structure NewProof (token vaultId : String) (verifiedAt : Nat) (before : PasskeyRuntime)
    (run : Except RuntimeError Unit × PasskeyRuntime) : Prop where
  done : run.1 = .ok ()
  ceremony : ∃ entry method, before.ceremonies[token]? = some entry ∧
    run.2.ceremonies = before.ceremonies.insert token { entry with
      vaultId := some (entry.vaultId.getD vaultId)
      userVerification := some { vaultId, method, verifiedAtEpochMs := verifiedAt } }

theorem verifyPasskeyUser_proofs (token : String) (expectedPhase : PasskeyCeremonyPhase) (vaultId : String)
    (method : PasskeyUserVerificationMethod) (password : Option String) (cancelledBefore cancelledAfter : Bool)
    (verifiedAt : Nat) (runtime : PasskeyRuntime) :
    let run := verifyPasskeyUser services token expectedPhase vaultId method password cancelledBefore cancelledAfter
      verifiedAt runtime
    KeepsProofs runtime run.2 ∨ NewProof token vaultId verifiedAt runtime run := by
  let Allowed (run : Except RuntimeError Unit × PasskeyRuntime) : Prop :=
    KeepsProofs runtime run.2 ∨ NewProof token vaultId verifiedAt runtime run
  have failed (e : RuntimeError) : Allowed (.error e, runtime) := .inl (.of_same rfl)
  change Allowed _
  unfold verifyPasskeyUser
  refine ReadOnly.peel_run (.ensure _ _) failed fun _ _ => ?_
  refine ReadOnly.peel_run (.ensure _ _) failed fun _ _ => ?_
  refine ReadOnly.peel_run .get failed fun state _ => ?_
  refine ReadOnly.peel_run (.ensure _ _) failed fun _ _ => ?_
  refine ReadOnly.peel_run (readCeremony_readOnly token) failed fun entry _ => ?_
  refine ReadOnly.peel_run (.ensure _ _) failed fun _ _ => ?_
  generalize validatePasskeyCeremonyNotExpired entry state.nowMs = inTime
  refine ReadOnly.peel_run (.lift inTime) failed fun _ _ => ?_
  generalize validatePasskeyCeremonyVaultBinding entry vaultId = bound
  refine ReadOnly.peel_run (.lift bound) failed fun _ _ => ?_
  refine ReadOnly.peel_run (.lift _) failed fun _ _ => ?_
  refine ReadOnly.peel_run (.ensure _ _) failed fun _ _ => ?_
  rw [bind_run, modify_run]
  let later : PasskeyRuntime := { runtime with nowMs := verifiedAt }
  change Allowed (onCeremony token _ later)
  cases held : runtime.ceremonies[token]? with
  | none =>
      rw [onCeremony_missing (show later.ceremonies[token]? = none from held)]
      exact .inl (.of_same rfl)
  | some entry =>
      rw [onCeremony_held (show later.ceremonies[token]? = some entry from held)]
      rcases recordUserVerification_cases expectedPhase vaultId method verifiedAt entry with ⟨e, refused⟩ | recorded
      · rw [refused, BTreeMap.insert_same held]
        exact .inl (.of_same rfl)
      · rw [recorded]
        exact .inr ⟨rfl, entry, method, held, rfl⟩

/-! ## Signatures -/

theorem notExpired_ok {entry : PasskeyCeremonyLedgerEntry} {now : Nat}
    (checked : validatePasskeyCeremonyNotExpired entry now = .ok ()) : now < entry.identity.expiresAtEpochMs := by
  unfold validatePasskeyCeremonyNotExpired demand at checked
  split at checked
  · rename_i inTime
    simpa using inTime
  · cases checked

theorem validatePasskeyCeremonyForS4_ok {token : String} {expectedPhase : PasskeyCeremonyPhase}
    {kind : PasskeyCeremonyKind} {vaultId origin relyingParty : String} {discoverable : Option Bool}
    {clientData : String} {runtime after : PasskeyRuntime} {expectations : PasskeyClientDataExpectations}
    (checked : validatePasskeyCeremonyForS4 services token expectedPhase kind vaultId origin relyingParty discoverable
      clientData runtime = (.ok expectations, after)) :
    ∃ entry, runtime.ceremonies[token]? = some entry ∧ runtime.nowMs < entry.identity.expiresAtEpochMs ∧
      entry.phase = .completionAndMutation ∧ entry.identity.origin = origin ∧
      entry.identity.relyingParty = relyingParty := by
  obtain ⟨_, expected, checked⟩ := (ReadOnly.ensure _ _).bind_ok.mp checked
  obtain ⟨_, same, checked⟩ := ReadOnly.get.bind_ok.mp checked
  cases same
  obtain ⟨entry, read, checked⟩ := (readCeremony_readOnly token).bind_ok.mp checked
  obtain ⟨_, phase, checked⟩ := (ReadOnly.ensure _ _).bind_ok.mp checked
  obtain ⟨_, _, checked⟩ := (ReadOnly.ensure _ _).bind_ok.mp checked
  obtain ⟨_, origin', checked⟩ := (ReadOnly.ensure _ _).bind_ok.mp checked
  obtain ⟨_, party, checked⟩ := (ReadOnly.ensure _ _).bind_ok.mp checked
  obtain ⟨_, _, checked⟩ := (ReadOnly.ensure _ _).bind_ok.mp checked
  obtain ⟨_, inTime, checked⟩ := (ReadOnly.lift _).bind_ok.mp checked
  have expected' : expectedPhase = .completionAndMutation := by simpa using (ensure_ok.mp expected).1
  have phase' : entry.phase = expectedPhase := by simpa using (ensure_ok.mp phase).1
  exact ⟨entry, readCeremony_ok read, notExpired_ok (lift_eq_ok.mp inTime).1, phase'.trans expected',
    by simpa using (ensure_ok.mp origin').1, by simpa using (ensure_ok.mp party).1⟩

theorem bindAfterLookup_ok {token vaultId : String} {runtime after : PasskeyRuntime}
    (bound : bindPasskeyCeremonyVaultAfterVaultLookup token vaultId runtime = (.ok (), after)) :
    ∃ entry vaultId, runtime.ceremonies[token]? = some entry ∧
      after = { runtime with ceremonies := runtime.ceremonies.insert token { entry with vaultId } } := by
  unfold bindPasskeyCeremonyVaultAfterVaultLookup at bound
  cases held : runtime.ceremonies[token]? with
  | none =>
      rw [onCeremony_missing held] at bound
      cases bound
  | some entry =>
      rw [onCeremony_held held] at bound
      unfold bindVault at bound
      cases checked : validatePasskeyCeremonyVaultBinding entry vaultId with
      | error e => simp [bind_run, checked] at bound
      | ok _ =>
          simp only [bind_run, get_run, checked, lift_ok, modify_run, Prod.mk.injEq, true_and] at bound
          exact ⟨entry, _, rfl, bound.symm⟩

/-- Taking the proof of a ceremony away. -/
structure TakesProof (token vaultId : String) (before after : PasskeyRuntime) (verified : Bool) : Prop where
  ceremony : ∃ entry, before.ceremonies[token]? = some entry ∧
    verified = passkeyUserVerificationIsValid entry vaultId before.nowMs ∧
    (entry.identity.userVerification = .required → verified)
  taken : ∀ entry, after.ceremonies[token]? = some entry → entry.userVerification = none

theorem consume_takes {token vaultId : String} {runtime after : PasskeyRuntime} {verified : Bool}
    (consumed : consumePasskeyCeremonyUserVerification token vaultId runtime = (.ok verified, after)) :
    TakesProof token vaultId runtime after verified := by
  unfold consumePasskeyCeremonyUserVerification at consumed
  rw [bind_run, get_run] at consumed
  dsimp only at consumed
  cases held : runtime.ceremonies[token]? with
  | none =>
      rw [onCeremony_missing held] at consumed
      cases consumed
  | some entry =>
      rw [onCeremony_held held] at consumed
      unfold consumeUserVerification at consumed
      dsimp only at consumed
      split at consumed
      · simp at consumed
      · rename_i required
        simp only [Prod.mk.injEq, Except.ok.injEq] at consumed
        obtain ⟨rfl, rfl⟩ := consumed
        constructor
        · exact ⟨entry, held, rfl, by simpa using required⟩
        · intro entry' held'
          simp only [BTreeMap.insert_lookup, if_true, Option.some.injEq] at held'
          rw [← held']

/-- The proof goes after the ceremony is bound. -/
theorem bound_takes {token vaultId : String} {runtime first second : PasskeyRuntime} {verified : Bool}
    (bound : bindPasskeyCeremonyVaultAfterVaultLookup token vaultId runtime = (.ok (), first))
    (consumed : consumePasskeyCeremonyUserVerification token vaultId first = (.ok verified, second)) :
    TakesProof token vaultId runtime second verified := by
  obtain ⟨entry, _, held, rfl⟩ := bindAfterLookup_ok bound
  obtain ⟨⟨entry', held', valid, required⟩, taken⟩ := consume_takes consumed
  simp only [BTreeMap.insert_lookup, if_true, Option.some.injEq] at held'
  subst held'
  exact ⟨⟨entry, held, valid, required⟩, taken⟩

theorem createAssertion_data {library : SigningLibrary} {passkey : PasskeyRecord} {request : PasskeyAssertionRequest}
    {expectations : PasskeyClientDataExpectations} {assertion : PasskeyAssertion}
    (made : createAssertion library passkey request expectations = .ok assertion) :
    assertion.authenticatorData = authenticatorData library request.relyingParty passkey request.userVerified := by
  unfold createAssertion demand at made
  split at made
  swap
  · cases made
  split at made
  swap
  · cases made
  split at made
  swap
  · cases made
  obtain ⟨_, _, made⟩ := Fallible.bind_ok.mp made
  obtain ⟨_, _, made⟩ := Fallible.bind_ok.mp made
  obtain ⟨_, _, made⟩ := Fallible.bind_ok.mp made
  obtain ⟨_, _, made⟩ := Fallible.bind_ok.mp made
  cases made
  rfl

theorem createRegistration_data {library : SigningLibrary} {request : PasskeyRegistrationRequest}
    {expectations : PasskeyClientDataExpectations} {credentialId : String} {key : GeneratedKey}
    {registration : PasskeyRegistration}
    (made : createRegistrationWithCredentialId library request expectations credentialId key = .ok registration) :
    ∃ bytes, registration.authenticatorData =
      attestedAuthenticatorData library request.relyingParty bytes key.publicKeyCose request.userVerified := by
  unfold createRegistrationWithCredentialId createRegistrationMaterial at made
  obtain ⟨_, _, made⟩ := Fallible.bind_ok.mp made
  obtain ⟨_, _, made⟩ := Fallible.bind_ok.mp made
  obtain ⟨_, _, made⟩ := Fallible.bind_ok.mp made
  obtain ⟨_, _, made⟩ := Fallible.bind_ok.mp made
  split at made
  · cases made
  · rename_i bytes _
    unfold demand at made
    split at made
    · cases made
      exact ⟨bytes, rfl⟩
    · cases made

/-- What the authenticator data says of a user. -/
def flagsOf (library : SigningLibrary) (relyingParty : String) (data : List UInt8) : Option UInt8 :=
  data[(textDigest library relyingParty).length]?

theorem flagsOf_assertion (library : SigningLibrary) (relyingParty : String) (passkey : PasskeyRecord)
    (userVerified : Bool) :
    flagsOf library relyingParty (authenticatorData library relyingParty passkey userVerified) =
      some (assertionFlags passkey userVerified) := by
  simp [flagsOf, authenticatorData]

theorem flagsOf_registration (library : SigningLibrary) (relyingParty : String) (credentialId publicKeyCose : List UInt8)
    (userVerified : Bool) :
    flagsOf library relyingParty (attestedAuthenticatorData library relyingParty credentialId publicKeyCose userVerified) =
      some (registrationFlags userVerified) := by
  simp [flagsOf, attestedAuthenticatorData]

def saysUserVerified (flags : UInt8) : Bool := flags &&& authDataFlagUserVerified ≠ 0

@[simp] theorem saysUserVerified_assertion (passkey : PasskeyRecord) (userVerified : Bool) :
    saysUserVerified (assertionFlags passkey userVerified) = userVerified := by
  unfold assertionFlags flagIf
  cases userVerified <;> cases passkey.backupEligible <;> cases passkey.backupState <;> decide

@[simp] theorem saysUserVerified_registration (userVerified : Bool) :
    saysUserVerified (registrationFlags userVerified) = userVerified := by
  cases userVerified <;> decide

/-! ## What a request verifies and signs -/

structure UserVerification where
  token : String
  vaultId : String
  verifiedAt : Nat
  deriving DecidableEq

def PasskeyRequest.verifies : PasskeyRequest → PasskeyRuntime → Option UserVerification
  | .verifyUser token expectedPhase vaultId method password cancelledBefore cancelledAfter verifiedAt, runtime =>
      match (verifyPasskeyUser services token expectedPhase vaultId method password cancelledBefore cancelledAfter
        verifiedAt runtime).1 with
      | .ok _ => some { token, vaultId, verifiedAt }
      | .error _ => none
  | _, _ => none

structure SignedOperation where
  token : String
  vaultId : String
  flags : UInt8
  deriving DecidableEq

def SignedOperation.userVerified (operation : SignedOperation) : Bool := saysUserVerified operation.flags

def PasskeyRequest.signs : PasskeyRequest → PasskeyRuntime → Option SignedOperation
  | .createAssertion token expectedPhase request, runtime =>
      match (createPasskeyAssertion services token expectedPhase request runtime).1 with
      | .ok assertion =>
          (flagsOf services.toSigningLibrary request.relyingParty assertion.authenticatorData).map fun flags =>
            { token, vaultId := request.vaultId, flags }
      | .error _ => none
  | .createRegistration token expectedPhase request drawn, runtime =>
      match (createPasskeyRegistration services token expectedPhase request drawn runtime).1 with
      | .ok registration =>
          (flagsOf services.toSigningLibrary request.relyingParty registration.authenticatorData).map fun flags =>
            { token, vaultId := request.vaultId, flags }
      | .error _ => none
  | _, _ => none

def PasskeyRequest.isAssertion : PasskeyRequest → Bool
  | .createAssertion .. => true
  | _ => false

/-- The request says that the user is present. -/
def PasskeyRequest.showsPresence : PasskeyRequest → Bool
  | .createAssertion _ _ request => request.userPresenceVerified
  | _ => false

/-- A signature takes the proof away, and says that the user was verified only if there was one. -/
structure SignsSoundly (request : PasskeyRequest) (runtime : PasskeyRuntime) (operation : SignedOperation) : Prop where
  ceremony : ∃ entry, runtime.ceremonies[operation.token]? = some entry ∧
    runtime.nowMs < entry.identity.expiresAtEpochMs ∧
    operation.userVerified = passkeyUserVerificationIsValid entry operation.vaultId runtime.nowMs ∧
    (entry.identity.userVerification = .required → operation.userVerified)
  presence : request.isAssertion → request.showsPresence ∨ operation.userVerified
  taken : ∀ entry, (request.after services runtime).ceremonies[operation.token]? = some entry →
    entry.userVerification = none

theorem createPasskeyAssertion_sound {token : String} {expectedPhase : PasskeyCeremonyPhase}
    {request : CreatePasskeyAssertionRequest} {runtime after : PasskeyRuntime} {assertion : PasskeyAssertion}
    (done : createPasskeyAssertion services token expectedPhase request runtime = (.ok assertion, after)) :
    ∃ flags entry, flagsOf services.toSigningLibrary request.relyingParty assertion.authenticatorData = some flags ∧
      runtime.ceremonies[token]? = some entry ∧ runtime.nowMs < entry.identity.expiresAtEpochMs ∧
      (request.userPresenceVerified ∨ saysUserVerified flags) ∧
      TakesProof token request.vaultId runtime after (saysUserVerified flags) := by
  obtain ⟨_, _, userVerified, _, passkey, _, checked, bound, consumed, present, _, _, _, made⟩ :=
    createPasskeyAssertion_ok services done
  obtain ⟨entry, held, inTime, _⟩ := validatePasskeyCeremonyForS4_ok services checked
  refine ⟨assertionFlags passkey userVerified, entry, ?_, held, inTime, ?_, ?_⟩
  · rw [createAssertion_data made, flagsOf_assertion]
  · simpa using present
  · rw [saysUserVerified_assertion]
    exact bound_takes bound consumed

theorem storeRegistration_data {token : String} {request : CreatePasskeyRegistrationRequest} {drawn : DrawnCredential}
    {registration : PasskeyRegistration} {modifiedAt : Nat} {existing : Option (String × Entry)}
    {runtime after : PasskeyRuntime} {dto : PasskeyRegistrationDto}
    (stored : storeRegistration token request drawn registration modifiedAt existing runtime = (.ok dto, after)) :
    dto.authenticatorData = registration.authenticatorData := by
  unfold storeRegistration at stored
  cases existing with
  | none =>
      obtain ⟨_, _, _, stored⟩ := bind_ok.mp stored
      obtain ⟨_, _, _, stored⟩ := bind_ok.mp stored
      obtain ⟨_, _, _, stored⟩ := bind_ok.mp stored
      cases stored
      rfl
  | some found =>
      obtain ⟨_, _, _, stored⟩ := bind_ok.mp stored
      obtain ⟨_, _, _, stored⟩ := bind_ok.mp stored
      obtain ⟨_, _, _, stored⟩ := bind_ok.mp stored
      cases stored
      rfl

theorem TakesProof.later {token vaultId : String} {before mid after : PasskeyRuntime} {verified : Bool}
    (takes : TakesProof token vaultId before mid verified) (keeps : KeepsProofs mid after) :
    TakesProof token vaultId before after verified := by
  refine ⟨takes.ceremony, fun entry held => ?_⟩
  cases verified : entry.userVerification with
  | none => rfl
  | some proof =>
      obtain ⟨earlier, held', _, verified'⟩ := keeps token entry proof held verified
      rw [takes.taken earlier held'] at verified'
      cases verified'

theorem createPasskeyRegistration_sound {token : String} {expectedPhase : PasskeyCeremonyPhase}
    {request : CreatePasskeyRegistrationRequest} {drawn : DrawnCredential} {runtime after : PasskeyRuntime}
    {dto : PasskeyRegistrationDto}
    (done : createPasskeyRegistration services token expectedPhase request drawn runtime = (.ok dto, after)) :
    ∃ flags entry, flagsOf services.toSigningLibrary request.relyingParty dto.authenticatorData = some flags ∧
      runtime.ceremonies[token]? = some entry ∧ runtime.nowMs < entry.identity.expiresAtEpochMs ∧
      TakesProof token request.vaultId runtime after (saysUserVerified flags) := by
  obtain ⟨prepared, mid, done, stored⟩ := bind_ok.mp done
  obtain ⟨_, userVerified, _, checked, bound, consumed, made, _, _⟩ := prepareRegistration_ok services done
  obtain ⟨entry, held, inTime, _⟩ := validatePasskeyCeremonyForS4_ok services checked
  obtain ⟨bytes, data⟩ := createRegistration_data made
  refine ⟨registrationFlags userVerified, entry, ?_, held, inTime, ?_⟩
  · rw [storeRegistration_data stored, data]
    exact flagsOf_registration _ _ _ _ _
  · rw [saysUserVerified_registration]
    have keeps := storeRegistration_keepsProofs token request drawn prepared.registration prepared.modifiedAt prepared.existing mid
    rw [stored] at keeps
    exact (bound_takes bound consumed).later keeps

variable {services} {request : PasskeyRequest} {runtime : PasskeyRuntime}

theorem PasskeyRequest.signs_sound {operation : SignedOperation} (signs : request.signs services runtime = some operation) :
    SignsSoundly services request runtime operation := by
  cases request with
  | createAssertion token expectedPhase request =>
      rw [PasskeyRequest.signs] at signs
      cases run : createPasskeyAssertion services token expectedPhase request runtime with
      | mk value after =>
          rw [run] at signs
          cases value with
          | error e => cases signs
          | ok assertion =>
              obtain ⟨flags, entry, data, held, inTime, present, takes⟩ := createPasskeyAssertion_sound services run
              simp only [data, Option.map_some, Option.some.injEq] at signs
              subst signs
              obtain ⟨⟨entry', held', valid, required⟩, taken⟩ := takes
              obtain rfl : entry' = entry := Option.some.inj (held'.symm.trans held)
              refine ⟨⟨entry', held, inTime, valid, required⟩, fun _ => present, fun entry found => taken entry ?_⟩
              rw [← found, PasskeyRequest.after, PasskeyRequest.handle, bind_pure_state, run]
  | createRegistration token expectedPhase request drawn =>
      rw [PasskeyRequest.signs] at signs
      cases run : createPasskeyRegistration services token expectedPhase request drawn runtime with
      | mk value after =>
          rw [run] at signs
          cases value with
          | error e => cases signs
          | ok dto =>
              obtain ⟨flags, entry, data, held, inTime, takes⟩ := createPasskeyRegistration_sound services run
              simp only [data, Option.map_some, Option.some.injEq] at signs
              subst signs
              obtain ⟨⟨entry', held', valid, required⟩, taken⟩ := takes
              obtain rfl : entry' = entry := Option.some.inj (held'.symm.trans held)
              refine ⟨⟨entry', held, inTime, valid, required⟩, by rintro ⟨⟩, fun entry found => taken entry ?_⟩
              rw [← found, PasskeyRequest.after, PasskeyRequest.handle, bind_pure_state, run]
  | _ => cases signs

/-- A request keeps the proofs of the ledger, or it verifies a user and adds one. -/
theorem PasskeyRequest.after_proofs (request : PasskeyRequest) (runtime : PasskeyRuntime) :
    KeepsProofs runtime (request.after services runtime) ∨
      ∃ verification entry method vaultId, request.verifies services runtime = some verification ∧
        runtime.ceremonies[verification.token]? = some entry ∧
        (request.after services runtime).ceremonies = runtime.ceremonies.insert verification.token { entry with
          vaultId
          userVerification := some {
            vaultId := verification.vaultId
            method
            verifiedAtEpochMs := verification.verifiedAt } } := by
  have keeps {A : Type} {m : PasskeyCommand A} (moves : Moves KeepsProofs m) : KeepsProofs runtime (m runtime).2 :=
    moves runtime
  unfold PasskeyRequest.after
  cases request with (try rw [PasskeyRequest.handle, bind_pure_state])
  | verifyUser token expectedPhase vaultId method password cancelledBefore cancelledAfter verifiedAt =>
      rcases verifyPasskeyUser_proofs services token expectedPhase vaultId method password cancelledBefore cancelledAfter
        verifiedAt runtime with same | ⟨done, entry, method', held, after⟩
      · exact .inl same
      · refine .inr ⟨{ token, vaultId, verifiedAt }, entry, method', _, ?_, held, after⟩
        rw [PasskeyRequest.verifies, done]
  | register token identity =>
      exact .inl (.of_registers (register_registers token identity runtime))
  | advance token expectedPhase nextPhase relatedOriginVerified =>
      exact .inl (keeps (advance_keepsProofs token expectedPhase nextPhase relatedOriginVerified))
  | markUnknownDelivery token expectedPhase =>
      exact .inl (keeps (mark_keepsProofs services.toWebLibrary token expectedPhase))
  | abort token expectedPhase closedPhase =>
      exact .inl (.of_settles (abort_settles services token expectedPhase closedPhase runtime))
  | reconcile activeConnectionId =>
      exact .inl (.of_settles (reconcile_settles services activeConnectionId runtime))
  | elsewhere session nowMs => exact .inl (.of_same rfl)
  | query token => exact .inl (.of_same rfl)
  | bind token expectedPhase vaultId =>
      exact .inl (keeps (keepsProofs_of_idle (bindPasskeyCeremonyVault_idle token expectedPhase vaultId)))
  | createAssertion token expectedPhase request =>
      exact .inl (keeps (keepsProofs_of_idle (createPasskeyAssertion_idle services token expectedPhase request)))
  | createRegistration token expectedPhase request drawn =>
      exact .inl (keeps (createRegistration_keepsProofs services token expectedPhase request drawn))
  | save token expectedPhase vaultId =>
      exact .inl (keeps (save_keepsProofs services token expectedPhase vaultId))
  | commit token expectedPhase vaultId entryId credentialId =>
      exact .inl (keeps (commit_keepsProofs token expectedPhase vaultId entryId credentialId))
  | credentialStatus token expectedPhase vaultId credentialIds relyingParty =>
      exact .inl (keeps (keepsProofs_of_idle
        (passkeyCredentialStatusBatch_idle services token expectedPhase vaultId credentialIds relyingParty)))
  | listCredentials token expectedPhase vaultId relyingParty =>
      exact .inl (keeps (keepsProofs_of_idle
        (listPasskeyCredentials_idle services token expectedPhase vaultId relyingParty)))

end Requests

/-! ## Runs -/

section Runs

variable (services : PasskeyServices) (requests : List PasskeyRequest) (start : PasskeyRuntime)

/-- The runtime before the request of the index. -/
def runtimeAt (n : Nat) : PasskeyRuntime := runRequests services (requests.take n) start

def verifiesAt (n : Nat) : Option UserVerification :=
  requests[n]?.bind fun request => request.verifies services (runtimeAt services requests start n)

def signsAt (n : Nat) : Option SignedOperation :=
  requests[n]?.bind fun request => request.signs services (runtimeAt services requests start n)

/-- The ceremony of the token has the identity. -/
def CeremonyAt (n : Nat) (token : String) (identity : PasskeyCeremonyIdentity) : Prop :=
  ∃ entry, (runtimeAt services requests start n).ceremonies[token]? = some entry ∧ entry.identity = identity

/-- The verification at `i` is the one that the operation at `j` needs: of its ceremony, for its vault and in time. -/
structure Authorizes (i j : Nat) (operation : SignedOperation) (identity : PasskeyCeremonyIdentity) : Prop where
  earlier : i < j
  ceremony : CeremonyAt services requests start i operation.token identity
  verification : ∃ verifiedAt, verifiesAt services requests start i =
      some { token := operation.token, vaultId := operation.vaultId, verifiedAt } ∧
    identity.registeredAtEpochMs ≤ verifiedAt ∧ verifiedAt ≤ (runtimeAt services requests start j).nowMs

/-- What a run may sign, given the verification behind each signature. -/
structure SignedOf (verification j : Nat) (operation : SignedOperation) : Prop where
  ceremony : ∃ identity, CeremonyAt services requests start j operation.token identity ∧
    (runtimeAt services requests start j).nowMs < identity.expiresAtEpochMs ∧
    (identity.userVerification = .required → operation.userVerified) ∧
    (operation.userVerified → Authorizes services requests start verification j operation identity)
  presence : ∀ request, requests[j]? = some request → request.isAssertion →
    request.showsPresence ∨ operation.userVerified

/-- The proof has been in the ledger since the verification. -/
structure ProofSince (i n : Nat) (token : String) (identity : PasskeyCeremonyIdentity)
    (proof : PasskeyUserVerificationProof) : Prop where
  earlier : i < n
  verified : verifiesAt services requests start i =
    some { token, vaultId := proof.vaultId, verifiedAt := proof.verifiedAtEpochMs }
  ceremony : CeremonyAt services requests start i token identity
  held : ∀ k, i < k → k ≤ n → ∃ entry, (runtimeAt services requests start k).ceremonies[token]? = some entry ∧
    entry.identity = identity ∧ entry.userVerification = some proof

variable {services requests start}

theorem runtimeAt_succ {n : Nat} {request : PasskeyRequest} (here : requests[n]? = some request) :
    runtimeAt services requests start (n + 1) = request.after services (runtimeAt services requests start n) := by
  unfold runtimeAt runRequests
  rw [List.take_add_one, here, List.foldl_append]
  rfl

theorem proof_since (fresh : ∀ (token : String) (entry : PasskeyCeremonyLedgerEntry),
    start.ceremonies[token]? = some entry → entry.userVerification = none) {n : Nat} (inside : n ≤ requests.length)
    {token : String} {entry : PasskeyCeremonyLedgerEntry} {proof : PasskeyUserVerificationProof}
    (held : (runtimeAt services requests start n).ceremonies[token]? = some entry)
    (verified : entry.userVerification = some proof) :
    ∃ i, ProofSince services requests start i n token entry.identity proof := by
  induction n generalizing entry with
  | zero =>
      rw [fresh token entry held] at verified
      cases verified
  | succ n ih =>
      have here : requests[n]? = some (requests[n]) := List.getElem?_eq_getElem (by omega)
      have now := held
      rw [runtimeAt_succ here] at now
      have kept {earlier : PasskeyCeremonyLedgerEntry}
          (found : (runtimeAt services requests start n).ceremonies[token]? = some earlier)
          (identity : earlier.identity = entry.identity) (same : earlier.userVerification = some proof) :
          ∃ i, ProofSince services requests start i (n + 1) token entry.identity proof := by
        obtain ⟨i, since⟩ := ih (by omega) found same
        rw [identity] at since
        refine ⟨i, by have := since.earlier; omega, since.verified, since.ceremony, ?_⟩
        intro k after within
        rcases Nat.lt_or_ge k (n + 1) with before | last
        · exact since.held k after (by omega)
        · obtain rfl : k = n + 1 := by omega
          exact ⟨entry, held, rfl, verified⟩
      rcases PasskeyRequest.after_proofs requests[n] (runtimeAt services requests start n) with keeps | added
      · obtain ⟨earlier, found, identity, same⟩ := keeps token entry proof now verified
        exact kept found identity same
      · obtain ⟨verification, earlier, method, vaultId, verifies, found, after⟩ := added
        rw [after, BTreeMap.insert_lookup] at now
        split at now
        · rename_i own
          cases now
          cases verified
          subst own
          refine ⟨n, by omega, ?_, ⟨earlier, found, rfl⟩, ?_⟩
          · rw [verifiesAt, here, Option.bind_some, verifies]
          · intro k after within
            obtain rfl : k = n + 1 := by omega
            exact ⟨_, held, rfl, rfl⟩
        · exact kept now rfl verified

theorem valid_proof {entry : PasskeyCeremonyLedgerEntry} {vaultId : String} {now : Nat}
    (valid : passkeyUserVerificationIsValid entry vaultId now) :
    ∃ proof, entry.userVerification = some proof ∧ proof.vaultId = vaultId ∧
      entry.identity.registeredAtEpochMs ≤ proof.verifiedAtEpochMs ∧ proof.verifiedAtEpochMs ≤ now := by
  unfold passkeyUserVerificationIsValid at valid
  cases held : entry.userVerification with
  | none => simp [held] at valid
  | some proof =>
      simp only [held, Option.any_some, Bool.and_eq_true, decide_eq_true_eq] at valid
      exact ⟨proof, rfl, valid.1.1.1, valid.1.1.2, valid.1.2⟩

theorem signsAt_sound {j : Nat} {operation : SignedOperation}
    (signs : signsAt services requests start j = some operation) :
    ∃ request, requests[j]? = some request ∧
      SignsSoundly services request (runtimeAt services requests start j) operation := by
  obtain ⟨request, here, signs⟩ := Option.bind_eq_some_iff.mp signs
  exact ⟨request, here, request.signs_sound signs⟩

/-- An operation that says its user was verified has had a proof since the verification. -/
theorem signsAt_since (fresh : ∀ (token : String) (entry : PasskeyCeremonyLedgerEntry),
    start.ceremonies[token]? = some entry → entry.userVerification = none) {j : Nat} {operation : SignedOperation}
    (signs : signsAt services requests start j = some operation) (verified : operation.userVerified) :
    ∃ i identity proof, ProofSince services requests start i j operation.token identity proof ∧
      CeremonyAt services requests start j operation.token identity ∧ proof.vaultId = operation.vaultId ∧
      identity.registeredAtEpochMs ≤ proof.verifiedAtEpochMs ∧
      proof.verifiedAtEpochMs ≤ (runtimeAt services requests start j).nowMs := by
  obtain ⟨request, here, sound⟩ := signsAt_sound signs
  obtain ⟨entry, held, _, valid, _⟩ := sound.ceremony
  rw [verified] at valid
  obtain ⟨proof, held', vault, from', until'⟩ := valid_proof valid.symm
  have inside := List.getElem?_eq_some_iff.mp here
  obtain ⟨i, since⟩ := proof_since fresh (Nat.le_of_lt inside.1) held held'
  exact ⟨i, entry.identity, proof, since, ⟨entry, held, rfl⟩, vault, from', until'⟩

/-- A proof does not outlive the signature that takes it. -/
theorem since_unique {i j j' : Nat} {operation : SignedOperation} {identity : PasskeyCeremonyIdentity}
    {proof : PasskeyUserVerificationProof} (signs : signsAt services requests start j = some operation)
    (after : i < j) (since : ProofSince services requests start i j' operation.token identity proof) : j' ≤ j := by
  obtain ⟨request, here, sound⟩ := signsAt_sound signs
  by_contra later
  obtain ⟨entry, held, _, verified⟩ := since.held (j + 1) (by omega) (by omega)
  rw [runtimeAt_succ here] at held
  rw [sound.taken entry held] at verified
  cases verified

end Runs

/-- Every signature of a run is in time and as its policy wants it, an assertion shows that the user is present,
    and a signature that says the user was verified has a verification of its own, for its ceremony and its vault. -/
theorem userVerification_single_use (services : PasskeyServices) (session : Session) (nowMs : Nat)
    (requests : List PasskeyRequest) :
    ∃ verification : Nat → Nat,
      (∀ j operation, signsAt services requests ⟨session, nowMs, ∅⟩ j = some operation →
        SignedOf services requests ⟨session, nowMs, ∅⟩ (verification j) j operation) ∧
      ∀ j j' operation operation', signsAt services requests ⟨session, nowMs, ∅⟩ j = some operation →
        signsAt services requests ⟨session, nowMs, ∅⟩ j' = some operation' → operation.userVerified →
        operation'.userVerified → verification j = verification j' → j = j' := by
  let start : PasskeyRuntime := ⟨session, nowMs, ∅⟩
  have fresh (token : String) (entry : PasskeyCeremonyLedgerEntry) (held : start.ceremonies[token]? = some entry) :
      entry.userVerification = none := by
    simp [start] at held
  have since (j : Nat) : ∃ i, ∀ operation, signsAt services requests start j = some operation → operation.userVerified →
      ∃ identity proof, ProofSince services requests start i j operation.token identity proof ∧
        CeremonyAt services requests start j operation.token identity ∧ proof.vaultId = operation.vaultId ∧
        identity.registeredAtEpochMs ≤ proof.verifiedAtEpochMs ∧
        proof.verifiedAtEpochMs ≤ (runtimeAt services requests start j).nowMs := by
    by_cases needed : ∃ operation, signsAt services requests start j = some operation ∧ operation.userVerified
    · obtain ⟨operation, signs, verified⟩ := needed
      obtain ⟨i, found⟩ := signsAt_since fresh signs verified
      refine ⟨i, fun operation' signs' _ => ?_⟩
      obtain rfl : operation = operation' := Option.some.inj (signs.symm.trans signs')
      exact found
    · exact ⟨0, fun operation signs verified => absurd ⟨operation, signs, verified⟩ needed⟩
  choose verification since using since
  refine ⟨verification, fun j operation signs => ?_, fun j j' operation operation' signs signs' verified verified' same => ?_⟩
  · obtain ⟨request, here, sound⟩ := signsAt_sound signs
    obtain ⟨entry, held, inTime, _, required⟩ := sound.ceremony
    refine ⟨⟨entry.identity, ⟨entry, held, rfl⟩, inTime, required, fun verified => ?_⟩, fun request' here' => ?_⟩
    · obtain ⟨identity, proof, proven, ⟨entry', held', identity'⟩, vault, from', until'⟩ :=
        since j operation signs verified
      obtain rfl : entry' = entry := Option.some.inj (held'.symm.trans held)
      subst identity'
      refine ⟨proven.earlier, proven.ceremony, proof.verifiedAtEpochMs, ?_, from', until'⟩
      rw [← vault]
      exact proven.verified
    · obtain rfl : request = request' := Option.some.inj (here.symm.trans here')
      exact sound.presence
  · obtain ⟨_, proof, proven, _⟩ := since j operation signs verified
    obtain ⟨_, proof', proven', _⟩ := since j' operation' signs' verified'
    -- the verification is of one ceremony, so both operations are
    have token : operation.token = operation'.token := by
      have first := proven.verified
      rw [same, proven'.verified] at first
      simp only [Option.some.injEq, UserVerification.mk.injEq] at first
      exact first.1.symm
    rw [← token] at proven'
    rw [same] at proven
    have atMost := since_unique signs proven.earlier proven'
    rw [token] at proven
    have atLeast := since_unique signs' proven'.earlier proven
    omega

/-- A registration is signed as present in a run where no request has shown that the user is there. -/
theorem registration_signed_without_presence :
    ¬ ∀ (services : PasskeyServices) (session : Session) (nowMs : Nat) (requests : List PasskeyRequest) (j : Nat)
        (operation : SignedOperation), signsAt services requests ⟨session, nowMs, ∅⟩ j = some operation →
        operation.userVerified ∨ (requests.take (j + 1)).any PasskeyRequest.showsPresence := by
  intro present
  have signs : signsAt exampleServices
      (completionRequests ++ [.createRegistration "token" .completionAndMutation exampleRequest exampleCredential])
      exampleStart 4 = some { token := "token", vaultId := "vault", flags := 0x59 } := by decide +kernel
  have shown := present exampleServices exampleStart.session 0 _ 4 _ signs
  revert shown
  decide +kernel

end VaultKern
