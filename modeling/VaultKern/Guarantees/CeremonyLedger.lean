import VaultKern.Lib.MapRelation
import VaultKern.Passkey.Commands

/-! # The ledger of ceremonies

How a request may change the ceremonies: along the edges of the transition table, with a
rollback record as long as there is something to undo.
-/

namespace VaultKern

open Attempt

/-! ## What may happen to a ceremony -/

/-- The vault has been changed for the registration. -/
def PasskeyCeremonyDurableState.isChanged (state : PasskeyCeremonyDurableState) : Bool :=
  state = .mutated || state = .saved

/-- The record says how to undo its registration: delete the entry, or put back the one it holds. -/
def PasskeyRegistrationRollbackState.isComplete (rollback : PasskeyRegistrationRollbackState) : Bool :=
  rollback.credentialId.isSome && (rollback.created || rollback.rollbackEntry.isSome)

structure SoundCeremony (entry : PasskeyCeremonyLedgerEntry) : Prop where
  rollback : entry.registrationRollback.isSome ↔
    entry.durableState = .snapshot ∨ entry.durableState = .mutated ∨ entry.durableState = .saved
  complete : ∀ rollback, entry.registrationRollback = some rollback → rollback.isComplete
  create : entry.durableState ≠ .none →
    entry.identity.ceremony = .create ∧ (entry.phase = .completionAndMutation ∨ entry.phase.isClosed)
  delivered : entry.phase = .closedDelivered → entry.identity.ceremony = .create → entry.durableState = .committed

/-- Nothing of an aborted or failed registration is left in the vault. -/
def CleanlyClosed (entry : PasskeyCeremonyLedgerEntry) : Prop :=
  entry.phase = .closedAborted ∨ entry.phase = .closedFailed → entry.durableState.isChanged = false

structure CeremonyStep (library : WebLibrary) (before after : PasskeyCeremonyLedgerEntry) : Prop where
  identity : after.identity = before.identity
  phase : after.phase = before.phase ∨ ∃ relatedOriginVerified,
    isLegalPasskeyCeremonyTransition library before.phase after.phase before.identity relatedOriginVerified
  closed : before.phase.isClosed → after.phase = before.phase
  binding : ∀ vaultId, before.vaultId = some vaultId → after.vaultId = some vaultId
  delivered : after.phase = .closedDelivered → before.phase ≠ .closedDelivered → before.identity.ceremony = .create →
    before.durableState = .committed
  sound : SoundCeremony before → SoundCeremony after

/-- A step within a phase. -/
structure QuietStep (before after : PasskeyCeremonyLedgerEntry) : Prop where
  identity : after.identity = before.identity
  phase : after.phase = before.phase
  binding : ∀ vaultId, before.vaultId = some vaultId → after.vaultId = some vaultId
  sound : SoundCeremony before → SoundCeremony after
  clean : CleanlyClosed before → CleanlyClosed after

theorem QuietStep.refl (entry : PasskeyCeremonyLedgerEntry) : QuietStep entry entry :=
  ⟨rfl, rfl, fun _ bound => bound, id, id⟩

theorem QuietStep.trans {a b c : PasskeyCeremonyLedgerEntry} (first : QuietStep a b) (second : QuietStep b c) :
    QuietStep a c :=
  ⟨second.identity.trans first.identity, second.phase.trans first.phase,
    fun vaultId bound => second.binding vaultId (first.binding vaultId bound), second.sound ∘ first.sound,
    second.clean ∘ first.clean⟩

theorem QuietStep.step {library : WebLibrary} {before after : PasskeyCeremonyLedgerEntry}
    (quiet : QuietStep before after) : CeremonyStep library before after :=
  ⟨quiet.identity, .inl quiet.phase, fun _ => quiet.phase, quiet.binding,
    fun closed open' _ => absurd (quiet.phase ▸ closed) open', quiet.sound⟩

/-- Only the binding and the proof change. -/
structure BoundStep (before after : PasskeyCeremonyLedgerEntry) : Prop where
  kept : ∃ vaultId userVerification, after = { before with vaultId, userVerification }
  binding : ∀ vaultId, before.vaultId = some vaultId → after.vaultId = some vaultId

instance : Std.Refl BoundStep := ⟨fun _ => ⟨⟨_, _, rfl⟩, fun _ bound => bound⟩⟩

instance : IsTrans PasskeyCeremonyLedgerEntry BoundStep := ⟨fun _ _ _ first second => by
  obtain ⟨⟨_, _, rfl⟩, early⟩ := first
  obtain ⟨⟨_, _, rfl⟩, late⟩ := second
  exact ⟨⟨_, _, rfl⟩, fun vaultId bound => late vaultId (early vaultId bound)⟩⟩

theorem BoundStep.quiet {before after : PasskeyCeremonyLedgerEntry} (bound : BoundStep before after) :
    QuietStep before after := by
  obtain ⟨⟨_, _, rfl⟩, binding⟩ := bound
  exact ⟨rfl, rfl, binding, fun sound => ⟨sound.rollback, sound.complete, sound.create, sound.delivered⟩, id⟩

/-- A quiet step that keeps the record of a changed registration until it is committed. -/
structure KeepStep (before after : PasskeyCeremonyLedgerEntry) : Prop extends QuietStep before after where
  record : after.registrationRollback = before.registrationRollback ∧
      (before.durableState.isChanged → after.durableState.isChanged) ∧
      (before.durableState = .committed → after.durableState = .committed) ∨
    after.durableState = .committed

instance : Std.Refl KeepStep := ⟨fun entry => ⟨.refl entry, .inl ⟨rfl, id, id⟩⟩⟩

instance : IsTrans PasskeyCeremonyLedgerEntry KeepStep := ⟨fun _ _ _ first second => by
  refine ⟨first.toQuietStep.trans second.toQuietStep, ?_⟩
  rcases second.record with ⟨same, changed, committed⟩ | committed
  · rcases first.record with ⟨same', changed', committed'⟩ | committed'
    · exact .inl ⟨same.trans same', changed ∘ changed', committed ∘ committed'⟩
    · exact .inr (committed committed')
  · exact .inr committed⟩

theorem BoundStep.keep {before after : PasskeyCeremonyLedgerEntry} (bound : BoundStep before after) :
    KeepStep before after := by
  refine ⟨bound.quiet, .inl ?_⟩
  obtain ⟨⟨_, _, rfl⟩, _⟩ := bound
  exact ⟨rfl, id, id⟩

/-- There is no new proof. -/
structure IdleStep (before after : PasskeyCeremonyLedgerEntry) : Prop extends BoundStep before after where
  proof : after.userVerification = before.userVerification ∨ after.userVerification = none

theorem IdleStep.of_binding {entry : PasskeyCeremonyLedgerEntry} {vaultId : Option String}
    (binding : ∀ bound, entry.vaultId = some bound → vaultId = some bound) : IdleStep entry { entry with vaultId } :=
  ⟨⟨⟨_, _, rfl⟩, binding⟩, .inl rfl⟩

instance : Std.Refl IdleStep := ⟨fun _ => .of_binding fun _ bound => bound⟩

instance : IsTrans PasskeyCeremonyLedgerEntry IdleStep := ⟨fun _ _ _ first second =>
  ⟨IsTrans.trans _ _ _ first.toBoundStep second.toBoundStep, by
    rcases second.proof with same | none'
    · rw [same]
      exact first.proof
    · exact .inr none'⟩⟩

/-- The registration of an open ceremony moves on. -/
theorem QuietStep.of_registration {entry : PasskeyCeremonyLedgerEntry}
    {registrationRollback : Option PasskeyRegistrationRollbackState} {durableState : PasskeyCeremonyDurableState}
    (phase : entry.phase = .completionAndMutation) (create : entry.identity.ceremony = .create)
    (held : registrationRollback.isSome ↔ durableState = .snapshot ∨ durableState = .mutated ∨ durableState = .saved)
    (complete : ∀ rollback, registrationRollback = some rollback →
      entry.registrationRollback = some rollback ∨ rollback.isComplete) :
    QuietStep entry { entry with registrationRollback, durableState } := by
  refine ⟨rfl, rfl, fun _ bound => bound, fun sound => ⟨held, fun rollback record => ?_, fun _ => ⟨create, .inl phase⟩,
    fun closed => ?_⟩, fun _ closed => ?_⟩
  · exact (complete rollback record).elim (sound.complete rollback) id
  · exact absurd (phase.symm.trans closed) (by decide)
  · rcases closed with closed | closed <;> exact absurd (phase.symm.trans closed) (by decide)

/-! ## What may happen to the ledger -/

inductive TokenStep (library : WebLibrary) (now : Nat) :
    Option PasskeyCeremonyLedgerEntry → Option PasskeyCeremonyLedgerEntry → Prop
  | absent : TokenStep library now none none
  | registered (identity : PasskeyCeremonyIdentity) : TokenStep library now none (some (newCeremony identity))
  | pruned {before : PasskeyCeremonyLedgerEntry} (expired : outlivesExpiry now before = false) :
      TokenStep library now (some before) none
  | kept {before after : PasskeyCeremonyLedgerEntry} (step : CeremonyStep library before after) :
      TokenStep library now (some before) (some after)
  /-- Pruned, and registered again in the same request. -/
  | replaced {before : PasskeyCeremonyLedgerEntry} (expired : outlivesExpiry now before = false)
      (identity : PasskeyCeremonyIdentity) : TokenStep library now (some before) (some (newCeremony identity))

/-- Every ceremony takes a step, and none comes or goes. -/
def LedgerMoves (R : PasskeyCeremonyLedgerEntry → PasskeyCeremonyLedgerEntry → Prop) (before after : PasskeyRuntime) :
    Prop :=
  before.ceremonies.Pointwise R after.ceremonies

section Moves

variable {R : PasskeyCeremonyLedgerEntry → PasskeyCeremonyLedgerEntry → Prop} {A B : Type}

theorem LedgerMoves.refl (related : ∀ entry, R entry entry) (runtime : PasskeyRuntime) : LedgerMoves R runtime runtime :=
  BTreeMap.Pointwise.refl related _

theorem LedgerMoves.trans (through : ∀ a b c, R a b → R b c → R a c) {first second third : PasskeyRuntime}
    (early : LedgerMoves R first second) (late : LedgerMoves R second third) : LedgerMoves R first third :=
  BTreeMap.Pointwise.trans through early late

theorem LedgerMoves.of_same (related : ∀ entry, R entry entry) {before after : PasskeyRuntime}
    (same : after.ceremonies = before.ceremonies) : LedgerMoves R before after := by
  rw [LedgerMoves, same]
  exact BTreeMap.Pointwise.refl related _

theorem LedgerMoves.tokens {library : WebLibrary} {now : Nat} {before after : PasskeyRuntime}
    (moves : LedgerMoves (CeremonyStep library) before after) (token : String) :
    TokenStep library now before.ceremonies[token]? after.ceremonies[token]? := by
  have here := moves token
  generalize before.ceremonies[token]? = a, after.ceremonies[token]? = b at here ⊢
  cases here with
  | none => exact .absent
  | some step => exact .kept step

theorem onCeremony_missing {token : String} {m : Attempt RuntimeError PasskeyCeremonyLedgerEntry A}
    {runtime : PasskeyRuntime} (missing : runtime.ceremonies[token]? = none) :
    onCeremony token m runtime = (.error (notRegistered token), runtime) := by
  simp [onCeremony, within, missing]

theorem onCeremony_held {token : String} {m : Attempt RuntimeError PasskeyCeremonyLedgerEntry A} {runtime : PasskeyRuntime}
    {entry : PasskeyCeremonyLedgerEntry} (held : runtime.ceremonies[token]? = some entry) :
    onCeremony token m runtime =
      ((m entry).1, { runtime with ceremonies := runtime.ceremonies.insert token (m entry).2 }) := by
  simp [onCeremony, within, held]

theorem onCeremony_step (related : ∀ entry, R entry entry) {token : String}
    {m : Attempt RuntimeError PasskeyCeremonyLedgerEntry A} {runtime : PasskeyRuntime}
    (here : ∀ entry, runtime.ceremonies[token]? = some entry → R entry (m entry).2) :
    LedgerMoves R runtime (onCeremony token m runtime).2 := by
  cases held : runtime.ceremonies[token]? with
  | none =>
      rw [onCeremony_missing held]
      exact LedgerMoves.refl related runtime
  | some entry =>
      rw [onCeremony_held held]
      exact BTreeMap.Pointwise.insert related held (here entry held)

theorem onCeremony_moves (related : ∀ entry, R entry entry) {token : String}
    {m : Attempt RuntimeError PasskeyCeremonyLedgerEntry A} (moves : Moves R m) :
    Moves (LedgerMoves R) (onCeremony token m) :=
  fun _ => onCeremony_step related fun entry _ => moves entry

theorem onSession_run (m : Runtime A) (runtime : PasskeyRuntime) :
    onSession m runtime = ((m runtime.session).1, { runtime with session := (m runtime.session).2 }) := rfl

theorem onSession_ceremonies (m : Runtime A) (runtime : PasskeyRuntime) :
    (onSession m runtime).2.ceremonies = runtime.ceremonies := rfl

/-- Requests that take several quiet steps take a quiet step. -/
theorem quiet_bind {m : PasskeyCommand A} {next : A → PasskeyCommand B} (first : Moves (LedgerMoves QuietStep) m)
    (rest : ∀ a, Moves (LedgerMoves QuietStep) (next a)) : Moves (LedgerMoves QuietStep) (m >>= next) := by
  refine Moves.bind ?_ first rest
  exact fun _ _ _ => LedgerMoves.trans (R := QuietStep) fun _ _ _ => QuietStep.trans

/-- No vault changes, and every ceremony takes a step of the kind. -/
structure Idle (R : PasskeyCeremonyLedgerEntry → PasskeyCeremonyLedgerEntry → Prop) (before after : PasskeyRuntime) :
    Prop where
  ledger : LedgerMoves R before after
  session : after.session = before.session

theorem Idle.ledgers {R' : PasskeyCeremonyLedgerEntry → PasskeyCeremonyLedgerEntry → Prop} {m : PasskeyCommand A}
    (idle : Moves (Idle R) m) (weaker : ∀ {a b}, R a b → R' a b) : Moves (LedgerMoves R') m :=
  fun runtime => BTreeMap.Pointwise.mono weaker (idle runtime).ledger

theorem Idle.refl [Std.Refl R] (runtime : PasskeyRuntime) : Idle R runtime runtime := ⟨.refl Std.Refl.refl runtime, rfl⟩

theorem idle_bind [IsTrans PasskeyCeremonyLedgerEntry R] {m : PasskeyCommand A} {next : A → PasskeyCommand B}
    (first : Moves (Idle R) m) (rest : ∀ a, Moves (Idle R) (next a)) : Moves (Idle R) (m >>= next) := by
  refine Moves.bind (fun _ _ _ early late => ?_) first rest
  exact ⟨early.ledger.trans (R := R) (fun _ _ _ => IsTrans.trans _ _ _) late.ledger, late.session.trans early.session⟩

theorem idle_of_readOnly [Std.Refl R] {m : PasskeyCommand A} (reads : ReadOnly m) : Moves (Idle R) m := reads.moves Idle.refl

theorem onCeremony_idle [Std.Refl R] {token : String} {m : Attempt RuntimeError PasskeyCeremonyLedgerEntry A}
    (moves : Moves R m) : Moves (Idle R) (onCeremony token m) := by
  intro runtime
  refine ⟨onCeremony_moves Std.Refl.refl moves runtime, ?_⟩
  cases held : runtime.ceremonies[token]? with
  | none => rw [onCeremony_missing held]
  | some entry => rw [onCeremony_held held]

end Moves

/-! ## Checks read only -/

theorem readCeremony_readOnly (token : String) : ReadOnly (readCeremony token) :=
  .bind .get fun _ => .require _ _

theorem loadedVault_readOnly (vaultId : String) : ReadOnly (loadedVault vaultId) :=
  .bind .get fun _ => .lift _

theorem loadedVault_ok {vaultId : String} {runtime after : PasskeyRuntime} {vault : Vault}
    (loaded : loadedVault vaultId runtime = (.ok vault, after)) : runtime.session.vault vaultId = .ok vault := by
  unfold loadedVault at loaded
  rw [bind_run, get_run] at loaded
  exact (lift_eq_ok.mp loaded).1

section Requests

variable (services : PasskeyServices)

theorem validatePasskeyCeremonyForS4_readOnly (token : String) (expectedPhase : PasskeyCeremonyPhase)
    (kind : PasskeyCeremonyKind) (vaultId origin relyingParty : String) (discoverable : Option Bool) (clientData : String) :
    ReadOnly (validatePasskeyCeremonyForS4 services token expectedPhase kind vaultId origin relyingParty discoverable
      clientData) :=
  .bind (.ensure _ _) fun _ => .bind .get fun _ => .bind (readCeremony_readOnly token) fun _ =>
    .bind (.ensure _ _) fun _ => .bind (.ensure _ _) fun _ => .bind (.ensure _ _) fun _ => .bind (.ensure _ _) fun _ =>
    .bind (.ensure _ _) fun _ => .bind (.lift _) fun _ => .bind (.lift _) fun _ => .bind (.lift _) fun _ => .pure _

theorem validatePasskeyCeremonyForS3Read_readOnly (token : String) (expectedPhase : PasskeyCeremonyPhase)
    (kind : PasskeyCeremonyKind) (vaultId relyingParty : String) :
    ReadOnly (validatePasskeyCeremonyForS3Read services token expectedPhase kind vaultId relyingParty) :=
  .bind (.lift _) fun _ => .bind (.ensure _ _) fun _ => .bind .get fun _ => .bind (readCeremony_readOnly token) fun _ =>
    .bind (.ensure _ _) fun _ => .bind (.ensure _ _) fun _ => .bind (.ensure _ _) fun _ => .bind (.lift _) fun _ => .lift _

theorem validatePasskeyUserPresenceBeforeVaultLookup_readOnly (token vaultId : String) (present : Bool) :
    ReadOnly (validatePasskeyUserPresenceBeforeVaultLookup token vaultId present) :=
  .bind .get fun _ => .bind (readCeremony_readOnly token) fun _ => .bind (.ensure _ _) fun _ => .ensure _ _

/-! ## Idle requests -/

theorem bindVault_idle (vaultId : String) : Moves IdleStep (bindVault vaultId) := by
  intro entry
  unfold bindVault
  cases checked : validatePasskeyCeremonyVaultBinding entry vaultId with
  | error e =>
      simp only [bind_run, get_run, checked, lift_error]
      exact Std.Refl.refl entry
  | ok _ =>
      simp only [bind_run, get_run, checked, lift_ok, modify_run]
      exact .of_binding fun bound held => by rw [held]; rfl

theorem bindAfterLookup_idle (token vaultId : String) :
    Moves (Idle IdleStep) (bindPasskeyCeremonyVaultAfterVaultLookup token vaultId) :=
  onCeremony_idle (bindVault_idle vaultId)

theorem bindPasskeyCeremonyVault_idle (token : String) (expectedPhase : PasskeyCeremonyPhase) (vaultId : String) :
    Moves (Idle IdleStep) (bindPasskeyCeremonyVault token expectedPhase vaultId) :=
  idle_bind (idle_of_readOnly .get) fun _ => idle_bind (idle_of_readOnly (readCeremony_readOnly token)) fun _ =>
    idle_bind (idle_of_readOnly (.ensure _ _)) fun _ => idle_bind (idle_of_readOnly (.lift _)) fun _ =>
    idle_bind (idle_of_readOnly (.lift _)) fun _ => idle_bind (idle_of_readOnly (loadedVault_readOnly vaultId)) fun _ =>
    bindAfterLookup_idle token vaultId

theorem consumeUserVerification_idle (vaultId : String) (now : Nat) :
    Moves IdleStep (consumeUserVerification vaultId now) := by
  intro entry
  have idle : IdleStep entry { entry with userVerification := none } := ⟨⟨⟨_, _, rfl⟩, fun _ held => held⟩, .inr rfl⟩
  unfold consumeUserVerification
  dsimp only
  split <;> exact idle

theorem consume_idle (token vaultId : String) :
    Moves (Idle IdleStep) (consumePasskeyCeremonyUserVerification token vaultId) :=
  idle_bind (idle_of_readOnly .get) fun _ => onCeremony_idle (consumeUserVerification_idle vaultId _)

theorem recordUserVerification_bound (expectedPhase : PasskeyCeremonyPhase) (vaultId : String)
    (method : PasskeyUserVerificationMethod) (verifiedAt : Nat) :
    Moves BoundStep (recordUserVerification expectedPhase vaultId method verifiedAt) := by
  intro entry
  have bound := (bindVault_idle vaultId entry).toBoundStep
  unfold recordUserVerification
  by_cases phase : entry.phase = expectedPhase
  · cases checked : validatePasskeyCeremonyNotExpired entry verifiedAt with
    | error e => simpa [bind_run, phase, checked] using Std.Refl.refl (r := BoundStep) entry
    | ok _ =>
        cases result : bindVault vaultId entry with
        | mk value mid =>
            rw [result] at bound
            cases value with
            | error e => simpa [bind_run, phase, checked, result] using bound
            | ok _ =>
                have recorded : BoundStep mid { mid with
                    userVerification := some { vaultId, method, verifiedAtEpochMs := verifiedAt } } :=
                  ⟨⟨_, _, rfl⟩, fun _ held => held⟩
                simpa [bind_run, phase, checked, result] using IsTrans.trans _ _ _ bound recorded
  · simpa [bind_run, phase] using Std.Refl.refl (r := BoundStep) entry

theorem verifyPasskeyUser_bound (token : String) (expectedPhase : PasskeyCeremonyPhase) (vaultId : String)
    (method : PasskeyUserVerificationMethod) (password : Option String) (cancelledBefore cancelledAfter : Bool)
    (verifiedAt : Nat) :
    Moves (Idle BoundStep) (verifyPasskeyUser services token expectedPhase vaultId method password
      cancelledBefore cancelledAfter verifiedAt) :=
  idle_bind (idle_of_readOnly (.ensure _ _)) fun _ => idle_bind (idle_of_readOnly (.ensure _ _)) fun _ =>
    idle_bind (idle_of_readOnly .get) fun _ => idle_bind (idle_of_readOnly (.ensure _ _)) fun _ =>
    idle_bind (idle_of_readOnly (readCeremony_readOnly token)) fun _ =>
    idle_bind (idle_of_readOnly (.ensure _ _)) fun _ => idle_bind (idle_of_readOnly (.lift _)) fun _ =>
    idle_bind (idle_of_readOnly (.lift _)) fun _ => idle_bind (idle_of_readOnly (.lift _)) fun _ =>
    idle_bind (idle_of_readOnly (.ensure _ _)) fun _ =>
    idle_bind (fun _ => ⟨LedgerMoves.of_same Std.Refl.refl rfl, rfl⟩) fun _ =>
    onCeremony_idle (recordUserVerification_bound expectedPhase vaultId method verifiedAt)

theorem passkeyVaultForS3_idle (token : String) (expectedPhase : PasskeyCeremonyPhase) (kind : PasskeyCeremonyKind)
    (vaultId relyingParty : String) :
    Moves (Idle IdleStep) (passkeyVaultForS3 services token expectedPhase kind vaultId relyingParty) :=
  idle_bind (idle_of_readOnly (validatePasskeyCeremonyForS3Read_readOnly services token expectedPhase kind vaultId
    relyingParty)) fun _ => idle_bind (idle_of_readOnly (loadedVault_readOnly vaultId)) fun _ =>
    idle_bind (bindAfterLookup_idle token vaultId) fun _ => idle_of_readOnly (loadedVault_readOnly vaultId)

theorem passkeyCredentialStatusBatch_idle (token : String) (expectedPhase : PasskeyCeremonyPhase) (vaultId : String)
    (credentialIds : List String) (relyingParty : String) :
    Moves (Idle IdleStep) (passkeyCredentialStatusBatch services token expectedPhase vaultId credentialIds relyingParty) :=
  idle_bind (passkeyVaultForS3_idle services token expectedPhase .create vaultId relyingParty) fun _ =>
    idle_of_readOnly (.pure _)

theorem listPasskeyCredentials_idle (token : String) (expectedPhase : PasskeyCeremonyPhase)
    (vaultId relyingParty : String) :
    Moves (Idle IdleStep) (listPasskeyCredentials services token expectedPhase vaultId relyingParty) :=
  idle_bind (passkeyVaultForS3_idle services token expectedPhase .get vaultId relyingParty) fun _ =>
    idle_of_readOnly (.pure _)

theorem createPasskeyAssertion_idle (token : String) (expectedPhase : PasskeyCeremonyPhase)
    (request : CreatePasskeyAssertionRequest) :
    Moves (Idle IdleStep) (createPasskeyAssertion services token expectedPhase request) :=
  idle_bind (idle_of_readOnly (validatePasskeyCeremonyForS4_readOnly services token expectedPhase .get _ _ _ _ _))
    fun _ => idle_bind (idle_of_readOnly (.require _ _)) fun _ =>
    idle_bind (idle_of_readOnly (validatePasskeyUserPresenceBeforeVaultLookup_readOnly token _ _)) fun _ =>
    idle_bind (idle_of_readOnly (loadedVault_readOnly _)) fun _ =>
    idle_bind (bindAfterLookup_idle token _) fun _ => idle_bind (idle_of_readOnly (loadedVault_readOnly _)) fun _ =>
    idle_bind (idle_of_readOnly (.lift _)) fun _ => idle_bind (consume_idle token _) fun _ =>
    idle_bind (idle_of_readOnly (.ensure _ _)) fun _ => idle_bind (idle_of_readOnly (loadedVault_readOnly _)) fun _ =>
    idle_bind (idle_of_readOnly (.lift _)) fun _ => idle_of_readOnly (.lift _)

/-- Binding the vault and taking the proof leave the vault that is read. -/
theorem loadedVault_bound {token vaultId : String} {runtime first after last : PasskeyRuntime} {verified : Bool}
    {vault : Vault} (bound : bindPasskeyCeremonyVaultAfterVaultLookup token vaultId runtime = (.ok (), first))
    (consumed : consumePasskeyCeremonyUserVerification token vaultId first = (.ok verified, after))
    (loaded : loadedVault vaultId after = (.ok vault, last)) : runtime.session.vault vaultId = .ok vault := by
  have early := (bindAfterLookup_idle token vaultId runtime).session
  have late := (consume_idle token vaultId first).session
  rw [bound] at early
  rw [consumed] at late
  have here := loadedVault_ok loaded
  rwa [late, early] at here

theorem createPasskeyAssertion_ok {token : String} {expectedPhase : PasskeyCeremonyPhase}
    {request : CreatePasskeyAssertionRequest} {runtime after : PasskeyRuntime} {assertion : PasskeyAssertion}
    (done : createPasskeyAssertion services token expectedPhase request runtime = (.ok assertion, after)) :
    ∃ expectations first userVerified vault passkey credentialId,
      validatePasskeyCeremonyForS4 services token expectedPhase .get request.vaultId request.origin
        request.relyingParty (some request.discoverable) request.clientData runtime = (.ok expectations, runtime) ∧
      bindPasskeyCeremonyVaultAfterVaultLookup token request.vaultId runtime = (.ok (), first) ∧
      consumePasskeyCeremonyUserVerification token request.vaultId first = (.ok userVerified, after) ∧
      (request.userPresenceVerified || userVerified) = true ∧
      runtime.session.vault request.vaultId = .ok vault ∧ request.credentialId = some credentialId ∧
      findUniquePasskey vault credentialId request.relyingParty = .ok passkey ∧
      createAssertion services.toSigningLibrary passkey
        { relyingParty := request.relyingParty
          origin := request.origin
          credentialId
          discoverable := request.discoverable
          userPresenceVerified := request.userPresenceVerified || userVerified
          userVerified
          relatedOriginVerified := request.relatedOriginVerified
          clientData := request.clientData } expectations = .ok assertion := by
  unfold createPasskeyAssertion at done
  obtain ⟨expectations, checked, done⟩ :=
    (validatePasskeyCeremonyForS4_readOnly services token expectedPhase .get _ _ _ _ _).bind_ok.mp done
  obtain ⟨credentialId, given, done⟩ := (ReadOnly.require _ _).bind_ok.mp done
  obtain ⟨_, _, done⟩ := (validatePasskeyUserPresenceBeforeVaultLookup_readOnly token _ _).bind_ok.mp done
  obtain ⟨_, _, done⟩ := (loadedVault_readOnly _).bind_ok.mp done
  obtain ⟨_, first, bound, done⟩ := bind_ok.mp done
  obtain ⟨_, _, done⟩ := (loadedVault_readOnly _).bind_ok.mp done
  obtain ⟨_, _, done⟩ := (ReadOnly.lift _).bind_ok.mp done
  obtain ⟨userVerified, second, consumed, done⟩ := bind_ok.mp done
  obtain ⟨_, present, done⟩ := (ReadOnly.ensure _ _).bind_ok.mp done
  obtain ⟨vault, loaded, done⟩ := (loadedVault_readOnly _).bind_ok.mp done
  obtain ⟨passkey, found, done⟩ := (ReadOnly.lift _).bind_ok.mp done
  obtain ⟨made, rfl⟩ := lift_eq_ok.mp done
  have asked : request.credentialId = some credentialId := by
    cases id : request.credentialId with
    | none => simp [id] at given
    | some other => simpa [id] using given
  exact ⟨expectations, first, userVerified, vault, passkey, credentialId, checked, bound, consumed,
    (ensure_ok.mp present).1, loadedVault_bound bound consumed loaded, asked, (lift_eq_ok.mp found).1, made⟩

/-! ## Before the registration is stored -/

variable {token : String} {expectedPhase : PasskeyCeremonyPhase} {request : CreatePasskeyRegistrationRequest}
  {drawn : DrawnCredential}

theorem prepareRegistration_idle :
    Moves (Idle IdleStep) (prepareRegistration services token expectedPhase request drawn) :=
  idle_bind (idle_of_readOnly (validatePasskeyCeremonyForS4_readOnly services token expectedPhase .create _ _ _ _ _))
    fun _ => idle_bind (idle_of_readOnly (.lift _)) fun _ =>
    idle_bind (idle_of_readOnly (loadedVault_readOnly _)) fun _ =>
    idle_bind (bindAfterLookup_idle token _) fun _ => idle_bind (consume_idle token _) fun _ =>
    idle_bind (idle_of_readOnly .get) fun _ => idle_bind (idle_of_readOnly (.lift _)) fun _ =>
    idle_bind (idle_of_readOnly (loadedVault_readOnly _)) fun _ => idle_bind (idle_of_readOnly (.lift _)) fun _ =>
    idle_bind (idle_of_readOnly (.ensure _ _)) fun _ => idle_of_readOnly (.pure _)

theorem prepareRegistration_ok {runtime after : PasskeyRuntime} {prepared : PreparedRegistration}
    (done : prepareRegistration services token expectedPhase request drawn runtime = (.ok prepared, after)) :
    ∃ expectations userVerified first,
      validatePasskeyCeremonyForS4 services token expectedPhase .create request.vaultId request.origin
        request.relyingParty none request.clientData runtime = (.ok expectations, runtime) ∧
      bindPasskeyCeremonyVaultAfterVaultLookup token request.vaultId runtime = (.ok (), first) ∧
      consumePasskeyCeremonyUserVerification token request.vaultId first = (.ok userVerified, after) ∧
      createRegistrationWithCredentialId services.toSigningLibrary (registrationRequest request userVerified)
        expectations drawn.credentialId drawn.key = .ok prepared.registration ∧
      runtime.session.vault request.vaultId = .ok prepared.vault ∧
      existingRegistration prepared.vault request.relyingParty prepared.registration.passkey.userHandle =
        .ok prepared.existing := by
  unfold prepareRegistration at done
  obtain ⟨expectations, checked, done⟩ :=
    (validatePasskeyCeremonyForS4_readOnly services token expectedPhase .create _ _ _ _ _).bind_ok.mp done
  obtain ⟨_, _, done⟩ := (ReadOnly.lift _).bind_ok.mp done
  obtain ⟨_, _, done⟩ := (loadedVault_readOnly _).bind_ok.mp done
  obtain ⟨_, first, bound, done⟩ := bind_ok.mp done
  obtain ⟨userVerified, second, consumed, done⟩ := bind_ok.mp done
  obtain ⟨_, _, done⟩ := ReadOnly.get.bind_ok.mp done
  obtain ⟨_, made, done⟩ := (ReadOnly.lift _).bind_ok.mp done
  obtain ⟨vault, loaded, done⟩ := (loadedVault_readOnly _).bind_ok.mp done
  obtain ⟨existing, found, done⟩ := (ReadOnly.lift _).bind_ok.mp done
  obtain ⟨_, _, done⟩ := (ReadOnly.ensure _ _).bind_ok.mp done
  cases done
  exact ⟨expectations, userVerified, first, checked, bound, consumed, (lift_eq_ok.mp made).1,
    loadedVault_bound bound consumed loaded, (lift_eq_ok.mp found).1⟩

/-! ## Registrations -/

theorem checkRegistrationOpen_ok {entry : PasskeyCeremonyLedgerEntry} (checked : checkRegistrationOpen entry = .ok ()) :
    entry.phase = .completionAndMutation ∧ entry.identity.ceremony = .create := by
  unfold checkRegistrationOpen demand at checked
  grind

/-- The record of a registration is in the ledger, beside the state that the vault is in. -/
structure Recorded (token : String) (rollback : PasskeyRegistrationRollbackState)
    (durableState : PasskeyCeremonyDurableState) (before after : PasskeyRuntime) : Prop where
  here : ∃ entry, before.ceremonies[token]? = some entry ∧ checkRegistrationOpen entry = .ok () ∧
    after.ceremonies[token]? = some { entry with registrationRollback := some rollback, durableState }
  others : ∀ other : String, other ≠ token → after.ceremonies[other]? = before.ceremonies[other]?

/-- How a request comes out that records a registration, changes the vault and says so. -/
inductive RegistrationRun {A : Type} (token : String) (rollback : PasskeyRegistrationRollbackState) (result : A)
    (before : PasskeyRuntime) : Except RuntimeError A × PasskeyRuntime → Prop
  | refused (e : RuntimeError) (closed : ∀ entry, before.ceremonies[token]? = some entry →
      checkRegistrationOpen entry ≠ .ok ()) : RegistrationRun token rollback result before (.error e, before)
  | failed (e : RuntimeError) {after : PasskeyRuntime} (recorded : Recorded token rollback .snapshot before after) :
      RegistrationRun token rollback result before (.error e, after)
  | stored {after : PasskeyRuntime} (recorded : Recorded token rollback .mutated before after) :
      RegistrationRun token rollback result before (.ok result, after)

theorem checkRegistrationOpen_recorded {entry : PasskeyCeremonyLedgerEntry} {rollback : PasskeyRegistrationRollbackState}
    (checked : checkRegistrationOpen entry = .ok ()) :
    checkRegistrationOpen { entry with registrationRollback := some rollback, durableState := .snapshot } = .ok () := by
  unfold checkRegistrationOpen demand at checked ⊢
  grind

theorem setRollback_run {token : String} {rollback : PasskeyRegistrationRollbackState} {runtime : PasskeyRuntime}
    {entry : PasskeyCeremonyLedgerEntry} (held : runtime.ceremonies[token]? = some entry)
    (checked : checkRegistrationOpen entry = .ok ()) :
    setPasskeyRegistrationRollback token rollback .snapshot runtime =
      (.ok (), { runtime with ceremonies :=
        runtime.ceremonies.insert token { entry with registrationRollback := some rollback, durableState := .snapshot } }) := by
  rw [setPasskeyRegistrationRollback, onCeremony_held held]
  simp only [bind_run, get_run, checked, lift_ok, modify_run]

theorem setDurableState_run {token : String} {durableState : PasskeyCeremonyDurableState} {runtime : PasskeyRuntime}
    {entry : PasskeyCeremonyLedgerEntry} (held : runtime.ceremonies[token]? = some entry)
    (checked : checkRegistrationOpen entry = .ok ()) :
    setPasskeyCeremonyDurableState token durableState runtime =
      (.ok (), { runtime with ceremonies := runtime.ceremonies.insert token { entry with durableState } }) := by
  rw [setPasskeyCeremonyDurableState, onCeremony_held held]
  simp only [bind_run, get_run, checked, lift_ok, modify_run]

theorem setRollback_refused {token : String} {rollback : PasskeyRegistrationRollbackState} {runtime : PasskeyRuntime}
    {entry : PasskeyCeremonyLedgerEntry} {e : RuntimeError} (held : runtime.ceremonies[token]? = some entry)
    (checked : checkRegistrationOpen entry = .error e) :
    setPasskeyRegistrationRollback token rollback .snapshot runtime = (.error e, runtime) := by
  rw [setPasskeyRegistrationRollback, onCeremony_held held]
  simp only [bind_run, get_run, checked, lift_error, BTreeMap.insert_same held]

theorem registration_run {A B : Type} (token : String) (rollback : PasskeyRegistrationRollbackState)
    (change : Runtime A) (result : B) (runtime : PasskeyRuntime) :
    RegistrationRun token rollback result runtime ((do
      setPasskeyRegistrationRollback token rollback .snapshot
      let _ ← onSession change
      setPasskeyCeremonyDurableState token .mutated
      return result) runtime) := by
  rw [bind_run]
  cases held : runtime.ceremonies[token]? with
  | none =>
      rw [setPasskeyRegistrationRollback, onCeremony_missing held]
      exact .refused _ (by simp [held])
  | some entry =>
      cases checked : checkRegistrationOpen entry with
      | error e =>
          rw [setRollback_refused held checked]
          refine .refused e fun entry' held' => ?_
          rw [held] at held'
          cases held'
          simp [checked]
      | ok _ =>
          rw [setRollback_run held checked]
          dsimp only
          rw [bind_run, onSession_run]
          cases (change runtime.session).1 with
          | error e =>
              refine .failed e ⟨⟨entry, held, checked, by simp⟩, fun other apart => ?_⟩
              rw [BTreeMap.insert_lookup, if_neg (Ne.symm apart)]
          | ok _ =>
              dsimp only
              rw [bind_run, @setDurableState_run _ _ _ { entry with
                registrationRollback := some rollback, durableState := .snapshot } (by simp)
                (checkRegistrationOpen_recorded checked)]
              refine .stored ⟨⟨entry, held, checked, by simp⟩, fun other apart => ?_⟩
              simp only [BTreeMap.insert_lookup, if_neg (Ne.symm apart)]

theorem Recorded.quiet {token : String} {rollback : PasskeyRegistrationRollbackState}
    {durableState : PasskeyCeremonyDurableState} {before after : PasskeyRuntime}
    (recorded : Recorded token rollback durableState before after) (complete : rollback.isComplete)
    (pending : durableState = .snapshot ∨ durableState = .mutated) : LedgerMoves QuietStep before after := by
  obtain ⟨⟨entry, held, checked, stored⟩, others⟩ := recorded
  obtain ⟨phase, create⟩ := checkRegistrationOpen_ok checked
  intro other
  by_cases here : other = token
  · rw [here, held, stored]
    refine .some (.of_registration phase create ?_ fun _ record => .inr (Option.some.inj record ▸ complete))
    rcases pending with rfl | rfl <;> simp
  · rw [others other here]
    exact LedgerMoves.refl QuietStep.refl before other

/-- The record that is kept of a registration. -/
def registrationRecord (request : CreatePasskeyRegistrationRequest) (drawn : DrawnCredential)
    (registration : PasskeyRegistration) (existing : Option (String × Entry)) : PasskeyRegistrationRollbackState :=
  { vaultId := request.vaultId
    entryId := (existing.map Prod.fst).getD (uuidToString drawn.entryId)
    credentialId := some registration.passkey.credentialId
    created := existing.isNone
    rollbackEntry := existing.map Prod.snd }

theorem registrationRecord_complete (request : CreatePasskeyRegistrationRequest) (drawn : DrawnCredential)
    (registration : PasskeyRegistration) (existing : Option (String × Entry)) :
    (registrationRecord request drawn registration existing).isComplete := by
  cases existing <;> rfl

theorem storeRegistration_run (token : String) (request : CreatePasskeyRegistrationRequest) (drawn : DrawnCredential)
    (registration : PasskeyRegistration) (modifiedAt : Nat) (existing : Option (String × Entry))
    (runtime : PasskeyRuntime) :
    let record := registrationRecord request drawn registration existing
    RegistrationRun token record
      { entryId := record.entryId
        credentialId := registration.passkey.credentialId
        created := record.created
        authenticatorData := registration.authenticatorData }
      runtime (storeRegistration token request drawn registration modifiedAt existing runtime) := by
  unfold storeRegistration
  cases existing <;> exact registration_run token _ _ _ runtime

theorem storeRegistration_quiet (token : String) (request : CreatePasskeyRegistrationRequest) (drawn : DrawnCredential)
    (registration : PasskeyRegistration) (modifiedAt : Nat) (existing : Option (String × Entry)) :
    Moves (LedgerMoves QuietStep) (storeRegistration token request drawn registration modifiedAt existing) := by
  intro runtime
  have complete := registrationRecord_complete request drawn registration existing
  have run := storeRegistration_run token request drawn registration modifiedAt existing runtime
  generalize storeRegistration token request drawn registration modifiedAt existing runtime = outcome at run ⊢
  cases run with
  | refused => exact .refl QuietStep.refl runtime
  | failed _ recorded => exact recorded.quiet complete (.inl rfl)
  | stored recorded => exact recorded.quiet complete (.inr rfl)

theorem createPasskeyRegistration_quiet (token : String) (expectedPhase : PasskeyCeremonyPhase)
    (request : CreatePasskeyRegistrationRequest) (drawn : DrawnCredential) :
    Moves (LedgerMoves QuietStep) (createPasskeyRegistration services token expectedPhase request drawn) := by
  rw [createPasskeyRegistration]
  exact quiet_bind (Idle.ledgers (prepareRegistration_idle services) fun idle => idle.quiet) fun _ =>
    storeRegistration_quiet token _ _ _ _ _

theorem createPasskeyRegistration_run {runtime mid : PasskeyRuntime} {prepared : PreparedRegistration}
    (passes : prepareRegistration services token expectedPhase request drawn runtime = (.ok prepared, mid)) :
    let record := registrationRecord request drawn prepared.registration prepared.existing
    RegistrationRun token record
      { entryId := record.entryId
        credentialId := prepared.registration.passkey.credentialId
        created := record.created
        authenticatorData := prepared.registration.authenticatorData }
      mid (createPasskeyRegistration services token expectedPhase request drawn runtime) := by
  rw [createPasskeyRegistration, bind_run, passes]
  exact storeRegistration_run token request drawn _ _ _ mid

/-! ## Saving and committing -/

theorem readCeremony_ok {token : String} {runtime after : PasskeyRuntime} {entry : PasskeyCeremonyLedgerEntry}
    (read : readCeremony token runtime = (.ok entry, after)) : runtime.ceremonies[token]? = some entry := by
  unfold readCeremony at read
  rw [bind_run, get_run] at read
  cases held : runtime.ceremonies[token]? with
  | none => simp [held] at read
  | some entry' =>
      simp only [held, require_some, Prod.mk.injEq, Except.ok.injEq] at read
      rw [read.1]

theorem checkSavable_ok {entry : PasskeyCeremonyLedgerEntry} {vaultId : String} {now : Nat}
    (checked : checkSavable entry vaultId now = .ok ()) :
    entry.identity.ceremony = .create ∧ entry.registrationRollback.isSome := by
  unfold checkSavable at checked
  obtain ⟨_, create, checked⟩ := Fallible.bind_ok.mp checked
  obtain ⟨_, _, checked⟩ := Fallible.bind_ok.mp checked
  obtain ⟨_, _, checked⟩ := Fallible.bind_ok.mp checked
  constructor
  · unfold demand at create
    grind
  · split at checked
    · cases checked
    · rename_i held
      simp [held]

theorem markSaved_keeps {expectedPhase : PasskeyCeremonyPhase} {entry : PasskeyCeremonyLedgerEntry}
    (expected : expectedPhase = .completionAndMutation) (create : entry.identity.ceremony = .create)
    (rollback : entry.registrationRollback.isSome) : KeepStep entry (markSaved expectedPhase entry).2 := by
  unfold markSaved
  by_cases phase : entry.phase = expectedPhase
  · by_cases committed : entry.durableState = .committed
    · simpa [bind_run, phase, committed] using Std.Refl.refl (r := KeepStep) entry
    · have moved : KeepStep entry { entry with
          registrationRollback := entry.registrationRollback, durableState := .saved } :=
        ⟨.of_registration (phase.trans expected) create (by simp [rollback]) fun _ record => .inl record,
          .inl ⟨rfl, fun _ => rfl, fun done => absurd done committed⟩⟩
      simpa [bind_run, phase, committed] using moved
  · simpa [bind_run, phase] using Std.Refl.refl (r := KeepStep) entry

theorem savePasskeyRegistration_keeps (token : String) (expectedPhase : PasskeyCeremonyPhase) (vaultId : String) :
    Moves (LedgerMoves KeepStep) (savePasskeyRegistration services token expectedPhase vaultId) := by
  intro runtime
  have same : LedgerMoves KeepStep runtime runtime := .refl Std.Refl.refl runtime
  refine ReadOnly.peel (.ensure _ _) same fun _ expected => ?_
  replace expected : expectedPhase = .completionAndMutation := by simpa using (ensure_ok.mp expected).1
  refine ReadOnly.peel .get same fun _ _ => ?_
  refine ReadOnly.peel (readCeremony_readOnly token) same fun entry read => ?_
  have held := readCeremony_ok read
  split
  · exact (ReadOnly.bind (.ensure _ _) fun _ => .pure none).moves (LedgerMoves.refl Std.Refl.refl) runtime
  · refine ReadOnly.peel (.lift _) same fun _ checked => ?_
    obtain ⟨create, rollback⟩ := checkSavable_ok (lift_eq_ok.mp checked).1
    rw [bind_run]
    cases saved : onSession (services.saveVault vaultId) runtime with
    | mk value mid =>
        have kept : mid.ceremonies = runtime.ceremonies := by
          have kept := onSession_ceremonies (services.saveVault vaultId) runtime
          rwa [saved] at kept
        have moved : LedgerMoves KeepStep runtime mid := .of_same Std.Refl.refl kept
        cases value with
        | error e => exact moved
        | ok result =>
            refine ReadOnly.peel (.lift _) moved fun _ _ => ?_
            refine LedgerMoves.trans (R := KeepStep) (fun _ _ _ => IsTrans.trans _ _ _) moved ?_
            have marked : LedgerMoves KeepStep mid (onCeremony token (markSaved expectedPhase) mid).2 := by
              refine onCeremony_step Std.Refl.refl fun entry' held' => ?_
              rw [kept, held] at held'
              cases held'
              exact markSaved_keeps expected create rollback
            rw [bind_run]
            cases done : onCeremony token (markSaved expectedPhase) mid with
            | mk value last =>
                rw [done] at marked
                cases value <;> exact marked

theorem commitRegistration_cases (vaultId entryId credentialId : String) (now : Nat) (entry : PasskeyCeremonyLedgerEntry) :
    (commitRegistration .completionAndMutation vaultId entryId credentialId now entry).2 = entry ∨
      entry.phase = .completionAndMutation ∧ entry.identity.ceremony = .create ∧
      (commitRegistration .completionAndMutation vaultId entryId credentialId now entry).2 =
        { entry with durableState := .committed, registrationRollback := none } := by
  unfold commitRegistration
  dsimp only
  split
  · split <;> exact .inl rfl
  · rename_i phase
    split
    · exact .inl rfl
    · rename_i create
      split
      · exact .inl rfl
      · split
        · exact .inl rfl
        · split
          · exact .inl rfl
          · split
            · exact .inl rfl
            · split
              · exact .inl rfl
              · exact .inr ⟨Decidable.not_not.mp phase, Decidable.not_not.mp create, rfl⟩

theorem commitRegistration_keeps (vaultId entryId credentialId : String) (now : Nat) :
    Moves KeepStep (commitRegistration .completionAndMutation vaultId entryId credentialId now) := by
  intro entry
  rcases commitRegistration_cases vaultId entryId credentialId now entry with same | ⟨phase, create, committed⟩
  · rw [same]
    exact Std.Refl.refl entry
  · rw [committed]
    exact ⟨.of_registration phase create (by simp) (by simp), .inr rfl⟩

theorem commitPasskeyRegistration_keeps (token : String) (expectedPhase : PasskeyCeremonyPhase)
    (vaultId entryId credentialId : String) :
    Moves (LedgerMoves KeepStep) (commitPasskeyRegistration token expectedPhase vaultId entryId credentialId) := by
  intro runtime
  refine ReadOnly.peel (.ensure _ _) (.refl Std.Refl.refl runtime) fun _ expected => ?_
  obtain rfl : expectedPhase = .completionAndMutation := by simpa using (ensure_ok.mp expected).1
  refine ReadOnly.peel .get (.refl Std.Refl.refl runtime) fun _ _ => ?_
  exact onCeremony_moves Std.Refl.refl (commitRegistration_keeps vaultId entryId credentialId _) _

end Requests

end VaultKern
