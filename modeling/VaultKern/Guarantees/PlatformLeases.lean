import VaultKern.Guarantees.CeremonyRuns
import VaultKern.Passkey.Platform

/-! # Leases of platform operations

An operation works on the vault and in the session of its lease, and a user is verified once
for it. The last lease that ends locks a session that was unlocked for the first.
-/

namespace VaultKern

open Attempt

/-! ## What a request leaves alone -/

/-- The session is for the same vault and of the same generation. -/
structure SameSession (before after : PlatformRuntime) : Prop where
  active : after.session.activeVaultId = before.session.activeVaultId
  generation : after.sessionGeneration = before.sessionGeneration
  pending : after.pendingPlatformRelock = before.pendingPlatformRelock

instance : Std.Refl SameSession := ⟨fun _ => ⟨rfl, rfl, rfl⟩⟩

/-- The other vaults of the session keep their content. -/
def OnlyVault (vaultId : String) (before after : Session) : Prop :=
  after.activeVaultId = before.activeVaultId ∧
    ∀ other : String, other ≠ vaultId → after.loaded[other]? = before.loaded[other]?

namespace OnlyVault

variable {vaultId : String} {first second third : Session}

theorem refl (session : Session) : OnlyVault vaultId session session := ⟨rfl, fun _ _ => rfl⟩

theorem trans (early : OnlyVault vaultId first second) (late : OnlyVault vaultId second third) :
    OnlyVault vaultId first third :=
  ⟨late.1.trans early.1, fun other apart => (late.2 other apart).trans (early.2 other apart)⟩

end OnlyVault

theorem onVault_only {A : Type} (vaultId : String) (m : VaultEdit A) (session : Session) :
    OnlyVault vaultId session (onVault vaultId m session).2 := by
  unfold onVault
  split
  · exact .refl session
  · refine ⟨rfl, fun other apart => ?_⟩
    simp [Ne.symm apart]

theorem changeOrRollBack_only (rollback : PasskeyRegistrationRollbackState) (change : VaultEdit Unit) (session : Session) :
    OnlyVault rollback.vaultId session (changeOrRollBack rollback change session).2 := by
  have changed := onVault_only rollback.vaultId change session
  unfold changeOrRollBack
  cases run : onVault rollback.vaultId change session with
  | mk value mid =>
      rw [run] at changed
      cases value with
      | ok _ => exact changed
      | error e => exact changed.trans (onVault_only _ _ mid)

theorem commitPlatformPasskeyRegistration_only (services : PlatformServices)
    (rollback : PasskeyRegistrationRollbackState) (session : Session) :
    OnlyVault rollback.vaultId session (commitPlatformPasskeyRegistration services rollback session).2 := by
  have saved := onVault_only rollback.vaultId (services.saveVault rollback.vaultId) session
  unfold commitPlatformPasskeyRegistration
  cases run : onVault rollback.vaultId (services.saveVault rollback.vaultId) session with
  | mk value mid =>
      rw [run] at saved
      have back : OnlyVault rollback.vaultId session (restorePasskeyRegistrationRollback rollback mid).2 :=
        saved.trans (onVault_only _ _ mid)
      cases value with
      | error e => exact back
      | ok result =>
          dsimp only
          split
          · exact back
          · split
            · exact saved
            · exact back

/-! ## Leases -/

/-- A lease stays for its vault and session, and its verification stays consumed. -/
structure Continues (before after : PlatformPasskeyOperationLease) : Prop where
  vaultId : after.vaultId = before.vaultId
  sessionGeneration : after.sessionGeneration = before.sessionGeneration
  consumed : before.userVerificationConsumed → after.userVerificationConsumed

/-- A lease rolls back a registration of its own vault. -/
def SoundLease (lease : PlatformPasskeyOperationLease) : Prop :=
  ∀ rollback, lease.pendingRegistration = some rollback → rollback.vaultId = lease.vaultId

theorem activePlatformPasskeyVaultId_readOnly : ReadOnly activePlatformPasskeyVaultId := by
  refine .bind .get fun runtime => .bind (.require _ _) fun vaultId => ?_
  split
  · exact .pure _
  · exact .fail _

theorem activePlatformPasskeyVaultId_ok {runtime after : PlatformRuntime} {vaultId : String}
    (active : activePlatformPasskeyVaultId runtime = (.ok vaultId, after)) :
    runtime.session.activeVaultId = some vaultId := by
  obtain ⟨_, same, active⟩ := ReadOnly.get.bind_ok.mp active
  cases same
  obtain ⟨found, required, active⟩ := (ReadOnly.require _ _).bind_ok.mp active
  cases held : runtime.session.activeVaultId with
  | none => simp [held] at required
  | some here =>
      simp only [held, require_some, Prod.mk.injEq, Except.ok.injEq, and_true] at required
      subst required
      cases content : runtime.session.loaded[here]? with
      | none => simp [content] at active
      | some vault =>
          cases vault with
          | none => simp [content] at active
          | some vault =>
              simp only [content, pure_run, Prod.mk.injEq, Except.ok.injEq] at active
              rw [active.1]

theorem loadedPlatformVault_readOnly (vaultId : String) : ReadOnly (loadedPlatformVault vaultId) :=
  .bind .get fun _ => .lift _

theorem matchingLease_readOnly (operationId : List UInt8) : ReadOnly (matchingLease operationId) :=
  .bind activePlatformPasskeyVaultId_readOnly fun _ => .bind .get fun _ => .bind (.require _ _) fun _ =>
    .bind (.ensure _ _) fun _ => .pure _

theorem matchingLease_ok {operationId : List UInt8} {runtime after : PlatformRuntime}
    {lease : PlatformPasskeyOperationLease} (found : matchingLease operationId runtime = (.ok lease, after)) :
    runtime.platformPasskeyOperations[operationId]? = some lease ∧
      runtime.session.activeVaultId = some lease.vaultId ∧ lease.sessionGeneration = runtime.sessionGeneration := by
  obtain ⟨vaultId, active, found⟩ := activePlatformPasskeyVaultId_readOnly.bind_ok.mp found
  obtain ⟨_, same, found⟩ := ReadOnly.get.bind_ok.mp found
  cases same
  obtain ⟨held, required, found⟩ := (ReadOnly.require _ _).bind_ok.mp found
  obtain ⟨_, checked, found⟩ := (ReadOnly.ensure _ _).bind_ok.mp found
  cases found
  have checked := (ensure_ok.mp checked).1
  simp only [Bool.and_eq_true, decide_eq_true_eq] at checked
  cases here : runtime.platformPasskeyOperations[operationId]? with
  | none => simp [here] at required
  | some lease' =>
      simp only [here, require_some, Prod.mk.injEq, Except.ok.injEq, and_true] at required
      subst required
      refine ⟨rfl, ?_, checked.2⟩
      rw [checked.1]
      exact activePlatformPasskeyVaultId_ok active

/-! ## Operations -/

/-- An operation under the lease, for the vault and in the session of it. -/
structure Operates (operationId : List UInt8) (lease lease' : PlatformPasskeyOperationLease)
    (before after : PlatformRuntime) : Prop where
  held : before.platformPasskeyOperations[operationId]? = some lease
  active : before.session.activeVaultId = some lease.vaultId
  generation : lease.sessionGeneration = before.sessionGeneration
  stored : ∀ other : List UInt8, after.platformPasskeyOperations[other]? =
    if operationId = other then some lease' else before.platformPasskeyOperations[other]?
  continues : Continues lease lease'
  sound : SoundLease lease → SoundLease lease'
  same : SameSession before after
  only : SoundLease lease → OnlyVault lease.vaultId before.session after.session

section Operations

variable (services : PlatformServices) {operationId : List UInt8} {runtime : PlatformRuntime}

/-- A registration changes the vault of its record. -/
structure Prepares (vaultId : String) (before : PlatformRuntime)
    (run : Except RuntimeError (PlatformPasskeyRegistrationOutput × PasskeyRegistrationRollbackState) × PlatformRuntime) :
    Prop where
  only : OnlyVault vaultId before.session run.2.session
  rest : run.2 = { before with session := run.2.session }
  record : ∀ output rollback, run.1 = .ok (output, rollback) → rollback.vaultId = vaultId

theorem Prepares.failed {vaultId : String} (e : RuntimeError) : Prepares vaultId runtime (.error e, runtime) :=
  ⟨.refl _, rfl, fun _ _ done => by cases done⟩

theorem Prepares.changed {vaultId : String} (rollback : PasskeyRegistrationRollbackState)
    (own : rollback.vaultId = vaultId) {change : VaultEdit Unit} {output : PlatformPasskeyRegistrationOutput} :
    Prepares vaultId runtime
      ((inSession (changeOrRollBack rollback change) >>= fun _ => pure (output, rollback)) runtime) := by
  subst own
  have only := changeOrRollBack_only rollback change runtime.session
  rw [bind_run]
  unfold inSession
  cases run : changeOrRollBack rollback change runtime.session with
  | mk value mid =>
      rw [run] at only
      cases value with
      | error e => exact ⟨only, rfl, fun _ _ done => by cases done⟩
      | ok _ =>
          refine ⟨only, rfl, fun output' rollback' done => ?_⟩
          cases done
          rfl

theorem preparePlatformPasskeyRegistration_prepares (input : PlatformPasskeyRegistrationInput) (drawn : DrawnCredential)
    {vaultId : String} (active : runtime.session.activeVaultId = some vaultId) :
    Prepares vaultId runtime (preparePlatformPasskeyRegistration services input drawn runtime) := by
  unfold preparePlatformPasskeyRegistration
  refine ReadOnly.peel_run (P := Prepares vaultId runtime) activePlatformPasskeyVaultId_readOnly .failed fun here found => ?_
  obtain rfl : here = vaultId := Option.some.inj ((activePlatformPasskeyVaultId_ok found).symm.trans active)
  refine ReadOnly.peel_run (.lift _) .failed fun _ _ => ?_
  refine ReadOnly.peel_run (.lift _) .failed fun _ _ => ?_
  refine ReadOnly.peel_run (.lift _) .failed fun _ _ => ?_
  refine ReadOnly.peel_run .get .failed fun _ _ => ?_
  refine ReadOnly.peel_run (loadedPlatformVault_readOnly _) .failed fun _ _ => ?_
  refine ReadOnly.peel_run (.lift _) .failed fun existing _ => ?_
  refine ReadOnly.peel_run (.ensure _ _) .failed fun _ _ => ?_
  cases existing with
  | none =>
      apply Prepares.changed
      rfl
  | some found =>
      apply Prepares.changed
      rfl

/-- An operation that takes the verification of its lease. -/
def Spends (operationId : List UInt8) (before after : PlatformRuntime) : Prop :=
  ∃ lease lease', Operates operationId lease lease' before after ∧ lease.userVerificationConsumed = false ∧
    lease'.userVerificationConsumed

/-- A verification is there to be taken. -/
structure Spendable (operationId : List UInt8) (lease : PlatformPasskeyOperationLease) (runtime : PlatformRuntime) :
    Prop where
  held : runtime.platformPasskeyOperations[operationId]? = some lease
  active : runtime.session.activeVaultId = some lease.vaultId
  generation : lease.sessionGeneration = runtime.sessionGeneration
  unspent : lease.userVerificationConsumed = false

def PlatformPasskeyOperationLease.spent (lease : PlatformPasskeyOperationLease) : PlatformPasskeyOperationLease :=
  { lease with userVerificationConsumed := true }

theorem consume_cases (operationId : List UInt8) (runtime : PlatformRuntime) :
    (∃ e, consumePlatformPasskeyOperationVerification operationId runtime = (.error e, runtime)) ∨
      ∃ lease, Spendable operationId lease runtime ∧
        consumePlatformPasskeyOperationVerification operationId runtime =
          (.ok (), runtime.putLease operationId lease.spent) := by
  let Allowed (run : Except RuntimeError Unit × PlatformRuntime) : Prop :=
    (∃ e, run = (.error e, runtime)) ∨
      ∃ lease, Spendable operationId lease runtime ∧ run = (.ok (), runtime.putLease operationId lease.spent)
  have failed (e : RuntimeError) : Allowed (.error e, runtime) := .inl ⟨e, rfl⟩
  change Allowed _
  unfold consumePlatformPasskeyOperationVerification
  refine ReadOnly.peel_run (matchingLease_readOnly operationId) failed fun lease found => ?_
  refine ReadOnly.peel_run (.ensure _ _) failed fun _ unspent => ?_
  obtain ⟨held, active, generation⟩ := matchingLease_ok found
  exact .inr ⟨lease, ⟨held, active, generation, by simpa using (ensure_ok.mp unspent).1⟩, rfl⟩

/-- An operation that starts by taking the verification. -/
theorem operation_spends {A : Type} {next : Unit → PlatformCommand A}
    (rest : ∀ lease, Spendable operationId lease runtime →
      Spends operationId runtime (next () (runtime.putLease operationId lease.spent)).2) :
    let run := (consumePlatformPasskeyOperationVerification operationId >>= next) runtime
    (∃ e, run = (.error e, runtime)) ∨ Spends operationId runtime run.2 := by
  dsimp only
  rw [bind_run]
  rcases consume_cases operationId runtime with ⟨e, refused⟩ | ⟨lease, spendable, consumed⟩
  · rw [refused]
    exact .inl ⟨e, rfl⟩
  · rw [consumed]
    exact .inr (rest lease spendable)

/-- The lease after an operation, and what the operation did to the session. -/
theorem Spendable.operates {lease : PlatformPasskeyOperationLease} {after : PlatformRuntime}
    (spendable : Spendable operationId lease runtime) (lease' : PlatformPasskeyOperationLease)
    (vaultId : lease'.vaultId = lease.vaultId)
    (generation : lease'.sessionGeneration = lease.sessionGeneration) (spent : lease'.userVerificationConsumed)
    (sound : SoundLease lease → SoundLease lease')
    (stored : ∀ other : List UInt8, after.platformPasskeyOperations[other]? =
      if operationId = other then some lease' else runtime.platformPasskeyOperations[other]?)
    (same : SameSession runtime after) (only : OnlyVault lease.vaultId runtime.session after.session) :
    Spends operationId runtime after :=
  ⟨lease, lease', ⟨spendable.held, spendable.active, spendable.generation, stored,
    ⟨vaultId, generation, fun _ => spent⟩, sound, same, fun _ => only⟩, spendable.unspent, spent⟩

theorem register_spends (input : PlatformPasskeyRegistrationInput) (drawn : DrawnCredential) :
    let run := registerPlatformPasskeyForOperation services operationId input drawn runtime
    (∃ e, run = (.error e, runtime)) ∨ Spends operationId runtime run.2 := by
  refine operation_spends fun lease spendable => ?_
  have prepares : Prepares lease.vaultId (runtime.putLease operationId lease.spent)
      (preparePlatformPasskeyRegistration services input drawn (runtime.putLease operationId lease.spent)) :=
    preparePlatformPasskeyRegistration_prepares services input drawn spendable.active
  rw [bind_run]
  cases run : preparePlatformPasskeyRegistration services input drawn (runtime.putLease operationId lease.spent) with
  | mk value mid =>
      rw [run] at prepares
      obtain ⟨only, rest, record⟩ := prepares
      dsimp only at rest
      rw [rest]
      cases value with
      | error e =>
          refine spendable.operates lease.spent rfl rfl rfl (fun sound => sound) ?_ ⟨only.1, rfl, rfl⟩ only
          exact fun other => BTreeMap.insert_lookup _ _ _ _
      | ok output =>
          obtain ⟨output, rollback⟩ := output
          have held : (runtime.putLease operationId lease.spent).platformPasskeyOperations[operationId]? =
              some lease.spent := by simp [PlatformRuntime.putLease]
          simp only [bind_run, get_run, held, require_some, modify_run, pure_run]
          refine spendable.operates { lease.spent with pendingRegistration := some rollback } rfl rfl rfl ?_ ?_
            ⟨only.1, rfl, rfl⟩ only
          · intro _ rollback' pending
            cases pending
            exact record output rollback rfl
          · intro other
            simp only [PlatformRuntime.putLease, BTreeMap.insert_lookup]
            split <;> rfl

theorem createPlatformPasskeyAssertion_readOnly (input : PlatformPasskeyAssertionInput) :
    ReadOnly (createPlatformPasskeyAssertion services input) :=
  .bind activePlatformPasskeyVaultId_readOnly fun _ => .bind (loadedPlatformVault_readOnly _) fun _ => .lift _

theorem assert_spends (input : PlatformPasskeyAssertionInput) :
    let run := createPlatformPasskeyAssertionForOperation services operationId input runtime
    (∃ e, run = (.error e, runtime)) ∨ Spends operationId runtime run.2 := by
  refine operation_spends fun lease spendable => ?_
  rw [createPlatformPasskeyAssertion_readOnly]
  refine spendable.operates lease.spent rfl rfl rfl (fun sound => sound) ?_ ⟨rfl, rfl, rfl⟩ (.refl _)
  exact fun other => BTreeMap.insert_lookup _ _ _ _

/-- A commit works under its lease. -/
theorem commit_operates (operationId : List UInt8) (runtime : PlatformRuntime) :
    let run := commitPlatformPasskeyRegistrationOperation services operationId runtime
    (∃ e, run = (.error e, runtime)) ∨ ∃ lease lease', Operates operationId lease lease' runtime run.2 ∧
      lease'.userVerificationConsumed = lease.userVerificationConsumed := by
  let Allowed (run : Except RuntimeError Unit × PlatformRuntime) : Prop :=
    (∃ e, run = (.error e, runtime)) ∨ ∃ lease lease', Operates operationId lease lease' runtime run.2 ∧
      lease'.userVerificationConsumed = lease.userVerificationConsumed
  have failed (e : RuntimeError) : Allowed (.error e, runtime) := .inl ⟨e, rfl⟩
  change Allowed _
  unfold commitPlatformPasskeyRegistrationOperation
  refine ReadOnly.peel_run (matchingLease_readOnly operationId) failed fun lease found => ?_
  refine ReadOnly.peel_run (.require _ _) failed fun rollback pending => ?_
  obtain ⟨held, active, generation⟩ := matchingLease_ok found
  have pending : lease.pendingRegistration = some rollback := by
    cases here : lease.pendingRegistration with
    | none => simp [here] at pending
    | some other =>
        simp only [here, require_some, Prod.mk.injEq, Except.ok.injEq, and_true] at pending
        rw [pending]
  have only := commitPlatformPasskeyRegistration_only services rollback runtime.session
  refine .inr ⟨lease, { lease with pendingRegistration := none }, ⟨held, active, generation, ?_, ⟨rfl, rfl, id⟩,
    fun _ => nofun, ⟨only.1, rfl, rfl⟩, fun sound => ?_⟩, rfl⟩
  · exact fun other => BTreeMap.insert_lookup _ _ _ _
  · rw [← sound rollback pending]
    exact only

end Operations

/-! ## Locking and unlocking -/

/-- The leases stay, and the session stays or is left. -/
structure Passes (before after : PlatformRuntime) : Prop where
  leases : after.platformPasskeyOperations = before.platformPasskeyOperations
  generation : after.sessionGeneration = before.sessionGeneration
  pending : after.pendingPlatformRelock = before.pendingPlatformRelock
  active : after.session.activeVaultId = before.session.activeVaultId ∨ after.session.activeVaultId = none

theorem Passes.refl (runtime : PlatformRuntime) : Passes runtime runtime := ⟨rfl, rfl, rfl, .inl rfl⟩

theorem Passes.trans {first second third : PlatformRuntime} (early : Passes first second) (late : Passes second third) :
    Passes first third := by
  refine ⟨late.leases.trans early.leases, late.generation.trans early.generation, late.pending.trans early.pending, ?_⟩
  rcases late.active with same | left
  · rw [same]
    exact early.active
  · exact .inr left

section Passing

variable {A B : Type}

theorem passes_bind {m : PlatformCommand A} {next : A → PlatformCommand B} (first : Moves Passes m)
    (rest : ∀ a, Moves Passes (next a)) : Moves Passes (m >>= next) :=
  Moves.bind (R := Passes) (fun _ _ _ => Passes.trans) first rest

theorem passes_of_readOnly {m : PlatformCommand A} (reads : ReadOnly m) : Moves Passes m := reads.moves Passes.refl

theorem makeCurrent_passes (vaultRefId : String) (runtime : PlatformRuntime) :
    Passes runtime (runtime.makeCurrent vaultRefId) := ⟨rfl, rfl, rfl, .inr rfl⟩

theorem loadSourceSnapshot_passes (answer : Except RuntimeError SourceSnapshot) :
    Moves Passes (loadSourceSnapshot answer) := by
  refine passes_bind (passes_of_readOnly (.lift _)) fun ⟨vaultId, localReference⟩ => ?_
  have located : Moves Passes (do modify (PlatformRuntime.insertLocked vaultId); return vaultId) :=
    passes_bind (fun runtime => ⟨rfl, rfl, rfl, .inl rfl⟩) fun _ => passes_of_readOnly (.pure _)
  cases localReference with
  | none => exact located
  | some vaultRefId => exact passes_bind (makeCurrent_passes vaultRefId) fun _ => located

theorem addVaultReference_passes (stored : Except RuntimeError String) : Moves Passes (addVaultReference stored) :=
  passes_bind (passes_of_readOnly (.lift _)) fun vaultRefId => makeCurrent_passes vaultRefId

theorem removeLoaded_passes (vaultId : String) (runtime : PlatformRuntime) :
    Passes runtime (runtime.removeLoaded vaultId) := by
  refine ⟨rfl, rfl, rfl, ?_⟩
  unfold PlatformRuntime.removeLoaded
  dsimp only
  cases runtime.session.activeVaultId with
  | none => exact .inl rfl
  | some active =>
      rw [Option.filter_some]
      split
      · exact .inl rfl
      · exact .inr rfl

theorem deleteVaultReference_passes (deletion : Except RuntimeError (Option (String × Bool))) :
    Moves Passes (deleteVaultReference deletion) := by
  refine passes_bind (passes_of_readOnly (.lift _)) fun found => ?_
  split
  · exact passes_of_readOnly (.pure _)
  · refine passes_bind (removeLoaded_passes _) fun _ => ?_
    split
    · exact fun runtime => ⟨rfl, rfl, rfl, .inr rfl⟩
    · exact passes_of_readOnly (.pure _)

theorem preloadCurrentVault_passes (source : Except RuntimeError String) (snapshot : Except RuntimeError SourceSnapshot) :
    Moves Passes (preloadCurrentVault source snapshot) := by
  refine passes_bind (passes_of_readOnly .get) fun runtime => ?_
  split
  · exact passes_of_readOnly (.pure _)
  · refine passes_bind (passes_of_readOnly (.lift _)) fun vaultId => ?_
    split
    · exact passes_of_readOnly (.pure _)
    · exact passes_bind (loadSourceSnapshot_passes snapshot) fun _ runtime => ⟨rfl, rfl, rfl, .inl rfl⟩

end Passing

/-- A request that fails, or starts a session of its own. -/
inductive Restarts (before : PlatformRuntime) : Except RuntimeError Unit × PlatformRuntime → Prop
  | failed {after : PlatformRuntime} (e : RuntimeError) (passes : Passes before after) : Restarts before (.error e, after)
  | done {after : PlatformRuntime} (leases : after.platformPasskeyOperations = before.platformPasskeyOperations)
      (pending : after.pendingPlatformRelock = none) : Restarts before (.ok (), after)

namespace Restarts

variable {before mid : PlatformRuntime} {run : Except RuntimeError Unit × PlatformRuntime}

theorem refused (e : RuntimeError) : Restarts before (.error e, before) := .failed e (.refl before)

theorem later (passes : Passes before mid) (restarts : Restarts mid run) : Restarts before run := by
  cases restarts with
  | failed e rest => exact .failed e (passes.trans rest)
  | done leases pending => exact .done (leases.trans passes.leases) pending

theorem leases (restarts : Restarts before run) :
    run.2.platformPasskeyOperations = before.platformPasskeyOperations := by
  cases restarts with
  | failed e passes => exact passes.leases
  | done leases pending => exact leases

end Restarts

theorem loadSourceSnapshot_restarts {answer : Except RuntimeError SourceSnapshot} {next : String → PlatformCommand Unit}
    (runtime : PlatformRuntime) (rest : ∀ vaultId runtime, Restarts runtime (next vaultId runtime)) :
    Restarts runtime ((loadSourceSnapshot answer >>= next) runtime) := by
  have passes := loadSourceSnapshot_passes answer runtime
  rw [bind_run]
  cases run : loadSourceSnapshot answer runtime with
  | mk value mid =>
      rw [run] at passes
      cases value with
      | error e => exact .failed e passes
      | ok vaultId => exact (rest vaultId mid).later passes

theorem finishUnlock_restarts (vaultId : String) (vault : Vault) (reference : Option String) (runtime : PlatformRuntime) :
    Restarts runtime (finishUnlock vaultId vault reference runtime) := by
  refine ReadOnly.peel_run (P := Restarts runtime) .get .refused fun _ _ => ?_
  refine ReadOnly.peel_run (P := Restarts runtime) (.ensure _ _) .refused fun _ _ => ?_
  exact .done rfl rfl

theorem unlockVault_restarts (vaultId : String) (answer : UnlockAnswer) (runtime : PlatformRuntime) :
    Restarts runtime (unlockVault vaultId answer runtime) := by
  refine ReadOnly.peel_run (P := Restarts runtime) (.lift _) .refused fun reference _ => ?_
  refine ReadOnly.peel_run (P := Restarts runtime) .get .refused fun _ _ => ?_
  refine ReadOnly.peel_run (P := Restarts runtime) (.ensure _ _) .refused fun _ _ => ?_
  refine ReadOnly.peel_run (P := Restarts runtime) (.lift _) .refused fun vault _ => ?_
  exact finishUnlock_restarts vaultId vault reference runtime

theorem unlockCurrentVault_restarts (source : Except RuntimeError String) (snapshot : Except RuntimeError SourceSnapshot)
    (answer : UnlockAnswer) (runtime : PlatformRuntime) :
    Restarts runtime (unlockCurrentVault source snapshot answer runtime) := by
  refine ReadOnly.peel_run (P := Restarts runtime) .get .refused fun state _ => ?_
  refine ReadOnly.peel_run (P := Restarts runtime) (.require _ _) .refused fun _ _ => ?_
  refine ReadOnly.peel_run (P := Restarts runtime) (.lift _) .refused fun vaultId _ => ?_
  split
  · exact unlockVault_restarts vaultId answer runtime
  · exact loadSourceSnapshot_restarts runtime fun vaultId mid => unlockVault_restarts vaultId answer mid

theorem quickUnlock_restarts (answer : QuickUnlockAnswer) (runtime : PlatformRuntime) :
    Restarts runtime (unlockCurrentVaultWithQuickUnlock answer runtime) := by
  refine ReadOnly.peel_run (P := Restarts runtime) (.lift _) .refused fun _ _ => ?_
  refine ReadOnly.peel_run (P := Restarts runtime) .get .refused fun _ _ => ?_
  refine ReadOnly.peel_run (P := Restarts runtime) (.require _ _) .refused fun reference _ => ?_
  refine ReadOnly.peel_run (P := Restarts runtime) (.lift _) .refused fun _ _ => ?_
  refine loadSourceSnapshot_restarts runtime fun vaultId mid => ?_
  refine ReadOnly.peel_run (P := Restarts mid) (.lift _) .refused fun vault _ => ?_
  exact finishUnlock_restarts vaultId vault (some reference) mid

theorem tryLockSession_restarts (runtime : PlatformRuntime) : Restarts runtime (tryLockSession runtime) := by
  refine ReadOnly.peel_run (P := Restarts runtime) (.bind .get fun _ => .ensure _ _) .refused fun _ _ => ?_
  exact .done rfl rfl

theorem closeVault_restarts (vaultId : String) (baseRemoved : Except RuntimeError Unit) (runtime : PlatformRuntime) :
    Restarts runtime (closeVault vaultId baseRemoved runtime) := by
  refine ReadOnly.peel_run (P := Restarts runtime) .get .refused fun _ _ => ?_
  refine ReadOnly.peel_run (P := Restarts runtime) (.ensure _ _) .refused fun _ _ => ?_
  refine ReadOnly.peel_run (P := Restarts runtime) (.bind .get fun _ => .ensure _ _) .refused fun _ _ => ?_
  refine ReadOnly.peel_run (P := Restarts runtime) (.lift _) .refused fun _ _ => ?_
  exact .done rfl rfl

theorem setCurrentVault_restarts (vaultRefId : String) (marked : Except RuntimeError Unit) (runtime : PlatformRuntime) :
    Restarts runtime (setCurrentVault vaultRefId marked runtime) := by
  refine ReadOnly.peel_run (P := Restarts runtime) (.lift _) .refused fun _ _ => ?_
  exact .done rfl rfl

/-! ## Preparing -/

def freshLease (vaultId : String) (sessionGeneration : UInt64) : PlatformPasskeyOperationLease :=
  { vaultId
    sessionGeneration
    userVerificationConsumed := false
    pendingRegistration := none }

/-- The runtime with a lease for its active vault. -/
def PlatformRuntime.leased (operationId : List UInt8) (vaultId : String) (runtime : PlatformRuntime) : PlatformRuntime :=
  runtime.putLease operationId (freshLease vaultId runtime.sessionGeneration)

def PlatformRuntime.awaitRelock (vaultId : String) (runtime : PlatformRuntime) : PlatformRuntime :=
  { runtime with pendingPlatformRelock := some (vaultId, runtime.sessionGeneration) }

section Preparing

variable (services : PlatformServices) {operationId : List UInt8} {before : PlatformRuntime}

abbrev PrepareRun := Except RuntimeError (List PlatformPasskeyCredential × Bool) × PlatformRuntime

theorem listPlatformPasskeyCredentials_readOnly : ReadOnly (listPlatformPasskeyCredentials services) :=
  .bind activePlatformPasskeyVaultId_readOnly fun vaultId => .bind (loadedPlatformVault_readOnly vaultId) fun _ => .pure _

/-- Opening a lease in an unlocked session. -/
inductive Shares (operationId : List UInt8) (before : PlatformRuntime) : PrepareRun → Prop
  | refused (e : RuntimeError) : Shares operationId before (.error e, before)
  | shared (credentials : List PlatformPasskeyCredential) (vaultId : String)
      (active : before.session.activeVaultId = some vaultId) :
      Shares operationId before (.ok (credentials, false), before.leased operationId vaultId)

theorem openLease_shares (answer : QuickUnlockAnswer) :
    Shares operationId before (openLease services operationId true answer before) := by
  refine ReadOnly.peel_run (P := Shares operationId before) activePlatformPasskeyVaultId_readOnly .refused fun vaultId active => ?_
  refine ReadOnly.peel_run (P := Shares operationId before) (listPlatformPasskeyCredentials_readOnly services) .refused
    fun credentials _ => ?_
  exact .shared credentials vaultId (activePlatformPasskeyVaultId_ok active)

/-- Opening a lease in a session that this has to unlock. -/
inductive Unlocks (operationId : List UInt8) (before : PlatformRuntime) : PrepareRun → Prop
  | refused (e : RuntimeError) {after : PlatformRuntime}
      (leases : after.platformPasskeyOperations = before.platformPasskeyOperations) :
      Unlocks operationId before (.error e, after)
  | unlocked (credentials : List PlatformPasskeyCredential) (vaultId : String) {mid : PlatformRuntime}
      (active : mid.session.activeVaultId = some vaultId)
      (leases : mid.platformPasskeyOperations = before.platformPasskeyOperations) :
      Unlocks operationId before (.ok (credentials, true), (mid.leased operationId vaultId).awaitRelock vaultId)

theorem openLease_unlocks (answer : QuickUnlockAnswer) :
    Unlocks operationId before (openLease services operationId false answer before) := by
  have leases := (quickUnlock_restarts answer before).leases
  change Unlocks operationId before ((unlockCurrentVaultWithQuickUnlock answer >>= _) before)
  rw [bind_run]
  cases run : unlockCurrentVaultWithQuickUnlock answer before with
  | mk value mid =>
      rw [run] at leases
      have failed (e : RuntimeError) : Unlocks operationId before (.error e, mid) := .refused e leases
      cases value with
      | error e => exact failed e
      | ok _ =>
          refine ReadOnly.peel_run (P := Unlocks operationId before) activePlatformPasskeyVaultId_readOnly failed
            fun vaultId active => ?_
          refine ReadOnly.peel_run (P := Unlocks operationId before) (listPlatformPasskeyCredentials_readOnly services)
            failed fun credentials _ => ?_
          exact .unlocked credentials vaultId (activePlatformPasskeyVaultId_ok active) leases

/-- A prepare that passes its checks in a locked session. -/
def mustUnlock (operationId : List UInt8) (runtime : PlatformRuntime) : Bool :=
  operationId.length = 16 && !runtime.platformPasskeyOperations.contains operationId && !runtime.isUnlocked

/-- What a prepare does. -/
inductive Prepared (operationId : List UInt8) (before : PlatformRuntime) : PrepareRun → Prop
  | refused (e : RuntimeError) (quiet : mustUnlock operationId before = false) :
      Prepared operationId before (.error e, before)
  | relocked (e : RuntimeError) {after : PlatformRuntime} (unlocks : mustUnlock operationId before)
      (leases : after.platformPasskeyOperations = before.platformPasskeyOperations)
      (pending : after.pendingPlatformRelock = none) : Prepared operationId before (.error e, after)
  | shared (credentials : List PlatformPasskeyCredential) (vaultId : String) (quiet : mustUnlock operationId before = false)
      (fresh : before.platformPasskeyOperations[operationId]? = none)
      (active : before.session.activeVaultId = some vaultId) :
      Prepared operationId before (.ok (credentials, false), before.leased operationId vaultId)
  | unlocked (credentials : List PlatformPasskeyCredential) (vaultId : String) {mid : PlatformRuntime}
      (unlocks : mustUnlock operationId before) (fresh : before.platformPasskeyOperations[operationId]? = none)
      (active : mid.session.activeVaultId = some vaultId)
      (leases : mid.platformPasskeyOperations = before.platformPasskeyOperations) :
      Prepared operationId before (.ok (credentials, true), (mid.leased operationId vaultId).awaitRelock vaultId)

/-- A prepare after its checks. -/
theorem openLease_prepared (answer : QuickUnlockAnswer) (length : operationId.length = 16)
    (fresh : before.platformPasskeyOperations[operationId]? = none) :
    Prepared operationId before
      (match openLease services operationId before.isUnlocked answer before with
        | (.ok result, after) => (.ok result, after)
        | (.error e, after) => (.error e, if before.isUnlocked then after else after.lockSession)) := by
  cases unlocked : before.isUnlocked with
  | true =>
      have quiet : mustUnlock operationId before = false := by simp [mustUnlock, unlocked]
      have shares : Shares operationId before _ := openLease_shares services answer
      generalize openLease services operationId true answer before = run at shares ⊢
      cases shares with
      | refused e => exact .refused e quiet
      | shared credentials vaultId active => exact .shared credentials vaultId quiet fresh active
  | false =>
      have unlocks : mustUnlock operationId before := by
        simp [mustUnlock, unlocked, length, Std.ExtTreeMap.contains_eq_isSome_getElem?, fresh]
      have opened : Unlocks operationId before _ := openLease_unlocks services answer
      generalize openLease services operationId false answer before = run at opened ⊢
      cases opened with
      | refused e leases => exact .relocked e unlocks leases rfl
      | unlocked credentials vaultId active leases => exact .unlocked credentials vaultId unlocks fresh active leases

theorem preparePlatformPasskeyOperation_prepared (answer : QuickUnlockAnswer) :
    Prepared operationId before (preparePlatformPasskeyOperation services operationId answer before) := by
  unfold preparePlatformPasskeyOperation
  refine ensure_peel (P := Prepared operationId before) (fun short => ?_) fun length => ?_
  · simp only [decide_eq_false_iff_not] at short
    exact .refused _ (by simp [mustUnlock, short])
  · change Prepared operationId before ((ensure (!before.platformPasskeyOperations.contains operationId) _ >>= _) before)
    refine ensure_peel (P := Prepared operationId before) (fun held => ?_) fun fresh => ?_
    · simp only [Bool.not_eq_false'] at held
      exact .refused _ (by simp [mustUnlock, held])
    · simp only [Bool.not_eq_true', Std.ExtTreeMap.contains_eq_isSome_getElem?, Option.isSome_eq_false_iff,
        Option.isNone_iff_eq_none] at fresh
      exact openLease_prepared services answer (by simpa using length) fresh

end Preparing

/-! ## Finishing -/

section Finishing

variable {operationId : List UInt8} {runtime : PlatformRuntime}

/-- The session without the registration that a lease did not commit. -/
def PlatformPasskeyOperationLease.takenBack (lease : PlatformPasskeyOperationLease) (session : Session) : Session :=
  match lease.pendingRegistration with
  | none => session
  | some rollback => (restorePasskeyRegistrationRollback rollback session).2

theorem dropLease_none (held : runtime.platformPasskeyOperations[operationId]? = none) :
    runtime.dropLease operationId = runtime := by
  unfold PlatformRuntime.dropLease
  rw [held]

theorem dropLease_some {lease : PlatformPasskeyOperationLease}
    (held : runtime.platformPasskeyOperations[operationId]? = some lease) :
    runtime.dropLease operationId =
      { runtime with
        platformPasskeyOperations := runtime.platformPasskeyOperations.erase operationId
        session := lease.takenBack runtime.session } := by
  unfold PlatformRuntime.dropLease
  rw [held]
  rfl

theorem takenBack_active (lease : PlatformPasskeyOperationLease) (session : Session) :
    (lease.takenBack session).activeVaultId = session.activeVaultId := by
  unfold PlatformPasskeyOperationLease.takenBack
  cases lease.pendingRegistration with
  | none => rfl
  | some rollback => exact (onVault_only _ _ session).1

theorem takenBack_only {lease : PlatformPasskeyOperationLease} (sound : SoundLease lease) (session : Session) :
    OnlyVault lease.vaultId session (lease.takenBack session) := by
  unfold PlatformPasskeyOperationLease.takenBack
  cases pending : lease.pendingRegistration with
  | none => exact .refl _
  | some rollback =>
      rw [← sound rollback pending]
      exact onVault_only _ _ _

theorem dropLease_same (operationId : List UInt8) (runtime : PlatformRuntime) :
    SameSession runtime (runtime.dropLease operationId) := by
  cases held : runtime.platformPasskeyOperations[operationId]? with
  | none =>
      rw [dropLease_none held]
      exact ⟨rfl, rfl, rfl⟩
  | some lease =>
      rw [dropLease_some held]
      exact ⟨takenBack_active lease runtime.session, rfl, rfl⟩

theorem dropLease_lookup (operationId other : List UInt8) (runtime : PlatformRuntime) :
    (runtime.dropLease operationId).platformPasskeyOperations[other]? =
      if operationId = other then none else runtime.platformPasskeyOperations[other]? := by
  cases held : runtime.platformPasskeyOperations[operationId]? with
  | none =>
      rw [dropLease_none held]
      split
      · rename_i same
        rw [← same, held]
      · rfl
  | some lease =>
      rw [dropLease_some held]
      exact BTreeMap.erase_lookup _ _ _

/-- The session was unlocked for an operation and is still that session. -/
structure Borrowed (vaultId : String) (runtime : PlatformRuntime) : Prop where
  pending : runtime.pendingPlatformRelock = some (vaultId, runtime.sessionGeneration)
  active : runtime.session.activeVaultId = some vaultId

/-- A lease of the vault and the session, other than the given one. -/
def OtherLease (operationId : List UInt8) (vaultId : String) (runtime : PlatformRuntime) : Prop :=
  ∃ (other : List UInt8) (lease : PlatformPasskeyOperationLease), other ≠ operationId ∧
    runtime.platformPasskeyOperations[other]? = some lease ∧ lease.vaultId = vaultId ∧
    lease.sessionGeneration = runtime.sessionGeneration

/-- What ending an operation does to the session. -/
inductive Relocks (operationId : List UInt8) (before after : PlatformRuntime) : Prop
  | stays (same : SameSession before after) (dropped : after = before.dropLease operationId)
      (busy : ∀ vaultId, Borrowed vaultId before → OtherLease operationId vaultId before)
  | locks (vaultId : String) (borrowed : Borrowed vaultId before) (last : ¬OtherLease operationId vaultId before)
      (leases : after.platformPasskeyOperations = (before.dropLease operationId).platformPasskeyOperations)
      (pending : after.pendingPlatformRelock = none) (left : after.session.activeVaultId = none)
      (locked : ∀ (other : String) (vault : Vault), after.session.loaded[other]? ≠ some (some vault))

theorem otherLease_iff {vaultId : String} :
    ((runtime.dropLease operationId).platformPasskeyOperations.toList.any fun (_, lease) =>
      lease.vaultId = vaultId && lease.sessionGeneration = runtime.sessionGeneration) = true ↔
    OtherLease operationId vaultId runtime := by
  simp only [List.any_eq_true, Std.ExtTreeMap.mem_toList_iff_getElem?_eq_some, Bool.and_eq_true, decide_eq_true_eq, Prod.exists,
    dropLease_lookup]
  constructor
  · rintro ⟨other, lease, held, same⟩
    split at held
    · cases held
    · exact ⟨other, lease, fun h => by simp_all, held, same⟩
  · rintro ⟨other, lease, apart, held, same⟩
    exact ⟨other, lease, by rw [if_neg (Ne.symm apart), held], same⟩

theorem finish_relocks (operationId : List UInt8) (runtime : PlatformRuntime) :
    Relocks operationId runtime (runtime.dropLease operationId).relock := by
  have same := dropLease_same operationId runtime
  unfold PlatformRuntime.relock
  cases pending : (runtime.dropLease operationId).pendingPlatformRelock with
  | none =>
      apply Relocks.stays same rfl
      intro vaultId borrowed
      rw [same.pending, borrowed.pending] at pending
      cases pending
  | some owner =>
      obtain ⟨vaultId, generation⟩ := owner
      dsimp only
      split
      · rename_i last
        simp only [Bool.and_eq_true, Bool.not_eq_true', decide_eq_true_eq, same.generation, same.active] at last
        obtain ⟨⟨last, rfl⟩, active⟩ := last
        rw [same.pending] at pending
        have alone : ¬OtherLease operationId vaultId runtime := by
          rw [← otherLease_iff, last]
          exact Bool.false_ne_true
        have locked (other : String) (vault : Vault) :
            ((runtime.dropLease operationId).session.loaded.map fun _ _ => (none : Option Vault))[other]? ≠
              some (some vault) := by
          rw [Std.ExtTreeMap.getElem?_map]
          simp
        exact .locks vaultId ⟨pending, active⟩ alone rfl rfl rfl locked
      · rename_i busy
        apply Relocks.stays same rfl
        intro vaultId' borrowed
        rw [same.pending, borrowed.pending] at pending
        cases pending
        rw [← otherLease_iff]
        simpa [same.generation, same.active, borrowed.active] using busy

end Finishing

end VaultKern
