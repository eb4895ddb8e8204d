import VaultKern.Guarantees.PlatformLeases

/-! # Runs of platform requests

The leases and the session over any sequence of requests.
-/

namespace VaultKern

open Attempt

section Steps

variable (services : PlatformServices)

/-! ## The session over a request -/

namespace PlatformRequest

/-- Commands that lock, unlock or switch on their own account. -/
def isSessionCommand : PlatformRequest → Bool
  | .lock | .tryLock | .close .. | .setCurrent .. | .unlock .. | .unlockCurrent .. | .quickUnlock .. => true
  | _ => false

def succeeds (request : PlatformRequest) (before : PlatformRuntime) : Bool := (request.handle services before).1.isOk

/-- The session is locked, unlocked or switched, also by a prepare that has to unlock. -/
def setsSession (request : PlatformRequest) (before : PlatformRuntime) : Bool :=
  match request with
  | .prepare operationId _ => mustUnlock operationId before
  | request => request.isSessionCommand && request.succeeds services before

/-- The vault that a prepare unlocked. -/
def autoUnlocks (request : PlatformRequest) (before : PlatformRuntime) : Option String :=
  match (request.handle services before).1 with
  | .ok (.prepared _ true) => (request.after services before).session.activeVaultId
  | _ => none

end PlatformRequest

/-- What a request does to the session: whether it sets it, and the vault it unlocks for operations. -/
inductive SessionStep (before after : PlatformRuntime) : Bool → Option String → Prop
  | stays (generation : after.sessionGeneration = before.sessionGeneration)
      (pending : after.pendingPlatformRelock = before.pendingPlatformRelock)
      (active : after.session.activeVaultId = before.session.activeVaultId ∨ after.session.activeVaultId = none) :
      SessionStep before after false none
  | relocks (pending : after.pendingPlatformRelock = none) (left : after.session.activeVaultId = none) :
      SessionStep before after false none
  | sets (pending : after.pendingPlatformRelock = none) : SessionStep before after true none
  | borrows (vaultId : String) (borrowed : Borrowed vaultId after) : SessionStep before after true (some vaultId)

theorem SessionStep.same {before after : PlatformRuntime} (same : SameSession before after) :
    SessionStep before after false none := .stays same.generation same.pending (.inl same.active)

theorem SessionStep.passes {before after : PlatformRuntime} (passes : Passes before after) :
    SessionStep before after false none := .stays passes.generation passes.pending passes.active

/-- A session that is borrowed after a request was borrowed by it, or was and is undisturbed. -/
theorem SessionStep.borrowed {before after : PlatformRuntime} {sets : Bool} {unlocks : Option String} {vaultId : String}
    (step : SessionStep before after sets unlocks) :
    Borrowed vaultId after ↔ unlocks = some vaultId ∨
      Borrowed vaultId before ∧ sets = false ∧ after.session.activeVaultId = before.session.activeVaultId := by
  cases step with
  | stays generation pending active =>
      constructor
      · intro borrowed
        rcases active with active | left
        · exact .inr ⟨⟨by rw [← pending, ← generation, borrowed.pending], by rw [← active, borrowed.active]⟩, rfl, active⟩
        · rw [borrowed.active] at left
          cases left
      · rintro (unlocked | ⟨borrowed, _, active⟩)
        · cases unlocked
        · exact ⟨by rw [pending, generation, borrowed.pending], by rw [active, borrowed.active]⟩
  | relocks pending left =>
      constructor
      · intro borrowed
        rw [borrowed.active] at left
        cases left
      · rintro (unlocked | ⟨borrowed, _, active⟩)
        · cases unlocked
        · rw [left, borrowed.active] at active
          cases active
  | sets pending =>
      constructor
      · intro borrowed
        rw [borrowed.pending] at pending
        cases pending
      · rintro (unlocked | ⟨_, quiet, _⟩)
        · cases unlocked
        · cases quiet
  | borrows other owned =>
      constructor
      · intro borrowed
        rw [← owned.active, borrowed.active]
        exact .inl rfl
      · rintro (unlocked | ⟨_, quiet, _⟩)
        · cases unlocked
          exact owned
        · cases quiet

section Answering

variable {services} {A : Type} {request : PlatformRequest} {m : PlatformCommand A} {f : A → PlatformResponse}

theorem answers_after (answers : request.handle services = m >>= fun a => pure (f a)) (before : PlatformRuntime) :
    request.after services before = (m before).2 := by
  unfold PlatformRequest.after
  rw [answers]
  exact bind_pure_state m f before

theorem answers_succeeds (answers : request.handle services = m >>= fun a => pure (f a)) (before : PlatformRuntime) :
    request.succeeds services before = (m before).1.isOk := by
  unfold PlatformRequest.succeeds
  rw [answers, bind_run]
  cases m before with
  | mk value mid => cases value <;> rfl

theorem answers_unlocks (answers : request.handle services = m >>= fun a => pure (f a))
    (other : ∀ a credentials, f a ≠ .prepared credentials true) (before : PlatformRuntime) :
    request.autoUnlocks services before = none := by
  unfold PlatformRequest.autoUnlocks
  rw [answers, bind_run]
  cases m before with
  | mk value mid =>
      cases value with
      | error e => rfl
      | ok a =>
          dsimp only [pure_run]
          split
          · rename_i prepared
            exact absurd (Except.ok.inj prepared) (other a _)
          · rfl

/-- A command that fails, or starts a session of its own. -/
theorem command_step {m : PlatformCommand Unit} (answers : request.handle services = noAnswer m) {before : PlatformRuntime}
    (restarts : Restarts before (m before)) :
    SessionStep before (request.after services before) (request.succeeds services before)
      (request.autoUnlocks services before) := by
  rw [answers_after answers, answers_succeeds answers, answers_unlocks answers (fun _ _ => nofun)]
  generalize m before = run at restarts
  cases restarts with
  | failed e passes => exact .passes passes
  | done leases pending => exact .sets pending

/-- A request that stays in the session or leaves it. -/
theorem passing_step (answers : request.handle services = m >>= fun a => pure (f a))
    (other : ∀ a credentials, f a ≠ .prepared credentials true) (passes : Moves Passes m) (before : PlatformRuntime) :
    SessionStep before (request.after services before) false (request.autoUnlocks services before) := by
  rw [answers_after answers, answers_unlocks answers other]
  exact .passes (passes before)

end Answering

theorem prepare_step (operationId : List UInt8) (answer : QuickUnlockAnswer) (before : PlatformRuntime) :
    let request := PlatformRequest.prepare operationId answer
    SessionStep before (request.after services before) (mustUnlock operationId before)
      (request.autoUnlocks services before) := by
  have prepared : Prepared operationId before _ := preparePlatformPasskeyOperation_prepared services answer
  unfold PlatformRequest.autoUnlocks PlatformRequest.after
  simp only [PlatformRequest.handle, bind_run]
  generalize preparePlatformPasskeyOperation services operationId answer before = run at prepared
  cases prepared with
  | refused e quiet =>
      rw [quiet]
      exact .same ⟨rfl, rfl, rfl⟩
  | relocked e unlocks leases pending =>
      rw [unlocks]
      exact .sets pending
  | shared credentials vaultId quiet fresh active =>
      rw [quiet]
      exact .same ⟨rfl, rfl, rfl⟩
  | @unlocked credentials vaultId mid unlocks fresh active leases =>
      have unlocked : ((mid.leased operationId vaultId).awaitRelock vaultId).session.activeVaultId = some vaultId := active
      rw [unlocks]
      simp only [pure_run, unlocked]
      exact .borrows vaultId ⟨rfl, active⟩

/-- The operation that a request works for. -/
def PlatformRequest.operation : PlatformRequest → Option (List UInt8)
  | .register operationId _ _ | .commit operationId | .assert operationId _ => some operationId
  | _ => none

/-- An operation is refused, or works under its lease. -/
theorem operation_acts {request : PlatformRequest} {operationId : List UInt8}
    (works : request.operation = some operationId) (before : PlatformRuntime) :
    (∃ e, request.handle services before = (.error e, before)) ∨
      ∃ lease lease', Operates operationId lease lease' before (request.after services before) := by
  cases request with
  | register other input drawn =>
      cases works
      rw [answers_after rfl]
      rcases register_spends services input drawn with ⟨e, refused⟩ | ⟨lease, lease', operates, _⟩
      · exact .inl ⟨e, by rw [PlatformRequest.handle, bind_run, refused]⟩
      · exact .inr ⟨lease, lease', operates⟩
  | commit other =>
      cases works
      rw [answers_after rfl]
      rcases commit_operates services operationId before with ⟨e, refused⟩ | ⟨lease, lease', operates, _⟩
      · exact .inl ⟨e, by rw [PlatformRequest.handle, noAnswer, bind_run, refused]⟩
      · exact .inr ⟨lease, lease', operates⟩
  | assert other input =>
      cases works
      rw [answers_after rfl]
      rcases assert_spends services input with ⟨e, refused⟩ | ⟨lease, lease', operates, _⟩
      · exact .inl ⟨e, by rw [PlatformRequest.handle, bind_run, refused]⟩
      · exact .inr ⟨lease, lease', operates⟩
  | prepare | finish | lock | tryLock | close | setCurrent | addReference | deleteReference | openLocal | preload | unlock
  | unlockCurrent | quickUnlock | elsewhere => cases works

theorem operation_same {request : PlatformRequest} {operationId : List UInt8}
    (works : request.operation = some operationId) (before : PlatformRuntime) :
    SameSession before (request.after services before) := by
  rcases operation_acts services works before with ⟨e, refused⟩ | ⟨_, _, operates⟩
  · rw [PlatformRequest.after, refused]
    exact ⟨rfl, rfl, rfl⟩
  · exact operates.same

theorem finish_step (operationId : List UInt8) (before : PlatformRuntime) :
    SessionStep before ((PlatformRequest.finish operationId).after services before) false
      ((PlatformRequest.finish operationId).autoUnlocks services before) := by
  have ends := finish_relocks operationId before
  rw [answers_unlocks rfl (fun _ _ => by nofun)]
  cases ends with
  | stays same dropped busy => exact .same same
  | locks vaultId borrowed last leases pending left locked => exact .relocks pending left

theorem request_session (request : PlatformRequest) (before : PlatformRuntime) :
    SessionStep before (request.after services before) (request.setsSession services before)
      (request.autoUnlocks services before) := by
  cases request with
  | prepare operationId answer => exact prepare_step services operationId answer before
  | register operationId input drawn =>
      rw [answers_unlocks rfl (fun _ _ => by nofun)]
      exact .same (operation_same services rfl before)
  | commit operationId =>
      rw [answers_unlocks rfl (fun _ _ => by nofun)]
      exact .same (operation_same services rfl before)
  | assert operationId input =>
      rw [answers_unlocks rfl (fun _ _ => by nofun)]
      exact .same (operation_same services rfl before)
  | finish operationId => exact finish_step services operationId before
  | lock => exact command_step (m := modify PlatformRuntime.lockSession) rfl (.done rfl rfl)
  | tryLock => exact command_step rfl (tryLockSession_restarts before)
  | close vaultId baseRemoved => exact command_step rfl (closeVault_restarts vaultId baseRemoved before)
  | setCurrent vaultRefId marked => exact command_step rfl (setCurrentVault_restarts vaultRefId marked before)
  | addReference stored => exact passing_step rfl (fun _ _ => by nofun) (addVaultReference_passes stored) before
  | deleteReference deletion => exact passing_step rfl (fun _ _ => by nofun) (deleteVaultReference_passes deletion) before
  | openLocal snapshot => exact passing_step rfl (fun _ _ => by nofun) (loadSourceSnapshot_passes snapshot) before
  | preload source snapshot => exact passing_step rfl (fun _ _ => by nofun) (preloadCurrentVault_passes source snapshot) before
  | unlock vaultId answer => exact command_step rfl (unlockVault_restarts vaultId answer before)
  | unlockCurrent source snapshot answer =>
      exact command_step rfl (unlockCurrentVault_restarts source snapshot answer before)
  | quickUnlock answer => exact command_step rfl (quickUnlock_restarts answer before)
  | elsewhere loaded now => exact .same ⟨rfl, rfl, rfl⟩

/-! ## The leases over a request -/

namespace PlatformRequest

def ends : PlatformRequest → List UInt8 → Bool
  | .finish operationId, other => operationId = other
  | _, _ => false

end PlatformRequest

/-- What a request does to the lease of an operation: whether it ends it, and the lease before and after. -/
inductive LeaseStep : Bool → Option PlatformPasskeyOperationLease → Option PlatformPasskeyOperationLease → Prop
  | stays (lease : Option PlatformPasskeyOperationLease) : LeaseStep false lease lease
  | opens (vaultId : String) (generation : UInt64) : LeaseStep false none (some (freshLease vaultId generation))
  | operates {lease lease' : PlatformPasskeyOperationLease} (continues : Continues lease lease')
      (sound : SoundLease lease → SoundLease lease') : LeaseStep false (some lease) (some lease')
  | ends (lease : Option PlatformPasskeyOperationLease) : LeaseStep true lease none

theorem LeaseStep.of_same {before after : PlatformRuntime} (other : List UInt8)
    (same : after.platformPasskeyOperations = before.platformPasskeyOperations) :
    LeaseStep false before.platformPasskeyOperations[other]? after.platformPasskeyOperations[other]? := by
  rw [same]
  exact .stays _

theorem LeaseStep.of_operates {before after : PlatformRuntime} {operationId : List UInt8}
    {lease lease' : PlatformPasskeyOperationLease} (operates : Operates operationId lease lease' before after)
    (other : List UInt8) :
    LeaseStep false before.platformPasskeyOperations[other]? after.platformPasskeyOperations[other]? := by
  rw [operates.stored other]
  split
  · rename_i same
    rw [← same, operates.held]
    exact .operates operates.continues operates.sound
  · exact .stays _

theorem LeaseStep.of_insert {before : PlatformRuntime} {operationId : List UInt8}
    (fresh : before.platformPasskeyOperations[operationId]? = none) (vaultId : String) (generation : UInt64)
    (other : List UInt8) :
    LeaseStep false before.platformPasskeyOperations[other]?
      (before.platformPasskeyOperations.insert operationId (freshLease vaultId generation))[other]? := by
  rw [BTreeMap.insert_lookup]
  split
  · rename_i same
    rw [← same, fresh]
    exact .opens vaultId generation
  · exact .stays _

theorem operation_lease {request : PlatformRequest} {operationId : List UInt8}
    (works : request.operation = some operationId) (before : PlatformRuntime) (other : List UInt8) :
    LeaseStep false before.platformPasskeyOperations[other]?
      (request.after services before).platformPasskeyOperations[other]? := by
  rcases operation_acts services works before with ⟨e, refused⟩ | ⟨_, _, operates⟩
  · rw [PlatformRequest.after, refused]
    exact .stays _
  · exact .of_operates operates other

theorem prepare_lease (operationId : List UInt8) (answer : QuickUnlockAnswer) (before : PlatformRuntime)
    (other : List UInt8) :
    LeaseStep false before.platformPasskeyOperations[other]?
      ((PlatformRequest.prepare operationId answer).after services before).platformPasskeyOperations[other]? := by
  have prepared : Prepared operationId before _ := preparePlatformPasskeyOperation_prepared services answer
  unfold PlatformRequest.after
  simp only [PlatformRequest.handle, bind_run]
  generalize preparePlatformPasskeyOperation services operationId answer before = run at prepared
  cases prepared with
  | refused e quiet => exact .stays _
  | relocked e unlocks leases pending => exact .of_same other leases
  | shared credentials vaultId quiet fresh active => exact .of_insert fresh vaultId _ other
  | @unlocked credentials vaultId mid unlocks fresh active leases =>
      have opened := LeaseStep.of_insert fresh vaultId mid.sessionGeneration other
      rw [← leases] at opened
      rw [← leases]
      exact opened

theorem request_leases (request : PlatformRequest) (before : PlatformRuntime) (other : List UInt8) :
    LeaseStep (request.ends other) before.platformPasskeyOperations[other]?
      (request.after services before).platformPasskeyOperations[other]? := by
  have passed {m : PlatformCommand Unit} (passes : Moves Passes m) :
      LeaseStep false before.platformPasskeyOperations[other]? (m before).2.platformPasskeyOperations[other]? :=
    .of_same other (passes before).leases
  have restarted {m : PlatformCommand Unit} (restarts : Restarts before (m before)) :
      LeaseStep false before.platformPasskeyOperations[other]? (m before).2.platformPasskeyOperations[other]? :=
    .of_same other restarts.leases
  cases request with
  | prepare operationId answer => exact prepare_lease services operationId answer before other
  | register operationId input drawn => exact operation_lease services rfl before other
  | commit operationId => exact operation_lease services rfl before other
  | assert operationId input => exact operation_lease services rfl before other
  | finish operationId =>
      have leases : ((PlatformRequest.finish operationId).after services before).platformPasskeyOperations =
          (before.dropLease operationId).platformPasskeyOperations := by
        rw [answers_after rfl]
        cases finish_relocks operationId before with
        | stays same dropped busy => exact congrArg PlatformRuntime.platformPasskeyOperations dropped
        | locks vaultId borrowed last leases pending left locked => exact leases
      rw [leases, dropLease_lookup]
      rw [PlatformRequest.ends]
      by_cases same : operationId = other
      · rw [decide_eq_true same, if_pos same]
        exact .ends _
      · rw [decide_eq_false same, if_neg same]
        exact .stays _
  | lock => exact .stays _
  | tryLock =>
      rw [answers_after rfl]
      exact restarted (tryLockSession_restarts before)
  | close vaultId baseRemoved =>
      rw [answers_after rfl]
      exact restarted (closeVault_restarts vaultId baseRemoved before)
  | setCurrent vaultRefId marked =>
      rw [answers_after rfl]
      exact restarted (setCurrentVault_restarts vaultRefId marked before)
  | addReference stored =>
      rw [answers_after rfl]
      exact passed (addVaultReference_passes stored)
  | deleteReference deletion =>
      rw [answers_after rfl]
      exact passed (deleteVaultReference_passes deletion)
  | openLocal snapshot =>
      rw [answers_after rfl]
      exact .of_same other (loadSourceSnapshot_passes snapshot before).leases
  | preload source snapshot =>
      rw [answers_after rfl]
      exact passed (preloadCurrentVault_passes source snapshot)
  | unlock vaultId answer =>
      rw [answers_after rfl]
      exact restarted (unlockVault_restarts vaultId answer before)
  | unlockCurrent source snapshot answer =>
      rw [answers_after rfl]
      exact restarted (unlockCurrentVault_restarts source snapshot answer before)
  | quickUnlock answer =>
      rw [answers_after rfl]
      exact restarted (quickUnlock_restarts answer before)
  | elsewhere loaded now => exact .stays _

end Steps

/-! ## Runs -/

section Runs

variable (services : PlatformServices) (requests : List PlatformRequest) (start : PlatformRuntime)

/-- The runtime before the request at `n`. -/
def platformAt (n : Nat) : PlatformRuntime := runPlatformRequests services (requests.take n) start

/-- Nobody locks, unlocks or switches at `n`, and the session is not left. -/
def Undisturbed (n : Nat) : Prop :=
  (∀ request, requests[n]? = some request →
    request.setsSession services (platformAt services requests start n) = false) ∧
  (platformAt services requests start (n + 1)).session.activeVaultId =
    (platformAt services requests start n).session.activeVaultId

def AutoUnlocksAt (n : Nat) (vaultId : String) : Prop :=
  ∃ request, requests[n]? = some request ∧
    request.autoUnlocks services (platformAt services requests start n) = some vaultId

/-- A prepare unlocked the vault before `n`, and the session is undisturbed since. -/
def AutoUnlockedSince (n : Nat) (vaultId : String) : Prop :=
  ∃ m, m < n ∧ AutoUnlocksAt services requests start m vaultId ∧
    ∀ k, m < k → k < n → Undisturbed services requests start k

/-- The verification of the lease is consumed at `n`. -/
def ConsumesAt (n : Nat) (operationId : List UInt8) : Prop :=
  ∃ lease lease', (platformAt services requests start n).platformPasskeyOperations[operationId]? = some lease ∧
    lease.userVerificationConsumed = false ∧
    (platformAt services requests start (n + 1)).platformPasskeyOperations[operationId]? = some lease' ∧
    lease'.userVerificationConsumed

/-- An operation on the vault and in the session of the lease. -/
structure ActsUnder (operationId : List UInt8) (lease : PlatformPasskeyOperationLease) (before after : PlatformRuntime) :
    Prop where
  held : before.platformPasskeyOperations[operationId]? = some lease
  active : before.session.activeVaultId = some lease.vaultId
  generation : lease.sessionGeneration = before.sessionGeneration
  same : SameSession before after
  only : OnlyVault lease.vaultId before.session after.session

variable {services requests start}

theorem platformAt_succ {n : Nat} {request : PlatformRequest} (here : requests[n]? = some request) :
    platformAt services requests start (n + 1) = request.after services (platformAt services requests start n) := by
  unfold platformAt runPlatformRequests
  rw [List.take_add_one, here, List.foldl_append]
  rfl

theorem platformAt_past {n : Nat} (past : requests[n]? = none) :
    platformAt services requests start (n + 1) = platformAt services requests start n := by
  unfold platformAt
  rw [List.take_add_one, past, Option.toList_none, List.append_nil]

theorem autoUnlockedSince_succ {n : Nat} {vaultId : String} :
    AutoUnlockedSince services requests start (n + 1) vaultId ↔ AutoUnlocksAt services requests start n vaultId ∨
      AutoUnlockedSince services requests start n vaultId ∧ Undisturbed services requests start n := by
  constructor
  · rintro ⟨m, earlier, unlocked, quiet⟩
    by_cases here : m = n
    · subst here
      exact .inl unlocked
    · have earlier : m < n := by omega
      exact .inr ⟨⟨m, earlier, unlocked, fun k after before => quiet k after (by omega)⟩, quiet n earlier (by omega)⟩
  · rintro (unlocked | ⟨⟨m, earlier, unlocked, quiet⟩, undisturbed⟩)
    · exact ⟨n, by omega, unlocked, fun k after before => by omega⟩
    · refine ⟨m, by omega, unlocked, fun k after before => ?_⟩
      by_cases here : k = n
      · rw [here]
        exact undisturbed
      · exact quiet k after (by omega)

/-- The session is borrowed as long as a prepare unlocked it and nothing else happened to it. -/
theorem borrowed_run (fresh : start.pendingPlatformRelock = none) (n : Nat) (vaultId : String) :
    Borrowed vaultId (platformAt services requests start n) ↔ AutoUnlockedSince services requests start n vaultId := by
  induction n with
  | zero =>
      constructor
      · intro borrowed
        have pending : start.pendingPlatformRelock = _ := borrowed.pending
        rw [fresh] at pending
        cases pending
      · rintro ⟨m, earlier, _⟩
        omega
  | succ n ih =>
      rw [autoUnlockedSince_succ, ← ih]
      unfold AutoUnlocksAt Undisturbed
      cases here : requests[n]? with
      | none => simp [platformAt_past here]
      | some request =>
          have step := request_session services request (platformAt services requests start n)
          simp only [platformAt_succ here, step.borrowed, Option.some.injEq, exists_eq_left', forall_eq']

theorem sound_run (fresh : start.platformPasskeyOperations = ∅) (n : Nat) {operationId : List UInt8}
    {lease : PlatformPasskeyOperationLease}
    (held : (platformAt services requests start n).platformPasskeyOperations[operationId]? = some lease) :
    SoundLease lease := by
  induction n generalizing lease with
  | zero =>
      have held : start.platformPasskeyOperations[operationId]? = some lease := held
      rw [fresh] at held
      simp at held
  | succ n ih =>
      cases here : requests[n]? with
      | none => exact ih (platformAt_past here ▸ held)
      | some request =>
          have step := request_leases services request (platformAt services requests start n) operationId
          rw [platformAt_succ here] at held
          rw [held] at step
          generalize before : (platformAt services requests start n).platformPasskeyOperations[operationId]? = old at step
          generalize request.ends operationId = ends at step
          cases step with
          | stays => exact ih before
          | opens vaultId generation => exact nofun
          | operates continues sound => exact sound (ih before)

/-- A consumed verification stays consumed until the lease ends. -/
theorem consumed_run {m n : Nat} (earlier : m ≤ n) {operationId : List UInt8}
    (open_ : ∀ k, m ≤ k → k < n → requests[k]? ≠ some (.finish operationId))
    {lease : PlatformPasskeyOperationLease}
    (held : (platformAt services requests start m).platformPasskeyOperations[operationId]? = some lease)
    (consumed : lease.userVerificationConsumed) :
    ∃ lease', (platformAt services requests start n).platformPasskeyOperations[operationId]? = some lease' ∧
      lease'.userVerificationConsumed := by
  induction n, earlier using Nat.le_induction with
  | base => exact ⟨lease, held, consumed⟩
  | succ n earlier ih =>
      obtain ⟨lease', held', consumed'⟩ := ih fun k after before => open_ k after (by omega)
      cases here : requests[n]? with
      | none =>
          rw [platformAt_past here]
          exact ⟨lease', held', consumed'⟩
      | some request =>
          have unended : request.ends operationId = false := by
            cases request with
            | finish other =>
                rw [PlatformRequest.ends, decide_eq_false_iff_not]
                intro same
                exact open_ n earlier (by omega) (by rw [here, same])
            | prepare | register | commit | assert | lock | tryLock | close | setCurrent | addReference | deleteReference
            | openLocal | preload | unlock | unlockCurrent | quickUnlock | elsewhere => rfl
          have step := request_leases services request (platformAt services requests start n) operationId
          rw [held', unended] at step
          rw [platformAt_succ here]
          generalize (request.after services (platformAt services requests start n)).platformPasskeyOperations[operationId]? =
            after at step ⊢
          cases step with
          | stays => exact ⟨lease', rfl, consumed'⟩
          | operates continues sound => exact ⟨_, rfl, continues.consumed consumed'⟩

theorem consumed_once {m n : Nat} {operationId : List UInt8} (earlier : m < n)
    (first : ConsumesAt services requests start m operationId) (second : ConsumesAt services requests start n operationId) :
    ∃ k, m < k ∧ k < n ∧ requests[k]? = some (.finish operationId) := by
  by_contra unended
  obtain ⟨_, lease, _, _, held, consumed⟩ := first
  obtain ⟨later, _, held', unconsumed, _⟩ := second
  have kept : ∀ k, m + 1 ≤ k → k < n → requests[k]? ≠ some (.finish operationId) :=
    fun k after before finish => unended ⟨k, after, before, finish⟩
  obtain ⟨lease', held'', consumed'⟩ := consumed_run (by omega) kept held consumed
  rw [held'] at held''
  cases held''
  rw [unconsumed] at consumed'
  cases consumed'

theorem finish_locks {before : PlatformRuntime} {operationId : List UInt8} {vaultId : String}
    (active : before.session.activeVaultId = some vaultId) :
    ((PlatformRequest.finish operationId).after services before).session.activeVaultId = none ↔
      Borrowed vaultId before ∧ ¬OtherLease operationId vaultId before := by
  have ends : Relocks operationId before ((PlatformRequest.finish operationId).after services before) :=
    finish_relocks operationId before
  constructor
  · intro left
    cases ends with
    | stays same dropped busy =>
        rw [same.active, active] at left
        cases left
    | locks owner borrowed last =>
        obtain rfl : owner = vaultId := Option.some.inj (borrowed.active.symm.trans active)
        exact ⟨borrowed, last⟩
  · rintro ⟨borrowed, last⟩
    cases ends with
    | stays same dropped busy => exact absurd (busy vaultId borrowed) last
    | locks owner _ _ leases pending left locked => exact left

/-- No vault but that of the lease gets another content. -/
theorem finish_only {before : PlatformRuntime} {operationId : List UInt8} {lease : PlatformPasskeyOperationLease}
    (held : before.platformPasskeyOperations[operationId]? = some lease) (sound : SoundLease lease) {other : String}
    (apart : other ≠ lease.vaultId) {vault : Vault}
    (content : ((PlatformRequest.finish operationId).after services before).session.loaded[other]? = some (some vault)) :
    before.session.loaded[other]? = some (some vault) := by
  have ends : Relocks operationId before ((PlatformRequest.finish operationId).after services before) :=
    finish_relocks operationId before
  cases ends with
  | stays same dropped busy =>
      rw [dropped, dropLease_some held] at content
      rw [← content]
      exact ((takenBack_only sound before.session).2 other apart).symm
  | locks owner borrowed last leases pending left locked => exact absurd content (locked other vault)

end Runs

/-- The operation that takes the verification of its lease. -/
def PlatformRequest.verified : PlatformRequest → Option (List UInt8)
  | .register operationId _ _ | .assert operationId _ => some operationId
  | _ => none

theorem verified_spends (services : PlatformServices) {request : PlatformRequest} {operationId : List UInt8}
    (verified : request.verified = some operationId) {before : PlatformRuntime}
    (succeeds : request.succeeds services before) : Spends operationId before (request.after services before) := by
  cases request with
  | register other input drawn =>
      cases verified
      rw [answers_succeeds rfl] at succeeds
      rw [answers_after rfl]
      rcases register_spends services input drawn with ⟨e, refused⟩ | spends
      · rw [refused] at succeeds
        cases succeeds
      · exact spends
  | assert other input =>
      cases verified
      rw [answers_succeeds rfl] at succeeds
      rw [answers_after rfl]
      rcases assert_spends services input with ⟨e, refused⟩ | spends
      · rw [refused] at succeeds
        cases succeeds
      · exact spends
  | prepare | commit | finish | lock | tryLock | close | setCurrent | addReference | deleteReference | openLocal | preload
  | unlock | unlockCurrent | quickUnlock | elsewhere => cases verified

/-- In every run, an operation acts on the vault and in the session of its lease, a verification is consumed once,
    and the end of a lease locks the session if a prepare unlocked it, nothing else happened to it since and no other
    lease of that vault and session is open. -/
theorem platformLeases_relock (services : PlatformServices) (session : Session)
    (currentVaultRefId preloadedForUnlock : Option String) (sessionGeneration : UInt64) (requests : List PlatformRequest) :
    let start := PlatformRuntime.start session currentVaultRefId preloadedForUnlock sessionGeneration
    let runtimeAt := platformAt services requests start
    (∀ n request operationId, requests[n]? = some request → request.operation = some operationId →
      (∃ e, request.handle services (runtimeAt n) = (.error e, runtimeAt n)) ∨
        ∃ lease, ActsUnder operationId lease (runtimeAt n) (runtimeAt (n + 1))) ∧
    (∀ n operationId lease, requests[n]? = some (.finish operationId) →
      (runtimeAt n).platformPasskeyOperations[operationId]? = some lease →
      ∀ (other : String) (vault : Vault), other ≠ lease.vaultId →
        (runtimeAt (n + 1)).session.loaded[other]? = some (some vault) →
        (runtimeAt n).session.loaded[other]? = some (some vault)) ∧
    (∀ n request operationId, requests[n]? = some request → request.verified = some operationId →
      request.succeeds services (runtimeAt n) → ConsumesAt services requests start n operationId) ∧
    (∀ m n operationId, m < n → ConsumesAt services requests start m operationId →
      ConsumesAt services requests start n operationId →
      ∃ k, m < k ∧ k < n ∧ requests[k]? = some (.finish operationId)) ∧
    ∀ n operationId vaultId, requests[n]? = some (.finish operationId) →
      (runtimeAt n).session.activeVaultId = some vaultId →
      ((runtimeAt (n + 1)).session.activeVaultId = none ↔
        AutoUnlockedSince services requests start n vaultId ∧ ¬OtherLease operationId vaultId (runtimeAt n)) := by
  intro start runtimeAt
  refine ⟨fun n request operationId here works => ?_, fun n operationId lease here held other vault apart content => ?_,
    fun n request operationId here verified succeeds => ?_, fun m n operationId earlier first second => ?_,
    fun n operationId vaultId here active => ?_⟩
  · rcases operation_acts services works (runtimeAt n) with refused | ⟨lease, lease', operates⟩
    · exact .inl refused
    · have sound : SoundLease lease := sound_run rfl n operates.held
      simp only [runtimeAt, platformAt_succ here]
      exact .inr ⟨lease, operates.held, operates.active, operates.generation, operates.same, operates.only sound⟩
  · have sound : SoundLease lease := sound_run rfl n held
    simp only [runtimeAt, platformAt_succ here] at content
    exact finish_only held sound apart content
  · obtain ⟨lease, lease', operates, unspent, spent⟩ := verified_spends services verified succeeds
    refine ⟨lease, lease', operates.held, unspent, ?_, spent⟩
    rw [platformAt_succ here, operates.stored, if_pos rfl]
  · exact consumed_once earlier first second
  · have fresh : start.pendingPlatformRelock = none := rfl
    rw [← borrowed_run fresh]
    simp only [runtimeAt, platformAt_succ here]
    exact finish_locks active

def examplePlatformServices : PlatformServices where
  toSigningLibrary := exampleLibrary
  encodeBase64Url _ := ""
  saveVault _ := pure { status := .saved, conflictCopyPath := none }

def exampleQuickUnlock : QuickUnlockAnswer :=
  { enabled := .ok ()
    authorized := .ok ()
    snapshot := .ok { vaultId := "vault", localReference := none }
    opened := .ok exampleVault }

/-- A lease of an earlier session stays open, and a later one is unlocked and locked around it. -/
def switchedRequests : List PlatformRequest :=
  [.prepare (List.replicate 16 0) exampleQuickUnlock, .setCurrent "reference" (.ok ()),
    .prepare (List.replicate 16 1) exampleQuickUnlock, .finish (List.replicate 16 1)]

/-- The end of a lease locks the session while a lease of an earlier session is open. -/
theorem finish_locks_beside_lease :
    ¬ ∀ (services : PlatformServices) (start : PlatformRuntime) (requests : List PlatformRequest) (n : Nat)
        (operationId other : List UInt8), requests[n]? = some (.finish operationId) →
        (platformAt services requests start n).session.activeVaultId ≠ none →
        (platformAt services requests start (n + 1)).session.activeVaultId = none → other ≠ operationId →
        (platformAt services requests start n).platformPasskeyOperations[other]? = none := by
  intro alone
  let start := PlatformRuntime.start exampleStart.session (some "reference") none 0
  let first : List UInt8 := List.replicate 16 0
  let second : List UInt8 := List.replicate 16 1
  have ended := alone examplePlatformServices start switchedRequests 3 second first rfl
    (by decide +kernel) (by decide +kernel) (by decide)
  revert ended
  decide +kernel

end VaultKern
