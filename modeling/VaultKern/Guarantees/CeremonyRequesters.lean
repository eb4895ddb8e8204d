import VaultKern.Guarantees.CeremonyRuns

/-! # One ceremony per requester

Of the open ceremonies of one requester at most one is within its time. A reconciliation
closes the ceremonies that nobody waits for any more, and run again it only retries what
could not be undone.
-/

namespace VaultKern

open Attempt

/-! ## Requesters -/

/-- The same site in the same frame. -/
def sameRequester (a b : PasskeyCeremonyIdentity) : Prop :=
  a.origin = b.origin ∧ a.relyingParty = b.relyingParty ∧ a.tabId = b.tabId ∧ a.frameId = b.frameId

theorem sameRequester.symm {a b : PasskeyCeremonyIdentity} (same : sameRequester a b) : sameRequester b a :=
  ⟨same.1.symm, same.2.1.symm, same.2.2.1.symm, same.2.2.2.symm⟩

/-- Open, and within its time. -/
def PasskeyCeremonyLedgerEntry.LiveAt (entry : PasskeyCeremonyLedgerEntry) (moment : Nat) : Prop :=
  entry.phase.isClosed = false ∧ entry.identity.registeredAtEpochMs ≤ moment
    ∧ moment < entry.identity.expiresAtEpochMs

/-- If both are open, one has expired before the other is registered. -/
def Apart (a b : PasskeyCeremonyLedgerEntry) : Prop :=
  a.phase.isClosed = false → b.phase.isClosed = false → sameRequester a.identity b.identity →
    a.identity.expiresAtEpochMs ≤ b.identity.registeredAtEpochMs ∨
      b.identity.expiresAtEpochMs ≤ a.identity.registeredAtEpochMs

theorem Apart.symm {a b : PasskeyCeremonyLedgerEntry} (apart : Apart a b) : Apart b a :=
  fun openB openA same => (apart openA openB same.symm).symm

theorem Apart.not_both {a b : PasskeyCeremonyLedgerEntry} {moment : Nat} (apart : Apart a b)
    (same : sameRequester a.identity b.identity) : ¬ (a.LiveAt moment ∧ b.LiveAt moment) := by
  rintro ⟨⟨openA, startedA, runningA⟩, openB, startedB, runningB⟩
  have := apart openA openB same
  omega

/-- What does not compete with a ceremony that may be open. -/
theorem Apart.of_alone {identity : PasskeyCeremonyIdentity} {existing : PasskeyCeremonyLedgerEntry}
    (alone : competesWith identity existing = false) : Apart existing (newCeremony identity) := by
  rintro running - ⟨origin, relyingParty, tab, frame⟩
  simp only [newCeremony] at origin relyingParty tab frame ⊢
  simp only [competesWith, running, origin, relyingParty, tab, frame, Bool.not_false, decide_true, Bool.true_and,
    Bool.and_true, decide_eq_false_iff_not] at alone
  omega

def RequestersApart (ceremonies : BTreeMap String PasskeyCeremonyLedgerEntry) : Prop :=
  ∀ (first second : String) (a b : PasskeyCeremonyLedgerEntry), first ≠ second → ceremonies[first]? = some a →
    ceremonies[second]? = some b → Apart a b

/-- Every ceremony was there before, and it is not open again. -/
def Stems (before after : BTreeMap String PasskeyCeremonyLedgerEntry) : Prop :=
  ∀ (token : String) (entry : PasskeyCeremonyLedgerEntry), after[token]? = some entry →
    ∃ earlier, before[token]? = some earlier ∧ entry.identity = earlier.identity ∧
      (earlier.phase.isClosed → entry.phase.isClosed)

theorem RequestersApart.stems {before after : BTreeMap String PasskeyCeremonyLedgerEntry}
    (apart : RequestersApart before) (stems : Stems before after) : RequestersApart after := by
  intro first second a b other heldA heldB openA openB same
  obtain ⟨a', earlierA, identityA, closedA⟩ := stems first a heldA
  obtain ⟨b', earlierB, identityB, closedB⟩ := stems second b heldB
  rw [identityA, identityB] at same ⊢
  apply apart first second a' b' other earlierA earlierB _ _ same
  · simpa [openA] using closedA
  · simpa [openB] using closedB

section Steps

variable {services : PasskeyServices} {request : PasskeyRequest} {runtime after : PasskeyRuntime}

theorem Stems.of_steps (library : WebLibrary)
    (steps : ∀ (token : String) (entry : PasskeyCeremonyLedgerEntry), after.ceremonies[token]? = some entry →
      ∃ earlier, runtime.ceremonies[token]? = some earlier ∧ CeremonyStep library earlier entry) :
    Stems runtime.ceremonies after.ceremonies := by
  intro token entry held
  obtain ⟨earlier, found, step⟩ := steps token entry held
  exact ⟨earlier, found, step.identity, fun closed => by rwa [step.closed closed]⟩

theorem Stems.of_pointwise (library : WebLibrary)
    (moves : runtime.ceremonies.Pointwise (CeremonyStep library) after.ceremonies) :
    Stems runtime.ceremonies after.ceremonies := by
  apply Stems.of_steps library
  intro token entry held
  have here := moves token
  rw [held] at here
  generalize runtime.ceremonies[token]? = a at here ⊢
  cases here with
  | some step => exact ⟨_, rfl, step⟩

theorem Stems.of_pruning (ceremonies : BTreeMap String PasskeyCeremonyLedgerEntry) (now : Nat) :
    Stems ceremonies (pruneExpiredPasskeyCeremonies ceremonies now) := by
  intro token entry held
  rw [pruned_lookup] at held
  exact ⟨entry, (Option.filter_eq_some_iff.mp held).1, rfl, id⟩

theorem Registers.apart {library : WebLibrary} (registers : Registers library runtime after)
    (apart : RequestersApart runtime.ceremonies) :
    RequestersApart after.ceremonies := by
  have kept := apart.stems (Stems.of_pruning runtime.ceremonies runtime.nowMs)
  rcases registers.outcome with same | ⟨token, identity, absent, _, alone, same⟩
  · rw [same]
    exact kept
  · rw [same]
    intro first second a b other heldA heldB
    rw [BTreeMap.insert_lookup] at heldA heldB
    split at heldA
    · rename_i here
      rw [if_neg (here ▸ other)] at heldB
      cases heldA
      exact (Apart.of_alone (alone second b heldB)).symm
    · split at heldB
      · cases heldB
        exact Apart.of_alone (alone first a heldA)
      · exact kept first second a b other heldA heldB

theorem LedgerStep.apart (step : LedgerStep services request runtime after)
    (apart : RequestersApart runtime.ceremonies) : RequestersApart after.ceremonies := by
  cases step with
  | quiet moves =>
      apply apart.stems
      exact Stems.of_pointwise services.toWebLibrary (BTreeMap.Pointwise.mono (fun keep => keep.step) moves)
  | stores _ _ _ _ moves =>
      apply apart.stems
      exact Stems.of_pointwise services.toWebLibrary (BTreeMap.Pointwise.mono (fun quiet => quiet.step) moves)
  | registers registers => exact registers.apart apart
  | follows held follows _ _ same =>
      apply apart.stems
      apply Stems.of_pointwise services.toWebLibrary
      rw [same]
      exact BTreeMap.Pointwise.insert (fun entry => (QuietStep.refl entry).step) held follows.step
  | settles settles =>
      apply apart.stems
      apply Stems.of_steps services.toWebLibrary
      intro token entry held
      have here := settles token
      rw [held] at here
      generalize runtime.ceremonies[token]? = a at here ⊢
      cases here with
      | some settled => exact ⟨_, rfl, settled.step⟩

theorem reached_apart {allowed : PasskeyRequest → PasskeyRuntime → Prop}
    (reached : PasskeyReaches services allowed runtime) : RequestersApart runtime.ceremonies := by
  induction reached with
  | start session nowMs =>
      intro first second a b _ held
      simp at held
  | @step earlier request reached accepted ih => exact (request.after_step services earlier).apart ih

end Steps

/-! ## Aborts -/

section Aborts

variable (services : PasskeyServices)

/-- Only the vaults change. -/
def KeepsLedger (before after : PasskeyRuntime) : Prop :=
  after.ceremonies = before.ceremonies ∧ after.nowMs = before.nowMs

theorem keepsLedger_bind {A B : Type} {m : PasskeyCommand A} {next : A → PasskeyCommand B} (first : Moves KeepsLedger m)
    (rest : ∀ a, Moves KeepsLedger (next a)) : Moves KeepsLedger (m >>= next) :=
  Moves.bind (R := KeepsLedger) (fun _ _ _ early late => ⟨late.1.trans early.1, late.2.trans early.2⟩) first rest

theorem keepsLedger_of_readOnly {A : Type} {m : PasskeyCommand A} (reads : ReadOnly m) : Moves KeepsLedger m :=
  reads.moves fun _ => ⟨rfl, rfl⟩

theorem rollBackRegistration_keeps (entry : PasskeyCeremonyLedgerEntry) :
    Moves KeepsLedger (rollBackRegistration services entry) := by
  unfold rollBackRegistration
  cases entry.registrationRollback with
  | none => exact keepsLedger_of_readOnly (.pure _)
  | some rollback =>
      apply keepsLedger_bind (fun _ => ⟨rfl, rfl⟩)
      intro _
      split
      · exact keepsLedger_bind (fun _ => ⟨rfl, rfl⟩) fun _ => keepsLedger_of_readOnly (.lift _)
      · exact keepsLedger_of_readOnly (.pure _)

/-- How an abort of the reconciliation may end. -/
inductive AbortEnds (token : String) (runtime : PasskeyRuntime) : Except RuntimeError Unit × PasskeyRuntime → Prop
  | failed {e : RuntimeError} {after : PasskeyRuntime} (keeps : KeepsLedger runtime after) :
      AbortEnds token runtime (.error e, after)
  | already {entry : PasskeyCeremonyLedgerEntry} (held : runtime.ceremonies[token]? = some entry)
      (finished : entry.phase ≠ .completionAndMutation) : AbortEnds token runtime (.ok (), runtime)
  | closed {entry : PasskeyCeremonyLedgerEntry} {after : PasskeyRuntime} (clock : after.nowMs = runtime.nowMs)
      (closes : after.ceremonies = runtime.ceremonies.insert token (closeRegistration .closedFailed entry)) :
      AbortEnds token runtime (.ok (), after)

theorem abort_ends (token : String) (runtime : PasskeyRuntime) : AbortEnds token runtime
    (abortPasskeyRegistration services token .completionAndMutation .closedFailed runtime) := by
  have refused (e : RuntimeError) : AbortEnds token runtime (.error e, runtime) := .failed ⟨rfl, rfl⟩
  apply ReadOnly.peel_run (.ensure _ _) refused
  intro _ _
  apply ReadOnly.peel_run (.ensure _ _) refused
  intro _ _
  apply ReadOnly.peel_run (readCeremony_readOnly token) refused
  intro entry read
  have held := readCeremony_ok read
  split
  · rename_i finished
    cases closed : isClosedCreate entry with
    | false => exact refused _
    | true => exact .already held finished
  · apply ReadOnly.peel_run (.ensure _ _) refused
    intro _ _
    apply ReadOnly.peel_run (.ensure _ _) refused
    intro _ _
    have keeps := rollBackRegistration_keeps services entry runtime
    rw [bind_run]
    cases rolled : rollBackRegistration services entry runtime with
    | mk value mid =>
        rw [rolled] at keeps
        cases value with
        | error e => exact .failed keeps
        | ok _ =>
            obtain ⟨ledger, clock⟩ := keeps
            dsimp only at ledger clock ⊢
            rw [closePasskeyRegistrationRollback, onCeremony_held (ledger ▸ held)]
            exact .closed clock (by rw [ledger]; rfl)

namespace AbortEnds

variable {token : String} {runtime : PasskeyRuntime} {run : Except RuntimeError Unit × PasskeyRuntime}

theorem clock (ends : AbortEnds token runtime run) : run.2.nowMs = runtime.nowMs := by
  cases ends with
  | failed keeps => exact keeps.2
  | already => rfl
  | closed clock => exact clock

/-- No other ceremony changes. -/
theorem other (ends : AbortEnds token runtime run) {token' : String} (other : token ≠ token') :
    run.2.ceremonies[token']? = runtime.ceremonies[token']? := by
  cases ends with
  | failed keeps => rw [keeps.1]
  | already => rfl
  | closed _ closes => rw [closes, BTreeMap.insert_lookup, if_neg other]

theorem finished (ends : AbortEnds token runtime run) (done : run.1 = .ok ()) {entry : PasskeyCeremonyLedgerEntry}
    (after : run.2.ceremonies[token]? = some entry) : entry.phase ≠ .completionAndMutation := by
  cases ends with
  | failed => cases done
  | already held finished =>
      cases held.symm.trans after
      exact finished
  | closed _ closes =>
      rw [closes, BTreeMap.insert_lookup, if_pos rfl] at after
      cases after
      simp [closeRegistration]

end AbortEnds

/-! ## Aborts one after the other -/

theorem rollBackTokens_clock (tokens : List String) (runtime : PasskeyRuntime) :
    (rollBackTokens services tokens runtime).2.nowMs = runtime.nowMs := by
  induction tokens generalizing runtime with
  | nil => rfl
  | cons token rest ih => rw [rollBackTokens_run, ih, (abort_ends services token runtime).clock]

theorem rollBackTokens_other {tokens : List String} {token : String} (other : token ∉ tokens) (runtime : PasskeyRuntime) :
    (rollBackTokens services tokens runtime).2.ceremonies[token]? = runtime.ceremonies[token]? := by
  induction tokens generalizing runtime with
  | nil => rfl
  | cons head rest ih =>
      obtain ⟨here, later⟩ := not_or.mp (List.mem_cons.not.mp other)
      rw [rollBackTokens_run, ih later, (abort_ends services head runtime).other (Ne.symm here)]

/-- A settled ceremony is not touched again. -/
theorem Settles.fixed {services : PasskeyServices} {calls : List (String × PasskeyRuntime)} {token : String}
    {a b : PasskeyCeremonyLedgerEntry} (settles : Settles services calls token a b)
    (waits : b.phase = .completionAndMutation) : a = b := by
  cases settles with
  | kept => rfl
  | delivered => cases waits
  | givenUp _ given =>
      rcases given with rfl | rfl <;> cases waits

theorem LedgerSettles.fixed {services : PasskeyServices} {calls : List (String × PasskeyRuntime)}
    {first second : PasskeyRuntime} (settles : LedgerSettles services calls first second) {token : String}
    {entry : PasskeyCeremonyLedgerEntry}
    (held : second.ceremonies[token]? = some entry) (waits : entry.phase = .completionAndMutation) :
    first.ceremonies[token]? = some entry := by
  have here := settles token
  rw [held] at here
  generalize first.ceremonies[token]? = a at here ⊢
  cases here with
  | some settled => rw [settled.fixed waits]

/-- The ceremony's abort has failed. -/
def AbortFailed (calls : List (String × PasskeyRuntime)) (token : String) : Prop :=
  ∃ mid, (token, mid) ∈ calls ∧
    ∃ e, (abortPasskeyRegistration services token .completionAndMutation .closedFailed mid).1 = .error e

/-- What still waits after its abort could not be undone. -/
theorem rollBackTokens_left {tokens : List String} {token : String} {runtime : PasskeyRuntime}
    {entry : PasskeyCeremonyLedgerEntry} (member : token ∈ tokens)
    (held : (rollBackTokens services tokens runtime).2.ceremonies[token]? = some entry)
    (waits : entry.phase = .completionAndMutation) : AbortFailed services (abortRuns services tokens runtime) token := by
  induction tokens generalizing runtime with
  | nil => cases member
  | cons head rest ih =>
      rw [rollBackTokens_run] at held
      rcases List.mem_cons.mp member with rfl | later
      · have before := (rollBackTokens_settles services rest _).fixed held waits
        cases result : (abortPasskeyRegistration services token .completionAndMutation .closedFailed runtime).1 with
        | error e => exact ⟨runtime, List.mem_cons_self, e, result⟩
        | ok _ => exact absurd waits ((abort_ends services token runtime).finished result before)
      · obtain ⟨mid, called, failed⟩ := ih later held
        exact ⟨mid, List.mem_cons_of_mem _ called, failed⟩

end Aborts

/-! ## Reconciliations -/

section Reconciliation

variable (services : PasskeyServices) (activeConnectionId : String) (runtime : PasskeyRuntime)

theorem mem_orphanedTokens {select : PasskeyCeremonyLedgerEntry → Bool} {activeConnectionId : String}
    {runtime : PasskeyRuntime} {token : String} : token ∈ orphanedTokens select activeConnectionId runtime ↔
      ∃ entry, runtime.ceremonies[token]? = some entry ∧
        isOrphaned activeConnectionId runtime.nowMs entry ∧ select entry := by
  simp only [orphanedTokens, List.mem_map, List.mem_filter, Prod.exists, Bool.and_eq_true, exists_and_right,
    exists_eq_right, Std.ExtTreeMap.mem_toList_iff_getElem?_eq_some]

/-- A reconciliation, from where it stands to where it ends. -/
theorem reconcile_after : (PasskeyRequest.reconcile activeConnectionId).after services runtime =
    match validatePasskeyCeremonyConnectionId activeConnectionId with
    | .error _ => runtime
    | .ok _ => (rollBackTokens services (orphanedTokens needsRollback activeConnectionId runtime)
        (closeAllCommitted activeConnectionId runtime)).2 := by
  rw [PasskeyRequest.after, PasskeyRequest.handle, bind_pure_state]
  unfold reconcilePasskeyCeremonyLedger
  cases validatePasskeyCeremonyConnectionId activeConnectionId with
  | error e => rfl
  | ok _ =>
      change ((rollBackTokens services _ >>= fun rolled => pure _) (closeAllCommitted _ _)).2 = _
      rw [bind_pure_state]

variable {services activeConnectionId runtime}

/-- Its connection is gone, or its time is over. -/
def Abandoned (activeConnectionId : String) (now : Nat) (entry : PasskeyCeremonyLedgerEntry) : Prop :=
  entry.identity.connectionId ≠ activeConnectionId ∨ entry.identity.expiresAtEpochMs ≤ now

theorem Abandoned.of_orphaned {now : Nat} {entry : PasskeyCeremonyLedgerEntry}
    (orphaned : isOrphaned activeConnectionId now entry) : Abandoned activeConnectionId now entry := by
  simp only [isOrphaned, Bool.and_eq_true, Bool.not_eq_true', Bool.and_eq_false_iff, decide_eq_false_iff_not] at orphaned
  rcases orphaned.2 with gone | expired
  · exact .inl gone
  · exact .inr (by omega)

/-- What a reconciliation may do to a ceremony. -/
structure ReconciledTo (activeConnectionId : String) (now : Nat) (before after : PasskeyCeremonyLedgerEntry) : Prop where
  closes : before.phase.isClosed = false → after.phase.isClosed → Abandoned activeConnectionId now before
  committed : before.durableState = .committed →
    after = before ∨ after = { before with phase := .closedDelivered, deliveryState := .unknownDelivery }
  undelivered : validatePasskeyCeremonyConnectionId activeConnectionId = .ok () → before.durableState = .committed →
    before.phase = .completionAndMutation → before.deliveryState = .notDelivered →
    Abandoned activeConnectionId now before →
    after = { before with phase := .closedDelivered, deliveryState := .unknownDelivery }

theorem closeCommitted_reconciles (now : Nat) (before : PasskeyCeremonyLedgerEntry) :
    ReconciledTo activeConnectionId now before (closeCommitted activeConnectionId now before) := by
  unfold closeCommitted
  split
  · rename_i orphaned
    simp only [Bool.and_eq_true, decide_eq_true_eq] at orphaned
    exact ⟨fun _ _ => .of_orphaned orphaned.1, fun _ => .inr rfl, fun _ _ _ _ _ => rfl⟩
  · rename_i kept
    refine ⟨fun running closed => by simp [running] at closed, fun _ => .inl rfl, ?_⟩
    intro _ committed last waits abandoned
    simp only [isOrphaned, last, waits, committed, decide_true, Bool.true_and, Bool.and_true, Bool.not_eq_true',
      Bool.not_eq_false, Bool.and_eq_true, decide_eq_true_eq] at kept
    rcases abandoned with gone | expired
    · exact absurd kept.1 gone
    · omega

theorem reconcile_reconciles (token : String) :
    Option.Rel (ReconciledTo activeConnectionId runtime.nowMs) runtime.ceremonies[token]?
      ((PasskeyRequest.reconcile activeConnectionId).after services runtime).ceremonies[token]? := by
  rw [reconcile_after]
  split
  · rename_i refused
    cases runtime.ceremonies[token]? with
    | none => exact .none
    | some entry =>
        refine .some ⟨fun running closed => by simp [running] at closed, fun _ => .inl rfl, fun valid => ?_⟩
        simp [refused] at valid
  · have noticed : (closeAllCommitted activeConnectionId runtime).ceremonies[token]? =
        runtime.ceremonies[token]?.map (closeCommitted activeConnectionId runtime.nowMs) := by
      simp only [closeAllCommitted, Std.ExtTreeMap.getElem?_map]
    by_cases member : token ∈ orphanedTokens needsRollback activeConnectionId runtime
    · obtain ⟨entry, held, orphaned, needs⟩ := mem_orphanedTokens.mp member
      have uncommitted : entry.durableState ≠ .committed := by
        intro committed
        simp [needsRollback, committed] at needs
      have settles := rollBackTokens_settles services (orphanedTokens needsRollback activeConnectionId runtime)
        (closeAllCommitted activeConnectionId runtime) token
      rw [noticed, held] at settles
      rw [held]
      generalize (rollBackTokens services _ _).2.ceremonies[token]? = last at settles ⊢
      cases settles with
      | some =>
          exact .some ⟨fun _ _ => .of_orphaned orphaned, fun committed => absurd committed uncommitted,
            fun _ committed => absurd committed uncommitted⟩
    · rw [rollBackTokens_other services member, noticed]
      cases runtime.ceremonies[token]? with
      | none => exact .none
      | some entry => exact .some (closeCommitted_reconciles runtime.nowMs entry)

/-! ## Again -/

theorem reconcile_keeps :
    LedgerSettles services ((PasskeyRequest.reconcile activeConnectionId).abortCalls services runtime) runtime
      ((PasskeyRequest.reconcile activeConnectionId).after services runtime) := by
  rw [PasskeyRequest.after, PasskeyRequest.handle, bind_pure_state]
  exact reconcile_settles services activeConnectionId runtime

/-- What still waits for an abort after a reconciliation. -/
theorem reconcile_left {token : String}
    (member : token ∈ orphanedTokens needsRollback activeConnectionId
      ((PasskeyRequest.reconcile activeConnectionId).after services runtime))
    (valid : validatePasskeyCeremonyConnectionId activeConnectionId = .ok ()) :
    AbortFailed services ((PasskeyRequest.reconcile activeConnectionId).abortCalls services runtime) token := by
  obtain ⟨entry, held, orphaned, needs⟩ := mem_orphanedTokens.mp member
  have last : entry.phase = .completionAndMutation := by
    simp only [isOrphaned, Bool.and_eq_true, decide_eq_true_eq] at orphaned
    exact orphaned.1.1
  have before := reconcile_keeps.fixed held last
  rw [reconcile_after, valid] at held orphaned
  dsimp only at held orphaned
  rw [rollBackTokens_clock] at orphaned
  exact rollBackTokens_left services (mem_orphanedTokens.mpr ⟨entry, before, orphaned, needs⟩) held last

/-- No committed ceremony waits after a reconciliation. -/
theorem closeAllCommitted_again (valid : validatePasskeyCeremonyConnectionId activeConnectionId = .ok ()) :
    closeAllCommitted activeConnectionId ((PasskeyRequest.reconcile activeConnectionId).after services runtime) =
      (PasskeyRequest.reconcile activeConnectionId).after services runtime := by
  rw [reconcile_after, valid]
  dsimp only
  have settles := rollBackTokens_settles services (orphanedTokens needsRollback activeConnectionId runtime)
    (closeAllCommitted activeConnectionId runtime)
  have clock := rollBackTokens_clock services (orphanedTokens needsRollback activeConnectionId runtime)
    (closeAllCommitted activeConnectionId runtime)
  generalize (rollBackTokens services _ _).2 = last at settles clock ⊢
  have same : last.ceremonies.map (fun _ => closeCommitted activeConnectionId last.nowMs) = last.ceremonies := by
    apply Std.ExtTreeMap.ext_getElem?
    intro token
    rw [Std.ExtTreeMap.getElem?_map]
    cases held : last.ceremonies[token]? with
    | none => rfl
    | some entry =>
        cases orphaned : isOrphaned activeConnectionId last.nowMs entry && entry.durableState = .committed with
        | false => simp [closeCommitted, orphaned]
        | true =>
            have waits : entry.phase = .completionAndMutation := by
              simp only [isOrphaned, Bool.and_eq_true, decide_eq_true_eq] at orphaned
              exact orphaned.1.1.1
            have before := settles.fixed held waits
            simp only [closeAllCommitted, Std.ExtTreeMap.getElem?_map, Option.map_eq_some_iff] at before
            obtain ⟨earlier, _, closed⟩ := before
            unfold closeCommitted at closed
            split at closed
            · rw [← closed] at waits
              cases waits
            · rename_i running
              rw [clock] at orphaned
              exact absurd orphaned (closed ▸ running)
  unfold closeAllCommitted
  rw [same]

/-- A second reconciliation only repeats the aborts that failed. -/
theorem reconcile_again_other {token : String}
    (done : ¬ AbortFailed services ((PasskeyRequest.reconcile activeConnectionId).abortCalls services runtime) token) :
    ((PasskeyRequest.reconcile activeConnectionId).after services
        ((PasskeyRequest.reconcile activeConnectionId).after services runtime)).ceremonies[token]? =
      ((PasskeyRequest.reconcile activeConnectionId).after services runtime).ceremonies[token]? := by
  cases valid : validatePasskeyCeremonyConnectionId activeConnectionId with
  | error e => simp only [reconcile_after, valid]
  | ok _ =>
      rw [reconcile_after services activeConnectionId (PasskeyRequest.after services _ _), valid]
      dsimp only
      rw [closeAllCommitted_again valid]
      exact rollBackTokens_other services (fun member => done (reconcile_left member valid)) _

theorem reconcile_twice
    (done : ∀ token : String,
      ¬ AbortFailed services ((PasskeyRequest.reconcile activeConnectionId).abortCalls services runtime) token) :
    (PasskeyRequest.reconcile activeConnectionId).after services
        ((PasskeyRequest.reconcile activeConnectionId).after services runtime) =
      (PasskeyRequest.reconcile activeConnectionId).after services runtime := by
  cases valid : validatePasskeyCeremonyConnectionId activeConnectionId with
  | error e => simp only [reconcile_after, valid]
  | ok _ =>
      rw [reconcile_after services activeConnectionId (PasskeyRequest.after services _ _), valid]
      dsimp only
      have none' : orphanedTokens needsRollback activeConnectionId
          ((PasskeyRequest.reconcile activeConnectionId).after services runtime) = [] :=
        List.eq_nil_iff_forall_not_mem.mpr fun token member => done token (reconcile_left member valid)
      rw [closeAllCommitted_again valid, none', rollBackTokens, pure_run]

end Reconciliation

/-! ## Runs -/

/-- In every run the open ceremonies of a requester are never within their times together. A
    reconciliation closes only abandoned ceremonies, delivers the committed ones with an unknown outcome, and
    run again at once changes nothing but what it failed to undo. -/
theorem ceremonies_exclusive (services : PasskeyServices) (allowed : PasskeyRequest → PasskeyRuntime → Prop)
    (runtime : PasskeyRuntime) (reached : PasskeyReaches services allowed runtime) :
    (∀ (first second : String) (a b : PasskeyCeremonyLedgerEntry) (moment : Nat), first ≠ second →
        runtime.ceremonies[first]? = some a → runtime.ceremonies[second]? = some b →
        sameRequester a.identity b.identity → ¬ (a.LiveAt moment ∧ b.LiveAt moment)) ∧
      ∀ activeConnectionId : String,
        let request := PasskeyRequest.reconcile activeConnectionId
        let after := request.after services runtime
        (∀ token : String, Option.Rel (ReconciledTo activeConnectionId runtime.nowMs) runtime.ceremonies[token]?
          after.ceremonies[token]?) ∧
        (∀ token : String, ¬ AbortFailed services (request.abortCalls services runtime) token →
          (request.after services after).ceremonies[token]? = after.ceremonies[token]?) ∧
        ((∀ token : String, ¬ AbortFailed services (request.abortCalls services runtime) token) →
          request.after services after = after) := by
  constructor
  · intro first second a b moment other heldA heldB same
    exact (reached_apart reached first second a b other heldA heldB).not_both same
  · intro activeConnectionId
    exact ⟨reconcile_reconciles, fun _ done => reconcile_again_other done, reconcile_twice⟩

/-! ## A clock ahead of the runtime's -/

/-- The second ceremony is registered when the first has expired, by the clock of the page. -/
def skewedRuntime : PasskeyRuntime :=
  runRequests exampleServices
    [.register "first" { exampleIdentity with registeredAtEpochMs := 500, expiresAtEpochMs := 3000 },
      .register "second" { exampleIdentity with registeredAtEpochMs := 3500, expiresAtEpochMs := 10000 }]
    ⟨exampleStart.session, 1000, ∅⟩

/-- The disk is full for one save. -/
def flakyServices : PasskeyServices where
  toSigningLibrary := exampleLibrary
  saveVault _ session :=
    if session.now = 7 then (.error (.message "disk full"), { session with now := 8 })
    else (.ok { status := .saved, conflictCopyPath := none }, session)
  authorizeUser _ _ _ _ := .ok ()

/-- A saved registration whose connection is gone. -/
def savedRuntime : PasskeyRuntime :=
  let saved := runRequests flakyServices
    (completionRequests ++ [.createRegistration "token" .completionAndMutation exampleRequest exampleCredential,
      .save "token" .completionAndMutation "vault"]) exampleStart
  PasskeyRequest.after flakyServices (.elsewhere { saved.session with now := 7 } saved.nowMs) saved

def reconcileElsewhere : PasskeyRequest := .reconcile "other"

/-- At the runtime's own time neither ceremony has expired. And a reconciliation that could not save
    closes the ceremony when it runs again. -/
theorem both_ceremonies_unexpired :
    (PasskeyReaches exampleServices (fun _ _ => True) skewedRuntime ∧
      ∃ a b, skewedRuntime.ceremonies["first"]? = some a ∧ skewedRuntime.ceremonies["second"]? = some b ∧
        a.phase.isClosed = false ∧ b.phase.isClosed = false ∧ skewedRuntime.nowMs < a.identity.expiresAtEpochMs ∧
        skewedRuntime.nowMs < b.identity.expiresAtEpochMs ∧ sameRequester a.identity b.identity) ∧
      PasskeyReaches flakyServices (fun _ _ => True) savedRuntime ∧
        ((reconcileElsewhere.after flakyServices savedRuntime).ceremonies["token"]?.map fun entry => entry.phase) =
          some .completionAndMutation ∧
        ((reconcileElsewhere.after flakyServices (reconcileElsewhere.after flakyServices savedRuntime)).ceremonies[
          "token"]?.map fun entry => entry.phase) = some .closedFailed := by
  refine ⟨⟨PasskeyReaches.run _ (.start _ _) fun _ _ _ => trivial, ?_⟩,
    .step _ (PasskeyReaches.run _ (.start _ _) fun _ _ _ => trivial) trivial, by decide +kernel, by decide +kernel⟩
  have first : skewedRuntime.ceremonies["first"]? = some (newCeremony
      { exampleIdentity with registeredAtEpochMs := 500, expiresAtEpochMs := 3000 }) := by decide +kernel
  have second : skewedRuntime.ceremonies["second"]? = some (newCeremony
      { exampleIdentity with registeredAtEpochMs := 3500, expiresAtEpochMs := 10000 }) := by decide +kernel
  have clock : skewedRuntime.nowMs = 1000 := by decide +kernel
  refine ⟨_, _, first, second, rfl, rfl, ?_, ?_, rfl, rfl, rfl, rfl⟩
  · rw [clock]
    decide
  · rw [clock]
    decide

/-- The two of them stay apart, and a reconciliation from elsewhere settles the ledger. -/
theorem ceremonies_exclusive_skewed :
    (∀ (first second : String) (a b : PasskeyCeremonyLedgerEntry) (moment : Nat), first ≠ second →
        skewedRuntime.ceremonies[first]? = some a → skewedRuntime.ceremonies[second]? = some b →
        sameRequester a.identity b.identity → ¬ (a.LiveAt moment ∧ b.LiveAt moment)) ∧
      (PasskeyRequest.reconcile "other").after exampleServices
          ((PasskeyRequest.reconcile "other").after exampleServices skewedRuntime) =
        (PasskeyRequest.reconcile "other").after exampleServices skewedRuntime := by
  obtain ⟨apart, reconciles⟩ := ceremonies_exclusive exampleServices (fun _ _ => True) skewedRuntime
    (PasskeyReaches.run _ (.start _ _) fun _ _ _ => trivial)
  refine ⟨apart, (reconciles "other").2.2 fun token failed => ?_⟩
  obtain ⟨mid, called, _⟩ := failed
  have none' : (orphanedTokens needsRollback "other" skewedRuntime) = [] := by decide +kernel
  simp [PasskeyRequest.abortCalls, none', abortRuns] at called

end VaultKern
