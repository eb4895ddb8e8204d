import VaultKern.Guarantees.CeremonyLedger

/-! # Runs of ceremonies

The ledger is sound after any requests: every ceremony goes along the transition table and
stays closed. One request closes a registration without undoing it.
-/

namespace VaultKern

open Attempt

/-! ## Edges of the table -/

section Edges

variable {library : WebLibrary} {source target : PasskeyCeremonyPhase} {identity : PasskeyCeremonyIdentity}
  {relatedOriginVerified : Bool}

/-- No edge leaves a closed phase. -/
theorem legal_open (legal : isLegalPasskeyCeremonyTransition library source target identity relatedOriginVerified) :
    source.isClosed = false := by
  cases source with
  | closedAborted | closedDelivered | closedFailed =>
      cases target <;> simp [isLegalPasskeyCeremonyTransition, passkeyCeremonyActiveTransitionEdges,
        PasskeyCeremonyPhase.isClosed] at legal
  | _ => rfl

/-- The edges of the last phase close the ceremony. -/
theorem legal_closes
    (legal : isLegalPasskeyCeremonyTransition library .completionAndMutation target identity relatedOriginVerified) :
    target.isClosed := by
  cases target with
  | closedAborted | closedDelivered | closedFailed => rfl
  | _ => simp [isLegalPasskeyCeremonyTransition, passkeyCeremonyActiveTransitionEdges] at legal

theorem legal_giveUp {closedPhase : PasskeyCeremonyPhase}
    (given : closedPhase = .closedAborted ∨ closedPhase = .closedFailed) :
    isLegalPasskeyCeremonyTransition library .completionAndMutation closedPhase identity false := by
  rcases given with rfl | rfl <;> rfl

/-- Evidence of a related origin is for another edge. -/
theorem legal_giveUp_evidence (given : target = .closedAborted ∨ target = .closedFailed)
    (legal : isLegalPasskeyCeremonyTransition library source target identity relatedOriginVerified) :
    relatedOriginVerified = false := by
  cases relatedOriginVerified with
  | false => rfl
  | true => rcases given with rfl | rfl <;> simp [isLegalPasskeyCeremonyTransition] at legal

theorem legal_deliver :
    isLegalPasskeyCeremonyTransition library .completionAndMutation .closedDelivered identity false := rfl

end Edges

/-! ## Steps along an edge -/

section Steps

variable {library : WebLibrary}

/-- A ceremony that follows an edge keeps what it has registered. -/
theorem CeremonyStep.of_edge {entry : PasskeyCeremonyLedgerEntry} {target : PasskeyCeremonyPhase}
    {deliveryState : PasskeyCeremonyDeliveryState} {relatedOriginVerified : Bool}
    (legal : isLegalPasskeyCeremonyTransition library entry.phase target entry.identity relatedOriginVerified)
    (delivered : target = .closedDelivered → entry.identity.ceremony = .create → entry.durableState = .committed) :
    CeremonyStep library entry { entry with phase := target, deliveryState } where
  identity := rfl
  phase := .inr ⟨_, legal⟩
  closed closed := absurd (legal_open legal) (by simp [closed])
  binding _ bound := bound
  delivered closing _ create := delivered closing create
  sound sound := by
    refine ⟨sound.rollback, sound.complete, fun changed => ⟨(sound.create changed).1, .inr ?_⟩, delivered⟩
    rcases (sound.create changed).2 with last | closed
    · exact legal_closes (last ▸ legal)
    · exact absurd (legal_open legal) (by simp [closed])

/-- The ceremony goes to a phase that the table allows. -/
structure Follows (library : WebLibrary) (target : PasskeyCeremonyPhase) (before after : PasskeyCeremonyLedgerEntry) :
    Prop where
  legal : ∃ relatedOriginVerified,
    isLegalPasskeyCeremonyTransition library before.phase target before.identity relatedOriginVerified
  delivered : target = .closedDelivered → before.identity.ceremony = .create → before.durableState = .committed
  moved : ∃ deliveryState, after = { before with phase := target, deliveryState }

theorem Follows.step {target : PasskeyCeremonyPhase} {before after : PasskeyCeremonyLedgerEntry}
    (follows : Follows library target before after) : CeremonyStep library before after := by
  obtain ⟨⟨_, legal⟩, delivered, deliveryState, rfl⟩ := follows
  exact .of_edge legal delivered

theorem advancePhase_cases (library : WebLibrary) (now : Nat) (expectedPhase nextPhase : PasskeyCeremonyPhase)
    (relatedOriginVerified : Bool)
    (entry : PasskeyCeremonyLedgerEntry) :
    (advancePhase library now expectedPhase nextPhase relatedOriginVerified entry).2 = entry ∨
      entry.phase = expectedPhase ∧
      isLegalPasskeyCeremonyTransition library expectedPhase nextPhase entry.identity relatedOriginVerified ∧
      Follows library nextPhase entry
        (advancePhase library now expectedPhase nextPhase relatedOriginVerified entry).2 := by
  unfold advancePhase
  dsimp only
  split
  · split <;> exact .inl rfl
  · rename_i phase
    replace phase := Decidable.not_not.mp phase
    split
    · exact .inl rfl
    · split
      · exact .inl rfl
      · rename_i legal
        replace legal :
            isLegalPasskeyCeremonyTransition library expectedPhase nextPhase entry.identity relatedOriginVerified := by
          simpa using legal
        split
        · exact .inl rfl
        · rename_i uncommitted
          split
          · exact .inl rfl
          · refine .inr ⟨phase, legal, ⟨_, phase ▸ legal⟩, fun delivered create => ?_, _, rfl⟩
            simpa [delivered, create] using uncommitted

/-- An advance that is not refused. -/
theorem advancePhase_giveUp (now : Nat) {nextPhase : PasskeyCeremonyPhase} {entry : PasskeyCeremonyLedgerEntry}
    (last : entry.phase = .completionAndMutation) (given : nextPhase = .closedAborted ∨ nextPhase = .closedFailed) :
    (advancePhase library now .completionAndMutation nextPhase false entry).2 = { entry with phase := nextPhase } := by
  rcases given with rfl | rfl <;> simp [advancePhase, last, legal_giveUp, PasskeyCeremonyPhase.isClosed]

theorem markUnknownDelivery_cases (library : WebLibrary) (entry : PasskeyCeremonyLedgerEntry) :
    (markUnknownDelivery .completionAndMutation entry).2 = entry ∨
      Follows library .closedDelivered entry (markUnknownDelivery .completionAndMutation entry).2 := by
  unfold markUnknownDelivery
  dsimp only
  split
  · exact .inl rfl
  · split
    · exact .inl rfl
    · rename_i phase
      replace phase := Decidable.not_not.mp phase
      split
      · exact .inl rfl
      · rename_i uncommitted
        split
        · exact .inl rfl
        · refine .inr ⟨⟨false, ?_⟩, fun _ create => ?_, _, rfl⟩
          · rw [phase]
            exact legal_deliver
          · simpa [create] using uncommitted

end Steps

/-! ## Undoing a registration -/

/-- What undoing makes of a vault: nothing if the passkey is gone from its entry, or the entry is deleted, or it
    is again what it was, beside the history that it has had since. -/
inductive Undone (rollback : PasskeyRegistrationRollbackState) (vault : Vault) : Vault → Prop
  | gone {credentialId : String} (record : rollback.credentialId = some credentialId)
      (gone : entryHasPasskeyCredential vault.root rollback.entryId credentialId ≠ some true) :
      Undone rollback vault vault
  | deleted {root : Group} {entry : Entry × Uuid} (created : rollback.created = true)
      (taken : takeEntryFromGroup rollback.entryId vault.root = some (root, entry)) :
      Undone rollback vault { vault with root }
  | restored {recorded entry : Entry} (updated : rollback.created = false)
      (record : rollback.rollbackEntry = some recorded) (found : findEntryById rollback.entryId vault.root = some entry) :
      Undone rollback vault
        { vault with
          root := putEntryById rollback.entryId
            { recorded with history := retainedHistory entry rollback.credentialId } vault.root }

theorem restoreRegistration_undone {rollback : PasskeyRegistrationRollbackState} (complete : rollback.isComplete)
    {vault after : Vault} (restored : restoreRegistration rollback vault = (.ok (), after)) :
    Undone rollback vault after := by
  simp only [PasskeyRegistrationRollbackState.isComplete, Bool.and_eq_true, Bool.or_eq_true] at complete
  obtain ⟨credential, recorded⟩ := complete
  obtain ⟨credentialId, credential⟩ := Option.isSome_iff_exists.mp credential
  unfold restoreRegistration at restored
  simp only [bind_run, get_run, credential, Option.any_some] at restored
  by_cases created : rollback.created = true
  · simp only [created, if_true] at restored
    split at restored
    · rename_i gone
      cases restored
      exact .gone credential (by simpa using gone)
    · simp only [core, deleteEntry_cases] at restored
      cases taken : takeEntryFromGroup rollback.entryId vault.root with
      | none => simp [taken] at restored
      | some left =>
          rw [taken] at restored
          cases restored
          exact .deleted created taken
  · replace created : rollback.created = false := by simpa using created
    obtain ⟨entry, record⟩ := Option.isSome_iff_exists.mp (recorded.resolve_left (by simp [created]))
    simp only [created, Bool.false_eq_true, if_false, record, restoreEntry] at restored
    cases found : findEntryById rollback.entryId vault.root with
    | none => simp [found] at restored
    | some current =>
        simp only [found, Prod.mk.injEq, true_and] at restored
        subst restored
        by_cases moved : credentialMoved current (some credentialId) = true
        · rw [restoredFromSnapshot, if_pos moved, putEntryById_same rollback.entryId vault.root found]
          refine .gone credential ?_
          simpa [credentialMoved, entryHasPasskeyCredential, found] using moved
        · rw [restoredFromSnapshot, if_neg moved, ← credential]
          exact .restored created record found

/-- The registration is undone in its vault, and no other vault changes. -/
def RollsBack (rollback : PasskeyRegistrationRollbackState) (before after : Session) : Prop :=
  ∃ vault vault', before.vault rollback.vaultId = .ok vault ∧ Undone rollback vault vault' ∧
    after = { before with loaded := before.loaded.insert rollback.vaultId (some vault') }

theorem restore_rollsBack {rollback : PasskeyRegistrationRollbackState} (complete : rollback.isComplete)
    {session : Session} (restored : (restorePasskeyRegistrationRollback rollback session).1 = .ok ()) :
    RollsBack rollback session (restorePasskeyRegistrationRollback rollback session).2 := by
  unfold restorePasskeyRegistrationRollback onVault at restored ⊢
  cases opened : session.vault rollback.vaultId with
  | error e => simp [opened] at restored
  | ok vault =>
      rw [opened] at restored
      refine ⟨vault, _, opened, restoreRegistration_undone complete (Prod.ext restored rfl), rfl⟩

/-! ## Giving up a registration -/

/-- The session that an abort leaves: what was saved with the registration is saved again. -/
def sessionAfterUndo (services : PasskeyServices) (entry : PasskeyCeremonyLedgerEntry) (vaultId : String)
    (restored : Session) : Session :=
  if entry.durableState = .saved then (services.saveVault vaultId restored).2 else restored

/-- One of the aborts has undone the registration. -/
def UndoneBy (services : PasskeyServices) (calls : List (String × PasskeyRuntime)) (token : String)
    (entry : PasskeyCeremonyLedgerEntry) : Prop :=
  ∀ rollback, entry.registrationRollback = some rollback →
    ∃ mid closedPhase, (token, mid) ∈ calls ∧
      (restorePasskeyRegistrationRollback rollback mid.session).1 = .ok () ∧
      (abortPasskeyRegistration services token .completionAndMutation closedPhase mid).2.session =
        sessionAfterUndo services entry rollback.vaultId (restorePasskeyRegistrationRollback rollback mid.session).2

/-- What aborts and a reconciliation do to a ceremony. -/
inductive Settles (services : PasskeyServices) (calls : List (String × PasskeyRuntime)) (token : String)
    (before : PasskeyCeremonyLedgerEntry) : PasskeyCeremonyLedgerEntry → Prop
  | kept : Settles services calls token before before
  | delivered (last : before.phase = .completionAndMutation) (committed : before.durableState = .committed) :
      Settles services calls token before { before with phase := .closedDelivered, deliveryState := .unknownDelivery }
  | givenUp {closedPhase : PasskeyCeremonyPhase} (last : before.phase = .completionAndMutation)
      (given : closedPhase = .closedAborted ∨ closedPhase = .closedFailed) (undone : UndoneBy services calls token before) :
      Settles services calls token before (closeRegistration closedPhase before)

namespace Settles

variable {services : PasskeyServices} {library : WebLibrary} {calls calls' : List (String × PasskeyRuntime)}
  {token : String} {a b c : PasskeyCeremonyLedgerEntry}

theorem mono (more : ∀ call ∈ calls, call ∈ calls') (settles : Settles services calls token a b) :
    Settles services calls' token a b := by
  cases settles with
  | kept => exact .kept
  | delivered last committed => exact .delivered last committed
  | givenUp last given undone =>
      refine .givenUp last given fun rollback record => ?_
      obtain ⟨mid, closedPhase, called, restored⟩ := undone rollback record
      exact ⟨mid, closedPhase, more _ called, restored⟩

/-- What is settled is not in the last phase any more. -/
theorem trans (first : Settles services calls token a b) (second : Settles services calls token b c) :
    Settles services calls token a c := by
  cases first with
  | kept => exact second
  | delivered last committed =>
      cases second with
      | kept => exact .delivered last committed
      | delivered again | givenUp again => cases again
  | givenUp last given undone =>
      cases second with
      | kept => exact .givenUp last given undone
      | delivered again | givenUp again =>
          rcases given with rfl | rfl <;> cases again

theorem step (settles : Settles services calls token a b) : CeremonyStep library a b := by
  cases settles with
  | kept => exact (QuietStep.refl a).step
  | delivered last committed =>
      have legal : isLegalPasskeyCeremonyTransition library a.phase .closedDelivered a.identity false := by
        rw [last]
        exact legal_deliver
      exact .of_edge legal fun _ _ => committed
  | @givenUp closedPhase last given undone =>
      have undelivered : closedPhase ≠ .closedDelivered := by rcases given with rfl | rfl <;> decide
      refine ⟨rfl, .inr ⟨false, ?_⟩, fun closed => ?_, fun _ bound => bound, fun delivered => absurd delivered undelivered,
        fun _ => ⟨?_, ?_, ?_, fun delivered => absurd delivered undelivered⟩⟩
      · rw [last]
        exact legal_giveUp given
      · rw [last] at closed
        cases closed
      · simp [closeRegistration]
      · simp [closeRegistration]
      · simp [closeRegistration]

theorem clean (settles : Settles services calls token a b) (clean : CleanlyClosed a) : CleanlyClosed b := by
  cases settles with
  | kept => exact clean
  | delivered last committed =>
      rintro (closed | closed) <;> cases closed
  | givenUp last given undone => exact fun _ => rfl

end Settles

/-- Every ceremony of the ledger is settled or kept. -/
def LedgerSettles (services : PasskeyServices) (calls : List (String × PasskeyRuntime))
    (before after : PasskeyRuntime) : Prop :=
  ∀ token : String, Option.Rel (Settles services calls token) before.ceremonies[token]? after.ceremonies[token]?

namespace LedgerSettles

variable {services : PasskeyServices} {calls calls' : List (String × PasskeyRuntime)}
  {first second third : PasskeyRuntime}

theorem of_same (same : second.ceremonies = first.ceremonies) : LedgerSettles services calls first second := by
  intro token
  rw [same]
  cases first.ceremonies[token]? with
  | none => exact .none
  | some entry => exact .some .kept

theorem mono (more : ∀ call ∈ calls, call ∈ calls') (settles : LedgerSettles services calls first second) :
    LedgerSettles services calls' first second := by
  intro token
  have here := settles token
  generalize first.ceremonies[token]? = a, second.ceremonies[token]? = b at here ⊢
  cases here with
  | none => exact .none
  | some here => exact .some (here.mono more)

theorem trans (early : LedgerSettles services calls first second) (late : LedgerSettles services calls second third) :
    LedgerSettles services calls first third := by
  intro token
  have one := early token
  have two := late token
  generalize first.ceremonies[token]? = a, second.ceremonies[token]? = b, third.ceremonies[token]? = c at one two ⊢
  cases one with
  | none =>
      cases two
      exact .none
  | some one =>
      cases two with
      | some two => exact .some (one.trans two)

end LedgerSettles

section Abort

variable (services : PasskeyServices)

theorem rollBackRegistration_kept (entry : PasskeyCeremonyLedgerEntry) (runtime : PasskeyRuntime) :
    (rollBackRegistration services entry runtime).2.ceremonies = runtime.ceremonies := by
  unfold rollBackRegistration
  cases entry.registrationRollback with
  | none => rfl
  | some rollback =>
      dsimp only
      rw [bind_run]
      have first := onSession_ceremonies (restorePasskeyRegistrationRollback rollback) runtime
      cases restored : onSession (restorePasskeyRegistrationRollback rollback) runtime with
      | mk value mid =>
          rw [restored] at first
          cases value with
          | error e => exact first
          | ok _ =>
              rw [← first]
              dsimp only
              split
              · have second := onSession_ceremonies (services.saveVault rollback.vaultId) mid
                rw [bind_run]
                cases saved : onSession (services.saveVault rollback.vaultId) mid with
                | mk value last =>
                    rw [saved] at second
                    cases value with
                    | error e => exact second
                    | ok result => exact (congrArg _ (ReadOnly.lift _ last)).trans second
              · rfl

theorem rollBackRegistration_undone {entry : PasskeyCeremonyLedgerEntry} {rollback : PasskeyRegistrationRollbackState}
    {runtime after : PasskeyRuntime} (record : entry.registrationRollback = some rollback)
    (done : rollBackRegistration services entry runtime = (.ok (), after)) :
    (restorePasskeyRegistrationRollback rollback runtime.session).1 = .ok () ∧
      after.session = sessionAfterUndo services entry rollback.vaultId
        (restorePasskeyRegistrationRollback rollback runtime.session).2 := by
  unfold rollBackRegistration at done
  rw [record] at done
  obtain ⟨_, mid, restored, done⟩ := bind_ok.mp done
  have session : mid.session = (restorePasskeyRegistrationRollback rollback runtime.session).2 := by
    rw [← congrArg (fun run => run.2.session) restored, onSession_run]
  refine ⟨congrArg Prod.fst restored, ?_⟩
  unfold sessionAfterUndo
  split at done
  · rename_i saved
    obtain ⟨result, last, again, done⟩ := bind_ok.mp done
    obtain ⟨_, rfl⟩ := lift_eq_ok.mp done
    rw [if_pos saved, ← session, ← congrArg (fun run => run.2.session) again, onSession_run]
  · rename_i unsaved
    cases done
    rw [if_neg unsaved, session]

theorem closePasskeyRegistrationRollback_session (token : String) (closedPhase : PasskeyCeremonyPhase)
    (runtime : PasskeyRuntime) :
    (closePasskeyRegistrationRollback token closedPhase runtime).2.session = runtime.session := by
  unfold closePasskeyRegistrationRollback
  cases held : runtime.ceremonies[token]? with
  | none => rw [onCeremony_missing held]
  | some entry => rw [onCeremony_held held]

/-- An abort that is not refused. -/
theorem abort_run {token : String} {closedPhase : PasskeyCeremonyPhase} {entry : PasskeyCeremonyLedgerEntry}
    {runtime : PasskeyRuntime} (held : runtime.ceremonies[token]? = some entry)
    (last : entry.phase = .completionAndMutation) (given : closedPhase = .closedAborted ∨ closedPhase = .closedFailed)
    (create : entry.identity.ceremony = .create) (uncommitted : entry.durableState ≠ .committed) :
    abortPasskeyRegistration services token .completionAndMutation closedPhase runtime =
      (rollBackRegistration services entry >>= fun _ => closePasskeyRegistrationRollback token closedPhase) runtime := by
  have closes : (closedPhase = .closedAborted || closedPhase = .closedFailed : Bool) = true := by simpa using given
  simp [abortPasskeyRegistration, readCeremony, bind_run, held, last, closes, create, uncommitted]

theorem abort_settles (token : String) (expectedPhase closedPhase : PasskeyCeremonyPhase) (runtime : PasskeyRuntime) :
    LedgerSettles services [(token, runtime)] runtime
      (abortPasskeyRegistration services token expectedPhase closedPhase runtime).2 := by
  have same : LedgerSettles services [(token, runtime)] runtime runtime := .of_same rfl
  refine ReadOnly.peel (.ensure _ _) same fun _ expected => ?_
  replace expected : expectedPhase = .completionAndMutation := by simpa using (ensure_ok.mp expected).1
  refine ReadOnly.peel (.ensure _ _) same fun _ given => ?_
  replace given : closedPhase = .closedAborted ∨ closedPhase = .closedFailed := by
    simpa using (ensure_ok.mp given).1
  refine ReadOnly.peel (readCeremony_readOnly token) same fun entry read => ?_
  have held := readCeremony_ok read
  split
  · exact .of_same (congrArg _ (ReadOnly.ensure _ _ runtime))
  · rename_i phase
    refine ReadOnly.peel (.ensure _ _) same fun _ create => ?_
    refine ReadOnly.peel (.ensure _ _) same fun _ uncommitted => ?_
    replace create : entry.identity.ceremony = .create := by simpa using (ensure_ok.mp create).1
    replace uncommitted : entry.durableState ≠ .committed := by simpa using (ensure_ok.mp uncommitted).1
    have last := (Decidable.not_not.mp phase).trans expected
    have run := abort_run services held last given create uncommitted
    have kept := rollBackRegistration_kept services entry runtime
    rw [bind_run]
    cases rolled : rollBackRegistration services entry runtime with
    | mk value mid =>
        rw [rolled] at kept
        cases value with
        | error e => exact .of_same kept
        | ok _ =>
            change mid.ceremonies = runtime.ceremonies at kept
            have closing : Settles services [(token, runtime)] token entry (closeRegistration closedPhase entry) := by
              refine .givenUp last given fun rollback record => ?_
              obtain ⟨restored, session⟩ := rollBackRegistration_undone services record rolled
              refine ⟨runtime, closedPhase, List.mem_singleton.mpr rfl, restored, ?_⟩
              rw [run, bind_run, rolled]
              exact (closePasskeyRegistrationRollback_session token closedPhase mid).trans session
            intro other
            simp only [closePasskeyRegistrationRollback, onCeremony, within, kept, held, modify_run, BTreeMap.insert_lookup]
            split
            · rename_i here
              rw [← here, held]
              exact .some closing
            · exact LedgerSettles.of_same rfl other

/-! ## Reconciliation -/

/-- The aborts of a reconciliation, each with the runtime it starts from. -/
def abortRuns : List String → PasskeyRuntime → List (String × PasskeyRuntime)
  | [], _ => []
  | token :: rest, runtime =>
      (token, runtime)
        :: abortRuns rest (abortPasskeyRegistration services token .completionAndMutation .closedFailed runtime).2

theorem rollBackTokens_run (token : String) (rest : List String) (runtime : PasskeyRuntime) :
    (rollBackTokens services (token :: rest) runtime).2 = (rollBackTokens services rest
      (abortPasskeyRegistration services token .completionAndMutation .closedFailed runtime).2).2 := by
  rw [rollBackTokens]
  dsimp only
  split <;> rfl

theorem rollBackTokens_settles (tokens : List String) (runtime : PasskeyRuntime) :
    LedgerSettles services (abortRuns services tokens runtime) runtime (rollBackTokens services tokens runtime).2 := by
  induction tokens generalizing runtime with
  | nil => exact .of_same rfl
  | cons token rest ih =>
      rw [rollBackTokens_run]
      have first := abort_settles services token .completionAndMutation .closedFailed runtime
      refine LedgerSettles.trans (first.mono fun call here => ?_) ((ih _).mono fun call later => ?_)
      · rw [List.mem_singleton.mp here]
        exact List.mem_cons_self
      · exact List.mem_cons_of_mem _ later

def closeAllCommitted (activeConnectionId : String) (runtime : PasskeyRuntime) : PasskeyRuntime :=
  { runtime with ceremonies := runtime.ceremonies.map fun _ => closeCommitted activeConnectionId runtime.nowMs }

theorem closeCommitted_settles {calls : List (String × PasskeyRuntime)} {token activeConnectionId : String} {now : Nat}
    (entry : PasskeyCeremonyLedgerEntry) :
    Settles services calls token entry (closeCommitted activeConnectionId now entry) := by
  unfold closeCommitted
  split
  · rename_i orphaned
    simp only [isOrphaned, Bool.and_eq_true, decide_eq_true_eq] at orphaned
    exact .delivered orphaned.1.1.1 orphaned.2
  · exact .kept

theorem closeAllCommitted_settles {calls : List (String × PasskeyRuntime)} (activeConnectionId : String)
    (runtime : PasskeyRuntime) : LedgerSettles services calls runtime (closeAllCommitted activeConnectionId runtime) := by
  intro token
  simp only [closeAllCommitted, Std.ExtTreeMap.getElem?_map]
  cases runtime.ceremonies[token]? with
  | none => exact .none
  | some entry => exact .some (closeCommitted_settles services entry)

/-- The aborts that a request runs. -/
def PasskeyRequest.abortCalls : PasskeyRequest → PasskeyRuntime → List (String × PasskeyRuntime)
  | .abort token _ _, runtime => [(token, runtime)]
  | .reconcile activeConnectionId, runtime =>
      abortRuns services (orphanedTokens needsRollback activeConnectionId runtime)
        (closeAllCommitted activeConnectionId runtime)
  | _, _ => []

theorem reconcile_settles (activeConnectionId : String) (runtime : PasskeyRuntime) :
    LedgerSettles services ((PasskeyRequest.reconcile activeConnectionId).abortCalls services runtime) runtime
      (reconcilePasskeyCeremonyLedger services activeConnectionId runtime).2 := by
  unfold reconcilePasskeyCeremonyLedger
  generalize validatePasskeyCeremonyConnectionId activeConnectionId = checked
  refine ReadOnly.peel (.lift checked) (.of_same rfl) fun _ _ => ?_
  have rolled := rollBackTokens_settles services (orphanedTokens needsRollback activeConnectionId runtime)
    (closeAllCommitted activeConnectionId runtime)
  refine ReadOnly.peel .get (.of_same rfl) fun _ read => ?_
  cases read
  change LedgerSettles services _ _ ((rollBackTokens services _ >>= fun rolled => pure _) (closeAllCommitted _ _)).2
  rw [bind_pure_state]
  exact (closeAllCommitted_settles services activeConnectionId runtime).trans rolled

end Abort

/-! ## Registering -/

section Register

variable {library : WebLibrary}

theorem pruned_lookup (ceremonies : BTreeMap String PasskeyCeremonyLedgerEntry) (now : Nat) (token : String) :
    (pruneExpiredPasskeyCeremonies ceremonies now)[token]? = ceremonies[token]?.filter (outlivesExpiry now) := by
  unfold pruneExpiredPasskeyCeremonies
  rw [Std.ExtTreeMap.getElem?_filter']

/-- Ceremonies that are over go, and at most one comes. It competes with none of the others. -/
structure Registers (library : WebLibrary) (runtime after : PasskeyRuntime) : Prop where
  outcome : after.ceremonies = pruneExpiredPasskeyCeremonies runtime.ceremonies runtime.nowMs ∨
    ∃ token identity, (pruneExpiredPasskeyCeremonies runtime.ceremonies runtime.nowMs)[token]? = none ∧
      validatePasskeyCeremonyIdentity library identity runtime.nowMs = .ok () ∧
      (∀ (other : String) (existing : PasskeyCeremonyLedgerEntry),
        (pruneExpiredPasskeyCeremonies runtime.ceremonies runtime.nowMs)[other]? = some existing →
        competesWith identity existing = false) ∧
      after.ceremonies =
        (pruneExpiredPasskeyCeremonies runtime.ceremonies runtime.nowMs).insert token (newCeremony identity)

theorem register_registers (token : String) (identity : PasskeyCeremonyIdentity) (runtime : PasskeyRuntime) :
    Registers library runtime (registerPasskeyCeremony library token identity runtime).2 := by
  let pruned : PasskeyRuntime :=
    { runtime with ceremonies := pruneExpiredPasskeyCeremonies runtime.ceremonies runtime.nowMs }
  have same : Registers library runtime pruned := ⟨.inl rfl⟩
  change Registers library runtime
    ((lift (validatePasskeyCeremonyIdentity library identity runtime.nowMs) >>= fun _ => _) pruned).2
  refine ReadOnly.peel (.lift _) same fun _ valid => ?_
  refine ReadOnly.peel .get same fun _ read => ?_
  cases read
  dsimp only
  cases fresh : pruned.ceremonies[token]? with
  | some existing =>
      rw [ReadOnly.ensure]
      exact same
  | none =>
      refine ReadOnly.peel (.ensure _ _) same fun _ alone => ?_
      replace alone := (ensure_ok.mp alone).1
      refine ⟨.inr ⟨token, identity, fresh, (lift_eq_ok.mp valid).1, fun other existing held => ?_, rfl⟩⟩
      rw [Bool.not_eq_true', List.any_eq_false] at alone
      simpa using alone existing (BTreeMap.mem_values held)

theorem Registers.tokens {runtime after : PasskeyRuntime} (registers : Registers library runtime after) (token : String) :
    TokenStep library runtime.nowMs runtime.ceremonies[token]? after.ceremonies[token]? := by
  have pruned : TokenStep library runtime.nowMs runtime.ceremonies[token]?
      (pruneExpiredPasskeyCeremonies runtime.ceremonies runtime.nowMs)[token]? := by
    rw [pruned_lookup]
    cases runtime.ceremonies[token]? with
    | none => exact .absent
    | some entry =>
        by_cases expired : outlivesExpiry runtime.nowMs entry
        · rw [Option.filter_some_pos expired]
          exact .kept (QuietStep.refl entry).step
        · replace expired : outlivesExpiry runtime.nowMs entry = false := by simpa using expired
          rw [Option.filter_some_neg expired]
          exact .pruned expired
  rcases registers.outcome with same | ⟨fresh, identity, absent, _, _, same⟩
  · rw [same]
    exact pruned
  · rw [same, BTreeMap.insert_lookup]
    split
    · rename_i here
      rw [here] at absent
      rw [absent] at pruned
      generalize runtime.ceremonies[token]? = before at pruned
      cases pruned with
      | absent => exact .registered identity
      | pruned expired => exact .replaced expired identity
    · exact pruned

end Register

/-! ## Any request -/

/-- Closes a changed registration without undoing it. -/
def PasskeyRequest.closesUnrolled : PasskeyRequest → PasskeyRuntime → Bool
  | .advance token expectedPhase nextPhase relatedOriginVerified, runtime =>
      (nextPhase = .closedAborted || nextPhase = .closedFailed) && !relatedOriginVerified
        && runtime.ceremonies[token]?.any fun entry => entry.phase = expectedPhase && entry.durableState.isChanged
  | _, _ => false

section Requests

variable (services : PasskeyServices)

/-- All that a request may do to the ledger. -/
inductive LedgerStep (request : PasskeyRequest) (before after : PasskeyRuntime) : Prop
  | quiet (moves : LedgerMoves KeepStep before after)
  | stores {token : String} {expectedPhase : PasskeyCeremonyPhase} {create : CreatePasskeyRegistrationRequest}
      {drawn : DrawnCredential} {prepared : PreparedRegistration} {mid : PasskeyRuntime}
      {durableState : PasskeyCeremonyDurableState}
      (asks : request = .createRegistration token expectedPhase create drawn)
      (passes : prepareRegistration services token expectedPhase create drawn before = (.ok prepared, mid))
      (early : LedgerMoves KeepStep before mid)
      (recorded : Recorded token (registrationRecord create drawn prepared.registration prepared.existing)
        durableState mid after)
      (moves : LedgerMoves QuietStep before after)
  | registers (registers : Registers services.toWebLibrary before after)
  | follows {token : String} {target : PasskeyCeremonyPhase} {entry entry' : PasskeyCeremonyLedgerEntry}
      (held : before.ceremonies[token]? = some entry) (follows : Follows services.toWebLibrary target entry entry')
      (unrolled : target = .closedAborted ∨ target = .closedFailed → entry.durableState.isChanged →
        request.closesUnrolled before)
      (asked : (∃ relatedOriginVerified, request = .advance token entry.phase target relatedOriginVerified ∧
        isLegalPasskeyCeremonyTransition services.toWebLibrary entry.phase target entry.identity relatedOriginVerified) ∨
          target = .closedDelivered)
      (same : after.ceremonies = before.ceremonies.insert token entry')
  | settles (settles : LedgerSettles services (request.abortCalls services before) before after)

theorem advance_step (token : String) (expectedPhase nextPhase : PasskeyCeremonyPhase) (relatedOriginVerified : Bool)
    (runtime : PasskeyRuntime) :
    LedgerStep services (.advance token expectedPhase nextPhase relatedOriginVerified) runtime
      (advancePasskeyCeremonyPhase services.toWebLibrary token expectedPhase nextPhase relatedOriginVerified runtime).2 := by
  have same : LedgerStep services (.advance token expectedPhase nextPhase relatedOriginVerified) runtime runtime :=
    .quiet (.refl Std.Refl.refl runtime)
  refine ReadOnly.peel .get same fun _ read => ?_
  cases read
  cases held : runtime.ceremonies[token]? with
  | none =>
      rw [onCeremony_missing held]
      exact same
  | some entry =>
      rw [onCeremony_held held]
      rcases advancePhase_cases services.toWebLibrary runtime.nowMs expectedPhase nextPhase
        relatedOriginVerified entry with same | ⟨phase, legal, follows⟩
      · refine .quiet (BTreeMap.Pointwise.insert Std.Refl.refl held ?_)
        rw [same]
        exact Std.Refl.refl entry
      · refine .follows held follows (fun given changed => ?_) (.inl ⟨_, by rw [phase], by rw [phase]; exact legal⟩) rfl
        have evidence := legal_giveUp_evidence given legal
        simp [PasskeyRequest.closesUnrolled, held, phase, changed, given, evidence]

theorem mark_step (token : String) (expectedPhase : PasskeyCeremonyPhase) (runtime : PasskeyRuntime) :
    LedgerStep services (.markUnknownDelivery token expectedPhase) runtime
      (markPasskeyCeremonyUnknownDelivery token expectedPhase runtime).2 := by
  have same : LedgerStep services (.markUnknownDelivery token expectedPhase) runtime runtime :=
    .quiet (.refl Std.Refl.refl runtime)
  refine ReadOnly.peel (.ensure _ _) same fun _ expected => ?_
  obtain rfl : expectedPhase = .completionAndMutation := by simpa using (ensure_ok.mp expected).1
  cases held : runtime.ceremonies[token]? with
  | none =>
      rw [onCeremony_missing held]
      exact same
  | some entry =>
      rw [onCeremony_held held]
      rcases markUnknownDelivery_cases services.toWebLibrary entry with kept | follows
      · refine .quiet (BTreeMap.Pointwise.insert Std.Refl.refl held ?_)
        rw [kept]
        exact Std.Refl.refl entry
      · exact .follows held follows (by rintro (given | given) <;> cases given) (.inr rfl) rfl

theorem prepareRegistration_keeps (token : String) (expectedPhase : PasskeyCeremonyPhase)
    (create : CreatePasskeyRegistrationRequest) (drawn : DrawnCredential) :
    Moves (LedgerMoves KeepStep) (prepareRegistration services token expectedPhase create drawn) :=
  Idle.ledgers (prepareRegistration_idle services) fun idle => idle.keep

theorem createRegistration_step (token : String) (expectedPhase : PasskeyCeremonyPhase)
    (create : CreatePasskeyRegistrationRequest) (drawn : DrawnCredential) (runtime : PasskeyRuntime) :
    LedgerStep services (.createRegistration token expectedPhase create drawn) runtime
      (createPasskeyRegistration services token expectedPhase create drawn runtime).2 := by
  have early := prepareRegistration_keeps services token expectedPhase create drawn runtime
  have moves := createPasskeyRegistration_quiet services token expectedPhase create drawn runtime
  cases passes : prepareRegistration services token expectedPhase create drawn runtime with
  | mk value mid =>
      rw [passes] at early
      cases value with
      | error e =>
          rw [createPasskeyRegistration, bind_run, passes]
          exact .quiet early
      | ok prepared =>
          have run := createPasskeyRegistration_run services passes
          generalize createPasskeyRegistration services token expectedPhase create drawn runtime = outcome at run moves ⊢
          cases run with
          | refused => exact .quiet early
          | failed _ recorded => exact .stores rfl passes early recorded moves
          | stored recorded => exact .stores rfl passes early recorded moves

theorem PasskeyRequest.after_step (request : PasskeyRequest) (runtime : PasskeyRuntime) :
    LedgerStep services request runtime (request.after services runtime) := by
  have quiet {A : Type} {m : PasskeyCommand A} (moves : Moves (LedgerMoves KeepStep) m) :
      LedgerStep services request runtime (m runtime).2 := .quiet (moves runtime)
  unfold PasskeyRequest.after
  cases request with (try rw [PasskeyRequest.handle, bind_pure_state])
  | register token identity =>
      exact .registers (register_registers token identity runtime)
  | advance token expectedPhase nextPhase relatedOriginVerified =>
      exact advance_step services token expectedPhase nextPhase relatedOriginVerified runtime
  | markUnknownDelivery token expectedPhase =>
      exact mark_step services token expectedPhase runtime
  | abort token expectedPhase closedPhase =>
      exact .settles (abort_settles services token expectedPhase closedPhase runtime)
  | reconcile activeConnectionId =>
      exact .settles (reconcile_settles services activeConnectionId runtime)
  | elsewhere session nowMs => exact .quiet (.of_same Std.Refl.refl rfl)
  | query token => exact .quiet (.refl Std.Refl.refl runtime)
  | bind token expectedPhase vaultId =>
      exact quiet (Idle.ledgers (bindPasskeyCeremonyVault_idle token expectedPhase vaultId) fun idle => idle.keep)
  | verifyUser token expectedPhase vaultId method password cancelledBefore cancelledAfter verifiedAt =>
      exact quiet (Idle.ledgers (verifyPasskeyUser_bound services token expectedPhase vaultId method password
        cancelledBefore cancelledAfter verifiedAt) fun bound => bound.keep)
  | createAssertion token expectedPhase request =>
      exact quiet (Idle.ledgers (createPasskeyAssertion_idle services token expectedPhase request) fun idle => idle.keep)
  | createRegistration token expectedPhase request drawn =>
      exact createRegistration_step services token expectedPhase request drawn runtime
  | save token expectedPhase vaultId =>
      exact quiet (savePasskeyRegistration_keeps services token expectedPhase vaultId)
  | commit token expectedPhase vaultId entryId credentialId =>
      exact quiet (commitPasskeyRegistration_keeps token expectedPhase vaultId entryId credentialId)
  | credentialStatus token expectedPhase vaultId credentialIds relyingParty =>
      exact quiet (Idle.ledgers (passkeyCredentialStatusBatch_idle services token expectedPhase vaultId credentialIds
        relyingParty) fun idle => idle.keep)
  | listCredentials token expectedPhase vaultId relyingParty =>
      exact quiet (Idle.ledgers (listPasskeyCredentials_idle services token expectedPhase vaultId relyingParty)
        fun idle => idle.keep)

/-! ## What every request preserves -/

variable {services} {request : PasskeyRequest} {runtime after : PasskeyRuntime}

theorem LedgerStep.tokens (step : LedgerStep services request runtime after) (token : String) :
    TokenStep services.toWebLibrary runtime.nowMs runtime.ceremonies[token]? after.ceremonies[token]? := by
  cases step with
  | quiet moves => exact LedgerMoves.tokens (BTreeMap.Pointwise.mono (fun keep => keep.step) moves) token
  | stores _ _ _ _ moves => exact LedgerMoves.tokens (BTreeMap.Pointwise.mono (fun quiet => quiet.step) moves) token
  | registers registers => exact registers.tokens token
  | follows held follows _ _ same =>
      refine LedgerMoves.tokens ?_ token
      rw [LedgerMoves, same]
      exact BTreeMap.Pointwise.insert (fun entry => (QuietStep.refl entry).step) held follows.step
  | settles settles =>
      have here := settles token
      generalize runtime.ceremonies[token]? = a, after.ceremonies[token]? = b at here ⊢
      cases here with
      | none => exact .absent
      | some settled => exact .kept settled.step

theorem newCeremony_sound (identity : PasskeyCeremonyIdentity) : SoundCeremony (newCeremony identity) where
  rollback := by simp [newCeremony]
  complete := by simp [newCeremony]
  create := by simp [newCeremony]
  delivered := by simp [newCeremony]

theorem TokenStep.sound {library : WebLibrary} {now : Nat} {before : Option PasskeyCeremonyLedgerEntry}
    {entry : PasskeyCeremonyLedgerEntry} (step : TokenStep library now before (some entry))
    (sound : ∀ earlier, before = some earlier → SoundCeremony earlier) : SoundCeremony entry := by
  cases step with
  | registered identity | replaced _ identity => exact newCeremony_sound identity
  | kept step => exact step.sound (sound _ rfl)

/-- Ceremonies are closed after their registration was undone. -/
theorem LedgerStep.clean (step : LedgerStep services request runtime after)
    (rolled : request.closesUnrolled runtime = false)
    (clean : ∀ (token : String) (entry : PasskeyCeremonyLedgerEntry), runtime.ceremonies[token]? = some entry →
      CleanlyClosed entry)
    {token : String} {entry : PasskeyCeremonyLedgerEntry} (held : after.ceremonies[token]? = some entry) :
    CleanlyClosed entry := by
  cases step with
  | quiet moves =>
      have here := moves token
      rw [held] at here
      generalize before : runtime.ceremonies[token]? = a at here
      cases here with
      | some quiet => exact quiet.clean (clean token _ before)
  | stores _ _ _ _ moves =>
      have here := moves token
      rw [held] at here
      generalize before : runtime.ceremonies[token]? = a at here
      cases here with
      | some quiet => exact quiet.clean (clean token _ before)
  | registers registers =>
      rcases registers.outcome with same | ⟨fresh, identity, _, _, _, same⟩
      · rw [same, pruned_lookup] at held
        exact clean token entry (Option.filter_eq_some_iff.mp held).1
      · rw [same, BTreeMap.insert_lookup] at held
        split at held
        · cases held
          rintro (closed | closed) <;> cases closed
        · rw [pruned_lookup] at held
          exact clean token entry (Option.filter_eq_some_iff.mp held).1
  | @follows followed target before after' found follows unrolled _ same =>
      rw [same, BTreeMap.insert_lookup] at held
      split at held
      · cases held
        obtain ⟨_, _, deliveryState, rfl⟩ := follows
        intro given
        by_contra changed
        have := unrolled given (by simpa using changed)
        simp [rolled] at this
      · exact clean token entry held
  | settles settles =>
      have here := settles token
      rw [held] at here
      generalize before : runtime.ceremonies[token]? = a at here
      cases here with
      | some settled => exact settled.clean (clean token _ before)

/-- The passkey of the registration is still in its entry. -/
def PasskeyRegistrationRollbackState.isHeld (rollback : PasskeyRegistrationRollbackState) (session : Session) : Bool :=
  (session.vault rollback.vaultId).toOption.any fun vault =>
    rollback.credentialId.all fun credentialId =>
      entryHasPasskeyCredential vault.root rollback.entryId credentialId = some true

/-- Registers again, and puts another record in the place of one that still has something to undo. -/
inductive PasskeyRequest.Overwrites (services : PasskeyServices) (runtime : PasskeyRuntime) : PasskeyRequest → Prop
  | create {token : String} {expectedPhase : PasskeyCeremonyPhase} {create : CreatePasskeyRegistrationRequest}
      {drawn : DrawnCredential} {prepared : PreparedRegistration} {mid : PasskeyRuntime}
      {entry : PasskeyCeremonyLedgerEntry} {rollback : PasskeyRegistrationRollbackState}
      (passes : prepareRegistration services token expectedPhase create drawn runtime = (.ok prepared, mid))
      (held : runtime.ceremonies[token]? = some entry) (changed : entry.durableState.isChanged)
      (record : entry.registrationRollback = some rollback) (undoable : rollback.isHeld runtime.session)
      (another : registrationRecord create drawn prepared.registration prepared.existing ≠ rollback) :
      Overwrites services runtime (.createRegistration token expectedPhase create drawn)

/-- Loses what would undo a registration. -/
def PasskeyRequest.LeavesChange (services : PasskeyServices) (request : PasskeyRequest) (runtime : PasskeyRuntime) :
    Prop :=
  request.closesUnrolled runtime ∨ request.Overwrites services runtime

/-- What a request makes of a changed registration: it waits with its record, it is committed, its record makes
    way when there is nothing left to undo, or an abort undoes it. -/
inductive Accounts (services : PasskeyServices) (request : PasskeyRequest) (runtime : PasskeyRuntime) (token : String)
    (entry : PasskeyCeremonyLedgerEntry) (rollback : PasskeyRegistrationRollbackState) : Prop
  | kept {entry' : PasskeyCeremonyLedgerEntry} (found : (request.after services runtime).ceremonies[token]? = some entry')
      (phase : entry'.phase = entry.phase) (record : entry'.registrationRollback = some rollback)
  | committed {entry' : PasskeyCeremonyLedgerEntry}
      (found : (request.after services runtime).ceremonies[token]? = some entry')
      (phase : entry'.phase = entry.phase) (committed : entry'.durableState = .committed)
  | replaced {entry' : PasskeyCeremonyLedgerEntry}
      (found : (request.after services runtime).ceremonies[token]? = some entry')
      (phase : entry'.phase = entry.phase) (gone : rollback.isHeld runtime.session = false)
  | undone {mid : PasskeyRuntime} {closedPhase : PasskeyCeremonyPhase} {restored : Session}
      (called : (token, mid) ∈ request.abortCalls services runtime) (rolled : RollsBack rollback mid.session restored)
      (session : (abortPasskeyRegistration services token .completionAndMutation closedPhase mid).2.session =
        sessionAfterUndo services entry rollback.vaultId restored)

/-- No request closes a changed registration, prunes it or loses its record before it is undone. -/
def PasskeyRequest.UndoesChanges (services : PasskeyServices) (request : PasskeyRequest) (runtime : PasskeyRuntime) :
    Prop :=
  ∀ (token : String) (entry : PasskeyCeremonyLedgerEntry) (rollback : PasskeyRegistrationRollbackState),
    runtime.ceremonies[token]? = some entry → entry.durableState.isChanged →
    entry.registrationRollback = some rollback → Accounts services request runtime token entry rollback

/-- A registration that is answered has the record of what it changed: an entry to delete, or the entry as it was. -/
def PasskeyRequest.RecordsRegistration (services : PasskeyServices) (request : PasskeyRequest)
    (runtime : PasskeyRuntime) : Prop :=
  ∀ (token : String) (expectedPhase : PasskeyCeremonyPhase) (create : CreatePasskeyRegistrationRequest)
    (drawn : DrawnCredential) (registration : PasskeyRegistrationDto),
    request = .createRegistration token expectedPhase create drawn →
    (createPasskeyRegistration services token expectedPhase create drawn runtime).1 = .ok registration →
    ∃ entry vault, (request.after services runtime).ceremonies[token]? = some entry ∧ entry.durableState = .mutated ∧
      runtime.session.vault create.vaultId = .ok vault ∧
      entry.registrationRollback = some
        { vaultId := create.vaultId
          entryId := registration.entryId
          credentialId := some registration.credentialId
          created := registration.created
          rollbackEntry := if registration.created then none else clonedEntryById vault.root registration.entryId }

theorem isChanged_iff {state : PasskeyCeremonyDurableState} : state.isChanged ↔ state = .mutated ∨ state = .saved := by
  simp [PasskeyCeremonyDurableState.isChanged]

theorem SoundCeremony.of_changed {entry : PasskeyCeremonyLedgerEntry} (sound : SoundCeremony entry)
    (changed : entry.durableState.isChanged) :
    entry.identity.ceremony = .create ∧ (entry.phase = .completionAndMutation ∨ entry.phase.isClosed) ∧
      ∃ rollback, entry.registrationRollback = some rollback := by
  have cases := isChanged_iff.mp changed
  have some' : entry.durableState ≠ .none := by grind
  refine ⟨(sound.create some').1, (sound.create some').2, Option.isSome_iff_exists.mp (sound.rollback.mpr ?_)⟩
  exact .inr cases

/-- A changed registration that is not closed yet waits in the last phase. -/
theorem SoundCeremony.waits {entry : PasskeyCeremonyLedgerEntry} (sound : SoundCeremony entry)
    (clean : CleanlyClosed entry) (changed : entry.durableState.isChanged) : entry.phase = .completionAndMutation := by
  obtain ⟨create, phase, _⟩ := sound.of_changed changed
  rcases phase with last | closed
  · exact last
  · cases phase : entry.phase with
    | closedAborted => simp [clean (.inl phase)] at changed
    | closedFailed => simp [clean (.inr phase)] at changed
    | closedDelivered =>
        rw [sound.delivered phase create] at changed
        cases changed
    | _ => simp [phase, PasskeyCeremonyPhase.isClosed] at closed

theorem LedgerStep.undoes (step : LedgerStep services request runtime (request.after services runtime))
    (loses : ¬ request.LeavesChange services runtime)
    (sound : ∀ (token : String) (entry : PasskeyCeremonyLedgerEntry), runtime.ceremonies[token]? = some entry →
      SoundCeremony entry ∧ CleanlyClosed entry) : request.UndoesChanges services runtime := by
  intro token entry rollback held changed record
  obtain ⟨here, clean⟩ := sound token entry held
  have last := here.waits clean changed
  have create := (here.of_changed changed).1
  have of_keep {after : Option PasskeyCeremonyLedgerEntry} (step : Option.Rel KeepStep (some entry) after)
      (same : (request.after services runtime).ceremonies[token]? = after) :
      Accounts services request runtime token entry rollback := by
    cases step with
    | some keep =>
        rcases keep.record with ⟨kept, _, _⟩ | committed
        · exact .kept same keep.phase (kept.trans record)
        · exact .committed same keep.phase committed
  cases step with
  | quiet moves => exact of_keep (held ▸ moves token) rfl
  | @stores created _ create drawn prepared mid _ asks passes early recorded moves =>
      by_cases here : token = created
      · subst here
        have move := early token
        obtain ⟨waiting, held', _, stored⟩ := recorded.here
        rw [held, held'] at move
        cases move with
        | some keep =>
            cases undoable : rollback.isHeld runtime.session with
            | false => exact .replaced stored keep.phase undoable
            | true =>
                by_cases another : registrationRecord create drawn prepared.registration prepared.existing = rollback
                · exact .kept stored keep.phase (congrArg some another)
                · exact absurd (.inr (asks ▸ .create passes held changed record undoable another)) loses
      · exact of_keep (held ▸ early token) (recorded.others token here)
  | registers registers =>
      have kept : (pruneExpiredPasskeyCeremonies runtime.ceremonies runtime.nowMs)[token]? = some entry := by
        rw [pruned_lookup, held, Option.filter_some_pos]
        have := isChanged_iff.mp changed
        grind [outlivesExpiry]
      rcases registers.outcome with same | ⟨fresh, identity, absent, _, _, same⟩
      · exact .kept (by rw [same, kept]) rfl record
      · have other : fresh ≠ token := by
          rintro rfl
          simp [kept] at absent
        exact .kept (by rw [same, BTreeMap.insert_lookup, if_neg other, kept]) rfl record
  | @follows followed target before after' found follows unrolled _ same =>
      by_cases other : followed = token
      · subst other
        obtain rfl : before = entry := Option.some.inj (found.symm.trans held)
        obtain ⟨⟨_, legal⟩, delivered, _⟩ := follows
        rw [last] at legal
        have := legal_closes legal
        cases target with
        | closedAborted => exact absurd (.inl (unrolled (.inl rfl) changed)) loses
        | closedFailed => exact absurd (.inl (unrolled (.inr rfl) changed)) loses
        | closedDelivered =>
            rw [delivered rfl create] at changed
            cases changed
        | _ => cases this
      · exact .kept (by rw [same, BTreeMap.insert_lookup, if_neg other, held]) rfl record
  | settles settles =>
      have settled := settles token
      rw [held] at settled
      generalize found : (request.after services runtime).ceremonies[token]? = after at settled
      cases settled with
      | some settled =>
          cases settled with
          | kept => exact .kept found rfl record
          | delivered _ committed =>
              rw [committed] at changed
              cases changed
          | givenUp _ _ undone =>
              obtain ⟨mid, closedPhase, called, restored, session⟩ := undone rollback record
              exact .undone called (restore_rollsBack (here.complete rollback record) restored) session

/-- Giving up a changed registration in this way undoes nothing. -/
theorem closesUnrolled_keeps_changes
    (sound : ∀ (token : String) (entry : PasskeyCeremonyLedgerEntry), runtime.ceremonies[token]? = some entry →
      SoundCeremony entry ∧ CleanlyClosed entry)
    (unrolled : request.closesUnrolled runtime) : ¬ request.UndoesChanges services runtime := by
  cases request with
  | advance token expectedPhase nextPhase relatedOriginVerified =>
      cases held : runtime.ceremonies[token]? with
      | none => simp [PasskeyRequest.closesUnrolled, held] at unrolled
      | some entry =>
          simp only [PasskeyRequest.closesUnrolled, held, Option.any_some, Bool.and_eq_true, Bool.or_eq_true,
            decide_eq_true_eq, Bool.not_eq_true'] at unrolled
          obtain ⟨⟨given, rfl⟩, phase, changed⟩ := unrolled
          obtain ⟨_, _, rollback, record⟩ := (sound token entry held).1.of_changed changed
          have last := (sound token entry held).1.waits (sound token entry held).2 changed
          obtain rfl : expectedPhase = .completionAndMutation := phase.symm.trans last
          have after : (PasskeyRequest.after services (.advance token .completionAndMutation nextPhase false)
              runtime).ceremonies[token]? = some { entry with phase := nextPhase } := by
            rw [PasskeyRequest.after, PasskeyRequest.handle, bind_pure_state]
            unfold advancePasskeyCeremonyPhase
            rw [bind_run, get_run]
            dsimp only
            rw [onCeremony_held held, advancePhase_giveUp _ last given]
            simp
          have closed : nextPhase ≠ entry.phase := by
            rw [last]
            rcases given with rfl | rfl <;> decide
          intro undoes
          cases undoes token entry rollback held changed record with
          | kept found phase | committed found phase | replaced found phase =>
              rw [after] at found
              cases found
              exact closed phase
          | undone called => cases called
  | _ => simp [PasskeyRequest.closesUnrolled] at unrolled

/-- Registering again in this way loses the first record. -/
theorem overwrites_keeps_changes
    (sound : ∀ (token : String) (entry : PasskeyCeremonyLedgerEntry), runtime.ceremonies[token]? = some entry →
      SoundCeremony entry ∧ CleanlyClosed entry)
    (overwrites : request.Overwrites services runtime) : ¬ request.UndoesChanges services runtime := by
  intro undoes
  cases overwrites with
  | @create token expectedPhase create drawn prepared mid entry rollback passes held changed record undoable another =>
      obtain ⟨isCreate, _, _⟩ := (sound token entry held).1.of_changed changed
      have last := (sound token entry held).1.waits (sound token entry held).2 changed
      have early := (prepareRegistration_idle services runtime :
        Idle IdleStep runtime (prepareRegistration services token expectedPhase create drawn runtime).2).ledger token
      rw [passes, held] at early
      generalize waits : mid.ceremonies[token]? = waiting at early
      cases early with
      | @some _ waiting idle =>
          have open' : checkRegistrationOpen waiting = .ok () := by
            obtain ⟨_, _, rfl⟩ := idle.kept
            rcases isChanged_iff.mp changed with mutated | saved
            · simp [checkRegistrationOpen, demand, last, isCreate, mutated]
            · simp [checkRegistrationOpen, demand, last, isCreate, saved]
          have stored : ∃ entry', (PasskeyRequest.after services (.createRegistration token expectedPhase create drawn)
              runtime).ceremonies[token]? = some entry' ∧
              entry'.registrationRollback =
                some (registrationRecord create drawn prepared.registration prepared.existing) ∧
              entry'.durableState ≠ .committed := by
            rw [PasskeyRequest.after, PasskeyRequest.handle, bind_pure_state]
            have run := createPasskeyRegistration_run services passes
            generalize createPasskeyRegistration services token expectedPhase create drawn runtime = outcome at run ⊢
            cases run with
            | refused _ closed => exact absurd open' (closed waiting waits)
            | failed _ recorded | stored recorded =>
                obtain ⟨_, _, _, found⟩ := recorded.here
                exact ⟨_, found, rfl, by simp⟩
          obtain ⟨entry', found', record', uncommitted⟩ := stored
          cases undoes token entry rollback held changed record with
          | kept found _ same =>
              rw [found'] at found
              cases found
              exact another (Option.some.inj (record'.symm.trans same))
          | committed found _ committed =>
              rw [found'] at found
              cases found
              exact uncommitted committed
          | replaced _ _ gone => simp [gone] at undoable
          | undone called => cases called

/-! ## Runs -/

variable {allowed : PasskeyRequest → PasskeyRuntime → Prop}

theorem reached_sound (reached : PasskeyReaches services allowed runtime) {token : String}
    {entry : PasskeyCeremonyLedgerEntry} (held : runtime.ceremonies[token]? = some entry) : SoundCeremony entry := by
  induction reached generalizing token entry with
  | start session nowMs => simp at held
  | @step earlier request reached accepted ih =>
      have step := (PasskeyRequest.after_step services request earlier).tokens token
      rw [held] at step
      exact step.sound fun before found => ih found

theorem reached_clean (reached : PasskeyReaches services allowed runtime)
    (undoing : ∀ request runtime, allowed request runtime → ¬ request.LeavesChange services runtime) {token : String}
    {entry : PasskeyCeremonyLedgerEntry} (held : runtime.ceremonies[token]? = some entry) : CleanlyClosed entry := by
  induction reached generalizing token entry with
  | start session nowMs => simp at held
  | @step earlier request reached accepted ih =>
      have rolled : request.closesUnrolled earlier = false := by
        by_contra unrolled
        exact undoing request earlier accepted (.inl (by simpa using unrolled))
      exact (PasskeyRequest.after_step services request earlier).clean rolled (fun token entry found => ih found) held

theorem existingRegistration_cloned {vault : Vault} {relyingParty : String} {userHandle : Option String}
    {entryId : String} {entry : Entry}
    (found : existingRegistration vault relyingParty userHandle = .ok (some (entryId, entry))) :
    clonedEntryById vault.root entryId = some entry := by
  unfold existingRegistration at found
  split at found
  · cases found
  · rename_i id _
    cases cloned : clonedEntryById vault.root id with
    | none => simp [cloned] at found
    | some whole =>
        simp only [cloned, Except.ok.injEq, Option.some.injEq, Prod.mk.injEq] at found
        obtain ⟨rfl, rfl⟩ := found
        exact cloned

theorem PasskeyRequest.records_registration (request : PasskeyRequest) (runtime : PasskeyRuntime) :
    request.RecordsRegistration services runtime := by
  rintro token expectedPhase create drawn registration rfl answered
  rw [PasskeyRequest.after, PasskeyRequest.handle, bind_pure_state]
  cases passes : prepareRegistration services token expectedPhase create drawn runtime with
  | mk value mid =>
      cases value with
      | error e =>
          rw [createPasskeyRegistration, bind_run, passes] at answered
          cases answered
      | ok prepared =>
          obtain ⟨_, _, _, _, _, _, _, opened, existing⟩ := prepareRegistration_ok services passes
          have run := createPasskeyRegistration_run services passes
          generalize createPasskeyRegistration services token expectedPhase create drawn runtime = outcome
            at run answered ⊢
          cases run with
          | refused | failed => cases answered
          | stored recorded =>
              obtain ⟨waiting, _, _, found⟩ := recorded.here
              refine ⟨_, prepared.vault, found, rfl, opened, ?_⟩
              cases answered
              simp only [registrationRecord, Option.some.injEq]
              cases replaced : prepared.existing with
              | none => rfl
              | some found =>
                  rw [replaced] at existing
                  simp [existingRegistration_cloned existing]

/-- Over any run the ledger is sound, every request takes each ceremony along the table, and every registration is
    recorded. If no request of the run loses what would undo a registration, then a request accounts for every
    changed one exactly if it does not lose it either. -/
theorem passkeyCeremonies_sound (services : PasskeyServices) (allowed : PasskeyRequest → PasskeyRuntime → Prop)
    (runtime : PasskeyRuntime) (reached : PasskeyReaches services allowed runtime) (request : PasskeyRequest) :
    (∀ (token : String) (entry : PasskeyCeremonyLedgerEntry), runtime.ceremonies[token]? = some entry →
        SoundCeremony entry) ∧
      (∀ token : String, TokenStep services.toWebLibrary runtime.nowMs runtime.ceremonies[token]?
        (request.after services runtime).ceremonies[token]?) ∧
      request.RecordsRegistration services runtime ∧
      ((∀ earlier before, allowed earlier before → ¬ earlier.LeavesChange services before) →
        (request.UndoesChanges services runtime ↔ ¬ request.LeavesChange services runtime)) := by
  refine ⟨fun token entry held => reached_sound reached held,
    fun token => (request.after_step services runtime).tokens token, request.records_registration runtime,
    fun undoing => ?_⟩
  have sound (token : String) (entry : PasskeyCeremonyLedgerEntry) (held : runtime.ceremonies[token]? = some entry) :
      SoundCeremony entry ∧ CleanlyClosed entry := ⟨reached_sound reached held, reached_clean reached undoing held⟩
  constructor
  · rintro undoes (unrolled | overwrites)
    · exact closesUnrolled_keeps_changes sound unrolled undoes
    · exact overwrites_keeps_changes sound overwrites undoes
  · exact fun keeps => (request.after_step services runtime).undoes keeps sound

end Requests

/-! ## A registration at example.com -/

def exampleClientData : String :=
  "\x7b\"type\":\"webauthn.create\",\"challenge\":\"AA\",\"origin\":\"https://example.com\",\"crossOrigin\":false\x7d"

def exampleClientDataText : String :=
  "eyJ0eXBlIjoid2ViYXV0aG4uY3JlYXRlIiwiY2hhbGxlbmdlIjoiQUEiLCJvcmlnaW4iOiJodHRwczovL2V4YW1wbGUuY29tIiwiY3Jvc3NP" ++
  "cmlnaW4iOmZhbHNlfQ"

/-- What the libraries make of the texts of the example. -/
def exampleLibrary : SigningLibrary where
  parseUrl text :=
    if text = "https://example.com" then
      some {
        scheme := "https"
        username := ""
        hasPassword := false
        host := some "example.com"
        port := none
        path := "/"
        hasQuery := false
        hasFragment := false }
    else none
  isIpAddress _ := false
  domainStr name := if name = "example.com" then some "example.com" else none
  decodeBase64Url text :=
    if text = "AA" then some [0]
    else if text = "dXNlcg" then some [117, 115, 101, 114]
    else if text = "Y3JlZA" then some [99, 114, 101, 100]
    else if text = "Y3JlZDI" then some [99, 114, 101, 100, 50]
    else if text = exampleClientDataText then some exampleClientData.toUTF8.toList
    else none
  parseClientData bytes :=
    if bytes = exampleClientData.toUTF8.toList then
      some {
        type := some "webauthn.create"
        origin := some "https://example.com"
        challenge := some "AA"
        crossOrigin := some false
        topOrigin := none
        hasTopOrigin := false }
    else none
  sha256 _ := [163, 121, 166, 246, 238, 175, 185, 165, 94, 55, 140, 17, 128, 52, 226, 117, 30, 104, 47, 171, 159, 45, 48,
    171, 19, 210, 18, 85, 134, 206, 25, 71]
  sign _ _ := none

/-- Every save goes to the file of the vault, and every user is who they say. -/
def exampleServices : PasskeyServices where
  toSigningLibrary := exampleLibrary
  saveVault _ := pure { status := .saved, conflictCopyPath := none }
  authorizeUser _ _ _ _ := .ok ()

def exampleIdentity : PasskeyCeremonyIdentity :=
  { connectionId := "browser"
    origin := "https://example.com"
    topOrigin := none
    ancestorOrigins := []
    relyingParty := "example.com"
    ceremony := .create
    discoverable := true
    userVerification := .preferred
    challenge := "AA"
    requestId := 1
    tabId := 1
    frameId := 0
    frameKind := .top
    registeredAtEpochMs := 0
    expiresAtEpochMs := 60000 }

def exampleRequest : CreatePasskeyRegistrationRequest :=
  { vaultId := "vault"
    relyingParty := "example.com"
    origin := "https://example.com"
    userName := "user"
    userDisplayName := none
    userHandle := "dXNlcg"
    publicKeyAlgorithm := -7
    relatedOriginVerified := false
    clientData := exampleClientDataText }

def exampleCredential : DrawnCredential :=
  { credentialId := "Y3JlZA"
    key := { privateKeyPem := "key", publicKeyCose := [1] }
    entryId := 2 }

def exampleVault : Vault := { name := "vault", root := { id := 1, title := "Root" } }

def exampleStart : PasskeyRuntime :=
  ⟨{ loaded := (∅ : BTreeMap String (Option Vault)).insert "vault" (some exampleVault)
     activeVaultId := some "vault"
     now := 0 }, 0, ∅⟩

/-- A ceremony that has come to its last phase. -/
def completionRequests : List PasskeyRequest :=
  [.register "token" exampleIdentity,
    .advance "token" .preAuthorization .userAuthorization false,
    .advance "token" .userAuthorization .credentialResolution false,
    .advance "token" .credentialResolution .completionAndMutation false]

def registeredRuntime : PasskeyRuntime :=
  runRequests exampleServices
    (completionRequests ++ [.createRegistration "token" .completionAndMutation exampleRequest exampleCredential])
    exampleStart

def giveUpRequest : PasskeyRequest := .advance "token" .completionAndMutation .closedAborted false

def secondCredential : DrawnCredential :=
  { credentialId := "Y3JlZDI"
    key := { privateKeyPem := "other key", publicKeyCose := [2] }
    entryId := 3 }

/-- A second registration of the ceremony, and an abort. -/
def repeatedRuntime : PasskeyRuntime :=
  runRequests exampleServices
    [.createRegistration "token" .completionAndMutation exampleRequest secondCredential,
      .abort "token" .completionAndMutation .closedAborted]
    registeredRuntime

/-- The ceremony is closed as aborted, and the entry of its passkey stays in the vault. So does the first passkey
    of a ceremony that registers twice: the record of the second is all that the abort knows. -/
theorem giveUp_leaves_passkey :
    PasskeyReaches exampleServices (fun _ _ => True) registeredRuntime ∧
      ¬ giveUpRequest.UndoesChanges exampleServices registeredRuntime ∧
      (((giveUpRequest.after exampleServices registeredRuntime).session.vault "vault").toOption.any fun vault =>
        (visitPasskeys vault).any fun passkey => passkey.credentialId = "Y3JlZA") ∧
      (repeatedRuntime.ceremonies["token"]?.any fun entry => entry.phase = .closedAborted) ∧
      ((repeatedRuntime.session.vault "vault").toOption.any fun vault =>
        (visitPasskeys vault).any fun passkey => passkey.credentialId = "Y3JlZA") := by
  refine ⟨PasskeyReaches.run _ (.start _ _) fun _ _ _ => trivial, fun undoes => ?_, by decide +kernel, by decide +kernel,
    by decide +kernel⟩
  have before : (registeredRuntime.ceremonies["token"]?.any fun entry =>
      entry.durableState = .mutated && entry.phase = .completionAndMutation && entry.registrationRollback.isSome)
      = true := by decide +kernel
  have after : ((giveUpRequest.after exampleServices registeredRuntime).ceremonies["token"]?.all fun entry =>
      entry.phase = .closedAborted) = true := by decide +kernel
  cases held : registeredRuntime.ceremonies["token"]? with
  | none => simp [held] at before
  | some entry =>
      simp only [held, Option.any_some, Bool.and_eq_true, decide_eq_true_eq] at before
      obtain ⟨⟨mutated, phase⟩, recorded⟩ := before
      obtain ⟨rollback, record⟩ := Option.isSome_iff_exists.mp recorded
      cases undoes "token" entry rollback held (isChanged_iff.mpr (.inl mutated)) record with
      | kept found same | committed found same | replaced found same =>
          rw [found] at after
          simp [same, phase] at after
      | undone called => cases called

/-- The registration is recorded, and an abort takes it back. -/
theorem passkeyCeremonies_sound_sample :
    (∀ (token : String) (entry : PasskeyCeremonyLedgerEntry), registeredRuntime.ceremonies[token]? = some entry →
        SoundCeremony entry) ∧
      (∀ token : String, TokenStep exampleLibrary.toWebLibrary registeredRuntime.nowMs registeredRuntime.ceremonies[token]?
        ((PasskeyRequest.abort "token" .completionAndMutation .closedAborted).after exampleServices
          registeredRuntime).ceremonies[token]?) ∧
      (PasskeyRequest.createRegistration "token" .completionAndMutation exampleRequest exampleCredential).RecordsRegistration
        exampleServices (runRequests exampleServices completionRequests exampleStart) ∧
      (PasskeyRequest.abort "token" .completionAndMutation .closedAborted).UndoesChanges exampleServices
        registeredRuntime := by
  let keeps (request : PasskeyRequest) (runtime : PasskeyRuntime) : Prop :=
    ¬ request.LeavesChange exampleServices runtime
  have completion : PasskeyReaches exampleServices keeps (runRequests exampleServices completionRequests exampleStart) := by
    refine PasskeyReaches.run _ (.start _ _) fun request member runtime => ?_
    simp only [completionRequests, List.mem_cons, List.not_mem_nil, or_false] at member
    rcases member with rfl | rfl | rfl | rfl <;> rintro (lost | lost) <;> cases lost
  have unchanged : ((runRequests exampleServices completionRequests exampleStart).ceremonies["token"]?.all fun entry =>
      !entry.durableState.isChanged) = true := by decide +kernel
  have reached : PasskeyReaches exampleServices keeps registeredRuntime := by
    refine completion.step (.createRegistration "token" .completionAndMutation exampleRequest exampleCredential) ?_
    rintro (unrolled | overwrites)
    · cases unrolled
    · cases overwrites with
      | create _ held changed => simp [held, changed] at unchanged
  obtain ⟨_, _, records, _⟩ := passkeyCeremonies_sound exampleServices keeps _ completion
    (.createRegistration "token" .completionAndMutation exampleRequest exampleCredential)
  obtain ⟨sound, steps, _, undoes⟩ := passkeyCeremonies_sound exampleServices keeps registeredRuntime reached
    (.abort "token" .completionAndMutation .closedAborted)
  refine ⟨sound, steps, records, (undoes fun _ _ allowed => allowed).mpr ?_⟩
  rintro (lost | lost) <;> cases lost

end VaultKern
