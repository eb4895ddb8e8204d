import VaultKern.Lib.WriteLog
import VaultKern.Extension.PendingSubmissionStore
import VaultKern.Guarantees.PendingRecords

/-! # The log of pending submissions reads back what it wrote

Whatever lies in the storage, an operation writes only receipts, pointers and records that are read again as
they were written.
-/

namespace VaultKern.Pending

open Filling (JsText)
open JsValue Utf16 Attempt

variable {services : Services}

/-! ## What is written -/

/-- The key of the tab, or of a recovery, where the tab is taken from the record. -/
def LiesUnder (library : Library) (key : JsText) (tabId : Rat) : Prop :=
  key = pendingAutofillTransactionStorageKey library tabId ∨
    (∃ transactionId, key = pendingAutofillRecoveryStorageKey transactionId) ∨ tabIdFromStorageKey key = some tabId

/-- The record is read at any time from its submission to its deadline, and as the transaction that it holds. -/
structure ReadsBack (library : Library) (key : JsText) (record : JsRecord) (transaction : PendingAutofillTransaction) :
    Prop where
  written : transaction.WrittenAs record
  read : ∀ now, transaction.InTime now → pendingAutofillTransactionFromUnknown library (.object record)
    transaction.base.tabId now pendingAutofillTransactionTtlMs = some transaction
  lies : LiesUnder library key transaction.base.tabId

/-- A record that an operation may write; a sweep also writes about records that it cannot read. -/
inductive Persisted (library : Library) (sweeps : Bool) (key : JsText) (record : JsRecord) : Prop
  /-- A receipt, a pointer or what is left of a record that was not valid. -/
  | note (stateless : record.lookup "state" = none)
  | readsBack (transaction : PendingAutofillTransaction) (back : ReadsBack library key record transaction)
  /-- A claim after as many attempts as can be counted. -/
  | counted (full : record.lookup "attemptCount" = some (integer (maxSafeInteger + 1)))
  | swept (isSweep : sweeps = true) (origin : JsText) (stored : record.lookup "origin" = some (.string origin))
      (raw : canonicalHttpOrigin library origin ≠ some origin)

/-- The addresses that are read of a mutation. -/
def mutationUrls (mutation : JsRecord) : List JsText :=
  (if asText (mutation.lookup "mode") = some (ofString "update") then ["desiredFields", "expectedFields"]
    else ["desiredFields"]).filterMap fun name => (asObject (mutation.lookup name)).bind fun fields => asText (fields.lookup "url")

/-- A record of the first version has a plan for its own origin. -/
def LegacyBound (library : Library) (value : JsValue) : Prop :=
  ∀ record, value = .object record → asNumber (record.lookup "version") = some 1 →
    ∀ mutation, asObject (record.lookup "mutation") = some mutation → ∀ url ∈ mutationUrls mutation,
      canonicalHttpOrigin library url = asText (record.lookup "origin")

def World.Sound (library : Library) (world : World) : Prop := ∀ item ∈ world.storage, LegacyBound library item.2

/-- What may be written under a key. -/
def Writes (library : Library) (sweeps : Bool) (item : JsText × JsValue) : Prop :=
  ∃ record, item.2 = .object record ∧
    record.lookup "version" = some (.number pendingAutofillTransactionVersion) ∧ Persisted library sweeps item.1 record

theorem Writes.legacyBound {library : Library} {sweeps : Bool} {item : JsText × JsValue}
    (writes : Writes library sweeps item) : LegacyBound library item.2 := by
  obtain ⟨record, isRecord, version, -⟩ := writes
  intro other isOther first
  cases isRecord.symm.trans isOther
  rw [version] at first
  exact absurd (Option.some.inj first) (by decide)

/-- The storage stays sound, only such items are written, and a result is of a kind. -/
abbrev WritesOnly (library : Library) (sweeps : Bool) {A : Type} (returns : A → Prop) (m : Storing A) : Prop :=
  Logs World.writes (World.Sound library) (Writes library sweeps) returns m

section Calls

variable {A B : Type} {library : Library} {sweeps : Bool} {returns : A → Prop}

theorem absent_writes : WritesOnly library sweeps returns (absent : Storing A) := .fail ()

theorem present_writes {value : Option A} (good : ∀ a, value = some a → returns a) :
    WritesOnly library sweeps returns (present value) := .require good

theorem demand_writes (condition : Prop) [Decidable condition] :
    WritesOnly library sweeps (fun _ => condition) (demand condition) :=
  (Logs.ensure (decide condition) ()).mono fun _ holds => of_decide_eq_true holds

theorem orNull_writes {m : Storing A} (writes : WritesOnly library sweeps returns m) :
    WritesOnly library sweeps (fun result => ∀ a ∈ result, returns a) (orNull m) := by
  have same : ∀ world, (orNull m world).2 = (m world).2 := by
    intro world
    unfold orNull
    split <;> rename_i run <;> rw [run]
  refine ⟨fun world sound => ?_, fun world sound => ?_, fun world sound result done a found => ?_⟩
  · rw [same]
    exact writes.kept world sound
  · rw [same]
    exact writes.logged world sound
  · apply writes.result world sound a
    unfold orNull at done
    split at done <;> rename_i run <;> cases done
    · cases found
      rw [run]
    · cases found

theorem nextCall_writes : WritesOnly library sweeps (fun _ => True) nextCall :=
  .quiet (fun _ sound => sound) (fun _ => rfl) fun _ _ _ _ => trivial

theorem readNow_writes : WritesOnly library sweeps (fun now => -8640000000000000 ≤ now ∧ now ≤ 8640000000000000)
    (readNow services) :=
  nextCall_writes.andThen fun call => .pure (services.now call).property

theorem createId_writes : WritesOnly library sweeps (fun _ => True) (createId services) :=
  nextCall_writes.andThen fun _ => .pure trivial

theorem trustedStorage_writes : WritesOnly library sweeps (fun _ => True) (trustedStorage services) :=
  nextCall_writes.andThen fun _ => .pure trivial

theorem sessionGet_writes (key : JsText) :
    WritesOnly library sweeps (fun value => ∀ v ∈ value, LegacyBound library v) (sessionGet services key) := by
  have look : WritesOnly library sweeps (fun value => ∀ v ∈ value, LegacyBound library v)
      (do return (← get).storage.lookup key) := by
    refine .quiet (fun _ sound => sound) (fun _ => rfl) fun world sound value done v found => ?_
    cases done
    obtain ⟨before, after, split, -⟩ := List.lookup_eq_some_iff.mp found
    exact sound (key, v) (split ▸ List.mem_append_right _ List.mem_cons_self)
  exact nextCall_writes.andThen fun call => (demand_writes _).bind fun _ _ => look

theorem sessionGetAll_writes : WritesOnly library sweeps (fun _ => True) (sessionGetAll services) :=
  nextCall_writes.andThen fun _ => (demand_writes _).bind fun _ _ =>
    .quiet (fun _ sound => sound) (fun _ => rfl) fun _ _ _ _ => trivial

theorem mem_putItem {storage : StorageItems} {key : JsText} {value : JsValue} {item : JsText × JsValue}
    (member : item ∈ putItem storage key value) : item ∈ storage ∨ item = (key, value) := by
  unfold putItem at member
  split at member
  · obtain ⟨old, among, rfl⟩ := List.mem_map.mp member
    split
    · exact .inr rfl
    · exact .inl among
  · exact (List.mem_append.mp member).imp_right List.mem_singleton.mp

theorem mem_putItems {storage items : StorageItems} {item : JsText × JsValue}
    (member : item ∈ items.foldl (fun storage item => putItem storage item.1 item.2) storage) :
    item ∈ storage ∨ item ∈ items := by
  induction items generalizing storage with
  | nil => exact .inl member
  | cons first rest ih =>
      rcases ih member with earlier | later
      · rcases mem_putItem earlier with old | rfl
        · exact .inl old
        · exact .inr List.mem_cons_self
      · exact .inr (List.mem_cons_of_mem _ later)

theorem sessionSet_writes {items : StorageItems} (each : ∀ item ∈ items, Writes library sweeps item) :
    WritesOnly library sweeps (fun _ => True) (sessionSet services items) := by
  refine nextCall_writes.andThen fun call => .ite (fun _ => ?_) fun _ => .pure trivial
  refine ⟨fun world sound item member => ?_, fun world _ => ⟨items, rfl, each⟩, fun _ _ _ _ => trivial⟩
  exact (mem_putItems member).elim (sound item) fun new => (each item new).legacyBound

theorem sessionRemove_writes (keys : List JsText) :
    WritesOnly library sweeps (fun _ => True) (sessionRemove services keys) := by
  refine nextCall_writes.andThen fun call => .ite (fun _ => ?_) fun _ => .pure trivial
  exact .quiet (fun _ sound item member => sound item (List.mem_filter.mp member).1) (fun _ => rfl) fun _ _ _ _ => trivial

theorem hashVaultId_writes (vaultId : JsText) :
    WritesOnly library sweeps (fun _ => True) (hashVaultId services vaultId) := by
  refine nextCall_writes.andThen fun call => ?_
  split <;> exact .pure trivial

end Calls

/-! ## Records in another order -/

section Orders

variable {library : Library} {sweeps : Bool} {key : JsText} {record : JsRecord} {transaction : PendingAutofillTransaction}

theorem toRecord_version (transaction : PendingAutofillTransaction) :
    transaction.toRecord.lookup "version" = some (.number pendingAutofillTransactionVersion) := by
  cases transaction <;> rfl

/-- What is written of a valid transaction is read back. -/
theorem PendingAutofillTransaction.WrittenAs.writes (written : transaction.WrittenAs record)
    (valid : transaction.Valid library pendingAutofillTransactionTtlMs) (lies : LiesUnder library key transaction.base.tabId) :
    Writes library sweeps (key, .object record) := by
  refine ⟨record, rfl, ?_, .readsBack transaction ⟨written, fun now inTime => ?_, lies⟩⟩
  · rw [written "version" (.inl (by decide)), toRecord_version]
  · exact pendingAutofillTransactionFromUnknown_written valid inTime written

theorem writtenAs_of_perm (same : transaction.toRecord.Perm record) : transaction.WrittenAs record :=
  fun name _ => (JsRecord.lookup_perm same (toRecord_distinct transaction) name).symm

/-- The state comes before the tab. -/
theorem state_earlier (base : PendingAutofillBase) (state : PendingState) (middle rest : JsRecord) :
    (base.toRecord ++ middle ++ stateField state :: rest).Perm
      (("version", .number pendingAutofillTransactionVersion) :: ("transactionId", .string base.transactionId) ::
        stateField state :: ("tabId", .number base.tabId) :: ("origin", .string base.origin) :: (middle ++ rest)) := by
  rw [PendingAutofillBase.toRecord]
  refine .cons _ (.cons _ ?_)
  exact List.perm_middle.trans (.of_eq (by simp))

end Orders

/-! ## Receipts and terminal records -/

section Receipts

variable {sweeps : Bool} {key : JsText}

theorem receipt_writes (record : PendingAutofillCompletionRecord) :
    Writes services.toLibrary sweeps (key, .object record.toRecord) := by
  obtain ⟨transactionId, operationId, vaultIdHash, entryId, outcome, completedAt, expiresAt⟩ := record
  refine ⟨_, rfl, ?_, .note ?_⟩ <;> cases operationId <;> cases vaultIdHash <;> cases entryId <;> rfl

theorem loadCompletionRecordUnqueued_writes (transactionId : JsText) :
    WritesOnly services.toLibrary sweeps (fun _ => True) (loadCompletionRecordUnqueued services transactionId) :=
  trustedStorage_writes.andThen fun _ => (demand_writes _).bind fun _ _ => (sessionGet_writes _).bind fun _ _ =>
    present_writes fun _ _ => trivial

theorem hashGiven_writes (vaultId : Option JsText) :
    WritesOnly services.toLibrary sweeps (fun _ => True) (hashGiven services vaultId) := by
  unfold hashGiven
  split
  · exact (hashVaultId_writes _).andThen fun _ => (present_writes fun _ _ => trivial).andThen fun _ => .pure trivial
  · exact .pure trivial

theorem writeCompletion_writes (transactionId : JsText) (outcome : CompletionOutcome) (options : CompletionOptions) :
    WritesOnly services.toLibrary sweeps (fun _ => True) (writeCompletion services transactionId outcome options) := by
  refine trustedStorage_writes.andThen fun _ => (demand_writes _).bind fun _ _ => readNow_writes.bind fun _ _ =>
    (hashGiven_writes _).andThen fun _ => (sessionSet_writes fun item member => ?_).andThen fun _ =>
      (demand_writes _).bind fun _ _ => .pure trivial
  rw [List.mem_singleton.mp member]
  exact receipt_writes _

/-- What is made of a base. -/
structure EndsAs (base : PendingAutofillBase) (terminal : PendingAutofillTerminal) : Prop where
  base : terminal.toPendingAutofillBase = base
  completed : IsSafe terminal.completedAt
  operation : ∀ id ∈ terminal.operationId, isValidPendingAutofillToken id = true
  entry : ∀ id ∈ terminal.entryId, isCanonicalNonNilUuid id = true

theorem safe_of_time {now : Int} (time : -8640000000000000 ≤ now ∧ now ≤ 8640000000000000) : IsSafe now := by
  obtain ⟨least, most⟩ := time
  unfold IsSafe maxSafeInteger
  omega

theorem terminalTransaction_writes (base : PendingAutofillBase) (state : TerminalState) (operationId entryId : Option JsText) :
    WritesOnly services.toLibrary sweeps (EndsAs base) (terminalTransaction services base state operationId entryId) :=
  readNow_writes.bind fun _ time => .pure {
    base := rfl
    completed := safe_of_time time
    operation := fun _ found => (Option.filter_eq_some_iff.mp found).2
    entry := fun _ found => (Option.filter_eq_some_iff.mp found).2 }

theorem terminal_writtenAs (terminal : PendingAutofillTerminal) :
    (PendingAutofillTransaction.terminal terminal).WrittenAs (terminalRecord terminal) := by
  obtain ⟨base, state, operationId, entryId, completedAt⟩ := terminal
  have same := state_earlier base (.terminal state) [] (given "operationId" (operationId.map .string) ++
    given "entryId" (entryId.map .string) ++ [("completedAt", integer completedAt)])
  rw [List.append_nil, List.nil_append] at same
  cases operationId <;> cases entryId <;> exact writtenAs_of_perm same

/-- The end of a transaction that could be read. -/
theorem EndsAs.writes {base : PendingAutofillBase} {terminal : PendingAutofillTerminal} (ends : EndsAs base terminal)
    (valid : base.Valid services.toLibrary) (lies : LiesUnder services.toLibrary key base.tabId) :
    Writes services.toLibrary sweeps (key, .object (terminalRecord terminal)) := by
  obtain ⟨rfl, completed, operation, entry⟩ := ends
  exact (terminal_writtenAs terminal).writes ⟨valid, completed, operation, entry⟩ lies

theorem scrubWalKey_writes {terminal : PendingAutofillTerminal}
    (allowed : Writes services.toLibrary sweeps (key, .object (terminalRecord terminal))) :
    WritesOnly services.toLibrary sweeps (fun _ => True) (scrubWalKey services key terminal) := by
  refine trustedStorage_writes.andThen fun _ => .ite (fun _ => ?_) fun _ => .pure trivial
  refine (sessionSet_writes fun item member => ?_).andThen fun _ => (sessionRemove_writes _).andThen fun _ => .pure trivial
  rw [List.mem_singleton.mp member]
  exact allowed

theorem persistAtKey_writes {record : JsRecord} (allowed : Writes services.toLibrary sweeps (key, .object record)) :
    WritesOnly services.toLibrary sweeps (fun _ => True) (persistAtKey services key record) := by
  refine (demand_writes _).bind fun _ _ => trustedStorage_writes.andThen fun _ => (demand_writes _).bind fun _ _ =>
    (sessionSet_writes fun item member => ?_).andThen fun _ => (demand_writes _).any
  rw [List.mem_singleton.mp member]
  exact allowed

end Receipts

/-! ## Records of the first version -/

section Legacy

variable {sweeps : Bool} {key : JsText}

/-- A transaction of the tab that is read back. -/
structure Loaded (library : Library) (tabId : Rat) (transaction : PendingAutofillTransaction) : Prop where
  valid : transaction.Valid library pendingAutofillTransactionTtlMs
  tab : transaction.base.tabId = tabId

theorem givenOr_writes {A : Type} {returns : A → Prop} {value : Option A} {otherwise : Storing A}
    (good : ∀ a, value = some a → returns a) (writes : WritesOnly services.toLibrary sweeps returns otherwise) :
    WritesOnly services.toLibrary sweeps returns (givenOr value otherwise) := by
  cases value with
  | none => exact writes
  | some a => exact .pure (good a rfl)

/-- The base of a record of the first version is good for a record of the second. -/
structure LegacyBase.Valid (library : Library) (legacy : LegacyBase) : Prop where
  base : legacy.toPendingAutofillBase.Valid library
  executes : Executes legacy.submittedAt legacy.vaultId legacy.operationId legacy.recoveryDeadlineAt

theorem LegacyBase.Valid.executable {base : LegacyBase} {plan : PendingAutofillPlan}
    (valid : base.Valid services.toLibrary) (settled : plan.Settled services.toLibrary)
    (bound : ∀ url ∈ plan.urls, canonicalHttpOrigin services.toLibrary url = some base.origin) :
    (base.executable plan).Valid services.toLibrary := ⟨valid.base, valid.executes, settled, bound⟩

/-- The plan comes last. -/
theorem plan_later (base : LegacyBase) (plan : PendingAutofillPlan) (state : PendingState) :
    ((base.executable plan).toRecord ++ [stateField state]).Perm
      (base.toRecord ++ [stateField state, ("plan", .object plan.toRecord)]) := by
  rw [PendingAutofillExecutable.toRecord, PendingAutofillBase.toRecord, LegacyBase.toRecord]
  refine .cons _ (.cons _ (.cons _ (.cons _ (.cons _ (.cons _ (.cons _ ?_))))))
  exact (List.Perm.swap _ _ _).trans (.cons _ (.swap _ _ _))

theorem persistMigrated_writes {base : LegacyBase} {isPlanned : Bool} {plan : PendingAutofillPlan}
    (valid : base.Valid services.toLibrary) (lies : LiesUnder services.toLibrary key base.tabId)
    (settled : plan.Settled services.toLibrary)
    (bound : ∀ url ∈ plan.urls, canonicalHttpOrigin services.toLibrary url = some base.origin) :
    WritesOnly services.toLibrary sweeps (Loaded services.toLibrary base.tabId)
      (persistMigrated services key base isPlanned plan) := by
  have executable := valid.executable settled bound
  cases isPlanned with
  | true =>
      have written : (PendingAutofillTransaction.planned (base.executable plan)).WrittenAs _ :=
        writtenAs_of_perm (plan_later base plan .planned)
      exact (persistAtKey_writes (written.writes executable lies)).andThen fun _ => .pure ⟨executable, rfl⟩
  | false =>
      have written : (PendingAutofillTransaction.persisting (base.executable plan) none).WrittenAs _ :=
        writtenAs_of_perm (plan_later base plan .persisting)
      exact (persistAtKey_writes (written.writes ⟨executable, nofun⟩ lies)).andThen fun _ => .pure ⟨⟨executable, nofun⟩, rfl⟩

theorem resolveCurrent_writes (vaultId : JsText) (desiredFields : PendingAutofillDesiredFields) :
    WritesOnly services.toLibrary sweeps (fun current => ∀ ids ∈ current, MatchingIds ids)
      (resolveCurrent services vaultId desiredFields) := by
  unfold resolveCurrent
  split
  · exact .pure nofun
  · refine nextCall_writes.andThen fun call => .pure fun ids found => ?_
    obtain ⟨value, -, normalized⟩ := Option.bind_eq_some_iff.mp found
    exact normalizeCanonicalIds_some normalized

theorem mem_mutationUrls {mutation : JsRecord} {name : String} {url : JsText}
    (named : name = "desiredFields" ∨
      name = "expectedFields" ∧ asText (mutation.lookup "mode") = some (ofString "update"))
    (isUrl : UrlOf (mutation.lookup name) url) : url ∈ mutationUrls mutation := by
  obtain ⟨fields, isObject, isText⟩ := isUrl
  refine List.mem_filterMap.mpr ⟨name, ?_, by rw [isObject]; exact isText⟩
  rcases named with rfl | ⟨rfl, isUpdate⟩
  · split <;> exact List.mem_cons_self
  · rw [if_pos isUpdate]
    exact List.mem_cons_of_mem _ List.mem_cons_self

/-- The conflict comes last. -/
theorem ambiguous_later (base : LegacyBase) :
    (PendingAutofillTransaction.legacyConflict base.toPendingAutofillBase base.submittedAt base.vaultId base.operationId
      base.recoveryDeadlineAt).toRecord.Perm (base.toRecord ++ [stateField .persistConflict, ("conflict",
        .object (PendingAutofillPersistConflict.toRecord { code := .legacyCreateOutcomeAmbiguous, retryable := false }))]) := by
  rw [PendingAutofillTransaction.toRecord, PendingAutofillBase.toRecord, LegacyBase.toRecord]
  refine .cons _ (.cons _ (.cons _ (.cons _ ?_)))
  exact (@List.perm_middle _ _ [("submittedAt", integer base.submittedAt), ("vaultId", .string base.vaultId),
    ("operationId", .string base.operationId), ("recoveryDeadlineAt", integer base.recoveryDeadlineAt)] _).symm

theorem matchingBefore_writes (base : LegacyBase) (desiredFields : PendingAutofillDesiredFields) (createdEntryId : JsText) :
    WritesOnly services.toLibrary sweeps MatchingIds (matchingBefore services base desiredFields createdEntryId) :=
  (resolveCurrent_writes _ _).bind fun _ matching => (present_writes matching).bind fun _ ids => .pure (ids.filter _)

theorem optional_some {A : Type} {read : Option JsValue → Option A} {value : Option JsValue} {result : Option A}
    (given : optional read value = some result) : ∀ a ∈ result, ∃ v, read (some v) = some a := by
  intro a found
  cases value with
  | none =>
      cases given
      cases found
  | some v =>
      obtain ⟨b, isRead, same⟩ := Option.map_eq_some_iff.mp given
      rw [← same] at found
      exact ⟨v, Option.some.inj found ▸ isRead⟩

/-- The plan that a create is tried as. -/
theorem legacyCreate_some {mutation : JsRecord} {plannedEntryId matching : JsValue} {plan : PendingAutofillPlan}
    (read : pendingAutofillPlanFromUnknown services.toLibrary (some (.object (
      [("mode", text "create")] ++ given "parentGroupId" (mutation.lookup "parentGroupId") ++
        [("plannedEntryId", plannedEntryId), ("expectedMatchingEntryIds", matching)] ++
        given "desiredFields" (mutation.lookup "desiredFields")))) = some plan) :
    ∃ parentGroupId planned ids desiredFields, plan = .create parentGroupId planned ids desiredFields ∧
      isCanonicalNonNilUuid parentGroupId = true ∧
      entryFieldsFromUnknown services.toLibrary (mutation.lookup "desiredFields") = some desiredFields := by
  generalize mutation.lookup "parentGroupId" = parent at read
  generalize mutation.lookup "desiredFields" = desired at read ⊢
  have isCreate : asText (List.lookup "mode" ([("mode", text "create")] ++ given "parentGroupId" parent ++
      [("plannedEntryId", plannedEntryId), ("expectedMatchingEntryIds", matching)] ++ given "desiredFields" desired)) =
      some (ofString "create") := rfl
  have fields : List.lookup "desiredFields" ([("mode", text "create")] ++ given "parentGroupId" parent ++
      [("plannedEntryId", plannedEntryId), ("expectedMatchingEntryIds", matching)] ++ given "desiredFields" desired) =
      desired := by
    cases parent <;> cases desired <;> rfl
  rw [pendingAutofillPlanFromUnknown, asObject_object, Option.bind_eq_bind, Option.bind_some, isCreate,
    if_neg (by decide)] at read
  obtain ⟨-, parentGroupId, planned, ids, desiredFields, rfl, canonical, isDesired⟩ := createPlanFromUnknown_some read
  rw [fields] at isDesired
  exact ⟨parentGroupId, planned, ids, desiredFields, rfl, canonical, isDesired⟩

theorem migrateCreate_writes {base : LegacyBase} {state : LegacyState} {mutation : JsRecord}
    (valid : base.Valid services.toLibrary) (lies : LiesUnder services.toLibrary key base.tabId)
    (own : ∀ url ∈ mutationUrls mutation, canonicalHttpOrigin services.toLibrary url = some base.origin) :
    WritesOnly services.toLibrary sweeps (Loaded services.toLibrary base.tabId)
      (migrateCreate services key base state mutation) := by
  refine (demand_writes _).bind fun _ _ => (present_writes fun _ found => found).bind fun baseline isBaseline =>
    (present_writes fun _ found => found).bind fun temporary isTemporary => ?_
  obtain ⟨parentGroupId, planned, ids, desiredFields, rfl, canonical, isDesired⟩ := legacyCreate_some isTemporary
  have bound : ∀ url ∈ [desiredFields.url], canonicalHttpOrigin services.toLibrary url = some base.origin := by
    intro url member
    rw [List.mem_singleton.mp member]
    exact own _ (mem_mutationUrls (.inl rfl) (entryFieldsFromUnknown_url isDesired))
  have kept : ∀ ids ∈ baseline, MatchingIds ids := by
    intro ids found
    obtain ⟨value, normalized⟩ := optional_some isBaseline ids found
    exact normalizeCanonicalIds_some normalized
  have migrated : ∀ {isPlanned : Bool} {entryId : JsText} {matching : List JsText}, isCanonicalNonNilUuid entryId = true →
      MatchingIds matching → WritesOnly services.toLibrary sweeps (Loaded services.toLibrary base.tabId)
        (persistMigrated services key base isPlanned (.create parentGroupId entryId matching desiredFields)) :=
    fun isEntry matching => persistMigrated_writes valid lies
      (settled_create canonical isEntry matching (entryFieldsFromUnknown_again isDesired)) bound
  refine .ite (fun _ => ?_) fun _ => ?_
  · exact (resolveCurrent_writes _ _).bind fun _ matching => (present_writes matching).bind fun _ matching =>
      createId_writes.andThen fun _ => (demand_writes _).bind fun _ isEntry => migrated isEntry matching
  · split
    · rename_i createdEntryId isCreated
      exact (givenOr_writes kept (matchingBefore_writes _ _ _)).bind fun _ matching =>
        migrated (checked_some isCreated).2 matching
    · refine (demand_writes _).bind fun _ _ => (present_writes kept).bind fun before matching =>
        (resolveCurrent_writes _ _).bind fun _ matching' => (present_writes matching').bind fun current among => ?_
      split
      · rename_i added isAdded
        have member : added ∈ current.filter (· ∉ before) := isAdded ▸ List.mem_singleton_self added
        exact migrated (among.canonical added (List.mem_filter.mp member).1) matching
      · have written : (PendingAutofillTransaction.legacyConflict base.toPendingAutofillBase base.submittedAt base.vaultId
            base.operationId base.recoveryDeadlineAt).WrittenAs _ := writtenAs_of_perm (ambiguous_later base)
        exact (persistAtKey_writes (written.writes ⟨valid.base, valid.executes⟩ lies)).andThen fun _ =>
          .pure ⟨⟨valid.base, valid.executes⟩, rfl⟩

theorem recoveryDeadline_writes {submittedAt : Int} (notNegative : 0 ≤ submittedAt) :
    WritesOnly services.toLibrary sweeps
      (fun deadline => IsSafe deadline ∧ deadline ≤ submittedAt + pendingAutofillRecoveryTtlMs)
      (recoveryDeadline services submittedAt) := by
  refine readNow_writes.bind fun now time => .pure ⟨?_, min_le_right _ _⟩
  obtain ⟨least, most⟩ := time
  unfold IsSafe maxSafeInteger pendingAutofillRecoveryTtlMs
  omega

theorem migrateExecutable_writes {raw : JsRecord} {base : PendingAutofillBase} {submittedAt : Int} {state : LegacyState}
    (valid : base.Valid services.toLibrary) (lies : LiesUnder services.toLibrary key base.tabId)
    (submitted : 0 ≤ submittedAt ∧ IsSafe submittedAt)
    (own : ∀ mutation, asObject (raw.lookup "mutation") = some mutation → ∀ url ∈ mutationUrls mutation,
      canonicalHttpOrigin services.toLibrary url = some base.origin) :
    WritesOnly services.toLibrary sweeps (Loaded services.toLibrary base.tabId)
      (migrateExecutable services key raw base submittedAt state) := by
  refine (present_writes fun _ found => (checked_some found).2).bind fun vaultId vault =>
    (present_writes fun _ found => found).bind fun mutation isMutation =>
    (givenOr_writes (fun _ _ => trivial) createId_writes).andThen fun operationId =>
    (demand_writes _).bind fun _ operation => (recoveryDeadline_writes submitted.1).bind fun deadline latest => ?_
  have valid' : LegacyBase.Valid services.toLibrary
      { base with submittedAt, vaultId, operationId, recoveryDeadlineAt := deadline } :=
    ⟨valid, ⟨submitted, latest, operation, vault⟩⟩
  refine .ite (fun isUpdate => ?_) fun _ => migrateCreate_writes valid' lies (own mutation isMutation)
  refine (demand_writes _).bind fun _ _ => (present_writes fun _ found => found).bind fun plan isPlan => ?_
  refine persistMigrated_writes valid' lies (pendingAutofillPlanFromUnknown_settled isPlan) fun url member => ?_
  rw [pendingAutofillPlanFromUnknown, asObject_object, Option.bind_eq_bind, Option.bind_some, if_pos isUpdate] at isPlan
  obtain ⟨-, entryId, expectedFields, desiredFields, rfl, expected, desired⟩ := updatePlanFromUnknown_some isPlan
  simp only [PendingAutofillPlan.urls, List.mem_cons, List.not_mem_nil, or_false] at member
  rcases member with rfl | rfl
  · exact own mutation isMutation _ (mem_mutationUrls (.inl rfl) (updateFieldsFromUnknown_url desired))
  · exact own mutation isMutation _ (mem_mutationUrls (.inr ⟨rfl, isUpdate⟩) (updateFieldsFromUnknown_url expected))

theorem captured_writtenAs (base : PendingAutofillBase) (submission : PendingAutofillSubmission) (expiresAt : Int) :
    (PendingAutofillTransaction.captured base submission expiresAt).WrittenAs
      [("version", .number pendingAutofillTransactionVersion), ("transactionId", .string base.transactionId),
        stateField .captured, ("tabId", .number base.tabId), ("origin", .string base.origin),
        ("submission", .object submission.toRecord), ("expiresAt", integer expiresAt)] := by
  have same := state_earlier base .captured [] [("submission", .object submission.toRecord), ("expiresAt", integer expiresAt)]
  rw [List.append_nil] at same
  exact writtenAs_of_perm same

theorem migrateLegacy_writes (law : Reparses services.toLibrary) {raw : JsRecord} {tabId : Rat}
    (lies : LiesUnder services.toLibrary key tabId) (bound : LegacyBound services.toLibrary (.object raw))
    (first : asNumber (raw.lookup "version") = some 1) :
    WritesOnly services.toLibrary sweeps (Loaded services.toLibrary tabId) (migrateLegacy services raw tabId key) := by
  refine (present_writes fun _ found => (checked_some found).2).bind fun transactionId token =>
    (present_writes fun _ found => found).bind fun submission isSubmission =>
    (present_writes fun _ found => found).bind fun origin isOrigin =>
    (demand_writes _).bind fun _ _ => (demand_writes _).bind fun _ named =>
    (present_writes fun _ _ => trivial).andThen fun state => ?_
  obtain ⟨settled, submitted⟩ := pendingAutofillSubmissionFromUnknown_some isSubmission
  have valid : PendingAutofillBase.Valid services.toLibrary { transactionId, tabId, origin } :=
    ⟨token, canonicalHttpOrigin_again law isOrigin⟩
  have own : ∀ mutation, asObject (raw.lookup "mutation") = some mutation → ∀ url ∈ mutationUrls mutation,
      canonicalHttpOrigin services.toLibrary url = some origin := by
    intro mutation isMutation url member
    rw [bound raw rfl first mutation isMutation url member, named]
  split
  · exact (writeCompletion_writes _ _ _).andThen fun completion => (terminalTransaction_writes _ _ _ _).bind
      fun terminal ends => (scrubWalKey_writes (ends.writes valid lies)).andThen fun _ => absent_writes
  · refine (present_writes fun _ found => found).bind fun expiresAt isTime => (demand_writes _).bind fun _ lifetime =>
      readNow_writes.bind fun _ _ => (demand_writes _).bind fun _ _ => ?_
    have good : (PendingAutofillTransaction.captured { transactionId, tabId, origin } submission expiresAt).Valid
        services.toLibrary pendingAutofillTransactionTtlMs :=
      ⟨valid, settled, isOrigin, lifetime, (safeInteger_some isTime).2⟩
    exact (persistAtKey_writes ((captured_writtenAs _ _ _).writes good lies)).andThen fun _ => .pure ⟨good, rfl⟩
  · exact migrateExecutable_writes valid lies submitted own

end Legacy

/-! ## Loading -/

section Loading

variable {sweeps : Bool} {key : JsText}

theorem loadAtKeyUnqueued_writes (law : Reparses services.toLibrary) {tabId : Rat}
    (lies : LiesUnder services.toLibrary key tabId) :
    WritesOnly services.toLibrary sweeps (Loaded services.toLibrary tabId) (loadAtKeyUnqueued services key tabId) := by
  refine trustedStorage_writes.andThen fun _ => (demand_writes _).bind fun _ _ => (sessionGet_writes key).bind
    fun value bound => (present_writes fun _ found => found).bind fun raw isRaw => (demand_writes _).bind fun _ _ => ?_
  refine .ite (fun first => ?_) fun _ => ?_
  · refine (present_writes fun _ found => found).bind fun record isRecord => ?_
    cases Option.some.inj (asObject_some isRecord)
    exact migrateLegacy_writes law lies (bound _ isRaw) first
  · refine readNow_writes.bind fun now _ => (present_writes fun _ found => found).bind fun transaction isRead => ?_
    obtain ⟨record, -, accepted⟩ := pendingAutofillTransactionFromUnknown_accepted isRead
    split
    · exact absent_writes
    · refine (orNull_writes (loadCompletionRecordUnqueued_writes _)).bind fun completion _ => ?_
      have lies' : LiesUnder services.toLibrary key transaction.base.tabId := accepted.tab.symm ▸ lies
      split
      · exact (terminalTransaction_writes _ _ _ _).bind fun terminal ends =>
          (scrubWalKey_writes (ends.writes accepted.valid.base lies')).andThen fun _ => absent_writes
      · exact .pure ⟨accepted.valid, accepted.tab⟩

theorem tab_lies (library : Library) (tabId : Rat) :
    LiesUnder library (pendingAutofillTransactionStorageKey library tabId) tabId := .inl rfl

theorem recovery_lies (library : Library) (transactionId : JsText) (tabId : Rat) :
    LiesUnder library (pendingAutofillRecoveryStorageKey transactionId) tabId := .inr (.inl ⟨transactionId, rfl⟩)

theorem loadForTabUnqueued_writes (law : Reparses services.toLibrary) (tabId : Rat) :
    WritesOnly services.toLibrary sweeps (Loaded services.toLibrary tabId) (loadForTabUnqueued services tabId) :=
  loadAtKeyUnqueued_writes law (tab_lies _ tabId)

/-- A transaction with its key. -/
def LoadedAt (library : Library) (key : JsText) (transaction : PendingAutofillTransaction) : Prop :=
  transaction.Valid library pendingAutofillTransactionTtlMs ∧ LiesUnder library key transaction.base.tabId

theorem Loaded.at_tab {tabId : Rat} {transaction : PendingAutofillTransaction}
    (loaded : Loaded services.toLibrary tabId transaction) :
    LoadedAt services.toLibrary (pendingAutofillTransactionStorageKey services.toLibrary tabId) transaction :=
  ⟨loaded.valid, loaded.tab.symm ▸ tab_lies _ tabId⟩

theorem loadRecoveryUnqueued_writes (law : Reparses services.toLibrary) (transactionId : JsText) :
    WritesOnly services.toLibrary sweeps
      (LoadedAt services.toLibrary (pendingAutofillRecoveryStorageKey transactionId))
      (loadRecoveryUnqueued services transactionId) :=
  trustedStorage_writes.andThen fun _ => (demand_writes _).bind fun _ _ => (sessionGet_writes _).bind fun _ _ =>
    (loadAtKeyUnqueued_writes law (recovery_lies _ _ _)).bind fun _ loaded => (demand_writes _).bind fun _ _ =>
      .pure ⟨loaded.valid, recovery_lies _ _ _⟩

end Loading

/-! ## Steps -/

section Steps

variable {sweeps : Bool} {key : JsText} {current : PendingAutofillTransaction}

theorem claimable_some {executable : PendingAutofillExecutable} {attempt : Option PendingAutofillAttempt}
    (found : claimable current = some (executable, attempt))
    (valid : current.Valid services.toLibrary pendingAutofillTransactionTtlMs) :
    executable.Valid services.toLibrary ∧ (∀ a ∈ attempt, a.Valid) ∧ current.base = executable.toPendingAutofillBase ∧
      ∃ rest, current.toRecord = executable.toRecord ++ rest ∧
        ∀ f ∈ rest, f.1 ∈ ["state", "attemptId", "attemptCount", "lastAttemptAt", "leaseExpiresAt", "conflict"] := by
  cases current with
  | planned executable =>
      cases found
      exact ⟨valid, nofun, rfl, _, rfl, by simp [stateField]⟩
  | persisting executable attempt =>
      cases found
      refine ⟨valid.1, valid.2, rfl, _, rfl, ?_⟩
      cases attempt <;> simp [stateField, PendingAutofillAttempt.toRecord]
  | persistConflict executable conflict =>
      rw [claimable] at found
      split at found
      · cases found
        exact ⟨valid.1, nofun, rfl, _, rfl, by simp [stateField]⟩
      · cases found
  | captured base submission expiresAt => cases found
  | legacyConflict base submittedAt vaultId operationId recoveryDeadlineAt => cases found
  | terminal transaction => cases found

theorem lookup_none {fields : JsRecord} {name : String} (apart : ∀ f ∈ fields, f.1 ≠ name) : fields.lookup name = none := by
  induction fields with
  | nil => rfl
  | cons f rest ih =>
      rw [JsRecord.lookup_cons, if_neg (apart f List.mem_cons_self).symm, ih fun g member =>
        apart g (List.mem_cons_of_mem _ member)]

/-- A claim leaves what the transaction is bound to. -/
theorem claimed_writtenAs {executable : PendingAutofillExecutable} {rest : JsRecord} (attempt : PendingAutofillAttempt)
    (names : ∀ f ∈ rest, f.1 ∈ ["state", "attemptId", "attemptCount", "lastAttemptAt", "leaseExpiresAt", "conflict"]) :
    (PendingAutofillTransaction.persisting executable (some attempt)).WrittenAs
      (JsRecord.spread (executable.toRecord ++ rest) (stateField .persisting :: attempt.toRecord)) := by
  intro name kept
  have apart : name ≠ "conflict" := kept.resolve_right fun other => other rfl
  simp only [JsRecord.spread, stateField, PendingAutofillAttempt.toRecord, List.foldl_cons, List.foldl_nil,
    JsRecord.lookup_set, PendingAutofillTransaction.toRecord, Option.map_some, Option.getD_some, List.lookup_append,
    JsRecord.lookup_cons, List.lookup_nil]
  by_cases among : name ∈ ["state", "attemptId", "attemptCount", "lastAttemptAt", "leaseExpiresAt"]
  · have missing : executable.toRecord.lookup name = none := by
      simp only [List.mem_cons, List.not_mem_nil, or_false] at among
      rcases among with rfl | rfl | rfl | rfl | rfl <;> rfl
    simp only [List.mem_cons, List.not_mem_nil, or_false] at among
    rw [missing]
    rcases among with rfl | rfl | rfl | rfl | rfl <;> simp
  · have missing : rest.lookup name = none := by
      refine lookup_none fun f member same => ?_
      have named := names f member
      simp only [List.mem_cons, List.not_mem_nil, or_false] at named among
      subst same
      tauto
    simp only [List.mem_cons, List.not_mem_nil, or_false, not_or] at among
    obtain ⟨state, attemptId, attemptCount, lastAttemptAt, leaseExpiresAt⟩ := among
    simp [state, attemptId, attemptCount, lastAttemptAt, leaseExpiresAt, missing]

theorem leaseHolds_writes (attempt : Option PendingAutofillAttempt) :
    WritesOnly services.toLibrary sweeps (fun _ => True) (leaseHolds services attempt) := by
  unfold leaseHolds
  split
  · exact readNow_writes.bind fun _ _ => .pure trivial
  · exact .pure trivial

/-- The claim is read back, unless it can no longer be counted. -/
theorem claimed_writes {executable : PendingAutofillExecutable} {attempt : PendingAutofillAttempt} {record : JsRecord}
    (written : (PendingAutofillTransaction.persisting executable (some attempt)).WrittenAs record)
    (valid : executable.Valid services.toLibrary) (lies : LiesUnder services.toLibrary key executable.tabId)
    (token : isValidPendingAutofillToken attempt.attemptId = true)
    (counted : 1 ≤ attempt.attemptCount ∧ attempt.attemptCount ≤ maxSafeInteger + 1)
    (times : IsSafe attempt.lastAttemptAt ∧ IsSafe attempt.leaseExpiresAt) :
    Writes services.toLibrary sweeps (key, .object record) := by
  by_cases full : attempt.attemptCount = maxSafeInteger + 1
  · refine ⟨record, rfl, ?_, .counted ?_⟩
    · rw [written "version" (.inl (by decide)), toRecord_version]
    · rw [written "attemptCount" (.inl (by decide)), ← full]
      rfl
  · have safe : IsSafe attempt.attemptCount := by
      unfold IsSafe
      unfold maxSafeInteger at counted full ⊢
      omega
    exact written.writes ⟨valid, fun a same => Option.some.inj same ▸ ⟨token, ⟨counted.1, safe⟩, times⟩⟩ lies

theorem claimAtKey_writes (loaded : LoadedAt services.toLibrary key current) :
    WritesOnly services.toLibrary sweeps (fun _ => True) (claimAtKey services key current) := by
  refine (present_writes fun _ found => found).bind fun pair isPair => ?_
  obtain ⟨executable, attempt⟩ := pair
  obtain ⟨valid, attempted, base, rest, split, names⟩ := claimable_some isPair loaded.1
  refine readNow_writes.bind fun _ _ => (demand_writes _).bind fun _ _ => (leaseHolds_writes _).andThen fun _ =>
    .ite (fun _ => ?_) fun _ => .pure trivial
  refine createId_writes.andThen fun attemptId => (demand_writes _).bind fun _ token => readNow_writes.bind
    fun lastAttemptAt last => readNow_writes.bind fun now time => ?_
  have counted : 1 ≤ ((attempt.map (·.attemptCount)).getD 0) + 1 ∧
      ((attempt.map (·.attemptCount)).getD 0) + 1 ≤ maxSafeInteger + 1 := by
    cases attempt with
    | none => decide
    | some attempt =>
        have before := (attempted attempt rfl).counted
        exact ⟨by simp; omega, by simpa using before.2.2⟩
  have safe : IsSafe (now + pendingAutofillAttemptLeaseMs) := by
    obtain ⟨least, most⟩ := time
    unfold IsSafe maxSafeInteger pendingAutofillAttemptLeaseMs
    omega
  rw [split]
  exact persistAtKey_writes (claimed_writes (claimed_writtenAs _ names) valid (base ▸ loaded.2) token counted
    ⟨safe_of_time last, safe⟩)

/-- The state stands where the tab begins. -/
theorem executable_earlier (executable : PendingAutofillExecutable) (state : PendingState) (rest : JsRecord) :
    (executable.toRecord ++ stateField state :: rest).Perm
      ([("version", .number pendingAutofillTransactionVersion), ("transactionId", .string executable.transactionId),
        stateField state, ("tabId", .number executable.tabId), ("origin", .string executable.origin),
        ("submittedAt", integer executable.submittedAt), ("vaultId", .string executable.vaultId),
        ("operationId", .string executable.operationId), ("plan", .object executable.plan.toRecord),
        ("recoveryDeadlineAt", integer executable.recoveryDeadlineAt)] ++ rest) :=
  state_earlier executable.toPendingAutofillBase state _ rest

theorem recordConflictAtKey_writes {binding : ConflictBinding} {current : Option PendingAutofillTransaction}
    (loaded : ∀ transaction ∈ current, LoadedAt services.toLibrary key transaction)
    (returned : ∃ plan, validConflictForPlan plan binding.conflict = true) :
    WritesOnly services.toLibrary sweeps (fun _ => True) (recordConflictAtKey services key current binding) := by
  obtain ⟨plan, valid⟩ := returned
  have retryable : binding.conflict.retryable = codeRetryable binding.conflict.code :=
    of_decide_eq_true (Bool.and_eq_true_iff.mp valid).1
  unfold recordConflictAtKey
  split
  · rename_i executable attempt
    obtain ⟨⟨valid, -⟩, lies⟩ := loaded _ rfl
    have written : (PendingAutofillTransaction.persistConflict executable binding.conflict).WrittenAs _ :=
      writtenAs_of_perm (executable_earlier executable .persistConflict [("conflict", .object binding.conflict.toRecord)])
    exact (demand_writes _).bind fun _ _ => persistAtKey_writes (written.writes ⟨valid, retryable⟩ lies)
  · exact absent_writes

theorem completable_some {executable : PendingAutofillExecutable} (found : completable current = some executable)
    (valid : current.Valid services.toLibrary pendingAutofillTransactionTtlMs) :
    executable.Valid services.toLibrary ∧ current.base = executable.toPendingAutofillBase := by
  cases current with
  | planned executable =>
      cases found
      exact ⟨valid, rfl⟩
  | persisting executable attempt =>
      cases found
      exact ⟨valid.1, rfl⟩
  | captured base submission expiresAt => cases found
  | persistConflict executable conflict => cases found
  | legacyConflict base submittedAt vaultId operationId recoveryDeadlineAt => cases found
  | terminal transaction => cases found

theorem completeAtKey_writes {binding : PersistBinding} {current : Option PendingAutofillTransaction}
    (loaded : ∀ transaction ∈ current, LoadedAt services.toLibrary key transaction) :
    WritesOnly services.toLibrary sweeps (fun _ => True) (completeAtKey services key current binding) := by
  unfold completeAtKey
  split
  · rename_i executable found
    obtain ⟨transaction, isCurrent, completes⟩ := Option.bind_eq_some_iff.mp (Option.filter_eq_some_iff.mp found).1
    obtain ⟨valid, lies⟩ := loaded transaction isCurrent
    obtain ⟨valid, base⟩ := completable_some completes valid
    rw [base] at lies
    exact (writeCompletion_writes _ _ _).andThen fun _ => (terminalTransaction_writes _ _ _ _).bind fun _ ends =>
      scrubWalKey_writes (ends.writes valid.base lies)
  · exact (orNull_writes (loadCompletionRecordUnqueued_writes _)).bind fun _ _ => (hashVaultId_writes _).andThen fun _ =>
      (present_writes fun _ _ => trivial).andThen fun _ => (present_writes fun _ _ => trivial).andThen fun _ =>
      (demand_writes _).bind fun _ _ => (writeCompletion_writes _ _ _).andThen fun _ => .pure trivial

theorem terminalizeAtKey_writes {state : TerminalState} (loaded : LoadedAt services.toLibrary key current) :
    WritesOnly services.toLibrary sweeps (fun _ => True) (terminalizeAtKey services key current state) :=
  (writeCompletion_writes _ _ _).andThen fun _ => (terminalTransaction_writes _ _ _ _).bind fun _ ends =>
    scrubWalKey_writes (ends.writes loaded.1.base loaded.2)

theorem plannable_some {basis : Plannable} (found : plannable current = some basis)
    (valid : current.Valid services.toLibrary pendingAutofillTransactionTtlMs) :
    (0 ≤ basis.submittedAt ∧ IsSafe basis.submittedAt) ∧ ∀ deadline ∈ basis.recoveryDeadlineAt,
      IsSafe deadline ∧ deadline ≤ basis.submittedAt + pendingAutofillRecoveryTtlMs := by
  cases current with
  | captured base submission expiresAt =>
      cases found
      exact ⟨(pendingAutofillSubmissionFromUnknown_some valid.2.1).2, nofun⟩
  | persistConflict executable conflict =>
      cases found
      exact ⟨valid.1.executes.submitted, fun _ same => Option.some.inj same ▸ valid.1.executes.deadline⟩
  | legacyConflict base submittedAt vaultId operationId recoveryDeadlineAt =>
      cases found
      exact ⟨valid.2.submitted, fun _ same => Option.some.inj same ▸ valid.2.deadline⟩
  | planned executable => cases found
  | persisting executable attempt => cases found
  | terminal transaction => cases found

theorem plannedEntryIdFor_writes (preliminary : PendingAutofillPlan) (retained : Option JsText) :
    WritesOnly services.toLibrary sweeps (fun _ => True) (plannedEntryIdFor services preliminary retained) := by
  unfold plannedEntryIdFor
  split
  · exact .pure trivial
  · exact (givenOr_writes (fun _ _ => trivial) createId_writes).andThen fun _ => (demand_writes _).bind fun _ _ =>
      .pure trivial

theorem planAtKey_writes {transactionId : JsText} {input : PlanInput} (loaded : LoadedAt services.toLibrary key current) :
    WritesOnly services.toLibrary sweeps (fun _ => True) (planAtKey services key current transactionId input) := by
  obtain ⟨valid, lies⟩ := loaded
  refine (demand_writes _).bind fun _ vault => (demand_writes _).bind fun _ same =>
    (present_writes fun _ found => found).bind fun basis isBasis => (demand_writes _).bind fun _ _ =>
    (present_writes fun _ found => found).bind fun preliminary isPreliminary => (demand_writes _).bind fun _ own =>
    (demand_writes _).bind fun _ _ => createId_writes.andThen fun operationId => (demand_writes _).bind fun _ operation =>
    (plannedEntryIdFor_writes _ _).andThen fun plannedEntryId =>
    (present_writes fun _ found => found).bind fun plan isPlan => ?_
  obtain ⟨submitted, limited⟩ := plannable_some isBasis valid
  refine (givenOr_writes limited (recoveryDeadline_writes submitted.1)).bind fun deadline latest => ?_
  have bound : ∀ url ∈ plan.urls, canonicalHttpOrigin services.toLibrary url = some current.base.origin := by
    rw [pendingAutofillPlanInputFromUnknown_urls isPlan isPreliminary]
    exact own
  have good : PendingAutofillExecutable.Valid services.toLibrary {
      current.base with
      submittedAt := basis.submittedAt, vaultId := input.vaultId, operationId, plan, recoveryDeadlineAt := deadline } :=
    ⟨valid.base, ⟨submitted, latest, isCanonicalNonNilUuid_token operation, vault⟩,
      pendingAutofillPlanInputFromUnknown_settled isPlan, bound⟩
  have written : (PendingAutofillTransaction.planned {
      current.base with
      submittedAt := basis.submittedAt, vaultId := input.vaultId, operationId, plan,
      recoveryDeadlineAt := deadline }).WrittenAs _ := writtenAs_of_perm (executable_earlier _ .planned [])
  subst same
  exact persistAtKey_writes (written.writes good lies)

end Steps

/-! ## Sweeps -/

section Sweeps

variable {key : JsText}

theorem terminalRecord_fields (terminal : PendingAutofillTerminal) :
    (terminalRecord terminal).lookup "version" = some (.number pendingAutofillTransactionVersion) ∧
      (terminalRecord terminal).lookup "origin" = some (.string terminal.origin) := ⟨rfl, rfl⟩

/-- The end of a transaction that may not be readable. -/
theorem EndsAs.swept {base : PendingAutofillBase} {terminal : PendingAutofillTerminal} (ends : EndsAs base terminal)
    (token : isValidPendingAutofillToken base.transactionId = true) (lies : LiesUnder services.toLibrary key base.tabId) :
    Writes services.toLibrary true (key, .object (terminalRecord terminal)) := by
  by_cases canonical : canonicalHttpOrigin services.toLibrary base.origin = some base.origin
  · exact ends.writes ⟨token, canonical⟩ lies
  · obtain ⟨version, origin⟩ := terminalRecord_fields terminal
    rw [← ends.base] at canonical
    exact ⟨_, rfl, version, .swept rfl terminal.origin origin canonical⟩

theorem rawBase_lies {value : JsValue} {transactionId : JsText} {otherwise : String} (wal : isWalKey key = true) :
    LiesUnder services.toLibrary key (rawBase key value transactionId otherwise).tabId := by
  cases tab : tabIdFromStorageKey key with
  | some tabId =>
      right; right
      rw [tab, rawBase, tab]
      rfl
  | none =>
      rw [isWalKey, tab, Option.isSome_none, Bool.false_or, Option.isSome_iff_exists] at wal
      obtain ⟨suffix, found⟩ := wal
      rw [transactionIdFromRecoveryStorageKey, suffixAfter] at found
      split at found
      · rename_i begins
        obtain ⟨rest, whole⟩ := List.isPrefixOf_iff_prefix.mp begins
        exact .inr (.inl ⟨rest, whole.symm⟩)
      · cases found

theorem scrubInvalidWalKey_writes : WritesOnly services.toLibrary true (fun _ => True) (scrubInvalidWalKey services key) := by
  refine trustedStorage_writes.andThen fun _ => .ite (fun _ => ?_) fun _ => .pure trivial
  refine (sessionSet_writes fun item member => ?_).andThen fun _ => (sessionRemove_writes _).andThen fun _ => .pure trivial
  rw [List.mem_singleton.mp member]
  exact ⟨_, rfl, rfl, .note rfl⟩

theorem sweepInvalid_writes (deadline currentTime : Int) :
    WritesOnly services.toLibrary true (fun _ => True) (sweepInvalid services deadline currentTime key) :=
  .ite (fun _ => scrubInvalidWalKey_writes) fun _ => .pure trivial

theorem scrubRaw_writes {value : JsValue} {transactionId : JsText} {otherwise : String} {state : TerminalState}
    {operationId entryId : Option JsText} (wal : isWalKey key = true)
    (token : isValidPendingAutofillToken transactionId = true) :
    WritesOnly services.toLibrary true (fun _ => True) (do
      scrubWalKey services key (← terminalTransaction services (rawBase key value transactionId otherwise) state
        operationId entryId)) :=
  (terminalTransaction_writes _ _ _ _).bind fun _ ends => scrubWalKey_writes (ends.swept token (rawBase_lies wal))

theorem cleanupCompletedTransactions_writes :
    WritesOnly services.toLibrary true (fun _ => True) (cleanupCompletedTransactions services) := by
  refine trustedStorage_writes.andThen fun _ => (demand_writes _).bind fun _ _ => sessionGetAll_writes.andThen fun items =>
    .forM fun item _ => ?_
  obtain ⟨key, value⟩ := item
  dsimp only
  split
  · rename_i transactionId isId
    refine .ite (fun wal => ?_) fun _ => .pure trivial
    refine (orNull_writes (loadCompletionRecordUnqueued_writes _)).bind fun completion _ => .ite (fun _ => ?_) fun _ => ?_
    · exact scrubRaw_writes wal (checked_some isId).2
    · exact .pure trivial
  · exact .pure trivial

theorem expireItem_writes {value : JsValue} {transactionId : JsText} {operationId : Option JsText}
    (wal : isWalKey key = true) (token : isValidPendingAutofillToken transactionId = true) :
    WritesOnly services.toLibrary true (fun _ => True) (expireItem services key value transactionId operationId) :=
  (orNull_writes (writeCompletion_writes _ _ _)).bind fun _ _ =>
    .ite (fun _ => scrubRaw_writes wal token) fun _ => .pure trivial

theorem sweepItem_writes {activeClaims : List JsText} {currentTime : Int} {value : JsValue} (wal : isWalKey key = true) :
    WritesOnly services.toLibrary true (fun _ => True) (sweepItem services activeClaims currentTime key value) := by
  unfold sweepItem
  split
  · exact .pure trivial
  · split
    · exact (sweepInvalid_writes _ _).andThen fun _ => .pure trivial
    · rename_i transactionId isId
      have token := (checked_some isId).2
      refine (orNull_writes (loadCompletionRecordUnqueued_writes _)).bind fun _ _ => ?_
      split
      · exact (terminalTransaction_writes _ _ _ _).bind fun _ ends =>
          (scrubWalKey_writes (ends.swept token (rawBase_lies wal))).andThen fun _ => .pure trivial
      · exact .ite (fun _ => .pure trivial) fun _ => .ite (fun _ => .pure trivial) fun _ =>
          (expireItem_writes wal token).andThen fun _ => .pure trivial

theorem clearExpired_writes (activeClaims : List JsText) :
    WritesOnly services.toLibrary true (fun _ => True) (clearExpired services activeClaims) := by
  have removed : ∀ currentTime, WritesOnly services.toLibrary true (fun _ => True) (removeExpired services currentTime) :=
    fun currentTime => sessionGetAll_writes.andThen fun _ =>
      .ite (fun _ => (sessionRemove_writes _).andThen fun _ => .pure trivial) fun _ => .pure trivial
  refine trustedStorage_writes.andThen fun _ => (demand_writes _).bind fun _ _ => sessionGetAll_writes.andThen fun items =>
    readNow_writes.bind fun currentTime _ => ?_
  have swept : WritesOnly services.toLibrary true (fun _ => True)
      ((items.filter fun item => isWalKey item.1).mapM fun item =>
        sweepItem services activeClaims currentTime item.1 item.2) :=
    (Logs.mapM fun item member => sweepItem_writes (List.mem_filter.mp member).2).any
  exact swept.andThen fun _ => (removed currentTime).andThen fun _ => .pure trivial

end Sweeps

/-! ## Operations -/

section Operations

/-- The operations that also write about what they cannot read. -/
def Operation.sweeps : Operation → Bool
  | cleanupCompletedTransactions => true
  | clearExpired _ => true
  | _ => false

theorem putCaptured_writes (law : Reparses services.toLibrary) (tabId : Rat) (value : JsValue) :
    WritesOnly services.toLibrary false (fun _ => True) (putCaptured services tabId value) := by
  refine trustedStorage_writes.andThen fun session => readNow_writes.bind fun currentTime time =>
    (demand_writes _).bind fun _ _ => (demand_writes _).bind fun _ _ =>
    (present_writes fun _ found => found).bind fun submission isSubmission =>
    (present_writes fun _ found => found).bind fun origin isOrigin => (demand_writes _).bind fun _ begun =>
    (orNull_writes (loadForTabUnqueued_writes law tabId)).bind fun _ _ => (demand_writes _).bind fun _ _ =>
    createId_writes.andThen fun transactionId => (demand_writes _).bind fun _ token => (demand_writes _).bind fun _ _ =>
    (sessionSet_writes fun item member => ?_).andThen fun _ => .pure trivial
  obtain ⟨settled, notNegative, -⟩ := pendingAutofillSubmissionFromUnknown_some isSubmission
  have safe : IsSafe (submission.submittedAt + pendingAutofillTransactionTtlMs) := by
    obtain ⟨begun, -⟩ := begun
    obtain ⟨-, most⟩ := time
    unfold IsSafe maxSafeInteger pendingAutofillTransactionTtlMs
    omega
  rw [List.mem_singleton.mp member]
  exact (captured_writtenAs { transactionId, tabId, origin } submission _).writes
    ⟨⟨token, canonicalHttpOrigin_again law isOrigin⟩, settled, isOrigin, rfl, safe⟩ (tab_lies _ tabId)

theorem detachForRecovery_writes (law : Reparses services.toLibrary) (tabId : Rat) (transactionId : JsText) :
    WritesOnly services.toLibrary false (fun _ => True) (detachForRecovery services tabId transactionId) := by
  refine trustedStorage_writes.andThen fun _ => (loadForTabUnqueued_writes law tabId).bind fun current loaded =>
    (demand_writes _).bind fun _ _ => (sessionSet_writes fun item member => ?_).andThen fun _ =>
    (demand_writes _).bind fun _ _ => (sessionRemove_writes _).andThen fun _ => .pure trivial
  simp only [List.mem_cons, List.not_mem_nil, or_false] at member
  rcases member with rfl | rfl
  · have written : current.WrittenAs current.toRecord := fun _ _ => rfl
    exact written.writes loaded.valid (recovery_lies _ _ _)
  · exact ⟨_, rfl, rfl, .note rfl⟩

theorem listTabTransactions_writes (law : Reparses services.toLibrary) :
    WritesOnly services.toLibrary false (fun _ => True) (listTabTransactions services) := by
  refine trustedStorage_writes.andThen fun _ => (demand_writes _).bind fun _ _ => sessionGetAll_writes.andThen fun items => ?_
  have loaded : WritesOnly services.toLibrary false (fun _ => True)
      ((items.filterMap fun item => tabIdFromStorageKey item.1).mapM fun tabId =>
        orNull (loadForTabUnqueued services tabId)) :=
    (Logs.mapM fun tabId _ => (orNull_writes (loadForTabUnqueued_writes law tabId)).any).any
  exact loaded.andThen fun _ => .pure trivial

theorem listRecoveries_writes (law : Reparses services.toLibrary) :
    WritesOnly services.toLibrary false (fun _ => True) (listRecoveries services) := by
  refine trustedStorage_writes.andThen fun _ => (demand_writes _).bind fun _ _ => sessionGetAll_writes.andThen fun items => ?_
  have loaded : WritesOnly services.toLibrary false (fun _ => True)
      (((items.filterMap fun item => transactionIdFromRecoveryStorageKey item.1).filter (· ≠ [])).mapM
        fun transactionId => orNull (loadRecoveryUnqueued services transactionId)) :=
    (Logs.mapM fun transactionId _ => (orNull_writes (loadRecoveryUnqueued_writes law transactionId)).any).any
  exact loaded.andThen fun _ => .pure trivial

theorem loadForTabUrl_writes (law : Reparses services.toLibrary) (tabId : Rat) (tabUrl : JsText) :
    WritesOnly services.toLibrary false (fun _ => True) (loadForTabUrl services tabId tabUrl) :=
  (loadForTabUnqueued_writes law tabId).bind fun _ loaded =>
    .ite (fun _ => terminalizeAtKey_writes loaded.at_tab) fun _ => .pure trivial

theorem loadCompletion_writes (transactionId : JsText) :
    WritesOnly services.toLibrary false (fun _ => True) (loadCompletion services transactionId) := by
  refine (loadCompletionRecordUnqueued_writes transactionId).andThen fun completion => readNow_writes.bind fun now _ =>
    .ite (fun _ => ?_) fun _ => .pure trivial
  refine trustedStorage_writes.andThen fun trusted => .ite (fun _ => ?_) fun _ => .pure trivial
  exact sessionGetAll_writes.andThen fun items =>
    .ite (fun _ => (sessionRemove_writes _).andThen fun _ => .pure trivial) fun _ => .pure trivial

/-- Every operation, from a sound storage. -/
theorem Operation.perform_writes (law : Reparses services.toLibrary) (operation : Operation)
    (fromRuntime : operation.FromRuntime) :
    WritesOnly services.toLibrary operation.sweeps (fun _ => True) (operation.perform services) := by
  have tab : ∀ tabId, WritesOnly services.toLibrary false (Loaded services.toLibrary tabId)
      (loadForTabUnqueued services tabId) := loadForTabUnqueued_writes law
  have recovery : ∀ transactionId, WritesOnly services.toLibrary false
      (LoadedAt services.toLibrary (pendingAutofillRecoveryStorageKey transactionId))
      (loadRecoveryUnqueued services transactionId) := loadRecoveryUnqueued_writes law
  cases operation with
  | loadForTab tabId => exact (tab tabId).bind fun _ _ => .pure trivial
  | loadForTabUrl tabId tabUrl => exact loadForTabUrl_writes law tabId tabUrl
  | putCaptured tabId value => exact putCaptured_writes law tabId value
  | plan tabId transactionId input => exact (tab tabId).bind fun _ loaded => planAtKey_writes loaded.at_tab
  | claimForTab tabId transactionId =>
      exact (tab tabId).bind fun _ loaded => (demand_writes _).bind fun _ _ => claimAtKey_writes loaded.at_tab
  | recordConflictForTab tabId binding =>
      exact (orNull_writes (tab tabId)).bind fun _ loaded =>
        recordConflictAtKey_writes (fun transaction found => (loaded transaction found).at_tab) fromRuntime
  | completeForTab tabId binding =>
      exact (orNull_writes (tab tabId)).bind fun _ loaded =>
        completeAtKey_writes fun transaction found => (loaded transaction found).at_tab
  | detachForRecovery tabId transactionId => exact detachForRecovery_writes law tabId transactionId
  | loadRecovery transactionId => exact (recovery transactionId).bind fun _ _ => .pure trivial
  | planRecovery transactionId input => exact (recovery transactionId).bind fun _ loaded => planAtKey_writes loaded
  | claimRecovery transactionId => exact (recovery transactionId).bind fun _ loaded => claimAtKey_writes loaded
  | recordConflictRecovery transactionId binding =>
      exact (orNull_writes (recovery transactionId)).bind fun _ loaded => recordConflictAtKey_writes loaded fromRuntime
  | completeRecovery transactionId binding =>
      exact (orNull_writes (recovery transactionId)).bind fun _ loaded => completeAtKey_writes loaded
  | loadCompletion transactionId => exact loadCompletion_writes transactionId
  | dismissForTab tabId transactionId =>
      exact (tab tabId).bind fun _ loaded => (demand_writes _).bind fun _ _ => terminalizeAtKey_writes loaded.at_tab
  | dismissRecovery transactionId =>
      exact (recovery transactionId).bind fun _ loaded => (demand_writes _).bind fun _ _ => terminalizeAtKey_writes loaded
  | listTabTransactions => exact (listTabTransactions_writes law).andThen fun _ => .pure trivial
  | listProtectedTabTransactions =>
      exact ((listTabTransactions_writes law).andThen fun _ => .pure trivial).andThen fun _ => .pure trivial
  | listRecoveries => exact (listRecoveries_writes law).andThen fun _ => .pure trivial
  | clearUnprotectedForTab tabId transactionId =>
      exact (tab tabId).bind fun _ loaded => (demand_writes _).bind fun _ _ => terminalizeAtKey_writes loaded.at_tab
  | cleanupCompletedTransactions => exact cleanupCompletedTransactions_writes
  | clearExpired activeClaims => exact (clearExpired_writes activeClaims).andThen fun _ => .pure trivial

/-- No operation leaves a record of the first version that is not bound to its origin. -/
theorem run_sound (law : Reparses services.toLibrary) {operations : List Operation} {start : World}
    (fromRuntime : ∀ operation ∈ operations, operation.FromRuntime) (sound : start.Sound services.toLibrary) :
    (run services operations start).Sound services.toLibrary := by
  induction operations generalizing start with
  | nil => exact sound
  | cons first rest ih =>
      have step := (first.perform_writes law (fromRuntime first List.mem_cons_self)).kept start sound
      exact ih (fun operation member => fromRuntime operation (List.mem_cons_of_mem _ member)) step

/-- Each operation of a run writes only what is read back, apart from what a sweep says of an origin that is no
origin and from a claim that cannot be counted; and nothing is read without its fields, its binding and the order
of its times. -/
theorem pendingLog_readsBack (services : Services) (law : Reparses services.toLibrary) (operations : List Operation)
    (operation : Operation) (start : World) (fromRuntime : ∀ op ∈ operation :: operations, op.FromRuntime)
    (sound : start.Sound services.toLibrary) :
    (∃ more, (operation.perform services (run services operations start)).2.writes =
        (run services operations start).writes ++ more ∧
      ∀ item ∈ more, Writes services.toLibrary operation.sweeps item) ∧
    ∀ value tabId now captureTtlMs transaction,
      pendingAutofillTransactionFromUnknown services.toLibrary value tabId now captureTtlMs = some transaction →
        ∃ record, value = .object record ∧ Accepted services.toLibrary record tabId now captureTtlMs transaction := by
  obtain ⟨returned, earlier⟩ := List.forall_mem_cons.mp fromRuntime
  have reached := run_sound law earlier sound
  exact ⟨(operation.perform_writes law returned).logged _ reached, fun _ _ _ _ _ => pendingAutofillTransactionFromUnknown_accepted⟩

end Operations

/-! ## A submission at a site -/

def sampleUrl (value : JsText) : Option Url :=
  if value = ofString "https://site.example" ∨ value = ofString "https://site.example/login" then
    some { protocol := ofString "https:", hostname := ofString "site.example", port := [] }
  else if value = ofString "https://other.example" then
    some { protocol := ofString "https:", hostname := ofString "other.example", port := [] }
  else none

def sampleId : JsText := ofString "11111111-1111-4111-8111-111111111111"

def sampleServices : Services where
  newUrl := sampleUrl
  toLowerCase text := text.map fun unit => if 65 ≤ unit ∧ unit ≤ 90 then unit + 32 else unit
  numberText number := ofString (toString number.num)
  now _ := ⟨2000, by decide⟩
  createId _ := sampleId
  trusted _ := true
  answers _ := true
  digest _ _ := some (List.replicate 32 0)
  findExactMatchingEntryIds := none

theorem sampleUrl_reparses : Reparses sampleServices.toLibrary := by
  have cases_url : ∀ value url, sampleUrl value = some url →
      url = { protocol := ofString "https:", hostname := ofString "site.example", port := [] } ∨
        url = { protocol := ofString "https:", hostname := ofString "other.example", port := [] } := by
    intro value url parsed
    unfold sampleUrl at parsed
    split at parsed
    · exact .inl (Option.some.inj parsed).symm
    · split at parsed
      · exact .inr (Option.some.inj parsed).symm
      · cases parsed
  constructor
  · intro value url parsed _
    rcases cases_url value url parsed with rfl | rfl <;> exact solid_of_all (by decide)
  · intro value url hostname parsed _ canonical
    rcases cases_url value url parsed with rfl | rfl <;> cases canonical <;> decide

def sampleFields (url : String) : PendingAutofillUpdateFields where
  username := ofString "ada"
  password := ofString "correct horse"
  url := ofString url

def samplePlan (url : String) : PendingAutofillPlan := .update sampleId (sampleFields url) (sampleFields url)

def sampleSubmission : JsValue :=
  .object (PendingAutofillSubmission.toRecord {
    url := ofString "https://site.example/login", username := ofString "ada", password := ofString "correct horse"
    submittedAt := 1000 })

def samplePlanning : Operation :=
  .plan 7 sampleId { vaultId := ofString "vault", plan := .object (samplePlan "https://site.example").toRecord }

def worldOf (storage : StorageItems) : World := { storage, calls := 0, writes := [] }

/-- A submission is captured and then planned. -/
theorem pendingLog_readsBack_sample :
    (∃ more, (samplePlanning.perform sampleServices
          (run sampleServices [.putCaptured 7 sampleSubmission] (worldOf []))).2.writes =
        (run sampleServices [.putCaptured 7 sampleSubmission] (worldOf [])).writes ++ more ∧
      ∀ item ∈ more, Writes sampleServices.toLibrary false item) ∧
    (run sampleServices [.putCaptured 7 sampleSubmission, samplePlanning] (worldOf [])).writes.length = 2 :=
  ⟨(pendingLog_readsBack sampleServices sampleUrl_reparses [.putCaptured 7 sampleSubmission] samplePlanning (worldOf [])
    (by simp [Operation.FromRuntime, samplePlanning]) (fun _ member => absurd member List.not_mem_nil)).1, by decide +kernel⟩

/-! ## Records that are not read back -/

def deadlineOf (record : JsValue) : Option Int :=
  (safeInteger (record.field "expiresAt")).or (safeInteger (record.field "recoveryDeadlineAt"))

/-- The last record that the operation writes is refused before its deadline. -/
def refusedBeforeDeadline (start : World) (operation : Operation) (now : Int) : Bool :=
  ((operation.perform sampleServices start).2.writes.getLast?).any fun item =>
    (deadlineOf item.2).all (now < ·) &&
      (pendingAutofillTransactionFromUnknown sampleServices.toLibrary item.2 7 now pendingAutofillTransactionTtlMs).isNone

/-- The last record that the operation writes is read without its conflict. -/
def losesConflict (start : World) (operation : Operation) (now : Int) : Bool :=
  ((operation.perform sampleServices start).2.writes.getLast?).any fun item =>
    (item.2.field "conflict").isSome &&
      (pendingAutofillTransactionFromUnknown sampleServices.toLibrary item.2 7 now pendingAutofillTransactionTtlMs).any
        fun transaction => (transaction.toRecord.lookup "conflict").isNone

def sampleKey : JsText := pendingAutofillTransactionStorageKey sampleServices.toLibrary 7

/-- The plan of the first version is for another site than the record. -/
def foreignLegacy : StorageItems :=
  [(sampleKey, .object [("version", .number 1), ("transactionId", .string sampleId), ("state", text "associated"),
    ("tabId", .number 7), ("origin", text "https://site.example"), ("url", text "https://site.example/login"),
    ("username", text "ada"), ("password", text "correct horse"), ("submittedAt", integer 1000), ("vaultId", text "vault"),
    ("mutation", .object (samplePlan "https://other.example").toRecord)])]

def sampleExecutable : PendingAutofillExecutable where
  transactionId := sampleId
  tabId := 7
  origin := ofString "https://site.example"
  submittedAt := 1000
  vaultId := ofString "vault"
  operationId := sampleId
  plan := samplePlan "https://site.example"
  recoveryDeadlineAt := 10000

/-- No attempt is left to be counted. -/
def lastAttempt : StorageItems :=
  [(sampleKey, .object (PendingAutofillTransaction.toRecord (.persisting sampleExecutable
    (some { attemptId := sampleId, attemptCount := maxSafeInteger, lastAttemptAt := 1100, leaseExpiresAt := 1200 }))))]

def retriedConflict : StorageItems :=
  [(sampleKey, .object (PendingAutofillTransaction.toRecord (.persistConflict sampleExecutable
    { code := .activeVaultMismatch, retryable := true })))]

/-- A transaction is completed, and its record has the address of a page where the origin stands. -/
def completedPage : StorageItems :=
  [(sampleKey, .object [("transactionId", .string sampleId), ("origin", text "https://site.example/login")]),
    (pendingAutofillCompletionStorageKey sampleId, .object (PendingAutofillCompletionRecord.toRecord {
      transactionId := sampleId, operationId := none, vaultIdHash := none, entryId := none, outcome := .persisted
      completedAt := 1500, expiresAt := 10000 }))]

theorem pendingLog_refuses :
    refusedBeforeDeadline (worldOf []) (.putCaptured 7 sampleSubmission) 500 = true ∧
      refusedBeforeDeadline (worldOf completedPage) .cleanupCompletedTransactions 2000 = true ∧
      refusedBeforeDeadline (worldOf lastAttempt) (.claimForTab 7 sampleId) 2000 = true ∧
      losesConflict (worldOf retriedConflict) (.claimForTab 7 sampleId) 2000 = true ∧
      refusedBeforeDeadline (worldOf foreignLegacy) (.loadForTab 7) 2000 = true := by decide +kernel

end VaultKern.Pending
