import VaultKern.Guarantees.Placement
import VaultKern.Runtime.OtpauthUri
import VaultKern.Runtime.Trimming

/-! # When an edit of the runtime fails half way

Every mutator leaves the vault alone when it fails. The requests of the runtime chain
several of them and undo nothing, so a request that fails after its first write leaves
a changed vault behind.
-/

namespace VaultKern

open Attempt

/-! ## Entries outlive the history limits -/

mutual
theorem findEntryById_isSome {id : String} : ∀ root : Group,
    (findEntryById id root).isSome = (entriesIn root).any fun entry => uuidToString entry.id = id
  | ⟨fields, entries, children⟩ => by
      have here : (entries.find? fun entry => uuidToString entry.id = id).isSome =
          entries.any fun entry => uuidToString entry.id = id := by
        rw [Bool.eq_iff_iff]
        simp
      rw [findEntryById, Option.isSome_or, entriesIn_mk, List.any_append, findEntryIn_isSome children, here]

theorem findEntryIn_isSome {id : String} : ∀ children : List Group,
    (findEntryIn id children).isSome = (children.flatMap entriesIn).any fun entry => uuidToString entry.id = id
  | [] => rfl
  | child :: rest => by
      rw [findEntryIn, Option.isSome_or, List.flatMap_cons, List.any_append, findEntryById_isSome child,
        findEntryIn_isSome rest]
end

/-- Both trees have entries of the same ids. -/
def SameEntryIds (before after : List Entry) : Prop := after.map (·.id) = before.map (·.id)

theorem SameEntryIds.found {id : String} {before after : Group}
    (same : SameEntryIds (entriesIn before) (entriesIn after)) :
    (findEntryById id after).isSome = (findEntryById id before).isSome := by
  have ids (root : Group) : (findEntryById id root).isSome =
      ((entriesIn root).map (·.id)).any fun entry => uuidToString entry = id := by
    rw [findEntryById_isSome, List.any_map]
    rfl
  rw [ids, ids, same]

theorem Trimmed.ids {before after : Group} (trimmed : Trimmed before after) :
    SameEntryIds (entriesIn before) (entriesIn after) := by
  have pairs := trimmed.entries
  unfold SameEntryIds
  generalize entriesIn before = old, entriesIn after = new at *
  induction pairs with
  | nil => rfl
  | cons entry _ ih => rw [List.map_cons, List.map_cons, ih, entry.fields]

/-- No entry leaves the tree with its history. -/
theorem enforceHistoryLimits_found {id : String} (vault : Vault) :
    (findEntryById id (enforceHistoryLimits vault).root).isSome = (findEntryById id vault.root).isSome :=
  (enforceHistoryLimits_trimmed vault).ids.found

/-! ## Parts of requests -/

/-- When an edit of a vault fails late it has changed the vault, when it fails sooner it has
    not, and when it succeeds the entry can be found. -/
structure FailsLateIf {A : Type} (entryIdOf : A → String) (m : VaultEdit A) (vault : Vault) (late : Prop) : Prop where
  changed : late → ∃ e, (m vault).1 = .error e ∧ (m vault).2 ≠ vault
  unchanged : ¬ late → ∀ e, (m vault).1 = .error e → (m vault).2 = vault
  found : ∀ a, (m vault).1 = .ok a → (findEntryById (entryIdOf a) (m vault).2.root).isSome

section Parts

variable {entryId : String} {vault : Vault}

/-- The entry with a snapshot of itself as the last item of its history. -/
def Entry.snapshotted (entry : Entry) : Entry :=
  { entry with history := entry.history ++ [prepareEntryHistorySnapshot entry] }

def Vault.putEntry (vault : Vault) (entryId : String) (entry : Entry) : Vault :=
  { vault with root := putEntryById entryId entry vault.root }

theorem snapshotted_named {entry : Entry} (found : findEntryById entryId vault.root = some entry) :
    uuidToString entry.snapshotted.id = entryId := by
  have same : entry.snapshotted.id = entry.id := rfl
  rw [same]
  exact findEntryById_named vault.root found

theorem snapshot_run {entry : Entry} (found : findEntryById entryId vault.root = some entry) :
    ∃ view, core (snapshotEntryToHistory entryId) vault = (.ok view, vault.putEntry entryId entry.snapshotted) := by
  simp [core, snapshotEntryToHistory, onEntry, within, found, Vault.putEntry, Entry.snapshotted]

theorem snapshotted_found {entry : Entry} (found : findEntryById entryId vault.root = some entry) :
    findEntryById entryId (vault.putEntry entryId entry.snapshotted).root = some entry.snapshotted :=
  findEntryById_put (snapshotted_named found) vault.root found

/-- The snapshot is written first, so a change that fails leaves it behind. -/
theorem editWithHistory_late {entry : Entry} {change : VaultEdit Unit} {fits : Prop}
    (found : findEntryById entryId vault.root = some entry)
    (edits : EditsAt entryId change (vault.putEntry entryId entry.snapshotted) entry.snapshotted fits) :
    FailsLateIf (fun _ => entryId) (editWithHistory entryId change) vault ¬ fits := by
  obtain ⟨view, ran⟩ := snapshot_run found
  have run : editWithHistory entryId change vault = (change >>= fun _ => modify enforceHistoryLimits : VaultEdit Unit)
      (vault.putEntry entryId entry.snapshotted) := by
    rw [editWithHistory, bind_run, ran]
  rw [bind_run] at run
  obtain ⟨succeeds, entry', found', history, -⟩ := edits
  cases result : change (vault.putEntry entryId entry.snapshotted) with
  | mk outcome vault' =>
      rw [result] at succeeds found' run
      cases outcome with
      | error e =>
          have misfit : ¬ fits := fun fits => (nomatch succeeds.mpr fits)
          have longer : vault' ≠ vault := by
            intro same
            rw [same, found] at found'
            have lengths := congrArg List.length ((congrArg Entry.history (Option.some.inj found')).trans history)
            simp [Entry.snapshotted] at lengths
          refine ⟨fun _ => ⟨e, by rw [run], by rw [run]; exact longer⟩, fun sooner => absurd misfit sooner, ?_⟩
          rw [run]
          exact nofun
      | ok =>
          refine ⟨fun misfit => absurd (succeeds.mp rfl) misfit, ?_, ?_⟩
          · rw [run]
            exact fun _ _ => nofun
          · intro _ _
            rw [run]
            show (findEntryById entryId (enforceHistoryLimits vault').root).isSome
            rw [enforceHistoryLimits_found, found']
            rfl

/-- What `add_entry_with_id` asks for. -/
structure Addable (vault : Vault) (now : Int) (parentGroupId entryId : String) (create : EntryCreate) : Prop where
  id : ∃ id, parseUuid entryId = .ok id ∧ id ≠ 0 ∧ uuidToString id = entryId ∧ vault.usesUuid id = false
  title : isXml10Text create.title
  username : isXml10Text create.username
  url : isXml10Text create.url
  notes : isXml10Text create.notes
  parent : (findGroupById parentGroupId vault.root).isSome
  clock : ClockFits now.toNat

theorem findEntryById_unused {id : Uuid} (unused : vault.usesUuid id = false) :
    findEntryById (uuidToString id) vault.root = none := by
  have absent := (usesUuid_eq_false.mp unused).1
  rw [← Option.not_isSome_iff_eq_none, findEntryById_isSome, List.any_eq_true]
  rintro ⟨entry, inside, named⟩
  have same : entry.id = id := uuidToString_injective (of_decide_eq_true named)
  exact absent (List.mem_append_right _ (same ▸ List.mem_map_of_mem inside))

/-- An added entry was not there before and is there afterwards. -/
theorem addEntryWithId_added {now : Int} {parentGroupId : String} {create : EntryCreate}
    (addable : Addable vault now parentGroupId entryId create) :
    ∃ view vault', addEntryWithId now parentGroupId entryId create vault = (.ok view, vault') ∧ view.id = entryId ∧
      findEntryById entryId vault.root = none ∧ (findEntryById entryId vault'.root).isSome := by
  obtain ⟨⟨id, parsed, nonzero, rfl, unused⟩, title, username, url, notes, parent, clock⟩ := addable
  obtain ⟨group, held⟩ := Option.isSome_iff_exists.mp parent
  obtain ⟨after, put⟩ : ∃ after, putInto parentGroupId (·.addEntry (createdEntry id now.toNat create)) vault.root =
      some after := by
    rw [← Option.isSome_iff_exists, putInto_isSome]
    exact parent
  have clockChecked := validatePersistentUnsignedTimestamp_ok.mpr clock
  have texts {text kind : String} (fits : isXml10Text text) : validateUnprotectedXmlText text kind = .ok () :=
    validateUnprotectedXmlText_ok.mpr fits
  refine ⟨projectEntry (createdEntry id now.toNat create), { vault with root := after }, ?_, rfl,
    findEntryById_unused unused, ?_⟩
  · simp only [addEntryWithId, parsed, lift_ok, bind_run, nonzero, ne_eq, not_false_eq_true, decide_true, Bool.and_self,
      ensure_true, get_run, unused, Bool.not_false, texts title, texts username, texts url, texts notes,
      readGroup_cases, held, clockChecked, pushEntry_cases, put]
  · rw [findEntryById_isSome, (entriesIn_addEntry put).any_eq]
    simp [createdEntry]

theorem addEntryWithId_refused {now : Int} {parentGroupId : String} {create : EntryCreate}
    (refused : ¬ Addable vault now parentGroupId entryId create) :
    ∃ e, addEntryWithId now parentGroupId entryId create vault = (.error e, vault) := by
  have atomic := addEntryWithId_atomic now parentGroupId entryId create vault
  cases run : addEntryWithId now parentGroupId entryId create vault with
  | mk result vault' =>
      cases result with
      | error e =>
          rw [run] at atomic
          exact ⟨e, congrArg (Prod.mk _) (atomic e rfl)⟩
      | ok view =>
          refine absurd ?_ refused
          obtain ⟨id, parsed, result⟩ := (ReadOnly.lift _).bind_ok.mp run
          obtain ⟨_, canonical, result⟩ := (ReadOnly.ensure _ _).bind_ok.mp result
          obtain ⟨_, ⟨⟩, result⟩ := ReadOnly.get.bind_ok.mp result
          obtain ⟨_, unused, result⟩ := (ReadOnly.ensure _ _).bind_ok.mp result
          obtain ⟨_, title, result⟩ := (ReadOnly.lift _).bind_ok.mp result
          obtain ⟨_, username, result⟩ := (ReadOnly.lift _).bind_ok.mp result
          obtain ⟨_, url, result⟩ := (ReadOnly.lift _).bind_ok.mp result
          obtain ⟨_, notes, result⟩ := (ReadOnly.lift _).bind_ok.mp result
          obtain ⟨group, parent, result⟩ := (ReadOnly.bind .get fun _ => .require _ _).bind_ok.mp result
          obtain ⟨_, clock, -⟩ := (ReadOnly.lift _).bind_ok.mp result
          have canonical := (ensure_ok.mp canonical).1
          simp only [ne_eq, Bool.and_eq_true, decide_eq_true_eq] at canonical
          refine ⟨⟨id, (lift_eq_ok.mp parsed).1, canonical.1, canonical.2, by simpa using (ensure_ok.mp unused).1⟩,
            validateUnprotectedXmlText_ok.mp (lift_eq_ok.mp title).1,
            validateUnprotectedXmlText_ok.mp (lift_eq_ok.mp username).1,
            validateUnprotectedXmlText_ok.mp (lift_eq_ok.mp url).1,
            validateUnprotectedXmlText_ok.mp (lift_eq_ok.mp notes).1, ?_,
            validatePersistentUnsignedTimestamp_ok.mp (lift_eq_ok.mp clock).1⟩
          have read := readGroup_cases vault parentGroupId
          cases held : findGroupById parentGroupId vault.root with
          | some group => rfl
          | none =>
              rw [held] at read
              exact absurd (read.symm.trans parent) (by simp)

/-- The times and the TOTP of an entry that was just added. -/
def finishRequestedEntry (modifiedAt : Nat) (totp : Option TotpSpec) (entryId : String) : VaultEdit String := do
  initializeEntryCreationTimes entryId modifiedAt
  match totp with
  | some totp =>
      let _ ← core (setEntryTotp entryId totp)
  | none => pure ()
  return entryId

theorem finishRequestedEntry_edits {totp : Option TotpSpec} (settable : ∀ spec, totp = some spec → TotpSettable spec)
    (modifiedAt : Nat) :
    EditsEntry entryId (finishRequestedEntry modifiedAt totp entryId) fun _ => ClockFits modifiedAt := by
  unfold finishRequestedEntry
  cases totp with
  | none =>
      refine .congr ((initializeEntryCreationTimes_edits modifiedAt).bind fun _ => (EditsEntry.pure ()).bind fun _ =>
        .pure entryId) ?_
      simp
  | some spec =>
      refine .congr ((initializeEntryCreationTimes_edits modifiedAt).bind fun _ =>
        (setEntryTotp_edits (settable spec rfl)).bind fun _ => .pure entryId) ?_
      simp

theorem finishRequestedEntry_result {totp : Option TotpSpec} {modifiedAt : Nat} {created : String}
    (result : (finishRequestedEntry modifiedAt totp entryId vault).1 = .ok created) : created = entryId := by
  have run : finishRequestedEntry modifiedAt totp entryId vault = (.ok created, _) := Prod.ext result rfl
  obtain ⟨_, _, -, rest⟩ := bind_ok.mp run
  cases totp with
  | none =>
      cases rest
      rfl
  | some spec =>
      obtain ⟨_, _, -, last⟩ := bind_ok.mp rest
      cases last
      rfl

theorem addRequestedEntry_run (drawn : Uuid) (coreNow : Int) (modifiedAt : Nat) (request : CreateEntryRequest)
    (totp : Option TotpSpec) :
    addRequestedEntry drawn coreNow modifiedAt request totp =
      core (addEntryWithId coreNow request.parentGroupId (request.requestedEntryId.getD (uuidToString drawn))
        request.create) >>= fun created => finishRequestedEntry modifiedAt totp created.id := by
  unfold addRequestedEntry finishRequestedEntry
  cases request.requestedEntryId <;> rfl

theorem addRequestedEntry_late (vault : Vault) (drawn : Uuid) (coreNow : Int) (modifiedAt : Nat)
    (request : CreateEntryRequest) {totp : Option TotpSpec} (settable : ∀ spec, totp = some spec → TotpSettable spec) :
    FailsLateIf id (addRequestedEntry drawn coreNow modifiedAt request totp) vault
      (Addable vault coreNow request.parentGroupId (request.requestedEntryId.getD (uuidToString drawn)) request.create ∧
        ¬ ClockFits modifiedAt) := by
  rw [addRequestedEntry_run]
  generalize request.requestedEntryId.getD (uuidToString drawn) = entryId
  by_cases addable : Addable vault coreNow request.parentGroupId entryId request.create
  · obtain ⟨view, added, run, rfl, before, after⟩ := addEntryWithId_added addable
    obtain ⟨entry, found⟩ := Option.isSome_iff_exists.mp after
    have edits := finishRequestedEntry_edits settable modifiedAt added entry found
    obtain ⟨entry', found', -⟩ := edits.keeps
    have step : (core (addEntryWithId coreNow request.parentGroupId view.id request.create) >>= fun created =>
        finishRequestedEntry modifiedAt totp created.id) vault = finishRequestedEntry modifiedAt totp view.id added := by
      simp only [bind_run, core, run]
    refine ⟨?_, fun sooner e failed => ?_, fun created result => ?_⟩
    · rintro ⟨-, late⟩
      obtain ⟨e, failed⟩ := edits.fails late
      refine ⟨e, by rw [step, failed], fun same => ?_⟩
      rw [← step, same, before] at found'
      cases found'
    · have succeeded := edits.succeeds.mpr (not_not.mp fun late => sooner ⟨addable, late⟩)
      rw [← step, failed] at succeeded
      cases succeeded
    · rw [step] at result ⊢
      rw [finishRequestedEntry_result result]
      exact Option.isSome_of_eq_some found'
  · obtain ⟨e, refused⟩ := addEntryWithId_refused addable
    have step : (core (addEntryWithId coreNow request.parentGroupId entryId request.create) >>= fun created =>
        finishRequestedEntry modifiedAt totp created.id) vault = (.error (.mutation e), vault) := by
      simp only [bind_run, core, refused]
    refine ⟨fun both => absurd both.1 addable, fun _ _ _ => by rw [step], ?_⟩
    rw [step]
    rintro _ ⟨⟩

theorem createEntryIn_late {drawn : Uuid} {coreNow : Int} {modifiedAt : Nat} {request : CreateEntryRequest}
    {totp : Option TotpSpec} (settable : ∀ spec, totp = some spec → TotpSettable spec) :
    FailsLateIf id (createEntryIn drawn coreNow modifiedAt request totp) vault
      (requestedEntry request vault = none ∧
        Addable vault coreNow request.parentGroupId (request.requestedEntryId.getD (uuidToString drawn)) request.create ∧
        ¬ ClockFits modifiedAt) := by
  cases known : requestedEntry request vault with
  | none =>
      have step : createEntryIn drawn coreNow modifiedAt request totp vault =
          addRequestedEntry drawn coreNow modifiedAt request totp vault := by
        simp only [createEntryIn, bind_run, get_run, known]
      have late := addRequestedEntry_late vault drawn coreNow modifiedAt request settable
      exact ⟨fun ⟨_, both⟩ => step ▸ late.changed both,
        fun sooner => step ▸ late.unchanged fun both => sooner ⟨rfl, both⟩, step ▸ late.found⟩
  | some existing =>
      obtain ⟨entryId, existing⟩ := existing
      have held : findEntryById entryId vault.root = some existing := by
        simp only [requestedEntry, Option.bind_eq_bind, Option.bind_eq_some_iff, Option.pure_def, Option.some.injEq,
          Prod.mk.injEq] at known
        obtain ⟨_, -, _, held, rfl, rfl⟩ := known
        exact held
      have step : createEntryIn drawn coreNow modifiedAt request totp vault =
          (ensure (matchesRequest request totp entryId existing vault) (plannedIdCollision entryId) >>= fun _ =>
            pure entryId : VaultEdit String) vault := by
        simp only [createEntryIn, bind_run, get_run, known]
      have reads : ReadOnly (ensure (matchesRequest request totp entryId existing vault) (plannedIdCollision entryId) >>=
          fun _ => pure entryId : VaultEdit String) :=
        .bind (.ensure _ _) fun _ => .pure _
      refine ⟨fun ⟨absent, _⟩ => (nomatch absent), fun _ _ _ => by rw [step]; exact reads vault, fun created result => ?_⟩
      rw [step] at result ⊢
      have run : (ensure (matchesRequest request totp entryId existing vault) (plannedIdCollision entryId) >>=
          fun _ => pure entryId : VaultEdit String) vault = (.ok created, _) := Prod.ext result rfl
      obtain ⟨_, _, checked, ended⟩ := bind_ok.mp run
      cases ended
      rw [reads vault]
      exact Option.isSome_of_eq_some held

theorem updateEntryFieldsIn_late {modifiedAt : Nat} {fields : EntryFieldsDto} {totp : Option TotpSpec}
    (settable : ∀ spec, totp = some spec → TotpSettable spec) :
    FailsLateIf (fun _ => entryId) (updateEntryFieldsIn modifiedAt entryId fields totp) vault
      (∃ entry, findEntryById entryId vault.root = some entry ∧
        ¬ (TextsFit entry.fieldProtection fields ∧ (∀ field ∈ fields.customFields, CustomFieldFits field) ∧
          ClockFits modifiedAt)) := by
  cases found : findEntryById entryId vault.root with
  | none =>
      have step : updateEntryFieldsIn modifiedAt entryId fields totp vault =
          (.error (.mutation (.entryNotFound entryId)), vault) := by
        simp only [updateEntryFieldsIn, readEntryTotp, bind_run, core, readEntry_cases, found]
      refine ⟨?_, fun _ _ _ => by rw [step], ?_⟩
      · rintro ⟨_, ⟨⟩, _⟩
      · rw [step]
        rintro _ ⟨⟩
  | some entry =>
      have step : updateEntryFieldsIn modifiedAt entryId fields totp vault =
          editWithHistory entryId (applyEntryFields modifiedAt entryId fields totp entry.totp.isSome) vault := by
        simp only [updateEntryFieldsIn, readEntryTotp, bind_run, core_readEntry found, pure_run]
      have late := editWithHistory_late found (applyEntryFields_edits modifiedAt fields settable entry.totp.isSome _ _
        (snapshotted_found found))
      refine ⟨?_, fun sooner => ?_, step ▸ late.found⟩
      · rintro ⟨_, same, misfit⟩
        cases same
        exact step ▸ late.changed misfit
      · exact step ▸ late.unchanged fun misfit => sooner ⟨entry, rfl, misfit⟩

theorem setEntryPasskeyIn_late {decodeBase64Url : String → Option (List UInt8)} {modifiedAt : Nat}
    {update : EntryPasskeyUpdateDto} :
    FailsLateIf (fun _ => entryId) (setEntryPasskeyIn decodeBase64Url modifiedAt entryId update) vault
      (∃ entry passkey, findEntryById entryId vault.root = some entry ∧
        applyPasskeyMetadataUpdate decodeBase64Url update (clonedEntryPasskeyById entryId vault.root) = .ok passkey ∧
        ¬ (LabelsFound entryId platformPasskeyLabels vault.root entry ∧ PasskeyTextsFit passkey ∧
          ClockFits modifiedAt)) := by
  cases given : applyPasskeyMetadataUpdate decodeBase64Url update (clonedEntryPasskeyById entryId vault.root) with
  | error e =>
      have step : setEntryPasskeyIn decodeBase64Url modifiedAt entryId update vault = (.error e, vault) := by
        simp only [setEntryPasskeyIn, bind_run, get_run, given, lift_error]
      refine ⟨?_, fun _ _ _ => by rw [step], ?_⟩
      · rintro ⟨_, _, _, ⟨⟩, _⟩
      · rw [step]
        rintro _ ⟨⟩
  | ok passkey =>
      have step : setEntryPasskeyIn decodeBase64Url modifiedAt entryId update vault =
          editWithHistory entryId (applyPasskey modifiedAt entryId passkey) vault := by
        simp only [setEntryPasskeyIn, bind_run, get_run, given, lift_ok]
      cases found : findEntryById entryId vault.root with
      | none =>
          have missing : editWithHistory entryId (applyPasskey modifiedAt entryId passkey) vault =
              (.error (.mutation (.entryNotFound entryId)), vault) := by
            simp [editWithHistory, bind_run, core, snapshotEntryToHistory, onEntry, within, found]
          refine ⟨?_, fun _ _ _ => by rw [step, missing], ?_⟩
          · rintro ⟨_, _, ⟨⟩, _⟩
          · rw [step, missing]
            rintro _ ⟨⟩
      | some entry =>
          have late := editWithHistory_late found (applyPasskey_at modifiedAt passkey (snapshotted_found found))
          have labels : LabelsFound entryId platformPasskeyLabels (vault.putEntry entryId entry.snapshotted).root
              entry.snapshotted ↔ LabelsFound entryId platformPasskeyLabels vault.root entry :=
            forall₂_congr fun key _ => by
              have data : entry.snapshotted.customData.contains key = entry.customData.contains key := rfl
              have same := entryHasCustomDataKey_put (snapshotted_named found) data vault.root found
              simp only [Vault.putEntry, same, data]
          rw [labels] at late
          refine ⟨?_, fun sooner => ?_, step ▸ late.found⟩
          · rintro ⟨_, _, same, same', misfit⟩
            cases same
            cases same'
            exact step ▸ late.changed misfit
          · exact step ▸ late.unchanged fun misfit => sooner ⟨entry, passkey, rfl, rfl, misfit⟩

end Parts

/-! ## Requests -/

section Requests

variable {A : Type} {session : Session} {vaultId entryId : String} {totpCode : TotpSpec → Nat → Option String}
  {decodeBase64Url : String → Option (List UInt8)}

/-- An error leaves every vault of the session as it was. -/
def KeptOnError (run : Runtime A) (session : Session) : Prop :=
  ∀ e, (run session).1 = .error e → (run session).2.vault = session.vault

theorem KeptOnError.of_refused {run : Runtime A} {e : RuntimeError} (refused : run session = (.error e, session)) :
    KeptOnError run session := by
  intro _ _
  rw [refused]

theorem keptOnError_congr {run run' : Runtime A} (same : run session = run' session) :
    KeptOnError run session ↔ KeptOnError run' session := by
  unfold KeptOnError
  rw [same]

theorem keptOnError_map {B : Type} {f : A → B} {run : Runtime A} :
    KeptOnError (f <$> run) session ↔ KeptOnError run session := by
  have mapped : f <$> run = run >>= fun a => pure (f a) := rfl
  unfold KeptOnError
  rw [mapped, bind_run]
  cases run session with
  | mk result session' => cases result <;> simp

theorem Session.vault_insert (session : Session) (vaultId : String) (vault : Vault) (other : String) :
    ({ session with loaded := session.loaded.insert vaultId (some vault) } : Session).vault other =
      if vaultId = other then .ok vault else session.vault other := by
  unfold Session.vault
  dsimp only
  rw [Std.ExtTreeMap.getElem?_insert]
  by_cases same : vaultId = other
  · simp [same]
  · simp [same]

/-- An edit of a vault and the reading of the entry afterwards. -/
theorem onVault_kept {entryIdOf : A → String} {m : VaultEdit A} {late : Vault → Prop}
    (parts : ∀ vault, FailsLateIf entryIdOf m vault (late vault)) :
    KeptOnError (onVault vaultId m >>= fun a => getEntryDetail totpCode vaultId (entryIdOf a)) session ↔
      ¬ ∃ vault, session.vault vaultId = .ok vault ∧ late vault := by
  cases opened : session.vault vaultId with
  | error e =>
      refine iff_of_true (.of_refused (e := e) ?_) fun ⟨_, same, _⟩ => (nomatch same)
      rw [bind_run, onVault, opened]
  | ok vault =>
      obtain ⟨changed, unchanged, found⟩ := parts vault
      have ran : onVault vaultId m session =
          ((m vault).1, { session with loaded := session.loaded.insert vaultId (some (m vault).2) }) := by
        rw [onVault, opened]
      by_cases late : late vault
      · obtain ⟨e, failed, differs⟩ := changed late
        refine iff_of_false (fun kept => ?_) (not_not.mpr ⟨vault, rfl, late⟩)
        have same := kept e (by rw [bind_run, ran, failed])
        rw [bind_run, ran, failed] at same
        have here := congrFun same vaultId
        rw [Session.vault_insert, if_pos rfl, opened] at here
        exact differs (Except.ok.inj here)
      · refine iff_of_true (fun e failed => ?_) fun ⟨_, same, late'⟩ => late (Except.ok.inj same ▸ late')
        rw [bind_run, ran] at failed ⊢
        cases result : (m vault).1 with
        | error e' =>
            funext other
            rw [Session.vault_insert, unchanged late e' result]
            split
            · rename_i same
              rw [← same, opened]
            · rfl
        | ok a =>
            obtain ⟨entry, held⟩ := Option.isSome_iff_exists.mp (found a result)
            have inside := Session.vault_insert session vaultId (m vault).2 vaultId
            rw [if_pos rfl] at inside
            simp [result, getEntryDetail, bind_run, inside, held, -bind_pure_comp] at failed

theorem parseTotpUri_settable {uri : Option String} {totp : Option TotpSpec} (parsed : parseTotpUri uri = .ok totp) :
    ∀ spec, totp = some spec → TotpSettable spec := by
  rintro spec rfl
  unfold parseTotpUri at parsed
  split at parsed
  · cases parsed
  · split at parsed
    · cases parsed
    · split at parsed
      · rename_i known
        cases parsed
        exact (parseOtpauth_readable known).settable
      · cases parsed

/-- An update of the fields that fails after the snapshot. -/
def UpdateFailsLate (session : Session) (vaultId entryId : String) (fields : EntryFieldsDto) : Prop :=
  ∃ vault entry totp, session.vault vaultId = .ok vault ∧ parseTotpUri fields.totpUri = .ok totp ∧
    findEntryById entryId vault.root = some entry ∧
    ¬ (TextsFit entry.fieldProtection fields ∧ (∀ field ∈ fields.customFields, CustomFieldFits field) ∧
      ClockFits session.now)

theorem updateEntryFields_kept {fields : EntryFieldsDto} :
    KeptOnError (Runtime.updateEntryFields totpCode vaultId entryId fields) session ↔
      ¬ UpdateFailsLate session vaultId entryId fields := by
  cases parsed : parseTotpUri fields.totpUri with
  | error e =>
      refine iff_of_true (.of_refused (e := e) ?_) fun ⟨_, _, _, _, same, _⟩ => ?_
      · simp only [Runtime.updateEntryFields, bind_run, get_run, parsed, lift_error]
      · rw [parsed] at same
        cases same
  | ok totp =>
      have run : Runtime.updateEntryFields totpCode vaultId entryId fields session =
          (onVault vaultId (updateEntryFieldsIn session.now entryId fields totp) >>= fun _ =>
            getEntryDetail totpCode vaultId entryId : Runtime EntryDetailDto) session := by
        rw [Runtime.updateEntryFields, bind_run, get_run, parsed]
        rfl
      rw [keptOnError_congr run, onVault_kept fun _ => updateEntryFieldsIn_late (parseTotpUri_settable parsed)]
      simp only [UpdateFailsLate, parsed, Except.ok.injEq]
      refine not_congr ⟨?_, ?_⟩
      · rintro ⟨vault, opened, entry, found, misfit⟩
        exact ⟨vault, entry, totp, opened, rfl, found, misfit⟩
      · rintro ⟨vault, entry, _, opened, rfl, found, misfit⟩
        exact ⟨vault, opened, entry, found, misfit⟩

/-- A creation that fails after the entry was added. -/
def CreateFailsLate (session : Session) (vaultId : String) (drawn : Uuid) (coreNow : Int)
    (request : CreateEntryRequest) : Prop :=
  ∃ vault totp, session.vault vaultId = .ok vault ∧ parseTotpUri request.totpUri = .ok totp ∧
    requestedEntry request vault = none ∧
    Addable vault coreNow request.parentGroupId (request.requestedEntryId.getD (uuidToString drawn)) request.create ∧
    ¬ ClockFits session.now

theorem createEntry_kept {drawn : Uuid} {coreNow : Int} {request : CreateEntryRequest} :
    KeptOnError (Runtime.createEntry totpCode drawn coreNow vaultId request) session ↔
      ¬ CreateFailsLate session vaultId drawn coreNow request := by
  cases parsed : parseTotpUri request.totpUri with
  | error e =>
      refine iff_of_true (.of_refused (e := e) ?_) fun ⟨_, _, _, same, _⟩ => ?_
      · simp only [Runtime.createEntry, bind_run, get_run, parsed, lift_error]
      · rw [parsed] at same
        cases same
  | ok totp =>
      have run : Runtime.createEntry totpCode drawn coreNow vaultId request session =
          (onVault vaultId (createEntryIn drawn coreNow session.now request totp) >>= fun entryId =>
            getEntryDetail totpCode vaultId entryId : Runtime EntryDetailDto) session := by
        rw [Runtime.createEntry, bind_run, get_run, parsed]
        rfl
      refine (keptOnError_congr run).trans ((onVault_kept fun _ =>
        createEntryIn_late (parseTotpUri_settable parsed)).trans (not_congr ?_))
      simp only [CreateFailsLate, parsed, Except.ok.injEq]
      refine ⟨?_, ?_⟩
      · rintro ⟨vault, opened, absent, addable, late⟩
        exact ⟨vault, totp, opened, rfl, absent, addable, late⟩
      · rintro ⟨vault, _, opened, rfl, absent, addable, late⟩
        exact ⟨vault, opened, absent, addable, late⟩

/-- The entry of an active vault is as expected, and there is something to change. -/
def ComparisonPasses (totpCode : TotpSpec → Nat → Option String) (session : Session) (vaultId entryId : String)
    (expected desired : EntryFieldsDto) : Prop :=
  session.activeVaultId = some vaultId ∧ expected ≠ desired ∧
    ∃ vault entry, session.vault vaultId = .ok vault ∧ findEntryById entryId vault.root = some entry ∧
      entryDetailMatchesFields (entryDetail totpCode session.now entry) expected

theorem getEntryDetail_ok (totpCode : TotpSpec → Nat → Option String) (session : Session) (vaultId entryId : String)
    (detail : EntryDetailDto) :
    (getEntryDetail totpCode vaultId entryId session).1 = .ok detail ↔
      ∃ vault entry, session.vault vaultId = .ok vault ∧ findEntryById entryId vault.root = some entry ∧
        entryDetail totpCode session.now entry = detail := by
  unfold getEntryDetail
  simp only [bind_run, get_run]
  cases session.vault vaultId with
  | error e => simp
  | ok vault =>
      cases found : findEntryById entryId vault.root with
      | none => simp [found]
      | some entry => simp [found]

theorem compareEntryFields_proceed (totpCode : TotpSpec → Nat → Option String) (session : Session)
    (vaultId entryId : String) (expected desired : EntryFieldsDto) :
    compareEntryFields totpCode vaultId entryId expected desired session = .proceed ↔
      ComparisonPasses totpCode session vaultId entryId expected desired ∧
        ∃ totp, parseTotpUri desired.totpUri = .ok totp := by
  have read := getEntryDetail_ok totpCode session vaultId entryId
  have compared : ComparisonPasses totpCode session vaultId entryId expected desired ↔
      session.activeVaultId = some vaultId ∧ expected ≠ desired ∧
        ∃ detail, (getEntryDetail totpCode vaultId entryId session).1 = .ok detail ∧
          entryDetailMatchesFields detail expected := by
    refine and_congr_right fun _ => and_congr_right fun _ => ?_
    constructor
    · rintro ⟨vault, entry, opened, found, same⟩
      exact ⟨_, (read _).mpr ⟨vault, entry, opened, found, rfl⟩, same⟩
    · rintro ⟨_, result, same⟩
      obtain ⟨vault, entry, opened, found, rfl⟩ := (read _).mp result
      exact ⟨vault, entry, opened, found, same⟩
  rw [compared, compareEntryFields]
  by_cases active : session.activeVaultId = some vaultId
  · simp only [active, ne_eq, not_true_eq_false, if_false, true_and]
    cases parseTotpUri desired.totpUri with
    | error e => simp
    | ok totp =>
        cases (getEntryDetail totpCode vaultId entryId session).1 with
        | error e => simp
        | ok detail =>
            by_cases equal : expected = desired
            · subst equal
              cases same : entryDetailMatchesFields detail expected <;> simp [same]
            · cases same : entryDetailMatchesFields detail expected <;> simp [equal, same]
  · simp [active]

theorem compareAndUpdateEntryFields_kept {expected desired : EntryFieldsDto} :
    KeptOnError (Runtime.compareAndUpdateEntryFields totpCode vaultId entryId expected desired) session ↔
      ¬ (ComparisonPasses totpCode session vaultId entryId expected desired ∧
        UpdateFailsLate session vaultId entryId desired) := by
  have proceed := compareEntryFields_proceed totpCode session vaultId entryId expected desired
  have stays : compareEntryFields totpCode vaultId entryId expected desired session ≠ .proceed →
      ¬ (ComparisonPasses totpCode session vaultId entryId expected desired ∧
        UpdateFailsLate session vaultId entryId desired) :=
    fun stays ⟨passes, _, _, totp, _, parsed, _⟩ => stays (proceed.mpr ⟨passes, totp, parsed⟩)
  cases outcome : compareEntryFields totpCode vaultId entryId expected desired session with
  | refused =>
      have run : Runtime.compareAndUpdateEntryFields totpCode vaultId entryId expected desired session =
          (.ok none, session) := by
        simp only [Runtime.compareAndUpdateEntryFields, bind_run, get_run, outcome, pure_run]
      exact iff_of_true (by rw [KeptOnError, run]; exact fun _ _ => rfl) (stays (by rw [outcome]; exact nofun))
  | already current =>
      have run : Runtime.compareAndUpdateEntryFields totpCode vaultId entryId expected desired session =
          (.ok (some current), session) := by
        simp only [Runtime.compareAndUpdateEntryFields, bind_run, get_run, outcome, pure_run]
      exact iff_of_true (by rw [KeptOnError, run]; exact fun _ _ => rfl) (stays (by rw [outcome]; exact nofun))
  | proceed =>
      have run : Runtime.compareAndUpdateEntryFields totpCode vaultId entryId expected desired session =
          (some <$> Runtime.updateEntryFields totpCode vaultId entryId desired : Runtime _) session := by
        simp only [Runtime.compareAndUpdateEntryFields, bind_run, get_run, outcome]
      rw [and_iff_right (proceed.mp outcome).1, keptOnError_congr run, keptOnError_map, updateEntryFields_kept]

def PasskeyFailsLate (decodeBase64Url : String → Option (List UInt8)) (session : Session) (vaultId entryId : String)
    (update : EntryPasskeyUpdateDto) : Prop :=
  ∃ vault entry passkey, session.vault vaultId = .ok vault ∧ findEntryById entryId vault.root = some entry ∧
    applyPasskeyMetadataUpdate decodeBase64Url update (clonedEntryPasskeyById entryId vault.root) = .ok passkey ∧
    ¬ (LabelsFound entryId platformPasskeyLabels vault.root entry ∧ PasskeyTextsFit passkey ∧ ClockFits session.now)

theorem setEntryPasskey_kept {update : EntryPasskeyUpdateDto} :
    KeptOnError (Runtime.setEntryPasskey totpCode decodeBase64Url vaultId entryId update) session ↔
      ¬ PasskeyFailsLate decodeBase64Url session vaultId entryId update := by
  have run : Runtime.setEntryPasskey totpCode decodeBase64Url vaultId entryId update session =
      (onVault vaultId (setEntryPasskeyIn decodeBase64Url session.now entryId update) >>= fun _ =>
        getEntryDetail totpCode vaultId entryId : Runtime EntryDetailDto) session := rfl
  rw [keptOnError_congr run, onVault_kept fun _ => setEntryPasskeyIn_late]
  refine not_congr ⟨?_, ?_⟩
  · rintro ⟨vault, opened, entry, passkey, rest⟩
    exact ⟨vault, entry, passkey, opened, rest⟩
  · rintro ⟨vault, entry, passkey, opened, rest⟩
    exact ⟨vault, opened, entry, passkey, rest⟩

/-- A request that edits an entry, with the id that the core draws and its reading of the clock. -/
inductive EntryEdit where
  | createEntry (drawn : Uuid) (coreNow : Int) (request : CreateEntryRequest)
  | updateEntryFields (entryId : String) (fields : EntryFieldsDto)
  | compareAndUpdateEntryFields (entryId : String) (expectedFields desiredFields : EntryFieldsDto)
  | setEntryPasskey (entryId : String) (passkey : EntryPasskeyUpdateDto)

def EntryEdit.run (totpCode : TotpSpec → Nat → Option String) (decodeBase64Url : String → Option (List UInt8))
    (vaultId : String) : EntryEdit → Runtime Unit
  | .createEntry drawn coreNow request => do
      let _ ← Runtime.createEntry totpCode drawn coreNow vaultId request
  | .updateEntryFields entryId fields => do
      let _ ← Runtime.updateEntryFields totpCode vaultId entryId fields
  | .compareAndUpdateEntryFields entryId expectedFields desiredFields => do
      let _ ← Runtime.compareAndUpdateEntryFields totpCode vaultId entryId expectedFields desiredFields
  | .setEntryPasskey entryId passkey => do
      let _ ← Runtime.setEntryPasskey totpCode decodeBase64Url vaultId entryId passkey

/-- The request passes all checks before its first write, and a later step cannot be done. -/
def EntryEdit.FailsLate (totpCode : TotpSpec → Nat → Option String) (decodeBase64Url : String → Option (List UInt8))
    (session : Session) (vaultId : String) : EntryEdit → Prop
  | .createEntry drawn coreNow request => CreateFailsLate session vaultId drawn coreNow request
  | .updateEntryFields entryId fields => UpdateFailsLate session vaultId entryId fields
  | .compareAndUpdateEntryFields entryId expectedFields desiredFields =>
      ComparisonPasses totpCode session vaultId entryId expectedFields desiredFields ∧
        UpdateFailsLate session vaultId entryId desiredFields
  | .setEntryPasskey entryId passkey => PasskeyFailsLate decodeBase64Url session vaultId entryId passkey

/-- A failed edit leaves the vaults as they were exactly if it does not fail late. -/
theorem entryEdit_kept_iff (totpCode : TotpSpec → Nat → Option String)
    (decodeBase64Url : String → Option (List UInt8)) (session : Session) (vaultId : String) (edit : EntryEdit) :
    (∀ e, (edit.run totpCode decodeBase64Url vaultId session).1 = .error e →
      (edit.run totpCode decodeBase64Url vaultId session).2.vault = session.vault) ↔
    ¬ edit.FailsLate totpCode decodeBase64Url session vaultId := by
  cases edit with
  | createEntry drawn coreNow request => exact keptOnError_map.trans createEntry_kept
  | updateEntryFields entryId fields => exact keptOnError_map.trans updateEntryFields_kept
  | compareAndUpdateEntryFields entryId expectedFields desiredFields =>
      exact keptOnError_map.trans compareAndUpdateEntryFields_kept
  | setEntryPasskey entryId passkey => exact keptOnError_map.trans setEntryPasskey_kept

def mailVault : Vault :=
  { name := "Mail"
    root := { id := 1, title := "Root", entries := [{ id := 2, title := "Mail" }] } }

def mailSession : Session :=
  { loaded := (∅ : BTreeMap String (Option Vault)).insert "mail" (some mailVault)
    activeVaultId := some "mail"
    now := 1700000000 }

/-- The key of the custom field is reserved for passkeys. -/
def reservedFields : EntryFieldsDto :=
  { title := "Renamed"
    username := ""
    password := ""
    url := ""
    notes := ""
    totpUri := none
    customFields := [{ key := "KPEX_PASSKEY_USERNAME", value := "user", isProtected := false }] }

/-- The update is refused for its custom field, after the snapshot and the new title were written. -/
theorem reservedField_halfDone : ¬ ∀ (totpCode : TotpSpec → Nat → Option String)
    (decodeBase64Url : String → Option (List UInt8)) (session : Session) (vaultId : String) (edit : EntryEdit)
    (e : RuntimeError), (edit.run totpCode decodeBase64Url vaultId session).1 = .error e →
      (edit.run totpCode decodeBase64Url vaultId session).2.vault = session.vault := by
  intro atomic
  have kept : KeptOnError (Runtime.updateEntryFields (fun _ _ => none) "mail" (uuidToString 2) reservedFields)
      mailSession :=
    keptOnError_map.mp (atomic _ (fun _ => none) mailSession "mail" (.updateEntryFields _ reservedFields))
  have opened : mailSession.vault "mail" = .ok mailVault := by simp [mailSession, Session.vault]
  have found : findEntryById (uuidToString 2) mailVault.root = some { id := 2, title := "Mail" } := by
    simp [mailVault, findEntryById]
  have misfit : ¬ ∀ field ∈ reservedFields.customFields, CustomFieldFits field := by
    intro fits
    rcases fits _ (List.mem_singleton_self _) with blank | ⟨free, _⟩
    · exact absurd blank (by decide +kernel)
    · exact absurd free (by decide +kernel)
  exact updateEntryFields_kept.mp kept
    ⟨mailVault, _, none, opened, rfl, found, fun fits => misfit fits.2.1⟩

end Requests

end VaultKern
