import VaultKern.Guarantees.NoOrphans
import VaultKern.Outcome.EntryUnits

/-! # Nothing written is lost

Every unit of an entry that all three sides have takes the value of the side that
changed it, or of the later side. A side that loses a unit to the other stays in
the history as a whole, and the caller is told to look for it there.
-/

namespace VaultKern

open ThreeWay

/-! ## Required snapshots -/

/-- The log only grows. -/
def LogLE (log log' : PatchLog) : Prop :=
  ∀ required ∈ log.requiredHistorySnapshots, required ∈ log'.requiredHistorySnapshots

theorem LogLE.refl (log : PatchLog) : LogLE log log := fun _ => id

theorem LogLE.trans {a b c : PatchLog} (first : LogLE a b) (second : LogLE b c) : LogLE a c :=
  fun required member => second required (first required member)

theorem addLosingHistorySnapshot_required (merged losing : Entry) (log : PatchLog) :
    (⟨merged.id, prepareEntryHistorySnapshot losing⟩ : ThreeWayPatchRecoverySnapshot) ∈
      (addLosingHistorySnapshot merged losing log).2.requiredHistorySnapshots := by
  simp only [addLosingHistorySnapshot]
  split <;> split <;> simp_all

theorem addLosingHistorySnapshot_grows (merged losing : Entry) (log : PatchLog) :
    LogLE log (addLosingHistorySnapshot merged losing log).2 := by
  intro required member
  simp only [addLosingHistorySnapshot]
  split <;> split <;> simp_all

theorem mergeEntry_grows (base local' remote : Entry) (log : PatchLog) :
    LogLE log (mergeEntry base local' remote log).2 := by
  simp only [mergeEntry]
  split
  · exact addLosingHistorySnapshot_grows _ _ log
  · exact .refl log

theorem mergeEntry_required {base local' remote : Entry} (conflict : entryConflict base local' remote = true)
    (log : PatchLog) :
    (⟨remote.id, prepareEntryHistorySnapshot (losingEntry local' remote)⟩ : ThreeWayPatchRecoverySnapshot) ∈
      (mergeEntry base local' remote log).2.requiredHistorySnapshots := by
  have flag : (mergeEntryUnits base local' remote
      (decide (local'.modifiedAt > remote.modifiedAt))).result.2.conflict = true := conflict
  simp only [mergeEntry, flag, if_true]
  exact addLosingHistorySnapshot_required _ _ log

@[simp] theorem countMergedEntry_required (changed : Bool) (log : PatchLog) :
    (countMergedEntry changed log).requiredHistorySnapshots = log.requiredHistorySnapshots := by
  cases changed <;> rfl

theorem locateEntry_grows (location : LocationMerge) (merged local' remote : Entry) (log : PatchLog) :
    LogLE log (locateEntry location merged local' remote log).2 := by
  simp only [locateEntry]
  split
  · exact addLosingHistorySnapshot_grows _ _ log
  · exact .refl log

theorem locateEntry_required {location : LocationMerge} (conflict : location.conflict = true)
    (merged local' remote : Entry) (log : PatchLog) :
    (⟨merged.id, prepareEntryHistorySnapshot (if location.prefersLocal then remote else local')⟩ :
        ThreeWayPatchRecoverySnapshot) ∈
      (locateEntry location merged local' remote log).2.requiredHistorySnapshots := by
  simp only [locateEntry, conflict, if_true]
  exact addLosingHistorySnapshot_required _ _ log

section Shared

variable (base local' remote : FlatEntry) (log : PatchLog)

theorem mergeSharedEntry_grows : LogLE log (mergeSharedEntry base local' remote log).2 := by
  intro required member
  simp only [mergeSharedEntry, countMergedEntry_required]
  exact (mergeEntry_grows _ _ _ log).trans (locateEntry_grows _ _ _ _ _) required member

theorem mergeSharedEntry_required_fields
    (conflict : entryConflict base.value local'.value remote.value = true) :
    (⟨remote.value.id, prepareEntryHistorySnapshot (losingEntry local'.value remote.value)⟩ :
        ThreeWayPatchRecoverySnapshot) ∈
      (mergeSharedEntry base local' remote log).2.requiredHistorySnapshots := by
  simp only [mergeSharedEntry, countMergedEntry_required]
  exact locateEntry_grows _ _ _ _ _ _ (mergeEntry_required conflict log)

theorem mergeSharedEntry_required_location (conflict : (entryLocation base local' remote).conflict = true) :
    (⟨remote.value.id, prepareEntryHistorySnapshot
        (if (entryLocation base local' remote).prefersLocal then remote.value else local'.value)⟩ :
        ThreeWayPatchRecoverySnapshot) ∈
      (mergeSharedEntry base local' remote log).2.requiredHistorySnapshots := by
  have member := locateEntry_required conflict (mergeEntry base.value local'.value remote.value log).1.1
    local'.value remote.value (mergeEntry base.value local'.value remote.value log).2
  have sameId : (mergeEntry base.value local'.value remote.value log).1.1.id = remote.value.id := by
    rw [mergeEntry_value]
    rfl
  rw [sameId] at member
  simp only [mergeSharedEntry, countMergedEntry_required]
  exact member

end Shared

theorem selectEntryRow_grows {base local' remote : FlatVault} {lp rp : List Uuid} {id : Uuid}
    {log log' : PatchLog} {row : Option FlatEntry}
    (selected : selectEntryRow base local' remote lp rp id log = .ok (row, log')) : LogLE log log' := by
  simp only [selectEntryRow] at selected
  split at selected
  case h_4 => split at selected <;> cases selected; exact .refl log
  case h_8 => cases selected; exact mergeSharedEntry_grows _ _ _ log
  all_goals cases selected; exact .refl log

namespace PatchRun

variable {base local' remote : Vault} {result : ThreeWayPatchResult} (run : PatchRun base local' remote result)
  {id : Uuid} {b l r : FlatEntry}

include run

theorem required_eq : result.requiredHistorySnapshots = run.log.requiredHistorySnapshots :=
  congrArg (·.requiredHistorySnapshots) run.assembled

/-- What the merge of a shared entry requires, the result requires. -/
theorem shared_log (inBase : base.flat.entries[id]? = some b) (inLocal : local'.flat.entries[id]? = some l)
    (inRemote : remote.flat.entries[id]? = some r) :
    ∃ before, LogLE (mergeSharedEntry b l r before).2 run.log := by
  have listed : id ∈ BTreeMap.unionKeys3 base.flat.entries local'.flat.entries remote.flat.entries :=
    (BTreeMap.mem_unionKeys3 _ _ _ _).mpr (.inl ((BTreeMap.mem_iff_lookup _ _).mpr ⟨b, inBase⟩))
  obtain ⟨_, visits⟩ := BTreeMap.collectM_trace LogLE LogLE.refl LogLE.trans
    (fun visited => selectEntryRow_grows (mergeEntryRow_ok.mp visited).1)
    (BTreeMap.unionKeys3_nodup _ _ _) (by simp) run.mergedEntries
  obtain ⟨before, after, visited, _, high⟩ := visits id listed
  have selected := (mergeEntryRow_ok.mp visited).1
  simp only [selectEntryRow, inBase, inLocal, inRemote] at selected
  have logs := congrArg Prod.snd (Except.ok.inj selected)
  exact ⟨before, logs ▸ high⟩

theorem shared_row (inBase : base.flat.entries[id]? = some b) (inLocal : local'.flat.entries[id]? = some l)
    (inRemote : remote.flat.entries[id]? = some r) : run.entries[id]? = some (mergedEntryRow b l r) := by
  have choice := run.entry_chosen id
  rw [inBase, inLocal, inRemote] at choice
  generalize run.entries[id]? = row at choice
  cases choice with
  | shared merge => rw [merge]

end PatchRun

/-! ## The guarantee -/

/-- A change of one side is taken; of two changes the one of the later side. -/
structure TakesChange {α : Type} (base ours theirs merged : α) (oursLater : Bool) : Prop where
  theirsOnly : ours = base → merged = theirs
  oursOnly : theirs = base → merged = ours
  both : ours ≠ base → theirs ≠ base → merged = if oursLater then ours else theirs

theorem takesChange_pick {α : Type} [DecidableEq α] (base ours theirs : α) (oursLater : Bool) :
    TakesChange base ours theirs (pick base ours theirs oursLater) oursLater where
  theirsOnly := by
    rintro rfl
    exact pick_ours_base _ _ _
  oursOnly := by
    rintro rfl
    exact pick_theirs_base _ _ _
  both left right := by
    by_cases same : ours = theirs
    · subst same
      simp
    · exact pick_conflict ⟨left, right, same⟩ oursLater

/-- The entry's snapshot is in the merged history and required of the published file. -/
def Recoverable (result : ThreeWayPatchResult) (id : Uuid) (history : List Entry) (losing : Entry) : Prop :=
  prepareEntryHistorySnapshot losing ∈ history ∧
    ⟨id, prepareEntryHistorySnapshot losing⟩ ∈ result.requiredHistorySnapshots

/-- What the merged row of a shared entry holds. -/
structure KeepsWrites (result : ThreeWayPatchResult) (id : Uuid) (b l r merged : FlatEntry) : Prop where
  units : ∀ unit : EntryUnit, TakesChange (unit.get b.value) (unit.get l.value) (unit.get r.value)
    (unit.get merged.value) (l.value.modifiedAt > r.value.modifiedAt)
  parent : TakesChange b.parent l.parent r.parent merged.parent
    (l.value.locationChangedAt.getD 0 > r.value.locationChangedAt.getD 0)
  losingUnit : ∀ unit : EntryUnit, Conflicts (unit.get b.value) (unit.get l.value) (unit.get r.value) →
    Recoverable result id merged.value.history
      (if l.value.modifiedAt > r.value.modifiedAt then r.value else l.value)
  losingParent : Conflicts b.parent l.parent r.parent →
    Recoverable result id merged.value.history
      (if l.value.locationChangedAt.getD 0 > r.value.locationChangedAt.getD 0 then r.value else l.value)
  history : ∀ entry, entry ∈ b.value.history ∨ entry ∈ l.value.history ∨ entry ∈ r.value.history →
    entry ∈ merged.value.history

theorem mergedEntryRow_get (unit : EntryUnit) (b l r : FlatEntry) :
    unit.get (mergedEntryRow b l r).value =
      pick (unit.get b.value) (unit.get l.value) (unit.get r.value)
        (entryPrefersLocal l.value r.value) := by
  simp only [mergedEntryRow, mergedFields, EntryUnit.get_setHistory, EntryUnit.get_setEntryLocationChangedAt,
    EntryUnit.get_normalizeEntrySlots, EntryUnit.get_setEntryModifiedAt]
  exact mergeEntryUnits_get _ _ _ _ unit

theorem mem_locatedHistory {b l r : FlatEntry} {entry : Entry}
    (member : entry ∈ mergedHistory b.value l.value r.value) : entry ∈ locatedHistory b l r := by
  simp only [locatedHistory]
  split
  · exact mem_withSnapshot.mpr (.inl member)
  · exact member

theorem mem_mergedHistory {b l r entry : Entry} (member : entry ∈ r.history ∨ entry ∈ b.history ∨ entry ∈ l.history) :
    entry ∈ mergedHistory b l r := by
  have union := mem_historyUnion.mpr member
  simp only [mergedHistory]
  split
  · exact mem_withSnapshot.mpr (.inl union)
  · exact union

/-- The location prefers the local side of a conflict by its clock. -/
theorem entryLocation_prefersLocal {b l r : FlatEntry} (conflict : Conflicts b.parent l.parent r.parent) :
    (entryLocation b l r).prefersLocal =
      decide (l.value.locationChangedAt.getD 0 > r.value.locationChangedAt.getD 0) := by
  obtain ⟨left, right, apart⟩ := conflict
  simp only [entryLocation, mergeLocation, left, right, apart, if_false]
  split <;> simp_all

theorem entryConflict_iff (b l r : Entry) : entryConflict b l r = true ↔ EntryConflict b l r :=
  (detects_entryUnits b l r _).result

theorem PatchRun.keepsWrites {base local' remote : Vault} {result : ThreeWayPatchResult}
    (run : PatchRun base local' remote result) {id : Uuid} {b l r : FlatEntry}
    (inBase : base.flat.entries[id]? = some b) (inLocal : local'.flat.entries[id]? = some l)
    (inRemote : remote.flat.entries[id]? = some r) :
    ∃ merged, result.vault.flat.entries[id]? = some merged ∧ KeepsWrites result id b l r merged := by
  have row := run.shared_row inBase inLocal inRemote
  obtain ⟨before, grows⟩ := run.shared_log inBase inLocal inRemote
  have sameId : r.value.id = id := run.wfRemote.entryId inRemote
  obtain ⟨merged, stored, parent, value⟩ := (run.entry_place id _ _).mpr ⟨_, row, rfl, rfl⟩
  refine ⟨merged, stored, ?_, ?_, ?_, ?_, ?_⟩
  · intro unit
    rw [value, mergedEntryRow_get]
    exact takesChange_pick _ _ _ _
  · rw [parent, mergedEntryRow, entryLocation, mergeLocation_parent]
    exact takesChange_pick _ _ _ _
  · intro unit differs
    have conflict := (entryConflict_iff b.value l.value r.value).mpr (.unit unit differs)
    have losing : losingEntry l.value r.value =
        if l.value.modifiedAt > r.value.modifiedAt then r.value else l.value := by
      simp [losingEntry, entryPrefersLocal]
    rw [← losing, value]
    constructor
    · refine mem_locatedHistory ?_
      rw [mergedHistory, if_pos conflict]
      exact mem_withSnapshot.mpr (.inr rfl)
    · rw [run.required_eq, ← sameId]
      exact grows _ (mergeSharedEntry_required_fields b l r before conflict)
  · intro differs
    have conflict : (entryLocation b l r).conflict = true := (mergeLocation_conflict _ _ _ _ _).mpr differs
    have losing : (if (entryLocation b l r).prefersLocal then r.value else l.value) =
        if l.value.locationChangedAt.getD 0 > r.value.locationChangedAt.getD 0 then r.value else l.value := by
      rw [entryLocation_prefersLocal differs]
      simp
    rw [← losing, value]
    constructor
    · change _ ∈ locatedHistory b l r
      rw [locatedHistory, if_pos conflict]
      exact mem_withSnapshot.mpr (.inr rfl)
    · rw [run.required_eq, ← sameId]
      exact grows _ (mergeSharedEntry_required_location b l r before conflict)
  · intro entry member
    rw [value]
    refine mem_locatedHistory (mem_mergedHistory ?_)
    rcases member with h | h | h
    · exact .inr (.inl h)
    · exact .inr (.inr h)
    · exact .inl h

/-- Nothing a side wrote becomes unrecoverable. -/
theorem patch_keeps_writes {base local' remote : Vault} {result : ThreeWayPatchResult}
    (success : threeWayFieldPatch base local' remote = .ok result) {id : Uuid} {b l r : FlatEntry}
    (inBase : base.flat.entries[id]? = some b) (inLocal : local'.flat.entries[id]? = some l)
    (inRemote : remote.flat.entries[id]? = some r) :
    ∃ merged, result.vault.flat.entries[id]? = some merged ∧ KeepsWrites result id b l r merged := by
  obtain ⟨run⟩ := threeWayFieldPatch_ok.mp success
  exact run.keepsWrites inBase inLocal inRemote

/-- Both sides rename one entry, and the local one moves it to another group later. -/
def renamedEntryBase : Vault :=
  { name := "Vault"
    root :=
      { id := 1, title := "Root", entries := [{ id := 10, title := "Old" }]
        children := [{ id := 2, title := "Folder" }] } }

def renamedEntryLocal : Vault :=
  { name := "Vault"
    root :=
      { id := 1, title := "Root"
        children :=
          [{ id := 2, title := "Folder"
             entries := [{ id := 10, title := "Ours", modifiedAt := 3, locationChangedAt := some 7 }] }] } }

def renamedEntryRemote : Vault :=
  { name := "Vault"
    root :=
      { id := 1, title := "Root", entries := [{ id := 10, title := "Theirs", modifiedAt := 5 }]
        children := [{ id := 2, title := "Folder" }] } }

theorem patch_keeps_writes_renamedEntry :
    ∃ result merged, threeWayFieldPatch renamedEntryBase renamedEntryLocal renamedEntryRemote = .ok result ∧
      result.vault.flat.entries[(10 : Uuid)]? = some merged ∧
        KeepsWrites result 10 ⟨{ id := 10, title := "Old" }, 1, 0⟩
          ⟨{ id := 10, title := "Ours", modifiedAt := 3, locationChangedAt := some 7 }, 2, 0⟩
          ⟨{ id := 10, title := "Theirs", modifiedAt := 5 }, 1, 0⟩ merged := by
  cases run : threeWayFieldPatch renamedEntryBase renamedEntryLocal renamedEntryRemote with
  | error e =>
      have success : (threeWayFieldPatch renamedEntryBase renamedEntryLocal
        renamedEntryRemote).toBool = true := by decide +kernel
      rw [run] at success
      cases success
  | ok result =>
      have inBase : renamedEntryBase.flat.entries[(10 : Uuid)]? =
          some ⟨{ id := 10, title := "Old" }, 1, 0⟩ := by decide +kernel
      have inLocal : renamedEntryLocal.flat.entries[(10 : Uuid)]? =
          some ⟨{ id := 10, title := "Ours", modifiedAt := 3, locationChangedAt := some 7 }, 2, 0⟩ := by
        decide +kernel
      have inRemote : renamedEntryRemote.flat.entries[(10 : Uuid)]? =
          some ⟨{ id := 10, title := "Theirs", modifiedAt := 5 }, 1, 0⟩ := by decide +kernel
      obtain ⟨merged, stored, keeps⟩ := patch_keeps_writes run inBase inLocal inRemote
      exact ⟨result, merged, rfl, stored, keeps⟩

end VaultKern
