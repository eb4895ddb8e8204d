import VaultKern.Outcome.Closure

/-! # Runs of the patch

A successful patch passes every gate and produces, in this order, the merged
groups, their sibling orders, the merged entries, theirs, the tree and the meta
fields. The merged tables are those of a vault.
-/

namespace VaultKern

open ParentForest FlatVault

/-- The intermediate results of a successful patch. -/
structure PatchRun (base local' remote : Vault) (result : ThreeWayPatchResult) where
  uniqueBase : base.UniqueIds
  uniqueLocal : local'.UniqueIds
  uniqueRemote : remote.UniqueIds
  sameRoot : ensureSameRoot base.flat local'.flat remote.flat = .ok ()
  metaBase : ensureUniqueModeledMetaIds base "base" = .ok ()
  metaLocal : ensureUniqueModeledMetaIds local' "local" = .ok ()
  metaRemote : ensureUniqueModeledMetaIds remote "remote" = .ok ()
  fidelity : ensureFidelityConflictsRepresentable base local' remote base.flat local'.flat remote.flat = .ok ()
  siblings : ensureLocalSiblingOrderRepresentable base.flat local'.flat remote.flat = .ok ()
  groups : BTreeMap Uuid FlatGroup
  groupReport : ThreeWayPatchReport
  mergedGroups : mergeGroups base.flat local'.flat remote.flat
    (changedSubtreesDeletedFromOther base.flat local'.flat remote.flat)
    (changedSubtreesDeletedFromOther base.flat remote.flat local'.flat) {} = .ok (groups, groupReport)
  orderedGroups : BTreeMap Uuid FlatGroup
  groupOrders : reconcileGroupSiblingOrders base.flat local'.flat remote.flat groups = .ok orderedGroups
  hierarchy : validateGroupHierarchy base.flat.rootId orderedGroups = .ok ()
  entries : BTreeMap Uuid FlatEntry
  log : PatchLog
  mergedEntries : mergeEntries base.flat local'.flat remote.flat orderedGroups
    (changedSubtreesDeletedFromOther base.flat local'.flat remote.flat)
    (changedSubtreesDeletedFromOther base.flat remote.flat local'.flat) { report := groupReport } =
      .ok (entries, log)
  orderedEntries : BTreeMap Uuid FlatEntry
  entryOrders : reconcileEntrySiblingOrders base.flat local'.flat remote.flat entries = .ok orderedEntries
  root : Group
  rebuilt : rebuildTree orderedGroups orderedEntries (orderedGroups.size + 1) ∅ base.flat.rootId = .ok root
  merged : Vault
  mergedMeta : mergeMeta base local' remote = .ok merged
  assembled : result =
    { vault := assembleVault merged orderedGroups orderedEntries root
      report := log.report
      requiredHistorySnapshots := log.requiredHistorySnapshots }

theorem threeWayFieldPatch_ok {base local' remote : Vault} {result : ThreeWayPatchResult} :
    threeWayFieldPatch base local' remote = .ok result ↔ Nonempty (PatchRun base local' remote result) := by
  simp only [threeWayFieldPatch, Fallible.bind_ok, flattenVault_ok]
  constructor
  · rintro ⟨_, ⟨uniqueBase, rfl⟩, _, ⟨uniqueLocal, rfl⟩, _, ⟨uniqueRemote, rfl⟩, _, sameRoot, _, metaBase, _,
      metaLocal, _, metaRemote, _, fidelity, _, siblings, ⟨groups, groupReport⟩, mergedGroups, orderedGroups,
      groupOrders, _, hierarchy, ⟨entries, log⟩, mergedEntries, orderedEntries, entryOrders, root, rebuilt,
      merged, mergedMeta, assembled⟩
    exact ⟨{ uniqueBase, uniqueLocal, uniqueRemote, sameRoot, metaBase, metaLocal, metaRemote, fidelity,
             siblings, groups, groupReport, mergedGroups, orderedGroups, groupOrders, hierarchy, entries,
             log, mergedEntries, orderedEntries, entryOrders, root, rebuilt, merged, mergedMeta
             assembled := (Except.ok.inj assembled).symm }⟩
  · rintro ⟨run⟩
    exact ⟨_, ⟨run.uniqueBase, rfl⟩, _, ⟨run.uniqueLocal, rfl⟩, _, ⟨run.uniqueRemote, rfl⟩, _, run.sameRoot, _,
      run.metaBase, _, run.metaLocal, _, run.metaRemote, _, run.fidelity, _, run.siblings, _,
      run.mergedGroups, _, run.groupOrders, _, run.hierarchy, _, run.mergedEntries, _, run.entryOrders, _,
      run.rebuilt, _, run.mergedMeta, congrArg Except.ok run.assembled.symm⟩

/-! ## The merged tables -/

theorem ensureSameRoot_ok {base local' remote : FlatVault} :
    ensureSameRoot base local' remote = .ok () ↔ local'.rootId = base.rootId ∧ remote.rootId = base.rootId := by
  simp only [ensureSameRoot]
  split
  · rename_i apart
    simp only [Bool.or_eq_true, decide_eq_true_eq] at apart
    constructor
    · nofun
    · rintro ⟨left, right⟩
      rcases apart with h | h
      · exact absurd left.symm h
      · exact absurd right.symm h
  · rename_i same
    simp only [Bool.or_eq_true, decide_eq_true_eq, not_or, not_not] at same
    simp [same.1.symm, same.2.symm]

theorem mergeGroups_ok {base local' remote : FlatVault} {report report' : ThreeWayPatchReport}
    {merged : BTreeMap Uuid FlatGroup} :
    mergeGroups base local' remote (changedSubtreesDeletedFromOther base local' remote)
        (changedSubtreesDeletedFromOther base remote local') report = .ok (merged, report') ↔
      collectGroups base local' remote report = .ok (merged, report') ∧ orphanedGroup merged = none := by
  rw [mergeGroups, Fallible.bind_ok, collectGroups]
  constructor
  · rintro ⟨⟨collected, log⟩, run, checked⟩
    simp only at checked
    split at checked
    · cases checked
    · rename_i closed
      cases checked
      exact ⟨run, closed⟩
  · rintro ⟨run, closed⟩
    exact ⟨_, run, by simp [closed, pure, Except.pure]⟩

theorem mergeSharedGroup_id {id : Uuid} {b l r m : FlatGroup} (merge : SharedGroup id b l r m) :
    m.value.id = r.value.id ∧ m.value.shell = m.value := by
  obtain ⟨changed, merge⟩ := merge
  obtain ⟨⟨value, flag⟩, fields, rest⟩ := Fallible.bind_ok.mp merge
  obtain ⟨⟨parent, changedAt, prefers⟩, _, result⟩ := Fallible.bind_ok.mp rest
  cases result
  simp only [mergeGroupFields] at fields
  split at fields
  · cases fields
  · cases fields
    exact ⟨rfl, rfl⟩

theorem mergedEntryRow_id (b l r : FlatEntry) : (mergedEntryRow b l r).value.id = r.value.id := rfl

/-- Chosen groups, in any order, with chosen entries below them are the tables of a vault
    once the hierarchy is sound. -/
theorem tables_wellFormed {base local' remote : FlatVault} (wfBase : base.WellFormed)
    (wfLocal : local'.WellFormed) (wfRemote : remote.WellFormed) (localRoot : local'.rootId = base.rootId)
    (remoteRoot : remote.rootId = base.rootId) {groups orderedGroups : BTreeMap Uuid FlatGroup}
    {entries orderedEntries : BTreeMap Uuid FlatEntry}
    (groupChosen : ∀ id : Uuid, GroupChosen base local' remote id base.groups[id]? local'.groups[id]?
      remote.groups[id]? groups[id]?)
    (entryChosen : ∀ id : Uuid, EntryChosen base local' remote base.entries[id]? local'.entries[id]?
      remote.entries[id]? entries[id]?)
    (groupOrder : Reordered groups orderedGroups) (entryOrder : Reordered entries orderedEntries)
    (hierarchy : ∀ id ∈ orderedGroups,
      Reaches (fun id => orderedGroups[id]?.bind (·.parent)) id base.rootId) :
    FlatVault.WellFormed { rootId := base.rootId, entries := orderedEntries, groups := orderedGroups } := by
  have closed := (groups_parentClosed wfBase wfLocal wfRemote localRoot remoteRoot groupChosen).reordered
    groupOrder
  constructor
  · exact closed.root
  · exact closed.up
  · exact fun inside => hierarchy _ inside
  · intro id row here
    obtain ⟨before, there, sameParent, _⟩ := entryOrder.entry_row here
    rw [sameParent, groupOrder.mem_iff]
    exact entry_parent_kept wfLocal wfRemote groupChosen (entryChosen id) there
  · intro id row here
    obtain ⟨before, there, _, sameValue⟩ := groupOrder.group_row here
    rw [sameValue]
    refine (groupChosen id).holds (P := fun row => row.value.id = id) ?_ ?_ ?_ before there
    · exact fun row => wfLocal.groupId
    · exact fun row => wfRemote.groupId
    · exact fun _ _ inRemote merge => (mergeSharedGroup_id merge).1.trans (wfRemote.groupId inRemote)
  · intro id row here
    obtain ⟨before, there, _, sameValue⟩ := entryOrder.entry_row here
    rw [sameValue]
    refine (entryChosen id).holds (P := fun row => row.value.id = id) ?_ ?_ ?_ before there
    · exact fun row => wfLocal.entryId
    · exact fun row => wfRemote.entryId
    · rintro b l r m _ _ inRemote rfl
      exact (mergedEntryRow_id b l r).trans (wfRemote.entryId inRemote)
  · intro id row here
    obtain ⟨before, there, _, sameValue⟩ := groupOrder.group_row here
    rw [sameValue]
    refine (groupChosen id).holds (P := fun row => row.value.shell = row.value) ?_ ?_ ?_ before there
    · exact fun row => wfLocal.shell
    · exact fun row => wfRemote.shell
    · exact fun _ _ _ merge => (mergeSharedGroup_id merge).2

namespace PatchRun

variable {base local' remote : Vault} {result : ThreeWayPatchResult} (run : PatchRun base local' remote result)

include run

theorem wfBase : base.flat.WellFormed := Vault.flat_wellFormed run.uniqueBase

theorem wfLocal : local'.flat.WellFormed := Vault.flat_wellFormed run.uniqueLocal

theorem wfRemote : remote.flat.WellFormed := Vault.flat_wellFormed run.uniqueRemote

theorem localRoot : local'.flat.rootId = base.flat.rootId := (ensureSameRoot_ok.mp run.sameRoot).1

theorem remoteRoot : remote.flat.rootId = base.flat.rootId := (ensureSameRoot_ok.mp run.sameRoot).2

/-- Every merged group is the chosen one. -/
theorem group_chosen (id : Uuid) : GroupChosen base.flat local'.flat remote.flat id base.flat.groups[id]?
    local'.flat.groups[id]? remote.flat.groups[id]? run.groups[id]? :=
  collectGroups_chosen run.wfBase run.wfLocal run.wfRemote (mergeGroups_ok.mp run.mergedGroups).1 id

theorem entry_chosen (id : Uuid) : EntryChosen base.flat local'.flat remote.flat base.flat.entries[id]?
    local'.flat.entries[id]? remote.flat.entries[id]? run.entries[id]? :=
  (mergeEntries_chosen run.wfBase run.wfLocal run.wfRemote run.mergedEntries id).1

theorem groups_reordered : Reordered run.groups run.orderedGroups :=
  (reconcileSiblingOrders_ok (groupOrder_readsParents _ _ _) run.groupOrders).1

theorem entries_reordered : Reordered run.entries run.orderedEntries :=
  (reconcileSiblingOrders_ok (entryOrder_readsParents _ _ _) run.entryOrders).1

/-- The merged tables. -/
def table : FlatVault :=
  { rootId := base.flat.rootId, entries := run.orderedEntries, groups := run.orderedGroups }

theorem table_wellFormed : run.table.WellFormed :=
  tables_wellFormed run.wfBase run.wfLocal run.wfRemote run.localRoot run.remoteRoot run.group_chosen
    run.entry_chosen run.groups_reordered run.entries_reordered (validateGroupHierarchy_ok run.hierarchy)

theorem vault_root : result.vault.root = run.root := congrArg (·.vault.root) run.assembled

theorem rebuilt_root : rebuildTree run.table.groups run.table.entries (run.table.groups.size + 1) ∅
    run.table.rootId = .ok result.vault.root := by
  rw [run.vault_root]
  exact run.rebuilt

theorem result_uniqueIds : result.vault.UniqueIds :=
  rebuilt_uniqueIds run.table_wellFormed run.rebuilt_root

/-- The result, read back, has the merged tables. -/
theorem result_sameTree : SameTree run.table result.vault.flat :=
  rebuilt_sameTree run.table_wellFormed run.rebuilt_root

end PatchRun

end VaultKern
