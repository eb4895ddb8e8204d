import VaultKern.Outcome.Run

/-! # Deletion never orphans

Whatever the two sides deleted, moved and added, the patch never meets a missing
parent, and a successful result holds every merged row once, below its merged parent.
-/

namespace VaultKern

open ThreeWayPatchError

/-! ## Failures that name a missing parent -/

section Errors

variable {base local' remote : FlatVault} {id : Uuid} {e : ThreeWayPatchError}

/-- A failure that does not report a missing parent. -/
def Parented (e : ThreeWayPatchError) : Prop := ∀ id, e ≠ missingParent id

theorem mergeSharedGroup_error {b l r : FlatGroup} (failed : mergeSharedGroup id b l r = .error e) :
    Parented e := by
  rcases Fallible.bind_error.mp failed with fields | ⟨⟨value, changed⟩, _, rest⟩
  · simp only [mergeGroupFields] at fields
    split at fields <;> cases fields
    rintro _ ⟨⟩
  · rcases Fallible.bind_error.mp rest with located | ⟨_, _, result⟩
    · simp only [mergeGroupLocation] at located
      split at located <;> cases located
      rintro _ ⟨⟩
    · cases result

theorem mergeGroupRow_error {lp rp : List Uuid} {report : ThreeWayPatchReport}
    (failed : mergeGroupRow base local' remote lp rp id report = .error e) : Parented e := by
  simp only [mergeGroupRow] at failed
  split at failed <;> try cases failed
  · split at failed <;> cases failed
    rintro _ ⟨⟩
  · rcases Fallible.bind_error.mp failed with merge | ⟨_, _, result⟩
    · exact mergeSharedGroup_error merge
    · cases result

theorem ensureUniqueModeledMetaIds_error {vault : Vault} {side : String}
    (failed : ensureUniqueModeledMetaIds vault side = .error e) : Parented e := by
  simp only [ensureUniqueModeledMetaIds] at failed
  split at failed
  · cases failed
    rintro _ ⟨⟩
  · split at failed <;> cases failed
    rintro _ ⟨⟩

theorem ensureFidelityField_error {α : Type} [DecidableEq α] {b l r : α} {object field : String}
    {scope : Option Uuid} (failed : ensureFidelityField b l r object scope field = .error e) : Parented e := by
  simp only [ensureFidelityField] at failed
  split at failed <;> cases failed
  rintro _ ⟨⟩

theorem ensureCustomDataRebaseRepresentable_error {b l : BTreeMap String String}
    {bb lb rb : List CustomDataBlock} {object : String} {scope : Option Uuid}
    (failed : ensureCustomDataRebaseRepresentable b bb l lb rb object scope = .error e) : Parented e := by
  simp only [ensureCustomDataRebaseRepresentable] at failed
  split at failed <;> cases failed
  rintro _ ⟨⟩

theorem flattenEntries_error {parent : Uuid} {side : String} {entries : List Entry} {order : Nat}
    {flat : FlatVault} (failed : flattenEntries parent side entries order flat = .error e) : Parented e := by
  induction entries generalizing order flat with
  | nil => cases failed
  | cons entry rest ih =>
      simp only [flattenEntries] at failed
      split at failed
      · cases failed
        rintro _ ⟨⟩
      · exact ih failed

mutual
theorem flattenGroup_error {parent : Option Uuid} {order : Nat} {side : String} :
    ∀ (group : Group) {flat : FlatVault}, flattenGroup parent order side group flat = .error e → Parented e
  | ⟨fields, entries, children⟩, flat, failed => by
      simp only [flattenGroup] at failed
      split at failed
      · cases failed
        rintro _ ⟨⟩
      · rcases Fallible.bind_error.mp failed with members | ⟨_, _, below⟩
        · exact flattenEntries_error members
        · exact flattenChildren_error children below

theorem flattenChildren_error {parent : Option Uuid} {order : Nat} {side : String} :
    ∀ (children : List Group) {flat : FlatVault},
      flattenChildren parent order side children flat = .error e → Parented e
  | [], _, failed => by cases failed
  | child :: rest, flat, failed => by
      simp only [flattenChildren] at failed
      rcases Fallible.bind_error.mp failed with here | ⟨_, _, later⟩
      · exact flattenGroup_error child here
      · exact flattenChildren_error rest later
end

theorem ensureSameRoot_error (failed : ensureSameRoot base local' remote = .error e) : Parented e := by
  simp only [ensureSameRoot] at failed
  split at failed <;> cases failed
  rintro _ ⟨⟩

theorem ensureFidelity_error {b l r : Vault}
    (failed : ensureFidelityConflictsRepresentable b l r base local' remote = .error e) : Parented e := by
  rcases Fallible.bind_error.mp failed with scope | ⟨_, _, rows⟩
  · rcases Fallible.bind_error.mp scope with first | ⟨_, _, rest⟩
    · exact ensureFidelityField_error first
    · rcases Fallible.bind_error.mp rest with second | ⟨_, _, third⟩
      · exact ensureFidelityField_error second
      · exact ensureCustomDataRebaseRepresentable_error third
  · rcases Fallible.bind_error.mp rows with entries | ⟨_, _, groups⟩
    · obtain ⟨⟨id, row⟩, _, here⟩ := Fallible.forM_error entries
      simp only [ensureEntryFidelity] at here
      split at here
      · rcases Fallible.bind_error.mp here with first | ⟨_, _, second⟩
        · exact ensureFidelityField_error first
        · exact ensureCustomDataRebaseRepresentable_error second
      · cases here
    · obtain ⟨⟨id, row⟩, _, here⟩ := Fallible.forM_error groups
      simp only [ensureGroupFidelity] at here
      split at here
      · rcases Fallible.bind_error.mp here with first | ⟨_, _, second⟩
        · exact ensureFidelityField_error first
        · exact ensureCustomDataRebaseRepresentable_error second
      · cases here

theorem ensureLocalSiblingOrder_error {parent : Uuid} {object : String} {b l r : List Uuid}
    (failed : ensureLocalSiblingOrder parent object b l r = .error e) : Parented e := by
  simp only [ensureLocalSiblingOrder] at failed
  split at failed <;> cases failed
  rintro _ ⟨⟩

theorem ensureSiblings_error (failed : ensureLocalSiblingOrderRepresentable base local' remote = .error e) :
    Parented e := by
  obtain ⟨parent, _, here⟩ := Fallible.forM_error failed
  rcases Fallible.bind_error.mp here with entries | ⟨_, _, groups⟩
  · exact ensureLocalSiblingOrder_error entries
  · exact ensureLocalSiblingOrder_error groups

theorem selectCustomIcon_error {b l r : Option CustomIcon} (failed : selectCustomIcon id b l r = .error e) :
    Parented e := by
  simp only [selectCustomIcon] at failed
  split at failed <;> try cases failed
  · split at failed <;> cases failed
    rintro _ ⟨⟩
  · repeat' split at failed
    all_goals cases failed
    rintro _ ⟨⟩

theorem mergeCustomIconList_error {b l r : BTreeMap Uuid CustomIcon} {ids : List Uuid}
    (failed : mergeCustomIconList b l r ids = .error e) : Parented e := by
  induction ids with
  | nil => cases failed
  | cons id ids ih =>
      rcases Fallible.bind_error.mp failed with here | ⟨_, _, rest⟩
      · rcases Fallible.bind_error.mp here with select | ⟨_, _, stamped⟩
        · exact selectCustomIcon_error select
        · cases stamped
      · rcases Fallible.bind_error.mp rest with later | ⟨_, _, result⟩
        · exact ih later
        · cases result

theorem mergeMeta_error {b l r : Vault} (failed : mergeMeta b l r = .error e) : Parented e := by
  rcases Fallible.bind_error.mp failed with icons | ⟨_, _, fields⟩
  · exact mergeCustomIconList_error icons
  · simp only at fields
    split at fields <;> cases fields
    rintro _ ⟨⟩

end Errors

/-- No stage before or after the two merges reports a missing parent, and the merges
    do not because the parents of chosen rows are chosen. -/
theorem threeWayFieldPatch_error {base local' remote : Vault} {e : ThreeWayPatchError}
    (failed : threeWayFieldPatch base local' remote = .error e) : Parented e := by
  rw [threeWayFieldPatch] at failed
  rcases Fallible.bind_error.mp failed with flatten | ⟨baseFlat, flatBase, failed⟩
  · exact flattenGroup_error _ flatten
  rcases Fallible.bind_error.mp failed with flatten | ⟨localFlat, flatLocal, failed⟩
  · exact flattenGroup_error _ flatten
  rcases Fallible.bind_error.mp failed with flatten | ⟨remoteFlat, flatRemote, failed⟩
  · exact flattenGroup_error _ flatten
  obtain ⟨uniqueBase, rfl⟩ := flattenVault_ok.mp flatBase
  obtain ⟨uniqueLocal, rfl⟩ := flattenVault_ok.mp flatLocal
  obtain ⟨uniqueRemote, rfl⟩ := flattenVault_ok.mp flatRemote
  rcases Fallible.bind_error.mp failed with roots | ⟨_, sameRoot, failed⟩
  · exact ensureSameRoot_error roots
  rcases Fallible.bind_error.mp failed with ids | ⟨_, _, failed⟩
  · exact ensureUniqueModeledMetaIds_error ids
  rcases Fallible.bind_error.mp failed with ids | ⟨_, _, failed⟩
  · exact ensureUniqueModeledMetaIds_error ids
  rcases Fallible.bind_error.mp failed with ids | ⟨_, _, failed⟩
  · exact ensureUniqueModeledMetaIds_error ids
  rcases Fallible.bind_error.mp failed with fidelity | ⟨_, _, failed⟩
  · exact ensureFidelity_error fidelity
  rcases Fallible.bind_error.mp failed with siblings | ⟨_, _, failed⟩
  · exact ensureSiblings_error siblings
  have wfBase := Vault.flat_wellFormed uniqueBase
  have wfLocal := Vault.flat_wellFormed uniqueLocal
  have wfRemote := Vault.flat_wellFormed uniqueRemote
  obtain ⟨localRoot, remoteRoot⟩ := ensureSameRoot_ok.mp sameRoot
  rcases Fallible.bind_error.mp failed with merge | ⟨⟨groups, report⟩, mergedGroups, failed⟩
  · rcases Fallible.bind_error.mp merge with row | ⟨⟨groups, report⟩, collected, orphan⟩
    · obtain ⟨id, _, s, here⟩ := BTreeMap.collectM_error row
      exact mergeGroupRow_error here
    · have chosen := collectGroups_chosen wfBase wfLocal wfRemote collected
      have closed := groups_parentClosed wfBase wfLocal wfRemote localRoot remoteRoot chosen
      have none := orphanedGroup_none.mpr fun here up => closed.parent_mem here up
      simp only [none] at orphan
      cases orphan
  obtain ⟨collected, _⟩ := mergeGroups_ok.mp mergedGroups
  have chosen := collectGroups_chosen wfBase wfLocal wfRemote collected
  have closed := groups_parentClosed wfBase wfLocal wfRemote localRoot remoteRoot chosen
  rcases Fallible.bind_error.mp failed with orders | ⟨ordered, groupOrders, failed⟩
  · obtain ⟨parent, rfl⟩ := reconcileSiblingOrders_error (groupOrder_readsParents _ _ _) orders
    rintro _ ⟨⟩
  have reordered := (reconcileSiblingOrders_ok (groupOrder_readsParents _ _ _) groupOrders).1
  rcases Fallible.bind_error.mp failed with hierarchy | ⟨_, hierarchy, failed⟩
  · obtain ⟨id, rfl⟩ := validateGroupHierarchy_error (closed.reordered reordered) hierarchy
    rintro _ ⟨⟩
  rcases Fallible.bind_error.mp failed with merge | ⟨⟨entries, log⟩, mergedEntries, failed⟩
  · obtain ⟨id, _, s, here⟩ := BTreeMap.collectM_error merge
    rcases mergeEntryRow_error here with rfl | ⟨entry, selected, outside, _⟩
    · rintro _ ⟨⟩
    · have choice := entrySelection_ok wfBase wfLocal wfRemote selected
      exact absurd ((reordered.mem_iff _).mpr (entry_parent_kept wfLocal wfRemote chosen choice rfl)) outside
  rcases Fallible.bind_error.mp failed with orders | ⟨orderedEntries, entryOrders, failed⟩
  · obtain ⟨parent, rfl⟩ := reconcileSiblingOrders_error (entryOrder_readsParents _ _ _) orders
    rintro _ ⟨⟩
  have entryReordered := (reconcileSiblingOrders_ok (entryOrder_readsParents _ _ _) entryOrders).1
  rcases Fallible.bind_error.mp failed with rebuild | ⟨root, _, failed⟩
  · have wf := tables_wellFormed wfBase wfLocal wfRemote localRoot remoteRoot chosen
      (fun id => (mergeEntries_chosen wfBase wfLocal wfRemote mergedEntries id).1) reordered entryReordered
      (validateGroupHierarchy_ok hierarchy)
    obtain ⟨root, built⟩ := rebuild_total wf
    cases built.symm.trans rebuild
  rcases Fallible.bind_error.mp failed with scope | ⟨_, _, result⟩
  · exact mergeMeta_error scope
  · cases result

/-! ## What a successful result holds -/

/-- The vault is a tree of exactly these rows, and no tombstone names one of them. -/
structure IsTreeOf (rootId : Uuid) (groups : BTreeMap Uuid FlatGroup) (entries : BTreeMap Uuid FlatEntry)
    (vault : Vault) : Prop where
  root : vault.root.id = rootId
  groupsOnce : (groupIds vault.root).Nodup
  entriesOnce : (entryIds vault.root).Nodup
  groupPlaces : ∀ id parent, (∃ row, (id, row) ∈ groupRows none 0 vault.root ∧ row.parent = parent) ↔
    ∃ row, groups[id]? = some row ∧ row.parent = parent
  entryPlaces : ∀ id parent value,
    (∃ row, (id, row) ∈ entryRows vault.root ∧ row.parent = parent ∧ row.value = value) ↔
      ∃ row, entries[id]? = some row ∧ row.parent = parent ∧ row.value = value
  tombstones : ∀ deleted ∈ vault.deletedObjects,
    deleted.id ∉ groupIds vault.root ∧ deleted.id ∉ entryIds vault.root

namespace PatchRun

variable {base local' remote : Vault} {result : ThreeWayPatchResult} (run : PatchRun base local' remote result)

include run

theorem mem_result_groups (id : Uuid) : id ∈ groupIds result.vault.root ↔ id ∈ run.orderedGroups := by
  obtain ⟨order, same⟩ := run.result_sameTree.groups id
  rw [← Vault.mem_flat_groups, ← Std.ExtTreeMap.isSome_getElem?_iff_mem, same, Option.isSome_map,
    Std.ExtTreeMap.isSome_getElem?_iff_mem]
  rfl

theorem mem_result_entries (id : Uuid) : id ∈ entryIds result.vault.root ↔ id ∈ run.orderedEntries := by
  rw [← Vault.mem_flat_entries]
  exact run.result_sameTree.entries.mem_iff id

/-- A group stands in the result where its merged row says. -/
theorem group_place (id : Uuid) (parent : Option Uuid) :
    (∃ row, result.vault.flat.groups[id]? = some row ∧ row.parent = parent) ↔
      ∃ row, run.groups[id]? = some row ∧ row.parent = parent := by
  obtain ⟨order, same⟩ := run.result_sameTree.groups id
  obtain ⟨index, renumbered⟩ := run.groups_reordered id
  have rows : result.vault.flat.groups[id]?.map (·.parent) = run.groups[id]?.map (·.parent) := by
    rw [same, Option.map_map]
    change run.orderedGroups[id]?.map _ = _
    rw [renumbered, Option.map_map]
    rfl
  rw [← Option.map_eq_some_iff, rows, Option.map_eq_some_iff]

theorem entry_place (id : Uuid) (parent : Uuid) (value : Entry) :
    (∃ row, result.vault.flat.entries[id]? = some row ∧ row.parent = parent ∧ row.value = value) ↔
      ∃ row, run.entries[id]? = some row ∧ row.parent = parent ∧ row.value = value := by
  obtain ⟨order, same⟩ := (run.entries_reordered.trans run.result_sameTree.entries) id
  rw [same]
  constructor
  · rintro ⟨row, here, rfl, rfl⟩
    obtain ⟨before, there, rfl⟩ := Option.map_eq_some_iff.mp here
    exact ⟨before, there, rfl, rfl⟩
  · rintro ⟨row, here, rfl, rfl⟩
    exact ⟨SiblingRow.setOrder order row, by rw [here]; rfl, rfl, rfl⟩

theorem isTreeOf : IsTreeOf base.root.id run.groups run.entries result.vault where
  root := run.result_sameTree.rootId
  groupsOnce := run.result_uniqueIds.groups
  entriesOnce := run.result_uniqueIds.entries
  groupPlaces id parent := by
    simp only [← Vault.flat_group_lookup run.result_uniqueIds]
    exact run.group_place id parent
  entryPlaces id parent value := by
    simp only [← Vault.flat_entry_lookup run.result_uniqueIds]
    exact run.entry_place id parent value
  tombstones := by
    intro deleted member
    rw [run.mem_result_groups, run.mem_result_entries]
    have kept : deleted ∈ (assembleVault run.merged run.orderedGroups run.orderedEntries run.root).deletedObjects :=
      (congrArg (deleted ∈ ·.vault.deletedObjects) run.assembled).mp member
    have free := (List.mem_filter.mp kept).2
    simpa [← Bool.not_eq_true] using free

end PatchRun

/-- Group deletion never orphans anything. -/
theorem patch_never_orphans (base local' remote : Vault) :
    (∀ id, threeWayFieldPatch base local' remote ≠ .error (missingParent id)) ∧
      ∀ result, threeWayFieldPatch base local' remote = .ok result →
        ∃ groups report ordered entries log,
          mergeGroups base.flat local'.flat remote.flat
              (changedSubtreesDeletedFromOther base.flat local'.flat remote.flat)
              (changedSubtreesDeletedFromOther base.flat remote.flat local'.flat) {} = .ok (groups, report) ∧
            reconcileGroupSiblingOrders base.flat local'.flat remote.flat groups = .ok ordered ∧
            mergeEntries base.flat local'.flat remote.flat ordered
              (changedSubtreesDeletedFromOther base.flat local'.flat remote.flat)
              (changedSubtreesDeletedFromOther base.flat remote.flat local'.flat) { report } =
                .ok (entries, log) ∧
            IsTreeOf base.root.id groups entries result.vault := by
  constructor
  · intro id failed
    exact threeWayFieldPatch_error failed id rfl
  · intro result success
    obtain ⟨run⟩ := threeWayFieldPatch_ok.mp success
    exact ⟨run.groups, run.groupReport, run.orderedGroups, run.entries, run.log, run.mergedGroups,
      run.groupOrders, run.mergedEntries, run.isTreeOf⟩

/-- One side edits an entry in a folder and adds one beside it, the other deletes the folder. -/
def editedFolderBase : Vault :=
  { name := "Vault"
    root :=
      { id := 1, title := "Root"
        children := [{ id := 2, title := "Folder", entries := [{ id := 10, title := "Old" }] }] } }

def editedFolderLocal : Vault :=
  { name := "Vault"
    root :=
      { id := 1, title := "Root"
        children :=
          [{ id := 2, title := "Folder"
             entries := [{ id := 10, title := "New", modifiedAt := 5 }, { id := 11, title := "Added" }] }] } }

def editedFolderRemote : Vault := { name := "Vault", root := { id := 1, title := "Root" } }

theorem patch_never_orphans_editedFolder :
    ∃ result, threeWayFieldPatch editedFolderBase editedFolderLocal editedFolderRemote = .ok result ∧
      ∃ groups entries, IsTreeOf 1 groups entries result.vault := by
  cases run : threeWayFieldPatch editedFolderBase editedFolderLocal editedFolderRemote with
  | error e =>
      have success : (threeWayFieldPatch editedFolderBase editedFolderLocal
        editedFolderRemote).toBool = true := by decide +kernel
      rw [run] at success
      cases success
  | ok result =>
      obtain ⟨groups, _, _, entries, _, _, _, _, tree⟩ :=
        (patch_never_orphans editedFolderBase editedFolderLocal editedFolderRemote).2 result run
      exact ⟨result, rfl, groups, entries, tree⟩

end VaultKern
