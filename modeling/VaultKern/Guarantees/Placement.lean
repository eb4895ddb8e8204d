import VaultKern.Core.Places
import VaultKern.Guarantees.Atomic

/-! # The tree and its tombstones over runs of mutators

Objects enter a tree with a fresh id, leave it by a permanent deletion, and otherwise
only change their place. A run remembers the entries that are in the recycle bin; they
are the objects that get a tombstone while they live.
-/

namespace VaultKern

open Attempt

/-! ## Bags of the trees that mutators build -/

section Bags

open scoped List

variable {target : String} {root after : Group}

theorem gather_addEntry {A : Type} (part : GroupFields → List Entry → List A) {entry : Entry} (added : List A)
    (more : ∀ fields entries, (part fields (entries ++ [entry])).Perm (added ++ part fields entries))
    (put : putInto target (·.addEntry entry) root = some after) :
    (gather part after).Perm (added ++ gather part root) := by
  obtain ⟨group, found, rfl⟩ := Option.map_eq_some_iff.mp put
  have bags := gather_put part (group.addEntry entry) root found
  have grown : gather part (group.addEntry entry) ~ added ++ gather part group := by
    cases group
    simp only [Group.addEntry, gather_mk, ← List.append_assoc]
    exact (more _ _).append_right _
  refine (List.perm_append_right_iff (gather part group)).mp (bags.trans ?_)
  calc gather part root ++ gather part (group.addEntry entry)
    _ ~ gather part root ++ (added ++ gather part group) := grown.append_left _
    _ ~ added ++ gather part root ++ gather part group := by
        rw [List.append_assoc]
        exact List.perm_append_comm_assoc _ _ _

theorem gather_addChild {A : Type} (part : GroupFields → List Entry → List A) {child : Group}
    (put : putInto target (·.addChild child) root = some after) :
    (gather part after).Perm (gather part child ++ gather part root) := by
  obtain ⟨group, found, rfl⟩ := Option.map_eq_some_iff.mp put
  have bags := gather_put part (group.addChild child) root found
  have grown : gather part (group.addChild child) ~ gather part child ++ gather part group := by
    cases group
    simp only [Group.addChild, gather_mk, List.flatMap_append, List.flatMap_cons, List.flatMap_nil, List.append_nil]
    rw [← List.append_assoc]
    exact List.perm_append_comm
  refine (List.perm_append_right_iff (gather part group)).mp (bags.trans ?_)
  calc gather part root ++ gather part (group.addChild child)
    _ ~ gather part root ++ (gather part child ++ gather part group) := grown.append_left _
    _ ~ gather part child ++ gather part root ++ gather part group := by
        rw [List.append_assoc]
        exact List.perm_append_comm_assoc _ _ _

theorem entriesIn_addEntry {entry : Entry} (put : putInto target (·.addEntry entry) root = some after) :
    (entriesIn after).Perm (entry :: entriesIn root) :=
  gather_addEntry (fun _ entries => entries) [entry] (fun _ _ => List.perm_append_comm) put

theorem shellsIn_addEntry {entry : Entry} (put : putInto target (·.addEntry entry) root = some after) :
    (shellsIn after).Perm (shellsIn root) := by
  rw [shellsIn_eq_gather, shellsIn_eq_gather]
  exact gather_addEntry _ [] (fun _ _ => .refl _) put

theorem entriesIn_addChild {child : Group} (put : putInto target (·.addChild child) root = some after) :
    (entriesIn after).Perm (entriesIn child ++ entriesIn root) :=
  gather_addChild (fun _ entries => entries) put

theorem shellsIn_addChild {child : Group} (put : putInto target (·.addChild child) root = some after) :
    (shellsIn after).Perm (shellsIn child ++ shellsIn root) := by
  simp only [shellsIn_eq_gather]
  exact gather_addChild _ put

end Bags

theorem putInto_id {target : String} (change : Group → Group) {root after : Group}
    (keeps : ∀ group, (change group).id = group.id) (put : putInto target change root = some after) :
    after.id = root.id := by
  obtain ⟨group, found, rfl⟩ := Option.map_eq_some_iff.mp put
  obtain ⟨fields, entries, children⟩ := root
  unfold findGroupById at found
  unfold putGroupById
  split
  · rename_i here
    simp only [here, if_true, Option.some.injEq] at found
    subst found
    exact keeps _
  · rfl

theorem addEntry_id {target : String} {entry : Entry} {root after : Group}
    (put : putInto target (·.addEntry entry) root = some after) : after.id = root.id :=
  putInto_id (·.addEntry entry) (fun _ => rfl) put

theorem addChild_id {target : String} {child root after : Group}
    (put : putInto target (·.addChild child) root = some after) : after.id = root.id :=
  putInto_id (·.addChild child) (fun _ => rfl) put

/-! ## What is kept of a moved object -/

/-- The entry without its location clock and its former parent. -/
def Entry.unplaced (entry : Entry) : Entry := { entry with locationChangedAt := none, previousParent := none }

/-- The entry of that id is exchanged for a related one and may change its group, which then has other slots.
    Every other entry stays in its group, and groups may come. -/
def Relocated (entryId : String) (change : Entry → Entry → Prop) (created : List Group) (before after : Group) : Prop :=
  ∃ entry entry' home home' others, uuidToString entry.id = entryId ∧ entry'.id = entry.id ∧ change entry entry' ∧
    (placedEntries before).Perm ((home, entry) :: others) ∧ (placedEntries after).Perm ((home', entry') :: others) ∧
    Reslotted home (shellsIn before ++ created) (shellsIn after)

/-- Every group comes along. The parent that the group of that id leaves has other slots. -/
def Regrouped (groupId : String) (before after : Group) : Prop :=
  (entriesIn after).Perm (entriesIn before) ∧
    ∃ parent ∈ subgroups before, ∃ moved ∈ parent.children, uuidToString moved.id = groupId ∧
      Reslotted parent.id (shellsIn before) (shellsIn after)

theorem EntryMoved.relocated {entryId target : String} {change : Entry → Uuid → Entry} {before after : Group}
    (moved : EntryMoved entryId target change before after) (related : Entry → Entry → Prop)
    (changed : related moved.entry (change moved.entry moved.parent))
    (same : (change moved.entry moved.parent).id = moved.entry.id) : Relocated entryId related [] before after := by
  obtain ⟨⟨named, -, groups⟩, -⟩ := takeEntryFromGroup_bags moved.taken
  obtain ⟨home, -, places⟩ := placedEntries_addEntry moved.put
  refine ⟨moved.entry, _, moved.parent, home, placedEntries moved.left, named, same, changed,
    (placedEntries_take moved.taken).1, places, ?_⟩
  rw [List.append_nil]
  exact groups.perm (.refl _) (shellsIn_addEntry moved.put)

theorem EntryMoved.root_id {entryId target : String} {change : Entry → Uuid → Entry} {before after : Group}
    (moved : EntryMoved entryId target change before after) : after.id = before.id :=
  (addEntry_id moved.put).trans (takeEntryFromGroup_bags moved.taken).2

theorem GroupMoved.root_id {groupId target : String} {before after : Group}
    (moved : GroupMoved groupId target before after) : after.id = before.id :=
  (addChild_id moved.put).trans (takeGroupFromGroup_bags moved.taken).2

theorem GroupMoved.regrouped {groupId target : String} {before after : Group}
    (moved : GroupMoved groupId target before after) : Regrouped groupId before after := by
  obtain ⟨⟨named, entries, parent, inside, held, groups⟩, -⟩ := takeGroupFromGroup_bags moved.taken
  exact ⟨(entriesIn_addChild moved.put).trans entries.symm, parent, inside, _, held, named,
    groups.perm (.refl _) (shellsIn_addChild moved.put)⟩

@[simp] theorem restoredEntry_id (location : Nat) (entry : Entry) : (restoredEntry location entry).id = entry.id := by
  unfold restoredEntry clearPreviousParent
  split <;> rfl

/-- A restored entry loses the slot of its former parent. -/
theorem restoredEntry_loses (location : Nat) {entry : Entry} (some' : entry.previousParent.isSome) :
    LosesNode "PreviousParentGroup" entry.unplaced (restoredEntry location entry).unplaced := by
  have removed := entry.unplaced.removeNode_loses "PreviousParentGroup"
  have same : (restoredEntry location entry).unplaced = entry.unplaced.removeNode "PreviousParentGroup" := by
    simp only [restoredEntry, clearPreviousParent, some', if_true, Entry.removeNode, Entry.unplaced]
  rwa [same]

theorem restoredEntry_of_noParent {entry : Entry} (location : Nat) (none : entry.previousParent = none) :
    (restoredEntry location entry).unplaced = entry.unplaced := by
  simp [restoredEntry, clearPreviousParent, none, Entry.unplaced]

/-- `ensure_recycle_bin` adds the bin at the end of the root, or nothing. -/
theorem ensureRecycleBin_tree {drawn : Uuid} {changedAt : Int} {binId : String} {vault ready : Vault}
    (run : ensureRecycleBin drawn changedAt vault = (.ok binId, ready)) :
    ready.deletedObjects = vault.deletedObjects ∧ ready.root.id = vault.root.id ∧
    ∃ created, (created = [] ∨ created = [newRecycleBin drawn]) ∧ placedEntries ready.root = placedEntries vault.root ∧
      shellsIn ready.root = shellsIn vault.root ++ created := by
  rcases ensureRecycleBin_cases vault drawn changedAt with ⟨_, -, run'⟩ | ⟨-, run'⟩
  · rw [run'] at run
    cases run
    exact ⟨rfl, rfl, [], .inl rfl, rfl, (List.append_nil _).symm⟩
  · rw [run'] at run
    cases run
    refine ⟨rfl, rfl, _, .inr rfl, ?_, ?_⟩
    · cases root : vault.root with
      | mk fields entries children =>
          simp [Vault.createRecycleBin, newRecycleBin, root, Group.addChild, placedEntries_mk]
    · simp [Vault.createRecycleBin, newRecycleBin, shellsIn_addLast, shellsIn_mk]

/-- A successful soft delete moves one entry and writes its tombstone. -/
theorem softDeleteEntryToRecycleBin_relocated (vault : Vault) (drawn : Uuid) (now binChangedAt deletedAt : Int)
    (entryId : String) :
    (∃ e, softDeleteEntryToRecycleBin drawn now binChangedAt deletedAt entryId vault = (.error e, vault)) ∨
    ∃ (view : EntryView) (entry : Entry) (created : List Group) (ready : Vault) (root : Group),
      softDeleteEntryToRecycleBin drawn now binChangedAt deletedAt entryId vault =
        (.ok view, { ready with root }.addTombstone entry.id deletedAt) ∧
      uuidToString entry.id = entryId ∧ entry ∈ entriesIn vault.root ∧
      (created = [] ∨ created = [newRecycleBin drawn]) ∧ ready.deletedObjects = vault.deletedObjects ∧
      root.id = vault.root.id ∧
      Relocated entryId (fun before after => after.unplaced = before.unplaced) created vault.root root := by
  rcases softDeleteEntryToRecycleBin_cases vault entryId drawn now binChangedAt deletedAt
    with failed | ⟨next, binId, ready, root, moved, ready', -, run⟩
  · exact .inl failed
  · obtain ⟨objects, rootId, created, isBin, places, groups⟩ := ensureRecycleBin_tree ready'
    obtain ⟨⟨named, held, -⟩, -⟩ := takeEntryFromGroup_bags moved.taken
    have relocated := moved.relocated (fun before after => after.unplaced = before.unplaced) rfl rfl
    rw [entriesIn_placed, places, ← entriesIn_placed] at held
    refine .inr ⟨_, moved.entry, created, ready, root, run, named, ?_, isBin, objects,
      moved.root_id.trans rootId, ?_⟩
    · exact held.mem_iff.mpr (List.mem_cons_self ..)
    · unfold Relocated at relocated ⊢
      rwa [places, groups, List.append_nil] at relocated

/-- An entry with a former parent loses it with its slot and anchors. -/
def RestoredFrom (before after : Entry) : Prop :=
  if before.previousParent.isSome then LosesNode "PreviousParentGroup" before.unplaced after.unplaced
  else after.unplaced = before.unplaced

theorem restoredEntry_from (location : Nat) (entry : Entry) : RestoredFrom entry (restoredEntry location entry) := by
  unfold RestoredFrom
  split
  · rename_i some'
    exact restoredEntry_loses location some'
  · rename_i none'
    exact restoredEntry_of_noParent location (by simpa using none')

/-- A successful restore moves one entry back and drops its tombstones. -/
theorem restoreEntryFromRecycleBin_relocated (vault : Vault) (now : Int) (entryId : String)
    (requested : Option String) :
    (∃ e, restoreEntryFromRecycleBin now entryId requested vault = (.error e, vault)) ∨
    ∃ (view : EntryView) (entry : Entry) (root : Group),
      restoreEntryFromRecycleBin now entryId requested vault =
        (.ok view, { vault with root }.dropTombstones entryId) ∧
      uuidToString entry.id = entryId ∧ entry ∈ entriesIn vault.root ∧ root.id = vault.root.id ∧
      Relocated entryId RestoredFrom [] vault.root root := by
  rcases restoreEntryFromRecycleBin_cases vault entryId now requested
    with failed | ⟨next, target, root, moved, run⟩
  · exact .inl failed
  · obtain ⟨⟨named, held, -⟩, -⟩ := takeEntryFromGroup_bags moved.taken
    refine .inr ⟨_, moved.entry, root, run, named, held.mem_iff.mpr (List.mem_cons_self ..), moved.root_id,
      moved.relocated _ (restoredEntry_from next _) (restoredEntry_id next _)⟩

/-! ## The ids of a tree -/

/-- The ids of all groups and entries. -/
def liveIds (root : Group) : List Uuid := (shellsIn root).map (·.id) ++ (entriesIn root).map (·.id)

def tombstones (vault : Vault) : List Uuid := vault.deletedObjects.map (·.id)

theorem Relocated.groupIds {entryId : String} {change : Entry → Entry → Prop} {created : List Group}
    {before after : Group} (relocated : Relocated entryId change created before after) :
    ((shellsIn after).map (·.id)).Perm (created.map (·.id) ++ (shellsIn before).map (·.id)) := by
  obtain ⟨_, _, _, _, _, -, -, -, -, -, groups⟩ := relocated
  refine groups.ids.symm.trans ?_
  rw [List.map_append]
  exact List.perm_append_comm

theorem Relocated.liveIds {entryId : String} {change : Entry → Entry → Prop} {created : List Group}
    {before after : Group} (relocated : Relocated entryId change created before after) :
    (VaultKern.liveIds after).Perm (created.map (·.id) ++ VaultKern.liveIds before) := by
  have groupIds := relocated.groupIds
  obtain ⟨entry, entry', home, home', others, -, same, -, first, second, -⟩ := relocated
  have last := second.map fun placed : Uuid × Entry => placed.2.id
  rw [List.map_cons, same] at last
  have entryIds : ((entriesIn after).map (·.id)).Perm ((entriesIn before).map (·.id)) := by
    rw [entriesIn_placed, entriesIn_placed, List.map_map, List.map_map]
    exact last.trans (first.map fun placed : Uuid × Entry => placed.2.id).symm
  exact (groupIds.append entryIds).trans (by rw [VaultKern.liveIds, List.append_assoc])

theorem Regrouped.groupIds {groupId : String} {before after : Group} (regrouped : Regrouped groupId before after) :
    ((shellsIn after).map (·.id)).Perm ((shellsIn before).map (·.id)) := by
  obtain ⟨-, _, -, _, -, -, groups⟩ := regrouped
  exact groups.ids.symm

theorem Regrouped.liveIds {groupId : String} {before after : Group} (regrouped : Regrouped groupId before after) :
    (VaultKern.liveIds after).Perm (VaultKern.liveIds before) :=
  regrouped.groupIds.append (regrouped.1.map _)

mutual
theorem groupOrEntryUsesUuid_iff (id : Uuid) : ∀ root : Group,
    groupOrEntryUsesUuid id root = true ↔ id ∈ liveIds root
  | ⟨fields, entries, children⟩ => by
      unfold groupOrEntryUsesUuid
      rw [Bool.or_eq_true, Bool.or_eq_true, childUsesUuid_iff id children]
      simp only [liveIds, shellsIn_mk, entriesIn_mk, List.map_cons, List.map_append, List.mem_append, List.mem_cons,
        List.any_eq_true, decide_eq_true_eq, List.mem_map]
      grind

theorem childUsesUuid_iff (id : Uuid) : ∀ children : List Group,
    childUsesUuid id children = true ↔
      id ∈ (children.flatMap shellsIn).map (·.id) ∨ id ∈ (children.flatMap entriesIn).map (·.id)
  | [] => by simp [childUsesUuid]
  | child :: rest => by
      unfold childUsesUuid
      rw [Bool.or_eq_true, groupOrEntryUsesUuid_iff id child, childUsesUuid_iff id rest]
      simp only [liveIds, List.flatMap_cons, List.map_append, List.mem_append]
      grind
end

theorem usesUuid_eq_false {vault : Vault} {id : Uuid} :
    vault.usesUuid id = false ↔ id ∉ liveIds vault.root ∧ id ∉ tombstones vault := by
  rw [Vault.usesUuid, Bool.or_eq_false_iff, ← Bool.not_eq_true, groupOrEntryUsesUuid_iff]
  simp [tombstones]

/-! ## Runs -/

/-- Adding, deleting, moving, soft deleting, restoring, and the settings of the recycle bin. -/
def Call.IsPlacement {A : Type} : Call A → Prop
  | .addEntry .. | .addEntryWithId .. | .deleteEntry .. | .addGroup .. | .deleteGroup .. | .moveEntry ..
  | .moveGroup .. | .softDeleteEntryToRecycleBin .. | .restoreEntryFromRecycleBin ..
  | .updateVaultBinTemplateMetadata .. => True
  | _ => False

/-- The loop of `fresh_live_uuid` returns an id that is not in use. -/
def Call.DrawsUnused {A : Type} (vault : Vault) : Call A → Prop
  | .addEntry drawn .. | .addGroup drawn .. | .softDeleteEntryToRecycleBin drawn .. => vault.usesUuid drawn = false
  | _ => True

/-- The entries that were soft deleted and not restored since, by their ids. -/
def Call.recycledAfter {A : Type} (recycled : List String) (succeeded : Bool) : Call A → List String
  | .softDeleteEntryToRecycleBin _ _ _ _ entryId => if succeeded then entryId :: recycled else recycled
  | .restoreEntryFromRecycleBin _ entryId _ => if succeeded then recycled.filter (· ≠ entryId) else recycled
  | _ => recycled

/-- Vaults that a run of placement calls reaches, with the entries it left recycled. -/
inductive PlacementRun (digest : List UInt8 → List UInt8) (start : Vault) : Vault → List String → Prop
  | nil : PlacementRun digest start start []
  | step {A : Type} {vault : Vault} {recycled : List String} (run : PlacementRun digest start vault recycled)
      (call : Call A) (kind : call.IsPlacement) (draws : call.DrawsUnused vault) :
      PlacementRun digest start (call.run digest vault).2
        (call.recycledAfter recycled (call.run digest vault).1.toOption.isSome)

/-- What holds of every vault of a run. -/
structure Placed (start vault : Vault) (recycled : List String) : Prop where
  distinct : (liveIds vault.root).Nodup
  root : vault.root.id = start.root.id
  tombstones : ∀ id, id ∈ tombstones vault ↔ id ∈ tombstones start ∨ uuidToString id ∈ recycled
  buried : ∀ id ∈ VaultKern.tombstones start, id ∉ liveIds vault.root
  entries : ∀ id, uuidToString id ∈ recycled → id ∉ (shellsIn vault.root).map (·.id)

/-- The tree and the tombstones stay. -/
def KeepsTree (change : Vault → Vault) : Prop :=
  ∀ vault, (change vault).root = vault.root ∧ (change vault).deletedObjects = vault.deletedObjects

theorem setRecycleBinEnabled_keepsTree (update : Option (Option Bool)) : KeepsTree (setRecycleBinEnabled update) := by
  intro vault
  unfold setRecycleBinEnabled
  split
  · exact ⟨rfl, rfl⟩
  · dsimp only
    split <;> exact ⟨rfl, rfl⟩

theorem setRecycleBinGroup_keepsTree (update : Option (Option Uuid)) : KeepsTree (setRecycleBinGroup update) := by
  intro vault
  unfold setRecycleBinGroup
  split
  · exact ⟨rfl, rfl⟩
  · dsimp only
    split <;> exact ⟨rfl, rfl⟩

theorem setRecycleBinChanged_keepsTree (update : Option (Option Int)) : KeepsTree (setRecycleBinChanged update) := by
  intro vault
  unfold setRecycleBinChanged
  split
  · exact ⟨rfl, rfl⟩
  · dsimp only
    split <;> exact ⟨rfl, rfl⟩

theorem setEntryTemplatesGroup_keepsTree (update : Option (Option Uuid)) : KeepsTree (setEntryTemplatesGroup update) := by
  intro vault
  unfold setEntryTemplatesGroup
  split
  · exact ⟨rfl, rfl⟩
  · dsimp only
    split <;> exact ⟨rfl, rfl⟩

theorem setEntryTemplatesGroupChanged_keepsTree (update : Option (Option Int)) : KeepsTree (setEntryTemplatesGroupChanged update) := by
  intro vault
  unfold setEntryTemplatesGroupChanged
  split
  · exact ⟨rfl, rfl⟩
  · dsimp only
    split <;> exact ⟨rfl, rfl⟩

theorem KeepsTree.comp {outer inner : Vault → Vault} (second : KeepsTree outer) (first : KeepsTree inner) :
    KeepsTree fun vault => outer (inner vault) :=
  fun vault => ⟨(second _).1.trans (first vault).1, (second _).2.trans (first vault).2⟩

namespace Placed

variable {start vault after : Vault} {recycled recycled' : List String}

theorem next (placed : Placed start vault recycled) (created removed : List Uuid)
    (fresh : created.Nodup ∧ ∀ id ∈ created, vault.usesUuid id = false)
    (live : (liveIds after.root ++ removed).Perm (created ++ liveIds vault.root))
    (groups : ∀ id ∈ (shellsIn after.root).map (·.id), id ∈ created ∨ id ∈ (shellsIn vault.root).map (·.id))
    (root : after.root.id = vault.root.id)
    (tombstones : ∀ id, id ∈ VaultKern.tombstones after ↔
      id ∈ VaultKern.tombstones start ∨ uuidToString id ∈ recycled')
    (recycles : ∀ id, uuidToString id ∈ recycled' → uuidToString id ∈ recycled ∨
      id ∈ (entriesIn vault.root).map (·.id)) : Placed start after recycled' := by
  have unused {id : Uuid} (new : id ∈ created) : id ∉ liveIds vault.root ∧ id ∉ VaultKern.tombstones vault :=
    usesUuid_eq_false.mp (fresh.2 id new)
  have grown : (created ++ liveIds vault.root).Nodup :=
    List.nodup_append.mpr ⟨fresh.1, placed.distinct, fun a new b old same => (unused new).1 (same ▸ old)⟩
  have origin {id : Uuid} (alive : id ∈ liveIds after.root) : id ∈ created ∨ id ∈ liveIds vault.root :=
    List.mem_append.mp (live.mem_iff.mp (List.mem_append_left _ alive))
  refine ⟨(List.nodup_append.mp (live.nodup_iff.mpr grown)).1, root.trans placed.root, tombstones, ?_, ?_⟩
  · intro id old alive
    rcases origin alive with new | before
    · exact (unused new).2 ((placed.tombstones id).mpr (.inl old))
    · exact placed.buried id old before
  · intro id binned group
    rcases groups id group with new | before <;> rcases recycles id binned with earlier | entry
    · exact (unused new).2 ((placed.tombstones id).mpr (.inr earlier))
    · exact (unused new).1 (List.mem_append_right _ entry)
    · exact placed.entries id earlier before
    · exact (List.nodup_append.mp placed.distinct).2.2 id before id entry rfl

/-- Objects may come and go while the tombstones stay. -/
theorem keep (placed : Placed start vault recycled) (created removed : List Uuid)
    (fresh : created.Nodup ∧ ∀ id ∈ created, vault.usesUuid id = false)
    (live : (liveIds after.root ++ removed).Perm (created ++ liveIds vault.root))
    (groups : ∀ id ∈ (shellsIn after.root).map (·.id), id ∈ created ∨ id ∈ (shellsIn vault.root).map (·.id))
    (root : after.root.id = vault.root.id) (same : after.deletedObjects = vault.deletedObjects) :
    Placed start after recycled := by
  refine placed.next created removed fresh live groups root (fun id => ?_) fun id binned => .inl binned
  rw [VaultKern.tombstones, same]
  exact placed.tombstones id

theorem of_atomic {A : Type} {m : Mutator A} (atomic : Atomic m) (placed : Placed start vault recycled)
    (ok : ∀ a vault', m vault = (.ok a, vault') → Placed start vault' recycled) :
    Placed start (m vault).2 recycled := by
  cases result : m vault with
  | mk value vault' =>
      cases value with
      | ok a => exact ok a vault' result
      | error e =>
          have same := atomic vault e (by rw [result])
          rw [result] at same
          exact same ▸ placed

/-- Entries and groups were taken out. -/
theorem without (placed : Placed start vault recycled) (removed groups : List Uuid) {left : Group}
    (entries : ((entriesIn left).map (·.id) ++ removed).Perm ((entriesIn vault.root).map (·.id)))
    (shells : ((shellsIn left).map (·.id) ++ groups).Perm ((shellsIn vault.root).map (·.id)))
    (root : left.id = vault.root.id) : Placed start { vault with root := left } recycled := by
  refine placed.keep [] (groups ++ removed) ⟨List.nodup_nil, by simp⟩ ?_ ?_ root rfl
  · refine List.Perm.trans ?_ (shells.append entries)
    simp only [liveIds, List.append_assoc]
    exact (List.perm_append_comm_assoc _ _ _).append_left _
  · exact fun id group => .inr (shells.mem_iff.mp (List.mem_append_left _ group))

theorem takeEntry (placed : Placed start vault recycled) {entryId : String} {left : Group} {entry : Entry}
    {parent : Uuid} (taken : takeEntryFromGroup entryId vault.root = some (left, entry, parent)) :
    Placed start { vault with root := left } recycled := by
  obtain ⟨⟨-, entries, groups⟩, root⟩ := takeEntryFromGroup_bags taken
  refine placed.without [entry.id] [] ?_ ?_ root
  · have ids := (entries.map fun entry : Entry => entry.id).symm
    exact List.perm_append_comm.trans ids
  · rw [List.append_nil]
    exact groups.ids.symm

theorem takeGroup (placed : Placed start vault recycled) {groupId : String} {left taken : Group}
    (result : takeGroupFromGroup groupId vault.root = some (left, taken)) :
    Placed start { vault with root := left } recycled := by
  obtain ⟨⟨-, entries, _, -, -, groups⟩, root⟩ := takeGroupFromGroup_bags result
  refine placed.without ((entriesIn taken).map (·.id)) ((shellsIn taken).map (·.id)) ?_ ?_ root
  · rw [← List.map_append]
    exact (List.perm_append_comm.trans entries.symm).map _
  · rw [← List.map_append]
    exact ((List.perm_append_comm.map _).trans groups.ids.symm)

theorem relocate (placed : Placed start vault recycled) {entryId : String} {change : Entry → Entry → Prop}
    {root : Group} (relocated : Relocated entryId change [] vault.root root) (same : root.id = vault.root.id) :
    Placed start { vault with root } recycled := by
  refine placed.keep [] [] ⟨List.nodup_nil, by simp⟩ ?_ ?_ same rfl
  · rw [List.append_nil]
    exact relocated.liveIds
  · exact fun id group => .inr (by simpa using relocated.groupIds.mem_iff.mp group)

/-! ### One call -/

theorem addEntryWithId (placed : Placed start vault recycled) (now : Int) (target entryId : String)
    (create : EntryCreate) : Placed start (addEntryWithId now target entryId create vault).2 recycled := by
  refine placed.of_atomic (addEntryWithId_atomic now target entryId create) fun view vault' result => ?_
  obtain ⟨id, root, -, unused, put, -, rfl⟩ := addEntryWithId_ok result
  have entries := (entriesIn_addEntry put).map (·.id)
  have groups := (shellsIn_addEntry put).map (·.id)
  refine placed.keep [id] [] ⟨List.nodup_singleton id, by simpa using unused⟩ ?_ ?_
    (addEntry_id put) rfl
  · rw [List.append_nil]
    exact (groups.append entries).trans List.perm_middle
  · exact fun id group => .inr (groups.mem_iff.mp group)

theorem addGroup (placed : Placed start vault recycled) {drawn : Uuid} (unused : vault.usesUuid drawn = false)
    (target title : String) : Placed start (addGroup drawn target title vault).2 recycled := by
  refine placed.of_atomic (addGroup_atomic drawn target title) fun view vault' result => ?_
  obtain ⟨root, put, rfl⟩ := addGroup_ok result
  have entries := (entriesIn_addChild put).map (·.id)
  have groups := (shellsIn_addChild put).map (·.id)
  simp only [entriesIn_mk, shellsIn_mk, List.flatMap_nil, List.append_nil, List.nil_append, List.singleton_append,
    List.map_cons] at entries groups
  refine placed.keep [drawn] [] ⟨List.nodup_singleton drawn, by simpa using unused⟩ ?_ ?_
    (addChild_id put) rfl
  · rw [List.append_nil]
    exact groups.append entries
  · exact fun id group => by simpa using groups.mem_iff.mp group

theorem deleteEntry (placed : Placed start vault recycled) (entryId : String) :
    Placed start (deleteEntry entryId vault).2 recycled := by
  rw [deleteEntry_cases]
  cases taken : takeEntryFromGroup entryId vault.root with
  | none => exact placed
  | some result => exact placed.takeEntry taken

theorem deleteGroup (placed : Placed start vault recycled) (groupId : String) :
    Placed start (deleteGroup groupId vault).2 recycled := by
  rcases deleteGroup_cases vault groupId with ⟨e, run⟩ | ⟨left, taken, result, run⟩
  · exact run ▸ placed
  · exact run ▸ placed.takeGroup result

theorem moveEntry (placed : Placed start vault recycled) (now : Int) (entryId target : String) :
    Placed start (moveEntry now entryId target vault).2 recycled := by
  rcases moveEntry_cases vault entryId target now with
    ⟨e, run⟩ | ⟨next, root, moved, -, -, run⟩
  · exact run ▸ placed
  · exact run ▸ placed.relocate (moved.relocated (fun _ _ => True) trivial rfl) moved.root_id

theorem moveGroup (placed : Placed start vault recycled) (groupId target : String) :
    Placed start (moveGroup groupId target vault).2 recycled := by
  rcases moveGroup_cases vault groupId target with
    ⟨e, run, -⟩ | ⟨-, left, group, taken, -, run⟩ | ⟨-, root, moved, run⟩
  · exact run ▸ placed
  · exact run ▸ placed.takeGroup taken
  · have regrouped := moved.regrouped
    rw [run]
    refine placed.keep [] [] ⟨List.nodup_nil, by simp⟩ ?_ ?_ moved.root_id rfl
    · rw [List.append_nil]
      exact regrouped.liveIds
    · exact fun id group => .inr (regrouped.groupIds.mem_iff.mp group)

theorem softDelete (placed : Placed start vault recycled) {drawn : Uuid} (unused : vault.usesUuid drawn = false)
    (now binChangedAt deletedAt : Int) (entryId : String) :
    Placed start (softDeleteEntryToRecycleBin drawn now binChangedAt deletedAt entryId vault).2
      (if (softDeleteEntryToRecycleBin drawn now binChangedAt deletedAt entryId vault).1.toOption.isSome
        then entryId :: recycled else recycled) := by
  rcases softDeleteEntryToRecycleBin_relocated vault drawn now binChangedAt deletedAt entryId with
    ⟨e, run⟩ | ⟨view, entry, created, ready, root, run, rfl, held, isBin, objects, rootId, relocated⟩
  · simpa [run, Except.toOption] using placed
  · rw [run]
    simp only [Except.toOption, Option.isSome_some, if_true]
    have fresh : (created.map (·.id)).Nodup ∧ ∀ id ∈ created.map (·.id), vault.usesUuid id = false := by
      rcases isBin with rfl | rfl
      · exact ⟨List.nodup_nil, by simp⟩
      · exact ⟨List.nodup_singleton _, by simpa [newRecycleBin] using unused⟩
    refine placed.next (created.map (·.id)) [] fresh ?_ ?_ rootId (fun id => ?_)
      fun id binned => ?_
    · rw [List.append_nil]
      exact relocated.liveIds
    · exact fun id group => List.mem_append.mp (relocated.groupIds.mem_iff.mp group)
    · have before := placed.tombstones id
      simp only [VaultKern.tombstones, Vault.addTombstone, objects] at before ⊢
      simp only [List.map_append, List.mem_append, List.mem_map, List.mem_filter, List.mem_cons] at before ⊢
      have same : uuidToString id = uuidToString entry.id ↔ id = entry.id :=
        ⟨uuidToString_injective, congrArg uuidToString⟩
      grind
    · rcases List.mem_cons.mp binned with same | earlier
      · exact .inr (uuidToString_injective same ▸ List.mem_map_of_mem held)
      · exact .inl earlier

theorem restore (placed : Placed start vault recycled) (now : Int) (entryId : String) (requested : Option String) :
    Placed start (restoreEntryFromRecycleBin now entryId requested vault).2
      (if (restoreEntryFromRecycleBin now entryId requested vault).1.toOption.isSome
        then recycled.filter (· ≠ entryId) else recycled) := by
  rcases restoreEntryFromRecycleBin_relocated vault now entryId requested with
    ⟨e, run⟩ | ⟨view, entry, root, run, rfl, held, rootId, relocated⟩
  · simpa [run, Except.toOption] using placed
  · rw [run]
    simp only [Except.toOption, Option.isSome_some, if_true]
    refine placed.next [] [] ⟨List.nodup_nil, by simp⟩ ?_ ?_ rootId (fun id => ?_)
      fun id binned => .inl (List.mem_of_mem_filter binned)
    · rw [List.append_nil]
      exact relocated.liveIds
    · exact fun id group => .inr (by simpa using relocated.groupIds.mem_iff.mp group)
    · have before := placed.tombstones id
      have alive : entry.id ∈ liveIds vault.root := List.mem_append_right _ (List.mem_map_of_mem held)
      have buried := placed.buried id
      have same : uuidToString id = uuidToString entry.id ↔ id = entry.id :=
        ⟨uuidToString_injective, congrArg uuidToString⟩
      simp only [VaultKern.tombstones, Vault.dropTombstones] at before buried ⊢
      simp only [List.mem_map, List.mem_filter] at before buried ⊢
      grind

theorem frame (placed : Placed start vault recycled) (root : after.root = vault.root)
    (objects : after.deletedObjects = vault.deletedObjects) : Placed start after recycled := by
  have tombstones : VaultKern.tombstones after = VaultKern.tombstones vault := by
    rw [VaultKern.tombstones, objects, VaultKern.tombstones]
  exact
    { distinct := root ▸ placed.distinct
      root := root ▸ placed.root
      tombstones := tombstones ▸ placed.tombstones
      buried := root ▸ placed.buried
      entries := root ▸ placed.entries }

theorem binTemplate (placed : Placed start vault recycled) (update : VaultBinTemplateMetadataUpdate) :
    Placed start (updateVaultBinTemplateMetadata update vault).2 recycled := by
  refine placed.of_atomic (updateVaultBinTemplateMetadata_atomic update) fun view vault' result => ?_
  obtain ⟨-, -, result⟩ := (ReadOnly.lift _).bind_ok.mp result
  obtain ⟨-, -, result⟩ := (ReadOnly.lift _).bind_ok.mp result
  obtain ⟨bin, -, result⟩ := (resolveGroupReferenceUpdate_readOnly _).bind_ok.mp result
  obtain ⟨templates, -, result⟩ := (resolveGroupReferenceUpdate_readOnly _).bind_ok.mp result
  rw [write_run] at result
  cases result
  have keeps := (setEntryTemplatesGroupChanged_keepsTree update.entryTemplatesGroupChanged).comp
    ((setEntryTemplatesGroup_keepsTree templates).comp
      ((setRecycleBinChanged_keepsTree update.recycleBinChanged).comp
        ((setRecycleBinGroup_keepsTree bin).comp (setRecycleBinEnabled_keepsTree update.recycleBinEnabled))))
  exact placed.frame (keeps vault).1 (keeps vault).2

/-- One call keeps what holds of every vault of a run. -/
theorem call {A : Type} (placed : Placed start vault recycled) (digest : List UInt8 → List UInt8) (call : Call A)
    (kind : call.IsPlacement) (draws : call.DrawsUnused vault) :
    Placed start (call.run digest vault).2
      (call.recycledAfter recycled (call.run digest vault).1.toOption.isSome) := by
  cases call with
  | addEntry drawn now target create => exact placed.addEntryWithId now target (uuidToString drawn) create
  | addEntryWithId now target entryId create => exact placed.addEntryWithId now target entryId create
  | deleteEntry entryId => exact placed.deleteEntry entryId
  | addGroup drawn target title => exact placed.addGroup draws target title
  | deleteGroup groupId => exact placed.deleteGroup groupId
  | moveEntry now entryId target => exact placed.moveEntry now entryId target
  | moveGroup groupId target => exact placed.moveGroup groupId target
  | softDeleteEntryToRecycleBin drawn now binChangedAt deletedAt entryId =>
      exact placed.softDelete draws now binChangedAt deletedAt entryId
  | restoreEntryFromRecycleBin now entryId requested => exact placed.restore now entryId requested
  | updateVaultBinTemplateMetadata update => exact placed.binTemplate update
  | _ => exact kind.elim

end Placed

/-- What holds at the start of a run holds of every vault that it reaches. -/
theorem PlacementRun.placed {digest : List UInt8 → List UInt8} {start vault : Vault} {recycled : List String}
    (distinct : (liveIds start.root).Nodup) (apart : ∀ id ∈ tombstones start, id ∉ liveIds start.root)
    (run : PlacementRun digest start vault recycled) : Placed start vault recycled := by
  induction run with
  | nil => exact ⟨distinct, rfl, by simp, apart, by simp⟩
  | step run call kind draws ih => exact ih.call digest call kind draws

/-! ## What a call moves -/

/-- What a successful move, soft delete or restore may change. A restore drops the slot of
    the former parent. -/
def Call.Moves {A : Type} (before after : Group) : Call A → Prop
  | .moveEntry _ entryId _ => Relocated entryId (fun entry entry' => entry'.unplaced = entry.unplaced) [] before after
  | .moveGroup groupId _ => Regrouped groupId before after
  | .softDeleteEntryToRecycleBin drawn _ _ _ entryId => ∃ created, (created = [] ∨ created = [newRecycleBin drawn]) ∧
      Relocated entryId (fun entry entry' => entry'.unplaced = entry.unplaced) created before after
  | .restoreEntryFromRecycleBin _ entryId _ => Relocated entryId RestoredFrom [] before after
  | _ => True

theorem call_moves {A : Type} (digest : List UInt8 → List UInt8) (call : Call A) (vault : Vault)
    (succeeds : (call.run digest vault).1.toOption.isSome) :
    call.Moves vault.root (call.run digest vault).2.root := by
  cases call with
  | moveEntry now entryId target =>
      rcases moveEntry_cases vault entryId target now with
        ⟨e, run⟩ | ⟨next, root, moved, -, -, run⟩
      · simp [Call.run, run, Except.toOption] at succeeds
      · simp only [Call.run, Call.Moves, run]
        exact moved.relocated _ rfl rfl
  | moveGroup groupId target =>
      rcases moveGroup_cases vault groupId target with
        ⟨e, run, -⟩ | ⟨-, left, group, -, -, run⟩ | ⟨-, root, moved, run⟩
      · simp [Call.run, run, Except.toOption] at succeeds
      · simp [Call.run, run, Except.toOption] at succeeds
      · simp only [Call.run, Call.Moves, run]
        exact moved.regrouped
  | softDeleteEntryToRecycleBin drawn now binChangedAt deletedAt entryId =>
      rcases softDeleteEntryToRecycleBin_relocated vault drawn now binChangedAt deletedAt entryId with
        ⟨e, run⟩ | ⟨view, entry, created, ready, root, run, -, -, isBin, -, -, relocated⟩
      · simp [Call.run, run, Except.toOption] at succeeds
      · simp only [Call.run, Call.Moves, run]
        exact ⟨created, isBin, relocated⟩
  | restoreEntryFromRecycleBin now entryId requested =>
      rcases restoreEntryFromRecycleBin_relocated vault now entryId requested with
        ⟨e, run⟩ | ⟨view, entry, root, run, -, -, -, relocated⟩
      · simp [Call.run, run, Except.toOption] at succeeds
      · simp only [Call.run, Call.Moves, run]
        exact relocated
  | _ => trivial

/-! ## Runs keep the tree in order -/

/-- Ids stay distinct and the root stays the root. The tombstones are those of the start and
    those of the entries that the run has recycled, and only these can be of live objects.
    The next move, soft delete or restore changes nothing but places. -/
theorem placement_run {digest : List UInt8 → List UInt8} {start vault : Vault} {recycled : List String}
    (distinct : (liveIds start.root).Nodup) (apart : ∀ id ∈ tombstones start, id ∉ liveIds start.root)
    (run : PlacementRun digest start vault recycled) :
    (liveIds vault.root).Nodup ∧ vault.root.id = start.root.id ∧
    (∀ id, id ∈ tombstones vault ↔ id ∈ tombstones start ∨ uuidToString id ∈ recycled) ∧
    (∀ id ∈ liveIds vault.root, id ∈ tombstones vault ↔
      uuidToString id ∈ recycled ∧ id ∈ (entriesIn vault.root).map (·.id)) ∧
    (∀ (A : Type) (call : Call A), (call.run digest vault).1.toOption.isSome →
      call.Moves vault.root (call.run digest vault).2.root) := by
  have placed := run.placed distinct apart
  refine ⟨placed.distinct, placed.root, placed.tombstones, ?_, fun A call => call_moves digest call vault⟩
  intro id alive
  rw [placed.tombstones]
  constructor
  · rintro (old | binned)
    · exact absurd alive (placed.buried id old)
    · refine ⟨binned, ?_⟩
      rcases List.mem_append.mp alive with group | entry
      · exact absurd group (placed.entries id binned)
      · exact entry
  · exact fun both => .inr both.1

/-- A vault with one entry and no recycle bin. -/
def oneEntryVault : Vault := { name := "One", root := { id := 1, title := "Root", entries := [{ id := 2, title := "Mail" }] } }

def softDeleteMail : Call EntryView := .softDeleteEntryToRecycleBin 3 100 100 100 (uuidToString 2)

def restoreRecycledMail : Call EntryView := .restoreEntryFromRecycleBin 200 (uuidToString 2) none

/-- The entry that is soft deleted gets a tombstone, and a restore takes it back to the root. -/
theorem placement_run_softDelete :
    (liveIds (softDeleteMail.run id oneEntryVault).2.root).Nodup ∧
    2 ∈ tombstones (softDeleteMail.run id oneEntryVault).2 ∧
    restoreRecycledMail.Moves (softDeleteMail.run id oneEntryVault).2.root
      (restoreRecycledMail.run id (softDeleteMail.run id oneEntryVault).2).2.root := by
  have run := PlacementRun.step (.nil : PlacementRun id oneEntryVault oneEntryVault []) softDeleteMail trivial
    (show oneEntryVault.usesUuid 3 = false by decide +kernel)
  have result := placement_run (by decide +kernel) (by simp [tombstones, oneEntryVault]) run
  exact ⟨result.1, (result.2.2.1 2).mpr (.inr (by decide +kernel)), result.2.2.2.2 _ restoreRecycledMail (by decide +kernel)⟩

/-- A soft deleted entry lives in the recycle bin and has a tombstone. -/
theorem recycledEntry_tombstone : ¬ ∀ (digest : List UInt8 → List UInt8) (start vault : Vault) (recycled : List String),
    (liveIds start.root).Nodup → (∀ id ∈ tombstones start, id ∉ liveIds start.root) →
    PlacementRun digest start vault recycled → ∀ id ∈ liveIds vault.root, id ∉ tombstones vault := by
  intro claim
  have run := PlacementRun.step (.nil : PlacementRun id oneEntryVault oneEntryVault []) softDeleteMail trivial
    (show oneEntryVault.usesUuid 3 = false by decide +kernel)
  exact claim id oneEntryVault _ _ (by decide +kernel) (by simp [tombstones, oneEntryVault]) run 2
    (by decide +kernel) (by decide +kernel)

end VaultKern
