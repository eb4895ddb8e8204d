import VaultKern.Guarantees.NoOrphans

/-! # Edits beat deletions

An object that one side deleted goes away if the other side left it untouched, and
otherwise stays as the other side has it. For a group, touched means that anything
at or below it changed, or anything below a deleted group that it lies in.
-/

namespace VaultKern

/-- The table has the entry, below the same parent and with the same record. -/
def HoldsEntry (flat : FlatVault) (id : Uuid) (entry : FlatEntry) : Prop :=
  ∃ row, flat.entries[id]? = some row ∧ row.parent = entry.parent ∧ row.value = entry.value

/-- The table has the group below the same parent and with the same record, its slots
    normalized for the members it has in this table. -/
def HoldsGroup (flat : FlatVault) (id : Uuid) (group : FlatGroup) : Prop :=
  ∃ row, flat.groups[id]? = some row ∧ row.parent = group.parent ∧
    row.value = flat.normalizedGroup id group.value

section Untouched

variable (base survivor other : FlatVault)

/-- The survivor has the entry as the base has it, outside every group that it changed
    and the other side deleted. -/
def EntryUntouched (b s : FlatEntry) : Prop :=
  SameEntry b s ∧ ¬ Preserved base survivor other s.parent

/-- Nothing at or below the group changed, and it lies in no group that the survivor
    changed and the other side deleted. -/
def GroupUntouched (id : Uuid) : Prop :=
  Untouched base survivor id ∧ ¬ Preserved base survivor other id

variable {base survivor other}

/-- A deleted group that is not preserved is untouched. -/
theorem groupUntouched_iff {id : Uuid} {b s : FlatGroup} (inBase : base.groups[id]? = some b)
    (inSurvivor : survivor.groups[id]? = some s) (gone : other.groups[id]? = none) :
    GroupUntouched base survivor other id ↔ ¬ Preserved base survivor other id := by
  refine ⟨And.right, fun calm => ⟨?_, calm⟩⟩
  by_contra changed
  refine calm ⟨id, ?_, ?_, ?_, changed, .refl id⟩
  · exact (BTreeMap.mem_iff_lookup _ _).mpr ⟨b, inBase⟩
  · exact (BTreeMap.mem_iff_lookup _ _).mpr ⟨s, inSurvivor⟩
  · exact (BTreeMap.not_mem_iff_lookup _ _).mpr gone

end Untouched

/-- What becomes of an object that the survivor has and the other side has not. -/
structure SettlesAbsence (base survivor other merged : FlatVault) : Prop where
  entryDeleted : ∀ {id : Uuid} {b s : FlatEntry}, base.entries[id]? = some b →
    survivor.entries[id]? = some s → other.entries[id]? = none →
      EntryUntouched base survivor other b s → merged.entries[id]? = none
  entryKept : ∀ {id : Uuid} {b s : FlatEntry}, base.entries[id]? = some b →
    survivor.entries[id]? = some s → other.entries[id]? = none →
      ¬ EntryUntouched base survivor other b s → HoldsEntry merged id s
  entryAdded : ∀ {id : Uuid} {s : FlatEntry}, base.entries[id]? = none →
    survivor.entries[id]? = some s → other.entries[id]? = none → HoldsEntry merged id s
  groupDeleted : ∀ {id : Uuid} {b s : FlatGroup}, base.groups[id]? = some b →
    survivor.groups[id]? = some s → other.groups[id]? = none →
      GroupUntouched base survivor other id → merged.groups[id]? = none
  groupKept : ∀ {id : Uuid} {b s : FlatGroup}, base.groups[id]? = some b →
    survivor.groups[id]? = some s → other.groups[id]? = none →
      ¬ GroupUntouched base survivor other id → HoldsGroup merged id s
  groupAdded : ∀ {id : Uuid} {s : FlatGroup}, base.groups[id]? = none →
    survivor.groups[id]? = some s → other.groups[id]? = none → HoldsGroup merged id s

/-! ## Reading rows of the result -/

theorem SameTree.normalizedGroup_eq {m flat : FlatVault} (same : SameTree m flat) (id : Uuid) (group : Group) :
    m.normalizedGroup id group = flat.normalizedGroup id group := by
  rw [FlatVault.normalizedGroup, FlatVault.normalizedGroup, same.entryOrder, same.groupOrder]

namespace PatchRun

variable {base local' remote : Vault} {result : ThreeWayPatchResult} (run : PatchRun base local' remote result)
  {id : Uuid}

include run

theorem result_group (id : Uuid) : ∃ order, result.vault.flat.groups[id]? = run.groups[id]?.map fun row =>
    { value := result.vault.flat.normalizedGroup id row.value, parent := row.parent, order } := by
  obtain ⟨order, stored⟩ := run.result_sameTree.groups id
  obtain ⟨index, renumbered⟩ := run.groups_reordered id
  refine ⟨order, ?_⟩
  rw [stored]
  change run.orderedGroups[id]?.map _ = _
  rw [renumbered, Option.map_map]
  congr 1
  funext row
  simp only [Function.comp_apply, run.result_sameTree.normalizedGroup_eq]
  rfl

theorem result_entries : Reordered run.entries result.vault.flat.entries :=
  run.entries_reordered.trans run.result_sameTree.entries

theorem group_absent (absent : run.groups[id]? = none) : result.vault.flat.groups[id]? = none := by
  obtain ⟨order, stored⟩ := run.result_group id
  rw [stored, absent]
  rfl

theorem group_holds {row : FlatGroup} (chosen : run.groups[id]? = some row) :
    HoldsGroup result.vault.flat id row := by
  obtain ⟨order, stored⟩ := run.result_group id
  rw [chosen] at stored
  exact ⟨_, stored, rfl, rfl⟩

theorem entry_absent (absent : run.entries[id]? = none) : result.vault.flat.entries[id]? = none := by
  obtain ⟨order, stored⟩ := run.result_entries id
  rw [stored, absent]
  rfl

theorem entry_holds {row : FlatEntry} (chosen : run.entries[id]? = some row) :
    HoldsEntry result.vault.flat id row := by
  obtain ⟨order, stored⟩ := run.result_entries id
  rw [chosen] at stored
  exact ⟨_, stored, rfl, rfl⟩

end PatchRun

/-! ## The choice for an object that one side alone has -/

/-- The only row of the two sides is kept, unless the base has it and it is not worth keeping. -/
def KeptAlone {R : Type} (keep : R → R → Prop) (b : Option R) (s : R) (m : Option R) : Prop :=
  (m = some s ∧ ∀ b', b = some b' → keep b' s) ∨ (m = none ∧ ∃ b', b = some b' ∧ ¬ keep b' s)

section Alone

variable {R : Type} {agree keepLocal keepRemote keep : R → R → Prop} {shared : R → R → R → R → Prop}
  {b m : Option R} {b' l r s : R}

theorem Chosen.local_alone (chosen : Chosen agree keepLocal keepRemote shared b (some l) none m) :
    KeptAlone keepLocal b l m := by
  cases chosen with
  | localAdded => exact .inl ⟨rfl, nofun⟩
  | localKept keep => exact .inl ⟨rfl, fun _ same => Option.some.inj same ▸ keep⟩
  | remoteDeleted untouched => exact .inr ⟨rfl, _, rfl, untouched⟩

theorem Chosen.remote_alone (chosen : Chosen agree keepLocal keepRemote shared b none (some r) m) :
    KeptAlone keepRemote b r m := by
  cases chosen with
  | remoteAdded => exact .inl ⟨rfl, nofun⟩
  | remoteKept keep => exact .inl ⟨rfl, fun _ same => Option.some.inj same ▸ keep⟩
  | localDeleted untouched => exact .inr ⟨rfl, _, rfl, untouched⟩

theorem Chosen.deleted_twice (chosen : Chosen agree keepLocal keepRemote shared b none none m) : m = none := by
  cases chosen <;> rfl

theorem KeptAlone.added (alone : KeptAlone keep none s m) : m = some s := by
  rcases alone with ⟨kept, _⟩ | ⟨_, _, inBase, _⟩
  · exact kept
  · cases inBase

theorem KeptAlone.kept (alone : KeptAlone keep (some b') s m) (worth : keep b' s) : m = some s := by
  rcases alone with ⟨kept, _⟩ | ⟨_, _, same, refused⟩
  · exact kept
  · exact absurd worth (Option.some.inj same ▸ refused)

theorem KeptAlone.deleted (alone : KeptAlone keep (some b') s m) (refused : ¬ keep b' s) : m = none := by
  rcases alone with ⟨_, worth⟩ | ⟨gone, _⟩
  · exact absurd (worth b' rfl) refused
  · exact gone

end Alone

namespace PatchRun

variable {base local' remote : Vault} {result : ThreeWayPatchResult} (run : PatchRun base local' remote result)

include run

/-- The two sides play the same role for an object that only one of them has. -/
theorem settlesAbsence {survivor other : FlatVault}
    (entries : ∀ {id : Uuid} {s : FlatEntry}, survivor.entries[id]? = some s → other.entries[id]? = none →
      KeptAlone (fun b s => ¬ SameEntry b s ∨ Preserved base.flat survivor other s.parent)
        base.flat.entries[id]? s run.entries[id]?)
    (groups : ∀ {id : Uuid} {s : FlatGroup}, survivor.groups[id]? = some s → other.groups[id]? = none →
      KeptAlone (fun _ _ => Preserved base.flat survivor other id) base.flat.groups[id]? s run.groups[id]?) :
    SettlesAbsence base.flat survivor other result.vault.flat := by
  constructor
  case entryDeleted =>
    intro id b s inBase inSurvivor gone untouched
    have alone := entries inSurvivor gone
    rw [inBase] at alone
    exact run.entry_absent (alone.deleted (by simpa [EntryUntouched] using untouched))
  case entryKept =>
    intro id b s inBase inSurvivor gone touched
    have alone := entries inSurvivor gone
    rw [inBase] at alone
    exact run.entry_holds (alone.kept (by simpa [EntryUntouched, imp_iff_not_or] using touched))
  case entryAdded =>
    intro id s notInBase inSurvivor gone
    have alone := entries inSurvivor gone
    rw [notInBase] at alone
    exact run.entry_holds alone.added
  case groupDeleted =>
    intro id b s inBase inSurvivor gone untouched
    have alone := groups inSurvivor gone
    rw [inBase] at alone
    exact run.group_absent (alone.deleted untouched.2)
  case groupKept =>
    intro id b s inBase inSurvivor gone touched
    have alone := groups inSurvivor gone
    rw [inBase] at alone
    rw [groupUntouched_iff inBase inSurvivor gone, not_not] at touched
    exact run.group_holds (alone.kept touched)
  case groupAdded =>
    intro id s notInBase inSurvivor gone
    have alone := groups inSurvivor gone
    rw [notInBase] at alone
    exact run.group_holds alone.added

theorem settlesAbsence_local : SettlesAbsence base.flat local'.flat remote.flat result.vault.flat := by
  apply run.settlesAbsence
  · intro id s inLocal gone
    have choice := run.entry_chosen id
    rw [inLocal, gone] at choice
    exact choice.local_alone
  · intro id s inLocal gone
    have choice := run.group_chosen id
    rw [inLocal, gone] at choice
    exact choice.local_alone

theorem settlesAbsence_remote : SettlesAbsence base.flat remote.flat local'.flat result.vault.flat := by
  apply run.settlesAbsence
  · intro id s inRemote gone
    have choice := run.entry_chosen id
    rw [inRemote, gone] at choice
    exact choice.remote_alone
  · intro id s inRemote gone
    have choice := run.group_chosen id
    rw [inRemote, gone] at choice
    exact choice.remote_alone

end PatchRun

/-! ## The guarantee -/

/-- Edit beats delete, and delete sticks on untouched objects. -/
theorem patch_settles_deletions {base local' remote : Vault} {result : ThreeWayPatchResult}
    (success : threeWayFieldPatch base local' remote = .ok result) :
    SettlesAbsence base.flat local'.flat remote.flat result.vault.flat ∧
      SettlesAbsence base.flat remote.flat local'.flat result.vault.flat ∧
      (∀ id : Uuid, local'.flat.entries[id]? = none → remote.flat.entries[id]? = none →
        result.vault.flat.entries[id]? = none) ∧
      ∀ id : Uuid, local'.flat.groups[id]? = none → remote.flat.groups[id]? = none →
        result.vault.flat.groups[id]? = none := by
  obtain ⟨run⟩ := threeWayFieldPatch_ok.mp success
  refine ⟨run.settlesAbsence_local, run.settlesAbsence_remote, ?_, ?_⟩
  · intro id noLocal noRemote
    have choice := run.entry_chosen id
    rw [noLocal, noRemote] at choice
    exact run.entry_absent choice.deleted_twice
  · intro id noLocal noRemote
    have choice := run.group_chosen id
    rw [noLocal, noRemote] at choice
    exact run.group_absent choice.deleted_twice

/-- One side renames a folder, the other deletes it with the folder inside. -/
def renamedFolderBase : Vault :=
  { name := "Vault"
    root :=
      { id := 1, title := "Root"
        children := [{ id := 2, title := "Folder", children := [{ id := 3, title := "Nested" }] }] } }

def renamedFolderLocal : Vault :=
  { name := "Vault"
    root :=
      { id := 1, title := "Root"
        children := [{ id := 2, title := "Renamed", children := [{ id := 3, title := "Nested" }] }] } }

def renamedFolderRemote : Vault := { name := "Vault", root := { id := 1, title := "Root" } }

theorem patch_settles_deletions_renamedFolder :
    ∃ result, threeWayFieldPatch renamedFolderBase renamedFolderLocal renamedFolderRemote = .ok result ∧
      SettlesAbsence renamedFolderBase.flat renamedFolderLocal.flat renamedFolderRemote.flat
        result.vault.flat := by
  cases run : threeWayFieldPatch renamedFolderBase renamedFolderLocal renamedFolderRemote with
  | error e =>
      have success : (threeWayFieldPatch renamedFolderBase renamedFolderLocal
        renamedFolderRemote).toBool = true := by decide +kernel
      rw [run] at success
      cases success
  | ok result => exact ⟨result, rfl, (patch_settles_deletions run).1⟩

/-- The nested folder is untouched and its deletion still does not stick, because the
    folder around it was renamed. -/
theorem untouched_group_survives :
    ∃ result, threeWayFieldPatch renamedFolderBase renamedFolderLocal renamedFolderRemote = .ok result ∧
      (3 : Uuid) ∈ renamedFolderBase.flat.groups ∧ (3 : Uuid) ∈ renamedFolderLocal.flat.groups ∧
      (3 : Uuid) ∉ renamedFolderRemote.flat.groups ∧
      Untouched renamedFolderBase.flat renamedFolderLocal.flat 3 ∧ (3 : Uuid) ∈ result.vault.flat.groups := by
  have inBase : (3 : Uuid) ∈ renamedFolderBase.flat.groups := by decide +kernel
  have inLocal : (3 : Uuid) ∈ renamedFolderLocal.flat.groups := by decide +kernel
  have gone : (3 : Uuid) ∉ renamedFolderRemote.flat.groups := by decide +kernel
  have uniqueBase : renamedFolderBase.UniqueIds := ⟨by decide +kernel, by decide +kernel⟩
  have uniqueLocal : renamedFolderLocal.UniqueIds := ⟨by decide +kernel, by decide +kernel⟩
  have untouched : Untouched renamedFolderBase.flat renamedFolderLocal.flat 3 :=
    (subtreeChanged_eq_false (Vault.flat_wellFormed uniqueBase) (Vault.flat_wellFormed uniqueLocal)
      inBase).mp (by decide +kernel)
  have kept : (threeWayFieldPatch renamedFolderBase renamedFolderLocal renamedFolderRemote).toOption.any
      (fun result => result.vault.flat.groups.contains 3) = true := by decide +kernel
  cases run : threeWayFieldPatch renamedFolderBase renamedFolderLocal renamedFolderRemote with
  | error e => simp [run, Except.toOption] at kept
  | ok result =>
      refine ⟨result, rfl, inBase, inLocal, gone, untouched, ?_⟩
      simpa [run, Except.toOption] using kept

end VaultKern
