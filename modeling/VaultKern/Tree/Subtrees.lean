import VaultKern.Tree.WellFormed

/-! # What the subtree tests decide

On well formed tables the climbing loops decide ancestry, and the comparison of
subtrees says what its name says.
-/

namespace VaultKern

open ParentForest

namespace FlatVault

variable {flat base side left right : FlatVault} {id root : Uuid}

theorem parentOf_eq_some {parent : Uuid} :
    flat.parentOf id = some parent ↔ ∃ row, flat.groups[id]? = some row ∧ row.parent = some parent := by
  rw [parentOf, Option.bind_eq_some_iff]

theorem mem_of_parentOf (linked : flat.parentOf id ≠ none) : id ∈ flat.groups := by
  obtain ⟨parent, up⟩ := Option.ne_none_iff_exists'.mp linked
  obtain ⟨row, here, _⟩ := parentOf_eq_some.mp up
  exact (BTreeMap.mem_iff_lookup _ _).mpr ⟨row, here⟩

theorem WellFormed.root_mem (wf : flat.WellFormed) : flat.rootId ∈ flat.groups := by
  obtain ⟨row, here, _⟩ := wf.root
  exact (BTreeMap.mem_iff_lookup _ _).mpr ⟨row, here⟩

theorem WellFormed.isRooted (wf : flat.WellFormed) :
    Rooted flat.parentOf (· ∈ flat.groups) flat.rootId where
  top := by
    obtain ⟨row, here, top⟩ := wf.root
    rw [parentOf, here]
    exact top
  reaches _ inside := wf.rooted inside

theorem WellFormed.acyclic (wf : flat.WellFormed) : Acyclic flat.parentOf :=
  wf.isRooted.acyclic fun _ => mem_of_parentOf

/-- A group without parent is the root. -/
theorem WellFormed.eq_root (wf : flat.WellFormed) {row : FlatGroup} (here : flat.groups[id]? = some row)
    (top : row.parent = none) : id = flat.rootId := by
  by_contra apart
  obtain ⟨parent, up, _⟩ := wf.up here apart
  rw [top] at up
  cases up

theorem WellFormed.parent_mem (wf : flat.WellFormed) {row : FlatGroup} {parent : Uuid}
    (here : flat.groups[id]? = some row) (up : row.parent = some parent) : parent ∈ flat.groups := by
  by_cases isRoot : id = flat.rootId
  · obtain ⟨top, there, none⟩ := wf.root
    rw [← isRoot, here] at there
    cases there
    rw [up] at none
    cases none
  · obtain ⟨parent', up', inside⟩ := wf.up here isRoot
    cases Option.some.inj (up.symm.trans up')
    exact inside

/-! ## Ancestry -/

theorem reaches_of_climbTo {ancestor : Uuid} {fuel : Nat} {visited : BTreeSet Uuid}
    (climbs : flat.climbTo ancestor fuel visited id = true) : Reaches flat.parentOf id ancestor := by
  induction fuel generalizing visited id with
  | zero => cases climbs
  | succ fuel ih =>
      simp only [climbTo] at climbs
      split at climbs
      · rename_i same
        exact same ▸ .refl id
      · split at climbs
        · cases climbs
        · split at climbs
          · cases climbs
          · rename_i up
            exact (Reaches.step up).trans (ih climbs)

/-- The visited groups lie strictly below the current one, so it is met once. -/
theorem climbTo_of_ancestor {top : Uuid} {fuel n : Nat} {visited : BTreeSet Uuid}
    (acyclic : Acyclic flat.parentOf) (climb : ParentForest.ancestor flat.parentOf n id = some top)
    (enough : n < fuel)
    (below : ∀ v ∈ visited, ∃ m, 0 < m ∧ ParentForest.ancestor flat.parentOf m v = some id) :
    flat.climbTo top fuel visited id = true := by
  induction fuel generalizing n visited id with
  | zero => omega
  | succ fuel ih =>
      simp only [climbTo]
      split
      · rfl
      · rename_i apart
        have fresh : id ∉ visited := by
          intro member
          obtain ⟨m, positive, loop⟩ := below id member
          exact acyclic id m positive loop
        rw [if_neg (by simpa using fresh)]
        cases n with
        | zero => exact absurd (Option.some.inj climb) apart
        | succ n =>
            obtain ⟨parent, up, rest⟩ := Option.bind_eq_some_iff.mp climb
            simp only [up]
            refine ih rest (by omega) ?_
            intro v member
            rw [Std.ExtTreeSet.mem_insert, Std.compare_eq_iff_eq] at member
            rcases member with rfl | old
            · exact ⟨1, Nat.one_pos, by simp [ParentForest.ancestor, up]⟩
            · obtain ⟨m, _, climbed⟩ := below v old
              exact ⟨m + 1, Nat.succ_pos m, by rw [ancestor_succ, climbed]; exact up⟩

theorem WellFormed.groupIsBelowOrSame_iff (wf : flat.WellFormed) {ancestor : Uuid} :
    flat.groupIsBelowOrSame id ancestor = true ↔ Reaches flat.parentOf id ancestor := by
  constructor
  · exact reaches_of_climbTo
  · rintro ⟨n, climb⟩
    have short : n ≤ flat.groups.keys.length := by
      refine wf.acyclic.steps_le (fun k linked => ?_) climb
      rw [Std.ExtTreeMap.mem_keys]
      exact mem_of_parentOf linked
    rw [Std.ExtTreeMap.length_keys] at short
    exact climbTo_of_ancestor wf.acyclic climb (by omega) (by simp)

theorem WellFormed.groupIsBelow_iff (wf : flat.WellFormed) {ancestor : Uuid} :
    flat.groupIsBelow id ancestor = true ↔ id ≠ ancestor ∧ Reaches flat.parentOf id ancestor := by
  simp [groupIsBelow, wf.groupIsBelowOrSame_iff]

end FlatVault

open FlatVault

variable {flat base side survivor other left right : FlatVault} {id root : Uuid}

/-! ## Kept rows -/

def SameGroup (a b : FlatGroup) : Prop := a.parent = b.parent ∧ a.value = b.value

def SameEntry (a b : FlatEntry) : Prop := a.parent = b.parent ∧ a.value = b.value

theorem sameEntryRecord_iff {a b : FlatEntry} : sameEntryRecord a b = true ↔ SameEntry a b := by
  simp [sameEntryRecord, SameEntry]

theorem groupKeptIn_iff {row : FlatGroup} :
    groupKeptIn flat id row = true ↔ ∃ twin, flat.groups[id]? = some twin ∧ SameGroup row twin := by
  simp [groupKeptIn, Option.any_eq_true, sameGroupRecord, SameGroup]

theorem entryKeptIn_iff {row : FlatEntry} :
    entryKeptIn flat id row = true ↔ ∃ twin, flat.entries[id]? = some twin ∧ SameEntry row twin := by
  simp [entryKeptIn, Option.any_eq_true, sameEntryRecord, SameEntry]

/-! ## Untouched subtrees -/

/-- Every row of `left` at or below the group has its twin in `right`. -/
structure SubtreeKept (left right : FlatVault) (root : Uuid) : Prop where
  groups : ∀ {id : Uuid} {row : FlatGroup}, left.groups[id]? = some row → Reaches left.parentOf id root →
    ∃ twin, right.groups[id]? = some twin ∧ SameGroup row twin
  entries : ∀ {id : Uuid} {row : FlatEntry}, left.entries[id]? = some row →
    Reaches left.parentOf row.parent root → ∃ twin, right.entries[id]? = some twin ∧ SameEntry row twin

/-- No record at or below the group, in either tree, was added, removed, moved or changed. -/
structure Untouched (base side : FlatVault) (root : Uuid) : Prop where
  kept : SubtreeKept base side root
  added : SubtreeKept side base root

theorem subtreeChanged_eq_false (wfBase : base.WellFormed) (wfSide : side.WellFormed)
    (inside : root ∈ base.groups) : subtreeChanged base side root = false ↔ Untouched base side root := by
  obtain ⟨top, here⟩ := (BTreeMap.mem_iff_lookup _ _).mp inside
  simp only [subtreeChanged, here, Bool.or_eq_false_iff, Bool.not_eq_false', List.any_eq_false,
    Bool.and_eq_true, Bool.not_eq_true', not_and, Bool.not_eq_false, Prod.forall,
    Std.ExtTreeMap.mem_toList_iff_getElem?_eq_some, groupKeptIn_iff, entryKeptIn_iff,
    wfBase.groupIsBelow_iff, wfBase.groupIsBelowOrSame_iff, wfSide.groupIsBelowOrSame_iff,
    decide_eq_true_eq]
  constructor
  · rintro ⟨⟨⟨⟨keptRoot, keptGroups⟩, keptEntries⟩, newGroups⟩, newEntries⟩
    refine ⟨⟨?_, fun stored => keptEntries _ _ stored⟩, ⟨fun stored => newGroups _ _ stored, fun stored => newEntries _ _ stored⟩⟩
    intro id row stored below
    by_cases same : id = root
    · subst same
      rw [here] at stored
      cases stored
      exact keptRoot
    · exact keptGroups id row stored ⟨same, same, below⟩
  · rintro ⟨kept, added⟩
    exact ⟨⟨⟨⟨kept.groups here (.refl _), fun id row stored below => kept.groups stored below.2.2⟩,
      fun id row stored => kept.entries stored⟩, fun id row stored => added.groups stored⟩,
      fun id row stored => added.entries stored⟩

theorem mem_changedSubtrees (wfBase : base.WellFormed) (wfSurvivor : survivor.WellFormed) :
    root ∈ changedSubtreesDeletedFromOther base survivor other ↔
      root ∈ base.groups ∧ root ∈ survivor.groups ∧ root ∉ other.groups ∧ ¬ Untouched base survivor root := by
  simp only [changedSubtreesDeletedFromOther, List.mem_filter, Std.ExtTreeMap.mem_keys, Bool.and_eq_true,
    Std.ExtTreeMap.contains_iff_mem, Bool.not_eq_true']
  refine and_congr_right fun inside => ?_
  rw [← subtreeChanged_eq_false wfBase wfSurvivor inside, Bool.not_eq_false, and_assoc]
  simp [← Bool.not_eq_true]

theorem belongsToPreservedSubtree_iff (wf : survivor.WellFormed) {preserved : List Uuid} :
    belongsToPreservedSubtree id survivor preserved = true ↔
      ∃ root ∈ preserved, Reaches survivor.parentOf id root := by
  simp [belongsToPreservedSubtree, wf.groupIsBelowOrSame_iff]

/-- Below a group that the other side deleted and the survivor changed. -/
def Preserved (base survivor other : FlatVault) (id : Uuid) : Prop :=
  ∃ root, root ∈ base.groups ∧ root ∈ survivor.groups ∧ root ∉ other.groups ∧
    ¬ Untouched base survivor root ∧ Reaches survivor.parentOf id root

theorem belongsToPreserved_iff (wfBase : base.WellFormed) (wfSurvivor : survivor.WellFormed) :
    belongsToPreservedSubtree id survivor (changedSubtreesDeletedFromOther base survivor other) = true ↔
      Preserved base survivor other id := by
  simp only [belongsToPreservedSubtree_iff wfSurvivor, mem_changedSubtrees wfBase wfSurvivor, Preserved,
    and_assoc]

end VaultKern
