import VaultKern.Patch.ThreeWay
import VaultKern.Tree.Subtrees

/-! # Rebuilding a tree

On well formed tables the hierarchy check passes and rebuilding succeeds. Reading
the rebuilt tree back gives the tables again: same parents, same orders, and every
group normalized for the members it has.
-/

namespace VaultKern

open ParentForest FlatVault

variable {m flat : FlatVault} {id : Uuid}

/-! ## Validating the hierarchy -/

abbrev parentIn (groups : BTreeMap Uuid FlatGroup) (id : Uuid) : Option Uuid := groups[id]?.bind (·.parent)

theorem climbToRoot_ok {rootId top : Uuid} {groups : BTreeMap Uuid FlatGroup} {fuel : Nat}
    {visited : BTreeSet Uuid} (run : climbToRoot rootId groups top fuel visited id = .ok ()) :
    Reaches (fun id => groups[id]?.bind (·.parent)) id rootId := by
  induction fuel generalizing visited id with
  | zero => cases run
  | succ fuel ih =>
      simp only [climbToRoot] at run
      split at run
      · cases run
      · split at run
        · cases run
        · rename_i row here
          split at run
          · rename_i parent up
            exact (Reaches.step (by simp [here, up])).trans (ih run)
          · split at run
            · rename_i same
              exact same ▸ .refl id
            · cases run

/-- What is known of merged groups before the hierarchy is checked. -/
structure ParentClosed (rootId : Uuid) (groups : BTreeMap Uuid FlatGroup) : Prop where
  root : ∃ row, groups[rootId]? = some row ∧ row.parent = none
  up : ∀ {id : Uuid} {row : FlatGroup}, groups[id]? = some row → id ≠ rootId →
    ∃ parent, row.parent = some parent ∧ parent ∈ groups

theorem ParentClosed.parent_mem {rootId : Uuid} {groups : BTreeMap Uuid FlatGroup}
    (closed : ParentClosed rootId groups) {row : FlatGroup} {parent : Uuid}
    (here : groups[id]? = some row) (up : row.parent = some parent) : parent ∈ groups := by
  by_cases isRoot : id = rootId
  · obtain ⟨top, there, none⟩ := closed.root
    rw [← isRoot, here] at there
    cases there
    rw [up] at none
    cases none
  · obtain ⟨parent', up', inside⟩ := closed.up here isRoot
    cases Option.some.inj (up.symm.trans up')
    exact inside

theorem ParentClosed.reordered {rootId : Uuid} {groups groups' : BTreeMap Uuid FlatGroup}
    (closed : ParentClosed rootId groups) (reordered : Reordered groups groups') :
    ParentClosed rootId groups' := by
  constructor
  · obtain ⟨row, here, top⟩ := closed.root
    obtain ⟨index, same⟩ := reordered rootId
    exact ⟨{ row with order := index }, by rw [same, here]; rfl, top⟩
  · intro id row here apart
    obtain ⟨before, there, sameParent, _⟩ := reordered.group_row here
    obtain ⟨parent, up, inside⟩ := closed.up there apart
    exact ⟨parent, sameParent.trans up, (reordered.mem_iff parent).mpr inside⟩

theorem climbToRoot_error {rootId top : Uuid} {groups : BTreeMap Uuid FlatGroup} {fuel : Nat}
    {visited : BTreeSet Uuid} {e : ThreeWayPatchError} (closed : ParentClosed rootId groups)
    (inside : id ∈ groups) (run : climbToRoot rootId groups top fuel visited id = .error e) :
    ∃ id, e = .groupCycle id := by
  induction fuel generalizing visited id with
  | zero => cases run; exact ⟨id, rfl⟩
  | succ fuel ih =>
      obtain ⟨row, here⟩ := (BTreeMap.mem_iff_lookup _ _).mp inside
      simp only [climbToRoot, here] at run
      split at run
      · cases run; exact ⟨id, rfl⟩
      · split at run
        · rename_i parent up
          exact ih (closed.parent_mem here up) run
        · rename_i top'
          split at run
          · cases run
          · rename_i apart
            obtain ⟨parent, up, _⟩ := closed.up here apart
            rw [top'] at up
            cases up

theorem validateGroupHierarchy_ok {rootId : Uuid} {groups : BTreeMap Uuid FlatGroup}
    (run : validateGroupHierarchy rootId groups = .ok ()) :
    ∀ id ∈ groups, Reaches (fun id => groups[id]?.bind (·.parent)) id rootId := by
  simp only [validateGroupHierarchy] at run
  split at run
  · cases run
  · split at run
    · cases run
    · intro id inside
      exact climbToRoot_ok (Fallible.forM_ok.mp run id (by rwa [Std.ExtTreeMap.mem_keys]))

theorem validateGroupHierarchy_error {rootId : Uuid} {groups : BTreeMap Uuid FlatGroup}
    {e : ThreeWayPatchError} (closed : ParentClosed rootId groups)
    (run : validateGroupHierarchy rootId groups = .error e) : ∃ id, e = .groupCycle id := by
  obtain ⟨top, here, none⟩ := closed.root
  simp only [validateGroupHierarchy, here, none, Option.isSome_none, Bool.false_eq_true, if_false] at run
  obtain ⟨id, member, failed⟩ := Fallible.forM_error run
  exact climbToRoot_error closed (by rwa [Std.ExtTreeMap.mem_keys] at member) failed

/-- Every group climbs to the root, which has no parent. -/
structure GroupForest (rootId : Uuid) (groups : BTreeMap Uuid FlatGroup) : Prop where
  root : ∃ row, groups[rootId]? = some row ∧ row.parent = none
  reaches : ∀ id ∈ groups, Reaches (parentIn groups) id rootId

/-- What keeps groups from being a forest. -/
inductive HierarchyFault (rootId : Uuid) (groups : BTreeMap Uuid FlatGroup) : ThreeWayPatchError → Prop
  | lineage {row : FlatGroup} : groups[rootId]? = some row → row.parent ≠ none →
      HierarchyFault rootId groups .rootLineageMismatch
  | rootless : rootId ∉ groups → HierarchyFault rootId groups (.missingParent rootId)
  | cycle {id : Uuid} {n : Nat} : id ∈ groups → 0 < n → ancestor (parentIn groups) n id = some id →
      HierarchyFault rootId groups (.groupCycle id)
  | lost {id child : Uuid} : child ∈ groups → Reaches (parentIn groups) child id → id ∉ groups →
      HierarchyFault rootId groups (.missingParent id)
  | astray {id top : Uuid} : id ∈ groups → Reaches (parentIn groups) id top → parentIn groups top = none →
      top ≠ rootId → HierarchyFault rootId groups (.missingParent id)

theorem climbToRoot_fault {rootId top : Uuid} {groups : BTreeMap Uuid FlatGroup} {fuel : Nat}
    {visited : BTreeSet Uuid} {e : ThreeWayPatchError} (started : top ∈ groups)
    (climbed : Reaches (parentIn groups) top id) (counted : fuel + visited.size = groups.size + 2)
    (below : ∀ v ∈ visited, v ∈ groups ∧ ∃ k, 0 < k ∧ ancestor (parentIn groups) k v = some id)
    (run : climbToRoot rootId groups top fuel visited id = .error e) : HierarchyFault rootId groups e := by
  induction fuel generalizing visited id with
  | zero =>
      have few : visited.size ≤ groups.size := by
        rw [← Std.ExtTreeSet.length_toList, ← Std.ExtTreeMap.length_keys]
        have distinct : visited.toList.Nodup := Std.ExtTreeSet.distinct_toList.imp fun different same =>
          different (by rw [same]; exact Std.ReflCmp.compare_self)
        refine (List.subperm_of_subset distinct fun v member => ?_).length_le
        rw [Std.ExtTreeMap.mem_keys]
        exact (below v (Std.ExtTreeSet.mem_toList.mp member)).1
      omega
  | succ fuel ih =>
      simp only [climbToRoot] at run
      split at run
      · rename_i again
        cases run
        obtain ⟨inside, k, positive, loop⟩ := below id again
        exact .cycle inside positive loop
      · rename_i fresh
        split at run
        · rename_i missing
          cases run
          exact .lost started climbed ((BTreeMap.not_mem_iff_lookup _ _).mpr missing)
        · rename_i row here
          split at run
          · rename_i parent up
            have link : parentIn groups id = some parent := by simp [parentIn, here, up]
            refine ih (climbed.trans (.step link)) ?_ ?_ run
            · rw [Std.ExtTreeSet.size_insert, if_neg fresh]
              omega
            · intro v member
              rw [Std.ExtTreeSet.mem_insert, Std.compare_eq_iff_eq] at member
              rcases member with rfl | old
              · exact ⟨(BTreeMap.mem_iff_lookup _ _).mpr ⟨row, here⟩, 1, Nat.one_pos, by simp [ancestor, link]⟩
              · obtain ⟨inside, k, _, before⟩ := below v old
                exact ⟨inside, k + 1, Nat.succ_pos k, by rw [ancestor_succ, before]; exact link⟩
          · rename_i none
            split at run
            · cases run
            · rename_i apart
              cases run
              exact .astray started climbed (by simp [parentIn, here, none]) apart

theorem validateGroupHierarchy_fault {rootId : Uuid} {groups : BTreeMap Uuid FlatGroup} {e : ThreeWayPatchError}
    (run : validateGroupHierarchy rootId groups = .error e) : HierarchyFault rootId groups e := by
  simp only [validateGroupHierarchy] at run
  split at run
  · rename_i missing
    cases run
    exact .rootless ((BTreeMap.not_mem_iff_lookup _ _).mpr missing)
  · rename_i root here
    split at run
    · rename_i parent
      cases run
      exact .lineage here (Option.isSome_iff_ne_none.mp parent)
    · obtain ⟨id, member, failed⟩ := Fallible.forM_error run
      exact climbToRoot_fault (Std.ExtTreeMap.mem_keys.mp member) (.refl id) (by simp) (by simp) failed

theorem HierarchyFault.not_forest {rootId : Uuid} {groups : BTreeMap Uuid FlatGroup} {e : ThreeWayPatchError}
    (fault : HierarchyFault rootId groups e) : ¬GroupForest rootId groups := by
  intro forest
  obtain ⟨row, here, top⟩ := forest.root
  have rootTop : parentIn groups rootId = none := by simp [parentIn, here, top]
  have inside : rootId ∈ groups := (BTreeMap.mem_iff_lookup _ _).mpr ⟨row, here⟩
  have supported : ∀ id, parentIn groups id ≠ none → id ∈ groups := by
    intro id up
    by_contra missing
    exact up (by simp [parentIn, (BTreeMap.not_mem_iff_lookup _ _).mp missing])
  cases fault with
  | lineage there up =>
      rw [here] at there
      cases there
      exact up top
  | rootless missing => exact missing inside
  | @cycle id n _ positive loop => exact Rooted.acyclic ⟨rootTop, forest.reaches⟩ supported id n positive loop
  | @lost id child member climbed missing =>
      have stops : parentIn groups id = none := by_contra fun up => missing (supported id up)
      exact missing ((forest.reaches child member).top_unique climbed rootTop stops ▸ inside)
  | @astray id last member climbed stops apart =>
      exact apart (climbed.top_unique (forest.reaches id member) stops rootTop)

/-- The hierarchy check of a merge passes on forests and on nothing else, and its error names a group that is
at fault. -/
theorem validateGroupHierarchy_exact (rootId : Uuid) (groups : BTreeMap Uuid FlatGroup) :
    (validateGroupHierarchy rootId groups = .ok () ↔ GroupForest rootId groups) ∧
      ∀ e, validateGroupHierarchy rootId groups = .error e → HierarchyFault rootId groups e := by
  refine ⟨⟨fun run => ⟨?_, validateGroupHierarchy_ok run⟩, fun forest => ?_⟩, fun e => validateGroupHierarchy_fault⟩
  · simp only [validateGroupHierarchy] at run
    split at run
    · cases run
    · rename_i row here
      split at run
      · cases run
      · exact ⟨row, here, by simpa using ‹¬row.parent.isSome = true›⟩
  · cases run : validateGroupHierarchy rootId groups with
    | ok => rfl
    | error e => exact absurd forest (validateGroupHierarchy_fault run).not_forest

/-! ## Rebuilding -/

theorem WellFormed.steps_le_size (wf : m.WellFormed) {n : Nat} {a : Uuid}
    (climb : ancestor m.parentOf n id = some a) : n ≤ m.groups.size := by
  rw [← Std.ExtTreeMap.length_keys]
  refine wf.acyclic.steps_le (fun k linked => ?_) climb
  rw [Std.ExtTreeMap.mem_keys]
  exact mem_of_parentOf linked

/-- The group as it is rebuilt: normalized for the members it has. -/
def FlatVault.normalizedGroup (m : FlatVault) (id : Uuid) (group : Group) : Group :=
  normalizeGroupSlotsFor (Std.ExtTreeSet.ofList (siblingOrder m.entries id) compare)
    (Std.ExtTreeSet.ofList (siblingOrder m.groups id) compare) group

/-- The children lists invert the parent pointers. -/
theorem siblings_list (m : FlatVault) : Lists m.parentOf (siblingOrder m.groups) where
  mem k c := by rw [mem_siblingOrder, parentOf_eq_some]; rfl
  nodup k := siblingOrder_nodup m.groups k

/-- The entries below a group, in order. -/
def FlatVault.entriesOf (m : FlatVault) (id : Uuid) : List Entry :=
  (siblingOrder m.entries id).filterMap fun entryId => m.entries[entryId]?.map (·.value)

theorem WellFormed.entriesOf_ids (wf : m.WellFormed) (id : Uuid) :
    (m.entriesOf id).map (·.id) = siblingOrder m.entries id := by
  rw [entriesOf, List.map_filterMap]
  conv_rhs => rw [← List.filterMap_some (l := siblingOrder m.entries id)]
  apply List.filterMap_congr
  intro entryId member
  obtain ⟨row, here, _⟩ := mem_siblingOrder.mp member
  simp [here, wf.entryId here]

/-- A rebuilt group shows its row and its members. -/
structure Mirrors (m : FlatVault) (group : Group) : Prop where
  row : ∃ row, m.groups[group.id]? = some row ∧ group.shell = m.normalizedGroup group.id row.value
  children : group.children.map (·.id) = siblingOrder m.groups group.id
  entries : group.entries = m.entriesOf group.id

theorem rebuildTree_total (wf : m.WellFormed) {fuel n : Nat} {visiting : BTreeSet Uuid}
    (climb : ancestor m.parentOf n id = some m.rootId) (inside : id ∈ m.groups)
    (enough : m.groups.size < fuel + n)
    (above : ∀ v ∈ visiting, ∃ k, 0 < k ∧ ancestor m.parentOf k id = some v) :
    ∃ group, rebuildTree m.groups m.entries fuel visiting id = .ok group := by
  induction fuel generalizing n visiting id with
  | zero =>
      have short := WellFormed.steps_le_size wf climb
      omega
  | succ fuel ih =>
      obtain ⟨row, here⟩ := (BTreeMap.mem_iff_lookup _ _).mp inside
      have fresh : id ∉ visiting := by
        intro member
        obtain ⟨k, positive, loop⟩ := above id member
        exact wf.acyclic id k positive loop
      have children : ∃ groups, (siblingOrder m.groups id).mapM
          (rebuildTree m.groups m.entries fuel (visiting.insert id)) = .ok groups := by
        refine Fallible.mapM_total fun child member => ?_
        have up : m.parentOf child = some id := ((siblings_list m).mem id child).mp member
        refine ih (n := n + 1) (by rw [ancestor_step up]; exact climb) ?_ (by omega) ?_
        · exact mem_of_parentOf (by rw [up]; simp)
        · intro v member
          rw [Std.ExtTreeSet.mem_insert, Std.compare_eq_iff_eq] at member
          rcases member with rfl | old
          · exact ⟨1, Nat.one_pos, by simp [ancestor, up]⟩
          · obtain ⟨k, _, climbed⟩ := above v old
            exact ⟨k + 1, Nat.succ_pos k, by rw [ancestor_step up]; exact climbed⟩
      obtain ⟨groups, run⟩ := children
      simp only [rebuildTree, here]
      rw [if_neg (by simpa using fresh), run]
      exact ⟨_, rfl⟩

theorem rebuild_total (wf : m.WellFormed) :
    ∃ group, rebuildTree m.groups m.entries (m.groups.size + 1) ∅ m.rootId = .ok group :=
  rebuildTree_total wf (n := 0) rfl wf.root_mem (Nat.lt_succ_self _) (by simp)

theorem children_rebuilt {childIds : List Uuid} {children : List Group} {below : Uuid → List Uuid}
    (each : List.Forall₂ (fun id (group : Group) => group.id = id ∧ (subgroups group).map (·.id) = below id ∧
      ∀ g ∈ subgroups group, Mirrors m g) childIds children) :
    children.map (·.id) = childIds ∧
      (children.flatMap subgroups).map (·.id) = childIds.flatMap below ∧
        ∀ g ∈ children.flatMap subgroups, Mirrors m g := by
  induction each with
  | nil => simp
  | cons here _ ih =>
      obtain ⟨same, listed, mirrored⟩ := here
      obtain ⟨restSame, restListed, restMirrored⟩ := ih
      refine ⟨by simp [same, restSame], by simp [listed, restListed], ?_⟩
      intro g member
      rw [List.flatMap_cons] at member
      rcases List.mem_append.mp member with first | later
      · exact mirrored g first
      · exact restMirrored g later

/-- The rebuilt tree lists the descendants of its root, and mirrors each of them. -/
theorem rebuildTree_ok (wf : m.WellFormed) {fuel : Nat} {visiting : BTreeSet Uuid} {group : Group}
    (run : rebuildTree m.groups m.entries fuel visiting id = .ok group) :
    group.id = id ∧ (subgroups group).map (·.id) = descendants (siblingOrder m.groups) fuel id ∧
      ∀ g ∈ subgroups group, Mirrors m g := by
  induction fuel generalizing visiting id group with
  | zero => cases run
  | succ fuel ih =>
      simp only [rebuildTree] at run
      split at run
      · cases run
      · split at run
        · cases run
        · rename_i row here
          obtain ⟨children, runs, result⟩ := Fallible.bind_ok.mp run
          have each := (Fallible.mapM_ok.mp runs).imp fun _ _ child => ih child
          obtain ⟨ids, listed, mirrored⟩ := children_rebuilt each
          obtain rfl := (Except.ok.inj result).symm
          have sameId : row.value.id = id := wf.groupId here
          have entryIds := WellFormed.entriesOf_ids wf id
          refine ⟨sameId, ?_, ?_⟩
          · rw [subgroups_cons, List.map_cons, descendants]
            exact congrArg₂ List.cons sameId listed
          · intro g member
            rw [subgroups_cons] at member
            rcases List.mem_cons.mp member with rfl | below
            · refine ⟨⟨row, (congrArg (m.groups[·]?) sameId).trans here, ?_⟩, ?_, ?_⟩
              · calc
                  _ = normalizeGroupSlotsFor
                        (Std.ExtTreeSet.ofList ((m.entriesOf id).map (·.id)) compare)
                        (Std.ExtTreeSet.ofList (children.map (·.id)) compare) row.value.shell := rfl
                  _ = m.normalizedGroup id row.value := by rw [entryIds, ids, wf.shell here]; rfl
                  _ = _ := congrArg (m.normalizedGroup · row.value) sameId.symm
              · exact ids.trans (congrArg (siblingOrder m.groups) sameId.symm)
              · exact congrArg m.entriesOf sameId.symm
            · exact mirrored g below

/-! ## Reading the rebuilt tree back -/

/-- Two tables of one tree, up to the numbering of siblings; the groups of the second
    are normalized. -/
structure SameTree (m flat : FlatVault) : Prop where
  rootId : flat.rootId = m.rootId
  groups : ∀ id : Uuid, ∃ order, flat.groups[id]? = m.groups[id]?.map fun row =>
    { value := m.normalizedGroup id row.value, parent := row.parent, order }
  entries : Reordered m.entries flat.entries
  groupOrder : ∀ parent, siblingOrder flat.groups parent = siblingOrder m.groups parent
  entryOrder : ∀ parent, siblingOrder flat.entries parent = siblingOrder m.entries parent

section Readback

variable {vault : Vault} (wf : m.WellFormed)
  (run : rebuildTree m.groups m.entries (m.groups.size + 1) ∅ m.rootId = .ok vault.root)

include wf run

theorem mem_rebuilt : (∃ g ∈ subgroups vault.root, g.id = id) ↔ id ∈ m.groups := by
  obtain ⟨_, listed, _⟩ := rebuildTree_ok wf run
  have ids : (∃ g ∈ subgroups vault.root, g.id = id) ↔ id ∈ (subgroups vault.root).map (·.id) :=
    List.mem_map.symm
  rw [ids, listed, (siblings_list m).mem_descendants]
  constructor
  · rintro ⟨n, _, climb⟩
    cases n with
    | zero => exact Option.some.inj climb ▸ wf.root_mem
    | succ n =>
        apply mem_of_parentOf
        intro stopped
        simp [ancestor, stopped] at climb
  · intro inside
    obtain ⟨n, climb⟩ := wf.rooted inside
    exact ⟨n, Nat.lt_succ_of_le (WellFormed.steps_le_size wf climb), climb⟩

theorem rebuilt_uniqueIds : vault.UniqueIds := by
  obtain ⟨_, listed, mirrored⟩ := rebuildTree_ok wf run
  have nodup := (siblings_list m).descendants_nodup wf.acyclic (m.groups.size + 1) m.rootId
  rw [← listed, ← groupIds_eq] at nodup
  refine ⟨nodup, ?_⟩
  rw [entryIds_eq, List.nodup_flatMap]
  have members : ∀ g ∈ subgroups vault.root, g.entries.map (·.id) = siblingOrder m.entries g.id := by
    intro g inside
    rw [(mirrored g inside).entries, WellFormed.entriesOf_ids wf]
  constructor
  · intro g inside
    rw [members g inside]
    exact siblingOrder_nodup m.entries g.id
  · rw [groupIds_eq] at nodup
    refine (List.pairwise_map.mp nodup).imp_of_mem ?_
    intro g h left right apart entryId inLeft inRight
    change entryId ∈ g.entries.map (·.id) at inLeft
    change entryId ∈ h.entries.map (·.id) at inRight
    rw [members g left, mem_siblingOrder] at inLeft
    rw [members h right, mem_siblingOrder] at inRight
    obtain ⟨row, here, up⟩ := inLeft
    obtain ⟨row', here', up'⟩ := inRight
    cases Option.some.inj (here.symm.trans here')
    exact apart (Option.some.inj (up.symm.trans up'))

theorem rebuilt_group_row (inside : id ∈ m.groups) :
    ∃ row order, m.groups[id]? = some row ∧
      vault.flat.groups[id]? = some { value := m.normalizedGroup id row.value, parent := row.parent, order } := by
  obtain ⟨rootId, _, mirrored⟩ := rebuildTree_ok wf run
  have unique := rebuilt_uniqueIds wf run
  obtain ⟨row, here⟩ := (BTreeMap.mem_iff_lookup _ _).mp inside
  by_cases isRoot : id = m.rootId
  · obtain ⟨row', here', shell⟩ := (mirrored _ (mem_subgroups_self vault.root)).row
    rw [rootId, ← isRoot] at here' shell
    cases Option.some.inj (here.symm.trans here')
    obtain ⟨top, there, none⟩ := wf.root
    rw [← isRoot, here] at there
    cases there
    refine ⟨row, 0, here, ?_⟩
    have stored := Vault.flat_root unique
    rw [rootId, ← isRoot] at stored
    rw [stored, none, shell]
  · obtain ⟨parent, up, above⟩ := wf.up here isRoot
    obtain ⟨g, member, rfl⟩ := (mem_rebuilt wf run).mpr above
    have listed : id ∈ g.children.map (·.id) := by
      rw [(mirrored g member).children, mem_siblingOrder]
      exact ⟨row, here, up⟩
    obtain ⟨child, isChild, rfl⟩ := List.mem_map.mp listed
    obtain ⟨i, stands⟩ := List.mem_iff_getElem?.mp isChild
    obtain ⟨row', here', shell⟩ := (mirrored child (child_mem_subgroups member isChild)).row
    cases Option.some.inj (here.symm.trans here')
    refine ⟨row, i, here, ?_⟩
    rw [Vault.child_row unique member stands, up, shell]

theorem rebuilt_entry_row {row : FlatEntry} (here : m.entries[id]? = some row) :
    ∃ order, vault.flat.entries[id]? = some { row with order } := by
  obtain ⟨_, _, mirrored⟩ := rebuildTree_ok wf run
  have unique := rebuilt_uniqueIds wf run
  obtain ⟨g, member, same⟩ := (mem_rebuilt wf run).mpr (wf.member here)
  have listed : row.value ∈ g.entries := by
    rw [(mirrored g member).entries, entriesOf, same]
    exact List.mem_filterMap.mpr ⟨id, mem_siblingOrder.mpr ⟨row, here, rfl⟩, by rw [here]; rfl⟩
  obtain ⟨i, stands⟩ := List.mem_iff_getElem?.mp listed
  refine ⟨i, ?_⟩
  have stored := Vault.member_row unique member stands
  rw [wf.entryId here, same] at stored
  exact stored

theorem rebuilt_sameTree : SameTree m vault.flat := by
  obtain ⟨rootId, _, mirrored⟩ := rebuildTree_ok wf run
  have unique := rebuilt_uniqueIds wf run
  have wf' := Vault.flat_wellFormed unique
  have sameGroups : ∀ id, id ∈ vault.flat.groups ↔ id ∈ m.groups := by
    intro id
    rw [Vault.mem_flat_groups, groupIds_eq, List.mem_map]
    exact mem_rebuilt wf run
  refine ⟨rootId, ?_, ?_, ?_, ?_⟩
  · intro id
    by_cases inside : id ∈ m.groups
    · obtain ⟨row, order, here, stored⟩ := rebuilt_group_row wf run inside
      exact ⟨order, by rw [here, stored]; rfl⟩
    · have absent := (BTreeMap.not_mem_iff_lookup _ _).mp inside
      have absent' := (BTreeMap.not_mem_iff_lookup _ _).mp (fun h => inside ((sameGroups id).mp h))
      exact ⟨0, by rw [absent, absent']; rfl⟩
  · intro id
    cases here : m.entries[id]? with
    | some row =>
        obtain ⟨order, stored⟩ := rebuilt_entry_row wf run here
        exact ⟨order, stored⟩
    | none =>
        refine ⟨0, ?_⟩
        rw [Option.map_none, ← BTreeMap.not_mem_iff_lookup, Vault.mem_flat_entries, entryIds_eq,
          List.mem_flatMap]
        rintro ⟨g, member, listed⟩
        rw [(mirrored g member).entries, WellFormed.entriesOf_ids wf, mem_siblingOrder, here] at listed
        obtain ⟨_, absurd', _⟩ := listed
        cases absurd'
  · intro parent
    by_cases inside : parent ∈ m.groups
    · obtain ⟨g, member, rfl⟩ := (mem_rebuilt wf run).mpr inside
      rw [Vault.siblingOrder_groups unique member, (mirrored g member).children]
    · have left : siblingOrder vault.flat.groups parent = [] := by
        refine List.eq_nil_iff_forall_not_mem.mpr fun id member => ?_
        obtain ⟨row, here, up⟩ := mem_siblingOrder.mp member
        exact inside ((sameGroups parent).mp (wf'.parent_mem here up))
      have right : siblingOrder m.groups parent = [] := by
        refine List.eq_nil_iff_forall_not_mem.mpr fun id member => ?_
        obtain ⟨row, here, up⟩ := mem_siblingOrder.mp member
        exact inside (wf.parent_mem here up)
      rw [left, right]
  · intro parent
    by_cases inside : parent ∈ m.groups
    · obtain ⟨g, member, rfl⟩ := (mem_rebuilt wf run).mpr inside
      rw [Vault.siblingOrder_entries unique member, (mirrored g member).entries, WellFormed.entriesOf_ids wf]
    · have left : siblingOrder vault.flat.entries parent = [] := by
        refine List.eq_nil_iff_forall_not_mem.mpr fun id member => ?_
        obtain ⟨row, here, up⟩ := mem_siblingOrder.mp member
        exact inside ((sameGroups parent).mp (Option.some.inj up ▸ wf'.member here))
      have right : siblingOrder m.entries parent = [] := by
        refine List.eq_nil_iff_forall_not_mem.mpr fun id member => ?_
        obtain ⟨row, here, up⟩ := mem_siblingOrder.mp member
        exact inside (Option.some.inj up ▸ wf.member here)
      rw [left, right]

end Readback

end VaultKern
