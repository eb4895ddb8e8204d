import VaultKern.Lib.ParentForest
import VaultKern.Tree.Order
import VaultKern.Tree.Rows

/-! # Flat vaults are forests

The tables of a vault form a tree: every row below the root has its parent in the
table and climbs to the root. The order below a group is that of its members.
-/

namespace VaultKern

open ParentForest

/-! ## Subgroups -/

mutual
/-- The group and everything below it, in preorder. -/
def subgroups : Group → List Group
  | ⟨fields, entries, children⟩ => ⟨fields, entries, children⟩ :: subgroupsOf children

def subgroupsOf : List Group → List Group
  | [] => []
  | child :: rest => subgroups child ++ subgroupsOf rest
end

theorem mem_subgroups_self (group : Group) : group ∈ subgroups group := by
  cases group
  simp [subgroups]

theorem subgroupsOf_eq_flatMap (groups : List Group) : subgroupsOf groups = groups.flatMap subgroups := by
  induction groups with
  | nil => rfl
  | cons child rest ih => simp [subgroupsOf, ih]

theorem subgroups_cons (group : Group) : subgroups group = group :: group.children.flatMap subgroups := by
  cases group
  simp [subgroups, subgroupsOf_eq_flatMap]

mutual
theorem subgroups_trans {inner : Group} :
    ∀ (root : Group) {g : Group}, g ∈ subgroups root → inner ∈ subgroups g → inner ∈ subgroups root
  | ⟨fields, entries, children⟩, g, inside, below => by
      rw [subgroups, List.mem_cons] at inside
      rcases inside with rfl | later
      · exact below
      · rw [subgroups]
        exact List.mem_cons_of_mem _ (subgroupsOf_trans children later below)

theorem subgroupsOf_trans {inner : Group} :
    ∀ (roots : List Group) {g : Group}, g ∈ subgroupsOf roots → inner ∈ subgroups g →
      inner ∈ subgroupsOf roots
  | [], _, inside, _ => by simp [subgroupsOf] at inside
  | child :: rest, g, inside, below => by
      rw [subgroupsOf] at inside ⊢
      rcases List.mem_append.mp inside with here | later
      · exact List.mem_append_left _ (subgroups_trans child here below)
      · exact List.mem_append_right _ (subgroupsOf_trans rest later below)
end

theorem child_mem_subgroups {root g child : Group} (inside : g ∈ subgroups root)
    (isChild : child ∈ g.children) : child ∈ subgroups root := by
  refine subgroups_trans root inside ?_
  rw [subgroups_cons]
  exact List.mem_cons_of_mem _ (List.mem_flatMap.mpr ⟨child, isChild, mem_subgroups_self child⟩)

theorem memberRows_ids (parent : Uuid) (order : Nat) (entries : List Entry) :
    (memberRows parent order entries).map Prod.fst = entries.map (·.id) := by
  induction entries generalizing order with
  | nil => rfl
  | cons entry rest ih => simp [memberRows, ih]

mutual
theorem entryIds_eq : ∀ root : Group, entryIds root = (subgroups root).flatMap (·.entries.map (·.id))
  | ⟨fields, entries, children⟩ => by
      simp [entryIds, entryRows, subgroups, memberRows_ids, childEntryIds_eq children]

theorem childEntryIds_eq : ∀ children : List Group,
    (childEntryRows children).map Prod.fst = (subgroupsOf children).flatMap (·.entries.map (·.id))
  | [] => rfl
  | child :: rest => by
      have first := entryIds_eq child
      simp only [entryIds] at first
      simp [childEntryRows, subgroupsOf, first, childEntryIds_eq rest]
end

mutual
theorem groupRows_ids (parent : Option Uuid) (order : Nat) :
    ∀ group, (groupRows parent order group).map Prod.fst = (subgroups group).map (·.id)
  | ⟨fields, _, children⟩ => by simp [groupRows, subgroups, childRows_ids fields.id 0 children]

theorem childRows_ids (parent : Uuid) (order : Nat) :
    ∀ children, (childRows parent order children).map Prod.fst = (subgroupsOf children).map (·.id)
  | [] => rfl
  | child :: rest => by
      simp [childRows, subgroupsOf, groupRows_ids (some parent) order child,
        childRows_ids parent (order + 1) rest]
end

theorem groupIds_eq (root : Group) : groupIds root = (subgroups root).map (·.id) :=
  groupRows_ids none 0 root

/-- The row of the `index`-th child of a group. -/
def IsChildRow (group : Group) (id : Uuid) (row : FlatGroup) : Prop :=
  ∃ child, group.children[row.order]? = some child ∧ id = child.id ∧ row.value = child.shell ∧
    row.parent = some group.id

def IsMemberRow (group : Group) (id : Uuid) (row : FlatEntry) : Prop :=
  group.entries[row.order]? = some row.value ∧ id = row.value.id ∧ row.parent = group.id

theorem mem_memberRows {parent id : Uuid} {order : Nat} {row : FlatEntry} {entries : List Entry} :
    (id, row) ∈ memberRows parent order entries ↔
      order ≤ row.order ∧ entries[row.order - order]? = some row.value ∧ id = row.value.id ∧
        row.parent = parent := by
  induction entries generalizing order with
  | nil => simp [memberRows]
  | cons entry rest ih =>
      simp only [memberRows, List.mem_cons, Prod.mk.injEq, ih]
      constructor
      · rintro (⟨rfl, rfl⟩ | ⟨later, here, rfl, up⟩)
        · simp
        · refine ⟨by omega, ?_, rfl, up⟩
          rw [show row.order - order = row.order - (order + 1) + 1 by omega, List.getElem?_cons_succ]
          exact here
      · rintro ⟨later, here, rfl, up⟩
        rcases Nat.eq_or_lt_of_le later with same | more
        · left
          rw [← same, Nat.sub_self, List.getElem?_cons_zero] at here
          cases row
          simp_all
        · right
          rw [show row.order - order = row.order - (order + 1) + 1 by omega, List.getElem?_cons_succ] at here
          exact ⟨more, here, rfl, up⟩

mutual
theorem mem_entryRows {id : Uuid} {row : FlatEntry} :
    ∀ group : Group, (id, row) ∈ entryRows group ↔ ∃ g ∈ subgroups group, IsMemberRow g id row
  | ⟨fields, entries, children⟩ => by
      simp only [entryRows, subgroups, List.mem_append, List.mem_cons, mem_memberRows,
        mem_childEntryRows children, exists_eq_or_imp, IsMemberRow, Nat.zero_le, Nat.sub_zero, true_and]

theorem mem_childEntryRows {id : Uuid} {row : FlatEntry} :
    ∀ children : List Group,
      (id, row) ∈ childEntryRows children ↔ ∃ g ∈ subgroupsOf children, IsMemberRow g id row
  | [] => by simp [childEntryRows, subgroupsOf]
  | child :: rest => by
      simp only [childEntryRows, subgroupsOf, List.mem_append, mem_entryRows child, mem_childEntryRows rest]
      constructor
      · rintro (⟨g, inside, here⟩ | ⟨g, inside, here⟩)
        · exact ⟨g, .inl inside, here⟩
        · exact ⟨g, .inr inside, here⟩
      · rintro ⟨g, inside | inside, here⟩
        · exact .inl ⟨g, inside, here⟩
        · exact .inr ⟨g, inside, here⟩
end

mutual
theorem mem_groupRows {id : Uuid} {row : FlatGroup} {parent : Option Uuid} {order : Nat} :
    ∀ group : Group, (id, row) ∈ groupRows parent order group ↔
      (id = group.id ∧ row = { value := group.shell, parent, order }) ∨
        ∃ g ∈ subgroups group, IsChildRow g id row
  | ⟨fields, entries, children⟩ => by
      simp only [groupRows, subgroups, List.mem_cons, Prod.mk.injEq, mem_childRows children,
        exists_eq_or_imp, IsChildRow, Nat.zero_le, Nat.sub_zero, true_and]
      exact Iff.rfl

theorem mem_childRows {id parent : Uuid} {row : FlatGroup} {order : Nat} :
    ∀ children : List Group, (id, row) ∈ childRows parent order children ↔
      (∃ child, (order ≤ row.order ∧ children[row.order - order]? = some child) ∧ id = child.id ∧
          row.value = child.shell ∧ row.parent = some parent) ∨
        ∃ g ∈ subgroupsOf children, IsChildRow g id row
  | [] => by simp [childRows, subgroupsOf]
  | child :: rest => by
      simp only [childRows, subgroupsOf, List.mem_append, mem_groupRows child, mem_childRows rest]
      have here : (∃ c, (order ≤ row.order ∧ (child :: rest)[row.order - order]? = some c) ∧ id = c.id ∧
            row.value = c.shell ∧ row.parent = some parent) ↔
          (id = child.id ∧ row = { value := child.shell, parent := some parent, order }) ∨
            ∃ c, (order + 1 ≤ row.order ∧ rest[row.order - (order + 1)]? = some c) ∧ id = c.id ∧
              row.value = c.shell ∧ row.parent = some parent := by
        constructor
        · rintro ⟨c, ⟨later, stands⟩, rfl, value, up⟩
          rcases Nat.eq_or_lt_of_le later with same | more
          · left
            rw [← same, Nat.sub_self, List.getElem?_cons_zero] at stands
            cases Option.some.inj stands
            cases row
            simp_all
          · right
            rw [show row.order - order = row.order - (order + 1) + 1 by omega,
              List.getElem?_cons_succ] at stands
            exact ⟨c, ⟨more, stands⟩, rfl, value, up⟩
        · rintro (⟨rfl, rfl⟩ | ⟨c, ⟨more, stands⟩, rfl, value, up⟩)
          · exact ⟨child, by simp⟩
          · refine ⟨c, ⟨by omega, ?_⟩, rfl, value, up⟩
            rw [show row.order - order = row.order - (order + 1) + 1 by omega, List.getElem?_cons_succ]
            exact stands
      rw [here]
      constructor
      · rintro ((first | ⟨g, inside, below⟩) | (later | ⟨g, inside, below⟩))
        · exact .inl (.inl first)
        · exact .inr ⟨g, .inl inside, below⟩
        · exact .inl (.inr later)
        · exact .inr ⟨g, .inr inside, below⟩
      · rintro ((first | later) | ⟨g, inside | inside, below⟩)
        · exact .inl (.inl first)
        · exact .inr (.inl later)
        · exact .inl (.inr ⟨g, inside, below⟩)
        · exact .inr (.inr ⟨g, inside, below⟩)
end

/-! ## The tree of a vault -/

structure FlatVault.WellFormed (flat : FlatVault) : Prop where
  root : ∃ row, flat.groups[flat.rootId]? = some row ∧ row.parent = none
  up : ∀ {id : Uuid} {row : FlatGroup}, flat.groups[id]? = some row → id ≠ flat.rootId →
    ∃ parent, row.parent = some parent ∧ parent ∈ flat.groups
  rooted : ∀ {id : Uuid}, id ∈ flat.groups → Reaches flat.parentOf id flat.rootId
  member : ∀ {id : Uuid} {row : FlatEntry}, flat.entries[id]? = some row → row.parent ∈ flat.groups
  groupId : ∀ {id : Uuid} {row : FlatGroup}, flat.groups[id]? = some row → row.value.id = id
  entryId : ∀ {id : Uuid} {row : FlatEntry}, flat.entries[id]? = some row → row.value.id = id
  shell : ∀ {id : Uuid} {row : FlatGroup}, flat.groups[id]? = some row → row.value.shell = row.value

section Vault

variable {vault : Vault} {id : Uuid}

theorem Vault.flat_group_lookup (unique : vault.UniqueIds) {row : FlatGroup} :
    vault.flat.groups[id]? = some row ↔ (id, row) ∈ groupRows none 0 vault.root :=
  ⟨BTreeMap.mem_of_lastWins, BTreeMap.lastWins_of_mem unique.groups⟩

theorem Vault.flat_entry_lookup (unique : vault.UniqueIds) {row : FlatEntry} :
    vault.flat.entries[id]? = some row ↔ (id, row) ∈ entryRows vault.root :=
  ⟨BTreeMap.mem_of_lastWins, BTreeMap.lastWins_of_mem unique.entries⟩

theorem Vault.mem_flat_groups : id ∈ vault.flat.groups ↔ id ∈ groupIds vault.root := by
  rw [← Std.ExtTreeMap.isSome_getElem?_iff_mem]
  exact BTreeMap.lastWins_isSome

theorem Vault.mem_flat_entries : id ∈ vault.flat.entries ↔ id ∈ entryIds vault.root := by
  rw [← Std.ExtTreeMap.isSome_getElem?_iff_mem]
  exact BTreeMap.lastWins_isSome

theorem subgroup_eq (unique : vault.UniqueIds) {g h : Group} (left : g ∈ subgroups vault.root)
    (right : h ∈ subgroups vault.root) (same : g.id = h.id) : g = h := by
  have nodup := unique.groups
  rw [groupIds_eq] at nodup
  exact List.inj_on_of_nodup_map nodup left right same

mutual
/-- A parent function that agrees with the rows climbs from every row to the top. -/
theorem groupRows_reach {parentOf : Uuid → Option Uuid} :
    ∀ (group : Group) {parent : Option Uuid} {order : Nat},
      (∀ row ∈ groupRows parent order group, parentOf row.1 = row.2.parent) →
        ∀ g ∈ subgroups group, Reaches parentOf g.id group.id
  | ⟨fields, entries, children⟩, parent, order, agree, g, inside => by
      simp only [subgroups, List.mem_cons] at inside
      rcases inside with rfl | below
      · exact .refl _
      · have rest : ∀ row ∈ childRows fields.id 0 children, parentOf row.1 = row.2.parent :=
          fun row member => agree row (by simp only [groupRows]; exact List.mem_cons_of_mem _ member)
        exact childRows_reach children rest g below

theorem childRows_reach {parentOf : Uuid → Option Uuid} :
    ∀ (children : List Group) {parent : Uuid} {order : Nat},
      (∀ row ∈ childRows parent order children, parentOf row.1 = row.2.parent) →
        ∀ g ∈ subgroupsOf children, Reaches parentOf g.id parent
  | [], _, _, _, _, inside => by simp [subgroupsOf] at inside
  | child :: rest, parent, order, agree, g, inside => by
      simp only [childRows, List.mem_append] at agree
      rcases List.mem_append.mp inside with here | later
      · have top : parentOf child.id = some parent :=
          agree (child.id, { value := child.shell, parent := some parent, order })
            (.inl ((mem_groupRows child).mpr (.inl ⟨rfl, rfl⟩)))
        exact (groupRows_reach child (fun row member => agree row (.inl member)) g here).trans (.step top)
      · exact childRows_reach rest (fun row member => agree row (.inr member)) g later
end

theorem Vault.flat_parentOf (unique : vault.UniqueIds) {row : FlatGroup}
    (here : (id, row) ∈ groupRows none 0 vault.root) : vault.flat.parentOf id = row.parent := by
  rw [FlatVault.parentOf, (Vault.flat_group_lookup unique).mpr here]
  rfl

theorem Vault.flat_root (unique : vault.UniqueIds) :
    vault.flat.groups[vault.root.id]? = some { value := vault.root.shell, parent := none, order := 0 } :=
  (Vault.flat_group_lookup unique).mpr ((mem_groupRows _).mpr (.inl ⟨rfl, rfl⟩))

theorem Vault.flat_wellFormed (unique : vault.UniqueIds) : vault.flat.WellFormed where
  root := ⟨_, Vault.flat_root unique, rfl⟩
  up := by
    intro id row here apart
    rcases (mem_groupRows _).mp ((Vault.flat_group_lookup unique).mp here) with
      ⟨rfl, rfl⟩ | ⟨g, inside, child, _, rfl, _, up⟩
    · exact absurd rfl apart
    · refine ⟨g.id, up, Vault.mem_flat_groups.mpr ?_⟩
      rw [groupIds_eq]
      exact List.mem_map_of_mem inside
  rooted := by
    intro id inside
    rw [Vault.mem_flat_groups, groupIds_eq] at inside
    obtain ⟨g, member, rfl⟩ := List.mem_map.mp inside
    exact groupRows_reach vault.root (fun row here => Vault.flat_parentOf unique here) g member
  member := by
    intro id row here
    obtain ⟨g, inside, _, _, up⟩ := (mem_entryRows _).mp ((Vault.flat_entry_lookup unique).mp here)
    rw [up, Vault.mem_flat_groups, groupIds_eq]
    exact List.mem_map_of_mem inside
  groupId := by
    intro id row here
    rcases (mem_groupRows _).mp ((Vault.flat_group_lookup unique).mp here) with
      ⟨rfl, rfl⟩ | ⟨g, _, child, _, rfl, value, _⟩
    · rfl
    · rw [value]
      rfl
  entryId := by
    intro id row here
    obtain ⟨g, _, _, rfl, _⟩ := (mem_entryRows _).mp ((Vault.flat_entry_lookup unique).mp here)
    rfl
  shell := by
    intro id row here
    rcases (mem_groupRows _).mp ((Vault.flat_group_lookup unique).mp here) with
      ⟨rfl, rfl⟩ | ⟨g, _, child, _, rfl, value, _⟩
    · rfl
    · rw [value]
      rfl

/-! ## Members in order -/

variable {g : Group}

theorem Vault.child_row (unique : vault.UniqueIds) (inside : g ∈ subgroups vault.root) {i : Nat} {child : Group}
    (stands : g.children[i]? = some child) :
    vault.flat.groups[child.id]? = some { value := child.shell, parent := some g.id, order := i } :=
  (Vault.flat_group_lookup unique).mpr
    ((mem_groupRows _).mpr (.inr ⟨g, inside, child, stands, rfl, rfl, rfl⟩))

theorem Vault.member_row (unique : vault.UniqueIds) (inside : g ∈ subgroups vault.root) {i : Nat} {entry : Entry}
    (stands : g.entries[i]? = some entry) :
    vault.flat.entries[entry.id]? = some { value := entry, parent := g.id, order := i } :=
  (Vault.flat_entry_lookup unique).mpr ((mem_entryRows _).mpr ⟨g, inside, stands, rfl, rfl⟩)

theorem Vault.siblingOrder_groups (unique : vault.UniqueIds) (inside : g ∈ subgroups vault.root) :
    siblingOrder vault.flat.groups g.id = g.children.map (·.id) := by
  apply siblingOrder_standing
  · intro i id stands
    rw [List.getElem?_map] at stands
    obtain ⟨child, atI, rfl⟩ := Option.map_eq_some_iff.mp stands
    exact ⟨_, Vault.child_row unique inside atI, rfl, rfl⟩
  · intro id row here below
    rcases (mem_groupRows _).mp ((Vault.flat_group_lookup unique).mp here) with
      ⟨rfl, rfl⟩ | ⟨h, inside', child, stands, rfl, _, up⟩
    · cases below
    · have same : h.id = g.id := Option.some.inj (up.symm.trans below)
      cases subgroup_eq unique inside' inside same
      rw [List.getElem?_map]
      exact congrArg (Option.map (·.id)) stands

theorem Vault.siblingOrder_entries (unique : vault.UniqueIds) (inside : g ∈ subgroups vault.root) :
    siblingOrder vault.flat.entries g.id = g.entries.map (·.id) := by
  apply siblingOrder_standing
  · intro i id stands
    rw [List.getElem?_map] at stands
    obtain ⟨entry, atI, rfl⟩ := Option.map_eq_some_iff.mp stands
    exact ⟨_, Vault.member_row unique inside atI, rfl, rfl⟩
  · intro id row here below
    obtain ⟨h, inside', stands, rfl, up⟩ := (mem_entryRows _).mp ((Vault.flat_entry_lookup unique).mp here)
    have same : h.id = g.id := up.symm.trans (Option.some.inj below)
    cases subgroup_eq unique inside' inside same
    rw [List.getElem?_map]
    exact congrArg (Option.map (·.id)) stands

end Vault

end VaultKern
