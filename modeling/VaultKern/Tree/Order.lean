import VaultKern.Patch.Siblings

/-! # Reconciled sibling orders

Reconciling only renumbers the rows, and afterwards the order below every parent
is the rebased one.
-/

namespace VaultKern

open SiblingRow

section Rows

variable {R : Type} [SiblingRow R] {rows rows' : BTreeMap Uuid R} {parent id : Uuid}

/-- The rows below a parent as positions. -/
def places (rows : BTreeMap Uuid R) (parent : Uuid) : List (Nat × Uuid) :=
  (rows.toList.filter fun (_, row) => parent? row = some parent).map fun (id, row) => (order row, id)

theorem mem_places {place : Nat × Uuid} :
    place ∈ places rows parent ↔
      ∃ row, rows[place.2]? = some row ∧ parent? row = some parent ∧ order row = place.1 := by
  obtain ⟨index, id⟩ := place
  simp only [places, List.mem_map, List.mem_filter, Prod.exists, decide_eq_true_eq, Prod.mk.injEq,
    Std.ExtTreeMap.mem_toList_iff_getElem?_eq_some]
  constructor
  · rintro ⟨_, row, ⟨here, below⟩, rfl, rfl⟩
    exact ⟨row, here, below, rfl⟩
  · rintro ⟨row, here, below, rfl⟩
    exact ⟨id, row, ⟨here, below⟩, rfl, rfl⟩

theorem places_ids_nodup (rows : BTreeMap Uuid R) (parent : Uuid) :
    ((places rows parent).map Prod.snd).Nodup := by
  rw [places, List.map_map]
  exact BTreeMap.nodup_filter_keys rows _

theorem siblingOrder_eq_sort (rows : BTreeMap Uuid R) (parent : Uuid) :
    siblingOrder rows parent = SiblingList.sortByOrder (places rows parent) := by
  simp [siblingOrder, orderedIds, places]

theorem orderedIds_eq_filter (rows : BTreeMap Uuid R) (parent : Uuid) (included : Uuid → Bool) :
    orderedIds rows parent included = (siblingOrder rows parent).filter included := by
  rw [siblingOrder_eq_sort, ← SiblingList.sortByOrder_filter, orderedIds, places, List.filter_map,
    List.filter_filter]
  congr 2
  apply List.filter_congr
  rintro ⟨id, row⟩ _
  simp [Bool.and_comm]

theorem mem_siblingOrder :
    id ∈ siblingOrder rows parent ↔ ∃ row, rows[id]? = some row ∧ parent? row = some parent := by
  rw [siblingOrder_eq_sort, SiblingList.mem_sortByOrder]
  constructor
  · rintro ⟨index, place⟩
    obtain ⟨row, here, below, _⟩ := mem_places.mp place
    exact ⟨row, here, below⟩
  · rintro ⟨row, here, below⟩
    exact ⟨order row, mem_places.mpr ⟨row, here, below, rfl⟩⟩

theorem siblingOrder_nodup (rows : BTreeMap Uuid R) (parent : Uuid) :
    (siblingOrder rows parent).Nodup := by
  rw [siblingOrder_eq_sort]
  exact (SiblingList.sortByOrder_perm_snd _).nodup_iff.mpr (places_ids_nodup rows parent)

theorem mem_siblingIds :
    id ∈ siblingIds rows parent ↔ ∃ row, rows[id]? = some row ∧ parent? row = some parent := by
  simp [siblingIds]

theorem siblingIds_nodup (rows : BTreeMap Uuid R) (parent : Uuid) : (siblingIds rows parent).Nodup :=
  BTreeMap.nodup_filter_keys rows _

theorem mem_rowParents : parent ∈ rowParents rows ↔ ∃ (id : Uuid) (row : R), rows[id]? = some row ∧ parent? row = some parent := by
  simp [rowParents, Std.ExtTreeSet.mem_ofList]

theorem rowParents_nodup (rows : BTreeMap Uuid R) : (rowParents rows).Nodup :=
  (Std.ExtTreeSet.distinct_toList).imp fun different same =>
    different (by rw [same]; exact Std.ReflCmp.compare_self)

/-- A list that says where every child of the parent stands is the sibling order. -/
theorem siblingOrder_eq {list : List Uuid} (nodup : list.Nodup)
    (listed : ∀ (id : Uuid) (row : R), rows[id]? = some row → parent? row = some parent → list[order row]? = some id)
    (present : ∀ id : Uuid, id ∈ list → ∃ row, rows[id]? = some row ∧ parent? row = some parent) :
    siblingOrder rows parent = list := by
  rw [siblingOrder_eq_sort]
  apply SiblingList.sortByOrder_positions
  have right : (list.zipIdx.map Prod.swap).Nodup := by
    refine List.Nodup.of_map Prod.snd ?_
    simpa [List.map_map, Function.comp_def, List.zipIdx_map_fst] using nodup
  refine (List.perm_ext_iff_of_nodup (places_ids_nodup rows parent).of_map right).mpr ?_
  rintro ⟨index, id⟩
  rw [mem_places]
  simp only [List.mem_map, Prod.exists, Prod.swap_prod_mk, Prod.mk.injEq, List.mem_zipIdx_iff_getElem?]
  constructor
  · rintro ⟨row, here, below, rfl⟩
    exact ⟨id, order row, listed id row here below, rfl, rfl⟩
  · rintro ⟨id, index, stands, rfl, rfl⟩
    obtain ⟨row, here, below⟩ := present id (List.mem_of_getElem? stands)
    refine ⟨row, here, below, ?_⟩
    have again := listed id row here below
    have inside := (List.getElem?_eq_some_iff.mp again).1
    exact (List.getElem?_inj inside nodup).mp (again.trans stands.symm)

/-- A list whose ids have rows that say where they stand names each id once. -/
theorem siblingOrder_standing {list : List Uuid}
    (standing : ∀ (i : Nat) (id : Uuid), list[i]? = some id →
      ∃ row, rows[id]? = some row ∧ parent? row = some parent ∧ order row = i)
    (listed : ∀ (id : Uuid) (row : R), rows[id]? = some row → parent? row = some parent → list[order row]? = some id) :
    siblingOrder rows parent = list := by
  refine siblingOrder_eq ?_ listed fun id member => ?_
  · rw [List.nodup_iff_getElem?_ne_getElem?]
    intro i j less inside same
    have atJ : list[j]? = some list[j] := List.getElem?_eq_getElem inside
    obtain ⟨row, here, -, orderI⟩ := standing i _ (same.trans atJ)
    obtain ⟨row', here', -, orderJ⟩ := standing j _ atJ
    cases Option.some.inj (here.symm.trans here')
    omega
  · obtain ⟨i, stands⟩ := List.mem_iff_getElem?.mp member
    obtain ⟨row, here, below, -⟩ := standing i id stands
    exact ⟨row, here, below⟩

/-- The order depends only on the rows below the parent. -/
theorem siblingOrder_congr
    (same : ∀ (id : Uuid) (row : R), parent? row = some parent → (rows[id]? = some row ↔ rows'[id]? = some row)) :
    siblingOrder rows parent = siblingOrder rows' parent := by
  rw [siblingOrder_eq_sort, siblingOrder_eq_sort]
  apply SiblingList.sortByOrder_congr
  refine (List.perm_ext_iff_of_nodup (places_ids_nodup rows parent).of_map
    (places_ids_nodup rows' parent).of_map).mpr ?_
  intro place
  rw [mem_places, mem_places]
  constructor
  · rintro ⟨row, here, below, stands⟩
    exact ⟨row, (same _ row below).mp here, below, stands⟩
  · rintro ⟨row, here, below, stands⟩
    exact ⟨row, (same _ row below).mpr here, below, stands⟩

end Rows

/-! ## Rebasing -/

/-- The order that is rebased, before it is checked. -/
def splicedOrder (localOrder remoteOrder preferLocal : List Uuid) : List Uuid :=
  SiblingList.spliceInto preferLocal.contains localOrder
    (remoteOrder.filter fun id => !preferLocal.contains id) []

theorem rebaseSiblingOrder_ok {parent : Uuid} {object : String}
    {finalIds localOrder remoteOrder preferLocal order : List Uuid} (nodup : finalIds.Nodup)
    (rebased : rebaseSiblingOrder parent object finalIds localOrder remoteOrder preferLocal = .ok order) :
    order = splicedOrder localOrder remoteOrder preferLocal ∧ order.Perm finalIds := by
  simp only [rebaseSiblingOrder] at rebased
  split at rebased
  · cases rebased
  · rename_i complete
    split at rebased
    · cases rebased
    · cases rebased
      refine ⟨rfl, ?_⟩
      simp only [Bool.or_eq_true, Bool.not_eq_true', not_or, Bool.not_eq_false, Bool.and_eq_true,
        List.all_eq_true, List.contains_iff_mem, decide_eq_true_eq, ne_eq, not_not] at complete
      obtain ⟨len, _, covers⟩ := complete
      exact ((List.subperm_of_subset nodup covers).perm_of_length_le len.le).symm

theorem rebaseSiblingOrder_error {parent : Uuid} {object : String}
    {finalIds localOrder remoteOrder preferLocal : List Uuid} {e : ThreeWayPatchError}
    (failed : rebaseSiblingOrder parent object finalIds localOrder remoteOrder preferLocal = .error e) :
    e = .siblingOrderChange parent object := by
  simp only [rebaseSiblingOrder] at failed
  split at failed
  · cases failed; rfl
  · split at failed
    · cases failed; rfl
    · cases failed

/-! ## Reconciling -/

section Reconcile

variable {R : Type} [SiblingRow R] {object : String} {prefersLocal : BTreeMap Uuid R → Uuid → Bool}
  {localRows remoteRows rows rows' merged merged' : BTreeMap Uuid R} {parent : Uuid}

/-- The same rows up to their order. -/
def Reordered (rows rows' : BTreeMap Uuid R) : Prop :=
  ∀ id : Uuid, ∃ index, rows'[id]? = rows[id]?.map (setOrder index)

theorem Reordered.refl (rows : BTreeMap Uuid R) : Reordered rows rows := by
  intro id
  cases rows[id]? with
  | none => exact ⟨0, rfl⟩
  | some row => exact ⟨order row, by rw [Option.map_some, setOrder_order]⟩

theorem Reordered.trans {rows'' : BTreeMap Uuid R} (first : Reordered rows rows')
    (second : Reordered rows' rows'') : Reordered rows rows'' := by
  intro id
  obtain ⟨i, h⟩ := first id
  obtain ⟨j, k⟩ := second id
  refine ⟨j, ?_⟩
  rw [k, h, Option.map_map]
  congr 1
  funext row
  simp

theorem Reordered.parent_eq (reordered : Reordered rows rows') (id : Uuid) :
    rows'[id]?.map parent? = rows[id]?.map parent? := by
  obtain ⟨index, same⟩ := reordered id
  rw [same, Option.map_map]
  congr 1
  funext row
  simp

theorem Reordered.mem_iff (reordered : Reordered rows rows') (id : Uuid) : id ∈ rows' ↔ id ∈ rows := by
  obtain ⟨index, same⟩ := reordered id
  rw [← Std.ExtTreeMap.isSome_getElem?_iff_mem, ← Std.ExtTreeMap.isSome_getElem?_iff_mem, same,
    Option.isSome_map]

theorem sibling_iff_map_parent {id : Uuid} :
    (∃ row, rows[id]? = some row ∧ parent? row = some parent) ↔
      rows[id]?.map parent? = some (some parent) := by
  rw [Option.map_eq_some_iff]

theorem Reordered.sibling_iff (reordered : Reordered rows rows') (id : Uuid) :
    (∃ row, rows'[id]? = some row ∧ parent? row = some parent) ↔
      ∃ row, rows[id]? = some row ∧ parent? row = some parent := by
  rw [sibling_iff_map_parent, sibling_iff_map_parent, reordered.parent_eq]

theorem setOrders_lookup {list : List Uuid} (nodup : list.Nodup) (start : Nat) (rows : BTreeMap Uuid R)
    (id : Uuid) :
    ((list.zipIdx start).foldl (fun rows (place : Uuid × Nat) => rows.modify place.1 (setOrder place.2))
        rows)[id]? =
      if id ∈ list then rows[id]?.map (setOrder (start + list.idxOf id)) else rows[id]? := by
  induction list generalizing start rows with
  | nil => simp
  | cons k rest ih =>
      obtain ⟨fresh, later⟩ := List.nodup_cons.mp nodup
      simp only [List.zipIdx_cons, List.foldl_cons]
      rw [ih later]
      by_cases here : k = id
      · subst here
        simp [fresh]
      · have other : id ≠ k := Ne.symm here
        simp only [BTreeMap.modify_lookup, here, if_false, List.mem_cons, other, false_or,
          List.idxOf_cons_ne rest here]
        split
        · congr 2
          omega
        · rfl

theorem setOrders_reordered {list : List Uuid} (nodup : list.Nodup) (rows : BTreeMap Uuid R) :
    Reordered rows (setOrders list rows) := by
  intro id
  rw [setOrders, setOrders_lookup nodup]
  split
  · exact ⟨_, rfl⟩
  · cases rows[id]? with
    | none => exact ⟨0, rfl⟩
    | some row => exact ⟨order row, by rw [Option.map_some, setOrder_order]⟩

/-- Numbering the children of a parent by a list makes the list their order. -/
theorem siblingOrder_setOrders {list : List Uuid} (perm : list.Perm (siblingIds rows parent)) :
    siblingOrder (setOrders list rows) parent = list := by
  have nodup : list.Nodup := perm.nodup_iff.mpr (siblingIds_nodup rows parent)
  have reordered := setOrders_reordered nodup rows
  have inside : ∀ id, id ∈ list ↔ ∃ row, rows[id]? = some row ∧ parent? row = some parent := fun id =>
    perm.mem_iff.trans mem_siblingIds
  apply siblingOrder_eq nodup
  · intro id row here below
    have member : id ∈ list := (inside id).mpr ((reordered.sibling_iff id).mp ⟨row, here, below⟩)
    rw [setOrders, setOrders_lookup nodup, if_pos member] at here
    obtain ⟨before, _, rfl⟩ := Option.map_eq_some_iff.mp here
    simp [List.getElem?_idxOf, member]
  · intro id member
    exact (reordered.sibling_iff id).mpr ((inside id).mp member)

theorem siblingOrder_setOrders_other {list : List Uuid} {other : Uuid}
    (perm : list.Perm (siblingIds rows parent)) (apart : other ≠ parent) :
    siblingOrder (setOrders list rows) other = siblingOrder rows other := by
  have nodup : list.Nodup := perm.nodup_iff.mpr (siblingIds_nodup rows parent)
  apply siblingOrder_congr
  intro id row below
  have lookup := setOrders_lookup nodup 0 rows id
  rw [setOrders, lookup]
  split
  · rename_i member
    obtain ⟨stored, here, up⟩ := mem_siblingIds.mp (perm.mem_iff.mp member)
    have differ : parent? stored ≠ parent? row := by
      rw [up, below]
      exact fun same => apart (Option.some.inj same).symm
    rw [here]
    constructor
    · intro same
      exact absurd (by rw [← Option.some.inj same, parent_setOrder]) differ
    · intro same
      exact absurd (congrArg parent? (Option.some.inj same)) differ
  · rfl

theorem siblingIds_sorted (rows : BTreeMap Uuid R) (parent : Uuid) :
    (siblingIds rows parent).Pairwise (fun a b => compare a b = .lt) := by
  rw [siblingIds, List.pairwise_map]
  exact Std.ExtTreeMap.ordered_keys_toList.sublist List.filter_sublist

theorem Reordered.siblingIds_eq (reordered : Reordered rows rows') (parent : Uuid) :
    siblingIds rows' parent = siblingIds rows parent := by
  have perm : (siblingIds rows' parent).Perm (siblingIds rows parent) :=
    (List.perm_ext_iff_of_nodup (siblingIds_nodup rows' parent) (siblingIds_nodup rows parent)).mpr
      fun id => by rw [mem_siblingIds, mem_siblingIds, reordered.sibling_iff]
  refine perm.eq_of_pairwise ?_ (siblingIds_sorted rows' parent) (siblingIds_sorted rows parent)
  intro a b _ _ less more
  rw [@Std.OrientedCmp.eq_swap _ compare, less] at more
  cases more

/-- The preference looks at parents only. -/
def ReadsParents (prefersLocal : BTreeMap Uuid R → Uuid → Bool) : Prop :=
  ∀ {rows rows'}, Reordered rows rows' → prefersLocal rows' = prefersLocal rows

theorem rebasedOrder_reordered (reads : ReadsParents prefersLocal) (reordered : Reordered rows rows')
    (parent : Uuid) :
    rebasedOrder object prefersLocal localRows remoteRows rows' parent =
      rebasedOrder object prefersLocal localRows remoteRows rows parent := by
  rw [rebasedOrder, rebasedOrder, reordered.siblingIds_eq, reads reordered]

theorem rebasedOrder_perm {list : List Uuid}
    (rebased : rebasedOrder object prefersLocal localRows remoteRows rows parent = .ok list) :
    list.Perm (siblingIds rows parent) :=
  (rebaseSiblingOrder_ok (siblingIds_nodup rows parent) rebased).2

theorem reconcileStep_ok
    (run : reconcileStep object prefersLocal localRows remoteRows rows parent = .ok rows') :
    ∃ list, rebasedOrder object prefersLocal localRows remoteRows rows parent = .ok list ∧
      rows' = setOrders list rows := by
  simp only [reconcileStep] at run
  cases rebased : rebasedOrder object prefersLocal localRows remoteRows rows parent with
  | error e => rw [rebased] at run; cases run
  | ok list => rw [rebased] at run; cases run; exact ⟨list, rfl, rfl⟩

theorem reconcile_loop (reads : ReadsParents prefersLocal) {parents : List Uuid} (nodup : parents.Nodup)
    (run : parents.foldlM (reconcileStep object prefersLocal localRows remoteRows) rows = .ok rows') :
    Reordered rows rows' ∧
      (∀ parent ∈ parents, ∃ list,
        rebasedOrder object prefersLocal localRows remoteRows rows parent = .ok list ∧
          siblingOrder rows' parent = list) ∧
      ∀ parent ∉ parents, siblingOrder rows' parent = siblingOrder rows parent := by
  induction parents generalizing rows with
  | nil =>
      cases run
      exact ⟨Reordered.refl _, by simp, fun _ _ => rfl⟩
  | cons first rest ih =>
      obtain ⟨fresh, later⟩ := List.nodup_cons.mp nodup
      rw [List.foldlM_cons] at run
      cases step : reconcileStep object prefersLocal localRows remoteRows rows first with
      | error e => rw [step] at run; cases run
      | ok mid =>
          rw [step] at run
          obtain ⟨list, rebased, rfl⟩ := reconcileStep_ok step
          have perm := rebasedOrder_perm rebased
          have reordered := setOrders_reordered (perm.nodup_iff.mpr (siblingIds_nodup rows first)) rows
          obtain ⟨restReordered, settled, untouched⟩ := ih later run
          refine ⟨reordered.trans restReordered, ?_, ?_⟩
          · intro parent member
            rcases List.mem_cons.mp member with rfl | inRest
            · exact ⟨list, rebased, by rw [untouched _ fresh, siblingOrder_setOrders perm]⟩
            · obtain ⟨other, rebased', ordered⟩ := settled parent inRest
              rw [rebasedOrder_reordered reads reordered] at rebased'
              exact ⟨other, rebased', ordered⟩
          · intro parent outside
            have ⟨apart, notInRest⟩ : parent ≠ first ∧ parent ∉ rest := by simpa using outside
            rw [untouched parent notInRest, siblingOrder_setOrders_other perm apart]

/-- A parent without children needs no order. -/
theorem rebasedOrder_of_no_children (none : siblingIds rows parent = []) :
    rebasedOrder object prefersLocal localRows remoteRows rows parent = .ok [] := by
  have empty (side : BTreeMap Uuid R) : orderedIds side parent ([] : List Uuid).contains = [] := by
    rw [orderedIds_eq_filter]
    simp
  simp [rebasedOrder, none, empty, rebaseSiblingOrder, SiblingList.spliceInto]

theorem siblingIds_of_not_parent (outside : parent ∉ rowParents rows) : siblingIds rows parent = [] := by
  rw [List.eq_nil_iff_forall_not_mem]
  intro id member
  obtain ⟨row, here, below⟩ := mem_siblingIds.mp member
  exact outside (mem_rowParents.mpr ⟨id, row, here, below⟩)

theorem reconcileSiblingOrders_ok (reads : ReadsParents prefersLocal)
    (run : reconcileSiblingOrders object prefersLocal localRows remoteRows merged = .ok merged') :
    Reordered merged merged' ∧
      ∀ parent, rebasedOrder object prefersLocal localRows remoteRows merged parent =
        .ok (siblingOrder merged' parent) := by
  obtain ⟨reordered, settled, untouched⟩ := reconcile_loop reads (rowParents_nodup merged) run
  refine ⟨reordered, ?_⟩
  intro parent
  by_cases isParent : parent ∈ rowParents merged
  · obtain ⟨list, rebased, ordered⟩ := settled parent isParent
    rw [rebased, ordered]
  · have childless := siblingIds_of_not_parent isParent
    have empty : siblingOrder merged' parent = [] := by
      rw [untouched parent isParent, List.eq_nil_iff_forall_not_mem]
      intro id member
      have inside := mem_siblingIds.mpr (mem_siblingOrder.mp member)
      simp [childless] at inside
    rw [empty, rebasedOrder_of_no_children childless]

/-- Reconciling can only fail by refusing an order. -/
theorem reconcileSiblingOrders_refused (reads : ReadsParents prefersLocal) {e : ThreeWayPatchError}
    (run : reconcileSiblingOrders object prefersLocal localRows remoteRows merged = .error e) :
    ∃ parent, rebasedOrder object prefersLocal localRows remoteRows merged parent = .error e := by
  rw [reconcileSiblingOrders] at run
  generalize rowParents merged = parents at run
  induction parents generalizing merged with
  | nil => cases run
  | cons first rest ih =>
      rw [List.foldlM_cons, reconcileStep] at run
      cases rebased : rebasedOrder object prefersLocal localRows remoteRows merged first with
      | error e' =>
          rw [rebased] at run
          cases run
          exact ⟨first, rebased⟩
      | ok list =>
          rw [rebased] at run
          obtain ⟨parent, refused⟩ := ih run
          have perm := rebasedOrder_perm rebased
          have reordered := setOrders_reordered (perm.nodup_iff.mpr (siblingIds_nodup merged first)) merged
          exact ⟨parent, (rebasedOrder_reordered reads reordered parent).symm.trans refused⟩

theorem reconcileSiblingOrders_error (reads : ReadsParents prefersLocal) {e : ThreeWayPatchError}
    (run : reconcileSiblingOrders object prefersLocal localRows remoteRows merged = .error e) :
    ∃ parent, e = .siblingOrderChange parent object := by
  obtain ⟨parent, refused⟩ := reconcileSiblingOrders_refused reads run
  exact ⟨parent, rebaseSiblingOrder_error refused⟩

end Reconcile

/-! ## Entries and groups -/

theorem Reordered.group_row {rows rows' : BTreeMap Uuid FlatGroup} {id : Uuid} {row : FlatGroup}
    (reordered : Reordered rows rows') (here : rows'[id]? = some row) :
    ∃ before, rows[id]? = some before ∧ row.parent = before.parent ∧ row.value = before.value := by
  obtain ⟨index, same⟩ := reordered id
  rw [here] at same
  obtain ⟨before, there, rfl⟩ := Option.map_eq_some_iff.mp same.symm
  exact ⟨before, there, rfl, rfl⟩

theorem Reordered.entry_row {rows rows' : BTreeMap Uuid FlatEntry} {id : Uuid} {row : FlatEntry}
    (reordered : Reordered rows rows') (here : rows'[id]? = some row) :
    ∃ before, rows[id]? = some before ∧ row.parent = before.parent ∧ row.value = before.value := by
  obtain ⟨index, same⟩ := reordered id
  rw [here] at same
  obtain ⟨before, there, rfl⟩ := Option.map_eq_some_iff.mp same.symm
  exact ⟨before, there, rfl, rfl⟩

theorem groupOrder_readsParents (base local' remote : FlatVault) :
    ReadsParents fun merged id => groupOrderPrefersLocal id base local' remote merged := by
  intro rows rows' reordered
  funext id
  obtain ⟨index, same⟩ := reordered id
  simp only [groupOrderPrefersLocal, same]
  cases local'.groups[id]? with
  | none => rfl
  | some l => cases rows[id]? <;> rfl

theorem entryOrder_readsParents (base local' remote : FlatVault) :
    ReadsParents fun merged id => entryOrderPrefersLocal id base local' remote merged := by
  intro rows rows' reordered
  funext id
  obtain ⟨index, same⟩ := reordered id
  simp only [entryOrderPrefersLocal, same]
  cases local'.entries[id]? with
  | none => rfl
  | some l => cases rows[id]? <;> rfl

end VaultKern
