import VaultKern.Guarantees.MergedLocations

/-! # Rebased sibling orders

A merge that succeeds orders exactly the merged children of every parent, keeps the remote order
of those whose place the remote side decided, and keeps each neighbour of a locally placed child
on its side.
-/

namespace SiblingList

variable {K : Type} [DecidableEq K] {prefer : K → Bool}

theorem spliceInto_perm (source order pending : List K) :
    (spliceInto prefer source order pending).Perm (order ++ pending ++ source.filter prefer) := by
  induction source generalizing order pending with
  | nil => simp [spliceInto]
  | cons k rest ih =>
      simp only [spliceInto]
      split
      · rename_i preferred
        apply (ih order (pending ++ [k])).trans
        simp [preferred]
      · rename_i refused
        rw [List.filter_cons_of_neg refused]
        split
        · rename_i anchor _
          apply (ih _ []).trans
          rw [List.append_nil]
          apply List.Perm.append_right
          calc (order.take anchor ++ pending ++ order.drop anchor).Perm (order.take anchor ++ (order.drop anchor ++ pending)) := by
                rw [List.append_assoc]
                exact List.perm_append_comm.append_left _
            _ = order ++ pending := by rw [← List.append_assoc, List.take_append_drop]
        · exact ih order pending

/-- If the order has the unpreferred keys of the source as the source has them, splicing restores
    the source among the other keys. -/
theorem spliceInto_source (selected : K → Bool) (done pending source order : List K)
    (nodup : (done ++ pending ++ source).Nodup) (chosen : ∀ k ∈ pending ++ source, selected k = true)
    (held : order.filter selected = done ++ source.filter (fun k => !prefer k)) :
    (spliceInto prefer source order pending).filter selected = done ++ pending ++ source := by
  induction source generalizing done pending order with
  | nil =>
      have all : pending.filter selected = pending := by
        rw [List.append_nil] at chosen
        exact List.filter_eq_self.mpr chosen
      rw [List.filter_nil, List.append_nil] at held
      rw [spliceInto, List.filter_append, held, all, List.append_nil]
  | cons k rest ih =>
      have shift : done ++ pending ++ k :: rest = done ++ (pending ++ [k]) ++ rest := by simp
      simp only [spliceInto]
      split
      · rename_i preferred
        rw [shift] at nodup ⊢
        apply ih done (pending ++ [k]) order nodup
        · intro x member
          apply chosen x
          simpa using member
        · rw [held, List.filter_cons_of_neg (by simp [preferred])]
      · rename_i refused
        rw [List.filter_cons_of_pos (by simp [refused])] at held
        have inOrder : k ∈ order := by
          have member : k ∈ order.filter selected := by
            rw [held]
            exact List.mem_append_right _ List.mem_cons_self
          exact (List.mem_filter.mp member).1
        cases found : order.idxOf? k with
        | none => exact absurd inOrder (List.idxOf?_eq_none_iff.mp found)
        | some anchor =>
            have split := (split_at_anchor found).1
            have notDone : k ∉ done := by
              intro member
              have apart := (List.nodup_append'.mp nodup).2.2
              exact apart (List.mem_append_left _ member) List.mem_cons_self
            rw [split, List.filter_append, List.filter_cons_of_pos (chosen k (by simp))] at held
            have notRest : k ∉ rest.filter fun k => !prefer k := by
              intro member
              exact (List.nodup_cons.mp (List.nodup_append'.mp nodup).2.1).1 (List.mem_filter.mp member).1
            obtain ⟨front, -, back⟩ := (List.append_cons_inj_of_notMem notDone notRest).mp held.symm
            have all : pending.filter selected = pending :=
              List.filter_eq_self.mpr fun x member => chosen x (List.mem_append_left _ member)
            have shift : done ++ pending ++ k :: rest = (done ++ pending ++ [k]) ++ [] ++ rest := by simp
            have behind : order.drop anchor = k :: order.drop (anchor + 1) := by
              obtain ⟨inside, here, -⟩ := List.idxOf?_eq_some_iff.mp found
              rw [List.drop_eq_getElem_cons inside, here]
            rw [shift] at nodup ⊢
            apply ih (done ++ pending ++ [k]) [] _ nodup
            · intro x member
              apply chosen x
              simp only [List.nil_append] at member
              simp [member]
            · rw [behind, List.filter_append, List.filter_append, List.filter_cons_of_pos (chosen k (by simp)), ← front, ← back, all]
              simp

end SiblingList

namespace VaultKern

open SiblingRow

/-! ## One parent -/

/-- The two are neighbours in the list. -/
def Neighbours (list : List Uuid) (first second : Uuid) : Prop := (first, second) ∈ list.zip list.tail

/-- What a rebased order is. -/
structure Rebased (finalIds localOrder remoteOrder preferLocal order : List Uuid) : Prop where
  children : order.Perm finalIds
  remote : order.filter (fun id => !preferLocal.contains id) = remoteOrder.filter fun id => !preferLocal.contains id
  neighbours : ∀ first second, Neighbours localOrder first second → first ∈ preferLocal ∨ second ∈ preferLocal →
    order.idxOf first < order.idxOf second

theorem rebaseSiblingOrder_rebased {parent : Uuid} {object : String}
    {finalIds localOrder remoteOrder preferLocal order : List Uuid} (nodup : finalIds.Nodup)
    (rebased : rebaseSiblingOrder parent object finalIds localOrder remoteOrder preferLocal = .ok order) :
    Rebased finalIds localOrder remoteOrder preferLocal order := by
  obtain ⟨spliced, perm⟩ := rebaseSiblingOrder_ok nodup rebased
  constructor
  · exact perm
  · rw [spliced, splicedOrder, SiblingList.spliceInto_filter _ _ _ (by simp), List.filter_filter]
    simp
  · intro first second adjacent placed
    unfold rebaseSiblingOrder at rebased
    rw [← splicedOrder, ← spliced] at rebased
    dsimp only at rebased
    split at rebased
    · cases rebased
    · split at rebased
      · cases rebased
      · rename_i ordered
        rw [Bool.not_eq_true, List.any_eq_false] at ordered
        have kept := ordered (first, second) adjacent
        by_contra above
        apply kept
        unfold placedOutOfOrder
        rw [Bool.and_eq_true, Bool.or_eq_true, List.contains_iff_mem, List.contains_iff_mem, decide_eq_true_eq]
        exact ⟨placed, Nat.not_lt.mp above⟩

theorem idxOf_of_sublist {first second : Uuid} {order : List Uuid} (nodup : order.Nodup)
    (sub : [first, second].Sublist order) : order.idxOf first < order.idxOf second := by
  induction order with
  | nil => cases sub
  | cons a rest ih =>
      obtain ⟨fresh, later⟩ := List.nodup_cons.mp nodup
      cases sub with
      | cons _ sub =>
          have members : first ∈ rest ∧ second ∈ rest := by
            constructor <;> apply sub.subset <;> simp
          rw [List.idxOf_cons_ne rest (ne_of_mem_of_not_mem members.1 fresh).symm,
            List.idxOf_cons_ne rest (ne_of_mem_of_not_mem members.2 fresh).symm]
          exact Nat.succ_lt_succ (ih later sub)
      | cons_cons _ sub =>
          have inside : second ∈ rest := sub.subset List.mem_cons_self
          rw [List.idxOf_cons_self, List.idxOf_cons_ne rest (ne_of_mem_of_not_mem inside fresh).symm]
          exact Nat.succ_pos _

theorem neighbours_sublist {list : List Uuid} {first second : Uuid} (adjacent : Neighbours list first second) :
    [first, second].Sublist list := by
  unfold Neighbours at adjacent
  induction list with
  | nil => cases adjacent
  | cons a rest ih =>
      cases rest with
      | nil => cases adjacent
      | cons b rest =>
          rw [List.tail_cons, List.zip_cons_cons] at adjacent
          rcases List.mem_cons.mp adjacent with same | later
          · cases same
            simp
          · exact (ih later).cons a

/-- The siblings that both sides have stand in the same order. -/
def CommonInOrder (localOrder remoteOrder : List Uuid) : Prop :=
  localOrder.filter remoteOrder.contains = remoteOrder.filter localOrder.contains

section Parent

variable {parent : Uuid} {object : String} {finalIds localOrder remoteOrder preferLocal : List Uuid}

/-- The local place decides of the preferred children, and the remote one of the others. -/
structure Decided (finalIds localOrder remoteOrder preferLocal : List Uuid) : Prop where
  finalNodup : finalIds.Nodup
  localNodup : localOrder.Nodup
  remoteNodup : remoteOrder.Nodup
  localFinal : ∀ id ∈ localOrder, id ∈ finalIds
  remoteFinal : ∀ id ∈ remoteOrder, id ∈ finalIds
  preferred : ∀ id ∈ finalIds, id ∈ preferLocal → id ∈ localOrder
  others : ∀ id ∈ finalIds, id ∉ preferLocal → id ∈ remoteOrder

theorem Decided.spliced (decided : Decided finalIds localOrder remoteOrder preferLocal) :
    (splicedOrder localOrder remoteOrder preferLocal).Perm finalIds := by
  have perm : (splicedOrder localOrder remoteOrder preferLocal).Perm
      ((remoteOrder.filter fun id => !preferLocal.contains id) ++ [] ++ localOrder.filter preferLocal.contains) :=
    SiblingList.spliceInto_perm localOrder _ []
  rw [List.append_nil] at perm
  have nodup : (remoteOrder.filter (fun id => !preferLocal.contains id) ++ localOrder.filter preferLocal.contains).Nodup := by
    apply List.Nodup.append (decided.remoteNodup.filter _) (decided.localNodup.filter _)
    intro id unpreferred preferred
    have first := (List.mem_filter.mp unpreferred).2
    have second := (List.mem_filter.mp preferred).2
    rw [second] at first
    cases first
  apply perm.trans
  rw [List.perm_ext_iff_of_nodup nodup decided.finalNodup]
  intro id
  simp only [List.mem_append, List.mem_filter, Bool.not_eq_true', List.contains_iff_mem]
  constructor
  · rintro (⟨inRemote, -⟩ | ⟨inLocal, -⟩)
    · exact decided.remoteFinal id inRemote
    · exact decided.localFinal id inLocal
  · intro final
    by_cases preferred : id ∈ preferLocal
    · exact .inr ⟨decided.preferred id final preferred, preferred⟩
    · exact .inl ⟨decided.others id final preferred, by simp [preferred]⟩

/-- The only refusal is that of neighbours out of order. -/
theorem Decided.refused (decided : Decided finalIds localOrder remoteOrder preferLocal) {e : ThreeWayPatchError}
    (failed : rebaseSiblingOrder parent object finalIds localOrder remoteOrder preferLocal = .error e) :
    ∃ first second, Neighbours localOrder first second ∧
      placedOutOfOrder (splicedOrder localOrder remoteOrder preferLocal) preferLocal first second = true := by
  have perm := decided.spliced
  unfold rebaseSiblingOrder at failed
  rw [← splicedOrder] at failed
  dsimp only at failed
  split at failed
  · rename_i mismatch
    rw [Bool.or_eq_true, decide_eq_true_eq, Bool.not_eq_true', Bool.and_eq_false_iff] at mismatch
    rcases mismatch with longer | outside | missing
    · exact absurd perm.length_eq longer
    · rw [List.all_eq_false] at outside
      obtain ⟨id, member, outside⟩ := outside
      rw [List.contains_iff_mem] at outside
      exact absurd (perm.mem_iff.mp member) outside
    · rw [List.all_eq_false] at missing
      obtain ⟨id, member, missing⟩ := missing
      rw [List.contains_iff_mem] at missing
      exact absurd (perm.mem_iff.mpr member) missing
  · split at failed
    · rename_i outOfOrder
      obtain ⟨⟨first, second⟩, adjacent, placed⟩ := List.any_eq_true.mp outOfOrder
      exact ⟨first, second, adjacent, placed⟩
    · cases failed

/-- With the common siblings in order, the local list is restored among the other children. -/
theorem Decided.restores (decided : Decided finalIds localOrder remoteOrder preferLocal)
    (common : CommonInOrder localOrder remoteOrder) :
    (splicedOrder localOrder remoteOrder preferLocal).filter localOrder.contains = localOrder := by
  have held : (remoteOrder.filter fun id => !preferLocal.contains id).filter localOrder.contains =
      [] ++ localOrder.filter fun id => !preferLocal.contains id := by
    rw [List.nil_append, List.filter_comm, ← common, List.filter_filter]
    apply List.filter_congr
    intro id member
    cases preferred : preferLocal.contains id with
    | true => simp
    | false =>
        have inRemote : id ∈ remoteOrder := by
          apply decided.others id (decided.localFinal id member)
          simpa using preferred
        simpa using inRemote
  exact SiblingList.spliceInto_source localOrder.contains [] [] localOrder _ decided.localNodup (by simp) held

theorem Decided.succeeds (decided : Decided finalIds localOrder remoteOrder preferLocal)
    (common : CommonInOrder localOrder remoteOrder) :
    ∃ order, rebaseSiblingOrder parent object finalIds localOrder remoteOrder preferLocal = .ok order := by
  cases rebased : rebaseSiblingOrder parent object finalIds localOrder remoteOrder preferLocal with
  | ok order => exact ⟨order, rfl⟩
  | error e =>
      obtain ⟨first, second, adjacent, placed⟩ := decided.refused rebased
      have sub : [first, second].Sublist (splicedOrder localOrder remoteOrder preferLocal) := by
        have within : ((splicedOrder localOrder remoteOrder preferLocal).filter localOrder.contains).Sublist
            (splicedOrder localOrder remoteOrder preferLocal) := List.filter_sublist
        rw [decided.restores common] at within
        exact (neighbours_sublist adjacent).trans within
      have below := idxOf_of_sublist (decided.spliced.nodup_iff.mpr decided.finalNodup) sub
      rw [placedOutOfOrder, Bool.and_eq_true, decide_eq_true_eq] at placed
      omega

end Parent

/-! ## Tables -/

section Tables

variable {R : Type} [SiblingRow R]

/-- Every merged row stands where the side that the preference names has it. -/
def PlacedBySides (prefersLocal : BTreeMap Uuid R → Uuid → Bool) (localRows remoteRows merged : BTreeMap Uuid R) : Prop :=
  ∀ (id : Uuid) (row : R), merged[id]? = some row →
    (prefersLocal merged id = true → ∃ l, localRows[id]? = some l ∧ parent? l = parent? row) ∧
    (prefersLocal merged id = false → ∃ r, remoteRows[id]? = some r ∧ parent? r = parent? row)

variable {prefersLocal : BTreeMap Uuid R → Uuid → Bool} {localRows remoteRows merged : BTreeMap Uuid R}

theorem mem_orderedIds {rows : BTreeMap Uuid R} {parent id : Uuid} {included : Uuid → Bool} :
    id ∈ orderedIds rows parent included ↔
      (∃ row, rows[id]? = some row ∧ parent? row = some parent) ∧ included id = true := by
  rw [orderedIds_eq_filter, List.mem_filter, mem_siblingOrder]

theorem orderedIds_nodup (rows : BTreeMap Uuid R) (parent : Uuid) (included : Uuid → Bool) :
    (orderedIds rows parent included).Nodup := by
  rw [orderedIds_eq_filter]
  exact (siblingOrder_nodup rows parent).filter _

theorem PlacedBySides.decided (placed : PlacedBySides prefersLocal localRows remoteRows merged) (parent : Uuid) :
    Decided (siblingIds merged parent) (orderedIds localRows parent (siblingIds merged parent).contains)
      (orderedIds remoteRows parent (siblingIds merged parent).contains)
      ((siblingIds merged parent).filter (prefersLocal merged)) where
  finalNodup := siblingIds_nodup merged parent
  localNodup := orderedIds_nodup _ _ _
  remoteNodup := orderedIds_nodup _ _ _
  localFinal id member := List.contains_iff_mem.mp (mem_orderedIds.mp member).2
  remoteFinal id member := List.contains_iff_mem.mp (mem_orderedIds.mp member).2
  preferred := by
    intro id final preferred
    obtain ⟨row, here, below⟩ := mem_siblingIds.mp final
    obtain ⟨side, there, same⟩ := (placed id row here).1 (List.mem_filter.mp preferred).2
    exact mem_orderedIds.mpr ⟨⟨side, there, same.trans below⟩, List.contains_iff_mem.mpr final⟩
  others := by
    intro id final unpreferred
    obtain ⟨row, here, below⟩ := mem_siblingIds.mp final
    have remotely : prefersLocal merged id = false := by
      apply Bool.eq_false_of_not_eq_true
      intro preferred
      exact unpreferred (List.mem_filter.mpr ⟨final, preferred⟩)
    obtain ⟨side, there, same⟩ := (placed id row here).2 remotely
    exact mem_orderedIds.mpr ⟨⟨side, there, same.trans below⟩, List.contains_iff_mem.mpr final⟩

/-- What holds of the orders below all parents of merged rows. The only refusal is that of two
    local neighbours, and none is refused when the common siblings stand in the same order. -/
structure SoundOrders (object : String) (prefersLocal : BTreeMap Uuid R → Uuid → Bool)
    (localRows remoteRows merged : BTreeMap Uuid R) : Prop where
  rebased : ∀ parent order, rebasedOrder object prefersLocal localRows remoteRows merged parent = .ok order →
    Rebased (siblingIds merged parent) (orderedIds localRows parent (siblingIds merged parent).contains)
      (orderedIds remoteRows parent (siblingIds merged parent).contains)
      ((siblingIds merged parent).filter (prefersLocal merged)) order
  complete : ∀ parent, (splicedOrder (orderedIds localRows parent (siblingIds merged parent).contains)
    (orderedIds remoteRows parent (siblingIds merged parent).contains)
    ((siblingIds merged parent).filter (prefersLocal merged))).Perm (siblingIds merged parent)
  refused : ∀ parent e, rebasedOrder object prefersLocal localRows remoteRows merged parent = .error e →
    ∃ first second, Neighbours (orderedIds localRows parent (siblingIds merged parent).contains) first second ∧
      placedOutOfOrder (splicedOrder (orderedIds localRows parent (siblingIds merged parent).contains)
        (orderedIds remoteRows parent (siblingIds merged parent).contains)
        ((siblingIds merged parent).filter (prefersLocal merged)))
        ((siblingIds merged parent).filter (prefersLocal merged)) first second = true
  kept : ∀ parent, CommonInOrder (orderedIds localRows parent (siblingIds merged parent).contains)
      (orderedIds remoteRows parent (siblingIds merged parent).contains) →
    ∃ order, rebasedOrder object prefersLocal localRows remoteRows merged parent = .ok order

theorem PlacedBySides.soundOrders (placed : PlacedBySides prefersLocal localRows remoteRows merged) (object : String) :
    SoundOrders object prefersLocal localRows remoteRows merged where
  rebased parent _ rebased := rebaseSiblingOrder_rebased (siblingIds_nodup merged parent) rebased
  complete parent := (placed.decided parent).spliced
  refused parent _ failed := (placed.decided parent).refused failed
  kept parent common := (placed.decided parent).succeeds common

/-- What reconciling makes of merged rows: it renumbers them, so that the children of every parent stand in a
    rebased order, or it refuses two local neighbours below a parent. It never refuses because children are
    missing, and it refuses nothing when the common siblings of every parent stand in the same order. -/
structure SoundReconcile (object : String) (prefersLocal : BTreeMap Uuid R → Uuid → Bool)
    (localRows remoteRows merged : BTreeMap Uuid R) (outcome : Except ThreeWayPatchError (BTreeMap Uuid R)) : Prop where
  rebased : ∀ merged', outcome = .ok merged' → Reordered merged merged' ∧
    ∀ parent, Rebased (siblingIds merged parent) (orderedIds localRows parent (siblingIds merged parent).contains)
      (orderedIds remoteRows parent (siblingIds merged parent).contains)
      ((siblingIds merged parent).filter (prefersLocal merged)) (siblingOrder merged' parent)
  refused : ∀ e, outcome = .error e → ∃ parent first second, e = .siblingOrderChange parent object ∧
    (splicedOrder (orderedIds localRows parent (siblingIds merged parent).contains)
      (orderedIds remoteRows parent (siblingIds merged parent).contains)
      ((siblingIds merged parent).filter (prefersLocal merged))).Perm (siblingIds merged parent) ∧
    Neighbours (orderedIds localRows parent (siblingIds merged parent).contains) first second ∧
    placedOutOfOrder (splicedOrder (orderedIds localRows parent (siblingIds merged parent).contains)
      (orderedIds remoteRows parent (siblingIds merged parent).contains)
      ((siblingIds merged parent).filter (prefersLocal merged)))
      ((siblingIds merged parent).filter (prefersLocal merged)) first second = true
  kept : (∀ parent, CommonInOrder (orderedIds localRows parent (siblingIds merged parent).contains)
      (orderedIds remoteRows parent (siblingIds merged parent).contains)) → ∃ merged', outcome = .ok merged'

theorem SoundOrders.reconciled {object : String} (sound : SoundOrders object prefersLocal localRows remoteRows merged)
    (reads : ReadsParents prefersLocal) : SoundReconcile object prefersLocal localRows remoteRows merged
      (reconcileSiblingOrders object prefersLocal localRows remoteRows merged) where
  rebased _ run := by
    obtain ⟨reordered, orders⟩ := reconcileSiblingOrders_ok reads run
    exact ⟨reordered, fun parent => sound.rebased parent _ (orders parent)⟩
  refused e run := by
    obtain ⟨parent, refused⟩ := reconcileSiblingOrders_refused reads run
    obtain ⟨first, second, adjacent, placed⟩ := sound.refused parent e refused
    exact ⟨parent, first, second, rebaseSiblingOrder_error refused, sound.complete parent, adjacent, placed⟩
  kept common := by
    cases run : reconcileSiblingOrders object prefersLocal localRows remoteRows merged with
    | ok merged' => exact ⟨merged', rfl⟩
    | error e =>
        obtain ⟨parent, refused⟩ := reconcileSiblingOrders_refused reads run
        obtain ⟨order, kept⟩ := sound.kept parent (common parent)
        rw [kept] at refused
        cases refused

end Tables

/-! ## Merged entries and groups -/

section Merged

variable {base local' remote : FlatVault}

theorem entries_placedBySides {merged : BTreeMap Uuid FlatEntry}
    (chosen : ∀ id : Uuid, EntryChosen base local' remote base.entries[id]? local'.entries[id]? remote.entries[id]? merged[id]?) :
    PlacedBySides (fun merged id => entryOrderPrefersLocal id base local' remote merged) local'.entries remote.entries
      merged := by
  intro id row here
  have choice := chosen id
  unfold entryOrderPrefersLocal
  dsimp only
  rw [here] at choice ⊢
  generalize base.entries[id]? = b at choice ⊢
  generalize local'.entries[id]? = l at choice ⊢
  generalize remote.entries[id]? = r at choice ⊢
  cases choice with
  | remoteAdded | remoteKept => exact ⟨nofun, fun _ => ⟨row, rfl, rfl⟩⟩
  | localAdded | localKept => exact ⟨fun _ => ⟨row, rfl, rfl⟩, by simp⟩
  | bothAdded => exact ⟨by simp, fun _ => ⟨row, rfl, rfl⟩⟩
  | @shared b l r _ merge =>
      have parent : row.parent = if (mergeLocation b.parent l.parent r.parent l.value.locationChangedAt
          r.value.locationChangedAt).prefersLocal then l.parent else r.parent := by
        rw [merge, ← mergeLocation_prefers]
        rfl
      cases ours : (mergeLocation b.parent l.parent r.parent l.value.locationChangedAt
          r.value.locationChangedAt).prefersLocal with
      | true =>
          rw [ours, if_pos rfl] at parent
          exact ⟨fun _ => ⟨l, rfl, congrArg some parent.symm⟩, by simp [parent, ours]⟩
      | false =>
          rw [ours, if_neg Bool.false_ne_true] at parent
          exact ⟨by simp [ours], fun _ => ⟨r, rfl, congrArg some parent.symm⟩⟩

theorem groups_placedBySides {merged : BTreeMap Uuid FlatGroup}
    (chosen : ∀ id : Uuid, GroupChosen base local' remote id base.groups[id]? local'.groups[id]? remote.groups[id]? merged[id]?) :
    PlacedBySides (fun merged id => groupOrderPrefersLocal id base local' remote merged) local'.groups remote.groups
      merged := by
  intro id row here
  have choice := chosen id
  unfold groupOrderPrefersLocal
  dsimp only
  rw [here] at choice ⊢
  generalize base.groups[id]? = b at choice ⊢
  generalize local'.groups[id]? = l at choice ⊢
  generalize remote.groups[id]? = r at choice ⊢
  cases choice with
  | remoteAdded | remoteKept => exact ⟨nofun, fun _ => ⟨row, rfl, rfl⟩⟩
  | localAdded | localKept => exact ⟨fun _ => ⟨row, rfl, rfl⟩, by simp⟩
  | bothAdded => exact ⟨by simp, fun _ => ⟨row, rfl, rfl⟩⟩
  | @shared b l r _ merge =>
      obtain ⟨changed, merge⟩ := merge
      obtain ⟨⟨value, flag⟩, -, rest⟩ := Fallible.bind_ok.mp merge
      obtain ⟨⟨parent, changedAt, prefers⟩, located, result⟩ := Fallible.bind_ok.mp rest
      cases result
      unfold mergeGroupLocation at located
      split at located
      · rename_i _ _ _ _ atLocal atRemote
        cases located
        exact ⟨by simp [atLocal], fun _ => ⟨r, rfl, atRemote⟩⟩
      · rename_i bp lp rp atBase atLocal atRemote
        cases located
        have chosen := mergeLocation_prefers bp lp rp (groupLocationChangedAt l.value) (groupLocationChangedAt r.value)
        dsimp only
        rw [atBase, atLocal, atRemote]
        cases ours : (mergeLocation bp lp rp (groupLocationChangedAt l.value) (groupLocationChangedAt r.value)).prefersLocal with
        | true =>
            rw [ours, if_pos rfl] at chosen
            exact ⟨fun _ => ⟨l, rfl, atLocal.trans (congrArg some chosen.symm)⟩, by simp [chosen, ours]⟩
        | false =>
            rw [ours, if_neg Bool.false_ne_true] at chosen
            exact ⟨by simp [ours], fun _ => ⟨r, rfl, atRemote.trans (congrArg some chosen.symm)⟩⟩
      · cases located

end Merged

/-- The sibling orders of merged groups and of merged entries, below one parent and below all of them. -/
theorem siblingOrders_sound {base local' remote : Vault} (uniqueBase : base.UniqueIds) (uniqueLocal : local'.UniqueIds)
    (uniqueRemote : remote.UniqueIds) :
    (∀ report groups report', mergeGroups base.flat local'.flat remote.flat
        (changedSubtreesDeletedFromOther base.flat local'.flat remote.flat)
        (changedSubtreesDeletedFromOther base.flat remote.flat local'.flat) report = .ok (groups, report') →
      SoundOrders "group" (fun merged id => groupOrderPrefersLocal id base.flat local'.flat remote.flat merged)
        local'.flat.groups remote.flat.groups groups ∧
      SoundReconcile "group" (fun merged id => groupOrderPrefersLocal id base.flat local'.flat remote.flat merged)
        local'.flat.groups remote.flat.groups groups
        (reconcileGroupSiblingOrders base.flat local'.flat remote.flat groups)) ∧
    ∀ groups log entries log', mergeEntries base.flat local'.flat remote.flat groups
        (changedSubtreesDeletedFromOther base.flat local'.flat remote.flat)
        (changedSubtreesDeletedFromOther base.flat remote.flat local'.flat) log = .ok (entries, log') →
      SoundOrders "entry" (fun merged id => entryOrderPrefersLocal id base.flat local'.flat remote.flat merged)
        local'.flat.entries remote.flat.entries entries ∧
      SoundReconcile "entry" (fun merged id => entryOrderPrefersLocal id base.flat local'.flat remote.flat merged)
        local'.flat.entries remote.flat.entries entries
        (reconcileEntrySiblingOrders base.flat local'.flat remote.flat entries) := by
  have wfBase := Vault.flat_wellFormed uniqueBase
  have wfLocal := Vault.flat_wellFormed uniqueLocal
  have wfRemote := Vault.flat_wellFormed uniqueRemote
  constructor
  · intro report groups report' merged
    have placed := groups_placedBySides (collectGroups_chosen wfBase wfLocal wfRemote (mergeGroups_ok.mp merged).1)
    have sound := placed.soundOrders "group"
    exact ⟨sound, sound.reconciled (groupOrder_readsParents _ _ _)⟩
  · intro groups log entries log' merged
    have placed := entries_placedBySides fun id => (mergeEntries_chosen wfBase wfLocal wfRemote merged id).1
    have sound := placed.soundOrders "entry"
    exact ⟨sound, sound.reconciled (entryOrder_readsParents _ _ _)⟩

/-- A vault with these folders and notes below its root. -/
def shelfVault (folders notes : List Uuid) : Vault :=
  { name := "Shelf"
    root :=
      { id := 1, title := "Root"
        entries := notes.map fun id => { id, title := "Note" }
        children := folders.map fun id => { id, title := "Folder" } } }

def shelfBase : Vault := shelfVault [2, 3] [10, 11]

/-- One folder and one note are put between those of the base. -/
def shelfLocal : Vault := shelfVault [2, 4, 3] [10, 12, 11]

/-- One folder and one note are put behind those of the base. -/
def shelfRemote : Vault := shelfVault [2, 3, 5] [10, 11, 13]

theorem siblingOrders_sound_shelf : ∃ groups entries,
    SoundReconcile "group" (fun merged id => groupOrderPrefersLocal id shelfBase.flat shelfLocal.flat shelfRemote.flat merged)
      shelfLocal.flat.groups shelfRemote.flat.groups groups
      (reconcileGroupSiblingOrders shelfBase.flat shelfLocal.flat shelfRemote.flat groups) ∧
    SoundReconcile "entry" (fun merged id => entryOrderPrefersLocal id shelfBase.flat shelfLocal.flat shelfRemote.flat merged)
      shelfLocal.flat.entries shelfRemote.flat.entries entries
      (reconcileEntrySiblingOrders shelfBase.flat shelfLocal.flat shelfRemote.flat entries) ∧
    (reconcileGroupSiblingOrders shelfBase.flat shelfLocal.flat shelfRemote.flat groups).toOption.map (siblingOrder · 1) =
      some [2, 4, 3, 5] ∧
    (reconcileEntrySiblingOrders shelfBase.flat shelfLocal.flat shelfRemote.flat entries).toOption.map (siblingOrder · 1) =
      some [10, 12, 11, 13] := by
  have sound := @siblingOrders_sound shelfBase shelfLocal shelfRemote
    ⟨by decide +kernel, by decide +kernel⟩ ⟨by decide +kernel, by decide +kernel⟩ ⟨by decide +kernel, by decide +kernel⟩
  let fromLocal := changedSubtreesDeletedFromOther shelfBase.flat shelfLocal.flat shelfRemote.flat
  let fromRemote := changedSubtreesDeletedFromOther shelfBase.flat shelfRemote.flat shelfLocal.flat
  have shelves : (mergeGroups shelfBase.flat shelfLocal.flat shelfRemote.flat fromLocal fromRemote {}).toOption.any
      fun merged =>
        (reconcileGroupSiblingOrders shelfBase.flat shelfLocal.flat shelfRemote.flat merged.1).toOption.map
          (siblingOrder · 1) = some [2, 4, 3, 5] &&
        (mergeEntries shelfBase.flat shelfLocal.flat shelfRemote.flat merged.1 fromLocal fromRemote {}).toOption.any
          fun merged' =>
            (reconcileEntrySiblingOrders shelfBase.flat shelfLocal.flat shelfRemote.flat merged'.1).toOption.map
              (siblingOrder · 1) = some [10, 12, 11, 13] := by decide +kernel
  cases groups : mergeGroups shelfBase.flat shelfLocal.flat shelfRemote.flat fromLocal fromRemote {} with
  | error e => simp [groups, Except.toOption] at shelves
  | ok merged =>
      rw [groups] at shelves
      obtain ⟨folders, notes⟩ := Bool.and_eq_true_iff.mp shelves
      cases entries : mergeEntries shelfBase.flat shelfLocal.flat shelfRemote.flat merged.1 fromLocal fromRemote {} with
      | error e =>
          rw [entries] at notes
          cases notes
      | ok merged' =>
          rw [entries] at notes
          exact ⟨merged.1, merged'.1, (sound.1 _ _ _ groups).2, (sound.2 _ _ _ _ entries).2, of_decide_eq_true folders,
            of_decide_eq_true notes⟩

end VaultKern
