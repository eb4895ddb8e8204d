import VaultKern.Autofill.Persist
import VaultKern.Guarantees.Atomic
import VaultKern.Lib.MapRelation
import VaultKern.Outcome.Replay

/-! # The ledger of receipts

Receipts are kept by operation. A ledger that was written reads back, and writing it again at
the same time changes nothing.
-/

namespace VaultKern

/-! ## Bindings -/

/-- Everything that a receipt is compared by. -/
def AutofillReceipt.binding (receipt : AutofillReceipt) : AutofillReceipt := { receipt with committedAtEpochMs := 0 }

theorem sameReceiptBinding_iff {left right : AutofillReceipt} :
    sameReceiptBinding left right = true ↔ left.binding = right.binding := by
  simp only [sameReceiptBinding, AutofillReceipt.binding, Bool.and_eq_true, decide_eq_true_eq, AutofillReceipt.mk.injEq,
    and_true, and_assoc]

theorem AutofillReceipt.binding_operationId {left right : AutofillReceipt} (same : left.binding = right.binding) :
    left.operationId = right.operationId := by
  have := congrArg AutofillReceipt.operationId same
  exact this

theorem validateReceipt_binding {left right : AutofillReceipt} (same : left.binding = right.binding) :
    validateReceipt left = validateReceipt right := by
  have plain (receipt : AutofillReceipt) : validateReceipt receipt = validateReceipt receipt.binding := rfl
  rw [plain left, same, ← plain]

/-! ## Inserting -/

/-- Receipts are found under their operations, and each is valid. -/
structure KnownReceipts (receipts : Receipts) : Prop where
  named : ∀ (operationId : String) (receipt : AutofillReceipt), receipts[operationId]? = some receipt →
    receipt.operationId = operationId
  valid : ∀ (operationId : String) (receipt : AutofillReceipt), receipts[operationId]? = some receipt →
    validateReceipt receipt = .ok ()

theorem knownReceipts_empty : KnownReceipts ∅ := by
  constructor <;> simp

/-- The receipt that is there after an insertion: the new one, or an equal one that was there. -/
theorem insertReceipt_ok {receipts receipts' : Receipts} {receipt : AutofillReceipt}
    (inserted : insertReceipt receipts receipt = .ok receipts') :
    ∃ kept, kept.binding = receipt.binding ∧ (kept = receipt ∨ receipts[receipt.operationId]? = some kept) ∧
      receipts' = receipts.insert receipt.operationId kept := by
  unfold insertReceipt at inserted
  cases held : receipts[receipt.operationId]? with
  | none =>
      rw [held] at inserted
      cases inserted
      exact ⟨receipt, rfl, .inl rfl, rfl⟩
  | some existing =>
      rw [held] at inserted
      dsimp only at inserted
      split at inserted
      · cases inserted
      · rename_i same
        simp only [Bool.not_eq_true', Bool.not_eq_false] at same
        split at inserted
        · cases inserted
          exact ⟨receipt, rfl, .inl rfl, rfl⟩
        · cases inserted
          exact ⟨existing, sameReceiptBinding_iff.mp same, .inr rfl, (BTreeMap.insert_same held).symm⟩

theorem insertReceipt_known {receipts receipts' : Receipts} {receipt : AutofillReceipt} (known : KnownReceipts receipts)
    (valid : validateReceipt receipt = .ok ()) (inserted : insertReceipt receipts receipt = .ok receipts') :
    KnownReceipts receipts' := by
  obtain ⟨kept, same, _, rfl⟩ := insertReceipt_ok inserted
  constructor
  · intro operationId found held
    rw [BTreeMap.insert_lookup] at held
    split at held
    · rename_i here
      cases held
      rw [← here]
      exact AutofillReceipt.binding_operationId same
    · exact known.named operationId found held
  · intro operationId found held
    rw [BTreeMap.insert_lookup] at held
    split at held
    · cases held
      rw [validateReceipt_binding same]
      exact valid
    · exact known.valid operationId found held

/-- A binding that is there stays. -/
def HoldsBinding (receipts : Receipts) (receipt : AutofillReceipt) : Prop :=
  ∃ held, receipts[receipt.operationId]? = some held ∧ held.binding = receipt.binding

theorem insertReceipt_holds {receipts receipts' : Receipts} {receipt : AutofillReceipt}
    (inserted : insertReceipt receipts receipt = .ok receipts') : HoldsBinding receipts' receipt := by
  obtain ⟨kept, same, _, rfl⟩ := insertReceipt_ok inserted
  refine ⟨kept, ?_, same⟩
  rw [BTreeMap.insert_lookup, if_pos rfl]

theorem HoldsBinding.insert {receipts receipts' : Receipts} {receipt other : AutofillReceipt}
    (holds : HoldsBinding receipts receipt) (inserted : insertReceipt receipts other = .ok receipts') :
    HoldsBinding receipts' receipt := by
  obtain ⟨held, found, same⟩ := holds
  by_cases here : other.operationId = receipt.operationId
  · unfold insertReceipt at inserted
    rw [here, found] at inserted
    dsimp only at inserted
    split at inserted
    · cases inserted
    · rename_i alike
      simp only [Bool.not_eq_true', Bool.not_eq_false] at alike
      have alike := sameReceiptBinding_iff.mp alike
      split at inserted
      · cases inserted
        refine ⟨other, ?_, alike.symm.trans same⟩
        rw [BTreeMap.insert_lookup, if_pos rfl]
      · cases inserted
        exact ⟨held, found, same⟩
  · obtain ⟨kept, _, _, rfl⟩ := insertReceipt_ok inserted
    refine ⟨held, ?_, same⟩
    rw [BTreeMap.insert_lookup, if_neg here]
    exact found

section Many

variable {receipts receipts' : Receipts} {list : List AutofillReceipt}

theorem insertReceipts_known (known : KnownReceipts receipts) (valid : ∀ receipt ∈ list, validateReceipt receipt = .ok ())
    (inserted : list.foldlM insertReceipt receipts = .ok receipts') : KnownReceipts receipts' := by
  induction list generalizing receipts with
  | nil =>
      cases inserted
      exact known
  | cons first rest ih =>
      rw [List.foldlM_cons] at inserted
      obtain ⟨mid, here, later⟩ := Fallible.bind_ok.mp inserted
      have knownMid := insertReceipt_known known (valid first List.mem_cons_self) here
      exact ih knownMid (fun receipt member => valid receipt (List.mem_cons_of_mem first member)) later

theorem HoldsBinding.inserts {receipt : AutofillReceipt} (holds : HoldsBinding receipts receipt)
    (inserted : list.foldlM insertReceipt receipts = .ok receipts') : HoldsBinding receipts' receipt := by
  induction list generalizing receipts with
  | nil =>
      cases inserted
      exact holds
  | cons first rest ih =>
      rw [List.foldlM_cons] at inserted
      obtain ⟨mid, here, later⟩ := Fallible.bind_ok.mp inserted
      exact ih (holds.insert here) later

theorem insertReceipts_holds {receipt : AutofillReceipt} (member : receipt ∈ list)
    (inserted : list.foldlM insertReceipt receipts = .ok receipts') : HoldsBinding receipts' receipt := by
  induction list generalizing receipts with
  | nil => cases member
  | cons first rest ih =>
      rw [List.foldlM_cons] at inserted
      obtain ⟨mid, here, later⟩ := Fallible.bind_ok.mp inserted
      rcases List.mem_cons.mp member with rfl | member
      · exact (insertReceipt_holds here).inserts later
      · exact ih member later

/-- Receipts of different operations go in one by one. -/
theorem insertReceipts_distinct (distinct : (list.map (·.operationId)).Nodup)
    (fresh : ∀ receipt ∈ list, receipts[receipt.operationId]? = none) :
    ∃ receipts', list.foldlM insertReceipt receipts = .ok receipts' ∧
      ∀ (operationId : String) (receipt : AutofillReceipt), receipts'[operationId]? = some receipt ↔
        receipts[operationId]? = some receipt ∨ receipt ∈ list ∧ receipt.operationId = operationId := by
  induction list generalizing receipts with
  | nil => exact ⟨receipts, rfl, fun operationId receipt => by simp⟩
  | cons first rest ih =>
      simp only [List.map_cons, List.nodup_cons, List.mem_map, not_exists, not_and] at distinct
      have here : insertReceipt receipts first = .ok (receipts.insert first.operationId first) := by
        unfold insertReceipt
        rw [fresh first List.mem_cons_self]
      have later : ∀ receipt ∈ rest, (receipts.insert first.operationId first)[receipt.operationId]? = none := by
        intro receipt member
        rw [BTreeMap.insert_lookup, if_neg (Ne.symm (distinct.1 receipt member))]
        exact fresh receipt (List.mem_cons_of_mem first member)
      obtain ⟨receipts', inserted, lookups⟩ := ih distinct.2 later
      refine ⟨receipts', ?_, fun operationId receipt => ?_⟩
      · rw [List.foldlM_cons, here]
        exact inserted
      · rw [lookups, BTreeMap.insert_lookup]
        by_cases same : first.operationId = operationId
        · subst same
          have absent := fresh first List.mem_cons_self
          simp only [if_true, Option.some.injEq, absent, reduceCtorEq, false_or, List.mem_cons]
          constructor
          · rintro (rfl | ⟨member, named⟩)
            · exact ⟨.inl rfl, rfl⟩
            · exact ⟨.inr member, named⟩
          · rintro ⟨rfl | member, named⟩
            · exact .inl rfl
            · exact .inr ⟨member, named⟩
        · rw [if_neg same]
          simp only [List.mem_cons]
          constructor
          · rintro (held | ⟨member, named⟩)
            · exact .inl held
            · exact .inr ⟨.inr member, named⟩
          · rintro (held | ⟨rfl | member, named⟩)
            · exact .inl held
            · exact absurd named same
            · exact .inr ⟨member, named⟩

end Many

/-! ## Reading -/

section Reading

variable {services : AutofillServices} {vault : Vault} {receipts : Receipts}

theorem readLedger_valid {ledger : ReceiptLedger} (read : readLedger services vault = .ok ledger) :
    ∀ receipt ∈ ledger.receipts, validateReceipt receipt = .ok () := by
  unfold readLedger at read
  cases held : vault.metaCustomData[autofillReceiptKey]? with
  | none =>
      rw [held] at read
      cases read
      simp
  | some value =>
      rw [held] at read
      obtain ⟨_, _, read⟩ := Fallible.bind_ok.mp read
      cases parsed : services.parseLedger value with
      | none => simp [parsed] at read
      | some found =>
          simp only [parsed] at read
          obtain ⟨_, _, read⟩ := Fallible.bind_ok.mp read
          obtain ⟨_, checked, read⟩ := Fallible.bind_ok.mp read
          cases read
          exact Fallible.forM_ok.mp checked

theorem readReceipts_known (read : readReceipts services vault = .ok receipts) : KnownReceipts receipts := by
  obtain ⟨ledger, found, deduped⟩ := Fallible.bind_ok.mp read
  exact insertReceipts_known knownReceipts_empty (readLedger_valid found) deduped

/-- The values of a map of receipts. -/
def receiptList (receipts : Receipts) : List AutofillReceipt := receipts.toList.map Prod.snd

theorem mem_receiptList {receipt : AutofillReceipt} :
    receipt ∈ receiptList receipts ↔ ∃ operationId : String, receipts[operationId]? = some receipt := by
  simp only [receiptList, List.mem_map, Prod.exists, Std.ExtTreeMap.mem_toList_iff_getElem?_eq_some,
    exists_eq_right]

theorem KnownReceipts.mem_list (known : KnownReceipts receipts) {receipt : AutofillReceipt} :
    receipt ∈ receiptList receipts ↔ receipts[receipt.operationId]? = some receipt := by
  rw [mem_receiptList]
  constructor
  · rintro ⟨operationId, held⟩
    rw [known.named operationId receipt held]
    exact held
  · exact fun held => ⟨_, held⟩

theorem KnownReceipts.operationIds (known : KnownReceipts receipts) :
    (receiptList receipts).map (·.operationId) = receipts.keys := by
  rw [receiptList, List.map_map, ← Std.ExtTreeMap.map_fst_toList_eq_keys]
  apply List.map_congr_left
  rintro ⟨operationId, receipt⟩ member
  exact known.named operationId receipt (Std.ExtTreeMap.mem_toList_iff_getElem?_eq_some.mp member)

theorem KnownReceipts.distinct (known : KnownReceipts receipts) : ((receiptList receipts).map (·.operationId)).Nodup := by
  rw [known.operationIds]
  exact Std.ExtTreeMap.nodup_keys

theorem mergeReceiptMaps_known {base current : Receipts} (knownBase : KnownReceipts base)
    (knownCurrent : KnownReceipts current) (merged : mergeReceiptMaps base current = .ok receipts) :
    KnownReceipts receipts := by
  apply insertReceipts_known knownBase _ merged
  intro receipt member
  exact knownCurrent.valid _ receipt (knownCurrent.mem_list.mp member)

/-- A map merged with itself is itself. -/
theorem mergeReceiptMaps_self (known : KnownReceipts receipts) : mergeReceiptMaps receipts receipts = .ok receipts := by
  have kept (list : List AutofillReceipt) (inside : ∀ receipt ∈ list, receipt ∈ receiptList receipts) :
      list.foldlM insertReceipt receipts = .ok receipts := by
    induction list with
    | nil => rfl
    | cons first rest ih =>
        have held := known.mem_list.mp (inside first List.mem_cons_self)
        have again : insertReceipt receipts first = .ok receipts := by
          unfold insertReceipt
          rw [held]
          simp [sameReceiptBinding_iff.mpr rfl]
        rw [List.foldlM_cons, again]
        exact ih fun receipt member => inside receipt (List.mem_cons_of_mem first member)
  exact kept (receiptList receipts) fun _ member => member

end Reading

/-! ## Pruning -/

section Pruning

variable {list : List AutofillReceipt}

theorem set_perm {A : Type} {items : List A} {index : Nat} {old : A} (held : items[index]? = some old) (new : A) :
    (old :: items.set index new).Perm (new :: items) := by
  induction items generalizing index with
  | nil => cases held
  | cons first rest ih =>
      cases index with
      | zero =>
          cases held
          exact .swap ..
      | succ index =>
          have later := ih held
          calc (old :: first :: rest.set index new).Perm (first :: old :: rest.set index new) := .swap ..
            List.Perm _ (first :: new :: rest) := later.cons first
            List.Perm _ (new :: first :: rest) := .swap ..

/-- What is swapped out, and the rest. -/
theorem swapRemove_perm {A : Type} {items : List A} {index : Nat} {removed : A} (held : items[index]? = some removed) :
    (removed :: swapRemove items index).Perm items := by
  obtain ⟨init, last, rfl⟩ := List.eq_nil_or_concat' items |>.resolve_left (by rintro rfl; cases held)
  unfold swapRemove
  simp only [List.getLast?_append, List.getLast?_singleton, Option.some_or]
  by_cases inside : index < init.length
  · rw [List.getElem?_append_left inside] at held
    rw [List.set_append_left _ _ inside, List.dropLast_concat]
    exact (set_perm held last).trans (List.perm_append_singleton last init).symm
  · have here : index = init.length := by
      have bound := (List.getElem?_eq_some_iff.mp held).1
      simp only [List.length_append, List.length_singleton] at bound
      omega
    subst here
    simp only [List.getElem?_append_right (Nat.le_refl _), Nat.sub_self, List.getElem?_cons_zero, Option.some.injEq] at held
    subst held
    simp only [List.set_append_right _ _ (Nat.le_refl _), Nat.sub_self, List.set_cons_zero, List.dropLast_concat]
    exact (List.perm_append_singleton last init).symm

theorem earlierReceipt_iff {left right : AutofillReceipt} : earlierReceipt left right = true ↔
    left.committedAtEpochMs < right.committedAtEpochMs ∨
      left.committedAtEpochMs = right.committedAtEpochMs ∧ left.operationId ≤ right.operationId := by
  simp [earlierReceipt]

theorem earlierReceipt_trans (a b c : AutofillReceipt) (first : earlierReceipt a b) (second : earlierReceipt b c) :
    earlierReceipt a c := by
  rw [earlierReceipt_iff] at first second ⊢
  rcases first with first | ⟨first, named⟩
  · rcases second with second | ⟨second, _⟩
    · exact .inl (UInt64.lt_trans first second)
    · exact .inl (second ▸ first)
  · rcases second with second | ⟨second, named'⟩
    · exact .inl (first ▸ second)
    · exact .inr ⟨first.trans second, String.le_trans named named'⟩

theorem earlierReceipt_total (a b : AutofillReceipt) : earlierReceipt a b || earlierReceipt b a := by
  rw [Bool.or_eq_true, earlierReceipt_iff, earlierReceipt_iff]
  rcases Nat.lt_trichotomy a.committedAtEpochMs.toNat b.committedAtEpochMs.toNat with before | same | after
  · exact .inl (.inl (UInt64.lt_iff_toNat_lt.mpr before))
  · rcases String.le_total a.operationId b.operationId with named | named
    · exact .inl (.inr ⟨UInt64.toNat_inj.mp same, named⟩)
    · exact .inr (.inr ⟨(UInt64.toNat_inj.mp same).symm, named⟩)
  · exact .inr (.inl (UInt64.lt_iff_toNat_lt.mpr after))

/-- Receipts of one time and one operation are the same where operations are distinct. -/
theorem earlierReceipt_antisymm (distinct : (list.map (·.operationId)).Nodup) {a b : AutofillReceipt} (left : a ∈ list)
    (right : b ∈ list) (first : earlierReceipt a b) (second : earlierReceipt b a) : a = b := by
  rw [earlierReceipt_iff] at first second
  have named : a.operationId = b.operationId := by
    rcases first with first | ⟨_, named⟩
    · rcases second with second | ⟨same, _⟩
      · exact absurd (UInt64.lt_trans first second) (UInt64.lt_irrefl _)
      · exact absurd (same ▸ first) (UInt64.lt_irrefl _)
    · rcases second with second | ⟨_, named'⟩
      · rename_i same
        exact absurd (same ▸ second) (UInt64.lt_irrefl _)
      · exact String.le_antisymm named named'
  exact List.inj_on_of_nodup_map distinct left right named

/-- Sorting receipts of distinct operations does not depend on their order. -/
theorem sorted_unique {other : List AutofillReceipt} (distinct : (list.map (·.operationId)).Nodup)
    (same : other.Perm list) : other.mergeSort earlierReceipt = list.mergeSort earlierReceipt := by
  have sorted (items : List AutofillReceipt) :
      (items.mergeSort earlierReceipt).Pairwise fun a b => earlierReceipt a b = true :=
    List.pairwise_mergeSort earlierReceipt_trans earlierReceipt_total items
  refine List.Perm.eq_of_pairwise (fun a b left right first second => ?_) (sorted other) (sorted list) ?_
  · rw [(List.mergeSort_perm _ _).mem_iff] at left right
    exact earlierReceipt_antisymm distinct (same.mem_iff.mp left) right first second
  · exact ((List.mergeSort_perm other _).trans same).trans (List.mergeSort_perm list _).symm

/-- The receipts that stay beside the current one. -/
def keptReceipts (receipts : List AutofillReceipt) (nowEpochMs : UInt64) : List AutofillReceipt :=
  ((receipts.filter fun receipt => receipt.committedAtEpochMs ≥ retentionCutoff nowEpochMs).mergeSort laterReceipt).take
    (maxReceipts - 1)

theorem prunedReceipts_perm (receipts : List AutofillReceipt) (current : AutofillReceipt) (now : UInt64) :
    (prunedReceipts receipts current now).Perm (current :: keptReceipts receipts now) :=
  (List.mergeSort_perm _ _).trans (List.perm_append_singleton current _)

theorem keptReceipts_sub {receipts : List AutofillReceipt} {now : UInt64} {receipt : AutofillReceipt}
    (member : receipt ∈ keptReceipts receipts now) :
    receipt ∈ receipts ∧ receipt.committedAtEpochMs ≥ retentionCutoff now := by
  have inside := List.mem_of_mem_take member
  rw [(List.mergeSort_perm _ _).mem_iff, List.mem_filter, decide_eq_true_eq] at inside
  exact inside

theorem keptReceipts_length (receipts : List AutofillReceipt) (now : UInt64) :
    (keptReceipts receipts now).length ≤ maxReceipts - 1 := List.length_take_le _ _

/-- What was kept is kept again. -/
theorem keptReceipts_again {receipts kept : List AutofillReceipt} {now : UInt64}
    (same : kept.Perm (keptReceipts receipts now)) : (keptReceipts kept now).Perm kept := by
  have recent : kept.filter (fun receipt => receipt.committedAtEpochMs ≥ retentionCutoff now) = kept := by
    rw [List.filter_eq_self]
    intro receipt member
    exact decide_eq_true (keptReceipts_sub (same.mem_iff.mp member)).2
  have few : (kept.mergeSort laterReceipt).length ≤ maxReceipts - 1 := by
    rw [List.length_mergeSort, same.length_eq]
    exact keptReceipts_length receipts now
  unfold keptReceipts
  rw [recent, List.take_of_length_le few]
  exact List.mergeSort_perm kept _

theorem distinct_of_perm {other : List AutofillReceipt} (same : other.Perm list)
    (distinct : (list.map (·.operationId)).Nodup) : (other.map (·.operationId)).Nodup :=
  (same.map _).nodup_iff.mpr distinct

/-- The receipts of a ledger are of distinct operations. -/
theorem prunedReceipts_distinct {receipts : List AutofillReceipt} {current : AutofillReceipt} {now : UInt64}
    (distinct : ((current :: receipts).map (·.operationId)).Nodup) :
    ((prunedReceipts receipts current now).map (·.operationId)).Nodup := by
  apply distinct_of_perm (prunedReceipts_perm receipts current now)
  rw [List.map_cons, List.nodup_cons] at distinct ⊢
  constructor
  · rw [List.mem_map]
    rintro ⟨receipt, member, named⟩
    exact distinct.1 (List.mem_map.mpr ⟨receipt, (keptReceipts_sub member).1, named⟩)
  · have recent : (receipts.filter fun receipt => receipt.committedAtEpochMs ≥ retentionCutoff now).map (·.operationId) |>.Nodup :=
      (List.filter_sublist.map _).nodup distinct.2
    have sorted := distinct_of_perm (List.mergeSort_perm _ laterReceipt) recent
    exact ((List.take_sublist _ _).map _).nodup sorted

/-- Pruning a ledger again at the same time gives the same ledger. -/
theorem prunedReceipts_again {receipts other : List AutofillReceipt} {current : AutofillReceipt} {now : UInt64}
    (distinct : ((current :: receipts).map (·.operationId)).Nodup)
    (same : (current :: other).Perm (prunedReceipts receipts current now)) :
    prunedReceipts other current now = prunedReceipts receipts current now := by
  have rest : other.Perm (keptReceipts receipts now) :=
    (same.trans (prunedReceipts_perm receipts current now)).cons_inv
  have again := (keptReceipts_again rest).trans rest
  have distinctKept : ((keptReceipts receipts now ++ [current]).map (·.operationId)).Nodup := by
    apply distinct_of_perm (List.mergeSort_perm _ earlierReceipt).symm
    exact prunedReceipts_distinct distinct
  exact sorted_unique distinctKept (again.append_right [current])

end Pruning

/-! ## Reconciling twice -/

section Reconciling

variable {values : BTreeMap String String} {blocks : List CustomDataBlock} {key : String} {stamp : Option Int}

theorem lastModified_append (blocks : List CustomDataBlock) (items : List CustomDataItem) (key : String) :
    (lastModifiedByKey (appendItems blocks items))[key]? =
      (BTreeMap.lastWins (items.map fun item => (item.key, item.lastModified)))[key]?.or (lastModifiedByKey blocks)[key]? := by
  rw [lastModifiedByKey, appendItems_items, List.map_append, BTreeMap.lastWins_lookup_append]
  rfl

theorem writeItem_stamp {item : CustomDataItem} (known : item.key ∈ values) :
    (writeItem values (some (item.key, stamp)) item).lastModified = stamp := by
  obtain ⟨value, held⟩ := (BTreeMap.mem_iff_lookup ..).mp known
  simp [writeItem, held]

/-- The item of the updated key gets the stamp. -/
theorem reconcile_stamp (known : key ∈ values) (opaqueXml : List OpaqueXmlFragment) (nodeOrder : List String) :
    (lastModifiedByKey (reconcileCustomDataBlocks blocks opaqueXml nodeOrder values (some (key, stamp))).1)[key]? =
      some stamp := by
  simp only [reconcileCustomDataBlocks]
  generalize (scanBlocks values blocks).retainedBlocks = retained
  rw [lastModified_append, lastModifiedByKey_lookup, lastItems_update (writeItem_key values _)]
  cases last : (lastItems retained)[key]? with
  | some place =>
      obtain ⟨position, item⟩ := place
      obtain rfl : item.key = key := (lastItems_spec last).1
      have absent : item.key ∉ (missingItems values (some (item.key, stamp)) retained).map (·.key) := by
        simp only [missingItems, List.map_map, List.mem_map, List.mem_filter, Function.comp_apply, Prod.exists, not_exists,
          not_and]
        rintro other value ⟨_, missing⟩ rfl
        rw [Bool.not_eq_true', ← Std.ExtTreeMap.isSome_getElem?_eq_contains, lastPositionByKey_lookup, last] at missing
        cases missing
      rw [(BTreeMap.lastWins_none ..).mpr (by simpa [Function.comp_def] using absent), Option.none_or]
      simp [writeItem_stamp known]
  | none =>
      obtain ⟨value, held⟩ := (BTreeMap.mem_iff_lookup ..).mp known
      have nodup : (((missingItems values (some (key, stamp)) retained).map fun item => (item.key, item.lastModified)).map
          Prod.fst).Nodup := by
        rw [List.map_map, missingItems, List.map_map]
        exact BTreeMap.nodup_filter_keys values _
      have stored : (BTreeMap.lastWins ((missingItems values (some (key, stamp)) retained).map fun item =>
          (item.key, item.lastModified)))[key]? = some stamp := by
        apply BTreeMap.lastWins_of_mem nodup
        simp only [missingItems, List.map_map, List.mem_map, List.mem_filter, Prod.exists]
        refine ⟨key, value, ⟨Std.ExtTreeMap.mem_toList_iff_getElem?_eq_some.mpr held, ?_⟩, by simp [Option.filter_some]⟩
        rw [Bool.not_eq_true', ← Std.ExtTreeMap.isSome_getElem?_eq_contains, lastPositionByKey_lookup, last]
        rfl
      rw [stored, Option.some_or]

/-- Reconciling again changes nothing. -/
theorem reconcile_again (known : key ∈ values) (opaqueXml : List OpaqueXmlFragment) (nodeOrder : List String) :
    let first := reconcileCustomDataBlocks blocks opaqueXml nodeOrder values (some (key, stamp))
    reconcileCustomDataBlocks first.1 first.2.1 first.2.2 values (some (key, stamp)) = first := by
  intro first
  have faithful : FaithfulBlocks values first.1 := reconcile_faithful blocks opaqueXml nodeOrder values _
  have stamped : (lastModifiedByKey first.1)[key]? = some stamp := reconcile_stamp known opaqueXml nodeOrder
  have writes : updateLastItems (writeItem values (some (key, stamp))) first.1 = first.1 := by
    apply updateLastItems_self
    intro item last
    by_cases here : key = item.key
    · have stamp' := last.lastModified
      rw [← here, stamped, Option.join_some] at stamp'
      simp [writeItem, faithful.value_eq last, here, stamp']
    · simp [writeItem, faithful.value_eq last, here]
  have missing : missingItems values (some (key, stamp)) first.1 = [] := by
    have plain := faithful.missingItems_eq
    rw [missingItems, List.map_eq_nil_iff] at plain ⊢
    exact plain
  simp only [reconcileCustomDataBlocks, scanBlocks_kept faithful.known, writes, missing, retarget_keptAnchors,
    retainCustomDataSlots_all]
  simp [appendItems]

end Reconciling

/-! ## Writing -/

def Vault.withLedger (vault : Vault) (json : String) : Vault :=
  vault.writeCustomData (vault.metaCustomData.insert autofillReceiptKey json) (some (autofillReceiptKey, none))

section Writing

variable {services : AutofillServices} {vault candidate : Vault} {list : List AutofillReceipt} {json : String}

@[simp] theorem withLedger_root (vault : Vault) (json : String) : (vault.withLedger json).root = vault.root := rfl

@[simp] theorem withLedger_deletedObjects (vault : Vault) (json : String) :
    (vault.withLedger json).deletedObjects = vault.deletedObjects := rfl

@[simp] theorem withLedger_metaCustomData (vault : Vault) (json : String) :
    (vault.withLedger json).metaCustomData = vault.metaCustomData.insert autofillReceiptKey json := rfl

theorem withLedger_again (vault : Vault) (json : String) : (vault.withLedger json).withLedger json = vault.withLedger json := by
  have values : (vault.metaCustomData.insert autofillReceiptKey json).insert autofillReceiptKey json =
      vault.metaCustomData.insert autofillReceiptKey json := BTreeMap.insert_same (by simp)
  have known : autofillReceiptKey ∈ vault.metaCustomData.insert autofillReceiptKey json := by simp
  have again := @reconcile_again _ vault.metaCustomDataBlocks _ none known vault.metaOpaqueXml
    vault.metaRawState.nodeOrder
  dsimp only at again
  unfold Vault.withLedger Vault.writeCustomData
  dsimp only
  rw [values, again]

theorem writeLedger_ok : writeLedger services list candidate = .ok vault ↔
    ∃ json, services.printLedger { version := receiptVersion, receipts := list } = some json ∧
      json.utf8ByteSize ≤ maxLedgerBytes ∧ checkCustomDataItem autofillReceiptKey json = .ok () ∧
      vault = candidate.withLedger json := by
  unfold writeLedger
  cases printed : services.printLedger { version := receiptVersion, receipts := list } with
  | none => simp
  | some json =>
      simp only [requireLedger, Option.some.injEq, exists_eq_left']
      by_cases small : json.utf8ByteSize ≤ maxLedgerBytes
      · simp only [small, decide_true, if_true, Fallible.ok_bind, true_and]
        unfold autofillMutation upsertVaultCustomData
        rw [Attempt.bind_run]
        cases checked : checkCustomDataItem autofillReceiptKey json with
        | error e => simp
        | ok _ =>
            simp only [Attempt.lift_ok, Attempt.write_run, Except.ok.injEq, true_and]
            exact eq_comm
      · simp [small, Fallible.bind_ok]

/-- What is printed is parsed. -/
structure LedgerLaw (services : AutofillServices) : Prop where
  readsBack : ∀ ledger json, services.printLedger ledger = some json → services.parseLedger json = some ledger

theorem readLedger_written (law : LedgerLaw services)
    (printed : services.printLedger { version := receiptVersion, receipts := list } = some json)
    (small : json.utf8ByteSize ≤ maxLedgerBytes) (few : list.length ≤ maxReceipts)
    (valid : ∀ receipt ∈ list, validateReceipt receipt = .ok ()) :
    readLedger services (candidate.withLedger json) = .ok { version := receiptVersion, receipts := list } := by
  have held : (candidate.withLedger json).metaCustomData[autofillReceiptKey]? = some json := by simp
  have checked : list.forM validateReceipt = .ok () := Fallible.forM_ok.mpr valid
  unfold readLedger
  rw [held]
  simp only [requireLedger, small, decide_true, if_true, Fallible.ok_bind, law.readsBack _ _ printed, few,
    Bool.and_self, checked]
  rfl

/-- A ledger that was pruned around the current receipt and written. -/
structure WrittenLedger (services : AutofillServices) (receipts : Receipts) (current : AutofillReceipt)
    (others : List AutofillReceipt) (now : UInt64) (json : String) : Prop where
  held : receipts[current.operationId]? = some current
  split : (current :: others).Perm (receiptList receipts)
  printed : services.printLedger { version := receiptVersion, receipts := prunedReceipts others current now } = some json
  small : json.utf8ByteSize ≤ maxLedgerBytes
  checked : checkCustomDataItem autofillReceiptKey json = .ok ()

variable {receipts : Receipts} {current : AutofillReceipt} {others : List AutofillReceipt} {now : UInt64}
  {operationId : String}

/-- The current receipt in a list of receipts. -/
theorem findIdx_current (distinct : (list.map (·.operationId)).Nodup) (member : current ∈ list) :
    ∃ index, list.findIdx? (fun receipt => receipt.operationId = current.operationId) = some index ∧
      list[index]? = some current := by
  have some_ : (list.findIdx? fun receipt => receipt.operationId = current.operationId).isSome := by
    rw [List.findIdx?_isSome, List.any_eq_true]
    exact ⟨current, member, decide_eq_true rfl⟩
  obtain ⟨index, found⟩ := Option.isSome_iff_exists.mp some_
  obtain ⟨inside, named, _⟩ := List.findIdx?_eq_some_iff_getElem.mp found
  refine ⟨index, found, ?_⟩
  rw [List.getElem?_eq_getElem inside]
  congr 1
  exact List.inj_on_of_nodup_map distinct (List.getElem_mem inside) member (of_decide_eq_true named)

theorem writePrunedLedger_ok (known : KnownReceipts receipts)
    (written : writePrunedLedger services candidate (receiptList receipts) operationId now = .ok vault) :
    ∃ current others json, current.operationId = operationId ∧ WrittenLedger services receipts current others now json ∧
      vault = candidate.withLedger json := by
  unfold writePrunedLedger at written
  cases found : (receiptList receipts).findIdx? fun receipt => receipt.operationId = operationId with
  | none => simp [found] at written
  | some index =>
      obtain ⟨inside, named, _⟩ := List.findIdx?_eq_some_iff_getElem.mp found
      have here := List.getElem?_eq_getElem inside
      simp only [found, here] at written
      obtain ⟨json, printed, small, checked, rfl⟩ := writeLedger_ok.mp written
      refine ⟨_, _, json, of_decide_eq_true named, ⟨?_, swapRemove_perm here, printed, small, checked⟩, rfl⟩
      exact known.mem_list.mp (List.getElem_mem inside)

theorem WrittenLedger.distinct (known : KnownReceipts receipts)
    (written : WrittenLedger services receipts current others now json) :
    ((current :: others).map (·.operationId)).Nodup := distinct_of_perm written.split known.distinct

/-- A written ledger reads back as receipts that hold the current one. -/
theorem WrittenLedger.reads (law : LedgerLaw services) (known : KnownReceipts receipts)
    (written : WrittenLedger services receipts current others now json) (candidate : Vault) :
    ∃ receipts', readReceipts services (candidate.withLedger json) = .ok receipts' ∧ KnownReceipts receipts' ∧
      receipts'[current.operationId]? = some current ∧
      (receiptList receipts').Perm (prunedReceipts others current now) := by
  have perm := prunedReceipts_perm others current now
  have member {receipt : AutofillReceipt} (inside : receipt ∈ prunedReceipts others current now) :
      receipt ∈ receiptList receipts := by
    apply written.split.mem_iff.mp
    rcases List.mem_cons.mp (perm.mem_iff.mp inside) with rfl | kept
    · exact List.mem_cons_self
    · exact List.mem_cons_of_mem current (keptReceipts_sub kept).1
  have few : (prunedReceipts others current now).length ≤ maxReceipts := by
    have kept := keptReceipts_length others now
    rw [perm.length_eq, List.length_cons]
    unfold maxReceipts at kept ⊢
    omega
  have distinct : ((prunedReceipts others current now).map (·.operationId)).Nodup :=
    prunedReceipts_distinct (written.distinct known)
  have read : readLedger services (candidate.withLedger json) = _ := readLedger_written law written.printed
    written.small few fun receipt inside => known.valid _ receipt (known.mem_list.mp (member inside))
  have empty : ∀ receipt ∈ prunedReceipts others current now, (∅ : Receipts)[receipt.operationId]? = none := by simp
  obtain ⟨receipts', inserted, lookups⟩ := insertReceipts_distinct distinct empty
  have read' : readReceipts services (candidate.withLedger json) = .ok receipts' := by
    unfold readReceipts
    rw [read]
    exact inserted
  have known' := readReceipts_known read'
  refine ⟨receipts', read', known', ?_, ?_⟩
  · rw [lookups]
    exact .inr ⟨perm.mem_iff.mpr List.mem_cons_self, rfl⟩
  · rw [List.perm_ext_iff_of_nodup (.of_map _ known'.distinct) (.of_map _ distinct)]
    intro receipt
    rw [known'.mem_list, lookups]
    simp

/-- Writing the receipts that a ledger reads back as changes nothing. -/
theorem WrittenLedger.again (known : KnownReceipts receipts)
    (written : WrittenLedger services receipts current others now json) {receipts' : Receipts}
    (known' : KnownReceipts receipts') (held : receipts'[current.operationId]? = some current)
    (perm : (receiptList receipts').Perm (prunedReceipts others current now)) (candidate : Vault) :
    writePrunedLedger services (candidate.withLedger json) (receiptList receipts') current.operationId now =
      .ok (candidate.withLedger json) := by
  obtain ⟨index, found, here⟩ := findIdx_current known'.distinct (known'.mem_list.mpr held)
  have pruned : prunedReceipts (swapRemove (receiptList receipts') index) current now = prunedReceipts others current now :=
    prunedReceipts_again (written.distinct known) ((swapRemove_perm here).trans perm)
  unfold writePrunedLedger
  simp only [found, here, pruned]
  exact writeLedger_ok.mpr ⟨json, written.printed, written.small, written.checked, (withLedger_again candidate json).symm⟩

end Writing

end VaultKern
