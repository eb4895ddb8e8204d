import VaultKern.Outcome.Blocks

/-! # Appended items and reconciled blocks

Reconciling any blocks with a map makes them faithful to it, and stamping their items
keeps them so.
-/

namespace VaultKern

open BTreeMap

/-! ## Appending items -/

section Append

variable {blocks : List CustomDataBlock} {items more : List CustomDataItem}

@[simp] theorem appendItems_nil (blocks : List CustomDataBlock) : appendItems blocks [] = blocks := rfl

theorem appendItems_empty (items : List CustomDataItem) (nonempty : items ≠ []) :
    appendItems [] items = [{ items, after := none }] := by
  cases items with
  | nil => exact absurd rfl nonempty
  | cons _ _ => rfl

theorem appendItems_last (front : List CustomDataBlock) (last : CustomDataBlock) (items : List CustomDataItem) :
    appendItems (front ++ [last]) items = front ++ [{ last with items := last.items ++ items }] := by
  cases items with
  | nil => simp
  | cons item items => simp [appendItems]

theorem appendItems_items (blocks : List CustomDataBlock) (items : List CustomDataItem) :
    (appendItems blocks items).flatMap (·.items) = blocks.flatMap (·.items) ++ items := by
  induction blocks using List.reverseRecOn with
  | append_singleton front last _ => simp [appendItems_last]
  | nil =>
      by_cases empty : items = []
      · simp [empty]
      · simp [appendItems_empty items empty]

theorem mergeCustomDataBlocks_append (blocks : List CustomDataBlock) (items : List CustomDataItem)
    (key : String) : (mergeCustomDataBlocks (appendItems blocks items))[key]? =
      (lastWins (items.map fun item => (item.key, item.value)))[key]?.or (mergeCustomDataBlocks blocks)[key]? := by
  rw [mergeCustomDataBlocks, appendItems_items, List.map_append, lastWins_lookup_append]
  rfl

end Append

/-! ## Reconciled blocks are faithful -/

section Reconcile

variable {values : BTreeMap String String} {blocks : List CustomDataBlock}

/-- The scan keeps the items whose key is known. -/
theorem scanBlocks_items (values : BTreeMap String String) (blocks : List CustomDataBlock) :
    (scanBlocks values blocks).retainedBlocks.flatMap (·.items) =
      (blocks.flatMap (·.items)).filter fun item => values.contains item.key := by
  have loop (scan : BlockScan) : (blocks.foldl (BlockScan.visit values) scan).retainedBlocks.flatMap (·.items) =
      scan.retainedBlocks.flatMap (·.items) ++
        (blocks.flatMap (·.items)).filter fun item => values.contains item.key := by
    induction blocks generalizing scan with
    | nil => simp
    | cons block rest ih =>
        rw [List.foldl_cons, ih, List.flatMap_cons, List.filter_append, ← List.append_assoc]
        congr 1
        simp only [BlockScan.visit]
        split
        · simp
        · rename_i emptied
          simp only [Bool.or_eq_true, not_or, Bool.not_eq_true, Bool.not_eq_false',
            List.isEmpty_iff] at emptied
          simp [emptied.2]
  exact loop {}

theorem lastItems_isSome_items {key : String} :
    (lastItems blocks)[key]?.isSome ↔ key ∈ (blocks.flatMap (·.items)).map (·.key) := by
  rw [lastItems_isSome]
  simp only [List.mem_map, List.mem_flatMap]
  constructor
  · rintro ⟨block, inside, item, here, same⟩
    exact ⟨item, ⟨block, inside, here⟩, same⟩
  · rintro ⟨item, ⟨block, inside, here⟩, same⟩
    exact ⟨block, inside, item, here, same⟩

theorem writeItem_key (values : BTreeMap String String) (updated : Option (String × Option Int))
    (item : CustomDataItem) : (writeItem values updated item).key = item.key := by
  simp only [writeItem]
  split
  · rfl
  · split
    · split <;> rfl
    · rfl

theorem writeItem_value {item : CustomDataItem} {value : String} (known : values[item.key]? = some value)
    (updated : Option (String × Option Int)) : (writeItem values updated item).value = value := by
  simp only [writeItem, known]
  split
  · split <;> rfl
  · rfl

/-- The bindings of a map under the selected keys. -/
theorem lastWins_filter_toList (values : BTreeMap String String) (select : String → Bool) (key : String) :
    (lastWins (values.toList.filter fun binding => select binding.1))[key]? =
      if select key then values[key]? else none := by
  cases selected : select key with
  | false =>
      rw [if_neg (by simp), lastWins_none]
      simp [selected]
  | true =>
      rw [if_pos rfl]
      cases here : values[key]? with
      | some value =>
          refine lastWins_of_mem (BTreeMap.nodup_filter_keys values _) ?_
          rw [List.mem_filter, Std.ExtTreeMap.mem_toList_iff_getElem?_eq_some]
          exact ⟨here, selected⟩
      | none =>
          rw [lastWins_none]
          simp only [List.mem_map, List.mem_filter, Prod.exists, Std.ExtTreeMap.mem_toList_iff_getElem?_eq_some]
          rintro ⟨_, value, ⟨there, _⟩, rfl⟩
          rw [here] at there
          cases there

theorem missingItems_bindings (updated : Option (String × Option Int)) :
    (missingItems values updated blocks).map (fun item => (item.key, item.value)) =
      values.toList.filter fun binding => !(lastPositionByKey blocks).contains binding.1 := by
  rw [missingItems, List.map_map]
  simp [Function.comp_def]

/-- Reconciling makes the blocks say what the map says. -/
theorem reconcile_faithful (blocks : List CustomDataBlock) (opaqueXml : List OpaqueXmlFragment)
    (nodeOrder : List String) (values : BTreeMap String String) (updated : Option (String × Option Int)) :
    FaithfulBlocks values (reconcileCustomDataBlocks blocks opaqueXml nodeOrder values updated).1 := by
  apply Std.ExtTreeMap.ext_getElem?
  intro key
  simp only [reconcileCustomDataBlocks]
  generalize kept : (scanBlocks values blocks).retainedBlocks = retained
  rw [mergeCustomDataBlocks_append, missingItems_bindings,
    lastWins_filter_toList values fun key => !(lastPositionByKey retained).contains key,
    mergeCustomDataBlocks_lookup,
    lastItems_update (writeItem_key values updated), ← Std.ExtTreeMap.isSome_getElem?_eq_contains,
    lastPositionByKey_lookup, Option.isSome_map]
  cases last : (lastItems retained)[key]? with
  | none => simp
  | some place =>
      obtain ⟨position, item⟩ := place
      have same : item.key = key := (lastItems_spec last).1
      have inside : key ∈ (retained.flatMap (·.items)).map (·.key) :=
        lastItems_isSome_items.mp (by rw [last]; rfl)
      rw [← kept, scanBlocks_items, List.mem_map] at inside
      obtain ⟨other, member, sameKey⟩ := inside
      have known := (List.mem_filter.mp member).2
      rw [sameKey, Std.ExtTreeMap.contains_iff_mem, BTreeMap.mem_iff_lookup] at known
      obtain ⟨value, here⟩ := known
      simp [here, writeItem_value (same ▸ here)]

end Reconcile

/-! ## Stamped items -/

theorem stampItem_key (units : BTreeMap String CustomDataUnit) (item : CustomDataItem) :
    (stampItem units item).key = item.key := by
  simp only [stampItem]
  split <;> rfl

theorem stampItem_value (units : BTreeMap String CustomDataUnit) (item : CustomDataItem) :
    (stampItem units item).value = item.value := by
  simp only [stampItem]
  split <;> rfl

theorem FaithfulBlocks.stamped {values : BTreeMap String String} {blocks : List CustomDataBlock}
    (faithful : FaithfulBlocks values blocks) (units : BTreeMap String CustomDataUnit) :
    FaithfulBlocks values (applyCustomDataLastModified blocks units) := by
  apply Std.ExtTreeMap.ext_getElem?
  intro key
  rw [mergeCustomDataBlocks_lookup, applyCustomDataLastModified, lastItems_update (stampItem_key units),
    Option.map_map, ← faithful, mergeCustomDataBlocks_lookup]
  simp [Function.comp_def, stampItem_value]

end VaultKern
