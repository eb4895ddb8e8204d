import VaultKern.Outcome.CustomDataUnits

/-! # Blocks that say what the map says

The blocks of a scope are faithful when their last-wins map is the map of the scope.
Reconciling faithful blocks does nothing, and stamping changes nothing but stamps.
-/

namespace VaultKern

open BTreeMap

/-- The last-wins item map of the blocks is the map of the scope. -/
def FaithfulBlocks (values : BTreeMap String String) (blocks : List CustomDataBlock) : Prop :=
  mergeCustomDataBlocks blocks = values

/-! ## The last item of every key -/

section LastItems

variable {blocks : List CustomDataBlock}

/-- Positions, values and stamps are projections of this map. -/
def lastItems (blocks : List CustomDataBlock) : BTreeMap String ((Nat × Nat) × CustomDataItem) :=
  lastWins ((itemPositions blocks).map fun place => (place.2.key, place))

theorem mem_itemPositions {i j : Nat} {item : CustomDataItem} :
    ((i, j), item) ∈ itemPositions blocks ↔
      ∃ block, blocks[i]? = some block ∧ block.items[j]? = some item := by
  simp only [itemPositions, List.mem_flatMap, List.mem_map, Prod.exists, List.mem_zipIdx_iff_getElem?,
    Prod.mk.injEq]
  constructor
  · rintro ⟨block, _, stands, _, _, here, ⟨rfl, rfl⟩, rfl⟩
    exact ⟨block, stands, here⟩
  · rintro ⟨block, stands, here⟩
    exact ⟨block, i, stands, item, j, here, ⟨rfl, rfl⟩, rfl⟩

/-- Forgetting the positions gives the items in file order. -/
theorem itemPositions_items (blocks : List CustomDataBlock) :
    (itemPositions blocks).map Prod.snd = blocks.flatMap (·.items) := by
  have numbered (start : Nat) : ((blocks.zipIdx start).flatMap fun block =>
      block.1.items.zipIdx.map fun item => ((block.2, item.2), item.1)).map Prod.snd = blocks.flatMap (·.items) := by
    induction blocks generalizing start with
    | nil => rfl
    | cons block rest ih =>
        simp only [List.zipIdx_cons, List.flatMap_cons, List.map_append, ih, List.map_map]
        congr 1
        simp [Function.comp_def, List.zipIdx_map_fst]
  exact numbered 0

theorem lastPositionByKey_lookup (blocks : List CustomDataBlock) (key : String) :
    (lastPositionByKey blocks)[key]? = (lastItems blocks)[key]?.map Prod.fst := by
  rw [lastItems, ← lastWins_map Prod.fst, List.map_map]
  rfl

theorem mergeCustomDataBlocks_lookup (blocks : List CustomDataBlock) (key : String) :
    (mergeCustomDataBlocks blocks)[key]? = (lastItems blocks)[key]?.map fun place => place.2.value := by
  rw [lastItems, ← lastWins_map, List.map_map, mergeCustomDataBlocks, ← itemPositions_items, List.map_map]
  rfl

theorem lastModifiedByKey_lookup (blocks : List CustomDataBlock) (key : String) :
    (lastModifiedByKey blocks)[key]? = (lastItems blocks)[key]?.map fun place => place.2.lastModified := by
  rw [lastItems, ← lastWins_map, List.map_map, lastModifiedByKey, ← itemPositions_items, List.map_map]
  rfl

theorem lastItems_spec {key : String} {i j : Nat} {item : CustomDataItem}
    (last : (lastItems blocks)[key]? = some ((i, j), item)) :
    item.key = key ∧ ∃ block, blocks[i]? = some block ∧ block.items[j]? = some item := by
  obtain ⟨place, member, same⟩ := List.mem_map.mp (mem_of_lastWins last)
  cases same
  exact ⟨rfl, mem_itemPositions.mp member⟩

theorem lastItems_isSome {key : String} :
    (lastItems blocks)[key]?.isSome ↔ ∃ block ∈ blocks, ∃ item ∈ block.items, item.key = key := by
  have keys : ((itemPositions blocks).map fun place => (place.2.key, place)).map Prod.fst =
      (blocks.flatMap (·.items)).map (·.key) := by
    rw [← itemPositions_items, List.map_map, List.map_map]
    rfl
  rw [lastItems, lastWins_isSome, keys]
  simp only [List.mem_map, List.mem_flatMap]
  constructor
  · rintro ⟨item, ⟨block, inside, here⟩, same⟩
    exact ⟨block, inside, item, here, same⟩
  · rintro ⟨block, inside, item, here, same⟩
    exact ⟨item, ⟨block, inside, here⟩, same⟩

end LastItems

/-! ## Updating last items -/

section Update

variable {update : CustomDataItem → CustomDataItem} {blocks : List CustomDataBlock}

/-- The item is the last one of its key. -/
def IsLast (blocks : List CustomDataBlock) (item : CustomDataItem) : Prop :=
  ∃ position, (lastItems blocks)[item.key]? = some (position, item)

/-- Item for item and block for block, everything but the updated last items stays. -/
def UpdatedBlocks (change : CustomDataItem → CustomDataItem → Prop) (old new : List CustomDataBlock) : Prop :=
  List.Forall₂ (fun old new => old.after = new.after ∧ List.Forall₂ change old.items new.items) old new

theorem forall₂_mapIdx {A B : Type} {relation : A → B → Prop} {list : List A} {f : Nat → A → B}
    (holds : ∀ i a, list[i]? = some a → relation a (f i a)) : List.Forall₂ relation list (list.mapIdx f) := by
  rw [List.forall₂_iff_get]
  refine ⟨by simp, ?_⟩
  intro i inside _
  simpa using holds i list[i] (List.getElem?_eq_getElem inside)

theorem updateLastItems_spec :
    UpdatedBlocks (fun old new => new = old ∨ (IsLast blocks old ∧ new = update old)) blocks
      (updateLastItems update blocks) := by
  apply forall₂_mapIdx
  intro i block stands
  refine ⟨rfl, forall₂_mapIdx ?_⟩
  intro j item here
  split
  · rename_i last
    rw [lastPositionByKey_lookup] at last
    obtain ⟨⟨position, item'⟩, found, rfl⟩ := Option.map_eq_some_iff.mp last
    obtain ⟨_, block', stands', here'⟩ := lastItems_spec found
    cases Option.some.inj (stands.symm.trans stands')
    cases Option.some.inj (here.symm.trans here')
    exact .inr ⟨⟨_, found⟩, rfl⟩
  · exact .inl rfl

theorem UpdatedBlocks.eq {old new : List CustomDataBlock} (updated : UpdatedBlocks Eq old new) : old = new := by
  induction updated with
  | nil => rfl
  | @cons a b _ _ same _ ih =>
      obtain ⟨after, items⟩ := same
      rw [List.forall₂_eq_eq_eq] at items
      have block : a = b := by
        cases a
        cases b
        simp_all
      rw [block, ih]

theorem UpdatedBlocks.mono {change change' : CustomDataItem → CustomDataItem → Prop}
    {old new : List CustomDataBlock} (updated : UpdatedBlocks change old new)
    (weaker : ∀ a b, change a b → change' a b) : UpdatedBlocks change' old new :=
  updated.imp fun _ _ ⟨after, items⟩ => ⟨after, items.imp fun a b => weaker a b⟩

/-- An update that fixes every last item does nothing. -/
theorem updateLastItems_self (fixes : ∀ item, IsLast blocks item → update item = item) :
    updateLastItems update blocks = blocks := by
  have updated : UpdatedBlocks Eq blocks (updateLastItems update blocks) := by
    apply updateLastItems_spec.mono
    rintro old new (rfl | ⟨last, rfl⟩)
    · rfl
    · exact (fixes old last).symm
  exact updated.eq.symm

theorem zipIdx_mapIdx {A B : Type} (f : Nat → A → B) (list : List A) :
    (list.mapIdx f).zipIdx = list.zipIdx.map fun place => (f place.2 place.1, place.2) := by
  apply List.ext_getElem?
  intro i
  simp [List.getElem?_zipIdx, List.getElem?_mapIdx, Function.comp_def]

/-- Update a place that is the last one of its key. -/
def updatePlace (update : CustomDataItem → CustomDataItem) (blocks : List CustomDataBlock)
    (place : (Nat × Nat) × CustomDataItem) : (Nat × Nat) × CustomDataItem :=
  if (lastPositionByKey blocks)[place.2.key]? = some place.1 then (place.1, update place.2) else place

theorem itemPositions_update :
    itemPositions (updateLastItems update blocks) = (itemPositions blocks).map (updatePlace update blocks) := by
  simp only [itemPositions, updateLastItems, zipIdx_mapIdx, List.flatMap_map, List.map_flatMap, List.map_map]
  congr 1
  funext block
  congr 1
  funext item
  simp only [Function.comp_apply, updatePlace]
  split <;> rfl

theorem lastItems_update (keeps : ∀ item, (update item).key = item.key) (key : String) :
    (lastItems (updateLastItems update blocks))[key]? =
      (lastItems blocks)[key]?.map fun place => (place.1, update place.2) := by
  have keys : ((itemPositions (updateLastItems update blocks)).map fun place => (place.2.key, place)) =
      ((itemPositions blocks).map fun place => (place.2.key, place)).map fun binding =>
        (binding.1, updatePlace update blocks binding.2) := by
    rw [itemPositions_update, List.map_map, List.map_map]
    congr 1
    funext place
    simp only [Function.comp_apply, updatePlace]
    split <;> simp [keeps]
  rw [lastItems, keys, lastWins_map, ← lastItems]
  cases found : (lastItems blocks)[key]? with
  | none => rfl
  | some place =>
      obtain ⟨position, item⟩ := place
      have same : item.key = key := (lastItems_spec found).1
      have last : (lastPositionByKey blocks)[item.key]? = some position := by
        rw [lastPositionByKey_lookup, same, found]
        rfl
      simp [updatePlace, last]

end Update

/-! ## Stamping -/

section Stamping

variable {units : BTreeMap String CustomDataUnit} {blocks : List CustomDataBlock}

theorem IsLast.lastModified {item : CustomDataItem} (last : IsLast blocks item) :
    (lastModifiedByKey blocks)[item.key]?.join = item.lastModified := by
  obtain ⟨position, found⟩ := last
  rw [lastModifiedByKey_lookup, found]
  rfl

theorem IsLast.value {item : CustomDataItem} (last : IsLast blocks item) :
    (mergeCustomDataBlocks blocks)[item.key]? = some item.value := by
  obtain ⟨position, found⟩ := last
  rw [mergeCustomDataBlocks_lookup, found]
  rfl

end Stamping

/-! ## Reconciling faithful blocks -/

section Reconcile

/-- The anchors of blocks that all stay. -/
def keptAnchors (n : Nat) : List (Option OpaqueXmlAnchor) :=
  (List.range n).map fun i => some { elementName := "CustomData", occurrence := i + 1 }

theorem retarget_keptAnchors (anchor : Option OpaqueXmlAnchor) (n : Nat) :
    retargetCustomDataAnchor anchor (keptAnchors n) = anchor := by
  cases anchor with
  | none => rfl
  | some anchor =>
      obtain ⟨name, occurrence⟩ := anchor
      simp only [retargetCustomDataAnchor]
      split
      · rfl
      · rename_i isCustomData
        split
        · rfl
        · rename_i positive
          by_cases inside : occurrence - 1 < n
          · have number : occurrence - 1 + 1 = occurrence := by omega
            simp [keptAnchors, inside, number, of_not_not isCustomData]
          · simp [keptAnchors, inside]

theorem visit_kept {values : BTreeMap String String} {block : CustomDataBlock} (kept : List CustomDataBlock)
    (known : ∀ item ∈ block.items, item.key ∈ values) :
    BlockScan.visit values ⟨kept, List.replicate kept.length true, keptAnchors kept.length⟩ block =
      ⟨kept ++ [block], List.replicate (kept ++ [block]).length true, keptAnchors (kept ++ [block]).length⟩ := by
  have items : block.items.filter (fun item => values.contains item.key) = block.items :=
    List.filter_eq_self.mpr fun item member => Std.ExtTreeMap.contains_iff_mem.mpr (known item member)
  simp only [BlockScan.visit, items, Bool.or_not_self, if_true, retarget_keptAnchors]
  simp [keptAnchors, List.range_succ, List.replicate_succ']

/-- When every key is known, every block stays. -/
theorem scanBlocks_kept {values : BTreeMap String String} {blocks : List CustomDataBlock}
    (known : ∀ block ∈ blocks, ∀ item ∈ block.items, item.key ∈ values) :
    scanBlocks values blocks = ⟨blocks, List.replicate blocks.length true, keptAnchors blocks.length⟩ := by
  have loop (kept rest : List CustomDataBlock)
      (known : ∀ block ∈ rest, ∀ item ∈ block.items, item.key ∈ values) :
      rest.foldl (BlockScan.visit values) ⟨kept, List.replicate kept.length true, keptAnchors kept.length⟩ =
        ⟨kept ++ rest, List.replicate (kept ++ rest).length true, keptAnchors (kept ++ rest).length⟩ := by
    induction rest generalizing kept with
    | nil => simp
    | cons block rest ih =>
        rw [List.foldl_cons, visit_kept kept (known block List.mem_cons_self),
          ih _ fun block member => known block (List.mem_cons_of_mem _ member)]
        simp
  exact loop [] blocks known

theorem retainCustomDataSlots_all (n seen : Nat) (nodeOrder : List String) :
    retainCustomDataSlots (List.replicate n true) seen nodeOrder = nodeOrder := by
  induction nodeOrder generalizing seen with
  | nil => rfl
  | cons name rest ih =>
      have stays : (List.replicate n true)[seen]?.getD true = true := by
        rw [List.getElem?_replicate]
        split <;> rfl
      simp only [retainCustomDataSlots, stays, ih, if_true]
      split <;> rfl

namespace FaithfulBlocks

variable {values : BTreeMap String String} {blocks : List CustomDataBlock}

theorem known (faithful : FaithfulBlocks values blocks) :
    ∀ block ∈ blocks, ∀ item ∈ block.items, item.key ∈ values := by
  intro block inside item here
  rw [← faithful, ← Std.ExtTreeMap.isSome_getElem?_iff_mem, mergeCustomDataBlocks_lookup, Option.isSome_map,
    lastItems_isSome]
  exact ⟨block, inside, item, here, rfl⟩

theorem value_eq (faithful : FaithfulBlocks values blocks) {item : CustomDataItem} (last : IsLast blocks item) :
    values[item.key]? = some item.value := by
  rw [← faithful, last.value]

theorem missingItems_eq (faithful : FaithfulBlocks values blocks) : missingItems values none blocks = [] := by
  rw [missingItems, List.map_eq_nil_iff, List.filter_eq_nil_iff]
  rintro ⟨key, value⟩ member
  rw [Std.ExtTreeMap.mem_toList_iff_getElem?_eq_some, ← faithful, mergeCustomDataBlocks_lookup] at member
  obtain ⟨place, found, _⟩ := Option.map_eq_some_iff.mp member
  simp [← Std.ExtTreeMap.isSome_getElem?_eq_contains, lastPositionByKey_lookup, found]

end FaithfulBlocks

end Reconcile

end VaultKern
