import VaultKern.Outcome.Replay

/-! # CustomData blocks in step with the map

Reconciling keeps the blocks that keep an item, in their order, and their anchors and slots
follow. Merging makes the blocks say what the merged map says, with the merged stamps.
-/

namespace VaultKern

open BTreeMap

/-! ## What reconciling may do -/

section Spec

variable (target : BTreeMap String String)

/-- The block was empty before, or it keeps an item. -/
def Stays (block : CustomDataBlock) : Bool := block.items.isEmpty || block.items.any fun item => target.contains item.key

/-- Items in a block before and after; `later` are the items of the blocks behind it. Only the
    last item of a key may get another value. -/
inductive KeptItems (later : List CustomDataItem) : List CustomDataItem → List CustomDataItem → Prop
  | nil : KeptItems later [] []
  | gone {item : CustomDataItem} {items items' : List CustomDataItem} (absent : item.key ∉ target)
      (rest : KeptItems later items items') : KeptItems later (item :: items) items'
  | kept {item : CustomDataItem} {items items' : List CustomDataItem} (present : item.key ∈ target)
      (rest : KeptItems later items items') : KeptItems later (item :: items) (item :: items')
  | last {item item' : CustomDataItem} {items items' : List CustomDataItem}
      (only : ∀ other ∈ items ++ later, other.key ≠ item.key) (key : item'.key = item.key)
      (value : target[item.key]? = some item'.value) (rest : KeptItems later items items') :
      KeptItems later (item :: items) (item' :: items')

/-- Blocks before and after, behind the first `index` blocks. One goes away when it had items and lost all
    of them. -/
inductive KeptBlocks (follows : Nat → Option OpaqueXmlAnchor → Option OpaqueXmlAnchor → Prop) :
    Nat → List CustomDataBlock → List CustomDataBlock → Prop
  | nil {index : Nat} : KeptBlocks follows index [] []
  | removed {index : Nat} {block : CustomDataBlock} {blocks blocks' : List CustomDataBlock} (held : block.items ≠ [])
      (lost : ∀ item ∈ block.items, item.key ∉ target) (rest : KeptBlocks follows (index + 1) blocks blocks') :
      KeptBlocks follows index (block :: blocks) blocks'
  | stays {index : Nat} {block block' : CustomDataBlock} {blocks blocks' : List CustomDataBlock}
      (items : KeptItems target (blocks.flatMap (·.items)) block.items block'.items)
      (anchor : follows index block.after block'.after) (rest : KeptBlocks follows (index + 1) blocks blocks') :
      KeptBlocks follows index (block :: blocks) (block' :: blocks')

/-- Where an anchor leads after the removals. -/
inductive AnchorFollows (blocks : List CustomDataBlock) : Option OpaqueXmlAnchor → Option OpaqueXmlAnchor → Prop
  | nowhere : AnchorFollows blocks none none
  | elsewhere {anchor : OpaqueXmlAnchor} (other : anchor.elementName ≠ "CustomData") :
      AnchorFollows blocks (some anchor) (some anchor)
  | beyond {occurrence : Nat} (outside : occurrence = 0 ∨ blocks.length < occurrence) :
      AnchorFollows blocks (some ⟨"CustomData", occurrence⟩) (some ⟨"CustomData", occurrence⟩)
  | stays {index : Nat} {block : CustomDataBlock} (stands : blocks[index]? = some block) (stays : Stays target block = true) :
      AnchorFollows blocks (some ⟨"CustomData", index + 1⟩)
        (some ⟨"CustomData", ((blocks.take index).filter (Stays target)).length + 1⟩)
  | removed {index : Nat} {block : CustomDataBlock} {after : Option OpaqueXmlAnchor}
      (stands : blocks[index]? = some block) (gone : Stays target block = false)
      (predecessor : AnchorFollows blocks block.after after) : AnchorFollows blocks (some ⟨"CustomData", index + 1⟩) after

/-- Where an anchor leads after the removals, when it stands behind the first `known` blocks. At one of
    these it follows the block, or goes where the block's own anchor goes when the block is removed. At any
    other it stays as it is. -/
inductive Retargeted (blocks : List CustomDataBlock) : Nat → Option OpaqueXmlAnchor → Option OpaqueXmlAnchor → Prop
  | nowhere {known : Nat} : Retargeted blocks known none none
  | elsewhere {known : Nat} {anchor : OpaqueXmlAnchor} (other : anchor.elementName ≠ "CustomData") :
      Retargeted blocks known (some anchor) (some anchor)
  | beyond {known occurrence : Nat} (outside : occurrence = 0 ∨ known < occurrence) :
      Retargeted blocks known (some ⟨"CustomData", occurrence⟩) (some ⟨"CustomData", occurrence⟩)
  | stays {known index : Nat} {block : CustomDataBlock} (before : index < known) (stands : blocks[index]? = some block)
      (stays : Stays target block = true) : Retargeted blocks known (some ⟨"CustomData", index + 1⟩)
        (some ⟨"CustomData", ((blocks.take index).filter (Stays target)).length + 1⟩)
  | removed {known index : Nat} {block : CustomDataBlock} {after : Option OpaqueXmlAnchor} (before : index < known)
      (stands : blocks[index]? = some block) (gone : Stays target block = false)
      (predecessor : Retargeted blocks index block.after after) :
      Retargeted blocks known (some ⟨"CustomData", index + 1⟩) after

/-- Blocks, anchors and slots are in step with the target. Items that no block had stand at the end
    of the last block, or in a new block when none is left. A fragment stands behind all blocks. -/
structure Reconciled (follows : Nat → Option OpaqueXmlAnchor → Option OpaqueXmlAnchor → Prop) (blocks : List CustomDataBlock)
    (opaqueXml : List OpaqueXmlFragment) (nodeOrder : List String) (left : List CustomDataBlock)
    (missing : List CustomDataItem)
    (result : List CustomDataBlock × List OpaqueXmlFragment × List String) : Prop where
  values : mergeCustomDataBlocks result.1 = target
  kept : KeptBlocks target follows 0 blocks left
  appended : result.1 = appendItems left missing
  fragments : List.Forall₂ (fun old new : OpaqueXmlFragment =>
    new.xml = old.xml ∧ follows blocks.length old.after new.after) opaqueXml result.2.1
  slots : nodeOrder.count "CustomData" = blocks.length → (left ≠ [] ∨ missing = []) →
    result.2.2.count "CustomData" = result.1.length

end Spec

/-! ## Last items -/

section LastItem

variable {update : CustomDataItem → CustomDataItem}

/-- Update the last item of every key, of the items and those behind them. -/
def updateLastIn (update : CustomDataItem → CustomDataItem) (later : List CustomDataItem) :
    List CustomDataItem → List CustomDataItem
  | [] => []
  | item :: items =>
      (if (items ++ later).any (fun other => other.key = item.key) then item else update item) ::
        updateLastIn update later items

/-- The index of the last item of a key. -/
def lastIndex (start : Nat) (items : List CustomDataItem) (key : String) : Option Nat :=
  (lastWins ((items.zipIdx start).map fun place => (place.1.key, place.2)))[key]?

theorem lastIndex_cons (start : Nat) (item : CustomDataItem) (items : List CustomDataItem) (key : String) :
    lastIndex start (item :: items) key =
      (lastIndex (start + 1) items key).or (if item.key = key then some start else none) := by
  rw [lastIndex, List.zipIdx_cons, List.map_cons, lastWins_lookup_cons, lastIndex]

theorem lastIndex_ge {start index : Nat} {items : List CustomDataItem} {key : String}
    (last : lastIndex start items key = some index) : start ≤ index := by
  obtain ⟨place, member, same⟩ := List.mem_map.mp (mem_of_lastWins last)
  cases same
  exact (List.mem_zipIdx member).1

theorem lastIndex_none {start : Nat} {items : List CustomDataItem} {key : String} :
    lastIndex start items key = none ↔ items.any (fun other => other.key = key) = false := by
  rw [lastIndex, lastWins_none, List.map_map, List.any_eq_false]
  constructor
  · intro absent item member same
    apply absent
    obtain ⟨index, here⟩ := List.mem_iff_getElem?.mp member
    refine List.mem_map.mpr ⟨(item, start + index), ?_, by simpa using same⟩
    rw [List.mk_add_mem_zipIdx_iff_getElem?]
    exact here
  · intro absent member
    obtain ⟨place, here, same⟩ := List.mem_map.mp member
    obtain ⟨-, -, inside⟩ := List.mem_zipIdx here
    exact absurd same (by simpa using absent place.1 (inside ▸ List.getElem_mem _))

theorem lastIndex_isSome (start : Nat) {items : List CustomDataItem} {item : CustomDataItem} (member : item ∈ items) :
    (lastIndex start items item.key).isSome := by
  rw [← Option.ne_none_iff_isSome]
  intro absent
  have none := List.any_eq_false.mp (lastIndex_none.mp absent) item member
  simp at none

/-- An item is updated where neither the items behind it nor later ones have its key. -/
theorem mapIdx_updateLast (later items : List CustomDataItem) (start : Nat) :
    items.mapIdx (fun j item =>
      if later.any (fun other => other.key = item.key) = false ∧ lastIndex start items item.key = some (start + j)
      then update item else item) = updateLastIn update later items := by
  induction items generalizing start with
  | nil => rfl
  | cons item items ih =>
      rw [List.mapIdx_cons, updateLastIn, ← ih (start + 1)]
      congr 1
      · rw [lastIndex_cons, if_pos rfl, Nat.add_zero, List.any_append]
        cases inLater : later.any fun other => other.key = item.key with
        | true => simp
        | false =>
            cases inItems : lastIndex (start + 1) items item.key with
            | none => simp [lastIndex_none.mp inItems]
            | some index =>
                have behind := lastIndex_ge inItems
                have held : items.any (fun other => other.key = item.key) = true := by
                  by_contra absent
                  rw [lastIndex_none.mpr (Bool.eq_false_of_not_eq_true absent)] at inItems
                  cases inItems
                have apart : index ≠ start := by omega
                simp [held, apart]
      · apply List.ext_getElem (by simp)
        intro j inside _
        have bound : j < items.length := by simpa using inside
        obtain ⟨index, last⟩ := Option.isSome_iff_exists.mp (lastIndex_isSome (start + 1) (List.getElem_mem bound))
        have shift : start + (j + 1) = start + 1 + j := by omega
        simp only [List.getElem_mapIdx]
        rw [lastIndex_cons, last, Option.some_or, shift]

theorem lastPositionByKey_cons (block : CustomDataBlock) (rest : List CustomDataBlock) (key : String) :
    (lastPositionByKey (block :: rest))[key]? =
      ((lastPositionByKey rest)[key]?.map fun position => (position.1 + 1, position.2)).or
        ((lastIndex 0 block.items key).map fun index => (0, index)) := by
  have places : itemPositions (block :: rest) = (block.items.zipIdx.map fun place => ((0, place.2), place.1)) ++
      (itemPositions rest).map fun place => ((place.1.1 + 1, place.1.2), place.2) := by
    rw [itemPositions, List.zipIdx_cons, List.flatMap_cons, List.zipIdx_succ, List.flatMap_map, itemPositions,
      List.map_flatMap]
    simp only [List.map_map]
    rfl
  rw [lastPositionByKey, places, List.map_append, lastWins_lookup_append, List.map_map, List.map_map]
  congr 1
  · rw [lastPositionByKey, ← lastWins_map, List.map_map]
    rfl
  · rw [lastIndex, ← lastWins_map, List.map_map]
    rfl

theorem lastPositionByKey_isSome (blocks : List CustomDataBlock) (key : String) :
    (lastPositionByKey blocks)[key]?.isSome = (blocks.flatMap (·.items)).any fun item => item.key = key := by
  rw [lastPositionByKey_lookup, Option.isSome_map, Bool.eq_iff_iff, lastItems_isSome_items, List.mem_map, List.any_eq_true]
  simp only [decide_eq_true_eq]

theorem updateLastItems_cons (block : CustomDataBlock) (rest : List CustomDataBlock) :
    updateLastItems update (block :: rest) =
      { block with items := updateLastIn update (rest.flatMap (·.items)) block.items } :: updateLastItems update rest := by
  rw [updateLastItems, List.mapIdx_cons]
  congr 1
  · congr 1
    rw [← mapIdx_updateLast (rest.flatMap (·.items)) block.items 0]
    apply List.ext_getElem (by simp)
    intro j inside _
    have bound : j < block.items.length := by simpa using inside
    simp only [List.getElem_mapIdx, Nat.zero_add]
    congr 1
    rw [lastPositionByKey_cons, ← lastPositionByKey_isSome]
    cases (lastPositionByKey rest)[block.items[j].key]? <;> simp
  · apply List.ext_getElem (by simp [updateLastItems])
    intro i inside _
    have bound : i < rest.length := by simpa using inside
    simp only [updateLastItems, List.getElem_mapIdx]
    congr 1
    apply List.ext_getElem (by simp)
    intro j here _
    have small : j < rest[i].items.length := by simpa using here
    simp only [List.getElem_mapIdx]
    have held := lastPositionByKey_isSome rest rest[i].items[j].key
    have inside : (rest.flatMap (·.items)).any (fun item => item.key = rest[i].items[j].key) = true := by
      rw [List.any_eq_true]
      exact ⟨_, List.mem_flatMap.mpr ⟨_, List.getElem_mem bound, List.getElem_mem small⟩, by simp⟩
    rw [inside] at held
    obtain ⟨position, last⟩ := Option.isSome_iff_exists.mp held
    congr 1
    rw [lastPositionByKey_cons, last]
    simp [Prod.ext_iff]

end LastItem

/-! ## Items -/

section Reconciling

variable {target : BTreeMap String String} {updated : Option (String × Option Int)} {blocks : List CustomDataBlock}

theorem keptItems (later items : List CustomDataItem) :
    KeptItems target later items (updateLastIn (writeItem target updated)
      (later.filter fun item => target.contains item.key) (items.filter fun item => target.contains item.key)) := by
  induction items with
  | nil => exact .nil
  | cons item items ih =>
      cases present : target.contains item.key with
      | false =>
          rw [List.filter_cons_of_neg (by simp [present])]
          apply KeptItems.gone _ ih
          rw [← Std.ExtTreeMap.contains_iff_mem, present]
          exact Bool.false_ne_true
      | true =>
          have known : item.key ∈ target := Std.ExtTreeMap.contains_iff_mem.mp present
          rw [List.filter_cons_of_pos (by simpa using present), updateLastIn, ← List.filter_append]
          split
          · exact .kept known ih
          · rename_i last
            obtain ⟨value, held⟩ := (BTreeMap.mem_iff_lookup _ _).mp known
            apply KeptItems.last _ (writeItem_key target updated item) _ ih
            · intro other member same
              apply last
              rw [List.any_eq_true]
              exact ⟨other, List.mem_filter.mpr ⟨member, by rw [same, present]⟩, by simp [same]⟩
            · rw [writeItem_value held, held]

theorem stays_eq (block : CustomDataBlock) : Stays target block =
    (block.items.isEmpty || !(block.items.filter fun item => target.contains item.key).isEmpty) := by
  unfold Stays
  congr 1
  rw [Bool.eq_iff_iff]
  simp [List.filter_eq_nil_iff]

theorem getElem?_snoc {A : Type} {list : List A} {last a : A} {index : Nat} (here : (list ++ [last])[index]? = some a) :
    list[index]? = some a ∨ (index = list.length ∧ a = last) := by
  rw [List.getElem?_append] at here
  split at here
  · exact .inl here
  · rename_i outside
    cases offset : index - list.length with
    | zero =>
        rw [offset] at here
        exact .inr ⟨by omega, (Option.some.inj here).symm⟩
    | succ n =>
        rw [offset] at here
        cases here

/-! ## Blocks and anchors -/

/-- A block that stays, with its index, before and after the scan. -/
def KeptBlock (target : BTreeMap String String) (follows : Nat → Option OpaqueXmlAnchor → Option OpaqueXmlAnchor → Prop)
    (old : CustomDataBlock × Nat) (new : CustomDataBlock) : Prop :=
  new.items = old.1.items.filter (fun item => target.contains item.key) ∧ follows old.2 old.1.after new.after

/-- The blocks that stay, with their indices. -/
def stayingBlocks (target : BTreeMap String String) (start : Nat) (blocks : List CustomDataBlock) :
    List (CustomDataBlock × Nat) :=
  (blocks.zipIdx start).filter fun place => Stays target place.1

theorem stayingBlocks_blocks (start : Nat) : (stayingBlocks target start blocks).map Prod.fst = blocks.filter (Stays target) := by
  rw [stayingBlocks, ← List.zipIdx_map_fst start blocks, List.filter_map, List.zipIdx_map_fst]
  rfl

/-- What the scan knows after the first blocks. -/
structure Scanned (target : BTreeMap String String) (blocks done : List CustomDataBlock) (scan : BlockScan) : Prop where
  retained : List.Forall₂ (KeptBlock target (Retargeted target blocks)) (stayingBlocks target 0 done) scan.retainedBlocks
  occurrences : scan.retainedOccurrences = done.map (Stays target)
  replacements : scan.replacementAnchors.length = done.length
  anchors : ∀ (index : Nat) anchor, scan.replacementAnchors[index]? = some anchor → ∀ known, index < known →
    Retargeted target blocks known (some ⟨"CustomData", index + 1⟩) anchor

/-- An anchor is retargeted by what was scanned before it. -/
theorem Scanned.retarget {done : List CustomDataBlock} {scan : BlockScan} (scanned : Scanned target blocks done scan)
    (anchor : Option OpaqueXmlAnchor) :
    Retargeted target blocks done.length anchor (retargetCustomDataAnchor anchor scan.replacementAnchors) := by
  cases anchor with
  | none => exact .nowhere
  | some anchor =>
      obtain ⟨name, occurrence⟩ := anchor
      simp only [retargetCustomDataAnchor]
      split
      · rename_i other
        exact .elsewhere other
      · rename_i same
        obtain rfl : name = "CustomData" := of_not_not same
        split
        · rename_i zero
          exact .beyond (.inl zero)
        · rename_i positive
          have number : occurrence - 1 + 1 = occurrence := by omega
          cases replaced : scan.replacementAnchors[occurrence - 1]? with
          | some after =>
              have inside := (List.getElem?_eq_some_iff.mp replaced).1
              rw [scanned.replacements] at inside
              rw [Option.getD_some, ← number]
              exact scanned.anchors _ _ replaced _ inside
          | none =>
              rw [List.getElem?_eq_none_iff, scanned.replacements] at replaced
              rw [Option.getD_none]
              exact .beyond (.inr (by omega))

/-- Scanning one more block. -/
theorem Scanned.visit {done rest : List CustomDataBlock} {block : CustomDataBlock} {scan : BlockScan}
    (scanned : Scanned target blocks done scan) (split : blocks = done ++ block :: rest) :
    Scanned target blocks (done ++ [block]) (scan.visit target block) := by
  have stands : blocks[done.length]? = some block := by simp [split]
  have prefixed : blocks.take done.length = done := by simp [split]
  have follows := scanned.retarget block.after
  have count := scanned.retained.length_eq
  rw [← List.length_map Prod.fst, stayingBlocks_blocks] at count
  have staying : stayingBlocks target 0 (done ++ [block]) =
      stayingBlocks target 0 done ++ if Stays target block then [(block, done.length)] else [] := by
    rw [stayingBlocks, List.zipIdx_append, List.filter_append, Nat.zero_add]
    congr 1
    split <;> simp_all
  unfold BlockScan.visit
  dsimp only
  rw [← stays_eq]
  split
  · rename_i stays
    constructor
    · rw [staying, if_pos stays]
      exact List.rel_append scanned.retained (.cons ⟨rfl, follows⟩ .nil)
    · rw [scanned.occurrences, List.map_append, List.map_singleton, stays]
    · rw [List.length_append, List.length_append, scanned.replacements]
      rfl
    · intro index anchor here known before
      rcases getElem?_snoc here with old | ⟨rfl, rfl⟩
      · exact scanned.anchors index anchor old known before
      · rw [scanned.replacements] at before ⊢
        have follow : Retargeted target blocks known _ _ := .stays before stands stays
        rwa [prefixed, count] at follow
  · rename_i gone
    constructor
    · rw [staying, if_neg gone, List.append_nil]
      exact scanned.retained
    · rw [scanned.occurrences, List.map_append, List.map_singleton, Bool.eq_false_of_not_eq_true gone]
    · rw [List.length_append, List.length_append, scanned.replacements]
      rfl
    · intro index anchor here known before
      rcases getElem?_snoc here with old | ⟨rfl, rfl⟩
      · exact scanned.anchors index anchor old known before
      · rw [scanned.replacements] at before ⊢
        exact .removed before stands (Bool.eq_false_of_not_eq_true gone) follows

/-- The scan of all blocks. -/
theorem scanBlocks_scanned (target : BTreeMap String String) (blocks : List CustomDataBlock) :
    Scanned target blocks blocks (scanBlocks target blocks) := by
  have loop (rest done : List CustomDataBlock) (scan : BlockScan) (scanned : Scanned target blocks done scan)
      (split : blocks = done ++ rest) : Scanned target blocks blocks (rest.foldl (BlockScan.visit target) scan) := by
    induction rest generalizing done scan with
    | nil =>
        rw [List.append_nil] at split
        rwa [split] at scanned ⊢
    | cons block rest ih =>
        rw [List.foldl_cons]
        apply ih (done ++ [block]) _ (scanned.visit split)
        rw [split, List.append_assoc, List.singleton_append]
  apply loop blocks [] {} _ rfl
  exact ⟨.nil, rfl, rfl, nofun⟩

theorem filter_stays_items (blocks : List CustomDataBlock) :
    (blocks.filter (Stays target)).flatMap (fun block => block.items.filter fun item => target.contains item.key) =
      (blocks.flatMap (·.items)).filter fun item => target.contains item.key := by
  induction blocks with
  | nil => rfl
  | cons block rest ih =>
      rw [List.flatMap_cons, List.filter_append, ← ih]
      cases stays : Stays target block with
      | true => rw [List.filter_cons_of_pos stays, List.flatMap_cons]
      | false =>
          rw [List.filter_cons_of_neg (by simp [stays])]
          rw [stays_eq, Bool.or_eq_false_iff, Bool.not_eq_false', List.isEmpty_iff] at stays
          rw [stays.2, List.nil_append]

section Kept

variable {follows : Nat → Option OpaqueXmlAnchor → Option OpaqueXmlAnchor → Prop}

theorem flatMap_items_eq {old : List (CustomDataBlock × Nat)} {new : List CustomDataBlock}
    (retained : List.Forall₂ (KeptBlock target follows) old new) : new.flatMap (·.items) =
      (old.map Prod.fst).flatMap fun block => block.items.filter fun item => target.contains item.key := by
  induction retained with
  | nil => rfl
  | cons related _ ih => rw [List.flatMap_cons, List.map_cons, List.flatMap_cons, related.1, ih]

/-- Updating what a scan has left keeps items and blocks. -/
theorem keptBlocks_update {start : Nat} {left : List CustomDataBlock}
    (retained : List.Forall₂ (KeptBlock target follows) (stayingBlocks target start blocks) left) :
    KeptBlocks target follows start blocks (updateLastItems (writeItem target updated) left) := by
  induction blocks generalizing left start with
  | nil =>
      cases retained
      exact .nil
  | cons block rest ih =>
      cases stays : Stays target block with
      | false =>
          rw [stayingBlocks, List.zipIdx_cons, List.filter_cons_of_neg (by simp [stays])] at retained
          rw [Stays, Bool.or_eq_false_iff, List.any_eq_false] at stays
          apply KeptBlocks.removed _ _ (ih retained)
          · intro empty
            simp [empty] at stays
          · intro item member
            simpa using stays.2 item member
      | true =>
          rw [stayingBlocks, List.zipIdx_cons, List.filter_cons_of_pos (by simpa using stays)] at retained
          cases retained with
          | @cons _ new _ news related others =>
              have later : news.flatMap (·.items) =
                  (rest.flatMap (·.items)).filter fun item => target.contains item.key := by
                rw [← filter_stays_items, ← stayingBlocks_blocks (start + 1)]
                exact flatMap_items_eq others
              rw [updateLastItems_cons, later, related.1]
              exact .stays (keptItems _ _) related.2 (ih others)

end Kept

/-! ## Slots -/

theorem count_retained (retained : List Bool) (seen : Nat) (nodeOrder : List String)
    (numbered : seen + nodeOrder.count "CustomData" = retained.length) :
    (retainCustomDataSlots retained seen nodeOrder).count "CustomData" = (retained.drop seen).count true := by
  induction nodeOrder generalizing seen with
  | nil =>
      rw [List.count_nil, Nat.add_zero] at numbered
      rw [retainCustomDataSlots, List.count_nil, List.drop_eq_nil_of_le (by omega), List.count_nil]
  | cons name rest ih =>
      unfold retainCustomDataSlots
      by_cases slot : name = "CustomData"
      · rw [slot, List.count_cons_self] at numbered
        have inside : seen < retained.length := by omega
        rw [if_neg (not_not_intro slot), List.drop_eq_getElem_cons inside, List.getElem?_eq_getElem inside, Option.getD_some]
        cases retained[seen] with
        | true => rw [if_pos rfl, slot, List.count_cons_self, List.count_cons_self, ih (seen + 1) (by omega)]
        | false => rw [if_neg Bool.false_ne_true, List.count_cons_of_ne (by decide), ih (seen + 1) (by omega)]
      · rw [List.count_cons_of_ne slot] at numbered
        rw [if_pos slot, List.count_cons_of_ne slot, ih seen numbered]

theorem count_map_true {A : Type} (p : A → Bool) (list : List A) : (list.map p).count true = (list.filter p).length := by
  induction list with
  | nil => rfl
  | cons a rest ih => cases passes : p a <;> simp [passes, ih]

theorem appendItems_length {left : List CustomDataBlock} {items : List CustomDataItem} (fits : left ≠ [] ∨ items = []) :
    (appendItems left items).length = left.length := by
  rcases fits with held | rfl
  · obtain ⟨front, last, rfl⟩ := List.eq_nil_or_concat left |>.resolve_left held
    rw [List.concat_eq_append, appendItems_last, List.length_append, List.length_append]
    rfl
  · rfl

/-- Reconciling keeps blocks, anchors and slots in step. A fragment follows every block that it is anchored at,
    a block every one before itself. -/
theorem reconcileCustomDataBlocks_inStep (blocks : List CustomDataBlock) (opaqueXml : List OpaqueXmlFragment)
    (nodeOrder : List String) (target : BTreeMap String String) (updated : Option (String × Option Int)) :
    ∃ left missing, Reconciled target (Retargeted target blocks) blocks opaqueXml nodeOrder left missing
      (reconcileCustomDataBlocks blocks opaqueXml nodeOrder target updated) := by
  have scanned := scanBlocks_scanned target blocks
  refine ⟨_, missingItems target updated (scanBlocks target blocks).retainedBlocks, ?_,
    keptBlocks_update scanned.retained, rfl, ?_, ?_⟩
  · exact reconcile_faithful blocks opaqueXml nodeOrder target updated
  · apply List.forall₂_map_right_iff.mpr
    apply List.forall₂_same.mpr
    exact fun fragment _ => ⟨rfl, scanned.retarget fragment.after⟩
  · intro slots fits
    have numbered : 0 + nodeOrder.count "CustomData" = (scanBlocks target blocks).retainedOccurrences.length := by
      rw [scanned.occurrences, List.length_map, slots, Nat.zero_add]
    have counted := count_retained _ 0 nodeOrder numbered
    rw [List.drop_zero, scanned.occurrences, count_map_true, ← stayingBlocks_blocks 0, List.length_map,
      scanned.retained.length_eq] at counted
    simp only [reconcileCustomDataBlocks]
    rw [scanned.occurrences, counted, appendItems_length fits]
    simp [updateLastItems]

end Reconciling

/-! ## A block in front of the one that it is anchored at -/

def itemOf (key : String) : CustomDataItem := { key, value := "value", lastModified := none }

/-- The second block is anchored at the third one; the first one goes away. -/
def crossedBlocks : List CustomDataBlock :=
  [{ items := [itemOf "gone"], after := none }, { items := [itemOf "left"], after := some ⟨"CustomData", 3⟩ },
    { items := [itemOf "right"], after := none }]

def crossedTarget : BTreeMap String String := ((∅ : BTreeMap String String).insert "left" "value").insert "right" "value"

/-- The third block is the second one afterwards. -/
theorem crossedBlocks_moved {old new : Option OpaqueXmlAnchor} (follows : AnchorFollows crossedTarget crossedBlocks old new)
    (third : old = some ⟨"CustomData", 3⟩) : new = some ⟨"CustomData", 2⟩ := by
  cases follows with
  | nowhere => cases third
  | elsewhere other =>
      cases third
      exact absurd rfl other
  | beyond outside =>
      cases third
      exact absurd outside (by decide)
  | stays =>
      cases third
      decide +kernel
  | removed stands gone =>
      cases third
      cases stands
      exact absurd gone (by decide +kernel)

/-- The anchor keeps the number that its block had before. -/
theorem crossedBlocks_stale : ¬ ∀ (blocks : List CustomDataBlock) (opaqueXml : List OpaqueXmlFragment)
    (nodeOrder : List String) (target : BTreeMap String String) (updated : Option (String × Option Int)),
    ∃ left missing, Reconciled target (fun _ => AnchorFollows target blocks) blocks opaqueXml nodeOrder left missing
      (reconcileCustomDataBlocks blocks opaqueXml nodeOrder target updated) := by
  intro inStep
  obtain ⟨left, missing, reconciled⟩ := inStep crossedBlocks [] [] crossedTarget none
  have result : (reconcileCustomDataBlocks crossedBlocks [] [] crossedTarget none).1 =
      [{ items := [itemOf "left"], after := some ⟨"CustomData", 3⟩ }, { items := [itemOf "right"], after := none }] := by
    decide +kernel
  have known : ∀ key ∈ ["left", "right"], key ∈ crossedTarget := by decide +kernel
  have appended := reconciled.appended
  rw [result] at appended
  have kept := reconciled.kept
  cases kept with
  | stays _ _ rest =>
      cases rest with
      | removed _ lost => exact lost (itemOf "left") List.mem_cons_self (known _ (by decide))
      | stays _ _ rest =>
          cases rest with
          | removed _ lost => exact lost (itemOf "right") List.mem_cons_self (known _ (by decide))
          | stays _ _ rest =>
              cases rest
              have three := congrArg List.length appended
              rw [appendItems_length (.inl (by simp))] at three
              cases three
  | removed _ _ rest =>
      cases rest with
      | removed _ lost => exact lost (itemOf "left") List.mem_cons_self (known _ (by decide))
      | @stays _ _ left _ _ _ anchor rest =>
          cases rest with
          | removed _ lost => exact lost (itemOf "right") List.mem_cons_self (known _ (by decide))
          | @stays _ _ right _ _ _ _ rest =>
              cases rest
              have same : appendItems [left, right] missing = [left] ++ [{ right with items := right.items ++ missing }] :=
                appendItems_last [left] right missing
              rw [same] at appended
              have moved := crossedBlocks_moved anchor rfl
              rw [← (List.cons.inj appended).1] at moved
              exact absurd moved (by decide)

/-! ## Merging -/

/-- A value that both sides have takes the later stamp. -/
def sharedUnit : Option CustomDataUnit → Option CustomDataUnit → Option CustomDataUnit
  | some ours, some theirs => some { ours with lastModified := max ours.lastModified theirs.lastModified }
  | _, _ => none

/-- The merged value of a key with its stamp, from those of the three sides. -/
inductive UnitThreeWay (preferLocal : Bool) (base local' remote : Option CustomDataUnit) : Option CustomDataUnit → Prop
  | both (same : local'.map (·.value) = remote.map (·.value)) :
      UnitThreeWay preferLocal base local' remote (sharedUnit local' remote)
  | localChanged (kept : remote.map (·.value) = base.map (·.value))
      (changed : local'.map (·.value) ≠ base.map (·.value)) : UnitThreeWay preferLocal base local' remote local'
  | remoteChanged (kept : local'.map (·.value) = base.map (·.value))
      (changed : remote.map (·.value) ≠ base.map (·.value)) : UnitThreeWay preferLocal base local' remote remote
  | conflict (first : local'.map (·.value) ≠ base.map (·.value)) (second : remote.map (·.value) ≠ base.map (·.value))
      (apart : local'.map (·.value) ≠ remote.map (·.value)) :
      UnitThreeWay preferLocal base local' remote (if preferLocal then local' else remote)

section Merging

variable {base local' remote : Option CustomDataUnit} {preferLocal : Bool}

theorem stamped_both (same : local'.map (·.value) = remote.map (·.value)) :
    (remote.map (·.value)).map (fun value =>
      { value, lastModified := mergedLastModified base local' remote value : CustomDataUnit }) = sharedUnit local' remote := by
  cases local' <;> cases remote <;> simp_all [mergedLastModified, sharedUnit, Option.filter]

theorem stamped_local (apart : local'.map (·.value) ≠ remote.map (·.value)) :
    (local'.map (·.value)).map (fun value =>
      { value, lastModified := mergedLastModified base local' remote value : CustomDataUnit }) = local' := by
  cases local' <;> cases remote <;> simp_all [mergedLastModified, Option.filter, eq_comm]

theorem stamped_remote (apart : local'.map (·.value) ≠ remote.map (·.value)) :
    (remote.map (·.value)).map (fun value =>
      { value, lastModified := mergedLastModified base local' remote value : CustomDataUnit }) = remote := by
  cases local' <;> cases remote <;> simp_all [mergedLastModified, Option.filter]

theorem mergedCustomDataUnit_threeWay (base local' remote : Option CustomDataUnit) (preferLocal : Bool) :
    UnitThreeWay preferLocal base local' remote (mergedCustomDataUnit base local' remote preferLocal) := by
  unfold mergedCustomDataUnit ThreeWay.pick
  by_cases same : local'.map (·.value) = remote.map (·.value)
  · have picked : (if local'.map (·.value) = base.map (·.value) then remote.map (·.value)
        else if remote.map (·.value) = base.map (·.value) then local'.map (·.value)
        else if local'.map (·.value) = remote.map (·.value) then remote.map (·.value)
        else if preferLocal then local'.map (·.value) else remote.map (·.value)) = remote.map (·.value) := by
      simp [same]
    rw [picked, stamped_both same]
    exact .both same
  · split
    · rename_i kept
      rw [stamped_remote same]
      exact .remoteChanged kept fun other => same (kept.trans other.symm)
    · rename_i changed
      split
      · rename_i kept
        rw [stamped_local same]
        exact .localChanged kept changed
      · rename_i changed'
        have conflict : UnitThreeWay preferLocal base local' remote _ := .conflict changed changed' same
        cases preferLocal with
        | true => rwa [if_pos rfl, stamped_local same]
        | false => rwa [if_neg Bool.false_ne_true, stamped_remote same]

/-- The blocks that a merge writes have the merged units. -/
theorem mergedCustomData_units (base : BTreeMap String String) (baseBlocks : List CustomDataBlock)
    (local' : BTreeMap String String) (localBlocks : List CustomDataBlock) (remote : BTreeMap String String)
    (remoteBlocks : List CustomDataBlock) (preferLocal : Bool) (opaqueXml : List OpaqueXmlFragment)
    (nodeOrder : List String) :
    let merged := mergedCustomData base baseBlocks local' localBlocks remote remoteBlocks preferLocal opaqueXml nodeOrder
    FaithfulBlocks merged.values merged.blocks ∧ customDataUnits merged.values merged.blocks =
      mergedCustomDataUnits base baseBlocks local' localBlocks remote remoteBlocks preferLocal := by
  unfold mergedCustomData
  dsimp only
  generalize mergedCustomDataUnits base baseBlocks local' localBlocks remote remoteBlocks preferLocal = units
  have faithful := reconcile_faithful (customDataStart base baseBlocks local' localBlocks remoteBlocks) opaqueXml nodeOrder
    (units.map fun _ unit => unit.value) none
  generalize (reconcileCustomDataBlocks (customDataStart base baseBlocks local' localBlocks remoteBlocks) opaqueXml nodeOrder
    (units.map fun _ unit => unit.value) none).1 = blocks at faithful ⊢
  refine ⟨faithful.stamped units, ?_⟩
  apply Std.ExtTreeMap.ext_getElem?
  intro key
  rw [customDataUnits_lookup, Std.ExtTreeMap.getElem?_map, lastModifiedByKey_lookup, applyCustomDataLastModified,
    lastItems_update (stampItem_key units)]
  cases held : units[key]? with
  | none => rfl
  | some unit =>
      have value : (mergeCustomDataBlocks blocks)[key]? = some unit.value := by
        rw [faithful, Std.ExtTreeMap.getElem?_map, held]
        rfl
      rw [mergeCustomDataBlocks_lookup] at value
      obtain ⟨⟨position, item⟩, last, -⟩ := Option.map_eq_some_iff.mp value
      have named : item.key = key := (lastItems_spec last).1
      rw [last]
      simp [stampItem, named, held]

/-- Every key merges three ways, and the blocks hold the merged values with the merged stamps. -/
theorem mergeCustomDataFields_inStep (base : BTreeMap String String) (baseBlocks : List CustomDataBlock)
    (local' : BTreeMap String String) (localBlocks : List CustomDataBlock) (remote : BTreeMap String String)
    (remoteBlocks : List CustomDataBlock) (preferLocal : Bool) (opaqueXml : List OpaqueXmlFragment)
    (nodeOrder : List String) (state : FieldMerge) :
    let merged := (mergeCustomDataFields base baseBlocks local' localBlocks remote remoteBlocks preferLocal opaqueXml
      nodeOrder state).1
    FaithfulBlocks merged.values merged.blocks ∧ ∀ key : String,
      UnitThreeWay preferLocal (customDataUnits base baseBlocks)[key]? (customDataUnits local' localBlocks)[key]?
        (customDataUnits remote remoteBlocks)[key]? (customDataUnits merged.values merged.blocks)[key]? := by
  intro merged
  obtain ⟨faithful, units⟩ := mergedCustomData_units base baseBlocks local' localBlocks remote remoteBlocks preferLocal
    opaqueXml nodeOrder
  have same : merged = mergedCustomData base baseBlocks local' localBlocks remote remoteBlocks preferLocal opaqueXml
      nodeOrder := mergeCustomDataFields_fst ..
  rw [same]
  refine ⟨faithful, fun key => ?_⟩
  rw [units, mergedCustomDataUnits_lookup]
  exact mergedCustomDataUnit_threeWay ..

end Merging

end VaultKern
