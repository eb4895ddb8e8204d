import VaultKern.Lib.LastWins
import VaultKern.Model.Types

/-! # CustomData blocks

A scope keeps its CustomData twice: the semantic map, and the `CustomData`
elements of the file with their items, order and anchors. After a mutation of
the map, `reconcileCustomDataBlocks` drops the items whose key is gone, writes
the value of every key at its last item, and appends keys without an item.
-/

namespace VaultKern

/-! ## Reading blocks -/

/-- Every item with its block and item index, in file order. -/
def itemPositions (blocks : List CustomDataBlock) : List ((Nat × Nat) × CustomDataItem) :=
  blocks.zipIdx.flatMap fun (block, i) => block.items.zipIdx.map fun (item, j) => ((i, j), item)

def lastPositionByKey (blocks : List CustomDataBlock) : BTreeMap String (Nat × Nat) :=
  BTreeMap.lastWins ((itemPositions blocks).map fun (position, item) => (item.key, position))

/-- The last-wins item map of a list of blocks. -/
def mergeCustomDataBlocks (blocks : List CustomDataBlock) : BTreeMap String String :=
  BTreeMap.lastWins ((blocks.flatMap (·.items)).map fun item => (item.key, item.value))

/-! ## Reconciling blocks with the map -/

def retargetCustomDataAnchor (anchor : Option OpaqueXmlAnchor)
    (replacementAnchors : List (Option OpaqueXmlAnchor)) : Option OpaqueXmlAnchor :=
  match anchor with
  | none => none
  | some anchor =>
      if anchor.elementName ≠ "CustomData" then some anchor
      else if anchor.occurrence = 0 then some anchor
      else replacementAnchors[anchor.occurrence - 1]?.getD (some anchor)

structure BlockScan where
  retainedBlocks : List CustomDataBlock := []
  retainedOccurrences : List Bool := []
  replacementAnchors : List (Option OpaqueXmlAnchor) := []

/-- One block of the first loop. A block that the removals emptied goes away; one
    that was empty already stays. -/
def BlockScan.visit (merged : BTreeMap String String) (scan : BlockScan) (block : CustomDataBlock) :
    BlockScan :=
  let items := block.items.filter fun item => merged.contains item.key
  let retargetedAfter := retargetCustomDataAnchor block.after scan.replacementAnchors
  if block.items.isEmpty || !items.isEmpty then
    { retainedBlocks := scan.retainedBlocks ++ [{ items, after := retargetedAfter }]
      retainedOccurrences := scan.retainedOccurrences ++ [true]
      replacementAnchors := scan.replacementAnchors ++
        [some { elementName := "CustomData", occurrence := scan.retainedBlocks.length + 1 }] }
  else
    { scan with
      retainedOccurrences := scan.retainedOccurrences ++ [false]
      replacementAnchors := scan.replacementAnchors ++ [retargetedAfter] }

def scanBlocks (merged : BTreeMap String String) (blocks : List CustomDataBlock) : BlockScan :=
  blocks.foldl (BlockScan.visit merged) {}

/-- Drop the `CustomData` slots of removed blocks; `seen` counts the slots passed. -/
def retainCustomDataSlots (retained : List Bool) (seen : Nat) : List String → List String
  | [] => []
  | name :: rest =>
      if name ≠ "CustomData" then name :: retainCustomDataSlots retained seen rest
      else if retained[seen]?.getD true then name :: retainCustomDataSlots retained (seen + 1) rest
      else retainCustomDataSlots retained (seen + 1) rest

/-- Apply `update` to the last item of every key. -/
def updateLastItems (update : CustomDataItem → CustomDataItem) (blocks : List CustomDataBlock) :
    List CustomDataBlock :=
  let positions := lastPositionByKey blocks
  blocks.mapIdx fun i block =>
    { block with
      items := block.items.mapIdx fun j item =>
        if positions[item.key]? = some (i, j) then update item else item }

/-- The map's value, and the stamp when this key is the updated one. -/
def writeItem (merged : BTreeMap String String) (updatedItem : Option (String × Option Int))
    (item : CustomDataItem) : CustomDataItem :=
  match merged[item.key]? with
  | none => item
  | some value =>
      match updatedItem with
      | some (key, stamp) =>
          if key = item.key then { item with value, lastModified := stamp } else { item with value }
      | none => { item with value }

def missingItems (merged : BTreeMap String String) (updatedItem : Option (String × Option Int))
    (blocks : List CustomDataBlock) : List CustomDataItem :=
  let positions := lastPositionByKey blocks
  (merged.toList.filter fun (key, _) => !positions.contains key).map fun (key, value) =>
    { key, value
      lastModified := (updatedItem.filter (·.1 = key)).bind (·.2) }

def appendItems (blocks : List CustomDataBlock) (items : List CustomDataItem) : List CustomDataBlock :=
  if items.isEmpty then blocks
  else match blocks.getLast? with
    | some last => blocks.dropLast ++ [{ last with items := last.items ++ items }]
    | none => [{ items, after := none }]

def reconcileCustomDataBlocks (blocks : List CustomDataBlock) (opaqueXml : List OpaqueXmlFragment)
    (nodeOrder : List String) (merged : BTreeMap String String)
    (updatedItem : Option (String × Option Int)) :
    List CustomDataBlock × List OpaqueXmlFragment × List String :=
  let scan := scanBlocks merged blocks
  let retained := scan.retainedBlocks
  (appendItems (updateLastItems (writeItem merged updatedItem) retained)
      (missingItems merged updatedItem retained),
    opaqueXml.map fun fragment =>
      { fragment with after := retargetCustomDataAnchor fragment.after scan.replacementAnchors },
    retainCustomDataSlots scan.retainedOccurrences 0 nodeOrder)

end VaultKern
