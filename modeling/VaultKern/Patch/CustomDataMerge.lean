import VaultKern.Model.CustomData
import VaultKern.Patch.Units

/-! # Merging CustomData

Values merge key by key; stamps take the later one of the sides that have the
merged value. The blocks are those of the remote side, reconciled with the merged
map, unless the local blocks are a layout that only the local side changed and
that cannot be replayed from the base.
-/

namespace VaultKern

structure CustomDataUnit where
  value : String
  lastModified : Option Int
  deriving DecidableEq

/-- The stamp of every key's last item. -/
def lastModifiedByKey (blocks : List CustomDataBlock) : BTreeMap String (Option Int) :=
  BTreeMap.lastWins ((blocks.flatMap (·.items)).map fun item => (item.key, item.lastModified))

def customDataUnits (values : BTreeMap String String) (blocks : List CustomDataBlock) :
    BTreeMap String CustomDataUnit :=
  let lastModified := lastModifiedByKey blocks
  values.map fun key value => { value, lastModified := lastModified[key]?.join }

/-- Stamp an item from its unit, if it has one. -/
def stampItem (units : BTreeMap String CustomDataUnit) (item : CustomDataItem) : CustomDataItem :=
  match units[item.key]? with
  | some unit => { item with lastModified := unit.lastModified }
  | none => item

def applyCustomDataLastModified (blocks : List CustomDataBlock) (units : BTreeMap String CustomDataUnit) :
    List CustomDataBlock :=
  updateLastItems (stampItem units) blocks

/-! ## Replaying local blocks from the base -/

structure Replay where
  expected : List CustomDataBlock
  opaqueXml : List OpaqueXmlFragment := []
  nodeOrder : List String := []
  applied : BTreeMap String String
  added : List String := []

def Replay.reconcile (replay : Replay) (updatedItem : Option (String × Option Int)) : Replay :=
  let (expected, opaqueXml, nodeOrder) := reconcileCustomDataBlocks replay.expected replay.opaqueXml
    replay.nodeOrder replay.applied updatedItem
  { replay with expected, opaqueXml, nodeOrder }

/-- Replay one local item; `none` when an added key is met a second time. -/
def Replay.visit (base local' : BTreeMap String String) (replay : Replay) (item : CustomDataItem) :
    Option Replay :=
  if base.contains item.key || !local'.contains item.key then some replay
  else if replay.added.contains item.key then none
  else
    some (Replay.reconcile
      { replay with
        added := item.key :: replay.added
        applied := replay.applied.insert item.key item.value }
      (some (item.key, item.lastModified)))

def customDataBlocksAreReplayable (base : BTreeMap String String) (baseBlocks : List CustomDataBlock)
    (local' : BTreeMap String String) (localBlocks : List CustomDataBlock) : Bool :=
  let localUnits := customDataUnits local' localBlocks
  let start := Replay.reconcile
    { expected := baseBlocks, applied := local'.filter fun key _ => base.contains key } none
  let start := { start with expected := applyCustomDataLastModified start.expected localUnits }
  match (localBlocks.flatMap (·.items)).foldlM (Replay.visit base local') start with
  | none => false
  | some replay => applyCustomDataLastModified replay.expected localUnits = localBlocks

def ensureCustomDataRebaseRepresentable (base : BTreeMap String String) (baseBlocks : List CustomDataBlock)
    (local' : BTreeMap String String) (localBlocks remoteBlocks : List CustomDataBlock)
    (object : String) (id : Option Uuid) : Except ThreeWayPatchError Unit :=
  if localBlocks = baseBlocks || remoteBlocks = baseBlocks || localBlocks = remoteBlocks
      || customDataBlocksAreReplayable base baseBlocks local' localBlocks then .ok ()
  else .error (.fidelityConflict object id "CustomData fidelity")

/-! ## Merging -/

/-- The stamp of the merged value, from the sides that hold it. -/
def mergedLastModified (base local' remote : Option CustomDataUnit) (value : String) : Option Int :=
  match local'.filter (·.value = value), remote.filter (·.value = value) with
  | some local', some remote => max local'.lastModified remote.lastModified
  | some local', none => local'.lastModified
  | none, some remote => remote.lastModified
  | none, none => (base.filter (·.value = value)).bind (·.lastModified)

def mergeCustomDataUnit (base local' remote : Option CustomDataUnit) (preferLocal : Bool) :
    MergeM (Option CustomDataUnit) := do
  let selected ← mergeValue (base.map (·.value)) (local'.map (·.value)) (remote.map (·.value)) preferLocal
  let merged := selected.map fun value =>
    { value, lastModified := mergedLastModified base local' remote value : CustomDataUnit }
  noteChanged (merged ≠ remote)
  return merged

def mergeCustomDataKeys (base local' remote : BTreeMap String CustomDataUnit) (preferLocal : Bool) :
    List String → BTreeMap String CustomDataUnit → MergeM (BTreeMap String CustomDataUnit)
  | [], merged => pure merged
  | key :: keys, merged => do
      let unit ← mergeCustomDataUnit base[key]? local'[key]? remote[key]? preferLocal
      mergeCustomDataKeys base local' remote preferLocal keys
        (match unit with | some unit => merged.insert key unit | none => merged)

/-- What `merge_custom_data_fields` returns and writes into the merged object. -/
structure CustomDataMerge where
  values : BTreeMap String String
  blocks : List CustomDataBlock
  opaqueXml : List OpaqueXmlFragment
  nodeOrder : List String

def mergeCustomDataFields (base : BTreeMap String String) (baseBlocks : List CustomDataBlock)
    (local' : BTreeMap String String) (localBlocks : List CustomDataBlock)
    (remote : BTreeMap String String) (remoteBlocks : List CustomDataBlock) (preferLocal : Bool)
    (mergedOpaqueXml : List OpaqueXmlFragment) (mergedNodeOrder : List String) :
    MergeM CustomDataMerge := do
  let baseUnits := customDataUnits base baseBlocks
  let localUnits := customDataUnits local' localBlocks
  let remoteUnits := customDataUnits remote remoteBlocks
  let mergedUnits ← mergeCustomDataKeys baseUnits localUnits remoteUnits preferLocal
    (BTreeMap.unionKeys3 baseUnits localUnits remoteUnits) ∅
  let localFidelityOnly := localBlocks ≠ baseBlocks && remoteBlocks = baseBlocks
    && !customDataBlocksAreReplayable base baseBlocks local' localBlocks
  let startBlocks := if localFidelityOnly then localBlocks else remoteBlocks
  let values := mergedUnits.map fun _ unit => unit.value
  let (blocks, opaqueXml, nodeOrder) :=
    reconcileCustomDataBlocks startBlocks mergedOpaqueXml mergedNodeOrder values none
  return { values, blocks := applyCustomDataLastModified blocks mergedUnits, opaqueXml, nodeOrder }

end VaultKern
