import VaultKern.Outcome.Conflicts

/-! # The merged CustomData of a scope

The merged units as a map, and the blocks written from them. Neither depends on the
merge state.
-/

namespace VaultKern

open ThreeWay

def mergedCustomDataUnit (base local' remote : Option CustomDataUnit) (preferLocal : Bool) :
    Option CustomDataUnit :=
  (pick (base.map (·.value)) (local'.map (·.value)) (remote.map (·.value)) preferLocal).map fun value =>
    { value, lastModified := mergedLastModified base local' remote value }

theorem mergeCustomDataUnit_fst (base local' remote : Option CustomDataUnit) (preferLocal : Bool)
    (state : FieldMerge) : (mergeCustomDataUnit base local' remote preferLocal state).1 =
      mergedCustomDataUnit base local' remote preferLocal := rfl

theorem mergeCustomDataKeys_fst (base local' remote : BTreeMap String CustomDataUnit) (preferLocal : Bool)
    (keys : List String) (merged : BTreeMap String CustomDataUnit) (state : FieldMerge) :
    (mergeCustomDataKeys base local' remote preferLocal keys merged state).1 =
      BTreeMap.collectFrom
        (fun key => mergedCustomDataUnit base[key]? local'[key]? remote[key]? preferLocal) keys merged := by
  induction keys generalizing merged state with
  | nil => rfl
  | cons key keys ih =>
      simp only [mergeCustomDataKeys, MergeM.bind_apply, mergeCustomDataUnit_fst, ih,
        BTreeMap.collectFrom, List.foldl_cons]
      cases mergedCustomDataUnit base[key]? local'[key]? remote[key]? preferLocal <;> rfl

section Scope

variable (base : BTreeMap String String) (baseBlocks : List CustomDataBlock)
  (local' : BTreeMap String String) (localBlocks : List CustomDataBlock)
  (remote : BTreeMap String String) (remoteBlocks : List CustomDataBlock) (preferLocal : Bool)

def mergedCustomDataUnits : BTreeMap String CustomDataUnit :=
  let baseUnits := customDataUnits base baseBlocks
  let localUnits := customDataUnits local' localBlocks
  let remoteUnits := customDataUnits remote remoteBlocks
  BTreeMap.collect (BTreeMap.unionKeys3 baseUnits localUnits remoteUnits) fun key =>
    mergedCustomDataUnit baseUnits[key]? localUnits[key]? remoteUnits[key]? preferLocal

theorem mergedCustomDataUnits_lookup (key : String) :
    (mergedCustomDataUnits base baseBlocks local' localBlocks remote remoteBlocks preferLocal)[key]? =
      mergedCustomDataUnit (customDataUnits base baseBlocks)[key]? (customDataUnits local' localBlocks)[key]?
        (customDataUnits remote remoteBlocks)[key]? preferLocal := by
  refine BTreeMap.collect_lookup_of_support (fun k outside => ?_) key
  obtain ⟨b, l, r⟩ := pick_absent _ _ _ outside
  simp [b, l, r, mergedCustomDataUnit, pick]

/-- The blocks that the merged values are reconciled with. -/
def customDataStart : List CustomDataBlock :=
  if localBlocks ≠ baseBlocks && remoteBlocks = baseBlocks
      && !customDataBlocksAreReplayable base baseBlocks local' localBlocks then localBlocks
  else remoteBlocks

/-- The result of `mergeCustomDataFields`. -/
def mergedCustomData (opaqueXml : List OpaqueXmlFragment) (nodeOrder : List String) : CustomDataMerge :=
  let units := mergedCustomDataUnits base baseBlocks local' localBlocks remote remoteBlocks preferLocal
  let values := units.map fun _ unit => unit.value
  let start := customDataStart base baseBlocks local' localBlocks remoteBlocks
  let (blocks, opaqueXml, nodeOrder) := reconcileCustomDataBlocks start opaqueXml nodeOrder values none
  { values, blocks := applyCustomDataLastModified blocks units, opaqueXml, nodeOrder }

theorem mergeCustomDataFields_fst (opaqueXml : List OpaqueXmlFragment) (nodeOrder : List String)
    (state : FieldMerge) :
    (mergeCustomDataFields base baseBlocks local' localBlocks remote remoteBlocks preferLocal opaqueXml
      nodeOrder state).1 =
      mergedCustomData base baseBlocks local' localBlocks remote remoteBlocks preferLocal opaqueXml
        nodeOrder := by
  simp only [mergeCustomDataFields, MergeM.bind_apply, mergeCustomDataKeys_fst]
  rfl

/-- The merged values do not depend on the blocks. -/
theorem mergedCustomData_values (opaqueXml : List OpaqueXmlFragment) (nodeOrder : List String) (key : String) :
    (mergedCustomData base baseBlocks local' localBlocks remote remoteBlocks preferLocal opaqueXml
      nodeOrder).values[key]? = pick base[key]? local'[key]? remote[key]? preferLocal := by
  simp only [mergedCustomData, Std.ExtTreeMap.getElem?_map, mergedCustomDataUnits_lookup,
    mergedCustomDataUnit, Option.map_map, customDataUnits_value]
  simp [Function.comp_def]

end Scope

end VaultKern
