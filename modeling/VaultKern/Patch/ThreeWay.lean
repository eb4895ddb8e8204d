import VaultKern.Patch.Merge

/-! # The three-way patch

`threeWayFieldPatch base local' remote` replays the difference between `base` and
`local'` on `remote`. Interning attachment content at the end replaces contents by
equal ones, so it has no counterpart here.
-/

namespace VaultKern

open ThreeWayPatchError

/-! ## The gates -/

def ensureSameRoot (base local' remote : FlatVault) : Except ThreeWayPatchError Unit :=
  if base.rootId ≠ local'.rootId || base.rootId ≠ remote.rootId then .error rootLineageMismatch
  else .ok ()

def firstDuplicate (seen : BTreeSet Uuid) : List Uuid → Option Uuid
  | [] => none
  | id :: rest => if seen.contains id then some id else firstDuplicate (seen.insert id) rest

def ensureUniqueModeledMetaIds (vault : Vault) (side : String) : Except ThreeWayPatchError Unit :=
  match firstDuplicate ∅ (vault.customIcons.map (·.id)) with
  | some id => .error (duplicateCustomIcon side id)
  | none =>
      match firstDuplicate ∅ (vault.deletedObjects.map (·.id)) with
      | some id => .error (duplicateDeletedObject side id)
      | none => .ok ()

def ensureFidelityField {α : Type} [DecidableEq α] (base local' remote : α) (object : String)
    (id : Option Uuid) (field : String) : Except ThreeWayPatchError Unit :=
  if local' ≠ base && remote ≠ base && local' ≠ remote then .error (fidelityConflict object id field)
  else .ok ()

/-- The two checks made in every scope that has CustomData and opaque XML. -/
def ensureEntryFidelity (local' remote : FlatVault) (id : Uuid) (base : FlatEntry) :
    Except ThreeWayPatchError Unit :=
  match local'.entries[id]?, remote.entries[id]? with
  | some localEntry, some remoteEntry => do
      ensureFidelityField base.value.opaqueXml localEntry.value.opaqueXml remoteEntry.value.opaqueXml
        "entry" (some id) "opaque XML"
      ensureCustomDataRebaseRepresentable base.value.customData base.value.customDataBlocks
        localEntry.value.customData localEntry.value.customDataBlocks remoteEntry.value.customDataBlocks
        "entry" (some id)
  | _, _ => .ok ()

def ensureGroupFidelity (local' remote : FlatVault) (id : Uuid) (base : FlatGroup) :
    Except ThreeWayPatchError Unit :=
  match local'.groups[id]?, remote.groups[id]? with
  | some localGroup, some remoteGroup => do
      ensureFidelityField base.value.opaqueXml localGroup.value.opaqueXml remoteGroup.value.opaqueXml
        "group" (some id) "opaque XML"
      ensureCustomDataRebaseRepresentable base.value.customData base.value.customDataBlocks
        localGroup.value.customData localGroup.value.customDataBlocks remoteGroup.value.customDataBlocks
        "group" (some id)
  | _, _ => .ok ()

def ensureMetaFidelity (base local' remote : Vault) : Except ThreeWayPatchError Unit := do
  ensureFidelityField base.metaOpaqueXml local'.metaOpaqueXml remote.metaOpaqueXml
    "meta" none "opaque XML"
  ensureFidelityField base.rootOpaqueXml local'.rootOpaqueXml remote.rootOpaqueXml
    "root" none "opaque XML"
  ensureCustomDataRebaseRepresentable base.metaCustomData base.metaCustomDataBlocks
    local'.metaCustomData local'.metaCustomDataBlocks remote.metaCustomDataBlocks "meta" none

def ensureFidelityConflictsRepresentable (base local' remote : Vault)
    (baseFlat localFlat remoteFlat : FlatVault) : Except ThreeWayPatchError Unit := do
  ensureMetaFidelity base local' remote
  baseFlat.entries.toList.forM fun (id, entry) => ensureEntryFidelity localFlat remoteFlat id entry
  baseFlat.groups.toList.forM fun (id, group) => ensureGroupFidelity localFlat remoteFlat id group

/-! ## The group hierarchy -/

/-- The inner loop of `validate_group_hierarchy`. Every pass visits a group not
    visited before, so two passes more than there are groups are enough. -/
def climbToRoot (rootId : Uuid) (groups : BTreeMap Uuid FlatGroup) (id : Uuid) :
    Nat → BTreeSet Uuid → Uuid → Except ThreeWayPatchError Unit
  | 0, _, current => .error (groupCycle current)
  | fuel + 1, visited, current =>
      if visited.contains current then .error (groupCycle current)
      else match groups[current]? with
        | none => .error (missingParent current)
        | some group =>
            match group.parent with
            | some parent => climbToRoot rootId groups id fuel (visited.insert current) parent
            | none => if current = rootId then .ok () else .error (missingParent id)

def validateGroupHierarchy (rootId : Uuid) (groups : BTreeMap Uuid FlatGroup) :
    Except ThreeWayPatchError Unit :=
  match groups[rootId]? with
  | none => .error (missingParent rootId)
  | some root =>
      if root.parent.isSome then .error rootLineageMismatch
      else groups.keys.forM fun id => climbToRoot rootId groups id (groups.size + 2) ∅ id

/-- Every level of the recursion visits one more group, so it is no deeper than
    there are groups. -/
def rebuildTree (groups : BTreeMap Uuid FlatGroup) (entries : BTreeMap Uuid FlatEntry) :
    Nat → BTreeSet Uuid → Uuid → Except ThreeWayPatchError Group
  | 0, _, id => .error (groupCycle id)
  | fuel + 1, visiting, id =>
      if visiting.contains id then .error (groupCycle id)
      else match groups[id]? with
        | none => .error (missingParent id)
        | some record => do
            let children ← (siblingOrder groups id).mapM
              (rebuildTree groups entries fuel (visiting.insert id))
            let entries := (siblingOrder entries id).filterMap fun entryId =>
              entries[entryId]?.map (·.value)
            return normalizeGroupSlots { record.value with children, entries }

/-! ## The patch -/

structure ThreeWayPatchResult where
  vault : Vault
  report : ThreeWayPatchReport
  requiredHistorySnapshots : List ThreeWayPatchRecoverySnapshot

/-- The vault around the merged tables. -/
def assembleVault (merged : Vault) (groups : BTreeMap Uuid FlatGroup) (entries : BTreeMap Uuid FlatEntry)
    (root : Group) : Vault :=
  { merged with
    deletedObjects := merged.deletedObjects.filter fun deleted =>
      !groups.contains deleted.id && !entries.contains deleted.id
    root }

def threeWayFieldPatch (base local' remote : Vault) : Except ThreeWayPatchError ThreeWayPatchResult := do
  let baseFlat ← flattenVault base "base"
  let localFlat ← flattenVault local' "local"
  let remoteFlat ← flattenVault remote "remote"
  ensureSameRoot baseFlat localFlat remoteFlat
  ensureUniqueModeledMetaIds base "base"
  ensureUniqueModeledMetaIds local' "local"
  ensureUniqueModeledMetaIds remote "remote"
  ensureFidelityConflictsRepresentable base local' remote baseFlat localFlat remoteFlat
  ensureLocalSiblingOrderRepresentable baseFlat localFlat remoteFlat
  let locallyPreserved := changedSubtreesDeletedFromOther baseFlat localFlat remoteFlat
  let remotelyPreserved := changedSubtreesDeletedFromOther baseFlat remoteFlat localFlat
  let (groups, report) ← mergeGroups baseFlat localFlat remoteFlat locallyPreserved remotelyPreserved {}
  let groups ← reconcileGroupSiblingOrders baseFlat localFlat remoteFlat groups
  validateGroupHierarchy baseFlat.rootId groups
  let (entries, log) ← mergeEntries baseFlat localFlat remoteFlat groups locallyPreserved
    remotelyPreserved { report }
  let entries ← reconcileEntrySiblingOrders baseFlat localFlat remoteFlat entries
  let root ← rebuildTree groups entries (groups.size + 1) ∅ baseFlat.rootId
  let merged ← mergeMeta base local' remote
  return { vault := assembleVault merged groups entries root
           report := log.report
           requiredHistorySnapshots := log.requiredHistorySnapshots }

end VaultKern
