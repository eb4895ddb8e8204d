import VaultKern.Patch.MergeGroup

/-! # Merging the vault's own fields

Tombstones and icons are merged by id, everything else field by field. As for
groups, a conflict in a meta field makes the merge fail.
-/

namespace VaultKern

/-! ## Tombstones -/

def deletedObjectMap (items : List DeletedObject) : BTreeMap Uuid DeletedObject :=
  BTreeMap.lastWins (items.map fun item => (item.id, item))

def mergeDeletedObject (base local' remote : Option DeletedObject) : Option DeletedObject :=
  let preferLocal := decide
    ((local'.map (·.deletedAt)).getD i64Min > (remote.map (·.deletedAt)).getD i64Min)
  (mergeValue base local' remote preferLocal).result.1

def mergeDeletedObjects (base local' remote : List DeletedObject) : List DeletedObject :=
  let base := deletedObjectMap base
  let local' := deletedObjectMap local'
  let remote := deletedObjectMap remote
  (BTreeMap.unionKeys3 base local' remote).filterMap fun id =>
    mergeDeletedObject base[id]? local'[id]? remote[id]?

/-! ## Custom icons -/

def customIconsHaveEqualContent (left right : CustomIcon) : Bool :=
  left.id = right.id && left.data = right.data && left.name = right.name

def mergeCustomIconTimestamp (selected : CustomIcon) (base local' remote : Option CustomIcon) : CustomIcon :=
  let stamps := ([base, local', remote].filterMap id).filter (customIconsHaveEqualContent selected)
  { selected with lastModified := stamps.foldl (fun latest icon => max latest icon.lastModified) none }

/-- The icon that stays for one id, before its stamp is settled. -/
def selectCustomIcon (id : Uuid) (base local' remote : Option CustomIcon) :
    Except ThreeWayPatchError (Option CustomIcon) :=
  match base, local', remote with
  | none, none, none => .ok none
  | none, none, some remote => .ok (some remote)
  | none, some local', none => .ok (some local')
  | none, some local', some remote =>
      if customIconsHaveEqualContent local' remote then .ok (some remote)
      else .error (.concurrentObjectAddition id)
  | some _, none, none => .ok none
  | some base, none, some remote =>
      .ok (if customIconsHaveEqualContent base remote then none else some remote)
  | some base, some local', none =>
      .ok (if customIconsHaveEqualContent base local' then none else some local')
  | some base, some local', some remote =>
      if customIconsHaveEqualContent local' base then .ok (some remote)
      else if customIconsHaveEqualContent remote base then .ok (some local')
      else if customIconsHaveEqualContent local' remote then .ok (some remote)
      else .error (.fidelityConflict "meta" none "custom icon")

def mergeCustomIcon (id : Uuid) (base local' remote : Option CustomIcon) :
    Except ThreeWayPatchError (Option CustomIcon) := do
  let selected ← selectCustomIcon id base local' remote
  return selected.map fun icon => mergeCustomIconTimestamp icon base local' remote

def customIconMap (items : List CustomIcon) : BTreeMap Uuid CustomIcon :=
  BTreeMap.lastWins (items.map fun item => (item.id, item))

def mergeCustomIconList (base local' remote : BTreeMap Uuid CustomIcon) :
    List Uuid → Except ThreeWayPatchError (List CustomIcon)
  | [] => .ok []
  | id :: ids => do
      let icon ← mergeCustomIcon id base[id]? local'[id]? remote[id]?
      let icons ← mergeCustomIconList base local' remote ids
      return icon.toList ++ icons

def mergeCustomIcons (base local' remote : List CustomIcon) : Except ThreeWayPatchError (List CustomIcon) :=
  let base := customIconMap base
  let local' := customIconMap local'
  let remote := customIconMap remote
  mergeCustomIconList base local' remote (BTreeMap.unionKeys3 base local' remote)

/-! ## Meta fields -/

/-- Every unit of the vault but tombstones and icons, on a copy of the remote vault. -/
def mergeMetaUnits (base local' remote : Vault) (preferLocal : Bool) : MergeM Vault := do
  let (name, databaseNameChanged) ← mergeTimestampedValue base.name base.databaseNameChanged
    local'.name local'.databaseNameChanged remote.name remote.databaseNameChanged
  let (description, descriptionChanged) ← mergeTimestampedValue base.description base.descriptionChanged
    local'.description local'.descriptionChanged remote.description remote.descriptionChanged
  let (defaultUsername, defaultUsernameChanged) ← mergeTimestampedValue base.defaultUsername
    base.defaultUsernameChanged local'.defaultUsername local'.defaultUsernameChanged
    remote.defaultUsername remote.defaultUsernameChanged
  let generator ← mergeField base local' remote preferLocal (·.generator)
  let settingsChanged :=
    mergeChangedAt base.settingsChanged local'.settingsChanged remote.settingsChanged
  let metaRawState ← mergeField base local' remote preferLocal (·.metaRawState)
  let rootRawState ← mergeField base local' remote preferLocal (·.rootRawState)
  let publicCustomData ← mergeField base local' remote preferLocal (·.publicCustomData)
  let maintenanceHistoryDays ← mergeField base local' remote preferLocal (·.maintenanceHistoryDays)
  let color ← mergeField base local' remote preferLocal (·.color)
  let masterKeyChanged :=
    mergeChangedAt base.masterKeyChanged local'.masterKeyChanged remote.masterKeyChanged
  let masterKeyChangeRec ← mergeField base local' remote preferLocal (·.masterKeyChangeRec)
  let masterKeyChangeForce ← mergeField base local' remote preferLocal (·.masterKeyChangeForce)
  let masterKeyChangeForceOnce ← mergeField base local' remote preferLocal (·.masterKeyChangeForceOnce)
  let historyMaxItems ← mergeField base local' remote preferLocal (·.historyMaxItems)
  let historyMaxSize ← mergeField base local' remote preferLocal (·.historyMaxSize)
  let lastSelectedGroup ← mergeField base local' remote preferLocal (·.lastSelectedGroup)
  let lastTopVisibleGroup ← mergeField base local' remote preferLocal (·.lastTopVisibleGroup)
  let memoryProtection ← mergeField base local' remote preferLocal (·.memoryProtection)
  let recycleBinEnabled ← mergeField base local' remote preferLocal (·.recycleBinEnabled)
  let recycleBinGroup ← mergeField base local' remote preferLocal (·.recycleBinGroup)
  let recycleBinChanged :=
    mergeChangedAt base.recycleBinChanged local'.recycleBinChanged remote.recycleBinChanged
  let entryTemplatesGroup ← mergeField base local' remote preferLocal (·.entryTemplatesGroup)
  let entryTemplatesGroupChanged := mergeChangedAt base.entryTemplatesGroupChanged
    local'.entryTemplatesGroupChanged remote.entryTemplatesGroupChanged
  let metaOpaqueXml ← mergeField base local' remote preferLocal (·.metaOpaqueXml)
  let rootOpaqueXml ← mergeField base local' remote preferLocal (·.rootOpaqueXml)
  let customData ← mergeCustomDataFields base.metaCustomData base.metaCustomDataBlocks
    local'.metaCustomData local'.metaCustomDataBlocks remote.metaCustomData remote.metaCustomDataBlocks
    preferLocal metaOpaqueXml metaRawState.nodeOrder
  -- the KDF parameters stay those of the generation being rebased onto
  return { remote with
    name, databaseNameChanged, description, descriptionChanged, defaultUsername, defaultUsernameChanged
    generator, settingsChanged, rootRawState, publicCustomData, maintenanceHistoryDays, color
    masterKeyChanged, masterKeyChangeRec, masterKeyChangeForce, masterKeyChangeForceOnce
    historyMaxItems, historyMaxSize, lastSelectedGroup, lastTopVisibleGroup, memoryProtection
    recycleBinEnabled, recycleBinGroup, recycleBinChanged, entryTemplatesGroup
    entryTemplatesGroupChanged, rootOpaqueXml
    metaRawState := { metaRawState with nodeOrder := customData.nodeOrder }
    metaOpaqueXml := customData.opaqueXml
    metaCustomData := customData.values
    metaCustomDataBlocks := customData.blocks }

def mergeMeta (base local' remote : Vault) : Except ThreeWayPatchError Vault := do
  let preferLocal := decide (local'.settingsChanged.getD 0 > remote.settingsChanged.getD 0)
  let merged := (mergeMetaUnits base local' remote preferLocal).result
  let deletedObjects := mergeDeletedObjects base.deletedObjects local'.deletedObjects remote.deletedObjects
  let customIcons ← mergeCustomIcons base.customIcons local'.customIcons remote.customIcons
  if merged.2.conflict then .error (.fidelityConflict "meta" none "modeled field")
  else return { merged.1 with deletedObjects, customIcons }

end VaultKern
