import VaultKern.Patch.MergeEntry

/-! # Merging a group

A group has no history, so a conflict inside one cannot be kept anywhere and the
merge fails instead.
-/

namespace VaultKern

def groupModifiedAt (group : Group) : Nat := (group.times.map (·.modifiedAt)).getD 0

def groupLocationChangedAt (group : Group) : Option Nat := group.times.bind (·.locationChangedAt)

def setGroupLocationChangedAt (group : Group) (value : Option Nat) : Group :=
  { group with times := group.times.map fun times => { times with locationChangedAt := value } }

/-- All units of a group, on the remote group without its members. -/
def mergeGroupUnits (base local' remote : Group) (preferLocal : Bool) : MergeM Group := do
  let title ← mergeField base local' remote preferLocal (·.title)
  let notes ← mergeField base local' remote preferLocal (·.notes)
  let tags ← mergeField base local' remote preferLocal (·.tags)
  let times ← mergeGroupTimes base.times local'.times remote.times preferLocal
  let flags ← mergeField base local' remote preferLocal (·.flags)
  let defaultAutoTypeSequence ← mergeField base local' remote preferLocal (·.defaultAutoTypeSequence)
  let lastTopVisibleEntry ← mergeField base local' remote preferLocal (·.lastTopVisibleEntry)
  let previousParent ← mergeField base local' remote preferLocal (·.previousParent)
  let rawState ← mergeField base local' remote preferLocal (·.rawState)
  let opaqueXml ← mergeField base local' remote preferLocal (·.opaqueXml)
  let (iconId, customIconId) ← mergeField base local' remote preferLocal
    fun group => (group.iconId, group.customIconId)
  let customData ← mergeCustomDataFields base.customData base.customDataBlocks local'.customData
    local'.customDataBlocks remote.customData remote.customDataBlocks preferLocal opaqueXml rawState.nodeOrder
  return { remote with
    entries := []
    children := []
    title, notes, tags, times, flags, defaultAutoTypeSequence, lastTopVisibleEntry, previousParent
    iconId, customIconId
    rawState := { rawState with nodeOrder := customData.nodeOrder }
    opaqueXml := customData.opaqueXml
    customData := customData.values
    customDataBlocks := customData.blocks }

def mergeGroupFields (id : Uuid) (base local' remote : Group) (preferLocal : Bool) :
    Except ThreeWayPatchError (Group × Bool) :=
  let merged := (mergeGroupUnits base local' remote preferLocal).result
  if merged.2.conflict then .error (.fidelityConflict "group" (some id) "modeled field")
  else .ok (merged.1, merged.2.changedFromRemote)

end VaultKern
