import VaultKern.Patch.MergeMeta
import VaultKern.Patch.Siblings

/-! # Merging the two tables

Which groups and entries the result has, and below which parent each stands. A
deletion wins only over an untouched object: a group whose subtree the survivor
changed is kept with everything the survivor has below it.
-/

namespace VaultKern

open ThreeWayPatchError

/-! ## Groups -/

/-- The location of a group that all three sides have. The root has none. -/
def mergeGroupLocation (base local' remote : FlatGroup) (merged : Group) :
    Except ThreeWayPatchError (Option Uuid × Option Nat × Bool) :=
  match base.parent, local'.parent, remote.parent with
  | none, none, none => .ok (none, groupLocationChangedAt merged, false)
  | some baseParent, some localParent, some remoteParent =>
      let location := mergeLocation baseParent localParent remoteParent
        (groupLocationChangedAt local'.value) (groupLocationChangedAt remote.value)
      .ok (some location.parent, location.changedAt, location.prefersLocal)
  | _, _, _ => .error rootLineageMismatch

/-- A group that all three sides have, and whether it differs from the remote one. -/
def mergeSharedGroup (id : Uuid) (base local' remote : FlatGroup) :
    Except ThreeWayPatchError (FlatGroup × Bool) := do
  let (value, changed) ← mergeGroupFields id base.value local'.value remote.value
    (groupModifiedAt local'.value > groupModifiedAt remote.value)
  let (parent, locationChangedAt, locationPrefersLocal) ← mergeGroupLocation base local' remote value
  let value := setGroupLocationChangedAt value locationChangedAt
  return ({ value, parent, order := if locationPrefersLocal then local'.order else remote.order },
    changed || parent ≠ remote.parent || value ≠ remote.value)

/-- The row that stays for one id, with the count of merged groups. -/
def mergeGroupRow (base local' remote : FlatVault) (locallyPreserved remotelyPreserved : List Uuid)
    (id : Uuid) (report : ThreeWayPatchReport) :
    Except ThreeWayPatchError (Option FlatGroup × ThreeWayPatchReport) :=
  match base.groups[id]?, local'.groups[id]?, remote.groups[id]? with
  | none, none, none => .ok (none, report)
  | none, none, some remoteGroup => .ok (some remoteGroup, report)
  | none, some localGroup, none => .ok (some localGroup, report)
  | none, some _, some remoteGroup =>
      if subtreesEqual local' remote id then .ok (some remoteGroup, report)
      else .error (concurrentObjectAddition id)
  | some _, none, none => .ok (none, report)
  | some _, some localGroup, none =>
      .ok (if belongsToPreservedSubtree id local' locallyPreserved then some localGroup else none, report)
  | some _, none, some remoteGroup =>
      .ok (if belongsToPreservedSubtree id remote remotelyPreserved then some remoteGroup else none, report)
  | some baseGroup, some localGroup, some remoteGroup => do
      let (group, changed) ← mergeSharedGroup id baseGroup localGroup remoteGroup
      return (some group,
        if changed then { report with mergedGroups := report.mergedGroups + 1 } else report)

/-- The first group whose parent is missing. -/
def orphanedGroup (groups : BTreeMap Uuid FlatGroup) : Option Uuid :=
  (groups.toList.find? fun (_, group) => group.parent.any fun parent => !groups.contains parent).map
    Prod.fst

def mergeGroups (base local' remote : FlatVault) (locallyPreserved remotelyPreserved : List Uuid)
    (report : ThreeWayPatchReport) :
    Except ThreeWayPatchError (BTreeMap Uuid FlatGroup × ThreeWayPatchReport) := do
  let (merged, report) ← BTreeMap.collectM
    (mergeGroupRow base local' remote locallyPreserved remotelyPreserved)
    (BTreeMap.unionKeys3 base.groups local'.groups remote.groups) ∅ report
  match orphanedGroup merged with
  | some id => .error (missingParent id)
  | none => return (merged, report)

/-! ## Entries -/

def countMergedEntry (changed : Bool) (log : PatchLog) : PatchLog :=
  if changed then { log with report := { log.report with mergedEntries := log.report.mergedEntries + 1 } }
  else log

/-- Put a merged entry where its location says; a conflict keeps the losing side. -/
def locateEntry (location : LocationMerge) (merged local' remote : Entry) (log : PatchLog) : Entry × PatchLog :=
  let value := setEntryLocationChangedAt merged location.changedAt
  if location.conflict then
    addLosingHistorySnapshot value (if location.prefersLocal then remote else local') log
  else (value, log)

/-- An entry that all three sides have. -/
def mergeSharedEntry (base local' remote : FlatEntry) (log : PatchLog) : FlatEntry × PatchLog :=
  let merged := mergeEntry base.value local'.value remote.value log
  let location := mergeLocation base.parent local'.parent remote.parent
    local'.value.locationChangedAt remote.value.locationChangedAt
  let located := locateEntry location merged.1.1 local'.value remote.value merged.2
  ({ value := located.1
     parent := location.parent
     order := if location.prefersLocal then local'.order else remote.order },
    countMergedEntry (merged.1.2 || location.parent ≠ remote.parent || located.1 ≠ remote.value) located.2)

/-- The row that stays for one id, before its parent is looked up. -/
def selectEntryRow (base local' remote : FlatVault) (locallyPreserved remotelyPreserved : List Uuid)
    (id : Uuid) (log : PatchLog) : Except ThreeWayPatchError (Option FlatEntry × PatchLog) :=
  match base.entries[id]?, local'.entries[id]?, remote.entries[id]? with
  | none, none, none => .ok (none, log)
  | none, none, some remoteEntry => .ok (some remoteEntry, log)
  | none, some localEntry, none => .ok (some localEntry, log)
  | none, some localEntry, some remoteEntry =>
      if sameEntryRecord localEntry remoteEntry then .ok (some remoteEntry, log)
      else .error (concurrentObjectAddition id)
  | some _, none, none => .ok (none, log)
  | some baseEntry, some localEntry, none =>
      .ok (if !sameEntryRecord baseEntry localEntry
          || belongsToPreservedSubtree localEntry.parent local' locallyPreserved
        then some localEntry else none, log)
  | some baseEntry, none, some remoteEntry =>
      .ok (if !sameEntryRecord baseEntry remoteEntry
          || belongsToPreservedSubtree remoteEntry.parent remote remotelyPreserved
        then some remoteEntry else none, log)
  | some baseEntry, some localEntry, some remoteEntry =>
      let (entry, log) := mergeSharedEntry baseEntry localEntry remoteEntry log
      .ok (some entry, log)

def mergeEntryRow (base local' remote : FlatVault) (groups : BTreeMap Uuid FlatGroup)
    (locallyPreserved remotelyPreserved : List Uuid) (id : Uuid) (log : PatchLog) :
    Except ThreeWayPatchError (Option FlatEntry × PatchLog) := do
  let (row, log) ← selectEntryRow base local' remote locallyPreserved remotelyPreserved id log
  match row with
  | some entry =>
      if groups.contains entry.parent then return (some entry, log)
      else .error (missingParent entry.parent)
  | none => return (none, log)

def mergeEntries (base local' remote : FlatVault) (groups : BTreeMap Uuid FlatGroup)
    (locallyPreserved remotelyPreserved : List Uuid) (log : PatchLog) :
    Except ThreeWayPatchError (BTreeMap Uuid FlatEntry × PatchLog) :=
  BTreeMap.collectM (mergeEntryRow base local' remote groups locallyPreserved remotelyPreserved)
    (BTreeMap.unionKeys3 base.entries local'.entries remote.entries) ∅ log

end VaultKern
