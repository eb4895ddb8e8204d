import VaultKern.Patch.CustomDataMerge
import VaultKern.Patch.Slots

/-! # Merging an entry

The units of an entry are merged one after the other onto a copy of the remote
entry. If any of them conflicted, the whole losing entry becomes a history
snapshot, which the caller also has to find in the published file.
-/

namespace VaultKern

structure ThreeWayPatchReport where
  mergedEntries : Nat := 0
  mergedGroups : Nat := 0
  historySnapshotsAdded : Nat := 0
  metaConflictsResolved : Nat := 0
  iconConflictsResolved : Nat := 0
  deriving DecidableEq

structure ThreeWayPatchRecoverySnapshot where
  entryId : Uuid
  snapshot : Entry
  deriving DecidableEq

/-- The two accumulators a patch fills while it merges. -/
structure PatchLog where
  report : ThreeWayPatchReport := {}
  requiredHistorySnapshots : List ThreeWayPatchRecoverySnapshot := []
  deriving DecidableEq

/-! ## Credential units -/

structure TotpUnit where
  projected : Option TotpSpec
  attributes : BTreeMap String CustomField
  deriving DecidableEq

structure PasskeyUnit where
  projected : Option PasskeyRecord
  attributes : BTreeMap String CustomField
  deriving DecidableEq

def totpUnit (entry : Entry) : TotpUnit :=
  { projected := entry.totp
    attributes := entry.attributes.filter fun key _ => isTotpPersistentAttributeKey key }

def passkeyUnit (entry : Entry) : PasskeyUnit :=
  { projected := entry.passkey
    attributes := entry.attributes.filter fun key _ => PasskeyRecord.isPersistentAttributeKey key }

/-- `extend`: the bindings of `other` win. -/
def extendMap {V : Type} (m other : BTreeMap String V) : BTreeMap String V :=
  other.toList.foldl (fun m (key, value) => m.insert key value) m

/-! ## History -/

def historyUnion (base local' remote : List Entry) : List Entry :=
  (base ++ local').foldl
    (fun merged entry => if merged.contains entry then merged else merged ++ [entry]) remote

def addLosingHistorySnapshot (merged losing : Entry) (log : PatchLog) : Entry × PatchLog :=
  let snapshot := prepareEntryHistorySnapshot losing
  let required : ThreeWayPatchRecoverySnapshot := { entryId := merged.id, snapshot }
  let requiredHistorySnapshots :=
    if log.requiredHistorySnapshots.contains required then log.requiredHistorySnapshots
    else log.requiredHistorySnapshots ++ [required]
  if merged.history.contains snapshot then (merged, { log with requiredHistorySnapshots })
  else
    ({ merged with history := merged.history ++ [snapshot] },
      { report :=
          { log.report with historySnapshotsAdded := log.report.historySnapshotsAdded + 1 }
        requiredHistorySnapshots })

/-! ## The entry merge -/

/-- One field of a record as a unit. -/
def mergeField {R α : Type} [DecidableEq α] (base local' remote : R) (preferLocal : Bool) (field : R → α) :
    MergeM α :=
  mergeValue (field base) (field local') (field remote) preferLocal

def mergeEntryFieldProtection (base local' remote : EntryFieldProtection) (preferLocal : Bool) :
    MergeM EntryFieldProtection := do
  let protectTitle ← mergeField base local' remote preferLocal (·.protectTitle)
  let protectUsername ← mergeField base local' remote preferLocal (·.protectUsername)
  let protectPassword ← mergeField base local' remote preferLocal (·.protectPassword)
  let protectUrl ← mergeField base local' remote preferLocal (·.protectUrl)
  let protectNotes ← mergeField base local' remote preferLocal (·.protectNotes)
  return { protectTitle, protectUsername, protectPassword, protectUrl, protectNotes }

/-- All units of an entry up to its history. -/
def mergeEntryUnits (base local' remote : Entry) (preferLocal : Bool) : MergeM Entry := do
  let title ← mergeField base local' remote preferLocal (·.title)
  let username ← mergeField base local' remote preferLocal (·.username)
  let password ← mergeField base local' remote preferLocal (·.password)
  let url ← mergeField base local' remote preferLocal (·.url)
  let notes ← mergeField base local' remote preferLocal (·.notes)
  let tags ← mergeField base local' remote preferLocal (·.tags)
  let foregroundColor ← mergeField base local' remote preferLocal (·.foregroundColor)
  let backgroundColor ← mergeField base local' remote preferLocal (·.backgroundColor)
  let overrideUrl ← mergeField base local' remote preferLocal (·.overrideUrl)
  let createdAt ← mergeField base local' remote preferLocal (·.createdAt)
  let expires ← mergeField base local' remote preferLocal (·.expires)
  let expiryTime ← mergeField base local' remote preferLocal (·.expiryTime)
  let lastAccessedAt ← mergeField base local' remote preferLocal (·.lastAccessedAt)
  let usageCount ← mergeField base local' remote preferLocal (·.usageCount)
  let autoType ← mergeField base local' remote preferLocal (·.autoType)
  let previousParent ← mergeField base local' remote preferLocal (·.previousParent)
  let excludeFromReports ← mergeField base local' remote preferLocal (·.excludeFromReports)
  let rawState ← mergeField base local' remote preferLocal (·.rawState)
  let opaqueXml ← mergeField base local' remote preferLocal (·.opaqueXml)
  let fieldProtection ← mergeEntryFieldProtection base.fieldProtection local'.fieldProtection
    remote.fieldProtection preferLocal
  let (iconId, customIconId) ← mergeField base local' remote preferLocal
    fun entry => (entry.iconId, entry.customIconId)
  let attributes ← mergeKeyedMapFiltered base.attributes local'.attributes remote.attributes preferLocal
    fun key => !isReservedCredentialAttribute key
  let totp ← mergeField base local' remote preferLocal totpUnit
  let attributes := extendMap attributes totp.attributes
  let passkey ← mergeField base local' remote preferLocal passkeyUnit
  let attributes := extendMap attributes passkey.attributes
  let attachments ← mergeKeyedMapFiltered base.attachments local'.attachments remote.attachments preferLocal
    fun _ => true
  let customData ← mergeCustomDataFields base.customData base.customDataBlocks local'.customData
    local'.customDataBlocks remote.customData remote.customDataBlocks preferLocal opaqueXml rawState.nodeOrder
  return { remote with
    title, username, password, url, notes, tags, foregroundColor, backgroundColor, overrideUrl, createdAt
    expires, expiryTime, lastAccessedAt, usageCount, autoType, previousParent, excludeFromReports
    fieldProtection, iconId, customIconId, attributes, attachments
    totp := totp.projected
    passkey := passkey.projected
    rawState := { rawState with nodeOrder := customData.nodeOrder }
    opaqueXml := customData.opaqueXml
    customData := customData.values
    customDataBlocks := customData.blocks }

def setEntryModifiedAt (entry : Entry) (value : Nat) : Entry := { entry with modifiedAt := value }

def setEntryLocationChangedAt (entry : Entry) (value : Option Nat) : Entry :=
  { entry with locationChangedAt := value }

def mergeEntry (base local' remote : Entry) (log : PatchLog) : (Entry × Bool) × PatchLog :=
  let preferLocal := decide (local'.modifiedAt > remote.modifiedAt)
  let units := (mergeEntryUnits base local' remote preferLocal).result
  let merged := setEntryModifiedAt
    { units.1 with history := historyUnion base.history local'.history remote.history }
    (max local'.modifiedAt remote.modifiedAt)
  let result :=
    if units.2.conflict then
      addLosingHistorySnapshot merged (if preferLocal then remote else local') log
    else (merged, log)
  ((normalizeEntrySlots result.1, units.2.changedFromRemote || units.2.conflict), result.2)

end VaultKern
