import VaultKern.Core.KeyedNodes
import VaultKern.Model.CustomData
import VaultKern.Core.Lookup
import VaultKern.Core.Checks

/-! # What the mutators return -/

namespace VaultKern

/-! ## Entries -/

def visibleCustomFieldCount (entry : Entry) : Nat :=
  (entry.attributes.keys.filter fun key => !isReservedEntryCustomFieldKey key).length

structure EntryView where
  id : String
  title : String
  username : String
  url : String
  iconId : Option Nat
  customIconId : Option String
  tags : List String
  attachmentCount : Nat
  customFieldCount : Nat
  historyCount : Nat
  hasTotp : Bool
  hasPasskey : Bool
  expires : Bool
  fieldProtection : EntryFieldProtection
  deriving DecidableEq

def projectEntry (entry : Entry) : EntryView :=
  { id := uuidToString entry.id
    title := entry.title
    username := entry.username
    url := entry.url
    iconId := entry.iconId
    customIconId := entry.customIconId.map uuidToString
    tags := entry.tags.toList
    attachmentCount := entry.attachments.size
    customFieldCount := visibleCustomFieldCount entry
    historyCount := entry.history.length
    hasTotp := entry.totp.isSome
    hasPasskey := entry.passkey.isSome
    expires := entry.expires
    fieldProtection := entry.fieldProtection }

structure EntryPresentationMetadataView where
  iconId : Option Nat
  foregroundColor : Option String
  backgroundColor : Option String
  overrideUrl : Option String
  deriving DecidableEq

def projectEntryPresentationMetadata (entry : Entry) : EntryPresentationMetadataView :=
  { iconId := entry.iconId
    foregroundColor := entry.foregroundColor
    backgroundColor := entry.backgroundColor
    overrideUrl := entry.overrideUrl }

structure EntryLineageReportMetadataView where
  previousParentId : Option String
  excludeFromReports : Bool
  deriving DecidableEq

def projectEntryLineageReportMetadata (entry : Entry) : EntryLineageReportMetadataView :=
  { previousParentId := entry.previousParent.map uuidToString
    excludeFromReports := entry.excludeFromReports }

/-- An absent auto-type block shows as the default one. -/
def projectEntryAutoType (entry : Entry) : AutoTypeConfig := entry.autoType.getD {}

structure EntryTimesView where
  createdAt : Nat
  modifiedAt : Nat
  lastAccessedAt : Option Nat
  usageCount : Option Nat
  locationChangedAt : Option Nat
  deriving DecidableEq

def projectEntryTimes (entry : Entry) : EntryTimesView :=
  { createdAt := entry.createdAt
    modifiedAt := entry.modifiedAt
    lastAccessedAt := entry.lastAccessedAt
    usageCount := entry.usageCount
    locationChangedAt := entry.locationChangedAt }

structure AttachmentView where
  name : String
  size : Nat
  protectInMemory : Bool
  deriving DecidableEq

def projectAttachmentItems (attachments : BTreeMap String Attachment) : List AttachmentView :=
  attachments.toList.map fun (_, attachment) =>
    { name := attachment.name
      size := attachment.data.bytes.length
      protectInMemory := attachment.protectInMemory }

/-! ## Groups -/

structure GroupView where
  id : String
  title : String
  iconId : Option Nat
  customIconId : Option String
  entryCount : Nat
  childCount : Nat
  entries : List EntryView
  children : List GroupView

mutual
def projectGroup : Group → GroupView
  | ⟨fields, entries, children⟩ =>
      { id := uuidToString fields.id
        title := fields.title
        iconId := fields.iconId
        customIconId := fields.customIconId.map uuidToString
        entryCount := entries.length
        childCount := children.length
        entries := entries.map projectEntry
        children := projectGroups children }

def projectGroups : List Group → List GroupView
  | [] => []
  | group :: rest => projectGroup group :: projectGroups rest
end

structure GroupBehaviorMetadataView where
  defaultAutoTypeSequence : Option String
  lastTopVisibleEntryId : Option String
  enableAutoType : Option Bool
  enableSearching : Option Bool
  deriving DecidableEq

def projectGroupBehaviorMetadata (group : Group) : GroupBehaviorMetadataView :=
  { defaultAutoTypeSequence := group.defaultAutoTypeSequence
    lastTopVisibleEntryId := group.lastTopVisibleEntry.map uuidToString
    enableAutoType := group.flags.enableAutoType
    enableSearching := group.flags.enableSearching }

structure GroupLineageTagMetadataView where
  tags : List String
  previousParentId : Option String
  deriving DecidableEq

def projectGroupLineageTagMetadata (group : Group) : GroupLineageTagMetadataView :=
  { tags := group.tags.toList
    previousParentId := group.previousParent.map uuidToString }

structure GroupTimesView where
  createdAt : Option Nat
  modifiedAt : Option Nat
  lastAccessedAt : Option Nat
  usageCount : Option Nat
  locationChangedAt : Option Nat
  deriving DecidableEq

def projectGroupTimes (group : Group) : GroupTimesView :=
  { createdAt := group.times.map (·.createdAt)
    modifiedAt := group.times.map (·.modifiedAt)
    lastAccessedAt := group.times.bind (·.lastAccessedAt)
    usageCount := group.times.bind (·.usageCount)
    locationChangedAt := group.times.bind (·.locationChangedAt) }

structure GroupExpiryView where
  expires : Option Bool
  expiryTime : Option Int
  deriving DecidableEq

def projectGroupExpiry (group : Group) : GroupExpiryView :=
  { expires := group.times.map (·.expires)
    expiryTime := group.times.bind (·.expiryTime) }

/-! ## The vault -/

structure CustomIconView where
  id : String
  data : List UInt8
  name : Option String
  lastModified : Option Int
  deriving DecidableEq

def projectCustomIcon (icon : CustomIcon) : CustomIconView :=
  { id := uuidToString icon.id
    data := icon.data
    name := icon.name
    lastModified := icon.lastModified }

def projectCustomDataItems (items : BTreeMap String String) : List (String × String) := items.toList

def projectPublicCustomDataItems (items : BTreeMap String (List UInt8)) : List (String × List UInt8) :=
  items.toList

/-- The items of the blocks, the last of a key winning, and the keys without an item. -/
def projectCustomDataDetail (values : BTreeMap String String) (blocks : List CustomDataBlock) :
    List CustomDataItem :=
  let projected := BTreeMap.lastWins ((blocks.flatMap (·.items)).map fun item => (item.key, item))
  let completed := values.toList.foldl (fun projected (key, value) =>
    if projected.contains key then projected
    else projected.insert key { key, value, lastModified := none }) projected
  completed.toList.map Prod.snd

structure VaultMetadataView where
  description : Option String
  defaultUsername : Option String
  color : Option String
  historyMaxItems : Option Int
  historyMaxSize : Option Int
  memoryProtection : Option MemoryProtection
  deriving DecidableEq

def projectVaultMetadata (vault : Vault) : VaultMetadataView :=
  { description := vault.description
    defaultUsername := vault.defaultUsername
    color := vault.color
    historyMaxItems := vault.historyMaxItems
    historyMaxSize := vault.historyMaxSize
    memoryProtection := vault.memoryProtection }

structure VaultSelectionMetadataView where
  lastSelectedGroupId : Option String
  lastTopVisibleGroupId : Option String
  deriving DecidableEq

def projectVaultSelectionMetadata (vault : Vault) : VaultSelectionMetadataView :=
  { lastSelectedGroupId := vault.lastSelectedGroup.map uuidToString
    lastTopVisibleGroupId := vault.lastTopVisibleGroup.map uuidToString }

structure VaultLifecycleMetadata where
  settingsChanged : Option Int := none
  maintenanceHistoryDays : Option Int := none
  masterKeyChanged : Option Int := none
  masterKeyChangeRec : Option Int := none
  masterKeyChangeForce : Option Int := none
  masterKeyChangeForceOnce : Option Bool := none
  deriving DecidableEq

def projectVaultLifecycleMetadata (vault : Vault) : VaultLifecycleMetadata :=
  { settingsChanged := vault.settingsChanged
    maintenanceHistoryDays := vault.maintenanceHistoryDays
    masterKeyChanged := vault.masterKeyChanged
    masterKeyChangeRec := vault.masterKeyChangeRec
    masterKeyChangeForce := vault.masterKeyChangeForce
    masterKeyChangeForceOnce := vault.masterKeyChangeForceOnce }

structure VaultBinTemplateMetadataView where
  recycleBinEnabled : Option Bool
  recycleBinGroupId : Option String
  recycleBinChanged : Option Int
  entryTemplatesGroupId : Option String
  entryTemplatesGroupChanged : Option Int
  deriving DecidableEq

def projectVaultBinTemplateMetadata (vault : Vault) : VaultBinTemplateMetadataView :=
  { recycleBinEnabled := vault.recycleBinEnabled
    recycleBinGroupId := vault.recycleBinGroup.map uuidToString
    recycleBinChanged := vault.recycleBinChanged
    entryTemplatesGroupId := vault.entryTemplatesGroup.map uuidToString
    entryTemplatesGroupChanged := vault.entryTemplatesGroupChanged }

structure VaultIdentityMetadataView where
  name : String
  generator : Option String
  databaseNameChanged : Option Int
  descriptionChanged : Option Int
  defaultUsernameChanged : Option Int
  deriving DecidableEq

def projectVaultIdentityMetadata (vault : Vault) : VaultIdentityMetadataView :=
  { name := vault.name
    generator := vault.generator
    databaseNameChanged := vault.databaseNameChanged
    descriptionChanged := vault.descriptionChanged
    defaultUsernameChanged := vault.defaultUsernameChanged }

end VaultKern
