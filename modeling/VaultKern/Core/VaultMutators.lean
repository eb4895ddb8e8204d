import VaultKern.Core.EntryMutators

/-! # Mutators of groups and of the vault -/

namespace VaultKern

open MutationError Attempt

def onGroup {A : Type} (groupId : String) (m : Attempt MutationError Group A) : Mutator A :=
  Attempt.within (fun vault => findGroupById groupId vault.root)
    (fun group vault => { vault with root := putGroupById groupId group vault.root })
    (groupNotFound groupId) m

/-! ## Groups -/

structure GroupMetadataUpdate where
  title : Option String := none
  notes : Option String := none
  iconId : Option Nat := none
  flags : Option GroupFlags := none

def updateGroupMetadata (groupId : String) (update : GroupMetadataUpdate) : Mutator GroupView := do
  lift (validateOptionalXmlText update.title "group title")
  lift (validateOptionalXmlText update.notes "group notes")
  onGroup groupId (write (fun group =>
    { group with
      title := update.title.getD group.title
      notes := update.notes.getD group.notes
      iconId := update.iconId.or group.iconId
      flags := update.flags.getD group.flags
      rawState :=
        if update.flags.isSome then
          { group.rawState with enableAutoTypeRaw := none, enableSearchingRaw := none }
        else group.rawState }) projectGroup)

structure GroupBehaviorMetadataUpdate where
  defaultAutoTypeSequence : Option String := none
  lastTopVisibleEntryId : Option String := none
  enableAutoType : Option Bool := none
  enableSearching : Option Bool := none

/-- An id that may be left out, parsed if given. -/
def parseOptionalUuid (value : Option String) : Except MutationError (Option Uuid) :=
  match value with
  | none => .ok none
  | some value => some <$> parseUuid value

def setAutoTypeSequence (update : Option String) (group : Group) : Group :=
  match update with
  | none => group
  | some sequence =>
      { group with
        defaultAutoTypeSequence := if sequence.isEmpty then none else some sequence
        rawState := { group.rawState with defaultAutoTypeSequenceRaw := none } }

def updateGroupBehaviorMetadata (groupId : String) (update : GroupBehaviorMetadataUpdate) :
    Mutator GroupBehaviorMetadataView := do
  lift (validateOptionalXmlText update.defaultAutoTypeSequence "group default auto-type sequence")
  let lastTopVisibleEntry ← lift (parseOptionalUuid update.lastTopVisibleEntryId)
  onGroup groupId (write (fun group =>
    let group := setAutoTypeSequence update.defaultAutoTypeSequence group
    { group with
      lastTopVisibleEntry := lastTopVisibleEntry.or group.lastTopVisibleEntry
      flags :=
        { group.flags with
          enableAutoType := update.enableAutoType.or group.flags.enableAutoType
          enableSearching := update.enableSearching.or group.flags.enableSearching }
      rawState :=
        { group.rawState with
          enableAutoTypeRaw := if update.enableAutoType.isSome then none else group.rawState.enableAutoTypeRaw
          enableSearchingRaw :=
            if update.enableSearching.isSome then none else group.rawState.enableSearchingRaw } })
    projectGroupBehaviorMetadata)

structure GroupLineageTagMetadataUpdate where
  tags : Option (List String) := none
  previousParentId : Option (Option String) := none

/-- `resolve_group_reference_update`: a given id has to name a group. -/
def resolveGroupReferenceUpdate (update : Option (Option String)) : Mutator (Option (Option Uuid)) :=
  match update with
  | none => pure none
  | some none => pure (some none)
  | some (some groupId) => do
      let parsed ← lift (parseUuid groupId)
      let _ ← readGroup groupId
      return some (some parsed)

def setGroupTags (update : Option (List String)) (group : Group) : Group :=
  match update with
  | none => group
  | some tags =>
      let group := if !group.tags.isEmpty && tags.isEmpty then group.removeNode "Tags" else group
      { group with tags := Std.ExtTreeSet.ofList tags compare }

def setGroupPreviousParent (update : Option (Option Uuid)) (group : Group) : Group :=
  match update with
  | none => group
  | some previousParent =>
      let group := if group.previousParent.isSome && previousParent.isNone then
        group.removeNode "PreviousParentGroup" else group
      { group with previousParent }

def updateGroupLineageTagMetadata (groupId : String) (update : GroupLineageTagMetadataUpdate) :
    Mutator GroupLineageTagMetadataView := do
  lift (match update.tags with | some tags => validatePersistentTags tags | none => .ok ())
  let previousParent ← resolveGroupReferenceUpdate update.previousParentId
  onGroup groupId (write (fun group =>
    setGroupPreviousParent previousParent (setGroupTags update.tags group)) projectGroupLineageTagMetadata)

structure GroupTimesUpdate where
  createdAt : Option (Option Nat) := none
  modifiedAt : Option (Option Nat) := none
  lastAccessedAt : Option (Option Nat) := none
  usageCount : Option (Option Nat) := none
  locationChangedAt : Option (Option Nat) := none

/-- The times a group without any gets before they are set. -/
def newGroupTimes : GroupTimes :=
  { createdAt := 0, modifiedAt := 0, expires := false, expiryTime := none, lastAccessedAt := none
    usageCount := none, locationChangedAt := none }

def updateGroupTimes (groupId : String) (update : GroupTimesUpdate) : Mutator GroupTimesView := do
  lift (validateUnsignedTimestamps [update.createdAt.join, update.modifiedAt.join])
  lift (validateUnsignedTimestamps [update.lastAccessedAt.join, update.locationChangedAt.join])
  onGroup groupId (write (fun group =>
    let times := group.times.getD newGroupTimes
    { group with
      times := some
        { times with
          createdAt := update.createdAt.join.getD times.createdAt
          modifiedAt := update.modifiedAt.join.getD times.modifiedAt
          lastAccessedAt := update.lastAccessedAt.getD times.lastAccessedAt
          usageCount := update.usageCount.getD times.usageCount
          locationChangedAt := update.locationChangedAt.getD times.locationChangedAt } }) projectGroupTimes)

def updateGroupExpiry (groupId : String) (expires : Bool) (expiryTime : Option Int) : Mutator GroupExpiryView := do
  lift (validateOptionalTimestamp expiryTime)
  onGroup groupId (write (fun group =>
    { group with times := some { group.times.getD newGroupTimes with expires, expiryTime } }) projectGroupExpiry)

def updateGroupCustomIcon (groupId : String) (customIconId : Option String) : Mutator GroupView := do
  let parsed ← resolveCustomIcon customIconId
  onGroup groupId (write (fun group =>
    let group := if group.customIconId.isSome && parsed.isNone then group.removeNode "CustomIconUUID" else group
    { group with customIconId := parsed }) projectGroup)

def Group.writeCustomData (group : Group) (values : BTreeMap String String)
    (updatedItem : Option (String × Option Int)) : Group :=
  let reconciled := reconcileCustomDataBlocks group.customDataBlocks group.opaqueXml
    group.rawState.nodeOrder values updatedItem
  { group with
    customData := values
    customDataBlocks := reconciled.1
    opaqueXml := reconciled.2.1
    rawState := { group.rawState with nodeOrder := reconciled.2.2 } }

def upsertGroupCustomData (groupId : String) (item : CustomDataItemInput) : Mutator (List (String × String)) := do
  lift (checkCustomDataItem item.key item.value)
  onGroup groupId (write (fun group =>
    group.writeCustomData (group.customData.insert item.key item.value) (some (item.key, none)))
    fun group => projectCustomDataItems group.customData)

def upsertGroupCustomDataDetail (groupId : String) (item : CustomDataItem) : Mutator (List CustomDataItem) := do
  lift (checkCustomDataItem item.key item.value)
  lift (validateOptionalTimestamp item.lastModified)
  onGroup groupId (write (fun group =>
    group.writeCustomData (group.customData.insert item.key item.value) (some (item.key, item.lastModified)))
    fun group => projectCustomDataDetail group.customData group.customDataBlocks)

def deleteGroupCustomData (groupId key : String) : Mutator (List (String × String)) :=
  onGroup groupId do
    let _ ← require (customDataNotFound key) (← get).customData[key]?
    write (fun group => group.writeCustomData (group.customData.erase key) none)
      fun group => projectCustomDataItems group.customData

/-! ## Custom icons -/

structure CustomIconInput where
  id : Option String
  data : List UInt8
  name : Option String
  lastModified : Option Int

/-- `drawn` is the id that `fresh_custom_icon_uuid` returns if none is given. -/
def upsertCustomIcon (drawn : Uuid) (input : CustomIconInput) : Mutator CustomIconView := do
  lift (validateOptionalXmlText input.name "custom icon name")
  lift (validateOptionalTimestamp input.lastModified)
  let iconId := (← lift (parseOptionalUuid input.id)).getD drawn
  let icon : CustomIcon :=
    { id := iconId, data := input.data, name := input.name.filter fun name => !name.isEmpty
      lastModified := input.lastModified }
  write (fun vault =>
    { vault with
      customIcons :=
        match vault.customIcons.findIdx? fun known => known.id = iconId with
        | some index => vault.customIcons.set index icon
        | none => vault.customIcons ++ [icon] }) fun _ => projectCustomIcon icon

mutual
def clearCustomIconReferencesFromEntry (iconId : Uuid) : Entry → Entry
  | ⟨fields, history⟩ =>
      let entry : Entry :=
        if fields.customIconId = some iconId then
          { Entry.removeNode ⟨fields, history⟩ "CustomIconUUID" with customIconId := none }
        else ⟨fields, history⟩
      { entry with history := clearCustomIconReferencesFromEntries iconId history }

def clearCustomIconReferencesFromEntries (iconId : Uuid) : List Entry → List Entry
  | [] => []
  | entry :: rest =>
      clearCustomIconReferencesFromEntry iconId entry :: clearCustomIconReferencesFromEntries iconId rest
end

mutual
def clearCustomIconReferencesFromGroup (iconId : Uuid) : Group → Group
  | ⟨fields, entries, children⟩ =>
      let group : Group :=
        if fields.customIconId = some iconId then
          { Group.removeNode ⟨fields, entries, children⟩ "CustomIconUUID" with customIconId := none }
        else ⟨fields, entries, children⟩
      { group with
        entries := clearCustomIconReferencesFromEntries iconId entries
        children := clearCustomIconReferencesFromGroups iconId children }

def clearCustomIconReferencesFromGroups (iconId : Uuid) : List Group → List Group
  | [] => []
  | group :: rest =>
      clearCustomIconReferencesFromGroup iconId group :: clearCustomIconReferencesFromGroups iconId rest
end

def deleteCustomIcon (iconId : String) : Mutator Unit := do
  let parsed ← lift (parseUuid iconId)
  let index ← require (customIconNotFound iconId)
    ((← get).customIcons.findIdx? fun icon => icon.id = parsed)
  modify fun vault =>
    { vault with
      customIcons := vault.customIcons.eraseIdx index
      root := clearCustomIconReferencesFromGroup parsed vault.root }

/-! ## CustomData of the vault -/

def Vault.writeCustomData (vault : Vault) (values : BTreeMap String String)
    (updatedItem : Option (String × Option Int)) : Vault :=
  let reconciled := reconcileCustomDataBlocks vault.metaCustomDataBlocks vault.metaOpaqueXml
    vault.metaRawState.nodeOrder values updatedItem
  { vault with
    metaCustomData := values
    metaCustomDataBlocks := reconciled.1
    metaOpaqueXml := reconciled.2.1
    metaRawState := { vault.metaRawState with nodeOrder := reconciled.2.2 } }

def upsertVaultCustomData (item : CustomDataItemInput) : Mutator (List (String × String)) := do
  lift (checkCustomDataItem item.key item.value)
  write (fun vault =>
    vault.writeCustomData (vault.metaCustomData.insert item.key item.value) (some (item.key, none)))
    fun vault => projectCustomDataItems vault.metaCustomData

def upsertVaultCustomDataDetail (item : CustomDataItem) : Mutator (List CustomDataItem) := do
  lift (checkCustomDataItem item.key item.value)
  lift (validateOptionalTimestamp item.lastModified)
  write (fun vault =>
    vault.writeCustomData (vault.metaCustomData.insert item.key item.value) (some (item.key, item.lastModified)))
    fun vault => projectCustomDataDetail vault.metaCustomData vault.metaCustomDataBlocks

def deleteVaultCustomData (key : String) : Mutator (List (String × String)) := do
  let _ ← require (customDataNotFound key) (← get).metaCustomData[key]?
  write (fun vault => vault.writeCustomData (vault.metaCustomData.erase key) none)
    fun vault => projectCustomDataItems vault.metaCustomData

def upsertVaultPublicCustomData (key : String) (value : List UInt8) : Mutator (List (String × List UInt8)) := do
  lift (validateNonEmptyKey key "public custom data")
  write (fun vault => { vault with publicCustomData := vault.publicCustomData.insert key value })
    fun vault => projectPublicCustomDataItems vault.publicCustomData

def deleteVaultPublicCustomData (key : String) : Mutator (List (String × List UInt8)) := do
  let _ ← require (customDataNotFound key) (← get).publicCustomData[key]?
  write (fun vault => { vault with publicCustomData := vault.publicCustomData.erase key })
    fun vault => projectPublicCustomDataItems vault.publicCustomData

/-! ## Metadata of the vault -/

structure VaultMetadataUpdate where
  description : Option String := none
  defaultUsername : Option String := none
  color : Option String := none
  historyMaxItems : Option Int := none
  historyMaxSize : Option Int := none
  memoryProtection : Option MemoryProtection := none

/-- An empty text stands for an absent one. -/
def nonEmptyText (text : String) : Option String := if text.isEmpty then none else some text

def setDescription (update : Option String) (vault : Vault) : Vault :=
  match update with
  | none => vault
  | some description =>
      let vault := if (vault.description.isSome || vault.metaRawState.descriptionRaw.isSome)
        && description.isEmpty then vault.removeNode "DatabaseDescription" else vault
      { vault with
        description := nonEmptyText description
        metaRawState := { vault.metaRawState with descriptionRaw := none } }

def setDefaultUsername (update : Option String) (vault : Vault) : Vault :=
  match update with
  | none => vault
  | some defaultUsername =>
      let vault := if (vault.defaultUsername.isSome || vault.metaRawState.defaultUsernameRaw.isSome)
        && defaultUsername.isEmpty then vault.removeNode "DefaultUserName" else vault
      { vault with
        defaultUsername := nonEmptyText defaultUsername
        metaRawState := { vault.metaRawState with defaultUsernameRaw := none } }

def setColor (update : Option String) (vault : Vault) : Vault :=
  match update with
  | none => vault
  | some color =>
      let vault := if (vault.color.isSome || vault.metaRawState.colorRaw.isSome) && color.isEmpty then
        vault.removeNode "Color" else vault
      { vault with
        color := nonEmptyText color
        metaRawState := { vault.metaRawState with colorRaw := none } }

def updateVaultMetadata (update : VaultMetadataUpdate) : Mutator VaultMetadataView := do
  lift (validateOptionalXmlText update.description "vault description")
  lift (validateOptionalXmlText update.defaultUsername "vault default username")
  lift (validateOptionalXmlText update.color "vault color")
  write (fun vault =>
    let vault := setColor update.color (setDefaultUsername update.defaultUsername
      (setDescription update.description vault))
    { vault with
      historyMaxItems := update.historyMaxItems.or vault.historyMaxItems
      historyMaxSize := update.historyMaxSize.or vault.historyMaxSize
      memoryProtection := update.memoryProtection.or vault.memoryProtection }) projectVaultMetadata

structure VaultSelectionMetadataUpdate where
  lastSelectedGroupId : Option (Option String) := none
  lastTopVisibleGroupId : Option (Option String) := none

def setLastSelectedGroup (update : Option (Option Uuid)) (vault : Vault) : Vault :=
  match update with
  | none => vault
  | some lastSelectedGroup =>
      let vault := if vault.lastSelectedGroup.isSome && lastSelectedGroup.isNone then
        vault.removeNode "LastSelectedGroup" else vault
      { vault with lastSelectedGroup }

def setLastTopVisibleGroup (update : Option (Option Uuid)) (vault : Vault) : Vault :=
  match update with
  | none => vault
  | some lastTopVisibleGroup =>
      let vault := if vault.lastTopVisibleGroup.isSome && lastTopVisibleGroup.isNone then
        vault.removeNode "LastTopVisibleGroup" else vault
      { vault with lastTopVisibleGroup }

def updateVaultSelectionMetadata (update : VaultSelectionMetadataUpdate) : Mutator VaultSelectionMetadataView := do
  let lastSelectedGroup ← resolveGroupReferenceUpdate update.lastSelectedGroupId
  let lastTopVisibleGroup ← resolveGroupReferenceUpdate update.lastTopVisibleGroupId
  write (fun vault => setLastTopVisibleGroup lastTopVisibleGroup (setLastSelectedGroup lastSelectedGroup vault))
    projectVaultSelectionMetadata

/-- Nodes that were present and are not kept, one after the other. -/
def removeNodes (vault : Vault) (nodes : List (String × Bool × Bool)) : Vault :=
  nodes.foldl (fun vault (elementName, wasPresent, remainsPresent) =>
    if wasPresent && !remainsPresent then vault.removeNode elementName else vault) vault

def updateVaultLifecycleMetadata (update : VaultLifecycleMetadata) : Mutator VaultLifecycleMetadata := do
  lift (validateOptionalTimestamp update.settingsChanged)
  lift (validateOptionalTimestamp update.masterKeyChanged)
  write (fun vault =>
    { removeNodes vault
        [("SettingsChanged", vault.settingsChanged.isSome, update.settingsChanged.isSome),
          ("MaintenanceHistoryDays", vault.maintenanceHistoryDays.isSome, update.maintenanceHistoryDays.isSome),
          ("MasterKeyChanged", vault.masterKeyChanged.isSome, update.masterKeyChanged.isSome),
          ("MasterKeyChangeRec", vault.masterKeyChangeRec.isSome, update.masterKeyChangeRec.isSome),
          ("MasterKeyChangeForce", vault.masterKeyChangeForce.isSome, update.masterKeyChangeForce.isSome),
          ("MasterKeyChangeForceOnce", vault.masterKeyChangeForceOnce.isSome,
            update.masterKeyChangeForceOnce.isSome)] with
      settingsChanged := update.settingsChanged
      maintenanceHistoryDays := update.maintenanceHistoryDays
      masterKeyChanged := update.masterKeyChanged
      masterKeyChangeRec := update.masterKeyChangeRec
      masterKeyChangeForce := update.masterKeyChangeForce
      masterKeyChangeForceOnce := update.masterKeyChangeForceOnce }) projectVaultLifecycleMetadata

structure VaultBinTemplateMetadataUpdate where
  recycleBinEnabled : Option (Option Bool) := none
  recycleBinGroupId : Option (Option String) := none
  recycleBinChanged : Option (Option Int) := none
  entryTemplatesGroupId : Option (Option String) := none
  entryTemplatesGroupChanged : Option (Option Int) := none

def setRecycleBinEnabled (update : Option (Option Bool)) (vault : Vault) : Vault :=
  match update with
  | none => vault
  | some recycleBinEnabled =>
      let vault := if vault.recycleBinEnabled.isSome && recycleBinEnabled.isNone then
        vault.removeNode "RecycleBinEnabled" else vault
      { vault with recycleBinEnabled }

def setRecycleBinGroup (update : Option (Option Uuid)) (vault : Vault) : Vault :=
  match update with
  | none => vault
  | some recycleBinGroup =>
      let vault := if (vault.recycleBinGroup.isSome || vault.metaRawState.recycleBinGroupRaw.isSome)
        && recycleBinGroup.isNone then vault.removeNode "RecycleBinUUID" else vault
      { vault with recycleBinGroup, metaRawState := { vault.metaRawState with recycleBinGroupRaw := none } }

def setRecycleBinChanged (update : Option (Option Int)) (vault : Vault) : Vault :=
  match update with
  | none => vault
  | some recycleBinChanged =>
      let vault := if vault.recycleBinChanged.isSome && recycleBinChanged.isNone then
        vault.removeNode "RecycleBinChanged" else vault
      { vault with recycleBinChanged }

def setEntryTemplatesGroup (update : Option (Option Uuid)) (vault : Vault) : Vault :=
  match update with
  | none => vault
  | some entryTemplatesGroup =>
      let vault := if (vault.entryTemplatesGroup.isSome || vault.metaRawState.entryTemplatesGroupRaw.isSome)
        && entryTemplatesGroup.isNone then vault.removeNode "EntryTemplatesGroup" else vault
      { vault with
        entryTemplatesGroup, metaRawState := { vault.metaRawState with entryTemplatesGroupRaw := none } }

def setEntryTemplatesGroupChanged (update : Option (Option Int)) (vault : Vault) : Vault :=
  match update with
  | none => vault
  | some entryTemplatesGroupChanged =>
      let vault := if vault.entryTemplatesGroupChanged.isSome && entryTemplatesGroupChanged.isNone then
        vault.removeNode "EntryTemplatesGroupChanged" else vault
      { vault with entryTemplatesGroupChanged }

def updateVaultBinTemplateMetadata (update : VaultBinTemplateMetadataUpdate) :
    Mutator VaultBinTemplateMetadataView := do
  lift (validateOptionalTimestamp update.recycleBinChanged.join)
  lift (validateOptionalTimestamp update.entryTemplatesGroupChanged.join)
  let recycleBinGroup ← resolveGroupReferenceUpdate update.recycleBinGroupId
  let entryTemplatesGroup ← resolveGroupReferenceUpdate update.entryTemplatesGroupId
  write (fun vault =>
    setEntryTemplatesGroupChanged update.entryTemplatesGroupChanged
      (setEntryTemplatesGroup entryTemplatesGroup (setRecycleBinChanged update.recycleBinChanged
        (setRecycleBinGroup recycleBinGroup (setRecycleBinEnabled update.recycleBinEnabled vault)))))
    projectVaultBinTemplateMetadata

structure VaultIdentityMetadataUpdate where
  name : Option String := none
  generator : Option String := none
  databaseNameChanged : Option Int := none
  descriptionChanged : Option Int := none
  defaultUsernameChanged : Option Int := none

def updateVaultIdentityMetadata (update : VaultIdentityMetadataUpdate) : Mutator VaultIdentityMetadataView := do
  lift (validateOptionalXmlText update.name "vault name")
  lift (validateOptionalXmlText update.generator "vault generator")
  lift (validateOptionalTimestamp update.databaseNameChanged)
  lift (validateOptionalTimestamp update.descriptionChanged)
  lift (validateOptionalTimestamp update.defaultUsernameChanged)
  let generator := update.generator.bind nonEmptyText
  write (fun vault =>
    { removeNodes vault
        [("Generator", vault.generator.isSome, generator.isSome),
          ("DatabaseNameChanged", vault.databaseNameChanged.isSome, update.databaseNameChanged.isSome),
          ("DatabaseDescriptionChanged", vault.descriptionChanged.isSome, update.descriptionChanged.isSome),
          ("DefaultUserNameChanged", vault.defaultUsernameChanged.isSome,
            update.defaultUsernameChanged.isSome)] with
      name := update.name.getD vault.name
      generator
      databaseNameChanged := update.databaseNameChanged
      descriptionChanged := update.descriptionChanged
      defaultUsernameChanged := update.defaultUsernameChanged }) projectVaultIdentityMetadata

end VaultKern
