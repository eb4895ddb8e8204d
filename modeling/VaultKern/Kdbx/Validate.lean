import VaultKern.Kdbx.Write

/-! # What a vault must satisfy

The writer refuses a vault, and the reader a file, whose model would not be read back
as it stands: raw texts that contradict the modelled value, slots of nodes that are
not written, times out of range. Every failure is the same error and nothing is
changed, so the checks are one predicate.
-/

namespace VaultKern.Kdbx

/-! ## Pieces -/

/-- `validate_kdbx4_timestamp`. -/
def timestampIsValid (timestamp : Int) : Bool :=
  timestamp + kdbx4TimeOffset < 2 ^ 63 && 0 ≤ timestamp + kdbx4TimeOffset

def unsignedTimestampIsValid (timestamp : Nat) : Bool := timestamp < 2 ^ 63 && timestampIsValid timestamp

def rawCollapsedOptionalTextMatches (modeled raw : Option String) : Bool :=
  raw.all fun raw => modeled = if raw.isEmpty then none else some raw

def rawPresentTextMatches (modeled raw : Option String) : Bool := raw.all fun raw => modeled = some raw

def rawNullableBoolMatches (modeled : Option Bool) (raw : Option String) : Bool :=
  raw.all fun raw => parseNullableBoolStrict raw = some modeled

/-- No more slots of a name than nodes of that name are written. -/
def rawNodeSlotsAreValid (nodeOrder : List String) (emittedCounts : List (String × Nat)) : Bool :=
  nodeOrder.all fun name => (emittedCounts.lookup name).any fun emitted => nodeOrder.count name ≤ emitted

/-- Every slot of the element has one owner, and the owners are there. -/
def trackedIdentitySlotsAreValid {T : Type} [DecidableEq T] (elementName : String) (nodeOrder : List String)
    (trackedIdentities currentIdentities : List T) : Bool :=
  nodeOrder.count elementName = trackedIdentities.length && trackedIdentities.Nodup
    && trackedIdentities.all fun identity => identity ∈ currentIdentities

def trackedIdentityPrefixIsValid (trackedIdentities currentIdentities : List Uuid) : Bool :=
  trackedIdentities.isPrefixOf currentIdentities

def customDataModelIsValid (merged : BTreeMap String String) (blocks : List CustomDataBlock) : Bool :=
  merged.keys.all (fun key => !key.isEmpty)
    && blocks.all (fun block => block.items.all fun item =>
      !item.key.isEmpty && item.lastModified.all timestampIsValid)
    && mergeCustomDataBlocks blocks = merged

/-! ## Emitted nodes -/

def customDataEmittedCount (blocks : List CustomDataBlock) (merged : BTreeMap String String) : Nat :=
  if blocks.isEmpty then (!merged.isEmpty).toNat else blocks.length

def metaEmittedNodeCounts (vault : Vault) : List (String × Nat) :=
  [("Generator", vault.generator.isSome.toNat),
    ("SettingsChanged", vault.settingsChanged.isSome.toNat),
    ("DatabaseName", 1),
    ("DatabaseNameChanged", vault.databaseNameChanged.isSome.toNat),
    ("DatabaseDescription", (vault.description.isSome || vault.metaRawState.descriptionRaw.isSome).toNat),
    ("DatabaseDescriptionChanged", vault.descriptionChanged.isSome.toNat),
    ("DefaultUserName", (vault.defaultUsername.isSome || vault.metaRawState.defaultUsernameRaw.isSome).toNat),
    ("DefaultUserNameChanged", vault.defaultUsernameChanged.isSome.toNat),
    ("MaintenanceHistoryDays", vault.maintenanceHistoryDays.isSome.toNat),
    ("Color", (vault.color.isSome || vault.metaRawState.colorRaw.isSome).toNat),
    ("MemoryProtection", vault.memoryProtection.isSome.toNat),
    ("CustomIcons", (!vault.customIcons.isEmpty || vault.metaRawState.hasCustomIconsNode).toNat),
    ("RecycleBinEnabled", vault.recycleBinEnabled.isSome.toNat),
    ("RecycleBinUUID", vault.recycleBinGroup.isSome.toNat),
    ("RecycleBinChanged", vault.recycleBinChanged.isSome.toNat),
    ("EntryTemplatesGroup", vault.entryTemplatesGroup.isSome.toNat),
    ("EntryTemplatesGroupChanged", vault.entryTemplatesGroupChanged.isSome.toNat),
    ("MasterKeyChanged", vault.masterKeyChanged.isSome.toNat),
    ("MasterKeyChangeRec", vault.masterKeyChangeRec.isSome.toNat),
    ("MasterKeyChangeForce", vault.masterKeyChangeForce.isSome.toNat),
    ("MasterKeyChangeForceOnce", vault.masterKeyChangeForceOnce.isSome.toNat),
    ("LastSelectedGroup", vault.lastSelectedGroup.isSome.toNat),
    ("LastTopVisibleGroup", vault.lastTopVisibleGroup.isSome.toNat),
    ("HistoryMaxItems", vault.historyMaxItems.isSome.toNat),
    ("HistoryMaxSize", vault.historyMaxSize.isSome.toNat),
    ("CustomData", customDataEmittedCount vault.metaCustomDataBlocks vault.metaCustomData)]

def rootEmittedNodeCounts (vault : Vault) : List (String × Nat) :=
  [("Group", 1),
    ("DeletedObjects", (!vault.deletedObjects.isEmpty || vault.rootRawState.hasDeletedObjectsNode).toNat)]

def groupEmittedNodeCounts (group : Group) : List (String × Nat) :=
  [("UUID", 1), ("Name", 1), ("Notes", 1), ("IconID", 1), ("Times", 1), ("IsExpanded", 1),
    ("DefaultAutoTypeSequence", 1), ("EnableAutoType", 1), ("EnableSearching", 1),
    ("LastTopVisibleEntry", group.lastTopVisibleEntry.isSome.toNat),
    ("CustomIconUUID", group.customIconId.isSome.toNat),
    ("Tags", (!group.tags.isEmpty).toNat),
    ("PreviousParentGroup", group.previousParent.isSome.toNat),
    ("Entry", group.entries.length),
    ("Group", group.children.length),
    ("CustomData", customDataEmittedCount group.customDataBlocks group.customData)]

def entryEmittedNodeCounts (entry : Entry) (includeHistory : Bool) : List (String × Nat) :=
  [("UUID", 1), ("Times", 1),
    ("IconID", entry.iconId.isSome.toNat),
    ("CustomIconUUID", entry.customIconId.isSome.toNat),
    ("ForegroundColor", (entry.foregroundColor.isSome || entry.rawState.foregroundColorRaw.isSome).toNat),
    ("BackgroundColor", (entry.backgroundColor.isSome || entry.rawState.backgroundColorRaw.isSome).toNat),
    ("OverrideURL", (entry.overrideUrl.isSome || entry.rawState.overrideUrlRaw.isSome).toNat),
    ("Tags", (!entry.tags.isEmpty || entry.rawState.tagsRaw.isSome).toNat),
    ("PreviousParentGroup", entry.previousParent.isSome.toNat),
    ("QualityCheck", (entry.excludeFromReports || entry.rawState.qualityCheckRaw.any parseBoolText).toNat),
    ("String", (materializeEntryPersistentAttributes entry).size + 5),
    ("Binary", entry.attachments.size),
    ("AutoType", entry.autoType.isSome.toNat),
    ("History", (shouldEmitHistory entry includeHistory).toNat),
    ("CustomData", customDataEmittedCount entry.customDataBlocks entry.customData)]

/-! ## Entries -/

def isStandardEntryFieldName (name : String) : Bool := name ∈ ["Title", "UserName", "Password", "URL", "Notes"]

def structuredTotpIsPersistenceValid (totp : TotpSpec) : Bool :=
  match totp.accountName with
  | none => false
  | some accountName =>
      !accountName.isEmpty && !totp.secretBase32.isEmpty && totp.issuer.all (fun issuer => !issuer.isEmpty)
        && (totp.issuer.isSome || !accountName.toList.contains ':')

def noneIsNil (ids : List (Option Uuid)) : Bool := ids.all fun id => id.all fun id => !isNil id

def entryTimesAreValid (entry : Entry) : Bool :=
  unsignedTimestampIsValid entry.createdAt && unsignedTimestampIsValid entry.modifiedAt
    && entry.expiryTime.all timestampIsValid && entry.lastAccessedAt.all unsignedTimestampIsValid
    && entry.locationChangedAt.all unsignedTimestampIsValid

/-- `validate_entry_model`, but for the history. -/
def entryStateIsValid (entry : Entry) (ownerId : Uuid) (isSnapshot : Bool) : Bool :=
  (!isSnapshot || (entry.id = ownerId && entry.history.isEmpty && !entry.rawState.hasHistoryNode))
    && noneIsNil [entry.customIconId, entry.previousParent]
    && tagsArePersistenceValid entry.tags
    && entry.attributes.keys.all (fun key => !key.isEmpty && !isStandardEntryFieldName key)
    && entry.attachments.toList.all (fun (key, attachment) => !key.isEmpty && attachment.name = key)
    && rawPresentTextMatches entry.foregroundColor entry.rawState.foregroundColorRaw
    && rawPresentTextMatches entry.backgroundColor entry.rawState.backgroundColorRaw
    && rawPresentTextMatches entry.overrideUrl entry.rawState.overrideUrlRaw
    && entry.rawState.tagsRaw.all (fun raw => parseTags raw = entry.tags)
    && entry.locationChangedAt.isSome
    && (!entry.expires || entry.expiryTime.isSome)
    && entry.totp.all structuredTotpIsPersistenceValid
    && rawNodeSlotsAreValid entry.rawState.nodeOrder (entryEmittedNodeCounts entry (!isSnapshot))
    && trackedIdentitySlotsAreValid "String" entry.rawState.nodeOrder entry.rawState.stringOrder
      (["Title", "UserName", "Password", "URL", "Notes"] ++ (materializeEntryPersistentAttributes entry).keys)
    && trackedIdentitySlotsAreValid "Binary" entry.rawState.nodeOrder entry.rawState.binaryOrder entry.attachments.keys
    && customDataModelIsValid entry.customData entry.customDataBlocks
    && entryTimesAreValid entry
    && entry.rawState.qualityCheckRaw.all (fun raw =>
      parseBoolTextStrict raw = some (!entry.excludeFromReports))

/-- `validate_entry_model`. A snapshot has no history. -/
def entryModelIsValid (entry : Entry) : Bool :=
  entryStateIsValid entry entry.id false
    && entry.history.all fun snapshot => entryStateIsValid snapshot entry.id true

/-! ## Groups -/

def groupTimesAreValid (times : GroupTimes) : Bool :=
  unsignedTimestampIsValid times.createdAt && unsignedTimestampIsValid times.modifiedAt
    && times.expiryTime.all timestampIsValid && times.lastAccessedAt.all unsignedTimestampIsValid
    && times.locationChangedAt.all unsignedTimestampIsValid

/-- `validate_group_model`, but for the members and the uniqueness of the ids. -/
def groupStateIsValid (group : Group) : Bool :=
  !isNil group.id
    && noneIsNil [group.customIconId, group.lastTopVisibleEntry, group.previousParent]
    && group.defaultAutoTypeSequence.all (fun text => !text.isEmpty)
    && rawCollapsedOptionalTextMatches group.defaultAutoTypeSequence group.rawState.defaultAutoTypeSequenceRaw
    && rawNullableBoolMatches group.flags.enableAutoType group.rawState.enableAutoTypeRaw
    && rawNullableBoolMatches group.flags.enableSearching group.rawState.enableSearchingRaw
    && group.rawState.lastTopVisibleEntryRaw.isNone
    && tagsArePersistenceValid group.tags
    && rawNodeSlotsAreValid group.rawState.nodeOrder (groupEmittedNodeCounts group)
    && trackedIdentitySlotsAreValid "Entry" group.rawState.nodeOrder group.rawState.entryOrder
      (group.entries.map (·.id))
    && trackedIdentityPrefixIsValid group.rawState.entryOrder (group.entries.map (·.id))
    && trackedIdentitySlotsAreValid "Group" group.rawState.nodeOrder group.rawState.groupOrder
      (group.children.map (·.id))
    && trackedIdentityPrefixIsValid group.rawState.groupOrder (group.children.map (·.id))
    && customDataModelIsValid group.customData group.customDataBlocks
    && group.times.all groupTimesAreValid

mutual
def groupModelIsValid : Group → Bool
  | ⟨fields, entries, children⟩ =>
      groupStateIsValid ⟨fields, entries, children⟩
        && entries.all (fun entry => !isNil entry.id && entryModelIsValid entry)
        && childModelsAreValid children

def childModelsAreValid : List Group → Bool
  | [] => true
  | child :: rest => groupModelIsValid child && childModelsAreValid rest
end

mutual
/-- The ids of the live objects, groups and entries alike. -/
def liveIds : Group → List Uuid
  | ⟨fields, entries, children⟩ => fields.id :: entries.map (·.id) ++ childLiveIds children

def childLiveIds : List Group → List Uuid
  | [] => []
  | child :: rest => liveIds child ++ childLiveIds rest
end

/-! ## The vault -/

def metaTimestamps (vault : Vault) : List (Option Int) :=
  [vault.settingsChanged, vault.databaseNameChanged, vault.descriptionChanged, vault.defaultUsernameChanged,
    vault.masterKeyChanged, vault.recycleBinChanged, vault.entryTemplatesGroupChanged]

def customIconIsValid (icon : CustomIcon) : Bool :=
  !isNil icon.id && icon.name.all (fun name => !name.isEmpty) && icon.lastModified.all timestampIsValid

def metaStateIsValid (vault : Vault) : Bool :=
  [vault.generator, vault.description, vault.defaultUsername, vault.color].all (fun text =>
      text.all fun text => !text.isEmpty)
    && noneIsNil [vault.recycleBinGroup, vault.entryTemplatesGroup, vault.lastSelectedGroup, vault.lastTopVisibleGroup]
    && vault.publicCustomData.keys.all (fun key => !key.isEmpty)
    && rawCollapsedOptionalTextMatches vault.description vault.metaRawState.descriptionRaw
    && rawCollapsedOptionalTextMatches vault.defaultUsername vault.metaRawState.defaultUsernameRaw
    && rawCollapsedOptionalTextMatches vault.color vault.metaRawState.colorRaw
    && vault.metaRawState.recycleBinGroupRaw.isNone
    && vault.metaRawState.entryTemplatesGroupRaw.isNone
    && vault.metaRawState.memoryProtectionAutoEnableVisualHidingRaw.all (fun raw =>
      vault.memoryProtection.isSome && (parseBoolTextStrict raw).isSome)
    && rawNodeSlotsAreValid vault.metaRawState.nodeOrder (metaEmittedNodeCounts vault)
    && rawNodeSlotsAreValid vault.rootRawState.nodeOrder (rootEmittedNodeCounts vault)
    && customDataModelIsValid vault.metaCustomData vault.metaCustomDataBlocks
    && (metaTimestamps vault).all (fun timestamp => timestamp.all timestampIsValid)
    && vault.customIcons.all customIconIsValid
    && (vault.customIcons.map (·.id)).Nodup

def deletedObjectsAreValid (deletedObjects : List DeletedObject) : Bool :=
  deletedObjects.all (fun deleted => !isNil deleted.id && timestampIsValid deleted.deletedAt)
    && (deletedObjects.map (·.id)).Nodup

def vaultModelIsValid (vault : Vault) : Bool :=
  metaStateIsValid vault && groupModelIsValid vault.root && (liveIds vault.root).Nodup
    && deletedObjectsAreValid vault.deletedObjects

def validateVaultModel (vault : Vault) : Except KdbxError Unit :=
  if vaultModelIsValid vault then .ok () else .error .invalidValue

/-! ## The version a vault needs -/

def customDataRequires41 (blocks : List CustomDataBlock) (merged : BTreeMap String String) : Bool :=
  mergeCustomDataBlocks blocks = merged
    && blocks.any fun block => block.items.any fun item => item.lastModified.isSome

def hasProjectablePasskey (entry : Entry) : Bool :=
  (entry.passkey.or (PasskeyRecord.fromAttributes entry.attributes)).isSome

def entryStateRequires41 (entry : Entry) : Bool :=
  entry.excludeFromReports || entry.rawState.qualityCheckRaw.isSome || entry.previousParent.isSome
    || hasProjectablePasskey entry || customDataRequires41 entry.customDataBlocks entry.customData

mutual
def entryRequires41 : Entry → Bool
  | ⟨fields, history⟩ => entryStateRequires41 ⟨fields, history⟩ || historyRequires41 history

def historyRequires41 : List Entry → Bool
  | [] => false
  | entry :: rest => entryRequires41 entry || historyRequires41 rest
end

mutual
def groupRequires41 : Group → Bool
  | ⟨fields, entries, children⟩ =>
      !fields.tags.isEmpty || fields.previousParent.isSome
        || customDataRequires41 fields.customDataBlocks fields.customData
        || historyRequires41 entries || childrenRequire41 children

def childrenRequire41 : List Group → Bool
  | [] => false
  | child :: rest => groupRequires41 child || childrenRequire41 rest
end

def requiredVersion (vault : Vault) : KdbxVersion :=
  if customDataRequires41 vault.metaCustomDataBlocks vault.metaCustomData
      || vault.customIcons.any (fun icon => icon.name.any (fun name => !name.isEmpty) || icon.lastModified.isSome)
      || groupRequires41 vault.root then .v4_1
  else .v4_0

end VaultKern.Kdbx
