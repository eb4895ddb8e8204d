import VaultKern.Kdbx.Stream

/-! # Writing the document

The vault as a tree of elements, group by group and entry by entry. Values to protect
are marked in the tree and masked when the tree is whole.
-/

namespace VaultKern.Kdbx

/-- One attachment of the inner header. -/
structure InnerBinary where
  protectInMemory : Bool
  data : AttachmentContent
  deriving DecidableEq

/-! ## Attachments -/

/-- `binary_index_for_content_id`: the place of a content in the pool, and the pool with it. Contents are
    told apart by their ids, and one content is kept once for each protection. -/
def binaryIndexForContentId (sha256 : List UInt8 → List UInt8) (attachment : Attachment) (binaries : List InnerBinary) :
    Except KdbxError (Nat × List InnerBinary) :=
  let contentId := sha256 attachment.data.bytes
  if binaries.any fun binary => sha256 binary.data.bytes = contentId ∧ binary.data ≠ attachment.data then
    .error .attachmentContentHashCollision
  else
    match binaries.findIdx? fun binary =>
        binary.protectInMemory = attachment.protectInMemory ∧ sha256 binary.data.bytes = contentId with
    | some index => .ok (index, binaries)
    | none =>
        .ok (binaries.length,
          binaries ++ [{ protectInMemory := attachment.protectInMemory, data := attachment.data }])

/-- The binaries with those of one entry. -/
def collectEntryBinaries (sha256 : List UInt8 → List UInt8) (entry : Entry) (binaries : List InnerBinary) :
    Except KdbxError (List InnerBinary) :=
  entry.attachments.toList.foldlM (fun binaries (name, attachment) =>
    if name ≠ attachment.name then .error .invalidValue
    else do
      let (_, binaries) ← binaryIndexForContentId sha256 attachment binaries
      .ok binaries) binaries

mutual
def collectGroupBinaries (sha256 : List UInt8 → List UInt8) : Group → List InnerBinary → Except KdbxError (List InnerBinary)
  | ⟨_, entries, children⟩, binaries => do
      let binaries ← entries.foldlM (fun binaries entry => do
        let binaries ← collectEntryBinaries sha256 entry binaries
        entry.history.foldlM (fun binaries history => collectEntryBinaries sha256 history binaries) binaries) binaries
      collectChildrenBinaries sha256 children binaries

def collectChildrenBinaries (sha256 : List UInt8 → List UInt8) :
    List Group → List InnerBinary → Except KdbxError (List InnerBinary)
  | [], binaries => .ok binaries
  | child :: rest, binaries => do
      let binaries ← collectGroupBinaries sha256 child binaries
      collectChildrenBinaries sha256 rest binaries
end

/-- `collect_attachment_refs`. The reference of an attachment is the place of its binary. -/
def collectAttachmentRefs (sha256 : List UInt8 → List UInt8) (vault : Vault) : Except KdbxError (List InnerBinary) :=
  collectGroupBinaries sha256 vault.root []

def attachmentRef (binaries : List InnerBinary) (attachment : Attachment) : Nat :=
  binaries.idxOf { protectInMemory := attachment.protectInMemory, data := attachment.data }

/-! ## Entries -/

def groupTimesToXml (times : GroupTimes) : Element :=
  .ofElements "Times" (textFields [
    ("LastModificationTime", some (datetimeText times.modifiedAt)),
    ("CreationTime", some (datetimeText times.createdAt)),
    ("LastAccessTime", times.lastAccessedAt.map fun (seconds : Nat) => datetimeText seconds),
    ("ExpiryTime", times.expiryTime.map datetimeText),
    ("Expires", some (boolText times.expires)),
    ("UsageCount", times.usageCount.map toString),
    ("LocationChanged", times.locationChangedAt.map fun (seconds : Nat) => datetimeText seconds)])

def defaultGroupTimes : GroupTimes :=
  { createdAt := 0
    modifiedAt := 0
    expires := false
    expiryTime := none
    lastAccessedAt := none
    usageCount := none
    locationChangedAt := none }

/-- The times of an entry. They are written as those of a group. -/
def entryTimes (entry : Entry) : GroupTimes :=
  { createdAt := entry.createdAt
    modifiedAt := entry.modifiedAt
    expires := entry.expires
    expiryTime := entry.expiryTime
    lastAccessedAt := entry.lastAccessedAt
    usageCount := entry.usageCount
    locationChangedAt := entry.locationChangedAt }

def entryTimesToXml (entry : Entry) : Element := groupTimesToXml (entryTimes entry)

def autoTypeToXml (autoType : AutoTypeConfig) : Element :=
  .ofElements "AutoType" (textFields [
    ("Enabled", autoType.enabled.map boolText),
    ("DataTransferObfuscation", autoType.obfuscation.map toString),
    ("DefaultSequence", autoType.defaultSequence)]
    ++ autoType.associations.map fun association =>
      .ofElements "Association" (textFields [
        ("Window", some association.window), ("KeystrokeSequence", some association.sequence)]))

def stringFieldToXml (key : String) (field : CustomField) : Element :=
  .ofElements "String" [.ofText "Key" key,
    ⟨"Value", if field.isProtected then (∅ : BTreeMap String String).insert "Protected" "True" else ∅,
      [.text field.value]⟩]

/-- The string fields of an entry: the materialized attributes and the standard fields. -/
def entryStringFields (entry : Entry) : BTreeMap String CustomField :=
  (materializeEntryPersistentAttributes entry)
    |>.insert "Title" ⟨entry.title, entry.fieldProtection.protectTitle⟩
    |>.insert "UserName" ⟨entry.username, entry.fieldProtection.protectUsername⟩
    |>.insert "Password" ⟨entry.password, entry.fieldProtection.protectPassword⟩
    |>.insert "URL" ⟨entry.url, entry.fieldProtection.protectUrl⟩
    |>.insert "Notes" ⟨entry.notes, entry.fieldProtection.protectNotes⟩

/-- The fields with a recorded place, and then the others by key. -/
def orderFields : List String → BTreeMap String CustomField → List (String × CustomField)
  | [], fields => fields.toList
  | key :: rest, fields =>
      match fields[key]? with
      | some field => (key, field) :: orderFields rest (fields.erase key)
      | none => orderFields rest fields

/-- The attachments with a recorded place, and then the others by name. -/
def orderAttachments (binaryOrder : List String) (attachments : BTreeMap String Attachment) :
    List (String × Attachment) :=
  binaryOrder.filterMap (fun name => attachments[name]?.map fun attachment => (name, attachment))
    ++ attachments.toList.filter fun (name, _) => !binaryOrder.contains name

def binaryToXml (binaries : List InnerBinary) (name : String) (attachment : Attachment) : Element :=
  .ofElements "Binary" [.ofText "Key" name,
    ⟨"Value", (∅ : BTreeMap String String).insert "Ref" (toString (attachmentRef binaries attachment)), []⟩]

def shouldEmitHistory (entry : Entry) (includeHistory : Bool) : Bool :=
  includeHistory
    && (!entry.history.isEmpty || entry.rawState.hasHistoryNode || entry.rawState.nodeOrder.isEmpty)

section Scopes

variable (xml : XmlLibrary)

/-- CustomData, recorded order and fragments: how the writer ends every scope. -/
def finishScope (scope : String) (children : List Element) (blocks : List CustomDataBlock)
    (merged : BTreeMap String String) (nodeOrder : List String) (opaqueXml : List OpaqueXmlFragment)
    (version : KdbxVersion) : Except KdbxError Element := do
  let children ← appendCustomDataBlocks children blocks merged version
  let children := reorderKnownXmlNodes children nodeOrder
  validateCustomDataBlockPositions children blocks
  let children ← appendOpaqueXml xml scope children opaqueXml
  .ok (.ofElements scope children)

/-- The fields of an entry, before its strings. -/
def entryFields (entry : Entry) (version : KdbxVersion) : List Element :=
  textFields [
    ("UUID", some (encodeUuid entry.id)),
    ("IconID", entry.iconId.map toString),
    ("CustomIconUUID", entry.customIconId.map encodeUuid),
    ("ForegroundColor", entry.foregroundColor.or entry.rawState.foregroundColorRaw),
    ("BackgroundColor", entry.backgroundColor.or entry.rawState.backgroundColorRaw),
    ("OverrideURL", entry.overrideUrl.or entry.rawState.overrideUrlRaw),
    ("Tags", entry.rawState.tagsRaw.or (if entry.tags.isEmpty then none else some (joinTags entry.tags))),
    ("PreviousParentGroup", if version = .v4_1 then entry.previousParent.map encodeUuid else none),
    ("QualityCheck",
      if version = .v4_1 then entry.rawState.qualityCheckRaw.or (if entry.excludeFromReports then some "False" else none)
      else none)]
    ++ [entryTimesToXml entry]

/-- The children of an entry but its CustomData and fragments. `history` is the element of its
    history, if it is to be written. -/
def entryChildren (entry : Entry) (binaries : List InnerBinary) (history : Option Element) (version : KdbxVersion) :
    List Element :=
  entryFields entry version
    ++ (orderFields entry.rawState.stringOrder (entryStringFields entry)).map (fun (key, field) =>
      stringFieldToXml key field)
    ++ (orderAttachments entry.rawState.binaryOrder entry.attachments).map (fun (name, attachment) =>
      binaryToXml binaries name attachment)
    ++ (entry.autoType.map autoTypeToXml).toList
    ++ history.toList

def entryWithHistoryToXml (entry : Entry) (binaries : List InnerBinary) (history : Option Element)
    (version : KdbxVersion) : Except KdbxError Element :=
  finishScope xml "Entry" (entryChildren entry binaries history version) entry.customDataBlocks entry.customData
    entry.rawState.nodeOrder entry.opaqueXml version

/-- `entry_to_xml`. A history entry is written without its own history. -/
def entryToXml (entry : Entry) (binaries : List InnerBinary) (includeHistory : Bool) (version : KdbxVersion) :
    Except KdbxError Element := do
  let history ←
    if shouldEmitHistory entry includeHistory then do
      let snapshots ← entry.history.mapM fun old => entryWithHistoryToXml xml old binaries none version
      .ok (some (Element.ofElements "History" snapshots))
    else .ok none
  entryWithHistoryToXml xml entry binaries history version

/-! ## Groups -/

/-- The fields of a group, before its members. -/
def groupFields (group : Group) (version : KdbxVersion) : List Element :=
  textFields [
    ("UUID", some (encodeUuid group.id)),
    ("Name", some group.title),
    ("Notes", some group.notes),
    ("IconID", some (toString (group.iconId.getD 0))),
    ("CustomIconUUID", group.customIconId.map encodeUuid),
    ("Tags", if group.tags.isEmpty then none else some (joinTags group.tags))]
    ++ [groupTimesToXml (group.times.getD defaultGroupTimes)]
    ++ textFields [
      ("IsExpanded", some (boolText (group.flags.isExpanded.getD true))),
      ("DefaultAutoTypeSequence",
        some ((group.defaultAutoTypeSequence.or group.rawState.defaultAutoTypeSequenceRaw).getD "")),
      ("EnableAutoType",
        some ((group.rawState.enableAutoTypeRaw.or (group.flags.enableAutoType.map boolText)).getD "null")),
      ("EnableSearching",
        some ((group.rawState.enableSearchingRaw.or (group.flags.enableSearching.map boolText)).getD "null")),
      ("LastTopVisibleEntry", group.lastTopVisibleEntry.map encodeUuid),
      ("PreviousParentGroup", if version = .v4_1 then group.previousParent.map encodeUuid else none)]

mutual
def groupToXml (binaries : List InnerBinary) (version : KdbxVersion) : Group → Except KdbxError Element
  | ⟨fields, entries, children⟩ => do
      let group : Group := ⟨fields, entries, children⟩
      let entryElements ← entries.mapM fun entry => entryToXml xml entry binaries true version
      let childElements ← childrenToXml binaries version children
      finishScope xml "Group" (groupFields group version ++ entryElements ++ childElements) group.customDataBlocks
        group.customData group.rawState.nodeOrder group.opaqueXml version

def childrenToXml (binaries : List InnerBinary) (version : KdbxVersion) : List Group → Except KdbxError (List Element)
  | [] => .ok []
  | child :: rest => do
      let element ← groupToXml binaries version child
      let later ← childrenToXml binaries version rest
      .ok (element :: later)
end

/-! ## Meta and root -/

def memoryProtectionToXml (memoryProtection : MemoryProtection) (autoEnableVisualHidingRaw : Option String) : Element :=
  .ofElements "MemoryProtection" (textFields [
    ("ProtectTitle", some (boolText memoryProtection.protectTitle)),
    ("ProtectUserName", some (boolText memoryProtection.protectUsername)),
    ("ProtectPassword", some (boolText memoryProtection.protectPassword)),
    ("ProtectURL", some (boolText memoryProtection.protectUrl)),
    ("ProtectNotes", some (boolText memoryProtection.protectNotes)),
    ("AutoEnableVisualHiding", autoEnableVisualHidingRaw)])

def customIconToXml (icon : CustomIcon) (version : KdbxVersion) : Element :=
  .ofElements "Icon" (textFields [
    ("UUID", some (encodeUuid icon.id)),
    ("Name", if version = .v4_1 then icon.name else none),
    ("LastModificationTime", if version = .v4_1 then icon.lastModified.map datetimeText else none),
    ("Data", some (Base64.encode icon.data))])

def customIconsToXml (icons : List CustomIcon) (version : KdbxVersion) : Element :=
  .ofElements "CustomIcons" (icons.map (customIconToXml · version))

/-- The children of `Meta` but its CustomData and fragments. -/
def metaChildren (vault : Vault) (version : KdbxVersion) : List Element :=
  textFields [
    ("Generator", vault.generator),
    ("SettingsChanged", vault.settingsChanged.map datetimeText),
    ("DatabaseName", some vault.name),
    ("DatabaseNameChanged", vault.databaseNameChanged.map datetimeText),
    ("DatabaseDescription", vault.description.or vault.metaRawState.descriptionRaw),
    ("DatabaseDescriptionChanged", vault.descriptionChanged.map datetimeText),
    ("DefaultUserName", vault.defaultUsername.or vault.metaRawState.defaultUsernameRaw),
    ("DefaultUserNameChanged", vault.defaultUsernameChanged.map datetimeText),
    ("MaintenanceHistoryDays", vault.maintenanceHistoryDays.map toString),
    ("Color", vault.color.or vault.metaRawState.colorRaw)]
    ++ (vault.memoryProtection.map fun protection =>
      memoryProtectionToXml protection vault.metaRawState.memoryProtectionAutoEnableVisualHidingRaw).toList
    ++ (if !vault.customIcons.isEmpty || vault.metaRawState.hasCustomIconsNode then
      [customIconsToXml vault.customIcons version]
    else [])
    ++ textFields [
      ("RecycleBinEnabled", vault.recycleBinEnabled.map boolText),
      ("RecycleBinUUID", vault.recycleBinGroup.map encodeUuid),
      ("RecycleBinChanged", vault.recycleBinChanged.map datetimeText),
      ("EntryTemplatesGroup", vault.entryTemplatesGroup.map encodeUuid),
      ("EntryTemplatesGroupChanged", vault.entryTemplatesGroupChanged.map datetimeText),
      ("MasterKeyChanged", vault.masterKeyChanged.map datetimeText),
      ("MasterKeyChangeRec", vault.masterKeyChangeRec.map toString),
      ("MasterKeyChangeForce", vault.masterKeyChangeForce.map toString),
      ("MasterKeyChangeForceOnce", vault.masterKeyChangeForceOnce.map boolText),
      ("LastSelectedGroup", vault.lastSelectedGroup.map encodeUuid),
      ("LastTopVisibleGroup", vault.lastTopVisibleGroup.map encodeUuid),
      ("HistoryMaxItems", vault.historyMaxItems.map toString),
      ("HistoryMaxSize", vault.historyMaxSize.map toString)]

def metaToXml (vault : Vault) (version : KdbxVersion) : Except KdbxError Element :=
  finishScope xml "Meta" (metaChildren vault version) vault.metaCustomDataBlocks vault.metaCustomData
    vault.metaRawState.nodeOrder vault.metaOpaqueXml version

def deletedObjectToXml (deleted : DeletedObject) : Element :=
  .ofElements "DeletedObject" (textFields [
    ("UUID", some (encodeUuid deleted.id)), ("DeletionTime", some (datetimeText deleted.deletedAt))])

def deletedObjectsToXml (deletedObjects : List DeletedObject) : Element :=
  .ofElements "DeletedObjects"
    ((deletedObjects.mergeSort fun a b => a.id ≤ b.id).map deletedObjectToXml)

def rootToXml (vault : Vault) (group : Element) : Except KdbxError Element := do
  let deleted :=
    if !vault.deletedObjects.isEmpty || vault.rootRawState.hasDeletedObjectsNode then
      [deletedObjectsToXml vault.deletedObjects]
    else []
  let children := reorderKnownXmlNodes ([group] ++ deleted) vault.rootRawState.nodeOrder
  let children ← appendOpaqueXml xml "Root" children vault.rootOpaqueXml
  .ok (.ofElements "Root" children)

/-! ## The document -/

mutual
/-- `validate_xml_text` for one element and what is below it. -/
def validXmlText : Element → Bool
  | ⟨_, attributes, children⟩ => attributes.values.all isXml10Text && validNodesText children

def validNodesText : List (XMLNode Element) → Bool
  | [] => true
  | .element child :: rest => validXmlText child && validNodesText rest
  | .text text :: rest => isXml10Text text && validNodesText rest
  | .cData text :: rest => isXml10Text text && validNodesText rest
  | .comment text :: rest => isXml10Text text && validNodesText rest
  | .processingInstruction target value :: rest =>
      isXml10Text target && value.all isXml10Text && validNodesText rest
end

/-- The document before it is written, and the stream as protecting its values left it. -/
def buildDocument (vault : Vault) (binaries : List InnerBinary) (stream : ProtectedStream) (version : KdbxVersion) :
    Except KdbxError (Element × ProtectedStream) := do
  let metaElement ← metaToXml xml vault version
  let group ← groupToXml xml binaries version vault.root
  let (group, stream) ← protectXmlGroup group stream
  let rootElement ← rootToXml xml vault group
  let document := Element.ofElements "KeePassFile" [metaElement, rootElement]
  if validXmlText document then .ok (document, stream) else .error .invalidValue

def buildXml (library : StreamLibrary) (vault : Vault) (binaries : List InnerBinary) (innerKey : List UInt8)
    (version : KdbxVersion) : Except KdbxError (List UInt8 × ProtectedStream) :=
  if version ≠ .v4_0 ∧ version ≠ .v4_1 then .error .unsupportedVersion
  else do
    let stream ← ProtectedStream.newChacha library innerKey
    let (document, stream) ← buildDocument xml vault binaries stream version
    match xml.write document with
    | .ok bytes => .ok (bytes, stream)
    | .error message => .error (.xml message)

end Scopes

end VaultKern.Kdbx
