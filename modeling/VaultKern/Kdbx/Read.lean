import VaultKern.Kdbx.Validate
import VaultKern.Lib.Attempt

/-! # Reading the document

The reader goes down the tree and unmasks each protected value when it meets it. What it
does not know it keeps as text. Nodes that stand for nothing, such as an empty UUID, leave
no slot behind, and anchors at them move to the node before.
-/

namespace VaultKern.Kdbx

/-- The reader holds the stream by reference, so a failure leaves it where it stood. -/
abbrev Reading (A : Type) := Attempt KdbxError ProtectedStream A

def unmask (bytes : List UInt8) : Reading (List UInt8) := modifyGet fun stream => stream.apply bytes

/-- The libraries the reader uses. `rfc3339` gives the seconds of a time in that format. -/
structure ReadLibrary where
  xml : XmlLibrary
  rfc3339 : String → Option Int
  gzipDecompress : List UInt8 → Option (List UInt8)

section Readers

variable (library : ReadLibrary)

/-! ## Fields -/

def parseBoolAttribute (element : Element) (name : String) : Except KdbxError Bool :=
  match element.attributes[name]? with
  | none => .ok false
  | some value =>
      match parseBoolTextStrict value with
      | some value => .ok value
      | none => .error .invalidValue

def requiredText (element : Element) (name : String) : Except KdbxError String :=
  match childText element name with
  | some text => .ok text
  | none => .error .invalidValue

def decodeBase64 (text : String) : Except KdbxError (List UInt8) :=
  match Base64.decode text with
  | some bytes => .ok bytes
  | none => .error .invalidValue

/-- The optional UUID of a child. -/
def childUuid (element : Element) (name : String) : Except KdbxError (Option Uuid) :=
  match childText element name with
  | some text => parseOptionalUuid text
  | none => .ok none

def childUnsigned (bound : Nat) (element : Element) (name : String) : Option Nat :=
  (childText element name).bind fun text => parseUnsigned bound (trimText text)

def childSigned (bits : Nat) (element : Element) (name : String) : Option Int :=
  (childText element name).bind fun text => parseSigned bits (trimText text)

def childDatetime (element : Element) (name : String) : Option Int :=
  (childText element name).bind (parseOptionalDatetime library.rfc3339)

def childDatetimeValue (element : Element) (name : String) : Option Nat :=
  (childText element name).bind (parseDatetimeValue library.rfc3339)

def childBool (element : Element) (name : String) : Option Bool := (childText element name).map parseBoolText

def fromUtf8 (bytes : List UInt8) : Except KdbxError String :=
  match String.fromUTF8? ⟨bytes.toArray⟩ with
  | some text => .ok text
  | none => .error .invalidValue

def parseStringField (element : Element) : Reading (String × CustomField) := do
  let key ← Attempt.lift (requiredText element "Key")
  let valueElement ← Attempt.lift (child element "Value")
  let value := valueElement.getText.getD ""
  let isProtected ← Attempt.lift (parseBoolAttribute valueElement "Protected")
  if isProtected then do
    let bytes ← Attempt.lift (decodeBase64 value)
    let bytes ← unmask bytes
    let value ← Attempt.lift (fromUtf8 bytes)
    return (key, { value, isProtected })
  else return (key, { value, isProtected })

/-- The content of a compressed attachment. -/
def decompressBinary (compressed : Bool) (data : List UInt8) : Except KdbxError (List UInt8) :=
  if compressed then
    match library.gzipDecompress data with
    | some data => .ok data
    | none => .error .invalidValue
  else .ok data

/-- The attachment that a reference stands for. -/
def referredBinary (binaries : List InnerBinary) (name reference : String) : Except KdbxError Attachment :=
  match (parseUnsigned (2 ^ 64) (trimText reference)).bind (binaries[·]?) with
  | some binary => .ok { name, data := binary.data, protectInMemory := binary.protectInMemory }
  | none => .error .invalidValue

/-- The attachment of a `Binary` child: a reference into the inner header, or the content itself. -/
def parseBinary (binaries : List InnerBinary) (name : String) (value : Element) : Reading Attachment :=
  match value.attributes["Ref"]? with
  | some reference => Attempt.lift do
      if (← parseBoolAttribute value "Protected") || (← parseBoolAttribute value "Compressed") then
        .error .invalidValue
      else referredBinary binaries name reference
  | none => do
      let compressed ← Attempt.lift (parseBoolAttribute value "Compressed")
      let protectedInMemory ← Attempt.lift (parseBoolAttribute value "Protected")
      let data ← Attempt.lift (decodeBase64 (value.getText.getD ""))
      let data ← if protectedInMemory then unmask data else pure data
      let data ← Attempt.lift (decompressBinary library compressed data)
      return { name, data := { bytes := data }, protectInMemory := protectedInMemory }

def parseGroupTimes (element : Element) : GroupTimes :=
  { createdAt := (childDatetimeValue library element "CreationTime").getD 0
    modifiedAt := (childDatetimeValue library element "LastModificationTime").getD 0
    expires := (childBool element "Expires").getD false
    expiryTime := (childText element "ExpiryTime").bind (parseDatetimeI64 library.rfc3339)
    lastAccessedAt := childDatetimeValue library element "LastAccessTime"
    usageCount := childUnsigned (2 ^ 64) element "UsageCount"
    locationChangedAt := childDatetimeValue library element "LocationChanged" }

def parseAutoType (element : Element) : AutoTypeConfig :=
  { enabled := (childText element "Enabled").bind parseNullableBool
    obfuscation := childSigned 32 element "DataTransferObfuscation"
    defaultSequence := childTextPreserveEmpty element "DefaultSequence"
    associations := (element.elements.filter fun child => child.name = "Association").map fun child =>
      { window := (childText child "Window").getD "", sequence := (childText child "KeystrokeSequence").getD "" } }

/-! ## Entries -/

/-- What the loop over the children of an entry has read. -/
structure EntryScan where
  stringOrder : List String := []
  rawFields : BTreeMap String CustomField := ∅
  binaryOrder : List String := []
  attachments : BTreeMap String Attachment := ∅
  history : List Entry := []
  autoType : Option AutoTypeConfig := none
  opaqueXml : List OpaqueXmlFragment := []
  /-- The known children met so far. -/
  seen : List String := []

def EntryScan.note (scan : EntryScan) (name : String) : EntryScan := { scan with seen := scan.seen ++ [name] }

/-- The children of an entry that hold no entry. -/
def parseEntryChild (binaries : List InnerBinary) (child : Element) (scan : EntryScan) : Reading EntryScan :=
  match child.name with
  | "String" => do
      let (key, field) ← parseStringField child
      return ({ scan with
        stringOrder := scan.stringOrder ++ [key]
        rawFields := scan.rawFields.insert key field } : EntryScan).note child.name
  | "Binary" => do
      let name ← Attempt.lift (requiredText child "Key")
      let value ← Attempt.lift (Kdbx.child child "Value")
      let attachment ← parseBinary library binaries name value
      if scan.attachments.contains name then Attempt.fail .invalidValue
      else
        return ({ scan with
          binaryOrder := scan.binaryOrder ++ [name]
          attachments := scan.attachments.insert name attachment } : EntryScan).note child.name
  | "AutoType" => return ({ scan with autoType := some (parseAutoType child) } : EntryScan).note child.name
  | name => Attempt.lift do
      if name ∈ entryKnownChildNames then .ok (scan.note name)
      else do
        let text ← elementToXmlString library.xml child
        .ok { scan with opaqueXml := scan.opaqueXml ++ [{ xml := text, after := lastAnchor scan.seen }] }

def childRaw (element : Element) (name : String) : Option String := childTextPreserveEmpty element name

/-- What is read of an entry before the loop. -/
structure EntryHead where
  id : Uuid
  iconId : Option Nat
  customIconId : Option Uuid
  customData : BTreeMap String String
  customDataBlocks : List CustomDataBlock
  previousParent : Option Uuid
  qualityCheckRaw : Option String

def parseEntryHead (element : Element) : Except KdbxError EntryHead := do
  let id ← decodeUuid (← requiredText element "UUID")
  let customIconId ← childUuid element "CustomIconUUID"
  let (customData, customDataBlocks) :=
    parseCustomDataBlocksWithKnownChildren library.rfc3339 element entryKnownChildNames
  let previousParent ← childUuid element "PreviousParentGroup"
  .ok
    { id
      iconId := childUnsigned (2 ^ 32) element "IconID"
      customIconId, customData, customDataBlocks, previousParent
      qualityCheckRaw := childRaw element "QualityCheck" }

/-- The quality check that old files keep in CustomData. -/
def EntryHead.legacyKnownBad (head : EntryHead) : Option Bool :=
  head.customData["KnownBad"]?.bind parseBoolTextStrict

def EntryHead.excludeFromReports (head : EntryHead) : Bool :=
  head.legacyKnownBad.getD ((head.qualityCheckRaw.map fun value => !parseBoolText value).getD false)

/-- The children of an entry that stand for nothing. -/
def collapsedEntryNodes (element : Element) (head : EntryHead) : List String :=
  [("IconID", head.iconId.isNone), ("CustomIconUUID", head.customIconId.isNone),
    ("PreviousParentGroup", head.previousParent.isNone)].filterMap fun (name, valueIsNone) =>
      if valueIsNone && (element.childOptional name).isSome then some name else none

/-- The attributes that no projection stands for, with their protection. -/
def remainingAttributes (rawFields : BTreeMap String CustomField) (hasTotp hasPasskey : Bool) :
    BTreeMap String CustomField :=
  rawFields.filterMap fun key field =>
    if hasTotp && isTotpPersistentAttributeKey key || hasPasskey && PasskeyRecord.isPersistentAttributeKey key then none
    else some { field with
      isProtected := field.isProtected || (!hasTotp && isTotpSecretPersistentAttributeKey key)
        || (!hasPasskey && PasskeyRecord.isSensitivePersistentAttributeKey key) }

def standardFieldNames : List String := ["Title", "UserName", "Password", "URL", "Notes"]

/-- The scope without the nodes that stand for nothing, and without a legacy quality check. -/
def settleEntryNodes (element : Element) (head : EntryHead) (opaqueXml : List OpaqueXmlFragment) :
    Except KdbxError (BTreeMap String String × ScopeNodes) := do
  let nodes ← retargetRemovedScopeNodes
    { customDataBlocks := head.customDataBlocks
      opaqueXml
      nodeOrder := collectKnownNodeOrder entryKnownChildNames element }
    (collapsedEntryNodes element head)
  if head.legacyKnownBad.isNone then .ok (head.customData, nodes)
  else
    let customData := head.customData.erase "KnownBad"
    let (customDataBlocks, opaqueXml, nodeOrder) :=
      reconcileCustomDataBlocks nodes.customDataBlocks nodes.opaqueXml nodes.nodeOrder customData none
    .ok (customData, { customDataBlocks, opaqueXml, nodeOrder })

/-- The entry, from what was read before the loop and in it. -/
def finishEntry (element : Element) (head : EntryHead) (scan : EntryScan) : Except KdbxError Entry := do
  let (customData, nodes) ← settleEntryNodes element head scan.opaqueXml
  let times := (element.childOptional "Times").map (parseGroupTimes library)
  let field (name : String) : String := (scan.rawFields[name]?.map (·.value)).getD ""
  let protection (name : String) (unset : Bool) : Bool := (scan.rawFields[name]?.map (·.isProtected)).getD unset
  let unset : EntryFieldProtection := {}
  let rawFields := scan.rawFields.filter fun key _ => key ∉ standardFieldNames
  let totp := totpFromPersistentAttributes rawFields
  let passkey := PasskeyRecord.fromAttributes rawFields
  .ok
    { id := head.id
      title := field "Title"
      username := field "UserName"
      password := field "Password"
      url := field "URL"
      notes := field "Notes"
      fieldProtection :=
        { protectTitle := protection "Title" unset.protectTitle
          protectUsername := protection "UserName" unset.protectUsername
          protectPassword := protection "Password" unset.protectPassword
          protectUrl := protection "URL" unset.protectUrl
          protectNotes := protection "Notes" unset.protectNotes }
      tags := ((childText element "Tags").map parseTags).getD ∅
      attributes := remainingAttributes rawFields totp.isSome passkey.isSome
      attachments := scan.attachments
      totp, passkey
      iconId := head.iconId
      customIconId := head.customIconId
      foregroundColor := childTextPreserveEmpty element "ForegroundColor"
      backgroundColor := childTextPreserveEmpty element "BackgroundColor"
      overrideUrl := childTextPreserveEmpty element "OverrideURL"
      createdAt := (times.map (·.createdAt)).getD 0
      modifiedAt := (times.map (·.modifiedAt)).getD 0
      expires := (times.map (·.expires)).getD false
      expiryTime := times.bind (·.expiryTime)
      lastAccessedAt := times.bind (·.lastAccessedAt)
      usageCount := times.bind (·.usageCount)
      locationChangedAt := (times.bind (·.locationChangedAt)).or (some 0)
      autoType := scan.autoType
      customData
      customDataBlocks := nodes.customDataBlocks
      previousParent := head.previousParent
      excludeFromReports := head.excludeFromReports
      rawState :=
        { nodeOrder := nodes.nodeOrder
          stringOrder := scan.stringOrder
          binaryOrder := scan.binaryOrder
          foregroundColorRaw := childRaw element "ForegroundColor"
          backgroundColorRaw := childRaw element "BackgroundColor"
          overrideUrlRaw := childRaw element "OverrideURL"
          tagsRaw := childRaw element "Tags"
          qualityCheckRaw := head.qualityCheckRaw
          hasHistoryNode := (element.childOptional "History").isSome }
      opaqueXml := nodes.opaqueXml
      history := scan.history }

mutual
def parseEntry (binaries : List InnerBinary) : Element → Reading Entry
  | ⟨name, attributes, children⟩ => do
      let head ← Attempt.lift (parseEntryHead library ⟨name, attributes, children⟩)
      let scan ← parseEntryChildren binaries children {}
      Attempt.lift (finishEntry library ⟨name, attributes, children⟩ head scan)

def parseEntryChildren (binaries : List InnerBinary) : List (XMLNode Element) → EntryScan → Reading EntryScan
  | [], scan => return scan
  | .element ⟨name, attributes, children⟩ :: rest, scan =>
      if name = "History" then do
        let entries ← parseHistory binaries children
        parseEntryChildren binaries rest (({ scan with history := scan.history ++ entries } : EntryScan).note name)
      else do
        let scan ← parseEntryChild library binaries ⟨name, attributes, children⟩ scan
        parseEntryChildren binaries rest scan
  | _ :: rest, scan => parseEntryChildren binaries rest scan

/-- The entries of a `History` child. -/
def parseHistory (binaries : List InnerBinary) : List (XMLNode Element) → Reading (List Entry)
  | [] => return []
  | .element child :: rest =>
      if child.name = "Entry" then do
        let entry ← parseEntry binaries child
        let later ← parseHistory binaries rest
        return entry :: later
      else parseHistory binaries rest
  | _ :: rest => parseHistory binaries rest
end

/-! ## Groups -/

/-- What the loop over the children of a group has read. -/
structure GroupScan where
  entries : List Entry := []
  children : List Group := []
  opaqueXml : List OpaqueXmlFragment := []
  /-- The known children met so far. -/
  seen : List String := []

def GroupScan.note (scan : GroupScan) (name : String) : GroupScan := { scan with seen := scan.seen ++ [name] }

def collapsedGroupNodes (element : Element) (customIconId lastTopVisibleEntry previousParent : Option Uuid) :
    List String :=
  [("CustomIconUUID", customIconId.isNone), ("LastTopVisibleEntry", lastTopVisibleEntry.isNone),
    ("PreviousParentGroup", previousParent.isNone)].filterMap fun (name, valueIsNone) =>
      if valueIsNone && (element.childOptional name).isSome then some name else none

/-- What is read of a group before the loop. -/
def parseGroupHead (element : Element) : Except KdbxError GroupFields := do
  let id ← decodeUuid (← requiredText element "UUID")
  let customIconId ← childUuid element "CustomIconUUID"
  let lastTopVisibleEntry ← childUuid element "LastTopVisibleEntry"
  let (customData, customDataBlocks) :=
    parseCustomDataBlocksWithKnownChildren library.rfc3339 element groupKnownChildNames
  let previousParent ← childUuid element "PreviousParentGroup"
  .ok
    { id
      title := (childText element "Name").getD "Group"
      notes := (childText element "Notes").getD ""
      iconId := childUnsigned (2 ^ 32) element "IconID"
      customIconId
      tags := ((childText element "Tags").map parseTags).getD ∅
      times := (element.childOptional "Times").map (parseGroupTimes library)
      flags :=
        { isExpanded := (childText element "IsExpanded").bind parseNullableBool
          enableAutoType := (childText element "EnableAutoType").bind parseNullableBool
          enableSearching := (childText element "EnableSearching").bind parseNullableBool }
      defaultAutoTypeSequence := childText element "DefaultAutoTypeSequence"
      lastTopVisibleEntry, customData, customDataBlocks, previousParent
      rawState :=
        { nodeOrder := collectKnownNodeOrder groupKnownChildNames element
          defaultAutoTypeSequenceRaw := childRaw element "DefaultAutoTypeSequence"
          enableAutoTypeRaw := childRaw element "EnableAutoType"
          enableSearchingRaw := childRaw element "EnableSearching" } }

def finishGroup (element : Element) (head : GroupFields) (scan : GroupScan) : Except KdbxError Group := do
  let nodes ← retargetRemovedScopeNodes
    { customDataBlocks := head.customDataBlocks, opaqueXml := scan.opaqueXml, nodeOrder := head.rawState.nodeOrder }
    (collapsedGroupNodes element head.customIconId head.lastTopVisibleEntry head.previousParent)
  .ok
    { head with
      customDataBlocks := nodes.customDataBlocks
      opaqueXml := nodes.opaqueXml
      rawState :=
        { head.rawState with
          nodeOrder := nodes.nodeOrder
          entryOrder := scan.entries.map (·.id)
          groupOrder := scan.children.map (·.id) }
      entries := scan.entries
      children := scan.children }

/-- The children of a group that hold no group and no entry. -/
def parseGroupChild (child : Element) (scan : GroupScan) : Except KdbxError GroupScan :=
  if child.name ∈ groupKnownChildNames then .ok (scan.note child.name)
  else do
    let text ← elementToXmlString library.xml child
    .ok { scan with opaqueXml := scan.opaqueXml ++ [{ xml := text, after := lastAnchor scan.seen }] }

mutual
def parseGroup (binaries : List InnerBinary) : Element → Reading Group
  | ⟨name, attributes, children⟩ => do
      let head ← Attempt.lift (parseGroupHead library ⟨name, attributes, children⟩)
      let scan ← parseGroupChildren binaries children {}
      Attempt.lift (finishGroup ⟨name, attributes, children⟩ head scan)

def parseGroupChildren (binaries : List InnerBinary) : List (XMLNode Element) → GroupScan → Reading GroupScan
  | [], scan => return scan
  | .element child :: rest, scan =>
      if child.name = "Group" then do
        let group ← parseGroup binaries child
        parseGroupChildren binaries rest
          (({ scan with children := scan.children ++ [group] } : GroupScan).note child.name)
      else if child.name = "Entry" then do
        let entry ← parseEntry library binaries child
        parseGroupChildren binaries rest
          (({ scan with entries := scan.entries ++ [entry] } : GroupScan).note child.name)
      else do
        let scan ← Attempt.lift (parseGroupChild library child scan)
        parseGroupChildren binaries rest scan
  | _ :: rest, scan => parseGroupChildren binaries rest scan
end

/-! ## Meta -/

def parseMemoryProtection (metaElement : Element) : Option MemoryProtection :=
  (metaElement.childOptional "MemoryProtection").map fun memoryProtection =>
    { protectTitle := (childBool memoryProtection "ProtectTitle").getD false
      protectUsername := (childBool memoryProtection "ProtectUserName").getD false
      protectPassword := (childBool memoryProtection "ProtectPassword").getD false
      protectUrl := (childBool memoryProtection "ProtectURL").getD false
      protectNotes := (childBool memoryProtection "ProtectNotes").getD false }

def parseCustomIcon (icon : Element) : Except KdbxError CustomIcon := do
  let id ← decodeUuid (← requiredText icon "UUID")
  let data ← decodeBase64 (trimText (← requiredText icon "Data"))
  .ok { id, data, name := childText icon "Name", lastModified := childDatetime library icon "LastModificationTime" }

def parseCustomIcons (metaElement : Element) : Except KdbxError (List CustomIcon) :=
  match metaElement.childOptional "CustomIcons" with
  | none => .ok []
  | some customIcons => (customIcons.elements.filter fun icon => icon.name = "Icon").mapM (parseCustomIcon library)

/-- The latest of the times of a repeated child. -/
def latestChildDatetime (element : Element) (name : String) : Option Int :=
  (((element.elements.filter fun child => child.name = name).filterMap Element.getText).filterMap
    (parseOptionalDatetime library.rfc3339)).max?

/-- The times of the objects, the latest for an id that is there twice. -/
def collectDeletedObjects : List Element → BTreeMap Uuid Int → Except KdbxError (BTreeMap Uuid Int)
  | [], objects => .ok objects
  | child :: rest, objects =>
      if child.name ≠ "DeletedObject" then .error .invalidValue
      else do
        let id ← decodeUuid (← requiredText child "UUID")
        if isNil id then .error .invalidValue
        else
          match (childText child "DeletionTime").bind (parseDatetimeI64 library.rfc3339) with
          | none => .error .invalidValue
          | some deletedAt =>
              collectDeletedObjects rest
                (objects.insert id ((objects[id]?.map fun current => max current deletedAt).getD deletedAt))

def parseDeletedObjects (rootNode : Element) : Except KdbxError (List DeletedObject) :=
  match rootNode.childOptional "DeletedObjects" with
  | none => .ok []
  | some deletedObjects => do
      let objects ← collectDeletedObjects library deletedObjects.elements ∅
      .ok (objects.toList.map fun (id, deletedAt) => { id, deletedAt })

/-- The children of `Meta` that stand for nothing. -/
def collapsedMetaNodes (metaElement : Element) (generator : Option String)
    (recycleBinGroup entryTemplatesGroup lastSelectedGroup lastTopVisibleGroup : Option Uuid) : List String :=
  [("Generator", generator.isNone), ("RecycleBinUUID", recycleBinGroup.isNone),
    ("EntryTemplatesGroup", entryTemplatesGroup.isNone), ("LastSelectedGroup", lastSelectedGroup.isNone),
    ("LastTopVisibleGroup", lastTopVisibleGroup.isNone)].filterMap fun (name, valueIsNone) =>
      if valueIsNone && (metaElement.childOptional name).isSome then some name else none

/-- What `Meta` says of the vault. The groups are read after it. -/
def parseMeta (metaElement : Element) : Except KdbxError (Group → Vault) := do
  let customIcons ← parseCustomIcons library metaElement
  let recycleBinGroup ← childUuid metaElement "RecycleBinUUID"
  let entryTemplatesGroup ← childUuid metaElement "EntryTemplatesGroup"
  let lastSelectedGroup ← childUuid metaElement "LastSelectedGroup"
  let lastTopVisibleGroup ← childUuid metaElement "LastTopVisibleGroup"
  let (metaCustomData, customDataBlocks) :=
    parseCustomDataBlocksWithKnownChildren library.rfc3339 metaElement metaKnownChildNames
  let opaqueXml ← collectOpaqueXml library.xml metaKnownChildNames [] metaElement.elements
  let generator := childText metaElement "Generator"
  let nodes ← collapseDuplicateNodeOccurrences
    { customDataBlocks, opaqueXml, nodeOrder := collectKnownNodeOrder metaKnownChildNames metaElement }
    "SettingsChanged"
  let nodes ← retargetRemovedScopeNodes nodes
    (collapsedMetaNodes metaElement generator recycleBinGroup entryTemplatesGroup lastSelectedGroup
      lastTopVisibleGroup)
  .ok fun root =>
    { generator
      settingsChanged := latestChildDatetime library metaElement "SettingsChanged"
      name := (childText metaElement "DatabaseName").getD ""
      databaseNameChanged := childDatetime library metaElement "DatabaseNameChanged"
      description := childText metaElement "DatabaseDescription"
      descriptionChanged := childDatetime library metaElement "DatabaseDescriptionChanged"
      defaultUsername := childText metaElement "DefaultUserName"
      defaultUsernameChanged := childDatetime library metaElement "DefaultUserNameChanged"
      metaCustomData
      metaCustomDataBlocks := nodes.customDataBlocks
      metaRawState :=
        { nodeOrder := nodes.nodeOrder
          descriptionRaw := childRaw metaElement "DatabaseDescription"
          defaultUsernameRaw := childRaw metaElement "DefaultUserName"
          colorRaw := childRaw metaElement "Color"
          memoryProtectionAutoEnableVisualHidingRaw := (metaElement.childOptional "MemoryProtection").bind fun memory =>
            childTextPreserveEmpty memory "AutoEnableVisualHiding"
          hasCustomIconsNode := (metaElement.childOptional "CustomIcons").isSome }
      root
      maintenanceHistoryDays := childSigned 32 metaElement "MaintenanceHistoryDays"
      color := childText metaElement "Color"
      masterKeyChanged := childDatetime library metaElement "MasterKeyChanged"
      masterKeyChangeRec := childSigned 64 metaElement "MasterKeyChangeRec"
      masterKeyChangeForce := childSigned 64 metaElement "MasterKeyChangeForce"
      masterKeyChangeForceOnce := childBool metaElement "MasterKeyChangeForceOnce"
      customIcons
      historyMaxItems := childSigned 32 metaElement "HistoryMaxItems"
      historyMaxSize := childSigned 64 metaElement "HistoryMaxSize"
      lastSelectedGroup, lastTopVisibleGroup
      memoryProtection := parseMemoryProtection metaElement
      recycleBinEnabled := childBool metaElement "RecycleBinEnabled"
      recycleBinGroup
      recycleBinChanged := childDatetime library metaElement "RecycleBinChanged"
      entryTemplatesGroup
      entryTemplatesGroupChanged := childDatetime library metaElement "EntryTemplatesGroupChanged"
      metaOpaqueXml := nodes.opaqueXml }

/-! ## The document -/

def stripUtf8Bom (bytes : List UInt8) : List UInt8 :=
  if [0xEF, 0xBB, 0xBF].isPrefixOf bytes then bytes.drop 3 else bytes

def parseXmlDocument (bytes : List UInt8) : Except KdbxError Element :=
  match library.xml.parse (stripUtf8Bom bytes) with
  | .ok element => .ok element
  | .error message => .error (.xml message)

/-- What `project_xml` makes of the document once its groups are read. -/
def finishProject (rootNode : Element) (vaultOf : Group → Vault) (kdfParameters : List UInt8)
    (publicCustomData : BTreeMap String (List UInt8)) (group : Group) : Except KdbxError Vault := do
  let deletedObjects ← parseDeletedObjects library rootNode
  let rootOpaqueXml ← collectOpaqueXml library.xml rootKnownChildNames [] rootNode.elements
  let vault :=
    { vaultOf group with
      kdfParameters := some kdfParameters
      publicCustomData
      deletedObjects
      rootRawState :=
        { nodeOrder := collectKnownNodeOrder rootKnownChildNames rootNode
          hasDeletedObjectsNode := (rootNode.childOptional "DeletedObjects").isSome }
      rootOpaqueXml }
  validateVaultModel vault
  .ok vault

/-- `project_xml`. The encoded KDF dictionary and the byte arrays of the public dictionary come
    from the outer header, the stream from the inner one. -/
def projectXml (document : Element) (kdfParameters : List UInt8) (publicCustomData : BTreeMap String (List UInt8))
    (binaries : List InnerBinary) (innerStream : Except KdbxError ProtectedStream) : Except KdbxError Vault := do
  let metaElement ← child document "Meta"
  let vaultOf ← parseMeta library metaElement
  let rootNode ← child document "Root"
  let rootGroup ← child rootNode "Group"
  let stream ← innerStream
  let group ← (parseGroup library binaries rootGroup stream).1
  finishProject library rootNode vaultOf kdfParameters publicCustomData group

end Readers

end VaultKern.Kdbx
