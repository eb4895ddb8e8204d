import VaultKern.Core.Views

/-! # Mutators of entries

Every mutator takes the id of an entry and works on the entry in place. The checks
stand in the order of the source, before or after the lookup.
-/

namespace VaultKern

open MutationError Attempt

/-- A mutator of the vault. -/
abbrev Mutator (A : Type) := Attempt MutationError Vault A

def onEntry {A : Type} (entryId : String) (m : Attempt MutationError Entry A) : Mutator A :=
  Attempt.within (fun vault => findEntryById entryId vault.root)
    (fun entry vault => { vault with root := putEntryById entryId entry vault.root })
    (entryNotFound entryId) m

/-- `find_entry_by_id` followed by `ok_or`. -/
def readEntry (entryId : String) : Mutator Entry := do
  require (entryNotFound entryId) (findEntryById entryId (← get).root)

/-- `find_group_by_id` followed by a failure if there is none. -/
def readGroup (groupId : String) : Mutator Group := do
  require (groupNotFound groupId) (findGroupById groupId (← get).root)

/-- `parse_uuid`, which refuses the nil UUID. -/
def parseUuid (value : String) : Except MutationError Uuid :=
  match uuidParseStr value with
  | some id => if id = 0 then .error (invalidUuid value) else .ok id
  | none => .error (invalidUuid value)

/-! ## Standard fields -/

structure EntryUpdate where
  title : Option String := none
  username : Option String := none
  password : Option String := none
  url : Option String := none
  notes : Option String := none

/-- The first given value that the file could not hold. -/
def validateProtectedTexts : List (Option String × Bool × String) → Except MutationError Unit
  | [] => .ok ()
  | (none, _, _) :: rest => validateProtectedTexts rest
  | (some value, isProtected, kind) :: rest => do
      validateXmlTextWithProtection value isProtected kind
      validateProtectedTexts rest

def updateEntryFields (entryId : String) (update : EntryUpdate) : Mutator EntryView := do
  let protection := (← readEntry entryId).fieldProtection
  lift (validateProtectedTexts
    [(update.title, protection.protectTitle, "entry title"),
      (update.username, protection.protectUsername, "entry username"),
      (update.password, protection.protectPassword, "entry password"),
      (update.url, protection.protectUrl, "entry URL"),
      (update.notes, protection.protectNotes, "entry notes")])
  onEntry entryId (write (fun entry =>
    { entry with
      title := update.title.getD entry.title
      username := update.username.getD entry.username
      password := update.password.getD entry.password
      url := update.url.getD entry.url
      notes := update.notes.getD entry.notes }) projectEntry)

structure EntryFieldProtectionUpdate where
  protectTitle : Option Bool := none
  protectUsername : Option Bool := none
  protectPassword : Option Bool := none
  protectUrl : Option Bool := none
  protectNotes : Option Bool := none

/-- Values that are about to lose their protection. -/
def validateUnprotectedTexts : List (String × Option Bool × String) → Except MutationError Unit
  | [] => .ok ()
  | (value, protection, kind) :: rest => do
      if protection = some false then validateUnprotectedXmlText value kind
      validateUnprotectedTexts rest

def updateEntryFieldProtection (entryId : String) (update : EntryFieldProtectionUpdate) : Mutator EntryView := do
  let current ← readEntry entryId
  lift (validateUnprotectedTexts
    [(current.title, update.protectTitle, "entry title"),
      (current.username, update.protectUsername, "entry username"),
      (current.password, update.protectPassword, "entry password"),
      (current.url, update.protectUrl, "entry URL"),
      (current.notes, update.protectNotes, "entry notes")])
  onEntry entryId (write (fun entry =>
    { entry with
      fieldProtection :=
        { protectTitle := update.protectTitle.getD entry.fieldProtection.protectTitle
          protectUsername := update.protectUsername.getD entry.fieldProtection.protectUsername
          protectPassword := update.protectPassword.getD entry.fieldProtection.protectPassword
          protectUrl := update.protectUrl.getD entry.fieldProtection.protectUrl
          protectNotes := update.protectNotes.getD entry.fieldProtection.protectNotes } }) projectEntry)

/-! ## Presentation, lineage, auto-type, times -/

structure EntryPresentationMetadataUpdate where
  iconId : Option (Option Nat) := none
  foregroundColor : Option (Option String) := none
  backgroundColor : Option (Option String) := none
  overrideUrl : Option (Option String) := none

def setIconId (update : Option (Option Nat)) (entry : Entry) : Entry :=
  match update with
  | none => entry
  | some iconId =>
      let entry := if entry.iconId.isSome && iconId.isNone then entry.removeNode "IconID" else entry
      { entry with iconId }

def setForegroundColor (update : Option (Option String)) (entry : Entry) : Entry :=
  match update with
  | none => entry
  | some foregroundColor =>
      let entry := if (entry.foregroundColor.isSome || entry.rawState.foregroundColorRaw.isSome)
        && foregroundColor.isNone then entry.removeNode "ForegroundColor" else entry
      { entry with foregroundColor, rawState := { entry.rawState with foregroundColorRaw := none } }

def setBackgroundColor (update : Option (Option String)) (entry : Entry) : Entry :=
  match update with
  | none => entry
  | some backgroundColor =>
      let entry := if (entry.backgroundColor.isSome || entry.rawState.backgroundColorRaw.isSome)
        && backgroundColor.isNone then entry.removeNode "BackgroundColor" else entry
      { entry with backgroundColor, rawState := { entry.rawState with backgroundColorRaw := none } }

def setOverrideUrl (update : Option (Option String)) (entry : Entry) : Entry :=
  match update with
  | none => entry
  | some overrideUrl =>
      let entry := if (entry.overrideUrl.isSome || entry.rawState.overrideUrlRaw.isSome)
        && overrideUrl.isNone then entry.removeNode "OverrideURL" else entry
      { entry with overrideUrl, rawState := { entry.rawState with overrideUrlRaw := none } }

def updateEntryPresentationMetadata (entryId : String) (update : EntryPresentationMetadataUpdate) :
    Mutator EntryPresentationMetadataView := do
  lift (validateOptionalXmlText update.foregroundColor.join "entry foreground color")
  lift (validateOptionalXmlText update.backgroundColor.join "entry background color")
  lift (validateOptionalXmlText update.overrideUrl.join "entry override URL")
  onEntry entryId (write (fun entry =>
    setOverrideUrl update.overrideUrl (setBackgroundColor update.backgroundColor
      (setForegroundColor update.foregroundColor (setIconId update.iconId entry))))
    projectEntryPresentationMetadata)

structure EntryLineageReportMetadataUpdate where
  previousParentId : Option (Option String) := none
  excludeFromReports : Option Bool := none

def setExcludeFromReports (update : Option Bool) (entry : Entry) : Entry :=
  match update with
  | none => entry
  | some excludeFromReports =>
      let entry := if (entry.excludeFromReports || entry.rawState.qualityCheckRaw.isSome)
        && !excludeFromReports then entry.removeNode "QualityCheck" else entry
      { entry with excludeFromReports, rawState := { entry.rawState with qualityCheckRaw := none } }

def clearPreviousParent (entry : Entry) : Entry :=
  let entry := if entry.previousParent.isSome then entry.removeNode "PreviousParentGroup" else entry
  { entry with previousParent := none }

def updateEntryLineageReportMetadata (entryId : String) (update : EntryLineageReportMetadataUpdate) :
    Mutator EntryLineageReportMetadataView :=
  match update.previousParentId with
  | some (some groupId) => do
      let parsed ← lift (parseUuid groupId)
      let _ ← readGroup groupId
      onEntry entryId (write (fun entry =>
        setExcludeFromReports update.excludeFromReports { entry with previousParent := some parsed })
        projectEntryLineageReportMetadata)
  | some none => onEntry entryId (write (fun entry =>
      setExcludeFromReports update.excludeFromReports (clearPreviousParent entry))
      projectEntryLineageReportMetadata)
  | none => onEntry entryId (write (setExcludeFromReports update.excludeFromReports)
      projectEntryLineageReportMetadata)

structure EntryAutoTypeUpdate where
  enabled : Option (Option Bool) := none
  obfuscation : Option (Option Int) := none
  defaultSequence : Option (Option String) := none
  associations : Option (List AutoTypeAssociation) := none

def validateAssociations : List AutoTypeAssociation → Except MutationError Unit
  | [] => .ok ()
  | association :: rest => do
      validateUnprotectedXmlText association.window "auto-type window"
      validateUnprotectedXmlText association.sequence "auto-type sequence"
      validateAssociations rest

def updateEntryAutoType (entryId : String) (update : EntryAutoTypeUpdate) : Mutator AutoTypeConfig := do
  lift (validateOptionalXmlText update.defaultSequence.join "auto-type default sequence")
  lift (validateAssociations (update.associations.getD []))
  onEntry entryId (write (fun entry =>
    let autoType := entry.autoType.getD {}
    { entry with
      autoType := some
        { enabled := update.enabled.getD autoType.enabled
          obfuscation := update.obfuscation.getD autoType.obfuscation
          defaultSequence := update.defaultSequence.getD autoType.defaultSequence
          associations := update.associations.getD autoType.associations } }) projectEntryAutoType)

structure EntryTimesUpdate where
  createdAt : Option Nat := none
  modifiedAt : Option Nat := none
  lastAccessedAt : Option (Option Nat) := none
  usageCount : Option (Option Nat) := none
  locationChangedAt : Option (Option Nat) := none

def updateEntryTimes (entryId : String) (update : EntryTimesUpdate) : Mutator EntryTimesView := do
  ensure (update.locationChangedAt ≠ some none)
    (invalidEntryValue "entry location_changed_at cannot be cleared")
  lift (validateUnsignedTimestamps [update.createdAt, update.modifiedAt])
  lift (validateUnsignedTimestamps [update.lastAccessedAt.join, update.locationChangedAt.join])
  onEntry entryId (write (fun entry =>
    { entry with
      createdAt := update.createdAt.getD entry.createdAt
      modifiedAt := update.modifiedAt.getD entry.modifiedAt
      lastAccessedAt := update.lastAccessedAt.getD entry.lastAccessedAt
      usageCount := update.usageCount.getD entry.usageCount
      locationChangedAt := update.locationChangedAt.getD entry.locationChangedAt }) projectEntryTimes)

def updateEntryExpiry (entryId : String) (expires : Bool) (expiryTime : Option Int) : Mutator EntryView := do
  ensure (!(expires && expiryTime.isNone)) (invalidEntryValue "an expiring entry requires expiry_time")
  lift (validateOptionalTimestamp expiryTime)
  onEntry entryId (write (fun entry => { entry with expires, expiryTime }) projectEntry)

/-- The checks on a custom icon reference. -/
def resolveCustomIcon (customIconId : Option String) : Mutator (Option Uuid) :=
  match customIconId with
  | none => pure none
  | some value => do
      let id ← lift (parseUuid value)
      ensure ((← get).customIcons.any fun icon => icon.id = id) (customIconNotFound (uuidToString id))
      return some id

def updateEntryCustomIcon (entryId : String) (customIconId : Option String) : Mutator EntryView := do
  let parsed ← resolveCustomIcon customIconId
  onEntry entryId (write (fun entry =>
    let entry := if entry.customIconId.isSome && parsed.isNone then entry.removeNode "CustomIconUUID" else entry
    { entry with customIconId := parsed }) projectEntry)

def replaceEntryTags (entryId : String) (tags : List String) : Mutator EntryView :=
  onEntry entryId do
    lift (validatePersistentTags tags)
    write (fun entry =>
      let entry := if (!entry.tags.isEmpty || entry.rawState.tagsRaw.isSome) && tags.isEmpty then
        entry.removeNode "Tags" else entry
      { entry with
        tags := Std.ExtTreeSet.ofList tags compare
        rawState := { entry.rawState with tagsRaw := none } }) projectEntry

/-! ## Custom fields and attachments -/

structure EntryCustomFieldInput where
  key : String
  value : String
  isProtected : Bool

def writeCustomField (field : EntryCustomFieldInput) : Attempt MutationError Entry EntryView := do
  ensure (!field.key.isEmpty) (invalidEntryValue "custom field key cannot be empty")
  ensure (!isReservedEntryCustomFieldKey field.key) (reservedCustomFieldKey field.key)
  lift (validateUnprotectedXmlText field.key "custom field key")
  lift (validateXmlTextWithProtection field.value field.isProtected "custom field value")
  write (fun entry =>
    { entry with
      attributes := entry.attributes.insert field.key
        { value := field.value, isProtected := field.isProtected } }) projectEntry

def upsertEntryCustomField (entryId : String) (field : EntryCustomFieldInput) : Mutator EntryView :=
  onEntry entryId (writeCustomField field)

def removeCustomField (key : String) : Attempt MutationError Entry EntryView := do
  ensure (!isReservedEntryCustomFieldKey key) (reservedCustomFieldKey key)
  let oldIdentities := entryStringIdentities (← get)
  let _ ← require (customFieldNotFound key) (← get).attributes[key]?
  write (fun entry =>
    { entry with attributes := entry.attributes.erase key }.retargetStrings oldIdentities) projectEntry

def deleteEntryCustomField (entryId key : String) : Mutator EntryView := onEntry entryId (removeCustomField key)

/-- Every content of an entry and of its history, in the order of the search. -/
def attachmentContents : Entry → List AttachmentContent
  | ⟨fields, history⟩ =>
      fields.attachments.toList.map (fun (_, attachment) => attachment.data) ++
        history.flatMap attachmentContents

mutual
def groupAttachmentContents : Group → List AttachmentContent
  | ⟨_, entries, children⟩ => entries.flatMap attachmentContents ++ childAttachmentContents children

def childAttachmentContents : List Group → List AttachmentContent
  | [] => []
  | child :: rest => groupAttachmentContents child ++ childAttachmentContents rest
end

/-- `shared_attachment_content`: a content with the same digest is shared if its bytes
    are the same, and otherwise refused. -/
def sharedAttachmentContent (digest : List UInt8 → List UInt8) (bytes : List UInt8) :
    Mutator AttachmentContent := do
  match (groupAttachmentContents (← get).root).find? fun content => digest content.bytes = digest bytes with
  | none => return { bytes }
  | some content => if content.bytes = bytes then return content else fail attachmentContentHashCollision

structure EntryAttachmentInput where
  name : String
  data : List UInt8
  protectInMemory : Bool

def addEntryAttachment (digest : List UInt8 → List UInt8) (entryId : String) (attachment : EntryAttachmentInput) :
    Mutator EntryView := do
  ensure (!attachment.name.isEmpty) (invalidEntryValue "attachment name cannot be empty")
  lift (validateUnprotectedXmlText attachment.name "attachment name")
  let content ← sharedAttachmentContent digest attachment.data
  onEntry entryId (write (fun entry =>
    { entry with
      attachments := entry.attachments.insert attachment.name
        { name := attachment.name, data := content
          protectInMemory := attachment.protectInMemory } }) projectEntry)

def deleteEntryAttachment (entryId name : String) : Mutator EntryView :=
  onEntry entryId do
    let oldIdentities := entryBinaryIdentities (← get)
    let _ ← require (attachmentNotFound name) (← get).attachments[name]?
    write (fun entry =>
      { entry with attachments := entry.attachments.erase name }.retargetBinaries oldIdentities []) projectEntry

structure AttachmentMetadataUpdate where
  newName : Option String := none
  protectInMemory : Option Bool := none

/-- The attachment is taken out before the new name is looked up, and put back if that is taken. -/
def moveAttachment (name : String) (update : AttachmentMetadataUpdate) (oldIdentities : List String)
    (attachment : Attachment) : Attempt MutationError Entry (List AttachmentView) := do
  modify fun entry => { entry with attachments := entry.attachments.erase name }
  let targetName := update.newName.getD attachment.name
  if targetName ≠ name && (← get).attachments.contains targetName then
    modify fun entry => { entry with attachments := entry.attachments.insert name attachment }
    fail (attachmentAlreadyExists targetName)
  else
    write (fun entry =>
      { entry with
        attachments := entry.attachments.insert targetName
          { attachment with
            name := targetName
            protectInMemory := update.protectInMemory.getD attachment.protectInMemory } }.retargetBinaries
        oldIdentities [(name, targetName)]) fun entry => projectAttachmentItems entry.attachments

def updateEntryAttachmentMetadata (entryId name : String) (update : AttachmentMetadataUpdate) :
    Mutator (List AttachmentView) :=
  onEntry entryId do
    ensure (update.newName ≠ some "") (invalidEntryValue "attachment name cannot be empty")
    lift (validateOptionalXmlText update.newName "attachment name")
    let oldIdentities := entryBinaryIdentities (← get)
    let attachment ← require (attachmentNotFound name) (← get).attachments[name]?
    moveAttachment name update oldIdentities attachment

def replaceEntryAttachmentContent (digest : List UInt8 → List UInt8) (entryId name : String) (data : List UInt8) :
    Mutator (List AttachmentView) := do
  let content ← sharedAttachmentContent digest data
  onEntry entryId do
    let attachment ← require (attachmentNotFound name) (← get).attachments[name]?
    write (fun entry =>
      { entry with attachments := entry.attachments.insert name { attachment with data := content } })
      fun entry => projectAttachmentItems entry.attachments

/-! ## Credentials -/

def setEntryTotp (entryId : String) (totp : TotpSpec) : Mutator EntryView := do
  let current ← readEntry entryId
  let issuer := totp.issuer.filter fun issuer => !issuer.isEmpty
  let accountName := (totp.accountName.filter fun name => !name.isEmpty).getD current.username
  ensure (!accountName.isEmpty) (invalidEntryValue "TOTP account_name cannot be empty")
  ensure (!totp.secretBase32.isEmpty) (invalidEntryValue "TOTP secret_base32 cannot be empty")
  ensure (!(issuer.isNone && accountName.toList.contains ':'))
    (invalidEntryValue "TOTP account_name containing ':' requires an issuer")
  onEntry entryId (write (fun entry =>
    { entry with totp := some { totp with issuer, accountName := some accountName } }.retargetStrings
      (entryStringIdentities entry)) projectEntry)

def clearEntryTotp (entryId : String) : Mutator EntryView :=
  onEntry entryId (write (fun entry =>
    { entry with
      totp := none
      attributes := entry.attributes.filter fun key _ =>
        !isTotpPersistentAttributeKey key }.retargetStrings (entryStringIdentities entry)) projectEntry)

def setEntryPasskey (entryId : String) (passkey : PasskeyRecord) : Mutator EntryView := do
  lift (validateUnprotectedXmlText passkey.username "passkey username")
  lift (validateOptionalXmlText passkey.generatedUserId "passkey generated user ID")
  lift (validateUnprotectedXmlText passkey.relyingParty "passkey relying party")
  onEntry entryId (write (fun entry =>
    { entry with passkey := some passkey }.retargetStrings (entryStringIdentities entry)) projectEntry)

def clearEntryPasskey (entryId : String) : Mutator EntryView :=
  onEntry entryId (write (fun entry =>
    { entry with
      passkey := none
      attributes := entry.attributes.filter fun key _ =>
        !PasskeyRecord.isPersistentAttributeKey key }.retargetStrings (entryStringIdentities entry)) projectEntry)

/-! ## CustomData -/

structure CustomDataItemInput where
  key : String
  value : String

def checkCustomDataItem (key value : String) : Except MutationError Unit := do
  validateNonEmptyKey key "custom data"
  validateUnprotectedXmlText key "custom data key"
  validateUnprotectedXmlText value "custom data value"

/-- The values with the blocks, anchors and slots that follow them. -/
def Entry.writeCustomData (entry : Entry) (values : BTreeMap String String)
    (updatedItem : Option (String × Option Int)) : Entry :=
  let reconciled := reconcileCustomDataBlocks entry.customDataBlocks entry.opaqueXml
    entry.rawState.nodeOrder values updatedItem
  { entry with
    customData := values
    customDataBlocks := reconciled.1
    opaqueXml := reconciled.2.1
    rawState := { entry.rawState with nodeOrder := reconciled.2.2 } }

def upsertEntryCustomData (entryId : String) (item : CustomDataItemInput) : Mutator EntryView := do
  lift (checkCustomDataItem item.key item.value)
  onEntry entryId (write (fun entry =>
    entry.writeCustomData (entry.customData.insert item.key item.value) (some (item.key, none))) projectEntry)

def upsertEntryCustomDataDetail (entryId : String) (item : CustomDataItem) : Mutator EntryView := do
  lift (checkCustomDataItem item.key item.value)
  lift (validateOptionalTimestamp item.lastModified)
  onEntry entryId (write (fun entry =>
    entry.writeCustomData (entry.customData.insert item.key item.value)
      (some (item.key, item.lastModified))) projectEntry)

def removeCustomData (key : String) : Attempt MutationError Entry EntryView := do
  let _ ← require (customDataNotFound key) (← get).customData[key]?
  write (fun entry => entry.writeCustomData (entry.customData.erase key) none) projectEntry

def deleteEntryCustomData (entryId key : String) : Mutator EntryView := onEntry entryId (removeCustomData key)

/-! ## History -/

def snapshotEntryToHistory (entryId : String) : Mutator EntryView :=
  onEntry entryId (write (fun entry =>
    { entry with history := entry.history ++ [prepareEntryHistorySnapshot entry] }) projectEntry)

def clearEntryHistory (entryId : String) : Mutator EntryView :=
  onEntry entryId (write (fun entry => { entry with history := [] }) projectEntry)

end VaultKern
