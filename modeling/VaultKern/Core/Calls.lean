import VaultKern.Core.Placement

/-! # Calls of mutators

A call is a mutator with its arguments, with the ids it draws and the clock it reads.
Its type says what it returns.
-/

namespace VaultKern

inductive Call : Type → Type
  -- entries
  | updateEntryFields (entryId : String) (update : EntryUpdate) : Call EntryView
  | updateEntryFieldProtection (entryId : String) (update : EntryFieldProtectionUpdate) : Call EntryView
  | updateEntryPresentationMetadata (entryId : String) (update : EntryPresentationMetadataUpdate) :
      Call EntryPresentationMetadataView
  | updateEntryLineageReportMetadata (entryId : String) (update : EntryLineageReportMetadataUpdate) :
      Call EntryLineageReportMetadataView
  | updateEntryAutoType (entryId : String) (update : EntryAutoTypeUpdate) : Call AutoTypeConfig
  | updateEntryTimes (entryId : String) (update : EntryTimesUpdate) : Call EntryTimesView
  | updateEntryExpiry (entryId : String) (expires : Bool) (expiryTime : Option Int) : Call EntryView
  | updateEntryCustomIcon (entryId : String) (customIconId : Option String) : Call EntryView
  | replaceEntryTags (entryId : String) (tags : List String) : Call EntryView
  | upsertEntryCustomField (entryId : String) (field : EntryCustomFieldInput) : Call EntryView
  | deleteEntryCustomField (entryId key : String) : Call EntryView
  | addEntryAttachment (entryId : String) (attachment : EntryAttachmentInput) : Call EntryView
  | deleteEntryAttachment (entryId name : String) : Call EntryView
  | updateEntryAttachmentMetadata (entryId name : String) (update : AttachmentMetadataUpdate) :
      Call (List AttachmentView)
  | replaceEntryAttachmentContent (entryId name : String) (data : List UInt8) : Call (List AttachmentView)
  | setEntryTotp (entryId : String) (totp : TotpSpec) : Call EntryView
  | clearEntryTotp (entryId : String) : Call EntryView
  | setEntryPasskey (entryId : String) (passkey : PasskeyRecord) : Call EntryView
  | clearEntryPasskey (entryId : String) : Call EntryView
  | upsertEntryCustomData (entryId : String) (item : CustomDataItemInput) : Call EntryView
  | upsertEntryCustomDataDetail (entryId : String) (item : CustomDataItem) : Call EntryView
  | deleteEntryCustomData (entryId key : String) : Call EntryView
  | snapshotEntryToHistory (entryId : String) : Call EntryView
  | clearEntryHistory (entryId : String) : Call EntryView
  -- groups
  | updateGroupMetadata (groupId : String) (update : GroupMetadataUpdate) : Call GroupView
  | updateGroupBehaviorMetadata (groupId : String) (update : GroupBehaviorMetadataUpdate) :
      Call GroupBehaviorMetadataView
  | updateGroupLineageTagMetadata (groupId : String) (update : GroupLineageTagMetadataUpdate) :
      Call GroupLineageTagMetadataView
  | updateGroupTimes (groupId : String) (update : GroupTimesUpdate) : Call GroupTimesView
  | updateGroupExpiry (groupId : String) (expires : Bool) (expiryTime : Option Int) : Call GroupExpiryView
  | updateGroupCustomIcon (groupId : String) (customIconId : Option String) : Call GroupView
  | upsertGroupCustomData (groupId : String) (item : CustomDataItemInput) : Call (List (String × String))
  | upsertGroupCustomDataDetail (groupId : String) (item : CustomDataItem) : Call (List CustomDataItem)
  | deleteGroupCustomData (groupId key : String) : Call (List (String × String))
  -- the vault
  | upsertCustomIcon (drawn : Uuid) (input : CustomIconInput) : Call CustomIconView
  | deleteCustomIcon (iconId : String) : Call Unit
  | upsertVaultCustomData (item : CustomDataItemInput) : Call (List (String × String))
  | upsertVaultCustomDataDetail (item : CustomDataItem) : Call (List CustomDataItem)
  | deleteVaultCustomData (key : String) : Call (List (String × String))
  | upsertVaultPublicCustomData (key : String) (value : List UInt8) : Call (List (String × List UInt8))
  | deleteVaultPublicCustomData (key : String) : Call (List (String × List UInt8))
  | updateVaultMetadata (update : VaultMetadataUpdate) : Call VaultMetadataView
  | updateVaultSelectionMetadata (update : VaultSelectionMetadataUpdate) : Call VaultSelectionMetadataView
  | updateVaultLifecycleMetadata (update : VaultLifecycleMetadata) : Call VaultLifecycleMetadata
  | updateVaultBinTemplateMetadata (update : VaultBinTemplateMetadataUpdate) : Call VaultBinTemplateMetadataView
  | updateVaultIdentityMetadata (update : VaultIdentityMetadataUpdate) : Call VaultIdentityMetadataView
  -- the tree
  | addEntry (drawn : Uuid) (now : Int) (parentGroupId : String) (create : EntryCreate) : Call EntryView
  | addEntryWithId (now : Int) (parentGroupId entryId : String) (create : EntryCreate) : Call EntryView
  | deleteEntry (entryId : String) : Call Unit
  | addGroup (drawn : Uuid) (parentGroupId title : String) : Call GroupView
  | deleteGroup (groupId : String) : Call Unit
  | moveEntry (now : Int) (entryId targetGroupId : String) : Call EntryView
  | moveGroup (groupId targetParentGroupId : String) : Call GroupView
  | softDeleteEntryToRecycleBin (drawn : Uuid) (now binChangedAt deletedAt : Int) (entryId : String) :
      Call EntryView
  | restoreEntryFromRecycleBin (now : Int) (entryId : String) (targetGroupId : Option String) : Call EntryView

namespace Call

/-- `digest` is the hash of attachment contents. -/
def run (digest : List UInt8 → List UInt8) {A : Type} : Call A → Mutator A
  | updateEntryFields entryId update => VaultKern.updateEntryFields entryId update
  | updateEntryFieldProtection entryId update => VaultKern.updateEntryFieldProtection entryId update
  | updateEntryPresentationMetadata entryId update => VaultKern.updateEntryPresentationMetadata entryId update
  | updateEntryLineageReportMetadata entryId update => VaultKern.updateEntryLineageReportMetadata entryId update
  | updateEntryAutoType entryId update => VaultKern.updateEntryAutoType entryId update
  | updateEntryTimes entryId update => VaultKern.updateEntryTimes entryId update
  | updateEntryExpiry entryId expires expiryTime => VaultKern.updateEntryExpiry entryId expires expiryTime
  | updateEntryCustomIcon entryId customIconId => VaultKern.updateEntryCustomIcon entryId customIconId
  | replaceEntryTags entryId tags => VaultKern.replaceEntryTags entryId tags
  | upsertEntryCustomField entryId field => VaultKern.upsertEntryCustomField entryId field
  | deleteEntryCustomField entryId key => VaultKern.deleteEntryCustomField entryId key
  | addEntryAttachment entryId attachment => VaultKern.addEntryAttachment digest entryId attachment
  | deleteEntryAttachment entryId name => VaultKern.deleteEntryAttachment entryId name
  | updateEntryAttachmentMetadata entryId name update =>
      VaultKern.updateEntryAttachmentMetadata entryId name update
  | replaceEntryAttachmentContent entryId name data =>
      VaultKern.replaceEntryAttachmentContent digest entryId name data
  | setEntryTotp entryId totp => VaultKern.setEntryTotp entryId totp
  | clearEntryTotp entryId => VaultKern.clearEntryTotp entryId
  | setEntryPasskey entryId passkey => VaultKern.setEntryPasskey entryId passkey
  | clearEntryPasskey entryId => VaultKern.clearEntryPasskey entryId
  | upsertEntryCustomData entryId item => VaultKern.upsertEntryCustomData entryId item
  | upsertEntryCustomDataDetail entryId item => VaultKern.upsertEntryCustomDataDetail entryId item
  | deleteEntryCustomData entryId key => VaultKern.deleteEntryCustomData entryId key
  | snapshotEntryToHistory entryId => VaultKern.snapshotEntryToHistory entryId
  | clearEntryHistory entryId => VaultKern.clearEntryHistory entryId
  | updateGroupMetadata groupId update => VaultKern.updateGroupMetadata groupId update
  | updateGroupBehaviorMetadata groupId update => VaultKern.updateGroupBehaviorMetadata groupId update
  | updateGroupLineageTagMetadata groupId update => VaultKern.updateGroupLineageTagMetadata groupId update
  | updateGroupTimes groupId update => VaultKern.updateGroupTimes groupId update
  | updateGroupExpiry groupId expires expiryTime => VaultKern.updateGroupExpiry groupId expires expiryTime
  | updateGroupCustomIcon groupId customIconId => VaultKern.updateGroupCustomIcon groupId customIconId
  | upsertGroupCustomData groupId item => VaultKern.upsertGroupCustomData groupId item
  | upsertGroupCustomDataDetail groupId item => VaultKern.upsertGroupCustomDataDetail groupId item
  | deleteGroupCustomData groupId key => VaultKern.deleteGroupCustomData groupId key
  | upsertCustomIcon drawn input => VaultKern.upsertCustomIcon drawn input
  | deleteCustomIcon iconId => VaultKern.deleteCustomIcon iconId
  | upsertVaultCustomData item => VaultKern.upsertVaultCustomData item
  | upsertVaultCustomDataDetail item => VaultKern.upsertVaultCustomDataDetail item
  | deleteVaultCustomData key => VaultKern.deleteVaultCustomData key
  | upsertVaultPublicCustomData key value => VaultKern.upsertVaultPublicCustomData key value
  | deleteVaultPublicCustomData key => VaultKern.deleteVaultPublicCustomData key
  | updateVaultMetadata update => VaultKern.updateVaultMetadata update
  | updateVaultSelectionMetadata update => VaultKern.updateVaultSelectionMetadata update
  | updateVaultLifecycleMetadata update => VaultKern.updateVaultLifecycleMetadata update
  | updateVaultBinTemplateMetadata update => VaultKern.updateVaultBinTemplateMetadata update
  | updateVaultIdentityMetadata update => VaultKern.updateVaultIdentityMetadata update
  | addEntry drawn now parentGroupId create => VaultKern.addEntry drawn now parentGroupId create
  | addEntryWithId now parentGroupId entryId create => VaultKern.addEntryWithId now parentGroupId entryId create
  | deleteEntry entryId => VaultKern.deleteEntry entryId
  | addGroup drawn parentGroupId title => VaultKern.addGroup drawn parentGroupId title
  | deleteGroup groupId => VaultKern.deleteGroup groupId
  | moveEntry now entryId targetGroupId => VaultKern.moveEntry now entryId targetGroupId
  | moveGroup groupId targetParentGroupId => VaultKern.moveGroup groupId targetParentGroupId
  | softDeleteEntryToRecycleBin drawn now binChangedAt deletedAt entryId =>
      VaultKern.softDeleteEntryToRecycleBin drawn now binChangedAt deletedAt entryId
  | restoreEntryFromRecycleBin now entryId targetGroupId =>
      VaultKern.restoreEntryFromRecycleBin now entryId targetGroupId

end Call

end VaultKern
