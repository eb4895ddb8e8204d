import VaultKern.Core.Calls

/-! # A mutator that fails changes nothing

All checks of a mutator come before its first write, or nothing after the first write
can fail. The exception is `move_group` in a tree with several groups of one id: the
group that is checked need not be the one that is taken out.
-/

namespace VaultKern

open Attempt

variable {A : Type}

/-! ## The parts of mutators -/

theorem readEntry_readOnly (entryId : String) : ReadOnly (readEntry entryId) :=
  .bind .get fun _ => .require _ _

theorem readGroup_readOnly (groupId : String) : ReadOnly (readGroup groupId) :=
  .bind .get fun _ => .require _ _

theorem onEntry_atomic (entryId : String) {m : Attempt MutationError Entry A} (inner : Atomic m) :
    Atomic (onEntry entryId m) := by
  refine .within (fun vault entry found => ?_) inner
  rw [putEntryById_same entryId vault.root found]

theorem onGroup_atomic (groupId : String) {m : Attempt MutationError Group A} (inner : Atomic m) :
    Atomic (onGroup groupId m) := by
  refine .within (fun vault group found => ?_) inner
  rw [putGroupById_same groupId vault.root found]

theorem resolveCustomIcon_readOnly (customIconId : Option String) : ReadOnly (resolveCustomIcon customIconId) := by
  cases customIconId with
  | none => exact .pure _
  | some value =>
      exact .bind (.lift _) fun _ => .bind .get fun _ => .bind (.ensure _ _) fun _ => .pure _

theorem resolveGroupReferenceUpdate_readOnly (update : Option (Option String)) :
    ReadOnly (resolveGroupReferenceUpdate update) := by
  match update with
  | none => exact .pure _
  | some none => exact .pure _
  | some (some groupId) =>
      exact .bind (.lift _) fun _ => .bind (readGroup_readOnly groupId) fun _ => .pure _

theorem sharedAttachmentContent_readOnly (digest : List UInt8 → List UInt8) (bytes : List UInt8) :
    ReadOnly (sharedAttachmentContent digest bytes) := by
  refine .bind .get fun vault => ?_
  split
  · exact .pure _
  · split
    · exact .pure _
    · exact .fail _

/-! ## Mutators of entries -/

theorem updateEntryFields_atomic (entryId : String) (update : EntryUpdate) :
    Atomic (updateEntryFields entryId update) :=
  .check_first (readEntry_readOnly entryId) fun _ =>
    .check_first (.lift _) fun _ => onEntry_atomic entryId (.write _ _)

theorem updateEntryFieldProtection_atomic (entryId : String) (update : EntryFieldProtectionUpdate) :
    Atomic (updateEntryFieldProtection entryId update) :=
  .check_first (readEntry_readOnly entryId) fun _ =>
    .check_first (.lift _) fun _ => onEntry_atomic entryId (.write _ _)

theorem updateEntryPresentationMetadata_atomic (entryId : String) (update : EntryPresentationMetadataUpdate) :
    Atomic (updateEntryPresentationMetadata entryId update) :=
  .check_first (.lift _) fun _ => .check_first (.lift _) fun _ => .check_first (.lift _) fun _ =>
    onEntry_atomic entryId (.write _ _)

theorem updateEntryLineageReportMetadata_atomic (entryId : String) (update : EntryLineageReportMetadataUpdate) :
    Atomic (updateEntryLineageReportMetadata entryId update) := by
  unfold updateEntryLineageReportMetadata
  split
  · exact .check_first (.lift _) fun _ => .check_first (readGroup_readOnly _) fun _ =>
      onEntry_atomic entryId (.write _ _)
  · exact onEntry_atomic entryId (.write _ _)
  · exact onEntry_atomic entryId (.write _ _)

theorem updateEntryAutoType_atomic (entryId : String) (update : EntryAutoTypeUpdate) :
    Atomic (updateEntryAutoType entryId update) :=
  .check_first (.lift _) fun _ => .check_first (.lift _) fun _ => onEntry_atomic entryId (.write _ _)

theorem updateEntryTimes_atomic (entryId : String) (update : EntryTimesUpdate) :
    Atomic (updateEntryTimes entryId update) :=
  .check_first (.ensure _ _) fun _ => .check_first (.lift _) fun _ => .check_first (.lift _) fun _ =>
    onEntry_atomic entryId (.write _ _)

theorem updateEntryExpiry_atomic (entryId : String) (expires : Bool) (expiryTime : Option Int) :
    Atomic (updateEntryExpiry entryId expires expiryTime) :=
  .check_first (.ensure _ _) fun _ => .check_first (.lift _) fun _ => onEntry_atomic entryId (.write _ _)

theorem updateEntryCustomIcon_atomic (entryId : String) (customIconId : Option String) :
    Atomic (updateEntryCustomIcon entryId customIconId) :=
  .check_first (resolveCustomIcon_readOnly customIconId) fun _ => onEntry_atomic entryId (.write _ _)

theorem replaceEntryTags_atomic (entryId : String) (tags : List String) :
    Atomic (replaceEntryTags entryId tags) :=
  onEntry_atomic entryId (.check_first (.lift _) fun _ => .write _ _)

theorem upsertEntryCustomField_atomic (entryId : String) (field : EntryCustomFieldInput) :
    Atomic (upsertEntryCustomField entryId field) :=
  onEntry_atomic entryId (.check_first (.ensure _ _) fun _ => .check_first (.ensure _ _) fun _ =>
    .check_first (.lift _) fun _ => .check_first (.lift _) fun _ => .write _ _)

theorem deleteEntryCustomField_atomic (entryId key : String) : Atomic (deleteEntryCustomField entryId key) :=
  onEntry_atomic entryId (.check_first (.ensure _ _) fun _ => .check_first .get fun _ =>
    .check_first .get fun _ => .check_first (.require _ _) fun _ => .write _ _)

theorem addEntryAttachment_atomic (digest : List UInt8 → List UInt8) (entryId : String)
    (attachment : EntryAttachmentInput) : Atomic (addEntryAttachment digest entryId attachment) :=
  .check_first (.ensure _ _) fun _ => .check_first (.lift _) fun _ =>
    .check_first (sharedAttachmentContent_readOnly digest attachment.data) fun _ =>
      onEntry_atomic entryId (.write _ _)

theorem deleteEntryAttachment_atomic (entryId name : String) : Atomic (deleteEntryAttachment entryId name) :=
  onEntry_atomic entryId (.check_first .get fun _ => .check_first .get fun _ =>
    .check_first (.require _ _) fun _ => .write _ _)

/-- The attachment that was taken out of the map comes back to its name. -/
theorem moveAttachment_restores {name : String} {update : AttachmentMetadataUpdate} {oldIdentities : List String}
    {attachment : Attachment} {entry : Entry} {e : MutationError} (held : entry.attachments[name]? = some attachment)
    (failed : (moveAttachment name update oldIdentities attachment entry).1 = .error e) :
    (moveAttachment name update oldIdentities attachment entry).2 = entry := by
  have putBack : (entry.attachments.erase name).insert name attachment = entry.attachments := by
    apply Std.ExtTreeMap.ext_getElem?
    intro key
    by_cases here : key = name
    · subst here
      simp [held]
    · have apart : name ≠ key := fun same => here same.symm
      simp [Std.ExtTreeMap.getElem?_insert, Std.ExtTreeMap.getElem?_erase, apart]
  simp only [moveAttachment, bind_run, modify_run, get_run] at failed ⊢
  split at failed
  · simp only [*, if_true, modify_run, fail_run, bind_run]
    cases entry
    simp_all
  · cases failed

theorem updateEntryAttachmentMetadata_atomic (entryId name : String) (update : AttachmentMetadataUpdate) :
    Atomic (updateEntryAttachmentMetadata entryId name update) := by
  refine onEntry_atomic entryId (.check_first (.ensure _ _) fun _ => .check_first (.lift _) fun _ => ?_)
  intro entry e failed
  simp only [bind_run, get_run] at failed ⊢
  cases held : entry.attachments[name]? with
  | none => rfl
  | some attachment =>
      simp only [held, require, pure_run] at failed ⊢
      exact moveAttachment_restores held failed

theorem replaceEntryAttachmentContent_atomic (digest : List UInt8 → List UInt8) (entryId name : String)
    (data : List UInt8) : Atomic (replaceEntryAttachmentContent digest entryId name data) :=
  .check_first (sharedAttachmentContent_readOnly digest data) fun _ =>
    onEntry_atomic entryId (.check_first .get fun _ => .check_first (.require _ _) fun _ => .write _ _)

theorem setEntryTotp_atomic (entryId : String) (totp : TotpSpec) : Atomic (setEntryTotp entryId totp) :=
  .check_first (readEntry_readOnly entryId) fun _ => .check_first (.ensure _ _) fun _ =>
    .check_first (.ensure _ _) fun _ => .check_first (.ensure _ _) fun _ => onEntry_atomic entryId (.write _ _)

theorem clearEntryTotp_atomic (entryId : String) : Atomic (clearEntryTotp entryId) :=
  onEntry_atomic entryId (.write _ _)

theorem setEntryPasskey_atomic (entryId : String) (passkey : PasskeyRecord) :
    Atomic (setEntryPasskey entryId passkey) :=
  .check_first (.lift _) fun _ => .check_first (.lift _) fun _ => .check_first (.lift _) fun _ =>
    onEntry_atomic entryId (.write _ _)

theorem clearEntryPasskey_atomic (entryId : String) : Atomic (clearEntryPasskey entryId) :=
  onEntry_atomic entryId (.write _ _)

theorem upsertEntryCustomData_atomic (entryId : String) (item : CustomDataItemInput) :
    Atomic (upsertEntryCustomData entryId item) :=
  .check_first (.lift _) fun _ => onEntry_atomic entryId (.write _ _)

theorem upsertEntryCustomDataDetail_atomic (entryId : String) (item : CustomDataItem) :
    Atomic (upsertEntryCustomDataDetail entryId item) :=
  .check_first (.lift _) fun _ => .check_first (.lift _) fun _ => onEntry_atomic entryId (.write _ _)

theorem deleteEntryCustomData_atomic (entryId key : String) : Atomic (deleteEntryCustomData entryId key) :=
  onEntry_atomic entryId (.check_first .get fun _ => .check_first (.require _ _) fun _ => .write _ _)

theorem snapshotEntryToHistory_atomic (entryId : String) : Atomic (snapshotEntryToHistory entryId) :=
  onEntry_atomic entryId (.write _ _)

theorem clearEntryHistory_atomic (entryId : String) : Atomic (clearEntryHistory entryId) :=
  onEntry_atomic entryId (.write _ _)

/-! ## Mutators of groups -/

theorem updateGroupMetadata_atomic (groupId : String) (update : GroupMetadataUpdate) :
    Atomic (updateGroupMetadata groupId update) :=
  .check_first (.lift _) fun _ => .check_first (.lift _) fun _ => onGroup_atomic groupId (.write _ _)

theorem updateGroupBehaviorMetadata_atomic (groupId : String) (update : GroupBehaviorMetadataUpdate) :
    Atomic (updateGroupBehaviorMetadata groupId update) :=
  .check_first (.lift _) fun _ => .check_first (.lift _) fun _ => onGroup_atomic groupId (.write _ _)

theorem updateGroupLineageTagMetadata_atomic (groupId : String) (update : GroupLineageTagMetadataUpdate) :
    Atomic (updateGroupLineageTagMetadata groupId update) :=
  .check_first (.lift _) fun _ => .check_first (resolveGroupReferenceUpdate_readOnly _) fun _ =>
    onGroup_atomic groupId (.write _ _)

theorem updateGroupTimes_atomic (groupId : String) (update : GroupTimesUpdate) :
    Atomic (updateGroupTimes groupId update) :=
  .check_first (.lift _) fun _ => .check_first (.lift _) fun _ => onGroup_atomic groupId (.write _ _)

theorem updateGroupExpiry_atomic (groupId : String) (expires : Bool) (expiryTime : Option Int) :
    Atomic (updateGroupExpiry groupId expires expiryTime) :=
  .check_first (.lift _) fun _ => onGroup_atomic groupId (.write _ _)

theorem updateGroupCustomIcon_atomic (groupId : String) (customIconId : Option String) :
    Atomic (updateGroupCustomIcon groupId customIconId) :=
  .check_first (resolveCustomIcon_readOnly customIconId) fun _ => onGroup_atomic groupId (.write _ _)

theorem upsertGroupCustomData_atomic (groupId : String) (item : CustomDataItemInput) :
    Atomic (upsertGroupCustomData groupId item) :=
  .check_first (.lift _) fun _ => onGroup_atomic groupId (.write _ _)

theorem upsertGroupCustomDataDetail_atomic (groupId : String) (item : CustomDataItem) :
    Atomic (upsertGroupCustomDataDetail groupId item) :=
  .check_first (.lift _) fun _ => .check_first (.lift _) fun _ => onGroup_atomic groupId (.write _ _)

theorem deleteGroupCustomData_atomic (groupId key : String) : Atomic (deleteGroupCustomData groupId key) :=
  onGroup_atomic groupId (.check_first .get fun _ => .check_first (.require _ _) fun _ => .write _ _)

/-! ## Mutators of the vault -/

theorem upsertCustomIcon_atomic (drawn : Uuid) (input : CustomIconInput) : Atomic (upsertCustomIcon drawn input) :=
  .check_first (.lift _) fun _ => .check_first (.lift _) fun _ => .check_first (.lift _) fun _ => .write _ _

theorem deleteCustomIcon_atomic (iconId : String) : Atomic (deleteCustomIcon iconId) :=
  .check_first (.lift _) fun _ => .check_first .get fun _ => .check_first (.require _ _) fun _ =>
    (Infallible.modify _).atomic

theorem upsertVaultCustomData_atomic (item : CustomDataItemInput) : Atomic (upsertVaultCustomData item) :=
  .check_first (.lift _) fun _ => .write _ _

theorem upsertVaultCustomDataDetail_atomic (item : CustomDataItem) : Atomic (upsertVaultCustomDataDetail item) :=
  .check_first (.lift _) fun _ => .check_first (.lift _) fun _ => .write _ _

theorem deleteVaultCustomData_atomic (key : String) : Atomic (deleteVaultCustomData key) :=
  .check_first .get fun _ => .check_first (.require _ _) fun _ => .write _ _

theorem upsertVaultPublicCustomData_atomic (key : String) (value : List UInt8) :
    Atomic (upsertVaultPublicCustomData key value) :=
  .check_first (.lift _) fun _ => .write _ _

theorem deleteVaultPublicCustomData_atomic (key : String) : Atomic (deleteVaultPublicCustomData key) :=
  .check_first .get fun _ => .check_first (.require _ _) fun _ => .write _ _

theorem updateVaultMetadata_atomic (update : VaultMetadataUpdate) : Atomic (updateVaultMetadata update) :=
  .check_first (.lift _) fun _ => .check_first (.lift _) fun _ => .check_first (.lift _) fun _ => .write _ _

theorem updateVaultSelectionMetadata_atomic (update : VaultSelectionMetadataUpdate) :
    Atomic (updateVaultSelectionMetadata update) :=
  .check_first (resolveGroupReferenceUpdate_readOnly _) fun _ =>
    .check_first (resolveGroupReferenceUpdate_readOnly _) fun _ => .write _ _

theorem updateVaultLifecycleMetadata_atomic (update : VaultLifecycleMetadata) :
    Atomic (updateVaultLifecycleMetadata update) :=
  .check_first (.lift _) fun _ => .check_first (.lift _) fun _ => .write _ _

theorem updateVaultBinTemplateMetadata_atomic (update : VaultBinTemplateMetadataUpdate) :
    Atomic (updateVaultBinTemplateMetadata update) :=
  .check_first (.lift _) fun _ => .check_first (.lift _) fun _ =>
    .check_first (resolveGroupReferenceUpdate_readOnly _) fun _ =>
      .check_first (resolveGroupReferenceUpdate_readOnly _) fun _ => .write _ _

theorem updateVaultIdentityMetadata_atomic (update : VaultIdentityMetadataUpdate) :
    Atomic (updateVaultIdentityMetadata update) :=
  .check_first (.lift _) fun _ => .check_first (.lift _) fun _ => .check_first (.lift _) fun _ =>
    .check_first (.lift _) fun _ => .check_first (.lift _) fun _ => .write _ _

/-! ## Mutators of the tree -/

theorem addEntryWithId_atomic (now : Int) (parentGroupId entryId : String) (create : EntryCreate) :
    Atomic (addEntryWithId now parentGroupId entryId create) :=
  .check_first (.lift _) fun _ => .check_first (.ensure _ _) fun _ => .check_first .get fun _ =>
    .check_first (.ensure _ _) fun _ => .check_first (.lift _) fun _ => .check_first (.lift _) fun _ =>
      .check_first (.lift _) fun _ => .check_first (.lift _) fun _ =>
        .check_first (readGroup_readOnly parentGroupId) fun _ => .check_first (.lift _) fun _ =>
          onGroup_atomic parentGroupId (.write _ _)

theorem addGroup_atomic (drawn : Uuid) (parentGroupId title : String) :
    Atomic (addGroup drawn parentGroupId title) :=
  .check_first (.lift _) fun _ => onGroup_atomic parentGroupId (.write _ _)

theorem deleteEntry_atomic (entryId : String) : Atomic (deleteEntry entryId) :=
  .check_first .get fun _ => .check_first (.require _ _) fun _ => (Infallible.modify _).atomic

theorem deleteGroup_atomic (groupId : String) : Atomic (deleteGroup groupId) :=
  .check_first .get fun _ => .check_first (.ensure _ _) fun _ => .check_first .get fun _ =>
    .check_first (.require _ _) fun _ => (Infallible.modify _).atomic

theorem moveEntry_atomic (now : Int) (entryId target : String) : Atomic (moveEntry now entryId target) := by
  intro vault e failed
  rcases moveEntry_cases vault entryId target now with
    ⟨e', run⟩ | ⟨next, after, moved, -, -, run⟩
  · rw [run]
  · rw [run] at failed
    cases failed

theorem softDeleteEntryToRecycleBin_atomic (drawn : Uuid) (now binChangedAt deletedAt : Int) (entryId : String) :
    Atomic (softDeleteEntryToRecycleBin drawn now binChangedAt deletedAt entryId) := by
  intro vault e failed
  rcases softDeleteEntryToRecycleBin_cases vault entryId drawn now binChangedAt deletedAt
    with ⟨e', run⟩ | ⟨next, binId, ready, after, moved, -, -, run⟩
  · rw [run]
  · rw [run] at failed
    cases failed

theorem restoreEntryFromRecycleBin_atomic (now : Int) (entryId : String) (requested : Option String) :
    Atomic (restoreEntryFromRecycleBin now entryId requested) := by
  intro vault e failed
  rcases restoreEntryFromRecycleBin_cases vault entryId now requested
    with ⟨e', run⟩ | ⟨next, target, after, moved, run⟩
  · rw [run]
  · rw [run] at failed
    cases failed

/-! ## Every mutator -/

/-- The groups of that id at or below a group. -/
def groupsNamed (id : String) (root : Group) : List Group := (subgroups root).filter (namedGroup id)

/-- The checks of `move_group` pass, and every group with the target's id lies in the
    group that is taken out. -/
def LosesGroup (vault : Vault) (groupId target : String) : Prop :=
  MovableGroup vault groupId target ∧ ∃ taken, firstBelow groupId vault.root = some taken ∧
    (groupsNamed target vault.root).length = (groupsNamed target taken).length

theorem groupsNamed_length (id : String) (root : Group) :
    (groupsNamed id root).length = ((shellsIn root).map (·.id)).countP fun groupId => uuidToString groupId = id := by
  rw [groupsNamed, ← List.countP_eq_length_filter, shellsIn, List.map_map, List.countP_map]
  rfl

/-- Groups of an id are either taken out or left. -/
theorem groupsNamed_taken (id : String) {groupId : String} {root left taken : Group}
    (result : takeGroupFromGroup groupId root = some (left, taken)) :
    (groupsNamed id root).length = (groupsNamed id taken).length + (groupsNamed id left).length := by
  obtain ⟨⟨-, -, _, -, -, groups⟩, -⟩ := takeGroupFromGroup_bags result
  rw [groupsNamed_length, groupsNamed_length, groupsNamed_length, groups.ids.countP_eq, List.map_append,
    List.countP_append]

theorem findGroupById_none_iff {id : String} {root : Group} :
    findGroupById id root = none ↔ (groupsNamed id root).length = 0 := by
  rw [List.length_eq_zero_iff, groupsNamed, List.filter_eq_nil_iff]
  constructor
  · intro result group inside named
    exact findGroupById_none root result group inside (by simpa [namedGroup] using named)
  · intro apart
    cases result : findGroupById id root with
    | none => rfl
    | some group =>
        obtain ⟨inside, named⟩ := findGroupById_some root result
        exact absurd (by simpa [namedGroup] using named) (apart group inside)

/-- A tree from which a group was taken is another tree. -/
theorem left_ne_root {groupId : String} {root left taken : Group}
    (result : takeGroupFromGroup groupId root = some (left, taken)) : left ≠ root := by
  rintro rfl
  obtain ⟨⟨-, -, _, -, -, groups⟩, -⟩ := takeGroupFromGroup_bags result
  have lengths := groups.ids.length_eq
  have nonempty : 0 < (shellsIn taken).length := by
    rw [shellsIn, subgroups_cons]
    simp
  simp only [List.length_map, List.length_append] at lengths
  omega

theorem moveGroup_atomic_iff {vault : Vault} {groupId target : String} :
    (∀ e, (moveGroup groupId target vault).1 = .error e → (moveGroup groupId target vault).2 = vault) ↔
      ¬ LosesGroup vault groupId target := by
  rcases moveGroup_cases vault groupId target with
    ⟨e, run, blocked⟩ | ⟨movable, left, group, taken, gone, run⟩ | ⟨movable, after, moved, run⟩
  · refine iff_of_true (fun _ _ => by rw [run]) fun loses => blocked loses.1
  · have count := groupsNamed_taken target taken
    rw [findGroupById_none_iff.mp gone] at count
    have first := takeGroupFromGroup_taken groupId vault.root
    rw [taken] at first
    refine iff_of_false (fun keeps => ?_) fun keeps => keeps ⟨movable, group, first.symm, by simpa using count⟩
    have same := keeps (.groupNotFound target) (by rw [run])
    rw [run] at same
    exact left_ne_root taken (congrArg Vault.root same)
  · refine iff_of_true (fun e failed => by rw [run] at failed; cases failed) fun loses => ?_
    obtain ⟨-, taken, first, count⟩ := loses
    have search := takeGroupFromGroup_taken groupId vault.root
    rw [moved.taken, first] at search
    have same : moved.group = taken := Option.some.inj search
    subst same
    have total := groupsNamed_taken target moved.taken
    have found : findGroupById target moved.left ≠ none := by
      intro none
      have put := moved.put
      simp [putInto, none] at put
    exact found (findGroupById_none_iff.mpr (by omega))

/-- With distinct ids the group that is checked is the one that is taken out. -/
theorem losesGroup_of_distinct {vault : Vault} {groupId target : String}
    (distinct : ((subgroups vault.root).map (·.id)).Nodup) : ¬ LosesGroup vault groupId target := by
  rintro ⟨movable, taken, first, count⟩
  obtain ⟨moving, found, notTarget, below⟩ := movable.found
  obtain ⟨inside, named⟩ := findGroupById_some vault.root found
  obtain ⟨left, group, result⟩ := takeGroup_of_movable movable
  have search := takeGroupFromGroup_taken groupId vault.root
  rw [result, first] at search
  obtain rfl : group = taken := Option.some.inj search
  have under := firstBelow_some vault.root first
  have same : group = moving := by
    refine List.inj_on_of_nodup_map distinct ?_ inside (uuidToString_injective ?_)
    · rw [subgroups_cons, ← subgroupsOf_eq_flatMap]
      exact List.mem_cons_of_mem _ under
    · exact (takeGroupFromGroup_bags result).1.1.trans named.symm
  have none : groupsNamed target group = [] := by
    rw [groupsNamed, List.filter_eq_nil_iff, same, subgroups_cons, ← subgroupsOf_eq_flatMap]
    intro other member
    rcases List.mem_cons.mp member with rfl | deeper
    · simp [notTarget]
    · simp [groupContainsId_false below other deeper]
  rw [none] at count
  have absent := findGroupById_none_iff.mpr count
  simpa [absent] using movable.targetFound

/-- The calls that lose a group: `move_group` on a tree with several groups of one id. -/
def Call.Loses (vault : Vault) : Call A → Prop
  | .moveGroup groupId target => LosesGroup vault groupId target
  | _ => False

/-- A failed call leaves the vault as it was, if it loses no group. -/
theorem call_atomic_iff (digest : List UInt8 → List UInt8) (call : Call A) (vault : Vault) :
    (∀ e, (call.run digest vault).1 = .error e → (call.run digest vault).2 = vault) ↔ ¬ call.Loses vault := by
  have keeps {m : Mutator A} (atomic : Atomic m) :
      (∀ e, (m vault).1 = .error e → (m vault).2 = vault) ↔ ¬ False := iff_of_true (atomic vault) not_false
  cases call with
  | updateEntryFields entryId update => exact keeps (updateEntryFields_atomic entryId update)
  | updateEntryFieldProtection entryId update =>
      exact keeps (updateEntryFieldProtection_atomic entryId update)
  | updateEntryPresentationMetadata entryId update =>
      exact keeps (updateEntryPresentationMetadata_atomic entryId update)
  | updateEntryLineageReportMetadata entryId update =>
      exact keeps (updateEntryLineageReportMetadata_atomic entryId update)
  | updateEntryAutoType entryId update => exact keeps (updateEntryAutoType_atomic entryId update)
  | updateEntryTimes entryId update => exact keeps (updateEntryTimes_atomic entryId update)
  | updateEntryExpiry entryId expires expiryTime =>
      exact keeps (updateEntryExpiry_atomic entryId expires expiryTime)
  | updateEntryCustomIcon entryId customIconId =>
      exact keeps (updateEntryCustomIcon_atomic entryId customIconId)
  | replaceEntryTags entryId tags => exact keeps (replaceEntryTags_atomic entryId tags)
  | upsertEntryCustomField entryId field => exact keeps (upsertEntryCustomField_atomic entryId field)
  | deleteEntryCustomField entryId key => exact keeps (deleteEntryCustomField_atomic entryId key)
  | addEntryAttachment entryId attachment =>
      exact keeps (addEntryAttachment_atomic digest entryId attachment)
  | deleteEntryAttachment entryId name => exact keeps (deleteEntryAttachment_atomic entryId name)
  | updateEntryAttachmentMetadata entryId name update =>
      exact keeps (updateEntryAttachmentMetadata_atomic entryId name update)
  | replaceEntryAttachmentContent entryId name data =>
      exact keeps (replaceEntryAttachmentContent_atomic digest entryId name data)
  | setEntryTotp entryId totp => exact keeps (setEntryTotp_atomic entryId totp)
  | clearEntryTotp entryId => exact keeps (clearEntryTotp_atomic entryId)
  | setEntryPasskey entryId passkey => exact keeps (setEntryPasskey_atomic entryId passkey)
  | clearEntryPasskey entryId => exact keeps (clearEntryPasskey_atomic entryId)
  | upsertEntryCustomData entryId item => exact keeps (upsertEntryCustomData_atomic entryId item)
  | upsertEntryCustomDataDetail entryId item =>
      exact keeps (upsertEntryCustomDataDetail_atomic entryId item)
  | deleteEntryCustomData entryId key => exact keeps (deleteEntryCustomData_atomic entryId key)
  | snapshotEntryToHistory entryId => exact keeps (snapshotEntryToHistory_atomic entryId)
  | clearEntryHistory entryId => exact keeps (clearEntryHistory_atomic entryId)
  | updateGroupMetadata groupId update => exact keeps (updateGroupMetadata_atomic groupId update)
  | updateGroupBehaviorMetadata groupId update =>
      exact keeps (updateGroupBehaviorMetadata_atomic groupId update)
  | updateGroupLineageTagMetadata groupId update =>
      exact keeps (updateGroupLineageTagMetadata_atomic groupId update)
  | updateGroupTimes groupId update => exact keeps (updateGroupTimes_atomic groupId update)
  | updateGroupExpiry groupId expires expiryTime =>
      exact keeps (updateGroupExpiry_atomic groupId expires expiryTime)
  | updateGroupCustomIcon groupId customIconId =>
      exact keeps (updateGroupCustomIcon_atomic groupId customIconId)
  | upsertGroupCustomData groupId item => exact keeps (upsertGroupCustomData_atomic groupId item)
  | upsertGroupCustomDataDetail groupId item =>
      exact keeps (upsertGroupCustomDataDetail_atomic groupId item)
  | deleteGroupCustomData groupId key => exact keeps (deleteGroupCustomData_atomic groupId key)
  | upsertCustomIcon drawn input => exact keeps (upsertCustomIcon_atomic drawn input)
  | deleteCustomIcon iconId => exact keeps (deleteCustomIcon_atomic iconId)
  | upsertVaultCustomData item => exact keeps (upsertVaultCustomData_atomic item)
  | upsertVaultCustomDataDetail item => exact keeps (upsertVaultCustomDataDetail_atomic item)
  | deleteVaultCustomData key => exact keeps (deleteVaultCustomData_atomic key)
  | upsertVaultPublicCustomData key value => exact keeps (upsertVaultPublicCustomData_atomic key value)
  | deleteVaultPublicCustomData key => exact keeps (deleteVaultPublicCustomData_atomic key)
  | updateVaultMetadata update => exact keeps (updateVaultMetadata_atomic update)
  | updateVaultSelectionMetadata update => exact keeps (updateVaultSelectionMetadata_atomic update)
  | updateVaultLifecycleMetadata update => exact keeps (updateVaultLifecycleMetadata_atomic update)
  | updateVaultBinTemplateMetadata update => exact keeps (updateVaultBinTemplateMetadata_atomic update)
  | updateVaultIdentityMetadata update => exact keeps (updateVaultIdentityMetadata_atomic update)
  | addEntry drawn now parentGroupId create =>
      exact keeps (addEntryWithId_atomic now parentGroupId (uuidToString drawn) create)
  | addEntryWithId now parentGroupId entryId create =>
      exact keeps (addEntryWithId_atomic now parentGroupId entryId create)
  | deleteEntry entryId => exact keeps (deleteEntry_atomic entryId)
  | addGroup drawn parentGroupId title => exact keeps (addGroup_atomic drawn parentGroupId title)
  | deleteGroup groupId => exact keeps (deleteGroup_atomic groupId)
  | moveEntry now entryId targetGroupId => exact keeps (moveEntry_atomic now entryId targetGroupId)
  | moveGroup groupId target => exact moveGroup_atomic_iff
  | softDeleteEntryToRecycleBin drawn now binChangedAt deletedAt entryId =>
      exact keeps (softDeleteEntryToRecycleBin_atomic drawn now binChangedAt deletedAt entryId)
  | restoreEntryFromRecycleBin now entryId targetGroupId =>
      exact keeps (restoreEntryFromRecycleBin_atomic now entryId targetGroupId)

/-- A failed call leaves a vault with distinct group ids as it was. -/
theorem call_atomic (digest : List UInt8 → List UInt8) {A : Type} (call : Call A) {vault : Vault}
    (distinct : ((subgroups vault.root).map (·.id)).Nodup) {e : MutationError}
    (failed : (call.run digest vault).1 = .error e) : (call.run digest vault).2 = vault := by
  refine (call_atomic_iff digest call vault).mpr ?_ e failed
  cases call with
  | moveGroup groupId target => exact losesGroup_of_distinct distinct
  | _ => exact not_false

/-- Moving a group below itself is refused. -/
def nestedVault : Vault :=
  { name := "Nested"
    root :=
      { id := 1, title := "Root"
        children := [{ id := 2, title := "Work", children := [{ id := 5, title := "Mail" }] }, { id := 7, title := "Home" }] } }

def moveBelowItself : Call GroupView := .moveGroup (uuidToString 2) (uuidToString 5)

theorem call_atomic_nested :
    (moveBelowItself.run id nestedVault).1.toOption.isNone ∧ (moveBelowItself.run id nestedVault).2 = nestedVault := by
  have fails : (moveBelowItself.run id nestedVault).1.toOption.isNone := by decide +kernel
  cases result : (moveBelowItself.run id nestedVault).1 with
  | error e => exact ⟨rfl, call_atomic id moveBelowItself (by decide +kernel) result⟩
  | ok view => simp [result, Except.toOption] at fails

/-- Two groups of one id: the search finds the first, `take_group_from_group` takes the second. -/
def copiedGroupVault : Vault :=
  { name := "Copies"
    root :=
      { id := 1, title := "Root"
        children :=
          [{ id := 2, title := "Work", children := [{ id := 5, title := "Copy" }] },
            { id := 5, title := "Copy", children := [{ id := 7, title := "Target" }] }] } }

def moveCopiedGroup : Call GroupView := .moveGroup (uuidToString 5) (uuidToString 7)

/-- The move fails, and the second copy and the target are gone. -/
theorem copiedGroup_lost : ¬ ∀ (call : Call GroupView) (vault : Vault) (e : MutationError),
    (call.run id vault).1 = .error e → (call.run id vault).2 = vault := by
  intro atomic
  have fails : (moveCopiedGroup.run id copiedGroupVault).1.toOption.isNone := by decide +kernel
  have loses : (moveCopiedGroup.run id copiedGroupVault).2.root.children.length ≠
      copiedGroupVault.root.children.length := by decide +kernel
  cases result : (moveCopiedGroup.run id copiedGroupVault).1 with
  | error e => exact loses (by rw [atomic moveCopiedGroup copiedGroupVault e result])
  | ok view => simp [result, Except.toOption] at fails

end VaultKern
