import VaultKern.Outcome.CustomDataUnits
import VaultKern.Outcome.SharedEntry

/-! # The units of an entry

Everything that an entry merge decides on its own: fields, free attribute keys,
attachment names, CustomData keys, and the two credential units. Each is merged as
a single value, and the merge conflicts exactly when one of them does, or one of
the two fidelity fields.
-/

namespace VaultKern

open ThreeWay

inductive EntryUnit where
  | title | username | password | url | notes | tags
  | foregroundColor | backgroundColor | overrideUrl
  | createdAt | expires | expiryTime | lastAccessedAt | usageCount
  | autoType | previousParent | excludeFromReports
  | protectTitle | protectUsername | protectPassword | protectUrl | protectNotes
  | icon | totp | passkey
  | customField (key : String) (free : isReservedCredentialAttribute key = false)
  | attachment (name : String)
  | customData (key : String)

namespace EntryUnit

abbrev Value : EntryUnit → Type
  | title | username | password | url | notes => String
  | tags => BTreeSet String
  | foregroundColor | backgroundColor | overrideUrl => Option String
  | createdAt => Nat
  | expires | excludeFromReports => Bool
  | expiryTime => Option Int
  | lastAccessedAt | usageCount => Option Nat
  | autoType => Option AutoTypeConfig
  | previousParent => Option Uuid
  | protectTitle | protectUsername | protectPassword | protectUrl | protectNotes => Bool
  | icon => Option Nat × Option Uuid
  | totp => TotpUnit
  | passkey => PasskeyUnit
  | customField _ _ => Option CustomField
  | attachment _ => Option Attachment
  | customData _ => Option String

instance : (unit : EntryUnit) → DecidableEq unit.Value
  | title | username | password | url | notes => inferInstanceAs (DecidableEq String)
  | tags => inferInstanceAs (DecidableEq (BTreeSet String))
  | foregroundColor | backgroundColor | overrideUrl => inferInstanceAs (DecidableEq (Option String))
  | createdAt => inferInstanceAs (DecidableEq Nat)
  | expires | excludeFromReports => inferInstanceAs (DecidableEq Bool)
  | expiryTime => inferInstanceAs (DecidableEq (Option Int))
  | lastAccessedAt | usageCount => inferInstanceAs (DecidableEq (Option Nat))
  | autoType => inferInstanceAs (DecidableEq (Option AutoTypeConfig))
  | previousParent => inferInstanceAs (DecidableEq (Option Uuid))
  | protectTitle | protectUsername | protectPassword | protectUrl | protectNotes =>
      inferInstanceAs (DecidableEq Bool)
  | icon => inferInstanceAs (DecidableEq (Option Nat × Option Uuid))
  | totp => inferInstanceAs (DecidableEq TotpUnit)
  | passkey => inferInstanceAs (DecidableEq PasskeyUnit)
  | customField _ _ => inferInstanceAs (DecidableEq (Option CustomField))
  | attachment _ => inferInstanceAs (DecidableEq (Option Attachment))
  | customData _ => inferInstanceAs (DecidableEq (Option String))

def get : (unit : EntryUnit) → Entry → unit.Value
  | title, entry => entry.title
  | username, entry => entry.username
  | password, entry => entry.password
  | url, entry => entry.url
  | notes, entry => entry.notes
  | tags, entry => entry.tags
  | foregroundColor, entry => entry.foregroundColor
  | backgroundColor, entry => entry.backgroundColor
  | overrideUrl, entry => entry.overrideUrl
  | createdAt, entry => entry.createdAt
  | expires, entry => entry.expires
  | expiryTime, entry => entry.expiryTime
  | lastAccessedAt, entry => entry.lastAccessedAt
  | usageCount, entry => entry.usageCount
  | autoType, entry => entry.autoType
  | previousParent, entry => entry.previousParent
  | excludeFromReports, entry => entry.excludeFromReports
  | protectTitle, entry => entry.fieldProtection.protectTitle
  | protectUsername, entry => entry.fieldProtection.protectUsername
  | protectPassword, entry => entry.fieldProtection.protectPassword
  | protectUrl, entry => entry.fieldProtection.protectUrl
  | protectNotes, entry => entry.fieldProtection.protectNotes
  | icon, entry => (entry.iconId, entry.customIconId)
  | totp, entry => totpUnit entry
  | passkey, entry => passkeyUnit entry
  | customField key _, entry => entry.attributes[key]?
  | attachment name, entry => entry.attachments[name]?
  | customData key, entry => entry.customData[key]?

@[simp] theorem get_normalizeEntrySlots (unit : EntryUnit) (entry : Entry) :
    unit.get (normalizeEntrySlots entry) = unit.get entry := by
  cases unit <;> rfl

@[simp] theorem get_setEntryModifiedAt (unit : EntryUnit) (entry : Entry) (value : Nat) :
    unit.get (setEntryModifiedAt entry value) = unit.get entry := by
  cases unit <;> rfl

@[simp] theorem get_setEntryLocationChangedAt (unit : EntryUnit) (entry : Entry) (value : Option Nat) :
    unit.get (setEntryLocationChangedAt entry value) = unit.get entry := by
  cases unit <;> rfl

@[simp] theorem get_setHistory (unit : EntryUnit) (entry : Entry) (history : List Entry) :
    unit.get { entry with history } = unit.get entry := by
  cases entry
  cases unit <;> rfl

attribute [ext] EntryFieldProtection EntryFields

end EntryUnit

/-! ## Attributes -/

theorem extendMap_lookup {V : Type} (m other : BTreeMap String V) (key : String) :
    (extendMap m other)[key]? = other[key]?.or m[key]? := by
  rw [extendMap, ← BTreeMap.lastWins_toList other]
  exact BTreeMap.foldl_insert_lookup other.toList m key

section Merge

variable (base local' remote : Entry) (preferLocal : Bool)

def pickedTotp : TotpUnit := pick (totpUnit base) (totpUnit local') (totpUnit remote) preferLocal

def pickedPasskey : PasskeyUnit :=
  pick (passkeyUnit base) (passkeyUnit local') (passkeyUnit remote) preferLocal

theorem pickedTotp_lookup {key : String} (foreign : isTotpPersistentAttributeKey key = false) :
    (pickedTotp base local' remote preferLocal).attributes[key]? = none := by
  have side (entry : Entry) : (totpUnit entry).attributes[key]? = none := by
    rw [totpUnit, BTreeMap.filter_key_lookup, foreign]
    rfl
  exact pick_of_both (P := fun unit : TotpUnit => unit.attributes[key]? = none) _ _ (side local') (side remote)

theorem pickedPasskey_lookup {key : String} (foreign : PasskeyRecord.isPersistentAttributeKey key = false) :
    (pickedPasskey base local' remote preferLocal).attributes[key]? = none := by
  have side (entry : Entry) : (passkeyUnit entry).attributes[key]? = none := by
    rw [passkeyUnit, BTreeMap.filter_key_lookup, foreign]
    rfl
  exact pick_of_both (P := fun unit : PasskeyUnit => unit.attributes[key]? = none) _ _ (side local')
    (side remote)

/-- The merged attributes: free keys one by one, reserved keys from the credential units. -/
theorem mergeEntryUnits_attributes (key : String) :
    (mergeEntryUnits base local' remote preferLocal).result.1.attributes[key]? =
      if PasskeyRecord.isPersistentAttributeKey key then
        (pickedPasskey base local' remote preferLocal).attributes[key]?
      else if isTotpPersistentAttributeKey key then
        (pickedTotp base local' remote preferLocal).attributes[key]?
      else pick base.attributes[key]? local'.attributes[key]? remote.attributes[key]? preferLocal := by
  have assembled : ∃ state, (mergeEntryUnits base local' remote preferLocal).result.1.attributes =
      extendMap (extendMap (mergeKeyedMapFiltered base.attributes local'.attributes remote.attributes preferLocal
        (fun key => !isReservedCredentialAttribute key) state).1
          (pickedTotp base local' remote preferLocal).attributes)
          (pickedPasskey base local' remote preferLocal).attributes := ⟨_, rfl⟩
  obtain ⟨state, assembled⟩ := assembled
  rw [assembled, extendMap_lookup, extendMap_lookup, mergeKeyedMapFiltered_lookup, isReservedCredentialAttribute]
  cases passkey : PasskeyRecord.isPersistentAttributeKey key with
  | true =>
      have notTotp : isTotpPersistentAttributeKey key = false := by
        by_contra totp
        have other := totp_key_not_passkey (Bool.not_eq_false _ ▸ totp)
        rw [passkey] at other
        cases other
      simp [notTotp, pickedTotp_lookup]
  | false =>
      cases totp : isTotpPersistentAttributeKey key with
      | true => simp [pickedPasskey_lookup, passkey]
      | false => simp [pickedPasskey_lookup, pickedTotp_lookup, passkey, totp]

theorem mergeEntryUnits_totp :
    totpUnit (mergeEntryUnits base local' remote preferLocal).result.1 =
      pickedTotp base local' remote preferLocal := by
  have projected : (mergeEntryUnits base local' remote preferLocal).result.1.totp =
      (pickedTotp base local' remote preferLocal).projected := rfl
  have attributes : (totpUnit (mergeEntryUnits base local' remote preferLocal).result.1).attributes =
      (pickedTotp base local' remote preferLocal).attributes := by
    apply Std.ExtTreeMap.ext_getElem?
    intro key
    rw [totpUnit, BTreeMap.filter_key_lookup, mergeEntryUnits_attributes]
    cases totp : isTotpPersistentAttributeKey key with
    | true => simp [totp_key_not_passkey totp]
    | false => simp [pickedTotp_lookup, totp]
  calc
    _ = (⟨_, (totpUnit (mergeEntryUnits base local' remote preferLocal).result.1).attributes⟩ : TotpUnit) := rfl
    _ = _ := by rw [attributes]; exact congrArg (TotpUnit.mk · _) projected

theorem mergeEntryUnits_passkey :
    passkeyUnit (mergeEntryUnits base local' remote preferLocal).result.1 =
      pickedPasskey base local' remote preferLocal := by
  have projected : (mergeEntryUnits base local' remote preferLocal).result.1.passkey =
      (pickedPasskey base local' remote preferLocal).projected := rfl
  have attributes : (passkeyUnit (mergeEntryUnits base local' remote preferLocal).result.1).attributes =
      (pickedPasskey base local' remote preferLocal).attributes := by
    apply Std.ExtTreeMap.ext_getElem?
    intro key
    rw [passkeyUnit, BTreeMap.filter_key_lookup, mergeEntryUnits_attributes]
    cases passkey : PasskeyRecord.isPersistentAttributeKey key with
    | true => simp
    | false => simp [pickedPasskey_lookup, passkey]
  calc
    _ = (⟨_, (passkeyUnit (mergeEntryUnits base local' remote preferLocal).result.1).attributes⟩ :
          PasskeyUnit) := rfl
    _ = _ := by rw [attributes]; exact congrArg (PasskeyUnit.mk · _) projected

/-! ## CustomData and the fidelity fields -/

def pickedRawState : EntryRawState := pick base.rawState local'.rawState remote.rawState preferLocal

def mergedEntryCustomData : CustomDataMerge :=
  mergedCustomData base.customData base.customDataBlocks local'.customData local'.customDataBlocks
    remote.customData remote.customDataBlocks preferLocal
    (pick base.opaqueXml local'.opaqueXml remote.opaqueXml preferLocal)
    (pickedRawState base local' remote preferLocal).nodeOrder

/-- The state in which the CustomData of an entry is merged does not matter. -/
private theorem entryCustomData_eq {α : Type} (field : CustomDataMerge → α) {value : α}
    (assembled : ∃ state, value =
      field (mergeCustomDataFields base.customData base.customDataBlocks local'.customData
        local'.customDataBlocks remote.customData remote.customDataBlocks preferLocal
        (pick base.opaqueXml local'.opaqueXml remote.opaqueXml preferLocal)
        (pickedRawState base local' remote preferLocal).nodeOrder state).1) :
    value = field (mergedEntryCustomData base local' remote preferLocal) := by
  obtain ⟨state, assembled⟩ := assembled
  rw [assembled, mergeCustomDataFields_fst]
  rfl

theorem mergeEntryUnits_customData :
    (mergeEntryUnits base local' remote preferLocal).result.1.customData =
      (mergedEntryCustomData base local' remote preferLocal).values :=
  entryCustomData_eq base local' remote preferLocal (·.values) ⟨_, rfl⟩

/-- Every unit of the merged entry is picked from the three sides. -/
theorem mergeEntryUnits_get (unit : EntryUnit) :
    unit.get (mergeEntryUnits base local' remote preferLocal).result.1 =
      pick (unit.get base) (unit.get local') (unit.get remote) preferLocal := by
  cases unit with
  | totp => exact mergeEntryUnits_totp base local' remote preferLocal
  | passkey => exact mergeEntryUnits_passkey base local' remote preferLocal
  | customField key free =>
      have ⟨notTotp, notPasskey⟩ : isTotpPersistentAttributeKey key = false ∧
          PasskeyRecord.isPersistentAttributeKey key = false := by
        simpa [isReservedCredentialAttribute] using free
      refine (mergeEntryUnits_attributes base local' remote preferLocal key).trans ?_
      rw [notTotp, notPasskey]
      rfl
  | attachment name =>
      have assembled : ∃ state, (mergeEntryUnits base local' remote preferLocal).result.1.attachments =
          (mergeKeyedMapFiltered base.attachments local'.attachments remote.attachments preferLocal
            (fun _ => true) state).1 := ⟨_, rfl⟩
      obtain ⟨state, assembled⟩ := assembled
      refine (congrArg (·[name]?) assembled).trans ?_
      rw [mergeKeyedMapFiltered_lookup]
      rfl
  | customData key =>
      refine (congrArg (·[key]?) (mergeEntryUnits_customData base local' remote preferLocal)).trans ?_
      rw [mergedEntryCustomData, mergedCustomData_values]
      rfl
  | _ => rfl

/-! ## Conflicts -/

/-- What makes an entry merge keep a snapshot of the losing side. -/
inductive EntryConflict : Prop
  | unit (unit : EntryUnit) (differs : Conflicts (unit.get base) (unit.get local') (unit.get remote))
  | rawState (differs : Conflicts base.rawState local'.rawState remote.rawState)
  | opaqueXml (differs : Conflicts base.opaqueXml local'.opaqueXml remote.opaqueXml)

theorem detects_fieldProtection (b l r : EntryFieldProtection) :
    Detects (mergeEntryFieldProtection b l r preferLocal)
      (Conflicts b.protectTitle l.protectTitle r.protectTitle ∨
        Conflicts b.protectUsername l.protectUsername r.protectUsername ∨
          Conflicts b.protectPassword l.protectPassword r.protectPassword ∨
            Conflicts b.protectUrl l.protectUrl r.protectUrl ∨
              Conflicts b.protectNotes l.protectNotes r.protectNotes ∨ False) := by
  iterate 5 refine Detects.bind (Detects.field _ _ _ _ _) fun _ => ?_
  exact Detects.pure _

theorem detects_entryUnits :
    Detects (mergeEntryUnits base local' remote preferLocal) (EntryConflict base local' remote) := by
  apply Detects.congr
  case head =>
    unfold mergeEntryUnits
    iterate 19
      apply Detects.bind (Detects.field _ _ _ _ _)
      intro _
    apply Detects.bind (detects_fieldProtection _ _ _ _)
    intro _
    apply Detects.bind (Detects.field _ _ _ _ _)
    rintro ⟨_, _⟩
    apply Detects.bind (Detects.keyed _ _ _ _ _)
    intro _
    iterate 2
      apply Detects.bind (Detects.field _ _ _ _ _)
      intro _
    apply Detects.bind (Detects.keyed _ _ _ _ _)
    intro _
    apply Detects.bind (Detects.customDataFields _ _ _ _ _ _ _ _ _)
    intro _
    exact Detects.pure _
  case same =>
    constructor
    · rintro (h | h | h | h | h | h | h | h | h | h | h | h | h | h | h | h | h | h | h |
        (h | h | h | h | h | h) | h | ⟨key, free, h⟩ | h | h | ⟨name, _, h⟩ | ⟨key, h⟩ | h)
      · exact .unit .title h
      · exact .unit .username h
      · exact .unit .password h
      · exact .unit .url h
      · exact .unit .notes h
      · exact .unit .tags h
      · exact .unit .foregroundColor h
      · exact .unit .backgroundColor h
      · exact .unit .overrideUrl h
      · exact .unit .createdAt h
      · exact .unit .expires h
      · exact .unit .expiryTime h
      · exact .unit .lastAccessedAt h
      · exact .unit .usageCount h
      · exact .unit .autoType h
      · exact .unit .previousParent h
      · exact .unit .excludeFromReports h
      · exact .rawState h
      · exact .opaqueXml h
      · exact .unit .protectTitle h
      · exact .unit .protectUsername h
      · exact .unit .protectPassword h
      · exact .unit .protectUrl h
      · exact .unit .protectNotes h
      · exact h.elim
      · exact .unit .icon h
      · exact .unit (.customField key (by simpa using free)) h
      · exact .unit .totp h
      · exact .unit .passkey h
      · exact .unit (.attachment name) h
      · exact .unit (.customData key) h
      · exact h.elim
    · intro conflict
      cases conflict with
      | rawState h => simp only [h, true_or, or_true]
      | opaqueXml h => simp only [h, true_or, or_true]
      | unit unit h =>
          cases unit with
          | customField key free =>
              have included : ∃ key, (!isReservedCredentialAttribute key) = true ∧
                  Conflicts base.attributes[key]? local'.attributes[key]? remote.attributes[key]? :=
                ⟨key, by simpa using free, h⟩
              simp only [included, true_or, or_true]
          | attachment name =>
              have included : ∃ name : String, True ∧
                  Conflicts base.attachments[name]? local'.attachments[name]? remote.attachments[name]? :=
                ⟨name, trivial, h⟩
              simp only [included, true_or, or_true]
          | customData key =>
              have included : ∃ key : String,
                  Conflicts base.customData[key]? local'.customData[key]? remote.customData[key]? := ⟨key, h⟩
              simp only [included, true_or, or_true]
          | _ =>
              simp only [EntryUnit.get] at h
              simp only [h, true_or, or_true]

end Merge

end VaultKern
