import Mathlib.Data.List.Perm.Basic
import VaultKern.Guarantees.CredentialForms
import VaultKern.Model.CanonicalSerialization
import VaultKern.Outcome.EntryUnits

/-! # Canonical bytes identify the content

Every writer delimits what it writes, so the bytes of an entry can be taken apart field by
field. What is not a field does not show.
-/

namespace VaultKern

open Framing Kdbx

/-! ## Numbers -/

theorem leBytes_injective {count n m : Nat} (left : n < 256 ^ count) (right : m < 256 ^ count)
    (same : leBytes count n = leBytes count m) : n = m := by
  have read := congrArg natOfLeBytes same
  rw [leBytes, leBytes, natOfLeBytes_digits, natOfLeBytes_digits, Nat.mod_eq_of_lt left, Nat.mod_eq_of_lt right] at read
  exact read

theorem delimits_leBytes {A : Type} {valid : A → Prop} (count : Nat) (word : A → Nat)
    (fits : ∀ a, valid a → word a < 256 ^ count) (told : ∀ a b, valid a → valid b → word a = word b → a = b) :
    Delimits (Writes valid fun a => (.ok (leBytes count (word a)) : Encoded)) := by
  apply Unambiguous.delimits _ count
  · rintro a s ⟨_, here⟩
    cases here
    simp [leBytes]
  · rintro a b s ⟨left, here⟩ ⟨right, there⟩
    exact told a b left right (leBytes_injective (fits a left) (fits b right)
      ((Except.ok.inj here).trans (Except.ok.inj there).symm))

theorem delimits_u32 : Delimits (Writes (· < 2 ^ 32) writeU32) := by
  apply delimits_leBytes 4 id
  · exact fun _ small => small
  · exact fun _ _ _ _ same => same

theorem delimits_u64 : Delimits (Writes (· < 2 ^ 64) writeU64) := by
  apply delimits_leBytes 8 id
  · exact fun _ small => small
  · exact fun _ _ _ _ same => same

theorem delimits_i32 : Delimits (Writes (FitsSigned 32) writeI32) := by
  apply delimits_leBytes 4 (fun value : Int => Int.toNat (value % 2 ^ 32))
  · intro value _
    omega
  · intro a b left right same
    unfold FitsSigned at left right
    omega

theorem delimits_i64 : Delimits (Writes (FitsSigned 64) writeI64) := by
  apply delimits_leBytes 8 (fun value : Int => Int.toNat (value % 2 ^ 64))
  · intro value _
    omega
  · intro a b left right same
    unfold FitsSigned at left right
    omega

theorem delimits_bool : Delimits (Writes (fun _ => True) writeBool) := by
  apply Unambiguous.delimits _ 1
  · rintro a s ⟨_, here⟩
    cases here
    rfl
  · rintro a b s ⟨_, here⟩ ⟨_, there⟩
    have same := (Except.ok.inj here).trans (Except.ok.inj there).symm
    cases a <;> cases b <;> first | rfl | cases same

theorem delimits_uuid : Delimits (Writes (fun _ => True) writeUuid) := by
  apply Unambiguous.delimits _ 16
  · rintro a s ⟨_, here⟩
    cases here
    simp [uuidBytes]
  · rintro a b s ⟨_, here⟩ ⟨_, there⟩
    have same := (Except.ok.inj here).trans (Except.ok.inj there).symm
    have read := congrArg uuidFromSlice same
    rw [uuidFromSlice_uuidBytes, uuidFromSlice_uuidBytes] at read
    exact Option.some.inj read

/-! ## Texts and collections -/

theorem delimits_byteLength : Delimits (Writes (fun _ => True) writeByteLength) := by
  apply delimits_u32.mono
  rintro length s ⟨_, here⟩
  unfold writeByteLength checkedByteLength at here
  split at here
  · rename_i small
    exact ⟨small, here⟩
  · cases here

theorem delimits_count : Delimits (Writes (fun _ => True) writeCount) := by
  apply delimits_u32.mono
  rintro count s ⟨_, here⟩
  unfold writeCount checkedCollectionCount at here
  split at here
  · rename_i small
    exact ⟨small, here⟩
  · cases here

theorem delimits_text : Delimits (Writes (fun _ => True) writeText) := by
  have headed : Delimits (Headed (Writes (fun _ => True) writeByteLength) fun value s => s = utf8 value) := by
    apply delimits_byteLength.headed
    intro a b s here there
    exact Utf8.bytes_injective (here.symm.trans there)
  apply headed.mono
  rintro value s ⟨_, here⟩
  obtain ⟨u, v, counted, raw, rfl⟩ := writeAll_cons.mp here
  obtain ⟨w, rest, text, none, rfl⟩ := writeAll_cons.mp raw
  cases text
  cases none
  rw [List.append_nil]
  exact ⟨u, utf8 value, ⟨trivial, counted⟩, rfl, rfl⟩

theorem delimits_option {A : Type} {valid : A → Prop} {write : A → Encoded} (delimits : Delimits (Writes valid write)) :
    Delimits (Writes (fun value => ∀ a ∈ value, valid a) (writeOption write)) := by
  apply (delimits.optional 0 1 (by decide)).mono
  rintro (_ | a) s ⟨each, here⟩
  · cases here
    rfl
  · obtain ⟨u, v, raw, behind, rfl⟩ := writeAll_cons.mp here
    obtain ⟨w, rest, value, none, rfl⟩ := writeAll_cons.mp behind
    cases raw
    cases none
    rw [List.append_nil]
    exact ⟨w, ⟨each a rfl, value⟩, rfl⟩

theorem delimits_list {A : Type} {valid : A → Prop} {write : A → Encoded} (delimits : Delimits (Writes valid write)) :
    Delimits (Writes (fun values => ∀ a ∈ values, valid a) (writeList write)) := by
  apply (delimits_count.counted delimits).mono
  rintro values s ⟨each, here⟩
  obtain ⟨u, v, counted, items, rfl⟩ := writeAll_cons.mp here
  exact ⟨u, v, ⟨trivial, counted⟩, writeAll_items each items, rfl⟩

/-- A list of texts in another order is that of the members in another order. -/
theorem items_of_perm {A : Type} {valid : A → Prop} {write : A → Encoded} {values : List A} {texts sorted : List (List UInt8)}
    (each : ∀ a ∈ values, valid a) (pairs : List.Forall₂ (fun a s => write a = .ok s) values texts)
    (perm : texts.Perm sorted) : ∃ others, values.Perm others ∧ Items (Writes valid write) others sorted.flatten := by
  obtain ⟨others, others_pairs, others_perm⟩ := List.perm_comp_forall₂ perm.symm pairs.flip
  refine ⟨others, others_perm.symm, ?_⟩
  have othersEach : ∀ a ∈ others, valid a := fun a member => each a (others_perm.mem_iff.mp member)
  clear others_perm perm pairs each
  induction others_pairs with
  | nil => exact .nil
  | cons here _ ih =>
      have later := ih fun a member => othersEach a (List.mem_cons_of_mem _ member)
      exact .cons ⟨othersEach _ List.mem_cons_self, here⟩ later

theorem writeSet_counted {write : String → Encoded} {values : List String} {s : List UInt8}
    (here : writeSet write values = .ok s) :
    ∃ others, values.Perm others ∧ Counted (Writes (fun _ => True) writeCount) (Writes (fun _ => True) write) others s := by
  obtain ⟨count, counted, here⟩ := Fallible.bind_ok.mp here
  obtain ⟨texts, written, here⟩ := Fallible.bind_ok.mp here
  cases here
  obtain ⟨others, perm, items⟩ := items_of_perm (fun _ _ => trivial) (Fallible.mapM_ok.mp written)
    (List.mergeSort_perm texts bytesLe).symm
  rw [perm.length_eq] at counted
  exact ⟨others, perm, count, _, ⟨trivial, counted⟩, items, rfl⟩

theorem delimits_tags : Delimits (Writes (fun _ => True) fun tags : BTreeSet String => writeSet writeText tags.toList) := by
  rintro a b s t x y ⟨_, here⟩ ⟨_, there⟩ same
  obtain ⟨left, leftPerm, leftCode⟩ := writeSet_counted here
  obtain ⟨right, rightPerm, rightCode⟩ := writeSet_counted there
  obtain ⟨members, rests⟩ := (delimits_count.counted delimits_text) leftCode rightCode same
  refine ⟨Std.ExtTreeSet.ext_mem fun tag => ?_, rests⟩
  rw [← Std.ExtTreeSet.mem_toList, ← Std.ExtTreeSet.mem_toList, leftPerm.mem_iff, rightPerm.mem_iff, members]

theorem delimits_map {A : Type} {valid : A → Prop} {write : A → Encoded} (delimits : Delimits (Writes valid write)) :
    Delimits (Writes (fun entries : BTreeMap String A => ∀ (key : String) (a : A), entries[key]? = some a → valid a)
      fun entries => writeStringMap write entries.toList) := by
  have pair : Delimits (Writes (fun entry : String × A => valid entry.2) fun entry =>
      writeAll [writeText entry.1, write entry.2]) := by
    apply delimits_row
    intro a b x y left right agree
    obtain ⟨keys, agree⟩ := agree.peel delimits_text trivial trivial
    obtain ⟨values, agree⟩ := agree.peel delimits left right
    exact ⟨Prod.ext keys values, agree.nil⟩
  have listed : Delimits (Writes (fun entries : List (String × A) => ∀ entry ∈ entries, valid entry.2)
      (writeList fun entry => writeAll [writeText entry.1, write entry.2])) := delimits_list pair
  rintro a b s t x y ⟨left, here⟩ ⟨right, there⟩ same
  have sort (entries : BTreeMap String A) (s : List UInt8) (each : ∀ (key : String) (a : A), entries[key]? = some a → valid a)
      (written : writeStringMap write entries.toList = .ok s) : ∃ sorted, entries.toList.Perm sorted ∧
        Writes (fun entries : List (String × A) => ∀ entry ∈ entries, valid entry.2)
          (writeList fun entry => writeAll [writeText entry.1, write entry.2]) sorted s := by
    have perm := List.mergeSort_perm entries.toList fun left right => bytesLe (utf8 left.1) (utf8 right.1)
    refine ⟨_, perm.symm, ?_, ?_⟩
    · intro entry member
      exact each entry.1 entry.2 (Std.ExtTreeMap.mem_toList_iff_getElem?_eq_some.mp (perm.mem_iff.mp member))
    · rw [writeList, perm.length_eq]
      exact written
  obtain ⟨leftSorted, leftPerm, leftCode⟩ := sort a s left here
  obtain ⟨rightSorted, rightPerm, rightCode⟩ := sort b t right there
  obtain ⟨members, rests⟩ := listed leftCode rightCode same
  rw [members] at leftPerm
  exact ⟨BTreeMap.eq_of_toList_perm (leftPerm.trans rightPerm.symm), rests⟩

/-! ## Fields -/

attribute [ext] CustomField AttachmentReference AutoTypeAssociation AutoTypeConfig CanonicalCustomDataItem
  CanonicalEntryReference

theorem delimits_field : Delimits (Writes (fun _ => True) writeField) := by
  apply delimits_row
  intro a b x y _ _ agree
  obtain ⟨values, agree⟩ := agree.peel delimits_text trivial trivial
  obtain ⟨flags, agree⟩ := agree.peel delimits_bool trivial trivial
  exact ⟨CustomField.ext values flags, agree.nil⟩

theorem delimits_contentId : Delimits (Writes (fun id => id.length = 32) writeRaw) := by
  apply Unambiguous.delimits _ 32
  · rintro a s ⟨sized, here⟩
    cases here
    exact sized
  · rintro a b s ⟨_, here⟩ ⟨_, there⟩
    exact (Except.ok.inj here).trans (Except.ok.inj there).symm

theorem delimits_attachmentReference :
    Delimits (Writes (fun attachment => attachment.contentId.length = 32) writeAttachmentReference) := by
  apply delimits_row
  intro a b x y left right agree
  obtain ⟨flags, agree⟩ := agree.peel delimits_bool trivial trivial
  obtain ⟨ids, agree⟩ := agree.peel delimits_contentId left right
  exact ⟨AttachmentReference.ext flags ids, agree.nil⟩

theorem delimits_association : Delimits (Writes (fun _ => True) writeAssociation) := by
  apply delimits_row
  intro a b x y _ _ agree
  obtain ⟨windows, agree⟩ := agree.peel delimits_text trivial trivial
  obtain ⟨sequences, agree⟩ := agree.peel delimits_text trivial trivial
  exact ⟨AutoTypeAssociation.ext windows sequences, agree.nil⟩

theorem delimits_autoType :
    Delimits (Writes (fun autoType => ∀ value ∈ autoType.obfuscation, FitsSigned 32 value) writeAutoType) := by
  apply delimits_row
  intro a b x y left right agree
  obtain ⟨enabled, agree⟩ := agree.peel (delimits_option delimits_bool) (fun _ _ => trivial) (fun _ _ => trivial)
  obtain ⟨obfuscation, agree⟩ := agree.peel (delimits_option delimits_i32) left right
  obtain ⟨sequences, agree⟩ := agree.peel (delimits_option delimits_text) (fun _ _ => trivial) (fun _ _ => trivial)
  obtain ⟨associations, agree⟩ := agree.peel (delimits_list delimits_association) (fun _ _ => trivial) (fun _ _ => trivial)
  exact ⟨AutoTypeConfig.ext enabled obfuscation sequences associations, agree.nil⟩

theorem delimits_customDataItem :
    Delimits (Writes (fun item => ∀ time ∈ item.lastModified, FitsSigned 64 time) writeCustomDataItem) := by
  apply delimits_row
  intro a b x y left right agree
  obtain ⟨values, agree⟩ := agree.peel delimits_text trivial trivial
  obtain ⟨times, agree⟩ := agree.peel (delimits_option delimits_i64) left right
  exact ⟨CanonicalCustomDataItem.ext values times, agree.nil⟩

/-- The numbers are those of their types, and the names of contents are digests. -/
structure CanonicalEntryReference.Sized (entry : CanonicalEntryReference) : Prop where
  attachments : ∀ (name : String) (attachment : AttachmentReference), entry.attachments[name]? = some attachment →
    attachment.contentId.length = 32
  iconId : ∀ value ∈ entry.iconId, value < 2 ^ 32
  createdAt : entry.createdAt < 2 ^ 64
  modifiedAt : entry.modifiedAt < 2 ^ 64
  expiryTime : ∀ value ∈ entry.expiryTime, FitsSigned 64 value
  lastAccessedAt : ∀ value ∈ entry.lastAccessedAt, value < 2 ^ 64
  usageCount : ∀ value ∈ entry.usageCount, value < 2 ^ 64
  locationChangedAt : ∀ value ∈ entry.locationChangedAt, value < 2 ^ 64
  autoType : ∀ autoType ∈ entry.autoType, ∀ value ∈ autoType.obfuscation, FitsSigned 32 value
  customDataItems : ∀ (key : String) (item : CanonicalCustomDataItem), entry.customDataItems[key]? = some item →
    ∀ time ∈ item.lastModified, FitsSigned 64 time

theorem canonicalEntryReferenceBytes_injective {a b : CanonicalEntryReference} (left : a.Sized) (right : b.Sized)
    {bytes : List UInt8} (here : canonicalEntryReferenceBytesV1 a = .ok bytes)
    (there : canonicalEntryReferenceBytesV1 b = .ok bytes) : a = b := by
  have anyOption {A : Type} (value : Option A) : ∀ v ∈ value, True := fun _ _ => trivial
  have anyMap {A : Type} (entries : BTreeMap String A) : ∀ (key : String) (a : A), entries[key]? = some a → True :=
    fun _ _ _ => trivial
  have framed : Delimits (Writes (fun value => value.length = 4) writeRaw) := by
    apply Unambiguous.delimits _ 4
    · rintro a s ⟨sized, here⟩
      cases here
      exact sized
    · rintro a b s ⟨_, here⟩ ⟨_, there⟩
      exact (Except.ok.inj here).trans (Except.ok.inj there).symm
  have agree : Agree _ _ [] [] := ⟨bytes, bytes, here, there, rfl⟩
  obtain ⟨_, agree⟩ := agree.peel framed rfl rfl
  obtain ⟨_, agree⟩ := agree.peel delimits_u32 (by decide) (by decide)
  obtain ⟨id, agree⟩ := agree.peel delimits_uuid trivial trivial
  obtain ⟨title, agree⟩ := agree.peel delimits_text trivial trivial
  obtain ⟨username, agree⟩ := agree.peel delimits_text trivial trivial
  obtain ⟨password, agree⟩ := agree.peel delimits_text trivial trivial
  obtain ⟨url, agree⟩ := agree.peel delimits_text trivial trivial
  obtain ⟨notes, agree⟩ := agree.peel delimits_text trivial trivial
  obtain ⟨protectTitle, agree⟩ := agree.peel delimits_bool trivial trivial
  obtain ⟨protectUsername, agree⟩ := agree.peel delimits_bool trivial trivial
  obtain ⟨protectPassword, agree⟩ := agree.peel delimits_bool trivial trivial
  obtain ⟨protectUrl, agree⟩ := agree.peel delimits_bool trivial trivial
  obtain ⟨protectNotes, agree⟩ := agree.peel delimits_bool trivial trivial
  obtain ⟨tags, agree⟩ := agree.peel delimits_tags trivial trivial
  obtain ⟨attributes, agree⟩ := agree.peel (delimits_map delimits_field) (anyMap _) (anyMap _)
  obtain ⟨attachments, agree⟩ := agree.peel (delimits_map delimits_attachmentReference) left.attachments right.attachments
  obtain ⟨iconId, agree⟩ := agree.peel (delimits_option delimits_u32) left.iconId right.iconId
  obtain ⟨customIconId, agree⟩ := agree.peel (delimits_option delimits_uuid) (anyOption _) (anyOption _)
  obtain ⟨foregroundColor, agree⟩ := agree.peel (delimits_option delimits_text) (anyOption _) (anyOption _)
  obtain ⟨backgroundColor, agree⟩ := agree.peel (delimits_option delimits_text) (anyOption _) (anyOption _)
  obtain ⟨overrideUrl, agree⟩ := agree.peel (delimits_option delimits_text) (anyOption _) (anyOption _)
  obtain ⟨createdAt, agree⟩ := agree.peel delimits_u64 left.createdAt right.createdAt
  obtain ⟨modifiedAt, agree⟩ := agree.peel delimits_u64 left.modifiedAt right.modifiedAt
  obtain ⟨expires, agree⟩ := agree.peel delimits_bool trivial trivial
  obtain ⟨expiryTime, agree⟩ := agree.peel (delimits_option delimits_i64) left.expiryTime right.expiryTime
  obtain ⟨lastAccessedAt, agree⟩ := agree.peel (delimits_option delimits_u64) left.lastAccessedAt right.lastAccessedAt
  obtain ⟨usageCount, agree⟩ := agree.peel (delimits_option delimits_u64) left.usageCount right.usageCount
  obtain ⟨locationChangedAt, agree⟩ :=
    agree.peel (delimits_option delimits_u64) left.locationChangedAt right.locationChangedAt
  obtain ⟨previousParent, agree⟩ := agree.peel (delimits_option delimits_uuid) (anyOption _) (anyOption _)
  obtain ⟨autoType, agree⟩ := agree.peel (delimits_option delimits_autoType) left.autoType right.autoType
  obtain ⟨customData, agree⟩ := agree.peel (delimits_map delimits_text) (anyMap _) (anyMap _)
  obtain ⟨customDataItems, agree⟩ :=
    agree.peel (delimits_map delimits_customDataItem) left.customDataItems right.customDataItems
  obtain ⟨excludeFromReports, _⟩ := agree.peel delimits_bool trivial trivial
  have fieldProtection := EntryFieldProtection.ext protectTitle protectUsername protectPassword protectUrl protectNotes
  apply CanonicalEntryReference.ext <;> assumption

/-! ## Content -/

/-- The numbers of an entry are those of their types. -/
structure Entry.Sized (entry : Entry) : Prop where
  iconId : ∀ value ∈ entry.iconId, value < 2 ^ 32
  createdAt : entry.createdAt < 2 ^ 64
  modifiedAt : entry.modifiedAt < 2 ^ 64
  expiryTime : ∀ value ∈ entry.expiryTime, FitsSigned 64 value
  lastAccessedAt : ∀ value ∈ entry.lastAccessedAt, value < 2 ^ 64
  usageCount : ∀ value ∈ entry.usageCount, value < 2 ^ 64
  locationChangedAt : ∀ value ∈ entry.locationChangedAt, value < 2 ^ 64
  autoType : ∀ autoType ∈ entry.autoType, ∀ value ∈ autoType.obfuscation, FitsSigned 32 value
  customDataItems : ∀ block ∈ entry.customDataBlocks, ∀ item ∈ block.items, ∀ time ∈ item.lastModified,
    FitsSigned 64 time

/-- Content and protection of the attachments, by their names. -/
def Entry.attachmentContents (entry : Entry) : BTreeMap String (List UInt8 × Bool) :=
  entry.attachments.map fun _ attachment => (attachment.data.bytes, attachment.protectInMemory)

/-- Two entries agree on every canonical field. -/
structure SameCanonicalContent (left right : Entry) : Prop where
  id : left.id = right.id
  title : left.title = right.title
  username : left.username = right.username
  password : left.password = right.password
  url : left.url = right.url
  notes : left.notes = right.notes
  fieldProtection : left.fieldProtection = right.fieldProtection
  tags : left.tags = right.tags
  attributes : materializeEntryPersistentAttributes left = materializeEntryPersistentAttributes right
  attachments : left.attachmentContents = right.attachmentContents
  iconId : left.iconId = right.iconId
  customIconId : left.customIconId = right.customIconId
  foregroundColor : left.foregroundColor = right.foregroundColor
  backgroundColor : left.backgroundColor = right.backgroundColor
  overrideUrl : left.overrideUrl = right.overrideUrl
  createdAt : left.createdAt = right.createdAt
  modifiedAt : left.modifiedAt = right.modifiedAt
  expires : left.expires = right.expires
  expiryTime : left.expiryTime = right.expiryTime
  lastAccessedAt : left.lastAccessedAt = right.lastAccessedAt
  usageCount : left.usageCount = right.usageCount
  locationChangedAt : left.locationChangedAt = right.locationChangedAt
  previousParent : left.previousParent = right.previousParent
  autoType : left.autoType = right.autoType
  customData : left.customData = right.customData
  customDataItems : collectCustomDataItems left.customDataBlocks = collectCustomDataItems right.customDataBlocks
  excludeFromReports : left.excludeFromReports = right.excludeFromReports

section Content

variable {sha256 : List UInt8 → List UInt8}

theorem canonicalEntryBytes_ok {entry : Entry} {bytes : List UInt8} :
    canonicalEntryBytesV1 sha256 entry = .ok bytes ↔
      entry.attachments.size < 2 ^ 32 ∧ canonicalEntryReferenceBytesV1 (.project sha256 entry) = .ok bytes := by
  unfold canonicalEntryBytesV1 CanonicalEntryReference.tryFrom checkedCollectionCount
  by_cases small : entry.attachments.size < 2 ^ 32
  · rw [if_pos small]
    exact ⟨fun written => ⟨small, written⟩, fun written => written.2⟩
  · rw [if_neg small]
    exact ⟨fun written => (by cases written), fun written => absurd written.1 small⟩

theorem project_sized (digests : ∀ bytes, (sha256 bytes).length = 32) {entry : Entry} (sized : entry.Sized) :
    (CanonicalEntryReference.project sha256 entry).Sized where
  attachments := by
    intro name attachment found
    change (entry.attachments.map fun _ attachment => AttachmentReference.project sha256 attachment)[name]? = _ at found
    rw [Std.ExtTreeMap.getElem?_map, Option.map_eq_some_iff] at found
    obtain ⟨source, _, rfl⟩ := found
    exact digests source.data.bytes
  iconId := sized.iconId
  createdAt := sized.createdAt
  modifiedAt := sized.modifiedAt
  expiryTime := sized.expiryTime
  lastAccessedAt := sized.lastAccessedAt
  usageCount := sized.usageCount
  locationChangedAt := sized.locationChangedAt
  autoType := sized.autoType
  customDataItems := by
    intro key item found
    have member := BTreeMap.mem_of_lastWins found
    rw [List.mem_map] at member
    obtain ⟨source, inside, same⟩ := member
    rw [List.mem_flatMap] at inside
    obtain ⟨block, blockInside, inside⟩ := inside
    cases same
    exact sized.customDataItems block blockInside source inside

theorem attachmentContents_lookup (entry : Entry) (name : String) :
    entry.attachmentContents[name]? =
      entry.attachments[name]?.map fun attachment => (attachment.data.bytes, attachment.protectInMemory) := by
  unfold Entry.attachmentContents
  rw [Std.ExtTreeMap.getElem?_map]

theorem projectedAttachments_lookup (entry : Entry) (name : String) :
    (CanonicalEntryReference.project sha256 entry).attachments[name]? =
      entry.attachments[name]?.map (AttachmentReference.project sha256) := by
  change (entry.attachments.map fun _ attachment => AttachmentReference.project sha256 attachment)[name]? = _
  rw [Std.ExtTreeMap.getElem?_map]

/-- No two contents of the attachments have one digest. -/
def ContentsApart (sha256 : List UInt8 → List UInt8) (left right : Entry) : Prop :=
  ∀ (name : String) (a b : Attachment), left.attachments[name]? = some a → right.attachments[name]? = some b →
    sha256 a.data.bytes = sha256 b.data.bytes → a.data.bytes = b.data.bytes

theorem attachmentContents_of_projected {left right : Entry} (apart : ContentsApart sha256 left right)
    (same : (CanonicalEntryReference.project sha256 left).attachments =
      (CanonicalEntryReference.project sha256 right).attachments) : left.attachmentContents = right.attachmentContents := by
  apply Std.ExtTreeMap.ext_getElem?
  intro name
  have lookups : (CanonicalEntryReference.project sha256 left).attachments[name]? =
      (CanonicalEntryReference.project sha256 right).attachments[name]? := by rw [same]
  rw [projectedAttachments_lookup, projectedAttachments_lookup] at lookups
  rw [attachmentContents_lookup, attachmentContents_lookup]
  cases here : left.attachments[name]? with
  | none =>
      rw [here, Option.map_none, eq_comm, Option.map_eq_none_iff] at lookups
      rw [lookups]
  | some a =>
      rw [here, Option.map_some, eq_comm, Option.map_eq_some_iff] at lookups
      obtain ⟨b, there, projected⟩ := lookups
      have flags := congrArg AttachmentReference.protectInMemory projected
      have ids := congrArg AttachmentReference.contentId projected
      have contents := apart name a b here there ids.symm
      rw [there, Option.map_some, Option.map_some, contents]
      exact congrArg (fun flag => some (b.data.bytes, flag)) flags.symm

theorem projected_of_attachmentContents {left right : Entry} (same : left.attachmentContents = right.attachmentContents) :
    (CanonicalEntryReference.project sha256 left).attachments =
      (CanonicalEntryReference.project sha256 right).attachments := by
  have source (entry : Entry) : (CanonicalEntryReference.project sha256 entry).attachments =
      entry.attachmentContents.map fun _ content => ⟨content.2, sha256 content.1⟩ := by
    apply Std.ExtTreeMap.ext_getElem?
    intro name
    rw [projectedAttachments_lookup, Std.ExtTreeMap.getElem?_map, attachmentContents_lookup, Option.map_map]
    rfl
  rw [source, source, same]

theorem size_of_attachmentContents {left right : Entry} (same : left.attachmentContents = right.attachmentContents) :
    left.attachments.size = right.attachments.size := by
  have sizes := congrArg Std.ExtTreeMap.size same
  unfold Entry.attachmentContents at sizes
  rwa [Std.ExtTreeMap.size_map, Std.ExtTreeMap.size_map] at sizes

theorem project_congr {left right : Entry} (same : SameCanonicalContent left right) :
    CanonicalEntryReference.project sha256 left = CanonicalEntryReference.project sha256 right := by
  have attachments := @projected_of_attachmentContents sha256 _ _ same.attachments
  obtain ⟨⟩ := same
  apply CanonicalEntryReference.ext <;> assumption

theorem canonicalEntryBytes_congr {left right : Entry} (same : SameCanonicalContent left right) {bytes : List UInt8}
    (written : canonicalEntryBytesV1 sha256 left = .ok bytes) : canonicalEntryBytesV1 sha256 right = .ok bytes := by
  rw [canonicalEntryBytes_ok] at written ⊢
  rwa [← project_congr same, ← size_of_attachmentContents same.attachments]

theorem sameContent_of_project {left right : Entry} (apart : ContentsApart sha256 left right)
    (same : CanonicalEntryReference.project sha256 left = CanonicalEntryReference.project sha256 right) :
    SameCanonicalContent left right := by
  have attachments := attachmentContents_of_projected apart (congrArg CanonicalEntryReference.attachments same)
  injection same
  constructor <;> assumption

theorem SameCanonicalContent.of_attributes {entry : Entry} {attributes : BTreeMap String CustomField}
    {totp : Option TotpSpec} {passkey : Option PasskeyRecord} {rawState : EntryRawState}
    {opaqueXml : List OpaqueXmlFragment} {history : List Entry}
    (same : materializeEntryPersistentAttributes { entry with attributes, totp, passkey, rawState, opaqueXml, history } =
      materializeEntryPersistentAttributes entry) :
    SameCanonicalContent entry { entry with attributes, totp, passkey, rawState, opaqueXml, history } := by
  constructor <;> first | rfl | exact same.symm

/-- Entries that write one text agree on the canonical fields, and entries that agree on them write one
    text. History, spelling and unknown elements do not show, and neither does the form in which a TOTP
    or a passkey is held: as a projection, as the attributes it was read from, as both, or as the
    attributes that are written for it. -/
theorem canonicalBytes_identify (digests : ∀ bytes, (sha256 bytes).length = 32) {left right : Entry}
    (leftSized : left.Sized) (rightSized : right.Sized) (apart : ContentsApart sha256 left right) {bytes : List UInt8}
    (written : canonicalEntryBytesV1 sha256 left = .ok bytes) :
    (canonicalEntryBytesV1 sha256 right = .ok bytes ↔ SameCanonicalContent left right) ∧
    (∀ history rawState opaqueXml,
      canonicalEntryBytesV1 sha256 { left with history, rawState, opaqueXml } = .ok bytes) ∧
    (∀ spec, totpFromPersistentAttributes left.attributes = some spec → left.totp = none ∨ left.totp = some spec →
      canonicalEntryBytesV1 sha256 { left with totp := none } = .ok bytes ∧
      canonicalEntryBytesV1 sha256 { left with totp := some spec } = .ok bytes ∧
      canonicalEntryBytesV1 sha256
        { left with
          totp := some spec
          attributes := left.attributes.filter fun key _ => !isTotpPersistentAttributeKey key } = .ok bytes) ∧
    (∀ passkey, PasskeyRecord.fromAttributes left.attributes = some passkey →
        left.passkey = none ∨ left.passkey = some passkey →
      canonicalEntryBytesV1 sha256 { left with passkey := none } = .ok bytes ∧
      canonicalEntryBytesV1 sha256 { left with passkey := some passkey } = .ok bytes ∧
      canonicalEntryBytesV1 sha256
        { left with
          passkey := some passkey
          attributes := left.attributes.filter fun key _ => !PasskeyRecord.isPersistentAttributeKey key } = .ok bytes) ∧
    ((∀ spec, left.totp = some spec → ∃ source, totpFromPersistentAttributes source = some spec) →
      canonicalEntryBytesV1 sha256
        { left with attributes := materializeEntryPersistentAttributes left, totp := none, passkey := none } =
          .ok bytes) := by
  constructor
  · constructor
    · intro writtenToo
      apply sameContent_of_project apart
      exact canonicalEntryReferenceBytes_injective (project_sized digests leftSized) (project_sized digests rightSized)
        (canonicalEntryBytes_ok.mp written).2 (canonicalEntryBytes_ok.mp writtenToo).2
    · intro same
      exact canonicalEntryBytes_congr same written
  refine ⟨?_, ?_, ?_, ?_⟩
  · intro history rawState opaqueXml
    have same : SameCanonicalContent left { left with history, rawState, opaqueXml } := by
      constructor <;> rfl
    exact canonicalEntryBytes_congr same written
  · intro spec source held
    obtain ⟨both, alone⟩ := materialize_totp source
    have here : materializeEntryPersistentAttributes { left with totp := none } =
        materializeEntryPersistentAttributes left := by
      rw [materialize_eq, materialize_eq left]
      simp only [Option.none_or, source]
      rcases held with held | held <;> rw [held] <;> rfl
    exact ⟨canonicalEntryBytes_congr (.of_attributes here) written,
      canonicalEntryBytes_congr (.of_attributes (both.trans here)) written,
      canonicalEntryBytes_congr (.of_attributes (alone.trans here)) written⟩
  · intro passkey source held
    obtain ⟨both, alone⟩ := materialize_passkey source
    have here : materializeEntryPersistentAttributes { left with passkey := none } =
        materializeEntryPersistentAttributes left := by
      rw [materialize_eq, materialize_eq left]
      simp only [Option.none_or, source]
      rcases held with held | held <;> rw [held] <;> cases left.totp.or (totpFromPersistentAttributes left.attributes) <;> rfl
    exact ⟨canonicalEntryBytes_congr (.of_attributes here) written,
      canonicalEntryBytes_congr (.of_attributes (both.trans here)) written,
      canonicalEntryBytes_congr (.of_attributes (alone.trans here)) written⟩
  · intro source
    have readable : ∀ spec, left.totp = some spec → spec.Readable := by
      intro spec held
      obtain ⟨attributes, known⟩ := source spec held
      exact totp_of_attributes_readable known
    exact canonicalEntryBytes_congr (.of_attributes (materialize_again readable)) written

end Content

/-- A login with a one-time code, a passkey and an attachment. -/
def loginEntry (attached : List UInt8) : Entry :=
  { id := 10, title := "Example", username := "ada", modifiedAt := 1700000000
    attributes := BTreeMap.lastWins
      [("Site", ⟨"north", false⟩), ("otp", ⟨"otpauth://totp/Example:ada?secret=JBSWY3DPEHPK3PXP", true⟩),
        (PasskeyRecord.usernameKey, ⟨"ada", false⟩), (PasskeyRecord.credentialIdKey, ⟨"AQID", true⟩),
        (PasskeyRecord.privateKeyPemKey, ⟨"pem", true⟩), (PasskeyRecord.relyingPartyKey, ⟨"example.com", false⟩)]
    attachments := BTreeMap.lastWins [("key", { name := "key", data := ⟨attached⟩, protectInMemory := true })] }

/-- The SHA-256 of the byte 7, and of the byte 8. -/
def byteDigests (bytes : List UInt8) : List UInt8 :=
  if bytes = [7] then [
    202, 53, 135, 88, 246, 210, 126, 108, 244, 82, 114, 147, 121, 119, 167, 72, 253, 136, 57, 29, 182, 121, 206, 218,
    125, 199, 191, 31, 0, 94, 232, 121]
  else [
    190, 234, 215, 121, 148, 207, 87, 51, 65, 236, 23, 181, 139, 191, 126, 179, 77, 39, 17, 201, 147, 193, 217, 118,
    177, 40, 179, 24, 141, 193, 130, 154]

theorem loginEntry_sized (attached : List UInt8) : (loginEntry attached).Sized := by
  constructor <;> simp [loginEntry, FitsSigned]

theorem loginEntry_attachment {attached : List UInt8} {name : String} {attachment : Attachment}
    (held : (loginEntry attached).attachments[name]? = some attachment) : attachment.data.bytes = attached := by
  have member := BTreeMap.mem_of_lastWins held
  rw [List.mem_singleton] at member
  cases member
  rfl

theorem writeStringMap_total {A : Type} (write : A → Encoded) (entries : List (String × A)) :
    (writeStringMap write entries).toBool = ((writeCount entries.length).toBool &&
      entries.all fun entry => (writeAll [writeText entry.1, write entry.2]).toBool) := by
  rw [writeStringMap, writeAll_total, List.all_cons, List.all_map]
  exact congrArg _ (List.mergeSort_perm entries _).all_eq

theorem canonicalBytes_identify_login : ∃ bytes spec passkey,
    canonicalEntryBytesV1 byteDigests (loginEntry [7]) = .ok bytes ∧
      canonicalEntryBytesV1 byteDigests (loginEntry [8]) ≠ .ok bytes ∧
      canonicalEntryBytesV1 byteDigests { loginEntry [7] with history := [loginEntry [8]] } = .ok bytes ∧
      canonicalEntryBytesV1 byteDigests
        { loginEntry [7] with
          totp := some spec
          attributes := (loginEntry [7]).attributes.filter fun key _ => !isTotpPersistentAttributeKey key } = .ok bytes ∧
      canonicalEntryBytesV1 byteDigests
        { loginEntry [7] with
          passkey := some passkey
          attributes := (loginEntry [7]).attributes.filter fun key _ => !PasskeyRecord.isPersistentAttributeKey key } =
            .ok bytes := by
  have writable : (canonicalEntryReferenceBytesV1 (.project byteDigests (loginEntry [7]))).toBool = true := by
    simp only [canonicalEntryReferenceBytesV1, writeAll_total, List.all_cons, writeStringMap_total]
    decide +kernel
  have code : (totpFromPersistentAttributes (loginEntry [7]).attributes).isSome = true := by decide +kernel
  have key : (PasskeyRecord.fromAttributes (loginEntry [7]).attributes).isSome = true := by decide +kernel
  obtain ⟨bytes, written⟩ := Fallible.ok_of_toBool writable
  replace written := canonicalEntryBytes_ok.mpr ⟨by decide +kernel, written⟩
  obtain ⟨spec, hasCode⟩ := Option.isSome_iff_exists.mp code
  obtain ⟨passkey, hasKey⟩ := Option.isSome_iff_exists.mp key
  have apart : ContentsApart byteDigests (loginEntry [7]) (loginEntry [8]) := by
    intro name a b here there same
    rw [loginEntry_attachment here, loginEntry_attachment there] at same
    exact absurd same (by decide)
  have width : ∀ bytes, (byteDigests bytes).length = 32 := by
    intro bytes
    unfold byteDigests
    split <;> rfl
  obtain ⟨told, ignored, totp, passkeys, _⟩ :=
    canonicalBytes_identify width (loginEntry_sized [7]) (loginEntry_sized [8]) apart written
  refine ⟨bytes, spec, passkey, written, fun same => ?_, ignored [loginEntry [8]] {} [], (totp spec hasCode (.inl rfl)).2.2,
    (passkeys passkey hasKey (.inl rfl)).2.2⟩
  have contents := congrArg (fun held => held["key"]?) (told.mp same).attachments
  exact absurd contents (by decide +kernel)

end VaultKern
