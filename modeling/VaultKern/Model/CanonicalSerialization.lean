import VaultKern.Kdbx.Container
import VaultKern.Lib.Framing
import VaultKern.Lib.LastWins
import VaultKern.Model.Credentials

/-! # Canonical bytes of an entry

What an entry says, without its history and without how a file spelled it. Every text stands
behind its length and every collection behind its count; sets and maps are written in order.
-/

namespace VaultKern

open Framing Kdbx

inductive CanonicalSerializationError where
  | byteLengthOverflow (length : Nat)
  | collectionCountOverflow (count : Nat)
  deriving DecidableEq

abbrev Encoded := Except CanonicalSerializationError (List UInt8)

def canonicalSerializationMagic : List UInt8 := [0x56, 0x4B, 0x43, 0x53]
def canonicalEntrySchemaVersionV1 : Nat := 1

def checkedByteLength (length : Nat) : Except CanonicalSerializationError Nat :=
  if length < 2 ^ 32 then .ok length else .error (.byteLengthOverflow length)

def checkedCollectionCount (count : Nat) : Except CanonicalSerializationError Nat :=
  if count < 2 ^ 32 then .ok count else .error (.collectionCountOverflow count)

/-! ## Writers -/

def writeRaw (value : List UInt8) : Encoded := .ok value
def writeBool (value : Bool) : Encoded := .ok [if value then 1 else 0]
def writeU32 (value : Nat) : Encoded := .ok (leBytes 4 value)
def writeI32 (value : Int) : Encoded := .ok (leBytes 4 (value % 2 ^ 32).toNat)
def writeU64 (value : Nat) : Encoded := .ok (leBytes 8 value)
def writeI64 (value : Int) : Encoded := .ok (leBytes 8 (value % 2 ^ 64).toNat)

def writeByteLength (length : Nat) : Encoded := do
  let length ← checkedByteLength length
  writeU32 length

def writeCount (count : Nat) : Encoded := do
  let count ← checkedCollectionCount count
  writeU32 count

def writeBytes (value : List UInt8) : Encoded := writeAll [writeByteLength value.length, writeRaw value]

def utf8 (value : String) : List UInt8 := value.toUTF8.toList

def writeText (value : String) : Encoded := writeBytes (utf8 value)

def writeUuid (value : Uuid) : Encoded := writeRaw (uuidBytes value)

def writeOption {A : Type} (writeValue : A → Encoded) : Option A → Encoded
  | some value => writeAll [writeRaw [1], writeValue value]
  | none => writeRaw [0]

def writeList {A : Type} (writeValue : A → Encoded) (values : List A) : Encoded :=
  writeAll (writeCount values.length :: values.map writeValue)

def bytesLe (left right : List UInt8) : Bool := left ≤ right

/-- The members are put in the order of their texts. -/
def writeSet {A : Type} (writeValue : A → Encoded) (values : List A) : Encoded := do
  let count ← writeCount values.length
  let encodedValues ← values.mapM writeValue
  return count ++ (encodedValues.mergeSort bytesLe).flatten

def writeStringMap {A : Type} (writeValue : A → Encoded) (entries : List (String × A)) : Encoded :=
  writeAll (writeCount entries.length ::
    (entries.mergeSort fun left right => bytesLe (utf8 left.1) (utf8 right.1)).map fun (key, value) =>
      writeAll [writeText key, writeValue value])

/-! ## The canonical fields -/

structure AttachmentReference where
  protectInMemory : Bool
  contentId : List UInt8
  deriving DecidableEq

structure CanonicalCustomDataItem where
  value : String
  lastModified : Option Int
  deriving DecidableEq

/-- The last item of a key counts. -/
def collectCustomDataItems (blocks : List CustomDataBlock) : BTreeMap String CanonicalCustomDataItem :=
  .lastWins ((blocks.flatMap (·.items)).map fun item => (item.key, ⟨item.value, item.lastModified⟩))

structure CanonicalEntryReference where
  id : Uuid
  title : String
  username : String
  password : String
  url : String
  notes : String
  fieldProtection : EntryFieldProtection
  tags : BTreeSet String
  attributes : BTreeMap String CustomField
  attachments : BTreeMap String AttachmentReference
  iconId : Option Nat
  customIconId : Option Uuid
  foregroundColor : Option String
  backgroundColor : Option String
  overrideUrl : Option String
  createdAt : Nat
  modifiedAt : Nat
  expires : Bool
  expiryTime : Option Int
  lastAccessedAt : Option Nat
  usageCount : Option Nat
  locationChangedAt : Option Nat
  previousParent : Option Uuid
  autoType : Option AutoTypeConfig
  customData : BTreeMap String String
  customDataItems : BTreeMap String CanonicalCustomDataItem
  excludeFromReports : Bool

section Serialization

-- the digest that names the content of an attachment
variable (sha256 : List UInt8 → List UInt8)

def AttachmentReference.project (attachment : Attachment) : AttachmentReference :=
  { protectInMemory := attachment.protectInMemory, contentId := sha256 attachment.data.bytes }

def CanonicalEntryReference.project (entry : Entry) : CanonicalEntryReference :=
  { id := entry.id
    title := entry.title
    username := entry.username
    password := entry.password
    url := entry.url
    notes := entry.notes
    fieldProtection := entry.fieldProtection
    tags := entry.tags
    attributes := materializeEntryPersistentAttributes entry
    attachments := entry.attachments.map fun _ attachment => .project sha256 attachment
    iconId := entry.iconId
    customIconId := entry.customIconId
    foregroundColor := entry.foregroundColor
    backgroundColor := entry.backgroundColor
    overrideUrl := entry.overrideUrl
    createdAt := entry.createdAt
    modifiedAt := entry.modifiedAt
    expires := entry.expires
    expiryTime := entry.expiryTime
    lastAccessedAt := entry.lastAccessedAt
    usageCount := entry.usageCount
    locationChangedAt := entry.locationChangedAt
    previousParent := entry.previousParent
    autoType := entry.autoType
    customData := entry.customData
    customDataItems := collectCustomDataItems entry.customDataBlocks
    excludeFromReports := entry.excludeFromReports }

def CanonicalEntryReference.tryFrom (entry : Entry) : Except CanonicalSerializationError CanonicalEntryReference := do
  let _ ← checkedCollectionCount entry.attachments.size
  return .project sha256 entry

/-! ## The bytes -/

def writeField (field : CustomField) : Encoded := writeAll [writeText field.value, writeBool field.isProtected]

def writeAttachmentReference (attachment : AttachmentReference) : Encoded :=
  writeAll [writeBool attachment.protectInMemory, writeRaw attachment.contentId]

def writeAssociation (association : AutoTypeAssociation) : Encoded :=
  writeAll [writeText association.window, writeText association.sequence]

def writeAutoType (autoType : AutoTypeConfig) : Encoded :=
  writeAll [
    writeOption writeBool autoType.enabled,
    writeOption writeI32 autoType.obfuscation,
    writeOption writeText autoType.defaultSequence,
    writeList writeAssociation autoType.associations]

def writeCustomDataItem (item : CanonicalCustomDataItem) : Encoded :=
  writeAll [writeText item.value, writeOption writeI64 item.lastModified]

def canonicalEntryReferenceBytesV1 (entry : CanonicalEntryReference) : Encoded :=
  writeAll [
    writeRaw canonicalSerializationMagic,
    writeU32 canonicalEntrySchemaVersionV1,
    writeUuid entry.id,
    writeText entry.title,
    writeText entry.username,
    writeText entry.password,
    writeText entry.url,
    writeText entry.notes,
    writeBool entry.fieldProtection.protectTitle,
    writeBool entry.fieldProtection.protectUsername,
    writeBool entry.fieldProtection.protectPassword,
    writeBool entry.fieldProtection.protectUrl,
    writeBool entry.fieldProtection.protectNotes,
    writeSet writeText entry.tags.toList,
    writeStringMap writeField entry.attributes.toList,
    writeStringMap writeAttachmentReference entry.attachments.toList,
    writeOption writeU32 entry.iconId,
    writeOption writeUuid entry.customIconId,
    writeOption writeText entry.foregroundColor,
    writeOption writeText entry.backgroundColor,
    writeOption writeText entry.overrideUrl,
    writeU64 entry.createdAt,
    writeU64 entry.modifiedAt,
    writeBool entry.expires,
    writeOption writeI64 entry.expiryTime,
    writeOption writeU64 entry.lastAccessedAt,
    writeOption writeU64 entry.usageCount,
    writeOption writeU64 entry.locationChangedAt,
    writeOption writeUuid entry.previousParent,
    writeOption writeAutoType entry.autoType,
    writeStringMap writeText entry.customData.toList,
    writeStringMap writeCustomDataItem entry.customDataItems.toList,
    writeBool entry.excludeFromReports]

def canonicalEntryBytesV1 (entry : Entry) : Encoded := do
  let reference ← CanonicalEntryReference.tryFrom sha256 entry
  canonicalEntryReferenceBytesV1 reference

end Serialization

end VaultKern
