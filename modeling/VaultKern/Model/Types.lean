import VaultKern.Lib.OrderedMap
import Mathlib.Order.Fin.Basic
import Mathlib.Algebra.Group.Int.Defs
import Mathlib.Algebra.GroupWithZero.Nat

/-! # The vault data model

The records of `vaultkern-model`, field for field. Unix times and counters are
unbounded numbers, since nothing in the model computes with them beyond
comparison. Attachment content is its bytes: the content id is their hash, and
the sharing of equal content between attachments is invisible to equality.
-/

namespace VaultKern

abbrev Uuid := Fin (2 ^ 128)

instance neZeroUuids : NeZero (2 ^ 128 : Nat) := ⟨by decide⟩

instance transOrdUuid : Std.TransOrd Uuid := inferInstanceAs (Std.TransOrd (Fin _))

instance lawfulBEqBytes : LawfulBEq (List UInt8) := inferInstance

structure CustomField where
  value : String
  isProtected : Bool
  deriving DecidableEq

structure AttachmentContent where
  bytes : List UInt8
  deriving DecidableEq

structure Attachment where
  name : String
  data : AttachmentContent
  protectInMemory : Bool
  deriving DecidableEq

structure DeletedObject where
  id : Uuid
  deletedAt : Int
  deriving DecidableEq

structure CustomIcon where
  id : Uuid
  data : List UInt8
  name : Option String
  lastModified : Option Int
  deriving DecidableEq

/-- The `occurrence`-th child element of that name, counted from one. -/
structure OpaqueXmlAnchor where
  elementName : String
  occurrence : Nat
  deriving DecidableEq

structure OpaqueXmlFragment where
  xml : String
  after : Option OpaqueXmlAnchor
  deriving DecidableEq

structure CustomDataItem where
  key : String
  value : String
  lastModified : Option Int
  deriving DecidableEq

structure CustomDataBlock where
  items : List CustomDataItem
  after : Option OpaqueXmlAnchor
  deriving DecidableEq

structure MetaRawState where
  nodeOrder : List String := []
  descriptionRaw : Option String := none
  defaultUsernameRaw : Option String := none
  colorRaw : Option String := none
  memoryProtectionAutoEnableVisualHidingRaw : Option String := none
  hasCustomIconsNode : Bool := false
  recycleBinGroupRaw : Option String := none
  entryTemplatesGroupRaw : Option String := none
  deriving DecidableEq

structure RootRawState where
  nodeOrder : List String := []
  hasDeletedObjectsNode : Bool := false
  deriving DecidableEq

structure GroupRawState where
  nodeOrder : List String := []
  /-- Owners of the retained `Entry` slots in `nodeOrder`. -/
  entryOrder : List Uuid := []
  /-- Owners of the retained child `Group` slots in `nodeOrder`. -/
  groupOrder : List Uuid := []
  defaultAutoTypeSequenceRaw : Option String := none
  enableAutoTypeRaw : Option String := none
  enableSearchingRaw : Option String := none
  lastTopVisibleEntryRaw : Option String := none
  deriving DecidableEq

structure EntryRawState where
  nodeOrder : List String := []
  /-- Owners of the retained `String` slots in `nodeOrder`. -/
  stringOrder : List String := []
  /-- Owners of the retained `Binary` slots in `nodeOrder`. -/
  binaryOrder : List String := []
  foregroundColorRaw : Option String := none
  backgroundColorRaw : Option String := none
  overrideUrlRaw : Option String := none
  tagsRaw : Option String := none
  qualityCheckRaw : Option String := none
  hasHistoryNode : Bool := false
  deriving DecidableEq

structure MemoryProtection where
  protectTitle : Bool := false
  protectUsername : Bool := false
  protectPassword : Bool := false
  protectUrl : Bool := false
  protectNotes : Bool := false
  deriving DecidableEq

structure EntryFieldProtection where
  protectTitle : Bool := false
  protectUsername : Bool := false
  protectPassword : Bool := true
  protectUrl : Bool := false
  protectNotes : Bool := false
  deriving DecidableEq

structure AutoTypeAssociation where
  window : String
  sequence : String
  deriving DecidableEq

structure AutoTypeConfig where
  enabled : Option Bool := none
  obfuscation : Option Int := none
  defaultSequence : Option String := none
  associations : List AutoTypeAssociation := []
  deriving DecidableEq

structure GroupFlags where
  isExpanded : Option Bool := none
  enableAutoType : Option Bool := none
  enableSearching : Option Bool := none
  deriving DecidableEq

structure GroupTimes where
  createdAt : Nat
  modifiedAt : Nat
  expires : Bool
  expiryTime : Option Int
  lastAccessedAt : Option Nat
  usageCount : Option Nat
  locationChangedAt : Option Nat
  deriving DecidableEq

structure PasskeyRecord where
  username : String
  credentialId : String
  generatedUserId : Option String
  privateKeyPem : String
  relyingParty : String
  userHandle : Option String
  backupEligible : Bool
  backupState : Bool
  deriving DecidableEq

inductive TotpAlgorithm where
  | sha1 | sha256 | sha512
  deriving DecidableEq

structure TotpSpec where
  secretBase32 : String
  algorithm : TotpAlgorithm
  digits : Nat
  periodSeconds : Nat
  issuer : Option String
  accountName : Option String
  deriving DecidableEq

/-! ## Entries -/

/-- Every field of an entry but its history. -/
structure EntryFields where
  id : Uuid
  title : String
  username : String := ""
  password : String := ""
  url : String := ""
  notes : String := ""
  fieldProtection : EntryFieldProtection := {}
  tags : BTreeSet String := ∅
  attributes : BTreeMap String CustomField := ∅
  attachments : BTreeMap String Attachment := ∅
  totp : Option TotpSpec := none
  passkey : Option PasskeyRecord := none
  iconId : Option Nat := some 0
  customIconId : Option Uuid := none
  foregroundColor : Option String := none
  backgroundColor : Option String := none
  overrideUrl : Option String := none
  createdAt : Nat := 0
  modifiedAt : Nat := 0
  expires : Bool := false
  expiryTime : Option Int := some 0
  lastAccessedAt : Option Nat := some 0
  usageCount : Option Nat := some 0
  locationChangedAt : Option Nat := some 0
  autoType : Option AutoTypeConfig := some {}
  customData : BTreeMap String String := ∅
  customDataBlocks : List CustomDataBlock := []
  previousParent : Option Uuid := none
  excludeFromReports : Bool := false
  rawState : EntryRawState := {}
  opaqueXml : List OpaqueXmlFragment := []
  deriving DecidableEq

structure Entry extends EntryFields where
  history : List Entry := []

namespace Entry

@[ext] theorem ext' {a b : Entry} (fields : a.toEntryFields = b.toEntryFields)
    (history : a.history = b.history) : a = b := by
  cases a
  cases b
  simp_all

mutual
def decEq : (a b : Entry) → Decidable (a = b)
  | ⟨f, hs⟩, ⟨g, ks⟩ =>
      match (inferInstance : Decidable (f = g)), decEqList hs ks with
      | isTrue h, isTrue k => isTrue (by rw [h, k])
      | isFalse h, _ => isFalse fun same => h (by injection same)
      | _, isFalse k => isFalse fun same => k (by injection same)

def decEqList : (as bs : List Entry) → Decidable (as = bs)
  | [], [] => isTrue rfl
  | [], _ :: _ => isFalse nofun
  | _ :: _, [] => isFalse nofun
  | a :: as, b :: bs =>
      match decEq a b, decEqList as bs with
      | isTrue h, isTrue k => isTrue (by rw [h, k])
      | isFalse h, _ => isFalse fun same => h (by injection same)
      | _, isFalse k => isFalse fun same => k (by injection same)
end

instance : DecidableEq Entry := decEq

end Entry

/-! ## Groups -/

/-- Every field of a group but its members. -/
structure GroupFields where
  id : Uuid
  title : String
  notes : String := ""
  iconId : Option Nat := none
  customIconId : Option Uuid := none
  tags : BTreeSet String := ∅
  times : Option GroupTimes := none
  flags : GroupFlags := {}
  defaultAutoTypeSequence : Option String := none
  lastTopVisibleEntry : Option Uuid := none
  customData : BTreeMap String String := ∅
  customDataBlocks : List CustomDataBlock := []
  previousParent : Option Uuid := none
  rawState : GroupRawState := {}
  opaqueXml : List OpaqueXmlFragment := []
  deriving DecidableEq

structure Group extends GroupFields where
  entries : List Entry := []
  children : List Group := []

namespace Group

@[ext] theorem ext' {a b : Group} (fields : a.toGroupFields = b.toGroupFields)
    (entries : a.entries = b.entries) (children : a.children = b.children) : a = b := by
  cases a
  cases b
  simp_all

mutual
def decEq : (a b : Group) → Decidable (a = b)
  | ⟨f, es, cs⟩, ⟨g, ds, ks⟩ =>
      match (inferInstance : Decidable (f = g)), (inferInstance : Decidable (es = ds)),
        decEqList cs ks with
      | isTrue h, isTrue i, isTrue k => isTrue (by rw [h, i, k])
      | isFalse h, _, _ => isFalse fun same => h (by injection same)
      | _, isFalse i, _ => isFalse fun same => i (by injection same)
      | _, _, isFalse k => isFalse fun same => k (by injection same)

def decEqList : (as bs : List Group) → Decidable (as = bs)
  | [], [] => isTrue rfl
  | [], _ :: _ => isFalse nofun
  | _ :: _, [] => isFalse nofun
  | a :: as, b :: bs =>
      match decEq a b, decEqList as bs with
      | isTrue h, isTrue k => isTrue (by rw [h, k])
      | isFalse h, _ => isFalse fun same => h (by injection same)
      | _, isFalse k => isFalse fun same => k (by injection same)
end

instance : DecidableEq Group := decEq

end Group

/-! ## Vaults -/

structure Vault where
  generator : Option String := some "VaultKern"
  settingsChanged : Option Int := none
  name : String
  databaseNameChanged : Option Int := none
  description : Option String := none
  descriptionChanged : Option Int := none
  defaultUsername : Option String := none
  defaultUsernameChanged : Option Int := none
  metaCustomData : BTreeMap String String := ∅
  metaCustomDataBlocks : List CustomDataBlock := []
  metaRawState : MetaRawState := {}
  rootRawState : RootRawState := { hasDeletedObjectsNode := true }
  root : Group
  /-- Encoded KDF parameter dictionary, kept across ordinary saves. -/
  kdfParameters : Option (List UInt8) := none
  publicCustomData : BTreeMap String (List UInt8) := ∅
  deletedObjects : List DeletedObject := []
  maintenanceHistoryDays : Option Int := none
  color : Option String := none
  masterKeyChanged : Option Int := none
  masterKeyChangeRec : Option Int := none
  masterKeyChangeForce : Option Int := none
  masterKeyChangeForceOnce : Option Bool := none
  customIcons : List CustomIcon := []
  historyMaxItems : Option Int := none
  historyMaxSize : Option Int := none
  lastSelectedGroup : Option Uuid := none
  lastTopVisibleGroup : Option Uuid := none
  memoryProtection : Option MemoryProtection := none
  recycleBinEnabled : Option Bool := none
  recycleBinGroup : Option Uuid := none
  recycleBinChanged : Option Int := none
  entryTemplatesGroup : Option Uuid := none
  entryTemplatesGroupChanged : Option Int := none
  metaOpaqueXml : List OpaqueXmlFragment := []
  rootOpaqueXml : List OpaqueXmlFragment := []

end VaultKern
