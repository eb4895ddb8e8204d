import VaultKern.Patch.ThreeWay
import VaultKern.Passkey.Origins
import VaultKern.Runtime.SaveVault

/-! # Autofill plans

A browser asks for an update or a new entry with a plan. The plan is checked before anything
else, and its digest binds a receipt to it. Hashes, URLs, base32 and JSON are those of libraries.
-/

namespace VaultKern

/-! ## Errors -/

inductive AutofillPersistConflictCode where
  | updatePreconditionFailed
  | createMatchingSetChanged
  | plannedEntryIdCollision
  | operationBindingMismatch
  deriving DecidableEq

/-- What a `MergeConflict` is about. -/
inductive MergeFailure where
  | message (text : String)
  | patch (error : ThreeWayPatchError)
  | recovery (error : RecoveryError)
  deriving DecidableEq

/-- What a `Mutation` is about. -/
inductive MutationFailure where
  | message (text : String)
  | core (error : MutationError)
  deriving DecidableEq

inductive AutofillPersistEngineError where
  | invalidPlan (message : String)
  | invalidLedger (message : String)
  | conflict (code : AutofillPersistConflictCode)
  | mergeConflict (failure : MergeFailure)
  | mutation (failure : MutationFailure)
  deriving DecidableEq

abbrev AutofillResult (A : Type) := Except AutofillPersistEngineError A

/-- Go on, or refuse the plan. -/
def requirePlan (condition : Bool) (message : String) : AutofillResult Unit :=
  if condition then .ok () else .error (.invalidPlan message)

/-! ## Plans -/

structure AutofillUpdateFieldsDto where
  username : String
  password : String
  url : String
  deriving DecidableEq

inductive AutofillPersistPlanDto where
  | update (entryId : String) (expectedFields desiredFields : AutofillUpdateFieldsDto)
  | create (parentGroupId plannedEntryId : String) (expectedMatchingEntryIds : List String)
      (desiredFields : EntryFieldsDto)
  deriving DecidableEq

/-- The fields of a created entry, without its custom fields and its TOTP. -/
structure ValidatedEntryFields where
  title : String
  username : String
  password : String
  url : String
  notes : String
  deriving DecidableEq

structure ValidatedFields where
  values : ValidatedEntryFields
  customFields : BTreeMap String CustomField
  totp : Option TotpSpec
  deriving DecidableEq

structure ValidatedUpdateFields where
  username : String
  password : String
  url : String
  deriving DecidableEq

inductive ValidatedPlan where
  | update (entryId : String) (expectedFields desiredFields : ValidatedUpdateFields)
  | create (parentGroupId plannedEntryId : String) (expectedMatchingEntryIds : List String)
      (desiredFields : ValidatedFields)
  deriving DecidableEq

inductive ReceiptMode where
  | update
  | create
  deriving DecidableEq

def ValidatedPlan.mode : ValidatedPlan → ReceiptMode
  | .update .. => .update
  | .create .. => .create

def ValidatedPlan.entryId : ValidatedPlan → String
  | .update entryId _ _ => entryId
  | .create _ plannedEntryId _ _ => plannedEntryId

/-! ## Checks -/

def maxRequestIdBytes : Nat := 128
def maxVaultIdBytes : Nat := 4 * 1024
def maxFieldBytes : Nat := 1024 * 1024
def maxTotpUriBytes : Nat := 8 * 1024
def maxCustomKeyBytes : Nat := 256
def maxCustomFields : Nat := 128
def maxMatchingIds : Nat := 4096
def maxPlanBytes : Nat := 8 * 1024 * 1024

/-- `char::is_control`. -/
def isControl (c : Char) : Bool := c.val ≤ 0x1f || (0x7f ≤ c.val && c.val ≤ 0x9f)

def hasControl (text : String) : Bool := text.toList.any isControl

def validateToken (name value : String) (maxBytes : Nat) : AutofillResult Unit :=
  requirePlan (!value.isEmpty && value.utf8ByteSize ≤ maxBytes && !hasControl value && trimText value = value)
    ("invalid " ++ name)

def validateCanonicalUuid (name value : String) : AutofillResult Unit :=
  requirePlan ((uuidParseStr value).any fun id => id ≠ 0 && uuidToString id = value) ("invalid " ++ name)

def isSha256Text (value : String) : Bool :=
  value.utf8ByteSize = 64 && value.toList.all fun c => c.isDigit || ('a' ≤ c && c ≤ 'f')

structure AutofillLibrary where
  sha256 : List UInt8 → List UInt8
  parseUrl : String → Option Url
  /-- `BASE32_NOPAD`. -/
  decodeBase32 : String → Option (List UInt8)

section Checks

variable (library : AutofillLibrary)

/-- The ASCII serialization of the origin of an HTTP URL. -/
def asciiOrigin (url : Url) (host : String) : String :=
  url.scheme ++ "://" ++ host ++ (url.port.map fun port => ":" ++ toString port).getD ""

def httpOrigin (name value : String) : AutofillResult String := do
  requirePlan (trimText value = value && !hasControl value) ("invalid " ++ name)
  match library.parseUrl value with
  | none => .error (.invalidPlan ("invalid " ++ name))
  | some url =>
      match url.host with
      | none => .error (.invalidPlan ("invalid " ++ name))
      | some host =>
          if url.scheme = "http" || url.scheme = "https" then return asciiOrigin url host
          else .error (.invalidPlan ("invalid " ++ name))

def validateUpdateFields (name : String) (fields : AutofillUpdateFieldsDto) (allowEmptyPassword : Bool) :
    AutofillResult ValidatedUpdateFields := do
  requirePlan (fields.username.utf8ByteSize ≤ maxFieldBytes) (name ++ ".username is too large")
  requirePlan (fields.password.utf8ByteSize ≤ maxFieldBytes) (name ++ ".password is too large")
  requirePlan (fields.url.utf8ByteSize ≤ maxFieldBytes) (name ++ ".url is too large")
  requirePlan (allowEmptyPassword || !fields.password.isEmpty) (name ++ ".password must not be empty")
  let _ ← httpOrigin library (name ++ ".url") fields.url
  return { username := fields.username, password := fields.password, url := fields.url }

/-- Base32 digits, then padding. -/
def isPaddedBase32 (secret : List Char) : Bool :=
  (secret.dropWhile fun c => c ≠ '=').all (· = '=')
    && (secret.takeWhile fun c => c ≠ '=').all fun c => c.isAlpha || ('2' ≤ c && c ≤ '7')

/-- `generate_at` succeeds. -/
def generatesTotp (spec : TotpSpec) : Bool :=
  let normalized := String.ofList ((spec.secretBase32.toList.filter (· ≠ '=')).map Char.toUpper)
  (library.decodeBase32 normalized).any (!·.isEmpty) && 1 ≤ spec.digits && spec.digits ≤ 9 && spec.periodSeconds ≠ 0

def validTotpSpec (spec : TotpSpec) : Bool :=
  !spec.secretBase32.isEmpty && isPaddedBase32 spec.secretBase32.toList && 1 ≤ spec.digits && spec.digits ≤ 9
    && spec.periodSeconds ≠ 0 && generatesTotp library spec

def validateTotpUri (name : String) (uri : Option String) : AutofillResult (Option TotpSpec) :=
  let invalid := AutofillPersistEngineError.invalidPlan ("invalid " ++ name ++ ".totp_uri")
  match uri with
  | none => .ok none
  | some uri =>
      if uri.isEmpty || trimText uri ≠ uri || hasControl uri || uri.utf8ByteSize > maxTotpUriBytes then .error invalid
      else match TotpSpec.parseOtpauth uri with
        | none => .error invalid
        | some spec => if validTotpSpec library spec then .ok (some spec) else .error invalid

def reservedCustomFieldKeys : List String := ["Title", "UserName", "Password", "URL", "Notes"]

def invalidCustomField (field : EntryCustomFieldDto) : Bool :=
  field.key.isEmpty || trimText field.key ≠ field.key || field.key.utf8ByteSize > maxCustomKeyBytes
    || hasControl field.key || !isXml10Text field.key || reservedCustomFieldKeys.any (eqIgnoreAsciiCase field.key)
    || isTotpPersistentAttributeKey field.key || "KPEX_PASSKEY_".isPrefixOf field.key
    || field.value.utf8ByteSize > maxFieldBytes

def validateCustomFields (name : String) : List EntryCustomFieldDto → BTreeMap String CustomField →
    AutofillResult (BTreeMap String CustomField)
  | [], fields => .ok fields
  | field :: rest, fields => do
      requirePlan (!invalidCustomField field) ("invalid " ++ name ++ ".custom_fields")
      requirePlan (!fields.contains field.key) ("duplicate " ++ name ++ ".custom_fields key")
      validateCustomFields name rest (fields.insert field.key
        { value := field.value, isProtected := effectiveXmlFieldProtection field.value field.isProtected })

/-- The bytes of a plan that count. -/
def fieldsBytes (fields : EntryFieldsDto) : Nat :=
  fields.title.utf8ByteSize + fields.username.utf8ByteSize + fields.password.utf8ByteSize + fields.url.utf8ByteSize
    + fields.notes.utf8ByteSize + (fields.totpUri.map String.utf8ByteSize).getD 0
    + (fields.customFields.map fun field => field.key.utf8ByteSize + field.value.utf8ByteSize).sum

def validateFields (name : String) (fields : EntryFieldsDto) : AutofillResult ValidatedFields := do
  requirePlan (fields.title.utf8ByteSize ≤ maxFieldBytes) (name ++ ".title is too large")
  requirePlan (fields.username.utf8ByteSize ≤ maxFieldBytes) (name ++ ".username is too large")
  requirePlan (fields.password.utf8ByteSize ≤ maxFieldBytes) (name ++ ".password is too large")
  requirePlan (fields.url.utf8ByteSize ≤ maxFieldBytes) (name ++ ".url is too large")
  requirePlan (fields.notes.utf8ByteSize ≤ maxFieldBytes) (name ++ ".notes is too large")
  let totp ← validateTotpUri library name fields.totpUri
  requirePlan (fields.customFields.length ≤ maxCustomFields) ("too many " ++ name ++ ".custom_fields")
  let customFields ← validateCustomFields name fields.customFields ∅
  requirePlan (fieldsBytes fields ≤ maxPlanBytes) (name ++ " is too large")
  return {
    values :=
      { title := fields.title
        username := fields.username
        password := fields.password
        url := fields.url
        notes := fields.notes }
    customFields
    totp }

def validateDesiredFields (name : String) (fields : ValidatedFields) : AutofillResult Unit := do
  requirePlan (!fields.values.password.isEmpty) (name ++ ".password must not be empty")
  let _ ← httpOrigin library (name ++ ".url") fields.values.url

def ValidatedPlan.fromDto : AutofillPersistPlanDto → AutofillResult ValidatedPlan
  | .update entryId expectedFields desiredFields => do
      validateCanonicalUuid "entry_id" entryId
      let expectedFields ← validateUpdateFields library "expected_fields" expectedFields true
      let desiredFields ← validateUpdateFields library "desired_fields" desiredFields false
      let expectedOrigin ← httpOrigin library "expected_fields.url" expectedFields.url
      let desiredOrigin ← httpOrigin library "desired_fields.url" desiredFields.url
      requirePlan (expectedOrigin = desiredOrigin) "update URLs must have the same exact origin"
      return .update entryId expectedFields desiredFields
  | .create parentGroupId plannedEntryId expectedMatchingEntryIds desiredFields => do
      validateCanonicalUuid "parent_group_id" parentGroupId
      validateCanonicalUuid "planned_entry_id" plannedEntryId
      requirePlan (expectedMatchingEntryIds.length ≤ maxMatchingIds) "too many expected matching entry IDs"
      expectedMatchingEntryIds.forM (validateCanonicalUuid "expected_matching_entry_id")
      let matchingIds := expectedMatchingEntryIds.mergeSort fun left right => left ≤ right
      requirePlan matchingIds.Nodup "expected matching entry IDs must be unique"
      let desiredFields ← validateFields library "desired_fields" desiredFields
      validateDesiredFields library "desired_fields" desiredFields
      return .create parentGroupId plannedEntryId matchingIds desiredFields

/-! ## The digest of a plan -/

/-- `to_be_bytes` of a number of that many bytes. -/
def bigEndian (width n : Nat) : List UInt8 := (List.range width).reverse.map fun i => UInt8.ofNat (n >>> (8 * i))

def hashComponent (bytes : List UInt8) : List UInt8 := bigEndian 8 bytes.length ++ bytes

def hashText (text : String) : List UInt8 := hashComponent text.toUTF8.toList

def hashOptional : Option String → List UInt8
  | some text => 1 :: hashText text
  | none => [0]

def hashUpdateFields (fields : ValidatedUpdateFields) : List UInt8 :=
  hashText fields.username ++ hashText fields.password ++ hashText fields.url

def hashAlgorithm : TotpAlgorithm → UInt8
  | .sha1 => 1
  | .sha256 => 2
  | .sha512 => 3

def hashTotp : Option TotpSpec → List UInt8
  | some totp =>
      1 :: hashText totp.secretBase32 ++ [hashAlgorithm totp.algorithm] ++ bigEndian 4 totp.digits
        ++ bigEndian 8 totp.periodSeconds ++ hashOptional totp.issuer ++ hashOptional totp.accountName
  | none => [0]

def hashFields (fields : ValidatedFields) : List UInt8 :=
  hashText fields.values.title ++ hashText fields.values.username ++ hashText fields.values.password
    ++ hashText fields.values.url ++ hashText fields.values.notes ++ hashTotp fields.totp
    ++ bigEndian 8 fields.customFields.size
    ++ fields.customFields.toList.flatMap fun (key, field) =>
      hashText key ++ hashText field.value ++ [if field.isProtected then 1 else 0]

def hashPlan : ValidatedPlan → List UInt8
  | .update entryId expectedFields desiredFields =>
      hashText "update" ++ hashText entryId ++ hashUpdateFields expectedFields ++ hashUpdateFields desiredFields
  | .create parentGroupId plannedEntryId expectedMatchingEntryIds desiredFields =>
      hashText "create" ++ hashText parentGroupId ++ hashText plannedEntryId
        ++ bigEndian 8 expectedMatchingEntryIds.length ++ expectedMatchingEntryIds.flatMap hashText
        ++ hashFields desiredFields

def hexText (bytes : List UInt8) : String := String.ofList (bytes.flatMap fun byte => hexDigits 2 byte.toNat)

def hashValidatedPlan (transactionId vaultId sourceIdentitySha256 : String) (plan : ValidatedPlan) : String :=
  hexText (library.sha256 (hashText "vaultkern-autofill-persist-v1" ++ hashText transactionId ++ hashText vaultId
    ++ hashText sourceIdentitySha256 ++ hashPlan plan))

end Checks

end VaultKern
