import VaultKern.Core.Placement
import VaultKern.Runtime.HistoryLimits

/-! # The runtime session and its view of an entry

A session holds the opened vaults, each unlocked or locked. One reading of the clock
serves a whole request.
-/

namespace VaultKern

open Attempt

/-! ## Errors -/

inductive RuntimeError where
  | message (text : String)
  | mutation (error : MutationError)
  deriving DecidableEq

/-- A part of the runtime that works on an unlocked vault. -/
abbrev VaultEdit (A : Type) := Attempt RuntimeError Vault A

/-- A call of the core, its error passed on. -/
def core {A : Type} (m : Mutator A) : VaultEdit A := fun vault =>
  match m vault with
  | (.ok a, vault') => (.ok a, vault')
  | (.error e, vault') => (.error (.mutation e), vault')

/-! ## Sessions -/

structure Session where
  /-- Opened vaults by id; a locked vault has no content. -/
  loaded : BTreeMap String (Option Vault)
  activeVaultId : Option String
  /-- `current_unix_time`. -/
  now : Nat

abbrev Runtime (A : Type) := Attempt RuntimeError Session A

def notOpened (vaultId : String) : RuntimeError := .message ("vault not opened: " ++ vaultId)

def locked (vaultId : String) : RuntimeError := .message ("vault is locked: " ++ vaultId)

def Session.vault (session : Session) (vaultId : String) : Except RuntimeError Vault :=
  match session.loaded[vaultId]? with
  | none => .error (notOpened vaultId)
  | some none => .error (locked vaultId)
  | some (some vault) => .ok vault

/-- `find_loaded_mut` and the unlocked vault behind it. -/
def onVault {A : Type} (vaultId : String) (m : VaultEdit A) : Runtime A := fun session =>
  match session.vault vaultId with
  | .error e => (.error e, session)
  | .ok vault => ((m vault).1, { session with loaded := session.loaded.insert vaultId (some (m vault).2) })

def parseTotpUri (value : Option String) : Except RuntimeError (Option TotpSpec) :=
  match value with
  | none => .ok none
  | some uri =>
      if (trimText uri).isEmpty then .ok none
      else match TotpSpec.parseOtpauth uri with
        | some totp => .ok (some totp)
        | none => .error (.message "invalid otpauth uri")

/-! ## Entry details -/

structure EntryCustomFieldDto where
  key : String
  value : String
  isProtected : Bool
  deriving DecidableEq

structure EntryPasskeyDto where
  username : String
  credentialId : String
  generatedUserId : Option String
  relyingParty : String
  userHandle : Option String
  backupEligible : Bool
  backupState : Bool

structure EntryDetailDto where
  id : String
  title : String
  username : String
  password : String
  url : String
  notes : String
  modifiedAt : Nat
  totp : Option String
  totpUri : Option String
  passkey : Option EntryPasskeyDto
  fieldProtection : EntryFieldProtection
  customFields : List EntryCustomFieldDto
  attachments : List AttachmentView

/-- `byte_serialize`: the encoding of forms, with a plus sign for a blank. -/
def formEncode (value : String) : String :=
  String.ofList (value.toUTF8.toList.flatMap fun byte =>
    let c := Char.ofNat byte.toNat
    if c.isAlphanum || c = '*' || c = '-' || c = '.' || c = '_' then [c]
    else if c = ' ' then ['+']
    else ['%', hexUpper (byte.toNat / 16), hexUpper (byte.toNat % 16)])

def totpToUri (title username : String) (totp : TotpSpec) : String :=
  let issuer := totp.issuer.getD title
  let accountName := totp.accountName.getD username
  let label :=
    if accountName.isEmpty then formEncode issuer else formEncode issuer ++ ":" ++ formEncode accountName
  "otpauth://totp/" ++ label ++ "?secret=" ++ formEncode totp.secretBase32 ++ "&issuer=" ++ formEncode issuer
    ++ "&algorithm=" ++ totp.algorithm.uriText ++ "&digits=" ++ toString totp.digits
    ++ "&period=" ++ toString totp.periodSeconds

def listEntryCustomFields (entry : Entry) : List EntryCustomFieldDto :=
  (entry.attributes.toList.filter fun (key, _) => !isReservedEntryCustomFieldKey key).map fun (key, field) =>
    { key, value := field.value, isProtected := field.isProtected }

def entryPasskeyToDto (passkey : PasskeyRecord) : EntryPasskeyDto :=
  { username := passkey.username
    credentialId := passkey.credentialId
    generatedUserId := passkey.generatedUserId
    relyingParty := passkey.relyingParty
    userHandle := passkey.userHandle
    backupEligible := passkey.backupEligible
    backupState := passkey.backupState }

/-- `totpCode` computes the one-time code of a secret at a time. -/
def entryDetail (totpCode : TotpSpec → Nat → Option String) (now : Nat) (entry : Entry) : EntryDetailDto :=
  { id := uuidToString entry.id
    title := entry.title
    username := entry.username
    password := entry.password
    url := entry.url
    notes := entry.notes
    modifiedAt := entry.modifiedAt
    totp := entry.totp.bind fun totp => totpCode totp now
    totpUri := entry.totp.map (totpToUri entry.title entry.username)
    passkey := entry.passkey.map entryPasskeyToDto
    fieldProtection := entry.fieldProtection
    customFields := listEntryCustomFields entry
    attachments := projectAttachmentItems entry.attachments }

def getEntryDetail (totpCode : TotpSpec → Nat → Option String) (vaultId entryId : String) :
    Runtime EntryDetailDto := do
  let session ← get
  let vault ← lift (session.vault vaultId)
  let entry ← require (.message ("entry not found: " ++ entryId)) (findEntryById entryId vault.root)
  return entryDetail totpCode session.now entry

/-! ## Comparing an entry with expected fields -/

structure EntryFieldsDto where
  title : String
  username : String
  password : String
  url : String
  notes : String
  totpUri : Option String
  customFields : List EntryCustomFieldDto
  deriving DecidableEq

/-- `effective_xml_field_protection`: text that XML cannot hold is protected in any case. -/
def effectiveXmlFieldProtection (value : String) (isProtected : Bool) : Bool := isProtected || !isXml10Text value

def canonicalCustomFields (fields : List EntryCustomFieldDto) : Option (BTreeMap String (String × Bool)) :=
  let canonical := BTreeMap.lastWins (fields.map fun field =>
    (field.key, (field.value, effectiveXmlFieldProtection field.value field.isProtected)))
  if canonical.size = fields.length then some canonical else none

def customFieldsSemanticallyEqual (left right : List EntryCustomFieldDto) : Bool :=
  if left.length ≠ right.length then false
  else match canonicalCustomFields left, canonicalCustomFields right with
    | some left, some right => left = right
    | _, _ => false

def totpFieldsSemanticallyEqual (left right : Option String) : Bool :=
  match left, right with
  | none, none => true
  | some left, some right =>
      match TotpSpec.parseOtpauth left, TotpSpec.parseOtpauth right with
      | some left, some right => left = right
      | _, _ => false
  | _, _ => false

def entryDetailMatchesFields (detail : EntryDetailDto) (fields : EntryFieldsDto) : Bool :=
  detail.title = fields.title && detail.username = fields.username && detail.password = fields.password
    && detail.url = fields.url && detail.notes = fields.notes
    && totpFieldsSemanticallyEqual detail.totpUri fields.totpUri
    && customFieldsSemanticallyEqual detail.customFields fields.customFields

end VaultKern
