import VaultKern.Lib.Attempt
import VaultKern.Model.Credentials
import VaultKern.Model.Text

/-! # Checks on the arguments of mutators -/

namespace VaultKern

inductive MutationError where
  | groupNotFound (id : String)
  | entryNotFound (id : String)
  | historyIndexOutOfBounds (index : Nat)
  | customFieldNotFound (key : String)
  | reservedCustomFieldKey (key : String)
  | invalidEntryValue (message : String)
  | attachmentNotFound (name : String)
  | attachmentAlreadyExists (name : String)
  | attachmentContentHashCollision
  | customDataNotFound (key : String)
  | customIconNotFound (id : String)
  | invalidUuid (value : String)
  | uuidCollision (value : String)
  | cannotDeleteRootGroup
  | cannotMoveRootGroup
  | cannotMoveGroupIntoDescendant
  deriving DecidableEq

open MutationError

def isReservedEntryCustomFieldKey (key : String) : Bool :=
  key ∈ ["Title", "UserName", "Password", "URL", "Notes"] || isTotpPersistentAttributeKey key
    || "KPEX_PASSKEY_".isPrefixOf key

def invalidTag (tag : String) : Bool :=
  tag.isEmpty || trimText tag ≠ tag || tag.toList.any (fun c => c = ',' || c = ';') || !isXml10Text tag

def validatePersistentTags (tags : List String) : Except MutationError Unit :=
  match tags.find? invalidTag with
  | some tag => .error (invalidEntryValue
      ("tag cannot be empty, contain ',' or ';', or have boundary whitespace: " ++ tag.quote))
  | none => .ok ()

def validateUnprotectedXmlText (value kind : String) : Except MutationError Unit :=
  if isXml10Text value then .ok ()
  else .error (invalidEntryValue (kind ++ " contains a character forbidden by XML 1.0"))

def validateXmlTextWithProtection (value : String) (isProtected : Bool) (kind : String) :
    Except MutationError Unit :=
  if isProtected then .ok () else validateUnprotectedXmlText value kind

/-- The check of a value that may be left out. -/
def validateOptionalXmlText (value : Option String) (kind : String) : Except MutationError Unit :=
  match value with
  | some value => validateUnprotectedXmlText value kind
  | none => .ok ()

def validateNonEmptyKey (key kind : String) : Except MutationError Unit :=
  if key.isEmpty then .error (invalidEntryValue (kind ++ " key cannot be empty")) else .ok ()

/-- `checked_add` fails above `i64::MAX`. -/
def validatePersistentTimestamp (timestamp : Int) : Except MutationError Unit :=
  if timestamp + kdbx4TimeOffset < 2 ^ 63 && 0 ≤ timestamp + kdbx4TimeOffset then .ok ()
  else .error (invalidEntryValue ("timestamp is outside the KDBX4 domain: " ++ toString timestamp))

def validatePersistentUnsignedTimestamp (timestamp : Nat) : Except MutationError Unit :=
  if timestamp < 2 ^ 63 then validatePersistentTimestamp timestamp
  else .error (invalidEntryValue ("timestamp is outside the KDBX4 domain: " ++ toString timestamp))

def validateOptionalTimestamp (timestamp : Option Int) : Except MutationError Unit :=
  match timestamp with
  | some timestamp => validatePersistentTimestamp timestamp
  | none => .ok ()

/-- The loops that check every timestamp that is given. -/
def validateUnsignedTimestamps : List (Option Nat) → Except MutationError Unit
  | [] => .ok ()
  | none :: rest => validateUnsignedTimestamps rest
  | some timestamp :: rest => do
      validatePersistentUnsignedTimestamp timestamp
      validateUnsignedTimestamps rest

end VaultKern
