import VaultKern.Passkey.BrowserOrigins
import VaultKern.Extension.NativeBridge
import Mathlib.Data.List.Sort

/-! # The fields of a page

The extension reads a page into a snapshot of its forms and fields, gives each field a role and sorts the
fields into credential scopes. The short names are those of the content script.
-/

namespace VaultKern.Filling

open Native (includes)
open Browser (isBlank Library)

/-! ## Texts -/

/-- The UTF-16 code units of a text. -/
abbrev JsText := List UInt16

instance : LawfulBEq JsText := inferInstance

def startsWith (text part : String) : Bool := part.toList.isPrefixOf text.toList

def endsWith (text part : String) : Bool := part.toList.isSuffixOf text.toList

def isSeparator (c : Char) : Bool := isBlank c || c = '_' || c = '-'

/-- `normalizeText` and `normalizeHint`. -/
def normalizeText (library : Library) (value : Option String) : String :=
  String.ofList ((library.toLowerCase (value.getD "")).toList.filter fun c => !isSeparator c)

def joined (library : Library) (parts : List (Option String)) : String :=
  String.intercalate "," (parts.map (normalizeText library))

/-- White space is in the basic plane, so that no part of a surrogate pair is taken for it. -/
def isBlankUnit (unit : UInt16) : Bool := isBlank (Char.ofNat unit.toNat)

def JsText.trim (text : JsText) : JsText :=
  ((text.dropWhile isBlankUnit).reverse.dropWhile isBlankUnit).reverse

/-! ## Snapshots -/

inductive AutofillFieldTag where
  | input | select | textarea
  deriving DecidableEq

inductive AutofillFieldQualification where
  | username | password | newPassword | confirmation | currentPassword | totp | ignored
  deriving DecidableEq

structure AutofillFormSnapshot where
  o : String
  hi : Option String := none
  hn : Option String := none
  hc : Option String := none
  ha : Option String := none
  hai : Option Bool := none
  hm : Option String := none
  x : Option Bool := none
  al : Option String := none
  ht : List String := []
  st : Option (List String) := none
  deriving DecidableEq

structure AutofillFieldSnapshot where
  o : String
  so : String
  fo : Option String := none
  co : Option String := none
  n : Nat
  tg : AutofillFieldTag := .input
  hy : Option String := none
  hn : Option String := none
  hi : Option String := none
  hc : Option String := none
  au : Option String := none
  im : Option String := none
  ml : Option Int := none
  ph : Option String := none
  ti : Option String := none
  al : Option String := none
  ad : Option String := none
  lt : Option String := none
  ct : Option (List String) := none
  dv : List String := []
  opts : Option (List String) := none
  ro : Bool := false
  d : Bool := false
  fs : Bool := false
  rt : List AutofillFieldQualification := []
  rr : List String := []
  vw : Bool := true
  vr : List String := []
  fl : Bool := true
  fr : List String := []
  deriving DecidableEq

structure SiteRulePolicy where
  id : String
  d : Bool
  deriving DecidableEq

structure AutofillPageSnapshot where
  url : Option String := none
  sr : Option SiteRulePolicy := none
  fm : List AutofillFormSnapshot := []
  f : List AutofillFieldSnapshot
  deriving DecidableEq

structure FieldQualification where
  q : AutofillFieldQualification
  el : Bool
  why : List String
  deriving DecidableEq

structure AutofillTriageFieldResult extends AutofillFieldSnapshot, FieldQualification where
  fc : Option AutofillFormSnapshot := none
  deriving DecidableEq

/-- What a field is for, by its texts and its neighbours. -/
abbrev Qualify :=
  AutofillFieldSnapshot → AutofillPageSnapshot → Option AutofillFormSnapshot → FieldQualification

def triageAutofillField (qualifyAutofillField : Qualify) (snapshot : AutofillPageSnapshot)
    (field : AutofillFieldSnapshot) : AutofillTriageFieldResult :=
  -- the last form of an id stands in the map, and an empty id is not looked up
  let formContext := (field.fo.filter (· ≠ "")).bind fun id => snapshot.fm.reverse.find? fun form => form.o = id
  { field, qualifyAutofillField field snapshot formContext with fc := formContext }

def triageAutofillPage (qualifyAutofillField : Qualify) (snapshot : AutofillPageSnapshot) :
    List AutofillTriageFieldResult :=
  snapshot.f.map (triageAutofillField qualifyAutofillField snapshot)

/-! ## Credential scopes -/

/-- `byDocumentOrder`, a stable sort. -/
def sortFields (fields : List AutofillTriageFieldResult) : List AutofillTriageFieldResult :=
  fields.insertionSort fun left right => left.n ≤ right.n

inductive AutofillCredentialScopeKind where
  | form | container | physical | siteRule
  deriving DecidableEq

structure AutofillCredentialScope where
  k : String
  kind : AutofillCredentialScopeKind
  fis : List String
  rl : List AutofillFieldQualification
  f : List AutofillTriageFieldResult

def uniqueRoles (fields : List AutofillTriageFieldResult) : List AutofillFieldQualification :=
  ((fields.map (·.q)).filter (· ≠ .ignored)).eraseDups

def scopeFromFields (kind : AutofillCredentialScopeKind) (key : String)
    (fields : List AutofillTriageFieldResult) : Option AutofillCredentialScope :=
  let scopedFields := sortFields fields
  if scopedFields.isEmpty then none
  else some { k := key, kind, fis := scopedFields.map (·.o), rl := uniqueRoles scopedFields, f := scopedFields }

def credentialScopeKey (field : AutofillTriageFieldResult) : String :=
  if field.fo = some field.so then "form:" ++ field.so
  else if field.fo = none && field.co = some field.so then "container:" ++ field.so
  else "physical:" ++ field.so

def fieldScopeMatches (left right : AutofillTriageFieldResult) : Bool := left.so = right.so

/-- The key of the scope with the focused field. -/
def resolveFocusedPhysicalScope (fields : List AutofillTriageFieldResult) : Option String :=
  (fields.find? (·.fs)).map credentialScopeKey

def physicalScope (sortedFields : List AutofillTriageFieldResult) (scopeOpid : String) :
    Option AutofillCredentialScope :=
  let scopeFields := sortedFields.filter fun field => field.so = scopeOpid
  scopeFields.head?.bind fun first =>
    let key := credentialScopeKey first
    let kind := if startsWith key "form:" then .form else if startsWith key "container:" then .container else .physical
    scopeFromFields kind key scopeFields

def resolveCredentialScopes (fields : List AutofillTriageFieldResult) : List AutofillCredentialScope :=
  let sortedFields := sortFields fields
  let scopeOpids := (sortedFields.map (·.so)).eraseDups
  let siteRuleFields := sortedFields.filter fun field => !field.rt.isEmpty
  scopeOpids.filterMap (physicalScope sortedFields)
    ++ (scopeFromFields .siteRule "site-rule:matched" siteRuleFields).toList

end VaultKern.Filling
