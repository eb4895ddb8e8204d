import VaultKern.Extension.FillIntent

/-! # What is filled where

The actions of a plan come from the rules of the site and, where these leave room, from the roles of the fields.
At the end the actions are bound to the elements of the page.
-/

namespace VaultKern.Filling

open Native (includes)
open Browser (isBlank Library)

/-- An element of the page. -/
abbrev Element := Nat

structure PendingAutofillFillAction where
  fi : String
  n : Nat
  ft : AutofillFieldQualification
  v : JsText
  deriving DecidableEq

inductive TargetRoleSource where
  | groupInference | heuristic | siteRule
  deriving DecidableEq

/-- The texts that a field must still have when it is filled. -/
structure TargetSemantics where
  tg : AutofillFieldTag
  hy : Option String
  hn : Option String
  hi : Option String
  hc : Option String
  au : Option String
  im : Option String
  ph : Option String
  ti : Option String
  al : Option String
  ad : Option String
  lt : Option String
  dv : List String
  deriving DecidableEq

structure AutofillFillAction extends PendingAutofillFillAction where
  t : Option Element
  tr : AutofillFieldQualification
  trs : TargetRoleSource
  ts : TargetSemantics
  pg : String
  ag : String
  deriving DecidableEq

structure AutofillFillPlan where
  ac : List AutofillFillAction
  au : Option (String × String) := none
  sr : Option SiteRulePolicy := none
  deriving DecidableEq

inductive FillCapabilityKind where
  | automatic | manual
  deriving DecidableEq

structure FillCapability where
  kind : FillCapabilityKind
  targetUrl : String
  entryId : String
  deriving DecidableEq

def pending (field : AutofillTriageFieldResult) (ft : AutofillFieldQualification) (v : JsText) :
    PendingAutofillFillAction := { fi := field.o, n := field.n, ft, v }

/-! ## Fields -/

def candidateFields (reportFields : List AutofillTriageFieldResult) : List AutofillTriageFieldResult :=
  sortFields (reportFields.filter fun field => field.el && field.vw && field.fl)

def isLoginPasswordRole (field : AutofillTriageFieldResult) : Bool := field.q = .password || field.q = .currentPassword

def isNewPasswordTarget (field : AutofillTriageFieldResult) : Bool := field.q = .newPassword || field.q = .confirmation

def fieldIsInCredentialScope (field : AutofillTriageFieldResult) (scopeKey : String) : Bool :=
  credentialScopeKey field = scopeKey

def fieldsInCredentialScope (fields : List AutofillTriageFieldResult) (scopeKey : String) :
    List AutofillTriageFieldResult := fields.filter fun field => fieldIsInCredentialScope field scopeKey

def inScopeOf (fields : List AutofillTriageFieldResult) (anchor : AutofillTriageFieldResult) :
    List AutofillTriageFieldResult := fields.filter fun field => fieldScopeMatches field anchor

/-- How many fields before a focused password the segment starts: at the user name. -/
def usernameBehind : List AutofillTriageFieldResult → Option Nat
  | [] => none
  | field :: before =>
      if field.q = .username then some 1
      else if isLoginPasswordRole field then none
      else (usernameBehind before).map (· + 1)

/-- How many fields after a focused user name belong to the segment. -/
def passwordsAhead (sawPassword : Bool) : List AutofillTriageFieldResult → Nat
  | [] => 0
  | field :: after =>
      if field.q = .username then 0
      else if isLoginPasswordRole field then passwordsAhead true after + 1
      else if field.q = .totp && sawPassword then passwordsAhead sawPassword after + 1
      else 0

def focusedLoginSegmentFields (fields : List AutofillTriageFieldResult) : List AutofillTriageFieldResult :=
  let sortedFields := sortFields fields
  let focusedIndex := sortedFields.findIdx fun field => field.fs && (field.q = .username || isLoginPasswordRole field)
  match sortedFields[focusedIndex]? with
  | none => fields
  | some focusedField =>
      let after := sortedFields.drop (focusedIndex + 1)
      let segment :=
        if isLoginPasswordRole focusedField then
          let behind := (usernameBehind (sortedFields.take focusedIndex).reverse).getD 0
          (sortedFields.drop (focusedIndex - behind)).take
            (behind + 1 + (after.takeWhile fun field => field.q = .totp).length)
        else (sortedFields.drop focusedIndex).take (1 + passwordsAhead false after)
      if segment.any (fun field => field.q = .username) && segment.any isLoginPasswordRole then segment else fields

/-! ## Site rules -/

def siteRuleFields (reportFields : List AutofillTriageFieldResult) : List AutofillTriageFieldResult :=
  sortFields (reportFields.filter fun field => field.vw && field.fl && !field.rt.isEmpty)

def viewableSiteRuleFields (reportFields : List AutofillTriageFieldResult) (fieldType : AutofillFieldQualification) :
    List AutofillTriageFieldResult :=
  sortFields (reportFields.filter fun field => field.vw && !field.d && field.rt.contains fieldType)

def firstViewableSiteRuleField (reportFields : List AutofillTriageFieldResult)
    (fieldType : AutofillFieldQualification) : Option AutofillTriageFieldResult :=
  (viewableSiteRuleFields reportFields fieldType).head?

def firstFillableSiteRuleField (reportFields : List AutofillTriageFieldResult)
    (fieldType : AutofillFieldQualification) : Option AutofillTriageFieldResult :=
  (siteRuleFields reportFields).find? fun field => field.rt.contains fieldType

/-- What a site rule fills a field of this type with. -/
def siteRuleValue (payload : LoginFillPayload) : AutofillFieldQualification → Option JsText
  | .username => payload.username
  | .password | .currentPassword => payload.password
  | .newPassword => payload.newPassword
  | .totp => payload.totp
  | .confirmation | .ignored => none

def actionForSiteRuleField (field : AutofillTriageFieldResult) (payload : LoginFillPayload)
    (skippedFieldTypes : List AutofillFieldQualification) : Option PendingAutofillFillAction :=
  (field.rt.filter fun fieldType => !skippedFieldTypes.contains fieldType).findSome? fun fieldType =>
    (siteRuleValue payload fieldType).map (pending field fieldType)

def siteRuleScopes (fields : List AutofillTriageFieldResult) (fieldTypes : List AutofillFieldQualification) :
    List String :=
  ((fields.filter fun field => field.rt.any fieldTypes.contains).map credentialScopeKey).eraseDups

def viewableSiteRuleFieldSpansMultipleScopes (reportFields : List AutofillTriageFieldResult)
    (fieldType : AutofillFieldQualification) : Bool :=
  1 < (siteRuleScopes (viewableSiteRuleFields reportFields fieldType) [fieldType]).length

def fillableSiteRuleFieldSpansMultipleScopes (reportFields : List AutofillTriageFieldResult)
    (fieldTypes : List AutofillFieldQualification) : Bool :=
  1 < (siteRuleScopes (siteRuleFields reportFields) fieldTypes).length

/-! ## Fields with one character of a code -/

def isLineTerminator (c : Char) : Bool := c = '\n' || c = '\r' || c.val = 0x2028 || c.val = 0x2029

/-- The text before the final digits, without separators at its end. -/
def splitSequenceKey (library : Library) (value : Option String) : Option String :=
  let text := (library.toLowerCase (value.getD "")).toList
  let stem := (text.reverse.dropWhile Char.isDigit).reverse
  if stem.length = text.length || stem.any isLineTerminator then none
  else
    let key := (stem.reverse.dropWhile isSeparator).reverse
    if key.isEmpty then none else some (String.ofList key)

def isAnonymousOneCharacterField (field : AutofillTriageFieldResult) : Bool :=
  field.vw && field.fl && field.ml = some 1 && field.hn.isNone && field.hi.isNone

section Texts

variable (library : Library)

def splitFieldHintText (field : AutofillTriageFieldResult) : String :=
  joined library
    ([field.hn, field.hi, field.hc, field.au, field.im, field.ph, field.ti, field.al, field.ad, field.lt]
      ++ field.dv.map some)

def hasSplitCodeHint (field : AutofillTriageFieldResult) : Bool :=
  let fieldText := splitFieldHintText library field
  field.q = .totp || field.im = some "numeric" || field.im = some "decimal" || includes fieldText "digit"
    || includes fieldText "code" || includes fieldText "otp" || includes fieldText "totp"

def isOneCharacterField (field : AutofillTriageFieldResult) : Bool :=
  field.vw && field.fl && field.ml = some 1 && hasSplitCodeHint library field

def splitSequenceKeys (field : AutofillTriageFieldResult) : List String :=
  [field.hn, field.hi].filterMap (splitSequenceKey library)

def splitSequenceMatches (seed candidate : AutofillTriageFieldResult) (allowAnonymousFallback : Bool) : Bool :=
  let seedKeys := splitSequenceKeys library seed
  let candidateKeys := splitSequenceKeys library candidate
  if seedKeys.isEmpty then true
  else if candidateKeys.isEmpty then allowAnonymousFallback && isAnonymousOneCharacterField candidate
  else candidateKeys.any seedKeys.contains

def isContiguousSplitField (candidate : AutofillTriageFieldResult) : Bool :=
  isOneCharacterField library candidate || isAnonymousOneCharacterField candidate

def joinsRun (seed candidate : AutofillTriageFieldResult) (allowAnonymousFallback : Bool) : Bool :=
  isContiguousSplitField library candidate && fieldScopeMatches seed candidate
    && splitSequenceMatches library seed candidate allowAnonymousFallback

/-- How far the run goes on behind its end, when it has this length. -/
def runAhead (seed : AutofillTriageFieldResult) (valueLength : Nat) : Nat → List AutofillTriageFieldResult → Nat
  | _, [] => 0
  | length, next :: after =>
      if !(!(splitSequenceKeys library seed).isEmpty && valueLength ≤ length && isAnonymousOneCharacterField next)
          && joinsRun library seed next true then
        runAhead seed valueLength (length + 1) after + 1
      else 0

/-- The fields around the seed that join it, when they are as many as the characters. -/
def pickContiguousOneCharacterFields (fields : List AutofillTriageFieldResult) (seed : AutofillTriageFieldResult)
    (valueLength : Nat) : List AutofillTriageFieldResult :=
  let isOther := fun field : AutofillTriageFieldResult => field.o ≠ seed.o
  match (sortFields fields).dropWhile isOther with
  | [] => []
  | here :: after =>
      let before := (((sortFields fields).takeWhile isOther).reverse.takeWhile fun field =>
        joinsRun library seed field (splitSequenceKeys library seed).isEmpty).reverse
      let splitFields :=
        before ++ here :: after.take (runAhead library seed valueLength (before.length + 1) after)
      if splitFields.length = valueLength then splitFields else []

def pickSplitTotpFields (fields totpFields : List AutofillTriageFieldResult) (valueLength : Nat) :
    List AutofillTriageFieldResult :=
  (((totpFields.filter (isOneCharacterField library)).map fun seed =>
    pickContiguousOneCharacterFields library fields seed valueLength).find? fun splitFields =>
      splitFields.length = valueLength).getD []

/-- A character of the code for each field. -/
def splitActions (splitFields : List AutofillTriageFieldResult) (value : JsText) : List PendingAutofillFillAction :=
  splitFields.mapIdx fun index field => pending field .totp (value[index]?.toList)

def createSplitSiteRuleTotpActions (fields : List AutofillTriageFieldResult) (value : JsText) :
    List PendingAutofillFillAction :=
  let totpFields := sortFields (fields.filter fun field => field.rt.contains .totp)
  let trimmedValue := value.trim
  let splitFields := pickSplitTotpFields library fields totpFields trimmedValue.length
  if splitFields.length ≤ 1 then [] else splitActions splitFields trimmedValue

def pickTotpFields (fields : List AutofillTriageFieldResult) : List AutofillTriageFieldResult :=
  sortFields (fields.filter fun field => field.q = .totp && field.vw && field.fl)

def createTotpActions (fields : List AutofillTriageFieldResult) (value : JsText) : List PendingAutofillFillAction :=
  let totpFields := pickTotpFields fields
  let trimmedValue := value.trim
  let splitFields := pickSplitTotpFields library fields totpFields trimmedValue.length
  if totpFields.isEmpty then []
  else if 1 < splitFields.length then splitActions splitFields trimmedValue
  else match totpFields with
    | [field] => if isOneCharacterField library field then [] else [pending field field.q trimmedValue]
    | _ => []

/-! ## Actions of the site rules -/

/-- Field types that a rule names in several scopes, or several times. -/
def skippedFieldTypes (fields : List AutofillTriageFieldResult) (payload : LoginFillPayload) :
    List AutofillFieldQualification :=
  let currentPasswordRuleFields := fields.filter fun field => field.rt.any fun fieldType =>
    fieldType = .password || fieldType = .currentPassword
  let totpFields := fields.filter fun field => field.rt.contains .totp
  (if 1 < currentPasswordRuleFields.length then [.password, .currentPassword] else [])
    ++ (if 1 < (siteRuleScopes fields [.username]).length then [.username] else [])
    ++ (if 1 < (siteRuleScopes fields [.newPassword]).length then [.newPassword] else [])
    ++ (if payload.totp.isSome && (1 < (siteRuleScopes fields [.totp]).length || 1 < totpFields.length)
      then [.totp] else [])

/-- One more action for each field without one. -/
def addSiteRuleActions (payload : LoginFillPayload) (skipped : List AutofillFieldQualification) :
    List AutofillTriageFieldResult → List PendingAutofillFillAction → List PendingAutofillFillAction
  | [], actions => actions
  | field :: fields, actions =>
      if (actions.map (·.fi)).contains field.o then addSiteRuleActions payload skipped fields actions
      else addSiteRuleActions payload skipped fields
        (actions ++ (actionForSiteRuleField field payload skipped).toList)

def createSiteRuleActions (reportFields : List AutofillTriageFieldResult) (payload : LoginFillPayload) :
    List PendingAutofillFillAction :=
  let fields := siteRuleFields reportFields
  let ambiguousTotpScopes := 1 < (siteRuleScopes fields [.totp]).length
  let totpActions := match payload.totp with
    | some totp => if ambiguousTotpScopes then [] else createSplitSiteRuleTotpActions library fields totp
    | none => []
  addSiteRuleActions payload (skippedFieldTypes fields payload) fields totpActions

end Texts

/-- An action for a field, and but for new passwords for a role, that has none. -/
def appendFallbackAction (primaryFieldTypes : List AutofillFieldQualification)
    (actions : List PendingAutofillFillAction) (action : PendingAutofillFillAction) : List PendingAutofillFillAction :=
  let repeatedFieldType := action.ft = .newPassword || action.ft = .confirmation
  if (actions.map (·.fi)).contains action.fi || (!repeatedFieldType && primaryFieldTypes.contains action.ft) then actions
  else actions ++ [action]

def appendFallbackActions (primaryActions fallbackActions : List PendingAutofillFillAction) :
    List PendingAutofillFillAction :=
  fallbackActions.foldl (appendFallbackAction (primaryActions.map (·.ft))) primaryActions

/-! ## The fields of a login -/

def preferCurrentPasswordField (fields : List AutofillTriageFieldResult) : Option AutofillTriageFieldResult :=
  (fields.find? fun field => field.why.contains "autocomplete:current-password").or fields.head?

def isRegistrationUsernameFallback (field : AutofillTriageFieldResult) (fields : List AutofillTriageFieldResult) : Bool :=
  let scopedFields := inScopeOf fields field
  scopedFields.any isNewPasswordTarget && !scopedFields.any isLoginPasswordRole

def pickPasswordField (fields : List AutofillTriageFieldResult) : Option AutofillTriageFieldResult :=
  preferCurrentPasswordField (fields.filter isLoginPasswordRole)

def fieldHasSiblingNewPassword (field : AutofillTriageFieldResult) (fields : List AutofillTriageFieldResult) : Bool :=
  fields.any fun candidate =>
    isNewPasswordTarget candidate && candidate.o ≠ field.o && fieldScopeMatches candidate field

def fieldHasSiblingUsername (field : AutofillTriageFieldResult) (fields : List AutofillTriageFieldResult) : Bool :=
  fields.any fun candidate => candidate.q = .username && candidate.o ≠ field.o && fieldScopeMatches candidate field

section Texts

variable (library : Library)

def searchableFieldText (field : AutofillTriageFieldResult) : String :=
  joined library
    ([field.hn, field.hi, field.hc, field.au, field.ph, field.ti, field.al, field.lt]
      ++ (field.ct.getD []).map some ++ formParts field)

def formSearchText (formFields : List AutofillTriageFieldResult) : String :=
  String.intercalate "," (formFields.map (searchableFieldText library))

def isCurrentPasswordField (field : AutofillTriageFieldResult) : Bool :=
  let searchableText := searchableFieldText library field
  field.rt.contains .currentPassword || field.why.contains "autocomplete:current-password"
    || field.why.any (fun reason => endsWith reason ":currentPassword")
    || includes searchableText "currentpassword" || includes searchableText "oldpassword"
    || includes searchableText "existingpassword"

def isUnsafeLoginPasswordField (passwordField : AutofillTriageFieldResult)
    (fields : List AutofillTriageFieldResult) : Bool :=
  fieldHasSiblingNewPassword passwordField fields && !isCurrentPasswordField library passwordField
    && !fieldHasSiblingUsername passwordField fields

def isPasswordChangeCurrentPasswordField (passwordField : AutofillTriageFieldResult)
    (fields : List AutofillTriageFieldResult) : Bool :=
  fieldHasSiblingNewPassword passwordField fields && isCurrentPasswordField library passwordField

def pickLoginPasswordField (fields : List AutofillTriageFieldResult) : Option AutofillTriageFieldResult :=
  (pickPasswordField fields).filter fun passwordField => !isUnsafeLoginPasswordField library passwordField fields

def pickFirstSafeLoginPasswordField (fields : List AutofillTriageFieldResult) : Option AutofillTriageFieldResult :=
  let safePasswordFields := fields.filter fun field =>
    isLoginPasswordRole field && !isUnsafeLoginPasswordField library field fields
  (safePasswordFields.find? fun field => !isPasswordChangeCurrentPasswordField library field fields).or
    safePasswordFields.head?

def pickUnscopedPasswordAfterUsername (fields : List AutofillTriageFieldResult)
    (usernameField : AutofillTriageFieldResult) : Option AutofillTriageFieldResult :=
  fields.find? fun field => isLoginPasswordRole field && usernameField.n < field.n && fieldScopeMatches field usernameField

def usernameHintScore (field : AutofillTriageFieldResult) : Nat :=
  let fieldText := joined library
    ([field.hn, field.hi, field.hc, field.au, field.ph, field.ti, field.al, field.lt] ++ field.dv.map some)
  (if field.why.contains "autocomplete:username" then 100 else 0)
    + (if field.why.contains "autocomplete:email" then 80 else 0)
    + (if field.hy = some "email" then 20 else 0)
    + (if includes fieldText "username" || includes fieldText "email" then 10 else 0)
    + (if includes fieldText "login" then 5 else 0)

/-- The field with the highest score, the first one of these. -/
def pickPreferredUsernameField (fields : List AutofillTriageFieldResult) : Option AutofillTriageFieldResult :=
  (fields.insertionSort fun left right =>
    usernameHintScore library right < usernameHintScore library left
      ∨ (usernameHintScore library right = usernameHintScore library left ∧ left.n ≤ right.n)).head?

def pickUsernameField (fields : List AutofillTriageFieldResult) (passwordField : Option AutofillTriageFieldResult) :
    Option AutofillTriageFieldResult :=
  let usernameFields := fields.filter fun field => field.q = .username
  match passwordField with
  | some passwordField => pickPreferredUsernameField library (inScopeOf usernameFields passwordField)
  | none =>
      pickPreferredUsernameField library
        (usernameFields.filter fun field => !isRegistrationUsernameFallback field fields)

def hasScopedPasswordField (fields : List AutofillTriageFieldResult) (usernameField : AutofillTriageFieldResult) : Bool :=
  fields.any fun field => isLoginPasswordRole field && fieldScopeMatches field usernameField

def pickUsernameFirstField (fields : List AutofillTriageFieldResult) : Option AutofillTriageFieldResult :=
  pickPreferredUsernameField library (fields.filter fun field =>
    field.q = .username && !isRegistrationUsernameFallback field fields && !hasScopedPasswordField fields field)

def hasBlockingUsernameFallbackReason (field : AutofillTriageFieldResult) : Bool :=
  field.why.any fun reason => startsWith reason "excluded:" || startsWith reason "non-login:"

def singleStepFieldHasEmailHint (field : AutofillTriageFieldResult) : Bool :=
  includes (joined library
    ([field.hn, field.hi, field.hc, field.ph, field.ti, field.al, field.lt] ++ field.dv.map some)) "email"

def isSingleStepEmailCandidate (field : AutofillTriageFieldResult) : Bool :=
  field.q = .ignored && field.vw && field.fl && field.tg = .input
    && (field.hy = some "email" || (field.hy = some "text" && singleStepFieldHasEmailHint library field))
    && !hasBlockingUsernameFallbackReason field

/-- Where there is no password, the only field for an email address. -/
def pickSingleStepEmailUsernameField (fields : List AutofillTriageFieldResult) : Option AutofillTriageFieldResult :=
  match sortFields (fields.filter (isSingleStepEmailCandidate library)) with
  | [only] => some only
  | _ => none

def pickLoginPasswordFieldInScope (fields : List AutofillTriageFieldResult)
    (anchorField : Option AutofillTriageFieldResult) : Option AutofillTriageFieldResult :=
  anchorField.bind fun anchorField => pickLoginPasswordField library (inScopeOf fields anchorField)

/-! ## Automatic fills -/

/-- The only scope with a credential, when it is a login. -/
def automaticLoginScopeKey (reportFields : List AutofillTriageFieldResult) : Option String :=
  match (resolveCredentialScopes reportFields).filter (fun scope =>
    scope.kind ≠ .siteRule && scope.f.any fun field => field.q ≠ .ignored || !field.rt.isEmpty) with
  | [scope] => if provesAutomaticLoginIntent library scope then some scope.k else none
  | _ => none

def automaticFillUrlAllowed (value : String) : Bool :=
  (library.newUrl value).any fun url =>
    url.protocol = "https:" || (url.protocol = "http:" && url.hostname ∈ ["localhost", "127.0.0.1", "[::1]"])

/-- The scope that an automatic fill must lie in; `none` where it must not be made. -/
def strictPageLoadScopeKey (reportFields : List AutofillTriageFieldResult) (payload : LoginFillPayload)
    (capability : FillCapability) : Option String :=
  if automaticFillUrlAllowed library capability.targetUrl && payload.username.isSome && payload.password.isSome
      && payload.newPassword.isNone && payload.totp.isNone then
    automaticLoginScopeKey library reportFields
  else none

/-! ## New passwords -/

def formHasAny (formFields : List AutofillTriageFieldResult) (keywords : List String) : Bool :=
  let searchableText := formSearchText library formFields
  keywords.any fun keyword => includes searchableText keyword

def formHasResetPasswordContext (formFields : List AutofillTriageFieldResult) : Bool :=
  formHasAny library formFields ["resetpassword", "changepassword", "updatepassword", "forgotpassword"]

def formHasRegistrationContext (formFields : List AutofillTriageFieldResult) : Bool :=
  formHasAny library formFields registrationKeywords

def formHasChangePasswordContext (formFields : List AutofillTriageFieldResult) : Bool :=
  formHasAny library formFields changePasswordKeywords

def formHasExplicitChangePasswordContext (formFields : List AutofillTriageFieldResult) : Bool :=
  formHasAny library formFields explicitChangePasswordKeywords

def pickCurrentPasswordField (formFields : List AutofillTriageFieldResult) : Option AutofillTriageFieldResult :=
  (formFields.filter isLoginPasswordRole).find? (isCurrentPasswordField library)

def fieldsQualifyForPasswordChange (fields : List AutofillTriageFieldResult) (scopeKey : String) : Bool :=
  let formFields := fieldsInCredentialScope fields scopeKey
  let formNewPasswordFields := formFields.filter fun field => field.q = .newPassword
  let inContainer := startsWith scopeKey "container:"
  match pickCurrentPasswordField library formFields with
  | none => false
  | some currentPasswordField =>
      !formNewPasswordFields.isEmpty
        && !(inContainer
          && (formFields.filter fun field => isLoginPasswordRole field || isNewPasswordTarget field).length < 3)
        && (if inContainer then formHasExplicitChangePasswordContext library formFields
          else (currentPasswordField.why.contains "autocomplete:current-password"
              || currentPasswordField.rt.contains .currentPassword)
            && formNewPasswordFields.any (fun field => field.why.contains "autocomplete:new-password")
            || formHasChangePasswordContext library formFields)

def fieldsHaveCredentialCandidate (fields : List AutofillTriageFieldResult) (scopeKey : String) : Bool :=
  fields.any fun field => fieldIsInCredentialScope field scopeKey
    && (field.q = .username || isLoginPasswordRole field || isNewPasswordTarget field)

def newPasswordScopeKeys (fields : List AutofillTriageFieldResult) : List String :=
  ((fields.filter fun field => field.q = .newPassword).map credentialScopeKey).eraseDups

def pickPasswordChangeScopeKey (fields allFields : List AutofillTriageFieldResult) : Option String :=
  let scopeKeys := newPasswordScopeKeys fields
  let unfocused := scopeKeys.find? (fieldsQualifyForPasswordChange library fields)
  match (allFields.find? (·.fs)).map credentialScopeKey with
  | none => unfocused
  | some focusedScopeKey =>
      if scopeKeys.contains focusedScopeKey then
        if fieldsQualifyForPasswordChange library fields focusedScopeKey then some focusedScopeKey else none
      else if fieldsHaveCredentialCandidate fields focusedScopeKey then none
      else unfocused

def firstUsername (fields : List AutofillTriageFieldResult) (payload : LoginFillPayload) :
    List PendingAutofillFillAction :=
  match payload.username, fields.find? (fun field => field.q = .username) with
  | some username, some usernameField => [pending usernameField usernameField.q username]
  | _, _ => []

def newPasswordActions (fields : List AutofillTriageFieldResult) (newPassword : Option JsText) :
    List PendingAutofillFillAction :=
  match newPassword with
  | some newPassword => (fields.filter isNewPasswordTarget).map fun field => pending field field.q newPassword
  | none => []

def createPasswordChangeActions (fields : List AutofillTriageFieldResult) (scopeKey : String)
    (payload : LoginFillPayload) : List PendingAutofillFillAction :=
  let formFields := fieldsInCredentialScope fields scopeKey
  let currentPassword := match pickCurrentPasswordField library formFields, payload.password with
    | some currentPasswordField, some password => [pending currentPasswordField currentPasswordField.q password]
    | _, _ => []
  firstUsername formFields payload ++ currentPassword
    ++ (if fieldsQualifyForPasswordChange library fields scopeKey then newPasswordActions formFields payload.newPassword
      else [])

def hasCredentialSignal (field : AutofillTriageFieldResult) : Bool :=
  let searchableText := searchableFieldText library field
  let autocomplete := field.au.getD ""
  field.hy = some "email" || field.hy = some "password"
    || ["username", "email", "current-password", "new-password"].any (fun keyword => includes autocomplete keyword)
    || ["email", "username", "login", "password"].any fun keyword => includes searchableText keyword

def fieldsHaveCurrentPassword (fields : List AutofillTriageFieldResult) (scopeKey : String) : Bool :=
  fields.any fun field => fieldIsInCredentialScope field scopeKey && isLoginPasswordRole field
    && isCurrentPasswordField library field

def fieldsHaveCredentialSignal (fields : List AutofillTriageFieldResult) (scopeKey : String) : Bool :=
  fields.any fun field => fieldIsInCredentialScope field scopeKey && hasCredentialSignal library field

def fieldsHaveNewsletterExclusion (fields : List AutofillTriageFieldResult) (scopeKey : String) : Bool :=
  fields.any fun field => fieldIsInCredentialScope field scopeKey
    && (field.why.contains "non-login:newsletter"
      || ["newsletter", "subscribe", "subscription", "unsubscribe", "mailinglist"].any fun keyword =>
        includes (searchableFieldText library field) keyword)

def unfocusedRegistrationScopeKeys (fields : List AutofillTriageFieldResult) (allowSingleNewPassword : Bool) :
    List String :=
  if fields.any isLoginPasswordRole then []
  else (newPasswordScopeKeys fields).filter fun scopeKey =>
    let formFields := fieldsInCredentialScope fields scopeKey
    let newPasswordCount := (formFields.filter isNewPasswordTarget).length
    !fieldsHaveCurrentPassword library fields scopeKey && !formHasResetPasswordContext library formFields
      && formHasRegistrationContext library formFields && !(newPasswordCount < 2 && !allowSingleNewPassword)

def ambiguousNewPasswordFallbackSpansMultipleScopes (fields : List AutofillTriageFieldResult)
    (payload : LoginFillPayload) : Bool :=
  let changes := if payload.password.isSome && payload.newPassword.isSome then
      (newPasswordScopeKeys fields).filter (fieldsQualifyForPasswordChange library fields)
    else []
  let registrations := if payload.password.isSome || payload.newPassword.isSome then
      unfocusedRegistrationScopeKeys library fields payload.newPassword.isSome
    else []
  1 < (changes ++ registrations).eraseDups.length

def pickRegistrationScopeKey (fields allFields : List AutofillTriageFieldResult) (allowSingleNewPassword : Bool) :
    Option String :=
  let newPasswordFields := fields.filter fun field => field.q = .newPassword
  let unfocused := (unfocusedRegistrationScopeKeys library fields allowSingleNewPassword).head?
  if newPasswordFields.isEmpty then none
  else match (allFields.find? (·.fs)).map credentialScopeKey with
  | none => unfocused
  | some focusedScopeKey =>
      if newPasswordFields.any (fieldIsInCredentialScope · focusedScopeKey)
          && !fieldsHaveCurrentPassword library fields focusedScopeKey then
        if formHasResetPasswordContext library (fieldsInCredentialScope fields focusedScopeKey) then none
        else some focusedScopeKey
      else if fieldsHaveCredentialCandidate fields focusedScopeKey then none
      else if !fieldsHaveNewsletterExclusion library allFields focusedScopeKey
          && fieldsHaveCredentialSignal library allFields focusedScopeKey then none
      else unfocused

def createRegistrationActions (fields : List AutofillTriageFieldResult) (scopeKey : String)
    (payload : LoginFillPayload) : List PendingAutofillFillAction :=
  let formFields := fieldsInCredentialScope fields scopeKey
  firstUsername formFields payload ++ newPasswordActions formFields (payload.newPassword.or payload.password)

def createPasswordResetActions (fields : List AutofillTriageFieldResult) (scopeKey : String)
    (payload : LoginFillPayload) : List PendingAutofillFillAction :=
  newPasswordActions (fieldsInCredentialScope fields scopeKey) payload.newPassword

/-! ## Binding -/

def roleCategoryForBinding : AutofillFieldQualification → AutofillFieldQualification
  | .currentPassword => .password
  | .confirmation => .newPassword
  | role => role

def semanticsOf (field : AutofillTriageFieldResult) : TargetSemantics :=
  { tg := field.tg, hy := field.hy, hn := field.hn, hi := field.hi, hc := field.hc, au := field.au, im := field.im,
    ph := field.ph, ti := field.ti, al := field.al, ad := field.ad, lt := field.lt, dv := field.dv }

/-- Actions with their fields; the last field of an id stands in the map. -/
def resolvedActions (reportFields : List AutofillTriageFieldResult) (actions : List PendingAutofillFillAction) :
    List (PendingAutofillFillAction × AutofillTriageFieldResult) :=
  actions.filterMap fun action =>
    ((reportFields.reverse.find? fun field => field.o = action.fi).filter fun _ => action.ft ≠ .ignored).map (action, ·)

def boundAction (physicalField : String → Option Element) (action : PendingAutofillFillAction)
    (field : AutofillTriageFieldResult) : AutofillFillAction :=
  { action with
    t := physicalField action.fi
    tr := action.ft
    trs := if field.rt.contains action.ft then .siteRule
      else if roleCategoryForBinding field.q = roleCategoryForBinding action.ft then .heuristic
      else .groupInference
    ts := semanticsOf field
    pg := credentialScopeKey field
    ag := "credential-transaction" }

def bindFillActions (physicalField : String → Option Element) (sr : Option SiteRulePolicy)
    (reportFields : List AutofillTriageFieldResult) (actions : List PendingAutofillFillAction) : AutofillFillPlan :=
  let resolved := resolvedActions reportFields actions
  if 1 < (resolved.map fun (_, field) => credentialScopeKey field).eraseDups.length then { ac := [], sr }
  else { ac := resolved.map fun (action, field) => boundAction physicalField action field, sr }

def completeAutomaticLoginPlan (plan : AutofillFillPlan) (expectedScopeKey : String) (targetUrl : String) :
    AutofillFillPlan :=
  let usernameActions := plan.ac.filter fun action => action.tr = .username
  let passwordActions := plan.ac.filter fun action => action.tr = .password || action.tr = .currentPassword
  let complete := match usernameActions, passwordActions with
    | [username], [password] =>
        plan.ac.length = 2 && username.t.isSome && password.t.isSome && username.fi ≠ password.fi
          && username.t ≠ password.t && username.pg = expectedScopeKey && password.pg = expectedScopeKey
    | _, _ => false
  if complete then { plan with au := some (targetUrl, expectedScopeKey) } else { ac := [], sr := plan.sr }

/-! ## The plan -/

def fieldForAction (fields : List AutofillTriageFieldResult) (action : Option PendingAutofillFillAction) :
    Option AutofillTriageFieldResult := action.bind fun action => fields.find? fun field => field.o = action.fi

/-- What the site rules say, in the focused scope where there is one. -/
structure SiteRuleChoice where
  actions : List PendingAutofillFillAction
  passwordField : Option AutofillTriageFieldResult
  passwordChangeField : Option AutofillTriageFieldResult
  usernameField : Option AutofillTriageFieldResult
  totpField : Option AutofillTriageFieldResult

def siteRuleChoice (reportFields : List AutofillTriageFieldResult) (payload : LoginFillPayload)
    (focusedScopeKey : Option String) : SiteRuleChoice :=
  let inFocusedScope := fun field => focusedScopeKey.all (fieldIsInCredentialScope field)
  let actions := (createSiteRuleActions library reportFields payload).filter fun action =>
    focusedScopeKey.all fun key => (fieldForAction reportFields (some action)).any (fieldIsInCredentialScope · key)
  let fieldOf := fun roles : List AutofillFieldQualification =>
    fieldForAction reportFields (actions.find? fun action => roles.contains action.ft)
  { actions
    passwordField := fieldOf [.password, .currentPassword]
    passwordChangeField := fieldOf [.currentPassword, .newPassword]
    usernameField := ((fieldOf [.username]).or
      (if viewableSiteRuleFieldSpansMultipleScopes reportFields .username then none
        else firstViewableSiteRuleField reportFields .username)).filter inFocusedScope
    totpField := ((fieldOf [.totp]).or
      (if viewableSiteRuleFieldSpansMultipleScopes reportFields .totp then none
        else firstFillableSiteRuleField reportFields .totp)).filter inFocusedScope }

def SiteRuleChoice.anchorScopeKey (choice : SiteRuleChoice) : Option String :=
  (((choice.passwordField.or choice.usernameField).or choice.passwordChangeField).or choice.totpField).map
    credentialScopeKey

def totpActionsIn (fields : List AutofillTriageFieldResult) (payload : LoginFillPayload) :
    List PendingAutofillFillAction := (payload.totp.map (createTotpActions library fields)).getD []

/-- The actions for the fields of a login, `allFields` with those that are not for filling. -/
def loginActions (choice : SiteRuleChoice) (fields allFields totpFields : List AutofillTriageFieldResult)
    (payload : LoginFillPayload) : List PendingAutofillFillAction :=
  let initialPasswordField := if payload.password.isSome then
      (choice.passwordField.or (pickLoginPasswordFieldInScope library fields choice.usernameField)).or
        (pickFirstSafeLoginPasswordField library fields)
    else none
  let usernameField := if payload.username.isSome && choice.usernameField.isNone then
      ((pickUsernameField library fields initialPasswordField).or (pickUsernameFirstField library fields)).or
        (pickSingleStepEmailUsernameField library allFields)
    else none
  let passwordField := if payload.password.isSome then
      choice.passwordField.or (match usernameField.or choice.usernameField with
        | some anchor =>
            ((pickLoginPasswordFieldInScope library fields (some anchor)).or
              (pickLoginPasswordField library (inScopeOf fields anchor))).or
              (pickUnscopedPasswordAfterUsername fields anchor)
        | none => pickFirstSafeLoginPasswordField library fields)
    else none
  let usernameAction := match usernameField, payload.username with
    | some field, some username => [pending field (if field.q = .ignored then .username else field.q) username]
    | _, _ => []
  let passwordAction := match passwordField, payload.password with
    | some field, some password => [pending field field.q password]
    | _, _ => []
  usernameAction ++ passwordAction ++ totpActionsIn library totpFields payload

/-- The actions before they are bound. -/
def plannedActions (reportFields : List AutofillTriageFieldResult) (payload : LoginFillPayload)
    (intent : AutofillIntentPlan) : List PendingAutofillFillAction :=
  let intentScopeKey := intent.sk.filter fun key => !startsWith key "site-rule:"
  let intentUsesFocusedScope := intent.why.any (startsWith · "focused-")
  let fields := candidateFields reportFields
  let ambiguousNewPasswordFallback := fillableSiteRuleFieldSpansMultipleScopes reportFields [.newPassword]
    && ambiguousNewPasswordFallbackSpansMultipleScopes library fields payload
  let ambiguousCredentialSiteRule :=
    fillableSiteRuleFieldSpansMultipleScopes reportFields [.password, .currentPassword]
      || viewableSiteRuleFieldSpansMultipleScopes reportFields .username || ambiguousNewPasswordFallback
      || viewableSiteRuleFieldSpansMultipleScopes reportFields .totp
  let choice := siteRuleChoice library reportFields payload (if intentUsesFocusedScope then intentScopeKey else none)
  let passwordChangeFieldKey := choice.passwordChangeField.map credentialScopeKey
  let shouldUseResolvedScope := choice.anchorScopeKey.isSome
    || intent.kind ∈ [.login, .usernameStep, .totpStep, .registration, .passwordChange, .passwordReset]
  let primaryScopeKey := choice.anchorScopeKey.or intentScopeKey
  if ambiguousCredentialSiteRule && choice.anchorScopeKey.isNone && !intentUsesFocusedScope then choice.actions
  else
    let resolved := fun fields => match primaryScopeKey with
      | some key => if shouldUseResolvedScope then fieldsInCredentialScope fields key else fields
      | none => fields
    let segment := fun fields =>
      if intent.kind = .login && intentUsesFocusedScope then focusedLoginSegmentFields fields else fields
    let intentAllFields := segment (resolved reportFields)
    let inPasswordChange := fun fields => passwordChangeFieldKey.elim fields (fieldsInCredentialScope fields)
    let passwordChangeScopeKey := if intent.kind = .passwordChange then
        (passwordChangeFieldKey.or intentScopeKey).or
          (if payload.password.isSome && payload.newPassword.isSome then
            pickPasswordChangeScopeKey library (inPasswordChange fields) (inPasswordChange reportFields) else none)
      else none
    let registrationScopeKey := if intent.kind = .registration then
        intentScopeKey.or (if payload.password.isSome || payload.newPassword.isSome then
          pickRegistrationScopeKey library fields reportFields payload.newPassword.isSome else none)
      else none
    let passwordResetScopeKey := if intent.kind = .passwordReset then intentScopeKey else none
    match passwordChangeScopeKey, registrationScopeKey, passwordResetScopeKey with
    | some key, _, _ =>
        appendFallbackActions
          (appendFallbackActions choice.actions (createPasswordChangeActions library fields key payload))
          (totpActionsIn library (fieldsInCredentialScope reportFields key) payload)
    | none, some key, _ =>
        appendFallbackActions (appendFallbackActions choice.actions (createRegistrationActions fields key payload))
          (totpActionsIn library (fieldsInCredentialScope reportFields key) payload)
    | none, none, some key => appendFallbackActions choice.actions (createPasswordResetActions fields key payload)
    | none, none, none =>
        appendFallbackActions choice.actions
          (loginActions library choice (segment (resolved fields)) intentAllFields
            (if shouldUseResolvedScope && primaryScopeKey.isSome then intentAllFields else reportFields) payload)

/-- The capability is one that was issued. -/
def createLoginFillPlan (qualifyAutofillField : Qualify)
    (physicalFieldForSnapshot : AutofillPageSnapshot → String → Option Element) (snapshot : AutofillPageSnapshot)
    (payload : LoginFillPayload) (authorization : Option FillCapability) : AutofillFillPlan :=
  match authorization with
  | none => { ac := [] }
  | some capability =>
      let reportFields := triageAutofillPage qualifyAutofillField snapshot
      let plan := bindFillActions (physicalFieldForSnapshot snapshot) snapshot.sr reportFields
        (plannedActions library reportFields payload (resolveAutofillIntent library reportFields payload))
      let kind := (resolveAutofillIntent library reportFields payload).kind
      if snapshot.url.any (· ≠ capability.targetUrl) || snapshot.sr.any (·.d)
          || kind = .ambiguous || kind = .nonCredential then { ac := [] }
      else match capability.kind with
        | .manual => plan
        | .automatic =>
            match strictPageLoadScopeKey library reportFields payload capability with
            | none => { ac := [] }
            | some key => completeAutomaticLoginPlan plan key capability.targetUrl

end Texts

end VaultKern.Filling
