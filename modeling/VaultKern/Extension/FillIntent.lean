import VaultKern.Extension.PageFields

/-! # What a page asks for

From the scopes of a page and the payload at hand the content script decides what is to be filled. A focused
field settles the scope; else a single scope must fit.
-/

namespace VaultKern.Filling

open Native (includes)
open Browser (isBlank Library)

/-! ## Keywords -/

def registrationKeywords : List String :=
  ["register", "signup", "createaccount", "createyouraccount", "createanaccount", "createpassword", "join"]

def resetKeywords : List String := ["forgotpassword", "resetpassword", "passwordreset", "recoverpassword"]

def loginKeywords : List String := ["login", "signin", "signon", "logon", "authenticate", "authentication"]

def automaticLoginRejectionKeywords : List String :=
  ["settings", "accountmanagement", "manageaccount", "manageprofile", "update", "accountsettings",
    "securitysettings", "profilesettings", "confirmaccount", "accountconfirmation", "confirmation", "confirmemail",
    "emailconfirmation", "verifyaccount", "verifyemail", "register", "registration", "signup", "createaccount",
    "createyouraccount", "createanaccount", "resetpassword", "passwordreset", "forgotpassword", "recoverpassword",
    "changepassword", "updatepassword", "changeemail", "updateemail"]

def changePasswordKeywords : List String :=
  ["changepassword", "updatepassword", "resetpassword", "currentpassword", "oldpassword", "existingpassword"]

def explicitChangePasswordKeywords : List String :=
  ["changepassword", "updatepassword", "resetpassword", "forgotpassword"]

/-! ## Payloads and plans -/

/-- `LoginFillPayload` and `AutofillFillPayload`. -/
structure LoginFillPayload where
  username : Option JsText := none
  password : Option JsText := none
  newPassword : Option JsText := none
  totp : Option JsText := none
  deriving DecidableEq

inductive AutofillIntentKind where
  | login | usernameStep | totpStep | registration | passwordChange | passwordReset | nonCredential | ambiguous
  deriving DecidableEq

structure AutofillIntentPlan where
  kind : AutofillIntentKind
  sk : Option String
  fis : List String
  why : List String
  deriving DecidableEq

/-! ## Texts of a scope -/

def hasRole (scope : AutofillCredentialScope) (role : AutofillFieldQualification) : Bool := scope.rl.contains role

def formParts (field : AutofillTriageFieldResult) : List (Option String) :=
  [field.fc.bind (·.hi), field.fc.bind (·.hn), field.fc.bind (·.hc), field.fc.bind (·.ha), field.fc.bind (·.al)]
    ++ ((field.fc.map (·.ht)).getD []).map some

/-- The form may send what it is given somewhere else. -/
def hasUnsafeEgress (field : AutofillTriageFieldResult) : Bool := field.fc.any fun form => form.x = some false

section Texts

variable (library : Library)

def fieldSearchText (field : AutofillTriageFieldResult) : String :=
  joined library
    ([field.hy, field.hn, field.hi, field.hc, field.au, field.ph, field.ti, field.al, field.lt]
      ++ field.dv.map some ++ (field.ct.getD []).map some ++ formParts field)

def fieldRoleEvidenceText (field : AutofillTriageFieldResult) : String :=
  joined library ([field.hn, field.hi, field.hc, field.ph, field.ti, field.al, field.lt] ++ field.dv.map some)

/-- The words between white space. -/
def autocompleteTokens (field : AutofillTriageFieldResult) : List String :=
  (((library.toLowerCase (field.au.getD "")).toList.splitOnP isBlank).filter (· ≠ [])).map String.ofList

def fieldHasRawNewOrConfirmationEvidence (field : AutofillTriageFieldResult) : Bool :=
  let text := fieldRoleEvidenceText library field
  (autocompleteTokens library field).contains "new-password" || field.rt.contains .newPassword
    || ["newpassword", "createpassword", "confirmpassword", "passwordconfirm", "passwordconfirmation",
      "repeatpassword", "verifypassword"].any fun keyword => includes text keyword

def scopeSearchText (scope : AutofillCredentialScope) : String :=
  String.intercalate "," (scope.f.map (fieldSearchText library))

def automaticContextText (scope : AutofillCredentialScope) : String :=
  joined library (scope.f.flatMap fun field => (field.ct.getD []).map some ++ formParts field)

def scopeHasAnyKeyword (scope : AutofillCredentialScope) (keywords : List String) : Bool :=
  let text := scopeSearchText library scope
  keywords.any fun keyword => includes text keyword

def fieldLooksCurrentPassword (field : AutofillTriageFieldResult) : Bool :=
  let text := fieldSearchText library field
  field.q = .currentPassword || field.rt.contains .currentPassword
    || field.why.contains "autocomplete:current-password"
    || field.why.any (fun reason => endsWith reason ":currentPassword")
    || includes text "currentpassword" || includes text "oldpassword" || includes text "existingpassword"

/-! ## Automatic login -/

def isAutomaticFillTarget (field : AutofillTriageFieldResult) : Bool := field.el && field.vw && field.fl

def hasUsernameSiteRule (field : AutofillTriageFieldResult) : Bool := field.rt.contains .username

def hasPasswordSiteRule (field : AutofillTriageFieldResult) : Bool :=
  field.rt.contains .password || field.rt.contains .currentPassword

def provesAutomaticLoginIntent (scope : AutofillCredentialScope) : Bool :=
  let usernameFields := scope.f.filter fun field =>
    isAutomaticFillTarget field && (field.q = .username || field.rt.contains .username)
  let currentPasswordFields := scope.f.filter fun field =>
    isAutomaticFillTarget field && (field.q = .password || field.q = .currentPassword)
      && (fieldLooksCurrentPassword library field || hasPasswordSiteRule field)
  match usernameFields, currentPasswordFields with
  | [username], [password] =>
      let contextText := automaticContextText library scope
      !scope.f.any hasUnsafeEgress && username.o ≠ password.o
        && !scope.f.any (fun field => field.q = .newPassword || field.q = .totp || field.rt.contains .newPassword
          || field.rt.contains .totp || fieldHasRawNewOrConfirmationEvidence library field)
        && !scopeHasAnyKeyword library scope automaticLoginRejectionKeywords
        && (hasUsernameSiteRule username && hasPasswordSiteRule password
          || loginKeywords.any fun keyword => includes contextText keyword)
  | _, _ => false

/-! ## What a scope qualifies for -/

def scopeHasPassword (scope : AutofillCredentialScope) : Bool := hasRole scope .password || hasRole scope .currentPassword

def scopeHasCurrentPassword (scope : AutofillCredentialScope) : Bool :=
  scope.f.any fun field =>
    (field.q = .password || field.q = .currentPassword) && fieldLooksCurrentPassword library field

def scopeHasNewPassword (scope : AutofillCredentialScope) : Bool := hasRole scope .newPassword

def scopeHasNewPasswordTarget (scope : AutofillCredentialScope) : Bool :=
  scopeHasNewPassword scope || hasRole scope .confirmation

def scopeHasCredentialCandidate (scope : AutofillCredentialScope) : Bool :=
  scope.rl.any fun role => role ∈ [.username, .password, .currentPassword, .newPassword, .confirmation, .totp]

def scopePasswordFieldCount (scope : AutofillCredentialScope) : Nat :=
  (scope.f.filter fun field => field.q ∈ [.password, .currentPassword, .newPassword, .confirmation]).length

def scopeNewPasswordTargetCount (scope : AutofillCredentialScope) : Nat :=
  (scope.f.filter fun field => field.q ∈ [.newPassword, .confirmation]).length

def scopeQualifiesForLogin (scope : AutofillCredentialScope) : Bool :=
  if scopeHasNewPasswordTarget scope then
    hasRole scope .username && scopeHasPassword scope && scopeHasAnyKeyword library scope loginKeywords
      && !hasRole scope .confirmation && !scopeHasAnyKeyword library scope changePasswordKeywords
      && !scopeHasAnyKeyword library scope resetKeywords
  else hasRole scope .username && scopeHasPassword scope

def scopeQualifiesForPasswordStep (scope : AutofillCredentialScope) : Bool :=
  scopeHasPassword scope && !hasRole scope .username && !scopeHasNewPasswordTarget scope
    && !scopeHasAnyKeyword library scope ["settings"]

def scopeQualifiesForUsernameFirst (scope : AutofillCredentialScope) : Bool :=
  hasRole scope .username && !scopeHasPassword scope && !scopeHasNewPasswordTarget scope
    && !scopeHasAnyKeyword library scope registrationKeywords

def scopeQualifiesForAnyLoginStep (scope : AutofillCredentialScope) : Bool :=
  scopeQualifiesForLogin library scope || scopeQualifiesForUsernameFirst library scope
    || scopeQualifiesForPasswordStep library scope

def scopeQualifiesForPasswordChange (scope : AutofillCredentialScope) : Bool :=
  let hasAutocompleteRoles :=
    scope.f.any (fun field => fieldLooksCurrentPassword library field
      && (field.why.contains "autocomplete:current-password" || field.rt.contains .currentPassword))
    && scope.f.any (fun field => field.q = .newPassword
      && (field.why.contains "autocomplete:new-password" || field.rt.contains .newPassword))
  scopeHasCurrentPassword library scope && scopeHasNewPassword scope
    && !(scope.kind = .container && scopePasswordFieldCount scope < 3)
    && (if scope.kind = .container then scopeHasAnyKeyword library scope explicitChangePasswordKeywords
      else hasAutocompleteRoles || scopeHasAnyKeyword library scope changePasswordKeywords)

def scopeHasProvenPasswordChangeRoles (scope : AutofillCredentialScope) : Bool :=
  scopeHasCurrentPassword library scope && scopeHasNewPassword scope

def scopeQualifiesForRegistration (allowSingleNewPassword allowWeakContext : Bool)
    (scope : AutofillCredentialScope) : Bool :=
  scopeHasNewPassword scope && !scopeHasPassword scope && !scopeHasAnyKeyword library scope resetKeywords
    && (scopeHasAnyKeyword library scope registrationKeywords || allowWeakContext)
    && (allowSingleNewPassword || 2 ≤ scopeNewPasswordTargetCount scope)

def scopeQualifiesForPasswordReset (scope : AutofillCredentialScope) : Bool :=
  scopeHasNewPassword scope && !scopeHasCurrentPassword library scope && scopeHasAnyKeyword library scope resetKeywords

def matchingPhysicalScopes (scopes : List AutofillCredentialScope) (predicate : AutofillCredentialScope → Bool) :
    List AutofillCredentialScope :=
  scopes.filter fun scope => scope.kind ≠ .siteRule && predicate scope

/-! ## Intents -/

/-- `plan`. -/
def intentPlan (kind : AutofillIntentKind) (scope : Option AutofillCredentialScope) (reason : String) :
    AutofillIntentPlan :=
  { kind, sk := scope.map (·.k), fis := (scope.map (·.fis)).getD [], why := [reason] }

def resolveSingleUnfocusedScope (scopes : List AutofillCredentialScope)
    (predicate : AutofillCredentialScope → Bool) (kind : AutofillIntentKind) (reason : String) :
    Option AutofillIntentPlan :=
  match matchingPhysicalScopes scopes predicate with
  | [] => none
  | [only] => some (intentPlan kind (some only) reason)
  | _ :: _ :: _ => some (intentPlan .ambiguous none ("multiple-" ++ reason))

def scopeHasUsableSiteRuleAnchor (scope : AutofillCredentialScope) : Bool :=
  scope.f.any fun field =>
    field.vw && field.rt.any fun fieldType => if fieldType = .username then !field.d else field.fl

def uniqueSiteRuleBoundScope (scopes : List AutofillCredentialScope) : Option AutofillCredentialScope :=
  match matchingPhysicalScopes scopes scopeHasUsableSiteRuleAnchor with
  | [only] => some only
  | _ => none

/-- With the scope of the focused field. -/
def focusedIntent (focused : AutofillCredentialScope) (payload : LoginFillPayload) : AutofillIntentPlan :=
  let hasUsername := payload.username.isSome
  let hasPassword := payload.password.isSome
  let hasNewPassword := payload.newPassword.isSome
  let plan := fun kind reason => intentPlan kind (some focused) reason
  if hasNewPassword && scopeQualifiesForPasswordReset library focused then
    plan .passwordReset "focused-scope-has-password-reset"
  else if hasPassword && scopeHasProvenPasswordChangeRoles library focused
      && (!hasNewPassword || scopeQualifiesForPasswordChange library focused) then
    plan .passwordChange "focused-scope-has-current-and-new-password"
  else if (hasPassword || hasNewPassword) && scopeQualifiesForRegistration library true true focused then
    plan .registration "focused-scope-has-registration-password"
  else if hasUsername && hasPassword && scopeQualifiesForLogin library focused then
    plan .login "focused-scope-has-username-and-password"
  else if payload.totp.isSome && hasRole focused .totp then plan .totpStep "focused-scope-has-totp"
  else if hasUsername && hasRole focused .username && !scopeHasPassword focused then
    plan .usernameStep "focused-scope-has-username"
  else if hasPassword && scopeQualifiesForPasswordStep library focused then
    plan .login "focused-scope-has-password"
  else if hasPassword && (focused.f.find? (·.fs)).any (fun field =>
      (field.q = .password || field.q = .currentPassword) && fieldLooksCurrentPassword library field) then
    plan .login "focused-current-password-is-fillable"
  else if scopeHasCredentialCandidate focused then plan .ambiguous "focused-credential-scope-is-incompatible"
  else plan .nonCredential "focused-physical-scope-is-ineligible"

def isCompatibleScope (payload : LoginFillPayload) (scope : AutofillCredentialScope) : Bool :=
  let hasUsername := payload.username.isSome
  let hasPassword := payload.password.isSome
  let hasNewPassword := payload.newPassword.isSome
  hasNewPassword && scopeQualifiesForPasswordReset library scope
    || hasPassword && hasNewPassword && scopeHasProvenPasswordChangeRoles library scope
      && scopeQualifiesForPasswordChange library scope
    || hasUsername && hasPassword && scopeQualifiesForAnyLoginStep library scope
    || hasUsername && hasPassword && scopeQualifiesForRegistration library false false scope
    || hasNewPassword && scopeQualifiesForRegistration library true false scope
    || payload.totp.isSome && hasRole scope .totp
    || hasUsername && hasRole scope .username && !scopeHasNewPasswordTarget scope
      && !scopeHasAnyKeyword library scope registrationKeywords
    || hasPassword && (scopeQualifiesForPasswordStep library scope || scopeHasProvenPasswordChangeRoles library scope)

/-- The scopes for a username and a password. -/
def loginStepIntent (scopes : List AutofillCredentialScope) : Option AutofillIntentPlan :=
  match matchingPhysicalScopes scopes (scopeQualifiesForAnyLoginStep library) with
  | [] => none
  | [only] =>
      if scopeQualifiesForLogin library only then
        some (intentPlan .login (some only) "scope-has-username-and-password")
      else if scopeQualifiesForUsernameFirst library only then
        some (intentPlan .usernameStep (some only) "scope-has-username")
      else if scopeQualifiesForPasswordStep library only then
        some (intentPlan .login (some only) "scope-has-password")
      else none
  | _ :: _ :: _ => some (intentPlan .ambiguous none "multiple-compatible-login-step-scopes")

def given (present : Bool) (plan : Option AutofillIntentPlan) : Option AutofillIntentPlan :=
  if present then plan else none

/-- The first rule that applies, where no field has the focus. -/
def unfocusedIntent (scopes : List AutofillCredentialScope) (payload : LoginFillPayload) : AutofillIntentPlan :=
  let hasUsername := payload.username.isSome
  let hasPassword := payload.password.isSome
  let hasNewPassword := payload.newPassword.isSome
  let unfocusedScopes := (uniqueSiteRuleBoundScope scopes).elim scopes fun scope => [scope]
  if 1 < (matchingPhysicalScopes unfocusedScopes (isCompatibleScope library payload)).length then
    intentPlan .ambiguous none "multiple-compatible-physical-scopes"
  else
    ([given hasNewPassword (resolveSingleUnfocusedScope unfocusedScopes (scopeQualifiesForPasswordReset library)
        .passwordReset "scope-has-password-reset"),
      given (hasUsername && hasPassword) (resolveSingleUnfocusedScope unfocusedScopes
        (fun scope => scopeQualifiesForLogin library scope && scopeHasAnyKeyword library scope loginKeywords)
        .login "scope-has-explicit-login-context"),
      given (hasUsername && hasPassword) (loginStepIntent library unfocusedScopes),
      given (hasUsername && hasPassword) (resolveSingleUnfocusedScope unfocusedScopes
        (scopeQualifiesForRegistration library false false) .registration "scope-has-registration-password"),
      given (hasPassword && hasNewPassword) (resolveSingleUnfocusedScope unfocusedScopes
        (fun scope => scopeHasProvenPasswordChangeRoles library scope && scopeQualifiesForPasswordChange library scope)
        .passwordChange "scope-has-current-and-new-password"),
      given hasNewPassword (resolveSingleUnfocusedScope unfocusedScopes
        (scopeQualifiesForRegistration library true false) .registration "scope-has-new-password"),
      given payload.totp.isSome (resolveSingleUnfocusedScope unfocusedScopes (hasRole · .totp)
        .totpStep "scope-has-totp"),
      given hasUsername (resolveSingleUnfocusedScope unfocusedScopes
        (fun scope => hasRole scope .username && !scopeHasNewPasswordTarget scope
          && !scopeHasAnyKeyword library scope registrationKeywords) .usernameStep "scope-has-username"),
      given hasPassword (resolveSingleUnfocusedScope unfocusedScopes (scopeQualifiesForPasswordStep library)
        .login "scope-has-password"),
      given hasPassword (resolveSingleUnfocusedScope unfocusedScopes (scopeHasProvenPasswordChangeRoles library)
        .passwordChange "scope-has-proven-password-change-roles")].findSome? id).getD
      { kind := if scopes.any (fun scope => scope.kind ≠ .siteRule && scopeHasCredentialCandidate scope)
          then .ambiguous else .nonCredential
        sk := none
        fis := []
        why := ["no-compatible-scope"] }

def resolveAutofillIntent (fields : List AutofillTriageFieldResult) (payload : LoginFillPayload) :
    AutofillIntentPlan :=
  let scopes := resolveCredentialScopes fields
  let focused := (resolveFocusedPhysicalScope fields).bind fun key => scopes.find? fun scope => scope.k = key
  match focused with
  | some focused => focusedIntent library focused payload
  | none => unfocusedIntent library scopes payload

end Texts

end VaultKern.Filling
