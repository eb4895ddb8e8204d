import VaultKern.Guarantees.FillActions

/-! # Fill plans

The actions of a plan are all in one scope, the focused one where a field has the focus, and a plan that is made
without the user is a login or nothing.
-/

namespace VaultKern.Filling

open Browser (Library)

/-! ## The choice of the rules -/

/-- The scope that the plan is held to, where a field has the focus. -/
def focusKey (intent : AutofillIntentPlan) : Option String :=
  if intent.why.any (startsWith · "focused-") then intent.sk.filter fun key => !startsWith key "site-rule:" else none

def scopeFields (reportFields : List AutofillTriageFieldResult) : Option String → List AutofillTriageFieldResult
  | none => reportFields
  | some key => fieldsInCredentialScope reportFields key

/-- The fields of one part of the page say the same of their scope. -/
def KeysAgree (reportFields : List AutofillTriageFieldResult) : Prop :=
  ∀ field ∈ reportFields, ∀ other ∈ reportFields, field.so = other.so →
    credentialScopeKey field = credentialScopeKey other

section Choice

variable {library : Library} {payload : LoginFillPayload} {registers : Prop}
  {reportFields : List AutofillTriageFieldResult} {field : AutofillTriageFieldResult}
  {focus : Option String} {key : String} {action : PendingAutofillFillAction}

theorem mem_fieldsInCredentialScope :
    field ∈ fieldsInCredentialScope reportFields key ↔ field ∈ reportFields ∧ credentialScopeKey field = key := by
  simp [fieldsInCredentialScope, fieldIsInCredentialScope]

theorem mem_scopeFields :
    field ∈ scopeFields reportFields focus ↔ field ∈ reportFields ∧ ∀ key ∈ focus, credentialScopeKey field = key := by
  cases focus with
  | none => simp [scopeFields]
  | some key => simp [scopeFields, mem_fieldsInCredentialScope]

/-- The fields of a scope, where the plan is held to it or to none. -/
theorem fieldsInCredentialScope_subset {fields : List AutofillTriageFieldResult} (subset : fields ⊆ reportFields)
    (inside : ∀ held ∈ focus, key = held) : fieldsInCredentialScope fields key ⊆ scopeFields reportFields focus := by
  intro field member
  obtain ⟨among, same⟩ := mem_fieldsInCredentialScope.mp member
  exact mem_scopeFields.mpr ⟨subset among, fun held focused => same.trans (inside held focused)⟩

theorem fieldForAction_some {fields : List AutofillTriageFieldResult}
    (found : fieldForAction fields (some action) = some field) : field ∈ fields ∧ field.o = action.fi :=
  ⟨List.mem_of_find?_eq_some found, by simpa using List.find?_some found⟩

theorem siteRuleChoice_mem (member : action ∈ (siteRuleChoice library reportFields payload focus).actions) :
    action ∈ createSiteRuleActions library reportFields payload ∧
      ∀ key ∈ focus, ∃ field, fieldForAction reportFields (some action) = some field ∧ credentialScopeKey field = key := by
  obtain ⟨among, inside⟩ := List.mem_filter.mp member
  refine ⟨among, ?_⟩
  rintro key rfl
  obtain ⟨field, found, same⟩ := (Option.any_eq_true _ _).mp inside
  exact ⟨field, found, of_decide_eq_true same⟩

theorem codesOf_free {actions : List PendingAutofillFillAction} (targets : Targets actions)
    (member : action ∈ codesOf actions) : action.fi ∉ othersOf actions := by
  obtain ⟨here, code⟩ := List.mem_filter.mp member
  intro taken
  obtain ⟨other, inOthers, same⟩ := List.mem_map.mp taken
  obtain ⟨there, apart⟩ := List.mem_filter.mp inOthers
  rw [List.inj_on_of_nodup_map targets there here same] at apart
  simp_all

theorem CodeActions.of_list {fields : List AutofillTriageFieldResult} {actions : List PendingAutofillFillAction}
    (targets : Targets actions) (list : CodeList library payload fields (codesOf actions)) :
    CodeActions library payload fields actions :=
  ⟨codesOf actions, list, (List.filter_eq_self.mpr fun _ member => decide_eq_true (codesOf_free targets member)).symm⟩

/-- A run is in the focused scope, or none of it is. -/
theorem CodeList.focused {codes : List PendingAutofillFillAction} (distinct : (reportFields.map (·.o)).Nodup)
    (agree : KeysAgree reportFields) (list : CodeList library payload reportFields codes) (key : String) :
    CodeList library payload (fieldsInCredentialScope reportFields key)
      (codes.filter fun action => (fieldForAction reportFields (some action)).any (fieldIsInCredentialScope · key)) := by
  cases list with
  | none => exact .none
  | @whole field totp v value same =>
      rw [List.filter_cons, List.filter_nil]
      split
      · exact .whole value same
      · exact .none
  | @split run totp value characters long same =>
      have each : ∀ action ∈ splitActions run totp.trim, ∃ field ∈ run,
          fieldForAction reportFields (some action) = some field := by
        intro action member
        rw [splitActions_zip same] at member
        obtain ⟨⟨field, unit⟩, among, rfl⟩ := List.mem_map.mp member
        have inRun := (List.of_mem_zip among).1
        refine ⟨field, inRun, ?_⟩
        cases found : fieldForAction reportFields (some (pending field .totp [unit])) with
        | none =>
            have missing := List.find?_eq_none.mp found field (characters.among inRun)
            simp [pending] at missing
        | some other =>
            obtain ⟨inside, target⟩ := fieldForAction_some found
            rw [sameField distinct inside (characters.among inRun) target]
      by_cases inside : ∀ field ∈ run, credentialScopeKey field = key
      · rw [List.filter_eq_self.mpr]
        · refine .split value { characters with among := fun field member => ?_ } long same
          exact mem_fieldsInCredentialScope.mpr ⟨characters.among member, inside field member⟩
        · intro action member
          obtain ⟨field, inRun, found⟩ := each action member
          simpa [found, fieldIsInCredentialScope] using inside field inRun
      · rw [List.filter_eq_nil_iff.mpr]
        · exact .none
        · intro action member here
          obtain ⟨field, inRun, found⟩ := each action member
          simp only [found, Option.any_some, fieldIsInCredentialScope, decide_eq_true_eq] at here
          apply inside
          intro other inRun'
          rw [← here]
          exact agree other (characters.among inRun') field (characters.among inRun)
            (characters.together other inRun' field inRun)

theorem siteRuleChoice_planned (distinct : (reportFields.map (·.o)).Nodup) :
    Planned library payload registers (KeysAgree reportFields) (scopeFields reportFields focus)
      (siteRuleChoice library reportFields payload focus).actions := by
  obtain ⟨targets, fitting, list⟩ := createSiteRuleActions_spec library payload registers distinct
  have kept : Targets (siteRuleChoice library reportFields payload focus).actions :=
    targets.sublist (List.filter_sublist.map _)
  refine ⟨kept, fun action member => ?_, fun agree => .of_list kept ?_⟩
  · obtain ⟨among, inside⟩ := siteRuleChoice_mem member
    obtain ⟨field, inFields, fits⟩ := fitting action among
    refine ⟨field, mem_scopeFields.mpr ⟨inFields, fun key focused => ?_⟩, fits⟩
    obtain ⟨other, found, same⟩ := inside key focused
    obtain ⟨inFields', target⟩ := fieldForAction_some found
    rw [← same, sameField distinct inFields inFields' (fits.target.1.symm.trans target.symm)]
  · cases focus with
    | none =>
        have all : (siteRuleChoice library reportFields payload none).actions =
            createSiteRuleActions library reportFields payload := by simp [siteRuleChoice]
        rw [all]
        exact list
    | some key =>
        have swap := list.focused distinct agree key
        rwa [codesOf, List.filter_comm] at swap

theorem siteRuleChoice_passwordField
    (found : (siteRuleChoice library reportFields payload focus).passwordField = some field) :
    field.o ∈ (siteRuleChoice library reportFields payload focus).actions.map (·.fi) := by
  obtain ⟨action, picked, found⟩ := Option.bind_eq_some_iff.mp found
  rw [(fieldForAction_some found).2]
  exact List.mem_map_of_mem (List.mem_of_find?_eq_some picked)

/-- What the rules anchor a plan to is in the focused scope. -/
theorem siteRuleChoice_fieldOf {roles : List AutofillFieldQualification}
    (found : fieldForAction reportFields ((siteRuleChoice library reportFields payload focus).actions.find? fun action =>
      roles.contains action.ft) = some field) : ∀ key ∈ focus, credentialScopeKey field = key := by
  intro key focused
  obtain ⟨action, picked, found⟩ := Option.bind_eq_some_iff.mp found
  obtain ⟨other, found', same⟩ := (siteRuleChoice_mem (List.mem_of_find?_eq_some picked)).2 key focused
  have here : some field = some other := found.symm.trans found'
  rw [Option.some.inj here, same]

theorem siteRuleChoice_filtered {picked : Option AutofillTriageFieldResult}
    (found : (picked.filter fun field => focus.all (fieldIsInCredentialScope field)) = some field) :
    ∀ key ∈ focus, credentialScopeKey field = key := by
  rintro key rfl
  simpa [fieldIsInCredentialScope] using (Option.filter_eq_some_iff.mp found).2

theorem anchorScopeKey_focused {held : String}
    (anchored : (siteRuleChoice library reportFields payload focus).anchorScopeKey = some key) (focused : held ∈ focus) :
    key = held := by
  obtain ⟨field, anchor, rfl⟩ := Option.map_eq_some_iff.mp anchored
  rcases Option.or_eq_some_iff.mp anchor with early | ⟨-, code⟩
  · rcases Option.or_eq_some_iff.mp early with early | ⟨-, change⟩
    · rcases Option.or_eq_some_iff.mp early with password | ⟨-, username⟩
      · exact siteRuleChoice_fieldOf password held focused
      · exact siteRuleChoice_filtered username held focused
    · exact siteRuleChoice_fieldOf change held focused
  · exact siteRuleChoice_filtered code held focused

end Choice

/-! ## The kinds of plan -/

section Kinds

variable {library : Library} {payload : LoginFillPayload} {registers : Prop}
  {fields reportFields scope : List AutofillTriageFieldResult} {action : PendingAutofillFillAction} {key : String}

theorem firstUsername_fits (member : action ∈ firstUsername fields payload) :
    action.ft ≠ .totp ∧ ∃ field ∈ fields, Fits library payload registers field action := by
  rw [firstUsername] at member
  split at member
  · rename_i username field given found
    have role : field.q = .username := by simpa using List.find?_some found
    rw [List.mem_singleton.mp member, role]
    exact ⟨by simp [pending], field, List.mem_of_find?_eq_some found, .username (.inl role) given⟩
  · cases member

theorem newPasswordActions_fits {newPassword : Option JsText} (member : action ∈ newPasswordActions fields newPassword)
    (value : ∀ v, newPassword = some v →
      payload.newPassword = some v ∨ (registers ∧ payload.newPassword = none ∧ payload.password = some v)) :
    action.ft ≠ .totp ∧ ∃ field ∈ fields, Fits library payload registers field action := by
  cases newPassword with
  | none => cases member
  | some v =>
      obtain ⟨field, target, rfl⟩ := List.mem_map.mp member
      obtain ⟨among, role⟩ := List.mem_filter.mp target
      refine ⟨?_, field, among, .newPassword role (value v rfl)⟩
      intro code
      have same : field.q = .totp := code
      simp [isNewPasswordTarget, same] at role

theorem isLoginPasswordRole_ne {field : AutofillTriageFieldResult} (role : isLoginPasswordRole field = true) :
    field.q ≠ .totp := by
  intro same
  simp [isLoginPasswordRole, same] at role

theorem createPasswordChangeActions_fits (member : action ∈ createPasswordChangeActions library fields key payload) :
    action.ft ≠ .totp ∧
      ∃ field ∈ fieldsInCredentialScope fields key, Fits library payload registers field action := by
  rw [createPasswordChangeActions] at member
  simp only [List.append_assoc] at member
  rcases List.mem_append.mp member with username | rest
  · exact firstUsername_fits username
  rcases List.mem_append.mp rest with current | new
  · split at current
    · rename_i field password picked given
      obtain ⟨among, role⟩ := pickCurrentPasswordField_mem picked
      rw [List.mem_singleton.mp current]
      exact ⟨isLoginPasswordRole_ne role, field, among, .password role given⟩
    · cases current
  · split at new
    · exact newPasswordActions_fits new fun v given => .inl given
    · cases new

theorem createRegistrationActions_fits (here : registers) (member : action ∈ createRegistrationActions fields key payload) :
    action.ft ≠ .totp ∧
      ∃ field ∈ fieldsInCredentialScope fields key, Fits library payload registers field action := by
  rcases List.mem_append.mp member with username | new
  · exact firstUsername_fits username
  · refine newPasswordActions_fits new fun v given => ?_
    rcases Option.or_eq_some_iff.mp given with own | ⟨none, password⟩
    · exact .inl own
    · exact .inr ⟨here, none, password⟩

theorem createPasswordResetActions_fits (member : action ∈ createPasswordResetActions fields key payload) :
    action.ft ≠ .totp ∧
      ∃ field ∈ fieldsInCredentialScope fields key, Fits library payload registers field action :=
  newPasswordActions_fits member fun _ given => .inl given

variable (library payload registers) in
/-- The user name, the password and the code of a login. -/
theorem loginActions_split {choice : SiteRuleChoice} {allFields : List AutofillTriageFieldResult}
    (totpFields : List AutofillTriageFieldResult)
    (target : ∀ field, choice.passwordField = some field → field.o ∈ choice.actions.map (·.fi))
    (inFields : fields ⊆ scope) (inAll : allFields ⊆ scope) :
    ∃ front, loginActions library choice fields allFields totpFields payload =
        front ++ totpActionsIn library totpFields payload ∧
      ∀ action ∈ front, action.fi ∉ choice.actions.map (·.fi) →
        action.ft ≠ .totp ∧ ∃ field ∈ scope, Fits library payload registers field action := by
  refine ⟨_, rfl, fun action member free => ?_⟩
  rcases List.mem_append.mp member with username | password
  · split at username
    · rename_i field v picked given
      rw [List.mem_singleton.mp username]
      have role : field ∈ scope ∧ (field.q = .username ∨ isSingleStepEmailCandidate library field = true) := by
        split at picked
        · rcases Option.or_eq_some_iff.mp picked with early | ⟨-, single⟩
          · rcases Option.or_eq_some_iff.mp early with near | ⟨-, first⟩
            · obtain ⟨among, role⟩ := pickUsernameField_mem near
              exact ⟨inFields among, .inl role⟩
            · obtain ⟨among, role⟩ := pickUsernameFirstField_mem first
              exact ⟨inFields among, .inl role⟩
          · obtain ⟨among, role⟩ := pickSingleStepEmailUsernameField_mem single
            exact ⟨inAll among, .inr role⟩
        · cases picked
      have typed : (if field.q = .ignored then AutofillFieldQualification.username else field.q) = .username := by
        rcases role.2 with same | single
        · simp [same]
        · rw [if_pos]
          simp only [isSingleStepEmailCandidate, Bool.and_eq_true, decide_eq_true_eq] at single
          exact single.1.1.1.1.1
      rw [typed]
      exact ⟨by simp [pending], field, role.1, .username role.2 given⟩
    · cases username
  · split at password
    · rename_i field v picked given
      obtain rfl := List.mem_singleton.mp password
      have role : field ∈ scope ∧ isLoginPasswordRole field = true := by
        have within : ∀ {field}, field ∈ fields ∧ isLoginPasswordRole field = true →
            field ∈ scope ∧ isLoginPasswordRole field = true := fun found => ⟨inFields found.1, found.2⟩
        split at picked
        · rcases Option.or_eq_some_iff.mp picked with named | ⟨-, found⟩
          · exact absurd (target field named) free
          · split at found
            · rcases Option.or_eq_some_iff.mp found with early | ⟨-, later⟩
              · rcases Option.or_eq_some_iff.mp early with first | ⟨-, near⟩
                · exact within (pickLoginPasswordFieldInScope_mem first)
                · obtain ⟨among, role⟩ := pickLoginPasswordField_mem near
                  exact within ⟨inScopeOf_subset _ _ among, role⟩
              · exact within (pickUnscopedPasswordAfterUsername_mem later)
            · exact within (pickFirstSafeLoginPasswordField_mem found)
        · cases picked
      exact ⟨isLoginPasswordRole_ne role.2, field, role.1, .password role.2 given⟩
    · cases password

end Kinds

/-! ## All actions of a plan -/

section Planned

variable {library : Library} {payload : LoginFillPayload} {reportFields : List AutofillTriageFieldResult}
  {intent : AutofillIntentPlan}

/-- The kinds with a scope of their own. -/
def Resolved (kind : AutofillIntentKind) : Prop := kind ≠ .ambiguous ∧ kind ≠ .nonCredential

theorem Resolved.mem {kind : AutofillIntentKind} (resolved : Resolved kind) :
    kind ∈ [AutofillIntentKind.login, .usernameStep, .totpStep, .registration, .passwordChange, .passwordReset] := by
  cases kind with
  | ambiguous => exact absurd rfl resolved.1
  | nonCredential => exact absurd rfl resolved.2
  | _ => decide

theorem focusKey_intent {held : String} (focused : held ∈ focusKey intent) :
    (intent.sk.filter fun key => !startsWith key "site-rule:") = some held := by
  rw [focusKey] at focused
  split at focused
  · exact focused
  · cases focused

theorem focusKey_none (none : (intent.sk.filter fun key => !startsWith key "site-rule:") = none) :
    focusKey intent = Option.none := by
  cases focused : focusKey intent with
  | none => rfl
  | some held => exact absurd (none.symm.trans (focusKey_intent focused)) (Option.some_ne_none held).symm

/-- Codes for the fields of one scope, after the actions for its passwords. -/
theorem Planned.append_codes {registers agree : Prop} {scope : List AutofillTriageFieldResult}
    {primary : List PendingAutofillFillAction} {key : String} (distinct : (reportFields.map (·.o)).Nodup)
    (was : Planned library payload registers agree scope primary)
    (subset : fieldsInCredentialScope reportFields key ⊆ scope) :
    Planned library payload registers agree scope
      (appendFallbackActions primary (totpActionsIn library (fieldsInCredentialScope reportFields key) payload)) := by
  have distinct' : ((fieldsInCredentialScope reportFields key).map (·.o)).Nodup :=
    distinct.sublist (List.filter_sublist.map _)
  obtain ⟨codes, fitting⟩ := totpActionsIn_spec library payload registers distinct'
  exact @Planned.append _ _ _ _ _ [] _ _ was {
    fitting := nofun
    codesFit := fitting.mono subset
    codes := codes.mono subset }

theorem Planned.append_passwords {registers agree : Prop} {fields scope : List AutofillTriageFieldResult}
    {primary front : List PendingAutofillFillAction} (was : Planned library payload registers agree scope primary)
    (subset : fields ⊆ scope)
    (fits : ∀ action ∈ front, action.ft ≠ .totp ∧ ∃ field ∈ fields, Fits library payload registers field action) :
    Planned library payload registers agree scope (appendFallbackActions primary front) := by
  rw [← List.append_nil front]
  refine was.append { fitting := fun action member _ => ?_, codesFit := Fitting.nil, codes := .none }
  obtain ⟨role, field, among, fit⟩ := fits action member
  exact ⟨role, field, subset among, fit⟩

theorem Planned.append_login {registers agree : Prop} {choice : SiteRuleChoice}
    {fields allFields totpFields scope : List AutofillTriageFieldResult}
    (was : Planned library payload registers agree scope choice.actions)
    (target : ∀ field, choice.passwordField = some field → field.o ∈ choice.actions.map (·.fi))
    (inFields : fields ⊆ scope) (inAll : allFields ⊆ scope)
    (inCodes : totpFields ⊆ scope ∧ (totpFields.map (·.o)).Nodup) :
    Planned library payload registers agree scope
      (appendFallbackActions choice.actions (loginActions library choice fields allFields totpFields payload)) := by
  obtain ⟨front, split, fits⟩ := loginActions_split library payload registers totpFields target inFields inAll
  obtain ⟨codes, fitting⟩ := totpActionsIn_spec library payload registers inCodes.2
  rw [split]
  exact was.append {
    fitting := fits
    codesFit := fitting.mono inCodes.1
    codes := codes.mono inCodes.1 }

variable (library payload) in
theorem plannedActions_planned (distinct : (reportFields.map (·.o)).Nodup) (resolved : Resolved intent.kind) :
    Planned library payload (intent.kind = .registration) (KeysAgree reportFields)
      (scopeFields reportFields (focusKey intent)) (plannedActions library reportFields payload intent) := by
  unfold plannedActions
  extract_lets intentScopeKey intentUsesFocusedScope fields ambiguousNew ambiguousRule choice changeKey useScope primaryKey
  have chosen : Planned library payload (intent.kind = .registration) (KeysAgree reportFields)
      (scopeFields reportFields (focusKey intent)) choice.actions := siteRuleChoice_planned distinct
  split
  · exact chosen
  rename_i resolvedIn segment intentAllFields inPasswordChange passwordChangeScopeKey registrationScopeKey
    passwordResetScopeKey _
  have candidates : fields ⊆ reportFields := candidateFields_subset reportFields
  -- a key of the intent, of an anchor or of a rule is the focused one
  have ofIntent : ∀ {key : String}, intentScopeKey = some key → ∀ held ∈ focusKey intent, key = held := by
    intro key same held focused
    exact Option.some.inj (same.symm.trans (focusKey_intent focused))
  have ofNone : intentScopeKey = none → focusKey intent = none := focusKey_none
  have ofChange : ∀ {key : String}, changeKey = some key → ∀ held ∈ focusKey intent, key = held := by
    intro key same held focused
    obtain ⟨field, change, rfl⟩ := Option.map_eq_some_iff.mp same
    exact siteRuleChoice_fieldOf change held focused
  have ofPasswordChange : ∀ key ∈ passwordChangeScopeKey, ∀ held ∈ focusKey intent, key = held := by
    intro key isChange
    simp only [passwordChangeScopeKey] at isChange
    split at isChange
    · rcases Option.or_eq_some_iff.mp isChange with early | ⟨none, -⟩
      · rcases Option.or_eq_some_iff.mp early with change | ⟨-, named⟩
        · exact ofChange change
        · exact ofIntent named
      · rw [ofNone (Option.or_eq_none_iff.mp none).2]
        exact nofun
    · cases isChange
  have ofRegistration : ∀ key ∈ registrationScopeKey,
      intent.kind = .registration ∧ ∀ held ∈ focusKey intent, key = held := by
    intro key isRegistration
    simp only [registrationScopeKey] at isRegistration
    split at isRegistration
    · rename_i kind
      refine ⟨kind, ?_⟩
      rcases Option.or_eq_some_iff.mp isRegistration with named | ⟨none, -⟩
      · exact ofIntent named
      · rw [ofNone none]
        exact nofun
    · cases isRegistration
  have ofReset : ∀ key ∈ passwordResetScopeKey, ∀ held ∈ focusKey intent, key = held := by
    intro key isReset
    simp only [passwordResetScopeKey] at isReset
    split at isReset
    · exact ofIntent isReset
    · cases isReset
  clear_value passwordChangeScopeKey registrationScopeKey passwordResetScopeKey
  cases passwordChangeScopeKey with
  | some key =>
      have inside := ofPasswordChange key rfl
      exact (chosen.append_passwords (fieldsInCredentialScope_subset candidates inside) fun action member =>
        createPasswordChangeActions_fits member).append_codes distinct
          (fieldsInCredentialScope_subset (List.Subset.refl _) inside)
  | none =>
  cases registrationScopeKey with
  | some key =>
      obtain ⟨kind, inside⟩ := ofRegistration key rfl
      exact (chosen.append_passwords (fieldsInCredentialScope_subset candidates inside) fun action member =>
        createRegistrationActions_fits kind member).append_codes distinct
          (fieldsInCredentialScope_subset (List.Subset.refl _) inside)
  | none =>
  cases passwordResetScopeKey with
  | some key =>
      exact chosen.append_passwords (fieldsInCredentialScope_subset candidates (ofReset key rfl)) fun action member =>
        createPasswordResetActions_fits member
  | none =>
      -- a login, or a step of one
      have narrowed : useScope = true := by
        simp only [useScope, Bool.or_eq_true, decide_eq_true_eq]
        exact .inr resolved.mem
      have isPrimary : choice.anchorScopeKey.or intentScopeKey = primaryKey := rfl
      clear_value primaryKey
      have within : ∀ {among : List AutofillTriageFieldResult}, among ⊆ reportFields →
          resolvedIn among ⊆ scopeFields reportFields (focusKey intent) := by
        intro among subset
        cases primaryKey with
        | some key =>
            simp only [resolvedIn, if_pos narrowed]
            refine fieldsInCredentialScope_subset subset fun held focused => ?_
            rcases Option.or_eq_some_iff.mp isPrimary with anchored | ⟨-, named⟩
            · exact anchorScopeKey_focused anchored focused
            · exact ofIntent named held focused
        | none =>
            rw [ofNone (Option.or_eq_none_iff.mp isPrimary).2]
            exact subset
      have segmented : ∀ {among : List AutofillTriageFieldResult}, segment among ⊆ among := by
        intro among
        simp only [segment]
        split
        · exact focusedLoginSegmentFields_subset among
        · exact List.Subset.refl among
      have all : intentAllFields ⊆ scopeFields reportFields (focusKey intent) :=
        List.Subset.trans segmented (within (List.Subset.refl _))
      have distinctAll : (intentAllFields.map (·.o)).Nodup := by
        have kept : ((resolvedIn reportFields).map (·.o)).Nodup := by
          cases primaryKey with
          | some key =>
              simp only [resolvedIn, if_pos narrowed]
              exact distinct.sublist (List.filter_sublist.map _)
          | none => exact distinct
        simp only [intentAllFields, segment]
        split
        · exact focusedLoginSegmentFields_distinct kept
        · exact kept
      refine chosen.append_login (fun field named => siteRuleChoice_passwordField named)
        (List.Subset.trans segmented (within candidates)) all ?_
      -- codes are looked for in the same scope
      split
      · exact ⟨all, distinctAll⟩
      · rename_i none
        refine ⟨?_, distinct⟩
        simp only [narrowed, Bool.true_and, Bool.not_eq_true, Option.isSome_eq_false_iff, Option.isNone_iff_eq_none] at none
        rw [ofNone (Option.or_eq_none_iff.mp (isPrimary.trans none)).2]
        exact List.Subset.refl _

end Planned

/-! ## Binding -/

section Binding

variable {library : Library} {payload : LoginFillPayload} {registers agree : Prop}
  {fields reportFields : List AutofillTriageFieldResult} {actions : List PendingAutofillFillAction}
  {physicalField : String → Option Element} {sr : Option SiteRulePolicy}

/-- The plan without what binds it. -/
def AutofillFillPlan.pending (plan : AutofillFillPlan) : List PendingAutofillFillAction :=
  plan.ac.map (·.toPendingAutofillFillAction)

theorem resolvedActions_all (distinct : (reportFields.map (·.o)).Nodup) (subset : fields ⊆ reportFields)
    (fitting : Fitting library payload registers fields actions) :
    (resolvedActions reportFields actions).map Prod.fst = actions ∧
      ∀ pair ∈ resolvedActions reportFields actions,
        pair.2 ∈ fields ∧ Fits library payload registers pair.2 pair.1 := by
  induction actions with
  | nil => exact ⟨rfl, fun _ member => absurd member List.not_mem_nil⟩
  | cons action actions ih =>
      obtain ⟨field, among, fits⟩ := fitting action List.mem_cons_self
      obtain ⟨rest, each⟩ := ih fun other member => fitting other (List.mem_cons_of_mem _ member)
      have found : ((reportFields.reverse.find? fun field => field.o = action.fi).filter fun _ =>
          action.ft ≠ .ignored) = some field := by
        cases last : reportFields.reverse.find? fun field => field.o = action.fi with
        | none =>
            have missing := List.find?_eq_none.mp last field (List.mem_reverse.mpr (subset among))
            simp [fits.target.1] at missing
        | some other =>
            have there : other ∈ reportFields := List.mem_reverse.mp (List.mem_of_find?_eq_some last)
            have target : other.o = action.fi := by simpa using List.find?_some last
            rw [sameField distinct there (subset among) (target.trans fits.target.1)]
            simp [fits.role_ne]
      rw [resolvedActions, List.filterMap_cons, found]
      refine ⟨by simpa [resolvedActions] using rest, fun pair member => ?_⟩
      rcases List.mem_cons.mp member with rfl | later
      · exact ⟨among, fits⟩
      · exact each pair later

theorem eq_of_eraseDups {keys : List String} (few : ¬ 1 < keys.eraseDups.length) {one other : String}
    (member : one ∈ keys) (member' : other ∈ keys) : one = other := by
  have here : one ∈ keys.eraseDups := List.mem_eraseDups.mpr member
  have there : other ∈ keys.eraseDups := List.mem_eraseDups.mpr member'
  generalize keys.eraseDups = distinct at few here there
  rcases distinct with _ | ⟨only, _ | ⟨next, more⟩⟩
  · cases here
  · exact (List.mem_singleton.mp here).trans (List.mem_singleton.mp there).symm
  · exact absurd (by simp) few

variable (physicalField sr) in
/-- The actions of a scope, or none. -/
theorem bindFillActions_spec (distinct : (reportFields.map (·.o)).Nodup) (subset : fields ⊆ reportFields)
    (fitting : Fitting library payload registers fields actions) :
    (bindFillActions physicalField sr reportFields actions).ac = [] ∨
      ((bindFillActions physicalField sr reportFields actions).pending = actions ∧
        (∀ action ∈ (bindFillActions physicalField sr reportFields actions).ac, ∃ field ∈ fields,
          Fits library payload registers field action.toPendingAutofillFillAction ∧
            action.pg = credentialScopeKey field ∧ action.tr = action.ft) ∧
        ∃ key, ∀ action ∈ (bindFillActions physicalField sr reportFields actions).ac, action.pg = key) := by
  obtain ⟨all, each⟩ := resolvedActions_all distinct subset fitting
  rw [bindFillActions]
  split
  · exact .inl rfl
  · rename_i few
    refine .inr ⟨?_, ?_, ?_⟩
    · rw [AutofillFillPlan.pending, List.map_map]
      exact all
    · intro action member
      obtain ⟨pair, among, rfl⟩ := List.mem_map.mp member
      obtain ⟨inFields, fits⟩ := each pair among
      exact ⟨pair.2, inFields, fits, rfl, rfl⟩
    · cases resolved : resolvedActions reportFields actions with
      | nil => exact ⟨"", fun _ member => absurd member List.not_mem_nil⟩
      | cons first rest =>
          refine ⟨credentialScopeKey first.2, fun action member => ?_⟩
          rw [← resolved] at member
          obtain ⟨pair, among, rfl⟩ := List.mem_map.mp member
          refine eq_of_eraseDups few (List.mem_map_of_mem among) (List.mem_map_of_mem ?_)
          rw [resolved]
          exact List.mem_cons_self

end Binding

/-! ## The focused scope -/

section Focused

variable {library : Library} {payload : LoginFillPayload} {fields : List AutofillTriageFieldResult}

variable (library) in
theorem focusedIntent_spec (focused : AutofillCredentialScope) (payload : LoginFillPayload) :
    (focusedIntent library focused payload).sk = some focused.k ∧
      (focusedIntent library focused payload).why.any (startsWith · "focused-") = true := by
  have named : ∀ kind reason, startsWith reason "focused-" = true →
      (intentPlan kind (some focused) reason).sk = some focused.k ∧
        (intentPlan kind (some focused) reason).why.any (startsWith · "focused-") = true :=
    fun kind reason same => ⟨rfl, by simpa [intentPlan] using same⟩
  unfold focusedIntent
  extract_lets
  split_ifs <;> exact named _ _ (by decide)

theorem credentialScopeKey_not_siteRule (field : AutofillTriageFieldResult) :
    startsWith (credentialScopeKey field) "site-rule:" = false := by
  rw [credentialScopeKey]
  split_ifs <;> simp [startsWith, List.isPrefixOf]

theorem physicalScope_some {sortedFields : List AutofillTriageFieldResult} {field : AutofillTriageFieldResult}
    (member : field ∈ sortedFields) :
    ∃ first ∈ sortedFields, first.so = field.so ∧
      ∃ scope, physicalScope sortedFields field.so = some scope ∧ scope.k = credentialScopeKey first := by
  cases found : sortedFields.filter fun other => other.so = field.so with
  | nil =>
      have missing := List.filter_eq_nil_iff.mp found field member
      simp at missing
  | cons first rest =>
      have among : first ∈ sortedFields.filter fun other => other.so = field.so := by simp [found]
      obtain ⟨inside, same⟩ := List.mem_filter.mp among
      refine ⟨first, inside, of_decide_eq_true same, ?_⟩
      have some : (sortFields (first :: rest)).isEmpty = false := by
        rw [List.isEmpty_eq_false_iff]
        exact List.ne_nil_of_mem (mem_sortFields.mpr List.mem_cons_self)
      simp [physicalScope, found, scopeFromFields, some]

theorem resolveCredentialScopes_some {field : AutofillTriageFieldResult} (agree : KeysAgree fields)
    (member : field ∈ fields) : ∃ scope ∈ resolveCredentialScopes fields, scope.k = credentialScopeKey field := by
  have sorted : field ∈ sortFields fields := mem_sortFields.mpr member
  obtain ⟨first, inside, same, scope, made, key⟩ := physicalScope_some sorted
  refine ⟨scope, List.mem_append_left _ (List.mem_filterMap.mpr ⟨field.so, ?_, made⟩), ?_⟩
  · exact List.mem_eraseDups.mpr (List.mem_map_of_mem sorted)
  · rw [key]
    exact agree first (mem_sortFields.mp inside) field member same

theorem resolveAutofillIntent_focused {field : AutofillTriageFieldResult} (agree : KeysAgree fields)
    (focused : fields.find? (·.fs) = some field) :
    focusKey (resolveAutofillIntent library fields payload) = some (credentialScopeKey field) := by
  obtain ⟨scope, among, key⟩ := resolveCredentialScopes_some agree (List.mem_of_find?_eq_some focused)
  have physical : resolveFocusedPhysicalScope fields = some (credentialScopeKey field) := by
    rw [resolveFocusedPhysicalScope, focused]
    rfl
  cases found : (resolveCredentialScopes fields).find? fun scope => scope.k = credentialScopeKey field with
  | none => exact absurd (by simpa using key) (List.find?_eq_none.mp found scope among)
  | some scope' =>
      have key' : scope'.k = credentialScopeKey field := by simpa using List.find?_some found
      obtain ⟨sk, why⟩ := focusedIntent_spec library scope' payload
      have resolved : resolveAutofillIntent library fields payload = focusedIntent library scope' payload := by
        rw [resolveAutofillIntent, physical, Option.bind_some, found]
      rw [resolved, focusKey, if_pos why, sk, key', Option.filter_some, if_pos]
      rw [credentialScopeKey_not_siteRule]
      rfl

end Focused

/-! ## Plans -/

section Plans

variable {library : Library} {payload : LoginFillPayload} {fields : List AutofillTriageFieldResult}
  {actions : List PendingAutofillFillAction}

/-- Nothing, the code in one field, or its characters in the fields of a run that no other action has taken. -/
def CodesTyped (library : Library) (payload : LoginFillPayload) (fields : List AutofillTriageFieldResult)
    (actions : List PendingAutofillFillAction) : Prop :=
  codesOf actions = [] ∨
    (∃ totp action, payload.totp = some totp ∧ codesOf actions = [action] ∧ (action.v = totp ∨ action.v = totp.trim)) ∨
    ∃ totp run, payload.totp = some totp ∧ SplitRun library fields run ∧ 1 < run.length ∧
      run.length = totp.trim.length ∧
      codesOf actions = ((run.zip totp.trim).filter fun part => part.1.o ∉ othersOf actions).map
        (fun part => pending part.1 .totp [part.2]) ∧
      (codesOf actions).Pairwise (fun left right => left.n ≤ right.n) ∧
      ((∀ field ∈ run, field.o ∉ othersOf actions) → (codesOf actions).flatMap (·.v) = totp.trim)

theorem splitActions_concat {run : List AutofillTriageFieldResult} {value : JsText} (same : run.length = value.length) :
    (splitActions run value).flatMap (·.v) = value := by
  rw [splitActions_zip same, List.flatMap_map]
  have units : ∀ part ∈ run.zip value, (pending part.1 .totp [part.2]).v = [part.2] := fun _ _ => rfl
  rw [List.flatMap_congr units, ← List.map_eq_flatMap, List.map_snd_zip (Nat.le_of_eq same.symm)]

theorem splitActions_ordered {run : List AutofillTriageFieldResult} {value : JsText} (same : run.length = value.length)
    (ordered : run.Pairwise fun left right => left.n ≤ right.n) :
    (splitActions run value).Pairwise fun left right => left.n ≤ right.n := by
  rw [splitActions_zip same, List.pairwise_map]
  have firsts : ((run.zip value).map Prod.fst).Pairwise fun left right => left.n ≤ right.n := by
    rw [List.map_fst_zip (Nat.le_of_eq same)]
    exact ordered
  have ordered := List.pairwise_map.mp firsts
  exact ordered

theorem CodeActions.typed (codes : CodeActions library payload fields actions) :
    CodesTyped library payload fields actions := by
  obtain ⟨codes, list, same⟩ := codes
  cases list with
  | none => exact .inl same
  | @whole field totp v value typed =>
      rw [List.filter_cons, List.filter_nil] at same
      split at same
      · exact .inr (.inl ⟨totp, _, value, same, typed⟩)
      · exact .inl same
  | @split run totp value characters long length =>
      refine .inr (.inr ⟨totp, run, value, characters, long, length, ?_, ?_, fun free => ?_⟩)
      · rw [same, splitActions_zip length, List.filter_map]
        rfl
      · rw [same]
        exact (splitActions_ordered length characters.ordered).sublist List.filter_sublist
      · rw [same, List.filter_eq_self.mpr, splitActions_concat length]
        intro action member
        have target : action.fi ∈ run.map (·.o) := by
          rw [← splitActions_targets run totp.trim]
          exact List.mem_map_of_mem member
        obtain ⟨field, inRun, target⟩ := List.mem_map.mp target
        simpa [← target] using free field inRun

/-- What a plan may do: each action has a field of the report, and what is for its role there. -/
structure SafePlan (library : Library) (payload : LoginFillPayload) (fields : List AutofillTriageFieldResult)
    (authorization : Option FillCapability) (plan : AutofillFillPlan) : Prop where
  oneScope : ∃ key, ∀ action ∈ plan.ac, action.pg = key
  targets : (plan.ac.map (·.fi)).Nodup
  values : ∀ action ∈ plan.ac, ∃ field ∈ fields, action.pg = credentialScopeKey field ∧ action.tr = action.ft ∧
    Fits library payload ((resolveAutofillIntent library fields payload).kind = .registration) field
      action.toPendingAutofillFillAction
  focused : KeysAgree fields → ∀ field, fields.find? (·.fs) = some field →
    ∀ action ∈ plan.ac, action.pg = credentialScopeKey field
  automatic : ∀ capability, authorization = some capability → capability.kind = .automatic → plan.ac = [] ∨
    ∃ username password, (plan.ac = [username, password] ∨ plan.ac = [password, username]) ∧
      username.tr = .username ∧ (password.tr = .password ∨ password.tr = .currentPassword) ∧
      automaticLoginScopeKey library fields = some username.pg ∧ password.pg = username.pg
  codes : KeysAgree fields → CodesTyped library payload fields plan.pending

theorem SafePlan.empty {authorization : Option FillCapability} {plan : AutofillFillPlan} (empty : plan.ac = []) :
    SafePlan library payload fields authorization plan where
  oneScope := ⟨"", by simp [empty]⟩
  targets := by simp [empty]
  values := by simp [empty]
  focused := by simp [empty]
  automatic := fun _ _ _ => .inl empty
  codes := fun _ => .inl (by simp [AutofillFillPlan.pending, codesOf, empty])

theorem completeAutomaticLoginPlan_spec (plan : AutofillFillPlan) (key targetUrl : String) :
    (completeAutomaticLoginPlan plan key targetUrl).ac = [] ∨
      ((completeAutomaticLoginPlan plan key targetUrl).ac = plan.ac ∧
        ∃ username password, (plan.ac = [username, password] ∨ plan.ac = [password, username]) ∧
          username.tr = .username ∧ (password.tr = .password ∨ password.tr = .currentPassword) ∧
          username.pg = key ∧ password.pg = key) := by
  unfold completeAutomaticLoginPlan
  extract_lets usernameActions passwordActions complete
  by_cases whole : complete = true
  · rw [if_pos whole]
    refine .inr ⟨rfl, ?_⟩
    simp only [complete] at whole
    have ofUsername : usernameActions = plan.ac.filter fun action => action.tr = .username := rfl
    have ofPassword : passwordActions =
        plan.ac.filter fun action => action.tr = .password || action.tr = .currentPassword := rfl
    clear_value usernameActions passwordActions
    split at whole
    · rename_i username password
      simp only [Bool.and_eq_true, decide_eq_true_eq] at whole
      obtain ⟨⟨⟨⟨⟨⟨two, -⟩, -⟩, apart⟩, -⟩, inScope⟩, inScope'⟩ := whole
      obtain ⟨here, isUsername⟩ := List.mem_filter.mp (ofUsername ▸ List.mem_singleton_self username)
      obtain ⟨there, isPassword⟩ := List.mem_filter.mp (ofPassword ▸ List.mem_singleton_self password)
      obtain ⟨one, other, both⟩ := List.length_eq_two.mp two
      refine ⟨username, password, ?_, of_decide_eq_true isUsername, by simpa using isPassword, inScope, inScope'⟩
      rw [both] at here there ⊢
      simp only [List.mem_cons, List.not_mem_nil, or_false] at here there
      rcases here with rfl | rfl <;> rcases there with rfl | rfl
      · exact absurd rfl apart
      · exact .inl rfl
      · exact .inr rfl
      · exact absurd rfl apart
    · cases whole
  · rw [if_neg whole]
    exact .inl rfl

theorem strictPageLoadScopeKey_some {capability : FillCapability} {key : String}
    (strict : strictPageLoadScopeKey library fields payload capability = some key) :
    automaticLoginScopeKey library fields = some key := by
  rw [strictPageLoadScopeKey] at strict
  split at strict
  · exact strict
  · cases strict

/-- A plan with the bound actions, however it comes to have them. -/
theorem SafePlan.of_bound {authorization : Option FillCapability} {plan : AutofillFillPlan}
    {physicalField : String → Option Element} {sr : Option SiteRulePolicy} (distinct : (fields.map (·.o)).Nodup)
    (resolved : Resolved (resolveAutofillIntent library fields payload).kind)
    (same : plan.ac = (bindFillActions physicalField sr fields
      (plannedActions library fields payload (resolveAutofillIntent library fields payload))).ac)
    (automatic : ∀ capability, authorization = some capability → capability.kind = .automatic → plan.ac = [] ∨
      ∃ username password, (plan.ac = [username, password] ∨ plan.ac = [password, username]) ∧
        username.tr = .username ∧ (password.tr = .password ∨ password.tr = .currentPassword) ∧
        automaticLoginScopeKey library fields = some username.pg ∧ password.pg = username.pg) :
    SafePlan library payload fields authorization plan := by
  have planned := plannedActions_planned library payload distinct resolved
  have subset : scopeFields fields (focusKey (resolveAutofillIntent library fields payload)) ⊆ fields :=
    fun field member => (mem_scopeFields.mp member).1
  rcases bindFillActions_spec physicalField sr distinct subset planned.fitting with
    empty | ⟨pending, each, oneScope⟩
  · exact .empty (same.trans empty)
  have pending' : plan.pending = plannedActions library fields payload (resolveAutofillIntent library fields payload) := by
    rw [AutofillFillPlan.pending, same]
    exact pending
  rw [← same] at each oneScope
  refine ⟨oneScope, ?_, fun action member => ?_, fun agree field focused action member => ?_, automatic, fun agree => ?_⟩
  · have targets := planned.targets
    rw [← pending', Targets, AutofillFillPlan.pending, List.map_map] at targets
    exact targets
  · obtain ⟨field, among, fits, page, role⟩ := each action member
    exact ⟨field, subset among, page, role, fits⟩
  · obtain ⟨field', among, -, page, -⟩ := each action member
    rw [page]
    exact (mem_scopeFields.mp among).2 _ (resolveAutofillIntent_focused agree focused)
  · rw [pending']
    obtain ⟨codes, list, same⟩ := planned.codes agree
    exact CodeActions.typed ⟨codes, list.mono subset, same⟩

/-- Whatever is on the page and in the payload, and whoever asks. -/
theorem createLoginFillPlan_safe (library : Library) (qualifyAutofillField : Qualify)
    (physicalFieldForSnapshot : AutofillPageSnapshot → String → Option Element) (snapshot : AutofillPageSnapshot)
    (payload : LoginFillPayload) (authorization : Option FillCapability)
    (distinct : (snapshot.f.map (·.o)).Nodup) :
    SafePlan library payload (triageAutofillPage qualifyAutofillField snapshot) authorization
      (createLoginFillPlan library qualifyAutofillField physicalFieldForSnapshot snapshot payload authorization) := by
  cases authorization with
  | none => exact .empty rfl
  | some capability =>
      have distinct' : ((triageAutofillPage qualifyAutofillField snapshot).map (·.o)).Nodup := by
        rw [triageAutofillPage, List.map_map]
        exact distinct
      simp only [createLoginFillPlan]
      generalize triageAutofillPage qualifyAutofillField snapshot = fields at distinct' ⊢
      split
      · exact .empty rfl
      rename_i allowed
      simp only [Bool.or_eq_true, decide_eq_true_eq, not_or] at allowed
      have resolved : Resolved (resolveAutofillIntent library fields payload).kind := ⟨allowed.1.2, allowed.2⟩
      cases kind : capability.kind with
      | manual =>
          refine .of_bound distinct' resolved rfl fun other same automatic => ?_
          rw [← Option.some.inj same, kind] at automatic
          cases automatic
      | automatic =>
          simp only
          split
          · exact .empty rfl
          · rename_i key strict
            rcases completeAutomaticLoginPlan_spec (bindFillActions (physicalFieldForSnapshot snapshot) snapshot.sr fields
              (plannedActions library fields payload (resolveAutofillIntent library fields payload))) key
              capability.targetUrl with empty | ⟨same, username, password, both, isUsername, isPassword, here, there⟩
            · exact .empty empty
            · refine .of_bound distinct' resolved same fun _ _ _ => .inr ?_
              rw [same]
              exact ⟨username, password, both, isUsername, isPassword,
                (strictPageLoadScopeKey_some strict).trans (congrArg some here.symm), there.trans here.symm⟩

end Plans

/-! ## Pages -/

def pageLibrary : Library where
  newUrl _ := none
  pslGet _ := none
  pslSecondLevel _ := none
  toLowerCase text := String.ofList (text.toList.map Char.toLower)

def loginPayload : LoginFillPayload := { username := some [117], password := some [112] }

def manualFill : Option FillCapability := some { kind := .manual, targetUrl := "https://example.com/", entryId := "entry" }

def filled (qualifyAutofillField : Qualify) (fields : List AutofillFieldSnapshot) (payload : LoginFillPayload) :
    AutofillFillPlan :=
  createLoginFillPlan pageLibrary qualifyAutofillField (fun _ _ => some 0) { f := fields } payload manualFill

def loginFields : List AutofillFieldSnapshot :=
  [{ o := "field-2", so := "form-1", fo := some "form-1", n := 2, hy := some "text", hn := some "username" },
    { o := "field-3", so := "form-1", fo := some "form-1", n := 3, hy := some "password", hn := some "password" }]

/-- What the heuristics make of the fields below. -/
def qualifySample : Qualify := fun field _ _ =>
  if field.rt.contains .username then { q := .username, el := true, why := field.rr }
  else if field.hn = some "otp" then { q := .totp, el := true, why := field.rr ++ ["totp:split-field"] }
  else if field.hn = some "username" then { q := .username, el := true, why := ["form-has-password"] }
  else if field.hy = some "password" then { q := .password, el := true, why := [] }
  else { q := .ignored, el := false, why := [] }

theorem createLoginFillPlan_safe_login :
    SafePlan pageLibrary loginPayload (triageAutofillPage qualifySample { f := loginFields }) manualFill
      (filled qualifySample loginFields loginPayload) :=
  createLoginFillPlan_safe _ _ _ _ _ _ (by decide)

example : (filled qualifySample loginFields loginPayload).ac.map (fun action => (action.fi, action.ft, action.v)) =
    [("field-2", .username, [117]), ("field-3", .password, [112])] := by decide +kernel

def digitField : AutofillFieldSnapshot :=
  { o := "field-0", so := "scope-0", n := 0, hy := some "text", hn := some "otp", ml := some 1 }

/-- A field for one character that a site rule has for the user name. -/
def ruledField : AutofillFieldSnapshot :=
  { o := "field-1", so := "scope-0", n := 1, hy := some "text", im := some "numeric", ml := some 1, rt := [.username],
    rr := ["site-rule:rule:username"] }

/-- A rule takes a field of the code. Two fields that say different things of their scope lead a plan out of the
    focused one, and break a code. -/
theorem fill_out_of_bounds :
    (filled qualifySample [digitField, ruledField] { username := some [117], totp := some [49, 50] }).ac.map
        (fun action => (action.fi, action.ft, action.v)) = [("field-1", .username, [117]), ("field-0", .totp, [49])] ∧
      (filled qualifySample ([{ o := "field-0", so := "scope-0", n := 0, hy := some "text" },
        { o := "field-1", so := "scope-0", fo := some "scope-0", n := 1, hy := some "text", fs := true }] ++ loginFields)
        loginPayload).ac.map (fun action => (action.fi, action.pg)) =
          [("field-2", "form:form-1"), ("field-3", "form:form-1")] ∧
      (filled qualifySample [{ digitField with fs := true, rt := [.totp], rr := ["site-rule:rule:totp"] },
        { ruledField with fo := some "scope-0" }] { totp := some [49, 50] }).ac.map
        (fun action => (action.fi, action.ft, action.v)) = [("field-0", .totp, [49])] := by
  refine ⟨?_, ?_, ?_⟩ <;> decide +kernel

end VaultKern.Filling
