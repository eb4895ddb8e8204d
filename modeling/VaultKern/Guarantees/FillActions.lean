import VaultKern.Extension.FillPlan
import Mathlib.Data.List.TakeWhile

/-! # Fill actions

Whatever the rules and heuristics choose, an action fills a field of the report with what the payload has for
the role that the field has in it, and no field is filled twice.
-/

namespace VaultKern.Filling

open Browser (Library)

/-! ## What a field may be filled with -/

/-- The role of the field and the part of the payload for it. -/
inductive Fits (library : Library) (payload : LoginFillPayload) (registers : Prop)
    (field : AutofillTriageFieldResult) : PendingAutofillFillAction → Prop
  | siteRule {ft : AutofillFieldQualification} {v : JsText} (named : ft ∈ field.rt)
      (value : siteRuleValue payload ft = some v) : Fits library payload registers field (pending field ft v)
  | username {v : JsText} (role : field.q = .username ∨ isSingleStepEmailCandidate library field = true)
      (value : payload.username = some v) : Fits library payload registers field (pending field .username v)
  | password {v : JsText} (role : isLoginPasswordRole field = true) (value : payload.password = some v) :
      Fits library payload registers field (pending field field.q v)
  | newPassword {v : JsText} (role : isNewPasswordTarget field = true)
      (value : payload.newPassword = some v ∨ (registers ∧ payload.newPassword = none ∧ payload.password = some v)) :
      Fits library payload registers field (pending field field.q v)
  | code {totp : JsText} (role : field.q = .totp) (value : payload.totp = some totp) :
      Fits library payload registers field (pending field .totp totp.trim)
  | character {totp : JsText} {unit : UInt16}
      (role : isOneCharacterField library field = true ∨ isAnonymousOneCharacterField field = true)
      (value : payload.totp = some totp) (within : unit ∈ totp.trim) :
      Fits library payload registers field (pending field .totp [unit])

/-- Every action is for one of the fields. -/
def Fitting (library : Library) (payload : LoginFillPayload) (registers : Prop)
    (fields : List AutofillTriageFieldResult) (actions : List PendingAutofillFillAction) : Prop :=
  ∀ action ∈ actions, ∃ field ∈ fields, Fits library payload registers field action

section Fitting

variable {library : Library} {payload : LoginFillPayload} {registers : Prop}
  {fields : List AutofillTriageFieldResult} {field : AutofillTriageFieldResult} {action : PendingAutofillFillAction}

theorem Fits.target (fits : Fits library payload registers field action) :
    action.fi = field.o ∧ action.n = field.n := by
  cases fits <;> exact ⟨rfl, rfl⟩

theorem Fits.role_ne (fits : Fits library payload registers field action) : action.ft ≠ .ignored := by
  cases fits with
  | @siteRule ft v named value =>
      rintro ignored
      have same : ft = .ignored := ignored
      rw [same] at value
      cases value
  | password role | newPassword role =>
      rintro ignored
      have same : field.q = .ignored := ignored
      simp [isLoginPasswordRole, isNewPasswordTarget, same] at role
  | username | code | character => exact nofun

theorem Fitting.nil : Fitting library payload registers fields [] := nofun

theorem Fitting.append {first second : List PendingAutofillFillAction}
    (one : Fitting library payload registers fields first) (other : Fitting library payload registers fields second) :
    Fitting library payload registers fields (first ++ second) := by
  intro action member
  rcases List.mem_append.mp member with early | late
  · exact one action early
  · exact other action late

theorem Fitting.single (member : field ∈ fields) (fits : Fits library payload registers field action) :
    Fitting library payload registers fields [action] := by
  intro other among
  rw [List.mem_singleton.mp among]
  exact ⟨field, member, fits⟩

theorem Fitting.mono {larger : List AutofillTriageFieldResult} {actions : List PendingAutofillFillAction}
    (fitting : Fitting library payload registers fields actions) (subset : fields ⊆ larger) :
    Fitting library payload registers larger actions := by
  intro action member
  obtain ⟨field, among, fits⟩ := fitting action member
  exact ⟨field, subset among, fits⟩

end Fitting

/-! ## Fields that are picked -/

section Picked

variable {library : Library} {fields : List AutofillTriageFieldResult} {field : AutofillTriageFieldResult}

@[simp] theorem mem_sortFields : field ∈ sortFields fields ↔ field ∈ fields := List.mem_insertionSort _

theorem sortFields_perm (fields : List AutofillTriageFieldResult) : (sortFields fields).Perm fields :=
  List.perm_insertionSort _ fields

theorem sortFields_sorted (fields : List AutofillTriageFieldResult) :
    (sortFields fields).Pairwise fun left right => left.n ≤ right.n := by
  have total : Std.Total fun left right : AutofillTriageFieldResult => left.n ≤ right.n :=
    ⟨fun left right => Nat.le_total left.n right.n⟩
  have transitive : IsTrans AutofillTriageFieldResult fun left right => left.n ≤ right.n :=
    ⟨fun _ _ _ => Nat.le_trans⟩
  exact List.pairwise_insertionSort _ fields

theorem candidateFields_subset (reportFields : List AutofillTriageFieldResult) :
    candidateFields reportFields ⊆ reportFields := by
  intro field member
  exact (List.mem_filter.mp (mem_sortFields.mp member)).1

theorem siteRuleFields_subset (reportFields : List AutofillTriageFieldResult) :
    siteRuleFields reportFields ⊆ reportFields := by
  intro field member
  exact (List.mem_filter.mp (mem_sortFields.mp member)).1

theorem inScopeOf_subset (fields : List AutofillTriageFieldResult) (anchor : AutofillTriageFieldResult) :
    inScopeOf fields anchor ⊆ fields := List.filter_subset_self _

theorem focusedLoginSegmentFields_subset (fields : List AutofillTriageFieldResult) :
    focusedLoginSegmentFields fields ⊆ fields := by
  intro field member
  rw [focusedLoginSegmentFields] at member
  split at member
  · exact member
  · simp only at member
    split at member <;> split at member
    · exact mem_sortFields.mp (List.mem_of_mem_drop (List.mem_of_mem_take member))
    · exact member
    · exact mem_sortFields.mp (List.mem_of_mem_drop (List.mem_of_mem_take member))
    · exact member

theorem focusedLoginSegmentFields_distinct (distinct : (fields.map (·.o)).Nodup) :
    ((focusedLoginSegmentFields fields).map (·.o)).Nodup := by
  have sorted : ((sortFields fields).map (·.o)).Nodup := ((sortFields_perm fields).map (·.o)).nodup_iff.mpr distinct
  have within : ∀ first last, ((((sortFields fields).drop first).take last).map (·.o)).Nodup := fun first last =>
    sorted.sublist (((List.take_sublist last _).trans (List.drop_sublist first _)).map _)
  rw [focusedLoginSegmentFields]
  split
  · exact distinct
  · simp only
    split <;> split
    · exact within _ _
    · exact distinct
    · exact within _ _
    · exact distinct

theorem preferCurrentPasswordField_mem (picked : preferCurrentPasswordField fields = some field) : field ∈ fields := by
  rcases Option.or_eq_some_iff.mp picked with found | ⟨-, first⟩
  · exact List.mem_of_find?_eq_some found
  · exact List.mem_of_mem_head? first

theorem pickPasswordField_mem (picked : pickPasswordField fields = some field) :
    field ∈ fields ∧ isLoginPasswordRole field = true := List.mem_filter.mp (preferCurrentPasswordField_mem picked)

theorem pickLoginPasswordField_mem (picked : pickLoginPasswordField library fields = some field) :
    field ∈ fields ∧ isLoginPasswordRole field = true :=
  pickPasswordField_mem (Option.filter_eq_some_iff.mp picked).1

theorem pickLoginPasswordFieldInScope_mem {anchor : Option AutofillTriageFieldResult}
    (picked : pickLoginPasswordFieldInScope library fields anchor = some field) :
    field ∈ fields ∧ isLoginPasswordRole field = true := by
  obtain ⟨_, -, picked⟩ := Option.bind_eq_some_iff.mp picked
  obtain ⟨member, role⟩ := pickLoginPasswordField_mem picked
  exact ⟨inScopeOf_subset _ _ member, role⟩

theorem pickFirstSafeLoginPasswordField_mem (picked : pickFirstSafeLoginPasswordField library fields = some field) :
    field ∈ fields ∧ isLoginPasswordRole field = true := by
  have safe : field ∈ fields.filter fun field =>
      isLoginPasswordRole field && !isUnsafeLoginPasswordField library field fields := by
    rcases Option.or_eq_some_iff.mp picked with found | ⟨-, first⟩
    · exact List.mem_of_find?_eq_some found
    · exact List.mem_of_mem_head? first
  obtain ⟨member, role⟩ := List.mem_filter.mp safe
  exact ⟨member, (Bool.and_eq_true _ _ ▸ role).1⟩

theorem pickUnscopedPasswordAfterUsername_mem {usernameField : AutofillTriageFieldResult}
    (picked : pickUnscopedPasswordAfterUsername fields usernameField = some field) :
    field ∈ fields ∧ isLoginPasswordRole field = true := by
  have role := List.find?_some picked
  simp only [Bool.and_eq_true] at role
  exact ⟨List.mem_of_find?_eq_some picked, role.1.1⟩

theorem pickPreferredUsernameField_mem (picked : pickPreferredUsernameField library fields = some field) :
    field ∈ fields := (List.mem_insertionSort _).mp (List.mem_of_mem_head? picked)

theorem pickUsernameField_mem {passwordField : Option AutofillTriageFieldResult}
    (picked : pickUsernameField library fields passwordField = some field) : field ∈ fields ∧ field.q = .username := by
  have among : field ∈ fields.filter fun field => field.q = .username := by
    cases passwordField with
    | none => exact (List.mem_filter.mp (pickPreferredUsernameField_mem picked)).1
    | some passwordField => exact inScopeOf_subset _ _ (pickPreferredUsernameField_mem picked)
  simpa using List.mem_filter.mp among

theorem pickUsernameFirstField_mem (picked : pickUsernameFirstField library fields = some field) :
    field ∈ fields ∧ field.q = .username := by
  obtain ⟨member, role⟩ := List.mem_filter.mp (pickPreferredUsernameField_mem picked)
  simp only [Bool.and_eq_true, decide_eq_true_eq] at role
  exact ⟨member, role.1.1⟩

theorem pickSingleStepEmailUsernameField_mem (picked : pickSingleStepEmailUsernameField library fields = some field) :
    field ∈ fields ∧ isSingleStepEmailCandidate library field = true := by
  rw [pickSingleStepEmailUsernameField] at picked
  split at picked
  · rename_i only alone
    have among : only ∈ sortFields (fields.filter (isSingleStepEmailCandidate library)) := by
      rw [alone]
      exact List.mem_singleton_self only
    rw [← Option.some.inj picked]
    exact List.mem_filter.mp (mem_sortFields.mp among)
  · cases picked

theorem pickCurrentPasswordField_mem (picked : pickCurrentPasswordField library fields = some field) :
    field ∈ fields ∧ isLoginPasswordRole field = true := List.mem_filter.mp (List.mem_of_find?_eq_some picked)

end Picked

/-! ## Codes in several fields -/

section Codes

variable {library : Library} {fields : List AutofillTriageFieldResult} {seed : AutofillTriageFieldResult}
  {run : List AutofillTriageFieldResult} {valueLength : Nat}

def takesCharacter (library : Library) (field : AutofillTriageFieldResult) : Prop :=
  isOneCharacterField library field = true ∨ isAnonymousOneCharacterField field = true

/-- Distinct fields of one scope, in document order, each for one character. -/
structure SplitRun (library : Library) (fields run : List AutofillTriageFieldResult) : Prop where
  among : run ⊆ fields
  distinct : (run.map (·.o)).Nodup
  ordered : run.Pairwise fun left right => left.n ≤ right.n
  characters : ∀ field ∈ run, takesCharacter library field
  together : ∀ field ∈ run, ∀ other ∈ run, field.so = other.so

theorem joinsRun_spec {candidate : AutofillTriageFieldResult} {anonymous : Bool}
    (joins : joinsRun library seed candidate anonymous = true) :
    takesCharacter library candidate ∧ candidate.so = seed.so := by
  simp only [joinsRun, Bool.and_eq_true, isContiguousSplitField, Bool.or_eq_true, fieldScopeMatches,
    decide_eq_true_eq] at joins
  exact ⟨joins.1.1, joins.1.2.symm⟩

theorem runAhead_joins {after : List AutofillTriageFieldResult} {length : Nat} {field : AutofillTriageFieldResult}
    (member : field ∈ after.take (runAhead library seed valueLength length after)) :
    joinsRun library seed field true = true := by
  induction after generalizing length with
  | nil => simp at member
  | cons next after ih =>
      rw [runAhead] at member
      split at member
      · rename_i joins
        rw [List.take_succ_cons] at member
        rcases List.mem_cons.mp member with rfl | later
        · exact (Bool.and_eq_true _ _ ▸ joins).2
        · exact ih later
      · simp at member

/-- The fields before the seed, the seed and the fields behind it. -/
theorem pickContiguousOneCharacterFields_split
    (picked : pickContiguousOneCharacterFields library fields seed valueLength = run) :
    run = [] ∨ ∃ before here after, run = before ++ here :: after ∧ run.Sublist (sortFields fields) ∧
      here.o = seed.o ∧ (∀ field ∈ before, ∃ anonymous, joinsRun library seed field anonymous = true) ∧
      ∀ field ∈ after, joinsRun library seed field true = true := by
  rw [pickContiguousOneCharacterFields] at picked
  split at picked
  · exact .inl picked.symm
  · rename_i here after split
    simp only at picked
    split at picked
    · have whole : (sortFields fields).takeWhile (fun field => field.o ≠ seed.o) ++ here :: after = sortFields fields := by
        rw [← split]
        exact List.takeWhile_append_dropWhile
      refine .inr ⟨_, here, _, picked.symm, ?_, ?_, ?_, fun field member => runAhead_joins member⟩
      · have joining := ((List.takeWhile_sublist fun field =>
          joinsRun library seed field (splitSequenceKeys library seed).isEmpty).reverse :
            (((sortFields fields).takeWhile fun field => field.o ≠ seed.o).reverse.takeWhile _).reverse.Sublist _)
        rw [List.reverse_reverse] at joining
        have within : ∀ count, _ := fun count => joining.append ((List.take_sublist count after).cons_cons here)
        rw [whole] at within
        rw [← picked]
        exact within _
      · have other := List.head?_dropWhile_not (fun field : AutofillTriageFieldResult => decide (field.o ≠ seed.o))
          (sortFields fields)
        simp only [split, List.head?_cons] at other
        simpa using other
      · intro field member
        rw [List.mem_reverse] at member
        have joins := List.mem_takeWhile_imp (p := fun field =>
          joinsRun library seed field (splitSequenceKeys library seed).isEmpty) member
        exact ⟨_, joins⟩
    · exact .inl picked.symm

theorem sameField (distinct : (fields.map (·.o)).Nodup) {one other : AutofillTriageFieldResult}
    (member : one ∈ fields) (member' : other ∈ fields) (same : one.o = other.o) : one = other :=
  List.inj_on_of_nodup_map distinct member member' same

theorem pickContiguousOneCharacterFields_run (distinct : (fields.map (·.o)).Nodup) (member : seed ∈ fields)
    (one : isOneCharacterField library seed = true) (some : run ≠ [])
    (picked : pickContiguousOneCharacterFields library fields seed valueLength = run) :
    SplitRun library fields run ∧ seed ∈ run := by
  rcases pickContiguousOneCharacterFields_split picked with none | ⟨before, here, after, rfl, ordered, same, joins, joins'⟩
  · exact absurd none some
  have isSeed : here = seed := by
    have inside : here ∈ sortFields fields := ordered.subset (by simp)
    exact sameField distinct (mem_sortFields.mp inside) member same
  have whole : ((sortFields fields).map (·.o)).Nodup := ((sortFields_perm fields).map (·.o)).nodup_iff.mpr distinct
  have each : ∀ field ∈ before ++ here :: after, takesCharacter library field ∧ field.so = seed.so := by
    intro field among
    rcases List.mem_append.mp among with early | late
    · obtain ⟨_, joins⟩ := joins field early
      exact joinsRun_spec joins
    · rcases List.mem_cons.mp late with rfl | late
      · exact ⟨.inl (isSeed ▸ one), congrArg (·.so) isSeed⟩
      · exact joinsRun_spec (joins' field late)
  refine ⟨?_, by simp [isSeed]⟩
  exact {
    among := fun field among => mem_sortFields.mp (ordered.subset among)
    distinct := whole.sublist (ordered.map (·.o))
    ordered := (sortFields_sorted fields).sublist ordered
    characters := fun field among => (each field among).1
    together := fun field among other among' => (each field among).2.trans (each other among').2.symm }

theorem pickSplitTotpFields_run {totpFields : List AutofillTriageFieldResult} (distinct : (fields.map (·.o)).Nodup)
    (subset : totpFields ⊆ fields) (picked : pickSplitTotpFields library fields totpFields valueLength = run)
    (some : run ≠ []) : SplitRun library fields run ∧ run.length = valueLength ∧ ∃ seed ∈ totpFields, seed ∈ run := by
  rw [pickSplitTotpFields] at picked
  cases found : ((totpFields.filter (isOneCharacterField library)).map fun seed =>
      pickContiguousOneCharacterFields library fields seed valueLength).find? fun splitFields =>
        splitFields.length = valueLength with
  | none =>
      rw [found] at picked
      exact absurd picked.symm some
  | some first =>
      rw [found] at picked
      have isRun : first = run := picked
      subst isRun
      obtain ⟨seed, among, isRun⟩ := List.mem_map.mp (List.mem_of_find?_eq_some found)
      obtain ⟨member, one⟩ := List.mem_filter.mp among
      have long := List.find?_some found
      obtain ⟨split, inside⟩ := pickContiguousOneCharacterFields_run distinct (subset member) one some isRun
      exact ⟨split, by simpa using long, seed, member, inside⟩

theorem splitActions_zip {value : JsText} (same : run.length = value.length) :
    splitActions run value = (run.zip value).map fun part => pending part.1 .totp [part.2] := by
  apply List.ext_getElem
  · simp [splitActions, same]
  · intro index here there
    have inside : index < value.length := by
      simp only [splitActions, List.length_mapIdx] at here
      omega
    simp [splitActions, List.getElem?_eq_getElem inside]

theorem SplitRun.mono {larger : List AutofillTriageFieldResult} (split : SplitRun library fields run)
    (subset : fields ⊆ larger) : SplitRun library larger run :=
  { split with among := List.Subset.trans split.among subset }

theorem splitActions_targets (run : List AutofillTriageFieldResult) (value : JsText) :
    (splitActions run value).map (·.fi) = run.map (·.o) := by
  apply List.ext_getElem
  · simp [splitActions]
  · intro index here there
    simp [splitActions, pending]

theorem splitActions_codes {action : PendingAutofillFillAction} {value : JsText}
    (member : action ∈ splitActions run value) : action.ft = .totp := by
  obtain ⟨_, _, rfl⟩ := List.mem_mapIdx.mp member
  rfl

theorem splitActions_fitting {payload : LoginFillPayload} {registers : Prop} {totp : JsText}
    (split : SplitRun library fields run) (same : run.length = totp.trim.length) (value : payload.totp = some totp) :
    Fitting library payload registers fields (splitActions run totp.trim) := by
  intro action member
  rw [splitActions_zip same] at member
  obtain ⟨⟨field, unit⟩, among, rfl⟩ := List.mem_map.mp member
  obtain ⟨inRun, within⟩ := List.of_mem_zip among
  exact ⟨field, split.among inRun, .character (split.characters field inRun) value within⟩

/-- What is typed for a code: nothing, all of it or its characters. -/
inductive CodeList (library : Library) (payload : LoginFillPayload) (fields : List AutofillTriageFieldResult) :
    List PendingAutofillFillAction → Prop
  | none : CodeList library payload fields []
  | whole {field : AutofillTriageFieldResult} {totp v : JsText} (value : payload.totp = some totp)
      (same : v = totp ∨ v = totp.trim) : CodeList library payload fields [pending field .totp v]
  | split {run : List AutofillTriageFieldResult} {totp : JsText} (value : payload.totp = some totp)
      (characters : SplitRun library fields run) (long : 1 < run.length) (same : run.length = totp.trim.length) :
      CodeList library payload fields (splitActions run totp.trim)

variable {payload : LoginFillPayload} {actions : List PendingAutofillFillAction}

theorem CodeList.mono {larger : List AutofillTriageFieldResult} (codes : CodeList library payload fields actions)
    (subset : fields ⊆ larger) : CodeList library payload larger actions := by
  cases codes with
  | none => exact .none
  | whole value same => exact .whole value same
  | split value run long same => exact .split value (run.mono subset) long same

theorem CodeList.role (codes : CodeList library payload fields actions) : ∀ action ∈ actions, action.ft = .totp := by
  cases codes with
  | none => exact nofun
  | whole value same => simp [pending]
  | split value run long same => exact fun action member => splitActions_codes member

theorem CodeList.targets (codes : CodeList library payload fields actions) : (actions.map (·.fi)).Nodup := by
  cases codes with
  | none => exact List.nodup_nil
  | whole value same => exact List.nodup_singleton _
  | split value run long same =>
      rw [splitActions_targets]
      exact run.distinct

theorem pickTotpFields_mem {field : AutofillTriageFieldResult} (member : field ∈ pickTotpFields fields) :
    field ∈ fields ∧ field.q = .totp := by
  obtain ⟨among, kept⟩ := List.mem_filter.mp (mem_sortFields.mp member)
  simp only [Bool.and_eq_true, decide_eq_true_eq] at kept
  exact ⟨among, kept.1.1⟩

/-- The code in fields for a code. -/
theorem createTotpActions_spec {registers : Prop} {totp : JsText} (distinct : (fields.map (·.o)).Nodup)
    (value : payload.totp = some totp) :
    CodeList library payload fields (createTotpActions library fields totp) ∧
      Fitting library payload registers fields (createTotpActions library fields totp) := by
  rw [createTotpActions]
  split
  · exact ⟨.none, Fitting.nil⟩
  split
  · rename_i long
    obtain ⟨run, same, -⟩ := pickSplitTotpFields_run distinct (fun _ member => (pickTotpFields_mem member).1) rfl
      (List.ne_nil_of_length_pos (Nat.lt_trans Nat.one_pos long))
    exact ⟨.split value run long same, splitActions_fitting run same value⟩
  split
  · rename_i field alone
    obtain ⟨member, role⟩ := pickTotpFields_mem (alone ▸ List.mem_singleton_self field)
    split
    · exact ⟨.none, Fitting.nil⟩
    · rw [role]
      exact ⟨.whole value (.inr rfl), Fitting.single member (.code role value)⟩
  · exact ⟨.none, Fitting.nil⟩

variable (library payload) in
theorem totpActionsIn_spec (registers : Prop) (distinct : (fields.map (·.o)).Nodup) :
    CodeList library payload fields (totpActionsIn library fields payload) ∧
      Fitting library payload registers fields (totpActionsIn library fields payload) := by
  rw [totpActionsIn]
  cases value : payload.totp with
  | none => exact ⟨.none, Fitting.nil⟩
  | some totp => exact createTotpActions_spec distinct value

end Codes

/-! ## Actions of the rules -/

section Rules

variable {library : Library} {payload : LoginFillPayload} {registers : Prop}
  {fields reportFields : List AutofillTriageFieldResult} {field : AutofillTriageFieldResult}
  {actions : List PendingAutofillFillAction} {action : PendingAutofillFillAction}

/-- Distinct fields for the actions. -/
def Targets (actions : List PendingAutofillFillAction) : Prop := (actions.map (·.fi)).Nodup

theorem actionForSiteRuleField_some {skipped : List AutofillFieldQualification}
    (picked : actionForSiteRuleField field payload skipped = some action) :
    ∃ ft ∈ field.rt, ft ∉ skipped ∧ ∃ v, siteRuleValue payload ft = some v ∧ action = pending field ft v := by
  obtain ⟨ft, among, value⟩ := List.exists_of_findSome?_eq_some picked
  obtain ⟨named, free⟩ := List.mem_filter.mp among
  obtain ⟨v, found, rfl⟩ := Option.map_eq_some_iff.mp value
  exact ⟨ft, named, by simpa using free, v, found, rfl⟩

theorem actionForSiteRuleField_fits {skipped : List AutofillFieldQualification}
    (picked : actionForSiteRuleField field payload skipped = some action) :
    Fits library payload registers field action := by
  obtain ⟨ft, named, -, v, value, rfl⟩ := actionForSiteRuleField_some picked
  exact .siteRule named value

variable (payload fields actions) in
/-- The actions before, and those for other fields. -/
theorem addSiteRuleActions_spec (skipped : List AutofillFieldQualification) :
    ∃ added, addSiteRuleActions payload skipped fields actions = actions ++ added ∧
      (∀ action ∈ added, ∃ field ∈ fields, action.fi ∉ actions.map (·.fi) ∧
        actionForSiteRuleField field payload skipped = some action) ∧
      (Targets actions → Targets (actions ++ added)) := by
  induction fields generalizing actions with
  | nil => exact ⟨[], (List.append_nil _).symm, nofun, by simp⟩
  | cons field fields ih =>
      rw [addSiteRuleActions]
      split
      · obtain ⟨added, whole, each, keeps⟩ := @ih actions
        refine ⟨added, whole, fun action member => ?_, keeps⟩
        obtain ⟨other, among, new⟩ := each action member
        exact ⟨other, List.mem_cons_of_mem _ among, new⟩
      · rename_i unused
        obtain ⟨added, whole, each, keeps⟩ :=
          @ih (actions ++ (actionForSiteRuleField field payload skipped).toList)
        cases picked : actionForSiteRuleField field payload skipped with
        | none =>
            simp only [picked, Option.toList_none, List.append_nil] at whole each keeps ⊢
            refine ⟨added, whole, fun action member => ?_, keeps⟩
            obtain ⟨other, among, new⟩ := each action member
            exact ⟨other, List.mem_cons_of_mem _ among, new⟩
        | some one =>
            simp only [picked, Option.toList_some, List.append_assoc, List.singleton_append] at whole each keeps ⊢
            obtain ⟨_, -, -, _, -, target⟩ := actionForSiteRuleField_some picked
            have new : one.fi ∉ actions.map (·.fi) := by simpa [target, pending] using unused
            refine ⟨one :: added, whole, ?_, fun distinct => keeps ?_⟩
            · intro action member
              rcases List.mem_cons.mp member with rfl | member
              · exact ⟨field, List.mem_cons_self, new, picked⟩
              · obtain ⟨other, among, fresh, found⟩ := each action member
                refine ⟨other, List.mem_cons_of_mem _ among, ?_, found⟩
                intro old
                exact fresh (by simp [List.map_append, old])
            · rw [Targets, List.map_append, List.map_singleton, List.nodup_append]
              refine ⟨distinct, List.nodup_singleton _, ?_⟩
              rintro _ old _ here rfl
              exact new (List.mem_singleton.mp here ▸ old)

/-- The actions for codes. -/
def codesOf (actions : List PendingAutofillFillAction) : List PendingAutofillFillAction :=
  actions.filter fun action => action.ft = .totp

theorem codesOf_self (codes : ∀ action ∈ actions, action.ft = .totp) : codesOf actions = actions :=
  List.filter_eq_self.mpr fun action member => decide_eq_true (codes action member)

theorem codesOf_none (others : ∀ action ∈ actions, action.ft ≠ .totp) : codesOf actions = [] :=
  List.filter_eq_nil_iff.mpr fun action member => by simpa using others action member

theorem codesOf_append (first second : List PendingAutofillFillAction) :
    codesOf (first ++ second) = codesOf first ++ codesOf second := List.filter_append ..

/-- A rule names one field for a code, or codes are left out. -/
theorem soleTotpField {totp : JsText} (value : payload.totp = some totp)
    (named : .totp ∉ skippedFieldTypes fields payload) {one other : AutofillTriageFieldResult} (member : one ∈ fields)
    (role : .totp ∈ one.rt) (member' : other ∈ fields) (role' : .totp ∈ other.rt) : one = other := by
  have few : (fields.filter fun field => field.rt.contains .totp).length ≤ 1 := by
    by_contra many
    apply named
    rw [skippedFieldTypes]
    apply List.mem_append_right
    rw [if_pos]
    · exact List.mem_singleton_self _
    · simp only [value, Option.isSome_some, Bool.true_and, Bool.or_eq_true, decide_eq_true_eq]
      exact .inr (Nat.lt_of_not_le many)
  have here : one ∈ fields.filter fun field => field.rt.contains .totp :=
    List.mem_filter.mpr ⟨member, by simpa using role⟩
  have there : other ∈ fields.filter fun field => field.rt.contains .totp :=
    List.mem_filter.mpr ⟨member', by simpa using role'⟩
  generalize fields.filter (fun field => field.rt.contains .totp) = named at few here there
  rcases named with _ | ⟨only, _ | ⟨next, more⟩⟩
  · cases here
  · exact (List.mem_singleton.mp here).trans (List.mem_singleton.mp there).symm
  · exact absurd few (by simp)

/-- Characters for a run with a field that a rule names for codes, or nothing. -/
theorem createSplitSiteRuleTotpActions_spec {totp : JsText} (distinct : (fields.map (·.o)).Nodup)
    (value : payload.totp = some totp) :
    CodeList library payload fields (createSplitSiteRuleTotpActions library fields totp) ∧
      Fitting library payload registers fields (createSplitSiteRuleTotpActions library fields totp) ∧
      (createSplitSiteRuleTotpActions library fields totp ≠ [] → ∃ seed ∈ fields, .totp ∈ seed.rt ∧
        seed.o ∈ (createSplitSiteRuleTotpActions library fields totp).map (·.fi)) := by
  rw [createSplitSiteRuleTotpActions]
  split
  · exact ⟨.none, Fitting.nil, fun some => absurd rfl some⟩
  · rename_i many
    have long := Nat.lt_of_not_le many
    have named : ∀ field ∈ sortFields (fields.filter fun field => field.rt.contains .totp),
        field ∈ fields ∧ .totp ∈ field.rt := by
      intro field member
      obtain ⟨among, named⟩ := List.mem_filter.mp (mem_sortFields.mp member)
      exact ⟨among, by simpa using named⟩
    obtain ⟨run, same, seed, member, inside⟩ := pickSplitTotpFields_run distinct (fun field member =>
      (named field member).1) rfl (List.ne_nil_of_length_pos (Nat.lt_trans Nat.one_pos long))
    refine ⟨.split value run long same, splitActions_fitting run same value, fun _ => ?_⟩
    rw [splitActions_targets]
    exact ⟨seed, (named seed member).1, (named seed member).2, List.mem_map_of_mem inside⟩

variable (library payload registers) in
/-- The codes come first. -/
theorem createSiteRuleActions_split (distinct : ((siteRuleFields reportFields).map (·.o)).Nodup) :
    ∃ totpActions, createSiteRuleActions library reportFields payload = addSiteRuleActions payload
        (skippedFieldTypes (siteRuleFields reportFields) payload) (siteRuleFields reportFields) totpActions ∧
      CodeList library payload (siteRuleFields reportFields) totpActions ∧
      Fitting library payload registers (siteRuleFields reportFields) totpActions ∧
      (totpActions ≠ [] →
        ∃ seed ∈ siteRuleFields reportFields, .totp ∈ seed.rt ∧ seed.o ∈ totpActions.map (·.fi)) := by
  refine ⟨_, rfl, ?_⟩
  split
  · rename_i totp value
    split
    · exact ⟨.none, Fitting.nil, fun some => absurd rfl some⟩
    · exact createSplitSiteRuleTotpActions_spec distinct value
  · exact ⟨.none, Fitting.nil, fun some => absurd rfl some⟩

variable (library payload registers) in
/-- What the rules say is for distinct fields, with the codes as they are to be typed. -/
theorem createSiteRuleActions_spec (distinct : (reportFields.map (·.o)).Nodup) :
    Targets (createSiteRuleActions library reportFields payload) ∧
      Fitting library payload registers reportFields (createSiteRuleActions library reportFields payload) ∧
      CodeList library payload reportFields (codesOf (createSiteRuleActions library reportFields payload)) := by
  have subset := siteRuleFields_subset reportFields
  have distinct' : ((siteRuleFields reportFields).map (·.o)).Nodup :=
    ((sortFields_perm _).map (·.o)).nodup_iff.mpr (distinct.sublist (List.filter_sublist.map _))
  obtain ⟨totpActions, unfolded, codes, fitting, seeded⟩ :=
    createSiteRuleActions_split library payload registers distinct'
  obtain ⟨added, whole, each, keeps⟩ := addSiteRuleActions_spec payload (siteRuleFields reportFields) totpActions
    (skippedFieldTypes (siteRuleFields reportFields) payload)
  rw [unfolded, whole]
  have targets : Targets (totpActions ++ added) := keeps codes.targets
  refine ⟨targets, (fitting.append ?_).mono subset, ?_⟩
  · intro action member
    obtain ⟨field, among, -, picked⟩ := each action member
    exact ⟨field, among, actionForSiteRuleField_fits picked⟩
  -- a further code is for the one field that a rule names, and this is in the run
  have further : ∀ action ∈ codesOf added, ∃ totp, payload.totp = some totp ∧
      ∃ field ∈ siteRuleFields reportFields, .totp ∈ field.rt ∧
      .totp ∉ skippedFieldTypes (siteRuleFields reportFields) payload ∧ action = pending field .totp totp ∧
      action.fi ∉ totpActions.map (·.fi) := by
    intro action member
    obtain ⟨member, code⟩ := List.mem_filter.mp member
    obtain ⟨field, among, new, picked⟩ := each action member
    obtain ⟨ft, named, free, totp, value, rfl⟩ := actionForSiteRuleField_some picked
    obtain rfl : ft = .totp := of_decide_eq_true code
    exact ⟨totp, value, field, among, named, free, rfl, new⟩
  rw [codesOf_append, codesOf_self codes.role]
  cases sole : codesOf added with
  | nil =>
      rw [List.append_nil]
      exact codes.mono subset
  | cons one rest =>
      obtain ⟨totp, value, field, among, named, free, rfl, new⟩ := further one (sole ▸ List.mem_cons_self)
      have empty : totpActions = [] := by
        by_contra some
        obtain ⟨seed, member, role, used⟩ := seeded some
        rw [soleTotpField value free member role among named] at used
        exact new used
      have alone : rest = [] := by
        cases rest with
        | nil => rfl
        | cons other rest =>
            obtain ⟨_, -, field', among', named', -, rfl, -⟩ :=
              further other (sole ▸ List.mem_cons_of_mem _ List.mem_cons_self)
            have apart : (codesOf added).map (·.fi) |>.Nodup :=
              targets.sublist ((List.filter_sublist.trans (List.sublist_append_right _ _)).map _)
            rw [sole, soleTotpField value free among' named' among named] at apart
            simp [pending] at apart
      rw [empty, alone]
      exact .whole value (.inl rfl)

end Rules

/-! ## Actions for what is left -/

section Fallback

variable {library : Library} {payload : LoginFillPayload} {registers : Prop}
  {fields : List AutofillTriageFieldResult} {types : List AutofillFieldQualification}
  {primary fallback front codes : List PendingAutofillFillAction}

theorem appendFallbackAction_cases (types : List AutofillFieldQualification) (actions : List PendingAutofillFillAction)
    (action : PendingAutofillFillAction) :
    (appendFallbackAction types actions action = actions ∧ (action.fi ∈ actions.map (·.fi) ∨ action.ft ∈ types)) ∨
      (appendFallbackAction types actions action = actions ++ [action] ∧ action.fi ∉ actions.map (·.fi) ∧
        (action.ft ∈ types → action.ft = .newPassword ∨ action.ft = .confirmation)) := by
  simp only [appendFallbackAction]
  split
  · rename_i taken
    refine .inl ⟨rfl, ?_⟩
    simp only [Bool.or_eq_true, Bool.and_eq_true, List.contains_iff_mem] at taken
    exact taken.imp_right (·.2)
  · rename_i free
    simp only [Bool.or_eq_true, Bool.and_eq_true, List.contains_iff_mem, not_or, not_and] at free
    refine .inr ⟨rfl, free.1, fun typed => ?_⟩
    by_contra once
    exact free.2 (by simpa using once) typed

/-- Further actions for further fields, each but a new password for a further role. -/
structure Extends (types : List AutofillFieldQualification)
    (actions kept fallback : List PendingAutofillFillAction) : Prop where
  subset : kept ⊆ fallback
  new : ∀ action ∈ kept, action.fi ∉ actions.map (·.fi)
  role : ∀ action ∈ kept, action.ft ∈ types → action.ft = .newPassword ∨ action.ft = .confirmation
  targets : Targets actions → Targets (actions ++ kept)

theorem foldl_appendFallbackAction (types : List AutofillFieldQualification)
    (fallback actions : List PendingAutofillFillAction) :
    ∃ kept, fallback.foldl (appendFallbackAction types) actions = actions ++ kept ∧ Extends types actions kept fallback := by
  induction fallback generalizing actions with
  | nil => exact ⟨[], by simp, List.nil_subset _, nofun, nofun, by simp⟩
  | cons action fallback ih =>
      rw [List.foldl_cons]
      rcases appendFallbackAction_cases types actions action with ⟨same, -⟩ | ⟨added, unused, role⟩
      · obtain ⟨kept, whole, more⟩ := ih actions
        exact ⟨kept, by rw [same, whole], { more with subset := fun _ member => List.mem_cons_of_mem _ (more.subset member) }⟩
      · obtain ⟨kept, whole, more⟩ := ih (actions ++ [action])
        refine ⟨action :: kept, by rw [added, whole]; simp, ?_, ?_, ?_, fun distinct => ?_⟩
        · exact List.cons_subset_cons action more.subset
        · intro other member
          rcases List.mem_cons.mp member with rfl | later
          · exact unused
          · exact fun old => more.new other later (by simp [List.map_append, old])
        · intro other member
          rcases List.mem_cons.mp member with rfl | later
          · exact role
          · exact more.role other later
        · have one : Targets (actions ++ [action]) := by
            rw [Targets, List.map_append, List.map_singleton, List.nodup_append]
            refine ⟨distinct, List.nodup_singleton _, ?_⟩
            rintro _ old _ here rfl
            exact unused (List.mem_singleton.mp here ▸ old)
          simpa using more.targets one

/-- Where no code is typed yet, those go on that have their field for themselves. -/
theorem foldl_codes (actions : List PendingAutofillFillAction) (role : ∀ code ∈ codes, code.ft = .totp)
    (distinct : (codes.map (·.fi)).Nodup) (absent : .totp ∉ types) :
    codes.foldl (appendFallbackAction types) actions =
      actions ++ codes.filter fun code => code.fi ∉ actions.map (·.fi) := by
  induction codes generalizing actions with
  | nil => simp
  | cons code codes ih =>
      rw [List.map_cons, List.nodup_cons] at distinct
      have later := fun actions => ih actions (fun other member => role other (List.mem_cons_of_mem _ member)) distinct.2
      rw [List.foldl_cons]
      rcases appendFallbackAction_cases types actions code with ⟨same, taken⟩ | ⟨added, unused, -⟩
      · have used : code.fi ∈ actions.map (·.fi) :=
          taken.resolve_right fun typed => absent (role code List.mem_cons_self ▸ typed)
        rw [same, later, List.filter_cons_of_neg (by simpa using used)]
      · rw [added, later, List.filter_cons_of_pos (by simpa using unused), List.append_assoc, List.singleton_append]
        congr 2
        apply List.filter_congr
        intro other member
        have apart : other.fi ≠ code.fi := fun same => distinct.1 (same ▸ List.mem_map_of_mem member)
        simp [apart]

/-- The fields with an action that is not for a code. -/
def othersOf (actions : List PendingAutofillFillAction) : List String :=
  (actions.filter fun action => action.ft ≠ .totp).map (·.fi)

theorem othersOf_append (first second : List PendingAutofillFillAction) :
    othersOf (first ++ second) = othersOf first ++ othersOf second := by
  simp [othersOf]

theorem othersOf_codes (role : ∀ code ∈ codes, code.ft = .totp) : othersOf codes = [] := by
  simpa [othersOf] using role

theorem othersOf_all (others : ∀ action ∈ primary, action.ft ≠ .totp) : othersOf primary = primary.map (·.fi) := by
  rw [othersOf, List.filter_eq_self.mpr]
  exact fun action member => by simpa using others action member

/-- Codes for the fields that no other action has taken. -/
def CodeActions (library : Library) (payload : LoginFillPayload) (fields : List AutofillTriageFieldResult)
    (actions : List PendingAutofillFillAction) : Prop :=
  ∃ codes, CodeList library payload fields codes ∧
    codesOf actions = codes.filter fun code => code.fi ∉ othersOf actions

/-- Actions for distinct fields, each with what is for its role. -/
structure Planned (library : Library) (payload : LoginFillPayload) (registers agree : Prop)
    (fields : List AutofillTriageFieldResult) (actions : List PendingAutofillFillAction) : Prop where
  targets : Targets actions
  fitting : Fitting library payload registers fields actions
  codes : agree → CodeActions library payload fields actions

/-- Actions of which those for other fields fit, with the codes at the end. -/
structure Fallback (library : Library) (payload : LoginFillPayload) (registers : Prop)
    (fields : List AutofillTriageFieldResult) (primary front codes : List PendingAutofillFillAction) : Prop where
  fitting : ∀ action ∈ front, action.fi ∉ primary.map (·.fi) →
    action.ft ≠ .totp ∧ ∃ field ∈ fields, Fits library payload registers field action
  codesFit : Fitting library payload registers fields codes
  codes : CodeList library payload fields codes

theorem Fallback.codeActions (fallback : Fallback library payload registers fields primary front codes)
    (was : CodeActions library payload fields primary) :
    CodeActions library payload fields (appendFallbackActions primary (front ++ codes)) := by
  by_cases typed : .totp ∈ primary.map (·.ft)
  · obtain ⟨kept, whole, more⟩ := foldl_appendFallbackAction (primary.map (·.ft)) (front ++ codes) primary
    obtain ⟨old, list, same⟩ := was
    have others : ∀ action ∈ kept, action.ft ≠ .totp := by
      intro action member code
      have := more.role action member (code ▸ typed)
      simp [code] at this
    refine ⟨old, list, ?_⟩
    rw [appendFallbackActions, whole, codesOf_append, codesOf_none others, List.append_nil, same, othersOf_append,
      othersOf_all others]
    apply List.filter_congr
    intro code member
    by_cases taken : code.fi ∈ othersOf primary
    · simp [taken]
    · have stands : code ∈ codesOf primary := by
        rw [same]
        exact List.mem_filter.mpr ⟨member, by simpa using taken⟩
      have target : code.fi ∈ primary.map (·.fi) := List.mem_map_of_mem (List.mem_filter.mp stands).1
      have free : code.fi ∉ kept.map (·.fi) := by
        intro again
        obtain ⟨action, inKept, same⟩ := List.mem_map.mp again
        exact more.new action inKept (same ▸ target)
      simp only [List.mem_append, taken, free, or_self]
  · obtain ⟨kept, whole, more⟩ := foldl_appendFallbackAction (primary.map (·.ft)) front primary
    have others : ∀ action ∈ primary ++ kept, action.ft ≠ .totp := by
      intro action member
      rcases List.mem_append.mp member with old | new
      · exact fun code => typed (code ▸ List.mem_map_of_mem old)
      · exact (fallback.fitting action (more.subset new) (more.new action new)).1
    have role : ∀ code ∈ codes.filter (fun code => code.fi ∉ (primary ++ kept).map (·.fi)), code.ft = .totp :=
      fun code member => fallback.codes.role code (List.mem_filter.mp member).1
    refine ⟨codes, fallback.codes, ?_⟩
    rw [appendFallbackActions, List.foldl_append, whole, foldl_codes _ fallback.codes.role fallback.codes.targets typed,
      codesOf_append, codesOf_none others, codesOf_self role, othersOf_append, othersOf_all others, othersOf_codes role,
      List.nil_append, List.append_nil]

theorem Planned.append {agree : Prop} (was : Planned library payload registers agree fields primary)
    (fallback : Fallback library payload registers fields primary front codes) :
    Planned library payload registers agree fields (appendFallbackActions primary (front ++ codes)) := by
  obtain ⟨kept, whole, more⟩ := foldl_appendFallbackAction (primary.map (·.ft)) (front ++ codes) primary
  refine ⟨?_, ?_, fun agree => fallback.codeActions (was.codes agree)⟩
  · rw [appendFallbackActions, whole]
    exact more.targets was.targets
  · rw [appendFallbackActions, whole]
    refine was.fitting.append fun action member => ?_
    rcases List.mem_append.mp (more.subset member) with early | late
    · exact (fallback.fitting action early (more.new action member)).2
    · exact fallback.codesFit action late

end Fallback

end VaultKern.Filling
