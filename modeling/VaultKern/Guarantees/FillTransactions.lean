import VaultKern.Extension.ApplyFillPlan

/-! # Filling is all or nothing

The page may do as it likes at each event. When a group is done, either all of it stands typed where it was
bound, or the last loop, at whose steps no event is dispatched, has put the fields back.
-/

namespace VaultKern.Filling

variable {services : FillServices} {handlers : PageHandlers} {context : FillContext}
  {prepared : List PreparedFillAction} {item : PreparedFillAction} {fill : Fill}

/-! ## Calls of setters -/

section Calls

variable {setter : Setter} {element other : Node} {value : JsText}

@[simp] theorem Page.setValue_document (page : Page) (element : Node) (value : JsText) :
    (page.setValue element value).document = page.document := rfl

@[simp] theorem Page.setValue_same (page : Page) (element : Node) (value : JsText) :
    (page.setValue element value).value element = value := if_pos rfl

theorem Page.setValue_other (page : Page) (value : JsText) (apart : other ≠ element) :
    (page.setValue element value).value other = page.value other := if_neg apart

@[simp] theorem callSetter_document :
    (callSetter services setter element value fill).2.page.document = fill.page.document := by
  rw [callSetter]
  split <;> rfl

theorem callSetter_other (apart : other ≠ element) :
    (callSetter services setter element value fill).2.page.value other = fill.page.value other := by
  rw [callSetter]
  split
  · exact Page.setValue_other _ _ apart
  · rfl

theorem callSetter_same {held : JsText}
    (takes : services.callSetter setter fill.page.document element value = some held) :
    (callSetter services setter element value fill).2.page.value element = held := by
  rw [callSetter, takes]
  exact Page.setValue_same _ _ _

@[simp] theorem callSetter_writes : (callSetter services setter element value fill).2.writes =
    fill.writes ++ [{ before := fill.page, element, value }] := by
  rw [callSetter]
  split <;> rfl

end Calls

/-! ## The last loop -/

section Silent

variable {element : Node} {replacement : Node}

theorem restoreElement_silent (services : FillServices) (handlers : PageHandlers) (item : PreparedFillAction)
    (element : Node) (fill : Fill) : ∃ native,
    (native = if element = item.element then some item.setter
      else nativeValueSetterForField fill.page.document element) ∧
      restoreElement services handlers item element false fill = native.elim fill fun native =>
        (callSetter services native element item.originalValue fill).2 := by
  refine ⟨_, rfl, ?_⟩
  rw [restoreElement]
  split
  · rename_i none
    simp [none]
  · rename_i native some
    simp only [some, Option.elim_some]
    split
    · rename_i called
      rw [called]
    · rename_i called
      rw [called, if_neg (by simp)]

theorem restoreElement_silent_document :
    (restoreElement services handlers item element false fill).page.document = fill.page.document := by
  obtain ⟨native, -, run⟩ := restoreElement_silent services handlers item element fill
  rw [run]
  cases native with
  | none => rfl
  | some native => exact callSetter_document

theorem restoreElement_silent_other {other : Node} (apart : other ≠ element) :
    (restoreElement services handlers item element false fill).page.value other = fill.page.value other := by
  obtain ⟨native, -, run⟩ := restoreElement_silent services handlers item element fill
  rw [run]
  cases native with
  | none => rfl
  | some native => exact callSetter_other apart

theorem restoreElement_silent_same {held : JsText}
    (takes : services.callSetter item.setter fill.page.document item.element item.originalValue = some held) :
    (restoreElement services handlers item item.element false fill).page.value item.element = held := by
  obtain ⟨native, setter, run⟩ := restoreElement_silent services handlers item item.element fill
  rw [if_pos rfl] at setter
  rw [run, setter]
  exact callSetter_same takes

theorem leakedReplacement_some (found : leakedReplacement item fill.page = some replacement) :
    valueElement fill.page.document (replacementAtOriginalPosition item fill.page.document) = some replacement ∧
      replacement ≠ item.element ∧ fill.page.value replacement = item.action.v := by
  obtain ⟨stands, leaked⟩ := Option.filter_eq_some_iff.mp found
  simp only [Bool.and_eq_true, decide_eq_true_eq] at leaked
  exact ⟨stands, leaked.1, leaked.2⟩

theorem restoreReplacement_silent_document :
    (restoreReplacement services handlers item false fill).page.document = fill.page.document := by
  rw [restoreReplacement]
  split
  · exact restoreElement_silent_document
  · rfl

/-- Items for one element were prepared alike. -/
def Alike (prepared : List PreparedFillAction) : Prop :=
  ∀ item ∈ prepared, ∀ other ∈ prepared, other.element = item.element →
    other.originalValue = item.originalValue ∧ other.setter = item.setter

/-- The element stands where another item was, with the text that was typed there. -/
def Mistaken (document : Document) (prepared : List PreparedFillAction) (item : PreparedFillAction) : Prop :=
  ∃ other ∈ prepared, other.element ≠ item.element ∧
    valueElement document (replacementAtOriginalPosition other document) = some item.element ∧
    other.action.v = item.originalValue

theorem restoreSilently_document :
    (restoreSilently services handlers fill item).page.document = fill.page.document :=
  restoreReplacement_silent_document.trans restoreElement_silent_document

/-- The setter of the item takes the value that was there before. -/
def SetterWorks (services : FillServices) (document : Document) (item : PreparedFillAction) : Prop :=
  services.callSetter item.setter document item.element item.originalValue = some item.originalValue

variable (handlers) in
/-- No step takes the value away again, and its own step has brought it. -/
theorem restoreSilently_step {other : PreparedFillAction} (alike : Alike prepared) (member : item ∈ prepared)
    (member' : other ∈ prepared) (works : SetterWorks services fill.page.document item)
    (clear : ¬ Mistaken fill.page.document prepared item)
    (held : other = item ∨ fill.page.value item.element = item.originalValue) :
    (restoreSilently services handlers fill other).page.value item.element = item.originalValue := by
  have first : (restoreElement services handlers other other.element false fill).page.value item.element =
      item.originalValue := by
    by_cases same : other.element = item.element
    · obtain ⟨original, setter⟩ := alike item member other member' same
      rw [← same]
      refine restoreElement_silent_same ?_
      rw [original, setter, same]
      exact works
    · rw [restoreElement_silent_other (Ne.symm same)]
      exact held.resolve_left fun isItem => same (congrArg _ isItem)
  rw [restoreSilently, restoreReplacement]
  split
  · rename_i replacement found
    obtain ⟨stands, apart, typed⟩ := leakedReplacement_some found
    rw [restoreElement_silent_document] at stands
    by_cases here : replacement = item.element
    · subst here
      exact absurd ⟨other, member', Ne.symm apart, stands, typed.symm.trans first⟩ clear
    · rw [restoreElement_silent_other (Ne.symm here), first]
  · exact first

theorem foldl_restoreSilently_document (items : List PreparedFillAction) :
    (items.foldl (restoreSilently services handlers) fill).page.document = fill.page.document := by
  induction items generalizing fill with
  | nil => rfl
  | cons other items ih => exact ih.trans restoreSilently_document

theorem foldl_restoreSilently {items : List PreparedFillAction} (alike : Alike prepared) (member : item ∈ prepared)
    (subset : items ⊆ prepared) (works : SetterWorks services fill.page.document item)
    (clear : ¬ Mistaken fill.page.document prepared item)
    (held : item ∈ items ∨ fill.page.value item.element = item.originalValue) :
    (items.foldl (restoreSilently services handlers) fill).page.value item.element = item.originalValue := by
  induction items generalizing fill with
  | nil => exact held.resolve_left List.not_mem_nil
  | cons other items ih =>
      have document : (restoreSilently services handlers fill other).page.document = fill.page.document :=
        restoreSilently_document
      rw [List.foldl_cons]
      refine ih (fun item inItems => subset (List.mem_cons_of_mem _ inItems)) (document ▸ works) (document ▸ clear) ?_
      have step := restoreSilently_step handlers alike member (subset List.mem_cons_self) works clear
      rcases held with here | already
      · rcases List.mem_cons.mp here with isItem | later
        · exact .inr (step (.inl isItem.symm))
        · exact .inl later
      · exact .inr (step (.inr already))

/-- The fields hold what they held, but for those whose setter fails or that are mistaken for another field. -/
def PutBack (services : FillServices) (prepared : List PreparedFillAction) (page : Page) : Prop :=
  ∀ item ∈ prepared, SetterWorks services page.document item → ¬ Mistaken page.document prepared item →
    page.value item.element = item.originalValue

theorem rollbackActionGroup_putBack (alike : Alike prepared) (sync : Bool) :
    PutBack services prepared (rollbackActionGroup services handlers prepared sync fill).page := by
  intro item member works clear
  rw [rollbackActionGroup] at works clear ⊢
  simp only [foldl_restoreSilently_document] at works clear
  exact foldl_restoreSilently alike member (fun _ inItems => List.mem_reverse.mp inItems) works clear
    (.inl (List.mem_reverse.mpr member))

end Silent

/-! ## One group -/

section Commit

/-- The values stand in the fields that were bound, where they were bound. -/
def Committed (services : FillServices) (context : FillContext) (prepared : List PreparedFillAction) (page : Page) :
    Prop :=
  ∃ rule, liveSiteRule services context page.document = some rule ∧ ∀ item ∈ prepared,
    itemStructureStillBound services item context page rule = true ∧ page.value item.element = item.action.v

theorem groupStillBound_iff {page : Page} {expectedValue : ExpectedValue} :
    groupStillBound services prepared context page expectedValue = true ↔
      ∃ rule, liveSiteRule services context page.document = some rule ∧ ∀ item ∈ prepared,
        itemStructureStillBound services item context page rule = true ∧
          page.value item.element = item.expected expectedValue := by
  rw [groupStillBound, Option.any_eq_true]
  simp [itemStillBound]

/-- All of the group, or nothing. -/
inductive Settled (services : FillServices) (context : FillContext) (prepared : List PreparedFillAction)
    (before after : Fill) : Prop
  | untouched (same : after = before)
  | committed (stands : Committed services context prepared after.page)
  | putBack (restored : PutBack services prepared after.page)

theorem reconcileAfterEvent_true {index : Nat} {reconciled : Fill}
    (run : reconcileAfterEvent services prepared index context fill = (true, reconciled)) :
    Committed services context prepared reconciled.page := by
  rw [reconcileAfterEvent] at run
  split at run
  · cases run
  · split at run
    · cases run
    · rename_i items
      obtain ⟨bound, same⟩ := Prod.mk.inj run
      rw [← same]
      exact groupStillBound_iff.mp bound

variable (handlers) in
/-- The induction is on the events that are left: the group stands when the last one was looked at. -/
theorem dispatchEvents_settled {events : List (Nat × PreparedFillAction × String)} (eventStarted : Bool)
    (alike : Alike prepared) (idle : events = [] → Committed services context prepared fill.page) :
    Committed services context prepared
        (dispatchEvents services handlers prepared context events eventStarted fill).page ∨
      PutBack services prepared (dispatchEvents services handlers prepared context events eventStarted fill).page := by
  induction events generalizing fill eventStarted with
  | nil => exact .inl (idle rfl)
  | cons event events ih =>
      obtain ⟨index, item, eventName⟩ := event
      rw [dispatchEvents]
      split
      · exact .inr (rollbackActionGroup_putBack alike eventStarted)
      · split
        · exact .inr (rollbackActionGroup_putBack alike true)
        · rename_i reconciled run
          exact ih true fun _ => reconcileAfterEvent_true run

variable (services fill) in
theorem stageValues_document (items : List PreparedFillAction) :
    (stageValues services items fill).2.page.document = fill.page.document := by
  induction items generalizing fill with
  | nil => rfl
  | cons item items ih =>
      have called : (callSetter services item.setter item.element item.action.v fill).2.page.document =
          fill.page.document := callSetter_document
      rw [stageValues]
      split
      · rename_i staged run
        rw [run] at called
        exact (ih staged).trans called
      · rename_i staged run
        rw [run] at called
        exact called

theorem fillEvents_nil (none : fillEvents prepared = []) : prepared = [] := by
  cases prepared with
  | nil => rfl
  | cons item items => simp [fillEvents, List.zipIdx_cons] at none

theorem commitActionGroup_settled (alike : Alike prepared) :
    Settled services context prepared fill (commitActionGroup services handlers context fill prepared) := by
  rw [commitActionGroup]
  split
  · exact .untouched rfl
  rename_i bound
  simp only [Bool.not_eq_true, Bool.not_eq_false'] at bound
  split
  · exact .putBack (rollbackActionGroup_putBack alike false)
  · rename_i staged run
    have document : staged.page.document = fill.page.document := by
      have := stageValues_document services fill prepared
      rwa [run] at this
    have idle : fillEvents prepared = [] → Committed services context prepared staged.page := by
      intro none
      obtain ⟨rule, live, -⟩ := groupStillBound_iff.mp bound
      rw [fillEvents_nil none]
      exact ⟨rule, document ▸ live, fun item member => absurd member List.not_mem_nil⟩
    rcases dispatchEvents_settled handlers false alike idle with stands | restored
    · exact .committed stands
    · exact .putBack restored

end Commit

/-! ## What is typed, and where -/

section Writes

/-- The item was looked at, and since then no more than values of the group has changed. -/
def Checked (services : FillServices) (context : FillContext) (prepared : List PreparedFillAction)
    (item : PreparedFillAction) (page : Page) : Prop :=
  ∃ checked : Page, checked.document = page.document ∧
    (∀ node, (∀ other ∈ prepared, node ≠ other.element) → page.value node = checked.value node) ∧
    ∃ rule, liveSiteRule services context checked.document = some rule ∧
      itemStructureStillBound services item context checked rule = true

/-- The first text that is put into a field which stands in the place of the item, with the value that was typed. -/
def Replaces (item : PreparedFillAction) (write : Write) : Prop :=
  leakedReplacement item write.before = some write.element ∧ write.value = item.originalValue

/-- A planned value goes to its field, just checked. An earlier value goes back to its field, or to one that has
    its place and its secret, and there once more after the events. -/
inductive Allowed (services : FillServices) (context : FillContext) (prepared : List PreparedFillAction)
    (writes : List Write) (write : Write) : Prop
  | planned {item : PreparedFillAction} (member : item ∈ prepared) (element : write.element = item.element)
      (value : write.value = item.action.v) (checked : Checked services context prepared item write.before)
  | original {item : PreparedFillAction} (member : item ∈ prepared) (element : write.element = item.element)
      (value : write.value = item.originalValue)
  | replaced {item : PreparedFillAction} (member : item ∈ prepared) (replaces : Replaces item write)
  | again {item : PreparedFillAction} {earlier : Write} (member : item ∈ prepared) (before : earlier ∈ writes)
      (replaces : Replaces item earlier) (element : write.element = earlier.element)
      (value : write.value = earlier.value)

theorem Allowed.mono {writes more : List Write} {write : Write} (allowed : Allowed services context prepared writes write)
    (subset : writes ⊆ more) : Allowed services context prepared more write := by
  cases allowed with
  | planned member element value checked => exact .planned member element value checked
  | original member element value => exact .original member element value
  | replaced member replaces => exact .replaced member replaces
  | again member before replaces element value => exact .again member (subset before) replaces element value

/-- The calls between two points of a run, all allowed. -/
def Types (services : FillServices) (context : FillContext) (prepared : List PreparedFillAction)
    (before after : Fill) : Prop :=
  ∃ more, after.writes = before.writes ++ more ∧
    ∀ write ∈ more, Allowed services context prepared after.writes write

theorem Types.of_same {after : Fill} (same : after.writes = fill.writes) :
    Types services context prepared fill after := ⟨[], by simp [same], by simp⟩

theorem Types.trans {middle after : Fill} (first : Types services context prepared fill middle)
    (second : Types services context prepared middle after) : Types services context prepared fill after := by
  obtain ⟨one, whole, allowed⟩ := first
  obtain ⟨other, whole', allowed'⟩ := second
  refine ⟨one ++ other, by rw [whole', whole, List.append_assoc], fun write member => ?_⟩
  rcases List.mem_append.mp member with early | late
  · refine (allowed write early).mono ?_
    rw [whole']
    exact List.subset_append_left _ _
  · exact allowed' write late

theorem Types.call {setter : Setter} {element : Node} {value : JsText}
    (allowed : Allowed services context prepared fill.writes { before := fill.page, element, value }) :
    Types services context prepared fill (callSetter services setter element value fill).2 := by
  refine ⟨[_], callSetter_writes, fun write member => ?_⟩
  rw [List.mem_singleton.mp member, callSetter_writes]
  exact allowed.mono (List.subset_append_left _ _)

theorem dispatchFillEvent_writes (handlers : PageHandlers) (element : Node) (eventName : String) :
    (dispatchFillEvent handlers element eventName fill).writes = fill.writes := by
  rw [dispatchFillEvent]
  split <;> rfl

/-- What holds of the first text holds of the second one. -/
theorem restoreElement_types {element : Node} {dispatchEvents : Bool}
    (first : Allowed services context prepared fill.writes
      { before := fill.page, element, value := item.originalValue })
    (second : ∀ page writes, { before := fill.page, element, value := item.originalValue : Write } ∈ writes →
      Allowed services context prepared writes { before := page, element, value := item.originalValue }) :
    Types services context prepared fill (restoreElement services handlers item element dispatchEvents fill) := by
  rw [restoreElement]
  split
  · exact .of_same rfl
  rename_i native _
  have typed : Types services context prepared fill (callSetter services native element item.originalValue fill).2 :=
    .call first
  have logged : (callSetter services native element item.originalValue fill).2.writes = _ := callSetter_writes
  split
  · rename_i called run
    rw [run] at typed
    exact typed
  · rename_i called run
    rw [run] at typed logged
    split
    · have events : Types services context prepared called
          (dispatchFillEvent handlers element "change" (dispatchFillEvent handlers element "input" called)) :=
        .of_same (by rw [dispatchFillEvent_writes, dispatchFillEvent_writes])
      refine (typed.trans events).trans (.call (second _ _ ?_))
      rw [dispatchFillEvent_writes, dispatchFillEvent_writes, logged]
      exact List.mem_append_right _ (List.mem_singleton_self _)
    · exact typed

theorem restoreItem_types {dispatchEvents : Bool} (member : item ∈ prepared) :
    Types services context prepared fill (restoreElement services handlers item item.element dispatchEvents fill) :=
  restoreElement_types (.original member rfl rfl) fun _ _ _ => .original member rfl rfl

theorem restoreReplacement_types {dispatchEvents : Bool} (member : item ∈ prepared) :
    Types services context prepared fill (restoreReplacement services handlers item dispatchEvents fill) := by
  rw [restoreReplacement]
  split
  · rename_i replacement found
    exact restoreElement_types (.replaced member ⟨found, rfl⟩) fun page writes before =>
      .again member before ⟨found, rfl⟩ rfl rfl
  · exact .of_same rfl

theorem foldl_types {step : Fill → PreparedFillAction → Fill} {items : List PreparedFillAction}
    (each : ∀ fill, ∀ item ∈ items, Types services context prepared fill (step fill item)) :
    Types services context prepared fill (items.foldl step fill) := by
  induction items generalizing fill with
  | nil => exact .of_same rfl
  | cons item items ih =>
      exact (each fill item List.mem_cons_self).trans
        (ih fun fill other member => each fill other (List.mem_cons_of_mem _ member))

theorem rollbackActionGroup_types {sync : Bool} :
    Types services context prepared fill (rollbackActionGroup services handlers prepared sync fill) := by
  have among : ∀ {item}, item ∈ prepared.reverse → item ∈ prepared := List.mem_reverse.mp
  have last : ∀ fill, Types services context prepared fill
      (prepared.reverse.foldl (restoreSilently services handlers) fill) := fun fill =>
    foldl_types fun fill item member => (restoreItem_types (among member)).trans (restoreReplacement_types (among member))
  rw [rollbackActionGroup]
  refine Types.trans ?_ (last _)
  split
  · exact Types.trans (foldl_types fun fill item member => restoreItem_types (among member))
      (foldl_types fun fill item member => restoreReplacement_types (among member))
  · exact .of_same rfl

theorem reconcileItems_types {rule : Option MatchedAutofillSiteRule} (currentIndex index : Nat)
    {items : List PreparedFillAction} (subset : items ⊆ prepared)
    (live : liveSiteRule services context fill.page.document = some rule) :
    Types services context prepared fill (reconcileItems services context rule currentIndex index items fill).2 := by
  induction items generalizing fill index with
  | nil => exact .of_same rfl
  | cons item items ih =>
      have later : items ⊆ prepared := fun other member => subset (List.mem_cons_of_mem _ member)
      rw [reconcileItems]
      split
      · exact .of_same rfl
      rename_i bound
      simp only [Bool.not_eq_true, Bool.not_eq_false'] at bound
      split
      · exact ih _ later live
      split
      · exact .of_same rfl
      have checked : Checked services context prepared item fill.page := ⟨fill.page, rfl, fun _ _ => rfl, rule, live, bound⟩
      have typed : Types services context prepared fill
          (callSetter services item.setter item.element item.action.v fill).2 :=
        .call (.planned (subset List.mem_cons_self) rfl rfl checked)
      have document : (callSetter services item.setter item.element item.action.v fill).2.page.document =
          fill.page.document := callSetter_document
      split
      · rename_i called run
        rw [run] at typed document
        exact typed.trans (ih _ later (document ▸ live))
      · rename_i called run
        rw [run] at typed
        exact typed

theorem reconcileAfterEvent_types (index : Nat) :
    Types services context prepared fill (reconcileAfterEvent services prepared index context fill).2 := by
  rw [reconcileAfterEvent]
  split
  · exact .of_same rfl
  · rename_i rule live
    have items := reconcileItems_types index 0 (List.Subset.refl prepared) live
    split
    · rename_i reconciled run
      rw [run] at items
      exact items
    · rename_i reconciled run
      rw [run] at items
      exact items

/-- All items were looked at before the first was typed. -/
theorem stageValues_types {rule : Option MatchedAutofillSiteRule} {items : List PreparedFillAction} {checked : Page}
    (subset : items ⊆ prepared) (live : liveSiteRule services context checked.document = some rule)
    (bound : ∀ item ∈ prepared, itemStructureStillBound services item context checked rule = true)
    (document : checked.document = fill.page.document)
    (values : ∀ node, (∀ other ∈ prepared, node ≠ other.element) → fill.page.value node = checked.value node) :
    Types services context prepared fill (stageValues services items fill).2 := by
  induction items generalizing fill with
  | nil => exact .of_same rfl
  | cons item items ih =>
      have member : item ∈ prepared := subset List.mem_cons_self
      have typed : Types services context prepared fill
          (callSetter services item.setter item.element item.action.v fill).2 :=
        .call (.planned member rfl rfl ⟨checked, document, values, rule, live, bound item member⟩)
      have kept : (callSetter services item.setter item.element item.action.v fill).2.page.document =
          fill.page.document := callSetter_document
      have others : ∀ node, (∀ other ∈ prepared, node ≠ other.element) →
          (callSetter services item.setter item.element item.action.v fill).2.page.value node = checked.value node :=
        fun node apart => (callSetter_other (apart item member)).trans (values node apart)
      rw [stageValues]
      split
      · rename_i called run
        rw [run] at typed kept others
        exact typed.trans (ih (fun other member => subset (List.mem_cons_of_mem _ member)) (document.trans kept.symm) others)
      · rename_i called run
        rw [run] at typed
        exact typed

theorem dispatchEvents_types {events : List (Nat × PreparedFillAction × String)} {eventStarted : Bool} :
    Types services context prepared fill (dispatchEvents services handlers prepared context events eventStarted fill) := by
  induction events generalizing fill eventStarted with
  | nil => exact .of_same rfl
  | cons event events ih =>
      obtain ⟨index, item, eventName⟩ := event
      rw [dispatchEvents]
      split
      · exact rollbackActionGroup_types
      have event : Types services context prepared fill (dispatchFillEvent handlers item.element eventName fill) :=
        .of_same (dispatchFillEvent_writes handlers item.element eventName)
      have looked := event.trans (reconcileAfterEvent_types index)
      split
      · rename_i reconciled run
        rw [run] at looked
        exact looked.trans rollbackActionGroup_types
      · rename_i reconciled run
        rw [run] at looked
        exact looked.trans ih

variable (services handlers context prepared fill) in
theorem commitActionGroup_types :
    Types services context prepared fill (commitActionGroup services handlers context fill prepared) := by
  rw [commitActionGroup]
  split
  · exact .of_same rfl
  rename_i bound
  simp only [Bool.not_eq_true, Bool.not_eq_false'] at bound
  obtain ⟨rule, live, each⟩ := groupStillBound_iff.mp bound
  have staged := stageValues_types (List.Subset.refl prepared) live (fun item member => (each item member).1) rfl
    fun _ _ => rfl
  split
  · rename_i staging run
    rw [run] at staged
    exact staged.trans rollbackActionGroup_types
  · rename_i staging run
    rw [run] at staged
    exact staged.trans dispatchEvents_types

end Writes

/-! ## Preparation -/

section Preparation

variable {documentRef : Node} {page : Page} {plan : AutofillFillPlan}

/-- The element was found to be the one that was planned, in its role, before any event. -/
structure Validated (services : FillServices) (documentRef : Node) (page : Page) (item : PreparedFillAction) : Prop where
  target : item.action.t = some item.element
  own : page.document.ownerDocument item.element = documentRef
  field : ∃ snapshot, services.collectAutofillPageSnapshot page = some snapshot ∧
    ∃ field, (triageAutofillPage services.qualifyAutofillField snapshot)[item.action.n]? = some field ∧
      field.o = item.action.fi ∧ services.physicalFieldForSnapshot page field.o = some item.element ∧
      credentialScopeKey field = item.action.pg ∧ currentRoleMatches item.action field = true
  writable : isWritableField services page item.element (secretRoleForAction item.action) = true
  original : item.originalValue = page.value item.element
  setter : nativeValueSetterForField page.document item.element = some item.setter

theorem prepareAction_validated {snapshot : AutofillPageSnapshot} {action : AutofillFillAction}
    (collected : services.collectAutofillPageSnapshot page = some snapshot)
    (made : prepareAction services documentRef page (triageAutofillPage services.qualifyAutofillField snapshot) action =
      some item) : Validated services documentRef page item ∧ item.action = action := by
  obtain ⟨element, found, made⟩ := Option.bind_eq_some_iff.mp made
  obtain ⟨setter, native, made⟩ := Option.bind_eq_some_iff.mp made
  obtain ⟨parent, -, made⟩ := Option.bind_eq_some_iff.mp made
  simp only at made
  split at made
  · cases made
  obtain rfl := Option.some.inj made
  unfold targetForAction at found
  split at found
  · rename_i target field planned current
    split at found
    · rename_i checks
      obtain rfl := Option.some.inj found
      simp only [Bool.and_eq_true, decide_eq_true_eq] at checks
      obtain ⟨⟨⟨⟨⟨⟨own, sameId⟩, physical⟩, scope⟩, role⟩, writable⟩, -⟩ := checks
      exact ⟨⟨planned, own, ⟨snapshot, collected, field, current, sameId, physical, scope, role⟩, writable, rfl, native⟩, rfl⟩
    · cases found
  · cases found

theorem mapM_prepareAction {snapshot : AutofillPageSnapshot} {group : List AutofillFillAction}
    (collected : services.collectAutofillPageSnapshot page = some snapshot)
    (made : group.mapM (prepareAction services documentRef page
      (triageAutofillPage services.qualifyAutofillField snapshot)) = some prepared) :
    prepared.map (·.action) = group ∧ ∀ item ∈ prepared, Validated services documentRef page item := by
  induction group generalizing prepared with
  | nil =>
      rw [← Option.some.inj made]
      exact ⟨rfl, fun item member => absurd member List.not_mem_nil⟩
  | cons action group ih =>
      rw [List.mapM_cons] at made
      obtain ⟨item, first, made⟩ := Option.bind_eq_some_iff.mp made
      obtain ⟨items, later, made⟩ := Option.bind_eq_some_iff.mp made
      obtain ⟨valid, same⟩ := prepareAction_validated collected first
      obtain ⟨actions, each⟩ := ih later
      rw [← Option.some.inj made]
      refine ⟨by rw [List.map_cons, same, actions], fun other member => ?_⟩
      rcases List.mem_cons.mp member with rfl | among
      · exact valid
      · exact each other among

/-- The neighbours in the group change nothing of what was validated. -/
theorem prepareActionGroup_validated {snapshot : AutofillPageSnapshot} {group : List AutofillFillAction}
    (collected : services.collectAutofillPageSnapshot page = some snapshot)
    (made : prepareActionGroup services group documentRef page
      (triageAutofillPage services.qualifyAutofillField snapshot) = some prepared) :
    prepared.map (·.action) = group ∧ ∀ item ∈ prepared, Validated services documentRef page item := by
  obtain ⟨items, mapped, rfl⟩ := Option.map_eq_some_iff.mp made
  obtain ⟨actions, each⟩ := mapM_prepareAction collected mapped
  refine ⟨?_, fun item member => ?_⟩
  · have numbered : (items.zipIdx.map Prod.fst).map (·.action) = group := by rw [List.zipIdx_map_fst, actions]
    rw [List.map_map] at numbered ⊢
    exact numbered
  · obtain ⟨⟨original, index⟩, among, rfl⟩ := List.mem_map.mp member
    have inItems : original ∈ items := List.fst_mem_of_mem_zipIdx among
    exact { each original inItems with }

theorem Validated.alike (validated : ∀ item ∈ prepared, Validated services documentRef page item) : Alike prepared := by
  intro item member other member' same
  have one := validated item member
  have two := validated other member'
  refine ⟨by rw [one.original, two.original, same], ?_⟩
  rw [← Option.some.injEq, ← two.setter, ← one.setter, same]

variable (services documentRef page plan) in
theorem preparedGroups_spec : ∀ group ∈ preparedGroups services plan documentRef page,
    (∃ label, group.map (·.action) = plan.ac.filter fun action => action.ag = label) ∧
      ∀ item ∈ group, Validated services documentRef page item := by
  intro prepared member
  rw [preparedGroups] at member
  split at member
  · cases member
  rename_i snapshot collected
  simp only at member
  split at member
  · cases member
  split at member
  · cases member
  obtain ⟨group, among, made⟩ := List.mem_filterMap.mp member
  obtain ⟨label, -, rfl⟩ := List.mem_map.mp among
  obtain ⟨actions, validated⟩ := prepareActionGroup_validated collected made
  exact ⟨⟨label, actions⟩, validated⟩

end Preparation

/-! ## A whole plan -/

section Plan

variable {documentRef : Node} {page : Page} {plan : AutofillFillPlan}

/-- Before the first event. -/
def unfilled (page : Page) : Fill := { page, dispatched := 0, writes := [] }

/-- One group after the other, and each all or nothing. -/
structure AllOrNothing (services : FillServices) (context : FillContext) (documentRef : Node) (page : Page)
    (plan : AutofillFillPlan) (commit : Fill → List PreparedFillAction → Fill) (groups : List (List PreparedFillAction))
    (filled : Fill) : Prop where
  bound : ∀ group ∈ groups, (∃ label, group.map (·.action) = plan.ac.filter fun action => action.ag = label) ∧
    ∀ item ∈ group, Validated services documentRef page item
  run : filled = groups.foldl commit (unfilled page)
  settled : ∀ done group rest, groups = done ++ group :: rest →
    Settled services context group (done.foldl commit (unfilled page)) ((done ++ [group]).foldl commit (unfilled page))
  single : (∀ action ∈ plan.ac, ∀ other ∈ plan.ac, action.ag = other.ag) →
    filled = unfilled page ∨ ∃ group, groups = [group] ∧ Settled services context group (unfilled page) filled
  writes : ∀ write ∈ filled.writes, ∃ group ∈ groups, Allowed services context group filled.writes write

theorem actionGroups_single (same : ∀ action ∈ plan.ac, ∀ other ∈ plan.ac, action.ag = other.ag) :
    (actionGroups plan.ac).length ≤ 1 := by
  rw [actionGroups, List.length_map]
  cases actions : plan.ac with
  | nil => simp
  | cons first rest =>
      have none : (rest.map (·.ag)).filter (fun label => !label == first.ag) = [] := by
        rw [List.filter_eq_nil_iff]
        intro label member
        obtain ⟨action, among, rfl⟩ := List.mem_map.mp member
        have equal := same action (actions ▸ List.mem_cons_of_mem _ among) first (actions ▸ List.mem_cons_self)
        simp [equal]
      rw [List.map_cons, List.eraseDups_cons, none]
      simp

variable (services documentRef page) in
theorem preparedGroups_single (same : ∀ action ∈ plan.ac, ∀ other ∈ plan.ac, action.ag = other.ag) :
    (preparedGroups services plan documentRef page).length ≤ 1 := by
  rw [preparedGroups]
  split
  · exact Nat.zero_le 1
  · simp only
    split
    · exact Nat.zero_le 1
    split
    · exact Nat.zero_le 1
    · exact (List.length_filterMap_le _ _).trans (actionGroups_single same)

theorem foldl_commit_writes {groups : List (List PreparedFillAction)} (write : Write)
    (member : write ∈ (groups.foldl (commitActionGroup services handlers context) fill).writes) :
    write ∈ fill.writes ∨ ∃ group ∈ groups,
      Allowed services context group (groups.foldl (commitActionGroup services handlers context) fill).writes write := by
  induction groups using List.reverseRecOn with
  | nil => exact .inl member
  | append_singleton groups group ih =>
      rw [List.foldl_append, List.foldl_cons, List.foldl_nil] at member ⊢
      obtain ⟨more, whole, allowed⟩ := commitActionGroup_types services handlers context group
        (groups.foldl (commitActionGroup services handlers context) fill)
      rw [whole] at member
      rcases List.mem_append.mp member with early | late
      · rcases ih early with old | ⟨earlier, among, allowed⟩
        · exact .inl old
        · refine .inr ⟨earlier, List.mem_append_left _ among, allowed.mono ?_⟩
          rw [whole]
          exact List.subset_append_left _ _
      · exact .inr ⟨group, List.mem_append_right _ (List.mem_singleton_self _), allowed write late⟩

/-- Whatever the handlers of the page do. -/
theorem applyFillPlan_allOrNothing (services : FillServices) (handlers : PageHandlers) (plan : AutofillFillPlan)
    (documentRef : Node) (page : Page) :
    AllOrNothing services (fillContext plan documentRef page) documentRef page plan
      (commitActionGroup services handlers (fillContext plan documentRef page))
      (preparedGroups services plan documentRef page) (applyFillPlan services handlers plan documentRef page) := by
  have spec := preparedGroups_spec services documentRef page plan
  have settles : ∀ fill, ∀ group ∈ preparedGroups services plan documentRef page,
      Settled services (fillContext plan documentRef page) group fill
        (commitActionGroup services handlers (fillContext plan documentRef page) fill group) := fun fill group member =>
    commitActionGroup_settled (Validated.alike (spec group member).2)
  refine ⟨spec, rfl, fun done group rest split => ?_, fun same => ?_, fun write member => ?_⟩
  · rw [List.foldl_append, List.foldl_cons, List.foldl_nil]
    exact settles _ group (split ▸ List.mem_append_right _ List.mem_cons_self)
  · have few := preparedGroups_single services documentRef page same
    rw [applyFillPlan]
    generalize preparedGroups services plan documentRef page = groups at few settles
    rcases groups with _ | ⟨group, _ | ⟨next, rest⟩⟩
    · exact .inl rfl
    · exact .inr ⟨group, rfl, settles _ group (List.mem_singleton_self _)⟩
    · simp at few
  · rcases foldl_commit_writes write member with none | allowed
    · cases none
    · exact allowed

end Plan

/-! ## A form -/

/-- A form with these children: two fields, another field and a text. -/
def formDocument (children : List Node) : Document where
  href := "https://example.com/"
  ownerDocument _ := 0
  defaultView node := if node = 0 then some 0 else none
  fieldClass _ node := if node ∈ [2, 3, 4] then some .input else none
  valueSetter _ _ := some 0
  nodeType node := if node = 0 then .document else if node = 5 then .other else .element
  tagName node := if node ∈ [2, 3, 4] then "INPUT" else "FORM"
  type node := if node = 2 then "text" else "password"
  id _ := ""
  getAttribute node name :=
    if name = "name" then (if node = 2 then some "username" else if node = 3 then some "password" else none) else none
  dataset _ := []
  disabled _ := false
  readOnly _ := false
  isConnected node := node ∈ 0 :: 1 :: children
  parentNode node := if node = 1 then some 0 else if 2 ≤ node ∧ node ∈ children then some 1 else none
  host _ := none
  previousSibling node := if node ∈ children then (children.takeWhile (· ≠ node)).getLast? else none
  nextSibling node := (children.dropWhile (· ≠ node)).tail.head?
  firstChild node := if node = 1 then children.head? else none
  lastChild node := if node = 1 then children.getLast? else none
  following left right := (children.dropWhile (· ≠ left)).tail.contains right
  matchesSelector _ _ := false
  depth node := if node ≤ 1 then node else 2
  shallower node parent above := by
    rw [Option.or_none] at above
    split at above
    · rename_i isForm
      rw [← Option.some.inj above, isForm]
      decide
    · split at above
      · rename_i deep
        have below : ¬ node ≤ 1 := Nat.not_le.mpr deep.1
        rw [← Option.some.inj above, if_pos (Nat.le_refl 1), if_neg below]
        exact Nat.lt_succ_self 1
      · cases above

def formFields : List AutofillFieldSnapshot :=
  [{ o := "field-0", so := "form-0", fo := some "form-0", n := 0, hy := some "text", hn := some "username" },
    { o := "field-1", so := "form-0", fo := some "form-0", n := 1, hy := some "password", hn := some "password" }]

def formServices : FillServices where
  newUrl _ := none
  pslGet _ := none
  pslSecondLevel _ := none
  toLowerCase text := String.ofList (text.toList.map Char.toLower)
  qualifyAutofillField field _ _ :=
    { q := if field.hy = some "password" then .password else .username, el := true, why := [] }
  collectAutofillPageSnapshot _ := some { f := formFields }
  physicalFieldForSnapshot _ id := if id = "field-0" then some 2 else if id = "field-1" then some 3 else none
  -- the third field is not shown
  validateSecretTarget _ node _ := node ≠ 4
  getLabelText _ _ := some none
  matchAutofillSiteRule _ := none
  isOther c := c.toNat < 32
  callSetter _ _ _ value := some value

def formPage (children : List Node) (username password : JsText) : Page where
  document := formDocument children
  value node := if node = 2 then username else if node = 3 then password else []

def formPlan : AutofillFillPlan :=
  createLoginFillPlan formServices.toLibrary formServices.qualifyAutofillField
    (fun _ => formServices.physicalFieldForSnapshot (formPage [] [] [])) { f := formFields }
    { username := some [117], password := some [112] }
    (some { kind := .manual, targetUrl := "https://example.com/", entryId := "entry" })

example : (applyFillPlan formServices (fun _ _ _ page => page) formPlan 0 (formPage [2, 3] [] [])).page.value 3 = [112] := by
  decide +kernel

/-- The page puts the hidden field in the place of the password, with the password. -/
def swapPassword : PageHandlers := fun events _ _ page =>
  if events = 0 then
    { document := formDocument [2, 4], value := fun node => if node = 4 then page.value 3 else page.value node }
  else page

/-- The page takes the first field and the text out. -/
def dropUsername : PageHandlers := fun events _ _ page =>
  if events = 0 then { page with document := formDocument [3] } else page

/-- The page clears the first field at the first event of the second group. -/
def clearUsername : PageHandlers := fun events _ _ page => if events = 3 then page.setValue 2 [] else page

/-- The hidden field is written to. A field is cleared that held the user name before, as a copy that the page has made
    of it would be. With two groups, the second one undoes the first one. -/
theorem fill_not_contained :
    ((∀ action ∈ formPlan.ac, action.t ≠ some 4) ∧
      4 ∈ (applyFillPlan formServices swapPassword formPlan 0 (formPage [2, 3] [] [])).writes.map (·.element)) ∧
    ((formPage [2, 5, 3] [] [117]).value 3 = [117] ∧
      (applyFillPlan formServices dropUsername formPlan 0 (formPage [2, 5, 3] [] [117])).page.value 3 = []) ∧
    (applyFillPlan formServices clearUsername
      { formPlan with ac := formPlan.ac.map fun action => { action with ag := action.fi } } 0
      (formPage [2, 3] [120] [])).page.value 2 = [] := by
  refine ⟨⟨?_, ?_⟩, ⟨?_, ?_⟩, ?_⟩ <;> decide +kernel

end VaultKern.Filling
