import VaultKern.Extension.FillPlan

/-! # Filling a page

A plan is bound to the page as it is now, its values are typed, and after each event that the page may act on
the group is looked at again. A group that is not as it was is put back.
-/

namespace VaultKern.Filling

open Browser (isBlank Library)

/-! ## Documents -/

abbrev Node := Element

/-- A window, which has classes of its own. -/
abbrev Window := Nat

/-- A native setter of `value`. -/
abbrev Setter := Nat

inductive NodeType where
  | element | documentFragment | document | other
  deriving DecidableEq

/-- What can be read of a document, the values of its fields apart. -/
structure Document where
  href : String
  ownerDocument : Node → Node
  defaultView : Node → Option Window
  /-- The class for fields of the window that the node is an instance of. -/
  fieldClass : Window → Node → Option AutofillFieldTag
  /-- The setter that the prototype of a class of the window has for `value`. -/
  valueSetter : Window → AutofillFieldTag → Option Setter
  nodeType : Node → NodeType
  tagName : Node → String
  type : Node → String
  id : Node → String
  getAttribute : Node → String → Option String
  dataset : Node → List String
  disabled : Node → Bool
  readOnly : Node → Bool
  isConnected : Node → Bool
  parentNode : Node → Option Node
  host : Node → Option Node
  previousSibling : Node → Option Node
  nextSibling : Node → Option Node
  firstChild : Node → Option Node
  lastChild : Node → Option Node
  /-- `compareDocumentPosition`: the second node follows the first one. -/
  following : Node → Node → Bool
  matchesSelector : Node → String → Bool
  depth : Node → Nat
  shallower : ∀ node parent, (parentNode node).or (host node) = some parent → depth parent < depth node

structure Page where
  document : Document
  value : Node → JsText

structure MatchedAutofillSiteRule extends SiteRulePolicy where
  f : List (AutofillFieldQualification × List String)
  deriving DecidableEq

inductive SecretTargetRole where
  | username | password | newPassword | totp
  deriving DecidableEq

/-- What the fill has from the browser and from the collector. -/
structure FillServices extends Library where
  qualifyAutofillField : Qualify
  /-- `none` where the page exceeds a limit. -/
  collectAutofillPageSnapshot : Page → Option AutofillPageSnapshot
  /-- The element of a field in the snapshot of a page. -/
  physicalFieldForSnapshot : Page → String → Option Node
  validateSecretTarget : Page → Node → SecretTargetRole → Bool
  /-- `none` where the labels exceed a limit. -/
  getLabelText : Page → Node → Option (Option String)
  matchAutofillSiteRule : String → Option MatchedAutofillSiteRule
  /-- The characters of `\p{C}`. -/
  isOther : Char → Bool
  /-- The value that a field has when a setter was called, `none` where the call throws. -/
  callSetter : Setter → Document → Node → JsText → Option JsText

/-- What the handlers of the page do at an event, by the number of events before. -/
abbrev PageHandlers := Nat → Node → String → Page → Page

/-! ## Fields -/

def nativeValueSetterForField (document : Document) (element : Node) : Option Setter :=
  (document.defaultView (document.ownerDocument element)).bind fun ownerWindow =>
    document.valueSetter ownerWindow ((document.fieldClass ownerWindow element).getD .textarea)

/-- The element is an instance of a class for fields of its own window. -/
def isFillElement (document : Document) (element : Node) : Bool :=
  (document.defaultView (document.ownerDocument element)).any fun ownerWindow =>
    (document.fieldClass ownerWindow element).isSome

def sameEnabledSiteRulePolicy (planned current : Option SiteRulePolicy) : Bool :=
  !planned.any (·.d) && !current.any (·.d) && planned.map (·.id) = current.map (·.id)

def currentRoleMatches (action : AutofillFillAction) (currentField : AutofillTriageFieldResult) : Bool :=
  if action.trs = .siteRule then currentField.rt.contains action.tr
  else (action.trs = .groupInference && currentField.hy ≠ some "hidden")
    || roleCategoryForBinding currentField.q = roleCategoryForBinding action.tr

def secretRoleForAction (action : AutofillFillAction) : SecretTargetRole :=
  match action.tr with
  | .username => .username
  | .password | .currentPassword => .password
  | .newPassword | .confirmation => .newPassword
  | .totp | .ignored => .totp

def parentOrShadowHost (document : Document) (node : Node) : Option Node :=
  (document.parentNode node).or (if document.nodeType node = .documentFragment then document.host node else none)

/-- The nodes up to the document, with a bound on the steps. -/
def climb (document : Document) (documentRef : Node) : Nat → Node → List Node
  | 0, _ => []
  | steps + 1, node =>
      if node = documentRef then []
      else node :: ((parentOrShadowHost document node).map (climb document documentRef steps)).getD []

/-- The last node of the way up. -/
def reachesDocument (document : Document) (documentRef : Node) : Nat → Node → Bool
  | 0, _ => false
  | steps + 1, node =>
      node = documentRef || (parentOrShadowHost document node).any (reachesDocument document documentRef steps)

def nodeLineage (document : Document) (element documentRef : Node) : List Node :=
  if reachesDocument document documentRef (document.depth element + 1) element then
    climb document documentRef (document.depth element + 1) element
  else []

def precedes (document : Document) (left right : Node) : Bool :=
  document.isConnected left && document.isConnected right && document.following left right

def siteRuleFieldTypesForElement (document : Document) (element : Node) (rule : Option MatchedAutofillSiteRule) :
    List AutofillFieldQualification :=
  match rule with
  | none => []
  | some rule =>
      if rule.d then [] else (rule.f.filter fun (_, selectors) => selectors.any (document.matchesSelector element)).map Prod.fst

/-- How far the blanks or the other characters before go on. -/
inductive Run where
  | none | other | blank
  deriving DecidableEq

/-- Each run of other characters, and each run of white space, is one blank. -/
def replaceRuns (isOther : Char → Bool) : Run → List Char → List Char
  | _, [] => []
  | run, c :: text =>
      if run = .other && isOther c || run = .blank && isBlank c then replaceRuns isOther run text
      else if isOther c then ' ' :: replaceRuns isOther .other text
      else if isBlank c then ' ' :: replaceRuns isOther .blank text
      else c :: replaceRuns isOther .none text

section Services

variable (services : FillServices)

def cleanSemanticValue (value : Option String) : Option String :=
  let cleaned := Browser.trim (String.ofList (replaceRuns services.isOther .none (value.getD "").toList))
  if cleaned = "" then none else some cleaned

def isWritableField (page : Page) (element : Node) (role : SecretTargetRole) : Bool :=
  isFillElement page.document element && page.document.isConnected element && !page.document.disabled element
    && !page.document.readOnly element && services.validateSecretTarget page element role

/-- The field of the snapshot that the action is for, while it is as it was planned. -/
def targetForAction (action : AutofillFillAction) (documentRef : Node) (page : Page)
    (currentField : Option AutofillTriageFieldResult) : Option Node :=
  match action.t, currentField with
  | some target, some currentField =>
      if page.document.ownerDocument target = documentRef && currentField.o = action.fi
          && services.physicalFieldForSnapshot page currentField.o = some target
          && credentialScopeKey currentField = action.pg && currentRoleMatches action currentField
          && isWritableField services page target (secretRoleForAction action)
          && (nativeValueSetterForField page.document target).isSome then
        some target
      else none
  | _, _ => none

/-! ## Groups -/

structure PreparedFillAction where
  action : AutofillFillAction
  element : Node
  originalValue : JsText
  setter : Setter
  lineage : List Node
  parent : Node
  siblings : Option Node × Option Node
  actionTargets : Option Node × Option Node

/-- A check that throws ends a fill as one that fails does. -/
def boundSemanticsMatch (action : AutofillFillAction) (page : Page) (element : Node) : Bool :=
  let document := page.document
  let planned := action.ts
  let clean := cleanSemanticValue services
  let lower := Option.map services.toLowerCase
  let ownerWindow := document.defaultView (document.ownerDocument element)
  let htmlType := if ownerWindow.any fun window => document.fieldClass window element = some .input then
      clean (some (services.toLowerCase (document.type element)))
    else none
  ownerWindow.isSome
    && services.toLowerCase (document.tagName element) = (match planned.tg with
      | .input => "input"
      | .select => "select"
      | .textarea => "textarea")
    && htmlType = planned.hy
    && clean (document.getAttribute element "name") = planned.hn
    && clean (some (document.id element)) = planned.hi
    && clean (document.getAttribute element "class") = planned.hc
    && clean (lower (document.getAttribute element "autocomplete")) = planned.au
    && clean (lower (document.getAttribute element "inputmode")) = planned.im
    && clean (document.getAttribute element "placeholder") = planned.ph
    && clean (document.getAttribute element "title") = planned.ti
    && clean (document.getAttribute element "aria-label") = planned.al
    && clean (document.getAttribute element "aria-describedby") = planned.ad
    && services.getLabelText page element = some planned.lt
    && (document.dataset element).filterMap (fun value => clean (some value)) = planned.dv

/-- One action, before its neighbours in the group are known. -/
def prepareAction (documentRef : Node) (page : Page) (currentFields : List AutofillTriageFieldResult)
    (action : AutofillFillAction) : Option PreparedFillAction := do
  let element ← targetForAction services action documentRef page currentFields[action.n]?
  let setter ← nativeValueSetterForField page.document element
  let parent ← page.document.parentNode element
  let lineage := nodeLineage page.document element documentRef
  if lineage.isEmpty then none
  else some {
    action, element, originalValue := page.value element, setter, lineage, parent
    siblings := (page.document.previousSibling element, page.document.nextSibling element)
    actionTargets := (none, none) }

/-- The elements before and after an item of the group in the document. -/
def groupNeighbours (documentOrdered : List Node) (index : Nat) : Option Node × Option Node :=
  (if index = 0 then none else documentOrdered[index - 1]?, documentOrdered[index + 1]?)

def prepareActionGroup (group : List AutofillFillAction) (documentRef : Node) (page : Page)
    (currentFields : List AutofillTriageFieldResult) : Option (List PreparedFillAction) :=
  (group.mapM (prepareAction services documentRef page currentFields)).map fun prepared =>
    let documentOrdered := (prepared.zipIdx.insertionSort fun left right =>
      page.document.following left.1.element right.1.element = true)
    prepared.zipIdx.map fun (item, index) => { item with
      actionTargets := groupNeighbours (documentOrdered.map (·.1.element)) (documentOrdered.findIdx (·.2 = index)) }

def sameNodeLineage (item : PreparedFillAction) (documentRef : Node) (document : Document) : Bool :=
  nodeLineage document item.element documentRef = item.lineage

def sameGroupOrder (item : PreparedFillAction) (document : Document) : Bool :=
  item.actionTargets.1.all (precedes document · item.element)
    && item.actionTargets.2.all (precedes document item.element ·)

/-- What a fill is held to: the document, its address at the start and the rule of the plan. -/
structure FillContext where
  documentRef : Node
  documentUrl : String
  plannedSiteRule : Option SiteRulePolicy

/-- The rule that holds now, or `none` where it is not the planned one any more. -/
def liveSiteRule (context : FillContext) (document : Document) : Option (Option MatchedAutofillSiteRule) :=
  if document.href ≠ context.documentUrl then none
  else
    let rule := services.matchAutofillSiteRule context.documentUrl
    if sameEnabledSiteRulePolicy context.plannedSiteRule (rule.map (·.toSiteRulePolicy)) then some rule else none

def itemStructureStillBound (item : PreparedFillAction) (context : FillContext) (page : Page)
    (currentRule : Option MatchedAutofillSiteRule) : Bool :=
  page.document.ownerDocument item.element = context.documentRef
    && boundSemanticsMatch services item.action page item.element
    && sameNodeLineage item context.documentRef page.document
    && sameGroupOrder item page.document
    && isWritableField services page item.element (secretRoleForAction item.action)
    && nativeValueSetterForField page.document item.element = some item.setter
    && (item.action.trs ≠ .siteRule
      || (siteRuleFieldTypesForElement page.document item.element currentRule).contains item.action.tr)

inductive ExpectedValue where
  | original | planned
  deriving DecidableEq

def PreparedFillAction.expected (item : PreparedFillAction) : ExpectedValue → JsText
  | .original => item.originalValue
  | .planned => item.action.v

def itemStillBound (item : PreparedFillAction) (context : FillContext) (page : Page)
    (currentRule : Option MatchedAutofillSiteRule) (expectedValue : ExpectedValue) : Bool :=
  itemStructureStillBound services item context page currentRule
    && page.value item.element = item.expected expectedValue

def groupStillBound (prepared : List PreparedFillAction) (context : FillContext) (page : Page)
    (expectedValue : ExpectedValue) : Bool :=
  (liveSiteRule services context page.document).any fun currentRule =>
    prepared.all fun item => itemStillBound services item context page currentRule expectedValue

/-! ## Replacements -/

def replacementAtOriginalPosition (item : PreparedFillAction) (document : Document) : Option Node :=
  let (previousSibling, nextSibling) := item.siblings
  if !document.isConnected item.parent then none
  else match previousSibling.filter fun sibling => document.parentNode sibling = some item.parent with
  | some sibling => document.nextSibling sibling
  | none => match nextSibling.filter fun sibling => document.parentNode sibling = some item.parent with
    | some sibling => document.previousSibling sibling
    | none =>
        if previousSibling = none then document.firstChild item.parent
        else if nextSibling = none then document.lastChild item.parent
        else none

def valueElement (document : Document) (node : Option Node) : Option Node :=
  node.filter fun node => document.nodeType node = .element && isFillElement document node

/-- Another field in the place of the item, with the value that was typed. -/
def leakedReplacement (item : PreparedFillAction) (page : Page) : Option Node :=
  (valueElement page.document (replacementAtOriginalPosition item page.document)).filter fun replacement =>
    replacement ≠ item.element && page.value replacement = item.action.v

/-! ## Typing and putting back -/

/-- A call of a setter: the page before it, the field and the value. -/
structure Write where
  before : Page
  element : Node
  value : JsText

/-- The page, how many events were dispatched, and the calls of setters so far. -/
structure Fill where
  page : Page
  dispatched : Nat
  writes : List Write

def Page.setValue (page : Page) (element : Node) (value : JsText) : Page :=
  { page with value := fun node => if node = element then value else page.value node }

/-- The call of a setter, and whether it came back. -/
def callSetter (setter : Setter) (element : Node) (value : JsText) (fill : Fill) : Bool × Fill :=
  let writes := fill.writes ++ [{ before := fill.page, element, value }]
  match services.callSetter setter fill.page.document element value with
  | some held => (true, { fill with page := fill.page.setValue element held, writes })
  | none => (false, { fill with writes })

variable (handlers : PageHandlers)

def dispatchFillEvent (element : Node) (eventName : String) (fill : Fill) : Fill :=
  match fill.page.document.defaultView (fill.page.document.ownerDocument element) with
  | none => fill
  | some _ => { fill with
      page := handlers fill.dispatched element eventName fill.page
      dispatched := fill.dispatched + 1 }

def restoreElement (item : PreparedFillAction) (element : Node) (dispatchEvents : Bool) (fill : Fill) : Fill :=
  let native := if element = item.element then some item.setter else nativeValueSetterForField fill.page.document element
  match native with
  | none => fill
  | some native =>
      match callSetter services native element item.originalValue fill with
      | (false, fill) => fill
      | (true, fill) =>
          if dispatchEvents && fill.page.document.isConnected element then
            (callSetter services native element item.originalValue
              (dispatchFillEvent handlers element "change" (dispatchFillEvent handlers element "input" fill))).2
          else fill

def restoreReplacement (item : PreparedFillAction) (dispatchEvents : Bool) (fill : Fill) : Fill :=
  match leakedReplacement item fill.page with
  | some replacement => restoreElement services handlers item replacement dispatchEvents fill
  | none => fill

/-- The last loop, in which no event is dispatched. -/
def restoreSilently (fill : Fill) (item : PreparedFillAction) : Fill :=
  restoreReplacement services handlers item false (restoreElement services handlers item item.element false fill)

def rollbackActionGroup (prepared : List PreparedFillAction) (syncControlledState : Bool) (fill : Fill) : Fill :=
  let reversed := prepared.reverse
  let synced := if syncControlledState then
      reversed.foldl (fun fill item => restoreReplacement services handlers item true fill)
        (reversed.foldl (fun fill item => restoreElement services handlers item item.element true fill) fill)
    else fill
  reversed.foldl (restoreSilently services handlers) synced

/-- The items of the group from here on, each checked again and typed where the page has undone a later one. -/
def reconcileItems (context : FillContext) (currentRule : Option MatchedAutofillSiteRule) (currentIndex : Nat) :
    Nat → List PreparedFillAction → Fill → Bool × Fill
  | _, [], fill => (true, fill)
  | index, item :: items, fill =>
      if !itemStructureStillBound services item context fill.page currentRule then (false, fill)
      else if fill.page.value item.element = item.action.v then
        reconcileItems context currentRule currentIndex (index + 1) items fill
      else if index ≤ currentIndex || fill.page.value item.element ≠ item.originalValue then (false, fill)
      else match callSetter services item.setter item.element item.action.v fill with
      | (true, fill) => reconcileItems context currentRule currentIndex (index + 1) items fill
      | (false, fill) => (false, fill)

def reconcileAfterEvent (prepared : List PreparedFillAction) (currentIndex : Nat) (context : FillContext)
    (fill : Fill) : Bool × Fill :=
  match liveSiteRule services context fill.page.document with
  | none => (false, fill)
  | some currentRule =>
      match reconcileItems services context currentRule currentIndex 0 prepared fill with
      | (false, fill) => (false, fill)
      | (true, fill) => (groupStillBound services prepared context fill.page .planned, fill)

/-- Types the values one after the other, as long as the calls come back. -/
def stageValues : List PreparedFillAction → Fill → Bool × Fill
  | [], fill => (true, fill)
  | item :: items, fill =>
      match callSetter services item.setter item.element item.action.v fill with
      | (true, fill) => stageValues items fill
      | (false, fill) => (false, fill)

def fillEvents (prepared : List PreparedFillAction) : List (Nat × PreparedFillAction × String) :=
  prepared.zipIdx.flatMap fun (item, index) =>
    ["input", "change", "blur"].map fun eventName => (index, item, eventName)

def dispatchEvents (prepared : List PreparedFillAction) (context : FillContext) :
    List (Nat × PreparedFillAction × String) → Bool → Fill → Fill
  | [], _, fill => fill
  | (index, item, eventName) :: events, eventStarted, fill =>
      if !groupStillBound services prepared context fill.page .planned then
        rollbackActionGroup services handlers prepared eventStarted fill
      else match reconcileAfterEvent services prepared index context
          (dispatchFillEvent handlers item.element eventName fill) with
      | (false, fill) => rollbackActionGroup services handlers prepared true fill
      | (true, fill) => dispatchEvents prepared context events true fill

def commitActionGroup (context : FillContext) (fill : Fill) (prepared : List PreparedFillAction) : Fill :=
  if !groupStillBound services prepared context fill.page .original then fill
  else match stageValues services prepared fill with
  | (false, fill) => rollbackActionGroup services handlers prepared false fill
  | (true, fill) => dispatchEvents services handlers prepared context (fillEvents prepared) false fill

/-- The actions of each label, in the order in which the labels first occur. -/
def actionGroups (actions : List AutofillFillAction) : List (List AutofillFillAction) :=
  (actions.map (·.ag)).eraseDups.map fun label => actions.filter fun action => action.ag = label

/-- The groups that can be filled on the page as it is. -/
def preparedGroups (plan : AutofillFillPlan) (documentRef : Node) (page : Page) : List (List PreparedFillAction) :=
  match services.collectAutofillPageSnapshot page with
  | none => []
  | some currentSnapshot =>
      let currentFields := triageAutofillPage services.qualifyAutofillField currentSnapshot
      if !sameEnabledSiteRulePolicy plan.sr currentSnapshot.sr then []
      else if plan.au.any fun (url, scopeKey) =>
          currentSnapshot.url ≠ some url || automaticLoginScopeKey services.toLibrary currentFields ≠ some scopeKey then []
      else (actionGroups plan.ac).filterMap fun group =>
        prepareActionGroup services group documentRef page currentFields

def fillContext (plan : AutofillFillPlan) (documentRef : Node) (page : Page) : FillContext :=
  { documentRef, documentUrl := page.document.href, plannedSiteRule := plan.sr }

def applyFillPlan (plan : AutofillFillPlan) (documentRef : Node) (page : Page) : Fill :=
  (preparedGroups services plan documentRef page).foldl
    (commitActionGroup services handlers (fillContext plan documentRef page)) { page, dispatched := 0, writes := [] }

end Services

end VaultKern.Filling
