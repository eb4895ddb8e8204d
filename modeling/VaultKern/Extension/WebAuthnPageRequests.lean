import Mathlib.Data.List.ReduceOption
import Mathlib.Data.Rat.Defs
import Mathlib.Logic.Function.Basic
import VaultKern.Lib.Json
import VaultKern.Passkey.BrowserOrigins

/-! # Page requests

A page announces its WebAuthn requests. The extension keeps the newest announcements, and looks in them for the
origin of a request that came without one. Messages, senders and requests are JSON values; a value that is absent
is `undefined`.
-/

namespace VaultKern.Browser

/-! ## Values -/

def textOf (value : Option Json) : Option String := value.bind Json.asString

def numberOf : Option Json → Option Rat
  | some (.number mantissa exponent) => some (mantissa / 10 ^ exponent)
  | _ => none

def fieldOf (value : Option Json) (name : String) : Option Json := value.bind (·.field name)

def isNullish : Option Json → Bool
  | none | some .null => true
  | _ => false

/-- An empty text is taken for none. -/
def truthy (text : Option String) : Option String := text.filter (· ≠ "")

def stringArrayFrom : Option Json → Option (List String)
  | some (.array items) => items.mapM Json.asString
  | _ => none

/-- The values of both lists are the same, as often. -/
def sameStringSet (left right : List String) : Bool := left.length = right.length && left.isPerm right

structure WebAuthnRequestError where
  name : String
  message : String
  deriving DecidableEq

def notAllowed (message : String) : WebAuthnRequestError := { name := "NotAllowedError", message }

structure TrustedFrame where
  tabId : Rat
  frameId : Rat
  deriving DecidableEq

def trustedFrame (tabId frameId : Option Json) : Option TrustedFrame := do
  return { tabId := ← numberOf tabId, frameId := ← numberOf frameId }

section Origins

variable (library : Library)

/-! ## Relying parties -/

def normalizeExplicitRelyingPartyId (value : String) : Except WebAuthnRequestError String :=
  if trim value = "" ∨ value ≠ trim value ∨ value.toList.getLast? = some '.' then
    .error (notAllowed "invalid WebAuthn RP ID")
  else .ok (normalizeHost library value)

def explicitRelyingParty (value : Option Json) : Except WebAuthnRequestError (Option String) :=
  if isNullish value then .ok none
  else
    match textOf value with
    | none => .error (notAllowed "invalid WebAuthn RP ID")
    | some text => (normalizeExplicitRelyingPartyId library text).map some

def relyingPartyIdFromGetOptions (options : Option Json) : Except WebAuthnRequestError (Option String) :=
  explicitRelyingParty library (fieldOf options "rpId")

def relyingPartyIdFromCreateOptions (options : Option Json) : Except WebAuthnRequestError (Option String) :=
  explicitRelyingParty library (fieldOf (fieldOf options "rp") "id")

def relyingPartyFromOrigin (origin : String) : Except WebAuthnRequestError String :=
  match (normalizedHostFromUrl library origin).filter (trim · ≠ "") with
  | some hostname => .ok hostname
  | none => .error (notAllowed "missing WebAuthn RP ID")

/-! ## Origins of values -/

def originFromUnknown (value : Option Json) : Option String := do
  let text ← textOf value
  guard (trim text ≠ "" ∧ text = trim text)
  let parsed ← library.newUrl text
  guard (parsed.username = "" ∧ parsed.password = "" ∧ parsed.pathname = "/" ∧ parsed.search = "" ∧ parsed.hash = "")
  return parsed.origin

/-- A value that is there has to be an origin. -/
def optionalOriginFromUnknown (value : Option Json) : Option (Option String) :=
  if isNullish value then some none else (originFromUnknown library value).map some

def originsArrayFromUnknown (value : Option Json) : Option (List String) :=
  if isNullish value then some []
  else
    match value with
    | some (.array items) => items.mapM fun item => truthy (originFromUnknown library (some item))
    | _ => none

def originFromSenderUrl (value : Option Json) : Option String := do
  let text ← textOf value
  guard (trim text ≠ "" ∧ text = trim text)
  let parsed ← library.newUrl text
  guard (parsed.username = "" ∧ parsed.password = "" ∧ parsed.origin ≠ "null")
  return parsed.origin

structure WebAuthnMessageSenderContext where
  origin : String
  frame : TrustedFrame
  deriving DecidableEq

def trustedWebAuthnMessageSenderContextFrom (sender : Option Json) : Option WebAuthnMessageSenderContext := do
  let origin ← truthy
    ((originFromUnknown library (fieldOf sender "origin")).or (originFromSenderUrl library (fieldOf sender "url")))
  let frame ← trustedFrame (fieldOf (fieldOf sender "tab") "id") (fieldOf sender "frameId")
  return { origin, frame }

/-! ## Origins of requests -/

structure OriginContext where
  origin : String
  topOrigin : Option String
  ancestorOrigins : List String
  mediation : Option String
  trustedFrame : Option TrustedFrame := none
  deriving DecidableEq

def trustedFrameIdsFromWebAuthnRequest (request : Option Json) : Option TrustedFrame :=
  trustedFrame (fieldOf request "tabId") (fieldOf request "frameId")

variable (parse : String → Option Json)

/-- The details, if they are text that can be parsed. A field of `null` throws, which is caught with the same
result. -/
def requestDetails (request : Option Json) : Option Json := (textOf (fieldOf request "requestDetailsJson")).bind parse

def topOriginFromRequestDetails (details : Option Json) : Option (Option String) := do
  let ancestorOrigins ← originsArrayFromUnknown library (fieldOf details "ancestorOrigins")
  let topOrigin ← optionalOriginFromUnknown library (fieldOf details "topOrigin")
  return ancestorOrigins.getLast?.or topOrigin

def ancestorOriginsFromRequestDetails (details : Option Json) : Option (List String) :=
  originsArrayFromUnknown library (fieldOf details "ancestorOrigins")

def mediationFromRequestDetails (details : Option Json) : Option String := textOf (fieldOf details "mediation")

def originContextFromRequest (request : Option Json) : Option OriginContext := do
  let details := requestDetails parse request
  let named := ["origin", "callerOrigin", "requestOrigin"].findSome? fun name =>
    truthy (originFromUnknown library (fieldOf request name))
  let origin ← named.or (truthy (originFromUnknown library (fieldOf details "origin")))
  let topOriginCandidate ← optionalOriginFromUnknown library (fieldOf request "topOrigin")
  let callerTopOriginCandidate ← optionalOriginFromUnknown library (fieldOf request "callerTopOrigin")
  let topLevelOriginCandidate ← optionalOriginFromUnknown library (fieldOf request "topLevelOrigin")
  let detailsTopOrigin ← topOriginFromRequestDetails library details
  let topOrigin := ((topOriginCandidate.or callerTopOriginCandidate).or topLevelOriginCandidate).or detailsTopOrigin
  let directAncestorOrigins ← originsArrayFromUnknown library (fieldOf request "ancestorOrigins")
  let detailsAncestorOrigins ← ancestorOriginsFromRequestDetails library details
  let ancestorOrigins := if directAncestorOrigins = [] then detailsAncestorOrigins else directAncestorOrigins
  return {
    origin
    topOrigin := ancestorOrigins.getLast?.or topOrigin
    ancestorOrigins
    mediation := mediationFromRequestDetails details }

/-! ## Announcements -/

structure ObservedWebAuthnPageRequest where
  ceremony : PasskeyCeremonyKind
  origin : String
  topOrigin : Option String
  ancestorOrigins : List String
  /-- The tab and the frame of a trusted sender. -/
  trustedSender : Option TrustedFrame
  relyingParty : Option String
  challenge : Option String
  allowCredentialIds : Option (List String)
  excludeCredentialIds : Option (List String)
  mediation : Option String
  observedAt : Int
  deriving DecidableEq

def maxObservedPageRequests : Nat := 50

def observedPageRequestMaxAgeMs : Int := 120000

def observedPageRequestWaitMs : Int := 100

def ceremonyFrom (value : Option Json) : Option PasskeyCeremonyKind :=
  match textOf value with
  | some "create" => some .create
  | some "get" => some .get
  | _ => none

/-- What is kept of a message. -/
def observedPageRequest (message sender : Option Json) (observedAt : Int) : Option ObservedWebAuthnPageRequest := do
  let ceremony ← ceremonyFrom (fieldOf message "ceremony")
  let senderContext := trustedWebAuthnMessageSenderContextFrom library sender
  let origin ← truthy ((senderContext.map (·.origin)).or (originFromUnknown library (fieldOf message "origin")))
  let ancestorOrigins ← originsArrayFromUnknown library (fieldOf message "ancestorOrigins")
  let explicitTopOrigin ← optionalOriginFromUnknown library (fieldOf message "topOrigin")
  let relyingParty ← (explicitRelyingParty library (fieldOf message "relyingParty")).toOption
  return {
    ceremony, origin, ancestorOrigins, relyingParty, observedAt
    topOrigin := ancestorOrigins.getLast?.or explicitTopOrigin
    trustedSender := senderContext.map (·.frame)
    challenge := (textOf (fieldOf message "challenge")).filter (trim · ≠ "")
    allowCredentialIds := stringArrayFrom (fieldOf message "allowCredentialIds")
    excludeCredentialIds := stringArrayFrom (fieldOf message "excludeCredentialIds")
    mediation := textOf (fieldOf message "mediation") }

def pruneObservedPageRequests (now : Int) (observed : List ObservedWebAuthnPageRequest) :
    List ObservedWebAuthnPageRequest :=
  observed.filter fun request => now - request.observedAt ≤ observedPageRequestMaxAgeMs

/-- The clock is read twice. -/
def recordWebAuthnPageRequest (observed : List ObservedWebAuthnPageRequest) (message sender : Option Json)
    (now observedAt : Int) : Bool × List ObservedWebAuthnPageRequest :=
  match observedPageRequest library message sender observedAt with
  | none => (false, observed)
  | some request =>
      let kept := pruneObservedPageRequests now observed ++ [request]
      (true, kept.drop (kept.length - maxObservedPageRequests))

/-! ## Lookups -/

/-- The ids of the public keys in a list. -/
def publicKeyIds : Option Json → List String
  | some (.array items) => items.filterMap fun item =>
      if textOf (item.field "type") = some "public-key" then textOf (item.field "id") else none
  | _ => []

def credentialIdsFromOptions (options : Option Json) : List (Option String) :=
  let ids := publicKeyIds (fieldOf options "allowCredentials")
  if ids = [] then [none] else ids.map some

def excludedCredentialIdsFromCreateOptions (options : Option Json) : List String :=
  publicKeyIds (fieldOf options "excludeCredentials")

structure ExpectedPageRequest where
  ceremony : PasskeyCeremonyKind
  challenge : String
  relyingParty : Option String
  allowCredentialIds : List String
  excludeCredentialIds : List String
  expectedOrigin : Option String
  expectedFrame : Option TrustedFrame
  requireTrustedSender : Bool

/-- A list that is not empty has to be the one that was announced. -/
def sameCredentials (expected : List String) (observed : Option (List String)) : Bool :=
  expected.isEmpty || observed.any (sameStringSet · expected)

def observedPageRequestMatches (observed : ObservedWebAuthnPageRequest) (expected : ExpectedPageRequest) : Bool :=
  decide (observed.ceremony = expected.ceremony)
    && decide (truthy observed.challenge = some expected.challenge)
    && (truthy expected.expectedOrigin).all (observed.origin = ·)
    && (!expected.requireTrustedSender || observed.trustedSender.isSome)
    && expected.expectedFrame.all (observed.trustedSender = some ·)
    && (truthy expected.relyingParty).all (observed.relyingParty = some ·)
    && sameCredentials expected.allowCredentialIds observed.allowCredentialIds
    && sameCredentials expected.excludeCredentialIds observed.excludeCredentialIds

/-- A request of the browser, with the options of its details. -/
structure WebAuthnRequest where
  ceremony : PasskeyCeremonyKind
  request : Option Json
  options : Option Json

/-- What the options name, or else the host of the origin. -/
def expectedRelyingParty (asked : WebAuthnRequest) (expectedOrigin : Option String) :
    Except WebAuthnRequestError (Option String) := do
  let relyingParty ← match asked.ceremony with
    | .create => relyingPartyIdFromCreateOptions library asked.options
    | .get => relyingPartyIdFromGetOptions library asked.options
  match relyingParty, truthy expectedOrigin with
  | none, some origin => (relyingPartyFromOrigin library origin).map some
  | _, _ => return relyingParty

def allowedIds (asked : WebAuthnRequest) : List String :=
  match asked.ceremony with
  | .get => (credentialIdsFromOptions asked.options).reduceOption
  | .create => []

def excludedIds (asked : WebAuthnRequest) : List String :=
  match asked.ceremony with
  | .create => excludedCredentialIdsFromCreateOptions asked.options
  | .get => []

/-- The newest element that passes is taken out. -/
def takeNewest {A : Type} (passes : A → Bool) : List A → Option (A × List A)
  | [] => none
  | a :: rest =>
      match takeNewest passes rest with
      | some (found, left) => some (found, a :: left)
      | none => if passes a then some (a, rest) else none

def ObservedWebAuthnPageRequest.context (observed : ObservedWebAuthnPageRequest) : OriginContext :=
  { origin := observed.origin, topOrigin := observed.topOrigin, ancestorOrigins := observed.ancestorOrigins
    mediation := observed.mediation, trustedFrame := observed.trustedSender }

/-- Nothing is looked for without a challenge. -/
def expectedPageRequest (asked : WebAuthnRequest) (expectedOrigin : Option String) (requireTrustedSender : Bool) :
    Except WebAuthnRequestError (Option ExpectedPageRequest) :=
  match truthy (textOf (fieldOf asked.options "challenge")) with
  | none => .ok none
  | some challenge =>
      (expectedRelyingParty library asked expectedOrigin).map fun relyingParty => some {
        ceremony := asked.ceremony
        challenge, relyingParty, expectedOrigin, requireTrustedSender
        allowCredentialIds := allowedIds asked
        excludeCredentialIds := excludedIds asked
        expectedFrame := trustedFrameIdsFromWebAuthnRequest asked.request }

/-- The announcement that is found is used up. -/
def takePageRequest (observed : List ObservedWebAuthnPageRequest) (now : Int) (expected : ExpectedPageRequest) :
    Option OriginContext × List ObservedWebAuthnPageRequest :=
  let kept := pruneObservedPageRequests now observed
  match takeNewest (observedPageRequestMatches · expected) kept with
  | some (found, left) => (some found.context, left)
  | none => (none, kept)

def originContextFromPageRequest (observed : List ObservedWebAuthnPageRequest) (asked : WebAuthnRequest)
    (expectedOrigin : Option String) (requireTrustedSender : Bool) (now : Int) :
    Except WebAuthnRequestError (Option OriginContext × List ObservedWebAuthnPageRequest) :=
  (expectedPageRequest library asked expectedOrigin requireTrustedSender).map fun expected =>
    expected.elim (none, observed) (takePageRequest observed now)

/-- What an announcement adds to the origin that came with a request. -/
def withObservedOrigin (request : Option Json) (directOrigin : OriginContext) :
    Option OriginContext → OriginContext
  | none => directOrigin
  | some observedOrigin =>
      let observedAncestorChainTrusted :=
        (numberOf (fieldOf request "frameId")).any (· ≠ 0) && !observedOrigin.ancestorOrigins.isEmpty
      { directOrigin with
        topOrigin := if observedAncestorChainTrusted then observedOrigin.topOrigin else directOrigin.topOrigin
        ancestorOrigins :=
          if observedAncestorChainTrusted then observedOrigin.ancestorOrigins else directOrigin.ancestorOrigins
        mediation := directOrigin.mediation.or observedOrigin.mediation }

/-! ## Runs -/

/-- A request without an origin, which polls the announcements until its deadline. -/
structure Waiting where
  asked : WebAuthnRequest
  deadline : Int
  without : originContextFromRequest library parse asked.request = none

/-- A request that waits has a ticket. -/
structure PageRequests where
  observed : List ObservedWebAuthnPageRequest := []
  waiting : Nat → Option (Waiting library parse) := fun _ => none

/-- The origin that a request got, with the time of the lookup. -/
structure Answer where
  asked : WebAuthnRequest
  now : Int
  result : Except WebAuthnRequestError (Option OriginContext)

variable {parse}

/-- One turn of `waitForOriginContextFromPageRequest`; the clock is read again after the lookup. -/
def pollPageRequests (state : PageRequests library parse) (ticket : Nat) (waiting : Waiting library parse)
    (now later : Int) : PageRequests library parse × Option Answer :=
  match originContextFromPageRequest library state.observed waiting.asked none true now with
  | .error error =>
      ({ state with waiting := Function.update state.waiting ticket none },
        some { asked := waiting.asked, now, result := .error error })
  | .ok (originContext, left) =>
      if originContext.isSome ∨ waiting.deadline ≤ later then
        ({ observed := left, waiting := Function.update state.waiting ticket none },
          some { asked := waiting.asked, now, result := .ok originContext })
      else ({ observed := left, waiting := Function.update state.waiting ticket (some waiting) }, none)

/-- `originContextForRequest` up to its first wait. -/
def originContextForRequest (state : PageRequests library parse) (ticket : Nat) (asked : WebAuthnRequest)
    (started now later : Int) : PageRequests library parse × Option Answer :=
  match direct : originContextFromRequest library parse asked.request with
  | none =>
      pollPageRequests library state ticket
        { asked, deadline := started + observedPageRequestWaitMs, without := direct } now later
  | some directOrigin =>
      match originContextFromPageRequest library state.observed asked (some directOrigin.origin) false now with
      | .error error => (state, some { asked, now, result := .error error })
      | .ok (observedOrigin, left) =>
          ({ state with observed := left },
            some { asked, now, result := .ok (some (withObservedOrigin asked.request directOrigin observedOrigin)) })

inductive PageEvent where
  | announce (message sender : Option Json) (now observedAt : Int)
  | ask (ticket : Nat) (asked : WebAuthnRequest) (started now later : Int)
  | poll (ticket : Nat) (now later : Int)

def pageStep (state : PageRequests library parse) : PageEvent → PageRequests library parse × Option Answer
  | .announce message sender now observedAt =>
      ({ state with observed := (recordWebAuthnPageRequest library state.observed message sender now observedAt).2 },
        none)
  | .ask ticket asked started now later => originContextForRequest library state ticket asked started now later
  | .poll ticket now later =>
      match state.waiting ticket with
      | none => (state, none)
      | some waiting => pollPageRequests library state ticket waiting now later

/-- The state after the events, and the answers that were given. -/
def pageRun (state : PageRequests library parse) : List PageEvent → PageRequests library parse × List Answer
  | [] => (state, [])
  | event :: rest =>
      let (next, answer) := pageStep library state event
      let (last, answers) := pageRun next rest
      (last, answer.toList ++ answers)

end Origins

end VaultKern.Browser
