import VaultKern.Guarantees.PasskeyOrigins

/-! # Signatures for the right site

A ceremony comes to its last phase past the rule for origins, or past the answer of the relying
party. So every signature of a run is for the right site or a related one.
-/

namespace VaultKern

open Attempt

/-! ## What a request leaves of a ceremony -/

section Requests

/-- How a ceremony of the ledger after a request comes from the ledger before it. -/
inductive CameFrom (library : WebLibrary) (request : PasskeyRequest) (token : String) :
    Option PasskeyCeremonyLedgerEntry → PasskeyCeremonyLedgerEntry → Prop
  | registered {before : Option PasskeyCeremonyLedgerEntry} {after : PasskeyCeremonyLedgerEntry}
      (accepted : AcceptedIdentity library after.identity) (fresh : after.phase = .preAuthorization) :
      CameFrom library request token before after
  | kept {before after : PasskeyCeremonyLedgerEntry} (identity : after.identity = before.identity)
      (phase : after.phase = before.phase ∨ after.phase.isClosed = true) :
      CameFrom library request token (some before) after
  | advanced {before after : PasskeyCeremonyLedgerEntry} {relatedOriginVerified : Bool}
      (identity : after.identity = before.identity)
      (advance : request = .advance token before.phase after.phase relatedOriginVerified)
      (legal : isLegalPasskeyCeremonyTransition library before.phase after.phase before.identity relatedOriginVerified) :
      CameFrom library request token (some before) after

/-- Every ceremony after the request comes from the ledger before it. -/
def Descends (library : WebLibrary) (request : PasskeyRequest) (before after : PasskeyRuntime) : Prop :=
  ∀ (token : String) (entry : PasskeyCeremonyLedgerEntry), after.ceremonies[token]? = some entry →
    CameFrom library request token before.ceremonies[token]? entry

variable {library : WebLibrary} {request : PasskeyRequest} {runtime after : PasskeyRuntime}

theorem descends_quiet (moves : LedgerMoves QuietStep runtime after) : Descends library request runtime after := by
  intro token entry held
  have here := moves token
  rw [held] at here
  generalize runtime.ceremonies[token]? = before at here ⊢
  cases here with
  | some quiet => exact .kept quiet.identity (.inl quiet.phase)

theorem descends_settles {services : PasskeyServices} {calls : List (String × PasskeyRuntime)}
    (settles : LedgerSettles services calls runtime after) :
    Descends library request runtime after := by
  intro token entry held
  have here := settles token
  rw [held] at here
  generalize runtime.ceremonies[token]? = before at here ⊢
  cases here with
  | some settled =>
      cases settled with
      | kept => exact .kept rfl (.inl rfl)
      | delivered => exact .kept rfl (.inr rfl)
      | givenUp _ given => exact .kept rfl (.inr (by rcases given with rfl | rfl <;> rfl))

theorem descends_pruned (same : after.ceremonies = pruneExpiredPasskeyCeremonies runtime.ceremonies runtime.nowMs) :
    Descends library request runtime after := by
  intro token entry held
  rw [same, pruned_lookup] at held
  rw [(Option.filter_eq_some_iff.mp held).1]
  exact .kept rfl (.inl rfl)

theorem LedgerStep.descends {services : PasskeyServices} (step : LedgerStep services request runtime after) :
    Descends services.toWebLibrary request runtime after := by
  cases step with
  | quiet moves => exact descends_quiet (BTreeMap.Pointwise.mono (fun keep => keep.toQuietStep) moves)
  | stores _ _ _ _ moves => exact descends_quiet moves
  | settles settles => exact descends_settles settles
  | registers registers =>
      rcases registers.outcome with same | ⟨fresh, identity, _, valid, _, same⟩
      · exact descends_pruned same
      · intro token entry held
        rw [same, BTreeMap.insert_lookup] at held
        split at held
        · cases held
          exact .registered ⟨runtime.nowMs, valid⟩ rfl
        · exact @descends_pruned _ _ runtime { runtime with
            ceremonies := pruneExpiredPasskeyCeremonies runtime.ceremonies runtime.nowMs } rfl token entry held
  | follows found follows _ asked same =>
      intro token entry held
      rw [same, BTreeMap.insert_lookup] at held
      split at held
      · rename_i own
        subst own
        obtain ⟨_, _, deliveryState, rfl⟩ := follows
        cases held
        rw [found]
        rcases asked with ⟨relatedOriginVerified, rfl, legal⟩ | rfl
        · exact .advanced rfl rfl legal
        · exact .kept rfl (.inr rfl)
      · rw [held]
        exact .kept rfl (.inl rfl)

end Requests

/-! ## How a ceremony comes to its last phase -/

/-- The phases past the rule for origins. -/
def PasskeyCeremonyPhase.isResolved : PasskeyCeremonyPhase → Bool
  | .credentialResolution | .userSelection | .completionAndMutation => true
  | _ => false

/-- A ceremony gets past the rule if its origin matches, or if it is said to be related. -/
theorem resolved_edge {library : WebLibrary} {before after : PasskeyCeremonyPhase} {identity : PasskeyCeremonyIdentity}
    {relatedOriginVerified : Bool} (legal : isLegalPasskeyCeremonyTransition library before after identity relatedOriginVerified)
    (resolved : after.isResolved = true) :
    before.isResolved = true ∨
      passkeyCeremonyOriginMatchesRelyingParty library identity.origin identity.relyingParty = true ∨
      (before = .networkValidation ∧ after = .credentialResolution ∧ relatedOriginVerified = true) := by
  cases after with
  | credentialResolution =>
      cases before with
      | userAuthorization =>
          simp only [isLegalPasskeyCeremonyTransition, passkeyCeremonyActiveTransitionEdgeAllowed] at legal
          split at legal
          · cases legal
          · exact .inr (.inl legal)
      | networkValidation => exact .inr (.inr ⟨rfl, rfl, by simpa [isLegalPasskeyCeremonyTransition,
          passkeyCeremonyActiveTransitionEdges, passkeyCeremonyActiveTransitionEdgeAllowed] using legal⟩)
      | credentialResolution | userSelection | completionAndMutation => exact .inl rfl
      | _ => simp [isLegalPasskeyCeremonyTransition, passkeyCeremonyActiveTransitionEdges] at legal
  | userSelection | completionAndMutation =>
      cases before with
      | credentialResolution | userSelection | completionAndMutation => exact .inl rfl
      | _ => simp [isLegalPasskeyCeremonyTransition, passkeyCeremonyActiveTransitionEdges] at legal
  | _ => cases resolved

section Runs

variable (services : PasskeyServices) (requests : List PasskeyRequest) (start : PasskeyRuntime)

/-- The request at `i` says that the origin of the ceremony is related, at the step that asks the relying party,
    and the ceremony has been past the rule since then. -/
structure RelatedSince (i n : Nat) (token : String) (identity : PasskeyCeremonyIdentity) : Prop where
  earlier : i < n
  request : requests[i]? = some (.advance token .networkValidation .credentialResolution true)
  asked : ∃ entry, (runtimeAt services requests start i).ceremonies[token]? = some entry ∧ entry.identity = identity ∧
    entry.phase = .networkValidation
  held : ∀ k, i < k → k ≤ n → ∃ entry, (runtimeAt services requests start k).ceremonies[token]? = some entry ∧
    entry.identity = identity ∧ entry.phase.isResolved = true

/-- What the ledger of a run says of the origin of a ceremony. -/
structure OriginChecked (n : Nat) (token : String) (entry : PasskeyCeremonyLedgerEntry) : Prop where
  accepted : AcceptedIdentity services.toWebLibrary entry.identity
  resolved : entry.phase.isResolved = true →
    RightSite services.toWebLibrary entry.identity.origin entry.identity.relyingParty ∨
      ∃ i, RelatedSince services requests start i n token entry.identity

variable {services requests start}

theorem AcceptedIdentity.matches_iff {library : WebLibrary} {identity : PasskeyCeremonyIdentity}
    (accepted : AcceptedIdentity library identity) :
    passkeyCeremonyOriginMatchesRelyingParty library identity.origin identity.relyingParty = true ↔
      RightSite library identity.origin identity.relyingParty := by
  obtain ⟨url, host, pair⟩ := acceptedPair_of_ok accepted.origins.pair
  rw [pair.ceremony_iff, pair.rightSite]

theorem RelatedSince.later {i n : Nat} {token : String} {identity : PasskeyCeremonyIdentity}
    (since : RelatedSince services requests start i n token identity) {entry : PasskeyCeremonyLedgerEntry}
    (held : (runtimeAt services requests start (n + 1)).ceremonies[token]? = some entry)
    (same : entry.identity = identity) (resolved : entry.phase.isResolved = true) :
    RelatedSince services requests start i (n + 1) token identity := by
  refine ⟨by have := since.earlier; omega, since.request, since.asked, ?_⟩
  intro k after within
  rcases Nat.lt_or_ge k (n + 1) with before | last
  · exact since.held k after (by omega)
  · obtain rfl : k = n + 1 := by omega
    exact ⟨entry, held, same, resolved⟩

/-- A ceremony that stays past the rule keeps the reason why. -/
theorem OriginChecked.kept {n : Nat} {token : String} {before after : PasskeyCeremonyLedgerEntry}
    (checked : OriginChecked services requests start n token before)
    (held : (runtimeAt services requests start (n + 1)).ceremonies[token]? = some after)
    (same : after.identity = before.identity)
    (early : after.phase.isResolved = true → before.phase.isResolved = true) :
    OriginChecked services requests start (n + 1) token after := by
  constructor
  · rw [same]
    exact checked.accepted
  · intro resolved
    rw [same]
    rcases checked.resolved (early resolved) with right | ⟨i, since⟩
    · exact .inl right
    · exact .inr ⟨i, since.later held same resolved⟩

theorem originChecked_run (empty : ∀ token : String, start.ceremonies[token]? = none) {n : Nat}
    (inside : n ≤ requests.length) {token : String} {entry : PasskeyCeremonyLedgerEntry}
    (held : (runtimeAt services requests start n).ceremonies[token]? = some entry) :
    OriginChecked services requests start n token entry := by
  induction n generalizing entry with
  | zero =>
      rw [show runtimeAt services requests start 0 = start from rfl, empty] at held
      cases held
  | succ n ih =>
      have here : requests[n]? = some (requests[n]) := List.getElem?_eq_getElem (by omega)
      have came : CameFrom services.toWebLibrary requests[n] token
          (runtimeAt services requests start n).ceremonies[token]? entry := by
        apply (PasskeyRequest.after_step services requests[n] (runtimeAt services requests start n)).descends
        rw [← runtimeAt_succ here]
        exact held
      generalize found : (runtimeAt services requests start n).ceremonies[token]? = earlier at came
      cases came with
      | registered accepted fresh =>
          refine ⟨accepted, fun resolved => ?_⟩
          rw [fresh] at resolved
          cases resolved
      | @kept before _ same phase =>
          apply (ih (by omega) found).kept held same
          intro resolved
          rcases phase with phase | closed
          · rw [← phase]
            exact resolved
          · cases after : entry.phase <;> rw [after] at resolved closed <;> cases resolved <;> cases closed
      | @advanced before _ relatedOriginVerified same advance legal =>
          have checked := ih (by omega) found
          refine ⟨same ▸ checked.accepted, fun resolved => ?_⟩
          rcases resolved_edge legal resolved with early | right | ⟨asked, told, verified⟩
          · exact (checked.kept held same fun _ => early).resolved resolved
          · rw [same]
            exact .inl (checked.accepted.matches_iff.mp right)
          · refine .inr ⟨n, by omega, ?_, ⟨before, found, same.symm, asked⟩, ?_⟩
            · rw [here, advance, asked, told, verified]
            · intro k after within
              obtain rfl : k = n + 1 := by omega
              exact ⟨entry, held, rfl, resolved⟩

end Runs

/-! ## Signatures -/

/-- The origin and the relying party of a request that signs. -/
def PasskeyRequest.site : PasskeyRequest → Option (String × String)
  | .createAssertion _ _ request => some (request.origin, request.relyingParty)
  | .createRegistration _ _ request _ => some (request.origin, request.relyingParty)
  | _ => none

/-- A signature for the origin and the relying party of its ceremony, which are right or related. -/
structure SignedForSite (services : PasskeyServices) (requests : List PasskeyRequest) (start : PasskeyRuntime) (j : Nat)
    (operation : SignedOperation) : Prop where
  site : ∃ identity, CeremonyAt services requests start j operation.token identity ∧
    requests[j]?.bind PasskeyRequest.site = some (identity.origin, identity.relyingParty) ∧
    (RightSite services.toWebLibrary identity.origin identity.relyingParty ∨
      ∃ i, RelatedSince services requests start i j operation.token identity)

section Signatures

variable {services : PasskeyServices} {runtime : PasskeyRuntime}

theorem PasskeyRequest.signs_site {request : PasskeyRequest} {operation : SignedOperation}
    (signs : request.signs services runtime = some operation) :
    ∃ entry, runtime.ceremonies[operation.token]? = some entry ∧ entry.phase = .completionAndMutation ∧
      request.site = some (entry.identity.origin, entry.identity.relyingParty) := by
  cases request with
  | createAssertion token expectedPhase request =>
      rw [PasskeyRequest.signs] at signs
      cases run : createPasskeyAssertion services token expectedPhase request runtime with
      | mk value after =>
          rw [run] at signs
          cases value with
          | error e => cases signs
          | ok assertion =>
              obtain ⟨_, _, _, _, _, _, checked, _⟩ := createPasskeyAssertion_ok services run
              obtain ⟨entry, held, _, phase, origin, party⟩ := validatePasskeyCeremonyForS4_ok services checked
              obtain ⟨_, _, same⟩ := Option.map_eq_some_iff.mp signs
              subst same
              exact ⟨entry, held, phase, by rw [PasskeyRequest.site, origin, party]⟩
  | createRegistration token expectedPhase request drawn =>
      rw [PasskeyRequest.signs] at signs
      cases run : createPasskeyRegistration services token expectedPhase request drawn runtime with
      | mk value after =>
          rw [run] at signs
          cases value with
          | error e => cases signs
          | ok dto =>
              obtain ⟨_, _, passes, _⟩ := bind_ok.mp run
              obtain ⟨_, _, _, checked, _⟩ := prepareRegistration_ok services passes
              obtain ⟨entry, held, _, phase, origin, party⟩ := validatePasskeyCeremonyForS4_ok services checked
              obtain ⟨_, _, same⟩ := Option.map_eq_some_iff.mp signs
              subst same
              exact ⟨entry, held, phase, by rw [PasskeyRequest.site, origin, party]⟩
  | _ => cases signs

theorem signsAt_site {requests : List PasskeyRequest} {start : PasskeyRuntime}
    (empty : ∀ token : String, start.ceremonies[token]? = none) {j : Nat} {operation : SignedOperation}
    (signs : signsAt services requests start j = some operation) :
    SignedForSite services requests start j operation := by
  obtain ⟨request, here, signs⟩ := Option.bind_eq_some_iff.mp signs
  obtain ⟨entry, held, phase, site⟩ := request.signs_site signs
  have checked := originChecked_run empty (Nat.le_of_lt (List.getElem?_eq_some_iff.mp here).1) held
  refine ⟨entry.identity, ⟨entry, held, rfl⟩, ?_, checked.resolved (by rw [phase]; rfl)⟩
  rw [here, Option.bind_some, site]

end Signatures

/-- The extension says that an origin is related only if the relying party lists it. -/
theorem relatedOrigin_listed {browser : Browser.Library} {token token' origin relyingParty : String}
    {answer : Option (List (Option String))} {phase phase' : PasskeyCeremonyPhase}
    (sent : .advance token' phase phase' true ∈ (Browser.advanceToCredentialResolution browser token origin relyingParty
      (Browser.validateOriginForRelyingParty browser origin relyingParty) answer).1) :
    Browser.originAllowedByRelatedOrigins browser origin relyingParty answer = true := by
  have unverified : (Browser.validateOriginForRelyingParty browser origin relyingParty).relatedOriginVerified = false := by
    unfold Browser.validateOriginForRelyingParty
    split
    · rfl
    · split
      · rfl
      · split <;> rfl
  generalize Browser.validateOriginForRelyingParty browser origin relyingParty = validation at sent unverified
  have told : (Browser.completeRelyingPartyValidation browser origin relyingParty validation answer).relatedOriginVerified =
      true := by
    unfold Browser.advanceToCredentialResolution at sent
    dsimp only at sent
    split at sent
    · split at sent <;> simp at sent
    · rcases List.mem_append.mp sent with started | last
      · split at started <;> simp at started
      · simp only [List.mem_singleton, PasskeyRequest.advance.injEq] at last
        exact last.2.2.2.symm
  unfold Browser.completeRelyingPartyValidation at told
  split at told
  · rw [unverified] at told
    cases told
  · split at told
    · rename_i listed
      exact ((Bool.and_eq_true _ _).mp listed).2
    · cases told

/-! ## The rules together -/

/-- Every signature of a run is for the site of its ceremony, which is right or which its relying party has listed.
    Where registration accepts an origin, the three rules agree unless it names the right site with more than one
    final dot. What the ledger accepts as client data names its ceremony, and the signing code accepts it if the
    origin is written as in the ceremony. -/
theorem passkeys_for_right_site (services : PasskeyServices) (browser : Browser.Library)
    (web : WebFacts services.toWebLibrary browser) :
    (∀ (session : Session) (nowMs : Nat) (requests : List PasskeyRequest) (j : Nat) (operation : SignedOperation),
        signsAt services requests ⟨session, nowMs, ∅⟩ j = some operation →
        SignedForSite services requests ⟨session, nowMs, ∅⟩ j operation) ∧
      (∀ (token origin relyingParty : String) (answer : Option (List (Option String))),
        .advance token .networkValidation .credentialResolution true ∈
            (Browser.advanceToCredentialResolution browser token origin relyingParty
              (Browser.validateOriginForRelyingParty browser origin relyingParty) answer).1 →
        Browser.originAllowedByRelatedOrigins browser origin relyingParty answer = true) ∧
      (∀ origin relyingParty : String,
        validatePasskeyCeremonyOriginAndRelyingPartyForS0 services.toWebLibrary origin relyingParty = .ok () →
        (RulesAgree services.toSigningLibrary browser origin relyingParty ↔
          (RightSite services.toWebLibrary origin relyingParty → dottedOrigin services.toWebLibrary origin = false))) ∧
      ∀ (identity : PasskeyCeremonyIdentity) (clientData : String), AcceptedIdentity services.toWebLibrary identity →
        CeremonyAccepts services.toWebLibrary identity clientData →
        ∃ data, clientDataOf services.toWebLibrary clientData = some data ∧
          NamesCeremony services.toWebLibrary identity data ∧
          (SigningAccepts services.toSigningLibrary identity clientData ↔ data.origin = some identity.origin) := by
  refine ⟨?_, ?_, ?_, ?_⟩
  · intro session nowMs requests j operation signs
    apply signsAt_site _ signs
    simp
  · intro token origin relyingParty answer sent
    exact relatedOrigin_listed sent
  · intro origin relyingParty accepted
    exact rulesAgree_iff web accepted
  · intro identity clientData accepted checked
    exact checked.signing_iff accepted

/-! ## Two origins that the rules see differently -/

def loginClientData : String :=
  "\x7b\"type\":\"webauthn.get\",\"challenge\":\"AA\",\"origin\":\"https://login.example.com\",\"crossOrigin\":false\x7d"

def loginClientDataText : String :=
  "eyJ0eXBlIjoid2ViYXV0aG4uZ2V0IiwiY2hhbGxlbmdlIjoiQUEiLCJvcmlnaW4iOiJodHRwczovL2xvZ2luLmV4YW1wbGUuY29tIiwiY3Jv" ++
  "c3NPcmlnaW4iOmZhbHNlfQ"

/-- The origins of the example, with their hosts. -/
def loginHosts : List (String × String) :=
  [("https://login.example.com", "login.example.com"),
    ("https://login.example.com:443", "login.example.com"),
    ("https://example.com..", "example.com..")]

def loginLibrary : SigningLibrary where
  parseUrl text := (loginHosts.lookup text).map fun host =>
    { scheme := "https"
      username := ""
      hasPassword := false
      host := some host
      port := none
      path := "/"
      hasQuery := false
      hasFragment := false }
  isIpAddress _ := false
  domainStr name := if name = "example.com" || name = "login.example.com" then some "example.com" else none
  decodeBase64Url text :=
    if text = "AA" then some [0]
    else if text = loginClientDataText then some loginClientData.toUTF8.toList
    else none
  parseClientData bytes :=
    if bytes = loginClientData.toUTF8.toList then
      some {
        type := some "webauthn.get"
        origin := some "https://login.example.com"
        challenge := some "AA"
        crossOrigin := some false
        topOrigin := none
        hasTopOrigin := false }
    else none
  sha256 := exampleLibrary.sha256
  sign := exampleLibrary.sign

def loginBrowser : Browser.Library where
  newUrl text := (loginHosts.lookup text).map fun host =>
    { protocol := "https:"
      username := ""
      password := ""
      hostname := host
      pathname := "/"
      search := ""
      hash := ""
      origin := "https://" ++ host }
  pslGet := loginLibrary.domainStr
  pslSecondLevel name := if name = "example.com" || name = "login.example.com" then some "example" else none
  toLowerCase := asciiLower

theorem login_webFacts : WebFacts loginLibrary.toWebLibrary loginBrowser := by
  constructor
  · intro text
    simp only [loginBrowser, loginLibrary, Option.map_map]
    cases loginHosts.lookup text <;> rfl
  · intro name _ _
    rfl
  · intro text _
    rfl
  · intro text address
    cases address
  · intro text url host parsed _ hosted
    obtain ⟨found, known, rfl⟩ := Option.map_eq_some_iff.mp parsed
    obtain rfl : found = host := by simpa using hosted
    have listed : found = "login.example.com" ∨ found = "example.com.." := by
      simp only [loginHosts, List.lookup_cons, List.lookup_nil] at known
      grind
    rcases listed with rfl | rfl <;>
      exact .name (List.all_eq_true.mp (by decide +kernel)) (by decide +kernel) (by decide +kernel)

def loginIdentity : PasskeyCeremonyIdentity :=
  { exampleIdentity with
    origin := "https://login.example.com:443"
    ceremony := .get
    discoverable := false }

example : (clientDataOf loginLibrary.toWebLibrary loginClientDataText).isSome = true := by decide +kernel

theorem login_accepted : AcceptedIdentity loginLibrary.toWebLibrary loginIdentity := ⟨0, by decide +kernel⟩

theorem login_ceremonyAccepts : CeremonyAccepts loginLibrary.toWebLibrary loginIdentity loginClientDataText := by
  unfold CeremonyAccepts
  decide +kernel

theorem login_signing : ¬ SigningAccepts loginLibrary loginIdentity loginClientDataText := by
  obtain ⟨data, found, _, signing⟩ := login_ceremonyAccepts.signing_iff login_accepted
  intro accepts
  have named : (clientDataOf loginLibrary.toWebLibrary loginClientDataText).bind (·.origin) =
      some "https://login.example.com" := by decide +kernel
  rw [found, Option.bind_some, signing.mp accepts] at named
  revert named
  decide

theorem dotted_accepted :
    validatePasskeyCeremonyOriginAndRelyingPartyForS0 loginLibrary.toWebLibrary "https://example.com.." "example.com" =
      .ok () := by decide +kernel

/-- With two final dots the ledger sees the right site and the extension does not. With its port written out the
    ledger accepts the origin of the client data and the signing code does not. -/
theorem origin_rules_differ :
    (¬ ∀ (library : SigningLibrary) (browser : Browser.Library), WebFacts library.toWebLibrary browser →
        ∀ origin relyingParty : String,
          validatePasskeyCeremonyOriginAndRelyingPartyForS0 library.toWebLibrary origin relyingParty = .ok () →
          RulesAgree library browser origin relyingParty) ∧
      ¬ ∀ (library : SigningLibrary) (browser : Browser.Library), WebFacts library.toWebLibrary browser →
        ∀ (identity : PasskeyCeremonyIdentity) (clientData : String), AcceptedIdentity library.toWebLibrary identity →
          CeremonyAccepts library.toWebLibrary identity clientData → SigningAccepts library identity clientData := by
  constructor
  · intro agree
    have same := (agree loginLibrary loginBrowser login_webFacts _ _ dotted_accepted).extension
    revert same
    decide +kernel
  · intro accept
    exact login_signing (accept loginLibrary loginBrowser login_webFacts _ _ login_accepted login_ceremonyAccepts)

def loginServices : PasskeyServices where
  toSigningLibrary := loginLibrary
  saveVault := exampleServices.saveVault
  authorizeUser := exampleServices.authorizeUser

theorem passkeys_for_right_site_login :
    WebFacts loginLibrary.toWebLibrary loginBrowser ∧
      (∀ (session : Session) (requests : List PasskeyRequest) (operation : SignedOperation),
        signsAt loginServices requests ⟨session, 0, ∅⟩ 4 = some operation →
        SignedForSite loginServices requests ⟨session, 0, ∅⟩ 4 operation) ∧
      RulesAgree loginLibrary loginBrowser "https://login.example.com:443" "example.com" ∧
      ∃ data, clientDataOf loginLibrary.toWebLibrary loginClientDataText = some data ∧
        NamesCeremony loginLibrary.toWebLibrary loginIdentity data := by
  obtain ⟨signed, _, agree, accept⟩ := passkeys_for_right_site loginServices loginBrowser login_webFacts
  refine ⟨login_webFacts, ?_, ?_, ?_⟩
  · intro session requests operation signs
    exact signed session 0 requests 4 operation signs
  · apply (agree _ _ login_accepted.origins.pair).mpr
    intro _
    decide +kernel
  · obtain ⟨data, found, named, _⟩ := accept loginIdentity loginClientDataText login_accepted login_ceremonyAccepts
    exact ⟨data, found, named⟩

end VaultKern
