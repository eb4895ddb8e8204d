import Mathlib.Data.List.Forall2
import VaultKern.Extension.WebAuthnPageRequests

/-! # Page requests and their frames

Which announcement an origin was taken from, that no announcement is taken twice, and that a request which names
its frame does not see what other frames announce.
-/

namespace VaultKern.Browser

open List

/-! ## The newest one -/

theorem takeNewest_some {A : Type} {passes : A → Bool} {all left : List A} {found : A}
    (taken : takeNewest passes all = some (found, left)) :
    passes found = true ∧ ∃ before after, all = before ++ found :: after ∧ left = before ++ after := by
  induction all generalizing left with
  | nil => cases taken
  | cons a rest ih =>
      simp only [takeNewest] at taken
      split at taken
      · rename_i later
        cases taken
        obtain ⟨passed, before, after, rfl, rfl⟩ := ih later
        exact ⟨passed, a :: before, after, rfl, rfl⟩
      · split at taken
        · rename_i passed
          cases taken
          exact ⟨passed, [], rest, rfl, rfl⟩
        · cases taken

/-- Elements that never pass may be left out before. -/
theorem takeNewest_filter {A : Type} {passes keeps : A → Bool} (only : ∀ a, passes a = true → keeps a = true)
    (all : List A) :
    takeNewest passes (all.filter keeps) = (takeNewest passes all).map fun taken => (taken.1, taken.2.filter keeps) := by
  induction all with
  | nil => rfl
  | cons a rest ih =>
      cases kept : keeps a with
      | true =>
          rw [filter_cons_of_pos kept, takeNewest, takeNewest, ih]
          cases takeNewest passes rest with
          | none => cases passes a <;> rfl
          | some taken => simp [kept]
      | false =>
          have fails : passes a = false := Bool.eq_false_iff.mpr fun passed => by simp [only a passed] at kept
          rw [filter_cons_of_neg (by simp [kept]), takeNewest, ih]
          cases takeNewest passes rest with
          | none => simp [fails]
          | some taken => simp [kept]

/-! ## Lookups -/

section Lookups

variable (library : Library)

/-- The announcement is one of what is asked. -/
structure Fits (asked : WebAuthnRequest) (expectedOrigin : Option String) (now : Int)
    (observed : ObservedWebAuthnPageRequest) : Prop where
  ceremony : observed.ceremony = asked.ceremony
  challenge : ∃ challenge, textOf (fieldOf asked.options "challenge") = some challenge ∧ challenge ≠ "" ∧
    observed.challenge = some challenge
  origin : ∀ origin, expectedOrigin = some origin → origin ≠ "" → observed.origin = origin
  relyingParty : ∀ relyingParty, expectedRelyingParty library asked expectedOrigin = .ok (some relyingParty) →
    relyingParty ≠ "" → observed.relyingParty = some relyingParty
  allowed : allowedIds asked ≠ [] → ∃ ids, observed.allowCredentialIds = some ids ∧ ids.Perm (allowedIds asked)
  excluded : excludedIds asked ≠ [] → ∃ ids, observed.excludeCredentialIds = some ids ∧ ids.Perm (excludedIds asked)
  frame : ∀ frame, trustedFrameIdsFromWebAuthnRequest asked.request = some frame →
    observed.trustedSender = some frame
  recent : now - observed.observedAt ≤ observedPageRequestMaxAgeMs

theorem truthy_some {text : Option String} {value : String} : truthy text = some value ↔ text = some value ∧ value ≠ "" := by
  simp [truthy, Option.filter_eq_some_iff]

theorem truthy_all {text : Option String} {check : String → Bool} (passed : (truthy text).all check = true)
    {value : String} (named : text = some value) (nonempty : value ≠ "") : check value = true := by
  rw [truthy_some.mpr ⟨named, nonempty⟩] at passed
  exact passed

theorem sameCredentials_perm {expected : List String} {observed : Option (List String)}
    (same : sameCredentials expected observed = true) (named : expected ≠ []) :
    ∃ ids, observed = some ids ∧ ids.Perm expected := by
  cases observed with
  | none => simp [sameCredentials, named] at same
  | some ids =>
      refine ⟨ids, rfl, isPerm_iff.mp ?_⟩
      simp only [sameCredentials, List.isEmpty_eq_false_iff.mpr named, Bool.false_or, Option.any_some, sameStringSet,
        Bool.and_eq_true] at same
      exact same.2

variable {library} {asked : WebAuthnRequest} {expectedOrigin : Option String} {trusted : Bool} {now : Int}
  {observed left : List ObservedWebAuthnPageRequest} {found : Option OriginContext} {expected : ExpectedPageRequest}

theorem expectedPageRequest_some
    (ok : expectedPageRequest library asked expectedOrigin trusted = .ok (some expected)) :
    ∃ challenge relyingParty, truthy (textOf (fieldOf asked.options "challenge")) = some challenge ∧
      expectedRelyingParty library asked expectedOrigin = .ok relyingParty ∧
      expected = ⟨asked.ceremony, challenge, relyingParty, allowedIds asked, excludedIds asked, expectedOrigin,
        trustedFrameIdsFromWebAuthnRequest asked.request, trusted⟩ := by
  unfold expectedPageRequest at ok
  split at ok
  · cases ok
  · rename_i challenge hasChallenge
    cases relying : expectedRelyingParty library asked expectedOrigin with
    | error => simp [relying, Except.map] at ok
    | ok relyingParty =>
        simp only [relying, Except.map, Except.ok.injEq, Option.some.injEq] at ok
        exact ⟨challenge, relyingParty, hasChallenge, rfl, ok.symm⟩

theorem fits_of_matches {request : ObservedWebAuthnPageRequest}
    (ok : expectedPageRequest library asked expectedOrigin trusted = .ok (some expected))
    (passed : observedPageRequestMatches request expected = true)
    (recent : request ∈ pruneObservedPageRequests now observed) :
    Fits library asked expectedOrigin now request ∧ (trusted = true → request.trustedSender.isSome = true) := by
  obtain ⟨challenge, relyingParty, hasChallenge, relying, rfl⟩ := expectedPageRequest_some ok
  obtain ⟨named, nonempty⟩ := truthy_some.mp hasChallenge
  simp only [observedPageRequestMatches, Bool.and_eq_true, decide_eq_true_eq] at passed
  obtain ⟨⟨⟨⟨⟨⟨⟨ceremony, challenged⟩, origin⟩, sender⟩, frame⟩, party⟩, allowed⟩, excluded⟩ := passed
  refine ⟨⟨ceremony, ⟨challenge, named, nonempty, (truthy_some.mp challenged).1⟩, ?_, ?_,
    sameCredentials_perm allowed, sameCredentials_perm excluded, ?_, by simpa using (mem_filter.mp recent).2⟩, ?_⟩
  · intro value isNamed isNonempty
    exact of_decide_eq_true (truthy_all origin isNamed isNonempty)
  · intro value isNamed isNonempty
    exact of_decide_eq_true (truthy_all party (Except.ok.inj (relying.symm.trans isNamed)) isNonempty)
  · intro value isNamed
    rw [isNamed] at frame
    exact of_decide_eq_true frame
  · rintro rfl
    simpa using sender

/-- A lookup uses at most one announcement, and one that fits. -/
theorem originContextFromPageRequest_uses
    (ok : originContextFromPageRequest library observed asked expectedOrigin trusted now = .ok (found, left)) :
    ∃ used : Option ObservedWebAuthnPageRequest, found = used.map (·.context) ∧ (used.toList ++ left).Subperm observed ∧
      ∀ request, used = some request → Fits library asked expectedOrigin now request ∧
        (trusted = true → request.trustedSender.isSome = true) := by
  unfold originContextFromPageRequest at ok
  cases expecting : expectedPageRequest library asked expectedOrigin trusted with
  | error => simp [expecting, Except.map] at ok
  | ok expected =>
      simp only [expecting, Except.map, Except.ok.injEq] at ok
      cases expected with
      | none =>
          cases ok
          exact ⟨none, rfl, Subperm.refl _, fun _ unused => by cases unused⟩
      | some expected =>
          simp only [Option.elim_some, takePageRequest] at ok
          split at ok
          · rename_i request rest taken
            cases ok
            obtain ⟨passed, before, after, split, rfl⟩ := takeNewest_some taken
            refine ⟨some request, rfl, ?_, fun other same => ?_⟩
            · have all : (request :: (before ++ after)).Perm (pruneObservedPageRequests now observed) :=
                split ▸ perm_middle.symm
              exact all.subperm.trans filter_sublist.subperm
            · cases same
              exact fits_of_matches expecting passed (split ▸ mem_append_right _ mem_cons_self)
          · cases ok
            exact ⟨none, rfl, filter_sublist.subperm, fun _ unused => by cases unused⟩

end Lookups

/-! ## Attribution -/

/-- The chain above a request stays as it came, or a subframe gets the one that was announced. -/
def ChainFrom (request : Option Json) (origin observed context : OriginContext) : Prop :=
  (context.topOrigin = origin.topOrigin ∧ context.ancestorOrigins = origin.ancestorOrigins) ∨
    ((∃ frameId, numberOf (fieldOf request "frameId") = some frameId ∧ frameId ≠ 0) ∧
      context.topOrigin = observed.topOrigin ∧ context.ancestorOrigins = observed.ancestorOrigins)

theorem withObservedOrigin_chain (request : Option Json) (origin observed : OriginContext) :
    ChainFrom request origin observed (withObservedOrigin request origin (some observed)) := by
  cases trusted : (numberOf (fieldOf request "frameId")).any (· ≠ 0) && !observed.ancestorOrigins.isEmpty with
  | false =>
      left
      simp only [withObservedOrigin, trusted, Bool.false_eq_true, if_false, and_self]
  | true =>
      right
      simp only [withObservedOrigin, trusted, if_true, and_self, and_true]
      cases named : numberOf (fieldOf request "frameId") with
      | none => simp [named] at trusted
      | some frameId =>
          refine ⟨frameId, rfl, ?_⟩
          rintro rfl
          simp [named] at trusted

section Attribution

variable (library : Library) (parse : String → Option Json)

/-- Where the origin of an answer is from. -/
inductive Attributed (asked : WebAuthnRequest) (now : Int) :
    Except WebAuthnRequestError (Option OriginContext) → Option ObservedWebAuthnPageRequest → Prop
  | failed (error : WebAuthnRequestError) : Attributed asked now (.error error) none
  | unknown : originContextFromRequest library parse asked.request = none → Attributed asked now (.ok none) none
  | direct {origin : OriginContext} : originContextFromRequest library parse asked.request = some origin →
      Attributed asked now (.ok (some origin)) none
  | announced {used : ObservedWebAuthnPageRequest} {frame : TrustedFrame} :
      originContextFromRequest library parse asked.request = none → Fits library asked none now used →
      used.trustedSender = some frame → Attributed asked now (.ok (some used.context)) (some used)
  | completed {origin context : OriginContext} {used : ObservedWebAuthnPageRequest} :
      originContextFromRequest library parse asked.request = some origin →
      Fits library asked (some origin.origin) now used → context.origin = origin.origin →
      ChainFrom asked.request origin used.context context → Attributed asked now (.ok (some context)) (some used)

/-- What an event announces. -/
def announcement : PageEvent → Option ObservedWebAuthnPageRequest
  | .announce message sender _ observedAt => observedPageRequest library message sender observedAt
  | _ => none

/-- What a step used is gone from the announcements, and its answer is attributed to it. -/
structure Accounted (all : List ObservedWebAuthnPageRequest) (outcome : PageRequests library parse × Option Answer)
    (used : Option ObservedWebAuthnPageRequest) : Prop where
  once : (used.toList ++ outcome.1.observed).Subperm all
  silent : outcome.2 = none → used = none
  answered : ∀ answer, outcome.2 = some answer →
    Attributed library parse answer.asked answer.now answer.result used

variable {library parse}

theorem recordWebAuthnPageRequest_subperm (observed : List ObservedWebAuthnPageRequest) (message sender : Option Json)
    (now observedAt : Int) :
    (recordWebAuthnPageRequest library observed message sender now observedAt).2.Subperm
      (observed ++ (observedPageRequest library message sender observedAt).toList) := by
  unfold recordWebAuthnPageRequest
  cases observedPageRequest library message sender observedAt with
  | none => simpa using Subperm.refl observed
  | some request =>
      have pruned : (pruneObservedPageRequests now observed ++ [request]).Sublist (observed ++ [request]) :=
        filter_sublist.append_right [request]
      exact ((drop_sublist _ _).trans pruned).subperm

theorem pollPageRequests_accounted (state : PageRequests library parse) (ticket : Nat)
    (waiting : Waiting library parse) (now later : Int) :
    ∃ used, Accounted library parse state.observed (pollPageRequests library state ticket waiting now later) used := by
  unfold pollPageRequests
  cases looked : originContextFromPageRequest library state.observed waiting.asked none true now with
  | error error =>
      refine ⟨none, Subperm.refl _, fun _ => rfl, fun answer given => ?_⟩
      cases given
      exact .failed error
  | ok result =>
      obtain ⟨found, left⟩ := result
      obtain ⟨used, rfl, once, fits⟩ := originContextFromPageRequest_uses looked
      cases used with
      | none =>
          simp only [Option.map_none, Option.isSome_none, Bool.false_eq_true, false_or]
          split
          · refine ⟨none, once, fun _ => rfl, fun answer given => ?_⟩
            cases given
            exact .unknown waiting.without
          · exact ⟨none, once, fun _ => rfl, fun answer given => by cases given⟩
      | some request =>
          obtain ⟨fit, sender⟩ := fits request rfl
          obtain ⟨frame, trusted⟩ := Option.isSome_iff_exists.mp (sender rfl)
          refine ⟨some request, once, (fun silent => by cases silent), fun answer given => ?_⟩
          cases given
          exact .announced waiting.without fit trusted

theorem originContextForRequest_accounted (state : PageRequests library parse) (ticket : Nat) (asked : WebAuthnRequest)
    (started now later : Int) :
    ∃ used, Accounted library parse state.observed
      (originContextForRequest library state ticket asked started now later) used := by
  unfold originContextForRequest
  split
  · exact pollPageRequests_accounted state ticket _ now later
  · rename_i origin direct
    cases looked : originContextFromPageRequest library state.observed asked (some origin.origin) false now with
    | error error =>
        refine ⟨none, Subperm.refl _, fun _ => rfl, fun answer given => ?_⟩
        cases given
        exact .failed error
    | ok result =>
        obtain ⟨found, left⟩ := result
        obtain ⟨used, rfl, once, fits⟩ := originContextFromPageRequest_uses looked
        refine ⟨used, once, (fun silent => by cases silent), fun answer given => ?_⟩
        cases given
        cases used with
        | none => exact .direct direct
        | some request =>
            exact .completed direct (fits request rfl).1 rfl
              (withObservedOrigin_chain asked.request origin request.context)

/-- A step uses at most one announcement, and only for its answer. -/
theorem pageStep_accounted (state : PageRequests library parse) (event : PageEvent) :
    ∃ used, Accounted library parse (state.observed ++ (announcement library event).toList)
      (pageStep library state event) used := by
  cases event with
  | announce message sender now observedAt =>
      exact ⟨none, recordWebAuthnPageRequest_subperm state.observed message sender now observedAt, fun _ => rfl,
        fun _ given => by cases given⟩
  | ask ticket asked started now later =>
      simpa [announcement, pageStep] using originContextForRequest_accounted state ticket asked started now later
  | poll ticket now later =>
      simp only [pageStep, announcement, Option.toList_none, append_nil]
      cases here : state.waiting ticket with
      | none => exact ⟨none, Subperm.refl _, fun _ => rfl, fun _ given => by cases given⟩
      | some waiting => exact pollPageRequests_accounted state ticket waiting now later

/-- Over a run, what was used and what is left are among what was announced. -/
theorem pageRun_accounted (state : PageRequests library parse) (events : List PageEvent) :
    ∃ used : List (Option ObservedWebAuthnPageRequest),
      Forall₂ (fun answer => Attributed library parse answer.asked answer.now answer.result)
        (pageRun library state events).2 used ∧
      (used.reduceOption ++ (pageRun library state events).1.observed).Subperm
        (state.observed ++ events.filterMap (announcement library)) := by
  induction events generalizing state with
  | nil => exact ⟨[], .nil, by simpa [pageRun] using Subperm.refl state.observed⟩
  | cons event rest ih =>
      obtain ⟨now, accounted⟩ := pageStep_accounted state event
      obtain ⟨later, attributed, once⟩ := ih (pageStep library state event).1
      have arrived : (event :: rest).filterMap (announcement library) =
          (announcement library event).toList ++ rest.filterMap (announcement library) := by
        rw [filterMap_cons]
        cases announcement library event <;> rfl
      have whole := ((subperm_append_left now.toList).mpr once).trans
        (append_assoc .. ▸ (subperm_append_right _).mpr accounted.once)
      rw [append_assoc, ← arrived] at whole
      simp only [pageRun]
      cases answer : (pageStep library state event).2 with
      | none =>
          rw [accounted.silent answer] at whole
          exact ⟨later, attributed, whole⟩
      | some answer =>
          refine ⟨now :: later, .cons (accounted.answered _ ‹_›) attributed, ?_⟩
          cases now <;> simpa using whole

theorem observedPageRequest_trustedSender {message sender : Option Json} {observedAt : Int}
    {observed : ObservedWebAuthnPageRequest}
    (kept : observedPageRequest library message sender observedAt = some observed) :
    observed.trustedSender = (trustedWebAuthnMessageSenderContextFrom library sender).map (·.frame) ∧
      ∀ context, trustedWebAuthnMessageSenderContextFrom library sender = some context →
        observed.origin = context.origin := by
  simp only [observedPageRequest, Option.bind_eq_bind, Option.bind_eq_some_iff, Option.pure_def,
    Option.some.injEq] at kept
  obtain ⟨ceremony, -, origin, isOrigin, _, -, _, -, _, -, rfl⟩ := kept
  refine ⟨rfl, fun context isContext => ?_⟩
  rw [isContext] at isOrigin
  exact (Option.some.inj (truthy_some.mp isOrigin).1).symm

end Attribution

/-- Every origin that a request without one gets is the origin that the browser reported for the sender of an
announcement of the same thing, not older than two minutes, and of the frame of the request if it names one; what
an announcement adds to an origin of the browser's is of that origin and frame; and none is used twice. -/
theorem pageRequests_attributed (library : Library) (parse : String → Option Json) (events : List PageEvent) :
    ∃ used : List (Option ObservedWebAuthnPageRequest),
      Forall₂ (fun answer => Attributed library parse answer.asked answer.now answer.result)
        (pageRun library ({} : PageRequests library parse) events).2 used ∧
      used.reduceOption.Subperm (events.filterMap (announcement library)) ∧
      ∀ observed ∈ used.reduceOption, ∃ message sender now observedAt,
        PageEvent.announce message sender now observedAt ∈ events ∧
        observedPageRequest library message sender observedAt = some observed ∧
        ∀ frame, observed.trustedSender = some frame →
          trustedWebAuthnMessageSenderContextFrom library sender = some { origin := observed.origin, frame } := by
  obtain ⟨used, attributed, once⟩ := pageRun_accounted ({} : PageRequests library parse) events
  have among := (sublist_append_left _ _).subperm.trans once
  refine ⟨used, attributed, among, fun observed member => ?_⟩
  obtain ⟨event, came, announced⟩ := mem_filterMap.mp (among.subset member)
  cases event with
  | announce message sender now observedAt =>
      refine ⟨message, sender, now, observedAt, came, announced, fun frame trusted => ?_⟩
      obtain ⟨sent, origin⟩ := observedPageRequest_trustedSender announced
      obtain ⟨context, isContext, rfl⟩ := Option.map_eq_some_iff.mp (sent.symm.trans trusted)
      rw [isContext, origin context isContext]
  | ask => cases announced
  | poll => cases announced

/-! ## Isolation -/

section Isolation

variable {library : Library} {frame : TrustedFrame} {now : Int} {observed : List ObservedWebAuthnPageRequest}

/-- What the frame announced and is not too old. -/
def view (frame : TrustedFrame) (now : Int) (observed : List ObservedWebAuthnPageRequest) :
    List ObservedWebAuthnPageRequest :=
  (pruneObservedPageRequests now observed).filter (·.trustedSender = some frame)

theorem view_prune {later : Int} (ordered : now ≤ later) (observed : List ObservedWebAuthnPageRequest) :
    view frame later (pruneObservedPageRequests now observed) = view frame later observed := by
  have same : pruneObservedPageRequests later (pruneObservedPageRequests now observed) =
      pruneObservedPageRequests later observed := by
    unfold pruneObservedPageRequests
    rw [filter_filter]
    refine filter_congr fun request _ => ?_
    rw [← Bool.decide_and, decide_eq_decide]
    omega
  rw [view, same, view]

theorem view_comm (later : Int) (observed : List ObservedWebAuthnPageRequest) :
    view frame later observed = pruneObservedPageRequests later (observed.filter (·.trustedSender = some frame)) :=
  filter_comm ..

/-- The lookups fail alike, or they find the same and leave the same to the frame. -/
def FindSame (library : Library) (frame : TrustedFrame) (asked : WebAuthnRequest) (expectedOrigin : Option String)
    (trusted : Bool) (now : Int) (observed observed' : List ObservedWebAuthnPageRequest) : Prop :=
  (∃ error, originContextFromPageRequest library observed asked expectedOrigin trusted now = .error error ∧
      originContextFromPageRequest library observed' asked expectedOrigin trusted now = .error error) ∨
    ∃ found left left', originContextFromPageRequest library observed asked expectedOrigin trusted now = .ok (found, left) ∧
      originContextFromPageRequest library observed' asked expectedOrigin trusted now = .ok (found, left') ∧
      ∀ later, now ≤ later → view frame later left = view frame later left'

/-- A request that names its frame does not see what other frames announced. -/
theorem pageRequests_isolated {asked : WebAuthnRequest}
    (named : trustedFrameIdsFromWebAuthnRequest asked.request = some frame) (expectedOrigin : Option String)
    (trusted : Bool) {observed' : List ObservedWebAuthnPageRequest}
    (alike : ∀ later, now ≤ later → view frame later observed = view frame later observed') :
    FindSame library frame asked expectedOrigin trusted now observed observed' := by
  unfold FindSame originContextFromPageRequest
  cases expecting : expectedPageRequest library asked expectedOrigin trusted with
  | error error => exact .inl ⟨error, rfl, rfl⟩
  | ok expected =>
      refine .inr ?_
      cases expected with
      | none => exact ⟨none, observed, observed', rfl, rfl, alike⟩
      | some expected =>
          have only : ∀ request, observedPageRequestMatches request expected = true →
              decide (request.trustedSender = some frame) = true := by
            intro request passed
            obtain ⟨_, _, _, _, rfl⟩ := expectedPageRequest_some expecting
            simp only [observedPageRequestMatches, named, Option.all_some, Bool.and_eq_true] at passed
            exact passed.1.1.1.2
          have taken := takeNewest_filter only (pruneObservedPageRequests now observed)
          have taken' := takeNewest_filter only (pruneObservedPageRequests now observed')
          rw [show (pruneObservedPageRequests now observed).filter _ = _ from alike now le_rfl] at taken
          have both := taken.symm.trans taken'
          simp only [Except.map, Option.elim_some, takePageRequest]
          cases newest : takeNewest (observedPageRequestMatches · expected) (pruneObservedPageRequests now observed) with
          | none =>
              cases newest' : takeNewest (observedPageRequestMatches · expected) (pruneObservedPageRequests now observed') with
              | none =>
                  refine ⟨none, _, _, rfl, rfl, fun later ordered => ?_⟩
                  rw [view_prune ordered, view_prune ordered, alike later ordered]
              | some => simp [newest, newest'] at both
          | some request =>
              cases newest' : takeNewest (observedPageRequestMatches · expected) (pruneObservedPageRequests now observed') with
              | none => simp [newest, newest'] at both
              | some request' =>
                  simp only [newest, newest', Option.map_some, Option.some.injEq, Prod.mk.injEq] at both
                  refine ⟨some request.1.context, request.2, request'.2, rfl, by rw [both.1], fun later _ => ?_⟩
                  rw [view_comm, view_comm, both.2]

end Isolation

def frameRequest (frameId : Rat) : ObservedWebAuthnPageRequest :=
  { ceremony := .get, origin := "https://example.com", topOrigin := none, ancestorOrigins := []
    trustedSender := some { tabId := 1, frameId }, relyingParty := none, challenge := some "challenge"
    allowCredentialIds := none, excludeCredentialIds := none, mediation := none, observedAt := 0 }

/-- A later frame announces the request of the first one. -/
theorem pageRequests_isolated_twoFrames :
    FindSame ⟨fun _ => none, fun _ => none, fun _ => none, id⟩ { tabId := 1, frameId := 2 }
      { ceremony := .get, request := some (.object [("tabId", .number 1 0), ("frameId", .number 2 0)])
        options := some (.object [("challenge", .string "challenge")]) }
      none true 0 [frameRequest 2] [frameRequest 2, frameRequest 3] := by
  refine pageRequests_isolated ?_ none true fun later _ => ?_
  · decide +kernel
  · simp [view_comm, frameRequest]

end VaultKern.Browser
