import VaultKern.Extension.NativeBridge
import Mathlib.Data.List.TakeWhile

/-! # Every native request settles once

The bridge is a line of requests with one active one. A handshake that is sent without a port goes before
those that wait, and a startup command before those that it may overtake.
-/

namespace VaultKern.Native

open OneAtATime (Effect Orderly History Sent)

/-- The response has the id of the request, and the value is the rest of it. -/
def Answers (number : Nat) (_port : Nat) (resolution : Resolution) : Prop :=
  requestIdFromResponse resolution.response = some (requestIdOf number) ∧
    resolution.value = stripResponseRequestId resolution.response

def StartupPasses (info info' : SentInfo) : Prop :=
  isStartupCommand info.message = true ∧ canStartupOvertake info'.message = true

def Passes (info info' : SentInfo) : Prop :=
  StartupPasses info info' ∨ (isHandshakeCommand info.message = true ∧ info.attached = false)

namespace Bridge

def line (bridge : Bridge) : OneAtATime.State Nat Resolution SentInfo where
  queue := bridge.queuedRequests.map (·.number)
  active := bridge.activeRequest.map (·.number)
  port := bridge.port
  log := bridge.log

structure KnownOf (queue : List PendingRequest) (port : Option Nat) (nextRequestId connections : Nat)
    (log : List BridgeAction) : Prop where
  numbers : ∀ number, Sent log number → number ≤ nextRequestId
  ports : ∀ number port, .posted number port ∈ log → port < connections
  attached : ∀ p, port = some p → p < connections
  told : ∀ request ∈ queue, ∃ attached, .sent request.number ⟨request.message, attached⟩ ∈ log

/-- What the counters and the queue have to do with the log. -/
def Known (bridge : Bridge) : Prop :=
  KnownOf bridge.queuedRequests bridge.port bridge.nextRequestId bridge.connections bridge.log

structure Sound (bridge : Bridge) : Prop where
  orderly : Orderly Answers Passes bridge.line
  known : bridge.Known

/-- A bridge becomes another one by steps of its line. -/
structure Moves (answers : Nat → Nat → Resolution → Prop) (bridge bridge' : Bridge) : Prop where
  effects : Relation.ReflTransGen (Effect answers Passes) bridge.line bridge'.line
  known : bridge'.Known

variable {answers : Nat → Nat → Resolution → Prop} {bridge bridge' bridge'' : Bridge}

theorem Moves.sound (belongs : ∀ number port resolution, answers number port resolution → Answers number port resolution)
    (moves : Moves answers bridge bridge') (sound : Sound bridge) : Sound bridge' where
  orderly := sound.orderly.effects (Effect.weaken belongs moves.effects)
  known := moves.known

theorem Moves.trans (first : Moves answers bridge bridge') (next : Moves answers bridge' bridge'') :
    Moves answers bridge bridge'' where
  effects := first.effects.trans next.effects
  known := next.known

theorem moves_from {start : OneAtATime.State Nat Resolution SentInfo} (same : bridge.line = start) :
    Moves answers bridge bridge' ↔ Relation.ReflTransGen (Effect answers Passes) start bridge'.line ∧ bridge'.Known := by
  rw [← same]
  exact ⟨fun moves => ⟨moves.effects, moves.known⟩, fun moves => ⟨moves.1, moves.2⟩⟩

/-! ## Rejections -/

theorem rejectEach_eq (requests : List PendingRequest) (error : NativeMessagingError) (bridge : Bridge) :
    requests.foldl (fun bridge request => bridge.reject request error) bridge = { bridge with
      log := bridge.log ++ requests.map fun request => .rejected request.number
      errors := bridge.errors ++ requests.map fun request => (request.number, error) } := by
  induction requests generalizing bridge with
  | nil =>
      simp only [List.foldl_nil, List.map_nil, List.append_nil]
  | cons request rest ih =>
      rw [List.foldl_cons, ih]
      simp [reject]

/-- Entries that settle promises tell nothing of the counters. -/
theorem KnownOf.settling {queue queue' : List PendingRequest} {port port' : Option Nat} {nextRequestId connections : Nat}
    {log more : List BridgeAction} (known : KnownOf queue port nextRequestId connections log)
    (part : ∀ request ∈ queue', request ∈ queue) (same : ∀ p, port' = some p → port = some p)
    (settles : ∀ action ∈ more, (∃ number, action = .rejected number) ∨
      ∃ number port resolution, action = .resolved number port resolution) :
    KnownOf queue' port' nextRequestId connections (log ++ more) where
  numbers number sent := by
    obtain ⟨info, member⟩ := sent
    rcases List.mem_append.mp member with old | new
    · exact known.numbers number ⟨info, old⟩
    · rcases settles _ new with ⟨_, same⟩ | ⟨_, _, _, same⟩ <;> cases same
  ports number p posted := by
    rcases List.mem_append.mp posted with old | new
    · exact known.ports number p old
    · rcases settles _ new with ⟨_, same⟩ | ⟨_, _, _, same⟩ <;> cases same
  attached p here := known.attached p (same p here)
  told request member := by
    obtain ⟨attached, sent⟩ := known.told request (part request member)
    exact ⟨attached, List.mem_append_left _ sent⟩

theorem detachPort_eq (bridge : Bridge) : ∃ generation,
    bridge.detachPort = { bridge with port := none, connectionGeneration := generation } := by
  unfold detachPort
  cases attached : bridge.port with
  | none =>
      refine ⟨bridge.connectionGeneration, ?_⟩
      cases bridge
      cases attached
      rfl
  | some port => exact ⟨_, rfl⟩

theorem rejectAll_eq (error : NativeMessagingError) (bridge : Bridge) : ∃ errors,
    rejectAll error bridge = { bridge with
      activeRequest := none
      queuedRequests := []
      log := bridge.log ++ (bridge.activeRequest.toList ++ bridge.queuedRequests).map fun request =>
        .rejected request.number
      errors } := by
  cases active : bridge.activeRequest with
  | none =>
      have idle : bridge.rejectActive error = { bridge with activeRequest := none } := by
        cases bridge
        cases active
        rfl
      simp only [rejectAll, idle, rejectEach_eq]
      exact ⟨_, rfl⟩
  | some request =>
      have rejected : bridge.rejectActive error = { bridge.reject request error with activeRequest := none } := by
        unfold rejectActive
        rw [active]
      simp only [rejectAll, rejected, rejectEach_eq]
      simp only [reject, Option.toList_some, List.cons_append, List.nil_append, List.map_cons, List.append_assoc]
      exact ⟨_, rfl⟩

theorem rejections_settle (requests : List PendingRequest) :
    ∀ action ∈ requests.map fun request => (.rejected request.number : BridgeAction),
      (∃ number, action = .rejected number) ∨ ∃ number port resolution, action = .resolved number port resolution := by
  intro action member
  obtain ⟨request, _, rfl⟩ := List.mem_map.mp member
  exact .inl ⟨_, rfl⟩

/-- The port is left, and all requests are rejected. -/
theorem abandon_moves (error : NativeMessagingError) (disconnected : List Nat) (events : List NativeBridgeEvent)
    (known : bridge.Known) :
    Moves answers bridge (rejectAll error { bridge.detachPort with disconnected, events }) := by
  obtain ⟨generation, detached⟩ := bridge.detachPort_eq
  rw [detached]
  obtain ⟨errors, rejected⟩ := rejectAll_eq error
    { bridge with port := none, connectionGeneration := generation, disconnected, events }
  rw [rejected]
  refine ⟨?_, known.settling nofun (fun _ here => by cases here) (rejections_settle _)⟩
  cases active : bridge.activeRequest with
  | none =>
      have dropped := @Effect.dropAll _ _ _ answers Passes { bridge.line with port := none }
      apply Relation.ReflTransGen.head (Effect.detach _)
      · simpa [line, active, Function.comp_def] using dropped
      · simp [line, active]
  | some request =>
      have dropped := @Effect.dropAll _ _ _ answers Passes
        { bridge.line with active := none, port := none, log := bridge.log ++ [.rejected request.number] }
      apply Relation.ReflTransGen.head (Effect.abandon request.number _)
      · simpa [line, Function.comp_def] using dropped
      · simp [line, active]

/-! ## Preloads -/

theorem cancelQueuedPreloads_moves (message : Json) (known : bridge.Known) :
    Moves answers bridge (cancelQueuedPreloads message bridge) := by
  unfold cancelQueuedPreloads
  split
  · simp only [rejectEach_eq]
    refine ⟨?_, known.settling ?_ (fun _ here => here) (rejections_settle _)⟩
    · exact Effect.dropSome (·.number) (fun request => isPreloadCommand request.message) bridge.queuedRequests
        bridge.line rfl
    · intro request member
      exact List.mem_of_mem_filter member
  · exact ⟨.refl, known⟩

theorem interruptActivePreload_moves (known : bridge.Known) : Moves answers bridge bridge.interruptActivePreload := by
  unfold interruptActivePreload
  split
  · exact ⟨.refl, known⟩
  · rename_i request active
    obtain ⟨generation, detached⟩ := ({ bridge with activeRequest := none } : Bridge).detachPort_eq
    simp only [detached]
    refine ⟨.single ?_, ?_⟩
    · apply Effect.abandon request.number
      simp only [line, active, Option.map_some]
    · apply known.settling (fun _ queued => queued) (fun _ here => by cases here)
      intro action member
      exact .inl ⟨_, List.mem_singleton.mp member⟩

theorem prepareForSend_moves (message : Json) (known : bridge.Known) :
    Moves answers bridge (prepareForSend message bridge) := by
  have canceled : Moves answers bridge (cancelQueuedPreloads message bridge) := cancelQueuedPreloads_moves message known
  unfold prepareForSend
  simp only
  split
  · exact canceled.trans (interruptActivePreload_moves canceled.known)
  · exact canceled

/-! ## Posting -/

theorem failPost_moves (browser : Browser) (thrown : Thrown) (request : PendingRequest) (known : bridge.Known) :
    Moves answers bridge (failPost browser thrown request bridge) :=
  abandon_moves _ _ _ known

/-- The line before the request was taken from the queue. -/
def unposted (request : PendingRequest) (bridge : Bridge) : OneAtATime.State Nat Resolution SentInfo where
  queue := request.number :: bridge.queuedRequests.map (·.number)
  active := none
  port := bridge.port
  log := bridge.log

theorem failPost_unposted (browser : Browser) (thrown : Thrown) {request : PendingRequest}
    (active : bridge.activeRequest = some request) (apart : bridge.port = none) (known : bridge.Known) :
    Relation.ReflTransGen (Effect answers Passes) (bridge.unposted request) (failPost browser thrown request bridge).line ∧
      (failPost browser thrown request bridge).Known := by
  have failed : Moves answers bridge (failPost browser thrown request bridge) := failPost_moves browser thrown request known
  refine ⟨?_, failed.known⟩
  have dropped := @Effect.dropAll _ _ _ answers Passes (bridge.unposted request)
  have detached : bridge.detachPort = bridge := by
    unfold detachPort
    rw [apart]
  obtain ⟨errors, rejected⟩ := rejectAll_eq (toNativeMessagingError browser thrown .nativeUnknown)
    (emitEvent (.postError (commandTypeFromMessage request.message)
      (toNativeMessagingError browser thrown .nativeUnknown)) (disconnectPort bridge.port bridge))
  unfold failPost
  simp only [detached]
  rw [rejected]
  simpa [line, unposted, emitEvent, disconnectPort, active, apart, Function.comp_def] using dropped

theorem postRequest_moves (browser : Browser) (posting : Posting) {request : PendingRequest} {port : Nat}
    (active : bridge.activeRequest = some request) (here : bridge.port = some port) (known : bridge.Known) :
    Relation.ReflTransGen (Effect answers Passes) (bridge.unposted request)
        (postRequest browser posting request port bridge).line ∧
      (postRequest browser posting request port bridge).Known := by
  let posted : Bridge :=
    { emitEvent (.post (commandTypeFromMessage request.message)) bridge with
      log := bridge.log ++ [.posted request.number port]
      wire := bridge.wire ++ [(port, request.wireMessage)] }
  have effect : Effect answers Passes (bridge.unposted request) posted.line := by
    have same : posted.line = { bridge.unposted request with
        queue := bridge.queuedRequests.map (·.number), active := some request.number,
        log := bridge.log ++ [.posted request.number port] } := by
      simp [posted, line, unposted, emitEvent, active]
    rw [same]
    exact Effect.post request.number _ port rfl rfl here
  have known' : posted.Known := by
    constructor
    · intro number sent
      rcases OneAtATime.sent_snoc.mp sent with old | ⟨_, same⟩
      · exact known.numbers number old
      · cases same
    · intro number p wasPosted
      rcases List.mem_append.mp wasPosted with old | new
      · exact known.ports number p old
      · cases List.mem_singleton.mp new
        exact known.attached port here
    · exact known.attached
    · intro waiting member
      obtain ⟨attached, sent⟩ := known.told waiting member
      exact ⟨attached, List.mem_append_left _ sent⟩
  unfold postRequest
  split
  · rename_i thrown _
    have failed : Moves answers posted (failPost browser thrown request posted) := failPost_moves browser _ request known'
    exact ⟨.head effect failed.effects, failed.known⟩
  · exact ⟨.single effect, known'⟩

theorem ensurePort_cases (posting : Posting) (bridge : Bridge) :
    (∃ port, bridge.port = some port ∧ ensurePort posting bridge = (.ok port, bridge)) ∨
      bridge.port = none ∧ ((∃ thrown, ensurePort posting bridge = (.error thrown, bridge)) ∨
        ensurePort posting bridge = (.ok bridge.connections, emitEvent .connect { bridge with
          port := some bridge.connections
          connections := bridge.connections + 1
          connectionGeneration := bridge.connectionGeneration + 1 })) := by
  unfold ensurePort
  cases attached : bridge.port with
  | some port => exact .inl ⟨port, rfl, rfl⟩
  | none =>
      right
      refine ⟨rfl, ?_⟩
      cases posting.connectNative with
      | some thrown => exact .inl ⟨thrown, rfl⟩
      | none => exact .inr rfl

theorem flushQueue_moves (browser : Browser) (posting : Posting) (known : bridge.Known) :
    Moves answers bridge (flushQueue browser posting bridge) := by
  unfold flushQueue
  split
  · rename_i request rest idle queued
    obtain ⟨taken, isTaken⟩ : ∃ taken : Bridge,
        taken = { bridge with activeRequest := some request, queuedRequests := rest } := ⟨_, rfl⟩
    have start : bridge.line = taken.unposted request := by
      rw [isTaken]
      simp [line, unposted, idle, queued]
    have less : taken.Known := by
      rw [isTaken]
      refine ⟨known.numbers, known.ports, known.attached, ?_⟩
      intro waiting member
      apply known.told
      rw [queued]
      exact List.mem_cons_of_mem _ member
    have active : taken.activeRequest = some request := by rw [isTaken]
    rw [← isTaken]
    rcases ensurePort_cases posting taken with ⟨port, attached, same⟩ | ⟨apart, ⟨thrown, same⟩ | same⟩
    · rw [same]
      rw [moves_from start]
      exact postRequest_moves browser posting active attached less
    · rw [same, moves_from start]
      exact failPost_unposted browser thrown active apart less
    · rw [same, moves_from start]
      have fresh : ∀ number, .posted number taken.connections ∉ taken.log := by
        intro number posted
        exact absurd (less.ports number _ posted) (Nat.lt_irrefl _)
      have connected : KnownOf taken.queuedRequests (some taken.connections) taken.nextRequestId (taken.connections + 1)
          taken.log := by
        refine ⟨less.numbers, ?_, ?_, less.told⟩
        · intro number port posted
          exact Nat.lt_succ_of_lt (less.ports number port posted)
        · intro port here
          cases here
          exact Nat.lt_succ_self _
      obtain ⟨effects, known'⟩ := @postRequest_moves answers
        (emitEvent .connect { taken with
          port := some taken.connections
          connections := taken.connections + 1
          connectionGeneration := taken.connectionGeneration + 1 })
        browser posting request taken.connections active rfl connected
      exact ⟨.head (.connect taken.connections rfl fresh) effects, known'⟩
  · exact ⟨.refl, known⟩

/-! ## Inputs -/

theorem overtaken_split (queuedRequests : List PendingRequest) :
    (overtaken queuedRequests).1 ++ (overtaken queuedRequests).2 = queuedRequests ∧
      ∀ request ∈ (overtaken queuedRequests).2, canStartupOvertake request.message = true := by
  refine ⟨?_, ?_⟩
  · unfold overtaken
    rw [← List.reverse_append, List.takeWhile_append_dropWhile, List.reverse_reverse]
  · intro request member
    have taken := List.mem_reverse.mp member
    exact List.mem_takeWhile_imp (p := fun request : PendingRequest => canStartupOvertake request.message) taken

/-- The request goes to its place in the queue. -/
theorem enqueueRequest_cases (request : PendingRequest) (bridge : Bridge) :
    ∃ ahead behind, bridge.queuedRequests = ahead ++ behind ∧
      enqueueRequest request bridge = { bridge with queuedRequests := ahead ++ request :: behind } ∧
      ∀ other ∈ behind, ∀ attached,
        Passes ⟨request.message, bridge.port.isSome⟩ ⟨other.message, attached⟩ := by
  unfold enqueueRequest
  split
  · rename_i handshake
    rw [Bool.and_eq_true, Option.isNone_iff_eq_none] at handshake
    refine ⟨[], bridge.queuedRequests, rfl, rfl, ?_⟩
    intro other _ attached
    exact .inr ⟨handshake.1, by rw [handshake.2]; rfl⟩
  · split
    · exact ⟨bridge.queuedRequests, [], (List.append_nil _).symm, rfl, nofun⟩
    · rename_i startup
      obtain ⟨split, overtakes⟩ := overtaken_split bridge.queuedRequests
      refine ⟨_, _, split.symm, rfl, ?_⟩
      intro other member attached
      exact .inl ⟨by simpa using startup, overtakes other member⟩

theorem send_moves (browser : Browser) (options : NativeBridgeOptions) (posting : Posting) (message : Json)
    (belongs : ∀ number port resolution, answers number port resolution → Answers number port resolution)
    (sound : Sound bridge) : Moves answers bridge (send browser options posting message bridge) := by
  have prepared : Moves answers bridge (prepareForSend message bridge) := prepareForSend_moves message sound.known
  have history := (prepared.sound belongs sound).orderly.history
  obtain ⟨start, isStart⟩ : ∃ start, start = prepareForSend message bridge := ⟨_, rfl⟩
  rw [← isStart] at prepared history
  obtain ⟨ahead, behind, split, enqueued, passes⟩ := enqueueRequest_cases
    (newRequest options (start.nextRequestId + 1) message) { start with
      nextRequestId := start.nextRequestId + 1
      log := start.log ++ [.sent (start.nextRequestId + 1) { message, attached := start.port.isSome }] }
  have queued : ∀ other ∈ start.queuedRequests, ∃ attached, .sent other.number ⟨other.message, attached⟩ ∈ start.log :=
    prepared.known.told
  rw [split] at queued
  have sent : Moves answers start { start with
      nextRequestId := start.nextRequestId + 1
      queuedRequests := ahead ++ newRequest options (start.nextRequestId + 1) message :: behind
      log := start.log ++ [.sent (start.nextRequestId + 1) { message, attached := start.port.isSome }] } := by
    refine ⟨.single ?_, ?_⟩
    · have effect : Effect answers Passes start.line { start.line with
          queue := ahead.map (·.number) ++ (start.nextRequestId + 1) :: behind.map (·.number)
          log := start.log ++ [.sent (start.nextRequestId + 1) { message, attached := start.port.isSome }] } := by
        apply Effect.send
        · change start.queuedRequests.map (·.number) = _
          rw [split, List.map_append]
        · intro other before
          exact Nat.lt_succ_of_le (prepared.known.numbers other before)
        · intro number member info' told
          obtain ⟨other, waits, rfl⟩ := List.mem_map.mp member
          obtain ⟨attached, told'⟩ := queued other (List.mem_append_right _ waits)
          rw [history.sent_once told told']
          exact passes other waits attached
      simpa [line, newRequest] using effect
    · constructor
      · intro number before
        rcases OneAtATime.sent_snoc.mp before with old | ⟨_, same⟩
        · exact Nat.le_succ_of_le (prepared.known.numbers number old)
        · cases same
          exact Nat.le_refl _
      · intro number port posted
        rcases List.mem_append.mp posted with old | new
        · exact prepared.known.ports number port old
        · cases List.mem_singleton.mp new
      · exact prepared.known.attached
      · intro other member
        have cases : other = newRequest options (start.nextRequestId + 1) message ∨ other ∈ ahead ++ behind := by
          simp only [List.mem_append, List.mem_cons] at member ⊢
          tauto
        rcases cases with rfl | old
        · exact ⟨_, List.mem_append_right _ (List.mem_singleton_self _)⟩
        · obtain ⟨attached, told⟩ := queued other old
          exact ⟨attached, List.mem_append_left _ told⟩
  have flushed := @flushQueue_moves answers _ browser posting sent.known
  unfold send
  simp only [← isStart, enqueued]
  exact (prepared.trans sent).trans flushed

theorem rejectProtocolConnection_moves (attachedPort : Nat) (message : String) (known : bridge.Known) :
    Moves answers bridge (rejectProtocolConnection attachedPort message bridge) := by
  unfold rejectProtocolConnection
  split
  · obtain ⟨effects, known'⟩ : Moves answers bridge (rejectAll ⟨.nativeUnknown, message⟩ bridge.detachPort) :=
      abandon_moves _ _ _ known
    exact ⟨effects, known'⟩
  · exact ⟨.refl, known⟩

/-- An answer that came on a port. -/
def AnswersOn (attachedPort : Nat) (number port : Nat) (resolution : Resolution) : Prop :=
  port = attachedPort ∧ Answers number port resolution

theorem answerRequest_moves (browser : Browser) (posting : Posting) {attachedPort : Nat} {request : PendingRequest}
    (response : Json) (active : bridge.activeRequest = some request) (attached : bridge.port = some attachedPort)
    (known : bridge.Known) :
    Moves (AnswersOn attachedPort) bridge (answerRequest browser posting attachedPort request response bridge) := by
  unfold answerRequest
  split
  · exact rejectProtocolConnection_moves _ _ known
  · simp only
    split
    · exact rejectProtocolConnection_moves _ _ known
    · rename_i same
      rw [not_not] at same
      obtain ⟨answered, isAnswered⟩ : ∃ answered : Bridge, answered =
          { emitEvent (.response (commandTypeFromMessage request.message)) bridge with
            activeRequest := none
            log := bridge.log ++ [.resolved request.number attachedPort
              { response, value := stripResponseRequestId response }] } := ⟨_, rfl⟩
      have moves : Moves (AnswersOn attachedPort) bridge answered := by
        rw [isAnswered]
        refine ⟨.single ?_, ?_⟩
        · apply Effect.answer request.number attachedPort
          · simp [line, active]
          · exact attached
          · exact ⟨rfl, same, rfl⟩
        · apply known.settling (fun _ queued => queued) (fun _ here => here)
          intro action member
          exact .inr ⟨_, _, _, List.mem_singleton.mp member⟩
      have flushed : Moves (AnswersOn attachedPort) answered (flushQueue browser posting answered) :=
        flushQueue_moves browser posting moves.known
      have whole := moves.trans flushed
      rw [isAnswered] at whole
      exact whole

theorem takeMessage_moves (browser : Browser) {again : Json → Bridge → Bridge} (posting : Posting) (attachedPort : Nat)
    (response : Json) (known : bridge.Known)
    (next : ∀ assembled bridge, Known bridge → Moves (AnswersOn attachedPort) bridge (again assembled bridge)) :
    Moves (AnswersOn attachedPort) bridge (takeMessage browser again posting attachedPort response bridge) := by
  -- The chunks of the active request are no part of the line.
  have same : ∀ request chunks, bridge.activeRequest = some request →
      ({ bridge with activeRequest := some { request with chunks } } : Bridge).line = bridge.line := by
    intro request chunks active
    simp [line, active]
  unfold takeMessage
  split
  · exact ⟨.refl, known⟩
  · rename_i request active
    split
    · exact ⟨.refl, known⟩
    · rename_i attached
      rw [not_not] at attached
      split
      · exact rejectProtocolConnection_moves _ _ known
      · exact answerRequest_moves browser posting response active attached known
      · split
        · exact rejectProtocolConnection_moves _ _ known
        · rename_i chunks _
          refine ⟨?_, known⟩
          rw [same request (some chunks) active]
        · rename_i assembled _
          have moves := next assembled { bridge with activeRequest := some { request with chunks := none } } known
          refine ⟨?_, moves.known⟩
          rw [← same request none active]
          exact moves.effects

theorem onNativeMessageWithin_moves (browser : Browser) (posting : Posting) (attachedPort depth : Nat) (response : Json)
    (known : bridge.Known) :
    Moves (AnswersOn attachedPort) bridge
      (onNativeMessageWithin browser posting attachedPort depth response bridge) := by
  induction depth generalizing response bridge with
  | zero => exact takeMessage_moves browser posting attachedPort response known fun _ _ known => ⟨.refl, known⟩
  | succ depth ih => exact takeMessage_moves browser posting attachedPort response known fun assembled _ known => ih assembled known

/-- The answers that an input may bring. -/
def answersOf : Input → Nat → Nat → Resolution → Prop
  | .message attachedPort _ _ => AnswersOn attachedPort
  | _ => fun _ _ _ => False

theorem step_moves (browser : Browser) (options : NativeBridgeOptions) (input : Input) (sound : Sound bridge) :
    Moves (answersOf input) bridge (step browser options bridge input) := by
  cases input with
  | send message posting => exact send_moves browser options posting message nofun sound
  | prepareForSend message => exact prepareForSend_moves message sound.known
  | message port response posting => exact onNativeMessageWithin_moves browser posting port 1 response sound.known
  | disconnect port lastError =>
      change Moves _ bridge (onNativeDisconnect browser port lastError bridge)
      unfold onNativeDisconnect
      split
      · have emitted : ∀ event, Moves (answersOf (.disconnect port lastError)) bridge (emitEvent event bridge) :=
          fun _ => ⟨.refl, sound.known⟩
        exact (emitted _).trans (abandon_moves _ _ _ (emitted _).known)
      · exact ⟨.refl, sound.known⟩
  | timeout number port =>
      change Moves _ bridge (onTimeout number port bridge)
      unfold onTimeout
      split
      · obtain ⟨effects, known⟩ : Moves (answersOf (.timeout number port)) bridge (rejectAll timeoutError bridge.detachPort) :=
          abandon_moves _ _ _ sound.known
        exact ⟨effects, known⟩
      · exact ⟨.refl, sound.known⟩

theorem answersOf_belong (input : Input) (number port : Nat) (resolution : Resolution)
    (answers : answersOf input number port resolution) : Answers number port resolution := by
  cases input with
  | message attachedPort response posting => exact answers.2
  | send | prepareForSend | disconnect | timeout => exact answers.elim

theorem run_sound (browser : Browser) (options : NativeBridgeOptions) (inputs : List Input) :
    Sound (run browser options inputs) := by
  induction inputs using List.reverseRecOn with
  | nil =>
      refine ⟨Orderly.initial none, ?_⟩
      constructor
      · intro number ⟨_, sent⟩
        cases sent
      · intro number port posted
        cases posted
      · nofun
      · nofun
  | append_singleton inputs input ih =>
      unfold run
      rw [List.foldl_append]
      exact (step_moves browser options input ih).sound (answersOf_belong input) ih

end Bridge

end VaultKern.Native
