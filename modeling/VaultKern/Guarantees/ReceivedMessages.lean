import VaultKern.Guarantees.NativeBridge

/-! # Every native request settles once, with its own answer

A request is resolved with a message that came on its port, or with what a whole series of such messages tells.
-/

namespace VaultKern.Native

open OneAtATime (History)

/-! ## Series -/

/-- The frames are the chunks of a series, from the first one on. -/
def Series (requestId : String) (count : Int) (frames : List Json) (parts : List String) : Prop :=
  frames.map nativeResponseChunk = parts.zipIdx.map fun part => .chunk ⟨requestId, part.2, count, part.1⟩

theorem Series.length_eq {requestId : String} {count : Int} {frames : List Json} {parts : List String}
    (series : Series requestId count frames parts) : frames.length = parts.length := by
  have lengths := congrArg List.length series
  simpa using lengths

theorem Series.snoc {requestId : String} {count : Int} {frames : List Json} {parts : List String} {frame : Json}
    {data : String} (series : Series requestId count frames parts)
    (read : nativeResponseChunk frame = .chunk ⟨requestId, parts.length, count, data⟩) :
    Series requestId count (frames ++ [frame]) (parts ++ [data]) := by
  have before : frames.map nativeResponseChunk = parts.zipIdx.map fun part => .chunk ⟨requestId, part.2, count, part.1⟩ :=
    series
  unfold Series
  rw [List.map_append, List.zipIdx_append, List.map_append, before]
  simp [read]

theorem Series.read {requestId : String} {count : Int} {frames : List Json} {parts : List String}
    (series : Series requestId count frames parts) {index : Nat} {frame : Json} (here : frames[index]? = some frame) :
    ∃ data, parts[index]? = some data ∧ nativeResponseChunk frame = .chunk ⟨requestId, index, count, data⟩ := by
  have same := congrArg (·[index]?) series
  simp only [List.getElem?_map, List.getElem?_zipIdx, here, Option.map_some] at same
  cases part : parts[index]? with
  | none =>
      rw [part] at same
      cases same
  | some data =>
      rw [part] at same
      refine ⟨data, rfl, ?_⟩
      simpa using same

/-- Messages tell a value: it is the message, or it is parsed from a series, the first frame of which may be told
by a series itself. -/
inductive Tells (browser : Browser) (requestId : String) : List Json → Json → Prop
  | plain (message : Json) : Tells browser requestId [message] message
  | series {messages rest : List Json} {first value : Json} {parts : List String} :
      Tells browser requestId messages first → Series requestId parts.length (first :: rest) parts →
      browser.parse (String.join parts) = some value → Tells browser requestId (messages ++ rest) value

theorem Tells.snoc {browser : Browser} {requestId : String} {messages : List Json} {value : Json}
    (tells : Tells browser requestId messages value) : ∃ sent last, messages = sent ++ [last] := by
  refine ⟨messages.dropLast, messages.getLast ?_, (List.dropLast_append_getLast _).symm⟩
  induction tells with
  | plain message => exact List.cons_ne_nil _ _
  | series begun _ _ ih => exact fun none => ih (List.append_eq_nil_iff.mp none).1

/-- The last messages begin a series. -/
structure Collected (browser : Browser) (requestId : String) (messages : List Json) (chunks : Chunks) : Prop where
  begun : ∃ before sent first rest, messages = before ++ (sent ++ rest) ∧ Tells browser requestId sent first ∧
    Series requestId chunks.count (first :: rest) chunks.parts
  next : chunks.nextIndex = chunks.parts.length

namespace Bridge

/-- The chunks with one more. -/
def addChunk (chunks : Chunks) (data : String) : Chunks where
  count := chunks.count
  nextIndex := chunks.nextIndex + 1
  totalCharacters := chunks.totalCharacters + characters data
  parts := chunks.parts ++ [data]

theorem startChunks_ok {request : PendingRequest} {chunk : NativeResponseChunk} {chunks : Chunks}
    (started : startChunks request chunk = .ok (some chunks)) :
    request.chunks = some chunks ∨ request.chunks = none ∧ chunks.nextIndex = 0 ∧ chunks.parts = [] := by
  unfold startChunks at started
  split at started
  · split at started
    · cases started
    · rename_i absent
      cases started
      exact .inr ⟨by simpa using absent, rfl, rfl⟩
  · exact .inl (Except.ok.inj started)

/-- What a chunk must be so that it is taken, and what is made of it. -/
structure Taken (browser : Browser) (request : PendingRequest) (chunk : NativeResponseChunk) (chunks : Chunks) : Prop where
  own : chunk.requestId = request.requestId
  started : request.chunks = some chunks ∨ request.chunks = none ∧ chunks.nextIndex = 0 ∧ chunks.parts = []
  count : chunks.count = chunk.chunkCount
  next : chunks.nextIndex = chunk.chunkIndex
  step : takeChunk browser request chunk = .incomplete (addChunk chunks chunk.data) ∨
    chunks.nextIndex + 1 = chunks.count ∧ ∃ value, browser.parse (String.join (chunks.parts ++ [chunk.data])) = some value ∧
      takeChunk browser request chunk = .assembled value

theorem takeChunk_cases (browser : Browser) (request : PendingRequest) (chunk : NativeResponseChunk) :
    (∃ message, takeChunk browser request chunk = .refused message) ∨ ∃ chunks, Taken browser request chunk chunks := by
  generalize whole : takeChunk browser request chunk = result
  have taken := whole
  unfold takeChunk at taken
  split at taken
  · exact .inl ⟨_, taken.symm⟩
  · rename_i valid
    split at taken
    · exact .inl ⟨_, taken.symm⟩
    · exact .inl ⟨_, taken.symm⟩
    · rename_i chunks started
      split at taken
      · exact .inl ⟨_, taken.symm⟩
      · rename_i fits
        simp only [not_or, not_not] at valid fits
        have step : (∃ message, result = .refused message) ∨
            takeChunk browser request chunk = .incomplete (addChunk chunks chunk.data) ∨
            chunks.nextIndex + 1 = chunks.count ∧ ∃ value,
              browser.parse (String.join (chunks.parts ++ [chunk.data])) = some value ∧
                takeChunk browser request chunk = .assembled value := by
          simp only at taken
          split at taken
          · exact .inr (.inl (whole.trans taken.symm))
          · rename_i last
            split at taken
            · exact .inl ⟨_, taken.symm⟩
            · rename_i value parsed
              exact .inr (.inr ⟨not_not.mp last, value, parsed, whole.trans taken.symm⟩)
        exact step.imp id fun step => ⟨chunks, valid.1, startChunks_ok started, fits.1, fits.2.1, step⟩

/-- A chunk goes on with the series, or begins one. -/
theorem Taken.collected {browser : Browser} {request : PendingRequest} {chunk : NativeResponseChunk} {chunks : Chunks}
    {response : Json} {before arrival : List Json} (taken : Taken browser request chunk chunks)
    (read : nativeResponseChunk response = .chunk chunk) (tells : Tells browser request.requestId arrival response)
    (earlier : ∀ chunks, request.chunks = some chunks →
      arrival = [response] ∧ Collected browser request.requestId before chunks) :
    Collected browser request.requestId (before ++ arrival) (addChunk chunks chunk.data) := by
  have isChunk : chunk = ⟨request.requestId, chunks.nextIndex, chunks.count, chunk.data⟩ := by
    rw [taken.next, taken.count, ← taken.own]
  rw [isChunk] at read
  rcases taken.started with going | ⟨absent, index, parts⟩
  · obtain ⟨alone, collected⟩ := earlier chunks going
    obtain ⟨start, sent, first, rest, split, begun, series⟩ := collected.begun
    rw [collected.next] at read
    refine ⟨⟨start, sent, first, rest ++ [response], ?_, begun, series.snoc read⟩, ?_⟩
    · rw [alone, split]
      simp
    · simp [addChunk, collected.next]
  · have one : Series request.requestId chunks.count [response] ([] ++ [chunk.data]) := by
      rw [index] at read
      simpa [Series] using read
    refine ⟨⟨before, arrival, response, [], by simp, tells, ?_⟩, ?_⟩
    · rw [addChunk, parts]
      exact one
    · simp [addChunk, index, parts]

/-! ## What goes on -/

/-- Nothing is collected for requests that wait. -/
def Fresh (bridge : Bridge) : Prop := ∀ request ∈ bridge.queuedRequests, request.chunks = none

/-- Nothing is collected in the second bridge but for the request, and on the port, of the first one. -/
structure GoesOn (bridge bridge' : Bridge) : Prop where
  fresh : bridge'.Fresh
  same : ∀ request chunks port, bridge'.activeRequest = some request → request.chunks = some chunks →
    bridge'.port = some port → bridge.activeRequest = some request ∧ bridge.port = some port

variable {bridge bridge' bridge'' : Bridge}

theorem GoesOn.trans (first : GoesOn bridge bridge') (next : GoesOn bridge' bridge'') : GoesOn bridge bridge'' where
  fresh := next.fresh
  same request chunks port active collected attached :=
    have ⟨active', attached'⟩ := next.same request chunks port active collected attached
    first.same request chunks port active' collected attached'

/-- No request is active, or the active one is new. -/
theorem GoesOn.begin (fresh : bridge'.Fresh) (begun : ∀ request, bridge'.activeRequest = some request → request.chunks = none) :
    GoesOn bridge bridge' where
  fresh := fresh
  same request chunks port active collected _ := by
    rw [begun request active] at collected
    cases collected

theorem GoesOn.still (fresh : bridge'.Fresh) (active : bridge'.activeRequest = bridge.activeRequest)
    (attached : bridge'.port = bridge.port) : GoesOn bridge bridge' where
  fresh := fresh
  same _ _ _ here _ on := ⟨active ▸ here, attached ▸ on⟩

theorem rejectAll_goesOn (error : NativeMessagingError) (bridge' : Bridge) : GoesOn bridge (rejectAll error bridge') := by
  obtain ⟨errors, rejected⟩ := rejectAll_eq error bridge'
  rw [rejected]
  exact .begin nofun nofun

theorem cancelQueuedPreloads_goesOn (message : Json) (fresh : bridge.Fresh) :
    GoesOn bridge (cancelQueuedPreloads message bridge) := by
  unfold cancelQueuedPreloads
  split
  · simp only [rejectEach_eq]
    exact .still (fun request member => fresh request (List.mem_of_mem_filter member)) rfl rfl
  · exact .still fresh rfl rfl

theorem interruptActivePreload_goesOn (fresh : bridge.Fresh) : GoesOn bridge bridge.interruptActivePreload := by
  unfold interruptActivePreload
  split
  · exact .still fresh rfl rfl
  · obtain ⟨generation, detached⟩ := ({ bridge with activeRequest := none } : Bridge).detachPort_eq
    simp only [detached]
    exact .begin fresh nofun

theorem prepareForSend_goesOn (message : Json) (fresh : bridge.Fresh) : GoesOn bridge (prepareForSend message bridge) := by
  have canceled : GoesOn bridge (cancelQueuedPreloads message bridge) := cancelQueuedPreloads_goesOn message fresh
  unfold prepareForSend
  simp only
  split
  · exact canceled.trans (interruptActivePreload_goesOn canceled.fresh)
  · exact canceled

theorem postRequest_goesOn (browser : Browser) (posting : Posting) {request : PendingRequest} (port : Nat)
    (fresh : bridge'.Fresh) (active : bridge'.activeRequest = some request) (begun : request.chunks = none) :
    GoesOn bridge (postRequest browser posting request port bridge') := by
  unfold postRequest
  split
  · exact rejectAll_goesOn _ _
  · refine .begin fresh fun other here => ?_
    rw [← Option.some.inj (active.symm.trans here)]
    exact begun

theorem flushQueue_goesOn (browser : Browser) (posting : Posting) (fresh : bridge.Fresh) :
    GoesOn bridge (flushQueue browser posting bridge) := by
  unfold flushQueue
  split
  · rename_i request rest idle queued
    have begun : request.chunks = none := fresh request (queued ▸ List.mem_cons_self)
    have others : ∀ waiting ∈ rest, waiting.chunks = none := fun waiting member =>
      fresh waiting (queued ▸ List.mem_cons_of_mem _ member)
    rcases ensurePort_cases posting { bridge with activeRequest := some request, queuedRequests := rest }
      with ⟨port, attached, same⟩ | ⟨apart, ⟨thrown, same⟩ | same⟩
    · rw [same]
      exact postRequest_goesOn browser posting port others rfl begun
    · rw [same]
      exact rejectAll_goesOn _ _
    · rw [same]
      exact postRequest_goesOn browser posting _ others rfl begun
  · exact .still fresh rfl rfl

theorem send_goesOn (browser : Browser) (options : NativeBridgeOptions) (posting : Posting) (message : Json)
    (fresh : bridge.Fresh) : GoesOn bridge (send browser options posting message bridge) := by
  have prepared : GoesOn bridge (prepareForSend message bridge) := prepareForSend_goesOn message fresh
  unfold send
  simp only
  generalize prepareForSend message bridge = start at prepared
  obtain ⟨ahead, behind, split, enqueued, -⟩ := enqueueRequest_cases
    (newRequest options (start.nextRequestId + 1) message) { start with
      nextRequestId := start.nextRequestId + 1
      log := start.log ++ [.sent (start.nextRequestId + 1) { message, attached := start.port.isSome }] }
  rw [enqueued]
  have queued : ∀ request ∈ ahead ++ newRequest options (start.nextRequestId + 1) message :: behind,
      request.chunks = none := by
    intro request member
    rcases List.mem_append.mp member with early | late
    · exact prepared.fresh request (split ▸ List.mem_append_left _ early)
    · rcases List.mem_cons.mp late with rfl | later
      · rfl
      · exact prepared.fresh request (split ▸ List.mem_append_right _ later)
  have waiting : GoesOn start { start with
      nextRequestId := start.nextRequestId + 1
      queuedRequests := ahead ++ newRequest options (start.nextRequestId + 1) message :: behind
      log := start.log ++ [.sent (start.nextRequestId + 1) { message, attached := start.port.isSome }] } :=
    .still queued rfl rfl
  exact (prepared.trans waiting).trans (flushQueue_goesOn browser posting waiting.fresh)

/-! ## What was received -/

/-- Since the log was the old one, requests were resolved with what the last messages of their ports tell. -/
def ResolvedSince (browser : Browser) (received : Nat → List Json) (old : List BridgeAction) (bridge : Bridge) : Prop :=
  ∀ number port resolution, .resolved number port resolution ∈ bridge.log →
    .resolved number port resolution ∈ old ∨ ∃ before sent,
      received port = before ++ sent ∧ Tells browser (requestIdOf number) sent resolution.response

/-- What is collected was received on the port, and so was what a request is resolved with. -/
structure Gathers (browser : Browser) (received : Nat → List Json) (old : List BridgeAction) (bridge : Bridge) : Prop where
  fresh : bridge.Fresh
  collected : ∀ request chunks port, bridge.activeRequest = some request → request.chunks = some chunks →
    bridge.port = some port → Collected browser request.requestId (received port) chunks
  resolved : ResolvedSince browser received old bridge

theorem Moves.quiet (moves : Moves (fun _ _ _ => False) bridge bridge') {number port : Nat} {resolution : Resolution}
    (resolved : .resolved number port resolution ∈ bridge'.log) : .resolved number port resolution ∈ bridge.log := by
  obtain ⟨more, grown, allowed⟩ := OneAtATime.Effect.appends moves.effects
  change bridge'.log = bridge.log ++ more at grown
  rw [grown] at resolved
  exact (List.mem_append.mp resolved).resolve_right fun new => allowed number port resolution new

variable {browser : Browser} {received : Nat → List Json} {old : List BridgeAction}

theorem Gathers.goesOn (gathers : Gathers browser received old bridge) (goesOn : GoesOn bridge bridge')
    (moves : Moves (fun _ _ _ => False) bridge bridge') : Gathers browser received old bridge' where
  fresh := goesOn.fresh
  collected request chunks port active here attached :=
    have ⟨active', attached'⟩ := goesOn.same request chunks port active here attached
    gathers.collected request chunks port active' here attached'
  resolved number port resolution done := gathers.resolved number port resolution (moves.quiet done)

/-- What is known of the bridge when a message is taken from the port of the active request. -/
structure Taking (browser : Browser) (received : Nat → List Json) (old : List BridgeAction) (port : Nat)
    (request : PendingRequest) (bridge : Bridge) : Prop where
  fresh : bridge.Fresh
  known : bridge.Known
  active : bridge.activeRequest = some request
  attached : bridge.port = some port
  resolved : ResolvedSince browser received old bridge

section Taking

variable {port : Nat} {request : PendingRequest} {posting : Posting}

theorem Taking.set (taking : Taking browser received old port request bridge) (chunks : Option Chunks) :
    Taking browser received old port { request with chunks } { bridge with activeRequest := some { request with chunks } } where
  fresh := taking.fresh
  known := taking.known
  active := rfl
  attached := taking.attached
  resolved := taking.resolved

theorem Taking.gathers (taking : Taking browser received old port request bridge)
    (collected : ∀ chunks, request.chunks = some chunks → Collected browser request.requestId (received port) chunks) :
    Gathers browser received old bridge where
  fresh := taking.fresh
  collected other chunks port' active here attached := by
    cases Option.some.inj (taking.active.symm.trans active)
    cases Option.some.inj (taking.attached.symm.trans attached)
    exact collected chunks here
  resolved := taking.resolved

theorem Taking.rejected (taking : Taking browser received old port request bridge) (message : String) :
    Gathers browser received old (rejectProtocolConnection port message bridge) := by
  have moves : Moves (fun _ _ _ => False) bridge (rejectProtocolConnection port message bridge) :=
    rejectProtocolConnection_moves port message taking.known
  have goesOn : GoesOn { bridge with activeRequest := none } (rejectProtocolConnection port message bridge) := by
    obtain ⟨fresh, same⟩ := @rejectAll_goesOn bridge ⟨.nativeUnknown, message⟩ bridge.detachPort
    unfold rejectProtocolConnection
    rw [if_pos taking.attached]
    obtain ⟨errors, rejected⟩ := rejectAll_eq ⟨.nativeUnknown, message⟩ bridge.detachPort
    refine .begin fresh fun other active => ?_
    rw [rejected] at active
    cases active
  refine ⟨goesOn.fresh, fun other chunks port' active here attached => ?_, fun number port' resolution done => ?_⟩
  · cases (goesOn.same other chunks port' active here attached).1
  · exact taking.resolved number port' resolution (moves.quiet done)

theorem Taking.answered (taking : Taking browser received old port request bridge) {before arrival : List Json} {response : Json}
    (whole : received port = before ++ arrival) (tells : Tells browser request.requestId arrival response) :
    Gathers browser received old (answerRequest browser posting port request response bridge) := by
  unfold answerRequest
  split
  · exact taking.rejected _
  · simp only
    split
    · exact taking.rejected _
    · obtain ⟨answered, isAnswered⟩ : ∃ answered : Bridge, answered =
          { emitEvent (.response (commandTypeFromMessage request.message)) bridge with
            activeRequest := none
            log := bridge.log ++ [.resolved request.number port { response, value := stripResponseRequestId response }] } :=
        ⟨_, rfl⟩
      have known : answered.Known := by
        rw [isAnswered]
        apply KnownOf.settling taking.known (fun _ queued => queued) (fun _ here => here)
        intro action member
        exact .inr ⟨_, _, _, List.mem_singleton.mp member⟩
      have gathers : Gathers browser received old answered := by
        rw [isAnswered]
        refine ⟨taking.fresh, nofun, fun number port' resolution done => ?_⟩
        rcases List.mem_append.mp done with old | new
        · exact taking.resolved number port' resolution old
        · cases List.mem_singleton.mp new
          exact .inr ⟨before, arrival, whole, tells⟩
      have flushed : Gathers browser received old (flushQueue browser posting answered) :=
        gathers.goesOn (flushQueue_goesOn browser posting gathers.fresh) (flushQueue_moves browser posting known)
      rw [isAnswered] at flushed
      exact flushed

/-- A message that comes, or that is told by a series that came, is taken. -/
theorem Taking.takeMessage (taking : Taking browser received old port request bridge) {again : Json → Bridge → Bridge}
    {before arrival : List Json} {response : Json} (whole : received port = before ++ arrival)
    (tells : Tells browser request.requestId arrival response)
    (earlier : ∀ chunks, request.chunks = some chunks →
      arrival = [response] ∧ Collected browser request.requestId before chunks)
    (next : ∀ before' sent value, received port = before' ++ sent → Tells browser request.requestId sent value →
      Gathers browser received old (again value { bridge with activeRequest := some { request with chunks := none } })) :
    Gathers browser received old (takeMessage browser again posting port response bridge) := by
  unfold Bridge.takeMessage
  simp only [taking.active]
  rw [if_neg (not_not_intro taking.attached)]
  split
  · exact taking.rejected _
  · exact taking.answered whole tells
  · rename_i chunk read
    rcases takeChunk_cases browser request chunk with ⟨message, refused⟩ | ⟨chunks, taken⟩
    · rw [refused]
      exact taking.rejected _
    · have collected : Collected browser request.requestId (received port) (addChunk chunks chunk.data) := by
        rw [whole]
        exact taken.collected read tells earlier
      rcases taken.step with incomplete | ⟨last, value, parsed, assembled⟩
      · rw [incomplete]
        refine (taking.set (some (addChunk chunks chunk.data))).gathers fun other same => ?_
        cases same
        exact collected
      · rw [assembled]
        obtain ⟨before', sent, first, rest, split, begun, series⟩ := collected.begun
        have count : chunks.count = ((chunks.parts ++ [chunk.data]).length : Int) := by
          have index := collected.next
          simp only [addChunk] at index
          exact last.symm.trans index
        simp only [addChunk, count] at series
        exact next before' (sent ++ rest) value split (.series begun series parsed)

end Taking

/-! ## Runs -/

/-- The messages of a port. -/
def messagesOn (port : Nat) (inputs : List Input) : List Json :=
  inputs.filterMap fun
    | .message port' response _ => if port' = port then some response else none
    | _ => none

theorem messagesOn_apart (port : Nat) {inputs : List Input} {input : Input}
    (apart : ∀ port response posting, input ≠ .message port response posting) :
    messagesOn port (inputs ++ [input]) = messagesOn port inputs := by
  cases input with
  | message port' response posting => exact absurd rfl (apart port' response posting)
  | send | prepareForSend | disconnect | timeout => simp [messagesOn]

theorem onNativeMessage_gathers {inputs : List Input} (port : Nat) (response : Json) (posting : Posting)
    (known : bridge.Known) (gathers : Gathers browser (messagesOn · inputs) old bridge) :
    Gathers browser (messagesOn · (inputs ++ [.message port response posting])) bridge.log
      (onNativeMessage browser posting port response bridge) := by
  have here : messagesOn port (inputs ++ [.message port response posting]) = messagesOn port inputs ++ [response] := by
    simp [messagesOn]
  have elsewhere : ∀ port' ≠ port, messagesOn port' (inputs ++ [.message port response posting]) = messagesOn port' inputs := by
    intro port' other
    simp [messagesOn, Ne.symm other]
  have resolved : ResolvedSince browser (messagesOn · (inputs ++ [.message port response posting])) bridge.log bridge :=
    fun _ _ _ done => .inl done
  have untaken : bridge.activeRequest = none ∨ bridge.port ≠ some port →
      Gathers browser (messagesOn · (inputs ++ [.message port response posting])) bridge.log bridge := by
    intro apart
    refine ⟨gathers.fresh, fun request chunks port' active isChunks attached => ?_, resolved⟩
    have other : port' ≠ port := by
      rintro rfl
      rcases apart with idle | away
      · rw [idle] at active
        cases active
      · exact away attached
    simp only [elsewhere port' other]
    exact gathers.collected request chunks port' active isChunks attached
  unfold onNativeMessage onNativeMessageWithin
  cases active : bridge.activeRequest with
  | none =>
      unfold Bridge.takeMessage
      simp only [active]
      exact untaken (.inl active)
  | some request =>
      by_cases attached : bridge.port = some port
      · have taking : Taking browser (messagesOn · (inputs ++ [.message port response posting])) bridge.log port request bridge :=
          ⟨gathers.fresh, known, active, attached, resolved⟩
        refine taking.takeMessage here (.plain response) (fun chunks isChunks => ?_) fun before sent value split tells => ?_
        · exact ⟨rfl, gathers.collected request chunks port active isChunks attached⟩
        · unfold onNativeMessageWithin
          exact (taking.set none).takeMessage split tells (fun _ unset => by cases unset)
            fun _ _ _ _ _ => (taking.set none).gathers fun _ unset => by cases unset
      · unfold Bridge.takeMessage
        simp only [active, ne_eq, attached, not_false_eq_true, if_true]
        exact untaken (.inr attached)

theorem step_goesOn (options : NativeBridgeOptions) {input : Input}
    (apart : ∀ port response posting, input ≠ .message port response posting)
    (fresh : bridge.Fresh) : GoesOn bridge (step browser options bridge input) := by
  cases input with
  | send message posting => exact send_goesOn browser options posting message fresh
  | prepareForSend message => exact prepareForSend_goesOn message fresh
  | message port response posting => exact absurd rfl (apart port response posting)
  | disconnect port lastError =>
      change GoesOn bridge (onNativeDisconnect browser port lastError bridge)
      unfold onNativeDisconnect
      split
      · exact rejectAll_goesOn _ _
      · exact .still fresh rfl rfl
  | timeout number port =>
      change GoesOn bridge (onTimeout number port bridge)
      unfold onTimeout
      split
      · have left : GoesOn bridge (rejectAll timeoutError bridge.detachPort) := rejectAll_goesOn _ _
        exact ⟨left.fresh, left.same⟩
      · exact .still fresh rfl rfl

theorem answersOf_apart {input : Input} (apart : ∀ port response posting, input ≠ .message port response posting) :
    answersOf input = fun _ _ _ => False := by
  cases input with
  | message port response posting => exact absurd rfl (apart port response posting)
  | send | prepareForSend | disconnect | timeout => rfl

theorem Gathers.renew (gathers : Gathers browser received old bridge) : Gathers browser received bridge.log bridge where
  fresh := gathers.fresh
  collected := gathers.collected
  resolved _ _ _ done := .inl done

theorem step_gathers (options : NativeBridgeOptions) {inputs : List Input} (input : Input) (sound : Sound bridge)
    (gathers : Gathers browser (messagesOn · inputs) old bridge) :
    Gathers browser (messagesOn · (inputs ++ [input])) bridge.log (step browser options bridge input) := by
  by_cases apart : ∀ port response posting, input ≠ .message port response posting
  · have moves := step_moves browser options input sound
    rw [answersOf_apart apart] at moves
    simp only [messagesOn_apart _ apart]
    exact gathers.renew.goesOn (step_goesOn options apart gathers.fresh) moves
  · push Not at apart
    obtain ⟨port, response, posting, rfl⟩ := apart
    exact onNativeMessage_gathers port response posting sound.known gathers

theorem run_snoc (browser : Browser) (options : NativeBridgeOptions) (inputs : List Input) (input : Input) :
    run browser options (inputs ++ [input]) = step browser options (run browser options inputs) input := by
  unfold run
  rw [List.foldl_append]
  rfl

/-- In every run, what is collected was received on the port. -/
theorem run_gathers (browser : Browser) (options : NativeBridgeOptions) (inputs : List Input) :
    Gathers browser (messagesOn · inputs) (run browser options inputs).log (run browser options inputs) := by
  induction inputs using List.reverseRecOn with
  | nil => exact ⟨nofun, nofun, nofun⟩
  | append_singleton inputs input ih =>
      rw [run_snoc]
      exact (step_gathers options input (run_sound browser options inputs) ih).renew

/-- A request is resolved with what the last messages of its port tell. -/
theorem run_resolves (browser : Browser) (options : NativeBridgeOptions) (inputs : List Input) (input : Input) :
    ResolvedSince browser (messagesOn · (inputs ++ [input])) (run browser options inputs).log
      (run browser options (inputs ++ [input])) := by
  rw [run_snoc]
  exact (step_gathers options input (run_sound browser options inputs) (run_gathers browser options inputs)).resolved

/-- What is resolved in a run is resolved once. -/
theorem resolved_new {log more : List BridgeAction} {number port : Nat} {resolution : Resolution}
    (history : History Answers Passes (log ++ more)) (new : .resolved number port resolution ∈ more) :
    .resolved number port resolution ∉ log := by
  intro old
  obtain ⟨earlier, later, rfl⟩ := List.append_of_mem new
  rw [← List.append_assoc] at history
  obtain ⟨_, unsettled, _⟩ := history _ _ _ rfl
  exact unsettled (.inl ⟨port, resolution, List.mem_append_left _ old⟩)

/-- Over every run, what is done is permitted: promises are settled once, with an answer of their own that came
on their port, the requests are posted one at a time and never after a rejection, and in the order in which
they were sent, but for startup requests and for handshakes that are sent without a port. A promise is
resolved only while a message is taken from its port, and its response is this message, or what this message
tells with the last ones before it on the port. -/
theorem nativeBridge_settlesOnce (browser : Browser) (options : NativeBridgeOptions) (inputs : List Input) :
    History Answers Passes (run browser options inputs).log ∧
      ∀ before input after, inputs = before ++ input :: after →
        ∃ more, (run browser options (before ++ [input])).log = (run browser options before).log ++ more ∧
          ∀ number port resolution, .resolved number port resolution ∈ more →
            ∃ response posting earlier sent, input = .message port response posting ∧
              messagesOn port before = earlier ++ sent ∧
              Tells browser (requestIdOf number) (sent ++ [response]) resolution.response := by
  refine ⟨(run_sound browser options inputs).orderly.history, ?_⟩
  intro before input after _
  have moves := step_moves browser options input (run_sound browser options before)
  obtain ⟨more, grown, allowed⟩ := OneAtATime.Effect.appends moves.effects
  rw [← run_snoc] at grown
  change (run browser options (before ++ [input])).log = (run browser options before).log ++ more at grown
  refine ⟨more, grown, ?_⟩
  intro number port resolution member
  have answers := allowed number port resolution member
  have history := (run_sound browser options (before ++ [input])).orderly.history
  change History Answers Passes (run browser options (before ++ [input])).log at history
  have done : .resolved number port resolution ∈ (run browser options (before ++ [input])).log := by
    rw [grown]
    exact List.mem_append_right _ member
  rw [grown] at history
  obtain ⟨earlier, sent, split, tells⟩ := (run_resolves browser options before input number port resolution done).resolve_left
    (resolved_new history member)
  cases input with
  | message attachedPort response posting =>
      obtain ⟨rfl, _⟩ := answers
      have here : messagesOn port (before ++ [.message port response posting]) = messagesOn port before ++ [response] := by
        simp [messagesOn]
      simp only [here] at split
      obtain ⟨sent, last, rfl⟩ := tells.snoc
      rw [← List.append_assoc] at split
      obtain ⟨same, last⟩ := List.append_inj' split rfl
      cases last
      exact ⟨response, posting, earlier, sent, rfl, same, tells⟩
  | send | prepareForSend | disconnect | timeout => exact answers.elim

def commandMessage (type : String) : Json := .object [("command", .object [("type", .string type)])]

/-- A browser whose ports take every message. -/
def plainBrowser : Browser where
  parse _ := none
  toLowerCase := id

/-- One request with its response. -/
def answered : List Input :=
  [.send (commandMessage "list_groups") {},
    .message 0 (.object [("requestId", .string "native-1"), ("type", .string "groups")]) {}]

theorem nativeBridge_settlesOnce_answered :
    History Answers Passes (run plainBrowser {} answered).log ∧
      ∃ more, (run plainBrowser {} answered).log = (run plainBrowser {} (answered.take 1)).log ++ more ∧
        .resolved 1 0 ⟨.object [("requestId", .string "native-1"), ("type", .string "groups")],
          .object [("type", .string "groups")]⟩ ∈ more := by
  obtain ⟨history, arrives⟩ := nativeBridge_settlesOnce plainBrowser {} answered
  obtain ⟨more, grown, _⟩ := arrives _ _ [] (List.dropLast_append_getLast (by simp [answered])).symm
  refine ⟨history, more, grown, ?_⟩
  have log : (run plainBrowser {} answered).log = (run plainBrowser {} (answered.take 1)).log ++
      [.resolved 1 0 ⟨.object [("requestId", .string "native-1"), ("type", .string "groups")],
        .object [("type", .string "groups")]⟩] := by rfl
  rw [List.append_cancel_left (grown.symm.trans log)]
  exact List.mem_singleton_self _

/-! ## A handshake after an interrupted preload -/

def renegotiation : List Input :=
  [.send (commandMessage "preload_current_vault") {}, .send (commandMessage "save_vault") {},
    .prepareForSend (commandMessage "get_session_state"), .send (commandMessage "handshake") {}]

/-- What happens before the handshake is posted. -/
def renegotiationLog : List BridgeAction :=
  [.sent 1 ⟨commandMessage "preload_current_vault", false⟩, .posted 1 0, .sent 2 ⟨commandMessage "save_vault", true⟩,
    .rejected 1, .sent 3 ⟨commandMessage "handshake", false⟩]

theorem save_waits : OneAtATime.Waiting renegotiationLog 2 where
  sent := ⟨⟨commandMessage "save_vault", true⟩, by simp [renegotiationLog]⟩
  unposted := by
    intro ⟨port, posted⟩
    simp [renegotiationLog] at posted
  unsettled := by
    rintro (⟨port, answer, resolved⟩ | rejected)
    · simp [renegotiationLog] at resolved
    · simp [renegotiationLog] at rejected

/-- The handshake is posted before what was sent before it. -/
theorem handshake_overtakes : ¬∀ browser options inputs,
    History Answers StartupPasses (run browser options inputs).log := by
  intro ordered
  have log : (run plainBrowser {} renegotiation).log = renegotiationLog ++ .posted 3 1 :: [] := by rfl
  obtain ⟨_, _, order⟩ := ordered plainBrowser {} renegotiation _ _ _ log
  have passes := order 2 ⟨commandMessage "handshake", false⟩ ⟨commandMessage "save_vault", true⟩ (by decide) save_waits
    (by simp [renegotiationLog]) (by simp [renegotiationLog])
  have startup : isStartupCommand (commandMessage "handshake") = false := by decide
  exact absurd passes.1 (by rw [startup]; nofun)

end Bridge

end VaultKern.Native
