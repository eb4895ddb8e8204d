import VaultKern.Lib.Json
import VaultKern.Lib.OneAtATime

/-! # The native bridge

The extension sends its requests to the native runtime over a port, one at a time. Each event runs to its
end before the next one. Ports are numbered in the order of their connections. A timer may fire also after
it was cleared; its guard decides. Observers do not call the bridge.
-/

namespace VaultKern.Native

/-! ## Errors -/

inductive NativeMessagingErrorCode where
  | nativeHostMissing | nativePermissionDenied | nativePortDisconnected | nativeTimeout | nativeUnknown
  deriving DecidableEq

structure NativeMessagingError where
  code : NativeMessagingErrorCode
  message : String
  deriving DecidableEq

/-- What belongs to the browser. -/
structure Browser where
  /-- `JSON.parse`. -/
  parse : String → Option Json
  toLowerCase : String → String

def includes (text part : String) : Bool := decide (part.toList <:+: text.toList)

def classifyNativeMessagingError (browser : Browser) (message : String) (fallback : NativeMessagingErrorCode) :
    NativeMessagingErrorCode :=
  let normalized := browser.toLowerCase message
  if includes normalized "host not found" || includes normalized "native messaging host not found" then
    .nativeHostMissing
  else if includes normalized "forbidden" || includes normalized "not allowed" || includes normalized "permission" then
    .nativePermissionDenied
  else if includes normalized "host has exited" || includes normalized "port closed"
      || includes normalized "port disconnected" || includes normalized "native port disconnected" then
    .nativePortDisconnected
  else fallback

/-- What is thrown: an error of the bridge, or one with a text, or something without. -/
inductive Thrown where
  | nativeMessaging (error : NativeMessagingError)
  | text (message : String)
  | other

def toNativeMessagingError (browser : Browser) (thrown : Thrown) (fallback : NativeMessagingErrorCode) :
    NativeMessagingError :=
  match thrown with
  | .nativeMessaging error => error
  | .text message => { code := classifyNativeMessagingError browser message fallback, message }
  | .other =>
      { code := classifyNativeMessagingError browser "native messaging failed" fallback
        message := "native messaging failed" }

/-- The last error of the runtime may have a text. -/
def disconnectError (browser : Browser) (lastError : Option String) : NativeMessagingError :=
  let message := lastError.getD "native port disconnected"
  { code := classifyNativeMessagingError browser message .nativePortDisconnected, message }

def timeoutError : NativeMessagingError := { code := .nativeTimeout, message := "native messaging timed out" }

def preloadCanceledError : NativeMessagingError :=
  { code := .nativePortDisconnected, message := "preload canceled by startup request" }

/-! ## Messages -/

def maxNativeResponseChunks : Nat := 256

def maxChunkedResponseCharacters : Nat := 64 * 1024 * 1024

/-- The number of UTF-16 code units. -/
def characters (text : String) : Nat :=
  (text.toList.map fun c => if c.toNat < 0x10000 then 1 else 2).sum

def commandOfMessage (message : Json) : Option Json :=
  (message.field "command").filter Json.isObject

def commandTypeFromMessage (message : Json) : Option String := do
  let command ← commandOfMessage message
  let type ← command.field "type"
  type.asString

def attachRequestId (message : Json) (requestId : String) (requestTimeoutMs : Nat) : Json :=
  match message with
  | .object fields =>
      .object (Json.setField (Json.setField fields "requestId" (.string requestId)) "requestTimeoutMs"
        (.number requestTimeoutMs 0))
  | _ => .object [("requestId", .string requestId), ("requestTimeoutMs", .number requestTimeoutMs 0), ("payload", message)]

def requestIdFromResponse (response : Json) : Option String := do
  let requestId ← response.field "requestId"
  requestId.asString

def stripResponseRequestId (response : Json) : Json :=
  match response with
  | .object fields => .object (fields.filter fun f => f.1 != "requestId")
  | _ => response

structure NativeResponseChunk where
  requestId : String
  chunkIndex : Int
  chunkCount : Int
  data : String
  deriving DecidableEq

inductive ChunkReading where
  | noChunk
  | malformed
  | chunk (chunk : NativeResponseChunk)
  deriving DecidableEq

def readChunk (response : Json) : Option NativeResponseChunk := do
  let requestId ← response.field "requestId" >>= Json.asString
  let chunkIndex ← response.field "chunkIndex" >>= Json.asInteger
  let chunkCount ← response.field "chunkCount" >>= Json.asInteger
  let data ← response.field "data" >>= Json.asString
  some { requestId, chunkIndex, chunkCount, data }

def nativeResponseChunk (response : Json) : ChunkReading :=
  if (response.field "type").bind Json.asString = some "native_response_chunk" then
    match readChunk response with
    | some chunk => .chunk chunk
    | none => .malformed
  else .noChunk

def isStartupCommand (message : Json) : Bool :=
  let type := commandTypeFromMessage message
  type = some "get_session_state" || type = some "list_recent_vaults"

def isPreloadCommand (message : Json) : Bool := commandTypeFromMessage message = some "preload_current_vault"

def isHandshakeCommand (message : Json) : Bool := commandTypeFromMessage message = some "handshake"

def startupOvertakeableCommands : List String :=
  ["preload_current_vault", "list_groups", "list_entries", "get_entry_detail", "list_entry_history",
    "get_entry_history_detail", "get_entry_attachment_content", "get_database_settings", "find_fill_candidates",
    "find_exact_matching_entry_ids"]

def canStartupOvertake (message : Json) : Bool :=
  match commandTypeFromMessage message with
  | some type => startupOvertakeableCommands.contains type
  | none => false

def freshVerificationCommands : List String := ["persist_autofill_mutation"]

def interactiveCommands : List String :=
  ["create_passkey_assertion", "create_passkey_registration", "verify_passkey_user", "save_passkey_registration",
    "abort_passkey_registration", "commit_passkey_registration"]

/-! ## The state -/

structure Chunks where
  count : Int
  nextIndex : Int
  totalCharacters : Nat
  parts : List String

/-- A request is told by its number. -/
structure PendingRequest where
  number : Nat
  message : Json
  wireMessage : Json
  chunks : Option Chunks := none

def requestIdOf (number : Nat) : String := "native-" ++ toString number

def PendingRequest.requestId (request : PendingRequest) : String := requestIdOf request.number

structure NativeBridgeOptions where
  timeoutMs : Nat := 30000
  interactiveTimeoutMs : Nat := 5 * 60000

inductive NativeBridgeEvent where
  | connect
  | post (commandType : Option String)
  | response (commandType : Option String)
  | disconnect (commandType : Option String) (error : NativeMessagingError)
  | postError (commandType : Option String) (error : NativeMessagingError)

/-- What was sent: the message, and whether a port was attached. -/
structure SentInfo where
  message : Json
  attached : Bool

/-- The response that settled a promise, and its value. -/
structure Resolution where
  response : Json
  value : Json

abbrev BridgeAction := OneAtATime.Action Nat Resolution SentInfo

structure Bridge where
  port : Option Nat := none
  activeRequest : Option PendingRequest := none
  queuedRequests : List PendingRequest := []
  nextRequestId : Nat := 0
  connectionGeneration : Nat := 0
  /-- How many ports were connected. -/
  connections : Nat := 0
  /-- What was sent and posted, and how the promises were settled. -/
  log : List BridgeAction := []
  /-- The errors of the promises that were rejected. -/
  errors : List (Nat × NativeMessagingError) := []
  /-- The messages that were posted, each on its port. -/
  wire : List (Nat × Json) := []
  /-- The ports that the bridge disconnected. -/
  disconnected : List Nat := []
  events : List NativeBridgeEvent := []

/-- What the browser does when a request is posted. -/
structure Posting where
  connectNative : Option Thrown := none
  postMessage : Option Thrown := none

namespace Bridge

variable (browser : Browser) (options : NativeBridgeOptions)

def timeoutForMessage (message : Json) : Nat :=
  match commandTypeFromMessage message with
  | some type =>
      if freshVerificationCommands.contains type || interactiveCommands.contains type then options.interactiveTimeoutMs
      else options.timeoutMs
  | none => options.timeoutMs

def emitEvent (event : NativeBridgeEvent) (bridge : Bridge) : Bridge :=
  { bridge with events := bridge.events ++ [event] }

def reject (request : PendingRequest) (error : NativeMessagingError) (bridge : Bridge) : Bridge :=
  { bridge with
    log := bridge.log ++ [.rejected request.number]
    errors := bridge.errors ++ [(request.number, error)] }

def rejectActive (error : NativeMessagingError) (bridge : Bridge) : Bridge :=
  match bridge.activeRequest with
  | some request => { bridge.reject request error with activeRequest := none }
  | none => bridge

def rejectAll (error : NativeMessagingError) (bridge : Bridge) : Bridge :=
  let bridge := bridge.rejectActive error
  let bridge' := bridge.queuedRequests.foldl (fun bridge request => bridge.reject request error) bridge
  { bridge' with queuedRequests := [] }

def detachPort (bridge : Bridge) : Bridge :=
  match bridge.port with
  | some _ => { bridge with port := none, connectionGeneration := bridge.connectionGeneration + 1 }
  | none => bridge

def disconnectPort (port : Option Nat) (bridge : Bridge) : Bridge :=
  { bridge with disconnected := bridge.disconnected ++ port.toList }

def interruptActivePreload (bridge : Bridge) : Bridge :=
  match bridge.activeRequest with
  | none => bridge
  | some request =>
      let bridge' := ({ bridge with activeRequest := none } : Bridge).detachPort
      disconnectPort bridge.port (bridge'.reject request preloadCanceledError)

/-- From the end of the queue. -/
def cancelQueuedPreloads (nextMessage : Json) (bridge : Bridge) : Bridge :=
  if isStartupCommand nextMessage then
    let canceled := bridge.queuedRequests.reverse.filter fun request => isPreloadCommand request.message
    let bridge' := canceled.foldl (fun bridge request => bridge.reject request preloadCanceledError) bridge
    { bridge' with queuedRequests := bridge.queuedRequests.filter fun request => !isPreloadCommand request.message }
  else bridge

def shouldCancelActivePreload (active : Option PendingRequest) (nextMessage : Json) : Bool :=
  match active with
  | some request => isPreloadCommand request.message && isStartupCommand nextMessage
  | none => false

def prepareForSend (message : Json) (bridge : Bridge) : Bridge :=
  let bridge := cancelQueuedPreloads message bridge
  if shouldCancelActivePreload bridge.activeRequest message then interruptActivePreload bridge else bridge

/-- The queue at the place behind which a startup command may overtake all. -/
def overtaken (queuedRequests : List PendingRequest) : List PendingRequest × List PendingRequest :=
  let fromEnd := queuedRequests.reverse
  ((fromEnd.dropWhile fun request => canStartupOvertake request.message).reverse,
    (fromEnd.takeWhile fun request => canStartupOvertake request.message).reverse)

def enqueueRequest (request : PendingRequest) (bridge : Bridge) : Bridge :=
  if isHandshakeCommand request.message && bridge.port.isNone then
    { bridge with queuedRequests := request :: bridge.queuedRequests }
  else if !isStartupCommand request.message then
    { bridge with queuedRequests := bridge.queuedRequests ++ [request] }
  else
    let (ahead, behind) := overtaken bridge.queuedRequests
    { bridge with queuedRequests := ahead ++ request :: behind }

def ensurePort (posting : Posting) (bridge : Bridge) : Except Thrown Nat × Bridge :=
  match bridge.port with
  | some port => (.ok port, bridge)
  | none =>
      match posting.connectNative with
      | some thrown => (.error thrown, bridge)
      | none =>
          (.ok bridge.connections, emitEvent .connect
            { bridge with
              port := some bridge.connections
              connections := bridge.connections + 1
              connectionGeneration := bridge.connectionGeneration + 1 })

/-- The request could not be posted. -/
def failPost (thrown : Thrown) (request : PendingRequest) (bridge : Bridge) : Bridge :=
  let nativeError := toNativeMessagingError browser thrown .nativeUnknown
  let bridge' := disconnectPort bridge.port bridge.detachPort
  rejectAll nativeError (emitEvent (.postError (commandTypeFromMessage request.message) nativeError) bridge')

/-- The request is active, and its port is there. -/
def postRequest (posting : Posting) (request : PendingRequest) (requestPort : Nat) (bridge : Bridge) : Bridge :=
  let bridge := emitEvent (.post (commandTypeFromMessage request.message)) bridge
  let bridge := { bridge with
    log := bridge.log ++ [.posted request.number requestPort]
    wire := bridge.wire ++ [(requestPort, request.wireMessage)] }
  match posting.postMessage with
  | some thrown => failPost browser thrown request bridge
  | none => bridge

def flushQueue (posting : Posting) (bridge : Bridge) : Bridge :=
  match bridge.activeRequest, bridge.queuedRequests with
  | none, request :: rest =>
      match ensurePort posting { bridge with activeRequest := some request, queuedRequests := rest } with
      | (.error thrown, bridge) => failPost browser thrown request bridge
      | (.ok requestPort, bridge) => postRequest browser posting request requestPort bridge
  | _, _ => bridge

def rejectProtocolConnection (attachedPort : Nat) (message : String) (bridge : Bridge) : Bridge :=
  if bridge.port = some attachedPort then
    disconnectPort (some attachedPort) (rejectAll { code := .nativeUnknown, message } bridge.detachPort)
  else bridge

/-! ## Messages -/

/-- What a chunk makes of the chunks before it. -/
inductive ChunkStep where
  | refused (message : String)
  | incomplete (chunks : Chunks)
  | assembled (response : Json)

def startChunks (request : PendingRequest) (chunk : NativeResponseChunk) : Except String (Option Chunks) :=
  if chunk.chunkIndex = 0 then
    if request.chunks.isSome then .error "native response chunk sequence restarted"
    else .ok (some { count := chunk.chunkCount, nextIndex := 0, totalCharacters := 0, parts := [] })
  else .ok request.chunks

def takeChunk (request : PendingRequest) (chunk : NativeResponseChunk) : ChunkStep :=
  if chunk.requestId ≠ request.requestId ∨ chunk.chunkCount < 2 ∨ chunk.chunkCount > maxNativeResponseChunks ∨
      chunk.chunkIndex < 0 ∨ chunk.chunkIndex ≥ chunk.chunkCount then
    .refused "native response chunk sequence is invalid"
  else
    match startChunks request chunk with
    | .error message => .refused message
    | .ok none => .refused "native response chunk sequence is invalid"
    | .ok (some chunks) =>
        if chunks.count ≠ chunk.chunkCount ∨ chunks.nextIndex ≠ chunk.chunkIndex ∨
            chunks.totalCharacters + characters chunk.data > maxChunkedResponseCharacters then
          .refused "native response chunk sequence is invalid"
        else
          let chunks := { chunks with
            parts := chunks.parts ++ [chunk.data]
            totalCharacters := chunks.totalCharacters + characters chunk.data
            nextIndex := chunks.nextIndex + 1 }
          if chunks.nextIndex ≠ chunks.count then .incomplete chunks
          else
            match browser.parse (String.join chunks.parts) with
            | none => .refused "native response chunks are not valid JSON"
            | some response => .assembled response

/-- A response that is no chunk. -/
def answerRequest (posting : Posting) (attachedPort : Nat) (request : PendingRequest) (response : Json)
    (bridge : Bridge) : Bridge :=
  if request.chunks.isSome then
    rejectProtocolConnection attachedPort "native response interrupted a chunk sequence" bridge
  else
    let responseRequestId := requestIdFromResponse response
    if responseRequestId ≠ some request.requestId then
      rejectProtocolConnection attachedPort
        (if responseRequestId.isNone then "native response is missing its request ID"
        else "native response request ID does not match the active request") bridge
    else
      let bridge := emitEvent (.response (commandTypeFromMessage request.message)) bridge
      let resolution := { response, value := stripResponseRequestId response }
      flushQueue browser posting { bridge with
        activeRequest := none
        log := bridge.log ++ [.resolved request.number attachedPort resolution] }

/-- `again` takes the response that is assembled of chunks. -/
def takeMessage (again : Json → Bridge → Bridge) (posting : Posting) (attachedPort : Nat) (response : Json)
    (bridge : Bridge) : Bridge :=
  match bridge.activeRequest with
  | none => bridge
  | some request =>
      if bridge.port ≠ some attachedPort then bridge
      else
        match nativeResponseChunk response with
        | .malformed => rejectProtocolConnection attachedPort "native response chunk is malformed" bridge
        | .noChunk => answerRequest browser posting attachedPort request response bridge
        | .chunk chunk =>
            match takeChunk browser request chunk with
            | .refused message => rejectProtocolConnection attachedPort message bridge
            | .incomplete chunks => { bridge with activeRequest := some { request with chunks := some chunks } }
            | .assembled assembled =>
                again assembled { bridge with activeRequest := some { request with chunks := none } }

/-- The depth bounds how often a response is assembled of chunks. -/
def onNativeMessageWithin (posting : Posting) (attachedPort : Nat) : Nat → Json → Bridge → Bridge
  | 0 => takeMessage browser (fun _ bridge => bridge) posting attachedPort
  | depth + 1 => takeMessage browser (onNativeMessageWithin posting attachedPort depth) posting attachedPort

/-- No response is assembled of chunks where the first one is not there yet. -/
theorem takeChunk_first {request : PendingRequest} (none : request.chunks = none) (chunk : NativeResponseChunk)
    (response : Json) : takeChunk browser request chunk ≠ .assembled response := by
  unfold takeChunk
  split
  · nofun
  · rename_i valid
    have two : 2 ≤ chunk.chunkCount := by omega
    by_cases zero : chunk.chunkIndex = 0
    · have started : startChunks request chunk =
          .ok (some { count := chunk.chunkCount, nextIndex := 0, totalCharacters := 0, parts := [] }) := by
        simp [startChunks, zero, none]
      rw [started]
      simp only
      split
      · nofun
      · have more : (0 : Int) + 1 ≠ chunk.chunkCount := by omega
        rw [if_pos more]
        nofun
    · have absent : startChunks request chunk = .ok Option.none := by simp [startChunks, zero, none]
      rw [absent]
      nofun

theorem takeMessage_first {bridge : Bridge} (first : ∀ request, bridge.activeRequest = some request → request.chunks = none)
    (again again' : Json → Bridge → Bridge) (posting : Posting) (attachedPort : Nat) (response : Json) :
    takeMessage browser again posting attachedPort response bridge =
      takeMessage browser again' posting attachedPort response bridge := by
  unfold takeMessage
  split
  · rfl
  · rename_i request active
    split
    · rfl
    · split
      · rfl
      · rfl
      · rename_i chunk _
        cases taken : takeChunk browser request chunk with
        | refused message => rfl
        | incomplete chunks => rfl
        | assembled assembled => exact absurd taken (takeChunk_first browser (first request active) chunk assembled)

/-- A response that is assembled may be a chunk, but no other one is assembled of it. -/
theorem onNativeMessageWithin_deep (posting : Posting) (attachedPort depth : Nat) :
    onNativeMessageWithin browser posting attachedPort (depth + 1) =
      onNativeMessageWithin browser posting attachedPort 1 := by
  have inner : ∀ response (bridge : Bridge) (request : PendingRequest),
      onNativeMessageWithin browser posting attachedPort depth response
          { bridge with activeRequest := some { request with chunks := none } } =
        onNativeMessageWithin browser posting attachedPort 0 response
          { bridge with activeRequest := some { request with chunks := none } } := by
    intro response bridge request
    have first : ∀ request', some { request with chunks := none } = some request' → request'.chunks = none := by
      intro request' same
      cases same
      rfl
    cases depth with
    | zero => rfl
    | succ depth => exact takeMessage_first browser first _ _ posting attachedPort response
  funext response bridge
  change takeMessage browser (onNativeMessageWithin browser posting attachedPort depth) posting attachedPort response
    bridge = takeMessage browser (onNativeMessageWithin browser posting attachedPort 0) posting attachedPort response bridge
  unfold takeMessage
  simp only [inner]

def onNativeMessage (posting : Posting) (attachedPort : Nat) (response : Json) (bridge : Bridge) : Bridge :=
  onNativeMessageWithin browser posting attachedPort 1 response bridge

def onNativeDisconnect (attachedPort : Nat) (lastError : Option String) (bridge : Bridge) : Bridge :=
  if bridge.port = some attachedPort then
    let error := disconnectError browser lastError
    let commandType := bridge.activeRequest.bind fun request => commandTypeFromMessage request.message
    rejectAll error (emitEvent (.disconnect commandType error) bridge).detachPort
  else bridge

/-- The timer of a request that was posted on a port. -/
def onTimeout (number : Nat) (requestPort : Nat) (bridge : Bridge) : Bridge :=
  if bridge.activeRequest.map (·.number) = some number ∧ bridge.port = some requestPort then
    disconnectPort (some requestPort) (rejectAll timeoutError bridge.detachPort)
  else bridge

def newRequest (number : Nat) (message : Json) : PendingRequest where
  number := number
  message := message
  wireMessage := attachRequestId message (requestIdOf number) (timeoutForMessage options message)

def send (posting : Posting) (message : Json) (bridge : Bridge) : Bridge :=
  let bridge := prepareForSend message bridge
  let number := bridge.nextRequestId + 1
  let bridge := { bridge with
    nextRequestId := number
    log := bridge.log ++ [.sent number { message, attached := bridge.port.isSome }] }
  flushQueue browser posting (enqueueRequest (newRequest options number message) bridge)

/-! ## Runs -/

inductive Input where
  | send (message : Json) (posting : Posting)
  | prepareForSend (message : Json)
  | message (port : Nat) (response : Json) (posting : Posting)
  | disconnect (port : Nat) (lastError : Option String)
  | timeout (number : Nat) (port : Nat)

def step (bridge : Bridge) : Input → Bridge
  | .send message posting => send browser options posting message bridge
  | .prepareForSend message => prepareForSend message bridge
  | .message port response posting => onNativeMessage browser posting port response bridge
  | .disconnect port lastError => onNativeDisconnect browser port lastError bridge
  | .timeout number port => onTimeout number port bridge

def run (inputs : List Input) : Bridge := inputs.foldl (step browser options) {}

end Bridge

end VaultKern.Native
