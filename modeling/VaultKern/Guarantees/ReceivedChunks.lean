import VaultKern.Guarantees.ChunkedResponses
import VaultKern.Guarantees.ReceivedMessages

/-! # What the bridge makes of chunks

The frames of a large response resolve the request with what the text of the response is parsed to.
-/

namespace VaultKern.CommandLoop

open Utf8 (size)
open Native (Browser Bridge NativeBridgeOptions PendingRequest Posting Tells Series nativeResponseChunk requestIdFromResponse
  stripResponseRequestId requestIdOf commandTypeFromMessage)

/-- A frame of a text is told by its index. -/
theorem framesOf_read {payloadText : List Char} {requestId requestId' data : String} {frame : Json} {index : Nat} {count : Int}
    (member : frame ∈ framesOf payloadText requestId)
    (read : nativeResponseChunk frame = .chunk ⟨requestId', index, count, data⟩) :
    count = (piecesOf payloadText).length ∧ ∃ piece, (piecesOf payloadText)[index]? = some piece ∧ data = String.ofList piece := by
  obtain ⟨i, piece, here, rfl⟩ := mem_chunksFrom member
  rw [chunkJson_read] at read
  simp only [Native.ChunkReading.chunk.injEq, Native.NativeResponseChunk.mk.injEq] at read
  obtain ⟨-, same, counted, rfl⟩ := read
  refine ⟨counted.symm, piece, ?_, rfl⟩
  rw [← here]
  congr 1
  omega

section Own

variable {browser : Browser} {payloadText : List Char} {requestId : String}

/-- A whole series of frames of the text gives the text. -/
theorem Series.own {frames : List Json} {parts : List String} (series : Series requestId parts.length frames parts)
    (filled : parts ≠ []) (own : ∀ frame ∈ frames, frame ∈ framesOf payloadText requestId) :
    parts = (piecesOf payloadText).map String.ofList := by
  have each : ∀ (index : Nat) (frame : Json), frames[index]? = some frame → (parts.length : Int) = (piecesOf payloadText).length ∧
      parts[index]? = ((piecesOf payloadText).map String.ofList)[index]? := by
    intro index frame here
    obtain ⟨data, part, read⟩ := series.read here
    obtain ⟨count, piece, isPiece, rfl⟩ := framesOf_read (own frame (List.mem_of_getElem? here)) read
    exact ⟨count, by rw [part, List.getElem?_map, isPiece, Option.map_some]⟩
  have lengths := series.length_eq
  have positive := List.length_pos_iff.mpr filled
  have count : parts.length = (piecesOf payloadText).length := by
    have first := each 0 frames[0] (List.getElem?_eq_getElem (by omega))
    exact Int.ofNat_inj.mp first.1
  apply List.ext_getElem?
  intro index
  by_cases within : index < frames.length
  · exact (each index frames[index] (List.getElem?_eq_getElem within)).2
  · rw [List.getElem?_eq_none (by omega), List.getElem?_eq_none (by rw [List.length_map]; omega)]

/-- Where all chunks for the request are frames of the text, nothing else is told by a series. -/
theorem Tells.own {messages : List Json} {value : Json} (whole : (piecesOf payloadText).flatten = payloadText)
    (plain : ∀ value, browser.parse (String.ofList payloadText) = some value → nativeResponseChunk value = .noChunk)
    (tells : Tells browser requestId messages value)
    (own : ∀ message ∈ messages, ∀ chunk, nativeResponseChunk message = .chunk chunk → chunk.requestId = requestId →
      message ∈ framesOf payloadText requestId) :
    messages = [value] ∨ browser.parse (String.ofList payloadText) = some value := by
  induction tells with
  | plain message => exact .inl rfl
  | @series messages rest first value parts begun series parsed ih =>
      right
      have isChunk : ∀ (index : Nat) (frame : Json), (first :: rest)[index]? = some frame →
          ∃ data, parts[index]? = some data ∧ nativeResponseChunk frame = .chunk ⟨requestId, index, parts.length, data⟩ :=
        fun index frame here => Native.Series.read series here
      obtain ⟨data, part, read⟩ := isChunk 0 first rfl
      have alone : messages = [first] := by
        refine (ih fun message member => own message (List.mem_append_left _ member)).resolve_right fun told => ?_
        rw [plain first told] at read
        cases read
      have parts_eq : parts = (piecesOf payloadText).map String.ofList := by
        refine Series.own series (List.ne_nil_of_mem (List.mem_of_getElem? part)) fun frame member => ?_
        obtain ⟨index, here⟩ := List.mem_iff_getElem?.mp member
        obtain ⟨_, _, read⟩ := isChunk index frame here
        exact own frame (by rw [alone]; exact member) _ read rfl
      rw [parts_eq, join_pieces, whole] at parsed
      exact parsed

end Own

/-! ## Large responses -/

section Arrival

variable {browser : Browser} {response : RuntimeResponse} {requestId : String} {value : Json}

/-- The frames of a response, in order, resolve the request. -/
theorem Large.fed (large : Large response requestId)
    (parsed : browser.parse (String.ofList (payloadTextOf response requestId)) = some value)
    (plain : nativeResponseChunk value = .noChunk) (named : requestIdFromResponse value = some requestId)
    {bridge : Bridge} {request : PendingRequest} {port : Nat} (posting : Posting) (active : bridge.activeRequest = some request)
    (own : request.requestId = requestId) (begun : request.chunks = none) (attached : bridge.port = some port) :
    (framesOf (payloadTextOf response requestId) requestId).foldl
        (fun bridge frame => Bridge.onNativeMessage browser posting port frame bridge) bridge =
      Bridge.flushQueue browser posting {
        Bridge.emitEvent (.response (commandTypeFromMessage request.message)) bridge with
        activeRequest := none
        log := bridge.log ++ [.resolved request.number port ⟨value, stripResponseRequestId value⟩] } := by
  obtain ⟨whole, two, most⟩ := large.pieces
  have fits : units (piecesOf (payloadTextOf response requestId)).flatten ≤ Native.maxChunkedResponseCharacters := by
    rw [whole]
    exact Nat.le_trans (units_le _) large.within
  have start : collecting bridge request (piecesOf (payloadTextOf response requestId)).length [] = bridge := by
    cases bridge
    cases request
    cases active
    cases begun
    rfl
  have again : ({ bridge with activeRequest := some { request with chunks := none } } : Bridge) = bridge := by
    cases bridge
    cases request
    cases active
    cases begun
    rfl
  have filled : piecesOf (payloadTextOf response requestId) ≠ [] := by
    intro none
    rw [none] at two
    simp at two
  have fed : (chunksFrom requestId (piecesOf (payloadTextOf response requestId)).length 0
      (piecesOf (payloadTextOf response requestId))).foldl
        (fun bridge frame => Bridge.onNativeMessage browser posting port frame bridge)
        (collecting bridge request (piecesOf (payloadTextOf response requestId)).length []) = _ :=
    feed_rest own attached two most fits (by rw [whole]; exact parsed) plain (List.nil_append _) filled
  rw [start, again] at fed
  unfold framesOf
  rw [fed]
  have same : requestIdFromResponse value = some request.requestId := by rw [named, own]
  have name : ({ request with chunks := none } : PendingRequest).requestId = request.requestId := rfl
  unfold Bridge.answerRequest
  simp only [name, same, Option.isSome_none, Bool.false_eq_true, if_false, ne_eq, not_true_eq_false]
  rfl

/-- A response is no chunk. -/
theorem encodeNativeResponse_plain (response : RuntimeResponse) (requestId : String) :
    nativeResponseChunk (encodeNativeResponse response (some requestId)) = .noChunk := by
  have other : response.type ≠ "native_response_chunk" := fun same => absurd (same ▸ response.tagged) (by decide)
  simp [nativeResponseChunk, encodeNativeResponse, Json.field, Json.asString, other]

theorem encodeNativeResponse_named (response : RuntimeResponse) (requestId : String) :
    requestIdFromResponse (encodeNativeResponse response (some requestId)) = some requestId := by
  have missing : response.fields.lookup "requestId" = none := by
    rw [List.lookup_eq_none_iff]
    intro f member
    simpa using (response.named f member).2.symm
  simp [requestIdFromResponse, encodeNativeResponse, Json.field, Json.asString, List.lookup_cons, List.lookup_append, missing]

/-- What a request was resolved with was told by messages of its port. -/
theorem run_told {options : NativeBridgeOptions} {inputs : List Bridge.Input} {number port : Nat}
    {resolution : Native.Resolution}
    (resolved : .resolved number port resolution ∈ (Bridge.run browser options inputs).log) :
    ∃ before sent after, Bridge.messagesOn port inputs = before ++ (sent ++ after) ∧
      Tells browser (requestIdOf number) sent resolution.response := by
  induction inputs using List.reverseRecOn with
  | nil => cases resolved
  | append_singleton inputs input ih =>
      rcases Bridge.run_resolves browser options inputs input number port resolution resolved with old | new
      · obtain ⟨before, sent, after, split, tells⟩ := ih old
        refine ⟨before, sent, after ++ Bridge.messagesOn port [input], ?_, tells⟩
        have whole : Bridge.messagesOn port (inputs ++ [input]) =
            Bridge.messagesOn port inputs ++ Bridge.messagesOn port [input] := List.filterMap_append
        rw [whole, split, List.append_assoc, List.append_assoc]
      · obtain ⟨before, sent, split, tells⟩ := new
        exact ⟨before, sent, [], by rw [List.append_nil]; exact split, tells⟩

/-- A large response is written as frames within the limits, these resolve the request with what the text of the
response is parsed to, and in no run is a request resolved with anything but a message of its port or what a whole
series for it tells; where all chunks for it are frames of its response, that is what the response is parsed to. -/
theorem chunkedResponses_arrive (browser : Browser) (options : NativeBridgeOptions) (response : RuntimeResponse)
    (requestId : String) (value : Json) (large : Large response requestId)
    (parsed : browser.parse (String.ofList (payloadTextOf response requestId)) = some value)
    (plain : nativeResponseChunk value = .noChunk) (named : requestIdFromResponse value = some requestId) :
    ((∀ device, Written (framesOf (payloadTextOf response requestId) requestId) []
        (writeChunkedNativeMessage device response requestId [])) ∧
      ∀ frame ∈ framesOf (payloadTextOf response requestId) requestId, size (Json.render frame) ≤ maxNativeResponseBytes) ∧
    (∀ (bridge : Bridge) (request : PendingRequest) port posting, bridge.activeRequest = some request →
      request.requestId = requestId → request.chunks = none → bridge.port = some port →
        (framesOf (payloadTextOf response requestId) requestId).foldl
            (fun bridge frame => Bridge.onNativeMessage browser posting port frame bridge) bridge =
          Bridge.flushQueue browser posting {
            Bridge.emitEvent (.response (commandTypeFromMessage request.message)) bridge with
            activeRequest := none
            log := bridge.log ++ [.resolved request.number port ⟨value, stripResponseRequestId value⟩] }) ∧
    ∀ inputs number port resolution, .resolved number port resolution ∈ (Bridge.run browser options inputs).log →
      ∃ before sent after, Bridge.messagesOn port inputs = before ++ (sent ++ after) ∧
        Tells browser (requestIdOf number) sent resolution.response ∧
        (requestIdOf number = requestId → (∀ message ∈ sent, ∀ chunk, nativeResponseChunk message = .chunk chunk →
            chunk.requestId = requestId → message ∈ framesOf (payloadTextOf response requestId) requestId) →
          sent = [resolution.response] ∨ resolution.response = value) := by
  refine ⟨⟨fun device => (large.written device).1, ?_⟩, ?_, ?_⟩
  · exact (large.written fun _ => .written).2
  · intro bridge request port posting active own begun attached
    exact large.fed parsed plain named posting active own begun attached
  · intro inputs number port resolution resolved
    obtain ⟨before, sent, after, split, tells⟩ := run_told resolved
    refine ⟨before, sent, after, split, tells, fun same frames => ?_⟩
    rw [same] at tells
    have only : ∀ other, browser.parse (String.ofList (payloadTextOf response requestId)) = some other → other = value :=
      fun other isOther => Option.some.inj (isOther.symm.trans parsed)
    have told := Tells.own large.pieces.1 (fun other isOther => only other isOther ▸ plain) tells frames
    exact told.imp_right (only _)

end Arrival

/-! ## A long message -/

def longText : List Char := List.replicate maxNativeResponseBytes 'a'

def longResponse : RuntimeResponse := errorResponse "internal" (String.ofList longText)

/-- A browser that reads the one text. -/
def longBrowser : Browser where
  parse text :=
    if text = String.ofList (payloadTextOf longResponse "native-1") then
      some (encodeNativeResponse longResponse (some "native-1"))
    else none
  toLowerCase := id

theorem longResponse_large : Large longResponse "native-1" := by
  have escaped : longText.flatMap Json.escape = longText := by
    have letter : Json.escape 'a' = ['a'] := by decide
    rw [longText, List.flatMap_replicate, letter]
    simp
  have long : size longText = maxNativeResponseBytes := by
    rw [longText, Json.size_of_ascii fun c member => by rw [List.eq_of_mem_replicate member]; decide, List.length_replicate]
  have total : size (payloadTextOf longResponse "native-1") = maxNativeResponseBytes + 70 := by
    simp only [payloadTextOf, encodeNativeResponse, longResponse, errorResponse, Json.render, List.cons_append,
      List.nil_append, Json.renderFields, Utf8.size_cons, Utf8.size_append, Utf8.size_nil, Json.renderString,
      String.toList_ofList, escaped, long]
    decide
  have limits : maxNativeResponseBytes = 1048576 ∧ maxChunkedNativeResponseBytes = 67108864 := by decide
  exact ⟨by omega, by omega, by decide⟩

/-- The bridge that waits for the response. -/
def waitingBridge : Bridge := Bridge.run longBrowser {} [.send (Bridge.commandMessage "list_groups") {}]

theorem longBrowser_parses : longBrowser.parse (String.ofList (payloadTextOf longResponse "native-1")) =
    some (encodeNativeResponse longResponse (some "native-1")) := by
  simp only [longBrowser, if_true]

theorem waitingBridge_waits : waitingBridge.activeRequest = some (Bridge.newRequest {} 1 (Bridge.commandMessage "list_groups")) ∧
    waitingBridge.port = some 0 := ⟨rfl, rfl⟩

theorem chunkedResponses_arrive_long :
    ∃ request : PendingRequest, waitingBridge.activeRequest = some request ∧
      (framesOf (payloadTextOf longResponse "native-1") "native-1").foldl
          (fun bridge frame => Bridge.onNativeMessage longBrowser {} 0 frame bridge) waitingBridge =
        Bridge.flushQueue longBrowser {} {
          Bridge.emitEvent (.response (commandTypeFromMessage request.message)) waitingBridge with
          activeRequest := none
          log := waitingBridge.log ++ [.resolved request.number 0
            ⟨encodeNativeResponse longResponse (some "native-1"),
              stripResponseRequestId (encodeNativeResponse longResponse (some "native-1"))⟩] } :=
  ⟨Bridge.newRequest {} 1 (Bridge.commandMessage "list_groups"), waitingBridge_waits.1,
    (chunkedResponses_arrive longBrowser {} longResponse "native-1" (encodeNativeResponse longResponse (some "native-1"))
      longResponse_large longBrowser_parses (encodeNativeResponse_plain _ _) (encodeNativeResponse_named _ _)).2.1
        waitingBridge _ 0 {} waitingBridge_waits.1 rfl rfl
      waitingBridge_waits.2⟩

end VaultKern.CommandLoop
