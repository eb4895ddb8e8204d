import VaultKern.Extension.NativeBridge
import VaultKern.Runtime.CommandLoop

/-! # Chunked responses arrive intact

The chunks of a response are within the limits of both sides, and the bridge makes the response of them and
of nothing else.
-/

namespace VaultKern.CommandLoop

open Utf8 (size slice isBoundary fit)

/-! ## Pieces -/

theorem boundaryBefore_fit (before rest : List Char) (count : Nat) {stop : Nat}
    (lower : size before + size (fit rest count) ≤ stop) (upper : stop ≤ size before + min count (size rest)) :
    boundaryBefore (before ++ rest) (size before) stop = size before + size (fit rest count) := by
  induction stop with
  | zero =>
      rw [boundaryBefore]
      omega
  | succ stop ih =>
      rw [boundaryBefore]
      by_cases here : stop + 1 = size before + size (fit rest count)
      · have there : isBoundary (before ++ rest) (stop + 1) = true := by
          rw [here, Utf8.isBoundary_append]
          exact Utf8.isBoundary_fit rest count
        rw [there, Bool.not_true, Bool.and_false, if_neg Bool.false_ne_true, here]
      · obtain ⟨index, isIndex⟩ : ∃ index, stop + 1 = size before + index := ⟨stop + 1 - size before, by omega⟩
        have past : isBoundary (before ++ rest) (stop + 1) = false := by
          rw [isIndex, Utf8.isBoundary_append]
          apply Utf8.isBoundary_past rest count <;> omega
        have behind : stop + 1 > size before := by omega
        rw [past, decide_eq_true behind, Bool.not_false, Bool.and_self, if_pos rfl]
        exact ih (by omega) (by omega)

theorem chunkEnd_fit (before rest : List Char) :
    chunkEnd (before ++ rest) (size before) = size before + size (fit rest nativeResponseChunkBytes) := by
  obtain ⟨after, split, _⟩ := Utf8.fit_rest rest nativeResponseChunkBytes
  have bounded := Utf8.fit_size_le rest nativeResponseChunkBytes
  have whole : size rest = size (fit rest nativeResponseChunkBytes) + size after := by
    rw [← Utf8.size_append, ← split]
  have total := Utf8.size_append before rest
  unfold chunkEnd
  apply boundaryBefore_fit <;> omega

/-- The ranges cut the text into pieces that are as long as they may be. -/
structure Cuts (payloadText rest : List Char) (ranges : List (Nat × Nat)) : Prop where
  whole : (ranges.map fun r => slice payloadText r.1 r.2).flatten = rest
  small : ∀ r ∈ ranges, size (slice payloadText r.1 r.2) ≤ nativeResponseChunkBytes
  few : ranges.length * (nativeResponseChunkBytes - 3) ≤ size rest + (nativeResponseChunkBytes - 4)

theorem chunkRanges_cuts (before rest : List Char) :
    ∃ ranges, chunkRanges (before ++ rest) (size before) = .ok ranges ∧ Cuts (before ++ rest) rest ranges := by
  induction length : rest.length using Nat.strongRecOn generalizing before rest with
  | ind n ih =>
      rw [chunkRanges]
      cases rest with
      | nil =>
          rw [dif_neg (by simp)]
          exact ⟨[], rfl, rfl, nofun, by simp⟩
      | cons c tail =>
          obtain ⟨after, split, next⟩ := Utf8.fit_rest (c :: tail) nativeResponseChunkBytes
          have positive := c.utf8Size_pos
          have first : size (fit (c :: tail) nativeResponseChunkBytes) ≥ c.utf8Size := by
            have fits : c.utf8Size ≤ nativeResponseChunkBytes := Nat.le_trans c.utf8Size_le_four (by decide)
            rw [fit, if_pos fits, Utf8.size_cons]
            omega
          have more : size before < size (before ++ c :: tail) := by
            rw [Utf8.size_append, Utf8.size_cons]
            omega
          rw [dif_pos more, chunkEnd_fit, dif_neg (by omega)]
          obtain ⟨piece, isPiece⟩ : ∃ piece, piece = fit (c :: tail) nativeResponseChunkBytes := ⟨_, rfl⟩
          rw [← isPiece] at split next first ⊢
          have bounded : size piece ≤ nativeResponseChunkBytes := by
            rw [isPiece]
            exact Utf8.fit_size_le _ _
          have shorter : after.length < n := by
            have lengths := congrArg List.length split
            have some : piece.length ≠ 0 := by
              intro none
              rw [List.length_eq_zero_iff.mp none, Utf8.size_nil] at first
              omega
            rw [List.length_append] at lengths
            omega
          obtain ⟨ranges, made, cuts⟩ := ih after.length shorter (before ++ piece) after rfl
          have text : before ++ piece ++ after = before ++ c :: tail := by rw [List.append_assoc, ← split]
          rw [text, Utf8.size_append] at made
          rw [text] at cuts
          rw [made]
          have here : slice (before ++ c :: tail) (size before) (size before + size piece) = piece := by
            rw [split]
            exact Utf8.slice_middle before piece after
          refine ⟨(size before, size before + size piece) :: ranges, rfl, ?_, ?_, ?_⟩
          · rw [List.map_cons, List.flatten_cons, here, cuts.whole, ← split]
          · intro r member
            rcases List.mem_cons.mp member with rfl | later
            · rw [here]
              exact bounded
            · exact cuts.small r later
          · have few := cuts.few
            rw [split, Utf8.size_append, List.length_cons, Nat.succ_mul]
            cases after with
            | nil =>
                have none : ranges.length = 0 := by
                  by_contra some
                  have least : 1 * (nativeResponseChunkBytes - 3) ≤ ranges.length * (nativeResponseChunkBytes - 3) :=
                    Nat.mul_le_mul_right _ (Nat.one_le_iff_ne_zero.mpr some)
                  have large : 4 ≤ nativeResponseChunkBytes := by decide
                  rw [Utf8.size_nil] at few
                  omega
                rw [none, Utf8.size_nil]
                omega
            | cons d rest' =>
                have long := next d rest' rfl
                have four := d.utf8Size_le_four
                omega

/-! ## Frames -/

theorem toDigits_size {n : Nat} (small : n < 1000) : size (Nat.toDigits 10 n) ≤ 3 := by
  have ascii : ∀ c ∈ Nat.toDigits 10 n, c.toNat < 128 := by
    intro c member
    have digit := Nat.isDigit_of_mem_toDigits (by decide) (by decide) member
    rw [Char.isDigit, Bool.and_eq_true, decide_eq_true_eq, decide_eq_true_eq] at digit
    have most : c.val.toNat ≤ ('9'.val).toNat := UInt32.le_iff_toNat_le.mp digit.2
    exact Nat.lt_of_le_of_lt most (by decide)
  rw [Json.size_of_ascii ascii]
  exact (Nat.length_toDigits_le_iff (by decide) (by decide)).mpr small

theorem renderNumber_size {n : Nat} (small : n < 1000) : size (Json.renderNumber n 0) ≤ 3 := by
  have digits : Json.renderNumber n 0 = Nat.toDigits 10 n := List.append_nil _
  rw [digits]
  exact toDigits_size small

theorem chunkJson_size {requestId : String} {chunkIndex chunkCount : Nat} {data : List Char}
    (short : size requestId.toList ≤ maxNativeRequestIdBytes) (index : chunkIndex < 1000) (count : chunkCount < 1000)
    (fits : size data ≤ nativeResponseChunkBytes) (printable : Json.Printable data) :
    size (Json.render (chunkJson requestId chunkIndex chunkCount data)) ≤ maxNativeResponseBytes := by
  have id : size (requestId.toList.flatMap Json.escape) ≤ 6 * size requestId.toList :=
    Utf8.size_flatMap_le fun c _ => Json.escape_size c
  have escaped : size (data.flatMap Json.escape) ≤ 2 * size data :=
    Utf8.size_flatMap_le fun c member => Json.escape_size_printable (printable c member)
  have indexDigits : size (Json.renderNumber chunkIndex 0) ≤ 3 := renderNumber_size index
  have countDigits : size (Json.renderNumber chunkCount 0) ≤ 3 := renderNumber_size count
  have quotes : ∀ text, size (Json.renderString text) = size (text.flatMap Json.escape) + 2 := by
    intro text
    rw [Json.renderString, Utf8.size_cons, Utf8.size_append]
    have quote : '"'.utf8Size = 1 := by decide
    have last : size ['"'] = 1 := by decide
    omega
  have type : size (Json.renderString "type".toList) = 6 := by decide
  have chunk : size (Json.renderString "native_response_chunk".toList) = 23 := by decide
  have named : size (Json.renderString "requestId".toList) = 11 := by decide
  have indexed : size (Json.renderString "chunkIndex".toList) = 12 := by decide
  have counted : size (Json.renderString "chunkCount".toList) = 12 := by decide
  have kept : size (Json.renderString "data".toList) = 6 := by decide
  have marks : '\x7b'.utf8Size = 1 ∧ '\x7d'.utf8Size = 1 ∧ ':'.utf8Size = 1 ∧ ','.utf8Size = 1 := by decide
  have limits : maxNativeRequestIdBytes = 256 ∧ nativeResponseChunkBytes = 393216 ∧ maxNativeResponseBytes = 1048576 := by
    decide
  simp only [chunkJson, Json.render, Json.renderFields, Utf8.size_cons, Utf8.size_append, Utf8.size_nil,
    String.toList_ofList]
  rw [quotes requestId.toList, quotes data]
  omega

/-! ## The writer -/

/-- The chunks of pieces, from an index on. -/
def chunksFrom (requestId : String) (chunkCount : Nat) : Nat → List (List Char) → List Json
  | _, [] => []
  | index, piece :: rest =>
      chunkJson requestId index chunkCount piece :: chunksFrom requestId chunkCount (index + 1) rest

def isIo : WriteError → Bool
  | .io _ => true
  | .message _ => false

/-- All frames are written, or the device fails after some of them. -/
def Written (frames written : List Json) (outcome : Except WriteError Unit × List Json) : Prop :=
  outcome = (.ok (), written ++ frames) ∨
    ∃ error part, isIo error = true ∧ part <+: frames ∧ outcome = (.error error, written ++ part)

theorem writeNativePayload_written (device : List Json → DeviceAnswer) {frame : Json} (written : List Json)
    (small : size (Json.render frame) ≤ maxNativeResponseBytes) :
    Written [frame] written (writeNativePayload device frame written) := by
  have framed : tryU32 (size (Json.render frame)) "native response exceeds the framing limit" =
      .ok (size (Json.render frame)) := by
    rw [tryU32, if_pos (Nat.lt_of_le_of_lt small (by decide))]
  unfold writeNativePayload
  rw [framed]
  cases answer : device written with
  | written => exact .inl rfl
  | lengthFailed | payloadFailed =>
      exact .inr ⟨_, [], rfl, List.nil_prefix, by rw [List.append_nil]⟩
  | flushFailed => exact .inr ⟨_, [frame], rfl, List.prefix_refl _, rfl⟩

theorem Written.cons {frame : Json} {rest written : List Json} {first next : Writing Unit}
    (here : Written [frame] written (first written)) (later : ∀ written, Written rest written (next written)) :
    Written (frame :: rest) written ((first >>= fun _ => next) written) := by
  rw [Attempt.bind_run]
  rcases here with done | ⟨error, part, io, prefixed, failed⟩
  · rw [done]
    rcases later (written ++ [frame]) with done' | ⟨error, part, io, prefixed, failed⟩
    · left
      simp only
      rw [done', List.append_assoc, List.singleton_append]
    · right
      refine ⟨error, frame :: part, io, List.cons_prefix_cons.mpr ⟨rfl, prefixed⟩, ?_⟩
      simp only
      rw [failed, List.append_assoc, List.singleton_append]
  · rw [failed]
    refine .inr ⟨error, part, io, ?_, rfl⟩
    exact prefixed.trans ⟨rest, rfl⟩

theorem lift_bind {A B : Type} (a : A) (next : A → Writing B) : (Attempt.lift (.ok a) >>= next) = next a := rfl

theorem ensure_bind {A : Type} (error : WriteError) (next : Unit → Writing A) :
    (Attempt.ensure true error >>= next) = next () := rfl

theorem writeChunks_written (device : List Json → DeviceAnswer) (payloadText : List Char) (requestId : String)
    (chunkCount index : Nat) (ranges : List (Nat × Nat)) (written : List Json) (bounded : index + ranges.length ≤ 2 ^ 32)
    (small : ∀ frame ∈ chunksFrom requestId chunkCount index (ranges.map fun r => slice payloadText r.1 r.2),
      size (Json.render frame) ≤ maxNativeResponseBytes) :
    Written (chunksFrom requestId chunkCount index (ranges.map fun r => slice payloadText r.1 r.2)) written
      (writeChunks device payloadText requestId chunkCount index ranges written) := by
  induction ranges generalizing index written with
  | nil => exact .inl (by rw [List.map_nil, chunksFrom, List.append_nil]; rfl)
  | cons r rest ih =>
      rw [List.length_cons] at bounded
      have counted : tryU32 index "native response chunk index overflow" = .ok index := by
        rw [tryU32, if_pos (by omega)]
      have fits := small _ List.mem_cons_self
      have steps : writeChunks device payloadText requestId chunkCount index (r :: rest) =
          (writeNativePayload device (chunkJson requestId index chunkCount (slice payloadText r.1 r.2)) >>= fun _ =>
            writeChunks device payloadText requestId chunkCount (index + 1) rest) := by
        rw [writeChunks, counted, lift_bind]
        simp only [decide_eq_true fits, ensure_bind]
      rw [steps, List.map_cons, chunksFrom]
      apply Written.cons
      · exact writeNativePayload_written device written fits
      · intro written
        exact ih (index + 1) written (by omega) fun frame member => small frame (List.mem_cons_of_mem _ member)

/-! ## A large response -/

/-- The text of a response with its request id. -/
def payloadTextOf (response : RuntimeResponse) (requestId : String) : List Char :=
  Json.render (encodeNativeResponse response (some requestId))

/-- A response that is written as chunks. -/
structure Large (response : RuntimeResponse) (requestId : String) : Prop where
  above : maxNativeResponseBytes < size (payloadTextOf response requestId)
  within : size (payloadTextOf response requestId) ≤ maxChunkedNativeResponseBytes
  short : size requestId.toList ≤ maxNativeRequestIdBytes

def piecesOf (payloadText : List Char) : List (List Char) :=
  match chunkRanges payloadText 0 with
  | .ok ranges => ranges.map fun r => slice payloadText r.1 r.2
  | .error _ => []

/-- The frames of a text. -/
def framesOf (payloadText : List Char) (requestId : String) : List Json :=
  chunksFrom requestId (piecesOf payloadText).length 0 (piecesOf payloadText)

theorem chunkRanges_whole (payloadText : List Char) :
    ∃ ranges, chunkRanges payloadText 0 = .ok ranges ∧ Cuts payloadText payloadText ranges :=
  chunkRanges_cuts [] payloadText

theorem Cuts.many {payloadText rest : List Char} {ranges : List (Nat × Nat)} (cuts : Cuts payloadText rest ranges) :
    size rest ≤ ranges.length * nativeResponseChunkBytes := by
  have sizes : ∀ ranges : List (Nat × Nat),
      (∀ r ∈ ranges, size (slice payloadText r.1 r.2) ≤ nativeResponseChunkBytes) →
      size (ranges.map fun r => slice payloadText r.1 r.2).flatten ≤ ranges.length * nativeResponseChunkBytes := by
    intro ranges small
    induction ranges with
    | nil => exact Nat.zero_le _
    | cons r rest ih =>
        rw [List.map_cons, List.flatten_cons, Utf8.size_append, List.length_cons, Nat.succ_mul]
        have here := small r List.mem_cons_self
        have later := ih fun r' member => small r' (List.mem_cons_of_mem _ member)
        omega
  rw [← cuts.whole]
  exact sizes ranges cuts.small

theorem mem_chunksFrom {requestId : String} {chunkCount index : Nat} {pieces : List (List Char)} {frame : Json}
    (member : frame ∈ chunksFrom requestId chunkCount index pieces) :
    ∃ i piece, pieces[i]? = some piece ∧ frame = chunkJson requestId (index + i) chunkCount piece := by
  induction pieces generalizing index with
  | nil => cases member
  | cons piece rest ih =>
      rcases List.mem_cons.mp member with rfl | later
      · exact ⟨0, piece, rfl, rfl⟩
      · obtain ⟨i, piece', here, same⟩ := ih later
        exact ⟨i + 1, piece', here, by rw [same, Nat.add_assoc, Nat.add_comm 1 i]⟩

section Larges

variable {response : RuntimeResponse} {requestId : String} (large : Large response requestId)
include large

theorem Large.count {ranges : List (Nat × Nat)}
    (cuts : Cuts (payloadTextOf response requestId) (payloadTextOf response requestId) ranges) :
    2 ≤ ranges.length ∧ ranges.length ≤ 256 := by
  have above := large.above
  have within := large.within
  have few := cuts.few
  have many := cuts.many
  have limits : maxNativeResponseBytes = 1048576 ∧ maxChunkedNativeResponseBytes = 67108864 ∧
      nativeResponseChunkBytes = 393216 := by decide
  rw [limits.2.2] at few many
  omega

theorem Large.pieces :
    (piecesOf (payloadTextOf response requestId)).flatten = payloadTextOf response requestId ∧
      2 ≤ (piecesOf (payloadTextOf response requestId)).length ∧
      (piecesOf (payloadTextOf response requestId)).length ≤ 256 := by
  obtain ⟨ranges, made, cuts⟩ := chunkRanges_whole (payloadTextOf response requestId)
  have counts := large.count cuts
  unfold piecesOf
  rw [made]
  refine ⟨cuts.whole, ?_⟩
  rw [List.length_map]
  exact counts

theorem Large.frame_small {ranges : List (Nat × Nat)}
    (cuts : Cuts (payloadTextOf response requestId) (payloadTextOf response requestId) ranges) :
    ∀ frame ∈ chunksFrom requestId ranges.length 0
        (ranges.map fun r => slice (payloadTextOf response requestId) r.1 r.2),
      size (Json.render frame) ≤ maxNativeResponseBytes := by
  intro frame member
  obtain ⟨index, piece, here, rfl⟩ := mem_chunksFrom member
  have cut := List.mem_of_getElem? here
  obtain ⟨bounded, -⟩ := List.getElem?_eq_some_iff.mp here
  obtain ⟨r, among, rfl⟩ := List.mem_map.mp cut
  rw [List.length_map] at bounded
  have counts := large.count cuts
  apply chunkJson_size large.short (by omega) (by omega) (cuts.small r among)
  intro c inside
  apply Json.render_printable (encodeNativeResponse response (some requestId)) c
  change c ∈ payloadTextOf response requestId
  rw [← cuts.whole]
  exact List.mem_flatten.mpr ⟨_, cut, inside⟩

/-- All frames are written, or the device fails, and each frame is within the limit of the browser. -/
theorem Large.written (device : List Json → DeviceAnswer) :
    Written (framesOf (payloadTextOf response requestId) requestId) []
        (writeChunkedNativeMessage device response requestId []) ∧
      ∀ frame ∈ framesOf (payloadTextOf response requestId) requestId,
        size (Json.render frame) ≤ maxNativeResponseBytes := by
  obtain ⟨ranges, made, cuts⟩ := chunkRanges_whole (payloadTextOf response requestId)
  have counts := large.count cuts
  have small := large.frame_small cuts
  have frames : framesOf (payloadTextOf response requestId) requestId =
      chunksFrom requestId ranges.length 0
        (ranges.map fun r => slice (payloadTextOf response requestId) r.1 r.2) := by
    unfold framesOf piecesOf
    rw [made, List.length_map]
  rw [frames]
  refine ⟨?_, small⟩
  have counted : tryU32 ranges.length "native response chunk count overflow" = .ok ranges.length := by
    rw [tryU32, if_pos (by omega)]
  have steps : writeChunkedNativeMessage device response requestId =
      writeChunks device (payloadTextOf response requestId) requestId ranges.length 0 ranges := by
    have above : ¬size (Json.render (encodeNativeResponse response (some requestId))) ≤ maxNativeResponseBytes :=
      Nat.not_le_of_lt large.above
    have within : ¬size (Json.render (encodeNativeResponse response (some requestId))) > maxChunkedNativeResponseBytes :=
      Nat.not_lt_of_le large.within
    have made' : chunkRanges (Json.render (encodeNativeResponse response (some requestId))) 0 = .ok ranges := made
    unfold writeChunkedNativeMessage
    simp only
    rw [if_neg above, if_neg within, made', lift_bind, counted, lift_bind]
    rfl
  rw [steps]
  exact writeChunks_written device _ requestId _ 0 ranges [] (by omega) small

end Larges

/-! ## The reader -/

open Native (Browser Bridge Chunks PendingRequest Posting characters nativeResponseChunk)

/-- The number of UTF-16 code units. -/
def units (text : List Char) : Nat := characters (String.ofList text)

theorem units_append (left right : List Char) : units (left ++ right) = units left + units right := by
  simp [units, characters]

theorem units_one (c : Char) : units [c] ≤ c.utf8Size := by
  have positive := c.utf8Size_pos
  have value : units [c] = if c.toNat < 0x10000 then 1 else 2 := by simp [units, characters]
  rw [value]
  split
  · exact positive
  · rename_i wide
    have more : c.utf8Size ≠ 1 := by
      intro one
      have low := UInt32.le_iff_toNat_le.mp (Char.utf8Size_eq_one_iff.mp one)
      exact wide (Nat.lt_of_le_of_lt low (by decide))
    omega

theorem units_le (text : List Char) : units text ≤ size text := by
  induction text with
  | nil => exact Nat.le_refl _
  | cons c rest ih =>
      have one := units_one c
      have split := units_append [c] rest
      rw [List.singleton_append] at split
      rw [split, Utf8.size_cons]
      omega

theorem join_pieces (pieces : List (List Char)) :
    String.join (pieces.map String.ofList) = String.ofList pieces.flatten := by
  have onto : ∀ start : String, (pieces.map String.ofList).foldl (fun whole part => whole ++ part) start =
      start ++ String.ofList pieces.flatten := by
    induction pieces with
    | nil =>
        intro start
        simp
    | cons piece rest ih =>
        intro start
        rw [List.map_cons, List.foldl_cons, ih, List.flatten_cons, String.ofList_append, String.append_assoc]
  have whole := onto ""
  rw [String.empty_append] at whole
  exact whole

theorem chunkJson_read (requestId : String) (chunkIndex chunkCount : Nat) (data : List Char) :
    nativeResponseChunk (chunkJson requestId chunkIndex chunkCount data) =
      .chunk ⟨requestId, chunkIndex, chunkCount, String.ofList data⟩ := by
  simp [nativeResponseChunk, Native.readChunk, chunkJson, Json.field, Json.asString, Json.asInteger, List.lookup_cons]

/-- What the bridge has of the first pieces. -/
def collected (count : Nat) (pieces : List (List Char)) : Option Chunks :=
  if pieces = [] then none
  else some {
    count := count
    nextIndex := pieces.length
    totalCharacters := units pieces.flatten
    parts := pieces.map String.ofList }

section Reading

variable {browser : Browser} {request : PendingRequest} {requestId : String} {pieces : List (List Char)}
  {piece : List Char} {count : Nat}

/-- The next chunk is taken. -/
theorem takeChunk_next (own : request.requestId = requestId) (state : request.chunks = collected count pieces)
    (two : 2 ≤ count) (most : count ≤ 256) (next : pieces.length < count)
    (fits : units (pieces ++ [piece]).flatten ≤ Native.maxChunkedResponseCharacters) :
    Bridge.takeChunk browser request ⟨requestId, pieces.length, count, String.ofList piece⟩ =
      if pieces.length + 1 = count then
        match browser.parse (String.ofList (pieces ++ [piece]).flatten) with
        | none => .refused "native response chunks are not valid JSON"
        | some response => .assembled response
      else .incomplete {
        count := count
        nextIndex := (pieces ++ [piece]).length
        totalCharacters := units (pieces ++ [piece]).flatten
        parts := (pieces ++ [piece]).map String.ofList } := by
  have started : Bridge.startChunks request ⟨requestId, pieces.length, count, String.ofList piece⟩ = .ok (some {
      count := count
      nextIndex := pieces.length
      totalCharacters := units pieces.flatten
      parts := pieces.map String.ofList }) := by
    unfold Bridge.startChunks
    rw [state]
    cases pieces with
    | nil => rfl
    | cons first rest =>
        have later : ((first :: rest).length : Int) ≠ 0 := by
          rw [List.length_cons]
          omega
        rw [if_neg later]
        rfl
  have total : units pieces.flatten + characters (String.ofList piece) = units (pieces ++ [piece]).flatten := by
    rw [List.flatten_append, units_append]
    simp [units]
  have valid : ¬(requestId ≠ request.requestId ∨ (count : Int) < 2 ∨ (count : Int) > Native.maxNativeResponseChunks ∨
      (pieces.length : Int) < 0 ∨ (pieces.length : Int) ≥ count) := by
    have limit : (Native.maxNativeResponseChunks : Int) = 256 := rfl
    rw [limit]
    simp only [own, ne_eq, not_true_eq_false, false_or]
    omega
  unfold Bridge.takeChunk
  rw [if_neg valid, started]
  simp only [total, ne_eq, not_true_eq_false, false_or, if_neg (Nat.not_lt_of_le fits)]
  have joined : pieces.map String.ofList ++ [String.ofList piece] = (pieces ++ [piece]).map String.ofList := by
    rw [List.map_append, List.map_singleton]
  have longer : (((pieces ++ [piece]).length : Nat) : Int) = pieces.length + 1 := by
    rw [List.length_append, List.length_singleton]
    rfl
  rw [joined, join_pieces, longer]
  by_cases last : pieces.length + 1 = count
  · have last' : (pieces.length : Int) + 1 = count := by omega
    cases browser.parse (String.ofList (pieces ++ [piece]).flatten) <;>
      simp only [if_pos last, if_neg (not_not_intro last')]
  · have last' : ¬(pieces.length : Int) + 1 = count := by omega
    rw [if_neg last, if_pos last']

/-- The bridge with the first pieces of a response. -/
def collecting (bridge : Bridge) (request : PendingRequest) (count : Nat) (pieces : List (List Char)) : Bridge :=
  { bridge with activeRequest := some { request with chunks := collected count pieces } }

theorem onNativeMessage_incomplete {bridge : Bridge} {posting : Posting} {port : Nat} {message : Json}
    {chunk : Native.NativeResponseChunk} {chunks : Chunks} (active : bridge.activeRequest = some request)
    (attached : bridge.port = some port) (read : nativeResponseChunk message = .chunk chunk)
    (taken : Bridge.takeChunk browser request chunk = .incomplete chunks) :
    Bridge.onNativeMessage browser posting port message bridge =
      { bridge with activeRequest := some { request with chunks := some chunks } } := by
  unfold Bridge.onNativeMessage Bridge.onNativeMessageWithin Bridge.takeMessage
  simp only [active, attached, read, taken, ne_eq, not_true_eq_false, if_false]

theorem onNativeMessage_assembled {bridge : Bridge} {posting : Posting} {port : Nat} {message value : Json}
    {chunk : Native.NativeResponseChunk} (active : bridge.activeRequest = some request)
    (attached : bridge.port = some port) (read : nativeResponseChunk message = .chunk chunk)
    (taken : Bridge.takeChunk browser request chunk = .assembled value) (plain : nativeResponseChunk value = .noChunk) :
    Bridge.onNativeMessage browser posting port message bridge =
      Bridge.answerRequest browser posting port { request with chunks := none } value
        { bridge with activeRequest := some { request with chunks := none } } := by
  unfold Bridge.onNativeMessage Bridge.onNativeMessageWithin Bridge.takeMessage
  simp only [active, attached, read, taken, ne_eq, not_true_eq_false, if_false]
  unfold Bridge.onNativeMessageWithin Bridge.takeMessage
  simp only [plain, ne_eq, not_true_eq_false, if_false]

theorem feed_rest {bridge : Bridge} {posting : Posting} {port : Nat} {value : Json} (own : request.requestId = requestId)
    (attached : bridge.port = some port) (two : 2 ≤ pieces.length) (most : pieces.length ≤ 256)
    (fits : units pieces.flatten ≤ Native.maxChunkedResponseCharacters)
    (parsed : browser.parse (String.ofList pieces.flatten) = some value) (plain : nativeResponseChunk value = .noChunk)
    {before rest : List (List Char)} (split : before ++ rest = pieces) (more : rest ≠ []) :
    (chunksFrom requestId pieces.length before.length rest).foldl
        (fun bridge frame => Bridge.onNativeMessage browser posting port frame bridge)
        (collecting bridge request pieces.length before) =
      Bridge.answerRequest browser posting port { request with chunks := none } value
        { bridge with activeRequest := some { request with chunks := none } } := by
  induction rest generalizing before with
  | nil => exact absurd rfl more
  | cons piece after ih =>
      have lengths := congrArg List.length split
      rw [List.length_append, List.length_cons] at lengths
      have part : units (before ++ [piece]).flatten ≤ Native.maxChunkedResponseCharacters := by
        have whole : units pieces.flatten = units (before ++ [piece]).flatten + units after.flatten := by
          rw [← units_append, ← List.flatten_append, ← split, List.append_assoc, List.singleton_append]
        omega
      have taken := @takeChunk_next browser { request with chunks := collected pieces.length before } requestId before
        piece pieces.length own rfl two most (by omega) part
      rw [chunksFrom, List.foldl_cons]
      cases after with
      | nil =>
          rw [if_pos (show before.length + 1 = pieces.length from lengths), split, parsed] at taken
          have step := @onNativeMessage_assembled browser _ (collecting bridge request pieces.length before) posting port _
            value _ rfl attached (chunkJson_read requestId before.length pieces.length piece) taken plain
          rw [step]
          rfl
      | cons next later =>
          rw [List.length_cons] at lengths
          rw [if_neg (by omega)] at taken
          have step := @onNativeMessage_incomplete browser _ (collecting bridge request pieces.length before) posting port
            _ _ _ rfl attached (chunkJson_read requestId before.length pieces.length piece) taken
          rw [step]
          have further := @ih (before ++ [piece]) (by rw [List.append_assoc, List.singleton_append]; exact split) (by simp)
          have collectedNext : collected pieces.length (before ++ [piece]) = some {
              count := pieces.length
              nextIndex := (before ++ [piece]).length
              totalCharacters := units (before ++ [piece]).flatten
              parts := (before ++ [piece]).map String.ofList } := by
            rw [collected, if_neg (by simp)]
          rw [List.length_append, List.length_singleton] at further
          rw [← further]
          unfold collecting
          rw [collectedNext]

end Reading

end VaultKern.CommandLoop
