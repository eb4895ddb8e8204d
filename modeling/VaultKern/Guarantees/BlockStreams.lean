import VaultKern.Kdbx.Bytes

/-! # Block streams

A stream of authenticated blocks reads back, and with an ideal MAC nothing is accepted that
does not start with the stream that was written. The decoder of the old format accepts the
sequences of hashed blocks.
-/

namespace VaultKern.Kdbx

open Reading

variable (library : FileLibrary)

/-! ## Authenticated blocks -/

/-- The MAC is a digest of 256 bits. -/
def MacWidth : Prop := ∀ key data, (library.hmacSha256 key data).length = 32

/-- A block as it is written: its MAC, its length and its bytes. -/
def blockBytes (macSeed : List UInt8) (index : Nat) (chunk : List UInt8) : List UInt8 :=
  blockMac library macSeed index chunk ++ sized chunk

theorem encodeBlocks_nil (macSeed : List UInt8) (index : Nat) :
    encodeBlocks library macSeed index [] = blockBytes library macSeed index [] := rfl

theorem encodeBlocks_cons (macSeed : List UInt8) (index : Nat) (chunk : List UInt8) (rest : List (List UInt8)) :
    encodeBlocks library macSeed index (chunk :: rest) =
      blockBytes library macSeed index chunk ++ encodeBlocks library macSeed (index + 1) rest := rfl

/-- What may stand between two ends of a stream. -/
def IsChunk (chunk : List UInt8) : Prop := chunk ≠ [] ∧ chunk.length < 2 ^ 31

variable {library} {macSeed : List UInt8}

/-- What a block says: that the stream ends, or its bytes. -/
def blockNext (state : Nat × List UInt8) (later : Nat) (chunk : List UInt8) : Next (Nat × List UInt8) (List UInt8) :=
  if chunk = [] then .done state.2 else .again (later, state.2 ++ chunk)

theorem blockNext_again {state next : Nat × List UInt8} {later : Nat} {chunk : List UInt8}
    (goes : blockNext state later chunk = .again next) : chunk ≠ [] ∧ next = (later, state.2 ++ chunk) := by
  unfold blockNext at goes
  split at goes
  · cases goes
  · rename_i given
    cases goes
    exact ⟨given, rfl⟩

theorem blockNext_done {state : Nat × List UInt8} {later : Nat} {chunk plaintext : List UInt8}
    (ends : blockNext state later chunk = .done plaintext) : chunk = [] ∧ plaintext = state.2 := by
  unfold blockNext at ends
  split at ends
  · rename_i none
    cases ends
    exact ⟨none, rfl⟩
  · cases ends

/-- One round of the decoder. -/
def blockStep (library : FileLibrary) (macSeed : List UInt8) (state : Nat × List UInt8) (bytes : List UInt8) :
    Except KdbxError (Next (Nat × List UInt8) (List UInt8) × List UInt8) := do
  let (mac, bytes) ← readExact 32 bytes
  let (size, bytes) ← readLe 4 bytes
  if 2 ^ 31 ≤ size then .error .invalidValue
  else do
    let (chunk, bytes) ← readExact size bytes
    if blockMac library macSeed state.1 chunk ≠ mac then .error .payloadHmacMismatch
    else .ok (blockNext state (state.1 + 1) chunk, bytes)

def BlockCode (library : FileLibrary) (macSeed : List UInt8) (state : Nat × List UInt8)
    (next : Next (Nat × List UInt8) (List UInt8)) (text : List UInt8) : Prop :=
  ∃ chunk : List UInt8, chunk.length < 2 ^ 31 ∧ next = blockNext state (state.1 + 1) chunk ∧
    text = blockBytes library macSeed state.1 chunk

theorem blockStep_reads (width : MacWidth library) (state : Nat × List UInt8) :
    Reads (blockStep library macSeed state) (BlockCode library macSeed state) := by
  intro bytes next rest
  constructor
  · intro done
    obtain ⟨⟨mac, later⟩, mac_read, sizes⟩ := Fallible.bind_ok.mp done
    obtain ⟨⟨size, body⟩, size_read, checks⟩ := Fallible.bind_ok.mp sizes
    dsimp only at mac_read size_read checks
    split at checks
    · cases checks
    · rename_i fits
      obtain ⟨⟨chunk, left⟩, chunk_read, compares⟩ := Fallible.bind_ok.mp checks
      dsimp only at chunk_read compares
      split at compares
      · cases compares
      · rename_i genuine
        obtain rfl := Decidable.not_not.mp genuine
        cases compares
        obtain ⟨_, rfl⟩ := readExact_ok.mp mac_read
        obtain ⟨_, rfl⟩ := readLe_ok.mp size_read
        obtain ⟨rfl, rfl⟩ := readExact_ok.mp chunk_read
        exact ⟨_, ⟨chunk, by omega, rfl, rfl⟩, by simp [blockBytes, sized]⟩
  · rintro ⟨_, ⟨chunk, fits, rfl, rfl⟩, rfl⟩
    have mac : readExact 32 (blockBytes library macSeed state.1 chunk ++ rest) =
        .ok (blockMac library macSeed state.1 chunk, sized chunk ++ rest) :=
      readExact_ok.mpr ⟨width _ _, List.append_assoc _ _ _⟩
    have size : readLe 4 (sized chunk ++ rest) = .ok (chunk.length, chunk ++ rest) :=
      readLe_ok.mpr ⟨by omega, List.append_assoc _ _ _⟩
    have body : readExact chunk.length (chunk ++ rest) = .ok (chunk, rest) := readExact_ok.mpr ⟨rfl, rfl⟩
    rw [blockStep, mac]
    simp only [Fallible.ok_bind]
    rw [size]
    simp only [Fallible.ok_bind]
    rw [if_neg (by omega), body]
    simp only [Fallible.ok_bind, ne_eq, not_true_eq_false, if_false]

theorem blockCode_progress : Progress (BlockCode library macSeed) := by
  rintro state next text ⟨chunk, _, _, rfl⟩
  simp [blockBytes, sized, leBytes]

variable (library macSeed) in
/-- The decoder runs these rounds. -/
theorem decodeBlocks_loop (fuel index : Nat) (plaintext bytes : List UInt8) :
    (decodeBlocks library macSeed fuel index bytes).map (plaintext ++ ·) =
      (loop .unexpectedEof (blockStep library macSeed) fuel (index, plaintext) bytes).map Prod.fst := by
  induction fuel generalizing index plaintext bytes with
  | zero => rfl
  | succ fuel ih =>
      rw [decodeBlocks, loop, blockStep]
      cases readExact 32 bytes with
      | error e => rfl
      | ok mac =>
          simp only [Fallible.ok_bind]
          cases readLe 4 mac.2 with
          | error e => rfl
          | ok size =>
              simp only [Fallible.ok_bind]
              by_cases large : 2 ^ 31 ≤ size.1
              · rw [if_pos large, if_pos large]
                rfl
              · rw [if_neg large, if_neg large]
                cases read : readExact size.1 size.2 with
                | error e => rfl
                | ok chunk =>
                    simp only [Fallible.ok_bind]
                    by_cases forged : blockMac library macSeed index chunk.1 ≠ mac.1
                    · rw [if_pos forged, if_pos forged]
                      rfl
                    · rw [if_neg forged, if_neg forged]
                      obtain ⟨length, _⟩ := (@readExact_ok _ _ chunk.1 chunk.2).mp read
                      by_cases last : size.1 = 0
                      · have none : chunk.1 = [] := List.eq_nil_of_length_eq_zero (length.trans last)
                        rw [if_pos last, blockNext, if_pos none]
                        simp [Except.map]
                      · have given : chunk.1 ≠ [] := fun none => last (by rw [← length, none]; rfl)
                        rw [if_neg last, blockNext, if_neg given]
                        have rest := ih (index + 1) (plaintext ++ chunk.1) chunk.2
                        simp only [Fallible.ok_bind]
                        rw [← rest]
                        cases decodeBlocks library macSeed fuel (index + 1) chunk.2 with
                        | error e => rfl
                        | ok later => simp [Except.map]

/-- The texts of the rounds are the encodings of chunks. -/
theorem steps_encode {state : Nat × List UInt8} {plaintext text : List UInt8} :
    Steps (BlockCode library macSeed) state plaintext text ↔
      ∃ chunks, (∀ chunk ∈ chunks, IsChunk chunk) ∧ text = encodeBlocks library macSeed state.1 chunks ∧
        plaintext = state.2 ++ chunks.flatten := by
  constructor
  · intro steps
    induction steps with
    | done written =>
        obtain ⟨chunk, _, ends, rfl⟩ := written
        obtain ⟨rfl, rfl⟩ := blockNext_done ends.symm
        exact ⟨[], by simp, rfl, by simp⟩
    | again written _ ih =>
        obtain ⟨chunk, fits, goes, rfl⟩ := written
        obtain ⟨given, rfl⟩ := blockNext_again goes.symm
        obtain ⟨chunks, proper, rfl, rfl⟩ := ih
        refine ⟨chunk :: chunks, ?_, rfl, by simp⟩
        intro other member
        rcases List.mem_cons.mp member with rfl | member
        · exact ⟨given, fits⟩
        · exact proper other member
  · rintro ⟨chunks, proper, rfl, rfl⟩
    induction chunks generalizing state with
    | nil =>
        rw [List.flatten_nil, List.append_nil]
        exact .done ⟨[], by simp, rfl, rfl⟩
    | cons chunk rest ih =>
        obtain ⟨given, fits⟩ := proper chunk List.mem_cons_self
        have later := @ih (state.1 + 1, state.2 ++ chunk) fun other member => proper other (List.mem_cons_of_mem _ member)
        rw [List.append_assoc] at later
        apply Steps.again _ later
        exact ⟨chunk, fits, by rw [blockNext, if_neg given], rfl⟩

/-- What is accepted are blocks with their MACs, the empty one last, and any bytes behind them. -/
theorem decodeBlocks_accepts (width : MacWidth library) {fuel index : Nat} {bytes plaintext : List UInt8}
    (enough : bytes.length < fuel) :
    decodeBlocks library macSeed fuel index bytes = .ok plaintext ↔
      ∃ chunks rest, (∀ chunk ∈ chunks, IsChunk chunk) ∧
        bytes = encodeBlocks library macSeed index chunks ++ rest ∧ plaintext = chunks.flatten := by
  have same := decodeBlocks_loop library macSeed fuel index [] bytes
  have runs := @loop_reads _ _ _ _ .unexpectedEof _ _ (blockStep_reads width) (@blockCode_progress _ macSeed)
    fuel (index, []) bytes
  constructor
  · intro done
    rw [done] at same
    obtain ⟨⟨_, rest⟩, run, rfl⟩ := Fallible.map_ok.mp same.symm
    obtain ⟨text, steps, rfl⟩ := (runs enough).mp run
    obtain ⟨chunks, proper, rfl, whole⟩ := steps_encode.mp steps
    exact ⟨chunks, rest, proper, rfl, whole⟩
  · rintro ⟨chunks, rest, proper, rfl, rfl⟩
    have run := (runs enough).mpr ⟨_, steps_encode.mpr ⟨chunks, proper, rfl, rfl⟩, rfl⟩
    rw [run] at same
    obtain ⟨plaintext, done, whole⟩ := Fallible.map_ok.mp same
    rw [done]
    exact congrArg _ whole

theorem decodeBlocks_fuel (width : MacWidth library) {fuel index : Nat} {bytes : List UInt8} (enough : bytes.length < fuel) :
    decodeBlocks library macSeed fuel index bytes = decodeBlocks library macSeed (bytes.length + 1) index bytes := by
  have first := decodeBlocks_loop library macSeed fuel index [] bytes
  have second := decodeBlocks_loop library macSeed (bytes.length + 1) index [] bytes
  rw [loop_fuel (blockStep_reads width) blockCode_progress enough (Nat.lt_succ_self _), ← second] at first
  have plain : ∀ x : Except KdbxError (List UInt8), x.map ([] ++ ·) = x := fun x => by cases x <;> rfl
  rw [plain, plain] at first
  exact first

/-! ## Chunks -/

theorem chunks_spec {fuel : Nat} {bytes : List UInt8} (enough : bytes.length ≤ fuel) :
    (chunks fuel bytes).flatten = bytes ∧ ∀ chunk ∈ chunks fuel bytes, chunk ≠ [] ∧ chunk.length ≤ blockSize := by
  induction fuel generalizing bytes with
  | zero =>
      obtain rfl := List.eq_nil_of_length_eq_zero (Nat.le_zero.mp enough)
      simp [chunks]
  | succ fuel ih =>
      rw [chunks]
      split
      · rename_i none
        simp [List.isEmpty_iff.mp none]
      · rename_i given
        have given' : bytes ≠ [] := by simpa using given
        have less : (bytes.drop blockSize).length ≤ fuel := by
          rw [List.length_drop]
          unfold blockSize
          omega
        obtain ⟨whole, small⟩ := ih less
        constructor
        · rw [List.flatten_cons, whole, List.take_append_drop]
        · intro chunk member
          rcases List.mem_cons.mp member with rfl | member
          · refine ⟨?_, List.length_take_le _ _⟩
            have positive := List.length_pos_iff.mpr given'
            apply List.ne_nil_of_length_pos
            rw [List.length_take]
            unfold blockSize
            omega
          · exact small chunk member

theorem chunks_proper {bytes chunk : List UInt8} (member : chunk ∈ chunks bytes.length bytes) : IsChunk chunk := by
  obtain ⟨given, small⟩ := (chunks_spec (le_refl bytes.length)).2 chunk member
  unfold blockSize at small
  exact ⟨given, by omega⟩

/-! ## An ideal MAC -/

/-- The chunks of a payload and the empty one at their end, with their indexes. -/
def Issued (payload : List UInt8) (index : Nat) (chunk : List UInt8) : Prop :=
  (chunks payload.length payload ++ [[]])[index]? = some chunk

/-- Nobody else can make a MAC: of all blocks, only those that were written for the payload are in the bytes. -/
def Unforgeable (library : FileLibrary) (macSeed payload bytes : List UInt8) : Prop :=
  ∀ index chunk, index < 2 ^ 64 → blockBytes library macSeed index chunk <:+: bytes → Issued payload index chunk

/-- Every block of a stream is in it under its index. -/
theorem encodeBlocks_within {chunks : List (List UInt8)} {first index : Nat} {chunk : List UInt8}
    (held : (chunks ++ [[]])[index]? = some chunk) :
    blockBytes library macSeed (first + index) chunk <:+: encodeBlocks library macSeed first chunks := by
  induction chunks generalizing first index with
  | nil =>
      cases index with
      | zero =>
          obtain rfl : [] = chunk := by simpa using held
          rw [encodeBlocks_nil]
          exact List.infix_rfl
      | succ index => simp at held
  | cons other rest ih =>
      rw [encodeBlocks_cons]
      cases index with
      | zero =>
          obtain rfl : other = chunk := by simpa using held
          exact (List.prefix_append _ _).isInfix
      | succ index =>
          have later := @ih (first + 1) index (by simpa using held)
          rw [Nat.add_right_comm, Nat.add_assoc] at later
          exact later.trans (List.suffix_append _ _).isInfix

variable (library macSeed) in
theorem encodeBlocks_length (chunks : List (List UInt8)) (index : Nat) :
    chunks.length < (encodeBlocks library macSeed index chunks).length := by
  induction chunks generalizing index with
  | nil => simp [encodeBlocks_nil, blockBytes, sized]
  | cons chunk rest ih =>
      have later := ih (index + 1)
      simp only [encodeBlocks_cons, blockBytes, sized, List.length_append, List.length_cons, leBytes_length]
      omega

/-- With the blocks of one payload, there is nothing else to accept. -/
theorem chunks_issued {payload bytes rest : List UInt8} {accepted : List (List UInt8)}
    (unforgeable : Unforgeable library macSeed payload bytes) (bounded : bytes.length < 2 ^ 64)
    (same : bytes = encodeBlocks library macSeed 0 accepted ++ rest) : accepted = chunks payload.length payload := by
  have short := encodeBlocks_length library macSeed accepted 0
  have issued : ∀ index chunk, (accepted ++ [[]])[index]? = some chunk → Issued payload index chunk := by
    intro index chunk held
    obtain ⟨small, _⟩ := List.getElem?_eq_some_iff.mp held
    apply unforgeable
    · rw [same] at bounded
      simp only [List.length_append, List.length_cons, List.length_nil] at small bounded
      omega
    · have inside := @encodeBlocks_within library macSeed _ 0 _ _ held
      rw [Nat.zero_add] at inside
      rw [same]
      exact inside.trans (List.prefix_append _ _).isInfix
  -- The end of the one can only be the end of the other.
  have ends : Issued payload accepted.length [] := issued _ _ (by simp)
  have lengths : accepted.length = (chunks payload.length payload).length := by
    unfold Issued at ends
    rcases Nat.lt_trichotomy accepted.length (chunks payload.length payload).length with less | same | more
    · rw [List.getElem?_append_left less] at ends
      obtain ⟨given, _⟩ := chunks_proper (List.mem_of_getElem? ends)
      exact absurd rfl given
    · exact same
    · rw [List.getElem?_eq_none (by simp only [List.length_append, List.length_singleton]; omega)] at ends
      cases ends
  apply List.ext_getElem lengths
  intro index first second
  have here : Issued payload index accepted[index] :=
    issued _ _ (by rw [List.getElem?_append_left first, List.getElem?_eq_getElem first])
  unfold Issued at here
  rw [List.getElem?_append_left second, List.getElem?_eq_getElem second] at here
  exact (Option.some.inj here).symm

theorem decodeBlockStream_encode (width : MacWidth library) (payload rest : List UInt8) :
    decodeBlockStream library macSeed (encodeBlockStream library macSeed payload ++ rest) = .ok payload := by
  apply (decodeBlocks_accepts width (Nat.lt_succ_self _)).mpr
  exact ⟨chunks payload.length payload, rest, fun chunk => chunks_proper, rfl, (chunks_spec (le_refl _)).1.symm⟩

theorem decodeBlockStream_authentic (width : MacWidth library) {payload bytes : List UInt8}
    (unforgeable : Unforgeable library macSeed payload bytes) (bounded : bytes.length < 2 ^ 64) (plaintext : List UInt8) :
    decodeBlockStream library macSeed bytes = .ok plaintext ↔
      plaintext = payload ∧ encodeBlockStream library macSeed payload <+: bytes := by
  constructor
  · intro done
    obtain ⟨accepted, rest, _, same, rfl⟩ := (decodeBlocks_accepts width (Nat.lt_succ_self _)).mp done
    obtain rfl := chunks_issued unforgeable bounded same
    exact ⟨(chunks_spec (le_refl _)).1, rest, same.symm⟩
  · rintro ⟨rfl, rest, rfl⟩
    exact decodeBlockStream_encode width plaintext rest

/-! ## Blocks of the old format -/

/-- A block of the old format: its index, its hash, its length and its bytes. -/
def legacyBytes (index : Nat) (hash block : List UInt8) : List UInt8 :=
  leBytes 4 index ++ hash ++ sized block

/-- Blocks under indexes that count up to the largest of 32 bits, with their hashes, and an empty one
with any hash. -/
inductive LegacyBlocks (library : FileLibrary) : Nat → List UInt8 → List UInt8 → Prop where
  | last {index : Nat} {hash : List UInt8} : hash.length = 32 → LegacyBlocks library index [] (legacyBytes index hash [])
  | block {index : Nat} {block plaintext text : List UInt8} : block ≠ [] → block.length < 2 ^ 32 →
      (library.sha256 block).length = 32 → LegacyBlocks library (min (index + 1) (2 ^ 32 - 1)) plaintext text →
      LegacyBlocks library index (block ++ plaintext) (legacyBytes index (library.sha256 block) block ++ text)

/-- One round of the decoder of the old format. -/
def legacyStep (library : FileLibrary) (state : Nat × List UInt8) (bytes : List UInt8) :
    Except KdbxError (Next (Nat × List UInt8) (List UInt8) × List UInt8) := do
  let (blockIndex, bytes) ← readLe 4 bytes
  let (blockHash, bytes) ← readExact 32 bytes
  let (blockSize, bytes) ← readLe 4 bytes
  if blockIndex ≠ state.1 then .error .invalidValue
  else if blockSize = 0 then .ok (.done state.2, bytes)
  else do
    let (block, bytes) ← readExact blockSize bytes
    if library.sha256 block ≠ blockHash then .error .payloadHashMismatch
    else .ok (.again (min (state.1 + 1) (2 ^ 32 - 1), state.2 ++ block), bytes)

def LegacyCode (library : FileLibrary) (state : Nat × List UInt8) (next : Next (Nat × List UInt8) (List UInt8))
    (text : List UInt8) : Prop :=
  ∃ hash block : List UInt8, state.1 < 2 ^ 32 ∧ hash.length = 32 ∧ block.length < 2 ^ 32 ∧
    (block ≠ [] → library.sha256 block = hash) ∧
    next = blockNext state (min (state.1 + 1) (2 ^ 32 - 1)) block ∧ text = legacyBytes state.1 hash block

theorem legacyStep_reads (state : Nat × List UInt8) : Reads (legacyStep library state) (LegacyCode library state) := by
  intro bytes next rest
  constructor
  · intro done
    obtain ⟨⟨blockIndex, later⟩, index_read, hashes⟩ := Fallible.bind_ok.mp done
    obtain ⟨⟨hash, behind⟩, hash_read, sizes⟩ := Fallible.bind_ok.mp hashes
    obtain ⟨⟨size, body⟩, size_read, checks⟩ := Fallible.bind_ok.mp sizes
    dsimp only at index_read hash_read size_read checks
    obtain ⟨length, rfl⟩ := readExact_ok.mp hash_read
    split at checks
    · cases checks
    · rename_i indexes
      obtain rfl := Decidable.not_not.mp indexes
      split at checks
      · rename_i last
        cases checks
        subst last
        obtain ⟨_, rfl⟩ := readLe_ok.mp size_read
        obtain ⟨small, rfl⟩ := readLe_ok.mp index_read
        exact ⟨_, ⟨hash, [], by omega, length, by simp, by simp, by simp [blockNext], rfl⟩, by simp [legacyBytes, sized]⟩
      · rename_i given
        obtain ⟨⟨block, left⟩, block_read, compares⟩ := Fallible.bind_ok.mp checks
        dsimp only at block_read compares
        split at compares
        · cases compares
        · rename_i genuine
          cases compares
          obtain ⟨rfl, rfl⟩ := readExact_ok.mp block_read
          obtain ⟨fits, rfl⟩ := readLe_ok.mp size_read
          obtain ⟨small, rfl⟩ := readLe_ok.mp index_read
          have given' : block ≠ [] := fun none => given (by simp [none])
          exact ⟨_, ⟨hash, block, by omega, length, by omega, fun _ => Decidable.not_not.mp genuine,
            by rw [blockNext, if_neg given'], rfl⟩, by simp [legacyBytes, sized]⟩
  · rintro ⟨_, ⟨hash, block, small, length, fits, hashed, rfl, rfl⟩, rfl⟩
    have index : readLe 4 (legacyBytes state.1 hash block ++ rest) = .ok (state.1, hash ++ (sized block ++ rest)) :=
      readLe_ok.mpr ⟨by omega, by simp [legacyBytes]⟩
    have digest : readExact 32 (hash ++ (sized block ++ rest)) = .ok (hash, sized block ++ rest) :=
      readExact_ok.mpr ⟨length, rfl⟩
    have size : readLe 4 (sized block ++ rest) = .ok (block.length, block ++ rest) :=
      readLe_ok.mpr ⟨by omega, List.append_assoc _ _ _⟩
    rw [legacyStep, index]
    simp only [Fallible.ok_bind]
    rw [digest]
    simp only [Fallible.ok_bind]
    rw [size]
    simp only [Fallible.ok_bind, ne_eq, not_true_eq_false, if_false]
    by_cases none : block = []
    · rw [blockNext, if_pos none, none]
      rfl
    · have given : block.length ≠ 0 := fun empty => none (List.eq_nil_of_length_eq_zero empty)
      have body : readExact block.length (block ++ rest) = .ok (block, rest) := readExact_ok.mpr ⟨rfl, rfl⟩
      rw [if_neg given, body, blockNext, if_neg none]
      simp only [Fallible.ok_bind, hashed none, not_true_eq_false, if_false]

theorem legacyCode_progress : Progress (LegacyCode library) := by
  rintro state next text ⟨hash, block, _, _, _, _, _, rfl⟩
  simp [legacyBytes, leBytes]

theorem decodeLegacyBlocks_loop (fuel index : Nat) (plaintext bytes : List UInt8) :
    decodeLegacyBlocks library fuel index plaintext bytes =
      (loop .unexpectedEof (legacyStep library) fuel (index, plaintext) bytes).map Prod.fst := by
  induction fuel generalizing index plaintext bytes with
  | zero => rfl
  | succ fuel ih =>
      rw [decodeLegacyBlocks, loop, legacyStep]
      cases readLe 4 bytes with
      | error e => rfl
      | ok blockIndex =>
          simp only [Fallible.ok_bind]
          cases readExact 32 blockIndex.2 with
          | error e => rfl
          | ok hash =>
              simp only [Fallible.ok_bind]
              cases readLe 4 hash.2 with
              | error e => rfl
              | ok size =>
                  simp only [Fallible.ok_bind]
                  by_cases other : blockIndex.1 ≠ index
                  · rw [if_pos other, if_pos other]
                    rfl
                  · rw [if_neg other, if_neg other]
                    by_cases last : size.1 = 0
                    · rw [if_pos last, if_pos last]
                      rfl
                    · rw [if_neg last, if_neg last]
                      cases readExact size.1 size.2 with
                      | error e => rfl
                      | ok block =>
                          simp only [Fallible.ok_bind]
                          by_cases forged : library.sha256 block.1 ≠ hash.1
                          · rw [if_pos forged, if_pos forged]
                            rfl
                          · rw [if_neg forged, if_neg forged]
                            exact ih _ _ _

theorem steps_legacy {state : Nat × List UInt8} {plaintext text : List UInt8} (small : state.1 < 2 ^ 32) :
    Steps (LegacyCode library) state plaintext text ↔
      ∃ rest, LegacyBlocks library state.1 rest text ∧ plaintext = state.2 ++ rest := by
  constructor
  · intro steps
    clear small
    induction steps with
    | done written =>
        obtain ⟨hash, block, _, length, _, _, ends, rfl⟩ := written
        obtain ⟨rfl, rfl⟩ := blockNext_done ends.symm
        exact ⟨[], .last length, by simp⟩
    | again written _ ih =>
        obtain ⟨hash, block, _, length, fits, hashed, goes, rfl⟩ := written
        obtain ⟨given, rfl⟩ := blockNext_again goes.symm
        obtain rfl := hashed given
        obtain ⟨rest, blocks, rfl⟩ := ih
        exact ⟨block ++ rest, .block given fits length blocks, by simp⟩
  · rintro ⟨rest, blocks, rfl⟩
    obtain ⟨index, earlier⟩ := state
    dsimp only at blocks small ⊢
    induction blocks generalizing earlier with
    | @last index hash length =>
        rw [List.append_nil]
        exact .done ⟨hash, [], small, length, by simp, by simp, rfl, rfl⟩
    | @block index block plaintext text given fits length _ ih =>
        have later := ih (earlier ++ block) (by omega)
        rw [List.append_assoc] at later
        apply Steps.again _ later
        exact ⟨_, block, small, length, fits, fun _ => rfl, by rw [blockNext, if_neg given], rfl⟩

theorem decodeLegacyBlocks_accepts {bytes plaintext : List UInt8} :
    decodeLegacyBlockStream library bytes = .ok plaintext ↔
      ∃ text rest, LegacyBlocks library 0 plaintext text ∧ bytes = text ++ rest := by
  rw [decodeLegacyBlockStream, decodeLegacyBlocks_loop, Fallible.map_ok]
  have runs := @loop_reads_all _ _ _ _ .unexpectedEof _ _ (@legacyStep_reads library) legacyCode_progress
    (0, [])
  constructor
  · rintro ⟨⟨_, rest⟩, run, rfl⟩
    obtain ⟨text, steps, rfl⟩ := runs.mp run
    obtain ⟨plaintext, blocks, rfl⟩ := (steps_legacy (by decide)).mp steps
    exact ⟨text, rest, blocks, rfl⟩
  · rintro ⟨text, rest, blocks, rfl⟩
    exact ⟨(plaintext, rest), runs.accepts ((steps_legacy (by decide)).mpr ⟨_, blocks, rfl⟩) rest, rfl⟩

theorem decodeLegacyBlocks_fuel {fuel : Nat} {bytes : List UInt8} (enough : bytes.length < fuel) :
    decodeLegacyBlocks library fuel 0 [] bytes = decodeLegacyBlockStream library bytes := by
  rw [decodeLegacyBlockStream, decodeLegacyBlocks_loop, decodeLegacyBlocks_loop,
    loop_fuel legacyStep_reads legacyCode_progress enough (Nat.lt_succ_self _)]

/-! ## The guarantee -/

/-- With MACs of their width, a stream reads back whatever is behind it, and where nobody else can make
MACs, what is accepted starts with the stream that was written. The decoder of the old format accepts the
sequences of its blocks, with anything behind them. Neither depends on its fuel. -/
theorem blockStreams (library : FileLibrary) (width : MacWidth library) :
    (∀ macSeed payload rest : List UInt8,
      decodeBlockStream library macSeed (encodeBlockStream library macSeed payload ++ rest) = .ok payload) ∧
    (∀ macSeed payload bytes : List UInt8, bytes.length < 2 ^ 64 → Unforgeable library macSeed payload bytes →
      ∀ plaintext, decodeBlockStream library macSeed bytes = .ok plaintext ↔
        plaintext = payload ∧ encodeBlockStream library macSeed payload <+: bytes) ∧
    (∀ (macSeed bytes : List UInt8) (fuel : Nat), bytes.length < fuel →
      decodeBlocks library macSeed fuel 0 bytes = decodeBlockStream library macSeed bytes) ∧
    (∀ bytes plaintext : List UInt8, decodeLegacyBlockStream library bytes = .ok plaintext ↔
      ∃ text rest, LegacyBlocks library 0 plaintext text ∧ bytes = text ++ rest) ∧
    (∀ (bytes : List UInt8) (fuel : Nat), bytes.length < fuel →
      decodeLegacyBlocks library fuel 0 [] bytes = decodeLegacyBlockStream library bytes) := by
  refine ⟨fun _ => decodeBlockStream_encode width, ?_, fun _ _ _ => decodeBlocks_fuel width, ?_, ?_⟩
  · intro macSeed payload bytes bounded unforgeable plaintext
    exact decodeBlockStream_authentic width unforgeable bounded plaintext
  · intro bytes plaintext
    exact decodeLegacyBlocks_accepts
  · intro bytes fuel enough
    exact decodeLegacyBlocks_fuel enough

/-! ### A byte behind the end -/

def zeroSeed : List UInt8 := List.replicate 64 0

/-- The key of the first block under a seed of zeros. -/
def firstBlockKey : List UInt8 :=
  [94, 201, 124, 192, 72, 163, 203, 93, 160, 48, 147, 188, 109, 43, 99, 207, 82, 82, 171, 171, 106,
   114, 178, 66, 20, 255, 136, 92, 6, 47, 88, 220, 67, 198, 204, 5, 192, 220, 66, 138, 26, 78, 75, 149,
   234, 132, 20, 10, 136, 131, 216, 23, 149, 65, 98, 129, 180, 172, 79, 213, 34, 144, 224, 161]

/-- The key of the block behind it. -/
def lastBlockKey : List UInt8 :=
  [111, 32, 123, 152, 94, 50, 102, 194, 169, 131, 80, 6, 240, 153, 15, 124, 59, 169, 136, 75, 158, 80,
   35, 152, 34, 93, 250, 237, 96, 99, 170, 66, 24, 44, 16, 148, 60, 218, 167, 20, 49, 232, 133, 255, 133,
   42, 209, 58, 231, 79, 233, 21, 188, 231, 183, 76, 204, 52, 203, 197, 87, 224, 221, 178]

/-- The MAC of a first block that holds the byte 7. -/
def firstBlockMac : List UInt8 :=
  [70, 101, 76, 123, 47, 200, 147, 204, 64, 42, 252, 187, 48, 45, 181, 103, 118, 255, 122, 37, 252, 191,
   238, 134, 217, 174, 222, 116, 162, 90, 44, 56]

/-- The MAC of an empty block behind it. -/
def lastBlockMac : List UInt8 :=
  [139, 66, 158, 34, 220, 218, 73, 199, 2, 177, 38, 57, 126, 82, 229, 210, 77, 255, 181, 2, 242, 166, 33,
   4, 137, 59, 221, 74, 233, 28, 22, 192]

/-- A library that makes these keys and these MACs and no others. -/
def twoMacLibrary : FileLibrary where
  sha256 _ := List.replicate 32 0
  sha512 bytes :=
    if bytes = leBytes 8 0 ++ zeroSeed then firstBlockKey
    else if bytes = leBytes 8 1 ++ zeroSeed then lastBlockKey
    else List.replicate 64 0
  chacha20 _ _ _ := 0
  salsa20 _ _ _ := 0
  xml := { parse := fun _ => .error "", write := fun _ => .error "" }
  rfc3339 _ := none
  gzipDecompress _ := none
  hmacSha256 key bytes :=
    if key = firstBlockKey ∧ bytes = leBytes 8 0 ++ sized [7] then firstBlockMac
    else if key = lastBlockKey ∧ bytes = leBytes 8 1 ++ sized [] then lastBlockMac
    else List.replicate 32 0
  encrypt _ _ _ _ := none
  decrypt _ _ _ _ := none
  gzipCompress _ := none

theorem twoMacLibrary_width : MacWidth twoMacLibrary := by
  intro key bytes
  unfold twoMacLibrary
  dsimp only
  split
  · rfl
  · split <;> rfl

/-- The stream of a payload of one byte, and a byte behind it. -/
def longerStream : List UInt8 := encodeBlockStream twoMacLibrary zeroSeed [7] ++ [7]

theorem longerStream_proper : ∀ start < 39, (longerStream.drop start).take 32 ≠ List.replicate 32 0 := by
  decide +kernel

/-- What a MAC is made of tells the index and the chunk. -/
theorem indexed_injective {index other : Nat} {chunk chunk' : List UInt8} (small : index < 2 ^ 64) (small' : other < 2 ^ 64)
    (same : leBytes 8 index ++ sized chunk = leBytes 8 other ++ sized chunk') : index = other ∧ chunk = chunk' := by
  obtain ⟨indexes, rest⟩ := List.append_inj same (by simp)
  have value := congrArg natOfLeBytes indexes
  rw [natOfLeBytes_small small, natOfLeBytes_small small'] at value
  exact ⟨value, (List.append_inj rest (by simp)).2⟩

theorem longerStream_unforgeable : Unforgeable twoMacLibrary zeroSeed [7] longerStream := by
  intro index chunk small inside
  obtain ⟨before, behind, same⟩ := inside
  have width := twoMacLibrary_width (blockHmacKey twoMacLibrary zeroSeed index) (leBytes 8 index ++ sized chunk)
  change (blockMac twoMacLibrary zeroSeed index chunk).length = 32 at width
  have here : (longerStream.drop before.length).take 32 = blockMac twoMacLibrary zeroSeed index chunk := by
    rw [← same, List.append_assoc, List.drop_left, blockBytes, List.append_assoc, List.take_left' width]
  have start : before.length < 39 := by
    have lengths := congrArg List.length same
    have total : longerStream.length = 74 := by decide +kernel
    rw [total] at lengths
    simp only [blockBytes, sized, List.length_append, width, leBytes_length] at lengths
    omega
  have genuine := longerStream_proper _ start
  rw [here] at genuine
  unfold blockMac twoMacLibrary at genuine
  dsimp only at genuine
  split at genuine
  · rename_i first
    obtain ⟨rfl, rfl⟩ := indexed_injective small (by decide) first.2
    rfl
  · split at genuine
    · rename_i last
      obtain ⟨rfl, rfl⟩ := indexed_injective small (by decide) last.2
      rfl
    · exact absurd rfl genuine

theorem blockStreams_longer :
    MacWidth twoMacLibrary ∧ Unforgeable twoMacLibrary zeroSeed [7] longerStream ∧
      (∀ plaintext, decodeBlockStream twoMacLibrary zeroSeed longerStream = .ok plaintext ↔
        plaintext = [7] ∧ encodeBlockStream twoMacLibrary zeroSeed [7] <+: longerStream) :=
  ⟨twoMacLibrary_width, longerStream_unforgeable,
    (blockStreams twoMacLibrary twoMacLibrary_width).2.1 zeroSeed [7] longerStream (by decide +kernel)
      longerStream_unforgeable⟩

/-- The byte behind the end is not looked at. -/
theorem longerStream_accepted :
    MacWidth twoMacLibrary ∧ Unforgeable twoMacLibrary zeroSeed [7] longerStream ∧
      (∀ payload, longerStream ≠ encodeBlockStream twoMacLibrary zeroSeed payload) ∧
      decodeBlockStream twoMacLibrary zeroSeed longerStream = .ok [7] := by
  have accepted : decodeBlockStream twoMacLibrary zeroSeed longerStream = .ok [7] :=
    decodeBlockStream_encode twoMacLibrary_width [7] [7]
  refine ⟨twoMacLibrary_width, longerStream_unforgeable, ?_, accepted⟩
  intro payload same
  have read := @decodeBlockStream_encode _ zeroSeed twoMacLibrary_width payload []
  rw [List.append_nil, ← same, accepted] at read
  obtain rfl := Except.ok.inj read
  exact absurd same (by decide +kernel)

end VaultKern.Kdbx
