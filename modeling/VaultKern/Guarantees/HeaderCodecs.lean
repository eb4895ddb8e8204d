import VaultKern.Kdbx.Dictionaries

/-! # Headers read back

The outer header, the dictionaries in it and the inner header are read back as they were
written, and a dictionary that was loaded is written back as it was. Whatever is read, what is
cut short and what has a wrong length is refused.
-/

namespace VaultKern.Kdbx

open Reading

/-! ## The outer header -/

namespace KdbxHeader

/-- The fields that are written, with the encodings of both dictionaries. -/
def fields (header : KdbxHeader) (kdf publicData : List UInt8) : List (UInt8 × List UInt8) :=
  [(2, cipherUuid header.cipher), (3, compressionBytes header.compression), (4, header.masterSeed),
    (7, header.encryptionIv), (11, kdf), (12, publicData)] ++
    header.unknownFields.map fun field => (field.id, field.data)

/-- The header with both dictionaries as they are in the bytes. -/
def loaded (header : KdbxHeader) (kdf publicData : List UInt8) : KdbxHeader :=
  { header with
    kdfParameters := { items := header.kdfParameters.items, loadedEncoding := some kdf }
    publicCustomData := { items := header.publicCustomData.items, loadedEncoding := some publicData } }

/-- Equality of headers. Dictionaries with the same items are equal. -/
structure Same (first second : KdbxHeader) : Prop where
  version : first.version = second.version
  cipher : first.cipher = second.cipher
  compression : first.compression = second.compression
  masterSeed : first.masterSeed = second.masterSeed
  encryptionIv : first.encryptionIv = second.encryptionIv
  kdfParameters : first.kdfParameters.items = second.kdfParameters.items
  publicCustomData : first.publicCustomData.items = second.publicCustomData.items
  unknownFields : first.unknownFields = second.unknownFields

theorem loaded_same (header : KdbxHeader) (kdf publicData : List UInt8) : Same (header.loaded kdf publicData) header :=
  ⟨rfl, rfl, rfl, rfl, rfl, rfl, rfl, rfl⟩

/-- A header of KDBX 4 with a seed of its length, fields whose lengths are written as they are, and
no unknown field under a known tag. -/
structure Writable (header : KdbxHeader) : Prop where
  version : header.version = .v4_0 ∨ header.version = .v4_1
  masterSeed : header.masterSeed.length = 32
  encryptionIv : header.encryptionIv.length < 2 ^ 31
  kdfParameters : header.kdfParameters.Writable
  kdfFits : ∀ bytes, header.kdfParameters.encode = .ok bytes → bytes.length < 2 ^ 31
  publicCustomData : header.publicCustomData.Writable
  publicFits : ∀ bytes, header.publicCustomData.encode = .ok bytes → bytes.length < 2 ^ 31
  unknownFields : ∀ field ∈ header.unknownFields,
    field.id ∉ [0x00, 0x02, 0x03, 0x04, 0x07, 0x0B, 0x0C] ∧ field.data.length < 2 ^ 31

/-- A header of KDBX 4 with a seed of its length, dictionaries that were made or loaded, and no unknown
field under a known tag. -/
structure Buildable (header : KdbxHeader) : Prop where
  version : header.version = .v4_0 ∨ header.version = .v4_1
  masterSeed : header.masterSeed.length = 32
  kdfParameters : header.kdfParameters.Writable
  kdfLoaded : ∀ raw ∈ header.kdfParameters.loadedEncoding, raw.length < 2 ^ 31
  publicCustomData : header.publicCustomData.Writable
  publicLoaded : ∀ raw ∈ header.publicCustomData.loadedEncoding, raw.length < 2 ^ 31
  unknownFields : ∀ field ∈ header.unknownFields, field.id ∉ [0x00, 0x02, 0x03, 0x04, 0x07, 0x0B, 0x0C]

/-- Lengths that are written as they are. -/
structure Fits (header : KdbxHeader) : Prop where
  encryptionIv : header.encryptionIv.length < 2 ^ 31
  kdfParameters : VariantDictionary.size header.kdfParameters.items < 2 ^ 31
  publicCustomData : VariantDictionary.size header.publicCustomData.items < 2 ^ 31
  unknownFields : ∀ field ∈ header.unknownFields, field.data.length < 2 ^ 31

theorem Buildable.writable {header : KdbxHeader} (built : header.Buildable) (fits : header.Fits) : header.Writable where
  version := built.version
  masterSeed := built.masterSeed
  encryptionIv := fits.encryptionIv
  kdfParameters := built.kdfParameters
  kdfFits := fun _ => VariantDictionary.encode_size built.kdfLoaded fits.kdfParameters
  publicCustomData := built.publicCustomData
  publicFits := fun _ => VariantDictionary.encode_size built.publicLoaded fits.publicCustomData
  unknownFields := fun field member => ⟨built.unknownFields field member, fits.unknownFields field member⟩

theorem Fits.of_same {first second : KdbxHeader} (fits : first.Fits) (same : Same first second) : second.Fits where
  encryptionIv := same.encryptionIv ▸ fits.encryptionIv
  kdfParameters := same.kdfParameters ▸ fits.kdfParameters
  publicCustomData := same.publicCustomData ▸ fits.publicCustomData
  unknownFields := same.unknownFields ▸ fits.unknownFields

theorem encode_ok {header : KdbxHeader} {bytes : List UInt8} :
    header.encode = .ok bytes ↔ ∃ kdf publicData, header.kdfParameters.encode = .ok kdf ∧
      header.publicCustomData.encode = .ok publicData ∧
      bytes = signature ++ leBytes 4 (versionToU32 header.version) ++
        (fieldsBytes (header.fields kdf publicData) ++ writeField 0 [13, 10, 13, 10]) := by
  have same : ∀ kdf publicData : List UInt8, signature ++ leBytes 4 (versionToU32 header.version)
      ++ writeField 2 (cipherUuid header.cipher) ++ writeField 3 (compressionBytes header.compression)
      ++ writeField 4 header.masterSeed ++ writeField 7 header.encryptionIv ++ writeField 11 kdf
      ++ writeField 12 publicData ++ header.unknownFields.flatMap (fun field => writeField field.id field.data)
      ++ writeField 0 [13, 10, 13, 10] = signature ++ leBytes 4 (versionToU32 header.version) ++
        (fieldsBytes (header.fields kdf publicData) ++ writeField 0 [13, 10, 13, 10]) := by
    intro kdf publicData
    simp [fieldsBytes, fields, List.flatMap_map]
  unfold encode
  constructor
  · intro written
    obtain ⟨kdf, kdf_written, rest⟩ := Fallible.bind_ok.mp written
    obtain ⟨publicData, public_written, done⟩ := Fallible.bind_ok.mp rest
    cases done
    exact ⟨kdf, publicData, kdf_written, public_written, same kdf publicData⟩
  · rintro ⟨kdf, publicData, kdf_written, public_written, rfl⟩
    rw [kdf_written, Fallible.ok_bind, public_written, Fallible.ok_bind, same]

theorem fields_proper {header : KdbxHeader} (writable : header.Writable) {kdf publicData : List UInt8}
    (kdf_written : header.kdfParameters.encode = .ok kdf)
    (public_written : header.publicCustomData.encode = .ok publicData) :
    ∀ field ∈ header.fields kdf publicData, IsField field := by
  intro field member
  rcases List.mem_append.mp member with known | unknown
  · simp only [List.mem_cons, List.not_mem_nil, or_false] at known
    rcases known with rfl | rfl | rfl | rfl | rfl | rfl
    · exact ⟨(by decide : (2 : UInt8) ≠ 0), by cases header.cipher <;> decide⟩
    · exact ⟨(by decide : (3 : UInt8) ≠ 0), by cases header.compression <;> decide⟩
    · exact ⟨(by decide : (4 : UInt8) ≠ 0), by rw [writable.masterSeed]; decide⟩
    · exact ⟨(by decide : (7 : UInt8) ≠ 0), writable.encryptionIv⟩
    · exact ⟨(by decide : (11 : UInt8) ≠ 0), writable.kdfFits kdf kdf_written⟩
    · exact ⟨(by decide : (12 : UInt8) ≠ 0), writable.publicFits publicData public_written⟩
  · obtain ⟨given, inside, rfl⟩ := List.mem_map.mp unknown
    obtain ⟨other, fits⟩ := writable.unknownFields given inside
    refine ⟨fun zero => other ?_, fits⟩
    have zero' : given.id = 0 := zero
    rw [zero']
    decide

/-- Unknown fields are kept in their order. -/
theorem read_unknown (header : KdbxHeader) {unknown : List UnknownHeaderField}
    (others : ∀ field ∈ unknown, field.id ∉ [0x00, 0x02, 0x03, 0x04, 0x07, 0x0B, 0x0C]) :
    (unknown.map fun field => (field.id, field.data)).foldlM (fun header field => read header field.1 field.2) header =
      .ok { header with unknownFields := header.unknownFields ++ unknown } := by
  induction unknown generalizing header with
  | nil =>
      rw [List.append_nil]
      rfl
  | cons field rest ih =>
      have other := others field List.mem_cons_self
      simp only [List.mem_cons, not_or] at other
      obtain ⟨_, not2, not3, not4, not7, not11, not12, _⟩ := other
      have kept : read header field.id field.data =
          .ok { header with unknownFields := header.unknownFields ++ [field] } := by
        rw [read, if_neg not2, if_neg not3, if_neg not4, if_neg not7, if_neg not11, if_neg not12]
      rw [List.map_cons, List.foldlM_cons, kept, Fallible.ok_bind,
        ih _ fun other member => others other (List.mem_cons_of_mem field member), List.append_assoc]
      rfl

theorem read_cipher (header : KdbxHeader) (cipher : KdbxCipher) :
    read header 2 (cipherUuid cipher) = .ok { header with cipher } := by
  cases cipher <;> rfl

theorem read_compression (header : KdbxHeader) (compression : Compression) :
    read header 3 (compressionBytes compression) = .ok { header with compression } := by
  cases compression <;> rfl

theorem read_seed (header : KdbxHeader) {masterSeed : List UInt8} (length : masterSeed.length = 32) :
    read header 4 masterSeed = .ok { header with masterSeed } := by
  have exactly : exactLength 32 masterSeed = .ok masterSeed := exactLength_ok.mpr ⟨length, rfl⟩
  unfold read
  rw [if_neg (by decide), if_neg (by decide), if_pos rfl, exactly]
  rfl

theorem read_kdf (header : KdbxHeader) {bytes : List UInt8} {dictionary : VariantDictionary}
    (decoded : VariantDictionary.decode bytes = .ok dictionary) :
    read header 11 bytes = .ok { header with kdfParameters := dictionary } := by
  unfold read
  rw [if_neg (by decide), if_neg (by decide), if_neg (by decide), if_neg (by decide), if_pos rfl, decoded]
  rfl

theorem read_public (header : KdbxHeader) {bytes : List UInt8} {dictionary : VariantDictionary}
    (decoded : VariantDictionary.decode bytes = .ok dictionary) :
    read header 12 bytes = .ok { header with publicCustomData := dictionary } := by
  unfold read
  rw [if_neg (by decide), if_neg (by decide), if_neg (by decide), if_neg (by decide), if_neg (by decide), if_pos rfl,
    decoded]
  rfl

theorem fields_read {header : KdbxHeader} (writable : header.Writable) {kdf publicData : List UInt8}
    (kdf_written : header.kdfParameters.encode = .ok kdf)
    (public_written : header.publicCustomData.encode = .ok publicData) :
    (header.fields kdf publicData).foldlM (fun header field => read header field.1 field.2)
      { version := header.version } = .ok (header.loaded kdf publicData) := by
  have kdf_read := VariantDictionary.decode_encoded writable.kdfParameters kdf_written
    (writable.kdfFits kdf kdf_written)
  have public_read := VariantDictionary.decode_encoded writable.publicCustomData public_written
    (writable.publicFits publicData public_written)
  unfold fields
  rw [List.foldlM_append]
  simp only [List.foldlM_cons, List.foldlM_nil]
  rw [read_cipher, Fallible.ok_bind, read_compression, Fallible.ok_bind, read_seed _ writable.masterSeed,
    Fallible.ok_bind]
  change ((read _ 11 kdf >>= fun header => read header 12 publicData >>= fun header => pure header) >>= _) = _
  rw [read_kdf _ kdf_read, Fallible.ok_bind, read_public _ public_read, Fallible.ok_bind]
  change List.foldlM _ _ _ = _
  rw [read_unknown _ fun field member => (writable.unknownFields field member).1]
  rfl

/-- The texts of a header: its version and its fields. -/
def Code (header : KdbxHeader) (text : List UInt8) : Prop :=
  ∃ number version row, number < 2 ^ 32 ∧ u32ToVersion number = .ok version ∧ (version = .v4_1 ∨ version = .v4_0) ∧
    FieldsCode KdbxHeader.read { version } header row ∧ text = signature ++ leBytes 4 number ++ row

theorem detectFileVersion_ok {bytes rest : List UInt8} {version : KdbxVersion} :
    detectFileVersion bytes = .ok (version, rest) ↔
      ∃ number, number < 2 ^ 32 ∧ u32ToVersion number = .ok version ∧ bytes = signature ++ leBytes 4 number ++ rest := by
  unfold detectFileVersion
  constructor
  · intro done
    obtain ⟨⟨sig1, behind⟩, sig1_read, second⟩ := Fallible.bind_ok.mp done
    obtain ⟨⟨sig2, later⟩, sig2_read, checked⟩ := Fallible.bind_ok.mp second
    dsimp only at sig1_read sig2_read checked
    split at checked
    · cases checked
    · rename_i signed
      obtain ⟨⟨number, left⟩, number_read, known⟩ := Fallible.bind_ok.mp checked
      obtain ⟨_, converted, same⟩ := Fallible.bind_ok.mp known
      dsimp only at number_read converted same
      cases same
      obtain ⟨small, rfl⟩ := readLe_ok.mp number_read
      obtain ⟨_, rfl⟩ := readLe_ok.mp sig2_read
      obtain ⟨_, rfl⟩ := readLe_ok.mp sig1_read
      simp only [not_or, ne_eq, Decidable.not_not] at signed
      obtain ⟨rfl, rfl⟩ := signed
      exact ⟨number, small, converted, by simp [signature]⟩
  · rintro ⟨number, small, converted, rfl⟩
    have first : readLe 4 (signature ++ leBytes 4 number ++ rest) =
        .ok (0x9AA2D903, leBytes 4 0xB54BFB67 ++ (leBytes 4 number ++ rest)) :=
      readLe_ok.mpr ⟨by decide, by simp [signature]⟩
    have second : readLe 4 (leBytes 4 0xB54BFB67 ++ (leBytes 4 number ++ rest)) =
        .ok (0xB54BFB67, leBytes 4 number ++ rest) := readLe_ok.mpr ⟨by decide, rfl⟩
    have third : readLe 4 (leBytes 4 number ++ rest) = .ok (number, rest) := readLe_ok.mpr ⟨small, rfl⟩
    rw [first]
    simp only [Fallible.ok_bind]
    rw [second]
    simp only [Fallible.ok_bind]
    rw [if_neg (by simp), third]
    simp only [Fallible.ok_bind]
    rw [converted]
    rfl

theorem decode_reads : Reads KdbxHeader.decode Code := by
  intro bytes header rest
  unfold KdbxHeader.decode
  constructor
  · intro done
    obtain ⟨⟨version, later⟩, detected, fields⟩ := Fallible.bind_ok.mp done
    obtain ⟨number, small, converted, rfl⟩ := detectFileVersion_ok.mp detected
    dsimp only at fields
    split at fields
    · cases fields
    · rename_i supported
      have known : version = .v4_1 ∨ version = .v4_0 := by
        by_cases newest : version = .v4_1
        · exact .inl newest
        · exact .inr (Decidable.not_not.mp fun other => supported ⟨newest, other⟩)
      rw [readFields_loop] at fields
      obtain ⟨row, code, rfl⟩ := (fieldLoop_reads _).mp fields
      exact ⟨_, ⟨number, version, row, small, converted, known, code, rfl⟩, by simp⟩
  · rintro ⟨_, ⟨number, version, row, small, converted, known, code, rfl⟩, rfl⟩
    have detected : detectFileVersion (signature ++ leBytes 4 number ++ row ++ rest) = .ok (version, row ++ rest) :=
      detectFileVersion_ok.mpr ⟨number, small, converted, by simp⟩
    have supported : ¬(version ≠ .v4_1 ∧ version ≠ .v4_0) := by
      rcases known with rfl | rfl <;> decide
    rw [detected]
    simp only [Fallible.ok_bind]
    rw [if_neg supported, readFields_loop]
    exact (fieldLoop_reads _).accepts code rest

/-- What is written is a text of the header. -/
theorem code_encode {header : KdbxHeader} (writable : header.Writable) {bytes : List UInt8}
    (written : header.encode = .ok bytes) : ∃ kdf publicData, Code (header.loaded kdf publicData) bytes := by
  obtain ⟨kdf, publicData, kdf_written, public_written, rfl⟩ := encode_ok.mp written
  refine ⟨kdf, publicData, ?_⟩
  have known : u32ToVersion (versionToU32 header.version) = .ok header.version ∧
      (header.version = .v4_1 ∨ header.version = .v4_0) ∧ versionToU32 header.version < 2 ^ 32 := by
    rcases writable.version with same | same <;> rw [same] <;> decide
  exact ⟨_, header.version, _, known.2.2, known.1, known.2.1,
    ⟨_, _, fields_proper writable kdf_written public_written, by decide, rfl,
      fields_read writable kdf_written public_written⟩, rfl⟩

/-- The tags whose fields have one length. -/
def fieldLength (id : UInt8) : Option Nat :=
  if id = 2 then some 16 else if id = 3 then some 4 else if id = 4 then some 32 else none

theorem read_length {header next : KdbxHeader} {id : UInt8} {data : List UInt8} (taken : read header id data = .ok next) :
    ∀ len ∈ fieldLength id, data.length = len := by
  intro len fixed
  unfold read at taken
  unfold fieldLength at fixed
  by_cases is2 : id = 2
  · subst is2
    obtain ⟨_, converted, _⟩ := Fallible.bind_ok.mp taken
    cases fixed
    obtain ⟨_, exactly, _⟩ := Fallible.bind_ok.mp taken
    exact (exactLength_ok.mp exactly).1
  by_cases is3 : id = 3
  · subst is3
    obtain ⟨_, exactly, _⟩ := Fallible.bind_ok.mp taken
    cases fixed
    exact (exactLength_ok.mp exactly).1
  by_cases is4 : id = 4
  · subst is4
    obtain ⟨_, exactly, _⟩ := Fallible.bind_ok.mp taken
    cases fixed
    exact (exactLength_ok.mp exactly).1
  · simp [is2, is3, is4] at fixed

/-- What one field changes. -/
inductive Read (header : KdbxHeader) (id : UInt8) (data : List UInt8) : KdbxHeader → Prop where
  | cipher (cipher : KdbxCipher) : Read header id data { header with cipher }
  | compression (compression : Compression) : Read header id data { header with compression }
  | masterSeed (length : data.length = 32) : Read header id data { header with masterSeed := data }
  | encryptionIv : Read header id data { header with encryptionIv := data }
  | kdfParameters (tag : id = 11) {dictionary : VariantDictionary}
      (decoded : VariantDictionary.decode data = .ok dictionary) :
      Read header id data { header with kdfParameters := dictionary }
  | publicCustomData {dictionary : VariantDictionary} (decoded : VariantDictionary.decode data = .ok dictionary) :
      Read header id data { header with publicCustomData := dictionary }
  | unknownField (other : id ∉ [2, 3, 4, 7, 11, 12]) :
      Read header id data { header with unknownFields := header.unknownFields ++ [{ id, data }] }

theorem read_cases {header next : KdbxHeader} {id : UInt8} {data : List UInt8}
    (taken : read header id data = .ok next) : Read header id data next := by
  unfold read at taken
  by_cases is2 : id = 2
  · rw [if_pos is2] at taken
    obtain ⟨_, _, taken'⟩ := Fallible.bind_ok.mp taken
    obtain ⟨_, _, same⟩ := Fallible.bind_ok.mp taken'
    cases same
    exact .cipher _
  by_cases is3 : id = 3
  · rw [if_neg is2, if_pos is3] at taken
    obtain ⟨_, _, taken'⟩ := Fallible.bind_ok.mp taken
    dsimp only at taken'
    split at taken'
    · cases taken'
      exact .compression _
    · split at taken'
      · cases taken'
        exact .compression _
      · cases taken'
  by_cases is4 : id = 4
  · rw [if_neg is2, if_neg is3, if_pos is4] at taken
    obtain ⟨_, exactly, same⟩ := Fallible.bind_ok.mp taken
    obtain ⟨length, rfl⟩ := exactLength_ok.mp exactly
    cases same
    exact .masterSeed length
  by_cases is7 : id = 7
  · rw [if_neg is2, if_neg is3, if_neg is4, if_pos is7] at taken
    cases taken
    exact .encryptionIv
  by_cases is11 : id = 11
  · rw [if_neg is2, if_neg is3, if_neg is4, if_neg is7, if_pos is11] at taken
    obtain ⟨dictionary, decoded, same⟩ := Fallible.bind_ok.mp taken
    cases same
    exact .kdfParameters is11 decoded
  rw [if_neg is2, if_neg is3, if_neg is4, if_neg is7, if_neg is11] at taken
  split at taken
  · obtain ⟨_, decoded, same⟩ := Fallible.bind_ok.mp taken
    cases same
    exact .publicCustomData decoded
  · rename_i is12
    cases taken
    exact .unknownField (by simp [is2, is3, is4, is7, is11, is12])

/-- Only the field of the KDF changes its dictionary. -/
theorem read_kdfParameters {header next : KdbxHeader} {id : UInt8} {data : List UInt8}
    (taken : read header id data = .ok next) :
    next.kdfParameters = header.kdfParameters ∨
      id = 11 ∧ VariantDictionary.decode data = .ok next.kdfParameters := by
  cases read_cases taken with
  | kdfParameters tag decoded => exact .inr ⟨tag, decoded⟩
  | _ => exact .inl rfl

/-- What is read from a field whose length is written as it is has such lengths. -/
theorem read_fits {header next : KdbxHeader} (fits : header.Fits) {id : UInt8} {data : List UInt8}
    (small : data.length < 2 ^ 31) (taken : read header id data = .ok next) : next.Fits := by
  have dictionary : ∀ {decoded}, VariantDictionary.decode data = .ok decoded →
      VariantDictionary.size decoded.items < 2 ^ 31 := by
    intro decoded done
    obtain ⟨items, read, same⟩ := Fallible.bind_ok.mp done
    cases same
    exact lt_of_le_of_lt (VariantDictionary.decodeItems_size read) small
  cases read_cases taken with
  | cipher | compression | masterSeed => exact ⟨fits.1, fits.2, fits.3, fits.4⟩
  | encryptionIv => exact ⟨small, fits.2, fits.3, fits.4⟩
  | kdfParameters _ decoded => exact ⟨fits.1, dictionary decoded, fits.3, fits.4⟩
  | publicCustomData decoded => exact ⟨fits.1, fits.2, dictionary decoded, fits.4⟩
  | unknownField =>
      refine ⟨fits.1, fits.2, fits.3, fun field member => ?_⟩
      rcases List.mem_append.mp member with old | new
      · exact fits.4 field old
      · rw [List.mem_singleton.mp new]
        exact small

/-- A header that was read has such lengths. -/
theorem decode_fits {bytes rest : List UInt8} {header : KdbxHeader}
    (decoded : KdbxHeader.decode bytes = .ok (header, rest)) : header.Fits := by
  obtain ⟨_, ⟨_, version, _, _, _, _, ⟨fields, _, proper, _, rfl, folded⟩, rfl⟩, rfl⟩ := decode_reads.mp decoded
  refine Fallible.foldlM_keeps (fun field member _ _ before taken => read_fits before (proper field member).2 taken) ?_
    folded
  have empty : VariantDictionary.size ∅ < 2 ^ 31 := by decide +kernel
  exact ⟨by simp, empty, empty, by simp⟩

/-- A header is read back as long as its lengths are written as they are. -/
theorem readBack_iff {header : KdbxHeader} (built : header.Buildable) {bytes : List UInt8}
    (written : header.encode = .ok bytes) :
    (∀ rest, ∃ read, KdbxHeader.decode (bytes ++ rest) = .ok (read, rest) ∧ Same read header) ↔ header.Fits := by
  constructor
  · intro back
    obtain ⟨_, decoded, same⟩ := back []
    exact (decode_fits decoded).of_same same
  · intro fits rest
    obtain ⟨kdf, publicData, code⟩ := code_encode (built.writable fits) written
    exact ⟨_, decode_reads.accepts code rest, header.loaded_same kdf publicData⟩

theorem fields_kdfParameters {fields : List (UInt8 × List UInt8)} {start result : KdbxHeader}
    (folded : fields.foldlM (fun header field => read header field.1 field.2) start = .ok result) :
    result.kdfParameters = start.kdfParameters ∨
      ∃ data, (11, data) ∈ fields ∧ VariantDictionary.decode data = .ok result.kdfParameters := by
  induction fields generalizing start with
  | nil =>
      cases folded
      exact .inl rfl
  | cons field rest ih =>
      rw [List.foldlM_cons] at folded
      obtain ⟨next, taken, folded⟩ := Fallible.bind_ok.mp folded
      rcases ih folded with same | ⟨data, inside, decoded⟩
      · rcases read_kdfParameters taken with kept | ⟨tag, decoded⟩
        · exact .inl (same.trans kept)
        · obtain ⟨id, data⟩ := field
          obtain rfl : id = 11 := tag
          rw [← same] at decoded
          exact .inr ⟨data, List.mem_cons_self, decoded⟩
      · exact .inr ⟨data, List.mem_cons_of_mem field inside, decoded⟩

theorem field_within {field : UInt8 × List UInt8} {fields : List (UInt8 × List UInt8)} (member : field ∈ fields) :
    writeField field.1 field.2 <:+: fieldsBytes fields := by
  obtain ⟨before, behind, rfl⟩ := List.append_of_mem member
  exact ⟨fieldsBytes before, fieldsBytes behind, by simp [fieldsBytes]⟩

/-- The dictionary of the KDF that a file is loaded with is the one in its bytes. -/
theorem decode_kdfParameters {bytes rest raw : List UInt8} {header : KdbxHeader}
    (decoded : KdbxHeader.decode bytes = .ok (header, rest)) (written : header.kdfParameters.encode = .ok raw) :
    decodeItems raw = .ok header.kdfParameters.items ∧
      (header.kdfParameters = {} ∨ writeField 11 raw <:+: bytes) := by
  obtain ⟨text, code, rfl⟩ := decode_reads.mp decoded
  obtain ⟨number, version, row, _, _, _, ⟨fields, last, _, _, rfl, folded⟩, rfl⟩ := code
  rcases fields_kdfParameters folded with none | ⟨data, inside, loaded⟩
  · have none' : header.kdfParameters = {} := none
    rw [none'] at written ⊢
    cases written
    exact ⟨by decide +kernel, .inl rfl⟩
  · obtain ⟨items, read, same⟩ := Fallible.bind_ok.mp loaded
    have back := VariantDictionary.encode_decoded loaded
    rw [written] at back
    obtain rfl := Except.ok.inj back
    have held := Except.ok.inj same
    refine ⟨by rw [← held]; exact read, .inr ?_⟩
    have part := field_within inside
    apply part.trans
    exact ⟨signature ++ leBytes 4 number, writeField 0 last ++ rest, by simp⟩

/-- What is written holds the dictionary of the KDF. -/
theorem encode_kdfParameters {header : KdbxHeader} {kdf bytes : List UInt8} (written : header.encode = .ok bytes)
    (kdf_written : header.kdfParameters.encode = .ok kdf) : writeField 11 kdf <:+: bytes := by
  obtain ⟨kdf', publicData, kdf_written', _, rfl⟩ := encode_ok.mp written
  rw [kdf_written] at kdf_written'
  obtain rfl := Except.ok.inj kdf_written'
  have inside : ((11, kdf) : UInt8 × List UInt8) ∈ header.fields kdf publicData := by simp [fields]
  apply (field_within inside).trans
  exact ⟨signature ++ leBytes 4 (versionToU32 header.version), writeField 0 [13, 10, 13, 10], by simp⟩

end KdbxHeader

/-! ## The inner header -/

def innerFields (innerKey : List UInt8) (binaries : List InnerBinary) : List (UInt8 × List UInt8) :=
  [(1, leBytes 4 3), (2, innerKey)] ++ binaries.map fun binary => (3, innerBinaryBytes binary)

theorem buildInnerHeader_fields (innerKey : List UInt8) (binaries : List InnerBinary) :
    buildInnerHeader innerKey binaries = fieldsBytes (innerFields innerKey binaries) ++ writeField 0 [] := by
  simp [buildInnerHeader, fieldsBytes, innerFields, List.flatMap_map]

/-- Contents of one id are the same. -/
def HashesApart (sha256 : List UInt8 → List UInt8) (binaries : List InnerBinary) : Prop :=
  ∀ first ∈ binaries, ∀ second ∈ binaries, sha256 first.data.bytes = sha256 second.data.bytes → first.data = second.data

section Inner

variable {sha256 : List UInt8 → List UInt8}

/-- One more binary, whose content is all that stands under its id. -/
theorem HashesApart.append_one {binaries : List InnerBinary} (apart : HashesApart sha256 binaries) {added : InnerBinary}
    (alone : ∀ binary ∈ binaries, sha256 binary.data.bytes = sha256 added.data.bytes → binary.data = added.data) :
    HashesApart sha256 (binaries ++ [added]) := by
  intro first inFirst second inSecond same
  rcases List.mem_append.mp inFirst with old | new
  · rcases List.mem_append.mp inSecond with old' | new'
    · exact apart first old second old' same
    · obtain rfl := List.mem_singleton.mp new'
      exact alone first old same
  · obtain rfl := List.mem_singleton.mp new
    rcases List.mem_append.mp inSecond with old' | new'
    · exact (alone second old' same.symm).symm
    · rw [List.mem_singleton.mp new']

theorem internContent_new {contents : List AttachmentContent} {bytes : List UInt8}
    (apart : ∀ held ∈ contents, sha256 held.bytes = sha256 bytes → held = { bytes }) :
    internContent sha256 contents bytes = .ok { bytes } := by
  unfold internContent
  split
  · rename_i existing found
    have same := apart existing (List.mem_of_find?_eq_some found) (by simpa using List.find?_some found)
    rw [same, if_neg (by simp)]
  · rfl

/-- What the pool gives has the bytes, and is all that it holds under their id. -/
theorem internContent_ok {binaries : List InnerBinary} {bytes : List UInt8} {content : AttachmentContent}
    (apart : HashesApart sha256 binaries)
    (interned : internContent sha256 (binaries.map (·.data)) bytes = .ok content) :
    content.bytes = bytes ∧ ∀ binary ∈ binaries, sha256 binary.data.bytes = sha256 bytes → binary.data = content := by
  unfold internContent at interned
  split at interned
  · rename_i existing found
    obtain ⟨held, member, rfl⟩ := List.mem_map.mp (List.mem_of_find?_eq_some found)
    have id : sha256 held.data.bytes = sha256 bytes := by simpa using List.find?_some found
    split at interned
    · cases interned
    · rename_i same
      cases interned
      exact ⟨not_not.mp same, fun binary inside same => apart binary inside held member (same.trans id.symm)⟩
  · rename_i missing
    cases interned
    refine ⟨rfl, fun binary inside same => ?_⟩
    have other := List.find?_eq_none.mp missing binary.data (List.mem_map_of_mem inside)
    exact absurd same (by simpa using other)

namespace InnerHeader

theorem read_binary {header : InnerHeader} {binary : InnerBinary}
    (apart : ∀ held ∈ header.binaries, sha256 held.data.bytes = sha256 binary.data.bytes → held.data = binary.data) :
    read sha256 header 3 (innerBinaryBytes binary) =
      .ok { header with binaries := header.binaries ++ [binary] } := by
  have interned : internContent sha256 (header.binaries.map (·.data)) binary.data.bytes = .ok binary.data := by
    apply internContent_new
    intro content member
    obtain ⟨held, inside, rfl⟩ := List.mem_map.mp member
    exact apart held inside
  obtain ⟨protectInMemory, data⟩ := binary
  cases protectInMemory with
  | true =>
      change (internContent sha256 (header.binaries.map (·.data)) data.bytes >>= _) = _
      rw [interned]
      rfl
  | false =>
      change (internContent sha256 (header.binaries.map (·.data)) data.bytes >>= _) = _
      rw [interned]
      rfl

theorem read_binaries (header : InnerHeader) {binaries : List InnerBinary}
    (apart : HashesApart sha256 (header.binaries ++ binaries)) :
    (binaries.map fun binary => ((3 : UInt8), innerBinaryBytes binary)).foldlM
        (fun header field => read sha256 header field.1 field.2) header =
      .ok { header with binaries := header.binaries ++ binaries } := by
  induction binaries generalizing header with
  | nil =>
      rw [List.append_nil]
      rfl
  | cons binary rest ih =>
      have first := @read_binary sha256 header binary fun held inside =>
        apart held (List.mem_append_left _ inside) binary (List.mem_append_right _ List.mem_cons_self)
      have split : header.binaries ++ binary :: rest = header.binaries ++ [binary] ++ rest := by simp
      rw [List.map_cons, List.foldlM_cons, first, Fallible.ok_bind, ih _ (by rw [← split]; exact apart), split]

/-- The tag whose field has one length. -/
def fieldLength (id : UInt8) : Option Nat := if id = 1 then some 4 else none

theorem read_length {header next : InnerHeader} {id : UInt8} {data : List UInt8}
    (taken : read sha256 header id data = .ok next) : ∀ len ∈ fieldLength id, data.length = len := by
  intro len fixed
  unfold read at taken
  unfold fieldLength at fixed
  by_cases is1 : id = 1
  · subst is1
    obtain ⟨_, exactly, _⟩ := Fallible.bind_ok.mp taken
    cases fixed
    exact (exactLength_ok.mp exactly).1
  · simp [is1] at fixed

/-- A key and attachments whose lengths the fields hold, and contents that are told apart. -/
structure Fits (sha256 : List UInt8 → List UInt8) (header : InnerHeader) : Prop where
  innerKey : ∀ key ∈ header.innerKey, key.length < 2 ^ 31
  binaries : ∀ binary ∈ header.binaries, binary.data.bytes.length + 1 < 2 ^ 31
  apart : HashesApart sha256 header.binaries

theorem read_fits {header next : InnerHeader} (fits : header.Fits sha256) {id : UInt8} {data : List UInt8}
    (small : data.length < 2 ^ 31) (taken : read sha256 header id data = .ok next) : next.Fits sha256 := by
  unfold read at taken
  by_cases is1 : id = 1
  · rw [if_pos is1] at taken
    obtain ⟨_, _, checked⟩ := Fallible.bind_ok.mp taken
    dsimp only at checked
    split at checked
    · cases checked
    · cases checked
      exact ⟨fits.1, fits.2, fits.3⟩
  by_cases is2 : id = 2
  · rw [if_neg is1, if_pos is2] at taken
    cases taken
    exact ⟨by simpa using small, fits.2, fits.3⟩
  by_cases is3 : id = 3
  · rw [if_neg is1, if_neg is2, if_pos is3] at taken
    cases data with
    | nil => cases taken
    | cons flag bytes =>
        dsimp only at taken
        split at taken
        · cases taken
        · obtain ⟨content, interned, same⟩ := Fallible.bind_ok.mp taken
          cases same
          obtain ⟨rfl, alone⟩ := internContent_ok fits.apart interned
          refine ⟨fits.1, fun binary member => ?_, fits.apart.append_one alone⟩
          rcases List.mem_append.mp member with old | new
          · exact fits.2 binary old
          · rw [List.mem_singleton.mp new]
            simpa using small
  · rw [if_neg is1, if_neg is2, if_neg is3] at taken
    cases taken
    exact fits

end InnerHeader

theorem parseInnerHeader_reads :
    Reads (parseInnerHeader sha256) fun header text =>
      header.innerKey.isSome ∧ FieldsCode (InnerHeader.read sha256) {} header text := by
  intro payload header rest
  unfold parseInnerHeader
  constructor
  · intro done
    obtain ⟨⟨parsed, left⟩, fields, checked⟩ := Fallible.bind_ok.mp done
    dsimp only at checked
    split at checked
    · cases checked
    · rename_i keyed
      cases checked
      rw [readInnerFields_loop] at fields
      obtain ⟨text, code, rfl⟩ := (fieldLoop_reads _).mp fields
      exact ⟨text, ⟨Option.isSome_iff_ne_none.mpr fun none => keyed (by rw [none]; rfl), code⟩, rfl⟩
  · rintro ⟨text, ⟨keyed, code⟩, rfl⟩
    rw [readInnerFields_loop]
    have fields := (fieldLoop_reads _).accepts code rest
    rw [fields]
    simp only [Fallible.ok_bind]
    rw [if_neg]
    cases key : header.innerKey with
    | none =>
        rw [key] at keyed
        cases keyed
    | some innerKey => simp

/-- An inner header is read back as long as its fields hold it. -/
theorem parseInnerHeader_build {innerKey : List UInt8} {binaries : List InnerBinary} {document : List UInt8} :
    parseInnerHeader sha256 (buildInnerHeader innerKey binaries ++ document) =
        .ok ({ innerAlgorithm := 3, innerKey := some innerKey, binaries }, document) ↔
      InnerHeader.Fits sha256 { innerKey := some innerKey, binaries } := by
  constructor
  · intro parsed
    obtain ⟨_, ⟨_, fields, _, proper, _, rfl, folded⟩, _⟩ := parseInnerHeader_reads.mp parsed
    have start : InnerHeader.Fits sha256 {} := ⟨by simp, by simp, by simp [HashesApart]⟩
    exact Fallible.foldlM_keeps
      (fun field member _ _ before taken => InnerHeader.read_fits before (proper field member).2 taken) start folded
  · intro fits
    apply parseInnerHeader_reads.accepts
    refine ⟨rfl, innerFields innerKey binaries, [], ?_, by decide, buildInnerHeader_fields innerKey binaries, ?_⟩
    · intro field member
      rcases List.mem_append.mp member with known | attached
      · simp only [List.mem_cons, List.not_mem_nil, or_false] at known
        rcases known with rfl | rfl
        · exact ⟨(by decide : (1 : UInt8) ≠ 0), by decide⟩
        · exact ⟨(by decide : (2 : UInt8) ≠ 0), fits.innerKey innerKey rfl⟩
      · obtain ⟨binary, inside, rfl⟩ := List.mem_map.mp attached
        refine ⟨(by decide : (3 : UInt8) ≠ 0), ?_⟩
        simpa [innerBinaryBytes] using fits.binaries binary inside
    · rw [innerFields, List.foldlM_append]
      have start : [((1 : UInt8), leBytes 4 3), (2, innerKey)].foldlM
          (fun header field => InnerHeader.read sha256 header field.1 field.2) ({} : InnerHeader) =
          .ok { innerAlgorithm := 3, innerKey := some innerKey } := rfl
      rw [start, Fallible.ok_bind, InnerHeader.read_binaries _ fits.apart]
      rfl

end Inner

/-! ## The header of a save -/

theorem publicDictionary_writable (vault : Vault) : (publicDictionary vault).Writable := by
  intro key value held
  unfold publicDictionary at held
  simp only [Std.ExtTreeMap.getElem?_map, Option.map_eq_some_iff] at held
  obtain ⟨bytes, _, rfl⟩ := held
  trivial

/-- What is written of the KDF: a new dictionary, or the retained one as it was loaded. -/
theorem saveKdf_dictionary {kdfParameters : Option (List UInt8)} {requested : Option SaveKdf} {salt : List UInt8}
    {profile : KdfProfile} {dictionary : VariantDictionary} (length : salt.length = 32)
    (saved : saveKdfAndDictionary kdfParameters requested salt = .ok (profile, dictionary)) :
    dictionary.Writable ∧ (∃ bytes, dictionary.encode = .ok bytes) ∧
      (dictionary.loadedEncoding = none ∧ VariantDictionary.size dictionary.items < 2 ^ 31 ∨
        ∃ raw, dictionary.loadedEncoding = some raw ∧ kdfParameters = some raw ∧
          VariantDictionary.size dictionary.items ≤ raw.length) := by
  have fresh : ∀ kdf : SaveKdf, (kdfToVariantDict (buildKdfProfile salt kdf)).Writable ∧
      (∃ bytes, (kdfToVariantDict (buildKdfProfile salt kdf)).encode = .ok bytes) ∧
      (kdfToVariantDict (buildKdfProfile salt kdf)).loadedEncoding = none ∧
      VariantDictionary.size (kdfToVariantDict (buildKdfProfile salt kdf)).items < 2 ^ 31 := by
    intro kdf
    obtain ⟨writable, plain, short⟩ := kdfToVariantDict_short kdf length
    refine ⟨writable, ⟨_, by rw [VariantDictionary.encode, plain]⟩, plain, ?_⟩
    rwa [← VariantDictionary.encodeItems_length]
  unfold saveKdfAndDictionary at saved
  split at saved
  · rename_i kdf
    cases saved
    obtain ⟨writable, written, plain⟩ := fresh kdf
    exact ⟨writable, written, .inl plain⟩
  · rename_i encoded
    obtain ⟨parameters, loaded, known⟩ := Fallible.bind_ok.mp saved
    obtain ⟨kdf, _, same⟩ := Fallible.bind_ok.mp known
    cases same
    refine ⟨VariantDictionary.decode_writable loaded, ⟨_, VariantDictionary.encode_decoded loaded⟩, .inr ⟨encoded, ?_⟩⟩
    obtain ⟨items, read, same⟩ := Fallible.bind_ok.mp loaded
    cases same
    exact ⟨rfl, rfl, VariantDictionary.decodeItems_size read⟩
  · cases saved
    obtain ⟨writable, written, plain⟩ := fresh .recommended
    exact ⟨writable, written, .inl plain⟩

/-- What `prepare_save` takes from the KDF. -/
def savedDictionary (vault : Vault) (requested : Option SaveKdf) (salt : List UInt8) : Except KdbxError VariantDictionary :=
  (saveKdfAndDictionary vault.kdfParameters requested salt).map Prod.snd

theorem prepareSave_ok {vault : Vault} {profile : SaveProfile} {kdf : Except KdbxError VariantDictionary}
    {random : SaveRandom} {header : KdbxHeader} (prepared : prepareSave vault profile kdf random = .ok header) :
    (profile.version = .v4_0 ∨ profile.version = .v4_1) ∧ ∃ kdfParameters, kdf = .ok kdfParameters ∧ header =
      { version := profile.version
        cipher := profile.cipher
        compression := profile.compression
        masterSeed := random.masterSeed
        encryptionIv := random.encryptionIv
        kdfParameters
        publicCustomData := publicDictionary vault } := by
  unfold prepareSave at prepared
  split at prepared
  · cases prepared
  · rename_i known
    obtain ⟨_, _, checked⟩ := Fallible.bind_ok.mp prepared
    split at checked
    · cases checked
    · obtain ⟨kdfParameters, given, same⟩ := Fallible.bind_ok.mp checked
      cases same
      refine ⟨?_, kdfParameters, given, rfl⟩
      by_cases oldest : profile.version = .v4_0
      · exact .inl oldest
      · exact .inr (Decidable.not_not.mp fun other => known ⟨oldest, other⟩)

/-- Lengths that are written as they are. -/
structure SaveFits (vault : Vault) (random : SaveRandom) (salt : List UInt8) : Prop where
  salt : salt.length = 32
  encryptionIv : random.encryptionIv.length < 2 ^ 31
  kdfParameters : ∀ raw, vault.kdfParameters = some raw → raw.length < 2 ^ 31
  publicCustomData : (VariantDictionary.encodeItems (publicDictionary vault).items).length < 2 ^ 31

/-- What a save prepares is a header that is written, and its lengths are those of its IV and of the public data. -/
theorem prepareSave_built {vault : Vault} {profile : SaveProfile} {requested : Option SaveKdf} {salt : List UInt8}
    {random : SaveRandom} {header : KdbxHeader} (length : salt.length = 32)
    (retained : ∀ raw, vault.kdfParameters = some raw → raw.length < 2 ^ 31)
    (prepared : prepareSave vault profile (savedDictionary vault requested salt) random = .ok header) :
    header.Buildable ∧ (∃ bytes, header.encode = .ok bytes) ∧
      (header.Fits ↔ random.encryptionIv.length < 2 ^ 31 ∧
        VariantDictionary.size (publicDictionary vault).items < 2 ^ 31) := by
  obtain ⟨version, _, given, rfl⟩ := prepareSave_ok prepared
  obtain ⟨⟨kdf, dictionary⟩, saved, rfl⟩ := Fallible.map_ok.mp given
  obtain ⟨writable, ⟨bytes, written⟩, source⟩ := saveKdf_dictionary length saved
  have loaded : ∀ raw ∈ dictionary.loadedEncoding, raw.length < 2 ^ 31 := by
    rintro raw held
    rcases source with ⟨plain, _⟩ | ⟨encoded, plain, kept, _⟩
    · rw [plain] at held
      cases held
    · rw [plain] at held
      obtain rfl := Option.some.inj held
      exact retained _ kept
  have few : VariantDictionary.size dictionary.items < 2 ^ 31 := by
    rcases source with ⟨_, few⟩ | ⟨encoded, _, kept, few⟩
    · exact few
    · exact lt_of_le_of_lt few (retained _ kept)
  have public_written : (publicDictionary vault).encode =
      .ok (VariantDictionary.encodeItems (publicDictionary vault).items) := rfl
  refine ⟨?_, ⟨_, KdbxHeader.encode_ok.mpr ⟨bytes, _, written, public_written, rfl⟩⟩, ?_⟩
  · exact
      { version
        masterSeed := random.masterSeed_length
        kdfParameters := writable
        kdfLoaded := loaded
        publicCustomData := publicDictionary_writable vault
        publicLoaded := by simp [publicDictionary]
        unknownFields := by simp }
  · exact ⟨fun fits => ⟨fits.encryptionIv, fits.publicCustomData⟩, fun fits => ⟨fits.1, few, fits.2, by simp⟩⟩

theorem prepareSave_writable {vault : Vault} {profile : SaveProfile} {requested : Option SaveKdf} {salt : List UInt8}
    {random : SaveRandom} {header : KdbxHeader} (fits : SaveFits vault random salt)
    (prepared : prepareSave vault profile (savedDictionary vault requested salt) random = .ok header) :
    header.Writable ∧ ∃ bytes, header.encode = .ok bytes := by
  obtain ⟨built, written, lengths⟩ := prepareSave_built fits.salt fits.kdfParameters prepared
  have few := fits.publicCustomData
  rw [VariantDictionary.encodeItems_length] at few
  exact ⟨built.writable (lengths.mpr ⟨fits.encryptionIv, few⟩), written⟩

/-- A save keeps the bytes of the dictionary it was loaded with. -/
theorem prepareSave_retained {vault : Vault} {profile : SaveProfile} {salt raw : List UInt8} {random : SaveRandom}
    {header : KdbxHeader} (retained : vault.kdfParameters = some raw)
    (prepared : prepareSave vault profile (savedDictionary vault none salt) random = .ok header) :
    header.kdfParameters.encode = .ok raw := by
  obtain ⟨_, dictionary, given, rfl⟩ := prepareSave_ok prepared
  obtain ⟨⟨kdf, _⟩, saved, rfl⟩ := Fallible.map_ok.mp given
  rw [retained] at saved
  obtain ⟨parameters, loaded, known⟩ := Fallible.bind_ok.mp saved
  obtain ⟨_, _, same⟩ := Fallible.bind_ok.mp known
  cases same
  exact VariantDictionary.encode_decoded loaded

/-! ## The guarantee -/

/-- Whatever a parser takes is a text, and nothing shorter at the front of the text is taken. -/
def TakesTexts {A : Type} (parse : List UInt8 → Except KdbxError (A × List UInt8)) (isText : List UInt8 → Prop) : Prop :=
  ∀ bytes a rest, parse bytes = .ok (a, rest) → ∃ text, isText text ∧ bytes = text ++ rest ∧
    ∀ short, short <+: text → short ≠ text → ∀ result, parse short ≠ .ok result

theorem takesTexts_of_reads {A : Type} {parse : List UInt8 → Except KdbxError (A × List UInt8)}
    {code : A → List UInt8 → Prop} {isText : List UInt8 → Prop} (reads : Reads parse code)
    (texts : ∀ a text, code a text → isText text) : TakesTexts parse isText := by
  intro bytes a rest done
  obtain ⟨text, written, rfl⟩ := reads.mp done
  refine ⟨text, texts a text written, rfl, ?_⟩
  rintro short cut less ⟨b, left⟩
  exact reads.refuses_cut written cut less b left

/-- Fields of their lengths up to an end mark. -/
def IsRow (fieldLength : UInt8 → Option Nat) (text : List UInt8) : Prop :=
  ∃ fields last, (∀ field ∈ fields, IsField field ∧ ∀ len ∈ fieldLength field.1, field.2.length = len) ∧
    last.length < 2 ^ 31 ∧ text = fieldsBytes fields ++ writeField 0 last

theorem isRow_of_code {S : Type} {read : S → UInt8 → List UInt8 → Except KdbxError S} {fieldLength : UInt8 → Option Nat}
    (lengths : ∀ state next id data, read state id data = .ok next → ∀ len ∈ fieldLength id, data.length = len)
    {state result : S} {text : List UInt8} (code : FieldsCode read state result text) : IsRow fieldLength text := by
  obtain ⟨fields, last, proper, fits, rfl, folded⟩ := code
  refine ⟨fields, last, fun field member => ⟨proper field member, ?_⟩, fits, rfl⟩
  obtain ⟨_, _, taken⟩ := Fallible.foldlM_each folded field member
  exact lengths _ _ _ _ taken

/-- The version of a dictionary and its items up to the end mark. -/
def dictionaryBytes (row : List RawItem) : List UInt8 := leBytes 2 0x0100 ++ (row.flatMap RawItem.bytes ++ [0])

/-- The kinds whose values are written in one length. -/
def writtenLength (kind : UInt8) : Option Nat := if kind = 0x08 then some 1 else valueLength kind

/-- Values of just their lengths, and nothing behind the end mark. -/
def ExactRow (row : List RawItem) (rest : List UInt8) : Prop :=
  rest = [] ∧ ∀ item ∈ row, ∀ len ∈ writtenLength item.kind, item.value.length = len

theorem decodeItems_takes {bytes : List UInt8} {items : BTreeMap String VariantValue}
    (done : decodeItems bytes = .ok items) :
    ∃ row rest, (∀ item ∈ row, RawItem.Fits item) ∧ bytes = dictionaryBytes row ++ rest ∧
      (ExactRow row rest ↔ rest = [] ∧ ∀ item ∈ row, item.kind = 0x08 → item.value.length = 1) ∧
      ∀ short, short <+: dictionaryBytes row → short ≠ dictionaryBytes row → ∀ result, decodeItems short ≠ .ok result := by
  obtain ⟨text, rest, code, rfl⟩ := decodeItems_ok.mp done
  have code' := code
  obtain ⟨row, proper, rfl, folded⟩ := code'
  refine ⟨row, rest, proper, by simp [dictionaryBytes], and_congr_right fun _ => ?_, ?_⟩
  · constructor
    · intro lengths item member bool
      exact lengths item member 1 (by simp [writtenLength, bool])
    · intro bools item member len fixed
      unfold writtenLength at fixed
      split at fixed
      · rename_i bool
        exact (bools item member bool).trans (Option.some.inj fixed)
      · obtain ⟨before, after, taken⟩ := Fallible.foldlM_each folded item member
        obtain ⟨_, _, valued⟩ := Fallible.bind_ok.mp taken
        obtain ⟨_, read, _⟩ := Fallible.bind_ok.mp valued
        exact decodeVariantValue_length read len fixed
  · intro short cut less result taken
    obtain ⟨text, left, code', rfl⟩ := decodeItems_ok.mp taken
    unfold dictionaryBytes at cut less
    rw [List.append_assoc] at cut less
    rw [List.prefix_append_right_inj] at cut
    have less' : text ++ left ≠ row.flatMap RawItem.bytes ++ [0] := fun same => less (by rw [same])
    exact (itemLoop_reads ∅).refuses_cut code cut less' result left ((itemLoop_reads ∅).accepts code' left)

/-- The boolean is the only kind whose values are taken in another length. -/
theorem otherLength_refused {kind : UInt8} {len : Nat} (fixed : writtenLength kind = some len) :
    (∀ value, value.length ≠ len → ∀ result, decodeVariantValue kind value ≠ .ok result) ↔ kind ≠ 0x08 := by
  constructor
  · rintro refused rfl
    cases fixed
    exact refused [1, 7] (by decide) (.bool true) rfl
  · intro other value wrong result read
    rw [writtenLength, if_neg other] at fixed
    exact wrong (decodeVariantValue_length read len fixed)

/-- Headers are read back just when their lengths are written as they are, a retained dictionary is written
back as it was loaded, and the parsers take texts of their formats only, whatever the fuel. A value of
another length than its kind has is taken for a boolean only. -/
theorem headerCodecs (sha256 : List UInt8 → List UInt8) :
    (∀ (header : KdbxHeader) (bytes : List UInt8), header.Buildable → header.encode = .ok bytes →
      ((∀ rest, ∃ read, KdbxHeader.decode (bytes ++ rest) = .ok (read, rest) ∧ KdbxHeader.Same read header) ↔
        header.Fits)) ∧
    (∀ (vault : Vault) (profile : SaveProfile) (requested : Option SaveKdf) (salt : List UInt8) (random : SaveRandom)
      (header : KdbxHeader), salt.length = 32 → (∀ raw, vault.kdfParameters = some raw → raw.length < 2 ^ 31) →
      prepareSave vault profile (savedDictionary vault requested salt) random = .ok header →
      header.Buildable ∧ (∃ bytes, header.encode = .ok bytes) ∧
        (header.Fits ↔ random.encryptionIv.length < 2 ^ 31 ∧
          VariantDictionary.size (publicDictionary vault).items < 2 ^ 31)) ∧
    (∀ (bytes rest raw : List UInt8) (loaded : KdbxHeader), KdbxHeader.decode bytes = .ok (loaded, rest) →
      loaded.kdfParameters.encode = .ok raw →
      (loaded.kdfParameters = {} ∨ writeField 11 raw <:+: bytes) ∧
      ∀ (vault : Vault) (profile : SaveProfile) (salt : List UInt8) (random : SaveRandom) (header : KdbxHeader)
        (written : List UInt8), vault.kdfParameters = some raw →
        prepareSave vault profile (savedDictionary vault none salt) random = .ok header →
        header.encode = .ok written →
        header.kdfParameters.items = loaded.kdfParameters.items ∧ writeField 11 raw <:+: written) ∧
    (∀ (innerKey : List UInt8) (binaries : List InnerBinary) (document : List UInt8),
      parseInnerHeader sha256 (buildInnerHeader innerKey binaries ++ document) =
          .ok ({ innerAlgorithm := 3, innerKey := some innerKey, binaries }, document) ↔
        innerKey.length < 2 ^ 31 ∧ (∀ binary ∈ binaries, binary.data.bytes.length + 1 < 2 ^ 31) ∧
          HashesApart sha256 binaries) ∧
    TakesTexts KdbxHeader.decode (fun text => ∃ number row, number < 2 ^ 32 ∧ IsRow KdbxHeader.fieldLength row ∧
      text = signature ++ leBytes 4 number ++ row) ∧
    TakesTexts (parseInnerHeader sha256) (IsRow InnerHeader.fieldLength) ∧
    (∀ (bytes : List UInt8) (items : BTreeMap String VariantValue), decodeItems bytes = .ok items →
      ∃ row rest, (∀ item ∈ row, RawItem.Fits item) ∧ bytes = dictionaryBytes row ++ rest ∧
        (ExactRow row rest ↔ rest = [] ∧ ∀ item ∈ row, item.kind = 0x08 → item.value.length = 1) ∧
        ∀ short, short <+: dictionaryBytes row → short ≠ dictionaryBytes row →
          ∀ result, decodeItems short ≠ .ok result) ∧
    (∀ (kind : UInt8) (len : Nat), writtenLength kind = some len →
      ((∀ value, value.length ≠ len → ∀ result, decodeVariantValue kind value ≠ .ok result) ↔ kind ≠ 0x08)) ∧
    (∀ (bytes : List UInt8) (fuel : Nat), bytes.length < fuel →
      (∀ header, KdbxHeader.readFields fuel header bytes = KdbxHeader.readFields (bytes.length + 1) header bytes) ∧
      (∀ header, readInnerFields sha256 fuel header bytes = readInnerFields sha256 (bytes.length + 1) header bytes) ∧
      ∀ items, decodeItemLoop fuel items bytes = decodeItemLoop (bytes.length + 1) items bytes) := by
  refine ⟨?_, ?_, ?_, ?_, ?_, ?_, ?_, ?_, ?_⟩
  · intro header bytes built written
    exact KdbxHeader.readBack_iff built written
  · intro vault profile requested salt random header length retained prepared
    exact prepareSave_built length retained prepared
  · intro bytes rest raw loaded decoded encoded
    obtain ⟨items, inside⟩ := KdbxHeader.decode_kdfParameters decoded encoded
    refine ⟨inside, ?_⟩
    intro vault profile salt random header written retained prepared saved
    have kept := prepareSave_retained retained prepared
    refine ⟨?_, KdbxHeader.encode_kdfParameters saved kept⟩
    obtain ⟨_, dictionary, given, rfl⟩ := prepareSave_ok prepared
    obtain ⟨⟨kdf, _⟩, state, rfl⟩ := Fallible.map_ok.mp given
    rw [retained] at state
    obtain ⟨parameters, read, known⟩ := Fallible.bind_ok.mp state
    obtain ⟨_, _, same⟩ := Fallible.bind_ok.mp known
    cases same
    obtain ⟨held, again, same⟩ := Fallible.bind_ok.mp read
    cases same
    exact Except.ok.inj (again.symm.trans items)
  · intro innerKey binaries document
    rw [parseInnerHeader_build]
    exact ⟨fun fits => ⟨fits.innerKey innerKey rfl, fits.binaries, fits.apart⟩,
      fun ⟨key, fits, apart⟩ => ⟨by simpa using key, fits, apart⟩⟩
  · apply takesTexts_of_reads KdbxHeader.decode_reads
    rintro header text ⟨number, version, row, small, _, _, code, rfl⟩
    exact ⟨number, row, small, @isRow_of_code _ KdbxHeader.read _ (fun _ _ _ _ => KdbxHeader.read_length) _ _ _ code, rfl⟩
  · apply takesTexts_of_reads parseInnerHeader_reads
    rintro header text ⟨_, code⟩
    exact @isRow_of_code _ (InnerHeader.read sha256) _ (fun _ _ _ _ => InnerHeader.read_length) _ _ _ code
  · intro bytes items done
    exact decodeItems_takes done
  · intro kind len fixed
    exact otherLength_refused fixed
  · intro bytes fuel enough
    refine ⟨?_, ?_, fun items => decodeItemLoop_fuel enough⟩
    · intro header
      rw [readFields_loop, readFields_loop]
      exact fieldLoop_fuel enough
    · intro header
      rw [readInnerFields_loop, readInnerFields_loop]
      exact fieldLoop_fuel enough

/-! ### A header with a KDF, public data and an unknown field -/

def storedHeader : KdbxHeader :=
  { version := .v4_0
    cipher := .twofish
    compression := .none
    masterSeed := List.replicate 32 3
    encryptionIv := List.replicate 16 7
    kdfParameters := kdfToVariantDict (.aesKdbx4 60000 (List.replicate 32 5))
    publicCustomData := { items := BTreeMap.lastWins [("site", .bytes [1, 2, 3])] }
    unknownFields := [{ id := 0x20, data := [9, 9] }] }

theorem storedHeader_built : storedHeader.Buildable where
  version := .inl rfl
  masterSeed := rfl
  kdfParameters := (aes_short 60000 (List.length_replicate)).1
  kdfLoaded := by
    intro raw held
    cases held
  publicCustomData := VariantDictionary.lastWins_writable (by simp [VariantValue.Writable])
  publicLoaded := by
    intro raw held
    cases held
  unknownFields := by simp [storedHeader]

theorem storedHeader_fits : storedHeader.Fits where
  encryptionIv := by decide
  kdfParameters := by
    rw [← VariantDictionary.encodeItems_length]
    exact (aes_short 60000 (List.length_replicate)).2.2
  publicCustomData := by decide +kernel
  unknownFields := by simp [storedHeader]

/-- The file's header, and its dictionary of the KDF. -/
def storedBytes : List UInt8 := storedHeader.encode.toOption.getD []

def storedKdf : List UInt8 := VariantDictionary.encodeItems storedHeader.kdfParameters.items

/-- A vault that was loaded with the dictionary. -/
def retainedVault : Vault :=
  { name := "mail"
    root := { id := 1, title := "Root" }
    kdfParameters := some storedKdf }

def storedSeeds : SaveRandom where
  masterSeed := List.replicate 32 6
  encryptionIv := List.replicate 16 2
  innerKey := List.replicate 64 4
  masterSeed_length := rfl
  innerKey_length := rfl

/-- The SHA-256 of `[1, 2, 3]`, and of the bytes of `key`. -/
def contentDigests (bytes : List UInt8) : List UInt8 :=
  if bytes = [1, 2, 3] then [
    3, 144, 88, 198, 242, 192, 203, 73, 44, 83, 59, 10, 77, 20, 239, 119, 204, 15, 120, 171, 204, 206, 213, 40,
    125, 132, 161, 162, 1, 28, 251, 129]
  else [
    44, 112, 225, 43, 122, 6, 70, 249, 34, 121, 244, 39, 199, 179, 142, 115, 52, 216, 229, 56, 156, 255, 22, 122,
    29, 195, 14, 115, 248, 38, 182, 131]

theorem contentDigests_length (bytes : List UInt8) : (contentDigests bytes).length = 32 := by
  unfold contentDigests
  split <;> rfl

/-- One content with both protections, and another. -/
def storedBinaries : List InnerBinary :=
  [⟨true, ⟨[1, 2, 3]⟩⟩, ⟨false, ⟨[1, 2, 3]⟩⟩, ⟨true, ⟨"key".toUTF8.toList⟩⟩]

theorem headerCodecs_stored :
    (∃ read, KdbxHeader.decode (storedBytes ++ [9]) = .ok (read, [9]) ∧ KdbxHeader.Same read storedHeader) ∧
    (∃ header written, prepareSave retainedVault ⟨.v4_1, .chaCha20, .gzip⟩
        (savedDictionary retainedVault none (List.replicate 32 0)) storedSeeds = .ok header ∧
      header.Buildable ∧ header.encode = .ok written ∧ writeField 11 storedKdf <:+: storedBytes ∧
      writeField 11 storedKdf <:+: written) ∧
    parseInnerHeader contentDigests (buildInnerHeader (List.replicate 64 4) storedBinaries ++ [60]) =
      .ok ({ innerAlgorithm := 3, innerKey := some (List.replicate 64 4), binaries := storedBinaries }, [60]) ∧
    decodeVariantValue 0x0C [1, 0, 0, 0, 0] ≠ .ok (.int32 1) := by
  obtain ⟨readBack, built, retained, inner, _, _, _, kinds, _⟩ := headerCodecs contentDigests
  have written : storedHeader.encode = .ok storedBytes := by
    have made : storedHeader.encode.toBool = true := by decide +kernel
    unfold storedBytes
    cases encoded : storedHeader.encode with
    | error e =>
        rw [encoded] at made
        cases made
    | ok bytes => rfl
  have loaded : (KdbxHeader.decode storedBytes).toOption.bind (fun result => result.1.kdfParameters.encode.toOption) =
      some storedKdf := by decide +kernel
  obtain ⟨⟨header, rest⟩, decoded, kept⟩ := Option.bind_eq_some_iff.mp loaded
  have prepared : (prepareSave retainedVault ⟨.v4_1, .chaCha20, .gzip⟩
      (savedDictionary retainedVault none (List.replicate 32 0)) storedSeeds).toBool = true := by decide +kernel
  refine ⟨(readBack storedHeader storedBytes storedHeader_built written).mpr storedHeader_fits [9], ?_,
    (inner _ _ _).mpr ⟨by decide, by decide +kernel, by unfold HashesApart; decide +kernel⟩,
    (kinds 0x0C 4 rfl).mpr (by decide) _ (by decide) _⟩
  cases saved : prepareSave retainedVault ⟨.v4_1, .chaCha20, .gzip⟩
      (savedDictionary retainedVault none (List.replicate 32 0)) storedSeeds with
  | error e =>
      rw [saved] at prepared
      cases prepared
  | ok again =>
      have small : storedKdf.length < 2 ^ 31 := by decide +kernel
      obtain ⟨fits, ⟨bytes, encoded⟩, _⟩ := built _ _ _ _ _ again (by rw [List.length_replicate])
        (fun raw same => by cases same; exact small) saved
      obtain ⟨inside, saves⟩ := retained storedBytes rest storedKdf header (Fallible.toOption_some decoded)
        (Fallible.toOption_some kept)
      obtain ⟨_, carried⟩ := saves _ _ _ _ again bytes rfl saved encoded
      refine ⟨again, bytes, rfl, fits, encoded, ?_, carried⟩
      rcases inside with none | inside
      · rw [none] at kept
        exact absurd kept (by decide +kernel)
      · exact inside

/-! ### What is not refused -/

/-- A boolean of two bytes. -/
def longBool : List UInt8 := [0, 1, 8, 1, 0, 0, 0, 97, 2, 0, 0, 0, 1, 7, 0]

/-- An over-long boolean is accepted. -/
theorem longBool_accepted :
    (decodeItems longBool).toOption.map (·.toList) = some [("a", .bool true)] := by decide +kernel

end VaultKern.Kdbx
