import VaultKern.Guarantees.HeaderCodecs
import VaultKern.Kdbx.KdfGeneration

/-! # Generations identify KDF parameters

Dictionaries have the same canonical form when they are the same dictionary, those of KDBX 3 have
a form of their own, and a header that is parsed and encoded again keeps its generation.
-/

namespace VaultKern.Kdbx

/-! ## KDBX 3 -/

theorem kdbx3_items (seed : List UInt8) (rounds : UInt64) :
    (kdbx3CanonicalKdfParams seed rounds).items =
      BTreeMap.lastWins [("$UUID", .bytes kdfAesKdbx3Uuid), ("R", .uInt64 rounds), ("S", .bytes seed)] := rfl

theorem kdbx3_member {seed : List UInt8} {rounds : UInt64} {key : String} {value : VariantValue}
    (held : (kdbx3CanonicalKdfParams seed rounds).items[key]? = some value) :
    (key, value) ∈ [("$UUID", VariantValue.bytes kdfAesKdbx3Uuid), ("R", .uInt64 rounds), ("S", .bytes seed)] := by
  rw [kdbx3_items] at held
  exact BTreeMap.mem_of_lastWins held

theorem kdbx3_lookup (seed : List UInt8) (rounds : UInt64) {key : String} {value : VariantValue}
    (member : (key, value) ∈ [("$UUID", VariantValue.bytes kdfAesKdbx3Uuid), ("R", .uInt64 rounds), ("S", .bytes seed)]) :
    (kdbx3CanonicalKdfParams seed rounds).items[key]? = some value := by
  rw [kdbx3_items]
  exact BTreeMap.lastWins_of_mem (by simp) member

theorem kdbx3_sized {seed : List UInt8} (length : seed.length = 32) (rounds : UInt64) :
    (kdbx3CanonicalKdfParams seed rounds).Sized := by
  intro key value held
  have names : (["$UUID", "R", "S"].map fun name => name.toUTF8.toList.length) = [5, 1, 1] := by decide +kernel
  simp only [List.map_cons, List.map_nil, List.cons.injEq, and_true] at names
  obtain ⟨uuid, r, s⟩ := names
  have member := kdbx3_member held
  simp only [List.mem_cons, Prod.mk.injEq, List.not_mem_nil, or_false] at member
  rcases member with ⟨rfl, rfl⟩ | ⟨rfl, rfl⟩ | ⟨rfl, rfl⟩
  · exact ⟨by rw [uuid]; decide, by decide⟩
  · exact ⟨by rw [r]; decide, by simp [encodeVariantValue]⟩
  · exact ⟨by rw [s]; decide, by rw [encodeVariantValue]; dsimp only; rw [length]; decide⟩

theorem kdbx3_determined {seed seed' : List UInt8} {rounds rounds' : UInt64} (length : seed.length = 32)
    (length' : seed'.length = 32) (same : canonicalKdfParams (kdbx3CanonicalKdfParams seed rounds) =
      canonicalKdfParams (kdbx3CanonicalKdfParams seed' rounds')) : seed = seed' ∧ rounds = rounds' := by
  have entries := (canonicalKdfParams_eq (kdbx3_sized length rounds) (kdbx3_sized length' rounds')).mp same
  have lookup := VariantDictionary.encodedEntries_lookup entries
  constructor
  · have seeds := lookup "S"
    rw [@kdbx3_lookup _ _ "S" (.bytes seed) (by simp), @kdbx3_lookup _ _ "S" (.bytes seed') (by simp)] at seeds
    exact VariantValue.bytes.inj (encodeVariantValue_injective trivial trivial (Option.some.inj seeds))
  · have counts := lookup "R"
    rw [@kdbx3_lookup _ _ "R" (.uInt64 rounds) (by simp), @kdbx3_lookup _ _ "R" (.uInt64 rounds') (by simp)] at counts
    exact VariantValue.uInt64.inj (encodeVariantValue_injective trivial trivial (Option.some.inj counts))

def kdbx4KdfUuids : List (List UInt8) := [kdfAesKdbx4Uuid, kdfArgon2dUuid, kdfArgon2idUuid]

/-- A dictionary under a UUID of KDBX 4 has another form. -/
theorem kdbx3_apart {params : VariantDictionary} (sizes : params.Sized) {value : VariantValue}
    (held : params.items["$UUID"]? = some value) (newer : (encodeVariantValue value).2 ∈ kdbx4KdfUuids)
    {seed : List UInt8} (length : seed.length = 32) (rounds : UInt64) :
    canonicalKdfParams params ≠ canonicalKdfParams (kdbx3CanonicalKdfParams seed rounds) := by
  intro same
  have entries := (canonicalKdfParams_eq sizes (kdbx3_sized length rounds)).mp same
  have uuids := VariantDictionary.encodedEntries_lookup entries "$UUID"
  rw [held, @kdbx3_lookup seed rounds "$UUID" (.bytes kdfAesKdbx3Uuid) (by simp)] at uuids
  rw [show (encodeVariantValue value).2 = kdfAesKdbx3Uuid from congrArg Prod.snd (Option.some.inj uuids)] at newer
  exact absurd newer (by decide)

/-! ## Dictionaries that are made for a save -/

theorem Short.sized {params : VariantDictionary} (short : Short params) : params.Sized := by
  obtain ⟨writable, _, fits⟩ := short
  intro key value held
  have member := Std.ExtTreeMap.mem_toList_iff_getElem?_eq_some.mpr held
  obtain ⟨_, name, bytes⟩ := VariantDictionary.rawItem_fits (VariantDictionary.writable_toList writable) fits _
    (List.mem_map_of_mem member)
  exact ⟨lt_trans name (by decide), lt_trans bytes (by decide)⟩

theorem Short.typed {params : VariantDictionary} (short : Short params) : params.Typed :=
  fun key value held => (short.1 key value held).typed

/-! ## Headers that were read -/

namespace VariantDictionary

theorem decode_sized {bytes : List UInt8} {dictionary : VariantDictionary}
    (read : VariantDictionary.decode bytes = .ok dictionary) : dictionary.Sized := by
  refine decode_each ?_ read
  intro item fits name value named valued
  have shorter := decodeVariantValue_shorter valued
  obtain ⟨_, short, small⟩ := fits
  rw [decodeUtf8_ok named]
  exact ⟨by omega, by omega⟩

end VariantDictionary

namespace KdbxHeader

/-- A header that can be written, with a dictionary that its canonical form tells. -/
structure Parsed (header : KdbxHeader) : Prop where
  writable : header.Writable
  sizes : header.kdfParameters.Sized
  encodes : ∃ bytes, header.kdfParameters.encode = .ok bytes
  publicEncodes : ∃ bytes, header.publicCustomData.encode = .ok bytes

theorem noItems_short : (VariantDictionary.encodeItems ∅).length < 2 ^ 31 := by decide +kernel

theorem new_parsed {version : KdbxVersion} (known : version = .v4_1 ∨ version = .v4_0) :
    ({ version } : KdbxHeader).Parsed where
  writable := {
    version := known.symm
    masterSeed := List.length_replicate
    encryptionIv := by simp
    kdfParameters := by simp [VariantDictionary.Writable]
    kdfFits := by
      intro bytes written
      cases written
      exact noItems_short
    publicCustomData := by simp [VariantDictionary.Writable]
    publicFits := by
      intro bytes written
      cases written
      exact noItems_short
    unknownFields := by simp }
  sizes := by simp [VariantDictionary.Sized]
  encodes := ⟨_, rfl⟩
  publicEncodes := ⟨_, rfl⟩

/-- One field keeps what can be written. -/
theorem read_parsed {header next : KdbxHeader} {id : UInt8} {data : List UInt8} (proper : IsField (id, data))
    (taken : read header id data = .ok next) (parsed : header.Parsed) : next.Parsed := by
  obtain ⟨writable, sizes, encodes, publicEncodes⟩ := parsed
  cases read_cases taken with
  | cipher | compression => exact ⟨{ writable with }, sizes, encodes, publicEncodes⟩
  | masterSeed length => exact ⟨{ writable with masterSeed := length }, sizes, encodes, publicEncodes⟩
  | encryptionIv => exact ⟨{ writable with encryptionIv := proper.2 }, sizes, encodes, publicEncodes⟩
  | kdfParameters tag decoded =>
      have kept := VariantDictionary.encode_decoded decoded
      refine ⟨{ writable with kdfParameters := VariantDictionary.decode_writable decoded, kdfFits := ?_ },
        VariantDictionary.decode_sized decoded, ⟨data, kept⟩, publicEncodes⟩
      intro bytes written
      obtain rfl := Except.ok.inj (kept.symm.trans written)
      exact proper.2
  | publicCustomData decoded =>
      have kept := VariantDictionary.encode_decoded decoded
      refine ⟨{ writable with publicCustomData := VariantDictionary.decode_writable decoded, publicFits := ?_ },
        sizes, encodes, ⟨data, kept⟩⟩
      intro bytes written
      obtain rfl := Except.ok.inj (kept.symm.trans written)
      exact proper.2
  | unknownField other =>
      refine ⟨{ writable with unknownFields := ?_ }, sizes, encodes, publicEncodes⟩
      intro field member
      rcases List.mem_append.mp member with old | new
      · exact writable.unknownFields field old
      · obtain rfl := List.mem_singleton.mp new
        have mark : id ≠ 0 := proper.1
        refine ⟨?_, proper.2⟩
        simp only [List.mem_cons, not_or] at other ⊢
        exact ⟨mark, other⟩

theorem fields_parsed {fields : List (UInt8 × List UInt8)} {start result : KdbxHeader}
    (proper : ∀ field ∈ fields, IsField field) (parsed : start.Parsed)
    (folded : fields.foldlM (fun header field => read header field.1 field.2) start = .ok result) : result.Parsed := by
  induction fields generalizing start with
  | nil =>
      cases folded
      exact parsed
  | cons field fields ih =>
      rw [List.foldlM_cons] at folded
      obtain ⟨next, taken, folded⟩ := Fallible.bind_ok.mp folded
      have parsed := read_parsed (proper field List.mem_cons_self) taken parsed
      exact ih (fun other member => proper other (List.mem_cons_of_mem field member)) parsed folded

theorem decode_parsed {bytes rest : List UInt8} {header : KdbxHeader}
    (decoded : KdbxHeader.decode bytes = .ok (header, rest)) : header.Parsed := by
  obtain ⟨text, ⟨_, version, row, _, _, known, ⟨fields, _, proper, _, rfl, folded⟩, rfl⟩, rfl⟩ :=
    decode_reads.mp decoded
  exact fields_parsed proper (new_parsed known) folded

/-- What was read is written, and read again with the same items. -/
theorem decode_again {bytes rest : List UInt8} {header : KdbxHeader}
    (decoded : KdbxHeader.decode bytes = .ok (header, rest)) :
    ∃ written again, header.encode = .ok written ∧ KdbxHeader.decode written = .ok (again, []) ∧ again.Same header := by
  obtain ⟨writable, _, ⟨kdf, kdf_written⟩, publicData, public_written⟩ := decode_parsed decoded
  have encoded := encode_ok.mpr ⟨kdf, publicData, kdf_written, public_written, rfl⟩
  obtain ⟨kdf', publicData', code⟩ := code_encode writable encoded
  have reread := decode_reads.accepts code []
  rw [List.append_nil] at reread
  exact ⟨_, _, encoded, reread, header.loaded_same kdf' publicData'⟩

end KdbxHeader

/-! ## The generation -/

/-- The canonical form tells the keys, the tags and the bytes of a dictionary, and its values where no
unknown value has the tag of a known type, as in every dictionary that is read from a header or made for a
save. The one of KDBX 3 tells the seed and the rounds, and is none of KDBX 4. A header that is read and written keeps its
generation. -/
theorem kdfGeneration_identifies :
    (∀ first second : VariantDictionary, first.Sized → second.Sized →
      (canonicalKdfParams first = canonicalKdfParams second ↔ first.encodedEntries = second.encodedEntries)) ∧
    (∀ first second : VariantDictionary, first.Sized → second.Sized → first.Typed → second.Typed →
      (canonicalKdfParams first = canonicalKdfParams second ↔ first.items = second.items)) ∧
    (∀ (bytes rest : List UInt8) (header : KdbxHeader), KdbxHeader.decode bytes = .ok (header, rest) →
      header.kdfParameters.Sized ∧ header.kdfParameters.Typed) ∧
    (∀ (requested : SaveKdf) (salt : List UInt8), salt.length = 32 →
      (kdfToVariantDict (buildKdfProfile salt requested)).Sized ∧
        (kdfToVariantDict (buildKdfProfile salt requested)).Typed) ∧
    (∀ (seed seed' : List UInt8) (rounds rounds' : UInt64), seed.length = 32 → seed'.length = 32 →
      canonicalKdfParams (kdbx3CanonicalKdfParams seed rounds) =
        canonicalKdfParams (kdbx3CanonicalKdfParams seed' rounds') → seed = seed' ∧ rounds = rounds') ∧
    (∀ (params : VariantDictionary) (value : VariantValue) (seed : List UInt8) (rounds : UInt64), params.Sized →
      params.items["$UUID"]? = some value → (encodeVariantValue value).2 ∈ kdbx4KdfUuids → seed.length = 32 →
      canonicalKdfParams params ≠ canonicalKdfParams (kdbx3CanonicalKdfParams seed rounds)) ∧
    (∀ (bytes rest : List UInt8) (header : KdbxHeader), KdbxHeader.decode bytes = .ok (header, rest) →
      ∃ written again, header.encode = .ok written ∧ KdbxHeader.decode written = .ok (again, []) ∧
        canonicalKdfParams again.kdfParameters = canonicalKdfParams header.kdfParameters ∧
        ∀ sha256Bytes, kdfGeneration sha256Bytes again.kdfParameters = kdfGeneration sha256Bytes header.kdfParameters) := by
  refine ⟨?_, ?_, ?_, ?_, ?_, ?_, ?_⟩
  · intro first second left right
    exact canonicalKdfParams_eq left right
  · intro first second left right typed typed'
    exact canonicalKdfParams_typed left right typed typed'
  · intro bytes rest header decoded
    have parsed := KdbxHeader.decode_parsed decoded
    exact ⟨parsed.sizes, fun key value held => (parsed.writable.kdfParameters key value held).typed⟩
  · intro requested salt length
    exact ⟨(kdfToVariantDict_short requested length).sized, (kdfToVariantDict_short requested length).typed⟩
  · intro seed seed' rounds rounds' length length' same
    exact kdbx3_determined length length' same
  · intro params value seed rounds sizes held newer length
    exact kdbx3_apart sizes held newer length rounds
  · intro bytes rest header decoded
    obtain ⟨written, again, encoded, reread, same⟩ := KdbxHeader.decode_again decoded
    have canonical : canonicalKdfParams again.kdfParameters = canonicalKdfParams header.kdfParameters := by
      rw [canonicalKdfParams, VariantDictionary.encodedEntries, same.kdfParameters]
      rfl
    exact ⟨written, again, encoded, reread, canonical, fun sha256Bytes => congrArg sha256Bytes canonical⟩

/-- Other rounds have another form, and so has the KDF that is recommended. -/
theorem kdfGeneration_identifies_rounds :
    canonicalKdfParams (kdbx3CanonicalKdfParams (List.replicate 32 0) 1) ≠
        canonicalKdfParams (kdbx3CanonicalKdfParams (List.replicate 32 0) 2) ∧
      canonicalKdfParams (kdfToVariantDict (buildKdfProfile (List.replicate 32 0) .recommended)) ≠
        canonicalKdfParams (kdbx3CanonicalKdfParams (List.replicate 32 0) 1) := by
  obtain ⟨_, _, _, made, determined, apart, _⟩ := kdfGeneration_identifies
  constructor
  · intro same
    exact absurd (determined _ _ 1 2 rfl rfl same).2 (by decide)
  · exact apart _ (.bytes kdfArgon2idUuid) _ 1 (made .recommended _ rfl).1 (by decide +kernel) (by decide) rfl

/-- Bytes, and the same bytes as an unknown value with the tag of bytes. -/
theorem mislabelled_same :
    canonicalKdfParams { items := BTreeMap.lastWins [("a", .bytes [1])] } =
        canonicalKdfParams { items := BTreeMap.lastWins [("a", .unknown 0x42 [1])] } ∧
      BTreeMap.lastWins [("a", VariantValue.bytes [1])] ≠ BTreeMap.lastWins [("a", .unknown 0x42 [1])] := by
  constructor
  · decide +kernel
  · intro same
    have listed := (BTreeMap.lastWins_eq_iff (by simp) (by simp)).mp same
    simp at listed

end VaultKern.Kdbx
