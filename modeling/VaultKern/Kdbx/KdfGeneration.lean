import VaultKern.Kdbx.Dictionaries

/-! # KDF generations

The generation of a KDF is the hash of its dictionary in a canonical form: the entries in the order
of their keys, each with the lengths of its key and its value. A file of KDBX 3 has its seed and its
rounds put into such a dictionary.
-/

namespace VaultKern.Kdbx

/-- The tag-generic encoder. An entry is a key, a type tag and the bytes of a value. -/
def canonicalKdfEntries (entries : List (String × UInt8 × List UInt8)) : List UInt8 :=
  entries.flatMap fun (key, tag, value) => sized key.toUTF8.toList ++ (tag :: sized value)

/-- The entries of a dictionary as they are encoded. -/
def VariantDictionary.encodedEntries (params : VariantDictionary) : List (String × UInt8 × List UInt8) :=
  params.items.toList.map fun (key, value) => (key, encodeVariantValue value)

def canonicalKdfParams (params : VariantDictionary) : List UInt8 := canonicalKdfEntries params.encodedEntries

def kdfGeneration (sha256Bytes : List UInt8 → List UInt8) (params : VariantDictionary) : List UInt8 :=
  sha256Bytes (canonicalKdfParams params)

def kdbx3CanonicalKdfParams (transformSeed : List UInt8) (transformRounds : UInt64) : VariantDictionary :=
  ((VariantDictionary.insert {} "$UUID" (.bytes kdfAesKdbx3Uuid)).insert "R" (.uInt64 transformRounds)).insert "S"
    (.bytes transformSeed)

/-! ## What the canonical form tells -/

/-- Keys and values of less than four gibibytes. -/
def VariantDictionary.Sized (params : VariantDictionary) : Prop :=
  ∀ (key : String) (value : VariantValue), params.items[key]? = some value →
    key.toUTF8.toList.length < 2 ^ 32 ∧ (encodeVariantValue value).2.length < 2 ^ 32

/-- No unknown value has a known tag. -/
def VariantDictionary.Typed (params : VariantDictionary) : Prop :=
  ∀ (key : String) (value : VariantValue), params.items[key]? = some value → value.Typed

open Framing

def SizedCode (data text : List UInt8) : Prop := data.length < 2 ^ 32 ∧ text = sized data

theorem sizedCode_delimits : Delimits SizedCode := by
  rintro first second s t x y ⟨left, rfl⟩ ⟨right, rfl⟩ same
  have lengths : (leBytes 4 first.length).length = (leBytes 4 second.length).length := by simp
  rw [sized, sized, List.append_assoc, List.append_assoc] at same
  obtain ⟨numbers, later⟩ := List.append_inj same lengths
  have equal : first.length = second.length := by
    have number := congrArg natOfLeBytes numbers
    rwa [natOfLeBytes_small left, natOfLeBytes_small right] at number
  exact List.append_inj later equal

def EntryCode (entry : String × UInt8 × List UInt8) (text : List UInt8) : Prop :=
  entry.1.toUTF8.toList.length < 2 ^ 32 ∧ entry.2.2.length < 2 ^ 32 ∧
    text = sized entry.1.toUTF8.toList ++ (entry.2.1 :: sized entry.2.2)

theorem entryCode_delimits : Delimits EntryCode := by
  rintro ⟨key, tag, value⟩ ⟨key', tag', value'⟩ s t x y ⟨short, fits, rfl⟩ ⟨short', fits', rfl⟩ same
  rw [List.append_assoc, List.append_assoc] at same
  obtain ⟨keys, later⟩ := sizedCode_delimits ⟨short, rfl⟩ ⟨short', rfl⟩ same
  obtain ⟨tags, later⟩ := List.cons.inj later
  obtain ⟨values, rests⟩ := sizedCode_delimits ⟨fits, rfl⟩ ⟨fits', rfl⟩ later
  have names : key = key' := Utf8.bytes_injective keys
  have tags' : tag = tag' := tags
  have values' : value = value' := values
  rw [names, tags', values', rests]
  exact ⟨rfl, rfl⟩

theorem entryCode_visible (entry : String × UInt8 × List UInt8) (text : List UInt8) (code : EntryCode entry text) :
    text ≠ [] := by
  obtain ⟨_, _, rfl⟩ := code
  simp

theorem canonicalKdfEntries_injective {first second : List (String × UInt8 × List UInt8)}
    (left : ∀ entry ∈ first, entry.1.toUTF8.toList.length < 2 ^ 32 ∧ entry.2.2.length < 2 ^ 32)
    (right : ∀ entry ∈ second, entry.1.toUTF8.toList.length < 2 ^ 32 ∧ entry.2.2.length < 2 ^ 32)
    (same : canonicalKdfEntries first = canonicalKdfEntries second) : first = second := by
  apply Items.unique entryCode_delimits entryCode_visible _ _ same
  · exact Items.flatMap fun entry member => ⟨(left entry member).1, (left entry member).2, rfl⟩
  · exact Items.flatMap fun entry member => ⟨(right entry member).1, (right entry member).2, rfl⟩

namespace VariantDictionary

variable {first second : VariantDictionary}

theorem Sized.entries {params : VariantDictionary} (sizes : params.Sized) :
    ∀ entry ∈ params.encodedEntries, entry.1.toUTF8.toList.length < 2 ^ 32 ∧ entry.2.2.length < 2 ^ 32 := by
  intro entry member
  obtain ⟨⟨key, value⟩, inside, rfl⟩ := List.mem_map.mp member
  exact sizes key value (Std.ExtTreeMap.mem_toList_iff_getElem?_eq_some.mp inside)

/-- The encodings of the items under each key. -/
theorem encodedEntries_lookup (same : first.encodedEntries = second.encodedEntries) (key : String) :
    first.items[key]?.map encodeVariantValue = second.items[key]?.map encodeVariantValue := by
  have encodings : ∀ params : VariantDictionary,
      params.items[key]?.map encodeVariantValue = (BTreeMap.lastWins params.encodedEntries)[key]? := by
    intro params
    rw [encodedEntries, BTreeMap.lastWins_map, BTreeMap.lastWins_toList]
  rw [encodings, encodings, same]

end VariantDictionary

/-- The canonical form tells the keys, the tags and the bytes of the values. -/
theorem canonicalKdfParams_eq {first second : VariantDictionary} (left : first.Sized) (right : second.Sized) :
    canonicalKdfParams first = canonicalKdfParams second ↔ first.encodedEntries = second.encodedEntries := by
  constructor
  · exact canonicalKdfEntries_injective left.entries right.entries
  · intro same
    rw [canonicalKdfParams, same, canonicalKdfParams]

theorem encodeVariantValue_injective {first second : VariantValue} (left : first.Typed) (right : second.Typed)
    (same : encodeVariantValue first = encodeVariantValue second) : first = second := by
  have read := decodeVariantValue_encode left
  rw [same, decodeVariantValue_encode right] at read
  exact (Except.ok.inj read).symm

/-- It tells the values and their types, if no unknown value has the tag of a known type. -/
theorem canonicalKdfParams_typed {first second : VariantDictionary} (left : first.Sized) (right : second.Sized)
    (typed : first.Typed) (typed' : second.Typed) :
    canonicalKdfParams first = canonicalKdfParams second ↔ first.items = second.items := by
  rw [canonicalKdfParams_eq left right]
  constructor
  · intro same
    apply Std.ExtTreeMap.ext_getElem?
    intro key
    have encodings := VariantDictionary.encodedEntries_lookup same key
    cases here : first.items[key]? with
    | none =>
        rw [here] at encodings
        exact (Option.map_eq_none_iff.mp encodings.symm).symm
    | some value =>
        rw [here] at encodings
        obtain ⟨value', there, equal⟩ := Option.map_eq_some_iff.mp encodings.symm
        rw [there, encodeVariantValue_injective (typed' key value' there) (typed key value here) equal]
  · intro same
    rw [VariantDictionary.encodedEntries, same, VariantDictionary.encodedEntries]

end VaultKern.Kdbx
