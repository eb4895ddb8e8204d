import VaultKern.Kdbx.Fields
import VaultKern.Kdbx.Kdf
import VaultKern.Lib.Utf8

/-! # Dictionaries read back

A dictionary is read back as it was written, and one that was loaded is written back as it
was. The dictionary of a KDF is one of these.
-/

namespace VaultKern.Kdbx

open Reading

/-! ## Values -/

/-- A value that does not carry the kind of another as an unknown one. -/
def VariantValue.Typed : VariantValue → Prop
  | .unknown typeTag _ => typeTag ∉ [0x04, 0x05, 0x08, 0x0C, 0x0D, 0x18, 0x42]
  | _ => True

/-- Nor the end mark. -/
def VariantValue.Writable : VariantValue → Prop
  | .unknown typeTag _ => typeTag ∉ [0x00, 0x04, 0x05, 0x08, 0x0C, 0x0D, 0x18, 0x42]
  | _ => True

theorem VariantValue.Writable.typed {value : VariantValue} (writable : value.Writable) : value.Typed := by
  cases value with
  | unknown typeTag bytes => exact fun known => writable (List.mem_cons_of_mem _ known)
  | _ => trivial

theorem exactLength_ok {len : Nat} {bytes word : List UInt8} :
    exactLength len bytes = .ok word ↔ bytes.length = len ∧ word = bytes := by
  unfold exactLength
  split
  · rename_i length
    simp [length, eq_comm]
  · rename_i length
    simp [length]

theorem decodeUtf8_bytes (text : String) : decodeUtf8 text.toUTF8.toList = .ok text := by
  unfold decodeUtf8
  rw [Utf8.fromUTF8_bytes]

theorem decodeUtf8_ok {bytes : List UInt8} {text : String} (read : decodeUtf8 bytes = .ok text) :
    text.toUTF8.toList = bytes := by
  unfold decodeUtf8 at read
  split at read
  · rename_i found
    cases read
    exact Utf8.bytes_fromUTF8 found
  · cases read

theorem decodeVariantValue_encode {value : VariantValue} (typed : value.Typed) :
    decodeVariantValue (encodeVariantValue value).1 (encodeVariantValue value).2 = .ok value := by
  cases value with
  | uInt32 value =>
      have word := natOfLeBytes_small (show value.toNat < 256 ^ 4 from value.toNat_lt)
      simp [decodeVariantValue, encodeVariantValue, exactLength, word]
  | uInt64 value =>
      have word := natOfLeBytes_small (show value.toNat < 256 ^ 8 from value.toNat_lt)
      simp [decodeVariantValue, encodeVariantValue, exactLength, word]
  | bool value =>
      cases value with
      | true => rfl
      | false => rfl
  | int32 value =>
      have word := natOfLeBytes_small (show value.toUInt32.toNat < 256 ^ 4 from value.toUInt32.toNat_lt)
      simp [decodeVariantValue, encodeVariantValue, exactLength, word, -UInt32.toInt32_ofNat']
  | int64 value =>
      have word := natOfLeBytes_small (show value.toUInt64.toNat < 256 ^ 8 from value.toUInt64.toNat_lt)
      simp [decodeVariantValue, encodeVariantValue, exactLength, word, -UInt64.toInt64_ofNat']
  | string value =>
      have read := decodeUtf8_bytes value
      simp only [decodeVariantValue, encodeVariantValue, read]
      rfl
  | bytes value => rfl
  | unknown typeTag bytes =>
      simp only [VariantValue.Typed, List.mem_cons, not_or] at typed
      obtain ⟨not4, not5, not8, notC, notD, not18, not42, _⟩ := typed
      simp [decodeVariantValue, encodeVariantValue, not4, not5, not8, notC, notD, not18, not42]

theorem encodeVariantValue_kind {value : VariantValue} (writable : value.Writable) : (encodeVariantValue value).1 ≠ 0 := by
  cases value with
  | unknown typeTag bytes =>
      simp only [VariantValue.Writable, List.mem_cons, not_or] at writable
      exact writable.1
  | _ => simp [encodeVariantValue]

/-- The bytes of a kind and the value that is read from them. -/
inductive ValueCode : UInt8 → List UInt8 → VariantValue → Prop where
  | uInt32 {bytes : List UInt8} : bytes.length = 4 → ValueCode 0x04 bytes (.uInt32 (UInt32.ofNat (natOfLeBytes bytes)))
  | uInt64 {bytes : List UInt8} : bytes.length = 8 → ValueCode 0x05 bytes (.uInt64 (UInt64.ofNat (natOfLeBytes bytes)))
  | bool (byte : UInt8) (rest : List UInt8) : ValueCode 0x08 (byte :: rest) (.bool (byte ≠ 0))
  | int32 {bytes : List UInt8} : bytes.length = 4 →
      ValueCode 0x0C bytes (.int32 (UInt32.ofNat (natOfLeBytes bytes)).toInt32)
  | int64 {bytes : List UInt8} : bytes.length = 8 →
      ValueCode 0x0D bytes (.int64 (UInt64.ofNat (natOfLeBytes bytes)).toInt64)
  | string (text : String) : ValueCode 0x18 text.toUTF8.toList (.string text)
  | bytes (bytes : List UInt8) : ValueCode 0x42 bytes (.bytes bytes)
  | unknown {kind : UInt8} (bytes : List UInt8) : kind ∉ [0x04, 0x05, 0x08, 0x0C, 0x0D, 0x18, 0x42] →
      ValueCode kind bytes (.unknown kind bytes)

theorem decodeVariantValue_code {kind : UInt8} {bytes : List UInt8} {value : VariantValue}
    (read : decodeVariantValue kind bytes = .ok value) : ValueCode kind bytes value := by
  unfold decodeVariantValue at read
  by_cases is4 : kind = 0x04
  · rw [if_pos is4] at read
    obtain ⟨word, exactly, same⟩ := Fallible.bind_ok.mp read
    obtain ⟨length, rfl⟩ := exactLength_ok.mp exactly
    cases same
    rw [is4]
    exact .uInt32 length
  by_cases is5 : kind = 0x05
  · rw [if_neg is4, if_pos is5] at read
    obtain ⟨word, exactly, same⟩ := Fallible.bind_ok.mp read
    obtain ⟨length, rfl⟩ := exactLength_ok.mp exactly
    cases same
    rw [is5]
    exact .uInt64 length
  by_cases is8 : kind = 0x08
  · rw [if_neg is4, if_neg is5, if_pos is8] at read
    rw [is8]
    cases bytes with
    | nil => cases read
    | cons byte rest =>
        cases read
        exact .bool byte rest
  by_cases isC : kind = 0x0C
  · rw [if_neg is4, if_neg is5, if_neg is8, if_pos isC] at read
    obtain ⟨word, exactly, same⟩ := Fallible.bind_ok.mp read
    obtain ⟨length, rfl⟩ := exactLength_ok.mp exactly
    cases same
    rw [isC]
    exact .int32 length
  by_cases isD : kind = 0x0D
  · rw [if_neg is4, if_neg is5, if_neg is8, if_neg isC, if_pos isD] at read
    obtain ⟨word, exactly, same⟩ := Fallible.bind_ok.mp read
    obtain ⟨length, rfl⟩ := exactLength_ok.mp exactly
    cases same
    rw [isD]
    exact .int64 length
  rw [if_neg is4, if_neg is5, if_neg is8, if_neg isC, if_neg isD] at read
  by_cases is18 : kind = 0x18
  · rw [if_pos is18] at read
    obtain ⟨text, decoded, same⟩ := Fallible.bind_ok.mp read
    cases same
    rw [is18, ← decodeUtf8_ok decoded]
    exact .string text
  by_cases is42 : kind = 0x42
  · rw [if_neg is18, if_pos is42] at read
    cases read
    rw [is42]
    exact .bytes bytes
  · rw [if_neg is18, if_neg is42] at read
    cases read
    exact .unknown bytes (by simp [is4, is5, is8, isC, isD, is18, is42])

/-- A value that was read is written with its own kind. -/
theorem decodeVariantValue_writable {kind : UInt8} {bytes : List UInt8} {value : VariantValue} (given : kind ≠ 0)
    (read : decodeVariantValue kind bytes = .ok value) : value.Writable := by
  cases decodeVariantValue_code read with
  | unknown bytes other => exact fun known => (List.mem_cons.mp known).elim given other
  | _ => trivial

/-- Nor does it take more bytes. -/
theorem decodeVariantValue_shorter {kind : UInt8} {bytes : List UInt8} {value : VariantValue}
    (read : decodeVariantValue kind bytes = .ok value) : (encodeVariantValue value).2.length ≤ bytes.length := by
  cases decodeVariantValue_code read with
  | uInt32 length => simp [encodeVariantValue, length]
  | uInt64 length => simp [encodeVariantValue, length]
  | bool byte rest => simp [encodeVariantValue]
  | int32 length => simp [encodeVariantValue, length]
  | int64 length => simp [encodeVariantValue, length]
  | _ => exact le_rfl

/-- The bytes that a value takes. -/
def VariantValue.size : VariantValue → Nat
  | .uInt32 _ => 4
  | .uInt64 _ => 8
  | .bool _ => 1
  | .int32 _ => 4
  | .int64 _ => 8
  | .string value => value.utf8ByteSize
  | .bytes value => value.length
  | .unknown _ data => data.length

theorem utf8_length (text : String) : text.toUTF8.toList.length = text.utf8ByteSize := by
  rw [Utf8.toList_eq]
  rfl

theorem encodeVariantValue_size (value : VariantValue) : (encodeVariantValue value).2.length = value.size := by
  cases value with
  | string value => exact utf8_length value
  | _ => simp [encodeVariantValue, VariantValue.size]

/-- The kinds whose values have one length. -/
def valueLength (kind : UInt8) : Option Nat :=
  if kind = 0x04 ∨ kind = 0x0C then some 4 else if kind = 0x05 ∨ kind = 0x0D then some 8 else none

theorem decodeVariantValue_length {kind : UInt8} {bytes : List UInt8} {value : VariantValue}
    (read : decodeVariantValue kind bytes = .ok value) : ∀ len ∈ valueLength kind, bytes.length = len := by
  intro len fixed
  cases decodeVariantValue_code read with
  | uInt32 length => exact length.trans (Option.some.inj fixed)
  | uInt64 length => exact length.trans (Option.some.inj fixed)
  | int32 length => exact length.trans (Option.some.inj fixed)
  | int64 length => exact length.trans (Option.some.inj fixed)
  | unknown bytes other =>
      simp only [List.mem_cons, not_or] at other
      obtain ⟨not4, not5, _, notC, notD, _⟩ := other
      simp [valueLength, not4, not5, notC, notD] at fixed
  | _ => cases fixed

/-! ## Dictionaries -/

namespace VariantDictionary

def Writable (dictionary : VariantDictionary) : Prop :=
  ∀ (key : String) (value : VariantValue), dictionary.items[key]? = some value → value.Writable

/-- An item as it is written. -/
def rawItem (item : String × VariantValue) : RawItem :=
  { kind := (encodeVariantValue item.2).1, name := item.1.toUTF8.toList, value := (encodeVariantValue item.2).2 }

theorem encodeItems_rows (items : BTreeMap String VariantValue) :
    encodeItems items = leBytes 2 0x0100 ++ ((items.toList.map rawItem).flatMap RawItem.bytes ++ [0]) := by
  rw [encodeItems, List.append_assoc, List.flatMap_map]
  rfl

theorem takeItem_raw (items : BTreeMap String VariantValue) {item : String × VariantValue} (writable : item.2.Writable) :
    takeItem items (rawItem item) = .ok (items.insert item.1 item.2) := by
  unfold takeItem rawItem
  dsimp only
  rw [decodeUtf8_bytes, Fallible.ok_bind, decodeVariantValue_encode writable.typed]
  rfl

theorem takeItems_raw (items : BTreeMap String VariantValue) {row : List (String × VariantValue)}
    (writable : ∀ item ∈ row, item.2.Writable) :
    (row.map rawItem).foldlM takeItem items = .ok (row.foldl (fun items item => items.insert item.1 item.2) items) := by
  induction row generalizing items with
  | nil => rfl
  | cons item row ih =>
      rw [List.map_cons, List.foldlM_cons, takeItem_raw items (writable item List.mem_cons_self), Fallible.ok_bind,
        ih _ fun other member => writable other (List.mem_cons_of_mem item member)]
      rfl

theorem writable_toList {dictionary : VariantDictionary} (writable : dictionary.Writable) :
    ∀ item ∈ dictionary.items.toList, item.2.Writable := by
  rintro ⟨key, value⟩ member
  exact writable key value (Std.ExtTreeMap.mem_toList_iff_getElem?_eq_some.mp member)

theorem encodeItem_length (item : String × VariantValue) :
    item.1.toUTF8.toList.length < (encodeItem item.1 item.2).length ∧
      (encodeVariantValue item.2).2.length < (encodeItem item.1 item.2).length := by
  simp only [encodeItem, sized, List.length_cons, List.length_append, leBytes_length]
  omega

theorem rawItem_fits {items : BTreeMap String VariantValue} (writable : ∀ item ∈ items.toList, item.2.Writable)
    (fits : (encodeItems items).length < 2 ^ 31) : ∀ item ∈ items.toList.map rawItem, RawItem.Fits item := by
  intro raw member
  obtain ⟨item, inside, rfl⟩ := List.mem_map.mp member
  have part : (encodeItem item.1 item.2).length ≤ (encodeItems items).length := by
    obtain ⟨before, behind, split⟩ := List.append_of_mem inside
    rw [encodeItems, split]
    simp only [List.flatMap_append, List.flatMap_cons, List.length_append]
    omega
  obtain ⟨name, value⟩ := encodeItem_length item
  exact ⟨encodeVariantValue_kind (writable item inside), by unfold rawItem; dsimp only; omega,
    by unfold rawItem; dsimp only; omega⟩

/-- The items that were written are read, whatever is behind them. -/
theorem decodeItems_encodeItems {dictionary : VariantDictionary} (writable : dictionary.Writable)
    (fits : (encodeItems dictionary.items).length < 2 ^ 31) (rest : List UInt8) :
    decodeItems (encodeItems dictionary.items ++ rest) = .ok dictionary.items := by
  apply decodeItems_ok.mpr
  refine ⟨_, rest, ⟨dictionary.items.toList.map rawItem, rawItem_fits (writable_toList writable) fits, rfl, ?_⟩, ?_⟩
  · rw [takeItems_raw ∅ (writable_toList writable)]
    apply congrArg
    apply Std.ExtTreeMap.ext_getElem?
    intro key
    exact BTreeMap.lastWins_toList dictionary.items key
  · rw [encodeItems_rows]

/-- What was loaded is written back as it was. -/
theorem encode_decoded {bytes : List UInt8} {dictionary : VariantDictionary}
    (read : VariantDictionary.decode bytes = .ok dictionary) : dictionary.encode = .ok bytes := by
  obtain ⟨items, decoded, same⟩ := Fallible.bind_ok.mp read
  cases same
  unfold encode
  dsimp only
  rw [decoded, Fallible.ok_bind, if_pos rfl]

/-- What is written is read with the same items, and kept as it is in the bytes. -/
theorem decode_encoded {dictionary : VariantDictionary} {bytes : List UInt8} (writable : dictionary.Writable)
    (written : dictionary.encode = .ok bytes) (fits : bytes.length < 2 ^ 31) :
    VariantDictionary.decode bytes = .ok { items := dictionary.items, loadedEncoding := some bytes } := by
  have items : decodeItems bytes = .ok dictionary.items := by
    have plain : bytes = encodeItems dictionary.items → decodeItems bytes = .ok dictionary.items := by
      rintro rfl
      have read := decodeItems_encodeItems writable fits []
      rwa [List.append_nil] at read
    unfold encode at written
    split at written
    · rename_i encoded loaded
      obtain ⟨items, decoded, written⟩ := Fallible.bind_ok.mp written
      split at written
      · rename_i same
        cases written
        rw [decoded, same]
      · cases written
        exact plain rfl
    · cases written
      exact plain rfl
  unfold VariantDictionary.decode
  rw [items]
  rfl

/-! ### Dictionaries that were read -/

theorem takeItems_each {holds : String → VariantValue → Prop} {row : List RawItem}
    {items result : BTreeMap String VariantValue}
    (read : ∀ item ∈ row, ∀ name value, decodeUtf8 item.name = .ok name →
      decodeVariantValue item.kind item.value = .ok value → holds name value)
    (start : ∀ (key : String) (value : VariantValue), items[key]? = some value → holds key value)
    (folded : row.foldlM takeItem items = .ok result) :
    ∀ (key : String) (value : VariantValue), result[key]? = some value → holds key value := by
  induction row generalizing items with
  | nil =>
      cases folded
      exact start
  | cons item row ih =>
      rw [List.foldlM_cons] at folded
      obtain ⟨next, taken, folded⟩ := Fallible.bind_ok.mp folded
      obtain ⟨name, named, valued⟩ := Fallible.bind_ok.mp taken
      obtain ⟨value, decoded, same⟩ := Fallible.bind_ok.mp valued
      cases same
      apply ih (fun other member => read other (List.mem_cons_of_mem item member)) _ folded
      intro key held stored
      rw [BTreeMap.insert_lookup] at stored
      split at stored
      · rename_i here
        cases stored
        rw [← here]
        exact read item List.mem_cons_self name _ named decoded
      · exact start key held stored

/-- What holds of every item that can be read holds of a dictionary that was read. -/
theorem decode_each {holds : String → VariantValue → Prop} {bytes : List UInt8} {dictionary : VariantDictionary}
    (each : ∀ item : RawItem, item.Fits → ∀ name value, decodeUtf8 item.name = .ok name →
      decodeVariantValue item.kind item.value = .ok value → holds name value)
    (read : VariantDictionary.decode bytes = .ok dictionary) :
    ∀ (key : String) (value : VariantValue), dictionary.items[key]? = some value → holds key value := by
  obtain ⟨items, decoded, same⟩ := Fallible.bind_ok.mp read
  cases same
  obtain ⟨_, _, ⟨row, proper, rfl, folded⟩, rfl⟩ := decodeItems_ok.mp decoded
  exact takeItems_each (fun item member => each item (proper item member)) (by simp) folded

theorem decode_writable {bytes : List UInt8} {dictionary : VariantDictionary}
    (read : VariantDictionary.decode bytes = .ok dictionary) : dictionary.Writable :=
  decode_each (fun _ fits _ _ _ valued => decodeVariantValue_writable fits.1 valued) read

/-! ### The size of a dictionary -/

/-- The bytes that an item takes: its kind, its name and its value, and the lengths of both. -/
def itemSize (item : String × VariantValue) : Nat := 9 + item.1.utf8ByteSize + item.2.size

/-- The bytes that items take between the version and the end mark, with both. -/
def size (items : BTreeMap String VariantValue) : Nat := 3 + (items.toList.map itemSize).sum

theorem encodeItem_size (item : String × VariantValue) : (encodeItem item.1 item.2).length = itemSize item := by
  simp only [encodeItem, sized, List.length_cons, List.length_append, leBytes_length, utf8_length,
    encodeVariantValue_size, itemSize]
  omega

theorem encodeItems_length (items : BTreeMap String VariantValue) : (encodeItems items).length = size items := by
  have each : (items.toList.map fun item => (encodeItem item.1 item.2).length) = items.toList.map itemSize :=
    List.map_congr_left fun item _ => encodeItem_size item
  simp only [encodeItems, List.length_append, List.length_flatMap, leBytes_length, List.length_singleton, size]
  rw [each]
  omega

theorem takeItem_size {items result : BTreeMap String VariantValue} {item : RawItem}
    (taken : takeItem items item = .ok result) :
    ∃ binding, result = items.insert binding.1 binding.2 ∧ itemSize binding ≤ item.bytes.length := by
  obtain ⟨name, named, valued⟩ := Fallible.bind_ok.mp taken
  obtain ⟨value, decoded, same⟩ := Fallible.bind_ok.mp valued
  cases same
  refine ⟨(name, value), rfl, ?_⟩
  have shorter := decodeVariantValue_shorter decoded
  have written := congrArg List.length (decodeUtf8_ok named)
  rw [utf8_length] at written
  rw [encodeVariantValue_size] at shorter
  simp only [itemSize, RawItem.bytes, sized, List.length_cons, List.length_append, leBytes_length]
  omega

/-- The bindings that a row gives take no more bytes than the row. -/
theorem takeItems_size {row : List RawItem} {items result : BTreeMap String VariantValue}
    (folded : row.foldlM takeItem items = .ok result) :
    ∃ bindings : List (String × VariantValue),
      result = bindings.foldl (fun items item => items.insert item.1 item.2) items ∧
        (bindings.map itemSize).sum ≤ (row.map fun item => item.bytes.length).sum := by
  induction row generalizing items with
  | nil =>
      cases folded
      exact ⟨[], rfl, le_rfl⟩
  | cons item row ih =>
      rw [List.foldlM_cons] at folded
      obtain ⟨next, taken, folded⟩ := Fallible.bind_ok.mp folded
      obtain ⟨binding, rfl, few⟩ := takeItem_size taken
      obtain ⟨bindings, rfl, rest⟩ := ih folded
      exact ⟨binding :: bindings, rfl, by simpa using Nat.add_le_add few rest⟩

/-- Items that were read take no more bytes than they were read from. -/
theorem decodeItems_size {bytes : List UInt8} {items : BTreeMap String VariantValue}
    (read : decodeItems bytes = .ok items) : size items ≤ bytes.length := by
  obtain ⟨_, rest, ⟨row, _, rfl, folded⟩, rfl⟩ := decodeItems_ok.mp read
  obtain ⟨bindings, rfl, few⟩ := takeItems_size folded
  have weights := BTreeMap.lastWins_sum_le itemSize bindings
  change 3 + ((BTreeMap.lastWins bindings).toList.map itemSize).sum ≤ _
  simp only [List.length_append, List.length_flatMap, leBytes_length, List.length_singleton]
  omega

/-- A dictionary of few bytes is written in few bytes, if the encoding it was loaded with is one. -/
theorem encode_size {dictionary : VariantDictionary} {bytes : List UInt8} {bound : Nat}
    (loaded : ∀ raw ∈ dictionary.loadedEncoding, raw.length < bound) (few : size dictionary.items < bound)
    (written : dictionary.encode = .ok bytes) : bytes.length < bound := by
  rw [← encodeItems_length] at few
  unfold encode at written
  split at written
  · rename_i encoded held
    obtain ⟨items, decoded, written⟩ := Fallible.bind_ok.mp written
    split at written
    · cases written
      exact loaded bytes held
    · cases written
      exact few
  · cases written
    exact few

/-! ### Dictionaries of bindings -/

theorem lastWins_writable {bindings : List (String × VariantValue)} (writable : ∀ item ∈ bindings, item.2.Writable) :
    Writable { items := BTreeMap.lastWins bindings } := by
  intro key value held
  exact writable _ (BTreeMap.mem_of_lastWins held)

theorem encodeItems_lastWins {bindings : List (String × VariantValue)} (nodup : (bindings.map Prod.fst).Nodup) :
    (encodeItems (BTreeMap.lastWins bindings)).length =
      3 + (bindings.map fun item => (encodeItem item.1 item.2).length).sum := by
  have perm := (BTreeMap.lastWins_toList_perm nodup).map fun item => (encodeItem item.1 item.2).length
  have sums := perm.sum_nat
  simp only [encodeItems, List.length_append, List.length_flatMap, leBytes_length, List.length_singleton]
  omega

end VariantDictionary

/-! ## KDF dictionaries -/

def aesBindings (rounds : UInt64) (salt : List UInt8) : List (String × VariantValue) :=
  [("$UUID", .bytes kdfAesKdbx4Uuid), ("R", .uInt64 rounds), ("S", .bytes salt)]

def argon2Bindings (uuid : List UInt8) (iterations memoryKib parallelism : UInt32) (salt : List UInt8) :
    List (String × VariantValue) :=
  [("$UUID", .bytes uuid), ("V", .uInt32 0x13), ("I", .uInt64 iterations.toUInt64),
    ("M", .uInt64 (memoryKib.toUInt64 * 1024)), ("P", .uInt32 parallelism), ("S", .bytes salt)]

/-- A dictionary that is written in few bytes. -/
def Short (dictionary : VariantDictionary) : Prop :=
  dictionary.Writable ∧ dictionary.loadedEncoding = none ∧
    (VariantDictionary.encodeItems dictionary.items).length < 2 ^ 31

theorem short_bindings {bindings : List (String × VariantValue)} (writable : ∀ item ∈ bindings, item.2.Writable)
    (nodup : (bindings.map Prod.fst).Nodup)
    (few : (bindings.map fun item => (encodeItem item.1 item.2).length).sum < 2 ^ 30) :
    Short { items := BTreeMap.lastWins bindings } := by
  refine ⟨VariantDictionary.lastWins_writable writable, rfl, ?_⟩
  rw [VariantDictionary.encodeItems_lastWins nodup]
  omega

/-- The names of the items have one byte, but for the first. -/
theorem kdfNames_length : (["$UUID", "R", "S", "V", "I", "M", "P"].map fun name => name.toUTF8.toList.length) =
    [5, 1, 1, 1, 1, 1, 1] := by decide +kernel

theorem aes_short (rounds : UInt64) {salt : List UInt8} (length : salt.length = 32) :
    Short (kdfToVariantDict (.aesKdbx4 rounds salt)) := by
  apply @short_bindings (aesBindings rounds salt)
  · simp [aesBindings, VariantValue.Writable]
  · exact (by decide +kernel : ["$UUID", "R", "S"].Nodup)
  · have names := kdfNames_length
    simp at names
    simp [aesBindings, encodeItem, encodeVariantValue, sized, length, kdfAesKdbx4Uuid]
    omega

theorem argon2_short {uuid : List UInt8} (sixteen : uuid.length = 16) (iterations memoryKib parallelism : UInt32)
    {salt : List UInt8} (length : salt.length = 32) :
    Short (argon2Dictionary uuid iterations memoryKib parallelism salt) := by
  apply @short_bindings (argon2Bindings uuid iterations memoryKib parallelism salt)
  · simp [argon2Bindings, VariantValue.Writable]
  · exact (by decide +kernel : ["$UUID", "V", "I", "M", "P", "S"].Nodup)
  · have names := kdfNames_length
    simp at names
    simp [argon2Bindings, encodeItem, encodeVariantValue, sized, length, sixteen]
    omega

theorem kdfToVariantDict_short (requested : SaveKdf) {salt : List UInt8} (length : salt.length = 32) :
    Short (kdfToVariantDict (buildKdfProfile salt requested)) := by
  cases requested with
  | aesKdbx4 rounds => exact aes_short rounds length
  | argon2d iterations memoryKib parallelism => exact argon2_short rfl iterations memoryKib parallelism length
  | argon2id iterations memoryKib parallelism => exact argon2_short rfl iterations memoryKib parallelism length

end VaultKern.Kdbx
