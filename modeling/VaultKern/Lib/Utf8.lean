import Mathlib.Algebra.GroupWithZero.Nat
import Mathlib.Tactic.Common

/-! # UTF-8

The bytes of a text as a list.
-/

namespace Utf8

theorem toList_loop (bytes : ByteArray) (i : Nat) (done : List UInt8) :
    ByteArray.toList.loop bytes i done = done.reverse ++ bytes.data.toList.drop i := by
  fun_induction ByteArray.toList.loop bytes i done with
  | case1 i done inside ih =>
      have bounded : i < bytes.data.toList.length := inside
      rw [ih, List.reverse_cons, List.append_assoc, List.singleton_append, List.drop_eq_getElem_cons bounded]
      congr 2
      exact getElem!_pos bytes.data i inside
  | case2 i done outside =>
      have past : bytes.data.toList.length ≤ i := Nat.le_of_not_lt outside
      rw [List.drop_eq_nil_of_le past, List.append_nil]

theorem toList_eq (bytes : ByteArray) : bytes.toList = bytes.data.toList := by
  rw [ByteArray.toList, toList_loop]
  rfl

theorem bytes_injective : Function.Injective fun text : String => text.toUTF8.toList := by
  intro left right same
  have lists : left.toUTF8.data.toList = right.toUTF8.data.toList := by
    rw [← toList_eq, ← toList_eq]
    exact same
  exact String.toByteArray_inj.mp (ByteArray.ext (Array.toList_inj.mp lists))

theorem bytes_ofList (chars : List Char) : (String.ofList chars).toUTF8.toList = chars.flatMap String.utf8EncodeChar := by
  rw [toList_eq]
  exact List.toList_data_toByteArray

/-- The bytes of a text are read back. -/
theorem fromUTF8_bytes (text : String) : String.fromUTF8? ⟨text.toUTF8.toList.toArray⟩ = some text := by
  have bytes : (⟨text.toUTF8.toList.toArray⟩ : ByteArray) = text.toByteArray := by
    rw [toList_eq]
    rfl
  rw [bytes]
  unfold String.fromUTF8?
  rw [dif_pos text.isValidUTF8]
  rfl

/-- Bytes that are read as a text are its bytes. -/
theorem bytes_fromUTF8 {bytes : List UInt8} {text : String} (read : String.fromUTF8? ⟨bytes.toArray⟩ = some text) :
    text.toUTF8.toList = bytes := by
  unfold String.fromUTF8? at read
  split at read
  · cases read
    rw [toList_eq]
    rfl
  · cases read

/-- Characters of one byte. -/
theorem bytes_ascii {chars : List Char} (ascii : ∀ c ∈ chars, c.toNat < 128) :
    (String.ofList chars).toUTF8.toList = chars.map fun c => UInt8.ofNat c.toNat := by
  rw [bytes_ofList]
  induction chars with
  | nil => rfl
  | cons c rest ih =>
      have small := ascii c List.mem_cons_self
      rw [List.flatMap_cons, ih fun d member => ascii d (List.mem_cons_of_mem c member), List.map_cons]
      have one : String.utf8EncodeChar c = [UInt8.ofNat c.toNat] := by
        have sized : c.utf8Size = 1 := Char.utf8Size_eq_one_iff.mpr (by
          rw [UInt32.le_iff_toNat_le]
          exact Nat.le_of_lt_succ small)
        rw [String.utf8EncodeChar_eq_singleton sized]
        rfl
      rw [one]
      rfl

/-- A byte below 128 is a character of its own. -/
theorem ascii_byte {c : Char} {byte : UInt8} (member : byte ∈ String.utf8EncodeChar c) (small : byte.toNat < 128) :
    c.toNat = byte.toNat := by
  unfold String.utf8EncodeChar at member
  simp only at member
  change c.val.toNat = byte.toNat
  split at member
  · simp only [List.mem_cons, List.not_mem_nil, or_false] at member
    subst member
    simp only [UInt8.toNat_ofNat'] 
    omega
  · split at member
    · simp only [List.mem_cons, List.not_mem_nil, or_false] at member
      rcases member with rfl | rfl <;> simp only [UInt8.toNat_ofNat'] at small <;> omega
    · split at member
      · simp only [List.mem_cons, List.not_mem_nil, or_false] at member
        rcases member with rfl | rfl | rfl <;> simp only [UInt8.toNat_ofNat'] at small <;> omega
      · simp only [List.mem_cons, List.not_mem_nil, or_false] at member
        rcases member with rfl | rfl | rfl | rfl <;> simp only [UInt8.toNat_ofNat'] at small <;> omega

end Utf8
