import VaultKern.Kdbx.Container
import VaultKern.Lib.Reading

/-! # Reading what was written

What the readers of bytes, numbers and fields accept is what the writers write, with any
bytes behind it.
-/

namespace VaultKern.Kdbx

open Reading (Reads)

/-! ## Numbers -/

@[simp] theorem leBytes_length (count value : Nat) : (leBytes count value).length = count := by
  simp [leBytes]

theorem natOfLeBytes_leBytes (count value : Nat) : natOfLeBytes (leBytes count value) = value % 256 ^ count :=
  natOfLeBytes_digits count value

theorem natOfLeBytes_small {count value : Nat} (small : value < 256 ^ count) :
    natOfLeBytes (leBytes count value) = value := by
  rw [natOfLeBytes_leBytes, Nat.mod_eq_of_lt small]

theorem natOfLeBytes_cons (byte : UInt8) (bytes : List UInt8) :
    natOfLeBytes (byte :: bytes) = byte.toNat + 256 * natOfLeBytes bytes := rfl

theorem natOfLeBytes_lt (bytes : List UInt8) : natOfLeBytes bytes < 256 ^ bytes.length := by
  induction bytes with
  | nil => decide
  | cons byte rest ih =>
      have small := byte.toNat_lt
      rw [natOfLeBytes_cons, List.length_cons, Nat.pow_succ]
      omega

theorem leBytes_succ (count value : Nat) :
    leBytes (count + 1) value = UInt8.ofNat value :: leBytes count (value / 256) := by
  unfold leBytes
  rw [List.range_succ_eq_map, List.map_cons, List.map_map]
  refine congrArg₂ _ (by simp) (List.map_congr_left fun i _ => ?_)
  rw [Function.comp_apply, Nat.div_div_eq_div_mul, Nat.succ_eq_add_one, Nat.pow_succ, Nat.mul_comm 256]

theorem leBytes_natOfLeBytes (bytes : List UInt8) : leBytes bytes.length (natOfLeBytes bytes) = bytes := by
  induction bytes with
  | nil => rfl
  | cons byte rest ih =>
      have small := byte.toNat_lt
      have rest' : (byte.toNat + 256 * natOfLeBytes rest) / 256 = natOfLeBytes rest := by omega
      have head : UInt8.ofNat (byte.toNat + 256 * natOfLeBytes rest) = byte := by
        apply UInt8.toNat_inj.mp
        rw [UInt8.toNat_ofNat']
        omega
      rw [List.length_cons, leBytes_succ, natOfLeBytes_cons, rest', head, ih]

/-! ## Readers -/

theorem readExact_ok {len : Nat} {bytes word rest : List UInt8} :
    readExact len bytes = .ok (word, rest) ↔ word.length = len ∧ bytes = word ++ rest := by
  unfold readExact
  constructor
  · intro read
    split at read
    · cases read
    · rename_i enough
      cases read
      exact ⟨List.length_take_of_le (by omega), (List.take_append_drop len bytes).symm⟩
  · rintro ⟨rfl, rfl⟩
    simp

theorem readLe_ok {count value : Nat} {bytes rest : List UInt8} :
    readLe count bytes = .ok (value, rest) ↔ value < 256 ^ count ∧ bytes = leBytes count value ++ rest := by
  unfold readLe
  constructor
  · intro read
    obtain ⟨⟨word, later⟩, exactly, done⟩ := Fallible.bind_ok.mp read
    obtain ⟨rfl, rfl⟩ := readExact_ok.mp exactly
    cases done
    exact ⟨natOfLeBytes_lt word, by rw [leBytes_natOfLeBytes]⟩
  · rintro ⟨small, rfl⟩
    have word : readExact count (leBytes count value ++ rest) = .ok (leBytes count value, rest) :=
      readExact_ok.mpr ⟨leBytes_length count value, rfl⟩
    rw [word]
    change Except.ok (natOfLeBytes (leBytes count value), rest) = _
    rw [natOfLeBytes_small small]

theorem readSized_ok {bytes data rest : List UInt8} :
    readSized bytes = .ok (data, rest) ↔ data.length < 2 ^ 31 ∧ bytes = sized data ++ rest := by
  unfold readSized
  constructor
  · intro read
    obtain ⟨⟨len, later⟩, length, done⟩ := Fallible.bind_ok.mp read
    dsimp only at length done
    split at done
    · cases done
    · rename_i fits
      obtain ⟨_, rfl⟩ := readLe_ok.mp length
      obtain ⟨rfl, rfl⟩ := readExact_ok.mp done
      exact ⟨by omega, by simp [sized]⟩
  · rintro ⟨fits, rfl⟩
    have length : readLe 4 (sized data ++ rest) = .ok (data.length, data ++ rest) :=
      readLe_ok.mpr ⟨by omega, by simp [sized]⟩
    rw [length, Fallible.ok_bind]
    dsimp only
    rw [if_neg (by omega)]
    exact readExact_ok.mpr ⟨rfl, rfl⟩

end VaultKern.Kdbx
