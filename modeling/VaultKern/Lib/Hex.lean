import Mathlib.Tactic.Common

/-! # Hexadecimal digits

Two digits a byte. What a digit stands for is a parameter: decoders differ in the letters they take.
-/

namespace Hex

def decode (symbol : UInt8 → Option UInt8) : List UInt8 → Option (List UInt8)
  | [] => some []
  | [_] => none
  | high :: low :: rest => do
      let h ← symbol high
      let l ← symbol low
      let later ← decode symbol rest
      some ((h * 16 + l) :: later)

theorem decode_pair {symbol : UInt8 → Option UInt8} {high low : UInt8} {rest bytes : List UInt8} :
    decode symbol (high :: low :: rest) = some bytes ↔ ∃ h l later, symbol high = some h ∧ symbol low = some l ∧
      decode symbol rest = some later ∧ bytes = (h * 16 + l) :: later := by
  rw [decode]
  constructor
  · intro decoded
    obtain ⟨h, first, decoded⟩ := Option.bind_eq_some_iff.mp decoded
    obtain ⟨l, second, decoded⟩ := Option.bind_eq_some_iff.mp decoded
    obtain ⟨later, others, decoded⟩ := Option.bind_eq_some_iff.mp decoded
    exact ⟨h, l, later, first, second, others, (Option.some.inj decoded).symm⟩
  · rintro ⟨h, l, later, first, second, others, rfl⟩
    rw [first, Option.bind_eq_bind, Option.bind_some, second, Option.bind_eq_bind, Option.bind_some, others]
    rfl

theorem decode_length {symbol : UInt8 → Option UInt8} : ∀ {digits bytes : List UInt8},
    decode symbol digits = some bytes → digits.length = 2 * bytes.length
  | [], _, decoded => by
      cases decoded
      rfl
  | [_], _, decoded => by cases decoded
  | _ :: _ :: _, _, decoded => by
      obtain ⟨_, _, _, _, _, others, rfl⟩ := decode_pair.mp decoded
      have length := decode_length others
      simp only [List.length_cons]
      omega

/-- Every digit stands for something. -/
theorem decode_each {symbol : UInt8 → Option UInt8} : ∀ {digits bytes : List UInt8},
    decode symbol digits = some bytes → ∀ digit ∈ digits, (symbol digit).isSome
  | [], _, _, _, member => nomatch member
  | [_], _, decoded, _, _ => by cases decoded
  | _ :: _ :: _, _, decoded, digit, member => by
      obtain ⟨_, _, _, first, second, others, rfl⟩ := decode_pair.mp decoded
      rcases List.mem_cons.mp member with rfl | member
      · rw [first]
        rfl
      · rcases List.mem_cons.mp member with rfl | member
        · rw [second]
          rfl
        · exact decode_each others digit member

theorem decode_none {symbol : UInt8 → Option UInt8} {digits : List UInt8} {digit : UInt8} (member : digit ∈ digits)
    (foreign : symbol digit = none) : decode symbol digits = none := by
  cases decoded : decode symbol digits with
  | none => rfl
  | some bytes =>
      have known := decode_each decoded digit member
      rw [foreign] at known
      cases known

/-- Decoders that agree on the digits agree. -/
theorem decode_congr {first second : UInt8 → Option UInt8} : ∀ {digits : List UInt8},
    (∀ digit ∈ digits, first digit = second digit) → decode first digits = decode second digits
  | [], _ => rfl
  | [_], _ => rfl
  | high :: low :: rest, agree => by
      have others := decode_congr fun digit member =>
        agree digit (List.mem_cons_of_mem high (List.mem_cons_of_mem low member))
      rw [decode, decode, agree high List.mem_cons_self,
        agree low (List.mem_cons_of_mem high List.mem_cons_self), others]

/-- An even number of digits stands for bytes. -/
theorem decode_isSome {symbol : UInt8 → Option UInt8} : ∀ {digits : List UInt8}, digits.length % 2 = 0 →
    (∀ digit ∈ digits, (symbol digit).isSome) → ∃ bytes, decode symbol digits = some bytes
  | [], _, _ => ⟨[], rfl⟩
  | [_], even, _ => by cases even
  | high :: low :: rest, even, each => by
      obtain ⟨h, first⟩ := Option.isSome_iff_exists.mp (each high List.mem_cons_self)
      obtain ⟨l, second⟩ := Option.isSome_iff_exists.mp (each low (List.mem_cons_of_mem high List.mem_cons_self))
      simp only [List.length_cons] at even
      obtain ⟨later, others⟩ := decode_isSome (by omega) fun digit member =>
        each digit (List.mem_cons_of_mem high (List.mem_cons_of_mem low member))
      exact ⟨_, decode_pair.mpr ⟨h, l, later, first, second, others, rfl⟩⟩

end Hex
