import Mathlib.Tactic.Linarith

/-! # Base64

The standard alphabet with padding. Decoding asks for the padding and for zero bits
behind the last byte, so it accepts the encoding of some bytes and nothing else.
-/

namespace Base64

def alphabet : List Char :=
  "ABCDEFGHIJKLMNOPQRSTUVWXYZabcdefghijklmnopqrstuvwxyz0123456789+/".toList

def digit (value : Nat) : Char := alphabet.getD value 'A'

def digitValue (c : Char) : Option Nat := alphabet.idxOf? c

def encodeChars : List UInt8 → List Char
  | [] => []
  | [a] =>
      let n := a.toNat * 16
      [digit (n / 64), digit (n % 64), '=', '=']
  | [a, b] =>
      let n := (a.toNat * 256 + b.toNat) * 4
      [digit (n / 4096), digit (n / 64 % 64), digit (n % 64), '=']
  | a :: b :: c :: rest =>
      let n := a.toNat * 65536 + b.toNat * 256 + c.toNat
      digit (n / 262144) :: digit (n / 4096 % 64) :: digit (n / 64 % 64) :: digit (n % 64) :: encodeChars rest

def decodeOne (x y : Char) : Option (List UInt8) := do
  let n := (← digitValue x) * 64 + (← digitValue y)
  if n % 16 = 0 then some [UInt8.ofNat (n / 16)] else none

def decodeTwo (x y z : Char) : Option (List UInt8) := do
  let n := (← digitValue x) * 4096 + (← digitValue y) * 64 + (← digitValue z)
  if n % 4 = 0 then some [UInt8.ofNat (n / 1024), UInt8.ofNat (n / 4 % 256)] else none

def decodeThree (x y z w : Char) : Option (List UInt8) := do
  let n := (← digitValue x) * 262144 + (← digitValue y) * 4096 + (← digitValue z) * 64 + (← digitValue w)
  some [UInt8.ofNat (n / 65536), UInt8.ofNat (n / 256 % 256), UInt8.ofNat (n % 256)]

def decodeChars : List Char → Option (List UInt8)
  | [] => some []
  | x :: y :: z :: w :: rest =>
      if w = '=' then
        if !rest.isEmpty then none
        else if z = '=' then decodeOne x y
        else decodeTwo x y z
      else do
        let bytes ← decodeThree x y z w
        let later ← decodeChars rest
        some (bytes ++ later)
  | _ => none

def encode (bytes : List UInt8) : String := String.ofList (encodeChars bytes)

def decode (text : String) : Option (List UInt8) := decodeChars text.toList

/-! ## Digits -/

theorem digitValue_digit {value : Nat} (small : value < 64) : digitValue (digit value) = some value := by
  have all : ∀ value : Fin 64, digitValue (digit value) = some value.val := by decide +kernel
  exact all ⟨value, small⟩

theorem isAlphanum_eq (c : Char) : c.isAlphanum =
    (decide (c.val ≥ 'A'.val ∧ c.val ≤ 'Z'.val) || (c.val ≥ 'a'.val && c.val ≤ 'z'.val) ||
      (c.val ≥ '0'.val && c.val ≤ '9'.val)) := rfl

/-- Characters of encoded text: none of them is a blank, and XML takes all of them as they are. -/
def IsDigit (c : Char) : Prop := c.isAlphanum ∨ c = '+' ∨ c = '/' ∨ c = '='

theorem digit_isDigit (value : Nat) : (digit value).isAlphanum ∨ digit value = '+' ∨ digit value = '/' := by
  by_cases small : value < 64
  · have all : ∀ value : Fin 64, (digit value).isAlphanum ∨ digit value = '+' ∨ digit value = '/' := by decide +kernel
    exact all ⟨value, small⟩
  · have large : digit value = 'A' := by
      have long : alphabet.length ≤ value := Nat.le_of_not_lt small
      rw [digit, List.getD_eq_getElem?_getD, List.getElem?_eq_none long]
      rfl
    rw [large]
    exact .inl (by decide)

theorem digit_ne_pad (value : Nat) : digit value ≠ '=' := by
  intro same
  have known := digit_isDigit value
  rw [same] at known
  revert known
  decide

/-! ## Round trip -/

theorem ofNat_toNat (a : UInt8) : UInt8.ofNat a.toNat = a := by simp

theorem digits_three (n : Nat) : n / 4096 * 4096 + n / 64 % 64 * 64 + n % 64 = n := by
  have low := Nat.div_add_mod n 64
  have high := Nat.div_add_mod (n / 64) 64
  have twice : n / 64 / 64 = n / 4096 := Nat.div_div_eq_div_mul n 64 64
  rw [twice] at high
  omega

theorem digits_four (n : Nat) : n / 262144 * 262144 + n / 4096 % 64 * 4096 + n / 64 % 64 * 64 + n % 64 = n := by
  have low := digits_three n
  have high := Nat.div_add_mod (n / 4096) 64
  have twice : n / 4096 / 64 = n / 262144 := Nat.div_div_eq_div_mul n 4096 64
  rw [twice] at high
  linarith

theorem decode_encodeChars : ∀ bytes : List UInt8, decodeChars (encodeChars bytes) = some bytes
  | [] => rfl
  | [a] => by
      have bound := a.toNat_lt
      simp only [encodeChars, decodeChars, if_true, List.isEmpty_nil, Bool.not_true, Bool.false_eq_true, if_false,
        decodeOne]
      rw [digitValue_digit (by omega), digitValue_digit (by omega)]
      have whole : a.toNat * 16 / 64 * 64 + a.toNat * 16 % 64 = a.toNat * 16 := by omega
      have zero : a.toNat * 16 % 16 = 0 := by omega
      have first : a.toNat * 16 / 16 = a.toNat := by omega
      simp only [Option.bind_eq_bind, Option.bind_some, whole, zero, if_true, first, ofNat_toNat]
  | [a, b] => by
      have bound := a.toNat_lt
      have bound' := b.toNat_lt
      simp only [encodeChars, decodeChars, if_true, List.isEmpty_nil, Bool.not_true, Bool.false_eq_true, if_false,
        digit_ne_pad, decodeTwo]
      generalize size : a.toNat * 256 + b.toNat = n
      have high : n * 4 / 4096 < 64 := by omega
      have middle : n * 4 / 64 % 64 < 64 := Nat.mod_lt _ (by decide)
      have low : n * 4 % 64 < 64 := Nat.mod_lt _ (by decide)
      rw [digitValue_digit high, digitValue_digit middle, digitValue_digit low]
      have whole := digits_three (n * 4)
      have zero : n * 4 % 4 = 0 := by omega
      have first : n * 4 / 1024 = a.toNat := by omega
      have second : n * 4 / 4 % 256 = b.toNat := by omega
      simp only [Option.bind_eq_bind, Option.bind_some, whole, zero, if_true, first, second, ofNat_toNat]
  | a :: b :: c :: rest => by
      have bound := a.toNat_lt
      have bound' := b.toNat_lt
      have bound'' := c.toNat_lt
      simp only [encodeChars, decodeChars, digit_ne_pad, if_false, decodeThree]
      generalize size : a.toNat * 65536 + b.toNat * 256 + c.toNat = n
      have high : n / 262144 < 64 := by omega
      have upper : n / 4096 % 64 < 64 := Nat.mod_lt _ (by decide)
      have middle : n / 64 % 64 < 64 := Nat.mod_lt _ (by decide)
      have low : n % 64 < 64 := Nat.mod_lt _ (by decide)
      rw [decode_encodeChars rest, digitValue_digit high, digitValue_digit upper, digitValue_digit middle,
        digitValue_digit low]
      have whole := digits_four n
      have first : n / 65536 = a.toNat := by omega
      have second : n / 256 % 256 = b.toNat := by omega
      have third : n % 256 = c.toNat := by omega
      simp only [Option.bind_eq_bind, Option.bind_some, whole, first, second, third, ofNat_toNat, List.cons_append,
        List.nil_append]

theorem decode_encode (bytes : List UInt8) : decode (encode bytes) = some bytes := by
  rw [decode, encode, String.toList_ofList, decode_encodeChars]

theorem encodeChars_isDigit : ∀ (bytes : List UInt8), ∀ c ∈ encodeChars bytes, IsDigit c
  | [], c, member => by cases member
  | [a], c, member => by
      simp only [encodeChars, List.mem_cons, List.not_mem_nil, or_false] at member
      unfold IsDigit
      rcases member with rfl | rfl | rfl | rfl
      · have := digit_isDigit (a.toNat * 16 / 64); tauto
      · have := digit_isDigit (a.toNat * 16 % 64); tauto
      · simp
      · simp
  | [a, b], c, member => by
      simp only [encodeChars, List.mem_cons, List.not_mem_nil, or_false] at member
      unfold IsDigit
      rcases member with rfl | rfl | rfl | rfl
      · have := digit_isDigit ((a.toNat * 256 + b.toNat) * 4 / 4096); tauto
      · have := digit_isDigit ((a.toNat * 256 + b.toNat) * 4 / 64 % 64); tauto
      · have := digit_isDigit ((a.toNat * 256 + b.toNat) * 4 % 64); tauto
      · simp
  | a :: b :: c' :: rest, c, member => by
      simp only [encodeChars, List.mem_cons] at member
      unfold IsDigit
      rcases member with rfl | rfl | rfl | rfl | later
      · have := digit_isDigit ((a.toNat * 65536 + b.toNat * 256 + c'.toNat) / 262144); tauto
      · have := digit_isDigit ((a.toNat * 65536 + b.toNat * 256 + c'.toNat) / 4096 % 64); tauto
      · have := digit_isDigit ((a.toNat * 65536 + b.toNat * 256 + c'.toNat) / 64 % 64); tauto
      · have := digit_isDigit ((a.toNat * 65536 + b.toNat * 256 + c'.toNat) % 64); tauto
      · exact encodeChars_isDigit rest c later

end Base64
