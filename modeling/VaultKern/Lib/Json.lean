import Mathlib.Algebra.Group.Int.Defs
import Mathlib.Algebra.GroupWithZero.Nat
import Mathlib.Data.List.Infix
import VaultKern.Lib.TextSlices

/-! # JSON values

The values that JSON has, and their text without blanks. A number is a whole one times a negative power of
ten.
-/

inductive Json where
  | null
  | bool (value : Bool)
  | number (mantissa : Int) (exponent : Nat)
  | string (text : String)
  | array (items : List Json)
  | object (fields : List (String × Json))

namespace Json

/-- A field of an object. -/
def field (value : Json) (name : String) : Option Json :=
  match value with
  | .object fields => fields.lookup name
  | _ => none

def asString : Json → Option String
  | .string text => some text
  | _ => none

/-- The number, if it is whole. -/
def asInteger : Json → Option Int
  | .number mantissa exponent =>
      if mantissa % 10 ^ exponent = 0 then some (mantissa / 10 ^ exponent) else none
  | _ => none

def isObject : Json → Bool
  | .object _ => true
  | _ => false

/-- The fields with one of them set. -/
def setField (fields : List (String × Json)) (name : String) (value : Json) : List (String × Json) :=
  if fields.any (·.1 == name) then fields.map fun f => if f.1 == name then (name, value) else f
  else fields ++ [(name, value)]

/-! ## Texts -/

def hexDigit (digit : Nat) : Char := (Nat.digitChar digit)

/-- The characters that are written with one letter. -/
def letterOf (c : Char) : Option Char :=
  if c = '"' then some '"'
  else if c = '\\' then some '\\'
  else if c.toNat = 8 then some 'b'
  else if c.toNat = 9 then some 't'
  else if c.toNat = 10 then some 'n'
  else if c.toNat = 12 then some 'f'
  else if c.toNat = 13 then some 'r'
  else none

/-- A character in a string. -/
def escape (c : Char) : List Char :=
  match letterOf c with
  | some letter => ['\\', letter]
  | none =>
      if c.toNat < 32 then ['\\', 'u', '0', '0', hexDigit (c.toNat / 16), hexDigit (c.toNat % 16)]
      else [c]

def renderString (text : List Char) : List Char := '"' :: (text.flatMap escape ++ ['"'])

def renderInt : Int → List Char
  | .ofNat n => Nat.toDigits 10 n
  | .negSucc n => '-' :: Nat.toDigits 10 (n + 1)

def renderNumber (mantissa : Int) (exponent : Nat) : List Char :=
  renderInt mantissa ++ if exponent = 0 then [] else ['e', '-'] ++ Nat.toDigits 10 exponent

mutual

def render : Json → List Char
  | .null => "null".toList
  | .bool value => (if value then "true" else "false").toList
  | .number mantissa exponent => renderNumber mantissa exponent
  | .string text => renderString text.toList
  | .array items => '[' :: (renderItems items ++ [']'])
  | .object fields => '\x7b' :: (renderFields fields ++ ['\x7d'])

def renderItems : List Json → List Char
  | [] => []
  | [item] => render item
  | item :: rest => render item ++ ',' :: renderItems rest

def renderFields : List (String × Json) → List Char
  | [] => []
  | [(name, value)] => renderString name.toList ++ ':' :: render value
  | (name, value) :: rest => renderString name.toList ++ ':' :: (render value ++ ',' :: renderFields rest)

end

/-! ## Characters of a text -/

/-- No control characters. -/
def Printable (text : List Char) : Prop := ∀ c ∈ text, 32 ≤ c.toNat

instance (text : List Char) : Decidable (Printable text) :=
  List.decidableBAll (fun c : Char => 32 ≤ c.toNat) text

theorem Printable.append {left right : List Char} (first : Printable left) (second : Printable right) :
    Printable (left ++ right) := by
  intro c member
  exact (List.mem_append.mp member).elim (first c) (second c)

theorem Printable.cons {c : Char} {rest : List Char} (first : 32 ≤ c.toNat) (others : Printable rest) :
    Printable (c :: rest) := by
  intro d member
  rcases List.mem_cons.mp member with rfl | later
  · exact first
  · exact others d later

theorem Printable.nil : Printable [] := nofun

theorem toDigits_printable (n : Nat) : Printable (Nat.toDigits 10 n) := by
  intro c member
  have digit := Nat.isDigit_of_mem_toDigits (by decide) (by decide) member
  rw [Char.isDigit, Bool.and_eq_true, decide_eq_true_eq, decide_eq_true_eq] at digit
  have least : ('0'.val).toNat ≤ c.val.toNat := UInt32.le_iff_toNat_le.mp digit.1
  exact Nat.le_trans (by decide) least

theorem hexDigit_printable : ∀ digit < 16, 32 ≤ (hexDigit digit).toNat := by decide

theorem letterOf_plain {c letter : Char} (written : letterOf c = some letter) :
    32 ≤ letter.toNat ∧ letter.toNat < 128 := by
  unfold letterOf at written
  repeat' split at written
  all_goals first | (cases written; decide) | cases written

theorem escape_printable (c : Char) : Printable (escape c) := by
  unfold escape
  split
  · rename_i letter written
    exact .cons (by decide) (.cons (letterOf_plain written).1 .nil)
  · split
    · rename_i control
      have high := hexDigit_printable (c.toNat / 16) (by omega)
      have low := hexDigit_printable (c.toNat % 16) (by omega)
      have start : Printable ['\\', 'u', '0', '0'] := by decide
      exact start.append (.cons high (.cons low .nil))
    · rename_i plain
      exact .cons (Nat.le_of_not_lt plain) .nil

theorem renderString_printable (text : List Char) : Printable (renderString text) := by
  apply Printable.cons (by decide)
  apply Printable.append
  · intro c member
    obtain ⟨d, _, inside⟩ := List.mem_flatMap.mp member
    exact escape_printable d c inside
  · decide

theorem renderNumber_printable (mantissa : Int) (exponent : Nat) : Printable (renderNumber mantissa exponent) := by
  apply Printable.append
  · cases mantissa with
    | ofNat n => exact toDigits_printable n
    | negSucc n => exact .cons (by decide) (toDigits_printable (n + 1))
  · split
    · exact .nil
    · have sign : Printable ['e', '-'] := by decide
      exact sign.append (toDigits_printable exponent)

mutual

theorem render_printable : ∀ value : Json, Printable (render value)
  | .null => by
      rw [render]
      decide
  | .bool value => by
      rw [render]
      cases value <;> decide
  | .number mantissa exponent => by
      rw [render]
      exact renderNumber_printable mantissa exponent
  | .string text => by
      rw [render]
      exact renderString_printable text.toList
  | .array items => by
      rw [render]
      exact .cons (by decide) ((renderItems_printable items).append (by decide))
  | .object fields => by
      rw [render]
      exact .cons (by decide) ((renderFields_printable fields).append (by decide))

theorem renderItems_printable : ∀ items : List Json, Printable (renderItems items)
  | [] => .nil
  | [item] => render_printable item
  | item :: next :: rest => by
      rw [renderItems]
      exact (render_printable item).append (.cons (by decide) (renderItems_printable (next :: rest)))
      nofun

theorem renderFields_printable : ∀ fields : List (String × Json), Printable (renderFields fields)
  | [] => .nil
  | [(name, value)] => by
      rw [renderFields]
      exact (renderString_printable _).append (.cons (by decide) (render_printable value))
  | (name, value) :: next :: rest => by
      rw [renderFields]
      exact (renderString_printable _).append (.cons (by decide)
        ((render_printable value).append (.cons (by decide) (renderFields_printable (next :: rest)))))
      nofun

end

/-! ## Sizes of strings -/

theorem size_of_ascii {text : List Char} (ascii : ∀ c ∈ text, c.toNat < 128) : Utf8.size text = text.length := by
  induction text with
  | nil => rfl
  | cons c rest ih =>
      have one : c.utf8Size = 1 := by
        rw [Char.utf8Size_eq_one_iff, UInt32.le_iff_toNat_le]
        exact Nat.le_of_lt_succ (ascii c List.mem_cons_self)
      rw [Utf8.size_cons, one, ih fun d member => ascii d (List.mem_cons_of_mem c member), List.length_cons]
      omega

theorem hexDigit_ascii : ∀ digit < 16, (hexDigit digit).toNat < 128 := by decide

theorem letter_size {c letter : Char} (written : letterOf c = some letter) : Utf8.size ['\\', letter] = 2 := by
  have ascii : ∀ d ∈ ['\\', letter], d.toNat < 128 := by
    intro d member
    rcases List.mem_cons.mp member with rfl | last
    · decide
    · rw [List.mem_singleton.mp last]
      exact (letterOf_plain written).2
  exact size_of_ascii ascii

theorem escape_size (c : Char) : Utf8.size (escape c) ≤ 6 * c.utf8Size := by
  have positive := c.utf8Size_pos
  unfold escape
  split
  · rename_i letter written
    rw [letter_size written]
    omega
  · split
    · rename_i control
      have ascii : ∀ d ∈ ['\\', 'u', '0', '0', hexDigit (c.toNat / 16), hexDigit (c.toNat % 16)], d.toNat < 128 := by
        have high := hexDigit_ascii (c.toNat / 16) (by omega)
        have low := hexDigit_ascii (c.toNat % 16) (by omega)
        simp [high, low]
      rw [size_of_ascii ascii]
      simp only [List.length_cons, List.length_nil]
      omega
    · rw [Utf8.size_cons, Utf8.size_nil]
      omega

/-- Without control characters an escape has at most twice the size. -/
theorem escape_size_printable {c : Char} (printable : 32 ≤ c.toNat) : Utf8.size (escape c) ≤ 2 * c.utf8Size := by
  have positive := c.utf8Size_pos
  unfold escape
  split
  · rename_i letter written
    rw [letter_size written]
    omega
  · split
    · omega
    · rw [Utf8.size_cons, Utf8.size_nil]
      omega

end Json
