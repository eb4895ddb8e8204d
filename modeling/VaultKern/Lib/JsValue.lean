import Mathlib.Data.List.Perm.Basic
import Mathlib.Data.Rat.Defs
import Mathlib.Tactic.Linarith

/-! # JavaScript values

The values that a store keeps, with texts of UTF-16 code units and rational numbers. An absent field is
`undefined`.
-/

/-! ## Texts of code units -/

namespace Utf16

def isHigh (unit : UInt16) : Bool := 0xd800 ≤ unit && unit ≤ 0xdbff

def isLow (unit : UInt16) : Bool := 0xdc00 ≤ unit && unit ≤ 0xdfff

/-- The units of a character. -/
def ofChar (c : Char) : List UInt16 :=
  if c.toNat < 0x10000 then [c.toNat.toUInt16]
  else [(0xd800 + (c.toNat - 0x10000) / 0x400).toUInt16, (0xdc00 + (c.toNat - 0x10000) % 0x400).toUInt16]

def ofString (text : String) : List UInt16 := text.toList.flatMap ofChar

/-- No half of a surrogate pair stands alone. -/
def wellFormed : List UInt16 → Bool
  | [] => true
  | [unit] => !isHigh unit && !isLow unit
  | unit :: next :: rest =>
      if isHigh unit then isLow next && wellFormed rest else !isLow unit && wellFormed (next :: rest)

/-- A pair takes four bytes, two for each half. -/
def utf8Size (unit : UInt16) : Nat :=
  if unit < 0x80 then 1 else if unit < 0x800 then 2 else if isHigh unit || isLow unit then 2 else 3

/-- The bytes of a well-formed text. -/
def utf8Length (text : List UInt16) : Nat := (text.map utf8Size).sum

end Utf16

/-! ## Values -/

inductive JsValue where
  | null
  | bool (value : Bool)
  | number (value : Rat)
  | string (text : List UInt16)
  | array (items : List JsValue)
  | object (fields : List (String × JsValue))

/-- The fields of an object. -/
abbrev JsRecord := List (String × JsValue)

namespace JsValue

abbrev text (literal : String) : JsValue := .string (Utf16.ofString literal)

abbrev integer (value : Int) : JsValue := .number value

/-- An object that is not an array. -/
def asObject : Option JsValue → Option JsRecord
  | some (.object fields) => some fields
  | _ => none

def asArray : Option JsValue → Option (List JsValue)
  | some (.array items) => some items
  | _ => none

def asText : Option JsValue → Option (List UInt16)
  | some (.string text) => some text
  | _ => none

def asBool : Option JsValue → Option Bool
  | some (.bool value) => some value
  | _ => none

def asNumber : Option JsValue → Option Rat
  | some (.number value) => some value
  | _ => none

def maxSafeInteger : Int := 9007199254740991

/-- `Number.isSafeInteger` of a whole number. -/
def IsSafe (value : Int) : Prop := -maxSafeInteger ≤ value ∧ value ≤ maxSafeInteger

instance (value : Int) : Decidable (IsSafe value) := inferInstanceAs (Decidable (_ ∧ _))

def safeInteger (value : Option JsValue) : Option Int := do
  let number ← asNumber value
  guard (number.den = 1 ∧ IsSafe number.num)
  return number.num

/-- A field of an object; another value has none. -/
def field (value : JsValue) (name : String) : Option JsValue := (asObject (some value)).bind (·.lookup name)

end JsValue

namespace JsRecord

/-- The fields with one of them set. -/
def set (fields : JsRecord) (name : String) (value : JsValue) : JsRecord :=
  if (fields.lookup name).isSome then fields.map fun f => if f.1 = name then (name, value) else f
  else fields ++ [(name, value)]

/-- `{ ...fields, ...later }`. -/
def spread (fields later : JsRecord) : JsRecord := later.foldl (fun fields f => set fields f.1 f.2) fields

end JsRecord

/-! ## Their text -/

namespace JsValue

open Utf16

def hexUnit (digit : UInt16) : UInt16 := if digit < 10 then 48 + digit else 87 + digit

def unicodeEscape (unit : UInt16) : List UInt16 :=
  [92, 117, hexUnit (unit / 0x1000), hexUnit (unit / 0x100 % 0x10), hexUnit (unit / 0x10 % 0x10), hexUnit (unit % 0x10)]

/-- A unit that is no half of a pair. -/
def escapeUnit (unit : UInt16) : List UInt16 :=
  if unit = 34 ∨ unit = 92 then [92, unit]
  else if unit = 8 then [92, 98]
  else if unit = 9 then [92, 116]
  else if unit = 10 then [92, 110]
  else if unit = 12 then [92, 102]
  else if unit = 13 then [92, 114]
  else if unit < 32 || isHigh unit || isLow unit then unicodeEscape unit
  else [unit]

def escapeUnits : List UInt16 → List UInt16
  | [] => []
  | [unit] => escapeUnit unit
  | unit :: next :: rest =>
      if isHigh unit && isLow next then unit :: next :: escapeUnits rest
      else escapeUnit unit ++ escapeUnits (next :: rest)

def quote (text : List UInt16) : List UInt16 := 34 :: (escapeUnits text ++ [34])

mutual

/-- `JSON.stringify`. -/
def stringify (numberText : Rat → List UInt16) : JsValue → List UInt16
  | .null => ofString "null"
  | .bool value => ofString (if value then "true" else "false")
  | .number value => numberText value
  | .string text => quote text
  | .array items => 91 :: (stringifyItems numberText items ++ [93])
  | .object fields => 123 :: (stringifyFields numberText fields ++ [125])

def stringifyItems (numberText : Rat → List UInt16) : List JsValue → List UInt16
  | [] => []
  | [item] => stringify numberText item
  | item :: rest => stringify numberText item ++ 44 :: stringifyItems numberText rest

def stringifyFields (numberText : Rat → List UInt16) : List (String × JsValue) → List UInt16
  | [] => []
  | [(name, value)] => quote (ofString name) ++ 58 :: stringify numberText value
  | (name, value) :: rest =>
      quote (ofString name) ++ 58 :: (stringify numberText value ++ 44 :: stringifyFields numberText rest)

end

end JsValue

/-! ## Fields that were read -/

namespace JsValue

theorem guard_some {p : Prop} [Decidable p] {u : Unit} : (guard p : Option Unit) = some u ↔ p := by
  by_cases h : p <;> simp [guard, h]

@[simp] theorem guard_pos {p : Prop} [Decidable p] (holds : p) : (guard p : Option Unit) = some () :=
  guard_some.mpr holds

@[simp] theorem asObject_object (fields : JsRecord) : asObject (some (.object fields)) = some fields := rfl

@[simp] theorem asArray_array (items : List JsValue) : asArray (some (.array items)) = some items := rfl

@[simp] theorem asText_string (text : List UInt16) : asText (some (.string text)) = some text := rfl

@[simp] theorem asBool_bool (value : Bool) : asBool (some (.bool value)) = some value := rfl

@[simp] theorem asNumber_number (value : Rat) : asNumber (some (.number value)) = some value := rfl

theorem asObject_some {value : Option JsValue} {fields : JsRecord} (read : asObject value = some fields) :
    value = some (.object fields) := by
  unfold asObject at read
  split at read
  · rw [Option.some.inj read]
  · cases read

theorem asText_some {value : Option JsValue} {text : List UInt16} (read : asText value = some text) :
    value = some (.string text) := by
  unfold asText at read
  split at read
  · rw [Option.some.inj read]
  · cases read

theorem asNumber_some {value : Option JsValue} {number : Rat} (read : asNumber value = some number) :
    value = some (.number number) := by
  unfold asNumber at read
  split at read
  · rw [Option.some.inj read]
  · cases read

theorem safeInteger_integer {value : Int} (safe : IsSafe value) : safeInteger (some (integer value)) = some value := by
  simp [safeInteger, safe]

theorem safeInteger_some {value : Option JsValue} {n : Int} (read : safeInteger value = some n) :
    value = some (integer n) ∧ IsSafe n := by
  obtain ⟨number, isNumber, _, checked, same⟩ : ∃ number, asNumber value = some number ∧ ∃ u : Unit,
      guard (number.den = 1 ∧ IsSafe number.num) = some u ∧ number.num = n := by
    simpa [safeInteger, Option.bind_eq_some_iff] using read
  obtain ⟨whole, safe⟩ := guard_some.mp checked
  subst same
  refine ⟨?_, safe⟩
  rw [asNumber_some isNumber, integer, (Rat.den_eq_one_iff number).mp whole]

end JsValue

namespace JsRecord

theorem lookup_cons (name other : String) (value : JsValue) (rest : JsRecord) :
    List.lookup other ((name, value) :: rest) = if other = name then some value else rest.lookup other := by
  by_cases same : other = name
  · rw [if_pos same, same, List.lookup_cons_self]
  · have apart : (other == name) = false := by simpa using same
    rw [if_neg same, List.lookup_cons, apart]

theorem lookup_of_mem {fields : JsRecord} (distinct : (fields.map (·.1)).Nodup) {f : String × JsValue}
    (member : f ∈ fields) : fields.lookup f.1 = some f.2 := by
  induction fields with
  | nil => cases member
  | cons g rest ih =>
      obtain ⟨apart, distinct⟩ := List.nodup_cons.mp distinct
      rw [lookup_cons]
      rcases List.mem_cons.mp member with rfl | later
      · exact if_pos rfl
      · have other : f.1 ≠ g.1 := fun same => apart (List.mem_map.mpr ⟨f, later, same⟩)
        rw [if_neg other, ih distinct later]

/-- The order of the fields does not matter. -/
theorem lookup_perm {left right : JsRecord} (same : left.Perm right) (distinct : (left.map (·.1)).Nodup)
    (name : String) : left.lookup name = right.lookup name := by
  induction same with
  | nil => rfl
  | cons f _ ih => rw [lookup_cons, lookup_cons, ih (List.nodup_cons.mp distinct).2]
  | swap f g rest =>
      have apart : g.1 ≠ f.1 := fun same => (List.nodup_cons.mp distinct).1 (by simp [same])
      rw [lookup_cons, lookup_cons, lookup_cons, lookup_cons]
      by_cases here : name = g.1
      · rw [if_pos here, if_neg (here ▸ apart), if_pos here]
      · rw [if_neg here, if_neg here]
  | trans first _ ih ih' => exact (ih distinct).trans (ih' ((first.map _).nodup_iff.mp distinct))

theorem lookup_replaced (fields : JsRecord) (name other : String) (value : JsValue) :
    (fields.map fun f => if f.1 = name then (name, value) else f).lookup other =
      if other = name ∧ (fields.lookup name).isSome then some value else fields.lookup other := by
  induction fields with
  | nil => simp
  | cons f rest ih =>
      obtain ⟨key, old⟩ := f
      rw [List.map_cons, lookup_cons, lookup_cons]
      by_cases here : key = name
      · subst here
        rw [if_pos rfl, lookup_cons, ih]
        by_cases asked : other = key
        · simp [asked]
        · simp [asked]
      · rw [if_neg here, if_neg (Ne.symm here), lookup_cons, ih]
        by_cases asked : other = key
        · rw [if_pos asked, if_pos asked, if_neg fun both => here (asked.symm.trans both.1)]
        · rw [if_neg asked, if_neg asked]

theorem lookup_set (fields : JsRecord) (name other : String) (value : JsValue) :
    (set fields name value).lookup other = if other = name then some value else fields.lookup other := by
  unfold set
  split
  · rename_i present
    rw [lookup_replaced]
    simp [present]
  · rename_i missing
    simp only [Bool.not_eq_true, Option.isSome_eq_false_iff, Option.isNone_iff_eq_none] at missing
    rw [List.lookup_append, lookup_cons, List.lookup_nil]
    by_cases asked : other = name
    · simp [asked, missing]
    · simp [asked]

end JsRecord
