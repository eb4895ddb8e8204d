import VaultKern.Lib.Attempt
import VaultKern.Model.Types

/-! # Finding objects by their id

The mutators name groups and entries by the text of their UUID. A search visits
the entries of a group before its children, and takes the first match.
-/

namespace VaultKern

/-! ## The text of a UUID -/

def hexLower (nibble : Nat) : Char := "0123456789abcdef".toList.getD nibble '0'

/-- The last `width` hexadecimal digits of a number. -/
def hexDigits : Nat → Nat → List Char
  | 0, _ => []
  | width + 1, n => hexDigits width (n / 16) ++ [hexLower (n % 16)]

def hyphenated (digits : List Char) : List Char :=
  digits.take 8 ++ '-' :: (digits.drop 8).take 4 ++ '-' :: (digits.drop 12).take 4 ++
    '-' :: (digits.drop 16).take 4 ++ '-' :: digits.drop 20

/-- `Uuid::to_string`. -/
@[irreducible] def uuidToString (id : Uuid) : String := String.ofList (hyphenated (hexDigits 32 id.val))

def hexDigitValue (c : Char) : Option Nat :=
  if '0' ≤ c ∧ c ≤ '9' then some (c.toNat - '0'.toNat)
  else if 'a' ≤ c ∧ c ≤ 'f' then some (c.toNat - 'a'.toNat + 10)
  else if 'A' ≤ c ∧ c ≤ 'F' then some (c.toNat - 'A'.toNat + 10)
  else none

def hexValue (digits : List Char) : Option Nat :=
  digits.foldl (fun total c => do return (← total) * 16 + (← hexDigitValue c)) (some 0)

def parseSimpleUuid (digits : List Char) : Option Uuid := do
  let n ← hexValue digits
  if h : digits.length = 32 ∧ n < 2 ^ 128 then some ⟨n, h.2⟩ else none

def parseHyphenatedUuid (chars : List Char) : Option Uuid :=
  if chars.length = 36 ∧ [8, 13, 18, 23].all (fun i => chars[i]? = some '-') then
    parseSimpleUuid (chars.take 8 ++ (chars.drop 9).take 4 ++ (chars.drop 14).take 4 ++
      (chars.drop 19).take 4 ++ chars.drop 24)
  else none

/-- `Uuid::parse_str`: plain digits, hyphenated, in braces, or as a URN. -/
def uuidParseStr (text : String) : Option Uuid :=
  let chars := text.toList
  match chars.length with
  | 32 => parseSimpleUuid chars
  | 36 => parseHyphenatedUuid chars
  | 38 => if chars.head? = some '{' ∧ chars.getLast? = some '}' then
      parseHyphenatedUuid (chars.drop 1).dropLast else none
  | 45 => if chars.take 9 = "urn:uuid:".toList then parseHyphenatedUuid (chars.drop 9) else none
  | _ => none

theorem hexLower_ne_hyphen (nibble : Nat) : hexLower nibble ≠ '-' := by
  by_cases small : nibble < 16
  · have all : ∀ n : Fin 16, hexLower n ≠ '-' := by decide
    exact all ⟨nibble, small⟩
  · have outside : "0123456789abcdef".toList.length ≤ nibble := by
      have length : "0123456789abcdef".toList.length = 16 := by decide
      omega
    rw [hexLower, List.getD_eq_getElem?_getD, List.getElem?_eq_none outside]
    decide

theorem hexLower_injective {m n : Nat} (left : m < 16) (right : n < 16) (same : hexLower m = hexLower n) :
    m = n := by
  have all : ∀ m n : Fin 16, hexLower m = hexLower n → m = n := by decide
  exact congrArg Fin.val (all ⟨m, left⟩ ⟨n, right⟩ same)

theorem hexDigits_injective {width m n : Nat} (left : m < 16 ^ width) (right : n < 16 ^ width)
    (same : hexDigits width m = hexDigits width n) : m = n := by
  induction width generalizing m n with
  | zero =>
      simp only [Nat.pow_zero, Nat.lt_one_iff] at left right
      rw [left, right]
  | succ width ih =>
      simp only [hexDigits] at same
      obtain ⟨high, low⟩ := List.append_inj' same rfl
      have power : 16 ^ (width + 1) = 16 ^ width * 16 := Nat.pow_succ ..
      have highEq := ih (Nat.div_lt_of_lt_mul (by omega)) (Nat.div_lt_of_lt_mul (by omega)) high
      have lowEq := hexLower_injective (Nat.mod_lt m (by omega)) (Nat.mod_lt n (by omega)) (List.cons.inj low).1
      omega

theorem mem_hexDigits {width n : Nat} {c : Char} (member : c ∈ hexDigits width n) : c ≠ '-' := by
  induction width generalizing n with
  | zero => simp [hexDigits] at member
  | succ width ih =>
      rcases List.mem_append.mp member with high | low
      · exact ih high
      · rw [List.mem_singleton.mp low]
        exact hexLower_ne_hyphen _

theorem hyphenated_digits {digits : List Char} (plain : ∀ c ∈ digits, c ≠ '-') :
    (hyphenated digits).filter (· ≠ '-') = digits := by
  have keep (part : List Char) (sub : part ⊆ digits) : part.filter (· ≠ '-') = part :=
    List.filter_eq_self.mpr fun c member => by simpa using plain c (sub member)
  have middle (i n : Nat) : (digits.drop i).take n ⊆ digits :=
    fun c member => List.mem_of_mem_drop (List.mem_of_mem_take member)
  simp only [hyphenated, List.filter_append, List.filter_cons, keep _ (List.take_subset 8 digits), keep _ (middle _ _),
    keep _ (List.drop_subset 20 digits)]
  have join (i n : Nat) : (digits.drop i).take n ++ digits.drop (i + n) = digits.drop i := by
    rw [← List.drop_drop, List.take_append_drop]
  simp only [ne_eq, not_true_eq_false, decide_false, Bool.false_eq_true, if_false, List.append_assoc,
    join 16 4, join 12 4, join 8 4, List.take_append_drop]

theorem uuidToString_injective {a b : Uuid} (same : uuidToString a = uuidToString b) : a = b := by
  have chars := congrArg (fun text : String => text.toList.filter (· ≠ '-')) same
  simp only [uuidToString, String.toList_ofList] at chars
  rw [hyphenated_digits fun c => mem_hexDigits, hyphenated_digits fun c => mem_hexDigits] at chars
  exact Fin.ext (hexDigits_injective (by omega) (by omega) chars)

/-! ## Groups -/

section Find

variable (id : String)

mutual
def findGroupById : Group → Option Group
  | ⟨fields, entries, children⟩ =>
      if uuidToString fields.id = id then some ⟨fields, entries, children⟩ else findGroupIn children

def findGroupIn : List Group → Option Group
  | [] => none
  | child :: rest => (findGroupById child).or (findGroupIn rest)
end

mutual
/-- Write through the reference that `find_group_by_id_mut` returns. -/
def putGroupById (group : Group) : Group → Group
  | ⟨fields, entries, children⟩ =>
      if uuidToString fields.id = id then group else ⟨fields, entries, putGroupIn group children⟩

def putGroupIn (group : Group) : List Group → List Group
  | [] => []
  | child :: rest =>
      if (findGroupById id child).isSome then putGroupById group child :: rest
      else child :: putGroupIn group rest
end

mutual
theorem putGroupById_same {group : Group} : ∀ root : Group, findGroupById id root = some group →
    putGroupById id group root = root
  | ⟨fields, entries, children⟩, found => by
      simp only [findGroupById] at found
      simp only [putGroupById]
      split
      · rename_i here
        simp only [here, if_true, Option.some.injEq] at found
        exact found.symm
      · rename_i apart
        simp only [apart, if_false] at found
        rw [putGroupIn_same children found]

theorem putGroupIn_same {group : Group} : ∀ children : List Group, findGroupIn id children = some group →
    putGroupIn id group children = children
  | [], found => by cases found
  | child :: rest, found => by
      simp only [findGroupIn] at found
      simp only [putGroupIn]
      cases here : findGroupById id child with
      | none =>
          rw [here, Option.none_or] at found
          simp [putGroupIn_same rest found]
      | some inside =>
          rw [here, Option.some_or] at found
          cases found
          simp [putGroupById_same child here]
end

/-! ## Entries -/

mutual
def findEntryById : Group → Option Entry
  | ⟨_, entries, children⟩ =>
      (entries.find? fun entry => uuidToString entry.id = id).or (findEntryIn children)

def findEntryIn : List Group → Option Entry
  | [] => none
  | child :: rest => (findEntryById child).or (findEntryIn rest)
end

/-- The first entry with the id is replaced. -/
def replaceEntry (entry : Entry) : List Entry → List Entry
  | [] => []
  | first :: rest =>
      if uuidToString first.id = id then entry :: rest else first :: replaceEntry entry rest

mutual
/-- Write through the reference that `find_entry_by_id_mut` returns. -/
def putEntryById (entry : Entry) : Group → Group
  | ⟨fields, entries, children⟩ =>
      if (entries.find? fun entry => uuidToString entry.id = id).isSome then
        ⟨fields, replaceEntry id entry entries, children⟩
      else ⟨fields, entries, putEntryIn entry children⟩

def putEntryIn (entry : Entry) : List Group → List Group
  | [] => []
  | child :: rest =>
      if (findEntryById id child).isSome then putEntryById entry child :: rest
      else child :: putEntryIn entry rest
end

theorem replaceEntry_same {entries : List Entry} {entry : Entry}
    (found : (entries.find? fun entry => uuidToString entry.id = id) = some entry) :
    replaceEntry id entry entries = entries := by
  induction entries with
  | nil => rfl
  | cons first rest ih =>
      simp only [replaceEntry]
      split
      · rename_i here
        rw [List.find?_cons_of_pos (by simpa using here)] at found
        rw [Option.some.inj found]
      · rename_i apart
        rw [List.find?_cons_of_neg (by simpa using apart)] at found
        rw [ih found]

mutual
theorem putEntryById_same {entry : Entry} : ∀ root : Group, findEntryById id root = some entry →
    putEntryById id entry root = root
  | ⟨fields, entries, children⟩, found => by
      simp only [findEntryById] at found
      simp only [putEntryById]
      cases here : entries.find? fun entry => uuidToString entry.id = id with
      | none =>
          rw [here, Option.none_or] at found
          simp [putEntryIn_same children found]
      | some inside =>
          rw [here, Option.some_or] at found
          cases found
          simp [replaceEntry_same id here]

theorem putEntryIn_same {entry : Entry} : ∀ children : List Group, findEntryIn id children = some entry →
    putEntryIn id entry children = children
  | [], found => by cases found
  | child :: rest, found => by
      simp only [findEntryIn] at found
      simp only [putEntryIn]
      cases here : findEntryById id child with
      | none =>
          rw [here, Option.none_or] at found
          simp [putEntryIn_same rest found]
      | some inside =>
          rw [here, Option.some_or] at found
          cases found
          simp [putEntryById_same child here]
end

end Find

end VaultKern
