import VaultKern.Lib.Base64
import VaultKern.Model.Credentials
import VaultKern.Model.Text

/-! # Scalars of the XML document

Every field of the vault is a text in the file. Each kind of field has its writer and
its reader here: booleans, counters, times, UUIDs and tags.
-/

namespace VaultKern.Kdbx

inductive KdbxVersion where
  | v2_0 | v3_0 | v3_1 | v4_0 | v4_1
  deriving DecidableEq

inductive ExternalKdfAlgorithm where
  | aesKdbx3 | aesKdbx4 | argon2d | argon2id
  deriving DecidableEq

inductive ExternalKdfParameter where
  | rounds | iterations | memoryBytes | parallelism
  deriving DecidableEq

inductive ExternalKdfDecision where
  | allow
  | confirm (limit : UInt64)
  | refuse (limit : UInt64)
  | forbid
  deriving DecidableEq

inductive KdbxError where
  | unexpectedEof
  | invalidValue
  | invalidXmlModel (location rule : String)
  | headerHashMismatch
  | headerHmacMismatch
  | payloadHmacMismatch
  | payloadHashMismatch
  | unsupportedVersion
  | unsupportedKdf
  | unsupportedInnerStream
  | invalidKdfParameters (algorithm : ExternalKdfAlgorithm) (parameter : ExternalKdfParameter) (value : UInt64)
  | externalKdfPolicy (algorithm : ExternalKdfAlgorithm) (observed : UInt64) (decision : ExternalKdfDecision)
  | xml (message : String)
  | crypto
  | attachmentContentHashCollision
  deriving DecidableEq

/-! ## Booleans -/

def parseBoolText (text : String) : Bool :=
  let text := trimText text
  eqIgnoreAsciiCase text "true" || text = "1"

def parseBoolTextStrict (text : String) : Option Bool :=
  let text := trimText text
  if eqIgnoreAsciiCase text "true" || text = "1" then some true
  else if eqIgnoreAsciiCase text "false" || text = "0" then some false
  else none

def parseNullableBoolStrict (text : String) : Option (Option Bool) :=
  let text := trimText text
  if text.isEmpty || eqIgnoreAsciiCase text "null" then some none
  else (parseBoolTextStrict text).map some

def parseNullableBool (text : String) : Option Bool := (parseNullableBoolStrict text).join

def boolText (value : Bool) : String := if value then "True" else "False"

/-! ## Numbers -/

/-- Whether the number is negative, and its digits. -/
def takeSign : List Char → Bool × List Char
  | '-' :: rest => (true, rest)
  | '+' :: rest => (false, rest)
  | chars => (false, chars)

/-- Signed decimal text of a type with `bits` bits. -/
def parseSigned (bits : Nat) (text : String) : Option Int :=
  let (negative, digits) := takeSign text.toList
  if digits.isEmpty || !digits.all Char.isDigit then none
  else
    let magnitude : Int := Nat.ofDigitChars 10 digits 0
    let value := if negative then -magnitude else magnitude
    if -2 ^ (bits - 1) ≤ value ∧ value < 2 ^ (bits - 1) then some value else none

/-- `i64::to_le_bytes`. -/
def toLeBytes64 (value : Int) : List UInt8 :=
  let word := (value % 2 ^ 64).toNat
  (List.range 8).map fun i => UInt8.ofNat (word / 256 ^ i)

def natOfLeBytes (bytes : List UInt8) : Nat := bytes.foldr (fun byte total => byte.toNat + 256 * total) 0

/-- `i64::from_le_bytes`. -/
def fromLeBytes64 (bytes : List UInt8) : Int :=
  let word : Int := natOfLeBytes bytes
  if word < 2 ^ 63 then word else word - 2 ^ 64

/-! ## Times -/

/-- The text of a time in KDBX 4: base64, or decimal where the shifted time does not fit. -/
def datetimeText (seconds : Int) : String :=
  if -2 ^ 63 ≤ seconds ∧ seconds + kdbx4TimeOffset < 2 ^ 63 then
    Base64.encode (toLeBytes64 (seconds + kdbx4TimeOffset))
  else toString seconds

section Reading

variable (rfc3339 : String → Option Int)

/-- `rfc3339` is `DateTime::parse_from_rfc3339` followed by `timestamp`. -/
def parseDatetimeI64 (text : String) : Option Int :=
  let text := trimText text
  match parseSigned 64 text with
  | some value => some value
  | none =>
      match (Base64.decode text).filter (·.length = 8) with
      | some bytes =>
          let raw := fromLeBytes64 bytes
          if -2 ^ 63 ≤ raw - kdbx4TimeOffset then some (raw - kdbx4TimeOffset) else none
      | none => rfc3339 text

def parseDatetimeValue (text : String) : Option Nat :=
  let text := trimText text
  match parseUnsigned (2 ^ 64) text with
  | some value => some value
  | none =>
      match parseDatetimeI64 rfc3339 text with
      | some value => if 0 ≤ value then some value.toNat else none
      | none => none

def parseOptionalDatetime (text : String) : Option Int :=
  if (trimText text).isEmpty then none else parseDatetimeI64 rfc3339 text

end Reading

/-! ## UUIDs -/

/-- `Uuid::as_bytes`: big endian. -/
def uuidBytes (id : Uuid) : List UInt8 :=
  (List.range 16).map fun i => UInt8.ofNat (id.val / 256 ^ (15 - i))

def uuidFromSlice (bytes : List UInt8) : Option Uuid :=
  if bytes.length = 16 then some (Fin.ofNat (2 ^ 128) (natOfLeBytes bytes.reverse)) else none

def isNil (id : Uuid) : Bool := id.val = 0

def encodeUuid (id : Uuid) : String := Base64.encode (uuidBytes id)

def decodeUuid (text : String) : Except KdbxError Uuid :=
  match (Base64.decode (trimText text)).bind uuidFromSlice with
  | some id => .ok id
  | none => .error .invalidValue

def parseOptionalUuid (text : String) : Except KdbxError (Option Uuid) :=
  if (trimText text).isEmpty then .ok none
  else do
    let id ← decodeUuid (trimText text)
    if isNil id then .ok none else .ok (some id)

/-! ## Tags -/

/-- `str::split` at every character of a kind. -/
def splitAt (separator : Char → Bool) : List Char → List (List Char)
  | [] => [[]]
  | c :: rest =>
      if separator c then [] :: splitAt separator rest
      else match splitAt separator rest with
        | piece :: pieces => (c :: piece) :: pieces
        | [] => [[c]]

def isTagSeparator (c : Char) : Bool := c = ',' || c = ';'

def parseTags (tags : String) : BTreeSet String :=
  .ofList (((splitAt isTagSeparator tags.toList).map fun piece => trimText (String.ofList piece)).filter
    fun tag => !tag.isEmpty) compare

def joinTags (tags : BTreeSet String) : String := ";".intercalate tags.toList

/-! ## Plain text

Written scalars use letters, digits and a few signs, which no reader of XML changes.
-/

def IsPlain (c : Char) : Prop := Base64.IsDigit c ∨ c = '-'

def Plain (text : String) : Prop := ∀ c ∈ text.toList, IsPlain c

theorem isWhitespace_of_isAlphanum {c : Char} (known : c.isAlphanum) : isWhitespace c = false := by
  simp only [Base64.isAlphanum_eq, Bool.or_eq_true, Bool.and_eq_true, decide_eq_true_eq, UInt32.le_iff_toNat_le] at known
  simp only [isWhitespace, Bool.or_eq_false_iff, Bool.and_eq_false_iff, decide_eq_false_iff_not,
    UInt32.le_iff_toNat_le, ← UInt32.toNat_inj]
  simp at *
  omega

theorem IsPlain.not_whitespace {c : Char} (plain : IsPlain c) : isWhitespace c = false := by
  rcases plain with (known | rfl | rfl | rfl) | rfl
  · exact isWhitespace_of_isAlphanum known
  all_goals decide

theorem dropWhile_none {p : Char → Bool} {chars : List Char} (none : ∀ c ∈ chars, p c = false) :
    chars.dropWhile p = chars := by
  cases chars with
  | nil => rfl
  | cons c rest => rw [List.dropWhile_cons_of_neg (by simp [none c List.mem_cons_self])]

theorem trimText_plain {text : String} (plain : Plain text) : trimText text = text := by
  have clean : ∀ c ∈ text.toList, isWhitespace c = false := fun c member => (plain c member).not_whitespace
  rw [trimText, dropWhile_none clean, dropWhile_none (by simpa using clean), List.reverse_reverse,
    String.ofList_toList]

theorem plain_encode (bytes : List UInt8) : Plain (Base64.encode bytes) := by
  intro c member
  rw [Base64.encode, String.toList_ofList] at member
  exact .inl (Base64.encodeChars_isDigit bytes c member)

theorem isPlain_of_isDigit {c : Char} (digit : c.isDigit) : IsPlain c :=
  .inl (.inl (by simp [Char.isAlphanum, digit]))

theorem plain_natToString (n : Nat) : Plain (toString n) := by
  intro c member
  rw [Nat.toString_eq_repr, Nat.toList_repr] at member
  exact isPlain_of_isDigit (Nat.isDigit_of_mem_toDigits (by decide) (by decide) member)

/-! ## Round trips -/

theorem foldl_digits {bound : Nat} : ∀ {digits : List Char} {start : Nat},
    (∀ c ∈ digits, c.isDigit) → Nat.ofDigitChars 10 digits start < bound →
    digits.foldl (fun total c => do
      let n ← total
      if c.isDigit then
        let next := n * 10 + (c.toNat - '0'.toNat)
        if next < bound then some next else none
      else none) (some start) = some (Nat.ofDigitChars 10 digits start)
  | [], start, _, _ => rfl
  | c :: rest, start, digits, small => by
      have first := digits c List.mem_cons_self
      rw [Nat.ofDigitChars_cons] at small ⊢
      have grows : ∀ (chars : List Char) (n : Nat), n ≤ Nat.ofDigitChars 10 chars n := by
        intro chars
        induction chars with
        | nil => intro n; exact Nat.le_refl n
        | cons c chars ih =>
            intro n
            rw [Nat.ofDigitChars_cons]
            exact Nat.le_trans (by omega) (ih _)
      have next : start * 10 + (c.toNat - '0'.toNat) = 10 * start + (c.toNat - '0'.toNat) := by omega
      have below := Nat.lt_of_le_of_lt (grows rest _) small
      rw [List.foldl_cons]
      simp only [Option.bind_eq_bind, Option.bind_some, first, if_true, next, below]
      exact foldl_digits (fun c member => digits c (List.mem_cons_of_mem _ member)) small

theorem toDigits_digits (n : Nat) : ∀ c ∈ Nat.toDigits 10 n, c.isDigit := fun _ member =>
  Nat.isDigit_of_mem_toDigits (by decide) (by decide) member

theorem toDigits_head_not_sign {n : Nat} {c : Char} {rest : List Char} (digits : Nat.toDigits 10 n = c :: rest) :
    c ≠ '+' ∧ c ≠ '-' := by
  have digit := toDigits_digits n c (digits ▸ List.mem_cons_self)
  constructor
  · rintro rfl
    cases digit
  · rintro rfl
    cases digit

theorem parseUnsigned_toString {bound n : Nat} (small : n < bound) : parseUnsigned bound (toString n) = some n := by
  have spelled : (toString n).toList = Nat.toDigits 10 n := Nat.toList_repr
  have folded := @foldl_digits bound _ 0 (toDigits_digits n)
    (by rw [Nat.ofDigitChars_ten_toDigits]; exact small)
  rw [Nat.ofDigitChars_ten_toDigits] at folded
  unfold parseUnsigned
  rw [spelled]
  cases digits : Nat.toDigits 10 n with
  | nil => exact absurd digits Nat.toDigits_ne_nil
  | cons c rest =>
      have sign := (toDigits_head_not_sign digits).1
      rw [digits] at folded
      simp only
      split
      · rename_i same
        exact absurd (List.cons.inj same).1 sign
      · exact folded

/-- The bounds of a signed type. -/
def FitsSigned (bits : Nat) (value : Int) : Prop := -2 ^ (bits - 1) ≤ value ∧ value < 2 ^ (bits - 1)

theorem foldl_mono {A S : Type} {first second : Option S → A → Option S} (stuck : ∀ a, first none a = none)
    (mono : ∀ start a next, first start a = some next → second start a = some next) {list : List A} {start : Option S}
    {result : S} (folded : list.foldl first start = some result) : list.foldl second start = some result := by
  have stays : ∀ rest : List A, rest.foldl first none = none := by
    intro rest
    induction rest with
    | nil => rfl
    | cons a rest ih => rwa [List.foldl_cons, stuck]
  induction list generalizing start with
  | nil => exact folded
  | cons a rest ih =>
      rw [List.foldl_cons] at folded ⊢
      cases step : first start a with
      | none =>
          rw [step, stays] at folded
          cases folded
      | some next =>
          rw [mono start a next step]
          rw [step] at folded
          exact ih folded

/-- A larger bound reads no other number. -/
theorem parseUnsigned_mono {bound larger n : Nat} {text : String} (wider : bound ≤ larger)
    (parsed : parseUnsigned bound text = some n) : parseUnsigned larger text = some n := by
  let read (limit : Nat) (total : Option Nat) (c : Char) : Option Nat := do
    let n ← total
    if c.isDigit then
      let next := n * 10 + (c.toNat - '0'.toNat)
      if next < limit then some next else none
    else none
  have grows : ∀ start c next, read bound start c = some next → read larger start c = some next := by
    intro start c next taken
    cases start with
    | none => cases taken
    | some total =>
        simp only [read, Option.bind_eq_bind, Option.bind_some] at taken ⊢
        by_cases digit : c.isDigit
        · rw [if_pos digit] at taken ⊢
          by_cases small : total * 10 + (c.toNat - '0'.toNat) < bound
          · rw [if_pos small] at taken
            rw [if_pos (Nat.lt_of_lt_of_le small wider), taken]
          · rw [if_neg small] at taken
            cases taken
        · rw [if_neg digit] at taken
          cases taken
  have digits : ∀ chars : List Char, (if chars.isEmpty then none else chars.foldl (read bound) (some 0)) = some n →
      (if chars.isEmpty then none else chars.foldl (read larger) (some 0)) = some n := by
    intro chars folded
    split at folded
    · cases folded
    · rename_i given
      rw [if_neg given]
      exact foldl_mono (fun _ => rfl) grows folded
  exact digits _ parsed

/-- A text of a number is read as that number, if it is read. -/
theorem parseUnsigned_toString_some {bound n m : Nat} (parsed : parseUnsigned bound (toString n) = some m) : m = n := by
  have wide := parseUnsigned_mono (Nat.le_max_left bound (n + 1)) parsed
  rw [parseUnsigned_toString (Nat.lt_of_lt_of_le (Nat.lt_succ_self n) (Nat.le_max_right bound (n + 1)))] at wide
  exact (Option.some.inj wide).symm

theorem natOfLeBytes_digits : ∀ (count word : Nat),
    natOfLeBytes ((List.range count).map fun i => UInt8.ofNat (word / 256 ^ i)) = word % 256 ^ count
  | 0, word => by simp [natOfLeBytes, Nat.mod_one]
  | count + 1, word => by
      have later := natOfLeBytes_digits count (word / 256)
      have shifted : (List.range (count + 1)).map (fun i => UInt8.ofNat (word / 256 ^ i)) =
          UInt8.ofNat word :: (List.range count).map fun i => UInt8.ofNat (word / 256 / 256 ^ i) := by
        rw [List.range_succ_eq_map, List.map_cons, List.map_map]
        refine congrArg₂ _ (by simp) (List.map_congr_left fun i _ => ?_)
        rw [Function.comp_apply, Nat.div_div_eq_div_mul, Nat.pow_succ, Nat.mul_comm 256]
      rw [shifted]
      have peel : natOfLeBytes (UInt8.ofNat word :: (List.range count).map fun i => UInt8.ofNat (word / 256 / 256 ^ i)) =
          (UInt8.ofNat word).toNat +
            256 * natOfLeBytes ((List.range count).map fun i => UInt8.ofNat (word / 256 / 256 ^ i)) := rfl
      have split := Nat.mod_mul (x := word) (a := 256) (b := 256 ^ count)
      rw [peel, later, UInt8.toNat_ofNat', Nat.pow_succ 256 count, Nat.mul_comm (256 ^ count), split]

theorem map_range_reverse {A : Type} (f : Nat → A) (count : Nat) :
    ((List.range count).map fun i => f (count - 1 - i)).reverse = (List.range count).map f := by
  apply List.ext_getElem
  · simp
  · intro i left right
    have small : i < count := by simpa using right
    simp only [List.getElem_reverse, List.getElem_map, List.getElem_range, List.length_map, List.length_range]
    congr 1
    omega

theorem natOfLeBytes_reverse_uuidBytes (id : Uuid) : natOfLeBytes (uuidBytes id).reverse = id.val := by
  have reversed : (uuidBytes id).reverse = (List.range 16).map fun i => UInt8.ofNat (id.val / 256 ^ i) :=
    map_range_reverse (fun i => UInt8.ofNat (id.val / 256 ^ i)) 16
  rw [reversed, natOfLeBytes_digits]
  have bound := id.isLt
  generalize id.val = n at bound ⊢
  omega

theorem uuidFromSlice_uuidBytes (id : Uuid) : uuidFromSlice (uuidBytes id) = some id := by
  have sixteen : (uuidBytes id).length = 16 := by simp [uuidBytes]
  rw [uuidFromSlice, if_pos sixteen, natOfLeBytes_reverse_uuidBytes]
  rw [Fin.ofNat_val_eq_self]

theorem plain_encodeUuid (id : Uuid) : Plain (encodeUuid id) := plain_encode _

@[simp] theorem decodeUuid_encodeUuid (id : Uuid) : decodeUuid (encodeUuid id) = .ok id := by
  rw [decodeUuid, trimText_plain (plain_encodeUuid id), encodeUuid, Base64.decode_encode, Option.bind_some,
    uuidFromSlice_uuidBytes]

/-! ### Tags -/

/-- `tags_are_persistence_valid`, for one tag. -/
def tagIsPersistenceValid (tag : String) : Bool :=
  !tag.isEmpty && trimText tag = tag && !tag.toList.any isTagSeparator

def tagsArePersistenceValid (tags : BTreeSet String) : Bool := tags.toList.all tagIsPersistenceValid

end VaultKern.Kdbx
