import VaultKern.Guarantees.AutofillTarget
import VaultKern.Guarantees.CanonicalContent

/-! # The text of a plan

The digest of a plan is taken of a text that tells the plan: every part delimits itself.
-/

namespace VaultKern

open Framing Kdbx

/-! ## Numbers and texts -/

theorem bigEndian_eq (width n : Nat) : bigEndian width n = (leBytes width n).reverse := by
  unfold bigEndian leBytes
  rw [← List.map_reverse]
  apply List.map_congr_left
  intro i _
  rw [Nat.shiftRight_eq_div_pow, Nat.pow_mul]

/-- A number of that many bytes. -/
def CodesNumber (width n : Nat) (s : List UInt8) : Prop := n < 256 ^ width ∧ s = bigEndian width n

theorem delimits_number (width : Nat) : Delimits (CodesNumber width) := by
  apply Unambiguous.delimits _ width
  · rintro n s ⟨_, rfl⟩
    simp [bigEndian]
  · rintro n m s ⟨left, rfl⟩ ⟨right, same⟩
    rw [bigEndian_eq, bigEndian_eq, List.reverse_inj] at same
    exact leBytes_injective left right same

/-- A text whose length is a number of 64 bits. -/
def Short (text : String) : Prop := text.utf8ByteSize < 2 ^ 64

theorem bytes_size (text : String) : text.toUTF8.toList.length = text.utf8ByteSize := by
  rw [Utf8.toList_eq]
  rfl

/-- A total writer, on the values that are fit for it. -/
def Codes {A : Type} (fits : A → Prop) (write : A → List UInt8) (a : A) (s : List UInt8) : Prop := fits a ∧ s = write a

theorem delimits_hashText : Delimits (Codes Short hashText) := by
  have headed : Delimits (Headed (CodesNumber 8) fun (text : String) s => s = text.toUTF8.toList) := by
    apply (delimits_number 8).headed
    intro a b s here there
    exact Utf8.bytes_injective (here.symm.trans there)
  apply headed.mono
  rintro text s ⟨short, rfl⟩
  refine ⟨bigEndian 8 text.toUTF8.toList.length, text.toUTF8.toList, ⟨?_, rfl⟩, rfl, rfl⟩
  rw [bytes_size]
  exact short

theorem delimits_byte {A : Type} {fits : A → Prop} {write : A → UInt8} (told : ∀ a b, write a = write b → a = b) :
    Delimits (Codes fits fun a => [write a]) := by
  apply Unambiguous.delimits _ 1
  · rintro a s ⟨_, rfl⟩
    rfl
  · rintro a b s ⟨_, rfl⟩ ⟨_, same⟩
    exact told a b (List.cons.inj same).1

theorem delimits_hashOptional : Delimits (Codes (fun text : Option String => ∀ value ∈ text, Short value) hashOptional) := by
  apply (delimits_hashText.optional 0 1 (by decide)).mono
  rintro (_ | text) s ⟨short, rfl⟩
  · rfl
  · exact ⟨hashText text, ⟨short text rfl, rfl⟩, rfl⟩

/-! ## Plans -/

structure ValidatedUpdateFields.Short (fields : ValidatedUpdateFields) : Prop where
  username : VaultKern.Short fields.username
  password : VaultKern.Short fields.password
  url : VaultKern.Short fields.url

structure ValidatedEntryFields.Short (values : ValidatedEntryFields) : Prop where
  title : VaultKern.Short values.title
  username : VaultKern.Short values.username
  password : VaultKern.Short values.password
  url : VaultKern.Short values.url
  notes : VaultKern.Short values.notes

structure TotpSpec.Short (spec : TotpSpec) : Prop where
  secret : VaultKern.Short spec.secretBase32
  digits : spec.digits < 2 ^ 32
  period : spec.periodSeconds < 2 ^ 64
  issuer : ∀ text ∈ spec.issuer, VaultKern.Short text
  account : ∀ text ∈ spec.accountName, VaultKern.Short text

structure ValidatedFields.Short (fields : ValidatedFields) : Prop where
  values : fields.values.Short
  totp : ∀ spec ∈ fields.totp, spec.Short
  customCount : fields.customFields.size < 2 ^ 64
  customFields : ∀ (key : String) (field : CustomField), fields.customFields[key]? = some field →
    VaultKern.Short key ∧ VaultKern.Short field.value

def ValidatedPlan.Short : ValidatedPlan → Prop
  | .update entryId expectedFields desiredFields => VaultKern.Short entryId ∧ expectedFields.Short ∧ desiredFields.Short
  | .create parentGroupId plannedEntryId expectedMatchingEntryIds desiredFields =>
      VaultKern.Short parentGroupId ∧ VaultKern.Short plannedEntryId ∧ expectedMatchingEntryIds.length < 2 ^ 64 ∧
        (∀ id ∈ expectedMatchingEntryIds, VaultKern.Short id) ∧ desiredFields.Short

/-- One part told, and the rest still equal. -/
theorem Codes.told {A : Type} {fits : A → Prop} {write : A → List UInt8} (delimits : Delimits (Codes fits write)) {a b : A}
    {x y : List UInt8} (left : fits a) (right : fits b) (same : write a ++ x = write b ++ y) : a = b ∧ x = y :=
  delimits ⟨left, rfl⟩ ⟨right, rfl⟩ same

theorem delimits_hashUpdateFields : Delimits (Codes ValidatedUpdateFields.Short hashUpdateFields) := by
  rintro a b s t x y ⟨left, rfl⟩ ⟨right, rfl⟩ same
  simp only [hashUpdateFields, List.append_assoc] at same
  obtain ⟨usernames, same⟩ := Codes.told delimits_hashText left.username right.username same
  obtain ⟨passwords, same⟩ := Codes.told delimits_hashText left.password right.password same
  obtain ⟨urls, same⟩ := Codes.told delimits_hashText left.url right.url same
  cases a
  cases b
  simp_all only
  exact ⟨trivial, trivial⟩

theorem delimits_hashTotp : Delimits (Codes (fun totp : Option TotpSpec => ∀ spec ∈ totp, spec.Short) hashTotp) := by
  have spec : Delimits (Codes TotpSpec.Short fun totp => hashText totp.secretBase32 ++ [hashAlgorithm totp.algorithm] ++
      bigEndian 4 totp.digits ++ bigEndian 8 totp.periodSeconds ++ hashOptional totp.issuer ++
      hashOptional totp.accountName) := by
    rintro a b s t x y ⟨left, rfl⟩ ⟨right, rfl⟩ same
    simp only [List.append_assoc] at same
    obtain ⟨secrets, same⟩ := Codes.told delimits_hashText left.secret right.secret same
    have algorithm : Delimits (Codes (fun _ => True) fun algorithm => [hashAlgorithm algorithm]) := by
      apply delimits_byte
      intro a b same
      cases a <;> cases b <;> first | rfl | exact absurd same (by decide)
    obtain ⟨algorithms, same⟩ := Codes.told algorithm trivial trivial same
    obtain ⟨digits, same⟩ := delimits_number 4 ⟨left.digits, rfl⟩ ⟨right.digits, rfl⟩ same
    obtain ⟨periods, same⟩ := delimits_number 8 ⟨left.period, rfl⟩ ⟨right.period, rfl⟩ same
    obtain ⟨issuers, same⟩ := Codes.told delimits_hashOptional left.issuer right.issuer same
    obtain ⟨accounts, same⟩ := Codes.told delimits_hashOptional left.account right.account same
    cases a
    cases b
    simp_all only
    exact ⟨trivial, trivial⟩
  apply (spec.optional 0 1 (by decide)).mono
  rintro (_ | totp) s ⟨short, rfl⟩
  · rfl
  · exact ⟨_, ⟨short totp rfl, rfl⟩, rfl⟩

theorem delimits_hashCustomFields : Delimits (Codes (fun fields : BTreeMap String CustomField => fields.size < 2 ^ 64 ∧
    ∀ (key : String) (field : CustomField), fields[key]? = some field → Short key ∧ Short field.value)
    fun fields => bigEndian 8 fields.size ++ fields.toList.flatMap fun (key, field) =>
      hashText key ++ hashText field.value ++ [if field.isProtected then 1 else 0]) := by
  have pair : Delimits (Codes (fun entry : String × CustomField => Short entry.1 ∧ Short entry.2.value) fun entry =>
      hashText entry.1 ++ hashText entry.2.value ++ [if entry.2.isProtected then 1 else 0]) := by
    rintro ⟨key, field⟩ ⟨key', field'⟩ s t x y ⟨left, rfl⟩ ⟨right, rfl⟩ same
    simp only [List.append_assoc] at same
    obtain ⟨keys, same⟩ := Codes.told delimits_hashText left.1 right.1 same
    obtain ⟨values, same⟩ := Codes.told delimits_hashText left.2 right.2 same
    have flag : Delimits (Codes (fun _ => True) fun flag : Bool => [if flag then (1 : UInt8) else 0]) := by
      apply delimits_byte
      intro a b same
      cases a <;> cases b <;> first | rfl | exact absurd same (by decide)
    obtain ⟨flags, same⟩ := Codes.told flag trivial trivial same
    exact ⟨Prod.ext keys (CustomField.ext values flags), same⟩
  rintro a b s t x y ⟨left, rfl⟩ ⟨right, rfl⟩ same
  have items (fields : BTreeMap String CustomField)
      (short : ∀ (key : String) (field : CustomField), fields[key]? = some field → Short key ∧ Short field.value) :
      Items (Codes (fun entry : String × CustomField => Short entry.1 ∧ Short entry.2.value) fun entry =>
        hashText entry.1 ++ hashText entry.2.value ++ [if entry.2.isProtected then 1 else 0]) fields.toList
        (fields.toList.flatMap fun (key, field) =>
          hashText key ++ hashText field.value ++ [if field.isProtected then 1 else 0]) := by
    have each : ∀ entry ∈ fields.toList, Short entry.1 ∧ Short entry.2.value := by
      intro entry member
      exact short entry.1 entry.2 (Std.ExtTreeMap.mem_toList_iff_getElem?_eq_some.mp member)
    generalize fields.toList = list at each
    induction list with
    | nil => exact .nil
    | cons entry rest ih =>
        rw [List.flatMap_cons]
        exact .cons ⟨each entry List.mem_cons_self, rfl⟩ (ih fun other member => each other (List.mem_cons_of_mem entry member))
  have length (fields : BTreeMap String CustomField) : fields.toList.length = fields.size := by
    rw [Std.ExtTreeMap.length_toList]
  have counted := (delimits_number 8).counted pair
  obtain ⟨lists, rests⟩ := counted
    (⟨_, _, ⟨by rw [length]; exact left.1, by rw [length]⟩, items a left.2, rfl⟩ : Counted (CodesNumber 8) _ a.toList _)
    ⟨_, _, ⟨by rw [length]; exact right.1, by rw [length]⟩, items b right.2, rfl⟩ same
  exact ⟨Std.ExtTreeMap.toList_inj.mp lists, rests⟩

theorem delimits_hashFields : Delimits (Codes ValidatedFields.Short hashFields) := by
  rintro a b s t x y ⟨left, rfl⟩ ⟨right, rfl⟩ same
  unfold hashFields at same
  simp only [List.append_assoc] at same
  obtain ⟨titles, same⟩ := Codes.told delimits_hashText left.values.title right.values.title same
  obtain ⟨usernames, same⟩ := Codes.told delimits_hashText left.values.username right.values.username same
  obtain ⟨passwords, same⟩ := Codes.told delimits_hashText left.values.password right.values.password same
  obtain ⟨urls, same⟩ := Codes.told delimits_hashText left.values.url right.values.url same
  obtain ⟨notes, same⟩ := Codes.told delimits_hashText left.values.notes right.values.notes same
  obtain ⟨totps, same⟩ := Codes.told delimits_hashTotp left.totp right.totp same
  rw [← List.append_assoc, ← List.append_assoc] at same
  obtain ⟨customs, same⟩ := Codes.told delimits_hashCustomFields ⟨left.customCount, left.customFields⟩
    ⟨right.customCount, right.customFields⟩ (by simpa only [List.append_assoc] using same)
  obtain ⟨⟨_, _, _, _, _⟩, _, _⟩ := a
  obtain ⟨⟨_, _, _, _, _⟩, _, _⟩ := b
  simp_all only
  exact ⟨trivial, trivial⟩

/-- Plans of one text are equal. -/
theorem hashPlan_injective {p q : ValidatedPlan} (left : p.Short) (right : q.Short) (same : hashPlan p = hashPlan q) :
    p = q := by
  have tag : Short "update" ∧ Short "create" := by
    constructor <;> (unfold Short; decide)
  cases p with
  | update entryId expected desired =>
      obtain ⟨idShort, expectedShort, desiredShort⟩ := left
      cases q with
      | update entryId' expected' desired' =>
          obtain ⟨idShort', expectedShort', desiredShort'⟩ := right
          simp only [hashPlan, List.append_assoc] at same
          obtain ⟨_, same⟩ := Codes.told delimits_hashText tag.1 tag.1 same
          obtain ⟨ids, same⟩ := Codes.told delimits_hashText idShort idShort' same
          obtain ⟨expecteds, same⟩ := Codes.told delimits_hashUpdateFields expectedShort expectedShort' same
          have same := congrArg (· ++ ([] : List UInt8)) same
          obtain ⟨desireds, _⟩ := Codes.told delimits_hashUpdateFields desiredShort desiredShort' same
          rw [ids, expecteds, desireds]
      | create =>
          simp only [hashPlan, List.append_assoc] at same
          obtain ⟨tags, _⟩ := Codes.told delimits_hashText tag.1 tag.2 same
          exact absurd tags (by decide)
  | create parent planned ids desired =>
      obtain ⟨parentShort, plannedShort, count, each, desiredShort⟩ := left
      cases q with
      | update =>
          simp only [hashPlan, List.append_assoc] at same
          obtain ⟨tags, _⟩ := Codes.told delimits_hashText tag.2 tag.1 same
          exact absurd tags (by decide)
      | create parent' planned' ids' desired' =>
          obtain ⟨parentShort', plannedShort', count', each', desiredShort'⟩ := right
          simp only [hashPlan, List.append_assoc] at same
          obtain ⟨_, same⟩ := Codes.told delimits_hashText tag.2 tag.2 same
          obtain ⟨parents, same⟩ := Codes.told delimits_hashText parentShort parentShort' same
          obtain ⟨planneds, same⟩ := Codes.told delimits_hashText plannedShort plannedShort' same
          have items (ids : List String) (each : ∀ id ∈ ids, Short id) :
              Items (Codes Short hashText) ids (ids.flatMap hashText) := by
            induction ids with
            | nil => exact .nil
            | cons id rest ih =>
                rw [List.flatMap_cons]
                exact .cons ⟨each id List.mem_cons_self, rfl⟩ (ih fun other member => each other (List.mem_cons_of_mem id member))
          have counted := (delimits_number 8).counted delimits_hashText
          rw [← List.append_assoc, ← List.append_assoc] at same
          obtain ⟨lists, same⟩ := counted ⟨_, _, ⟨count, rfl⟩, items ids each, rfl⟩ ⟨_, _, ⟨count', rfl⟩, items ids' each', rfl⟩ same
          have same := congrArg (· ++ ([] : List UInt8)) same
          obtain ⟨desireds, _⟩ := Codes.told delimits_hashFields desiredShort desiredShort' same
          rw [parents, planneds, lists, desireds]

end VaultKern
