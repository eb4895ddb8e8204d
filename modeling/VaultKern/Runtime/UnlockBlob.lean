import VaultKern.Crypto.KeyFile
import VaultKern.Kdbx.Bytes

/-! # Unlock blobs

What a device keeps for a quick unlock: the parts of the master credential and the transformed key,
behind a magic, flags for the parts and the length of the password.
-/

namespace VaultKern.Unlock

open Kdbx (leBytes natOfLeBytes leBytes_length natOfLeBytes_lt natOfLeBytes_small leBytes_natOfLeBytes)

/-- A failure, or a panic of the process. -/
inductive BlobError where
  | message (text : String)
  | panicked
  deriving DecidableEq

def ensure (condition : Prop) [Decidable condition] (text : String) : Except BlobError Unit :=
  if condition then .ok () else .error (.message text)

/-! ## Credentials -/

def maxPasswordBytes : Nat := 1024 * 1024

structure MasterCredential where
  password : Option (List UInt8)
  keyFileContribution : Option Array32
  present : ¬(password.isNone ∧ keyFileContribution.isNone)
  small : ¬password.any (fun text => maxPasswordBytes < text.length)
  deriving DecidableEq

namespace MasterCredential

def fromZeroizingParts (password : Option (List UInt8)) (keyFileContribution : Option Array32) :
    Except BlobError MasterCredential :=
  if absent : password.isNone ∧ keyFileContribution.isNone then .error (.message "master credential has no components")
  else if large : password.any (fun text => maxPasswordBytes < text.length) then
    .error (.message "master credential password is too large")
  else .ok { password, keyFileContribution, present := absent, small := large }

def new (password : Option (List UInt8)) (keyFileContribution : Option Array32) : Except BlobError MasterCredential :=
  fromZeroizingParts password keyFileContribution

theorem fromZeroizingParts_self (credential : MasterCredential) :
    fromZeroizingParts credential.password credential.keyFileContribution = .ok credential := by
  rw [fromZeroizingParts, dif_neg credential.present, dif_neg credential.small]

theorem fromZeroizingParts_ok {password : Option (List UInt8)} {keyFileContribution : Option Array32}
    {credential : MasterCredential} (made : fromZeroizingParts password keyFileContribution = .ok credential) :
    credential.password = password ∧ credential.keyFileContribution = keyFileContribution := by
  unfold fromZeroizingParts at made
  split at made
  · cases made
  · split at made
    · cases made
    · cases made
      exact ⟨rfl, rfl⟩

theorem length_le (credential : MasterCredential) : (credential.password.getD []).length ≤ maxPasswordBytes := by
  have small := credential.small
  cases given : credential.password with
  | none => exact Nat.zero_le _
  | some text =>
      rw [given] at small
      simpa using small

end MasterCredential

/-! ## The blob -/

structure UnlockBlob where
  masterCredential : MasterCredential
  cachedTransformedKey : Array32
  deriving DecidableEq

/-- `VKUBLOB1`. -/
def unlockBlobMagic : List UInt8 := [0x56, 0x4B, 0x55, 0x42, 0x4C, 0x4F, 0x42, 0x31]

def passwordPresent : UInt8 := 1

def keyFilePresent : UInt8 := 2

def blobFlags (masterCredential : MasterCredential) : UInt8 :=
  (if masterCredential.password.isSome then passwordPresent else 0) |||
    (if masterCredential.keyFileContribution.isSome then keyFilePresent else 0)

def contributionBytes (masterCredential : MasterCredential) : List UInt8 :=
  match masterCredential.keyFileContribution with
  | some contribution => contribution.bytes
  | none => []

def encodeParts (masterCredential : MasterCredential) (cachedTransformedKey : Array32) :
    Except BlobError (List UInt8) := do
  let password := masterCredential.password.getD []
  ensure (password.length < 2 ^ 32) "password is too large"
  .ok (unlockBlobMagic ++ ([blobFlags masterCredential] ++ (leBytes 4 password.length ++ (password ++
    (contributionBytes masterCredential ++ cachedTransformedKey.bytes)))))

def UnlockBlob.encode (blob : UnlockBlob) : Except BlobError (List UInt8) :=
  encodeParts blob.masterCredential blob.cachedTransformedKey

/-- The bytes of a range, and its end. Lengths have 64 bits. -/
def take (bytes : List UInt8) (cursor len : Nat) : Except BlobError (List UInt8 × Nat) := do
  ensure (cursor + len < 2 ^ 64) "unlock blob length overflow"
  ensure (cursor + len ≤ bytes.length) "unlock blob is truncated"
  .ok ((bytes.drop cursor).take len, cursor + len)

/-- `copy_from_slice` panics when the lengths differ. -/
def copyFromSlice (bytes : List UInt8) : Except BlobError Array32 :=
  if length : bytes.length = 32 then .ok ⟨bytes, length⟩ else .error .panicked

def zeroizingArray (bytes : List UInt8) (truncatedMessage : String) : Except BlobError Array32 := do
  ensure (bytes.length = 32) truncatedMessage
  copyFromSlice bytes

/-- The first byte. -/
def firstByte (bytes : List UInt8) : Except BlobError UInt8 :=
  match bytes with
  | [] => .error (.message "unlock blob is truncated")
  | byte :: _ => .ok byte

def takeContribution (bytes : List UInt8) (cursor : Nat) (flags : UInt8) : Except BlobError (Option Array32 × Nat) :=
  if flags &&& keyFilePresent ≠ 0 then do
    let (contribution, cursor) ← take bytes cursor 32
    let contribution ← zeroizingArray contribution "unlock blob key-file contribution is truncated"
    .ok (some contribution, cursor)
  else .ok (none, cursor)

def UnlockBlob.decode (bytes : List UInt8) : Except BlobError UnlockBlob := do
  ensure (bytes.length ≤ maxPasswordBytes + 8 + 1 + 4 + 32 + 32) "unlock blob is too large"
  let (magic, cursor) ← take bytes 0 unlockBlobMagic.length
  ensure (magic = unlockBlobMagic) "unlock blob has an unsupported format"
  let (flags, cursor) ← take bytes cursor 1
  let flags ← firstByte flags
  ensure (flags &&& ~~~(passwordPresent ||| keyFilePresent) = 0) "unlock blob has unsupported flags"
  let (passwordLen, cursor) ← take bytes cursor 4
  ensure (passwordLen.length = 4) "unlock blob password length is truncated"
  let passwordLen := natOfLeBytes passwordLen
  ensure (¬(flags &&& passwordPresent = 0 ∧ passwordLen ≠ 0)) "unlock blob password flag is inconsistent"
  let (password, cursor) ← take bytes cursor passwordLen
  let (keyFileContribution, cursor) ← takeContribution bytes cursor flags
  let (transformed, cursor) ← take bytes cursor 32
  let transformed ← zeroizingArray transformed "unlock blob transformed key is truncated"
  ensure (cursor = bytes.length) "unlock blob has trailing bytes"
  let password := if flags &&& passwordPresent ≠ 0 then some password else none
  let masterCredential ← MasterCredential.fromZeroizingParts password keyFileContribution
  .ok { masterCredential, cachedTransformedKey := transformed }

/-! ## Ranges -/

theorem ensure_ok {condition : Prop} [Decidable condition] {text : String} :
    ensure condition text = .ok () ↔ condition := by
  unfold ensure
  split
  · rename_i holds
    exact ⟨fun _ => holds, fun _ => rfl⟩
  · rename_i fails
    exact ⟨(fun done => nomatch done), fun holds => absurd holds fails⟩

theorem take_ok {bytes value : List UInt8} {cursor len next : Nat} :
    take bytes cursor len = .ok (value, next) ↔ next < 2 ^ 64 ∧ next ≤ bytes.length ∧ next = cursor + len ∧
      value.length = len ∧ bytes.drop cursor = value ++ bytes.drop next := by
  unfold take
  constructor
  · intro done
    obtain ⟨_, bounded, done⟩ := Fallible.bind_ok.mp done
    obtain ⟨_, inside, done⟩ := Fallible.bind_ok.mp done
    cases done
    have bounded := ensure_ok.mp bounded
    have inside := ensure_ok.mp inside
    refine ⟨bounded, inside, rfl, ?_, ?_⟩
    · rw [List.length_take, List.length_drop]
      omega
    · rw [← List.drop_drop, List.take_append_drop]
  · rintro ⟨bounded, inside, rfl, rfl, split⟩
    rw [ensure_ok.mpr bounded, Fallible.ok_bind, ensure_ok.mpr inside, Fallible.ok_bind, split, List.take_left]

/-- The range behind what was taken. -/
theorem take_behind {bytes value rest : List UInt8} {cursor len : Nat} (before : List UInt8)
    (split : bytes = before ++ (value ++ rest)) (start : before.length = cursor) (count : value.length = len)
    (bounded : bytes.length < 2 ^ 64) : take bytes cursor len = .ok (value, cursor + len) := by
  apply take_ok.mpr
  have inside : cursor + len ≤ bytes.length := by
    rw [split, ← start, ← count, List.length_append, List.length_append]
    omega
  refine ⟨by omega, inside, rfl, count, ?_⟩
  rw [split, ← start, ← count, List.drop_left, ← List.append_assoc, ← List.length_append, List.drop_left]

theorem zeroizingArray_ok {bytes : List UInt8} {text : String} {array : Array32} :
    zeroizingArray bytes text = .ok array ↔ array.bytes = bytes := by
  unfold zeroizingArray copyFromSlice
  constructor
  · intro done
    obtain ⟨_, length, done⟩ := Fallible.bind_ok.mp done
    rw [dif_pos (ensure_ok.mp length)] at done
    cases done
    rfl
  · rintro rfl
    rw [ensure_ok.mpr array.length, Fallible.ok_bind, dif_pos array.length]

end VaultKern.Unlock
