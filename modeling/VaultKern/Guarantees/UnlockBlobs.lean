import VaultKern.Runtime.UnlockBlob

/-! # Unlock blobs are read back

Decoding undoes encoding, and accepts nothing else.
-/

namespace VaultKern.Unlock

open Kdbx (leBytes natOfLeBytes leBytes_length natOfLeBytes_lt natOfLeBytes_small leBytes_natOfLeBytes)

/-! ## What is written -/

theorem encode_ok {blob : UnlockBlob} {bytes : List UInt8} :
    blob.encode = .ok bytes ↔ bytes = unlockBlobMagic ++ ([blobFlags blob.masterCredential] ++
      (leBytes 4 (blob.masterCredential.password.getD []).length ++ (blob.masterCredential.password.getD [] ++
        (contributionBytes blob.masterCredential ++ blob.cachedTransformedKey.bytes)))) := by
  have small : (blob.masterCredential.password.getD []).length < 2 ^ 32 :=
    lt_of_le_of_lt blob.masterCredential.length_le (by decide)
  unfold UnlockBlob.encode encodeParts
  dsimp only
  rw [ensure_ok.mpr small, Fallible.ok_bind]
  constructor
  · intro done
    exact (Except.ok.inj done).symm
  · rintro rfl
    rfl

theorem contributionBytes_length (credential : MasterCredential) : (contributionBytes credential).length ≤ 32 := by
  unfold contributionBytes
  split
  · rename_i contribution _
    exact contribution.length.le
  · exact Nat.zero_le _

/-- No encoding is over the limit of the decoder. -/
theorem encode_within {blob : UnlockBlob} {bytes : List UInt8} (written : blob.encode = .ok bytes) :
    bytes.length ≤ maxPasswordBytes + 8 + 1 + 4 + 32 + 32 := by
  have password := blob.masterCredential.length_le
  have contribution := contributionBytes_length blob.masterCredential
  have transformed := blob.cachedTransformedKey.length
  have magic : unlockBlobMagic.length = 8 := rfl
  rw [encode_ok.mp written]
  simp only [List.length_append, List.length_singleton, leBytes_length, magic, transformed]
  omega

/-! ## Flags -/

theorem blobFlags_known (credential : MasterCredential) :
    blobFlags credential &&& ~~~(passwordPresent ||| keyFilePresent) = 0 := by
  unfold blobFlags
  split <;> split <;> decide

theorem blobFlags_password (credential : MasterCredential) :
    blobFlags credential &&& passwordPresent ≠ 0 ↔ credential.password.isSome := by
  unfold blobFlags
  cases credential.password <;> cases credential.keyFileContribution <;> simp <;> decide

theorem blobFlags_keyFile (credential : MasterCredential) :
    blobFlags credential &&& keyFilePresent ≠ 0 ↔ credential.keyFileContribution.isSome := by
  unfold blobFlags
  cases credential.password <;> cases credential.keyFileContribution <;> simp <;> decide

theorem knownFlags : ∀ n : Fin 256, UInt8.ofFin n &&& ~~~(passwordPresent ||| keyFilePresent) = 0 →
    UInt8.ofFin n ∈ [0, 1, 2, 3] := by decide +kernel

/-- Known flags are told by the parts that they stand for. -/
theorem flags_eq {flags : UInt8} {credential : MasterCredential}
    (known : flags &&& ~~~(passwordPresent ||| keyFilePresent) = 0)
    (password : flags &&& passwordPresent ≠ 0 ↔ credential.password.isSome)
    (keyFile : flags &&& keyFilePresent ≠ 0 ↔ credential.keyFileContribution.isSome) : blobFlags credential = flags := by
  have few : flags ∈ [0, 1, 2, 3] := knownFlags flags.toFin known
  simp only [List.mem_cons, List.not_mem_nil, or_false] at few
  unfold blobFlags
  rcases few with rfl | rfl | rfl | rfl
  · rw [if_neg (fun some => password.mpr some rfl), if_neg (fun some => keyFile.mpr some rfl)]
    rfl
  · rw [if_pos (password.mp (by decide)), if_neg (fun some => keyFile.mpr some rfl)]
    rfl
  · rw [if_neg (fun some => password.mpr some rfl), if_pos (keyFile.mp (by decide))]
    rfl
  · rw [if_pos (password.mp (by decide)), if_pos (keyFile.mp (by decide))]
    rfl

/-! ## What is read -/

theorem contributionBytes_eq (credential : MasterCredential) :
    contributionBytes credential = credential.keyFileContribution.elim [] Array32.bytes := by
  unfold contributionBytes
  cases credential.keyFileContribution with
  | none => rfl
  | some contribution => rfl

theorem takeContribution_ok {bytes : List UInt8} {cursor next : Nat} {flags : UInt8} {contribution : Option Array32}
    (taken : takeContribution bytes cursor flags = .ok (contribution, next)) :
    (flags &&& keyFilePresent ≠ 0 ↔ contribution.isSome) ∧
      bytes.drop cursor = (contribution.elim [] Array32.bytes) ++ bytes.drop next := by
  unfold takeContribution at taken
  split at taken
  · rename_i present
    obtain ⟨⟨value, later⟩, inside, taken⟩ := Fallible.bind_ok.mp taken
    obtain ⟨array, copied, taken⟩ := Fallible.bind_ok.mp taken
    cases taken
    refine ⟨⟨fun _ => rfl, fun _ => present⟩, ?_⟩
    rw [Option.elim_some, zeroizingArray_ok.mp copied]
    exact (take_ok.mp inside).2.2.2.2
  · rename_i absent
    cases taken
    exact ⟨⟨fun present => absurd present absent, fun some => by cases some⟩, rfl⟩

theorem firstByte_ok {bytes : List UInt8} {byte : UInt8} (read : firstByte bytes = .ok byte) (one : bytes.length = 1) :
    bytes = [byte] := by
  cases bytes with
  | nil => cases read
  | cons first rest =>
      cases read
      rw [List.length_cons, Nat.add_eq_right, List.length_eq_zero_iff] at one
      rw [one]

/-- What decodes is the encoding of what it decodes to. -/
theorem decode_encode {bytes : List UInt8} {blob : UnlockBlob} (read : UnlockBlob.decode bytes = .ok blob) :
    blob.encode = .ok bytes := by
  unfold UnlockBlob.decode at read
  obtain ⟨_, _, read⟩ := Fallible.bind_ok.mp read
  obtain ⟨⟨magic, behindMagic⟩, magic_taken, read⟩ := Fallible.bind_ok.mp read
  obtain ⟨_, magical, read⟩ := Fallible.bind_ok.mp read
  obtain ⟨⟨flag, behindFlags⟩, flag_taken, read⟩ := Fallible.bind_ok.mp read
  obtain ⟨flags, first, read⟩ := Fallible.bind_ok.mp read
  obtain ⟨_, known, read⟩ := Fallible.bind_ok.mp read
  obtain ⟨⟨word, behindLength⟩, word_taken, read⟩ := Fallible.bind_ok.mp read
  obtain ⟨_, four, read⟩ := Fallible.bind_ok.mp read
  obtain ⟨_, consistent, read⟩ := Fallible.bind_ok.mp read
  obtain ⟨⟨password, behindPassword⟩, password_taken, read⟩ := Fallible.bind_ok.mp read
  obtain ⟨⟨contribution, behindContribution⟩, contribution_taken, read⟩ := Fallible.bind_ok.mp read
  obtain ⟨⟨key, behind⟩, key_taken, read⟩ := Fallible.bind_ok.mp read
  obtain ⟨transformed, copied, read⟩ := Fallible.bind_ok.mp read
  obtain ⟨_, whole, read⟩ := Fallible.bind_ok.mp read
  obtain ⟨credential, made, same⟩ := Fallible.bind_ok.mp read
  cases same
  obtain ⟨_, _, _, _, magic_split⟩ := take_ok.mp magic_taken
  obtain ⟨_, _, _, one, flag_split⟩ := take_ok.mp flag_taken
  obtain ⟨_, _, _, _, word_split⟩ := take_ok.mp word_taken
  obtain ⟨_, _, _, length, password_split⟩ := take_ok.mp password_taken
  obtain ⟨keyFile, contribution_split⟩ := takeContribution_ok contribution_taken
  obtain ⟨_, _, _, _, key_split⟩ := take_ok.mp key_taken
  obtain ⟨given, givenKeyFile⟩ := MasterCredential.fromZeroizingParts_ok made
  have known := ensure_ok.mp known
  have consistent := ensure_ok.mp consistent
  have present : flags &&& passwordPresent ≠ 0 ↔ credential.password.isSome := by
    rw [given]
    split
    · rename_i present
      simp [present]
    · rename_i absent
      simp [absent]
  have text : credential.password.getD [] = password := by
    rw [given]
    split
    · rfl
    · rename_i absent
      rw [Decidable.not_not.mp absent] at consistent
      have empty : natOfLeBytes word = 0 := Decidable.not_not.mp fun some => consistent ⟨rfl, some⟩
      exact (List.eq_nil_of_length_eq_zero (length.trans empty)).symm
  have flagged : blobFlags credential = flags := flags_eq known present (by rw [givenKeyFile]; exact keyFile)
  have counted : leBytes 4 password.length = word := by
    rw [length, ← ensure_ok.mp four, leBytes_natOfLeBytes]
  have nothing : bytes.drop behind = [] := by
    rw [ensure_ok.mp whole, List.drop_length]
  apply encode_ok.mpr
  dsimp only
  calc bytes = bytes.drop 0 := rfl
    _ = _ := by
      rw [magic_split, flag_split, word_split, password_split, contribution_split, key_split, nothing, flagged, text,
        counted, firstByte_ok first one, ensure_ok.mp magical, zeroizingArray_ok.mp copied, contributionBytes_eq,
        givenKeyFile, List.append_nil]

theorem takeContribution_behind {bytes before rest : List UInt8} {cursor : Nat} (credential : MasterCredential)
    (split : bytes = before ++ (contributionBytes credential ++ rest)) (start : before.length = cursor)
    (bounded : bytes.length < 2 ^ 64) : takeContribution bytes cursor (blobFlags credential) =
      .ok (credential.keyFileContribution, cursor + (contributionBytes credential).length) := by
  have flag := blobFlags_keyFile credential
  rw [contributionBytes_eq] at split ⊢
  unfold takeContribution
  cases given : credential.keyFileContribution with
  | none =>
      rw [given] at flag
      rw [if_neg (fun present => by cases flag.mp present)]
      rfl
  | some contribution =>
      rw [given] at flag split
      rw [if_pos (flag.mpr rfl), take_behind before split start contribution.length bounded]
      simp only [Fallible.ok_bind, Option.elim_some]
      rw [zeroizingArray_ok.mpr rfl, Fallible.ok_bind, contribution.length]

/-- What was encoded decodes. -/
theorem encode_decode {bytes : List UInt8} {blob : UnlockBlob} (written : blob.encode = .ok bytes) :
    UnlockBlob.decode bytes = .ok blob := by
  obtain ⟨credential, transformed⟩ := blob
  have within := encode_within written
  have bounded : bytes.length < 2 ^ 64 := lt_of_le_of_lt within (by decide)
  have small : (credential.password.getD []).length < 256 ^ 4 := lt_of_le_of_lt credential.length_le (by decide)
  have split := encode_ok.mp written
  dsimp only at split
  have magic_taken : take bytes 0 unlockBlobMagic.length = .ok (unlockBlobMagic, 8) :=
    take_behind [] split rfl rfl bounded
  have flag_taken : take bytes 8 1 = .ok ([blobFlags credential], 9) :=
    take_behind unlockBlobMagic split rfl rfl bounded
  have word_taken : take bytes 9 4 = .ok (leBytes 4 (credential.password.getD []).length, 13) :=
    take_behind (unlockBlobMagic ++ [blobFlags credential]) (by rw [split, List.append_assoc]) rfl (leBytes_length _ _)
      bounded
  have password_taken := @take_behind bytes (credential.password.getD [])
    (contributionBytes credential ++ transformed.bytes) 13 (credential.password.getD []).length
    (unlockBlobMagic ++ ([blobFlags credential] ++ leBytes 4 (credential.password.getD []).length))
    (by rw [split]; simp only [List.append_assoc]) (by simp [unlockBlobMagic]) rfl bounded
  have contribution_taken := @takeContribution_behind bytes
    (unlockBlobMagic ++ ([blobFlags credential] ++ (leBytes 4 (credential.password.getD []).length ++
      credential.password.getD []))) transformed.bytes (13 + (credential.password.getD []).length) credential
    (by rw [split]; simp only [List.append_assoc]) (by simp [unlockBlobMagic]; omega) bounded
  have key_taken := @take_behind bytes transformed.bytes []
    (13 + (credential.password.getD []).length + (contributionBytes credential).length) 32
    (unlockBlobMagic ++ ([blobFlags credential] ++ (leBytes 4 (credential.password.getD []).length ++
      (credential.password.getD [] ++ contributionBytes credential))))
    (by rw [split]; simp only [List.append_assoc, List.append_nil]) (by simp [unlockBlobMagic]; omega)
    transformed.length bounded
  have whole : 13 + (credential.password.getD []).length + (contributionBytes credential).length + 32 = bytes.length := by
    rw [split]
    simp [unlockBlobMagic, transformed.length]
    omega
  have consistent : ¬(blobFlags credential &&& passwordPresent = 0 ∧ (credential.password.getD []).length ≠ 0) := by
    rintro ⟨absent, some⟩
    cases given : credential.password with
    | none =>
        rw [given] at some
        exact some rfl
    | some text => exact (blobFlags_password credential).mpr (by rw [given]; rfl) absent
  have password : (if blobFlags credential &&& passwordPresent ≠ 0 then some (credential.password.getD []) else none) =
      credential.password := by
    have flag := blobFlags_password credential
    cases given : credential.password with
    | none =>
        rw [given] at flag
        rw [if_neg (fun present => by cases flag.mp present)]
    | some text =>
        rw [given] at flag
        rw [if_pos (flag.mpr rfl)]
        rfl
  unfold UnlockBlob.decode
  rw [ensure_ok.mpr within, Fallible.ok_bind, magic_taken]
  simp only [Fallible.ok_bind]
  rw [ensure_ok.mpr trivial, Fallible.ok_bind, flag_taken]
  simp only [Fallible.ok_bind, firstByte]
  rw [ensure_ok.mpr (blobFlags_known credential), Fallible.ok_bind, word_taken]
  simp only [Fallible.ok_bind]
  rw [ensure_ok.mpr (leBytes_length _ _), Fallible.ok_bind, natOfLeBytes_small small, ensure_ok.mpr consistent,
    Fallible.ok_bind, password_taken]
  simp only [Fallible.ok_bind]
  rw [contribution_taken]
  simp only [Fallible.ok_bind]
  rw [key_taken]
  simp only [Fallible.ok_bind]
  rw [zeroizingArray_ok.mpr rfl, Fallible.ok_bind, ensure_ok.mpr whole, Fallible.ok_bind, password,
    MasterCredential.fromZeroizingParts_self, Fallible.ok_bind]

/-! ## No panic -/

def NoPanic {A : Type} (m : Except BlobError A) : Prop := m ≠ .error .panicked

theorem NoPanic.bind {A B : Type} {m : Except BlobError A} {f : A → Except BlobError B} (first : NoPanic m)
    (later : ∀ a, m = .ok a → NoPanic (f a)) : NoPanic (m >>= f) := by
  intro panicked
  cases done : m with
  | error e =>
      rw [done] at panicked first
      exact first (by rw [Except.error.inj panicked])
  | ok a =>
      rw [done, Fallible.ok_bind] at panicked
      exact later a done panicked

theorem ensure_noPanic (condition : Prop) [Decidable condition] (text : String) : NoPanic (ensure condition text) := by
  unfold ensure NoPanic
  split
  · intro panicked
    cases panicked
  · intro panicked
    cases panicked

theorem take_noPanic (bytes : List UInt8) (cursor len : Nat) : NoPanic (take bytes cursor len) := by
  apply NoPanic.bind (ensure_noPanic _ _)
  intro _ _
  apply NoPanic.bind (ensure_noPanic _ _)
  intro _ _ panicked
  cases panicked

/-- The lengths are compared before the copy. -/
theorem zeroizingArray_noPanic (bytes : List UInt8) (text : String) : NoPanic (zeroizingArray bytes text) := by
  apply NoPanic.bind (ensure_noPanic _ _)
  intro _ length
  unfold copyFromSlice NoPanic
  rw [dif_pos (ensure_ok.mp length)]
  intro panicked
  cases panicked

theorem takeContribution_noPanic (bytes : List UInt8) (cursor : Nat) (flags : UInt8) :
    NoPanic (takeContribution bytes cursor flags) := by
  unfold takeContribution
  split
  · apply NoPanic.bind (take_noPanic _ _ _)
    intro _ _
    apply NoPanic.bind (zeroizingArray_noPanic _ _)
    intro _ _ panicked
    cases panicked
  · intro panicked
    cases panicked

theorem firstByte_noPanic (bytes : List UInt8) : NoPanic (firstByte bytes) := by
  cases bytes with
  | nil =>
      intro panicked
      cases panicked
  | cons byte rest =>
      intro panicked
      cases panicked

theorem fromZeroizingParts_noPanic (password : Option (List UInt8)) (keyFileContribution : Option Array32) :
    NoPanic (MasterCredential.fromZeroizingParts password keyFileContribution) := by
  unfold MasterCredential.fromZeroizingParts NoPanic
  split
  · intro panicked
    cases panicked
  · split
    · intro panicked
      cases panicked
    · intro panicked
      cases panicked

theorem decode_noPanic (bytes : List UInt8) : NoPanic (UnlockBlob.decode bytes) := by
  unfold UnlockBlob.decode
  apply NoPanic.bind (ensure_noPanic _ _)
  intro _ _
  apply NoPanic.bind (take_noPanic _ _ _)
  intro _ _
  apply NoPanic.bind (ensure_noPanic _ _)
  intro _ _
  apply NoPanic.bind (take_noPanic _ _ _)
  intro _ _
  apply NoPanic.bind (firstByte_noPanic _)
  intro _ _
  apply NoPanic.bind (ensure_noPanic _ _)
  intro _ _
  apply NoPanic.bind (take_noPanic _ _ _)
  intro _ _
  apply NoPanic.bind (ensure_noPanic _ _)
  intro _ _
  apply NoPanic.bind (ensure_noPanic _ _)
  intro _ _
  apply NoPanic.bind (take_noPanic _ _ _)
  intro _ _
  apply NoPanic.bind (takeContribution_noPanic _ _ _)
  intro _ _
  apply NoPanic.bind (take_noPanic _ _ _)
  intro _ _
  apply NoPanic.bind (zeroizingArray_noPanic _ _)
  intro _ _
  apply NoPanic.bind (ensure_noPanic _ _)
  intro _ _
  apply NoPanic.bind (fromZeroizingParts_noPanic _ _)
  intro _ _ panicked
  cases panicked

/-! ## The codec -/

/-- Every accepted credential is encoded within the limit and decodes, what decodes is the encoding of its
blob, and all other bytes are refused with a message. -/
theorem unlockBlob_codec :
    (∀ (password : Option (List UInt8)) (keyFileContribution : Option Array32) (credential : MasterCredential)
      (transformed : Array32), MasterCredential.new password keyFileContribution = .ok credential →
      ∃ bytes, UnlockBlob.encode ⟨credential, transformed⟩ = .ok bytes ∧
        bytes.length ≤ maxPasswordBytes + 8 + 1 + 4 + 32 + 32 ∧
        UnlockBlob.decode bytes = .ok ⟨credential, transformed⟩) ∧
    (∀ (bytes : List UInt8) (blob : UnlockBlob), UnlockBlob.decode bytes = .ok blob → blob.encode = .ok bytes) ∧
    (∀ bytes : List UInt8, (∀ blob : UnlockBlob, blob.encode ≠ .ok bytes) →
      ∃ text, UnlockBlob.decode bytes = .error (.message text)) ∧
    ∀ bytes : List UInt8, UnlockBlob.decode bytes ≠ .error .panicked := by
  refine ⟨?_, ?_, ?_, decode_noPanic⟩
  · intro password keyFileContribution credential transformed _
    have written := (@encode_ok ⟨credential, transformed⟩ _).mpr rfl
    exact ⟨_, written, encode_within written, encode_decode written⟩
  · intro bytes blob read
    exact decode_encode read
  · intro bytes foreign
    cases read : UnlockBlob.decode bytes with
    | ok blob => exact absurd (decode_encode read) (foreign blob)
    | error e =>
        cases e with
        | message text => exact ⟨text, rfl⟩
        | panicked => exact absurd read (decode_noPanic bytes)

/-- A key file alone. -/
theorem unlockBlob_codec_keyFile :
    ∃ credential bytes, MasterCredential.new none (some ⟨List.replicate 32 7, rfl⟩) = .ok credential ∧
      UnlockBlob.encode ⟨credential, ⟨List.replicate 32 9, rfl⟩⟩ = .ok bytes ∧
      UnlockBlob.decode bytes = .ok ⟨credential, ⟨List.replicate 32 9, rfl⟩⟩ := by
  have made : MasterCredential.new none (some ⟨List.replicate 32 7, rfl⟩) =
      .ok { password := none, keyFileContribution := some ⟨List.replicate 32 7, rfl⟩, present := by simp,
            small := by simp } := rfl
  obtain ⟨bytes, written, _, read⟩ := unlockBlob_codec.1 _ _ _ ⟨List.replicate 32 9, rfl⟩ made
  exact ⟨_, bytes, made, written, read⟩

end VaultKern.Unlock
