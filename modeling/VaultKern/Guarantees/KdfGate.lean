import VaultKern.Kdbx.Dictionaries
import VaultKern.Kdbx.KdfGate

/-! # The policy sees the work that is done

The profile of a key derivation has the parameters of the header, the policy was asked about its memory
or its rounds as they are, and they are within its limits.
-/

namespace VaultKern.Kdbx

open Fallible

/-! ## What a derivation costs -/

/-- The resource that a policy is asked about, and how much of it the derivation takes. -/
def KdfProfile.cost : KdfProfile → ExternalKdfResource × Nat
  | .aesKdbx3 rounds _ | .aesKdbx4 rounds _ => (.rounds, rounds.toNat)
  | .argon2d _ memoryKib _ _ | .argon2id _ memoryKib _ _ => (.memoryBytes, memoryKib.toNat * 1024)

def KdfProfile.algorithm : KdfProfile → ExternalKdfAlgorithm
  | .aesKdbx3 _ _ => .aesKdbx3
  | .aesKdbx4 _ _ => .aesKdbx4
  | .argon2d _ _ _ _ => .argon2d
  | .argon2id _ _ _ _ => .argon2id

/-- The request tells the algorithm and the cost of the profile. -/
def ExternalKdfRequest.Describes (request : ExternalKdfRequest) (profile : KdfProfile) : Prop :=
  request.algorithm = profile.algorithm ∧ profile.cost = (request.resource, request.observed.toNat)

theorem memoryBytes_exact (memoryKib : UInt32) : (memoryKib.toUInt64 * 1024).toNat = memoryKib.toNat * 1024 := by
  have small := memoryKib.toNat_lt
  rw [UInt64.toNat_mul, UInt32.toNat_toUInt64]
  have constant : (1024 : UInt64).toNat = 1024 := rfl
  rw [constant]
  omega

theorem request_describes (parameters : ExternalKdfParameters) : parameters.request.Describes parameters.intoProfile := by
  obtain ⟨algorithm, material, agree⟩ := parameters
  cases algorithm <;> cases material <;> cases agree
  · exact ⟨rfl, rfl⟩
  · exact ⟨rfl, rfl⟩
  · exact ⟨rfl, congrArg _ (memoryBytes_exact _).symm⟩
  · exact ⟨rfl, congrArg _ (memoryBytes_exact _).symm⟩

/-! ## Decoding -/

/-- The work factors of Argon2 in a dictionary: wider numbers, and the memory in bytes. -/
def VariantDictionary.TellsArgon2 (dictionary : VariantDictionary) (iterations memoryKib parallelism : UInt32)
    (salt : List UInt8) : Prop :=
  (∃ raw, dictionary.items["I"]? = some (.uInt64 raw) ∧ raw.toNat = iterations.toNat) ∧
  (∃ raw, dictionary.items["M"]? = some (.uInt64 raw) ∧ raw.toNat = memoryKib.toNat * 1024) ∧
  dictionary.items["P"]? = some (.uInt32 parallelism) ∧ dictionary.items["S"]? = some (.bytes salt)

/-- The dictionary has the parameters of the profile. -/
def VariantDictionary.Tells (dictionary : VariantDictionary) : KdfProfile → Prop
  | .aesKdbx3 _ _ => False
  | .aesKdbx4 rounds salt =>
      (∃ uuid, dictionary.items["$UUID"]? = some (.bytes uuid) ∧ (uuid = kdfAesKdbx4Uuid ∨ uuid = kdfAesKdbx3Uuid)) ∧
        dictionary.items["R"]? = some (.uInt64 rounds) ∧ dictionary.items["S"]? = some (.bytes salt)
  | .argon2d iterations memoryKib parallelism salt =>
      dictionary.items["$UUID"]? = some (.bytes kdfArgon2dUuid) ∧
        dictionary.TellsArgon2 iterations memoryKib parallelism salt
  | .argon2id iterations memoryKib parallelism salt =>
      dictionary.items["$UUID"]? = some (.bytes kdfArgon2idUuid) ∧
        dictionary.TellsArgon2 iterations memoryKib parallelism salt

section Decoders

variable {dictionary : VariantDictionary} {key : String}

theorem requiredU64_ok {value : UInt64} :
    dictionary.requiredU64 key = .ok value ↔ dictionary.items[key]? = some (.uInt64 value) := by
  unfold VariantDictionary.requiredU64
  split <;> simp_all

theorem requiredBytes_ok {value : List UInt8} :
    dictionary.requiredBytes key = .ok value ↔ dictionary.items[key]? = some (.bytes value) := by
  unfold VariantDictionary.requiredBytes
  split <;> simp_all

theorem checkedU32_exact {algorithm : ExternalKdfAlgorithm} {parameter : ExternalKdfParameter} {raw : UInt64}
    {value : UInt32} (checked : checkedU32 algorithm parameter raw = .ok value) : raw.toNat = value.toNat := by
  unfold checkedU32 at checked
  split at checked
  · cases checked
  · rename_i fits
    cases checked
    rw [UInt64.toNat_toUInt32]
    omega

theorem checkedKib_exact {algorithm : ExternalKdfAlgorithm} {memoryBytes : UInt64} {memoryKib : UInt32}
    (checked : ExternalKdfParameters.checkedKib algorithm memoryBytes = .ok memoryKib) :
    memoryBytes.toNat = memoryKib.toNat * 1024 := by
  have constant : (1024 : UInt64).toNat = 1024 := rfl
  unfold ExternalKdfParameters.checkedKib at checked
  split at checked
  · cases checked
  · rename_i whole
    split at checked
    · cases checked
    · rename_i fits
      cases checked
      have even : memoryBytes.toNat % 1024 = 0 := by
        have zero : memoryBytes % 1024 = 0 := by
          by_contra odd
          exact whole (.inr odd)
        have number := congrArg UInt64.toNat zero
        rwa [UInt64.toNat_mod, constant] at number
      rw [UInt64.toNat_div, constant] at fits
      rw [UInt64.toNat_toUInt32, UInt64.toNat_div, constant]
      omega

theorem requiredUuid_ok {uuid : List UInt8} (found : ExternalKdfParameters.requiredUuid dictionary = .ok uuid) :
    dictionary.items["$UUID"]? = some (.bytes uuid) := by
  unfold ExternalKdfParameters.requiredUuid at found
  split at found
  · rename_i bytes known
    obtain ⟨_, rfl⟩ := exactLength_ok.mp found
    exact known
  · cases found

theorem requiredParallelism_ok {algorithm : ExternalKdfAlgorithm} {parallelism : UInt32}
    (found : ExternalKdfParameters.requiredParallelism algorithm dictionary = .ok parallelism) :
    dictionary.items["P"]? = some (.uInt32 parallelism) := by
  unfold ExternalKdfParameters.requiredParallelism at found
  split at found
  · rename_i value known
    split at found
    · cases found
    · cases found
      exact known
  · cases found

theorem decodeKdbx4_tells {parameters : ExternalKdfParameters}
    (decoded : ExternalKdfParameters.decodeKdbx4 dictionary = .ok parameters) :
    dictionary.Tells parameters.intoProfile := by
  obtain ⟨uuid, identified, decoded⟩ := bind_ok.mp decoded
  have identified := requiredUuid_ok identified
  by_cases aes : uuid = kdfAesKdbx4Uuid ∨ uuid = kdfAesKdbx3Uuid
  · rw [if_pos aes] at decoded
    obtain ⟨rounds, roundsRead, decoded⟩ := bind_ok.mp decoded
    obtain ⟨_, _, decoded⟩ := bind_ok.mp decoded
    obtain ⟨raw, saltRead, decoded⟩ := bind_ok.mp decoded
    obtain ⟨salt, exactly, made⟩ := bind_ok.mp decoded
    cases made
    rw [← (exactLength_ok.mp exactly).2] at saltRead
    exact ⟨⟨uuid, identified, aes⟩, requiredU64_ok.mp roundsRead, requiredBytes_ok.mp saltRead⟩
  · rw [if_neg aes] at decoded
    by_cases argon2 : uuid = kdfArgon2dUuid ∨ uuid = kdfArgon2idUuid
    · rw [if_pos argon2] at decoded
      obtain ⟨rawIterations, iterationsRead, decoded⟩ := bind_ok.mp decoded
      obtain ⟨iterations, iterationsChecked, decoded⟩ := bind_ok.mp decoded
      obtain ⟨memoryBytes, memoryRead, decoded⟩ := bind_ok.mp decoded
      obtain ⟨memoryKib, memoryChecked, decoded⟩ := bind_ok.mp decoded
      obtain ⟨parallelism, parallelismRead, decoded⟩ := bind_ok.mp decoded
      obtain ⟨salt, saltRead, decoded⟩ := bind_ok.mp decoded
      cases decoded
      have factors : dictionary.TellsArgon2 iterations memoryKib parallelism salt :=
        ⟨⟨rawIterations, requiredU64_ok.mp iterationsRead, checkedU32_exact iterationsChecked⟩,
          ⟨memoryBytes, requiredU64_ok.mp memoryRead, checkedKib_exact memoryChecked⟩,
          requiredParallelism_ok parallelismRead, requiredBytes_ok.mp saltRead⟩
      rcases argon2 with rfl | rfl
      · exact ⟨identified, factors⟩
      · exact ⟨identified, factors⟩
    · rw [if_neg argon2] at decoded
      cases decoded

end Decoders

theorem decodeKdbx3_profile {rounds : UInt64} {salt : List UInt8} {parameters : ExternalKdfParameters}
    (decoded : ExternalKdfParameters.decodeKdbx3 rounds salt = .ok parameters) :
    parameters.intoProfile = .aesKdbx3 rounds salt := by
  obtain ⟨_, _, decoded⟩ := bind_ok.mp decoded
  cases decoded
  rfl

/-! ## The policy -/

/-- What a policy never lets pass. -/
def ExternalKdfPolicy.refuseAbove : ExternalKdfPolicy → ExternalKdfResource → Nat
  | .desktop, .memoryBytes => desktopArgon2RefuseBytes.toNat
  | .desktop, .rounds => desktopAesRefuseRounds.toNat
  | .mobile, .memoryBytes => mobileArgon2RefuseBytes.toNat
  | .mobile, .rounds => mobileAesRefuseRounds.toNat
  | .extension, _ => 0

/-- What a policy lets pass without a confirmation. -/
def ExternalKdfPolicy.confirmAbove : ExternalKdfPolicy → ExternalKdfResource → Nat
  | .desktop, .memoryBytes => desktopArgon2ConfirmBytes.toNat
  | .desktop, .rounds => desktopAesConfirmRounds.toNat
  | policy, resource => policy.refuseAbove resource

/-- The evaluator lets the request pass. -/
def Permits (evaluator : KdfPolicyEvaluator) (confirmation : ExternalKdfConfirmation) (request : ExternalKdfRequest) :
    Prop :=
  evaluator request = .allow ∨ (∃ limit, evaluator request = .confirm limit) ∧ confirmation = .confirmed

theorem enforce_ok {parameters : ExternalKdfParameters} {evaluator : KdfPolicyEvaluator}
    {confirmation : ExternalKdfConfirmation} :
    enforceExternalKdfPolicy parameters evaluator confirmation = .ok () ↔
      Permits evaluator confirmation parameters.request := by
  unfold enforceExternalKdfPolicy Permits
  cases evaluator parameters.request <;> cases confirmation <;> simp

section Bands

variable {refuse confirm observed : UInt64} {confirmation : ExternalKdfConfirmation} (request : ExternalKdfRequest)

/-- Refused above one limit, confirmed above another. -/
theorem banded_within
    (permits : Permits (fun _ => if refuse < observed then .refuse refuse
      else if confirm < observed then .confirm confirm else .allow) confirmation request) :
    observed.toNat ≤ refuse.toNat ∧ (confirmation = .unconfirmed → observed.toNat ≤ confirm.toNat) := by
  unfold Permits at permits
  by_cases large : refuse < observed
  · simp [large] at permits
  · by_cases middling : confirm < observed
    · simp only [if_neg large, if_pos middling, reduceCtorEq, false_or] at permits
      rw [permits.2]
      exact ⟨UInt64.le_iff_toNat_le.mp (UInt64.not_lt.mp large), nofun⟩
    · have small := UInt64.le_iff_toNat_le.mp (UInt64.not_lt.mp middling)
      exact ⟨UInt64.le_iff_toNat_le.mp (UInt64.not_lt.mp large), fun _ => small⟩

/-- Refused above one limit. -/
theorem capped_within
    (permits : Permits (fun _ => if refuse < observed then .refuse refuse else .allow) confirmation request) :
    observed.toNat ≤ refuse.toNat ∧ (confirmation = .unconfirmed → observed.toNat ≤ refuse.toNat) := by
  unfold Permits at permits
  by_cases large : refuse < observed
  · simp [large] at permits
  · have small := UInt64.le_iff_toNat_le.mp (UInt64.not_lt.mp large)
    exact ⟨small, fun _ => small⟩

end Bands

theorem permits_within {policy : ExternalKdfPolicy} {confirmation : ExternalKdfConfirmation}
    {request : ExternalKdfRequest} (permits : Permits policy.evaluate confirmation request) :
    policy ≠ .extension ∧ request.observed.toNat ≤ policy.refuseAbove request.resource ∧
      (confirmation = .unconfirmed → request.observed.toNat ≤ policy.confirmAbove request.resource) := by
  obtain ⟨algorithm, resource, observed⟩ := request
  cases policy with
  | desktop =>
      refine ⟨nofun, ?_⟩
      cases resource with
      | rounds => exact banded_within ⟨algorithm, .rounds, observed⟩ permits
      | memoryBytes => exact banded_within ⟨algorithm, .memoryBytes, observed⟩ permits
  | mobile =>
      refine ⟨nofun, ?_⟩
      cases resource with
      | rounds => exact capped_within ⟨algorithm, .rounds, observed⟩ permits
      | memoryBytes => exact capped_within ⟨algorithm, .memoryBytes, observed⟩ permits
  | extension => rcases permits with allowed | ⟨⟨limit, confirms⟩, _⟩ <;> contradiction

/-! ## Derivations -/

/-- The derivations that a computation starts. -/
def startedBy {A : Type} (computation : Deriving A) : List KdfProfile := (computation []).2

/-- The file has the parameters of the profile in its header. -/
def HeaderTells (bytes : List UInt8) (profile : KdfProfile) : Prop :=
  (∃ header rest, KdbxHeader.decode bytes = .ok (header, rest) ∧ header.kdfParameters.Tells profile) ∨
  ∃ header rest, decodeKdbx3Header bytes = .ok (header, rest) ∧
    profile = .aesKdbx3 header.transformRounds header.transformSeed

/-- What is known of a derivation once it is started. -/
structure Covered (bytes : List UInt8) (evaluator : KdfPolicyEvaluator) (confirmation : ExternalKdfConfirmation)
    (profile : KdfProfile) : Prop where
  told : HeaderTells bytes profile
  permitted : ∃ request : ExternalKdfRequest, request.Describes profile ∧ Permits evaluator confirmation request

section Gate

variable {library : KdfLibrary} {bytes : List UInt8} {compositeKey : CompositeKey} {evaluator : KdfPolicyEvaluator}
  {confirmation : ExternalKdfConfirmation} {A B : Type}

theorem started_lift (check : Except KdbxError A) (next : A → Deriving B) (started : List KdfProfile) :
    ((Attempt.lift check >>= next) started).2 = started ∨
      ∃ a, check = .ok a ∧ ((Attempt.lift check >>= next) started).2 = (next a started).2 := by
  cases check with
  | error e => exact .inl rfl
  | ok a => exact .inr ⟨a, rfl, rfl⟩

/-- What follows a derivation starts none. -/
theorem started_bind_lift (computation : Deriving A) (next : A → Except KdbxError B) (started : List KdfProfile) :
    ((computation >>= fun a => Attempt.lift (next a)) started).2 = (computation started).2 := by
  rw [Attempt.bind_run]
  cases computation started with
  | mk result left =>
      cases result with
      | error e => rfl
      | ok a => exact Attempt.ReadOnly.lift (next a) left

theorem deriveGated_started (parameters : ExternalKdfParameters) (started : List KdfProfile) :
    (deriveGated library compositeKey evaluator confirmation parameters started).2 = started ∨
      Permits evaluator confirmation parameters.request ∧
        (deriveGated library compositeKey evaluator confirmation parameters started).2 =
          started ++ [parameters.intoProfile] := by
  unfold deriveGated
  rcases started_lift (enforceExternalKdfPolicy parameters evaluator confirmation)
    (fun _ => deriveKey library parameters.intoProfile (compositeKey.rawKey library)) started
    with none | ⟨_, enforced, same⟩
  · exact .inl none
  · refine .inr ⟨enforce_ok.mp enforced, same.trans ?_⟩
    exact Attempt.ReadOnly.lift (library.deriveKey parameters.intoProfile (compositeKey.rawKey library)) _

theorem kdbx4Parameters_told {parameters : ExternalKdfParameters}
    (decoded : kdbx4Parameters library bytes = .ok parameters) : HeaderTells bytes parameters.intoProfile := by
  obtain ⟨⟨version, _⟩, _, decoded⟩ := bind_ok.mp decoded
  dsimp only at decoded
  split at decoded
  · cases decoded
  · obtain ⟨⟨header, rest⟩, read, decoded⟩ := bind_ok.mp decoded
    obtain ⟨⟨stored, _⟩, _, decoded⟩ := bind_ok.mp decoded
    dsimp only at decoded
    split at decoded
    · cases decoded
    · exact .inl ⟨header, rest, read, decodeKdbx4_tells decoded⟩

/-- A computation that starts nothing more, or one derivation that is covered. -/
def Gated (bytes : List UInt8) (evaluator : KdfPolicyEvaluator) (confirmation : ExternalKdfConfirmation)
    (computation : Deriving A) : Prop :=
  ∀ started, (computation started).2 = started ∨
    ∃ profile, (computation started).2 = started ++ [profile] ∧ Covered bytes evaluator confirmation profile

theorem deriveGated_gated {parameters : ExternalKdfParameters} (told : HeaderTells bytes parameters.intoProfile) :
    Gated bytes evaluator confirmation (deriveGated library compositeKey evaluator confirmation parameters) := by
  intro started
  rcases @deriveGated_started library compositeKey evaluator confirmation parameters started with none | ⟨permits, one⟩
  · exact .inl none
  · exact .inr ⟨_, one, told, _, request_describes parameters, permits⟩

/-- A check before a gated computation. -/
theorem Gated.check_first {check : Except KdbxError A} {next : A → Deriving B}
    (rest : ∀ a, check = .ok a → Gated bytes evaluator confirmation (next a)) :
    Gated bytes evaluator confirmation (Attempt.lift check >>= next) := by
  intro started
  rcases started_lift check next started with none | ⟨a, checked, same⟩
  · exact .inl none
  · rw [same]
    exact rest a checked started

theorem Gated.then_lift {computation : Deriving A} (gated : Gated bytes evaluator confirmation computation)
    (next : A → Except KdbxError B) :
    Gated bytes evaluator confirmation (computation >>= fun a => Attempt.lift (next a)) := by
  intro started
  rw [started_bind_lift]
  exact gated started

theorem deriveTransformedKeyWithPolicy_gated :
    Gated bytes evaluator confirmation
      (deriveTransformedKeyWithPolicy library bytes compositeKey evaluator confirmation) :=
  .check_first fun _ decoded => deriveGated_gated (kdbx4Parameters_told decoded)

theorem loadKdbx4_gated :
    Gated bytes evaluator confirmation (loadKdbx4 library bytes compositeKey evaluator confirmation) :=
  deriveTransformedKeyWithPolicy_gated.then_lift _

theorem loadKdbx3_gated :
    Gated bytes evaluator confirmation (loadKdbx3 library bytes compositeKey evaluator confirmation) := by
  apply Gated.check_first
  intro ⟨header, rest⟩ read
  apply Gated.check_first
  intro parameters decoded
  have told : HeaderTells bytes parameters.intoProfile := .inr ⟨header, rest, read, decodeKdbx3_profile decoded⟩
  exact (deriveGated_gated told).then_lift _

theorem loadKdbxWithPolicy_gated :
    Gated bytes evaluator confirmation (loadKdbxWithPolicy library bytes compositeKey evaluator confirmation) := by
  apply Gated.check_first
  intro ⟨version, rest⟩ _
  cases version with
  | v2_0 => exact loadKdbx3_gated
  | v3_0 => exact loadKdbx3_gated
  | v3_1 => exact loadKdbx3_gated
  | v4_0 => exact loadKdbx4_gated
  | v4_1 => exact loadKdbx4_gated

end Gate

/-! ## The gate -/

/-- The ways to open a file with a credential. -/
inductive OpenCall where
  | loadKdbxWithPolicy | deriveTransformedKeyWithPolicy
  deriving DecidableEq

def OpenCall.started (call : OpenCall) (library : KdfLibrary) (bytes : List UInt8) (compositeKey : CompositeKey)
    (evaluator : KdfPolicyEvaluator) (confirmation : ExternalKdfConfirmation) : List KdfProfile :=
  match call with
  | .loadKdbxWithPolicy => startedBy (Kdbx.loadKdbxWithPolicy library bytes compositeKey evaluator confirmation)
  | .deriveTransformedKeyWithPolicy =>
      startedBy (Kdbx.deriveTransformedKeyWithPolicy library bytes compositeKey evaluator confirmation)

/-- For any file and any evaluator, a derivation that is started has the parameters of the header, and the
evaluator was asked about its cost and let it pass; with a policy of the product the cost is within the
limits, and an extension derives nothing. Decoded parameters are asked about as they are executed. -/
theorem kdfGate_covers (library : KdfLibrary) (call : OpenCall) (bytes : List UInt8) (compositeKey : CompositeKey)
    (confirmation : ExternalKdfConfirmation) :
    (∀ evaluator, (call.started library bytes compositeKey evaluator confirmation).length ≤ 1 ∧
      ∀ profile ∈ call.started library bytes compositeKey evaluator confirmation,
        Covered bytes evaluator confirmation profile) ∧
    (∀ policy : ExternalKdfPolicy, ∀ profile ∈ call.started library bytes compositeKey policy.evaluate confirmation,
      policy ≠ .extension ∧ profile.cost.2 ≤ policy.refuseAbove profile.cost.1 ∧
        (confirmation = .unconfirmed → profile.cost.2 ≤ policy.confirmAbove profile.cost.1)) ∧
    (∀ dictionary parameters, ExternalKdfParameters.decodeKdbx4 dictionary = .ok parameters →
      dictionary.Tells parameters.intoProfile ∧ parameters.request.Describes parameters.intoProfile) ∧
    ∀ rounds salt parameters, ExternalKdfParameters.decodeKdbx3 rounds salt = .ok parameters →
      parameters.intoProfile = .aesKdbx3 rounds salt ∧ parameters.request.Describes parameters.intoProfile := by
  have gated : ∀ evaluator, call.started library bytes compositeKey evaluator confirmation = [] ∨
      ∃ profile, call.started library bytes compositeKey evaluator confirmation = [profile] ∧
        Covered bytes evaluator confirmation profile := by
    intro evaluator
    cases call with
    | loadKdbxWithPolicy => exact loadKdbxWithPolicy_gated []
    | deriveTransformedKeyWithPolicy => exact deriveTransformedKeyWithPolicy_gated []
  have covered : ∀ evaluator, ∀ profile ∈ call.started library bytes compositeKey evaluator confirmation,
      Covered bytes evaluator confirmation profile := by
    intro evaluator profile started
    rcases gated evaluator with none | ⟨only, one, covered⟩
    · rw [none] at started
      cases started
    · rw [one, List.mem_singleton] at started
      rw [started]
      exact covered
  refine ⟨fun evaluator => ⟨?_, covered evaluator⟩, ?_, ?_, ?_⟩
  · rcases gated evaluator with none | ⟨only, one, _⟩
    · rw [none]
      exact Nat.zero_le 1
    · rw [one]
      exact Nat.le_refl 1
  · intro policy profile started
    obtain ⟨request, ⟨_, cost⟩, permits⟩ := (covered policy.evaluate profile started).permitted
    rw [cost]
    exact permits_within permits
  · intro dictionary parameters decoded
    exact ⟨decodeKdbx4_tells decoded, request_describes parameters⟩
  · intro rounds salt parameters decoded
    exact ⟨decodeKdbx3_profile decoded, request_describes parameters⟩

/-! ## Files -/

/-- Argon2id with one kibibyte and as many iterations as there can be. -/
def endlessHeader : List UInt8 :=
  signature ++ leBytes 4 (versionToU32 .v4_1)
    ++ writeField 11 (VariantDictionary.encodeItems
      (argon2Dictionary kdfArgon2idUuid 4294967295 1 1 (List.replicate 32 7)).items)
    ++ writeField 0 [13, 10, 13, 10]

/-- The digest of `endlessHeader`. -/
def endlessHeaderHash : List UInt8 :=
  [97, 9, 50, 242, 142, 81, 135, 158, 235, 129, 85, 24, 241, 122, 140, 252,
    156, 89, 255, 50, 27, 239, 186, 22, 54, 199, 146, 91, 70, 139, 196, 102]

/-- A library that knows this digest, and that has no KDF. -/
def oneHashLibrary : KdfLibrary where
  sha256 bytes := if bytes = endlessHeader then endlessHeaderHash else List.replicate 32 0
  sha512 _ := List.replicate 64 0
  chacha20 _ _ _ := 0
  salsa20 _ _ _ := 0
  xml := { parse := fun _ => .error "", write := fun _ => .error "" }
  rfc3339 _ := none
  gzipDecompress _ := none
  hmacSha256 _ _ := List.replicate 32 0
  encrypt _ _ _ _ := none
  decrypt _ _ _ _ := none
  gzipCompress _ := none
  deriveKey _ _ := .error .crypto
  parseKdbx3Xml _ _ _ _ := .error .invalidValue

/-- A header of KDBX 3 with 6000 rounds. -/
def roundsHeader : List UInt8 :=
  signature ++ leBytes 4 (versionToU32 .v3_1) ++ (6 :: leBytes 2 8 ++ leBytes 8 6000) ++ (0 :: leBytes 2 4 ++ [13, 10, 13, 10])

/-- The rounds of the header are derived with, and they are within the limit. -/
theorem kdfGate_covers_rounds :
    OpenCall.started .loadKdbxWithPolicy oneHashLibrary roundsHeader {} ExternalKdfPolicy.mobile.evaluate .unconfirmed =
        [.aesKdbx3 6000 (List.replicate 32 0)] ∧
      6000 ≤ ExternalKdfPolicy.mobile.refuseAbove .rounds := by
  have started : OpenCall.started .loadKdbxWithPolicy oneHashLibrary roundsHeader {} ExternalKdfPolicy.mobile.evaluate
      .unconfirmed = [.aesKdbx3 6000 (List.replicate 32 0)] := by decide +kernel
  refine ⟨started, ?_⟩
  have within := (kdfGate_covers oneHashLibrary .loadKdbxWithPolicy roundsHeader {} .unconfirmed).2.1 .mobile
    (.aesKdbx3 6000 (List.replicate 32 0))
  rw [started] at within
  exact (within (List.mem_singleton_self _)).2.1

/-- A phone starts more iterations than it allows rounds, unasked. -/
theorem endless_started :
    OpenCall.started .deriveTransformedKeyWithPolicy oneHashLibrary (endlessHeader ++ endlessHeaderHash) {}
        ExternalKdfPolicy.mobile.evaluate .unconfirmed = [.argon2id 4294967295 1 1 (List.replicate 32 7)] ∧
      ExternalKdfPolicy.mobile.refuseAbove .rounds < (4294967295 : UInt32).toNat := by
  constructor
  · decide +kernel
  · decide

end VaultKern.Kdbx
