import VaultKern.Crypto.KeyFile
import VaultKern.Kdbx.Kdf
import VaultKern.Lib.Attempt

/-! # The gate before a key derivation

A file from outside names its own KDF and how much work it is. The parameters are decoded and shown to a
policy before the key is derived; a file of KDBX 3 has them in its header fields, a file of KDBX 4 in a
dictionary.
-/

namespace VaultKern.Kdbx

/-! ## Policies -/

def desktopArgon2ConfirmBytes : UInt64 := 256 * 1024 * 1024
def desktopArgon2RefuseBytes : UInt64 := 1024 * 1024 * 1024
def mobileArgon2RefuseBytes : UInt64 := 128 * 1024 * 1024
def desktopAesConfirmRounds : UInt64 := 600000000
def desktopAesRefuseRounds : UInt64 := 6000000000
def mobileAesRefuseRounds : UInt64 := 600000000

inductive ExternalKdfResource where
  | rounds | memoryBytes
  deriving DecidableEq

structure ExternalKdfRequest where
  algorithm : ExternalKdfAlgorithm
  resource : ExternalKdfResource
  observed : UInt64
  deriving DecidableEq

inductive ExternalKdfConfirmation where
  | unconfirmed | confirmed
  deriving DecidableEq

/-- Any implementation of the trait. -/
abbrev KdfPolicyEvaluator := ExternalKdfRequest → ExternalKdfDecision

inductive ExternalKdfPolicy where
  | desktop | mobile | extension
  deriving DecidableEq

def ExternalKdfPolicy.evaluate (policy : ExternalKdfPolicy) : KdfPolicyEvaluator := fun request =>
  if policy = .extension then .forbid
  else
    match policy, request.resource with
    | .desktop, .memoryBytes =>
        if desktopArgon2RefuseBytes < request.observed then .refuse desktopArgon2RefuseBytes
        else if desktopArgon2ConfirmBytes < request.observed then .confirm desktopArgon2ConfirmBytes
        else .allow
    | .mobile, .memoryBytes =>
        if mobileArgon2RefuseBytes < request.observed then .refuse mobileArgon2RefuseBytes else .allow
    | .desktop, .rounds =>
        if desktopAesRefuseRounds < request.observed then .refuse desktopAesRefuseRounds
        else if desktopAesConfirmRounds < request.observed then .confirm desktopAesConfirmRounds
        else .allow
    | .mobile, .rounds =>
        if mobileAesRefuseRounds < request.observed then .refuse mobileAesRefuseRounds else .allow
    | .extension, _ => .allow

/-! ## Parameters -/

inductive ExternalKdfMaterial where
  | aes (rounds : UInt64) (salt : List UInt8)
  | argon2 (iterations memoryKib parallelism : UInt32) (salt : List UInt8)
  deriving DecidableEq

def ExternalKdfAlgorithm.isAes : ExternalKdfAlgorithm → Bool
  | .aesKdbx3 | .aesKdbx4 => true
  | .argon2d | .argon2id => false

def ExternalKdfMaterial.isAes : ExternalKdfMaterial → Bool
  | .aes _ _ => true
  | .argon2 _ _ _ _ => false

/-- The fields are private in the source, and its decoders keep them in agreement. -/
structure ExternalKdfParameters where
  algorithm : ExternalKdfAlgorithm
  material : ExternalKdfMaterial
  agree : algorithm.isAes = material.isAes
  deriving DecidableEq

namespace ExternalKdfParameters

def aes (algorithm : ExternalKdfAlgorithm) (rounds : UInt64) (salt : List UInt8)
    (agree : algorithm.isAes = true) : ExternalKdfParameters :=
  ⟨algorithm, .aes rounds salt, agree⟩

def argon2 (algorithm : ExternalKdfAlgorithm) (iterations memoryKib parallelism : UInt32) (salt : List UInt8)
    (agree : algorithm.isAes = false) : ExternalKdfParameters :=
  ⟨algorithm, .argon2 iterations memoryKib parallelism salt, agree⟩

def argon2Algorithm (uuid : List UInt8) : ExternalKdfAlgorithm := if uuid = kdfArgon2dUuid then .argon2d else .argon2id

theorem argon2Algorithm_argon2 (uuid : List UInt8) : (argon2Algorithm uuid).isAes = false := by
  unfold argon2Algorithm
  split <;> rfl

def requiredUuid (dict : VariantDictionary) : Except KdbxError (List UInt8) :=
  match dict.items["$UUID"]? with
  | some (.bytes bytes) => exactLength 16 bytes
  | _ => .error .unsupportedKdf

/-- The memory of Argon2 in whole kibibytes. -/
def checkedKib (algorithm : ExternalKdfAlgorithm) (memoryBytes : UInt64) : Except KdbxError UInt32 :=
  if memoryBytes = 0 ∨ memoryBytes % 1024 ≠ 0 then .error (.invalidKdfParameters algorithm .memoryBytes memoryBytes)
  else if 2 ^ 32 ≤ (memoryBytes / 1024).toNat then .error (.invalidKdfParameters algorithm .memoryBytes memoryBytes)
  else .ok (memoryBytes / 1024).toUInt32

def requiredParallelism (algorithm : ExternalKdfAlgorithm) (dict : VariantDictionary) : Except KdbxError UInt32 :=
  match dict.items["P"]? with
  | some (.uInt32 value) =>
      if value = 0 then .error (.invalidKdfParameters algorithm .parallelism value.toUInt64) else .ok value
  | _ => .error .unsupportedKdf

def decodeKdbx4 (dict : VariantDictionary) : Except KdbxError ExternalKdfParameters := do
  let uuid ← requiredUuid dict
  if uuid = kdfAesKdbx4Uuid ∨ uuid = kdfAesKdbx3Uuid then do
    let rounds ← dict.requiredU64 "R"
    validateNonzeroBounded .aesKdbx4 .rounds rounds
    let salt ← exactLength 32 (← dict.requiredBytes "S")
    .ok (aes .aesKdbx4 rounds salt rfl)
  else if uuid = kdfArgon2dUuid ∨ uuid = kdfArgon2idUuid then do
    let iterations ← checkedU32 (argon2Algorithm uuid) .iterations (← dict.requiredU64 "I")
    let memoryKib ← checkedKib (argon2Algorithm uuid) (← dict.requiredU64 "M")
    let parallelism ← requiredParallelism (argon2Algorithm uuid) dict
    let salt ← dict.requiredBytes "S"
    .ok (argon2 (argon2Algorithm uuid) iterations memoryKib parallelism salt (argon2Algorithm_argon2 uuid))
  else .error .unsupportedKdf

def decodeKdbx3 (rounds : UInt64) (salt : List UInt8) : Except KdbxError ExternalKdfParameters := do
  validateNonzeroBounded .aesKdbx3 .rounds rounds
  .ok (aes .aesKdbx3 rounds salt rfl)

def request (parameters : ExternalKdfParameters) : ExternalKdfRequest where
  algorithm := parameters.algorithm
  resource :=
    match parameters.material with
    | .aes _ _ => .rounds
    | .argon2 _ _ _ _ => .memoryBytes
  observed :=
    match parameters.material with
    | .aes rounds _ => rounds
    | .argon2 _ memoryKib _ _ => memoryKib.toUInt64 * 1024

/-- The other pairs of an algorithm and a material do not agree. -/
def intoProfile : ExternalKdfParameters → KdfProfile
  | ⟨.aesKdbx3, .aes rounds salt, _⟩ => .aesKdbx3 rounds salt
  | ⟨.aesKdbx4, .aes rounds salt, _⟩ => .aesKdbx4 rounds salt
  | ⟨.argon2d, .argon2 iterations memoryKib parallelism salt, _⟩ => .argon2d iterations memoryKib parallelism salt
  | ⟨.argon2id, .argon2 iterations memoryKib parallelism salt, _⟩ => .argon2id iterations memoryKib parallelism salt

end ExternalKdfParameters

def enforceExternalKdfPolicy (parameters : ExternalKdfParameters) (evaluator : KdfPolicyEvaluator)
    (confirmation : ExternalKdfConfirmation) : Except KdbxError Unit :=
  match evaluator parameters.request, confirmation with
  | .allow, _ | .confirm _, .confirmed => .ok ()
  | decision, _ => .error (.externalKdfPolicy parameters.request.algorithm parameters.request.observed decision)

/-! ## The header of KDBX 3 -/

structure Kdbx3Header where
  version : KdbxVersion
  cipher : KdbxCipher := .aes256
  compression : Compression := .gzip
  masterSeed : List UInt8 := List.replicate 32 0
  transformSeed : List UInt8 := List.replicate 32 0
  transformRounds : UInt64 := 0
  encryptionIv : List UInt8 := []
  protectedStreamKey : List UInt8 := []
  streamStartBytes : List UInt8 := []
  innerRandomStreamId : UInt32 := 0
  unknownFields : List UnknownHeaderField := []

namespace Kdbx3Header

def read (header : Kdbx3Header) (id : UInt8) (data : List UInt8) : Except KdbxError Kdbx3Header :=
  if id = 2 then do .ok { header with cipher := ← uuidToCipher (← exactLength 16 data) }
  else if id = 3 then do
    let value := natOfLeBytes (← exactLength 4 data)
    if value = 0 then .ok { header with compression := .none }
    else if value = 1 then .ok { header with compression := .gzip }
    else .error .invalidValue
  else if id = 4 then do .ok { header with masterSeed := ← exactLength 32 data }
  else if id = 5 then do .ok { header with transformSeed := ← exactLength 32 data }
  else if id = 6 then do .ok { header with transformRounds := .ofNat (natOfLeBytes (← exactLength 8 data)) }
  else if id = 7 then .ok { header with encryptionIv := data }
  else if id = 8 then .ok { header with protectedStreamKey := data }
  else if id = 9 then .ok { header with streamStartBytes := data }
  else if id = 10 then do .ok { header with innerRandomStreamId := .ofNat (natOfLeBytes (← exactLength 4 data)) }
  else .ok { header with unknownFields := header.unknownFields ++ [{ id, data }] }

/-- The loop over the fields. Every field takes bytes, so the length is fuel enough. -/
def readFields : Nat → Kdbx3Header → List UInt8 → Except KdbxError (Kdbx3Header × List UInt8)
  | 0, _, _ => .error .unexpectedEof
  | fuel + 1, header, bytes => do
      let (id, bytes) ← readExact 1 bytes
      let (len, bytes) ← readLe 2 bytes
      let (data, bytes) ← readExact len bytes
      if id = [0] then .ok (header, bytes)
      else do
        let header ← header.read (id.headD 0) data
        readFields fuel header bytes

end Kdbx3Header

/-- The header and the bytes behind it. -/
def decodeKdbx3Header (bytes : List UInt8) : Except KdbxError (Kdbx3Header × List UInt8) := do
  let (version, rest) ← detectFileVersion bytes
  if version ≠ .v2_0 ∧ version ≠ .v3_0 ∧ version ≠ .v3_1 then .error .unsupportedVersion
  else Kdbx3Header.readFields (rest.length + 1) { version } rest

/-! ## Derivations -/

inductive KeyComponent where
  | password (bytes : List UInt8)
  | keyFile (bytes : List UInt8)
  | opaqueProviderBytes (bytes : List UInt8)
  deriving DecidableEq

structure CompositeKey where
  components : List KeyComponent := []
  deriving DecidableEq

/-- The functions behind a derivation: the KDFs themselves, and the reader of the XML of KDBX 3. -/
structure KdfLibrary extends FileLibrary where
  deriveKey : KdfProfile → List UInt8 → Except KdbxError Array32
  parseKdbx3Xml : List UInt8 → List UInt8 → List UInt8 → UInt32 → Except KdbxError Vault

section Derivations

variable (library : KdfLibrary)

def CompositeKey.rawKey (key : CompositeKey) : List UInt8 :=
  library.sha256 (key.components.flatMap fun component =>
    match component with
    | .password password => library.sha256 password
    | .keyFile bytes | .opaqueProviderBytes bytes => bytes)

/-- A computation with the derivations that it has started. -/
abbrev Deriving (A : Type) := Attempt KdbxError (List KdfProfile) A

def deriveKey (kdf : KdfProfile) (rawKey : List UInt8) : Deriving Array32 := do
  modify (· ++ [kdf])
  Attempt.lift (library.deriveKey kdf rawKey)

variable (bytes : List UInt8) (compositeKey : CompositeKey) (policy : KdfPolicyEvaluator)
  (confirmation : ExternalKdfConfirmation)

/-- From the decoded parameters to the key: the policy sees them before the work starts. -/
def deriveGated (parameters : ExternalKdfParameters) : Deriving Array32 := do
  Attempt.lift (enforceExternalKdfPolicy parameters policy confirmation)
  deriveKey library parameters.intoProfile (compositeKey.rawKey library)

/-- The parameters of a file of KDBX 4, behind the hash of its header. -/
def kdbx4Parameters : Except KdbxError ExternalKdfParameters := do
  let (version, _) ← detectFileVersion bytes
  if version ≠ .v4_0 ∧ version ≠ .v4_1 then .error .unsupportedVersion
  else do
    let (header, rest) ← KdbxHeader.decode bytes
    let (storedHeaderHash, _) ← readExact 32 rest
    if library.sha256 (bytes.take (bytes.length - rest.length)) ≠ storedHeaderHash then .error .headerHashMismatch
    else ExternalKdfParameters.decodeKdbx4 header.kdfParameters

def deriveTransformedKeyWithPolicy : Deriving Array32 := do
  let parameters ← Attempt.lift (kdbx4Parameters library bytes)
  deriveGated library compositeKey policy confirmation parameters

def loadKdbx4 : Deriving Vault := do
  let transformed ← deriveTransformedKeyWithPolicy library bytes compositeKey policy confirmation
  Attempt.lift (loadKdbx library.toFileLibrary bytes transformed.bytes)

/-- The rest of a load of KDBX 3, with the transformed key. -/
def openKdbx3 (header : Kdbx3Header) (encryptedPayload transformed : List UInt8) : Except KdbxError Vault := do
  let payload ← orInvalid (library.decrypt header.cipher
    (encryptionKey library.toFileLibrary header.masterSeed transformed) header.encryptionIv encryptedPayload)
  let start := header.streamStartBytes.length
  if payload.length < start ∨ payload.take start ≠ header.streamStartBytes then .error .headerHashMismatch
  else do
    let blockPayload ← decodeLegacyBlockStream library.toFileLibrary (payload.drop start)
    let xmlBytes ← decompress library.toFileLibrary header.compression blockPayload
    library.parseKdbx3Xml xmlBytes (bytes.take (bytes.length - encryptedPayload.length)) header.protectedStreamKey
      header.innerRandomStreamId

def loadKdbx3 : Deriving Vault := do
  let (header, rest) ← Attempt.lift (decodeKdbx3Header bytes)
  let parameters ← Attempt.lift (ExternalKdfParameters.decodeKdbx3 header.transformRounds header.transformSeed)
  let transformed ← deriveGated library compositeKey policy confirmation parameters
  Attempt.lift (openKdbx3 library bytes header rest transformed.bytes)

def loadKdbxWithPolicy : Deriving Vault := do
  let (version, _) ← Attempt.lift (detectFileVersion bytes)
  match version with
  | .v2_0 | .v3_0 | .v3_1 => loadKdbx3 library bytes compositeKey policy confirmation
  | .v4_0 | .v4_1 => loadKdbx4 library bytes compositeKey policy confirmation

end Derivations

end VaultKern.Kdbx
