import VaultKern.Kdbx.Container

/-! # KDF parameters

The dictionary of a KDF in the header: what a save writes for the KDF it is asked for, what it
keeps of a loaded file, and what a load makes of it.
-/

namespace VaultKern.Kdbx

inductive KdfProfile where
  | aesKdbx3 (rounds : UInt64) (salt : List UInt8)
  | aesKdbx4 (rounds : UInt64) (salt : List UInt8)
  | argon2d (iterations memoryKib parallelism : UInt32) (salt : List UInt8)
  | argon2id (iterations memoryKib parallelism : UInt32) (salt : List UInt8)
  deriving DecidableEq

inductive SaveKdf where
  | aesKdbx4 (rounds : UInt64)
  | argon2d (iterations memoryKib parallelism : UInt32)
  | argon2id (iterations memoryKib parallelism : UInt32)
  deriving DecidableEq

def SaveKdf.recommended : SaveKdf := .argon2id 2 (64 * 1024) 1

/-- The salt is drawn for the save. -/
def buildKdfProfile (salt : List UInt8) : SaveKdf → KdfProfile
  | .aesKdbx4 rounds => .aesKdbx4 rounds salt
  | .argon2d iterations memoryKib parallelism => .argon2d iterations memoryKib parallelism salt
  | .argon2id iterations memoryKib parallelism => .argon2id iterations memoryKib parallelism salt

def kdfAesKdbx4Uuid : List UInt8 :=
  [0x7C, 0x02, 0xBB, 0x82, 0x79, 0xA7, 0x4A, 0xC0, 0x92, 0x7D, 0x11, 0x4A, 0x00, 0x69, 0x2E, 0xB7]

def kdfAesKdbx3Uuid : List UInt8 :=
  [0xC9, 0xD9, 0xF3, 0x9A, 0x62, 0x8A, 0x44, 0x60, 0xBF, 0x74, 0x0D, 0x08, 0xC1, 0x8A, 0x4F, 0xEA]

def kdfArgon2dUuid : List UInt8 :=
  [0xEF, 0x63, 0x6D, 0xDF, 0x8C, 0x29, 0x44, 0x4B, 0x91, 0xF7, 0xA9, 0xA4, 0x03, 0xE3, 0x0A, 0x0C]

def kdfArgon2idUuid : List UInt8 :=
  [0x9E, 0x29, 0x8B, 0x19, 0x56, 0xDB, 0x47, 0x73, 0xB2, 0x3D, 0xFC, 0x3E, 0xC6, 0xF0, 0xA1, 0xE6]

namespace VariantDictionary

def insert (dictionary : VariantDictionary) (key : String) (value : VariantValue) : VariantDictionary :=
  { dictionary with items := dictionary.items.insert key value }

def requiredU64 (dictionary : VariantDictionary) (key : String) : Except KdbxError UInt64 :=
  match dictionary.items[key]? with
  | some (.uInt64 value) => .ok value
  | _ => .error .unsupportedKdf

def requiredBytes (dictionary : VariantDictionary) (key : String) : Except KdbxError (List UInt8) :=
  match dictionary.items[key]? with
  | some (.bytes value) => .ok value
  | _ => .error .unsupportedKdf

end VariantDictionary

def argon2Dictionary (uuid : List UInt8) (iterations memoryKib parallelism : UInt32) (salt : List UInt8) :
    VariantDictionary :=
  (((((VariantDictionary.insert {} "$UUID" (.bytes uuid)).insert "V" (.uInt32 0x13)).insert "I"
    (.uInt64 iterations.toUInt64)).insert "M" (.uInt64 (memoryKib.toUInt64 * 1024))).insert "P"
    (.uInt32 parallelism)).insert "S" (.bytes salt)

def kdfToVariantDict : KdfProfile → VariantDictionary
  | .aesKdbx4 rounds salt =>
      ((VariantDictionary.insert {} "$UUID" (.bytes kdfAesKdbx4Uuid)).insert "R" (.uInt64 rounds)).insert "S"
        (.bytes salt)
  | .argon2d iterations memoryKib parallelism salt =>
      argon2Dictionary kdfArgon2dUuid iterations memoryKib parallelism salt
  | .argon2id iterations memoryKib parallelism salt =>
      argon2Dictionary kdfArgon2idUuid iterations memoryKib parallelism salt
  | .aesKdbx3 _ _ => {}

def checkedU32 (algorithm : ExternalKdfAlgorithm) (parameter : ExternalKdfParameter) (value : UInt64) :
    Except KdbxError UInt32 :=
  if value = 0 ∨ 2 ^ 32 ≤ value.toNat then .error (.invalidKdfParameters algorithm parameter value)
  else .ok value.toUInt32

def validateNonzeroBounded (algorithm : ExternalKdfAlgorithm) (parameter : ExternalKdfParameter) (value : UInt64) :
    Except KdbxError Unit :=
  if value = 0 ∨ value.toNat = 2 ^ 64 - 1 then .error (.invalidKdfParameters algorithm parameter value) else .ok ()

/-- `ExternalKdfParameters::decode_kdbx4`, and `into_profile` behind it. -/
def decodeKdbx4 (dictionary : VariantDictionary) : Except KdbxError KdfProfile :=
  match dictionary.items["$UUID"]? with
  | some (.bytes bytes) => do
      let uuid ← exactLength 16 bytes
      if uuid = kdfAesKdbx4Uuid ∨ uuid = kdfAesKdbx3Uuid then do
        let rounds ← dictionary.requiredU64 "R"
        validateNonzeroBounded .aesKdbx4 .rounds rounds
        let salt ← exactLength 32 (← dictionary.requiredBytes "S")
        .ok (.aesKdbx4 rounds salt)
      else if uuid = kdfArgon2dUuid ∨ uuid = kdfArgon2idUuid then do
        let algorithm : ExternalKdfAlgorithm := if uuid = kdfArgon2dUuid then .argon2d else .argon2id
        let iterations ← checkedU32 algorithm .iterations (← dictionary.requiredU64 "I")
        let memoryBytes ← dictionary.requiredU64 "M"
        if memoryBytes = 0 ∨ memoryBytes % 1024 ≠ 0 then
          .error (.invalidKdfParameters algorithm .memoryBytes memoryBytes)
        else if 2 ^ 32 ≤ (memoryBytes / 1024).toNat then
          .error (.invalidKdfParameters algorithm .memoryBytes memoryBytes)
        else do
          let memoryKib := (memoryBytes / 1024).toUInt32
          let parallelism ← match dictionary.items["P"]? with
            | some (.uInt32 value) =>
                if value = 0 then .error (.invalidKdfParameters algorithm .parallelism value.toUInt64) else .ok value
            | _ => .error .unsupportedKdf
          let salt ← dictionary.requiredBytes "S"
          if algorithm = .argon2d then .ok (.argon2d iterations memoryKib parallelism salt)
          else .ok (.argon2id iterations memoryKib parallelism salt)
      else .error .unsupportedKdf
  | _ => .error .unsupportedKdf

/-- `save_kdf_state`: the KDF of the save and its dictionary, which is the loaded one unless
another KDF is asked for. -/
def saveKdfAndDictionary (kdfParameters : Option (List UInt8)) (requested : Option SaveKdf) (salt : List UInt8) :
    Except KdbxError (KdfProfile × VariantDictionary) :=
  match requested, kdfParameters with
  | some requested, _ =>
      let profile := buildKdfProfile salt requested
      .ok (profile, kdfToVariantDict profile)
  | none, some encoded => do
      let parameters ← VariantDictionary.decode encoded
      .ok (← decodeKdbx4 parameters, parameters)
  | none, none =>
      let profile := buildKdfProfile salt .recommended
      .ok (profile, kdfToVariantDict profile)

end VaultKern.Kdbx
