import VaultKern.Kdbx.Read
import VaultKern.Kdbx.Shape

/-! # The container

A KDBX 4 file is an outer header of tagged fields, its hash and its MAC, and a stream of
authenticated blocks. The blocks hold the encrypted payload: an inner header with the key of
the inner stream and the attachments, and the document.

Cipher, hash, MAC and compression are functions of the libraries. The key is given as the
KDF derived it.
-/

namespace VaultKern.Kdbx

/-! ## Bytes -/

def leBytes (count value : Nat) : List UInt8 := (List.range count).map fun i => UInt8.ofNat (value / 256 ^ i)

/-- `Cursor::read_exact`: the bytes read and the bytes left. -/
def readExact (len : Nat) (bytes : List UInt8) : Except KdbxError (List UInt8 × List UInt8) :=
  if bytes.length < len then .error .unexpectedEof else .ok (bytes.take len, bytes.drop len)

def readLe (count : Nat) (bytes : List UInt8) : Except KdbxError (Nat × List UInt8) := do
  let (word, rest) ← readExact count bytes
  .ok (natOfLeBytes word, rest)

/-- A length of 32 bits and so many bytes. A negative length asks for more than there is. -/
def readSized (bytes : List UInt8) : Except KdbxError (List UInt8 × List UInt8) := do
  let (len, bytes) ← readLe 4 bytes
  if 2 ^ 31 ≤ len then .error .unexpectedEof else readExact len bytes

/-- The length is cut to 32 bits. -/
def sized (data : List UInt8) : List UInt8 := leBytes 4 data.length ++ data

def writeField (id : UInt8) (data : List UInt8) : List UInt8 := id :: sized data

/-! ## Variant dictionaries -/

inductive VariantValue where
  | uInt32 (value : UInt32)
  | uInt64 (value : UInt64)
  | bool (value : Bool)
  | int32 (value : Int32)
  | int64 (value : Int64)
  | string (value : String)
  | bytes (value : List UInt8)
  | unknown (typeTag : UInt8) (bytes : List UInt8)
  deriving DecidableEq

structure VariantDictionary where
  items : BTreeMap String VariantValue := ∅
  loadedEncoding : Option (List UInt8) := none

def encodeVariantValue : VariantValue → UInt8 × List UInt8
  | .uInt32 value => (0x04, leBytes 4 value.toNat)
  | .uInt64 value => (0x05, leBytes 8 value.toNat)
  | .bool value => (0x08, [if value then 1 else 0])
  | .int32 value => (0x0C, leBytes 4 value.toUInt32.toNat)
  | .int64 value => (0x0D, leBytes 8 value.toUInt64.toNat)
  | .string value => (0x18, value.toUTF8.toList)
  | .bytes value => (0x42, value)
  | .unknown typeTag bytes => (typeTag, bytes)

/-- `try_into` an array of that length. -/
def exactLength (len : Nat) (bytes : List UInt8) : Except KdbxError (List UInt8) :=
  if bytes.length = len then .ok bytes else .error .invalidValue

def decodeUtf8 (bytes : List UInt8) : Except KdbxError String :=
  match String.fromUTF8? ⟨bytes.toArray⟩ with
  | some text => .ok text
  | none => .error .invalidValue

def decodeVariantValue (kind : UInt8) (bytes : List UInt8) : Except KdbxError VariantValue :=
  if kind = 0x04 then do .ok (.uInt32 (UInt32.ofNat (natOfLeBytes (← exactLength 4 bytes))))
  else if kind = 0x05 then do .ok (.uInt64 (UInt64.ofNat (natOfLeBytes (← exactLength 8 bytes))))
  else if kind = 0x08 then
    match bytes with
    | [] => .error .unexpectedEof
    | byte :: _ => .ok (.bool (byte ≠ 0))
  else if kind = 0x0C then do .ok (.int32 (UInt32.ofNat (natOfLeBytes (← exactLength 4 bytes))).toInt32)
  else if kind = 0x0D then do .ok (.int64 (UInt64.ofNat (natOfLeBytes (← exactLength 8 bytes))).toInt64)
  else if kind = 0x18 then do .ok (.string (← decodeUtf8 bytes))
  else if kind = 0x42 then .ok (.bytes bytes)
  else .ok (.unknown kind bytes)

/-- The loop of `decode_items`. Every item takes bytes, so the length is fuel enough. -/
def decodeItemLoop : Nat → BTreeMap String VariantValue → List UInt8 → Except KdbxError (BTreeMap String VariantValue)
  | 0, _, _ => .error .unexpectedEof
  | fuel + 1, items, bytes => do
      let (kind, bytes) ← readExact 1 bytes
      if kind = [0] then .ok items
      else do
        let (name, bytes) ← readSized bytes
        let name ← decodeUtf8 name
        let (value, bytes) ← readSized bytes
        let value ← decodeVariantValue (kind.headD 0) value
        decodeItemLoop fuel (items.insert name value) bytes

def decodeItems (bytes : List UInt8) : Except KdbxError (BTreeMap String VariantValue) := do
  let (version, rest) ← readLe 2 bytes
  if version ≠ 0x0100 then .error .invalidValue else decodeItemLoop (rest.length + 1) ∅ rest

def encodeItem (key : String) (value : VariantValue) : List UInt8 :=
  (encodeVariantValue value).1 :: sized key.toUTF8.toList ++ sized (encodeVariantValue value).2

namespace VariantDictionary

def encodeItems (items : BTreeMap String VariantValue) : List UInt8 :=
  leBytes 2 0x0100 ++ items.toList.flatMap (fun (key, value) => encodeItem key value) ++ [0]

/-- The bytes it was loaded from, as long as they say the same. -/
def encode (dictionary : VariantDictionary) : Except KdbxError (List UInt8) :=
  match dictionary.loadedEncoding with
  | some encoded => do
      if (← decodeItems encoded) = dictionary.items then .ok encoded else .ok (encodeItems dictionary.items)
  | none => .ok (encodeItems dictionary.items)

def decode (bytes : List UInt8) : Except KdbxError VariantDictionary := do
  .ok { items := ← decodeItems bytes, loadedEncoding := some bytes }

/-- The byte arrays of a dictionary. -/
def byteItems (dictionary : VariantDictionary) : BTreeMap String (List UInt8) :=
  dictionary.items.filterMap fun _ value =>
    match value with
    | .bytes bytes => some bytes
    | _ => none

end VariantDictionary

/-! ## The outer header -/

inductive KdbxCipher where
  | aes256 | chaCha20 | twofish
  deriving DecidableEq

inductive Compression where
  | none | gzip
  deriving DecidableEq

structure UnknownHeaderField where
  id : UInt8
  data : List UInt8
  deriving DecidableEq

structure KdbxHeader where
  version : KdbxVersion
  cipher : KdbxCipher := .aes256
  compression : Compression := .gzip
  masterSeed : List UInt8 := List.replicate 32 0
  encryptionIv : List UInt8 := []
  kdfParameters : VariantDictionary := {}
  publicCustomData : VariantDictionary := {}
  unknownFields : List UnknownHeaderField := []

def cipherUuid : KdbxCipher → List UInt8
  | .aes256 => [0x31, 0xC1, 0xF2, 0xE6, 0xBF, 0x71, 0x43, 0x50, 0xBE, 0x58, 0x05, 0x21, 0x6A, 0xFC, 0x5A, 0xFF]
  | .chaCha20 => [0xD6, 0x03, 0x8A, 0x2B, 0x8B, 0x6F, 0x4C, 0xB5, 0xA5, 0x24, 0x33, 0x9A, 0x31, 0xDB, 0xB5, 0x9A]
  | .twofish => [0xAD, 0x68, 0xF2, 0x9F, 0x57, 0x6F, 0x4B, 0xB9, 0xA3, 0x6A, 0xD4, 0x7A, 0xF9, 0x65, 0x34, 0x6C]

def uuidToCipher (uuid : List UInt8) : Except KdbxError KdbxCipher :=
  if uuid = cipherUuid .aes256 then .ok .aes256
  else if uuid = cipherUuid .chaCha20 then .ok .chaCha20
  else if uuid = cipherUuid .twofish then .ok .twofish
  else .error .invalidValue

def versionToU32 : KdbxVersion → Nat
  | .v2_0 => 0x00020004
  | .v3_0 => 0x00030000
  | .v3_1 => 0x00030001
  | .v4_0 => 0x00040000
  | .v4_1 => 0x00040001

def u32ToVersion (version : Nat) : Except KdbxError KdbxVersion :=
  match version with
  | 0x00020000 => .ok .v2_0
  | 0x00020004 => .ok .v2_0
  | 0x00030000 => .ok .v3_0
  | 0x00030001 => .ok .v3_1
  | 0x00040000 => .ok .v4_0
  | 0x00040001 => .ok .v4_1
  | _ => .error .invalidValue

def compressionBytes : Compression → List UInt8
  | .none => leBytes 4 0
  | .gzip => leBytes 4 1

def signature : List UInt8 := leBytes 4 0x9AA2D903 ++ leBytes 4 0xB54BFB67

namespace KdbxHeader

def encode (header : KdbxHeader) : Except KdbxError (List UInt8) := do
  let kdfParameters ← header.kdfParameters.encode
  let publicCustomData ← header.publicCustomData.encode
  .ok (signature ++ leBytes 4 (versionToU32 header.version)
    ++ writeField 2 (cipherUuid header.cipher)
    ++ writeField 3 (compressionBytes header.compression)
    ++ writeField 4 header.masterSeed
    ++ writeField 7 header.encryptionIv
    ++ writeField 11 kdfParameters
    ++ writeField 12 publicCustomData
    ++ header.unknownFields.flatMap (fun field => writeField field.id field.data)
    ++ writeField 0 [13, 10, 13, 10])

/-- One field of the header. -/
def read (header : KdbxHeader) (id : UInt8) (data : List UInt8) : Except KdbxError KdbxHeader :=
  if id = 2 then do .ok { header with cipher := ← uuidToCipher (← exactLength 16 data) }
  else if id = 3 then do
    let value := natOfLeBytes (← exactLength 4 data)
    if value = 0 then .ok { header with compression := .none }
    else if value = 1 then .ok { header with compression := .gzip }
    else .error .invalidValue
  else if id = 4 then do .ok { header with masterSeed := ← exactLength 32 data }
  else if id = 7 then .ok { header with encryptionIv := data }
  else if id = 11 then do .ok { header with kdfParameters := ← VariantDictionary.decode data }
  else if id = 12 then do .ok { header with publicCustomData := ← VariantDictionary.decode data }
  else .ok { header with unknownFields := header.unknownFields ++ [{ id, data }] }

/-- The loop over the fields. Every field takes bytes, so the length is fuel enough. -/
def readFields : Nat → KdbxHeader → List UInt8 → Except KdbxError (KdbxHeader × List UInt8)
  | 0, _, _ => .error .unexpectedEof
  | fuel + 1, header, bytes => do
      let (id, bytes) ← readExact 1 bytes
      let (data, bytes) ← readSized bytes
      if id = [0] then .ok (header, bytes)
      else do
        let header ← header.read (id.headD 0) data
        readFields fuel header bytes

end KdbxHeader

/-- The version, behind the signature. -/
def detectFileVersion (bytes : List UInt8) : Except KdbxError (KdbxVersion × List UInt8) := do
  let (sig1, bytes) ← readLe 4 bytes
  let (sig2, bytes) ← readLe 4 bytes
  if sig1 ≠ 0x9AA2D903 ∨ sig2 ≠ 0xB54BFB67 then .error .invalidValue
  else do
    let (version, bytes) ← readLe 4 bytes
    .ok (← u32ToVersion version, bytes)

/-- `KdbxHeader::decode_with_consumed`: the header and the bytes behind it. -/
def KdbxHeader.decode (bytes : List UInt8) : Except KdbxError (KdbxHeader × List UInt8) := do
  let (version, rest) ← detectFileVersion bytes
  if version ≠ .v4_1 ∧ version ≠ .v4_0 then .error .unsupportedVersion
  else KdbxHeader.readFields (rest.length + 1) { version } rest

/-! ## The inner header -/

def innerBinaryBytes (binary : InnerBinary) : List UInt8 :=
  (if binary.protectInMemory then 1 else 0) :: binary.data.bytes

def buildInnerHeader (innerKey : List UInt8) (binaries : List InnerBinary) : List UInt8 :=
  writeField 1 (leBytes 4 3) ++ writeField 2 innerKey
    ++ binaries.flatMap (fun binary => writeField 3 (innerBinaryBytes binary)) ++ writeField 0 []

structure InnerHeader where
  innerAlgorithm : Nat := 3
  innerKey : Option (List UInt8) := none
  binaries : List InnerBinary := []

/-- `AttachmentContentPool::intern`, where every content of the pool is still in use. -/
def internContent (sha256 : List UInt8 → List UInt8) (contents : List AttachmentContent) (bytes : List UInt8) :
    Except KdbxError AttachmentContent :=
  match contents.find? fun content => sha256 content.bytes = sha256 bytes with
  | some existing => if existing.bytes ≠ bytes then .error .attachmentContentHashCollision else .ok existing
  | none => .ok { bytes }

/-- One field of the inner header. The contents of the pool are those of the binaries read so far. -/
def InnerHeader.read (sha256 : List UInt8 → List UInt8) (header : InnerHeader) (id : UInt8) (data : List UInt8) :
    Except KdbxError InnerHeader :=
  if id = 1 then do
    let innerAlgorithm := natOfLeBytes (← exactLength 4 data)
    if innerAlgorithm ≠ 2 ∧ innerAlgorithm ≠ 3 then .error .unsupportedInnerStream
    else .ok { header with innerAlgorithm }
  else if id = 2 then .ok { header with innerKey := some data }
  else if id = 3 then
    match data with
    | [] => .error .invalidValue
    | flag :: bytes =>
        if flag ≠ 0 ∧ flag ≠ 1 then .error .invalidValue
        else do
          let data ← internContent sha256 (header.binaries.map (·.data)) bytes
          .ok { header with binaries := header.binaries ++ [{ protectInMemory := flag = 1, data }] }
  else .ok header

/-- The loop over the fields. Every field takes bytes, so the length is fuel enough. -/
def readInnerFields (sha256 : List UInt8 → List UInt8) :
    Nat → InnerHeader → List UInt8 → Except KdbxError (InnerHeader × List UInt8)
  | 0, _, _ => .error .unexpectedEof
  | fuel + 1, header, bytes => do
      let (id, bytes) ← readExact 1 bytes
      let (data, bytes) ← readSized bytes
      if id = [0] then .ok (header, bytes)
      else do
        let header ← header.read sha256 (id.headD 0) data
        readInnerFields sha256 fuel header bytes

def parseInnerHeader (sha256 : List UInt8 → List UInt8) (payload : List UInt8) :
    Except KdbxError (InnerHeader × List UInt8) := do
  let (header, rest) ← readInnerFields sha256 (payload.length + 1) {} payload
  if header.innerKey.isNone then .error .invalidValue else .ok (header, rest)

/-! ## The libraries -/

/-- The functions of the libraries that a file goes through. -/
structure FileLibrary extends StreamLibrary, ReadLibrary where
  hmacSha256 : List UInt8 → List UInt8 → List UInt8
  encrypt : KdbxCipher → List UInt8 → List UInt8 → List UInt8 → Option (List UInt8)
  decrypt : KdbxCipher → List UInt8 → List UInt8 → List UInt8 → Option (List UInt8)
  gzipCompress : List UInt8 → Option (List UInt8)

/-! ## Blocks -/

def blockSize : Nat := 1024 * 1024

/-- `chunks`. Every chunk takes bytes, so the length is fuel enough. -/
def chunks : Nat → List UInt8 → List (List UInt8)
  | 0, _ => []
  | fuel + 1, bytes => if bytes.isEmpty then [] else bytes.take blockSize :: chunks fuel (bytes.drop blockSize)

section Files

variable (library : FileLibrary)

def blockHmacKey (macSeed : List UInt8) (index : Nat) : List UInt8 := library.sha512 (leBytes 8 index ++ macSeed)

def blockMac (macSeed : List UInt8) (index : Nat) (chunk : List UInt8) : List UInt8 :=
  library.hmacSha256 (blockHmacKey library macSeed index) (leBytes 8 index ++ sized chunk)

def encodeBlocks (macSeed : List UInt8) : Nat → List (List UInt8) → List UInt8
  | index, [] => blockMac library macSeed index [] ++ sized []
  | index, chunk :: rest => blockMac library macSeed index chunk ++ sized chunk ++ encodeBlocks macSeed (index + 1) rest

def encodeBlockStream (macSeed encryptedPayload : List UInt8) : List UInt8 :=
  encodeBlocks library macSeed 0 (chunks encryptedPayload.length encryptedPayload)

/-- The loop of `decode_block_stream`. Every block takes bytes, so the length is fuel enough. -/
def decodeBlocks (macSeed : List UInt8) : Nat → Nat → List UInt8 → Except KdbxError (List UInt8)
  | 0, _, _ => .error .unexpectedEof
  | fuel + 1, index, bytes => do
      let (mac, bytes) ← readExact 32 bytes
      let (size, bytes) ← readLe 4 bytes
      if 2 ^ 31 ≤ size then .error .invalidValue
      else do
        let (chunk, bytes) ← readExact size bytes
        if blockMac library macSeed index chunk ≠ mac then .error .payloadHmacMismatch
        else if size = 0 then .ok []
        else do
          let later ← decodeBlocks macSeed fuel (index + 1) bytes
          .ok (chunk ++ later)

def decodeBlockStream (macSeed bytes : List UInt8) : Except KdbxError (List UInt8) :=
  decodeBlocks library macSeed (bytes.length + 1) 0 bytes

/-- The loop of `decode_legacy_block_stream`, with an index of 32 bits that stays at its largest. -/
def decodeLegacyBlocks : Nat → Nat → List UInt8 → List UInt8 → Except KdbxError (List UInt8)
  | 0, _, _, _ => .error .unexpectedEof
  | fuel + 1, index, plaintext, bytes => do
      let (blockIndex, bytes) ← readLe 4 bytes
      let (blockHash, bytes) ← readExact 32 bytes
      let (blockSize, bytes) ← readLe 4 bytes
      if blockIndex ≠ index then .error .invalidValue
      else if blockSize = 0 then .ok plaintext
      else do
        let (block, bytes) ← readExact blockSize bytes
        if library.sha256 block ≠ blockHash then .error .payloadHashMismatch
        else decodeLegacyBlocks fuel (min (index + 1) (2 ^ 32 - 1)) (plaintext ++ block) bytes

def decodeLegacyBlockStream (bytes : List UInt8) : Except KdbxError (List UInt8) :=
  decodeLegacyBlocks library (bytes.length + 1) 0 [] bytes

/-! ## Keys -/

def headerHmac (macSeed headerBytes : List UInt8) : List UInt8 :=
  library.hmacSha256 (library.sha512 (List.replicate 8 0xFF ++ macSeed)) headerBytes

def macSeed (masterSeed transformed : List UInt8) : List UInt8 := library.sha512 (masterSeed ++ transformed ++ [1])

def encryptionKey (masterSeed transformed : List UInt8) : List UInt8 := library.sha256 (masterSeed ++ transformed)

/-! ## Saving -/

structure SaveProfile where
  version : KdbxVersion
  cipher : KdbxCipher
  compression : Compression
  deriving DecidableEq

/-- The random bytes of one save. -/
structure SaveRandom where
  masterSeed : List UInt8
  encryptionIv : List UInt8
  innerKey : List UInt8
  masterSeed_length : masterSeed.length = 32
  innerKey_length : innerKey.length = 64

def publicDictionary (vault : Vault) : VariantDictionary :=
  { items := vault.publicCustomData.map fun _ value => .bytes value }

/-- `prepare_save`. `kdf` is the dictionary of the KDF the key was derived with, if it is a known one. -/
def prepareSave (vault : Vault) (profile : SaveProfile) (kdf : Except KdbxError VariantDictionary)
    (random : SaveRandom) : Except KdbxError KdbxHeader := do
  if profile.version ≠ .v4_0 ∧ profile.version ≠ .v4_1 then .error .unsupportedVersion
  else do
    validateVaultModel vault
    if requiredVersion vault = .v4_1 ∧ profile.version ≠ .v4_1 then .error .unsupportedVersion
    else do
      let kdfParameters ← kdf
      .ok
        { version := profile.version
          cipher := profile.cipher
          compression := profile.compression
          masterSeed := random.masterSeed
          encryptionIv := random.encryptionIv
          kdfParameters
          publicCustomData := publicDictionary vault }

def orInvalid {A : Type} : Option A → Except KdbxError A
  | some a => .ok a
  | none => .error .invalidValue

def compress (compression : Compression) (payload : List UInt8) : Except KdbxError (List UInt8) :=
  match compression with
  | .none => .ok payload
  | .gzip => orInvalid (library.gzipCompress payload)

def decompress (compression : Compression) (payload : List UInt8) : Except KdbxError (List UInt8) :=
  match compression with
  | .none => .ok payload
  | .gzip => orInvalid (library.gzipDecompress payload)

/-- `encode_kdbx_with_transformed_key`, with the inner stream as it is left. -/
def encodeKdbxWithTransformedKey (vault : Vault) (profile : SaveProfile) (header : KdbxHeader) (random : SaveRandom)
    (transformed : List UInt8) : Except KdbxError (List UInt8 × ProtectedStream) := do
  let seed := macSeed library header.masterSeed transformed
  let binaries ← collectAttachmentRefs library.sha256 vault
  let (document, stream) ← buildXml library.xml library.toStreamLibrary vault binaries random.innerKey profile.version
  let payload ← compress library profile.compression (buildInnerHeader random.innerKey binaries ++ document)
  let encryptedPayload ← orInvalid (library.encrypt profile.cipher
    (encryptionKey library header.masterSeed transformed) header.encryptionIv payload)
  let headerBytes ← header.encode
  .ok (headerBytes ++ library.sha256 headerBytes ++ headerHmac library seed headerBytes
    ++ encodeBlockStream library seed encryptedPayload, stream)

def saveKdbx (vault : Vault) (profile : SaveProfile) (kdf : Except KdbxError VariantDictionary) (random : SaveRandom)
    (transformed : List UInt8) : Except KdbxError (List UInt8 × ProtectedStream) := do
  let header ← prepareSave vault profile kdf random
  encodeKdbxWithTransformedKey library vault profile header random transformed

/-! ## Loading -/

/-- What the outer layers of a file hold: the header and the payload. -/
def openContainer (bytes transformed : List UInt8) : Except KdbxError (KdbxHeader × List UInt8) := do
  let (version, _) ← detectFileVersion bytes
  if version ≠ .v4_0 ∧ version ≠ .v4_1 then .error .unsupportedVersion
  else do
    let (header, rest) ← KdbxHeader.decode bytes
    let headerBytes := bytes.take (bytes.length - rest.length)
    let (storedHeaderHash, rest) ← readExact 32 rest
    let (storedHeaderHmac, payloadBytes) ← readExact 32 rest
    if library.sha256 headerBytes ≠ storedHeaderHash then .error .headerHashMismatch
    else
      let seed := macSeed library header.masterSeed transformed
      if headerHmac library seed headerBytes ≠ storedHeaderHmac then .error .headerHmacMismatch
      else do
        let encryptedPayload ← decodeBlockStream library seed payloadBytes
        let payload ← orInvalid (library.decrypt header.cipher
          (encryptionKey library header.masterSeed transformed) header.encryptionIv encryptedPayload)
        let payload ← decompress library header.compression payload
        .ok (header, payload)

/-- `load_kdbx_with_transformed_key_diagnostic`. -/
def loadKdbx (bytes transformed : List UInt8) : Except KdbxError Vault := do
  let (header, payload) ← openContainer library bytes transformed
  let (inner, xmlBytes) ← parseInnerHeader library.sha256 payload
  let document ← parseXmlDocument library.toReadLibrary xmlBytes
  validateXmlModelShape library.rfc3339 document
  let kdfParameters ← header.kdfParameters.encode
  projectXml library.toReadLibrary document kdfParameters header.publicCustomData.byteItems inner.binaries
    (ProtectedStream.fromStream library.toStreamLibrary inner.innerAlgorithm (inner.innerKey.getD []))

end Files

end VaultKern.Kdbx
