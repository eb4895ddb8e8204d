import VaultKern.Lib.Base64
import VaultKern.Lib.Hex
import VaultKern.Lib.XmlTree
import VaultKern.Model.Credentials
import VaultKern.Model.Text

/-! # Key files

A key file is raw bytes, hexadecimal digits or an XML document with the key, or any file at all. What
it is is told from its content. Hash and XML parser are functions of the libraries.
-/

namespace VaultKern

/-- `[u8; 32]`. -/
structure Array32 where
  bytes : List UInt8
  length : bytes.length = 32
  deriving DecidableEq

namespace KeyFile

inductive CryptoError where
  | invalidKeyFile
  | keyFileIntegrityMismatch
  deriving DecidableEq

structure KeyFileLibrary where
  sha256Bytes : List UInt8 → Array32
  /-- `Element::parse`, whose errors are not told apart. -/
  parseXml : List UInt8 → Option Element

/-! ## What a file is -/

/-- `u8::is_ascii_whitespace`. -/
def isAsciiWhitespace (byte : UInt8) : Bool := byte ∈ [0x20, 0x09, 0x0A, 0x0C, 0x0D]

def isAsciiHexdigit (byte : UInt8) : Bool :=
  (0x30 ≤ byte && byte ≤ 0x39) || (0x41 ≤ byte && byte ≤ 0x46) || (0x61 ≤ byte && byte ≤ 0x66)

/-- The first byte that is not white space is `<`. -/
def looksLikeXml : List UInt8 → Bool
  | [] => false
  | byte :: rest => if isAsciiWhitespace byte then looksLikeXml rest else byte = 0x3C

def utf8Bom : List UInt8 := [0xEF, 0xBB, 0xBF]

def stripUtf8Bom (bytes : List UInt8) : List UInt8 := if utf8Bom.isPrefixOf bytes then bytes.drop 3 else bytes

/-! ## Files of bytes -/

/-- The digits of `HEXLOWER`. -/
def lowerSymbol (byte : UInt8) : Option UInt8 :=
  if 0x30 ≤ byte ∧ byte ≤ 0x39 then some (byte - 0x30)
  else if 0x61 ≤ byte ∧ byte ≤ 0x66 then some (byte - 0x61 + 10)
  else none

/-- The digits of `HEXUPPER`. -/
def upperSymbol (byte : UInt8) : Option UInt8 :=
  if 0x30 ≤ byte ∧ byte ≤ 0x39 then some (byte - 0x30)
  else if 0x41 ≤ byte ∧ byte ≤ 0x46 then some (byte - 0x41 + 10)
  else none

def zeroizingArray32 (bytes : List UInt8) : Except CryptoError Array32 :=
  if length : bytes.length = 32 then .ok ⟨bytes, length⟩ else .error .invalidKeyFile

def parseBinaryKeyFile (library : KeyFileLibrary) (bytes : List UInt8) : Except CryptoError Array32 :=
  if length : bytes.length = 32 then .ok ⟨bytes, length⟩
  else
    let compactHex := bytes.filter fun byte => !isAsciiWhitespace byte
    if compactHex.length = 64 ∧ compactHex.all isAsciiHexdigit then
      match (Hex.decode lowerSymbol compactHex).or (Hex.decode upperSymbol compactHex) with
      | some decoded => zeroizingArray32 decoded
      | none => .error .invalidKeyFile
    else .ok (library.sha256Bytes bytes)

/-! ## XML files -/

def childElement (element : Element) (path : List String) : Option Element :=
  path.foldlM (fun current name => current.childOptional name) element

def childText (element : Element) (path : List String) : Option String :=
  (childElement element path).bind Element.getText

def required {A : Type} (value : Option A) : Except CryptoError A :=
  match value with
  | some a => .ok a
  | none => .error .invalidKeyFile

def parseXmlKeyFileV1 (root : Element) : Except CryptoError Array32 := do
  let data ← required (childText root ["Key", "Data"])
  let decoded ← required (Base64.decode (trimText data))
  zeroizingArray32 decoded

/-- `HEXUPPER.encode`. -/
def hexUpperText (bytes : List UInt8) : String :=
  String.ofList (bytes.flatMap fun byte => [hexUpper (byte.toNat / 16), hexUpper (byte.toNat % 16)])

/-- The digits in a text with white space between them. -/
def hexBytes (text : String) : List UInt8 :=
  (String.ofList (text.toList.filter fun c => !isWhitespace c)).toUTF8.toList

def checkHash (library : KeyFileLibrary) (dataElement : Element) (decoded : Array32) : Except CryptoError Array32 :=
  match dataElement.attributes["Hash"]? with
  | some expectedHash =>
      let actualHash := hexUpperText ((library.sha256Bytes decoded.bytes).bytes.take 4)
      if !eqIgnoreAsciiCase expectedHash actualHash then .error .keyFileIntegrityMismatch else .ok decoded
  | none => .ok decoded

def parseXmlKeyFileV2 (library : KeyFileLibrary) (root : Element) : Except CryptoError Array32 := do
  let dataElement ← required (childElement root ["Key", "Data"])
  let hexText ← required (dataElement.getText.map hexBytes)
  let decoded ← required ((Hex.decode upperSymbol hexText).or (Hex.decode lowerSymbol hexText))
  let decoded ← zeroizingArray32 decoded
  checkHash library dataElement decoded

def parseXmlKeyFile (library : KeyFileLibrary) (bytes : List UInt8) : Except CryptoError Array32 := do
  let root ← required (library.parseXml bytes)
  if root.name ≠ "KeyFile" then .error .invalidKeyFile
  else do
    let version ← required (childText root ["Meta", "Version"])
    if version.toList.head? = some '1' then parseXmlKeyFileV1 root
    else if version.toList.head? = some '2' then parseXmlKeyFileV2 library root
    else .error .invalidKeyFile

def parseKeyFileBytes (library : KeyFileLibrary) (bytes : List UInt8) : Except CryptoError Array32 :=
  let trimmed := stripUtf8Bom bytes
  if looksLikeXml trimmed then parseXmlKeyFile library trimmed else parseBinaryKeyFile library trimmed

end KeyFile

end VaultKern
