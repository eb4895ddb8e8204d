import VaultKern.Kdbx.Nodes

/-! # The inner random stream

Protected values are masked with one keystream, in the order in which the values are
met: the writer goes over the finished tree, the reader over the tree it has read.
The stream keeps a record of its uses that no code reads.
-/

namespace VaultKern.Kdbx

/-- One use of the stream: where it stood, what went in and what came out. -/
structure StreamUse where
  offset : Nat
  input : List UInt8
  output : List UInt8
  deriving DecidableEq

structure ProtectedStream where
  keystream : Nat → UInt8
  position : Nat := 0
  uses : List StreamUse := []

namespace ProtectedStream

def mask (stream : ProtectedStream) (bytes : List UInt8) : List UInt8 :=
  bytes.mapIdx fun i byte => byte ^^^ stream.keystream (stream.position + i)

def apply (stream : ProtectedStream) (bytes : List UInt8) : List UInt8 × ProtectedStream :=
  (stream.mask bytes,
    { stream with
      position := stream.position + bytes.length
      uses := stream.uses ++ [{ offset := stream.position, input := bytes, output := stream.mask bytes }] })

@[simp] theorem mask_length (stream : ProtectedStream) (bytes : List UInt8) :
    (stream.mask bytes).length = bytes.length := by
  simp [mask]

/-- The same place of the stream masks and unmasks. -/
theorem mask_mask (stream : ProtectedStream) (bytes : List UInt8) : stream.mask (stream.mask bytes) = bytes := by
  apply List.ext_getElem
  · simp
  · intro i left right
    simp only [mask, List.getElem_mapIdx]
    rw [UInt8.xor_assoc, UInt8.xor_self, UInt8.xor_zero]

end ProtectedStream

/-! ## The keystreams -/

/-- The functions of the cryptographic libraries. A keystream is a function of key and nonce. -/
structure StreamLibrary where
  sha256 : List UInt8 → List UInt8
  sha512 : List UInt8 → List UInt8
  chacha20 : List UInt8 → List UInt8 → Nat → UInt8
  salsa20 : List UInt8 → List UInt8 → Nat → UInt8

namespace ProtectedStream

variable (library : StreamLibrary)

def newPlain : ProtectedStream := { keystream := fun _ => 0 }

def newChacha (innerKey : List UInt8) : Except KdbxError ProtectedStream :=
  if innerKey.length < 32 then .error .invalidValue
  else
    let digest := library.sha512 innerKey
    .ok { keystream := library.chacha20 (digest.take 32) ((digest.drop 32).take 12) }

def newSalsa (innerKey : List UInt8) : ProtectedStream :=
  { keystream := library.salsa20 (library.sha256 innerKey) [0xE8, 0x30, 0x09, 0x4B, 0x97, 0x20, 0x5D, 0x2A] }

def fromStream (streamId : Nat) (innerKey : List UInt8) : Except KdbxError ProtectedStream :=
  match streamId with
  | 0 => .ok newPlain
  | 2 => .ok (newSalsa library innerKey)
  | 3 => newChacha library innerKey
  | _ => .error .unsupportedInnerStream

end ProtectedStream

/-! ## Protecting a tree -/

/-- `get_mut_child`: the first child of that name is replaced. -/
def replaceChild (name : String) (new : Element → Element) : List (XMLNode Element) → List (XMLNode Element)
  | [] => []
  | .element child :: rest =>
      if child.name = name then .element (new child) :: rest else .element child :: replaceChild name new rest
  | node :: rest => node :: replaceChild name new rest

/-- The element with one text for its content. -/
def withText (text : String) (element : Element) : Element := ⟨element.name, element.attributes, [.text text]⟩

def protectXmlString (string : Element) (stream : ProtectedStream) : Except KdbxError (Element × ProtectedStream) :=
  match string.childOptional "Value" with
  | none => .error .invalidValue
  | some value =>
      if (value.attributes["Protected"]?.map parseBoolText).getD false then
        let bytes := (value.getText.getD "").toUTF8.toList
        let (masked, stream) := stream.apply bytes
        .ok (⟨string.name, string.attributes,
          replaceChild "Value" (withText (Base64.encode masked)) string.children⟩, stream)
      else .ok (string, stream)

mutual
def protectXmlEntry : Element → ProtectedStream → Except KdbxError (Element × ProtectedStream)
  | ⟨name, attributes, children⟩, stream => do
      let (children, stream) ← protectEntryChildren children stream
      .ok (⟨name, attributes, children⟩, stream)

def protectEntryChildren : List (XMLNode Element) → ProtectedStream →
    Except KdbxError (List (XMLNode Element) × ProtectedStream)
  | [], stream => .ok ([], stream)
  | .element ⟨name, attributes, children⟩ :: rest, stream =>
      if name = "String" then do
        let (child, stream) ← protectXmlString ⟨name, attributes, children⟩ stream
        let (rest, stream) ← protectEntryChildren rest stream
        .ok (.element child :: rest, stream)
      else if name = "History" then do
        let (children, stream) ← protectHistoryChildren children stream
        let (rest, stream) ← protectEntryChildren rest stream
        .ok (.element ⟨name, attributes, children⟩ :: rest, stream)
      else do
        let (rest, stream) ← protectEntryChildren rest stream
        .ok (.element ⟨name, attributes, children⟩ :: rest, stream)
  | node :: rest, stream => do
      let (rest, stream) ← protectEntryChildren rest stream
      .ok (node :: rest, stream)

def protectHistoryChildren : List (XMLNode Element) → ProtectedStream →
    Except KdbxError (List (XMLNode Element) × ProtectedStream)
  | [], stream => .ok ([], stream)
  | .element child :: rest, stream =>
      if child.name = "Entry" then do
        let (child, stream) ← protectXmlEntry child stream
        let (rest, stream) ← protectHistoryChildren rest stream
        .ok (.element child :: rest, stream)
      else do
        let (rest, stream) ← protectHistoryChildren rest stream
        .ok (.element child :: rest, stream)
  | node :: rest, stream => do
      let (rest, stream) ← protectHistoryChildren rest stream
      .ok (node :: rest, stream)
end

mutual
def protectXmlGroup : Element → ProtectedStream → Except KdbxError (Element × ProtectedStream)
  | ⟨name, attributes, children⟩, stream => do
      let (children, stream) ← protectGroupChildren children stream
      .ok (⟨name, attributes, children⟩, stream)

def protectGroupChildren : List (XMLNode Element) → ProtectedStream →
    Except KdbxError (List (XMLNode Element) × ProtectedStream)
  | [], stream => .ok ([], stream)
  | .element child :: rest, stream =>
      if child.name = "Entry" then do
        let (child, stream) ← protectXmlEntry child stream
        let (rest, stream) ← protectGroupChildren rest stream
        .ok (.element child :: rest, stream)
      else if child.name = "Group" then do
        let (child, stream) ← protectXmlGroup child stream
        let (rest, stream) ← protectGroupChildren rest stream
        .ok (.element child :: rest, stream)
      else do
        let (rest, stream) ← protectGroupChildren rest stream
        .ok (.element child :: rest, stream)
  | node :: rest, stream => do
      let (rest, stream) ← protectGroupChildren rest stream
      .ok (node :: rest, stream)
end

end VaultKern.Kdbx
