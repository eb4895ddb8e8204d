import VaultKern.Crypto.KeyFile
import VaultKern.Lib.Fallible

/-! # What key files stand for

For each form of a key file, when the parser gives the key that it stands for: not for digits of both
cases, nor for bytes that start like another form.
-/

namespace VaultKern.KeyFile

/-! ## Digits -/

def isLowerHex (byte : UInt8) : Bool := 0x61 ≤ byte && byte ≤ 0x66

def isUpperHex (byte : UInt8) : Bool := 0x41 ≤ byte && byte ≤ 0x46

/-- A digit with letters of any case. -/
def anySymbol (byte : UInt8) : Option UInt8 := (lowerSymbol byte).or (upperSymbol byte)

/-- All letters are of one case. -/
def OneCase (digits : List UInt8) : Prop :=
  (∀ digit ∈ digits, isUpperHex digit = false) ∨ ∀ digit ∈ digits, isLowerHex digit = false

instance (digits : List UInt8) : Decidable (OneCase digits) := inferInstanceAs (Decidable (_ ∨ _))

theorem symbols : ∀ n : Fin 256,
    (isUpperHex (UInt8.ofFin n) = false → lowerSymbol (UInt8.ofFin n) = anySymbol (UInt8.ofFin n)) ∧
    (isLowerHex (UInt8.ofFin n) = false → upperSymbol (UInt8.ofFin n) = anySymbol (UInt8.ofFin n)) ∧
    (isUpperHex (UInt8.ofFin n) = true → lowerSymbol (UInt8.ofFin n) = none) ∧
    (isLowerHex (UInt8.ofFin n) = true → upperSymbol (UInt8.ofFin n) = none) ∧
    ((anySymbol (UInt8.ofFin n)).isSome → isAsciiHexdigit (UInt8.ofFin n) = true ∧
      isAsciiWhitespace (UInt8.ofFin n) = false ∧ UInt8.ofFin n ≠ 0x3C ∧ UInt8.ofFin n ≠ 0xEF) ∧
    (isAsciiHexdigit (UInt8.ofFin n) = true → (anySymbol (UInt8.ofFin n)).isSome) := by decide +kernel

theorem lowerSymbol_any {byte : UInt8} (plain : isUpperHex byte = false) : lowerSymbol byte = anySymbol byte :=
  (symbols byte.toFin).1 plain

theorem upperSymbol_any {byte : UInt8} (plain : isLowerHex byte = false) : upperSymbol byte = anySymbol byte :=
  (symbols byte.toFin).2.1 plain

theorem lowerSymbol_none {byte : UInt8} (upper : isUpperHex byte = true) : lowerSymbol byte = none :=
  (symbols byte.toFin).2.2.1 upper

theorem upperSymbol_none {byte : UInt8} (lower : isLowerHex byte = true) : upperSymbol byte = none :=
  (symbols byte.toFin).2.2.2.1 lower

theorem anySymbol_digit {byte : UInt8} (known : (anySymbol byte).isSome) : isAsciiHexdigit byte = true ∧
    isAsciiWhitespace byte = false ∧ byte ≠ 0x3C ∧ byte ≠ 0xEF :=
  (symbols byte.toFin).2.2.2.2.1 known

theorem hexdigit_known {byte : UInt8} (digit : isAsciiHexdigit byte = true) : (anySymbol byte).isSome :=
  (symbols byte.toFin).2.2.2.2.2 digit

theorem lowerSymbol_agrees {byte value : UInt8} (known : lowerSymbol byte = some value) :
    lowerSymbol byte = anySymbol byte := by
  rw [anySymbol, known]
  rfl

theorem upperSymbol_agrees {byte value : UInt8} (known : upperSymbol byte = some value) :
    upperSymbol byte = anySymbol byte := by
  cases lower : isLowerHex byte with
  | false => exact upperSymbol_any lower
  | true =>
      rw [upperSymbol_none lower] at known
      cases known

/-- A decoder that takes some of the digits reads what they stand for, or nothing. -/
theorem decode_stands {symbol : UInt8 → Option UInt8}
    (agrees : ∀ byte value, symbol byte = some value → symbol byte = anySymbol byte) {digits bytes read : List UInt8}
    (stands : Hex.decode anySymbol digits = some bytes) (decoded : Hex.decode symbol digits = some read) :
    read = bytes := by
  have same : Hex.decode symbol digits = Hex.decode anySymbol digits := by
    apply Hex.decode_congr
    intro digit member
    obtain ⟨value, known⟩ := Option.isSome_iff_exists.mp (Hex.decode_each decoded digit member)
    exact agrees digit value known
  rw [decoded, stands] at same
  exact Option.some.inj same

/-- Two decoders for the two cases read the digits if all letters are of one case. -/
theorem decode_or {first second : UInt8 → Option UInt8} {digits bytes : List UInt8}
    (firstAgrees : ∀ byte value, first byte = some value → first byte = anySymbol byte)
    (reads : OneCase digits → Hex.decode first digits = some bytes ∨ Hex.decode second digits = some bytes)
    (mixed : ¬OneCase digits → Hex.decode first digits = none ∧ Hex.decode second digits = none)
    (stands : Hex.decode anySymbol digits = some bytes) :
    (Hex.decode first digits).or (Hex.decode second digits) = if OneCase digits then some bytes else none := by
  by_cases one : OneCase digits
  · rw [if_pos one]
    cases decoded : Hex.decode first digits with
    | some read => rw [Option.some_or, decode_stands firstAgrees stands decoded]
    | none =>
        rw [Option.none_or]
        rcases reads one with here | there
        · rw [decoded] at here
          cases here
        · exact there
  · obtain ⟨left, right⟩ := mixed one
    rw [if_neg one, left, right]
    rfl

/-- Digits of one case are read by the decoder of that case. -/
theorem decode_oneCase {digits bytes : List UInt8} (stands : Hex.decode anySymbol digits = some bytes)
    (one : OneCase digits) :
    Hex.decode lowerSymbol digits = some bytes ∨ Hex.decode upperSymbol digits = some bytes := by
  rcases one with lower | upper
  · left
    rw [Hex.decode_congr fun digit member => lowerSymbol_any (lower digit member), stands]
  · right
    rw [Hex.decode_congr fun digit member => upperSymbol_any (upper digit member), stands]

/-- Digits of both cases are read by neither. -/
theorem decode_mixed {digits : List UInt8} (mixed : ¬OneCase digits) :
    Hex.decode lowerSymbol digits = none ∧ Hex.decode upperSymbol digits = none := by
  unfold OneCase at mixed
  push Not at mixed
  obtain ⟨⟨high, highIn, upper⟩, low, lowIn, lower⟩ := mixed
  exact ⟨Hex.decode_none highIn (lowerSymbol_none (by simpa using upper)),
    Hex.decode_none lowIn (upperSymbol_none (by simpa using lower))⟩

theorem decode_lowerFirst {digits bytes : List UInt8} (stands : Hex.decode anySymbol digits = some bytes) :
    (Hex.decode lowerSymbol digits).or (Hex.decode upperSymbol digits) = if OneCase digits then some bytes else none :=
  decode_or (fun _ _ => lowerSymbol_agrees) (decode_oneCase stands) decode_mixed stands

theorem decode_upperFirst {digits bytes : List UInt8} (stands : Hex.decode anySymbol digits = some bytes) :
    (Hex.decode upperSymbol digits).or (Hex.decode lowerSymbol digits) = if OneCase digits then some bytes else none :=
  decode_or (fun _ _ => upperSymbol_agrees) (fun one => (decode_oneCase stands one).symm)
    (fun mixed => (decode_mixed mixed).symm) stands

/-! ## What a file starts with -/

theorem looksLikeXml_mem {bytes : List UInt8} (looks : looksLikeXml bytes = true) : 0x3C ∈ bytes := by
  induction bytes with
  | nil => cases looks
  | cons byte rest ih =>
      rw [looksLikeXml] at looks
      split at looks
      · exact List.mem_cons_of_mem byte (ih looks)
      · rw [of_decide_eq_true looks]
        exact List.mem_cons_self

theorem stripUtf8Bom_eq {bytes : List UInt8} (plain : ¬utf8Bom <+: bytes) : stripUtf8Bom bytes = bytes := by
  unfold stripUtf8Bom
  rw [if_neg]
  rwa [List.isPrefixOf_iff_prefix]

theorem stripUtf8Bom_bom (rest : List UInt8) : stripUtf8Bom (utf8Bom ++ rest) = rest := rfl

theorem parse_bom (library : KeyFileLibrary) (rest : List UInt8) : parseKeyFileBytes library (utf8Bom ++ rest) =
    if looksLikeXml rest then parseXmlKeyFile library rest else parseBinaryKeyFile library rest := rfl

/-! ## The forms -/

section Forms

variable {parseXml : List UInt8 → Option Element}

/-- What is documented of XML: a document holds the tags of its elements, so one with the elements of a
key file is longer than a key, and tags start with `<` in every encoding. -/
structure XmlDocuments (parseXml : List UInt8 → Option Element) : Prop where
  spelled : ∀ bytes root, parseXml bytes = some root → root.name = "KeyFile" →
    (childText root ["Meta", "Version"]).isSome → 32 < bytes.length
  tagged : ∀ bytes root, parseXml bytes = some root → 0x3C ∈ bytes

/-- The parser gives the key whatever the hash is. -/
def Yields (parseXml : List UInt8 → Option Element) (bytes : List UInt8) (key : Array32) : Prop :=
  ∀ sha256Bytes, parseKeyFileBytes ⟨sha256Bytes, parseXml⟩ bytes = .ok key

/-- White space and the digits of the key. -/
def HexFile (bytes : List UInt8) (key : Array32) : Prop :=
  Hex.decode anySymbol (bytes.filter fun byte => !isAsciiWhitespace byte) = some key.bytes

/-- A document of version 1 with the base64 of the key. -/
def XmlV1File (parseXml : List UInt8 → Option Element) (bytes : List UInt8) (key : Array32) : Prop :=
  ∃ root version data, parseXml (stripUtf8Bom bytes) = some root ∧ root.name = "KeyFile" ∧
    childText root ["Meta", "Version"] = some version ∧ version.toList.head? = some '1' ∧
    childText root ["Key", "Data"] = some data ∧ trimText data = Base64.encode key.bytes

/-- A document of version 2 with the digits of the key and the first bytes of its hash. -/
def XmlV2File (parseXml : List UInt8 → Option Element) (sha256Bytes : List UInt8 → Array32) (bytes digits : List UInt8)
    (key : Array32) : Prop :=
  ∃ root version dataElement data hash, parseXml (stripUtf8Bom bytes) = some root ∧ root.name = "KeyFile" ∧
    childText root ["Meta", "Version"] = some version ∧ version.toList.head? = some '2' ∧
    childElement root ["Key", "Data"] = some dataElement ∧ dataElement.getText = some data ∧ hexBytes data = digits ∧
    Hex.decode anySymbol digits = some key.bytes ∧ dataElement.attributes["Hash"]? = some hash ∧
    eqIgnoreAsciiCase hash (hexUpperText ((sha256Bytes key.bytes).bytes.take 4)) = true

/-- Neither a key, nor digits of one, nor a document with the root of a key file. -/
structure OtherFile (parseXml : List UInt8 → Option Element) (bytes : List UInt8) : Prop where
  raw : bytes.length ≠ 32
  digits : ∀ key, ¬HexFile bytes key
  document : ∀ root, parseXml (stripUtf8Bom bytes) = some root → root.name ≠ "KeyFile"

/-! ### Hashes -/

def zeros : Array32 := ⟨List.replicate 32 0, rfl⟩

def ones : Array32 := ⟨List.replicate 32 1, rfl⟩

theorem zeros_ne_ones : zeros ≠ ones := by decide

/-- The binary parser gives the hash of the bytes, or what no hash has a part in. -/
theorem parseBinary_cases (bytes : List UInt8) :
    (∀ library, parseBinaryKeyFile library bytes = .ok (library.sha256Bytes bytes)) ∨
      ∃ result, ∀ library, parseBinaryKeyFile library bytes = result := by
  by_cases length : bytes.length = 32
  · right
    refine ⟨.ok ⟨bytes, length⟩, fun library => ?_⟩
    rw [parseBinaryKeyFile, dif_pos length]
  · by_cases digits : (bytes.filter fun byte => !isAsciiWhitespace byte).length = 64 ∧
        (bytes.filter fun byte => !isAsciiWhitespace byte).all isAsciiHexdigit
    · right
      refine ⟨parseBinaryKeyFile ⟨fun _ => zeros, fun _ => none⟩ bytes, fun library => ?_⟩
      simp only [parseBinaryKeyFile, dif_neg length, if_pos digits]
    · left
      intro library
      simp only [parseBinaryKeyFile, dif_neg length, if_neg digits]

theorem parseBinary_hashes {bytes : List UInt8} (raw : bytes.length ≠ 32) (digits : ∀ key, ¬HexFile bytes key)
    (library : KeyFileLibrary) : parseBinaryKeyFile library bytes = .ok (library.sha256Bytes bytes) := by
  simp only [parseBinaryKeyFile, dif_neg raw]
  rw [if_neg]
  rintro ⟨length, all⟩
  obtain ⟨key, stands⟩ := @Hex.decode_isSome anySymbol (bytes.filter fun byte => !isAsciiWhitespace byte)
    (by rw [length]) fun digit member => hexdigit_known (List.all_eq_true.mp all digit member)
  have size := Hex.decode_length stands
  exact digits ⟨key, by omega⟩ stands

/-! ### Digits -/

theorem hexFile_bytes {bytes : List UInt8} {key : Array32} (file : HexFile bytes key) :
    ∀ byte ∈ bytes, byte ≠ 0x3C ∧ byte ≠ 0xEF := by
  intro byte member
  cases white : isAsciiWhitespace byte with
  | true => constructor <;> (rintro rfl; cases white)
  | false =>
      have digit := Hex.decode_each file byte (List.mem_filter.mpr ⟨member, by rw [white]; rfl⟩)
      exact (anySymbol_digit digit).2.2

theorem hexFile_parse {bytes : List UInt8} {key : Array32} (file : HexFile bytes key) (library : KeyFileLibrary) :
    parseKeyFileBytes library bytes =
      if OneCase (bytes.filter fun byte => !isAsciiWhitespace byte) then .ok key else .error .invalidKeyFile := by
  have others := hexFile_bytes file
  have plain : ¬utf8Bom <+: bytes := by
    rintro ⟨rest, rfl⟩
    exact (others 0xEF List.mem_cons_self).2 rfl
  have dark : ¬looksLikeXml bytes = true := fun looks => (others 0x3C (looksLikeXml_mem looks)).1 rfl
  have size := Hex.decode_length file
  rw [key.length] at size
  have raw : bytes.length ≠ 32 := by
    have shorter := List.length_filter_le (fun byte => !isAsciiWhitespace byte) bytes
    omega
  have all : (bytes.filter fun byte => !isAsciiWhitespace byte).all isAsciiHexdigit = true :=
    List.all_eq_true.mpr fun digit member => (anySymbol_digit (Hex.decode_each file digit member)).1
  simp only [parseKeyFileBytes, stripUtf8Bom_eq plain, if_neg dark, parseBinaryKeyFile, dif_neg raw]
  rw [if_pos ⟨size, all⟩, decode_lowerFirst file]
  by_cases one : OneCase (bytes.filter fun byte => !isAsciiWhitespace byte)
  · simp only [if_pos one]
    rw [zeroizingArray32, dif_pos key.length]
  · simp only [if_neg one]

theorem hexFile_yields {bytes : List UInt8} {key : Array32} (file : HexFile bytes key) :
    Yields parseXml bytes key ↔ OneCase (bytes.filter fun byte => !isAsciiWhitespace byte) := by
  constructor
  · intro yields
    have parsed := yields fun _ => zeros
    rw [hexFile_parse file] at parsed
    by_contra mixed
    rw [if_neg mixed] at parsed
    cases parsed
  · intro one sha256Bytes
    rw [hexFile_parse file, if_pos one]

/-! ### Raw keys -/

/-- A short document is no key file. -/
theorem parseXml_short {library : KeyFileLibrary} (documents : XmlDocuments library.parseXml) {bytes : List UInt8}
    (short : bytes.length ≤ 32) : parseXmlKeyFile library bytes = .error .invalidKeyFile := by
  unfold parseXmlKeyFile
  cases parsed : library.parseXml bytes with
  | none => rfl
  | some root =>
      change (if root.name ≠ "KeyFile" then _ else _) = _
      by_cases named : root.name = "KeyFile"
      · rw [if_neg (fun other => other named)]
        cases versioned : childText root ["Meta", "Version"] with
        | none => rfl
        | some version =>
            have long := documents.spelled bytes root parsed named (by rw [versioned]; rfl)
            omega
      · rw [if_pos named]

/-- No document with another root is a key file. -/
theorem parseXml_other {library : KeyFileLibrary} {bytes : List UInt8}
    (other : ∀ root, library.parseXml bytes = some root → root.name ≠ "KeyFile") :
    parseXmlKeyFile library bytes = .error .invalidKeyFile := by
  unfold parseXmlKeyFile
  cases parsed : library.parseXml bytes with
  | none => rfl
  | some root =>
      change (if root.name ≠ "KeyFile" then _ else _) = _
      rw [if_pos (other root parsed)]

/-- What does not depend on the hash is not the hash of some bytes. -/
theorem not_hashed {bytes : List UInt8} {result : Except CryptoError Array32}
    (hashed : ∀ sha256Bytes : List UInt8 → Array32, result = .ok (sha256Bytes bytes)) : False := by
  have first := hashed fun _ => zeros
  rw [hashed fun _ => ones] at first
  exact zeros_ne_ones (Except.ok.inj first).symm

theorem rawFile_yields (documents : XmlDocuments parseXml) (key : Array32) :
    Yields parseXml key.bytes key ↔ ¬utf8Bom <+: key.bytes ∧ looksLikeXml key.bytes = false := by
  constructor
  · intro yields
    by_cases marked : utf8Bom <+: key.bytes
    · obtain ⟨rest, whole⟩ := marked
      have size := key.length
      rw [← whole, List.length_append] at size
      have short : rest.length = 29 := by
        have mark : utf8Bom.length = 3 := rfl
        omega
      unfold Yields at yields
      rw [← whole] at yields
      simp only [parse_bom] at yields
      by_cases looks : looksLikeXml rest = true
      · have parsed := yields fun _ => zeros
        simp only [if_pos looks] at parsed
        rw [parseXml_short documents (by rw [short]; decide)] at parsed
        cases parsed
      · have few : ∀ key, ¬HexFile rest key := by
          intro other stands
          have digits := Hex.decode_length stands
          rw [other.length] at digits
          have shorter := List.length_filter_le (fun byte => !isAsciiWhitespace byte) rest
          omega
        simp only [if_neg looks, parseBinary_hashes (by rw [short]; decide) few] at yields
        exact absurd (fun sha256Bytes => (yields sha256Bytes).symm) not_hashed
    · refine ⟨marked, ?_⟩
      by_contra dark
      have looks : looksLikeXml key.bytes = true := by simpa using dark
      have parsed := yields fun _ => zeros
      simp only [parseKeyFileBytes, stripUtf8Bom_eq marked, if_pos looks] at parsed
      rw [parseXml_short documents key.length.le] at parsed
      cases parsed
  · rintro ⟨plain, dark⟩ sha256Bytes
    simp only [parseKeyFileBytes, stripUtf8Bom_eq plain, dark]
    rw [if_neg (by decide), parseBinaryKeyFile, dif_pos key.length]

/-! ### Documents -/

/-- A document that is not taken for one is hashed. -/
theorem document_hashed (documents : XmlDocuments parseXml) {bytes : List UInt8} {root : Element}
    (parsed : parseXml bytes = some root) (named : root.name = "KeyFile")
    (versioned : (childText root ["Meta", "Version"]).isSome) (library : KeyFileLibrary) :
    parseBinaryKeyFile library bytes = .ok (library.sha256Bytes bytes) := by
  have long := documents.spelled bytes root parsed named versioned
  apply parseBinary_hashes (by omega)
  intro key file
  exact (hexFile_bytes file 0x3C (documents.tagged bytes root parsed)).1 rfl

theorem xmlV1File_yields (documents : XmlDocuments parseXml) {bytes : List UInt8} {key : Array32}
    (file : XmlV1File parseXml bytes key) : Yields parseXml bytes key ↔ looksLikeXml (stripUtf8Bom bytes) = true := by
  obtain ⟨root, version, data, parsed, named, versioned, first, given, encoded⟩ := file
  constructor
  · intro yields
    by_contra dark
    simp only [Yields, parseKeyFileBytes, if_neg dark,
      document_hashed documents parsed named (by rw [versioned]; rfl)] at yields
    exact not_hashed fun sha256Bytes => (yields sha256Bytes).symm
  · intro looks sha256Bytes
    simp only [parseKeyFileBytes, if_pos looks, parseXmlKeyFile, parsed, required, Fallible.ok_bind, named, versioned,
      first, parseXmlKeyFileV1, given, encoded, Base64.decode_encode]
    rw [if_neg (by simp), if_pos trivial, zeroizingArray32, dif_pos key.length]

theorem checkHash_ok {library : KeyFileLibrary} {dataElement : Element} {hash : String} {key : Array32}
    (given : dataElement.attributes["Hash"]? = some hash)
    (matching : eqIgnoreAsciiCase hash (hexUpperText ((library.sha256Bytes key.bytes).bytes.take 4)) = true) :
    checkHash library dataElement key = .ok key := by
  unfold checkHash
  rw [given]
  dsimp only
  rw [if_neg (by rw [matching]; decide)]

/-- The digits of a document are read if their letters are of one case. -/
theorem xmlV2_parse {library : KeyFileLibrary} {bytes : List UInt8} {root dataElement : Element}
    {version data : String} {key : Array32} (parsed : library.parseXml bytes = some root) (named : root.name = "KeyFile")
    (versioned : childText root ["Meta", "Version"] = some version) (second : version.toList.head? = some '2')
    (element : childElement root ["Key", "Data"] = some dataElement) (given : dataElement.getText = some data)
    (stands : Hex.decode anySymbol (hexBytes data) = some key.bytes) :
    parseXmlKeyFile library bytes =
      if OneCase (hexBytes data) then checkHash library dataElement key else .error .invalidKeyFile := by
  simp only [parseXmlKeyFile, parsed, required, Fallible.ok_bind, named, versioned, second, parseXmlKeyFileV2, element,
    given, Option.map_some, decode_upperFirst stands]
  rw [if_neg (by simp), if_neg (by decide), if_pos trivial]
  by_cases one : OneCase (hexBytes data)
  · simp only [if_pos one, Fallible.ok_bind]
    rw [zeroizingArray32, dif_pos key.length]
    rfl
  · simp only [if_neg one]
    rfl

/-- A hash of the key itself, and any other of everything else. -/
def hashApart (key hash other : Array32) (bytes : List UInt8) : Array32 := if bytes = key.bytes then hash else other

theorem xmlV2File_yields (documents : XmlDocuments parseXml) {sha256Bytes : List UInt8 → Array32}
    {bytes digits : List UInt8} {key : Array32} (file : XmlV2File parseXml sha256Bytes bytes digits key) :
    (∀ other : List UInt8 → Array32, other key.bytes = sha256Bytes key.bytes →
      parseKeyFileBytes ⟨other, parseXml⟩ bytes = .ok key) ↔
    looksLikeXml (stripUtf8Bom bytes) = true ∧ OneCase digits := by
  obtain ⟨root, version, dataElement, data, hash, parsed, named, versioned, second, element, given, rfl, stands, hashed,
    matching⟩ := file
  constructor
  · intro yields
    by_cases looks : looksLikeXml (stripUtf8Bom bytes) = true
    · refine ⟨looks, ?_⟩
      by_contra mixed
      have read := yields sha256Bytes rfl
      simp only [parseKeyFileBytes, if_pos looks] at read
      rw [@xmlV2_parse ⟨sha256Bytes, parseXml⟩ _ _ _ _ _ _ parsed named versioned second element given stands,
        if_neg mixed] at read
      cases read
    · have long := documents.spelled _ root parsed named (by rw [versioned]; rfl)
      have apart : stripUtf8Bom bytes ≠ key.bytes := by
        intro same
        rw [same, key.length] at long
        exact absurd long (by decide)
      simp only [parseKeyFileBytes, if_neg looks,
        document_hashed documents parsed named (by rw [versioned]; rfl)] at yields
      have first := yields (hashApart key (sha256Bytes key.bytes) zeros) (if_pos rfl)
      have other := yields (hashApart key (sha256Bytes key.bytes) ones) (if_pos rfl)
      simp only [hashApart, if_neg apart] at first other
      exact absurd ((Except.ok.inj first).trans (Except.ok.inj other).symm) zeros_ne_ones
  · rintro ⟨looks, one⟩ other same
    simp only [parseKeyFileBytes, if_pos looks]
    rw [@xmlV2_parse ⟨other, parseXml⟩ _ _ _ _ _ _ parsed named versioned second element given stands, if_pos one]
    exact checkHash_ok hashed (by dsimp only; rw [same]; exact matching)

/-! ### Any other file -/

theorem otherFile_hashed {bytes : List UInt8} (file : OtherFile parseXml bytes) :
    (∀ sha256Bytes, parseKeyFileBytes ⟨sha256Bytes, parseXml⟩ bytes = .ok (sha256Bytes bytes)) ↔
      ¬utf8Bom <+: bytes ∧ looksLikeXml bytes = false := by
  constructor
  · intro hashed
    by_cases looks : looksLikeXml (stripUtf8Bom bytes) = true
    · have parsed := hashed fun _ => zeros
      simp only [parseKeyFileBytes, if_pos looks] at parsed
      rw [parseXml_other file.document] at parsed
      cases parsed
    · by_cases marked : utf8Bom <+: bytes
      · simp only [parseKeyFileBytes, if_neg looks] at hashed
        rcases parseBinary_cases (stripUtf8Bom bytes) with own | ⟨result, fixed⟩
        · have shorter : stripUtf8Bom bytes ≠ bytes := by
            obtain ⟨rest, rfl⟩ := marked
            intro same
            have lengths := congrArg List.length same
            rw [stripUtf8Bom_bom, List.length_append] at lengths
            have mark : utf8Bom.length = 3 := rfl
            omega
          have read := hashed fun given => if given = bytes then ones else zeros
          rw [own] at read
          simp only [if_neg shorter, if_pos] at read
          exact absurd (Except.ok.inj read) zeros_ne_ones
        · refine absurd (fun sha256Bytes => ?_) (@not_hashed bytes result)
          rw [← hashed sha256Bytes, fixed]
      · rw [stripUtf8Bom_eq marked] at looks
        exact ⟨marked, by simpa using looks⟩
  · rintro ⟨plain, dark⟩ sha256Bytes
    simp only [parseKeyFileBytes, stripUtf8Bom_eq plain, dark]
    rw [if_neg (by decide)]
    exact parseBinary_hashes file.raw file.digits _

/-! ### All of them -/

/-- For each form, when the parser gives what a file of that form stands for. -/
theorem keyFiles_yield (documents : XmlDocuments parseXml) :
    (∀ key : Array32, Yields parseXml key.bytes key ↔ ¬utf8Bom <+: key.bytes ∧ looksLikeXml key.bytes = false) ∧
    (∀ (bytes : List UInt8) (key : Array32), HexFile bytes key →
      (Yields parseXml bytes key ↔ OneCase (bytes.filter fun byte => !isAsciiWhitespace byte))) ∧
    (∀ (bytes : List UInt8) (key : Array32), XmlV1File parseXml bytes key →
      (Yields parseXml bytes key ↔ looksLikeXml (stripUtf8Bom bytes) = true)) ∧
    (∀ (sha256Bytes : List UInt8 → Array32) (bytes digits : List UInt8) (key : Array32),
      XmlV2File parseXml sha256Bytes bytes digits key →
      ((∀ other : List UInt8 → Array32, other key.bytes = sha256Bytes key.bytes →
        parseKeyFileBytes ⟨other, parseXml⟩ bytes = .ok key) ↔
      looksLikeXml (stripUtf8Bom bytes) = true ∧ OneCase digits)) ∧
    ∀ bytes : List UInt8, OtherFile parseXml bytes →
      ((∀ sha256Bytes, parseKeyFileBytes ⟨sha256Bytes, parseXml⟩ bytes = .ok (sha256Bytes bytes)) ↔
        ¬utf8Bom <+: bytes ∧ looksLikeXml bytes = false) :=
  ⟨rawFile_yields documents, fun _ _ => hexFile_yields, fun _ _ => xmlV1File_yields documents,
    fun _ _ _ _ => xmlV2File_yields documents, fun _ => otherFile_hashed⟩

end Forms

/-! ### A document, and files that are mistaken -/

def keyDocument : List UInt8 :=
  ("<KeyFile><Meta><Version>1.00</Version></Meta><Key><Data>AAAAAAAAAAAAAAAAAAAAAAAAAAAAAAAAAAAAAAAAAAA=</Data></Key>" ++
    "</KeyFile>").toUTF8.toList

def keyDocumentRoot : Element :=
  .ofElements "KeyFile" [.ofElements "Meta" [.ofText "Version" "1.00"],
    .ofElements "Key" [.ofText "Data" "AAAAAAAAAAAAAAAAAAAAAAAAAAAAAAAAAAAAAAAAAAA="]]

/-- A parser that knows one document. -/
def parseKeyDocument (bytes : List UInt8) : Option Element := if bytes = keyDocument then some keyDocumentRoot else none

theorem keyDocument_documents : XmlDocuments parseKeyDocument where
  spelled := by
    intro bytes root parsed _ _
    unfold parseKeyDocument at parsed
    split at parsed
    · rename_i same
      rw [same]
      decide +kernel
    · cases parsed
  tagged := by
    intro bytes root parsed
    unfold parseKeyDocument at parsed
    split at parsed
    · rename_i same
      rw [same]
      decide +kernel
    · cases parsed

theorem keyFiles_yield_document : Yields parseKeyDocument keyDocument zeros ∧ Yields parseKeyDocument zeros.bytes zeros := by
  obtain ⟨raw, _, document, _⟩ := keyFiles_yield keyDocument_documents
  constructor
  · apply (document keyDocument zeros ⟨keyDocumentRoot, "1.00", "AAAAAAAAAAAAAAAAAAAAAAAAAAAAAAAAAAAAAAAAAAA=", _⟩).mpr
    · decide +kernel
    · have plain : stripUtf8Bom keyDocument = keyDocument := by decide +kernel
      rw [plain, parseKeyDocument, if_pos rfl]
      exact ⟨rfl, rfl, by decide +kernel⟩
  · exact (raw zeros).mpr ⟨by decide, by decide⟩

def mixedDigits : List UInt8 := (List.replicate 32 [0x61, 0x42]).flatten

def mixedKey : Array32 := ⟨List.replicate 32 0xAB, rfl⟩

/-- A key that starts like a document. -/
def tagKey : Array32 := ⟨0x3C :: List.replicate 31 7, rfl⟩

/-- A key that starts like a text. -/
def bomKey : Array32 := ⟨utf8Bom ++ List.replicate 29 7, rfl⟩

def noDocuments (sha256Bytes : List UInt8 → Array32) : KeyFileLibrary := ⟨sha256Bytes, fun _ => none⟩

/-- Digits of both cases and a key that starts with `<` are refused, and of a key that starts with a byte
order mark the rest is hashed, as of a text. -/
theorem keyFiles_mistaken :
    HexFile mixedDigits mixedKey ∧
      parseKeyFileBytes (noDocuments fun _ => zeros) mixedDigits = .error .invalidKeyFile ∧
      parseKeyFileBytes (noDocuments fun _ => zeros) tagKey.bytes = .error .invalidKeyFile ∧
      parseKeyFileBytes (noDocuments fun bytes => if bytes = List.replicate 29 7 then ones else zeros) bomKey.bytes =
        .ok ones := by
  unfold HexFile
  decide +kernel

end VaultKern.KeyFile
