import VaultKern.Guarantees.BlockStreams
import VaultKern.Guarantees.HeaderCodecs
import VaultKern.Guarantees.StreamAlignment
import VaultKern.Tree.WellFormed

/-! # The two versions of the format

What a vault needs the newer version for is all that the writer leaves out in the older one. A
save that is accepted in the older version writes the same document and the same attachments
under another version number, and both files load as the same vault.
-/

namespace VaultKern.Kdbx

/-! ## The writer without newer features -/

theorem customDataBlockToXml_version {block : CustomDataBlock} (undated : ∀ item ∈ block.items, item.lastModified = none) :
    customDataBlockToXml block .v4_0 = customDataBlockToXml block .v4_1 := by
  unfold customDataBlockToXml
  apply congrArg
  apply List.map_congr_left
  intro item member
  unfold customDataItemToXml
  rw [undated item member]
  rfl

theorem insertBlocks_version {blocks : List CustomDataBlock} (undated : ∀ block ∈ blocks, ∀ item ∈ block.items,
    item.lastModified = none) (minimum : Nat) (children : List Element) :
    insertBlocks .v4_0 blocks minimum children = insertBlocks .v4_1 blocks minimum children := by
  induction blocks generalizing minimum children with
  | nil => rfl
  | cons block blocks ih =>
      rw [insertBlocks, insertBlocks, customDataBlockToXml_version (undated block List.mem_cons_self)]
      simp only [ih fun other member => undated other (List.mem_cons_of_mem block member)]

theorem undated_of_quiet {blocks : List CustomDataBlock} {merged : BTreeMap String String}
    (merges : mergeCustomDataBlocks blocks = merged) (quiet : customDataRequires41 blocks merged = false) :
    ∀ block ∈ blocks, ∀ item ∈ block.items, item.lastModified = none := by
  intro block inside item member
  unfold customDataRequires41 at quiet
  rw [decide_eq_true merges, Bool.true_and, List.any_eq_false] at quiet
  have none := List.any_eq_false.mp (Bool.not_eq_true _ ▸ quiet block inside) item member
  cases held : item.lastModified with
  | none => rfl
  | some time =>
      rw [held] at none
      exact absurd rfl none

theorem appendCustomDataBlocks_version {blocks : List CustomDataBlock} {merged : BTreeMap String String}
    (quiet : customDataRequires41 blocks merged = false) (children : List Element) :
    appendCustomDataBlocks children blocks merged .v4_0 = appendCustomDataBlocks children blocks merged .v4_1 := by
  have older : ¬(KdbxVersion.v4_0 ≠ .v4_0 ∧ KdbxVersion.v4_0 ≠ .v4_1) := by decide
  have newer : ¬(KdbxVersion.v4_1 ≠ .v4_0 ∧ KdbxVersion.v4_1 ≠ .v4_1) := by decide
  unfold appendCustomDataBlocks
  rw [if_neg older, if_neg newer]
  by_cases none : blocks.isEmpty
  · rw [if_pos none, if_pos none]
  · rw [if_neg none, if_neg none]
    by_cases merges : mergeCustomDataBlocks blocks = merged
    · rw [if_neg (not_not.mpr merges), if_neg (not_not.mpr merges),
        insertBlocks_version (undated_of_quiet merges quiet)]
    · rw [if_pos merges, if_pos merges]

section Writer

variable {xml : XmlLibrary} {binaries : List InnerBinary}

theorem finishScope_version {blocks : List CustomDataBlock} {merged : BTreeMap String String}
    (quiet : customDataRequires41 blocks merged = false) (scope : String) (children : List Element)
    (nodeOrder : List String) (opaqueXml : List OpaqueXmlFragment) :
    finishScope xml scope children blocks merged nodeOrder opaqueXml .v4_0 =
      finishScope xml scope children blocks merged nodeOrder opaqueXml .v4_1 := by
  unfold finishScope
  rw [appendCustomDataBlocks_version quiet]

theorem entryState_quiet {entry : Entry} (quiet : entryStateRequires41 entry = false) :
    entry.excludeFromReports = false ∧ entry.rawState.qualityCheckRaw = none ∧ entry.previousParent = none ∧
      customDataRequires41 entry.customDataBlocks entry.customData = false := by
  simp only [entryStateRequires41, Bool.or_eq_false_iff, Option.isSome_eq_false_iff, Option.isNone_iff_eq_none] at quiet
  obtain ⟨⟨⟨⟨reports, check⟩, parent⟩, _⟩, customData⟩ := quiet
  exact ⟨reports, check, parent, customData⟩

theorem entryFields_version {entry : Entry} (quiet : entryStateRequires41 entry = false) :
    entryFields entry .v4_0 = entryFields entry .v4_1 := by
  obtain ⟨reports, check, parent, _⟩ := entryState_quiet quiet
  unfold entryFields
  rw [parent, check, reports]
  rfl

theorem entryWithHistoryToXml_version {entry : Entry} (quiet : entryStateRequires41 entry = false)
    (history : Option Element) :
    entryWithHistoryToXml xml entry binaries history .v4_0 = entryWithHistoryToXml xml entry binaries history .v4_1 := by
  unfold entryWithHistoryToXml entryChildren
  rw [entryFields_version quiet, finishScope_version (entryState_quiet quiet).2.2.2]

theorem entryRequires41_parts {entry : Entry} (quiet : entryRequires41 entry = false) :
    entryStateRequires41 entry = false ∧ historyRequires41 entry.history = false := by
  cases entry with
  | mk fields history => simpa [entryRequires41] using quiet

theorem historyRequires41_each {entries : List Entry} (quiet : historyRequires41 entries = false) :
    ∀ entry ∈ entries, entryRequires41 entry = false := by
  induction entries with
  | nil => simp
  | cons first rest ih =>
      simp only [historyRequires41, Bool.or_eq_false_iff] at quiet
      intro entry member
      rcases List.mem_cons.mp member with rfl | member
      · exact quiet.1
      · exact ih quiet.2 entry member

theorem entryToXml_version {entry : Entry} (quiet : entryRequires41 entry = false) (includeHistory : Bool) :
    entryToXml xml entry binaries includeHistory .v4_0 = entryToXml xml entry binaries includeHistory .v4_1 := by
  obtain ⟨state, history⟩ := entryRequires41_parts quiet
  have snapshots : entry.history.mapM (fun old => entryWithHistoryToXml xml old binaries none .v4_0) =
      entry.history.mapM fun old => entryWithHistoryToXml xml old binaries none .v4_1 := by
    apply Fallible.mapM_agree
    intro old member
    exact entryWithHistoryToXml_version (entryRequires41_parts (historyRequires41_each history old member)).1 none
  unfold entryToXml
  rw [snapshots]
  simp only [entryWithHistoryToXml_version state]

theorem groupFields_version {group : Group} (orphan : group.previousParent = none) :
    groupFields group .v4_0 = groupFields group .v4_1 := by
  unfold groupFields
  rw [orphan]
  rfl

mutual
theorem groupToXml_version : ∀ {group : Group}, groupRequires41 group = false →
    groupToXml xml binaries .v4_0 group = groupToXml xml binaries .v4_1 group
  | ⟨fields, entries, children⟩, quiet => by
      simp only [groupRequires41, Bool.or_eq_false_iff, Option.isSome_eq_false_iff, Option.isNone_iff_eq_none] at quiet
      obtain ⟨⟨⟨⟨_, orphan⟩, customData⟩, members⟩, below⟩ := quiet
      have entryElements : entries.mapM (fun entry => entryToXml xml entry binaries true .v4_0) =
          entries.mapM fun entry => entryToXml xml entry binaries true .v4_1 := by
        apply Fallible.mapM_agree
        intro entry member
        exact entryToXml_version (historyRequires41_each members entry member) true
      have state : customDataRequires41 (⟨fields, entries, children⟩ : Group).customDataBlocks
          (⟨fields, entries, children⟩ : Group).customData = false := customData
      rw [groupToXml, groupToXml, entryElements, childrenToXml_version below]
      simp only [@groupFields_version ⟨fields, entries, children⟩ orphan, finishScope_version state]

theorem childrenToXml_version : ∀ {children : List Group}, childrenRequire41 children = false →
    childrenToXml xml binaries .v4_0 children = childrenToXml xml binaries .v4_1 children
  | [], _ => rfl
  | child :: rest, quiet => by
      simp only [childrenRequire41, Bool.or_eq_false_iff] at quiet
      rw [childrenToXml, childrenToXml, groupToXml_version quiet.1, childrenToXml_version quiet.2]
end

theorem customIconToXml_version {icon : CustomIcon} (valid : customIconIsValid icon = true)
    (quiet : (icon.name.any (fun name => !name.isEmpty) || icon.lastModified.isSome) = false) :
    customIconToXml icon .v4_0 = customIconToXml icon .v4_1 := by
  obtain ⟨unnamed, undated⟩ := (Bool.or_eq_false_iff).mp quiet
  have name : icon.name = none := by
    cases held : icon.name with
    | none => rfl
    | some name =>
        simp only [customIconIsValid, held, Option.all_some, Bool.and_eq_true] at valid
        rw [held, Option.any_some, valid.1.2] at unnamed
        cases unnamed
  have modified : icon.lastModified = none := by
    cases held : icon.lastModified with
    | none => rfl
    | some time =>
        rw [held] at undated
        cases undated
  unfold customIconToXml
  rw [name, modified]
  rfl

theorem requiredVersion_parts {vault : Vault} (older : requiredVersion vault ≠ .v4_1) :
    customDataRequires41 vault.metaCustomDataBlocks vault.metaCustomData = false ∧
      (∀ icon ∈ vault.customIcons,
        (icon.name.any (fun name => !name.isEmpty) || icon.lastModified.isSome) = false) ∧
      groupRequires41 vault.root = false := by
  unfold requiredVersion at older
  split at older
  · exact absurd rfl older
  · rename_i quiet
    simp only [Bool.not_eq_true, Bool.or_eq_false_iff, List.any_eq_false] at quiet
    obtain ⟨⟨customData, icons⟩, root⟩ := quiet
    exact ⟨customData, fun icon member => by simpa using icons icon member, root⟩

theorem metaToXml_version {vault : Vault} (valid : vaultModelIsValid vault = true)
    (older : requiredVersion vault ≠ .v4_1) : metaToXml xml vault .v4_0 = metaToXml xml vault .v4_1 := by
  obtain ⟨customData, icons, _⟩ := requiredVersion_parts older
  have iconsValid : ∀ icon ∈ vault.customIcons, customIconIsValid icon = true := by
    simp only [vaultModelIsValid, metaStateIsValid, Bool.and_eq_true, List.all_eq_true] at valid
    exact valid.1.1.1.1.2
  have written : customIconsToXml vault.customIcons .v4_0 = customIconsToXml vault.customIcons .v4_1 := by
    unfold customIconsToXml
    apply congrArg
    apply List.map_congr_left
    intro icon member
    exact customIconToXml_version (iconsValid icon member) (icons icon member)
  unfold metaToXml metaChildren
  rw [written, finishScope_version customData]

/-- Without newer features both versions are written alike. -/
theorem buildXml_version {library : StreamLibrary} {vault : Vault} (valid : vaultModelIsValid vault = true)
    (older : requiredVersion vault ≠ .v4_1) (innerKey : List UInt8) :
    buildXml xml library vault binaries innerKey .v4_0 = buildXml xml library vault binaries innerKey .v4_1 := by
  unfold buildXml buildDocument
  rw [metaToXml_version valid older, groupToXml_version (requiredVersion_parts older).2.2]
  rfl

end Writer

/-! ## The header under another version -/

namespace KdbxHeader

def withVersion (header : KdbxHeader) (version : KdbxVersion) : KdbxHeader := { header with version }

/-- No field depends on the version. -/
theorem read_withVersion {header next : KdbxHeader} {id : UInt8} {data : List UInt8} (version : KdbxVersion)
    (taken : read header id data = .ok next) :
    read (header.withVersion version) id data = .ok (next.withVersion version) ∧ next.version = header.version := by
  have under : read (header.withVersion version) id data = (read header id data).map (·.withVersion version) := by
    unfold read
    split
    · cases exactLength 16 data with
      | error e => rfl
      | ok word => cases converted : uuidToCipher word <;> simp only [Fallible.ok_bind, converted] <;> rfl
    split
    · cases exactLength 4 data with
      | error e => rfl
      | ok word =>
          simp only [Fallible.ok_bind]
          split
          · rfl
          · split <;> rfl
    split
    · cases exactLength 32 data <;> rfl
    split
    · rfl
    split
    · cases VariantDictionary.decode data <;> rfl
    split
    · cases VariantDictionary.decode data <;> rfl
    · rfl
  rw [under, taken]
  exact ⟨rfl, by cases read_cases taken <;> rfl⟩

theorem fields_withVersion {fields : List (UInt8 × List UInt8)} {start result : KdbxHeader} (version : KdbxVersion)
    (folded : fields.foldlM (fun header field => read header field.1 field.2) start = .ok result) :
    fields.foldlM (fun header field => read header field.1 field.2) (start.withVersion version) =
        .ok (result.withVersion version) ∧ result.version = start.version := by
  induction fields generalizing start with
  | nil =>
      cases folded
      exact ⟨rfl, rfl⟩
  | cons field rest ih =>
      rw [List.foldlM_cons] at folded ⊢
      obtain ⟨next, taken, folded⟩ := Fallible.bind_ok.mp folded
      obtain ⟨here, kept⟩ := read_withVersion version taken
      obtain ⟨later, same⟩ := ih folded
      rw [here]
      exact ⟨later, same.trans kept⟩

/-- What a header is written as, under a version. -/
def headerText (version : KdbxVersion) (row : List UInt8) : List UInt8 :=
  signature ++ leBytes 4 (versionToU32 version) ++ row

theorem code_withVersion {header : KdbxHeader} {row : List UInt8} {version : KdbxVersion}
    (code : Code header (headerText version row)) {other : KdbxVersion} (supported : other = .v4_0 ∨ other = .v4_1) :
    Code (header.withVersion other) (headerText other row) := by
  obtain ⟨number, parsed, row', small, converted, _, ⟨fields, last, proper, fits, rfl, folded⟩, same⟩ := code
  unfold headerText at same
  rw [List.append_assoc, List.append_assoc, List.append_cancel_left_eq] at same
  obtain ⟨_, rfl⟩ := List.append_inj same (by simp)
  obtain ⟨folded', _⟩ := fields_withVersion other folded
  have known : u32ToVersion (versionToU32 other) = .ok other ∧ (other = .v4_1 ∨ other = .v4_0) ∧
      versionToU32 other < 2 ^ 32 := by
    rcases supported with rfl | rfl <;> decide
  exact ⟨_, other, _, known.2.2, known.1, known.2.1, ⟨fields, last, proper, fits, rfl, folded'⟩, rfl⟩

end KdbxHeader

/-! ## Files -/

/-- The digest of a header has 256 bits. -/
def HashWidth (library : FileLibrary) : Prop := ∀ bytes, (library.sha256 bytes).length = 32

section Files

variable {library : FileLibrary}

/-- A file, from the text of its header and the stream of its payload. -/
def fileBytes (library : FileLibrary) (seed header body : List UInt8) : List UInt8 :=
  header ++ library.sha256 header ++ headerHmac library seed header ++ body

/-- What is made of the stream of a file. -/
def openBody (library : FileLibrary) (header : KdbxHeader) (body transformed : List UInt8) : Except KdbxError (List UInt8) := do
  let encryptedPayload ← decodeBlockStream library (macSeed library header.masterSeed transformed) body
  let payload ← orInvalid (library.decrypt header.cipher
    (encryptionKey library header.masterSeed transformed) header.encryptionIv encryptedPayload)
  decompress library header.compression payload

/-- A file whose header is read as it was written. -/
theorem openContainer_file (hashes : HashWidth library) (macs : MacWidth library) {header : KdbxHeader}
    {text body transformed : List UInt8} (code : KdbxHeader.Code header text) :
    openContainer library (fileBytes library (macSeed library header.masterSeed transformed) text body) transformed =
      openBody library header body transformed >>= fun payload => .ok (header, payload) := by
  have parsed : KdbxHeader.decode (fileBytes library (macSeed library header.masterSeed transformed) text body) =
      .ok (header, library.sha256 text ++ (headerHmac library (macSeed library header.masterSeed transformed) text ++
        body)) := by
    rw [fileBytes, List.append_assoc, List.append_assoc]
    exact KdbxHeader.decode_reads.accepts code _
  obtain ⟨number, version, row, small, converted, known, _, rfl⟩ := code
  have detected : detectFileVersion (fileBytes library (macSeed library header.masterSeed transformed)
      (signature ++ leBytes 4 number ++ row) body) = .ok (version, row ++ (library.sha256 (signature ++ leBytes 4 number ++
        row) ++ (headerHmac library (macSeed library header.masterSeed transformed) (signature ++ leBytes 4 number ++
        row) ++ body))) :=
    KdbxHeader.detectFileVersion_ok.mpr ⟨number, small, converted, by simp [fileBytes]⟩
  have supported : ¬(version ≠ .v4_0 ∧ version ≠ .v4_1) := by
    rcases known with rfl | rfl <;> decide
  generalize signature ++ leBytes 4 number ++ row = text at parsed detected
  have hash_read : readExact 32 (library.sha256 text ++
      (headerHmac library (macSeed library header.masterSeed transformed) text ++ body)) =
      .ok (library.sha256 text, headerHmac library (macSeed library header.masterSeed transformed) text ++ body) :=
    readExact_ok.mpr ⟨hashes text, rfl⟩
  have mac_read : readExact 32 (headerHmac library (macSeed library header.masterSeed transformed) text ++ body) =
      .ok (headerHmac library (macSeed library header.masterSeed transformed) text, body) :=
    readExact_ok.mpr ⟨macs _ _, rfl⟩
  have front : (fileBytes library (macSeed library header.masterSeed transformed) text body).take
      ((fileBytes library (macSeed library header.masterSeed transformed) text body).length -
        (library.sha256 text ++ (headerHmac library (macSeed library header.masterSeed transformed) text ++
          body)).length) = text := by
    rw [fileBytes, List.append_assoc, List.append_assoc, List.length_append, Nat.add_sub_cancel]
    exact List.take_left
  unfold openContainer
  rw [detected]
  simp only [Fallible.ok_bind]
  rw [if_neg supported, parsed]
  simp only [Fallible.ok_bind]
  rw [hash_read]
  simp only [Fallible.ok_bind]
  rw [mac_read]
  simp only [Fallible.ok_bind]
  rw [front, if_neg (not_not.mpr rfl), if_neg (not_not.mpr rfl)]
  simp only [openBody, bind_assoc]

/-- What is loaded does not depend on the version in the header. -/
theorem loadKdbx_withVersion (hashes : HashWidth library) (macs : MacWidth library) {header : KdbxHeader}
    {row body transformed : List UInt8} {version other : KdbxVersion}
    (supported : other = .v4_0 ∨ other = .v4_1) (code : KdbxHeader.Code header (KdbxHeader.headerText version row)) :
    loadKdbx library (fileBytes library (macSeed library header.masterSeed transformed)
        (KdbxHeader.headerText version row) body) transformed =
      loadKdbx library (fileBytes library (macSeed library header.masterSeed transformed)
        (KdbxHeader.headerText other row) body) transformed := by
  have code' := KdbxHeader.code_withVersion code supported
  have second := @openContainer_file library hashes macs _ _ body transformed code'
  unfold loadKdbx
  rw [openContainer_file hashes macs code]
  change openContainer library (fileBytes library (macSeed library header.masterSeed transformed) _ body) transformed = _
    at second
  rw [second]
  change (openBody library header body transformed >>= fun payload => Except.ok (header, payload)) >>= _ =
    (openBody library header body transformed >>= fun payload =>
      Except.ok (header.withVersion other, payload)) >>= _
  cases openBody library header body transformed with
  | error e => rfl
  | ok payload => rfl

/-! ## Saves -/

theorem validateVaultModel_ok {vault : Vault} (validated : validateVaultModel vault = .ok ()) :
    vaultModelIsValid vault = true := by
  unfold validateVaultModel at validated
  split at validated
  · assumption
  · cases validated

/-- The groups and entries of a vault whose save is prepared are valid. -/
theorem prepareSave_valid {vault : Vault} {profile : SaveProfile} {kdf : Except KdbxError VariantDictionary}
    {random : SaveRandom} {header : KdbxHeader} (prepared : prepareSave vault profile kdf random = .ok header) :
    groupModelIsValid vault.root = true := by
  unfold prepareSave at prepared
  split at prepared
  · cases prepared
  obtain ⟨_, validated, _⟩ := Fallible.bind_ok.mp prepared
  have valid := validateVaultModel_ok validated
  simp only [vaultModelIsValid, Bool.and_eq_true] at valid
  exact valid.1.1.2

theorem prepareSave_older {vault : Vault} {cipher : KdbxCipher} {compression : Compression}
    {kdf : Except KdbxError VariantDictionary} {random : SaveRandom} {header : KdbxHeader}
    (prepared : prepareSave vault ⟨.v4_0, cipher, compression⟩ kdf random = .ok header) :
    vaultModelIsValid vault = true ∧ requiredVersion vault ≠ .v4_1 ∧
      prepareSave vault ⟨.v4_1, cipher, compression⟩ kdf random = .ok (header.withVersion .v4_1) := by
  unfold prepareSave at prepared ⊢
  rw [if_neg fun both => both.1 rfl] at prepared
  rw [if_neg fun both => both.2 rfl]
  obtain ⟨_, validated, checked⟩ := Fallible.bind_ok.mp prepared
  rw [validated, Fallible.ok_bind]
  have valid := validateVaultModel_ok validated
  split at checked
  · cases checked
  · rename_i older
    have older' : requiredVersion vault ≠ .v4_1 := fun newer => older ⟨newer, (by decide : KdbxVersion.v4_0 ≠ .v4_1)⟩
    obtain ⟨kdfParameters, given, same⟩ := Fallible.bind_ok.mp checked
    cases same
    refine ⟨valid, older', ?_⟩
    rw [if_neg (fun both => both.2 rfl), given]
    rfl

theorem encode_withVersion {header : KdbxHeader} {bytes : List UInt8} (written : header.encode = .ok bytes) :
    ∃ row, bytes = KdbxHeader.headerText header.version row ∧
      ∀ version, (header.withVersion version).encode = .ok (KdbxHeader.headerText version row) := by
  obtain ⟨kdf, publicData, kdf_written, public_written, rfl⟩ := KdbxHeader.encode_ok.mp written
  refine ⟨fieldsBytes (header.fields kdf publicData) ++ writeField 0 [13, 10, 13, 10], rfl, ?_⟩
  intro version
  exact KdbxHeader.encode_ok.mpr ⟨kdf, publicData, kdf_written, public_written, rfl⟩

/-- A save that is accepted in the older version is the same in the newer one, but for the version
in the header. -/
theorem saveKdbx_older {vault : Vault} {cipher : KdbxCipher} {compression : Compression}
    {kdf : Except KdbxError VariantDictionary} {random : SaveRandom} {transformed bytes : List UInt8}
    {stream : ProtectedStream}
    (saved : saveKdbx library vault ⟨.v4_0, cipher, compression⟩ kdf random transformed = .ok (bytes, stream)) :
    ∃ header row body, prepareSave vault ⟨.v4_0, cipher, compression⟩ kdf random = .ok header ∧
      header.encode = .ok (KdbxHeader.headerText .v4_0 row) ∧
      bytes = fileBytes library (macSeed library header.masterSeed transformed) (KdbxHeader.headerText .v4_0 row) body ∧
      saveKdbx library vault ⟨.v4_1, cipher, compression⟩ kdf random transformed =
        .ok (fileBytes library (macSeed library header.masterSeed transformed) (KdbxHeader.headerText .v4_1 row) body,
          stream) := by
  obtain ⟨header, prepared, encoded⟩ := Fallible.bind_ok.mp saved
  obtain ⟨valid, older, again⟩ := prepareSave_older prepared
  obtain ⟨binaries, collected, encoded⟩ := Fallible.bind_ok.mp encoded
  obtain ⟨⟨document, left⟩, built, encoded⟩ := Fallible.bind_ok.mp encoded
  obtain ⟨payload, compressed, encoded⟩ := Fallible.bind_ok.mp encoded
  obtain ⟨encryptedPayload, encrypted, encoded⟩ := Fallible.bind_ok.mp encoded
  obtain ⟨headerBytes, written, same⟩ := Fallible.bind_ok.mp encoded
  dsimp only at built compressed encrypted written same
  cases same
  obtain ⟨row, rfl, other⟩ := encode_withVersion written
  have version : header.version = .v4_0 := by
    obtain ⟨_, _, _, rfl⟩ := prepareSave_ok prepared
    rfl
  rw [version] at written ⊢
  rw [buildXml_version valid older] at built
  refine ⟨header, row, encodeBlockStream library (macSeed library header.masterSeed transformed) encryptedPayload,
    prepared, written, rfl, ?_⟩
  unfold saveKdbx encodeKdbxWithTransformedKey
  rw [again, Fallible.ok_bind, collected, Fallible.ok_bind]
  dsimp only
  rw [built]
  simp only [Fallible.ok_bind]
  rw [compressed, Fallible.ok_bind]
  change (orInvalid (library.encrypt cipher (encryptionKey library header.masterSeed transformed) header.encryptionIv
    payload) >>= _) = _
  rw [encrypted, Fallible.ok_bind, other .v4_1]
  rfl

/-- Nobody else can make the MAC of a header: in the file there is only that of the header that was
written. -/
def HeaderUnforgeable (library : FileLibrary) (seed header body : List UInt8) : Prop :=
  ∀ seed' text, text <+: fileBytes library seed header body →
    headerHmac library seed' text <:+: fileBytes library seed header body → seed' = seed ∧ text = header

/-- What loads has the MAC of its header in it. -/
theorem openContainer_parts {bytes transformed payload : List UInt8} {header : KdbxHeader}
    (opened : openContainer library bytes transformed = .ok (header, payload)) :
    ∃ text, KdbxHeader.Code header text ∧ text <+: bytes ∧
      headerHmac library (macSeed library header.masterSeed transformed) text <:+: bytes := by
  unfold openContainer at opened
  obtain ⟨⟨version, _⟩, _, opened⟩ := Fallible.bind_ok.mp opened
  dsimp only at opened
  split at opened
  · cases opened
  · obtain ⟨⟨parsed, rest⟩, decoded, opened⟩ := Fallible.bind_ok.mp opened
    obtain ⟨⟨hash, behind⟩, hash_read, opened⟩ := Fallible.bind_ok.mp opened
    obtain ⟨⟨mac, body⟩, mac_read, opened⟩ := Fallible.bind_ok.mp opened
    dsimp only at decoded hash_read mac_read opened
    obtain ⟨text, code, rfl⟩ := KdbxHeader.decode_reads.mp decoded
    split at opened
    · cases opened
    · split at opened
      · cases opened
      · rename_i genuine
        obtain ⟨_, _, opened⟩ := Fallible.bind_ok.mp opened
        obtain ⟨_, _, opened⟩ := Fallible.bind_ok.mp opened
        obtain ⟨_, _, opened⟩ := Fallible.bind_ok.mp opened
        cases opened
        refine ⟨text, code, List.prefix_append _ _, ?_⟩
        have front : (text ++ rest).take ((text ++ rest).length - rest.length) = text := by
          rw [List.length_append, Nat.add_sub_cancel]
          exact List.take_left
        rw [front] at genuine
        rw [not_not.mp genuine]
        obtain ⟨_, rfl⟩ := readExact_ok.mp mac_read
        obtain ⟨_, rfl⟩ := readExact_ok.mp hash_read
        exact ⟨text ++ hash, body, by simp⟩

/-- A file that loads, where nobody else can make MACs, was read as it was written. -/
theorem code_of_loads {seed row body transformed : List UInt8} {version : KdbxVersion} {vault : Vault}
    (unforgeable : HeaderUnforgeable library seed (KdbxHeader.headerText version row) body)
    (loaded : loadKdbx library (fileBytes library seed (KdbxHeader.headerText version row) body) transformed = .ok vault) :
    ∃ header, macSeed library header.masterSeed transformed = seed ∧
      KdbxHeader.Code header (KdbxHeader.headerText version row) := by
  obtain ⟨⟨header, payload⟩, opened, _⟩ := Fallible.bind_ok.mp loaded
  obtain ⟨text, code, front, mac⟩ := openContainer_parts opened
  obtain ⟨same, rfl⟩ := unforgeable _ _ front mac
  exact ⟨header, same, code⟩

end Files

/-! ## What needs the newer version -/

/-- An entry, the entries of its history, and of theirs. -/
inductive Snapshot : Entry → Entry → Prop where
  | self (entry : Entry) : Snapshot entry entry
  | older {entry old found : Entry} : old ∈ entry.history → Snapshot old found → Snapshot entry found

/-- Blocks that are written, with a time at an item. -/
def Dated (blocks : List CustomDataBlock) (merged : BTreeMap String String) : Prop :=
  mergeCustomDataBlocks blocks = merged ∧ ∃ block ∈ blocks, ∃ item ∈ block.items, item.lastModified.isSome = true

def EntryUsesNewer (entry : Entry) : Prop :=
  entry.excludeFromReports = true ∨ entry.rawState.qualityCheckRaw.isSome = true ∨ entry.previousParent.isSome = true ∨
    hasProjectablePasskey entry = true ∨ Dated entry.customDataBlocks entry.customData

def GroupUsesNewer (group : Group) : Prop :=
  group.tags.isEmpty = false ∨ group.previousParent.isSome = true ∨ Dated group.customDataBlocks group.customData

/-- A feature of the newer version, at any depth. -/
def UsesNewer (vault : Vault) : Prop :=
  Dated vault.metaCustomDataBlocks vault.metaCustomData ∨
    (∃ icon ∈ vault.customIcons, (∃ name, icon.name = some name ∧ name ≠ "") ∨ icon.lastModified.isSome = true) ∨
    (∃ group ∈ subgroups vault.root, GroupUsesNewer group) ∨
    ∃ group ∈ subgroups vault.root, ∃ entry ∈ group.entries, ∃ snapshot, Snapshot entry snapshot ∧
      EntryUsesNewer snapshot

theorem customDataRequires41_iff {blocks : List CustomDataBlock} {merged : BTreeMap String String} :
    customDataRequires41 blocks merged = true ↔ Dated blocks merged := by
  simp [customDataRequires41, Dated]

theorem entryStateRequires41_iff {entry : Entry} : entryStateRequires41 entry = true ↔ EntryUsesNewer entry := by
  simp only [entryStateRequires41, EntryUsesNewer, Bool.or_eq_true, customDataRequires41_iff, or_assoc]

mutual
theorem entryRequires41_iff : ∀ {entry : Entry},
    entryRequires41 entry = true ↔ ∃ snapshot, Snapshot entry snapshot ∧ EntryUsesNewer snapshot
  | ⟨fields, history⟩ => by
      rw [entryRequires41, Bool.or_eq_true, entryStateRequires41_iff, historyRequires41_iff]
      constructor
      · rintro (here | ⟨old, member, snapshot, below, uses⟩)
        · exact ⟨_, .self _, here⟩
        · exact ⟨snapshot, .older member below, uses⟩
      · rintro ⟨snapshot, below, uses⟩
        cases below with
        | self => exact .inl uses
        | older member below => exact .inr ⟨_, member, snapshot, below, uses⟩

theorem historyRequires41_iff : ∀ {entries : List Entry}, historyRequires41 entries = true ↔
    ∃ entry ∈ entries, ∃ snapshot, Snapshot entry snapshot ∧ EntryUsesNewer snapshot
  | [] => by simp [historyRequires41]
  | entry :: rest => by
      rw [historyRequires41, Bool.or_eq_true, entryRequires41_iff, historyRequires41_iff]
      simp
end

/-- A group or an entry in the tree uses the newer version. -/
def TreeUsesNewer (groups : List Group) : Prop :=
  (∃ group ∈ groups, GroupUsesNewer group) ∨
    ∃ group ∈ groups, ∃ entry ∈ group.entries, ∃ snapshot, Snapshot entry snapshot ∧ EntryUsesNewer snapshot

theorem treeUsesNewer_cons {group : Group} {rest : List Group} : TreeUsesNewer (group :: rest) ↔
    (GroupUsesNewer group ∨ ∃ entry ∈ group.entries, ∃ snapshot, Snapshot entry snapshot ∧ EntryUsesNewer snapshot) ∨
      TreeUsesNewer rest := by
  simp only [TreeUsesNewer, List.mem_cons, exists_eq_or_imp]
  exact or_or_or_comm

theorem treeUsesNewer_append {front back : List Group} :
    TreeUsesNewer (front ++ back) ↔ TreeUsesNewer front ∨ TreeUsesNewer back := by
  simp only [TreeUsesNewer, List.mem_append, or_and_right, exists_or]
  exact or_or_or_comm

mutual
theorem groupRequires41_iff : ∀ {group : Group}, groupRequires41 group = true ↔ TreeUsesNewer (subgroups group)
  | ⟨fields, entries, children⟩ => by
      rw [groupRequires41, subgroups, treeUsesNewer_cons]
      simp only [Bool.or_eq_true, customDataRequires41_iff, historyRequires41_iff]
      rw [childrenRequire41_iff]
      apply or_congr_left
      apply or_congr_left
      have tagged : ((!fields.tags.isEmpty) = true) ↔ fields.tags.isEmpty = false := by simp
      rw [tagged, or_assoc]
      exact Iff.rfl

theorem childrenRequire41_iff : ∀ {children : List Group},
    childrenRequire41 children = true ↔ TreeUsesNewer (subgroupsOf children)
  | [] => by simp [childrenRequire41, subgroupsOf, TreeUsesNewer]
  | child :: rest => by
      rw [childrenRequire41, Bool.or_eq_true, subgroupsOf, treeUsesNewer_append, groupRequires41_iff,
        childrenRequire41_iff]
end

theorem requiredVersion_iff (vault : Vault) : requiredVersion vault = .v4_1 ↔ UsesNewer vault := by
  have icons : (vault.customIcons.any fun icon =>
      icon.name.any (fun name => !name.isEmpty) || icon.lastModified.isSome) = true ↔
      ∃ icon ∈ vault.customIcons, (∃ name, icon.name = some name ∧ name ≠ "") ∨ icon.lastModified.isSome = true := by
    simp only [List.any_eq_true, Bool.or_eq_true, Option.any_eq_true, Bool.not_eq_true', String.isEmpty_eq_false_iff]
  have condition : (customDataRequires41 vault.metaCustomDataBlocks vault.metaCustomData
      || vault.customIcons.any (fun icon => icon.name.any (fun name => !name.isEmpty) || icon.lastModified.isSome)
      || groupRequires41 vault.root) = true ↔ UsesNewer vault := by
    rw [Bool.or_eq_true, Bool.or_eq_true, customDataRequires41_iff, icons, groupRequires41_iff, or_assoc]
    exact Iff.rfl
  unfold requiredVersion
  split
  · rename_i newer
    simpa using condition.mp newer
  · rename_i older
    simpa using fun uses => older (condition.mpr uses)

/-! ## The guarantee -/

section Guarantee

variable (library : FileLibrary)

/-- A save in the older version is accepted just when the same save in the newer one is and nothing
needs the newer version. Both files then load as the same vault. -/
theorem olderProfile (hashes : HashWidth library) (macs : MacWidth library) (vault : Vault) (cipher : KdbxCipher)
    (compression : Compression) (requested : Option SaveKdf) (salt : List UInt8) (random : SaveRandom)
    (transformed : List UInt8) :
    (∀ bytes stream, saveKdbx library vault ⟨.v4_0, cipher, compression⟩ (savedDictionary vault requested salt) random
        transformed = .ok (bytes, stream) →
      ¬ UsesNewer vault ∧ ∃ seed row body,
        bytes = fileBytes library seed (KdbxHeader.headerText .v4_0 row) body ∧
        saveKdbx library vault ⟨.v4_1, cipher, compression⟩ (savedDictionary vault requested salt) random transformed =
          .ok (fileBytes library seed (KdbxHeader.headerText .v4_1 row) body, stream) ∧
        (SaveFits vault random salt →
          loadKdbx library bytes transformed =
            loadKdbx library (fileBytes library seed (KdbxHeader.headerText .v4_1 row) body) transformed) ∧
        (HeaderUnforgeable library seed (KdbxHeader.headerText .v4_0 row) body →
          HeaderUnforgeable library seed (KdbxHeader.headerText .v4_1 row) body →
          (loadKdbx library bytes transformed).toOption =
            (loadKdbx library (fileBytes library seed (KdbxHeader.headerText .v4_1 row) body) transformed).toOption)) ∧
    (vaultModelIsValid vault = true → UsesNewer vault →
      saveKdbx library vault ⟨.v4_0, cipher, compression⟩ (savedDictionary vault requested salt) random transformed =
        .error .unsupportedVersion) := by
  constructor
  · intro bytes stream saved
    obtain ⟨header, row, body, prepared, written, rfl, newer⟩ := saveKdbx_older saved
    obtain ⟨_, older, _⟩ := prepareSave_older prepared
    refine ⟨fun uses => older ((requiredVersion_iff vault).mpr uses), _, row, body, rfl, newer, ?_, ?_⟩
    · intro fits
      obtain ⟨writable, _⟩ := prepareSave_writable fits prepared
      obtain ⟨kdf, publicData, code⟩ := KdbxHeader.code_encode writable written
      exact @loadKdbx_withVersion library hashes macs (header.loaded kdf publicData) row body transformed .v4_0 .v4_1
        (.inr rfl) code
    · intro first second
      cases loaded : loadKdbx library (fileBytes library (macSeed library header.masterSeed transformed)
          (KdbxHeader.headerText .v4_0 row) body) transformed with
      | ok loadedVault =>
          obtain ⟨parsed, seed, code⟩ := code_of_loads first loaded
          rw [← loaded, ← seed, loadKdbx_withVersion hashes macs (.inr rfl) code]
      | error e =>
          cases again : loadKdbx library (fileBytes library (macSeed library header.masterSeed transformed)
              (KdbxHeader.headerText .v4_1 row) body) transformed with
          | error e' => rfl
          | ok loadedVault =>
              obtain ⟨parsed, seed, code⟩ := code_of_loads second again
              rw [← seed, loadKdbx_withVersion hashes macs (.inl rfl) code, seed, loaded] at again
              cases again
  · intro valid uses
    have checked : validateVaultModel vault = .ok () := by
      unfold validateVaultModel
      rw [if_pos valid]
    unfold saveKdbx prepareSave
    rw [if_neg fun both => both.1 rfl, checked, Fallible.ok_bind,
      if_pos ⟨(requiredVersion_iff vault).mpr uses, (by decide : KdbxVersion.v4_0 ≠ .v4_1)⟩]
    rfl

end Guarantee

/-! ### A vault with one password -/

/-- A library for the files of zero seeds, without cipher and compression. -/
def storedLibrary (xml : XmlLibrary) : FileLibrary :=
  { twoMacLibrary with
    sha256 := contentDigests
    sha512 := zeroKeyStreams.sha512
    chacha20 := zeroKeyStreams.chacha20
    xml
    encrypt := fun _ _ _ payload => some payload
    decrypt := fun _ _ _ payload => some payload }

theorem storedLibrary_hashes (xml : XmlLibrary) : HashWidth (storedLibrary xml) := contentDigests_length

def zeroSeeds : SaveRandom where
  masterSeed := List.replicate 32 0
  encryptionIv := List.replicate 16 0
  innerKey := zeroKey
  masterSeed_length := zeroSeed_length
  innerKey_length := zeroKey_length

def oneRound : Except KdbxError VariantDictionary :=
  savedDictionary passwordVault (some (.aesKdbx4 1)) (List.replicate 32 0)

theorem passwordVault_fits : SaveFits passwordVault zeroSeeds (List.replicate 32 0) where
  salt := rfl
  encryptionIv := by decide
  kdfParameters := by
    intro raw retained
    cases retained
  publicCustomData := by decide +kernel

theorem passwordVault_loads : (do
    let (bytes, _) ← saveKdbx (storedLibrary passwordXml) passwordVault ⟨.v4_0, .aes256, .none⟩ oneRound zeroSeeds []
    loadKdbx (storedLibrary passwordXml) bytes []).toBool = true := by decide +kernel

theorem olderProfile_oneEntry : ∃ older newer stream vault,
    saveKdbx (storedLibrary passwordXml) passwordVault ⟨.v4_0, .aes256, .none⟩ oneRound zeroSeeds [] =
        .ok (older, stream) ∧
      saveKdbx (storedLibrary passwordXml) passwordVault ⟨.v4_1, .aes256, .none⟩ oneRound zeroSeeds [] =
        .ok (newer, stream) ∧
      loadKdbx (storedLibrary passwordXml) older [] = .ok vault ∧
      loadKdbx (storedLibrary passwordXml) newer [] = .ok vault := by
  obtain ⟨vault, through⟩ := Fallible.ok_of_toBool passwordVault_loads
  obtain ⟨⟨older, stream⟩, saved, loaded⟩ := Fallible.bind_ok.mp through
  obtain ⟨_, seed, row, body, _, newer, same, _⟩ := (olderProfile (storedLibrary passwordXml)
    (storedLibrary_hashes passwordXml) twoMacLibrary_width passwordVault .aes256 .none (some (.aesKdbx4 1))
    (List.replicate 32 0) zeroSeeds []).1 older stream saved
  exact ⟨older, _, stream, vault, saved, newer, loaded, (same passwordVault_fits).symm.trans loaded⟩

end VaultKern.Kdbx
