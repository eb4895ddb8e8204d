import VaultKern.Guarantees.ProfileVersions
import VaultKern.Kdbx.Held

/-! # The pool of attachments

The writer collects the attachments of all entries in one walk, refers to them by their places in
a second, and the reader resolves the references in a third. All three agree: what was collected is
in the inner header, and a reference leads to the content it was written for.
-/

namespace VaultKern.Kdbx

/-! ## Collecting -/

/-- An entry and the entries of its history. -/
def withHistory (entry : Entry) : List Entry := entry :: entry.history

/-- The attachments of an entry and of its history, under their names. -/
def allAttachments (entry : Entry) : List (String × Attachment) :=
  (withHistory entry).flatMap fun snapshot => snapshot.attachments.toList

/-- From one pool to another with some attachments and no others. No content stands under the id of
another. -/
structure Collects (sha256 : List UInt8 → List UInt8) (pairs : List (String × Attachment))
    (before after : List InnerBinary) : Prop where
  grows : ∀ binary ∈ before, binary ∈ after
  pooled : ∀ pair ∈ pairs, pair.2.name = pair.1 ∧ innerBinary pair.2 ∈ after
  source : ∀ binary ∈ after, binary ∈ before ∨ ∃ pair ∈ pairs, binary = innerBinary pair.2
  apart : HashesApart sha256 before → HashesApart sha256 after

/-- The content has the pool's own place. The pool is as it was, or one content longer. -/
theorem binaryIndexForContentId_ok {sha256 : List UInt8 → List UInt8} {attachment : Attachment}
    {before after : List InnerBinary} {index : Nat}
    (collected : binaryIndexForContentId sha256 attachment before = .ok (index, after)) :
    (∀ binary ∈ before, sha256 binary.data.bytes = sha256 attachment.data.bytes → binary.data = attachment.data) ∧
      innerBinary attachment ∈ after ∧ attachmentRef after attachment = index ∧
      (after = before ∨ after = before ++ [innerBinary attachment]) := by
  unfold binaryIndexForContentId at collected
  dsimp only at collected
  split at collected
  · cases collected
  rename_i free
  have alone : ∀ binary ∈ before, sha256 binary.data.bytes = sha256 attachment.data.bytes →
      binary.data = attachment.data := by
    intro binary member same
    exact not_not.mp fun other => free (List.any_eq_true.mpr ⟨binary, member, decide_eq_true ⟨same, other⟩⟩)
  refine ⟨alone, ?_⟩
  split at collected
  · rename_i place found
    cases collected
    obtain ⟨inside, matching, earlier⟩ := List.findIdx?_eq_some_iff_getElem.mp found
    obtain ⟨protection, id⟩ := of_decide_eq_true matching
    have same : before[index] = innerBinary attachment := by
      rw [innerBinary, ← protection, ← alone _ (List.getElem_mem inside) id]
    refine ⟨same ▸ List.getElem_mem inside, ?_, .inl rfl⟩
    refine (List.findIdx_eq inside).mpr ⟨beq_iff_eq.mpr same, fun other smaller => ?_⟩
    apply beq_eq_false_iff_ne.mpr
    intro equal
    apply earlier other smaller
    rw [equal]
    simp
  · rename_i missing
    cases collected
    have absent : innerBinary attachment ∉ before := by
      intro member
      have other := List.findIdx?_eq_none_iff.mp missing _ member
      simp [innerBinary] at other
    refine ⟨List.mem_append_right _ List.mem_cons_self, ?_, .inr rfl⟩
    change List.idxOf (innerBinary attachment) (before ++ [innerBinary attachment]) = before.length
    rw [List.idxOf_append_of_notMem absent]
    simp

namespace Collects

variable {sha256 : List UInt8 → List UInt8} {pairs later : List (String × Attachment)}
  {before middle after : List InnerBinary}

theorem none : Collects sha256 [] before before := ⟨fun _ member => member, by simp, fun _ member => .inl member, id⟩

theorem one {name : String} {attachment : Attachment} (collected : (if name ≠ attachment.name then .error .invalidValue
    else binaryIndexForContentId sha256 attachment before >>= fun found => .ok found.2 :
      Except KdbxError (List InnerBinary)) = .ok after) : Collects sha256 [(name, attachment)] before after := by
  split at collected
  · cases collected
  · rename_i named
    have own : attachment.name = name := (not_not.mp named).symm
    obtain ⟨⟨index, grown⟩, found, same⟩ := Fallible.bind_ok.mp collected
    cases same
    obtain ⟨alone, known, _, rfl | rfl⟩ := binaryIndexForContentId_ok found
    · exact ⟨fun _ member => member, by simpa using ⟨own, known⟩, fun _ member => .inl member, id⟩
    · refine ⟨fun _ member => List.mem_append_left _ member, by simpa using own, fun binary member => ?_,
        fun apart => ?_⟩
      · rcases List.mem_append.mp member with old | new
        · exact .inl old
        · exact .inr ⟨_, List.mem_singleton.mpr rfl, List.mem_singleton.mp new⟩
      · exact apart.append_one fun binary member => alone binary member

theorem append (first : Collects sha256 pairs before middle) (second : Collects sha256 later middle after) :
    Collects sha256 (pairs ++ later) before after where
  grows := fun binary member => second.grows binary (first.grows binary member)
  pooled := by
    intro pair member
    rcases List.mem_append.mp member with member | member
    · exact ⟨(first.pooled pair member).1, second.grows _ (first.pooled pair member).2⟩
    · exact second.pooled pair member
  source := by
    intro binary member
    rcases second.source binary member with old | ⟨pair, inside, same⟩
    · rcases first.source binary old with older | ⟨pair, inside, same⟩
      · exact .inl older
      · exact .inr ⟨pair, List.mem_append_left _ inside, same⟩
    · exact .inr ⟨pair, List.mem_append_right _ inside, same⟩
  apart := fun apart => second.apart (first.apart apart)

theorem fold {A : Type} {step : List InnerBinary → A → Except KdbxError (List InnerBinary)}
    {parts : A → List (String × Attachment)}
    (each : ∀ a before after, step before a = .ok after → Collects sha256 (parts a) before after) {list : List A}
    (folded : list.foldlM step before = .ok after) : Collects sha256 (list.flatMap parts) before after := by
  induction list generalizing before with
  | nil =>
      cases folded
      exact none
  | cons a rest ih =>
      rw [List.foldlM_cons] at folded
      obtain ⟨middle, first, rest⟩ := Fallible.bind_ok.mp folded
      rw [List.flatMap_cons]
      exact (each a before middle first).append (ih rest)

end Collects

section Collecting

variable {sha256 : List UInt8 → List UInt8}

theorem collectEntryBinaries_collects {entry : Entry} {before after : List InnerBinary}
    (collected : collectEntryBinaries sha256 entry before = .ok after) :
    Collects sha256 entry.attachments.toList before after := by
  have pairs := @Collects.fold sha256 before after _ _ (fun pair => [pair]) (fun pair _ _ => Collects.one) _ collected
  rwa [List.flatMap_singleton'] at pairs

mutual
theorem collectGroupBinaries_collects : ∀ {group : Group} {before after : List InnerBinary},
    collectGroupBinaries sha256 group before = .ok after →
      Collects sha256 ((entriesIn group).flatMap allAttachments) before after
  | ⟨fields, entries, children⟩, before, after, collected => by
      obtain ⟨middle, own, below⟩ := Fallible.bind_ok.mp collected
      rw [entriesIn_mk, List.flatMap_append]
      apply Collects.append _ (collectChildrenBinaries_collects below)
      apply Collects.fold _ own
      intro entry before after walked
      obtain ⟨middle, here, past⟩ := Fallible.bind_ok.mp walked
      have older : Collects sha256 (entry.history.flatMap fun old => old.attachments.toList) middle after :=
        Collects.fold (fun _ _ _ done => collectEntryBinaries_collects done) past
      exact (collectEntryBinaries_collects here).append older

theorem collectChildrenBinaries_collects : ∀ {children : List Group} {before after : List InnerBinary},
    collectChildrenBinaries sha256 children before = .ok after →
      Collects sha256 ((children.flatMap entriesIn).flatMap allAttachments) before after
  | [], _, _, collected => by
      cases collected
      exact Collects.none
  | child :: rest, _, _, collected => by
      obtain ⟨middle, first, later⟩ := Fallible.bind_ok.mp collected
      rw [List.flatMap_cons, List.flatMap_append]
      exact (collectGroupBinaries_collects first).append (collectChildrenBinaries_collects later)
end

/-- Every attachment is in the pool, under its own name. -/
theorem Collects.all {root : Group} {after : List InnerBinary}
    (collects : Collects sha256 ((entriesIn root).flatMap allAttachments) [] after) :
    ∀ entry ∈ entriesIn root, ∀ snapshot ∈ withHistory entry, Pooled after snapshot := by
  intro entry member snapshot inside name attachment held
  apply collects.pooled (name, attachment)
  apply List.mem_flatMap.mpr
  exact ⟨entry, member, List.mem_flatMap.mpr ⟨snapshot, inside, Std.ExtTreeMap.mem_toList_iff_getElem?_eq_some.mpr held⟩⟩

end Collecting

/-! ## From the save to the load -/

/-- What the ciphers and the compression of a library wrote they read back. -/
structure Inverts (library : FileLibrary) : Prop where
  decrypt : ∀ cipher key iv payload encrypted,
    library.encrypt cipher key iv payload = some encrypted → library.decrypt cipher key iv encrypted = some payload
  gunzip : ∀ payload zipped, library.gzipCompress payload = some zipped → library.gzipDecompress zipped = some payload

theorem orInvalid_ok {A : Type} {value : Option A} {a : A} : orInvalid value = .ok a ↔ value = some a := by
  cases value with
  | none => simp [orInvalid]
  | some b => simp [orInvalid]

theorem decompress_compress {library : FileLibrary} (inverts : Inverts library) {compression : Compression}
    {payload packed : List UInt8} (compressed : compress library compression payload = .ok packed) :
    decompress library compression packed = .ok payload := by
  cases compression with
  | none =>
      cases compressed
      rfl
  | gzip => exact orInvalid_ok.mpr (inverts.gunzip payload packed (orInvalid_ok.mp compressed))

/-- The bytes are the file of a payload, which stands behind the header: compressed, encrypted and in blocks. -/
def FileOf (library : FileLibrary) (profile : SaveProfile) (header : KdbxHeader) (transformed payload bytes : List UInt8) :
    Prop :=
  ∃ headerBytes packed encrypted, header.encode = .ok headerBytes ∧
    compress library profile.compression payload = .ok packed ∧
    library.encrypt profile.cipher (encryptionKey library header.masterSeed transformed) header.encryptionIv packed =
      some encrypted ∧
    bytes = fileBytes library (macSeed library header.masterSeed transformed) headerBytes
      (encodeBlockStream library (macSeed library header.masterSeed transformed) encrypted)

section Saved

variable {library : FileLibrary} {vault : Vault} {profile : SaveProfile} {kdf : Except KdbxError VariantDictionary}
  {random : SaveRandom} {transformed bytes : List UInt8} {stream : ProtectedStream}

/-- A saved file is that of its pool and its document. -/
theorem saveKdbx_file (saved : saveKdbx library vault profile kdf random transformed = .ok (bytes, stream)) :
    ∃ header pool document, prepareSave vault profile kdf random = .ok header ∧
      collectAttachmentRefs library.sha256 vault = .ok pool ∧
      buildXml library.xml library.toStreamLibrary vault pool random.innerKey profile.version = .ok (document, stream) ∧
      FileOf library profile header transformed (buildInnerHeader random.innerKey pool ++ document) bytes := by
  obtain ⟨header, prepared, encoded⟩ := Fallible.bind_ok.mp saved
  obtain ⟨pool, collected, encoded⟩ := Fallible.bind_ok.mp encoded
  obtain ⟨⟨document, left⟩, built, encoded⟩ := Fallible.bind_ok.mp encoded
  obtain ⟨packed, compressed, encoded⟩ := Fallible.bind_ok.mp encoded
  obtain ⟨encryptedPayload, encrypted, encoded⟩ := Fallible.bind_ok.mp encoded
  obtain ⟨headerBytes, written, same⟩ := Fallible.bind_ok.mp encoded
  cases same
  exact ⟨header, pool, document, prepared, collected, built, headerBytes, packed, encryptedPayload, written, compressed,
    orInvalid_ok.mp encrypted, rfl⟩

/-- The payload of a file is found in it again. -/
theorem FileOf.opened (inverts : Inverts library) (hashes : HashWidth library) (macs : MacWidth library)
    {header : KdbxHeader} {payload : List UInt8} (prepared : prepareSave vault profile kdf random = .ok header)
    (writable : header.Writable) (file : FileOf library profile header transformed payload bytes) :
    ∃ read, openContainer library bytes transformed = .ok (read, payload) := by
  obtain ⟨headerBytes, packed, encryptedPayload, written, compressed, encrypted, rfl⟩ := file
  have cipher : header.cipher = profile.cipher := by
    obtain ⟨_, _, _, rfl⟩ := prepareSave_ok prepared
    rfl
  have compression : header.compression = profile.compression := by
    obtain ⟨_, _, _, rfl⟩ := prepareSave_ok prepared
    rfl
  obtain ⟨kdf, publicData, code⟩ := KdbxHeader.code_encode writable written
  refine ⟨header.loaded kdf publicData, ?_⟩
  have opened := @openContainer_file library hashes macs _ _
    (encodeBlockStream library (macSeed library header.masterSeed transformed) encryptedPayload) transformed code
  have body : openBody library (header.loaded kdf publicData)
      (encodeBlockStream library (macSeed library header.masterSeed transformed) encryptedPayload) transformed =
        .ok payload := by
    have decoded := @decodeBlockStream_encode library (macSeed library header.masterSeed transformed) macs
      encryptedPayload []
    rw [List.append_nil] at decoded
    unfold openBody
    change (decodeBlockStream library (macSeed library header.masterSeed transformed) _ >>= _) = _
    rw [decoded, Fallible.ok_bind]
    change (orInvalid (library.decrypt header.cipher (encryptionKey library header.masterSeed transformed)
      header.encryptionIv encryptedPayload) >>= fun payload => decompress library header.compression payload) = _
    rw [cipher, orInvalid_ok.mpr (inverts.decrypt _ _ _ _ _ encrypted), Fallible.ok_bind, compression]
    exact decompress_compress inverts compressed
  rw [body] at opened
  exact opened

end Saved

/-! ## The tree that is loaded -/

section Loaded

variable {library : ReadLibrary} {readText : String → Option String} {kept : Element → Prop}

theorem parseMeta_root {metaElement : Element} {vaultOf : Group → Vault}
    (parsed : parseMeta library metaElement = .ok vaultOf) (group : Group) : (vaultOf group).root = group := by
  unfold parseMeta at parsed
  obtain ⟨_, _, parsed⟩ := Fallible.bind_ok.mp parsed
  obtain ⟨_, _, parsed⟩ := Fallible.bind_ok.mp parsed
  obtain ⟨_, _, parsed⟩ := Fallible.bind_ok.mp parsed
  obtain ⟨_, _, parsed⟩ := Fallible.bind_ok.mp parsed
  obtain ⟨_, _, parsed⟩ := Fallible.bind_ok.mp parsed
  obtain ⟨_, _, parsed⟩ := Fallible.bind_ok.mp parsed
  obtain ⟨_, _, parsed⟩ := Fallible.bind_ok.mp parsed
  obtain ⟨_, _, same⟩ := Fallible.bind_ok.mp parsed
  cases same
  rfl

/-- The groups of a loaded vault are those of its document. -/
theorem projectXml_root {document : Element} {kdfParameters : List UInt8} {publicCustomData : BTreeMap String (List UInt8)}
    {binaries : List InnerBinary} {innerStream : Except KdbxError ProtectedStream} {vault : Vault}
    (projected : projectXml library document kdfParameters publicCustomData binaries innerStream = .ok vault) :
    ∃ rootNode rootGroup stream later, child document "Root" = .ok rootNode ∧ child rootNode "Group" = .ok rootGroup ∧
      innerStream = .ok stream ∧ parseGroup library binaries rootGroup stream = (.ok vault.root, later) := by
  obtain ⟨metaElement, _, projected⟩ := Fallible.bind_ok.mp projected
  obtain ⟨vaultOf, parsedMeta, projected⟩ := Fallible.bind_ok.mp projected
  obtain ⟨rootNode, foundRoot, projected⟩ := Fallible.bind_ok.mp projected
  obtain ⟨rootGroup, foundGroup, projected⟩ := Fallible.bind_ok.mp projected
  obtain ⟨stream, opened, projected⟩ := Fallible.bind_ok.mp projected
  obtain ⟨group, parsed, projected⟩ := Fallible.bind_ok.mp projected
  obtain ⟨_, _, projected⟩ := Fallible.bind_ok.mp projected
  obtain ⟨_, _, projected⟩ := Fallible.bind_ok.mp projected
  obtain ⟨_, _, same⟩ := Fallible.bind_ok.mp projected
  cases same
  refine ⟨rootNode, rootGroup, stream, (parseGroup library binaries rootGroup stream).2, foundRoot, foundGroup, opened, ?_⟩
  change _ = (Except.ok (vaultOf group).root, _)
  rw [parseMeta_root parsedMeta, ← parsed]

/-- The tree of a document that was written, when it is read with the pool it was written with. -/
theorem document_returns (back : ReadsBack library.xml readText kept) {streams : StreamLibrary} {vault again : Vault}
    {binaries : List InnerBinary} {innerKey bytes : List UInt8} {version : KdbxVersion} {written : ProtectedStream}
    (saved : buildXml library.xml streams vault binaries innerKey version = .ok (bytes, written)) {document : Element}
    (parsed : parseXmlDocument library bytes = .ok document) {kdfParameters : List UInt8}
    {publicCustomData : BTreeMap String (List UInt8)}
    (projected : projectXml library document kdfParameters publicCustomData binaries
      (ProtectedStream.fromStream streams 3 innerKey) = .ok again) : TreeBack readText vault.root again.root := by
  obtain ⟨document', rootNode, rootGroup, stream, group, masked, parsed', hasRoot, hasGroup, opened, start, made, protects,
    reread⟩ := buildXml_reread back saved
  obtain rfl := Except.ok.inj (parsed.symm.trans parsed')
  obtain ⟨rootNode', rootGroup', stream', later, hereRoot, hereGroup, openedAgain, parsedGroup⟩ := projectXml_root projected
  obtain rfl := Except.ok.inj (hasRoot.symm.trans hereRoot)
  obtain rfl := Except.ok.inj (hasGroup.symm.trans hereGroup)
  have sameStream : ProtectedStream.newChacha streams innerKey = .ok stream' := openedAgain
  obtain rfl := Except.ok.inj (opened.symm.trans sameStream)
  have follows := (groupToXml_along binaries back made).2 _ _ _ _ protects reread
  exact (follows.mirrors stream again.root start (congrArg Prod.fst parsedGroup)).2 rfl

end Loaded

/-! ## References -/

/-- A binary child stands for an attachment of the entry: it has its name, and its reference is the
    place of the attachment's content in the pool. -/
def RefersTo (binaries : List InnerBinary) (entry : Entry) (c : Element) : Prop :=
  ∃ (name : String) (attachment : Attachment) (index : Nat), entry.attachments[name]? = some attachment ∧
    childText c "Key" = some name ∧
    (c.childOptional "Value").bind (·.attributes["Ref"]?) = some (toString index) ∧
    binaries[index]? = some { protectInMemory := attachment.protectInMemory, data := attachment.data }

theorem binaryToXml_refers {binaries : List InnerBinary} {entry : Entry} (pooled : Pooled binaries entry)
    {name : String} {attachment : Attachment} (held : entry.attachments[name]? = some attachment) :
    RefersTo binaries entry (binaryToXml binaries name attachment) := by
  refine ⟨name, attachment, attachmentRef binaries attachment, held, ?_, ?_,
    attachmentRef_get (pooled name attachment held).2⟩
  · rw [childText, binaryToXml, Element.childOptional_ofElements]
    simp
  · rw [binaryToXml, Element.childOptional_ofElements]
    simp

theorem entryWithHistoryToXml_refers {xml : XmlLibrary} {entry : Entry} {binaries : List InnerBinary}
    {history : Option Element} {version : KdbxVersion} {element : Element} (pooled : Pooled binaries entry)
    (own : ∀ h ∈ history, h.name = "History")
    (written : entryWithHistoryToXml xml entry binaries history version = .ok element) :
    ∀ c ∈ element.elements, c.name = "Binary" → RefersTo binaries entry c := by
  obtain ⟨all, rfl, same⟩ := finishScope_named written
  intro c member isBinary
  rw [Element.elements_ofElements] at member
  have inside : c ∈ named "Binary" (entryChildren entry binaries history version) :=
    same "Binary" (by decide) (by decide) ▸ mem_named.mpr ⟨member, isBinary⟩
  rw [named_entryChildren entry binaries history version own, named_entryFields entry version (by simp)] at inside
  obtain ⟨name, attachment, placed, rfl⟩ := by simpa using inside
  exact binaryToXml_refers pooled (mem_orderAttachments.mp placed)

/-! ## Attachments that are read -/

/-- The reader's loop over the attachments of an entry's element. -/
def readBinaries (library : ReadLibrary) (binaries : List InnerBinary) (read : Element) : Reading EntryScan :=
  (named "Binary" read.elements).foldlM (fun scan c => parseEntryChild library binaries c scan) {}

/-- The child is read as the attachment: under its name, with its bytes and its protection. -/
def ReadsTo (library : ReadLibrary) (binaries : List InnerBinary) (pair : String × Attachment) (c : Element) : Prop :=
  ∀ (scan : EntryScan) (stream : ProtectedStream), pair.1 ∉ scan.attachments → ∃ next,
    parseEntryChild library binaries c scan stream = (.ok next, stream) ∧
      next.attachments = scan.attachments.insert pair.1 pair.2

/-- The attachments of an entry are read from its element, each from the child that was written for it. -/
structure ReadsAttachments (library : ReadLibrary) (binaries : List InnerBinary) (entry : Entry) (read : Element) :
    Prop where
  each : List.Forall₂ (ReadsTo library binaries) (orderAttachments entry.rawState.binaryOrder entry.attachments)
    (named "Binary" read.elements)
  all : ∀ stream, ∃ scan, readBinaries library binaries read stream = (.ok scan, stream) ∧
    scan.attachments = entry.attachments

/-- The attachments of an entry and of its history are read from its element. -/
structure ReadsWithHistory (library : ReadLibrary) (binaries : List InnerBinary) (entry : Entry) (read : Element) :
    Prop where
  own : ReadsAttachments library binaries entry read
  history : List.Forall₂ (ReadsAttachments library binaries) entry.history (historyElements read)

/-- The names of an entry's attachments are read as they are written. -/
def NamesRead (readText : String → Option String) (entry : Entry) : Prop :=
  ∀ name ∈ entry.attachments, readText name = some name

section Reads

variable {library : ReadLibrary} {readText : String → Option String} {kept : Element → Prop} {binaries : List InnerBinary}

theorem referredBinary_pooled {attachment : Attachment} (pooled : innerBinary attachment ∈ binaries)
    (few : binaries.length < 2 ^ 64) (name : String) :
    referredBinary binaries name (toString (attachmentRef binaries attachment)) = .ok { attachment with name } := by
  have small : attachmentRef binaries attachment < 2 ^ 64 := (List.idxOf_lt_length_iff.mpr pooled).trans few
  rw [referredBinary, trimText_plain (plain_natToString _), parseUnsigned_toString small, Option.bind_some,
    attachmentRef_get pooled]
  rfl

theorem addBinary_pooled {attachment : Attachment} (pooled : innerBinary attachment ∈ binaries)
    (few : binaries.length < 2 ^ 64) {given : String} {scan : EntryScan} (free : given ∉ scan.attachments) :
    ∃ next, addBinary binaries (some given) (toString (attachmentRef binaries attachment)) scan = .ok next ∧
      next.attachments = scan.attachments.insert given { attachment with name := given } := by
  unfold addBinary
  dsimp only
  rw [referredBinary_pooled pooled few, Fallible.ok_bind, if_neg (by rwa [Std.ExtTreeMap.contains_iff_mem])]
  exact ⟨_, rfl, rfl⟩

/-- A child is read as the attachment it was written for if the reader sees its name. -/
theorem readsTo_iff {name : String} {attachment : Attachment} {c : Element} (own : attachment.name = name)
    (pooled : innerBinary attachment ∈ binaries) (few : binaries.length < 2 ^ 64)
    (reread : Reread readText kept (binaryToXml binaries name attachment) c) :
    ReadsTo library binaries (name, attachment) c ↔ readText name = some name := by
  constructor
  · intro reads
    obtain ⟨next, taken, same⟩ := reads {} .newPlain (by simp)
    rw [binaryToXml_read binaries reread] at taken
    obtain ⟨added, _⟩ := Attempt.lift_eq_ok.mp taken
    cases named : readText name with
    | none =>
        rw [named] at added
        cases added
    | some given =>
        obtain ⟨next', added', same'⟩ := @addBinary_pooled _ _ pooled few given {} (by simp)
        rw [named, added'] at added
        obtain rfl := Except.ok.inj added
        have here := congrArg (fun attachments => attachments[given]?) (same'.symm.trans same)
        simp only [BTreeMap.insert_lookup, if_true] at here
        split at here
        · rename_i equal
          rw [← equal]
        · simp at here
  · intro named scan stream free
    obtain ⟨next, added, same⟩ := addBinary_pooled pooled few free
    refine ⟨next, ?_, ?_⟩
    · rw [binaryToXml_read binaries reread, named, added]
      rfl
    · rw [same, ← own]

theorem readBinaries_run {pairs : List (String × Attachment)} {elements : List Element}
    (pooled : ∀ pair ∈ pairs, innerBinary pair.2 ∈ binaries) (few : binaries.length < 2 ^ 64)
    (names : ∀ pair ∈ pairs, readText pair.1 = some pair.1) (apart : (pairs.map Prod.fst).Nodup)
    (rereads : List.Forall₂ (fun pair c => Reread readText kept (binaryToXml binaries pair.1 pair.2) c) pairs elements)
    (scan : EntryScan) (free : ∀ pair ∈ pairs, pair.1 ∉ scan.attachments) (stream : ProtectedStream) :
    ∃ next, elements.foldlM (fun scan c => parseEntryChild library binaries c scan) scan stream = (.ok next, stream) ∧
      Along (AddsAttachment readText) pairs scan.attachments next.attachments := by
  induction rereads generalizing scan with
  | nil => exact ⟨scan, rfl, .nil _⟩
  | @cons pair c pairs elements reread _ ih =>
      rw [List.map_cons, List.nodup_cons] at apart
      rw [List.forall_mem_cons] at pooled names free
      obtain ⟨middle, added, grown⟩ := addBinary_pooled pooled.1 few free.1
      have later : ∀ other ∈ pairs, other.1 ∉ middle.attachments := by
        intro other member inside
        rw [grown, Std.ExtTreeMap.mem_insert, Std.LawfulEqCmp.compare_eq_iff_eq] at inside
        rcases inside with same | old
        · exact apart.1 (same ▸ List.mem_map_of_mem member)
        · exact free.2 other member old
      obtain ⟨next, folded, along⟩ := ih pooled.2 names.2 apart.2 middle later
      refine ⟨next, ?_, .cons ⟨pair.1, names.1, ?_, grown⟩ along⟩
      · rw [List.foldlM_cons, Attempt.bind_run, binaryToXml_read binaries reread, names.1, added]
        exact folded
      · rw [← Bool.not_eq_true, Std.ExtTreeMap.contains_iff_mem]
        exact free.1

/-- No attachment is written twice. -/
theorem orderAttachments_nodup {order : List String} (apart : order.Nodup) (attachments : BTreeMap String Attachment) :
    ((orderAttachments order attachments).map Prod.fst).Nodup := by
  have placed : (order.filterMap fun name => attachments[name]?.map fun attachment => (name, attachment)).map Prod.fst =
      order.filter fun name => attachments[name]?.isSome := by
    rw [List.map_filterMap, ← List.filterMap_eq_filter]
    congr 1
    funext name
    cases found : attachments[name]? with
    | none => simp [Option.guard, found]
    | some attachment => simp [Option.guard, found]
  unfold orderAttachments
  rw [List.map_append, placed, List.nodup_append]
  refine ⟨apart.filter _, BTreeMap.nodup_filter_keys attachments _, ?_⟩
  intro first inOrder second outside same
  obtain ⟨⟨name, attachment⟩, member, rfl⟩ := List.mem_map.mp outside
  have other : (!order.contains name) = true := (List.mem_filter.mp member).2
  rw [show name = first from same.symm] at other
  simp [(List.mem_filter.mp inOrder).1] at other

theorem HoldsFields.reads_iff {xml : XmlLibrary} {version : KdbxVersion} {entry : Entry} {read : Element}
    (held : HoldsFields xml readText kept binaries version entry read) (pooled : Pooled binaries entry)
    (ordered : entry.rawState.binaryOrder.Nodup) (few : binaries.length < 2 ^ 64) :
    ReadsAttachments library binaries entry read ↔ NamesRead readText entry := by
  have members : ∀ pair ∈ orderAttachments entry.rawState.binaryOrder entry.attachments,
      entry.attachments[pair.1]? = some pair.2 := fun pair member => mem_orderAttachments.mp member
  have each : List.Forall₂ (ReadsTo library binaries) (orderAttachments entry.rawState.binaryOrder entry.attachments)
      (named "Binary" read.elements) ↔
        ∀ pair ∈ orderAttachments entry.rawState.binaryOrder entry.attachments, readText pair.1 = some pair.1 := by
    apply forall₂_iff _ held.attachments
    intro pair member c reread
    obtain ⟨own, inside⟩ := pooled _ _ (members pair member)
    exact readsTo_iff own inside few reread
  have names : NamesRead readText entry ↔
      ∀ pair ∈ orderAttachments entry.rawState.binaryOrder entry.attachments, readText pair.1 = some pair.1 := by
    constructor
    · exact fun given pair member => given pair.1 ((BTreeMap.mem_iff_lookup _ _).mpr ⟨_, members pair member⟩)
    · intro given name member
      obtain ⟨attachment, lookup⟩ := (BTreeMap.mem_iff_lookup _ _).mp member
      exact given (name, attachment) (mem_orderAttachments.mpr lookup)
  rw [names]
  refine ⟨fun reads => each.mp reads.each, fun given => ⟨each.mpr given, fun stream => ?_⟩⟩
  obtain ⟨scan, folded, along⟩ := @readBinaries_run library _ _ _ _ _
    (fun pair member => (pooled _ _ (members pair member)).2) few given
    (orderAttachments_nodup ordered entry.attachments) held.attachments {} (by simp) stream
  refine ⟨scan, folded, (returned_of_along along).same (fun name attachment lookup => (pooled name attachment lookup).1) ?_⟩
  exact names.mpr given

theorem HoldsEntry.reads_iff {xml : XmlLibrary} {version : KdbxVersion} {entry : Entry} {read : Element}
    (held : HoldsEntry xml readText kept binaries version entry read)
    (pooled : ∀ snapshot ∈ withHistory entry, Pooled binaries snapshot)
    (ordered : ∀ snapshot ∈ withHistory entry, snapshot.rawState.binaryOrder.Nodup) (few : binaries.length < 2 ^ 64) :
    ReadsWithHistory library binaries entry read ↔ ∀ snapshot ∈ withHistory entry, NamesRead readText snapshot := by
  have own : ReadsAttachments library binaries entry read ↔ NamesRead readText entry :=
    held.fields.reads_iff (pooled entry List.mem_cons_self) (ordered entry List.mem_cons_self) few
  have past : List.Forall₂ (ReadsAttachments library binaries) entry.history (historyElements read) ↔
      ∀ snapshot ∈ entry.history, NamesRead readText snapshot := by
    apply forall₂_iff _ held.history
    intro snapshot member c fields
    have inside := List.mem_cons_of_mem entry member
    exact fields.reads_iff (pooled snapshot inside) (ordered snapshot inside) few
  rw [withHistory, List.forall_mem_cons, ← own, ← past]
  exact ⟨fun reads => ⟨reads.own, reads.history⟩, fun reads => ⟨reads.1, reads.2⟩⟩

end Reads

/-! ### Accepted vaults -/

mutual
theorem groupModelIsValid_entries : ∀ {group : Group}, groupModelIsValid group = true →
    ∀ entry ∈ entriesIn group, entryModelIsValid entry = true
  | ⟨fields, entries, children⟩, valid, entry, member => by
      simp only [groupModelIsValid, Bool.and_eq_true, List.all_eq_true] at valid
      rw [entriesIn_mk] at member
      rcases List.mem_append.mp member with here | below
      · exact (valid.1.2 entry here).2
      · exact childModelsAreValid_entries valid.2 entry below

theorem childModelsAreValid_entries : ∀ {groups : List Group}, childModelsAreValid groups = true →
    ∀ entry ∈ groups.flatMap entriesIn, entryModelIsValid entry = true
  | [], _, _, member => by cases member
  | child :: rest, valid, entry, member => by
      rw [childModelsAreValid, Bool.and_eq_true] at valid
      rw [List.flatMap_cons] at member
      rcases List.mem_append.mp member with here | later
      · exact groupModelIsValid_entries valid.1 entry here
      · exact childModelsAreValid_entries valid.2 entry later
end

/-- A vault whose save is prepared has no attachment in two recorded places. -/
theorem prepareSave_ordered {vault : Vault} {profile : SaveProfile} {kdf : Except KdbxError VariantDictionary}
    {random : SaveRandom} {header : KdbxHeader} (prepared : prepareSave vault profile kdf random = .ok header) :
    ∀ entry ∈ entriesIn vault.root, ∀ snapshot ∈ withHistory entry, snapshot.rawState.binaryOrder.Nodup := by
  have tracked : ∀ (snapshot : Entry) (owner : Uuid) (isSnapshot : Bool),
      entryStateIsValid snapshot owner isSnapshot = true → snapshot.rawState.binaryOrder.Nodup := by
    intro snapshot owner isSnapshot valid
    simp only [entryStateIsValid, trackedIdentitySlotsAreValid, Bool.and_eq_true, decide_eq_true_eq] at valid
    tauto
  intro entry member snapshot inside
  have valid := groupModelIsValid_entries (prepareSave_valid prepared) entry member
  rw [entryModelIsValid, Bool.and_eq_true, List.all_eq_true] at valid
  rcases List.mem_cons.mp inside with rfl | old
  · exact tracked _ _ _ valid.1
  · exact tracked _ _ _ (valid.2 snapshot old)

/-! ## The guarantee -/

/-- Attachments whose lengths the inner header holds. -/
def ShortAttachments (vault : Vault) : Prop :=
  ∀ entry ∈ entriesIn vault.root, ∀ pair ∈ allAttachments entry, pair.2.data.bytes.length + 1 < 2 ^ 31

/-- The inner header that is written for a pool. -/
def pooledHeader (innerKey : List UInt8) (pool : List InnerBinary) : InnerHeader :=
  { innerAlgorithm := 3, innerKey := some innerKey, binaries := pool }

/-- The pool is read back if every attachment is short enough for its length word. -/
theorem pool_readBack {library : FileLibrary} {vault : Vault} {pool : List InnerBinary} {innerKey : List UInt8}
    (key : innerKey.length < 2 ^ 31) (collected : collectAttachmentRefs library.sha256 vault = .ok pool)
    (document : List UInt8) :
    parseInnerHeader library.sha256 (buildInnerHeader innerKey pool ++ document) =
      .ok (pooledHeader innerKey pool, document) ↔ ShortAttachments vault := by
  have collects : Collects library.sha256 ((entriesIn vault.root).flatMap allAttachments) [] pool :=
    collectGroupBinaries_collects collected
  refine parseInnerHeader_build.trans ⟨fun fits entry member pair inside => ?_, fun short => ⟨?_, ?_, ?_⟩⟩
  · exact fits.binaries _ (collects.pooled pair (List.mem_flatMap.mpr ⟨entry, member, inside⟩)).2
  · intro raw same
    cases same
    exact key
  · intro binary member
    rcases collects.source binary member with none | ⟨pair, inside, rfl⟩
    · cases none
    · obtain ⟨entry, held, inside⟩ := List.mem_flatMap.mp inside
      exact short entry held pair inside
  · exact collects.apart (by simp [HashesApart])

section Documents

variable {library : FileLibrary} {readText : String → Option String} {kept : Element → Prop} {vault : Vault}
  {pool : List InnerBinary} {innerKey document bytes transformed : List UInt8} {version : KdbxVersion}
  {stream : ProtectedStream}

/-- The document of a vault holds its tree. -/
theorem buildXml_holds (back : ReadsBack library.xml readText kept)
    (built : buildXml library.xml library.toStreamLibrary vault pool innerKey version = .ok (document, stream)) :
    ∃ tree rootNode rootGroup, parseXmlDocument library.toReadLibrary document = .ok tree ∧
      child tree "Root" = .ok rootNode ∧ child rootNode "Group" = .ok rootGroup ∧
      HoldsTree (HoldsEntry library.xml readText kept pool version) vault.root rootGroup := by
  obtain ⟨tree, rootNode, rootGroup, start, group, masked, parsed, hasRoot, hasGroup, _, _, made, protects, reread⟩ :=
    @buildXml_reread _ library.toReadLibrary _ _ back _ _ _ _ _ _ built
  exact ⟨tree, rootNode, rootGroup, parsed, hasRoot, hasGroup, groupToXml_holds made ⟨_, _, _, protects, reread⟩⟩

/-- A file with short attachments loads as a vault with the tree and the attachments it was written for. -/
theorem loadKdbx_returns (back : ReadsBack library.xml readText kept) (key : innerKey.length < 2 ^ 31)
    (collected : collectAttachmentRefs library.sha256 vault = .ok pool)
    (built : buildXml library.xml library.toStreamLibrary vault pool innerKey version = .ok (document, stream))
    {header : KdbxHeader}
    (opened : openContainer library bytes transformed = .ok (header, buildInnerHeader innerKey pool ++ document))
    (short : ShortAttachments vault) {loaded : Vault} (done : loadKdbx library bytes transformed = .ok loaded) :
    TreeBack readText vault.root loaded.root := by
  have innerRead := (pool_readBack key collected document).mpr short
  unfold loadKdbx at done
  rw [opened, Fallible.ok_bind] at done
  dsimp only at done
  rw [innerRead, Fallible.ok_bind] at done
  obtain ⟨tree, parsed, done⟩ := Fallible.bind_ok.mp done
  obtain ⟨_, _, done⟩ := Fallible.bind_ok.mp done
  obtain ⟨kdfParameters, _, projected⟩ := Fallible.bind_ok.mp done
  exact document_returns back built parsed projected

end Documents

/-- What is written for the attachments of a vault refers to the pool of its file. The file gives the pool
back, and its document every attachment of every entry and of every history: its bytes and its
protection under its name. That is so exactly if the attachments are short enough and the names are
read as they are written. -/
theorem attachmentPool {library : FileLibrary} {readText : String → Option String} {kept : Element → Prop}
    (inverts : Inverts library) (hashes : HashWidth library) (macs : MacWidth library)
    (back : ReadsBack library.xml readText kept) {vault : Vault} {profile : SaveProfile} {requested : Option SaveKdf}
    {salt : List UInt8} {random : SaveRandom} {transformed bytes : List UInt8} {stream : ProtectedStream}
    (fits : SaveFits vault random salt)
    (saved : saveKdbx library vault profile (savedDictionary vault requested salt) random transformed =
      .ok (bytes, stream)) :
    ∃ header pool document tree rootNode rootGroup, collectAttachmentRefs library.sha256 vault = .ok pool ∧
      openContainer library bytes transformed = .ok (header, buildInnerHeader random.innerKey pool ++ document) ∧
      parseXmlDocument library.toReadLibrary document = .ok tree ∧ child tree "Root" = .ok rootNode ∧
      child rootNode "Group" = .ok rootGroup ∧
      (∀ entry ∈ entriesIn vault.root, ∀ snapshot ∈ withHistory entry, ∀ history element,
        (∀ h ∈ history, h.name = "History") →
        entryWithHistoryToXml library.xml snapshot pool history profile.version = .ok element →
          ∀ c ∈ element.elements, c.name = "Binary" → RefersTo pool snapshot c) ∧
      (pool.length < 2 ^ 64 →
        (parseInnerHeader library.sha256 (buildInnerHeader random.innerKey pool ++ document) =
            .ok (pooledHeader random.innerKey pool, document) ∧
          HoldsTree (ReadsWithHistory library.toReadLibrary pool) vault.root rootGroup ↔
        ShortAttachments vault ∧
          ∀ entry ∈ entriesIn vault.root, ∀ snapshot ∈ withHistory entry, NamesRead readText snapshot)) ∧
      (ShortAttachments vault → ∀ loaded, loadKdbx library bytes transformed = .ok loaded →
        TreeBack readText vault.root loaded.root) := by
  obtain ⟨header, pool, document, prepared, collected, built, file⟩ := saveKdbx_file saved
  obtain ⟨read, opened⟩ := file.opened inverts hashes macs prepared (prepareSave_writable fits prepared).1
  obtain ⟨tree, rootNode, rootGroup, parsed, hasRoot, hasGroup, held⟩ := buildXml_holds back built
  have key : random.innerKey.length < 2 ^ 31 := by
    rw [random.innerKey_length]
    decide
  have pooled := (collectGroupBinaries_collects collected).all
  have ordered := prepareSave_ordered prepared
  refine ⟨read, pool, document, tree, rootNode, rootGroup, collected, opened, parsed, hasRoot, hasGroup, ?_, ?_, ?_⟩
  · intro entry member snapshot inside history element own written
    exact entryWithHistoryToXml_refers (pooled entry member snapshot inside) own written
  · intro few
    rw [pool_readBack key collected,
      held.iff fun entry member read here => here.reads_iff (pooled entry member) (ordered entry member) few]
  · exact fun short loaded done => loadKdbx_returns back key collected built opened short done

/-! ### One content under three names -/

def storedAttachment (name : String) (binary : InnerBinary) : Attachment :=
  { name, data := binary.data, protectInMemory := binary.protectInMemory }

def keyBinary : InnerBinary := ⟨true, ⟨"key".toUTF8.toList⟩⟩

/-- An entry with the same content protected and unprotected, and protected in its history. -/
def attachedVault (name : String) : Vault :=
  { passwordVault with
    root :=
      { id := 1
        title := "Root"
        entries := [{
          id := 2
          title := "Mail"
          attachments := BTreeMap.lastWins
            [(name, storedAttachment name ⟨true, ⟨[1, 2, 3]⟩⟩), ("open", storedAttachment "open" ⟨false, ⟨[1, 2, 3]⟩⟩)]
          history := [{
            id := 2
            title := "Mail"
            attachments := BTreeMap.lastWins
              [("key", storedAttachment "key" keyBinary), ("old", storedAttachment "old" ⟨true, ⟨[1, 2, 3]⟩⟩)]
            iconId := none
            expiryTime := none
            lastAccessedAt := none
            usageCount := none
            locationChangedAt := some 0
            autoType := none }]
          iconId := none
          expiryTime := none
          lastAccessedAt := none
          usageCount := none
          locationChangedAt := some 0
          autoType := none }] } }

def attachedDocument (name : String) : Except KdbxError (Element × ProtectedStream) :=
  buildDocument { parse := fun _ => .error "", write := fun _ => .error "" } (attachedVault name) storedBinaries
    zeroKeyStream .v4_1

def attachedText (name : String) : String :=
  documentText "<DatabaseName>mail</DatabaseName>" (entryText "Mail" ""
    ("<Binary><Key>" ++ name ++ "</Key><Value Ref=\"0\" /></Binary>" ++
      "<Binary><Key>open</Key><Value Ref=\"1\" /></Binary><History>" ++
      entryText "Mail" "" ("<Binary><Key>key</Key><Value Ref=\"2\" /></Binary>" ++
        "<Binary><Key>old</Key><Value Ref=\"0\" /></Binary>") ++ "</History>"))

def attachedLibrary (name : String) : FileLibrary :=
  storedLibrary (documentXml (attachedDocument name) (attachedText name))

theorem storedLibrary_inverts (xml : XmlLibrary) : Inverts (storedLibrary xml) where
  decrypt := fun _ _ _ _ _ same => same.symm
  gunzip := by
    intro payload zipped same
    cases same

theorem attachedVault_fits (name : String) : SaveFits (attachedVault name) zeroSeeds (List.replicate 32 0) where
  salt := rfl
  encryptionIv := by decide
  kdfParameters := by
    intro raw retained
    cases retained
  publicCustomData := passwordVault_fits.publicCustomData

def saveAttached (name : String) : Except KdbxError (List UInt8 × ProtectedStream) :=
  saveKdbx (attachedLibrary name) (attachedVault name) ⟨.v4_1, .aes256, .none⟩
    (savedDictionary (attachedVault name) (some (.aesKdbx4 1)) (List.replicate 32 0)) zeroSeeds []

theorem attachedVault_loads : (do
    let (bytes, _) ← saveAttached "a"
    loadKdbx (attachedLibrary "a") bytes []).toBool = true := by decide +kernel

theorem attachmentPool_attached : ∃ bytes stream header document rootGroup loaded,
    saveAttached "a" = .ok (bytes, stream) ∧
      openContainer (attachedLibrary "a") bytes [] =
        .ok (header, buildInnerHeader zeroSeeds.innerKey storedBinaries ++ document) ∧
      parseInnerHeader contentDigests (buildInnerHeader zeroSeeds.innerKey storedBinaries ++ document) =
        .ok (pooledHeader zeroSeeds.innerKey storedBinaries, document) ∧
      HoldsTree (ReadsWithHistory (attachedLibrary "a").toReadLibrary storedBinaries) (attachedVault "a").root rootGroup ∧
      loadKdbx (attachedLibrary "a") bytes [] = .ok loaded ∧
      TreeBack (textWithout isXmlBlank) (attachedVault "a").root loaded.root := by
  obtain ⟨loaded, through⟩ := Fallible.ok_of_toBool attachedVault_loads
  obtain ⟨⟨bytes, stream⟩, saved, done⟩ := Fallible.bind_ok.mp through
  have back : ReadsBack (attachedLibrary "a").xml (textWithout isXmlBlank) fun e => e.without isXmlBlank = e :=
    ReadsBack.ofOne (by decide +kernel)
  obtain ⟨header, pool, document, tree, rootNode, rootGroup, collected, opened, _, _, _, _, reads, returns⟩ :=
    attachmentPool (storedLibrary_inverts _) (storedLibrary_hashes _) twoMacLibrary_width back
      (attachedVault_fits "a") saved
  have stored : collectAttachmentRefs contentDigests (attachedVault "a") = .ok storedBinaries := by decide +kernel
  obtain rfl := Except.ok.inj (collected.symm.trans stored)
  have short : ShortAttachments (attachedVault "a") := by
    unfold ShortAttachments
    decide +kernel
  have names : ∀ entry ∈ entriesIn (attachedVault "a").root, ∀ snapshot ∈ withHistory entry,
      ∀ name ∈ snapshot.attachments.keys, textWithout isXmlBlank name = some name := by decide +kernel
  obtain ⟨innerRead, held⟩ := (reads (by decide)).mpr
    ⟨short, fun entry member snapshot inside name here =>
      names entry member snapshot inside name (Std.ExtTreeMap.mem_keys.mpr here)⟩
  exact ⟨bytes, stream, header, document, rootGroup, loaded, saved, opened, innerRead, held, done, returns short loaded done⟩

/-- A name of white space only is written, and what is written is not loaded again. -/
theorem blankName_refused : (match saveAttached " " with
    | .ok (bytes, _) => !(loadKdbx (attachedLibrary " ") bytes []).toBool
    | .error _ => false) = true := by decide +kernel

/-- A file whose attachment has a blank name is written and never loaded. -/
theorem attachments_lost : ∃ bytes stream, saveAttached " " = .ok (bytes, stream) ∧
    ∀ loaded, loadKdbx (attachedLibrary " ") bytes [] ≠ .ok loaded := by
  have refused := blankName_refused
  cases saved : saveAttached " " with
  | error e =>
      rw [saved] at refused
      cases refused
  | ok written =>
      refine ⟨written.1, written.2, rfl, fun loaded done => ?_⟩
      rw [saved] at refused
      dsimp only at refused
      rw [done] at refused
      cases refused

end VaultKern.Kdbx
