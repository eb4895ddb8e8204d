import VaultKern.Kdbx.Returns

/-! # The inner random stream stays aligned

The document of a saved vault is read back with the stream it was masked with. Whatever the
reader makes of the document, its uses of the stream undo those of the writer one by one.
-/

namespace VaultKern.Kdbx

section Documents

variable {streams : StreamLibrary} {library : ReadLibrary} {readText : String → Option String} {kept : Element → Prop}

theorem rootToXml_group {vault : Vault} {group rootElement : Element} (named : group.name = "Group")
    (made : rootToXml library.xml vault group = .ok rootElement) :
    rootElement.name = "Root" ∧ rootElement.childOptional "Group" = some group := by
  obtain ⟨all, spliced, same⟩ := Fallible.bind_ok.mp made
  cases same
  refine ⟨rfl, ?_⟩
  rw [childOptional_named, Element.elements_ofElements, appendOpaqueXml_named (by decide) spliced,
    reorderKnownXmlNodes_named, named_append, named_of_all (show ∀ c : Element, c ∈ [group] → c.name = "Group" by simpa using named)]
  rfl

/-- What a saved document is parsed to: its group is the written one, masked along the stream. -/
theorem buildXml_reread (back : ReadsBack library.xml readText kept) {vault : Vault}
    {binaries : List InnerBinary} {innerKey bytes : List UInt8} {version : KdbxVersion} {written : ProtectedStream}
    (saved : buildXml library.xml streams vault binaries innerKey version = .ok (bytes, written)) :
    ∃ document rootNode rootGroup stream group masked,
      parseXmlDocument library bytes = .ok document ∧ child document "Root" = .ok rootNode ∧
      child rootNode "Group" = .ok rootGroup ∧ ProtectedStream.newChacha streams innerKey = .ok stream ∧
      stream.Mirrors stream ∧ groupToXml library.xml binaries version vault.root = .ok group ∧
      protectXmlGroup group stream = .ok (masked, written) ∧ Reread readText kept masked rootGroup := by
  unfold buildXml at saved
  split at saved
  · cases saved
  obtain ⟨stream, opened, saved⟩ := Fallible.bind_ok.mp saved
  obtain ⟨⟨document, after⟩, built, saved⟩ := Fallible.bind_ok.mp saved
  obtain ⟨metaElement, madeMeta, built⟩ := Fallible.bind_ok.mp built
  obtain ⟨group, madeGroup, built⟩ := Fallible.bind_ok.mp built
  obtain ⟨⟨masked, _⟩, maskedGroup, built⟩ := Fallible.bind_ok.mp built
  obtain ⟨rootElement, madeRoot, built⟩ := Fallible.bind_ok.mp built
  dsimp only at built saved
  split at built
  swap
  · cases built
  cases built
  split at saved
  swap
  · cases saved
  next wrote =>
  cases saved
  obtain ⟨noBom, document, parsed, reread⟩ := back.reread wrote
  have name := (groupToXml_along [] back madeGroup).1
  obtain ⟨rootName, hasGroup⟩ := rootToXml_group ((protectXmlGroup_name maskedGroup).trans name) madeRoot
  obtain ⟨allMeta, rfl, _⟩ := finishScope_named madeMeta
  obtain ⟨rootNode, foundRoot, rereadRoot⟩ := reread.child_some (show Element.childOptional _ "Root" = some rootElement by
    rw [Element.childOptional_ofElements]; simp [rootName])
  obtain ⟨rootGroup, foundGroup, rereadGroup⟩ := rereadRoot.child_some hasGroup
  refine ⟨document, rootNode, rootGroup, stream, group, masked, ?_, ?_, ?_, opened, ?_, madeGroup, maskedGroup, rereadGroup⟩
  · rw [parseXmlDocument, stripUtf8Bom, noBom]
    simp [parsed]
  · rw [child, foundRoot]
  · rw [child, foundGroup]
  · refine ⟨rfl, rfl, ?_⟩
    unfold ProtectedStream.newChacha at opened
    split at opened
    · cases opened
    · cases opened
      rfl

/-- Every use the reader makes of the stream stands where the writer's did, takes what that gave and gives
what that took. A protected field that is read there is the one that was written, whatever its value. A
reader that comes through has undone all uses, and has every string field that was written. -/
theorem streamUses_aligned (back : ReadsBack library.xml readText kept) {vault : Vault}
    {binaries : List InnerBinary} {innerKey bytes : List UInt8} {version : KdbxVersion} {written : ProtectedStream}
    (saved : buildXml library.xml streams vault binaries innerKey version = .ok (bytes, written)) :
    (∃ document rootNode rootGroup stream,
      parseXmlDocument library bytes = .ok document ∧ child document "Root" = .ok rootNode ∧
      child rootNode "Group" = .ok rootGroup ∧ ProtectedStream.newChacha streams innerKey = .ok stream ∧
      ∀ fileBinaries, ∃ result read, parseGroup library fileBinaries rootGroup stream = (result, read) ∧
        read.uses <+: written.uses.map StreamUse.reversed ∧
        ∀ group, result = .ok group → read.uses = written.uses.map StreamUse.reversed ∧
          (fileBinaries = binaries → TreeBack readText vault.root group)) ∧
    ∀ (key : String) (field : CustomField) (before after stream : ProtectedStream) (masked read : Element),
      field.isProtected = true → protectXmlString (stringFieldToXml key field) before = .ok (masked, after) →
      Reread readText kept masked read → before.Mirrors stream →
      (parseStringField read stream).1 =
        match readText key with
        | some given => .ok (given, field)
        | none => .error .invalidValue := by
  constructor
  · obtain ⟨document, rootNode, rootGroup, stream, group, masked, parsed, hasRoot, hasGroup, opened, start, made, protects,
      reread⟩ := buildXml_reread back saved
    refine ⟨document, rootNode, rootGroup, stream, parsed, hasRoot, hasGroup, opened, fun fileBinaries => ?_⟩
    have follows := (groupToXml_along fileBinaries back made).2 _ _ _ _ protects reread
    refine ⟨_, _, rfl, follows.undone stream start, fun group done => ?_⟩
    obtain ⟨mirrors, tree⟩ := follows.mirrors stream group start done
    exact ⟨mirrors.uses, tree⟩
  · intro key field before after stream masked read isProtected protects reread mirrors
    have same := parseStringField_returns back protects reread mirrors
    rwa [show readField readText field = field from if_pos isProtected] at same

end Documents

/-! ## One password -/

/-- What the libraries give for a key of 64 zeros. -/
def zeroKeyStreams : StreamLibrary where
  sha256 _ := []
  sha512 _ :=
    [123, 233, 253, 164, 143, 65, 121, 230, 17, 198, 152, 167, 60, 255, 9, 250, 247, 40, 105, 67, 30, 254, 230, 234,
      173, 20, 222, 12, 180, 75, 191, 102, 80, 63, 117, 43, 122, 142, 177, 112, 131, 53, 95, 60, 230, 235, 125, 40,
      6, 242, 54, 178, 90, 249, 106, 36, 226, 43, 136, 116, 5, 194, 0, 129]
  chacha20 _ _ i := [20, 125, 133, 83, 247, 208, 113, 126].getD i 0
  salsa20 _ _ _ := 0

def zeroKey : List UInt8 := List.replicate 64 0

theorem zeroKey_length : zeroKey.length = 64 := rfl

theorem zeroSeed_length : (List.replicate 32 (0 : UInt8)).length = 32 := rfl

def zeroKeyStream : ProtectedStream := { keystream := zeroKeyStreams.chacha20 [] [] }

def passwordVault : Vault :=
  { generator := none
    name := "mail"
    rootRawState := {}
    root :=
      { id := 1
        title := "Root"
        entries := [{
          id := 2
          title := "Mail"
          password := "secret"
          iconId := none
          expiryTime := none
          lastAccessedAt := none
          usageCount := none
          locationChangedAt := some 0
          autoType := none }] } }

/-- The document of the vault, which has no fragments to parse. -/
def passwordDocument : Except KdbxError (Element × ProtectedStream) :=
  buildDocument { parse := fun _ => .error "", write := fun _ => .error "" } passwordVault [] zeroKeyStream .v4_1

def timesText : String :=
  "<LastModificationTime>APeRdw4AAAA=</LastModificationTime><CreationTime>APeRdw4AAAA=</CreationTime>" ++
  "<Expires>False</Expires>"

/-- An entry of these documents, with what stands behind its strings. -/
def entryText (title password members : String) : String :=
  "<Entry><UUID>AAAAAAAAAAAAAAAAAAAAAg==</UUID><Times>" ++ timesText ++
  "<LocationChanged>APeRdw4AAAA=</LocationChanged></Times><String><Key>Notes</Key><Value></Value></String>" ++
  "<String><Key>Password</Key><Value Protected=\"True\">" ++ password ++ "</Value></String>" ++
  "<String><Key>Title</Key><Value>" ++ title ++ "</Value></String><String><Key>URL</Key><Value></Value></String>" ++
  "<String><Key>UserName</Key><Value></Value></String>" ++ members ++ "</Entry>"

def documentText (metaText entry : String) : String :=
  "<?xml version=\"1.0\" encoding=\"UTF-8\"?><KeePassFile><Meta>" ++ metaText ++ "</Meta>" ++
  "<Root><Group><UUID>AAAAAAAAAAAAAAAAAAAAAQ==</UUID><Name>Root</Name><Notes></Notes><IconID>0</IconID><Times>" ++
  timesText ++ "</Times><IsExpanded>True</IsExpanded><DefaultAutoTypeSequence></DefaultAutoTypeSequence>" ++
  "<EnableAutoType>null</EnableAutoType><EnableSearching>null</EnableSearching>" ++ entry ++
  "</Group></Root></KeePassFile>"

/-- A library that knows the document of a vault and its text. -/
def documentXml (document : Except KdbxError (Element × ProtectedStream)) (text : String) : XmlLibrary :=
  XmlLibrary.ofOne isXmlBlank (document.toOption.getD (.ofText "" "", zeroKeyStream)).1 text.toUTF8.data.toList

def passwordText : String :=
  documentText "<DatabaseName>mail</DatabaseName>" (entryText "Mail" "ZxjmIZKk" "<History />")

def passwordXml : XmlLibrary := documentXml passwordDocument passwordText

def passwordLibrary : ReadLibrary where
  xml := passwordXml
  rfc3339 _ := none
  gzipDecompress _ := none

theorem passwordLibrary_back :
    ReadsBack passwordLibrary.xml (textWithout isXmlBlank) fun e => e.without isXmlBlank = e :=
  ReadsBack.ofOne (by decide +kernel)

theorem passwordVault_written : (buildXml passwordXml zeroKeyStreams passwordVault [] zeroKey .v4_1).toOption.map Prod.fst =
    some passwordText.toUTF8.data.toList := by decide +kernel

theorem passwordVault_saved : ∃ written,
    buildXml passwordXml zeroKeyStreams passwordVault [] zeroKey .v4_1 =
      .ok (passwordText.toUTF8.data.toList, written) := by
  obtain ⟨⟨bytes, written⟩, built, same⟩ := Fallible.ok_of_toOption passwordVault_written
  exact ⟨written, by rw [built, ← same]⟩

/-- The reader comes through. -/
theorem passwordText_read : (do
    let document ← parseXmlDocument passwordLibrary passwordText.toUTF8.data.toList
    let rootNode ← child document "Root"
    let rootGroup ← child rootNode "Group"
    (parseGroup passwordLibrary [] rootGroup zeroKeyStream).1).toBool = true := by decide +kernel

theorem streamUses_aligned_password : ∃ bytes written document rootNode rootGroup stream group read,
    buildXml passwordXml zeroKeyStreams passwordVault [] zeroKey .v4_1 = .ok (bytes, written) ∧
      parseXmlDocument passwordLibrary bytes = .ok document ∧ child document "Root" = .ok rootNode ∧
      child rootNode "Group" = .ok rootGroup ∧ ProtectedStream.newChacha zeroKeyStreams zeroKey = .ok stream ∧
      parseGroup passwordLibrary [] rootGroup stream = (.ok group, read) ∧
      read.uses = written.uses.map StreamUse.reversed ∧ TreeBack (textWithout isXmlBlank) passwordVault.root group := by
  obtain ⟨written, saved⟩ := passwordVault_saved
  obtain ⟨⟨document, rootNode, rootGroup, stream, parsed, hasRoot, hasGroup, opened, aligned⟩, _⟩ :=
    streamUses_aligned passwordLibrary_back saved
  obtain ⟨result, read, ran, _, through⟩ := aligned []
  have comes := passwordText_read
  obtain rfl : zeroKeyStream = stream := Except.ok.inj opened
  rw [parsed, Fallible.ok_bind, hasRoot, Fallible.ok_bind, hasGroup, Fallible.ok_bind, ran] at comes
  cases result with
  | error e => cases comes
  | ok group =>
      obtain ⟨uses, returned⟩ := through group rfl
      exact ⟨_, written, _, rootNode, rootGroup, _, group, read, saved, parsed, hasRoot, hasGroup, opened, ran, uses,
        returned rfl⟩

end VaultKern.Kdbx
