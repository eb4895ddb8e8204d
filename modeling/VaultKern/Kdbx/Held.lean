import VaultKern.Kdbx.Returns

/-! # What a document holds

The tree of a vault is found again in the document that was written for it, element by element. This
holds of the document as it is parsed, also where the reader does not come through.
-/

namespace VaultKern.Kdbx

/-! ## Elements found again -/

section Found

variable (readText : String → Option String) (kept : Element → Prop)

/-- An element as it is found in a document: what the masking made of it, read again. -/
def FoundAs (one : Masking) (source read : Element) : Prop :=
  ∃ before masked after, one source before = .ok (masked, after) ∧ Reread readText kept masked read

variable {readText kept} {one : Masking}

theorem Masked.found {elements masked reads : List Element} {before after : ProtectedStream}
    (walk : Masked one elements before masked after) (pairs : List.Forall₂ (Reread readText kept) masked reads) :
    List.Forall₂ (FoundAs readText kept one) elements reads := by
  induction walk generalizing reads with
  | nil =>
      cases pairs
      exact .nil
  | cons first _ ih =>
      cases pairs with
      | cons pair rest => exact .cons ⟨_, _, _, first, pair⟩ (ih rest)

/-- The children of one name are found among those of the name. -/
theorem found_named (one : Masking) {elements reads : List Element}
    (names : ∀ element before masked after, one element before = .ok (masked, after) → masked.name = element.name)
    (found : List.Forall₂ (FoundAs readText kept one) elements reads) (label : String) :
    List.Forall₂ (FoundAs readText kept one) (named label elements) (named label reads) := by
  induction found with
  | nil => exact .nil
  | @cons element read rest reads first _ ih =>
      have same : read.name = element.name := by
        obtain ⟨_, _, _, done, reread⟩ := first
        exact reread.name.trans (names _ _ _ _ done)
      rw [named, named, List.filter_cons, List.filter_cons, same]
      split
      · exact .cons first ih
      · exact ih

theorem FoundAs.entryMembers {children : List Element} {read : Element}
    (found : FoundAs readText kept protectXmlEntry (.ofElements "Entry" children) read) :
    List.Forall₂ (FoundAs readText kept protectEntryMember) children read.elements := by
  obtain ⟨_, _, _, done, reread⟩ := found
  obtain ⟨⟨nodes, _⟩, walked, done⟩ := Fallible.bind_ok.mp done
  cases done
  obtain ⟨elements, rfl, walk⟩ := protectEntryChildren_loop.masked walked
  have pairs := reread.elements
  rw [show (Element.mk "Entry" ∅ (elements.map .element)).elements = elements from
    Element.elements_ofElements "Entry" elements] at pairs
  exact walk.found pairs

theorem FoundAs.historyMembers {snapshots : List Element} {read : Element}
    (found : FoundAs readText kept protectEntryMember (.ofElements "History" snapshots) read) :
    List.Forall₂ (FoundAs readText kept protectHistoryMember) snapshots read.elements := by
  obtain ⟨_, _, _, done, reread⟩ := found
  rw [protectEntryMember, if_neg (by simp), if_pos (by simp)] at done
  obtain ⟨⟨nodes, _⟩, walked, done⟩ := Fallible.bind_ok.mp done
  cases done
  obtain ⟨elements, rfl, walk⟩ := protectHistoryChildren_loop.masked walked
  have pairs := reread.elements
  rw [show (Element.mk "History" ∅ (elements.map .element)).elements = elements from
    Element.elements_ofElements "History" elements] at pairs
  exact walk.found pairs

theorem FoundAs.groupMembers {children : List Element} {read : Element}
    (found : FoundAs readText kept protectXmlGroup (.ofElements "Group" children) read) :
    List.Forall₂ (FoundAs readText kept protectGroupMember) children read.elements := by
  obtain ⟨_, _, _, done, reread⟩ := found
  obtain ⟨⟨nodes, _⟩, walked, done⟩ := Fallible.bind_ok.mp done
  cases done
  obtain ⟨elements, rfl, walk⟩ := protectGroupChildren_loop.masked walked
  have pairs := reread.elements
  rw [show (Element.mk "Group" ∅ (elements.map .element)).elements = elements from
    Element.elements_ofElements "Group" elements] at pairs
  exact walk.found pairs

end Found

/-! ## Entries -/

/-- The entries of the history child of an element. -/
def historyElements (element : Element) : List Element :=
  ((element.childOptional "History").map fun history => named "Entry" history.elements).getD []

section Entries

variable (xml : XmlLibrary) (readText : String → Option String) (kept : Element → Prop)
  (binaries : List InnerBinary) (version : KdbxVersion)

/-- The element is what was written for the entry, with some history child. -/
def HoldsFields (entry : Entry) (read : Element) : Prop :=
  ∃ history source, (∀ h ∈ history, h.name = "History") ∧
    entryWithHistoryToXml xml entry binaries history version = .ok source ∧
    FoundAs readText kept protectXmlEntry source read

/-- The element is what was written for the entry, and so are the elements of its history for its snapshots. -/
structure HoldsEntry (entry : Entry) (read : Element) : Prop where
  fields : HoldsFields xml readText kept binaries version entry read
  history : List.Forall₂ (HoldsFields xml readText kept binaries version) entry.history (historyElements read)

variable {xml readText kept binaries version}

/-- The children of one name, as they were written and as they are found. -/
theorem finished_members {entry : Entry} {history : Option Element} {source read : Element}
    (finished : entryWithHistoryToXml xml entry binaries history version = .ok source)
    (found : FoundAs readText kept protectXmlEntry source read) (label : String)
    (known : knownChildNameForScope "Entry" label = true) (other : label ≠ "CustomData") :
    List.Forall₂ (FoundAs readText kept protectEntryMember)
      (named label (entryChildren entry binaries history version)) (named label read.elements) := by
  obtain ⟨all, rfl, same⟩ := finishScope_named finished
  have members := found_named protectEntryMember (fun _ _ _ _ => protectEntryMember_name) found.entryMembers label
  rwa [same label known other] at members

/-- The attachments of an entry are found where they were written. -/
theorem HoldsFields.attachments {entry : Entry} {read : Element}
    (held : HoldsFields xml readText kept binaries version entry read) :
    List.Forall₂ (fun pair c => Reread readText kept (binaryToXml binaries pair.1 pair.2) c)
      (orderAttachments entry.rawState.binaryOrder entry.attachments) (named "Binary" read.elements) := by
  obtain ⟨history, source, own, finished, found⟩ := held
  have members := finished_members finished found "Binary" (by decide) (by decide)
  rw [named_entryChildren entry binaries history version own, named_entryFields entry version (by simp)] at members
  simp only [if_pos, List.nil_append, String.reduceEq, if_false, List.append_nil] at members
  refine (List.forall₂_map_left_iff.mp members).imp ?_
  rintro ⟨name, attachment⟩ c ⟨_, _, _, done, reread⟩
  cases done
  exact reread

theorem entryWithHistoryToXml_name {entry : Entry} {history : Option Element} {source : Element}
    (made : entryWithHistoryToXml xml entry binaries history version = .ok source) : source.name = "Entry" := by
  obtain ⟨_, rfl, _⟩ := finishScope_named made
  rfl

theorem entryToXml_name {entry : Entry} {source : Element}
    (made : entryToXml xml entry binaries true version = .ok source) : source.name = "Entry" := by
  unfold entryToXml at made
  split at made
  · obtain ⟨_, _, finished⟩ := Fallible.bind_ok.mp made
    exact entryWithHistoryToXml_name finished
  · exact entryWithHistoryToXml_name made

theorem protectHistoryMember_name {element masked : Element} {before after : ProtectedStream}
    (done : protectHistoryMember element before = .ok (masked, after)) : masked.name = element.name := by
  unfold protectHistoryMember at done
  split at done
  · exact protectXmlEntry_name done
  · cases done
    rfl

theorem entryToXml_holds {entry : Entry} {source read : Element}
    (made : entryToXml xml entry binaries true version = .ok source)
    (found : FoundAs readText kept protectXmlEntry source read) :
    HoldsEntry xml readText kept binaries version entry read := by
  unfold entryToXml at made
  by_cases emits : shouldEmitHistory entry true = true
  · rw [if_pos emits] at made
    obtain ⟨snapshots, mapped, finished⟩ := Fallible.bind_ok.mp made
    have pairs := Fallible.mapM_ok.mp mapped
    have own : ∀ h ∈ some (Element.ofElements "History" snapshots), h.name = "History" := by simp
    refine ⟨⟨_, source, own, finished, found⟩, ?_⟩
    have members := finished_members finished found "History" (by decide) (by decide)
    rw [named_entryChildren entry binaries _ version own, named_entryFields entry version (by simp)] at members
    simp only [if_pos, List.nil_append, String.reduceEq, if_false, Option.toList_some] at members
    obtain ⟨h, _, foundHistory, _, same⟩ := List.forall₂_cons_left_iff.mp members
    have entries : ∀ e ∈ snapshots, e.name = "Entry" := by
      intro e member
      obtain ⟨old, _, done⟩ := Fallible.source_of_mem pairs member
      exact entryWithHistoryToXml_name done
    have inside := found_named protectHistoryMember (fun _ _ _ _ => protectHistoryMember_name) foundHistory.historyMembers "Entry"
    rw [named_of_all entries] at inside
    have read_history : historyElements read = named "Entry" h.elements := by
      rw [historyElements, childOptional_named, same]
      rfl
    rw [read_history]
    refine forall₂_through pairs inside ?_
    rintro old _ e r written ⟨before, masked, after, done, reread⟩
    rw [protectHistoryMember, if_pos (entryWithHistoryToXml_name written)] at done
    exact ⟨none, _, by simp, written, before, masked, after, done, reread⟩
  · rw [if_neg emits] at made
    have empty : entry.history = [] := by
      unfold shouldEmitHistory at emits
      simp at emits
      exact emits.1.1
    refine ⟨⟨none, source, by simp, made, found⟩, ?_⟩
    have members := finished_members made found "History" (by decide) (by decide)
    rw [named_entryChildren entry binaries none version (by simp), named_entryFields entry version (by simp)] at members
    simp only [if_pos, List.nil_append, String.reduceEq, if_false, Option.toList_none] at members
    have read_history : historyElements read = [] := by
      rw [historyElements, childOptional_named, List.forall₂_nil_left_iff.mp members]
      rfl
    rw [empty, read_history]
    exact .nil

end Entries

/-! ## Groups -/

/-- The element holds the groups and the entries of a tree, in their places. -/
inductive HoldsTree (entry : Entry → Element → Prop) : Group → Element → Prop where
  | mk {group : Group} {read : Element} (entries : List.Forall₂ entry group.entries (named "Entry" read.elements))
      (children : List.Forall₂ (HoldsTree entry) group.children (named "Group" read.elements)) :
      HoldsTree entry group read

theorem forall₂_iff {A B : Type} {P Q : A → B → Prop} {R : A → Prop} {as : List A} {bs : List B}
    (each : ∀ a ∈ as, ∀ b, P a b → (Q a b ↔ R a)) (pairs : List.Forall₂ P as bs) :
    List.Forall₂ Q as bs ↔ ∀ a ∈ as, R a := by
  induction pairs with
  | nil => simp
  | cons first _ ih =>
      rw [List.forall₂_cons, List.forall_mem_cons, each _ List.mem_cons_self _ first,
        ih fun a member => each a (List.mem_cons_of_mem _ member)]

mutual
/-- What is so of an element exactly if something is so of its entry is so all over the tree exactly if
    that is so of every entry. -/
theorem HoldsTree.iff {held reads : Entry → Element → Prop} {given : Entry → Prop} : ∀ {group : Group} {read : Element},
    (∀ entry ∈ entriesIn group, ∀ read, held entry read → (reads entry read ↔ given entry)) → HoldsTree held group read →
      (HoldsTree reads group read ↔ ∀ entry ∈ entriesIn group, given entry)
  | ⟨fields, entries, children⟩, read, each, tree => by
      rw [entriesIn_mk] at each ⊢
      cases tree with
      | mk inside below =>
          have here := forall₂_iff (fun entry member => each entry (List.mem_append_left _ member)) inside
          have later := HoldsTree.iff_children (fun entry member => each entry (List.mem_append_right _ member)) below
          rw [List.forall_mem_append, ← here, ← later]
          exact ⟨fun ⟨inside, below⟩ => ⟨inside, below⟩, fun ⟨inside, below⟩ => .mk inside below⟩

theorem HoldsTree.iff_children {held reads : Entry → Element → Prop} {given : Entry → Prop} :
    ∀ {groups : List Group} {elements : List Element},
      (∀ entry ∈ groups.flatMap entriesIn, ∀ read, held entry read → (reads entry read ↔ given entry)) →
        List.Forall₂ (HoldsTree held) groups elements →
          (List.Forall₂ (HoldsTree reads) groups elements ↔ ∀ entry ∈ groups.flatMap entriesIn, given entry)
  | [], _, _, trees => by
      cases trees
      simp
  | child :: rest, _, each, trees => by
      rw [List.flatMap_cons] at each ⊢
      cases trees with
      | cons here later =>
          rw [List.forall₂_cons, List.forall_mem_append,
            HoldsTree.iff (fun entry member => each entry (List.mem_append_left _ member)) here,
            HoldsTree.iff_children (fun entry member => each entry (List.mem_append_right _ member)) later]
end

section Groups

variable {xml : XmlLibrary} {readText : String → Option String} {kept : Element → Prop} {binaries : List InnerBinary}
  {version : KdbxVersion}

theorem groupToXml_name {group : Group} {source : Element}
    (made : groupToXml xml binaries version group = .ok source) : source.name = "Group" := by
  obtain ⟨fields, entries, children⟩ := group
  obtain ⟨_, _, made⟩ := Fallible.bind_ok.mp made
  obtain ⟨_, _, made⟩ := Fallible.bind_ok.mp made
  obtain ⟨_, rfl, _⟩ := finishScope_named made
  rfl

mutual
theorem groupToXml_holds : ∀ {group : Group} {source read : Element},
    groupToXml xml binaries version group = .ok source → FoundAs readText kept protectXmlGroup source read →
      HoldsTree (HoldsEntry xml readText kept binaries version) group read
  | ⟨fields, entries, children⟩, source, read, made, found => by
      obtain ⟨entryElements, madeEntries, made⟩ := Fallible.bind_ok.mp made
      obtain ⟨childElements, madeChildren, made⟩ := Fallible.bind_ok.mp made
      obtain ⟨all, rfl, same⟩ := finishScope_named made
      have entryPairs := Fallible.mapM_ok.mp madeEntries
      have entryNames : ∀ c ∈ entryElements, c.name = "Entry" := by
        intro c member
        obtain ⟨entry, _, done⟩ := Fallible.source_of_mem entryPairs member
        exact entryToXml_name done
      have childNames : ∀ c ∈ childElements, c.name = "Group" := by
        intro c member
        obtain ⟨child, _, done⟩ := Fallible.source_of_mem (childrenToXml_pairs madeChildren) member
        exact groupToXml_name done
      obtain ⟨entryNamed, childNamed⟩ := groupMembers_named entryNames childNames same
      have members := fun label => found_named protectGroupMember (fun _ _ _ _ => protectGroupMember_name) found.groupMembers label
      have foundEntries := members "Entry"
      have foundChildren := members "Group"
      rw [entryNamed] at foundEntries
      rw [childNamed] at foundChildren
      refine .mk (forall₂_through entryPairs foundEntries ?_) (childrenToXml_holds madeChildren foundChildren)
      rintro entry _ e r written ⟨before, masked, after, done, reread⟩
      rw [protectGroupMember, if_pos (entryToXml_name written)] at done
      exact entryToXml_holds written ⟨before, masked, after, done, reread⟩

theorem childrenToXml_holds : ∀ {groups : List Group} {sources reads : List Element},
    childrenToXml xml binaries version groups = .ok sources →
      List.Forall₂ (FoundAs readText kept protectGroupMember) sources reads →
        List.Forall₂ (HoldsTree (HoldsEntry xml readText kept binaries version)) groups reads
  | [], _, _, made, found => by
      cases made
      cases found
      exact .nil
  | child :: rest, _, _, made, found => by
      obtain ⟨element, first, made⟩ := Fallible.bind_ok.mp made
      obtain ⟨later, tail, same⟩ := Fallible.bind_ok.mp made
      cases same
      cases found with
      | cons here behind =>
          obtain ⟨before, masked, after, done, reread⟩ := here
          have name := groupToXml_name first
          rw [protectGroupMember, if_neg (by rw [name]; decide), if_pos name] at done
          exact .cons (groupToXml_holds first ⟨before, masked, after, done, reread⟩) (childrenToXml_holds tail behind)
end

end Groups

end VaultKern.Kdbx
