import VaultKern.Kdbx.Write

/-! # What the writer makes of a scope

CustomData blocks, the recorded order and the fragments rearrange the children of a scope.
The known children of one name are still there, and in the order they were given in.
-/

namespace VaultKern.Kdbx

/-- The children of one name. -/
def named (label : String) (children : List Element) : List Element := children.filter fun c => c.name = label

theorem named_append (label : String) (first second : List Element) :
    named label (first ++ second) = named label first ++ named label second :=
  List.filter_append first second

theorem find_named (label : String) (children : List Element) :
    (children.find? fun c => c.name = label) = (named label children).head? :=
  (List.head?_filter ..).symm

theorem childOptional_named (element : Element) (label : String) :
    element.childOptional label = (named label element.elements).head? :=
  find_named label element.elements

theorem mem_named {label : String} {children : List Element} {c : Element} :
    c ∈ named label children ↔ c ∈ children ∧ c.name = label := by
  simp [named]

theorem named_of_all {label : String} {children : List Element} (all : ∀ c ∈ children, c.name = label) :
    named label children = children :=
  List.filter_eq_self.mpr fun c member => by simpa using all c member

theorem named_of_none {label : String} {children : List Element} (none : ∀ c ∈ children, c.name ≠ label) :
    named label children = [] :=
  List.filter_eq_nil_iff.mpr fun c member => by simpa using none c member

@[simp] theorem named_nil (label : String) : named label [] = [] := rfl

theorem named_map (label : String) {A : Type} {toXml : A → Element} {name : String} (own : ∀ a, (toXml a).name = name)
    (list : List A) : named label (list.map toXml) = if name = label then list.map toXml else [] := by
  split
  next same => exact named_of_all (by simp [own, same])
  next other => exact named_of_none (by simp [own, other])

theorem named_toList_map (label : String) {A : Type} {toXml : A → Element} {name : String}
    (own : ∀ a, (toXml a).name = name) (value : Option A) :
    named label (value.map toXml).toList = if name = label then (value.map toXml).toList else [] := by
  cases value with
  | none => split <;> rfl
  | some a => exact named_map label own [a]

theorem named_textFields (label : String) (fields : List (String × Option String)) :
    named label (textFields fields) = textFields (fields.filter fun field => field.1 = label) := by
  induction fields with
  | nil => rfl
  | cons field rest ih =>
      obtain ⟨name, text⟩ := field
      cases text with
      | none =>
          rw [List.filter_cons]
          split
          · exact ih
          · exact ih
      | some text =>
          rw [List.filter_cons]
          change named label (Element.ofText name text :: textFields rest) = _
          rw [named, List.filter_cons, Element.name_ofText]
          split
          · exact congrArg (Element.ofText name text :: ·) ih
          · exact ih

/-! ## CustomData blocks -/

@[simp] theorem name_customDataBlockToXml (block : CustomDataBlock) (version : KdbxVersion) :
    (customDataBlockToXml block version).name = "CustomData" := rfl

theorem filter_insertIdx {keep : Element → Bool} {child : Element} (dropped : keep child = false) :
    ∀ (index : Nat) (children : List Element), (children.insertIdx index child).filter keep = children.filter keep
  | 0, children => by simp [dropped]
  | _ + 1, [] => rfl
  | index + 1, first :: rest => by
      rw [List.insertIdx_succ_cons, List.filter_cons, List.filter_cons, filter_insertIdx dropped index rest]

theorem insertBlocks_named {label : String} (other : label ≠ "CustomData") {version : KdbxVersion} :
    ∀ {blocks : List CustomDataBlock} {minimum : Nat} {children all : List Element},
      insertBlocks version blocks minimum children = .ok all → named label all = named label children
  | [], _, _, _, inserted => by
      cases inserted
      rfl
  | block :: blocks, minimum, children, all, inserted => by
      obtain ⟨desired, _, inserted⟩ := Fallible.bind_ok.mp inserted
      split at inserted
      · cases inserted
      rw [insertBlocks_named other inserted, named, filter_insertIdx (by simpa [eq_comm] using other)]
      rfl

theorem appendCustomDataBlocks_named {label : String} (other : label ≠ "CustomData") {children all : List Element}
    {blocks : List CustomDataBlock} {merged : BTreeMap String String} {version : KdbxVersion}
    (appended : appendCustomDataBlocks children blocks merged version = .ok all) :
    named label all = named label children := by
  unfold appendCustomDataBlocks at appended
  split at appended
  · cases appended
    rfl
  split at appended
  · cases appended
    split
    · rfl
    · rw [named_append, named_of_none (show ∀ c : Element, c ∈ [_] → c.name ≠ label by
        simpa [customDataToXml] using other.symm), List.append_nil]
  split at appended
  · cases appended
  · exact insertBlocks_named other appended

/-! ## Fragments -/

section Fragments

variable {xml : XmlLibrary} {scope label : String}

theorem parseFragments_unknown : ∀ {fragments : List OpaqueXmlFragment} {parsed : List (Option OpaqueXmlAnchor × Element)},
    parseFragments xml scope fragments = .ok parsed → ∀ f ∈ parsed, knownChildNameForScope scope f.2.name = false
  | [], _, parsed, f, member => by
      cases parsed
      cases member
  | fragment :: rest, _, parsed, f, member => by
      obtain ⟨element, _, parsed⟩ := Fallible.bind_ok.mp parsed
      split at parsed
      · cases parsed
      next unknown =>
        obtain ⟨later, parsedLater, same⟩ := Fallible.bind_ok.mp parsed
        cases same
        rcases List.mem_cons.mp member with rfl | inside
        · simpa using unknown
        · exact parseFragments_unknown parsedLater f inside

theorem spliceAnchored_named : ∀ {seen : List String} {children : List Element}
    {anchored : List (Option OpaqueXmlAnchor × Element)}, (∀ f ∈ anchored, f.2.name ≠ label) →
    named label (spliceAnchored seen children anchored).1 = named label children
  | _, [], _, _ => rfl
  | seen, child :: rest, anchored, others => by
      have here : ∀ c ∈ (anchored.filter fun f => f.1 = lastAnchor (seen ++ [child.name])).map Prod.snd,
          c.name ≠ label := by
        intro c member
        obtain ⟨f, kept, rfl⟩ := List.mem_map.mp member
        exact others f (List.mem_filter.mp kept).1
      have later : named label (spliceAnchored (seen ++ [child.name]) rest
          (anchored.filter fun f => f.1 ≠ lastAnchor (seen ++ [child.name]))).1 = named label rest :=
        spliceAnchored_named fun f member => others f (List.mem_filter.mp member).1
      simp only [spliceAnchored, List.cons_append]
      rw [named, List.filter_cons, List.filter_append]
      change (if _ then child :: (named label _ ++ named label _) else named label _ ++ named label _) = _
      rw [later, named_of_none here, List.nil_append, named, named, List.filter_cons]

theorem appendOpaqueXml_named (known : knownChildNameForScope scope label = true) {children all : List Element}
    {fragments : List OpaqueXmlFragment} (appended : appendOpaqueXml xml scope children fragments = .ok all) :
    named label all = named label children := by
  obtain ⟨parsed, parsedAll, appended⟩ := Fallible.bind_ok.mp appended
  have others : ∀ f ∈ parsed, f.2.name ≠ label := by
    intro f member same
    have unknown := parseFragments_unknown parsedAll f member
    rw [same, known] at unknown
    cases unknown
  dsimp only at appended
  split at appended
  · cases appended
    rw [named_append, spliceAnchored_named fun f member => others f (List.mem_filter.mp member).1,
      named_of_none, List.nil_append]
    intro c member
    obtain ⟨f, kept, rfl⟩ := List.mem_map.mp member
    exact others f (List.mem_filter.mp kept).1
  · cases appended

end Fragments

theorem reorderKnownXmlNodes_named (children : List Element) (order : List String) (label : String) :
    named label (reorderKnownXmlNodes children order) = named label children :=
  NamedNodes.reorder_filter order children label

/-! ## The finished scope -/

/-- The known children of a finished scope, name by name, are the children it was made of. -/
theorem finishScope_named {xml : XmlLibrary} {scope : String} {children : List Element} {blocks : List CustomDataBlock}
    {merged : BTreeMap String String} {nodeOrder : List String} {opaqueXml : List OpaqueXmlFragment}
    {version : KdbxVersion} {element : Element}
    (finished : finishScope xml scope children blocks merged nodeOrder opaqueXml version = .ok element) :
    ∃ all, element = .ofElements scope all ∧
      ∀ label, knownChildNameForScope scope label = true → label ≠ "CustomData" →
        named label all = named label children := by
  obtain ⟨withBlocks, appended, finished⟩ := Fallible.bind_ok.mp finished
  obtain ⟨_, _, finished⟩ := Fallible.bind_ok.mp finished
  obtain ⟨all, spliced, same⟩ := Fallible.bind_ok.mp finished
  cases same
  refine ⟨all, rfl, fun label known other => ?_⟩
  rw [appendOpaqueXml_named known spliced, reorderKnownXmlNodes_named, appendCustomDataBlocks_named other appended]

/-! ## The children of an entry -/

section Entries

variable (entry : Entry) (binaries : List InnerBinary) (history : Option Element) (version : KdbxVersion)

@[simp] theorem name_stringFieldToXml (key : String) (field : CustomField) :
    (stringFieldToXml key field).name = "String" := rfl

@[simp] theorem name_binaryToXml (name : String) (attachment : Attachment) :
    (binaryToXml binaries name attachment).name = "Binary" := rfl

@[simp] theorem name_groupTimesToXml (times : GroupTimes) : (groupTimesToXml times).name = "Times" := rfl

@[simp] theorem name_autoTypeToXml (autoType : AutoTypeConfig) : (autoTypeToXml autoType).name = "AutoType" := rfl

/-- The children of an entry, by name. -/
theorem named_entryChildren (own : ∀ h ∈ history, h.name = "History") (label : String) :
    named label (entryChildren entry binaries history version) =
      named label (entryFields entry version)
        ++ (if "String" = label then
          (orderFields entry.rawState.stringOrder (entryStringFields entry)).map fun (key, field) =>
            stringFieldToXml key field else [])
        ++ (if "Binary" = label then
          (orderAttachments entry.rawState.binaryOrder entry.attachments).map fun (name, attachment) =>
            binaryToXml binaries name attachment else [])
        ++ (if "AutoType" = label then (entry.autoType.map autoTypeToXml).toList else [])
        ++ (if "History" = label then history.toList else []) := by
  simp only [entryChildren, named_append]
  rw [named_map label fun (pair : String × CustomField) => name_stringFieldToXml pair.1 pair.2,
    named_map label fun (pair : String × Attachment) => name_binaryToXml binaries pair.1 pair.2,
    named_toList_map label name_autoTypeToXml]
  congr 1
  cases history with
  | none => split <;> rfl
  | some h =>
      have here : h.name = "History" := own h rfl
      simp [named, List.filter_cons, here]

/-- No field of an entry has the name of a string, an attachment, an auto-type or a history. -/
theorem named_entryFields {label : String} (member : label ∈ ["String", "Binary", "AutoType", "History"]) :
    named label (entryFields entry version) = [] := by
  rw [entryFields, named_append, named_textFields]
  simp only [List.mem_cons, List.not_mem_nil, or_false] at member
  rcases member with rfl | rfl | rfl | rfl <;> rfl

end Entries

/-- No field of a group has the name of a member. -/
theorem named_groupFields {group : Group} {version : KdbxVersion} {label : String} (member : label ∈ ["Entry", "Group"]) :
    named label (groupFields group version) = [] := by
  rw [groupFields, named_append, named_append, named_textFields, named_textFields]
  simp only [List.mem_cons, List.not_mem_nil, or_false] at member
  rcases member with rfl | rfl <;> rfl

end VaultKern.Kdbx
