import VaultKern.Kdbx.Read
import VaultKern.Kdbx.Scope

/-! # The loops over the children

The loops of the writer and of the reader see the child elements one by one, and nothing
of what stands between them.
-/

namespace VaultKern.Kdbx

/-! ## Going over children -/

/-- What the writer does to one element. -/
abbrev Masking := Element → ProtectedStream → Except KdbxError (Element × ProtectedStream)

/-- The writer goes over a list of elements. -/
inductive Masked (one : Masking) : List Element → ProtectedStream → List Element → ProtectedStream → Prop where
  | nil (stream : ProtectedStream) : Masked one [] stream [] stream
  | cons {element masked : Element} {rest later : List Element} {before middle after : ProtectedStream}
      (first : one element before = .ok (masked, middle)) (tail : Masked one rest middle later after) :
      Masked one (element :: rest) before (masked :: later) after

/-! ## The writer's walk -/

/-- `protect_xml_entry` for one `History` child. -/
def protectXmlHistory : Masking
  | ⟨name, attributes, children⟩, stream => do
      let (children, stream) ← protectHistoryChildren children stream
      .ok (⟨name, attributes, children⟩, stream)

def protectEntryMember (child : Element) (stream : ProtectedStream) : Except KdbxError (Element × ProtectedStream) :=
  if child.name = "String" then protectXmlString child stream
  else if child.name = "History" then protectXmlHistory child stream
  else .ok (child, stream)

def protectGroupMember (child : Element) (stream : ProtectedStream) : Except KdbxError (Element × ProtectedStream) :=
  if child.name = "Entry" then protectXmlEntry child stream
  else if child.name = "Group" then protectXmlGroup child stream
  else .ok (child, stream)

def protectHistoryMember (child : Element) (stream : ProtectedStream) : Except KdbxError (Element × ProtectedStream) :=
  if child.name = "Entry" then protectXmlEntry child stream else .ok (child, stream)

/-- The writer's loop over the children of an element does `one` to each child element. -/
def LoopOf (one : Masking)
    (loop : List (XMLNode Element) → ProtectedStream → Except KdbxError (List (XMLNode Element) × ProtectedStream)) :
    Prop :=
  (∀ stream, loop [] stream = .ok ([], stream)) ∧
    ∀ child rest stream, loop (.element child :: rest) stream = do
      let (child, stream) ← one child stream
      let (rest, stream) ← loop rest stream
      .ok (.element child :: rest, stream)

theorem LoopOf.masked {one : Masking}
    {loop : List (XMLNode Element) → ProtectedStream → Except KdbxError (List (XMLNode Element) × ProtectedStream)}
    (same : LoopOf one loop) : ∀ {elements : List Element} {nodes : List (XMLNode Element)}
    {before after : ProtectedStream}, loop (elements.map .element) before = .ok (nodes, after) →
      ∃ masked, nodes = masked.map .element ∧ Masked one elements before masked after
  | [], _, before, _, done => by
      rw [List.map_nil, same.1] at done
      cases done
      exact ⟨[], rfl, .nil before⟩
  | child :: rest, _, _, _, done => by
      rw [List.map_cons, same.2] at done
      obtain ⟨⟨child, middle⟩, first, done⟩ := Fallible.bind_ok.mp done
      obtain ⟨⟨later, _⟩, tail, done⟩ := Fallible.bind_ok.mp done
      cases done
      obtain ⟨masked, rfl, walk⟩ := LoopOf.masked same tail
      exact ⟨child :: masked, rfl, .cons first walk⟩

theorem protectEntryChildren_loop : LoopOf protectEntryMember protectEntryChildren := by
  refine ⟨fun _ => rfl, fun child rest stream => ?_⟩
  obtain ⟨name, attributes, children⟩ := child
  by_cases string : name = "String"
  · simp [protectEntryChildren, protectEntryMember, string]
  by_cases history : name = "History"
  · simp [protectEntryChildren, protectEntryMember, protectXmlHistory, history]
  · simp [protectEntryChildren, protectEntryMember, string, history]

theorem protectHistoryChildren_loop : LoopOf protectHistoryMember protectHistoryChildren := by
  refine ⟨fun _ => rfl, fun child rest stream => ?_⟩
  by_cases entry : child.name = "Entry"
  · simp [protectHistoryChildren, protectHistoryMember, entry]
  · simp [protectHistoryChildren, protectHistoryMember, entry]

theorem protectGroupChildren_loop : LoopOf protectGroupMember protectGroupChildren := by
  refine ⟨fun _ => rfl, fun child rest stream => ?_⟩
  by_cases entry : child.name = "Entry"
  · simp [protectGroupChildren, protectGroupMember, entry]
  by_cases group : child.name = "Group"
  · simp [protectGroupChildren, protectGroupMember, group]
  · simp [protectGroupChildren, protectGroupMember, entry, group]

/-! ## The reader's walk -/

section Reader

variable (library : ReadLibrary) (binaries : List InnerBinary)

def readEntryMember (scan : EntryScan) (child : Element) : Reading EntryScan :=
  if child.name = "History" then do
    let entries ← parseHistory library binaries child.children
    return ({ scan with history := scan.history ++ entries } : EntryScan).note child.name
  else parseEntryChild library binaries child scan

def readGroupMember (scan : GroupScan) (child : Element) : Reading GroupScan :=
  if child.name = "Group" then do
    let group ← parseGroup library binaries child
    return ({ scan with children := scan.children ++ [group] } : GroupScan).note child.name
  else if child.name = "Entry" then do
    let entry ← parseEntry library binaries child
    return ({ scan with entries := scan.entries ++ [entry] } : GroupScan).note child.name
  else Attempt.lift (parseGroupChild library child scan)

theorem parseEntryChild_string {child : Element} (own : child.name = "String") (scan : EntryScan) :
    parseEntryChild library binaries child scan = (do
      let (key, field) ← parseStringField child
      return ({ scan with
        stringOrder := scan.stringOrder ++ [key]
        rawFields := scan.rawFields.insert key field } : EntryScan).note "String") := by
  simp only [parseEntryChild, own]

theorem parseEntryChild_binary {child : Element} (own : child.name = "Binary") (scan : EntryScan) :
    parseEntryChild library binaries child scan = (do
      let name ← Attempt.lift (requiredText child "Key")
      let value ← Attempt.lift (Kdbx.child child "Value")
      let attachment ← parseBinary library binaries name value
      if scan.attachments.contains name then Attempt.fail .invalidValue
      else
        return ({ scan with
          binaryOrder := scan.binaryOrder ++ [name]
          attachments := scan.attachments.insert name attachment } : EntryScan).note "Binary") := by
  simp only [parseEntryChild, own]

/-- Other children use nothing of the stream, and add to none of these. -/
theorem parseEntryChild_other {child : Element} (string : child.name ≠ "String") (binary : child.name ≠ "Binary")
    (scan : EntryScan) : ∃ result, parseEntryChild library binaries child scan = Attempt.lift result ∧
      ∀ next, result = .ok next →
        next.rawFields = scan.rawFields ∧ next.attachments = scan.attachments ∧ next.history = scan.history := by
  unfold parseEntryChild
  split
  · contradiction
  · contradiction
  · exact ⟨.ok _, rfl, fun next same => by cases same; exact ⟨rfl, rfl, rfl⟩⟩
  · refine ⟨_, rfl, fun next same => ?_⟩
    split at same
    · cases same
      exact ⟨rfl, rfl, rfl⟩
    · obtain ⟨text, _, same⟩ := Fallible.bind_ok.mp same
      cases same
      exact ⟨rfl, rfl, rfl⟩

theorem parseEntryChildren_fold : ∀ (nodes : List (XMLNode Element)) (scan : EntryScan),
    parseEntryChildren library binaries nodes scan =
      (nodes.filterMap XMLNode.asElement).foldlM (readEntryMember library binaries) scan
  | [], scan => rfl
  | .element ⟨name, attributes, children⟩ :: rest, scan => by
      have later := parseEntryChildren_fold rest
      by_cases history : name = "History"
      · simp [parseEntryChildren, readEntryMember, XMLNode.asElement, history, later]
      · simp [parseEntryChildren, readEntryMember, XMLNode.asElement, history, later]
  | .text _ :: rest, scan => parseEntryChildren_fold rest scan
  | .cData _ :: rest, scan => parseEntryChildren_fold rest scan
  | .comment _ :: rest, scan => parseEntryChildren_fold rest scan
  | .processingInstruction _ _ :: rest, scan => parseEntryChildren_fold rest scan

theorem parseHistory_map : ∀ nodes : List (XMLNode Element),
    parseHistory library binaries nodes =
      (named "Entry" (nodes.filterMap XMLNode.asElement)).mapM (parseEntry library binaries)
  | [] => rfl
  | .element child :: rest => by
      have later := parseHistory_map rest
      by_cases entry : child.name = "Entry"
      · simp [parseHistory, XMLNode.asElement, named, entry, later]
      · simp [parseHistory, XMLNode.asElement, named, entry, later]
  | .text _ :: rest => parseHistory_map rest
  | .cData _ :: rest => parseHistory_map rest
  | .comment _ :: rest => parseHistory_map rest
  | .processingInstruction _ _ :: rest => parseHistory_map rest

theorem parseGroupChildren_fold : ∀ (nodes : List (XMLNode Element)) (scan : GroupScan),
    parseGroupChildren library binaries nodes scan =
      (nodes.filterMap XMLNode.asElement).foldlM (readGroupMember library binaries) scan
  | [], scan => rfl
  | .element child :: rest, scan => by
      have later := parseGroupChildren_fold rest
      by_cases group : child.name = "Group"
      · simp [parseGroupChildren, readGroupMember, XMLNode.asElement, group, later]
      by_cases entry : child.name = "Entry"
      · simp [parseGroupChildren, readGroupMember, XMLNode.asElement, entry, later]
      · simp [parseGroupChildren, readGroupMember, XMLNode.asElement, group, entry, later]
  | .text _ :: rest, scan => parseGroupChildren_fold rest scan
  | .cData _ :: rest, scan => parseGroupChildren_fold rest scan
  | .comment _ :: rest, scan => parseGroupChildren_fold rest scan
  | .processingInstruction _ _ :: rest, scan => parseGroupChildren_fold rest scan

theorem parseEntry_eq (element : Element) :
    parseEntry library binaries element = (do
      let head ← Attempt.lift (parseEntryHead library element)
      let scan ← element.elements.foldlM (readEntryMember library binaries) {}
      Attempt.lift (finishEntry library element head scan)) := by
  obtain ⟨name, attributes, children⟩ := element
  rw [parseEntry, parseEntryChildren_fold]
  rfl

theorem parseGroup_eq (element : Element) :
    parseGroup library binaries element = (do
      let head ← Attempt.lift (parseGroupHead library element)
      let scan ← element.elements.foldlM (readGroupMember library binaries) {}
      Attempt.lift (finishGroup element head scan)) := by
  obtain ⟨name, attributes, children⟩ := element
  rw [parseGroup, parseGroupChildren_fold]
  rfl

end Reader

end VaultKern.Kdbx
