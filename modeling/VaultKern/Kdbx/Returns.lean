import VaultKern.Core.Detach
import VaultKern.Kdbx.Mirror

/-! # What comes back

The reader stands where the writer stood, and what it gives there is what the writer had. A
child of an entry or a group is read by itself, and the scan takes it in one step; so the scan of
a whole element goes along its children.
-/

namespace VaultKern.Kdbx

section Walks

variable {one : Masking} {elements masked : List Element} {before after : ProtectedStream}

/-- Masking leaves the children of a name alone that it does not touch. -/
theorem Masked.named {label : String} (walk : Masked one elements before masked after)
    (names : ∀ element before masked after, one element before = .ok (masked, after) → masked.name = element.name)
    (same : ∀ element before masked after, element.name = label → one element before = .ok (masked, after) →
      masked = element) : named label masked = named label elements := by
  induction walk with
  | nil => rfl
  | cons first _ ih =>
      rw [Kdbx.named, Kdbx.named, List.filter_cons, List.filter_cons, names _ _ _ _ first]
      split
      · rename_i own
        rw [same _ _ _ _ (of_decide_eq_true own) first]
        exact congrArg _ ih
      · exact ih

end Walks

/-! ## Attachments -/

/-- The binary of the inner header that holds an attachment. -/
def innerBinary (attachment : Attachment) : InnerBinary :=
  { protectInMemory := attachment.protectInMemory, data := attachment.data }

/-- The attachments of an entry are in the pool, each under its own name. -/
def Pooled (binaries : List InnerBinary) (entry : Entry) : Prop :=
  ∀ name attachment, entry.attachments[name]? = some attachment →
    attachment.name = name ∧ innerBinary attachment ∈ binaries

theorem attachmentRef_get {binaries : List InnerBinary} {attachment : Attachment}
    (pooled : innerBinary attachment ∈ binaries) :
    binaries[attachmentRef binaries attachment]? = some (innerBinary attachment) := by
  have small : binaries.idxOf (innerBinary attachment) < binaries.length := List.idxOf_lt_length_iff.mpr pooled
  change binaries[binaries.idxOf (innerBinary attachment)]? = _
  rw [List.getElem?_eq_getElem small, List.getElem_idxOf small]

/-- A reference that is read stands for the attachment it was written for. One that was written for an
    attachment outside the pool is not read. -/
theorem referredBinary_ref {binaries : List InnerBinary} {attachment found : Attachment} {name : String}
    (referred : referredBinary binaries name (toString (attachmentRef binaries attachment)) = .ok found) :
    found = { attachment with name } := by
  unfold referredBinary at referred
  rw [trimText_plain (plain_natToString _)] at referred
  cases parsed : parseUnsigned (2 ^ 64) (toString (attachmentRef binaries attachment)) with
  | none =>
      rw [parsed] at referred
      cases referred
  | some index =>
      rw [parsed, Option.bind_some, parseUnsigned_toString_some parsed] at referred
      by_cases pooled : innerBinary attachment ∈ binaries
      · rw [attachmentRef_get pooled] at referred
        cases referred
        rfl
      · have outside : binaries.length ≤ attachmentRef binaries attachment :=
          Nat.not_lt.mp fun small => pooled (List.idxOf_lt_length_iff.mp small)
        rw [List.getElem?_eq_none outside] at referred
        cases referred

/-- One more string field, under the key that the reader makes of its own. -/
def AddsField (readText : String → Option String) (pair : String × CustomField)
    (before after : BTreeMap String CustomField) : Prop :=
  ∃ given, readText pair.1 = some given ∧ after = before.insert given (readField readText pair.2)

/-- One more attachment, under the name that the reader makes of its own. -/
def AddsAttachment (readText : String → Option String) (pair : String × Attachment)
    (before after : BTreeMap String Attachment) : Prop :=
  ∃ name, readText pair.1 = some name ∧ before.contains name = false ∧
    after = before.insert name { pair.2 with name }

theorem protectXmlString_name {string masked : Element} {before after : ProtectedStream}
    (done : protectXmlString string before = .ok (masked, after)) : masked.name = string.name := by
  unfold protectXmlString at done
  split at done
  · cases done
  · split at done
    · cases done
      rfl
    · cases done
      rfl

theorem protectEntryMember_name {element masked : Element} {before after : ProtectedStream}
    (done : protectEntryMember element before = .ok (masked, after)) : masked.name = element.name := by
  unfold protectEntryMember at done
  split at done
  · exact protectXmlString_name done
  · split at done
    · obtain ⟨name, attributes, children⟩ := element
      obtain ⟨_, _, done⟩ := Fallible.bind_ok.mp done
      cases done
      rfl
    · cases done
      rfl

theorem protectXmlEntry_name {element masked : Element} {before after : ProtectedStream}
    (done : protectXmlEntry element before = .ok (masked, after)) : masked.name = element.name := by
  obtain ⟨name, attributes, children⟩ := element
  obtain ⟨_, _, done⟩ := Fallible.bind_ok.mp done
  cases done
  rfl

theorem Masked.entryNames {elements masked : List Element} {before after : ProtectedStream}
    (walk : Masked protectHistoryMember elements before masked after) (own : ∀ e ∈ elements, e.name = "Entry") :
    ∀ e ∈ masked, e.name = "Entry" := by
  induction walk with
  | nil => exact fun e member => nomatch member
  | cons first _ ih =>
      have here := own _ List.mem_cons_self
      rw [protectHistoryMember, if_pos here] at first
      have tail := ih fun e member => own e (List.mem_cons_of_mem _ member)
      exact List.forall_mem_cons.mpr ⟨(protectXmlEntry_name first).trans here, tail⟩

section Entries

variable {library : ReadLibrary} {readText : String → Option String} {kept : Element → Prop}
  (binaries : List InnerBinary) {written : List InnerBinary}

/-- What a child of an entry adds to what is read of it. `past` says what is read of a history. -/
structure EntryTakes (readText : String → Option String) (binaries : List InnerBinary)
    (past : Element → List Entry → Prop) (element : Element) (scan next : EntryScan) : Prop where
  string : ∀ pair : String × CustomField, element = stringFieldToXml pair.1 pair.2 →
    AddsField readText pair scan.rawFields next.rawFields
  noString : element.name ≠ "String" → next.rawFields = scan.rawFields
  attachment : ∀ pair : String × Attachment, element = binaryToXml binaries pair.1 pair.2 →
    AddsAttachment readText pair scan.attachments next.attachments
  noAttachment : element.name ≠ "Binary" → next.attachments = scan.attachments
  history : element.name = "History" → ∃ entries, next.history = scan.history ++ entries ∧ past element entries
  noHistory : element.name ≠ "History" → next.history = scan.history

theorem stringFieldToXml_along (back : ReadsBack library.xml readText kept) (key : String) (field : CustomField)
    (scan : EntryScan) : ReadsAlong readText kept protectEntryMember (readEntryMember library binaries scan)
      (stringFieldToXml key field) fun next => AddsField readText (key, field) scan.rawFields next.rawFields ∧
        next.attachments = scan.attachments ∧ next.history = scan.history := by
  intro before masked after read done reread
  rw [protectEntryMember, if_pos (name_stringFieldToXml key field)] at done
  have own : read.name = "String" := reread.name.trans (protectXmlString_name done)
  rw [readEntryMember, if_neg (by simp [own]), parseEntryChild_string library binaries own]
  refine (parseStringField_along back key field before masked after read done reread).bind (fun pair given => ?_)
    List.prefix_rfl
  exact .pure ⟨⟨pair.1, given.1, by rw [← given.2]; rfl⟩, rfl, rfl⟩

theorem binaryToXml_along (name : String) (attachment : Attachment) (scan : EntryScan) :
    ReadsAlong readText kept protectEntryMember (readEntryMember library binaries scan)
      (binaryToXml written name attachment) fun next =>
        (binaries = written → AddsAttachment readText (name, attachment) scan.attachments next.attachments) ∧
          next.rawFields = scan.rawFields ∧ next.history = scan.history := by
  intro before masked after read done reread
  cases done
  have own : read.name = "Binary" := reread.name
  rw [readEntryMember, if_neg (by simp [own]), binaryToXml_read binaries reread]
  refine .lift fun next added => ?_
  unfold addBinary at added
  split at added
  · cases added
  rename_i given named
  obtain ⟨found, referred, added⟩ := Fallible.bind_ok.mp added
  split at added
  · cases added
  rename_i free
  cases added
  refine ⟨fun same => ⟨given, named, (Bool.not_eq_true _).mp free, ?_⟩, rfl, rfl⟩
  rw [same] at referred
  rw [referredBinary_ref referred]
  rfl

/-- Other children than strings, attachments and the history add to none of these. -/
theorem other_along {element : Element} (string : element.name ≠ "String") (binary : element.name ≠ "Binary")
    (history : element.name ≠ "History") (scan : EntryScan) :
    ReadsAlong readText kept protectEntryMember (readEntryMember library binaries scan) element fun next =>
      next.rawFields = scan.rawFields ∧ next.attachments = scan.attachments ∧ next.history = scan.history := by
  intro before masked after read done reread
  rw [protectEntryMember, if_neg string, if_neg history] at done
  cases done
  obtain ⟨result, same, keeps⟩ := parseEntryChild_other library binaries
    (show read.name ≠ "String" by rwa [reread.name]) (by rwa [reread.name]) scan
  rw [readEntryMember, if_neg (by rwa [reread.name]), same]
  exact .lift keeps

/-- The entries of a history child, one for each snapshot. -/
theorem history_along {snapshots : List Element} {holds : Element → Entry → Prop}
    (each : ∀ e ∈ snapshots, e.name = "Entry" ∧
      ReadsAlong readText kept protectXmlEntry (parseEntry library binaries) e (holds e)) (scan : EntryScan) :
    ReadsAlong readText kept protectEntryMember (readEntryMember library binaries scan) (.ofElements "History" snapshots)
      fun next => next.rawFields = scan.rawFields ∧ next.attachments = scan.attachments ∧
        ∃ entries, next.history = scan.history ++ entries ∧ List.Forall₂ holds snapshots entries := by
  intro before masked after read done reread
  rw [protectEntryMember, if_neg (by simp), if_pos (by simp)] at done
  obtain ⟨⟨nodes, middle⟩, walked, done⟩ := Fallible.bind_ok.mp done
  cases done
  obtain ⟨elements, rfl, walk⟩ := protectHistoryChildren_loop.masked walked
  have pairs := reread.elements
  rw [show (Element.mk "History" ∅ (elements.map .element)).elements = elements from
    Element.elements_ofElements "History" elements] at pairs
  have entries : ∀ e ∈ read.elements, e.name = "Entry" := by
    intro e member
    obtain ⟨source, inside, pair⟩ := Fallible.source_of_mem pairs member
    rw [pair.name]
    exact walk.entryNames (fun e inside => (each e inside).1) source inside
  have name : read.name = "History" := reread.name
  rw [readEntryMember, if_pos name]
  refine Follows.bind (show Follows before after _ (List.Forall₂ holds snapshots) from ?_)
    (fun loaded held => .pure ⟨rfl, rfl, loaded, rfl, held⟩) List.prefix_rfl
  rw [parseHistory_map]
  change Follows before after ((named "Entry" read.elements).mapM _) _
  rw [named_of_all entries]
  refine walk.map pairs fun e member b m a r masked reread => ?_
  rw [protectHistoryMember, if_pos (each e member).1] at masked
  exact (each e member).2 b m a r masked reread

theorem readEntryMember_along (back : ReadsBack library.xml readText kept) {past : Element → List Entry → Prop}
    {element : Element}
    (string : element.name = "String" → ∃ pair : String × CustomField, element = stringFieldToXml pair.1 pair.2)
    (binary : element.name = "Binary" → ∃ pair : String × Attachment, element = binaryToXml written pair.1 pair.2)
    (history : element.name = "History" → ∀ scan, ReadsAlong readText kept protectEntryMember
      (readEntryMember library binaries scan) element fun next => next.rawFields = scan.rawFields ∧
        next.attachments = scan.attachments ∧ ∃ entries, next.history = scan.history ++ entries ∧ past element entries)
    (scan : EntryScan) : ReadsAlong readText kept protectEntryMember (readEntryMember library binaries scan) element
      fun next => binaries = written → EntryTakes readText written past element scan next := by
  have apart : ∀ {label : String}, element.name = label → ∀ {other : String}, label ≠ other → element.name ≠ other :=
    fun own _ different same => different (own.symm.trans same)
  by_cases isString : element.name = "String"
  · have adds : ∀ pair : String × CustomField, element = stringFieldToXml pair.1 pair.2 →
        ReadsAlong readText kept protectEntryMember (readEntryMember library binaries scan) element fun next =>
          AddsField readText pair scan.rawFields next.rawFields ∧ next.attachments = scan.attachments ∧
            next.history = scan.history := by
      rintro pair rfl
      exact stringFieldToXml_along binaries back pair.1 pair.2 scan
    obtain ⟨pair, same⟩ := string isString
    refine ((adds pair same).all adds).weaken fun next each _ => ?_
    have here := each pair same
    refine ⟨fun pair same => (each pair same).1, absurd isString, ?_, fun _ => here.2.1,
      fun is => absurd is (apart isString (by decide)), fun _ => here.2.2⟩
    rintro pair rfl
    exact absurd isString (by simp)
  by_cases isBinary : element.name = "Binary"
  · have adds : ∀ pair : String × Attachment, element = binaryToXml written pair.1 pair.2 →
        ReadsAlong readText kept protectEntryMember (readEntryMember library binaries scan) element fun next =>
          (binaries = written → AddsAttachment readText pair scan.attachments next.attachments) ∧
            next.rawFields = scan.rawFields ∧ next.history = scan.history := by
      rintro pair rfl
      exact binaryToXml_along binaries pair.1 pair.2 scan
    obtain ⟨pair, same⟩ := binary isBinary
    refine ((adds pair same).all adds).weaken fun next each own => ?_
    have here := each pair same
    refine ⟨?_, fun _ => here.2.1, fun pair same => (each pair same).1 own, absurd isBinary,
      fun is => absurd is (apart isBinary (by decide)), fun _ => here.2.2⟩
    rintro pair rfl
    exact absurd rfl isString
  have noString : ∀ pair : String × CustomField, element ≠ stringFieldToXml pair.1 pair.2 := by
    rintro pair rfl
    exact isString rfl
  have noBinary : ∀ pair : String × Attachment, element ≠ binaryToXml written pair.1 pair.2 := by
    rintro pair rfl
    exact isBinary rfl
  by_cases isHistory : element.name = "History"
  · refine (history isHistory scan).weaken fun next ⟨fields, attachments, past⟩ _ => ?_
    exact ⟨fun pair same => absurd same (noString pair), fun _ => fields, fun pair same => absurd same (noBinary pair),
      fun _ => attachments, fun _ => past, absurd isHistory⟩
  · refine (other_along binaries isString isBinary isHistory scan).weaken fun next ⟨fields, attachments, same⟩ _ => ?_
    exact ⟨fun pair same => absurd same (noString pair), fun _ => fields, fun pair same => absurd same (noBinary pair),
      fun _ => attachments, fun is => absurd is isHistory, fun _ => same⟩

/-- What the children of one name add, in their order. -/
theorem Along.ofName {S A V : Type} {takes : Element → S → S → Prop} {adds : A → V → V → Prop} {view : S → V}
    {label : String} {toXml : A → Element}
    (adding : ∀ a scan next, takes (toXml a) scan next → adds a (view scan) (view next))
    (keeping : ∀ element scan next, element.name ≠ label → takes element scan next → view next = view scan)
    {elements : List Element} {scan result : S} (along : Along takes elements scan result) {list : List A}
    (same : named label elements = list.map toXml) : Along adds list (view scan) (view result) := by
  induction along generalizing list with
  | nil =>
      cases list with
      | nil => exact .nil _
      | cons => cases same
  | @cons element rest scan middle result first _ ih =>
      rw [named, List.filter_cons] at same
      by_cases own : element.name = label
      · rw [if_pos (by simpa using own)] at same
        cases list with
        | nil => cases same
        | cons a list =>
            obtain ⟨rfl, later⟩ := List.cons.inj same
            exact .cons (adding a scan middle first) (ih later)
      · rw [if_neg (by simpa using own)] at same
        rw [← keeping element scan middle own first]
        exact ih same

variable {binaries} in
/-- The string fields that the children of an entry add, in their order. -/
theorem EntryTakes.fields {past : Element → List Entry → Prop} {elements : List Element} {scan result : EntryScan}
    (along : Along (EntryTakes readText binaries past) elements scan result) {pairs : List (String × CustomField)}
    (same : named "String" elements = pairs.map fun (key, field) => stringFieldToXml key field) :
    Along (AddsField readText) pairs scan.rawFields result.rawFields :=
  Along.ofName (fun pair _ _ takes => takes.string pair rfl) (fun _ _ _ other takes => takes.noString other)
    along same

variable {binaries} in
/-- The attachments that the children of an entry add, in their order. -/
theorem EntryTakes.attachments {past : Element → List Entry → Prop} {elements : List Element} {scan result : EntryScan}
    (along : Along (EntryTakes readText binaries past) elements scan result) {pairs : List (String × Attachment)}
    (same : named "Binary" elements = pairs.map fun (name, attachment) => binaryToXml binaries name attachment) :
    Along (AddsAttachment readText) pairs scan.attachments result.attachments :=
  Along.ofName (fun pair _ _ takes => takes.attachment pair rfl)
    (fun _ _ _ other takes => takes.noAttachment other) along same

/-- The history of an entry with one history child, and of one with none. -/
theorem EntryTakes.pastEntries {past : Element → List Entry → Prop} {elements : List Element} {scan result : EntryScan}
    (along : Along (EntryTakes readText binaries past) elements scan result) :
    (named "History" elements = [] → result.history = scan.history) ∧
      ∀ element, named "History" elements = [element] →
        ∃ entries, result.history = scan.history ++ entries ∧ past element entries := by
  induction along with
  | nil => exact ⟨fun _ => rfl, fun _ same => absurd same (List.cons_ne_nil _ _).symm⟩
  | @cons element rest scan middle result first _ ih =>
      rw [named, List.filter_cons]
      by_cases isHistory : element.name = "History"
      · rw [if_pos (by simpa using isHistory)]
        refine ⟨fun same => absurd same (List.cons_ne_nil _ _), fun other same => ?_⟩
        obtain ⟨rfl, none⟩ := List.cons.inj same
        obtain ⟨entries, added, here⟩ := first.history isHistory
        exact ⟨entries, by rw [ih.1 none, added], here⟩
      · rw [if_neg (by simpa using isHistory), ← first.noHistory isHistory]
        exact ih

end Entries

/-! ## The string fields of an entry -/

theorem mem_orderFields {order : List String} {fields : BTreeMap String CustomField} {key : String} {field : CustomField} :
    (key, field) ∈ orderFields order fields ↔ fields[key]? = some field := by
  induction order generalizing fields with
  | nil => exact Std.ExtTreeMap.mem_toList_iff_getElem?_eq_some
  | cons first rest ih =>
      rw [orderFields]
      cases held : fields[first]? with
      | none => exact ih
      | some placed =>
          simp only [List.mem_cons, ih, BTreeMap.erase_lookup, Prod.mk.injEq]
          by_cases same : first = key
          · subst same
            simp [held, eq_comm]
          · simp [same, Ne.symm same]

theorem orderFields_nodup (order : List String) (fields : BTreeMap String CustomField) :
    ((orderFields order fields).map Prod.fst).Nodup := by
  induction order generalizing fields with
  | nil =>
      rw [orderFields, Std.ExtTreeMap.map_fst_toList_eq_keys]
      exact Std.ExtTreeMap.nodup_keys
  | cons first rest ih =>
      rw [orderFields]
      cases held : fields[first]? with
      | none => exact ih fields
      | some placed =>
          refine List.nodup_cons.mpr ⟨fun member => ?_, ih _⟩
          obtain ⟨⟨key, field⟩, inside, rfl⟩ := List.mem_map.mp member
          have gone := mem_orderFields.mp inside
          simp at gone

/-- The string fields of an entry in the order they are written in. -/
def writtenFields (entry : Entry) : List (String × CustomField) :=
  orderFields entry.rawState.stringOrder (entryStringFields entry)

/-- The fields that are read of those that were written. -/
def readFields (readText : String → Option String) (fields : List (String × CustomField)) : BTreeMap String CustomField :=
  BTreeMap.lastWins (fields.map fun (key, field) => ((readText key).getD "", readField readText field))

theorem AddsField.run {readText : String → Option String} {pairs : List (String × CustomField)}
    {before after : BTreeMap String CustomField} (along : Along (AddsField readText) pairs before after) :
    (∀ pair ∈ pairs, (readText pair.1).isSome) ∧
      after = (pairs.map fun (key, field) => ((readText key).getD "", readField readText field)).foldl
        (fun fields field => fields.insert field.1 field.2) before := by
  induction along with
  | nil => exact ⟨by simp, rfl⟩
  | @cons pair rest before middle after first _ ih =>
      obtain ⟨given, read, rfl⟩ := first
      obtain ⟨keys, rfl⟩ := ih
      refine ⟨List.forall_mem_cons.mpr ⟨by rw [read]; rfl, keys⟩, ?_⟩
      rw [List.map_cons, List.foldl_cons]
      dsimp only
      rw [read]
      rfl

/-- A protected field is read as it was, where the keys are read as they were written. -/
theorem readFields_protected {readText : String → Option String} {entry : Entry}
    (given : ∀ key ∈ entryStringFields entry, readText key = some key) {key : String} {field : CustomField}
    (held : (entryStringFields entry)[key]? = some field) (isProtected : field.isProtected = true) :
    (readFields readText (writtenFields entry))[key]? = some field := by
  have keys : ((writtenFields entry).map fun (key, field) => ((readText key).getD "", readField readText field)) =
      (writtenFields entry).map fun (key, field) => (key, readField readText field) := by
    apply List.map_congr_left
    rintro ⟨key, field⟩ member
    have stored := given key ((BTreeMap.mem_iff_lookup _ _).mpr ⟨field, mem_orderFields.mp member⟩)
    dsimp only
    rw [stored]
    rfl
  unfold readFields
  rw [keys]
  apply BTreeMap.lastWins_of_mem
  · rw [List.map_map]
    exact orderFields_nodup _ _
  · have own : readField readText field = field := if_pos isProtected
    exact List.mem_map.mpr ⟨(key, field), mem_orderFields.mpr held, by dsimp only; rw [own]⟩

/-- The fields that no standard one stands for. -/
def customFields (rawFields : BTreeMap String CustomField) : BTreeMap String CustomField :=
  rawFields.filter fun key _ => key ∉ standardFieldNames

def fieldValue (rawFields : BTreeMap String CustomField) (name : String) : String :=
  (rawFields[name]?.map (·.value)).getD ""

/-- The entry has what the fields say. -/
structure Shows (rawFields : BTreeMap String CustomField) (entry : Entry) : Prop where
  title : entry.title = fieldValue rawFields "Title"
  username : entry.username = fieldValue rawFields "UserName"
  password : entry.password = fieldValue rawFields "Password"
  url : entry.url = fieldValue rawFields "URL"
  notes : entry.notes = fieldValue rawFields "Notes"
  totp : entry.totp = totpFromPersistentAttributes (customFields rawFields)
  passkey : entry.passkey = PasskeyRecord.fromAttributes (customFields rawFields)
  attributes : entry.attributes =
    remainingAttributes (customFields rawFields) entry.totp.isSome entry.passkey.isSome

/-- The string fields of an entry as they are loaded again. -/
structure FieldsReturned (readText : String → Option String) (saved loaded : Entry) : Prop where
  keys : ∀ key ∈ entryStringFields saved, (readText key).isSome
  shown : Shows (readFields readText (writtenFields saved)) loaded
  kept : (∀ key ∈ entryStringFields saved, readText key = some key) →
    ∀ (key : String) (field : CustomField), (entryStringFields saved)[key]? = some field →
      field.isProtected = true → (readFields readText (writtenFields saved))[key]? = some field

/-! ## Entries -/

/-- The attachments of an entry as they are loaded again: each under the name that the reader makes
    of its own. -/
structure Returned (readText : String → Option String) (saved loaded : BTreeMap String Attachment) : Prop where
  kept : ∀ name attachment, saved[name]? = some attachment →
    ∃ given, readText name = some given ∧ loaded[given]? = some { attachment with name := given }
  known : ∀ given attachment, loaded[given]? = some attachment →
    ∃ name old, saved[name]? = some old ∧ readText name = some given ∧ attachment = { old with name := given }
  apart : ∀ first second, first ∈ saved → second ∈ saved → readText first = readText second → first = second

theorem AddsAttachment.run {readText : String → Option String} {pairs : List (String × Attachment)}
    {before after : BTreeMap String Attachment} (along : Along (AddsAttachment readText) pairs before after) :
    (∀ (given : String) (attachment : Attachment), before[given]? = some attachment → after[given]? = some attachment) ∧
      (∀ pair ∈ pairs, ∃ given, readText pair.1 = some given ∧ before[given]? = none ∧
        after[given]? = some { pair.2 with name := given }) ∧
      (∀ (given : String) (attachment : Attachment), after[given]? = some attachment →
        before[given]? = some attachment ∨
        ∃ pair ∈ pairs, readText pair.1 = some given ∧ attachment = { pair.2 with name := given }) ∧
      (pairs.map fun pair => readText pair.1).Nodup := by
  induction along with
  | nil => exact ⟨fun _ _ same => same, by simp, fun _ _ same => .inl same, List.nodup_nil⟩
  | @cons pair rest before middle after first _ ih =>
      obtain ⟨given, read, free, rfl⟩ := first
      obtain ⟨grows, added, source, apart⟩ := ih
      have absent : before[given]? = none := by
        rw [← BTreeMap.not_mem_iff_lookup, ← Std.ExtTreeMap.contains_iff_mem, free]
        decide
      have here : after[given]? = some { pair.2 with name := given } := by
        apply grows
        rw [BTreeMap.insert_lookup, if_pos rfl]
      have others : ∀ (other : String) (attachment : Attachment),
          before[other]? = some attachment → after[other]? = some attachment := by
        intro other attachment held
        apply grows
        rw [BTreeMap.insert_lookup, if_neg, held]
        rintro rfl
        rw [absent] at held
        cases held
      refine ⟨others, ?_, ?_, ?_⟩
      · intro other member
        rcases List.mem_cons.mp member with rfl | member
        · exact ⟨given, read, absent, here⟩
        · obtain ⟨name, named, missing, held⟩ := added other member
          rw [BTreeMap.insert_lookup] at missing
          split at missing
          · cases missing
          · exact ⟨name, named, missing, held⟩
      · intro other attachment held
        rcases source other attachment held with old | ⟨pair', member, named, same⟩
        · rw [BTreeMap.insert_lookup] at old
          split at old
          · rename_i same
            subst same
            exact .inr ⟨pair, List.mem_cons_self, read, (Option.some.inj old).symm⟩
          · exact .inl old
        · exact .inr ⟨pair', List.mem_cons_of_mem _ member, named, same⟩
      · rw [List.map_cons, List.nodup_cons]
        refine ⟨fun member => ?_, apart⟩
        obtain ⟨other, member, same⟩ := List.mem_map.mp member
        obtain ⟨name, named, missing, _⟩ := added other member
        rw [same, read] at named
        obtain rfl := Option.some.inj named
        rw [BTreeMap.insert_lookup, if_pos rfl] at missing
        cases missing

theorem mem_orderAttachments {order : List String} {attachments : BTreeMap String Attachment} {name : String}
    {attachment : Attachment} :
    (name, attachment) ∈ orderAttachments order attachments ↔ attachments[name]? = some attachment := by
  unfold orderAttachments
  rw [List.mem_append, List.mem_filterMap, List.mem_filter, Std.ExtTreeMap.mem_toList_iff_getElem?_eq_some]
  constructor
  · rintro (⟨other, _, placed⟩ | ⟨held, _⟩)
    · obtain ⟨found, held, same⟩ := Option.map_eq_some_iff.mp placed
      cases same
      exact held
    · exact held
  · intro held
    by_cases placed : name ∈ order
    · exact .inl ⟨name, placed, by rw [held]; rfl⟩
    · exact .inr ⟨held, by simpa using placed⟩

/-- What is read of the attachments in the order they were written in. -/
theorem returned_of_along {readText : String → Option String} {order : List String}
    {saved loaded : BTreeMap String Attachment}
    (along : Along (AddsAttachment readText) (orderAttachments order saved) ∅ loaded) : Returned readText saved loaded := by
  obtain ⟨_, added, source, apart⟩ := AddsAttachment.run along
  refine ⟨fun name attachment held => ?_, fun given attachment held => ?_, fun first second inFirst inSecond same => ?_⟩
  · obtain ⟨given, read, _, here⟩ := added _ (mem_orderAttachments.mpr held)
    exact ⟨given, read, here⟩
  · rcases source given attachment held with none | ⟨⟨name, old⟩, member, read, same⟩
    · simp at none
    · exact ⟨name, old, mem_orderAttachments.mp member, read, same⟩
  · obtain ⟨a, heldFirst⟩ := (BTreeMap.mem_iff_lookup saved first).mp inFirst
    obtain ⟨b, heldSecond⟩ := (BTreeMap.mem_iff_lookup saved second).mp inSecond
    have pair := List.inj_on_of_nodup_map apart (mem_orderAttachments.mpr heldFirst) (mem_orderAttachments.mpr heldSecond)
      same
    exact (Prod.mk.inj pair).1

/-- Names that are read as they are written keep their attachments. -/
theorem Returned.same {readText : String → Option String} {saved loaded : BTreeMap String Attachment}
    (returned : Returned readText saved loaded)
    (own : ∀ (name : String) (attachment : Attachment), saved[name]? = some attachment → attachment.name = name)
    (given : ∀ name ∈ saved, readText name = some name) : loaded = saved := by
  apply Std.ExtTreeMap.ext_getElem?
  intro name
  cases held : saved[name]? with
  | some attachment =>
      obtain ⟨name', read, here⟩ := returned.kept name attachment held
      rw [given name ((BTreeMap.mem_iff_lookup saved name).mpr ⟨attachment, held⟩)] at read
      obtain rfl := Option.some.inj read
      obtain rfl := own name attachment held
      exact here
  | none =>
      cases found : loaded[name]? with
      | none => rfl
      | some attachment =>
          obtain ⟨name', old, held', read, _⟩ := returned.known name attachment found
          rw [given name' ((BTreeMap.mem_iff_lookup saved name').mpr ⟨old, held'⟩)] at read
          obtain rfl := Option.some.inj read
          rw [held] at held'
          cases held'

/-- An entry as it is loaded again, but for its history. -/
structure EntryReturned (readText : String → Option String) (saved loaded : Entry) : Prop where
  id : loaded.id = saved.id
  fields : FieldsReturned readText saved loaded
  attachments : Returned readText saved.attachments loaded.attachments

theorem finishEntry_ok {library : ReadLibrary} {element : Element} {head : EntryHead} {scan : EntryScan} {entry : Entry}
    (finished : finishEntry library element head scan = .ok entry) :
    entry.id = head.id ∧ Shows scan.rawFields entry ∧ entry.attachments = scan.attachments ∧
      entry.history = scan.history := by
  obtain ⟨⟨customData, nodes⟩, _, same⟩ := Fallible.bind_ok.mp finished
  cases same
  exact ⟨rfl, ⟨rfl, rfl, rfl, rfl, rfl, rfl, rfl, rfl⟩, rfl, rfl⟩

theorem parseEntryHead_id {library : ReadLibrary} {element : Element} {head : EntryHead}
    (parsed : parseEntryHead library element = .ok head) :
    ∃ text, childText element "UUID" = some text ∧ decodeUuid text = .ok head.id := by
  obtain ⟨text, required, parsed⟩ := Fallible.bind_ok.mp parsed
  obtain ⟨id, decoded, parsed⟩ := Fallible.bind_ok.mp parsed
  obtain ⟨_, _, parsed⟩ := Fallible.bind_ok.mp parsed
  obtain ⟨_, _, same⟩ := Fallible.bind_ok.mp parsed
  cases same
  exact ⟨text, requiredText_ok.mp required, decoded⟩

/-- The id of an element that holds its text is read back. -/
theorem uuid_read {xml : XmlLibrary} {readText : String → Option String} {kept : Element → Prop}
    (back : ReadsBack xml readText kept) {element read : Element} (reread : Reread readText kept element read)
    {id id' : Uuid} {text : String} (held : element.childOptional "UUID" = some (.ofText "UUID" (encodeUuid id)))
    (found : childText read "UUID" = some text) (decoded : decodeUuid text = .ok id') : id' = id := by
  rw [childText_read reread held] at found
  have same := back.plain (plain_encodeUuid id)
  rw [found, Option.getD_some] at same
  rw [same, decodeUuid_encodeUuid] at decoded
  exact (Except.ok.inj decoded).symm

section Entries

variable {library : ReadLibrary} {readText : String → Option String} {kept : Element → Prop}
  (back : ReadsBack library.xml readText kept) (binaries : List InnerBinary) {written : List InnerBinary}

include back in
/-- An entry that is read back, from what is read of its history child. -/
theorem finished_along {entry : Entry} {history : Option Element} {version : KdbxVersion} {element : Element}
    {past : Element → List Entry → Prop} (own : ∀ h ∈ history, h.name = "History")
    (inner : ∀ h ∈ history, ∀ scan, ReadsAlong readText kept protectEntryMember
      (readEntryMember library binaries scan) h fun next => next.rawFields = scan.rawFields ∧
        next.attachments = scan.attachments ∧ ∃ entries, next.history = scan.history ++ entries ∧ past h entries)
    (finished : entryWithHistoryToXml library.xml entry written history version = .ok element) :
    element.name = "Entry" ∧ ReadsAlong readText kept protectXmlEntry (parseEntry library binaries) element fun loaded =>
      binaries = written → EntryReturned readText entry loaded ∧ (history = none → loaded.history = []) ∧
        ∀ h, history = some h → past h loaded.history := by
  obtain ⟨all, rfl, same⟩ := finishScope_named finished
  refine ⟨rfl, fun before masked after read done reread => ?_⟩
  obtain ⟨⟨nodes, middle⟩, walked, done⟩ := Fallible.bind_ok.mp done
  cases done
  obtain ⟨elements, rfl, walk⟩ := protectEntryChildren_loop.masked walked
  have pairs := reread.elements
  rw [show (Element.mk "Entry" ∅ (elements.map .element)).elements = elements from
    Element.elements_ofElements "Entry" elements] at pairs
  have binaryChild : named "Binary" all =
      (orderAttachments entry.rawState.binaryOrder entry.attachments).map fun (name, attachment) =>
        binaryToXml written name attachment := by
    rw [same "Binary" (by decide) (by decide), named_entryChildren entry written history version own,
      named_entryFields entry version (by simp)]
    simp
  have stringChild : named "String" all =
      (writtenFields entry).map fun (key, field) => stringFieldToXml key field := by
    rw [same "String" (by decide) (by decide), named_entryChildren entry written history version own,
      named_entryFields entry version (by simp)]
    simp [writtenFields]
  have historyChild : named "History" all = history.toList := by
    rw [same "History" (by decide) (by decide), named_entryChildren entry written history version own,
      named_entryFields entry version (by simp)]
    simp
  have uuidChild : (Element.ofElements "Entry" elements).childOptional "UUID" =
      some (.ofText "UUID" (encodeUuid entry.id)) := by
    rw [childOptional_named, Element.elements_ofElements,
      walk.named (fun _ _ _ _ => protectEntryMember_name) fun c _ _ _ isUuid masked => ?_,
      same "UUID" (by decide) (by decide), named_entryChildren entry written history version own]
    · rw [entryFields, named_append, named_textFields]
      rfl
    · rw [protectEntryMember, if_neg (by rw [isUuid]; decide), if_neg (by rw [isUuid]; decide)] at masked
      cases masked
      rfl
  have loop : Follows before after (read.elements.foldlM (readEntryMember library binaries) {})
      (Along (fun c scan next => binaries = written → EntryTakes readText written past c scan next) all {}) := by
    refine walk.fold pairs (fun c member => readEntryMember_along binaries back ?_ ?_ ?_) {}
    · intro isString
      have inside := mem_named.mpr ⟨member, isString⟩
      rw [stringChild] at inside
      obtain ⟨pair, _, rfl⟩ := List.mem_map.mp inside
      exact ⟨pair, rfl⟩
    · intro isBinary
      have inside := mem_named.mpr ⟨member, isBinary⟩
      rw [binaryChild] at inside
      obtain ⟨pair, _, rfl⟩ := List.mem_map.mp inside
      exact ⟨pair, rfl⟩
    · intro isHistory
      have inside := mem_named.mpr ⟨member, isHistory⟩
      rw [historyChild] at inside
      exact inner c (Option.mem_toList.mp inside)
  rw [parseEntry_eq]
  refine .check loop.grows fun head headRead => loop.bind (fun scan takes => .lift fun loaded finish pool => ?_)
    List.prefix_rfl
  have along := takes.mono fun _ _ _ here => here pool
  obtain ⟨id, shown, attachments, loadedHistory⟩ := finishEntry_ok finish
  obtain ⟨text, found, decoded⟩ := parseEntryHead_id headRead
  obtain ⟨none, one⟩ := EntryTakes.pastEntries written along
  have returned : Returned readText entry.attachments loaded.attachments := by
    rw [attachments]
    exact returned_of_along (EntryTakes.attachments along binaryChild)
  have fields : FieldsReturned readText entry loaded := by
    obtain ⟨keys, read⟩ := AddsField.run (EntryTakes.fields along stringChild)
    refine ⟨fun key held => ?_, ?_, fun given _ _ => readFields_protected given⟩
    · obtain ⟨field, held⟩ := (BTreeMap.mem_iff_lookup _ _).mp held
      exact keys (key, field) (mem_orderFields.mpr held)
    · rw [read] at shown
      exact shown
  refine ⟨⟨id.trans (uuid_read back reread uuidChild found decoded), fields, returned⟩, ?_, ?_⟩
  · rintro rfl
    rw [loadedHistory, none historyChild]
  · rintro h rfl
    obtain ⟨entries, added, here⟩ := one h historyChild
    rw [loadedHistory, added]
    exact here

/-- An entry with its history as they are loaded again. -/
def EntryBack (readText : String → Option String) (saved loaded : Entry) : Prop :=
  EntryReturned readText saved loaded ∧ List.Forall₂ (EntryReturned readText) saved.history loaded.history

theorem forall₂_through {A B C : Type} {R : A → B → Prop} {S : B → C → Prop} {T : A → C → Prop} {first : List A}
    {middle : List B} {last : List C} (start : List.Forall₂ R first middle) (rest : List.Forall₂ S middle last)
    (both : ∀ a ∈ first, ∀ b c, R a b → S b c → T a c) : List.Forall₂ T first last := by
  induction start generalizing last with
  | nil =>
      cases rest
      exact .nil
  | cons here _ ih =>
      cases rest with
      | cons there later =>
          exact .cons (both _ List.mem_cons_self _ _ here there)
            (ih later fun a member => both a (List.mem_cons_of_mem _ member))

/-- What is read of the element of a snapshot. -/
def SnapshotBack (xml : XmlLibrary) (readText : String → Option String) (binaries written : List InnerBinary)
    (version : KdbxVersion) (element : Element) (loaded : Entry) : Prop :=
  ∀ old, entryWithHistoryToXml xml old written none version = .ok element →
    binaries = written → EntryReturned readText old loaded

include back in
theorem entryToXml_along {entry : Entry} {version : KdbxVersion} {element : Element}
    (finished : entryToXml library.xml entry written true version = .ok element) :
    element.name = "Entry" ∧ ReadsAlong readText kept protectXmlEntry (parseEntry library binaries) element fun loaded =>
      binaries = written → EntryBack readText entry loaded := by
  unfold entryToXml at finished
  by_cases emits : shouldEmitHistory entry true = true
  · rw [if_pos emits] at finished
    obtain ⟨snapshots, mapped, finished⟩ := Fallible.bind_ok.mp finished
    have snapshot := fun e old made =>
      @finished_along library readText kept back binaries written old none version e (fun _ _ => True) (by simp) (by simp) made
    have inner : ∀ e ∈ snapshots, e.name = "Entry" ∧
        ReadsAlong readText kept protectXmlEntry (parseEntry library binaries) e
          (SnapshotBack library.xml readText binaries written version e) := by
      intro e member
      obtain ⟨old, _, made⟩ := Fallible.source_of_mem (Fallible.mapM_ok.mp mapped) member
      obtain ⟨name, along⟩ := snapshot e old made
      exact ⟨name, (along.all fun old made => (snapshot e old made).2).weaken
        fun loaded each old made pool => (each old made pool).1⟩
    obtain ⟨name, along⟩ := @finished_along library readText kept back binaries written entry _ version element
      (fun _ => List.Forall₂ (SnapshotBack library.xml readText binaries written version) snapshots) (by simp)
      (fun h member => by
        cases member
        exact history_along binaries inner) finished
    refine ⟨name, along.weaken fun loaded holds pool => ?_⟩
    obtain ⟨here, _, past⟩ := holds pool
    refine ⟨here, forall₂_through (Fallible.mapM_ok.mp mapped) (past _ rfl) ?_⟩
    exact fun old member e item made holds => holds old made pool
  · rw [if_neg emits] at finished
    have empty : entry.history = [] := by
      unfold shouldEmitHistory at emits
      simp at emits
      exact emits.1.1
    obtain ⟨name, along⟩ := @finished_along library readText kept back binaries written entry none version element
      (fun _ _ => True) (by simp) (by simp) finished
    refine ⟨name, along.weaken fun loaded holds pool => ?_⟩
    obtain ⟨here, none, _⟩ := holds pool
    refine ⟨here, ?_⟩
    rw [empty, none rfl]
    exact .nil

end Entries

/-! ## Groups -/

/-- Trees of one shape whose groups and entries are related. -/
inductive TreeRelated (group : Group → Group → Prop) (entry : Entry → Entry → Prop) : Group → Group → Prop where
  | mk {saved loaded : Group} (here : group saved loaded) (entries : List.Forall₂ entry saved.entries loaded.entries)
      (children : List.Forall₂ (TreeRelated group entry) saved.children loaded.children) :
      TreeRelated group entry saved loaded

/-- A tree as it is loaded again: its groups and entries in their places, with their string fields and their
    attachments. -/
def TreeBack (readText : String → Option String) : Group → Group → Prop :=
  TreeRelated (fun saved loaded => loaded.id = saved.id) (EntryBack readText)

theorem finishGroup_ok {element : Element} {head : GroupFields} {scan : GroupScan} {group : Group}
    (finished : finishGroup element head scan = .ok group) :
    group.id = head.id ∧ group.entries = scan.entries ∧ group.children = scan.children := by
  obtain ⟨nodes, _, same⟩ := Fallible.bind_ok.mp finished
  cases same
  exact ⟨rfl, rfl, rfl⟩

theorem parseGroupHead_id {library : ReadLibrary} {element : Element} {head : GroupFields}
    (parsed : parseGroupHead library element = .ok head) :
    ∃ text, childText element "UUID" = some text ∧ decodeUuid text = .ok head.id := by
  obtain ⟨text, required, parsed⟩ := Fallible.bind_ok.mp parsed
  obtain ⟨id, decoded, parsed⟩ := Fallible.bind_ok.mp parsed
  obtain ⟨_, _, parsed⟩ := Fallible.bind_ok.mp parsed
  obtain ⟨_, _, parsed⟩ := Fallible.bind_ok.mp parsed
  obtain ⟨_, _, same⟩ := Fallible.bind_ok.mp parsed
  cases same
  exact ⟨text, requiredText_ok.mp required, decoded⟩

theorem protectXmlGroup_name {element masked : Element} {before after : ProtectedStream}
    (done : protectXmlGroup element before = .ok (masked, after)) : masked.name = element.name := by
  obtain ⟨name, attributes, children⟩ := element
  obtain ⟨_, _, done⟩ := Fallible.bind_ok.mp done
  cases done
  rfl

theorem protectGroupMember_name {element masked : Element} {before after : ProtectedStream}
    (done : protectGroupMember element before = .ok (masked, after)) : masked.name = element.name := by
  unfold protectGroupMember at done
  split at done
  · exact protectXmlEntry_name done
  · split at done
    · exact protectXmlGroup_name done
    · cases done
      rfl

theorem childrenToXml_pairs {xml : XmlLibrary} {binaries : List InnerBinary} {version : KdbxVersion} :
    ∀ {groups : List Group} {elements : List Element},
    childrenToXml xml binaries version groups = .ok elements →
      List.Forall₂ (fun group element => groupToXml xml binaries version group = .ok element) groups elements
  | [], _, made => by
      cases made
      exact .nil
  | child :: rest, _, made => by
      obtain ⟨element, first, made⟩ := Fallible.bind_ok.mp made
      obtain ⟨later, tail, same⟩ := Fallible.bind_ok.mp made
      cases same
      exact .cons first (childrenToXml_pairs tail)

section Groups

variable {library : ReadLibrary} {readText : String → Option String} {kept : Element → Prop} (binaries : List InnerBinary)
  {written : List InnerBinary}

/-- What a child of a group adds to what is read of it. -/
structure GroupTakes (entryHolds : Element → Entry → Prop) (groupHolds : Element → Group → Prop) (element : Element)
    (scan next : GroupScan) : Prop where
  entry : element.name = "Entry" → ∃ entry, next.entries = scan.entries ++ [entry] ∧ entryHolds element entry
  noEntry : element.name ≠ "Entry" → next.entries = scan.entries
  group : element.name = "Group" → ∃ group, next.children = scan.children ++ [group] ∧ groupHolds element group
  noGroup : element.name ≠ "Group" → next.children = scan.children

theorem readGroupMember_along {entryHolds : Element → Entry → Prop} {groupHolds : Element → Group → Prop}
    {element : Element}
    (entry : element.name = "Entry" →
      ReadsAlong readText kept protectXmlEntry (parseEntry library binaries) element (entryHolds element))
    (group : element.name = "Group" →
      ReadsAlong readText kept protectXmlGroup (parseGroup library binaries) element (groupHolds element))
    (scan : GroupScan) : ReadsAlong readText kept protectGroupMember (readGroupMember library binaries scan) element
      (GroupTakes entryHolds groupHolds element scan) := by
  intro before masked after read done reread
  have name : read.name = element.name := reread.name.trans (protectGroupMember_name done)
  by_cases isGroup : element.name = "Group"
  · have notEntry : element.name ≠ "Entry" := by rw [isGroup]; decide
    rw [protectGroupMember, if_neg notEntry, if_pos isGroup] at done
    rw [readGroupMember, if_pos (by rwa [name])]
    refine (group isGroup before masked after read done reread).bind (fun child holds => .pure ?_) List.prefix_rfl
    exact ⟨fun is => absurd is notEntry, fun _ => rfl, fun _ => ⟨child, rfl, holds⟩, fun not => absurd isGroup not⟩
  by_cases isEntry : element.name = "Entry"
  · rw [protectGroupMember, if_pos isEntry] at done
    rw [readGroupMember, if_neg (by rwa [name]), if_pos (by rwa [name])]
    refine (entry isEntry before masked after read done reread).bind (fun found holds => .pure ?_) List.prefix_rfl
    exact ⟨fun _ => ⟨found, rfl, holds⟩, fun not => absurd isEntry not, fun is => absurd is isGroup, fun _ => rfl⟩
  · rw [protectGroupMember, if_neg isEntry, if_neg isGroup] at done
    cases done
    rw [readGroupMember, if_neg (by rwa [name]), if_neg (by rwa [name])]
    refine .lift fun next taken => ?_
    have same : next.entries = scan.entries ∧ next.children = scan.children := by
      unfold parseGroupChild at taken
      split at taken
      · cases taken
        exact ⟨rfl, rfl⟩
      · obtain ⟨text, _, same⟩ := Fallible.bind_ok.mp taken
        cases same
        exact ⟨rfl, rfl⟩
    exact ⟨fun is => absurd is isEntry, fun _ => same.1, fun is => absurd is isGroup, fun _ => same.2⟩

/-- What the members of one name add, in their order. -/
theorem Along.collected {S A : Type} {takes : Element → S → S → Prop} {view : S → List A} {label : String}
    {holds : Element → A → Prop}
    (adding : ∀ element scan next, element.name = label → takes element scan next →
      ∃ a, view next = view scan ++ [a] ∧ holds element a)
    (keeping : ∀ element scan next, element.name ≠ label → takes element scan next → view next = view scan)
    {elements : List Element} {scan result : S} (along : Along takes elements scan result) :
    ∃ list, view result = view scan ++ list ∧ List.Forall₂ holds (named label elements) list := by
  induction along with
  | nil => exact ⟨[], by simp, .nil⟩
  | @cons element rest scan middle result first _ ih =>
      obtain ⟨later, added, held⟩ := ih
      rw [named, List.filter_cons]
      by_cases own : element.name = label
      · rw [if_pos (by simpa using own)]
        obtain ⟨a, here, holds⟩ := adding element scan middle own first
        exact ⟨a :: later, by rw [added, here]; simp, .cons holds held⟩
      · rw [if_neg (by simpa using own), ← keeping element scan middle own first]
        exact ⟨later, added, held⟩

/-- The members of a finished group, by name. -/
theorem groupMembers_named {group : Group} {version : KdbxVersion} {entryElements childElements all : List Element}
    (entries : ∀ c ∈ entryElements, c.name = "Entry") (children : ∀ c ∈ childElements, c.name = "Group")
    (same : ∀ label, knownChildNameForScope "Group" label = true → label ≠ "CustomData" →
      named label all = named label (groupFields group version ++ entryElements ++ childElements)) :
    named "Entry" all = entryElements ∧ named "Group" all = childElements := by
  constructor
  · rw [same "Entry" (by decide) (by decide), named_append, named_append, named_groupFields (by simp), List.nil_append,
      named_of_all entries, named_of_none fun c member => by rw [children c member]; decide, List.append_nil]
  · rw [same "Group" (by decide) (by decide), named_append, named_append, named_groupFields (by simp), List.nil_append,
      named_of_none fun c member => by rw [entries c member]; decide, List.nil_append, named_of_all children]

/-- A group that is read back, from what is read of its members. -/
theorem group_along (back : ReadsBack library.xml readText kept) {group : Group} {version : KdbxVersion}
    {entryElements childElements all : List Element} {entryHolds : Element → Entry → Prop}
    {groupHolds : Element → Group → Prop}
    (entries : ∀ c ∈ entryElements, c.name = "Entry" ∧
      ReadsAlong readText kept protectXmlEntry (parseEntry library binaries) c (entryHolds c))
    (children : ∀ c ∈ childElements, c.name = "Group" ∧
      ReadsAlong readText kept protectXmlGroup (parseGroup library binaries) c (groupHolds c))
    (same : ∀ label, knownChildNameForScope "Group" label = true → label ≠ "CustomData" →
      named label all = named label (groupFields group version ++ entryElements ++ childElements)) :
    ReadsAlong readText kept protectXmlGroup (parseGroup library binaries) (.ofElements "Group" all) fun loaded =>
      loaded.id = group.id ∧ List.Forall₂ entryHolds entryElements loaded.entries ∧
        List.Forall₂ groupHolds childElements loaded.children := by
  obtain ⟨entryNamed, childNamed⟩ :=
    groupMembers_named (fun c member => (entries c member).1) (fun c member => (children c member).1) same
  intro before masked after read done reread
  obtain ⟨⟨nodes, middle⟩, walked, done⟩ := Fallible.bind_ok.mp done
  cases done
  obtain ⟨elements, rfl, walk⟩ := protectGroupChildren_loop.masked walked
  have pairs := reread.elements
  rw [show (Element.mk "Group" ∅ (elements.map .element)).elements = elements from
    Element.elements_ofElements "Group" elements] at pairs
  have uuidChild : (Element.ofElements "Group" elements).childOptional "UUID" =
      some (.ofText "UUID" (encodeUuid group.id)) := by
    rw [childOptional_named, Element.elements_ofElements,
      walk.named (fun _ _ _ _ => protectGroupMember_name) fun c _ _ _ isUuid masked => ?_,
      same "UUID" (by decide) (by decide)]
    · rw [groupFields, named_append, named_append, named_append, named_append, named_textFields]
      rfl
    · rw [protectGroupMember, if_neg (by rw [isUuid]; decide), if_neg (by rw [isUuid]; decide)] at masked
      cases masked
      rfl
  have loop : Follows before after (read.elements.foldlM (readGroupMember library binaries) {})
      (Along (GroupTakes entryHolds groupHolds) all {}) := by
    refine walk.fold pairs (fun c member => readGroupMember_along binaries ?_ ?_) {}
    · exact fun isEntry => (entries c (entryNamed ▸ mem_named.mpr ⟨member, isEntry⟩)).2
    · exact fun isGroup => (children c (childNamed ▸ mem_named.mpr ⟨member, isGroup⟩)).2
  rw [parseGroup_eq]
  refine .check loop.grows fun head headRead => loop.bind (fun scan along => .lift fun loaded finish => ?_) List.prefix_rfl
  obtain ⟨id, loadedEntries, loadedChildren⟩ := finishGroup_ok finish
  obtain ⟨text, found, decoded⟩ := parseGroupHead_id headRead
  obtain ⟨foundEntries, addedEntries, entriesHold⟩ :=
    Along.collected (fun _ _ _ own takes => takes.entry own) (fun _ _ _ other takes => takes.noEntry other) along
  obtain ⟨foundChildren, addedChildren, childrenHold⟩ :=
    Along.collected (fun _ _ _ own takes => takes.group own) (fun _ _ _ other takes => takes.noGroup other) along
  rw [entryNamed] at entriesHold
  rw [childNamed] at childrenHold
  refine ⟨id.trans (uuid_read back reread uuidChild found decoded), ?_, ?_⟩
  · rw [loadedEntries, addedEntries]
    exact entriesHold
  · rw [loadedChildren, addedChildren]
    exact childrenHold

mutual
theorem groupToXml_along (back : ReadsBack library.xml readText kept) {version : KdbxVersion} :
    ∀ {group : Group} {element : Element}, groupToXml library.xml written version group = .ok element →
      element.name = "Group" ∧ ReadsAlong readText kept protectXmlGroup (parseGroup library binaries) element fun loaded =>
        binaries = written → TreeBack readText group loaded
  | ⟨fields, entries, children⟩, element, finished => by
      obtain ⟨entryElements, madeEntries, finished⟩ := Fallible.bind_ok.mp finished
      obtain ⟨childElements, madeChildren, finished⟩ := Fallible.bind_ok.mp finished
      obtain ⟨all, rfl, same⟩ := finishScope_named finished
      have entryPairs := Fallible.mapM_ok.mp madeEntries
      have childPairs := childrenToXml_pairs madeChildren
      have childAlong := @childrenToXml_along back version children
      have own : ∀ c ∈ entryElements, c.name = "Entry" ∧
          ReadsAlong readText kept protectXmlEntry (parseEntry library binaries) c fun loaded =>
            ∀ entry, entryToXml library.xml entry written true version = .ok c →
              binaries = written → EntryBack readText entry loaded := by
        intro c member
        obtain ⟨entry, _, made⟩ := Fallible.source_of_mem entryPairs member
        obtain ⟨name, along⟩ := entryToXml_along back binaries made
        exact ⟨name, along.all fun entry made => (entryToXml_along back binaries made).2⟩
      have below : ∀ c ∈ childElements, c.name = "Group" ∧
          ReadsAlong readText kept protectXmlGroup (parseGroup library binaries) c fun loaded =>
            ∀ child, child ∈ children ∧ groupToXml library.xml written version child = .ok c →
              binaries = written → TreeBack readText child loaded := by
        intro c member
        obtain ⟨child, inside, made⟩ := Fallible.source_of_mem childPairs member
        obtain ⟨name, along⟩ := childAlong child inside c made
        exact ⟨name, along.all fun child (made : _ ∧ _) => (childAlong child made.1 c made.2).2⟩
      refine ⟨rfl, (group_along binaries back own below same).weaken fun loaded ⟨id, found, foundBelow⟩ pool => ?_⟩
      refine ⟨id, forall₂_through entryPairs found ?_, forall₂_through childPairs foundBelow ?_⟩
      · exact fun entry _ c found made holds => holds entry made pool
      · exact fun child member c found made holds => holds child ⟨member, made⟩ pool

theorem childrenToXml_along (back : ReadsBack library.xml readText kept) {version : KdbxVersion} :
    ∀ {groups : List Group}, ∀ child ∈ groups, ∀ element,
      groupToXml library.xml written version child = .ok element →
        element.name = "Group" ∧ ReadsAlong readText kept protectXmlGroup (parseGroup library binaries) element fun loaded =>
          binaries = written → TreeBack readText child loaded
  | [], child, member, _, _ => nomatch member
  | first :: rest, child, member, element, written => by
      rcases List.mem_cons.mp member with same | inside
      · rw [same] at written ⊢
        exact groupToXml_along back written
      · exact childrenToXml_along back child inside element written
end

end Groups

end VaultKern.Kdbx
