import VaultKern.Kdbx.Walk
import VaultKern.Lib.Utf8

/-! # The reader follows the writer along the stream

The writer goes over the finished tree and masks; the reader goes down the tree it has read
and unmasks. A reader's stream mirrors the writer's when both stand at the same place and
the reader has undone every use the writer made. Each part of the walk keeps the mirror, so
the whole walk does.
-/

namespace VaultKern.Kdbx

/-- The use that undoes this one. -/
def StreamUse.reversed (use : StreamUse) : StreamUse :=
  { offset := use.offset, input := use.output, output := use.input }

/-- The reader has undone what the writer did, and both go on from the same place. -/
structure ProtectedStream.Mirrors (written read : ProtectedStream) : Prop where
  keystream : read.keystream = written.keystream
  position : read.position = written.position
  uses : read.uses = written.uses.map StreamUse.reversed

/-- While the writer goes from one stream to the other, the reader undoes its uses one by one.
    A failing reader has undone the first of them, and `holds` what the other ones give. -/
structure Follows {A : Type} (before after : ProtectedStream) (reading : Reading A) (holds : A → Prop) : Prop where
  grows : before.uses <+: after.uses
  undone : ∀ read, before.Mirrors read → (reading read).2.uses <+: after.uses.map StreamUse.reversed
  mirrors : ∀ read a, before.Mirrors read → (reading read).1 = .ok a → after.Mirrors (reading read).2 ∧ holds a

namespace Follows

variable {A B : Type} {before middle after stream : ProtectedStream} {holds : A → Prop}

theorem lift {value : Except KdbxError A} (gives : ∀ a, value = .ok a → holds a) :
    Follows stream stream (Attempt.lift value) holds where
  grows := List.prefix_rfl
  undone := by
    intro read mirrors
    have same : ((Attempt.lift value : Reading A) read).2 = read := Attempt.ReadOnly.lift value read
    simpa only [same, mirrors.uses] using List.prefix_rfl
  mirrors := by
    intro read a mirrors done
    rw [Attempt.ReadOnly.lift value read]
    refine ⟨mirrors, gives a ?_⟩
    cases value <;> exact done

theorem pure {a : A} (here : holds a) : Follows stream stream (pure a : Reading A) holds :=
  @lift A stream holds (.ok a) fun _ same => Except.ok.inj same ▸ here

theorem weaken {holds' : A → Prop} {reading : Reading A} (follows : Follows before after reading holds)
    (weaker : ∀ a, holds a → holds' a) : Follows before after reading holds' where
  grows := follows.grows
  undone := follows.undone
  mirrors read a mirrors done := (follows.mirrors read a mirrors done).imp_right (weaker a)

theorem bind {first : Reading A} {next : A → Reading B} {holds' : B → Prop} (start : Follows before middle first holds)
    (rest : ∀ a, holds a → Follows middle after (next a) holds') (later : middle.uses <+: after.uses) :
    Follows before after (first >>= next) holds' where
  grows := start.grows.trans later
  undone := by
    intro read mirrors
    have undone := start.undone read mirrors
    have kept := start.mirrors read
    rw [Attempt.bind_run]
    cases run : first read with
    | mk result mid =>
        rw [run] at undone kept
        cases result with
        | error e => exact undone.trans (later.map _)
        | ok a =>
            obtain ⟨mirrors', here⟩ := kept a mirrors rfl
            exact (rest a here).undone mid mirrors'
  mirrors := by
    intro read b mirrors done
    have kept := start.mirrors read
    rw [Attempt.bind_run] at done ⊢
    cases run : first read with
    | mk result mid =>
        rw [run] at kept done
        cases result with
        | error e => cases done
        | ok a =>
            obtain ⟨mirrors', here⟩ := kept a mirrors rfl
            exact (rest a here).mirrors mid b mirrors' done

/-- A check before the first use may settle what is used. -/
theorem check {value : Except KdbxError B} {next : B → Reading A} (grows : before.uses <+: after.uses)
    (rest : ∀ b, value = .ok b → Follows before after (next b) holds) :
    Follows before after (Attempt.lift value >>= next) holds :=
  (lift fun _ same => same).bind rest grows

/-- Unmasking what was masked at the same place. -/
theorem unmask (plain : List UInt8) :
    Follows stream (stream.apply plain).2 (unmask (stream.apply plain).1) (· = plain) where
  grows := List.prefix_append _ _
  undone := by
    intro read mirrors
    have same : read.mask = stream.mask := by
      funext bytes
      simp only [ProtectedStream.mask, mirrors.keystream, mirrors.position]
    change read.uses ++ [_] <+: List.map _ (stream.uses ++ [_])
    rw [List.map_append, mirrors.uses, same]
    simp [StreamUse.reversed, ProtectedStream.apply, ProtectedStream.mask_mask, mirrors.position]
  mirrors := by
    intro read a mirrors done
    have same : read.mask = stream.mask := by
      funext bytes
      simp only [ProtectedStream.mask, mirrors.keystream, mirrors.position]
    refine ⟨⟨mirrors.keystream, ?_, ?_⟩, ?_⟩
    · change read.position + (stream.mask plain).length = stream.position + plain.length
      rw [ProtectedStream.mask_length, mirrors.position]
    · change read.uses ++ [_] = List.map _ (stream.uses ++ [_])
      rw [List.map_append, mirrors.uses, same]
      simp [StreamUse.reversed, ProtectedStream.apply, ProtectedStream.mask_mask, mirrors.position]
    · have given : read.mask (stream.mask plain) = a := Except.ok.inj done
      rw [← given, same, ProtectedStream.mask_mask]

end Follows

section Walks

variable (readText : String → Option String) (kept : Element → Prop)

/-- Reading the element back follows masking it, and `holds` what it gives. -/
def ReadsAlong {A : Type} (one : Masking) (reading : Element → Reading A) (element : Element) (holds : A → Prop) : Prop :=
  ∀ before masked after read, one element before = .ok (masked, after) → Reread readText kept masked read →
    Follows before after (reading read) holds

variable {readText kept} {one : Masking} {elements masked reads : List Element} {before after : ProtectedStream}

theorem ReadsAlong.weaken {A : Type} {reading : Element → Reading A} {element : Element} {holds holds' : A → Prop}
    (along : ReadsAlong readText kept one reading element holds) (weaker : ∀ a, holds a → holds' a) :
    ReadsAlong readText kept one reading element holds' :=
  fun before masked after read done reread => (along before masked after read done reread).weaken weaker

theorem ReadsAlong.all {A I : Type} {reading : Element → Reading A} {element : Element} {some : A → Prop} {p : I → Prop}
    {holds : I → A → Prop} (along : ReadsAlong readText kept one reading element some)
    (each : ∀ i, p i → ReadsAlong readText kept one reading element (holds i)) :
    ReadsAlong readText kept one reading element fun a => ∀ i, p i → holds i a := by
  intro before masked after read done reread
  have follows := along before masked after read done reread
  refine ⟨follows.grows, follows.undone, fun stream a mirrors given => ?_⟩
  refine ⟨(follows.mirrors stream a mirrors given).1, fun i member => ?_⟩
  exact ((each i member before masked after read done reread).mirrors stream a mirrors given).2

theorem Masked.fold {S : Type} {step : S → Element → Reading S} {takes : Element → S → S → Prop}
    (walk : Masked one elements before masked after) (pairs : List.Forall₂ (Reread readText kept) masked reads)
    (each : ∀ element ∈ elements, ∀ scan, ReadsAlong readText kept one (step scan) element (takes element scan)) (scan : S) :
    Follows before after (reads.foldlM step scan) (Along takes elements scan) := by
  induction walk generalizing reads scan with
  | nil stream =>
      cases pairs
      exact .pure (.nil scan)
  | cons first tail ih =>
      cases pairs with
      | cons pair later =>
          have rest := fun next => ih later (fun e member => each e (List.mem_cons_of_mem _ member)) next
          refine (each _ List.mem_cons_self scan _ _ _ _ first pair).bind (fun next here => ?_) (rest scan).grows
          exact (rest next).weaken fun _ along => .cons here along

theorem Masked.map {A : Type} {reading : Element → Reading A} {holds : Element → A → Prop}
    (walk : Masked one elements before masked after) (pairs : List.Forall₂ (Reread readText kept) masked reads)
    (each : ∀ element ∈ elements, ReadsAlong readText kept one reading element (holds element)) :
    Follows before after (reads.mapM reading) (List.Forall₂ holds elements) := by
  induction walk generalizing reads with
  | nil stream =>
      cases pairs
      exact .pure .nil
  | cons first tail ih =>
      cases pairs with
      | cons pair later =>
          have rest := ih later fun e member => each e (List.mem_cons_of_mem _ member)
          rw [List.mapM_cons]
          refine (each _ List.mem_cons_self _ _ _ _ first pair).bind (fun a here => ?_) rest.grows
          exact rest.bind (fun list held => .pure (.cons here held)) List.prefix_rfl

end Walks

/-! ## One string field -/

/-- The library reads back what it wrote. `readText` is what it makes of a text, and the
    elements it once read are `kept`. -/
structure ReadsBack (xml : XmlLibrary) (readText : String → Option String) (kept : Element → Prop) : Prop where
  reread : ∀ {element bytes}, xml.write element = .ok bytes →
    [0xEF, 0xBB, 0xBF].isPrefixOf bytes = false ∧
      ∃ read, xml.parse bytes = .ok read ∧ Reread readText kept element read
  plain : ∀ {text}, Plain text → (readText text).getD "" = text

def isXmlBlank (text : String) : Bool := text.toList.all fun c => c ∈ [' ', '\t', '\r', '\n']

/-- A library that knows one document and sees no text of white space only reads the document back. -/
theorem ReadsBack.ofOne {document : Element} {bytes : List UInt8}
    (noBom : [0xEF, 0xBB, 0xBF].isPrefixOf bytes = false) :
    ReadsBack (XmlLibrary.ofOne isXmlBlank document bytes) (textWithout isXmlBlank)
      fun e => e.without isXmlBlank = e where
  reread := by
    intro element given wrote
    obtain ⟨rfl, parsed⟩ := XmlLibrary.ofOne_write isXmlBlank wrote
    exact ⟨noBom, element.without isXmlBlank, parsed, element.without_reread isXmlBlank⟩
  plain := by
    intro text plain
    unfold textWithout
    split
    · rename_i blank
      have none : text.toList = [] := by
        rw [List.eq_nil_iff_forall_not_mem]
        intro c member
        have white := List.all_eq_true.mp blank c member
        have dark := (plain c member).not_whitespace
        simp only [List.mem_cons, List.not_mem_nil, or_false, decide_eq_true_eq] at white
        rcases white with rfl | rfl | rfl | rfl <;> exact absurd dark (by decide)
      exact (String.toList_eq_nil_iff.mp none).symm
    · rfl

theorem stringFieldToXml_value (key : String) (field : CustomField) :
    (stringFieldToXml key field).childOptional "Value" =
      some ⟨"Value", if field.isProtected then (∅ : BTreeMap String String).insert "Protected" "True" else ∅,
        [.text field.value]⟩ := by
  rw [stringFieldToXml, Element.childOptional_ofElements]
  simp

/-- The masked field is the field with the text of its masked bytes for a value. -/
theorem protectXmlString_field (key : String) (field : CustomField) (stream : ProtectedStream) :
    protectXmlString (stringFieldToXml key field) stream =
      if field.isProtected then
        .ok (stringFieldToXml key ⟨Base64.encode (stream.apply field.value.toUTF8.toList).1, true⟩,
          (stream.apply field.value.toUTF8.toList).2)
      else .ok (stringFieldToXml key field, stream) := by
  obtain ⟨value, isProtected⟩ := field
  have marked : parseBoolText "True" = true := by decide
  rw [protectXmlString, stringFieldToXml_value]
  cases isProtected with
  | false => simp
  | true =>
      simp [marked, Element.getText, XMLNode.asText, String.join, stringFieldToXml, Element.ofElements, replaceChild,
        withText]

section Strings

variable {xml : XmlLibrary} {readText : String → Option String} {kept : Element → Prop}

/-- The text of a child, as the reader makes it. -/
theorem childText_read {element read : Element} {label text : String} (reread : Reread readText kept element read)
    (found : element.childOptional label = some (.ofText label text)) : childText read label = readText text := by
  obtain ⟨child, here, same⟩ := reread.child_some found
  rw [childText, here]
  exact same.text rfl

theorem stringKey_read {key : String} {field : CustomField} {read : Element}
    (reread : Reread readText kept (stringFieldToXml key field) read) : childText read "Key" = readText key := by
  apply childText_read reread
  rw [stringFieldToXml, Element.childOptional_ofElements]
  simp

/-- A string field as it is read where it was written. A protected one is read as it was. -/
def readField (readText : String → Option String) (field : CustomField) : CustomField :=
  if field.isProtected then field else { field with value := (readText field.value).getD "" }

/-- What is read where a masked value was written. -/
theorem parseStringField_protected (back : ReadsBack xml readText kept) {key : String} {bytes : List UInt8} {read : Element}
    (reread : Reread readText kept (stringFieldToXml key ⟨Base64.encode bytes, true⟩) read) :
    parseStringField read = (do
      let key ← Attempt.lift (requiredText read "Key")
      let plain ← unmask bytes
      let value ← Attempt.lift (fromUtf8 plain)
      return (key, { value, isProtected := true })) := by
  obtain ⟨value, found, same⟩ := reread.child_some (stringFieldToXml_value key _)
  have here : child read "Value" = .ok value := by rw [child, found]
  have flag : parseBoolAttribute value "Protected" = .ok true := by
    have strict : parseBoolTextStrict "True" = some true := by decide
    rw [parseBoolAttribute, same.attributes]
    simp [strict]
  have decoded : decodeBase64 (value.getText.getD "") = .ok bytes := by
    rw [same.text rfl, back.plain (plain_encode _), decodeBase64, Base64.decode_encode]
  unfold parseStringField
  rw [here]
  funext stream
  cases requiredText read "Key" with
  | error e => rfl
  | ok key =>
      change ((Attempt.lift (parseBoolAttribute value "Protected") >>= _) stream) = _
      rw [flag]
      change ((Attempt.lift (decodeBase64 (value.getText.getD "")) >>= _) stream) = _
      rw [decoded]
      rfl

/-- What is read where a value was written as it is. -/
theorem parseStringField_plain {key : String} {field : CustomField} {read : Element} (unprotected : ¬field.isProtected)
    (reread : Reread readText kept (stringFieldToXml key field) read) :
    parseStringField read = (do
      let key ← Attempt.lift (requiredText read "Key")
      return (key, readField readText field)) := by
  obtain ⟨value, found, same⟩ := reread.child_some (stringFieldToXml_value key field)
  have here : child read "Value" = .ok value := by rw [child, found]
  have flag : parseBoolAttribute value "Protected" = .ok false := by
    rw [parseBoolAttribute, same.attributes]
    simp [unprotected]
  unfold parseStringField
  rw [here, readField, if_neg unprotected, ← same.text rfl]
  funext stream
  cases requiredText read "Key" with
  | error e => rfl
  | ok key =>
      change ((Attempt.lift (parseBoolAttribute value "Protected") >>= _) stream) = _
      rw [flag, (Bool.not_eq_true _).mp unprotected]
      rfl

theorem requiredText_ok {element : Element} {name text : String} :
    requiredText element name = .ok text ↔ childText element name = some text := by
  unfold requiredText
  split
  · rename_i here
    rw [here]
    simp
  · rename_i missing
    rw [missing]
    simp

/-- A string field is read as it was written, under the key that the reader makes of its own. -/
theorem parseStringField_along (back : ReadsBack xml readText kept) (key : String) (field : CustomField) :
    ReadsAlong readText kept protectXmlString parseStringField (stringFieldToXml key field) fun pair =>
      readText key = some pair.1 ∧ pair.2 = readField readText field := by
  intro before masked after read written reread
  rw [protectXmlString_field] at written
  split at written
  next isProtected =>
    cases written
    have uses : Follows before _ _ _ := Follows.unmask field.value.toUTF8.toList
    rw [parseStringField_protected back reread]
    refine .check uses.grows fun name named => uses.bind (fun plain own => ?_) List.prefix_rfl
    refine .bind (.lift fun _ same => same) (fun value decoded => .pure ?_) List.prefix_rfl
    rw [own, fromUtf8, Utf8.fromUTF8_bytes] at decoded
    cases decoded
    refine ⟨(stringKey_read reread).symm.trans (requiredText_ok.mp named), ?_⟩
    rw [readField, if_pos isProtected, ← isProtected]
  next unprotected =>
    cases written
    rw [parseStringField_plain unprotected reread]
    exact .check List.prefix_rfl fun name named =>
      .pure ⟨(stringKey_read reread).symm.trans (requiredText_ok.mp named), rfl⟩

/-- Where the reader stands where the writer stood, it gets the field, whatever its value: only a key that
    is not read makes it fail. -/
theorem parseStringField_returns (back : ReadsBack xml readText kept) {key : String} {field : CustomField}
    {before after stream : ProtectedStream} {masked read : Element}
    (written : protectXmlString (stringFieldToXml key field) before = .ok (masked, after))
    (reread : Reread readText kept masked read) (mirrors : before.Mirrors stream) :
    (parseStringField read stream).1 =
      match readText key with
      | some given => .ok (given, readField readText field)
      | none => .error .invalidValue := by
  rw [protectXmlString_field] at written
  split at written
  next isProtected =>
    cases written
    rw [parseStringField_protected back reread, requiredText, stringKey_read reread, readField, if_pos isProtected]
    have plain : (stream.apply (before.apply field.value.toUTF8.toList).1).1 = field.value.toUTF8.toList := by
      have mask : stream.mask = before.mask := by
        funext bytes
        simp only [ProtectedStream.mask, mirrors.keystream, mirrors.position]
      change stream.mask (before.mask _) = _
      rw [mask, ProtectedStream.mask_mask]
    cases readText key with
    | none => rfl
    | some given =>
        change ((Attempt.lift (fromUtf8 (stream.apply (before.apply field.value.toUTF8.toList).1).1) >>= _) _).1 = _
        rw [plain, fromUtf8, Utf8.fromUTF8_bytes]
        obtain ⟨value, isProtected'⟩ := field
        cases isProtected
        rfl
  next unprotected =>
    cases written
    rw [parseStringField_plain unprotected reread, requiredText, stringKey_read reread]
    cases readText key <;> rfl

end Strings

/-! ## Entries -/

section Entries

variable {library : ReadLibrary} {readText : String → Option String} {kept : Element → Prop}
  (binaries : List InnerBinary)

/-- The attachment that a `Binary` child adds to what the loop has read. -/
def addBinary (binaries : List InnerBinary) (given : Option String) (reference : String) (scan : EntryScan) :
    Except KdbxError EntryScan :=
  match given with
  | none => .error .invalidValue
  | some name => do
      let attachment ← referredBinary binaries name reference
      if scan.attachments.contains name then .error .invalidValue
      else .ok (({ scan with
        binaryOrder := scan.binaryOrder ++ [name]
        attachments := scan.attachments.insert name attachment } : EntryScan).note "Binary")

/-- What is read of a child that was written for an attachment. -/
theorem binaryToXml_read {written : List InnerBinary} {name : String} {attachment : Attachment} {read : Element}
    (reread : Reread readText kept (binaryToXml written name attachment) read) (scan : EntryScan) :
    parseEntryChild library binaries read scan =
      Attempt.lift (addBinary binaries (readText name) (toString (attachmentRef written attachment)) scan) := by
  rw [parseEntryChild_binary library binaries reread.name]
  obtain ⟨value, found, same⟩ := reread.child_some (show Element.childOptional _ "Value" =
    some ⟨"Value", (∅ : BTreeMap String String).insert "Ref" (toString (attachmentRef written attachment)), []⟩ by
      rw [binaryToXml, Element.childOptional_ofElements]; simp)
  have given : childText read "Key" = readText name :=
    childText_read reread (by rw [binaryToXml, Element.childOptional_ofElements]; simp)
  have refers : value.attributes["Ref"]? = some (toString (attachmentRef written attachment)) := by
    rw [same.attributes]
    simp
  have plain : ∀ label, label ≠ "Ref" → parseBoolAttribute value label = .ok false := by
    intro label other
    rw [parseBoolAttribute, same.attributes]
    simp [other.symm]
  generalize toString (attachmentRef written attachment) = reference at refers ⊢
  have content : ∀ name, parseBinary library binaries name value =
      Attempt.lift (referredBinary binaries name reference) := by
    intro name
    rw [parseBinary, refers, plain "Protected" (by decide), plain "Compressed" (by decide)]
    rfl
  unfold addBinary
  rw [requiredText, given, child, found]
  cases readText name with
  | none => rfl
  | some name =>
      funext stream
      simp only [Attempt.bind_run, Attempt.lift_ok, content]
      cases referredBinary binaries name reference with
      | error e => rfl
      | ok attachment =>
          simp only [Attempt.lift_ok, Fallible.ok_bind]
          split <;> rfl

end Entries

end VaultKern.Kdbx
