import VaultKern.Kdbx.Bytes
import VaultKern.Lib.LastWins

/-! # Rows of fields

The outer header, the inner header and a dictionary are rows of fields up to an end mark. Each
loop reads the rows whose fields its own reader takes, one after another.
-/

namespace VaultKern.Kdbx

open Reading

/-! ## Tagged fields -/

section Fields

variable {S : Type} (read : S → UInt8 → List UInt8 → Except KdbxError S)

/-- One round of a loop over fields with a tag and a length. -/
def fieldStep (state : S) (bytes : List UInt8) : Except KdbxError (Next S S × List UInt8) := do
  let (id, bytes) ← readExact 1 bytes
  let (data, bytes) ← readSized bytes
  if id = [0] then .ok (.done state, bytes)
  else do
    let state ← read state (id.headD 0) data
    .ok (.again state, bytes)

def FieldCode (state : S) (next : Next S S) (text : List UInt8) : Prop :=
  ∃ id data, data.length < 2 ^ 31 ∧ text = writeField id data ∧
    if id = 0 then next = .done state else ∃ later, read state id data = .ok later ∧ next = .again later

/-- A tag that does not end the row, and data whose length is written as it is. -/
def IsField (field : UInt8 × List UInt8) : Prop := field.1 ≠ 0 ∧ field.2.length < 2 ^ 31

def fieldsBytes (fields : List (UInt8 × List UInt8)) : List UInt8 :=
  fields.flatMap fun field => writeField field.1 field.2

/-- The texts of a row: its fields, each of them taken, and the end mark with any data. -/
def FieldsCode (state result : S) (text : List UInt8) : Prop :=
  ∃ fields last, (∀ field ∈ fields, IsField field) ∧ last.length < 2 ^ 31 ∧
    text = fieldsBytes fields ++ writeField 0 last ∧
    fields.foldlM (fun state field => read state field.1 field.2) state = .ok result

variable {read}

theorem fieldStep_reads (state : S) : Reads (fieldStep read state) (FieldCode read state) := by
  intro bytes next rest
  constructor
  · intro done
    obtain ⟨⟨word, later⟩, id_read, fields⟩ := Fallible.bind_ok.mp done
    obtain ⟨⟨data, behind⟩, data_read, ends⟩ := Fallible.bind_ok.mp fields
    dsimp only at id_read data_read ends
    obtain ⟨single, rfl⟩ := readExact_ok.mp id_read
    obtain ⟨fits, rfl⟩ := readSized_ok.mp data_read
    obtain ⟨id, rfl⟩ := List.length_eq_one_iff.mp single
    split at ends
    · rename_i last
      cases ends
      cases last
      exact ⟨_, ⟨0, data, fits, rfl, rfl⟩, rfl⟩
    · rename_i given
      obtain ⟨later, taken, goes⟩ := Fallible.bind_ok.mp ends
      cases goes
      have given' : id ≠ 0 := fun zero => given (by rw [zero])
      exact ⟨_, ⟨id, data, fits, rfl, by rw [if_neg given']; exact ⟨later, taken, rfl⟩⟩, rfl⟩
  · rintro ⟨_, ⟨id, data, fits, rfl, held⟩, rfl⟩
    have word : readExact 1 (writeField id data ++ rest) = .ok ([id], sized data ++ rest) :=
      readExact_ok.mpr ⟨rfl, rfl⟩
    have body : readSized (sized data ++ rest) = .ok (data, rest) := readSized_ok.mpr ⟨fits, rfl⟩
    rw [fieldStep, word]
    simp only [Fallible.ok_bind]
    rw [body]
    simp only [Fallible.ok_bind, List.headD_cons]
    by_cases last : id = 0
    · rw [if_pos last] at held
      rw [last, held, if_pos rfl]
    · rw [if_neg last] at held
      obtain ⟨later, taken, rfl⟩ := held
      rw [if_neg (by simpa using last), taken]
      rfl

theorem fieldCode_progress : Progress (FieldCode read) := by
  rintro state next text ⟨id, data, _, rfl, _⟩
  simp [writeField]

theorem steps_fields {state result : S} {text : List UInt8} :
    Steps (FieldCode read) state result text ↔ FieldsCode read state result text := by
  constructor
  · intro steps
    induction steps with
    | @done state result text written =>
        obtain ⟨id, data, fits, rfl, held⟩ := written
        split at held
        · rename_i last
          cases held
          exact ⟨[], data, by simp, fits, by rw [last]; rfl, rfl⟩
        · obtain ⟨_, _, impossible⟩ := held
          cases impossible
    | @again state next result text later written _ ih =>
        obtain ⟨id, data, fits, rfl, held⟩ := written
        split at held
        · cases held
        · rename_i given
          obtain ⟨_, taken, goes⟩ := held
          cases goes
          obtain ⟨fields, last, proper, fits', rfl, folded⟩ := ih
          refine ⟨(id, data) :: fields, last, ?_, fits', by simp [fieldsBytes], ?_⟩
          · intro field member
            rcases List.mem_cons.mp member with rfl | member
            · exact ⟨given, fits⟩
            · exact proper field member
          · rw [List.foldlM_cons]
            exact Fallible.bind_ok.mpr ⟨next, taken, folded⟩
  · rintro ⟨fields, last, proper, fits, rfl, folded⟩
    induction fields generalizing state with
    | nil =>
        cases folded
        exact .done ⟨0, last, fits, rfl, rfl⟩
    | cons field rest ih =>
        rw [List.foldlM_cons] at folded
        obtain ⟨next, taken, folded⟩ := Fallible.bind_ok.mp folded
        obtain ⟨given, fits'⟩ := proper field List.mem_cons_self
        have later := ih (fun other member => proper other (List.mem_cons_of_mem _ member)) folded
        have whole : fieldsBytes (field :: rest) ++ writeField 0 last =
            writeField field.1 field.2 ++ (fieldsBytes rest ++ writeField 0 last) := by simp [fieldsBytes]
        rw [whole]
        exact .again ⟨field.1, field.2, fits', rfl, by rw [if_neg given]; exact ⟨next, taken, rfl⟩⟩ later

theorem fieldLoop_reads (state : S) :
    Reads (fun bytes => loop .unexpectedEof (fieldStep read) (bytes.length + 1) state bytes) (FieldsCode read state) :=
  (loop_reads_all fieldStep_reads fieldCode_progress state).congr fun _ _ => steps_fields

theorem fieldLoop_fuel {fuel : Nat} {state : S} {bytes : List UInt8} (enough : bytes.length < fuel) :
    loop .unexpectedEof (fieldStep read) fuel state bytes =
      loop .unexpectedEof (fieldStep read) (bytes.length + 1) state bytes :=
  loop_fuel fieldStep_reads fieldCode_progress enough (Nat.lt_succ_self _)

/-- A function that takes field after field is the loop. -/
theorem fields_loop {fields : Nat → S → List UInt8 → Except KdbxError (S × List UInt8)}
    (stuck : ∀ state bytes, fields 0 state bytes = .error .unexpectedEof)
    (round : ∀ fuel state bytes, fields (fuel + 1) state bytes = do
      let (id, bytes) ← readExact 1 bytes
      let (data, bytes) ← readSized bytes
      if id = [0] then .ok (state, bytes)
      else do
        let state ← read state (id.headD 0) data
        fields fuel state bytes)
    (fuel : Nat) (state : S) (bytes : List UInt8) :
    fields fuel state bytes = loop .unexpectedEof (fieldStep read) fuel state bytes := by
  induction fuel generalizing state bytes with
  | zero => exact stuck state bytes
  | succ fuel ih =>
      rw [round, loop, fieldStep]
      cases readExact 1 bytes with
      | error e => rfl
      | ok word =>
          simp only [Fallible.ok_bind]
          cases readSized word.2 with
          | error e => rfl
          | ok data =>
              simp only [Fallible.ok_bind]
              by_cases last : word.1 = [0]
              · rw [if_pos last, if_pos last]
                rfl
              · rw [if_neg last, if_neg last]
                cases read state (word.1.headD 0) data.1 with
                | error e => rfl
                | ok next => exact ih next data.2

end Fields

theorem readFields_loop (fuel : Nat) (header : KdbxHeader) (bytes : List UInt8) :
    KdbxHeader.readFields fuel header bytes = loop .unexpectedEof (fieldStep KdbxHeader.read) fuel header bytes :=
  fields_loop (fun _ _ => rfl) (fun _ _ _ => rfl) fuel header bytes

theorem readInnerFields_loop (sha256 : List UInt8 → List UInt8) (fuel : Nat) (header : InnerHeader) (bytes : List UInt8) :
    readInnerFields sha256 fuel header bytes =
      loop .unexpectedEof (fieldStep (InnerHeader.read sha256)) fuel header bytes :=
  fields_loop (fun _ _ => rfl) (fun _ _ _ => rfl) fuel header bytes

/-! ## Items of a dictionary -/

/-- An item as it is in the bytes. -/
structure RawItem where
  kind : UInt8
  name : List UInt8
  value : List UInt8

def RawItem.bytes (item : RawItem) : List UInt8 := item.kind :: sized item.name ++ sized item.value

/-- A kind that does not end the row, and a name and a value whose lengths are written as they are. -/
def RawItem.Fits (item : RawItem) : Prop := item.kind ≠ 0 ∧ item.name.length < 2 ^ 31 ∧ item.value.length < 2 ^ 31

def takeItem (items : BTreeMap String VariantValue) (item : RawItem) : Except KdbxError (BTreeMap String VariantValue) := do
  let name ← decodeUtf8 item.name
  let value ← decodeVariantValue item.kind item.value
  .ok (items.insert name value)

/-- One round of the loop over items. -/
def itemStep (items : BTreeMap String VariantValue) (bytes : List UInt8) :
    Except KdbxError (Next (BTreeMap String VariantValue) (BTreeMap String VariantValue) × List UInt8) := do
  let (kind, bytes) ← readExact 1 bytes
  if kind = [0] then .ok (.done items, bytes)
  else do
    let (name, bytes) ← readSized bytes
    let name ← decodeUtf8 name
    let (value, bytes) ← readSized bytes
    let value ← decodeVariantValue (kind.headD 0) value
    .ok (.again (items.insert name value), bytes)

def ItemCode (items : BTreeMap String VariantValue)
    (next : Next (BTreeMap String VariantValue) (BTreeMap String VariantValue)) (text : List UInt8) : Prop :=
  (next = .done items ∧ text = [0]) ∨
    ∃ item later, RawItem.Fits item ∧ takeItem items item = .ok later ∧ next = .again later ∧ text = item.bytes

/-- The texts of a row: its items, each of them taken, and the end mark. -/
def ItemsCode (items result : BTreeMap String VariantValue) (text : List UInt8) : Prop :=
  ∃ row : List RawItem, (∀ item ∈ row, RawItem.Fits item) ∧ text = row.flatMap RawItem.bytes ++ [0] ∧
    row.foldlM takeItem items = .ok result

theorem itemStep_reads (items : BTreeMap String VariantValue) : Reads (itemStep items) (ItemCode items) := by
  intro bytes next rest
  constructor
  · intro done
    obtain ⟨⟨word, later⟩, kind_read, body⟩ := Fallible.bind_ok.mp done
    dsimp only at kind_read body
    obtain ⟨single, rfl⟩ := readExact_ok.mp kind_read
    obtain ⟨kind, rfl⟩ := List.length_eq_one_iff.mp single
    split at body
    · rename_i last
      cases body
      exact ⟨_, .inl ⟨rfl, rfl⟩, by rw [last]⟩
    · rename_i given
      obtain ⟨⟨name, behind⟩, name_read, named⟩ := Fallible.bind_ok.mp body
      obtain ⟨text, decoded, values⟩ := Fallible.bind_ok.mp named
      obtain ⟨⟨value, left⟩, value_read, valued⟩ := Fallible.bind_ok.mp values
      obtain ⟨held, taken, goes⟩ := Fallible.bind_ok.mp valued
      dsimp only at name_read decoded value_read taken goes
      cases goes
      obtain ⟨fits', rfl⟩ := readSized_ok.mp value_read
      obtain ⟨fits, rfl⟩ := readSized_ok.mp name_read
      have given' : kind ≠ 0 := fun zero => given (by rw [zero])
      refine ⟨_, .inr ⟨{ kind, name, value }, _, ⟨given', fits, fits'⟩, ?_, rfl, rfl⟩, by simp [RawItem.bytes]⟩
      exact Fallible.bind_ok.mpr ⟨text, decoded, Fallible.bind_ok.mpr ⟨held, taken, rfl⟩⟩
  · rintro ⟨_, ⟨rfl, rfl⟩ | ⟨item, later, ⟨given, fits, fits'⟩, taken, rfl, rfl⟩, rfl⟩
    · rfl
    · have word : readExact 1 (item.bytes ++ rest) = .ok ([item.kind], sized item.name ++ (sized item.value ++ rest)) :=
        readExact_ok.mpr ⟨rfl, by simp [RawItem.bytes]⟩
      have name : readSized (sized item.name ++ (sized item.value ++ rest)) = .ok (item.name, sized item.value ++ rest) :=
        readSized_ok.mpr ⟨fits, rfl⟩
      have value : readSized (sized item.value ++ rest) = .ok (item.value, rest) := readSized_ok.mpr ⟨fits', rfl⟩
      obtain ⟨text, decoded, valued⟩ := Fallible.bind_ok.mp taken
      obtain ⟨held, valued', goes⟩ := Fallible.bind_ok.mp valued
      cases goes
      rw [itemStep, word]
      simp only [Fallible.ok_bind]
      rw [if_neg (by simpa using given), name]
      simp only [Fallible.ok_bind]
      rw [decoded]
      simp only [Fallible.ok_bind]
      rw [value]
      simp only [Fallible.ok_bind, List.headD_cons]
      rw [valued']
      rfl

theorem itemCode_progress : Progress ItemCode := by
  rintro items next text (⟨impossible, _⟩ | ⟨item, _, _, _, _, rfl⟩)
  · cases impossible
  · simp [RawItem.bytes]

theorem steps_items {items result : BTreeMap String VariantValue} {text : List UInt8} :
    Steps ItemCode items result text ↔ ItemsCode items result text := by
  constructor
  · intro steps
    induction steps with
    | done written =>
        rcases written with ⟨same, rfl⟩ | ⟨_, _, _, _, impossible, _⟩
        · cases same
          exact ⟨[], by simp, rfl, rfl⟩
        · cases impossible
    | again written _ ih =>
        rcases written with ⟨impossible, _⟩ | ⟨item, later, fits, taken, goes, rfl⟩
        · cases impossible
        · cases goes
          obtain ⟨row, proper, rfl, folded⟩ := ih
          refine ⟨item :: row, ?_, by simp, ?_⟩
          · intro other member
            rcases List.mem_cons.mp member with rfl | member
            · exact fits
            · exact proper other member
          · rw [List.foldlM_cons]
            exact Fallible.bind_ok.mpr ⟨_, taken, folded⟩
  · rintro ⟨row, proper, rfl, folded⟩
    induction row generalizing items with
    | nil =>
        cases folded
        exact .done (.inl ⟨rfl, rfl⟩)
    | cons item row ih =>
        rw [List.foldlM_cons] at folded
        obtain ⟨next, taken, folded⟩ := Fallible.bind_ok.mp folded
        have later := ih (fun other member => proper other (List.mem_cons_of_mem _ member)) folded
        rw [List.flatMap_cons, List.append_assoc]
        exact .again (.inr ⟨item, next, proper item List.mem_cons_self, taken, rfl, rfl⟩) later

theorem decodeItemLoop_loop (fuel : Nat) (items : BTreeMap String VariantValue) (bytes : List UInt8) :
    decodeItemLoop fuel items bytes = (loop .unexpectedEof itemStep fuel items bytes).map Prod.fst := by
  induction fuel generalizing items bytes with
  | zero => rfl
  | succ fuel ih =>
      rw [decodeItemLoop, loop, itemStep]
      cases readExact 1 bytes with
      | error e => rfl
      | ok kind =>
          simp only [Fallible.ok_bind]
          by_cases last : kind.1 = [0]
          · rw [if_pos last, if_pos last]
            rfl
          · rw [if_neg last, if_neg last]
            cases readSized kind.2 with
            | error e => rfl
            | ok name =>
                simp only [Fallible.ok_bind]
                cases decodeUtf8 name.1 with
                | error e => rfl
                | ok text =>
                    simp only [Fallible.ok_bind]
                    cases readSized name.2 with
                    | error e => rfl
                    | ok value =>
                        simp only [Fallible.ok_bind]
                        cases decodeVariantValue (kind.1.headD 0) value.1 with
                        | error e => rfl
                        | ok held => exact ih _ _

theorem itemLoop_reads (items : BTreeMap String VariantValue) :
    Reads (fun bytes => loop .unexpectedEof itemStep (bytes.length + 1) items bytes) (ItemsCode items) :=
  (loop_reads_all itemStep_reads itemCode_progress items).congr fun _ _ => steps_items

theorem decodeItemLoop_fuel {fuel : Nat} {items : BTreeMap String VariantValue} {bytes : List UInt8}
    (enough : bytes.length < fuel) : decodeItemLoop fuel items bytes = decodeItemLoop (bytes.length + 1) items bytes := by
  rw [decodeItemLoop_loop, decodeItemLoop_loop,
    loop_fuel itemStep_reads itemCode_progress enough (Nat.lt_succ_self _)]

/-- What a dictionary is read from: its version and its items, with anything behind them. -/
theorem decodeItems_ok {bytes : List UInt8} {items : BTreeMap String VariantValue} :
    decodeItems bytes = .ok items ↔
      ∃ text rest, ItemsCode ∅ items text ∧ bytes = leBytes 2 0x0100 ++ text ++ rest := by
  unfold decodeItems
  constructor
  · intro done
    obtain ⟨⟨version, later⟩, version_read, checked⟩ := Fallible.bind_ok.mp done
    dsimp only at version_read checked
    split at checked
    · cases checked
    · rename_i known
      obtain rfl := Decidable.not_not.mp known
      obtain ⟨_, rfl⟩ := readLe_ok.mp version_read
      rw [decodeItemLoop_loop] at checked
      obtain ⟨⟨_, rest⟩, run, rfl⟩ := Fallible.map_ok.mp checked
      obtain ⟨text, row, rfl⟩ := (itemLoop_reads ∅).mp run
      exact ⟨text, rest, row, by simp⟩
  · rintro ⟨text, rest, row, rfl⟩
    have version : readLe 2 (leBytes 2 0x0100 ++ text ++ rest) = .ok (0x0100, text ++ rest) :=
      readLe_ok.mpr ⟨by decide, by simp⟩
    rw [version]
    simp only [Fallible.ok_bind, ne_eq, not_true_eq_false, if_false]
    rw [decodeItemLoop_loop]
    exact Fallible.map_ok.mpr ⟨(items, rest), (itemLoop_reads ∅).accepts row rest, rfl⟩

end VaultKern.Kdbx
