import VaultKern.Runtime.EntryEdits

/-! # Steps on one entry

All mutators of an edit find the same entry again. A step either succeeds exactly under
a condition on its arguments or fails, and in both cases the entry is still there with
its history.
-/

namespace VaultKern

open Attempt

/-! ## Writing an entry back -/

theorem findEntry_replace {id : String} {entry entry' : Entry} {entries : List Entry}
    (found : (entries.find? fun entry => uuidToString entry.id = id) = some entry)
    (named : uuidToString entry'.id = id) :
    ((replaceEntry id entry' entries).find? fun entry => uuidToString entry.id = id) = some entry' := by
  induction entries with
  | nil => cases found
  | cons first rest ih =>
      unfold replaceEntry
      split
      · exact List.find?_cons_of_pos (by simpa using named)
      · rename_i apart
        rw [List.find?_cons_of_neg (by simpa using apart)] at found ⊢
        exact ih found

mutual
theorem findEntryById_put {id : String} {entry entry' : Entry} (named : uuidToString entry'.id = id) :
    ∀ root : Group, findEntryById id root = some entry → findEntryById id (putEntryById id entry' root) = some entry'
  | ⟨fields, entries, children⟩, found => by
      unfold findEntryById at found
      unfold putEntryById
      cases here : entries.find? fun entry => uuidToString entry.id = id with
      | some first =>
          simp only [Option.isSome_some, if_true]
          unfold findEntryById
          rw [findEntry_replace here named, Option.some_or]
      | none =>
          rw [here, Option.none_or] at found
          simp only [Option.isSome_none, Bool.false_eq_true, if_false]
          unfold findEntryById
          rw [here, Option.none_or, findEntryIn_put named children found]

theorem findEntryIn_put {id : String} {entry entry' : Entry} (named : uuidToString entry'.id = id) :
    ∀ children : List Group, findEntryIn id children = some entry →
      findEntryIn id (putEntryIn id entry' children) = some entry'
  | [], found => by cases found
  | child :: rest, found => by
      unfold findEntryIn at found
      unfold putEntryIn
      cases here : findEntryById id child with
      | some first =>
          simp only [Option.isSome_some, if_true]
          unfold findEntryIn
          rw [findEntryById_put named child here, Option.some_or]
      | none =>
          rw [here, Option.none_or] at found
          simp only [Option.isSome_none, Bool.false_eq_true, if_false]
          unfold findEntryIn
          rw [here, Option.none_or, findEntryIn_put named rest found]
end

section Twice

variable {id : String} {first second : Entry}

theorem replaceEntry_twice (named : uuidToString first.id = id) (entries : List Entry) :
    replaceEntry id second (replaceEntry id first entries) = replaceEntry id second entries := by
  induction entries with
  | nil => rfl
  | cons entry rest ih =>
      by_cases here : uuidToString entry.id = id
      · simp [replaceEntry, here, named]
      · simp [replaceEntry, here, ih]

theorem find_replaceEntry (named : uuidToString first.id = id) (entries : List Entry) :
    ((replaceEntry id first entries).find? fun entry => uuidToString entry.id = id).isSome =
      (entries.find? fun entry => uuidToString entry.id = id).isSome := by
  induction entries with
  | nil => rfl
  | cons entry rest ih =>
      by_cases here : uuidToString entry.id = id
      · simp [replaceEntry, here, named]
      · simpa [replaceEntry, here] using ih

mutual
theorem putEntryById_twice (named : uuidToString first.id = id) : ∀ root : Group,
    putEntryById id second (putEntryById id first root) = putEntryById id second root
  | ⟨fields, entries, children⟩ => by
      by_cases here : (entries.find? fun entry => uuidToString entry.id = id).isSome
      · simp only [putEntryById, here, find_replaceEntry named, if_true, replaceEntry_twice named]
      · simp only [putEntryById, here, Bool.false_eq_true, if_false, putEntryIn_twice named children]

theorem putEntryIn_twice (named : uuidToString first.id = id) : ∀ children : List Group,
    putEntryIn id second (putEntryIn id first children) = putEntryIn id second children
  | [] => rfl
  | child :: rest => by
      cases here : findEntryById id child with
      | none => simp [putEntryIn, here, putEntryIn_twice named rest]
      | some entry =>
          have again := findEntryById_put named child here
          simp [putEntryIn, here, again, putEntryById_twice named child]
end

end Twice

mutual
theorem findEntryById_named {id : String} {entry : Entry} : ∀ root : Group, findEntryById id root = some entry →
    uuidToString entry.id = id
  | ⟨fields, entries, children⟩, found => by
      unfold findEntryById at found
      cases here : entries.find? fun entry => uuidToString entry.id = id with
      | some first =>
          rw [here, Option.some_or] at found
          cases found
          simpa using List.find?_some here
      | none =>
          rw [here, Option.none_or] at found
          exact findEntryIn_named children found

theorem findEntryIn_named {id : String} {entry : Entry} : ∀ children : List Group,
    findEntryIn id children = some entry → uuidToString entry.id = id
  | [], found => by cases found
  | child :: rest, found => by
      unfold findEntryIn at found
      cases here : findEntryById id child with
      | some first =>
          rw [here, Option.some_or] at found
          cases found
          exact findEntryById_named child here
      | none =>
          rw [here, Option.none_or] at found
          exact findEntryIn_named rest found
end

/-! ## Steps -/

/-- At a vault with the entry, the step succeeds exactly under a condition, and in both cases
    the entry is still there with its history and the protection of its fields. -/
structure EditsAt {A : Type} (entryId : String) (m : VaultEdit A) (vault : Vault) (entry : Entry) (ok : Prop) :
    Prop where
  succeeds : (m vault).1.toOption.isSome ↔ ok
  keeps : ∃ entry', findEntryById entryId (m vault).2.root = some entry' ∧ entry'.history = entry.history ∧
    entry'.fieldProtection = entry.fieldProtection

/-- The condition may depend on the protection of the fields. -/
def EditsEntry {A : Type} (entryId : String) (m : VaultEdit A) (ok : EntryFieldProtection → Prop) : Prop :=
  ∀ vault entry, findEntryById entryId vault.root = some entry → EditsAt entryId m vault entry (ok entry.fieldProtection)

section Steps

variable {A B : Type} {entryId : String} {m : VaultEdit A} {next : A → VaultEdit B}
  {ok ok' : EntryFieldProtection → Prop}

theorem EditsAt.bind {vault : Vault} {entry : Entry} {holds : Prop} (first : EditsAt entryId m vault entry holds)
    (second : ∀ a, EditsEntry entryId (next a) ok) :
    EditsAt entryId (m >>= next) vault entry (holds ∧ ok entry.fieldProtection) := by
  obtain ⟨succeeds, entry', found', history, protection⟩ := first
  cases run : m vault with
  | mk result vault' =>
      rw [run] at succeeds found'
      cases result with
      | error e =>
          refine ⟨?_, entry', by rw [bind_run, run]; exact found', history, protection⟩
          simp only [bind_run, run, Except.toOption, Option.isSome_none, Bool.false_eq_true, false_iff] at succeeds ⊢
          exact fun both => succeeds both.1
      | ok a =>
          obtain ⟨succeeds', entry'', found'', history', protection'⟩ := second a vault' entry' found'
          refine ⟨?_, entry'', by rw [bind_run, run]; exact found'', history'.trans history,
            protection'.trans protection⟩
          simp only [Except.toOption, Option.isSome_some, true_iff] at succeeds
          rw [bind_run, run, protection] at *
          exact succeeds'.trans ⟨fun later => ⟨succeeds, later⟩, And.right⟩

theorem EditsAt.congr {vault : Vault} {entry : Entry} {holds holds' : Prop}
    (edits : EditsAt entryId m vault entry holds) (same : holds ↔ holds') : EditsAt entryId m vault entry holds' :=
  ⟨edits.succeeds.trans same, edits.keeps⟩

theorem EditsAt.fails {vault : Vault} {entry : Entry} {holds : Prop} (edits : EditsAt entryId m vault entry holds)
    (misfit : ¬ holds) : ∃ e, (m vault).1 = .error e := by
  cases result : (m vault).1 with
  | error e => exact ⟨e, rfl⟩
  | ok a => exact absurd (edits.succeeds.mp (by rw [result]; rfl)) misfit

/-- A mutator that works on the entry in place. -/
theorem core_onEntry {m : Attempt MutationError Entry A} {vault : Vault} {entry : Entry}
    (found : findEntryById entryId vault.root = some entry) :
    (core (onEntry entryId m) vault).1.toOption = (m entry).1.toOption ∧
    (core (onEntry entryId m) vault).2 = { vault with root := putEntryById entryId (m entry).2 vault.root } := by
  have run : onEntry entryId m vault = ((m entry).1, { vault with root := putEntryById entryId (m entry).2 vault.root }) := by
    simp [onEntry, within, found]
  unfold core
  rw [run]
  cases (m entry).1 <;> exact ⟨rfl, rfl⟩

theorem EditsAt.inside {m : Attempt MutationError Entry A} {vault : Vault} {entry : Entry} {holds : Prop}
    (found : findEntryById entryId vault.root = some entry) (succeeds : (m entry).1.toOption.isSome ↔ holds)
    (keeps : (m entry).2.id = entry.id ∧ (m entry).2.history = entry.history ∧
      (m entry).2.fieldProtection = entry.fieldProtection) :
    EditsAt entryId (core (onEntry entryId m)) vault entry holds := by
  obtain ⟨result, state⟩ := core_onEntry (m := m) found
  have named : uuidToString (m entry).2.id = entryId := by
    rw [keeps.1]
    exact findEntryById_named vault.root found
  refine ⟨by rw [result]; exact succeeds, (m entry).2, ?_, keeps.2⟩
  rw [state]
  exact findEntryById_put named vault.root found

namespace EditsEntry

theorem pure (a : A) : EditsEntry entryId (pure a : VaultEdit A) fun _ => True :=
  fun _ entry found => ⟨by simp [Except.toOption], entry, found, rfl, rfl⟩

theorem bind (first : EditsEntry entryId m ok) (second : ∀ a, EditsEntry entryId (next a) ok') :
    EditsEntry entryId (m >>= next) fun protection => ok protection ∧ ok' protection :=
  fun vault entry found => (first vault entry found).bind second

theorem congr (edits : EditsEntry entryId m ok) (same : ∀ protection, ok protection ↔ ok' protection) :
    EditsEntry entryId m ok' :=
  fun vault entry found => (edits vault entry found).congr (same _)

/-- A check of the arguments. -/
theorem check (check : Except MutationError Unit) :
    EditsEntry entryId (core (lift check)) fun _ => check = .ok () := by
  intro vault entry found
  cases check with
  | error e => exact ⟨by simp [core, Except.toOption], entry, found, rfl, rfl⟩
  | ok a => exact ⟨by simp [core, Except.toOption], entry, found, rfl, rfl⟩

theorem ensure (condition : Bool) (e : MutationError) :
    EditsEntry entryId (core (Attempt.ensure condition e)) fun _ => condition = true := by
  intro vault entry found
  cases condition with
  | false => exact ⟨by simp [core, Except.toOption], entry, found, rfl, rfl⟩
  | true => exact ⟨by simp [core, Except.toOption], entry, found, rfl, rfl⟩

theorem demand (condition : Bool) (e : RuntimeError) :
    EditsEntry entryId (Attempt.ensure condition e : VaultEdit Unit) fun _ => condition = true := by
  intro vault entry found
  cases condition with
  | false => exact ⟨by simp [Except.toOption], entry, found, rfl, rfl⟩
  | true => exact ⟨by simp [Except.toOption], entry, found, rfl, rfl⟩

/-- A write that leaves alone what names the entry, its history and its protection. -/
theorem write {change : Entry → Entry} {view : Entry → A}
    (keeps : ∀ entry, (change entry).id = entry.id ∧ (change entry).history = entry.history ∧
      (change entry).fieldProtection = entry.fieldProtection) :
    EditsEntry entryId (core (onEntry entryId (Attempt.write change view))) fun _ => True :=
  fun _ entry found => .inside found (by simp [Except.toOption]) (keeps entry)

end EditsEntry

theorem core_bind (m : Mutator A) (next : A → Mutator B) : core (m >>= next) = core m >>= fun a => core (next a) := by
  funext vault
  simp only [core, bind_run]
  cases m vault with
  | mk result vault' => cases result <;> rfl

/-- A check before the rest of a mutator. -/
theorem EditsEntry.checked {check : Except MutationError Unit} {rest : Unit → Mutator A}
    (edits : EditsEntry entryId (core (rest ())) ok) :
    EditsEntry entryId (core (lift check >>= rest)) fun protection => check = .ok () ∧ ok protection := by
  rw [core_bind]
  exact (EditsEntry.check check).bind fun _ => edits

theorem EditsEntry.ensured {condition : Bool} {e : MutationError} {rest : Unit → Mutator A}
    (edits : EditsEntry entryId (core (rest ())) ok) :
    EditsEntry entryId (core (Attempt.ensure condition e >>= rest)) fun protection =>
      condition = true ∧ ok protection := by
  rw [core_bind]
  exact (EditsEntry.ensure condition e).bind fun _ => edits

theorem core_readEntry {vault : Vault} {entry : Entry} (found : findEntryById entryId vault.root = some entry) :
    core (readEntry entryId) vault = (.ok entry, vault) := by
  simp [core, readEntry_cases, found]

/-- The entry itself is read first. -/
theorem EditsAt.after_read {vault : Vault} {entry : Entry} {rest : Entry → Mutator A} {holds : Prop}
    (found : findEntryById entryId vault.root = some entry)
    (edits : EditsAt entryId (core (rest entry)) vault entry holds) :
    EditsAt entryId (core (readEntry entryId >>= rest)) vault entry holds := by
  have run : core (readEntry entryId >>= rest) vault = core (rest entry) vault := by
    rw [core_bind, bind_run, core_readEntry found]
  exact ⟨run ▸ edits.succeeds, run ▸ edits.keeps⟩

end Steps

/-! ## What the steps need of their arguments -/

/-- A time that KDBX 4 can hold. -/
def ClockFits (now : Nat) : Prop := now + 62135596800 < 2 ^ 63

/-- Every unprotected text is one that XML can hold. -/
structure TextsFit (protection : EntryFieldProtection) (fields : EntryFieldsDto) : Prop where
  title : protection.protectTitle ∨ isXml10Text fields.title
  username : protection.protectUsername ∨ isXml10Text fields.username
  password : protection.protectPassword ∨ isXml10Text fields.password
  url : protection.protectUrl ∨ isXml10Text fields.url
  notes : protection.protectNotes ∨ isXml10Text fields.notes

/-- A custom field is passed over, or the file can hold it under a key that is not reserved. -/
def CustomFieldFits (field : EntryCustomFieldDto) : Prop :=
  (trimText field.key).isEmpty ∨
    (isReservedEntryCustomFieldKey field.key = false ∧ isXml10Text field.key ∧
      (field.isProtected ∨ isXml10Text field.value))

theorem checks_ok {E B : Type} {check : Except E Unit} {next : Unit → Except E B} {b : B} :
    (check >>= next) = .ok b ↔ check = .ok () ∧ next () = .ok b := by
  cases check with
  | error e => simp [bind, Except.bind]
  | ok a => simp [bind, Except.bind]

theorem validateUnprotectedXmlText_ok {value kind : String} :
    validateUnprotectedXmlText value kind = .ok () ↔ isXml10Text value := by
  unfold validateUnprotectedXmlText
  split <;> simp_all

theorem validateOptionalXmlText_ok {value : Option String} {kind : String} :
    validateOptionalXmlText value kind = .ok () ↔ ∀ text, value = some text → isXml10Text text := by
  cases value with
  | none => simp [validateOptionalXmlText]
  | some text => simp [validateOptionalXmlText, validateUnprotectedXmlText_ok]

theorem validateXmlTextWithProtection_ok {value kind : String} {isProtected : Bool} :
    validateXmlTextWithProtection value isProtected kind = .ok () ↔ isProtected ∨ isXml10Text value := by
  cases isProtected with
  | true => simp [validateXmlTextWithProtection]
  | false => simp [validateXmlTextWithProtection, validateUnprotectedXmlText_ok]

theorem validateProtectedTexts_ok {items : List (Option String × Bool × String)} :
    validateProtectedTexts items = .ok () ↔
      ∀ item ∈ items, ∀ text, item.1 = some text → item.2.1 ∨ isXml10Text text := by
  induction items with
  | nil => simp [validateProtectedTexts]
  | cons item rest ih =>
      obtain ⟨value, isProtected, kind⟩ := item
      cases value with
      | none => simpa [validateProtectedTexts] using ih
      | some text =>
          simp [validateProtectedTexts, checks_ok, validateXmlTextWithProtection_ok, ih]

theorem validatePersistentUnsignedTimestamp_ok {timestamp : Nat} :
    validatePersistentUnsignedTimestamp timestamp = .ok () ↔ ClockFits timestamp := by
  unfold validatePersistentUnsignedTimestamp validatePersistentTimestamp kdbx4TimeOffset ClockFits
  split
  · split
    · rename_i small fits
      simp only [Bool.and_eq_true, decide_eq_true_eq] at fits
      exact iff_of_true rfl (by omega)
    · rename_i small fits
      simp only [Bool.and_eq_true, decide_eq_true_eq] at fits
      exact iff_of_false nofun (by omega)
  · exact iff_of_false nofun (by omega)

/-! ## The steps of the requests -/

section Requests

variable {entryId : String}

theorem updateEntryFields_edits (fields : EntryFieldsDto) :
    EditsEntry entryId (core (updateEntryFields entryId
      { title := some fields.title
        username := some fields.username
        password := some fields.password
        url := some fields.url
        notes := some fields.notes })) fun protection => TextsFit protection fields := by
  intro vault entry found
  have texts : validateProtectedTexts
      [(some fields.title, entry.fieldProtection.protectTitle, "entry title"),
        (some fields.username, entry.fieldProtection.protectUsername, "entry username"),
        (some fields.password, entry.fieldProtection.protectPassword, "entry password"),
        (some fields.url, entry.fieldProtection.protectUrl, "entry URL"),
        (some fields.notes, entry.fieldProtection.protectNotes, "entry notes")] = .ok () ↔
      TextsFit entry.fieldProtection fields := by
    rw [validateProtectedTexts_ok]
    simp only [List.forall_mem_cons, Option.some.injEq, forall_eq', List.not_mem_nil, false_implies, implies_true,
      and_true]
    exact ⟨fun ⟨title, username, password, url, notes⟩ => ⟨title, username, password, url, notes⟩,
      fun ⟨title, username, password, url, notes⟩ => ⟨title, username, password, url, notes⟩⟩
  refine .after_read found (.congr (EditsEntry.checked (.write ?_) vault entry found) ?_)
  · exact fun _ => ⟨rfl, rfl, rfl⟩
  · rw [texts, and_true]

theorem updateEntryExpiry_edits (expiryTime : Int) :
    EditsEntry entryId (core (updateEntryExpiry entryId false (some expiryTime))) fun _ =>
      validatePersistentTimestamp expiryTime = .ok () := by
  refine .congr (.ensured (.checked (.write ?_))) ?_
  · exact fun _ => ⟨rfl, rfl, rfl⟩
  · simp [validateOptionalTimestamp]

/-- The times of an edit are checked with the rest of the update. -/
theorem updateEntryTimes_edits (update : EntryTimesUpdate) (keeps : update.locationChangedAt ≠ some none) :
    EditsEntry entryId (core (updateEntryTimes entryId update)) fun _ =>
      validateUnsignedTimestamps [update.createdAt, update.modifiedAt] = .ok () ∧
      validateUnsignedTimestamps [update.lastAccessedAt.join, update.locationChangedAt.join] = .ok () := by
  refine .congr (.ensured (.checked (.checked (.write ?_)))) ?_
  · exact fun _ => ⟨rfl, rfl, rfl⟩
  · simp [keeps]

theorem touchEntryModifiedAt_edits (modifiedAt : Nat) :
    EditsEntry entryId (touchEntryModifiedAt entryId modifiedAt) fun _ => ClockFits modifiedAt := by
  refine .congr ((updateEntryTimes_edits _ (by simp)).bind fun _ => .pure ()) fun _ => ?_
  simp [validateUnsignedTimestamps, checks_ok, validatePersistentUnsignedTimestamp_ok]

theorem initializeEntryCreationTimes_edits (creationTime : Nat) :
    EditsEntry entryId (initializeEntryCreationTimes entryId creationTime) fun _ => ClockFits creationTime := by
  refine .congr ((EditsEntry.demand _ _).bind fun _ => (updateEntryExpiry_edits _).bind fun _ =>
    (updateEntryTimes_edits _ (by simp)).bind fun _ => .pure ()) fun _ => ?_
  have unsigned : validatePersistentUnsignedTimestamp creationTime = .ok () ↔ ClockFits creationTime :=
    validatePersistentUnsignedTimestamp_ok
  simp only [validateUnsignedTimestamps, checks_ok, unsigned, Option.join_some, and_true, decide_eq_true_eq, and_self]
  constructor
  · exact fun all => all.2.2
  · intro fits
    have small : creationTime < 2 ^ 63 := by
      unfold ClockFits at fits
      omega
    refine ⟨small, ?_, fits⟩
    rw [validatePersistentUnsignedTimestamp, if_pos small] at unsigned
    exact unsigned.mpr fits

/-- What `parse_otpauth` accepts is complete enough to be set. -/
structure TotpSettable (totp : TotpSpec) : Prop where
  account : ∃ name, totp.accountName = some name ∧ name.isEmpty = false
  secret : totp.secretBase32.isEmpty = false
  issuer : (totp.issuer.filter fun issuer => !issuer.isEmpty) = none →
    ∀ name, totp.accountName = some name → name.toList.contains ':' = false

theorem setEntryTotp_edits {totp : TotpSpec} (settable : TotpSettable totp) :
    EditsEntry entryId (core (setEntryTotp entryId totp)) fun _ => True := by
  intro vault entry found
  obtain ⟨name, account, nonempty⟩ := settable.account
  refine .after_read found (.congr (EditsEntry.ensured (.ensured (.ensured (.write ?_))) vault entry found) ?_)
  · exact fun _ => ⟨rfl, rfl, rfl⟩
  · have issuer := settable.issuer
    simp only [account, Option.some.injEq, forall_eq'] at issuer ⊢
    have named : Option.filter (fun name => !name.isEmpty) (some name) = some name := by simp [nonempty]
    simp only [named, Option.getD_some, nonempty, settable.secret, Bool.not_false, true_and, and_true, iff_true]
    cases given : totp.issuer.filter fun issuer => !issuer.isEmpty with
    | none => simpa using issuer given
    | some text => rfl

theorem clearEntryTotp_edits : EditsEntry entryId (core (clearEntryTotp entryId)) fun _ => True :=
  .write fun _ => ⟨rfl, rfl, rfl⟩

theorem updateTotp_edits {requested : Option TotpSpec} (settable : ∀ totp, requested = some totp → TotpSettable totp)
    (had : Bool) : EditsEntry entryId (updateTotp entryId requested had) fun _ => True := by
  unfold updateTotp
  cases requested with
  | some totp => exact ((setEntryTotp_edits (settable totp rfl)).bind fun _ => .pure ()).congr fun _ => by simp
  | none =>
      cases had with
      | true => exact (clearEntryTotp_edits.bind fun _ => .pure ()).congr fun _ => by simp
      | false => exact .pure ()

theorem removeCustomField_run {key : String} {entry : Entry} (free : isReservedEntryCustomFieldKey key = false)
    (held : entry.attributes.contains key) :
    ∃ view entry', removeCustomField key entry = (.ok view, entry') ∧
      entry'.attributes = entry.attributes.erase key ∧ entry'.id = entry.id ∧ entry'.history = entry.history ∧
      entry'.fieldProtection = entry.fieldProtection := by
  have present := Std.ExtTreeMap.getElem?_eq_some_getElem held
  simp only [removeCustomField, bind_run, free, Bool.not_false, ensure_true, get_run, present, require_some,
    write_run]
  exact ⟨_, _, rfl, rfl, rfl, rfl, rfl⟩

/-- Fields that are there can be deleted one after the other. -/
theorem deleteCustomFields_at {keys : List String} : ∀ {vault : Vault} {entry : Entry},
    findEntryById entryId vault.root = some entry → keys.Nodup →
    (∀ key ∈ keys, isReservedEntryCustomFieldKey key = false ∧ entry.attributes.contains key) →
    EditsAt entryId (deleteCustomFields entryId keys) vault entry True := by
  induction keys with
  | nil => exact fun found _ _ => EditsEntry.pure () _ _ found
  | cons key rest ih =>
      intro vault entry found nodup held
      obtain ⟨free, here⟩ := held key (List.mem_cons_self ..)
      obtain ⟨view, entry', run, attributes, same, history, protection⟩ := removeCustomField_run free here
      obtain ⟨vault', ran, found'⟩ : ∃ vault', core (deleteEntryCustomField entryId key) vault = (.ok view, vault') ∧
          findEntryById entryId vault'.root = some entry' := by
        have named : uuidToString entry'.id = entryId := by
          rw [same]
          exact findEntryById_named vault.root found
        refine ⟨{ vault with root := putEntryById entryId entry' vault.root }, ?_, findEntryById_put named _ found⟩
        simp [core, deleteEntryCustomField, onEntry, within, found, run]
      have later := ih found' (List.nodup_cons.mp nodup).2 fun other member => by
        refine ⟨(held other (List.mem_cons_of_mem _ member)).1, ?_⟩
        have apart : key ≠ other := fun clash => (List.nodup_cons.mp nodup).1 (clash ▸ member)
        rw [attributes, Std.ExtTreeMap.contains_erase]
        simpa [apart] using (held other (List.mem_cons_of_mem _ member)).2
      have step : deleteCustomFields entryId (key :: rest) vault = deleteCustomFields entryId rest vault' := by
        rw [deleteCustomFields, bind_run, ran]
      obtain ⟨entry'', found'', history', protection'⟩ := later.keeps
      exact ⟨step ▸ later.succeeds, entry'', step ▸ found'', history'.trans history, protection'.trans protection⟩

theorem upsertEntryCustomField_edits {field : EntryCustomFieldDto} (given : ¬ (trimText field.key).isEmpty) :
    EditsEntry entryId (core (upsertEntryCustomField entryId
      { key := field.key, value := field.value, isProtected := field.isProtected }))
      fun _ => CustomFieldFits field := by
  intro vault entry found
  have named : field.key.isEmpty = false := by
    cases empty : field.key.isEmpty with
    | false => rfl
    | true =>
        rw [String.isEmpty_iff.mp empty] at given
        exact absurd (by decide) given
  have key : validateUnprotectedXmlText field.key "custom field key" = .ok () ↔ isXml10Text field.key :=
    validateUnprotectedXmlText_ok
  have value : validateXmlTextWithProtection field.value field.isProtected "custom field value" = .ok () ↔
      field.isProtected ∨ isXml10Text field.value :=
    validateXmlTextWithProtection_ok
  have fits : CustomFieldFits field ↔ isReservedEntryCustomFieldKey field.key = false ∧
      validateUnprotectedXmlText field.key "custom field key" = .ok () ∧
      validateXmlTextWithProtection field.value field.isProtected "custom field value" = .ok () := by
    simp only [CustomFieldFits, given, Bool.false_eq_true, false_or, key, value]
  refine .inside found ?_ ?_
  · rw [fits]
    simp only [writeCustomField, bind_run, named, Bool.not_false, ensure_true]
    cases isReservedEntryCustomFieldKey field.key with
    | true => simp [Except.toOption]
    | false =>
        cases validateUnprotectedXmlText field.key "custom field key" with
        | error e => simp [Except.toOption]
        | ok =>
            cases validateXmlTextWithProtection field.value field.isProtected "custom field value" with
            | error e => simp [Except.toOption]
            | ok => simp [Except.toOption]
  · simp only [writeCustomField, bind_run, named, Bool.not_false, ensure_true]
    cases isReservedEntryCustomFieldKey field.key with
    | true => exact ⟨rfl, rfl, rfl⟩
    | false =>
        cases validateUnprotectedXmlText field.key "custom field key" with
        | error e => exact ⟨rfl, rfl, rfl⟩
        | ok =>
            cases validateXmlTextWithProtection field.value field.isProtected "custom field value" with
            | error e => exact ⟨rfl, rfl, rfl⟩
            | ok => exact ⟨rfl, rfl, rfl⟩

theorem upsertCustomFields_edits : ∀ fields : List EntryCustomFieldDto,
    EditsEntry entryId (upsertCustomFields entryId fields) fun _ => ∀ field ∈ fields, CustomFieldFits field
  | [] => (EditsEntry.pure ()).congr fun _ => by simp
  | field :: rest => by
      have later := upsertCustomFields_edits rest
      unfold upsertCustomFields
      split
      · rename_i blank
        refine .congr ((EditsEntry.pure ()).bind fun _ => later) fun _ => ?_
        have fits : CustomFieldFits field := .inl blank
        simp [fits]
      · rename_i given
        refine .congr ((upsertEntryCustomField_edits given).bind fun _ => later) fun _ => ?_
        simp

theorem listEntryCustomFields_keys (entry : Entry) :
    ((listEntryCustomFields entry).map (·.key)).Sublist entry.attributes.keys := by
  have keys : (listEntryCustomFields entry).map (·.key) =
      (entry.attributes.toList.filter fun pair => !isReservedEntryCustomFieldKey pair.1).map Prod.fst := by
    simp [listEntryCustomFields, Function.comp_def]
  rw [keys, ← Std.ExtTreeMap.map_fst_toList_eq_keys]
  exact List.filter_sublist.map _

theorem mem_listEntryCustomFields {entry : Entry} {key : String}
    (member : key ∈ (listEntryCustomFields entry).map (·.key)) :
    isReservedEntryCustomFieldKey key = false ∧ entry.attributes.contains key := by
  refine ⟨?_, ?_⟩
  · obtain ⟨field, inside, rfl⟩ := List.mem_map.mp member
    obtain ⟨pair, kept, rfl⟩ := List.mem_map.mp inside
    simpa using (List.mem_filter.mp kept).2
  · exact Std.ExtTreeMap.mem_keys.mp ((listEntryCustomFields_keys entry).subset member)

theorem replaceCustomFields_edits (fields : List EntryCustomFieldDto) :
    EditsEntry entryId (replaceCustomFields entryId fields) fun _ => ∀ field ∈ fields, CustomFieldFits field := by
  intro vault entry found
  have nodup := (listEntryCustomFields_keys entry).nodup (Std.ExtTreeMap.nodup_keys (t := entry.attributes))
  have edits := (deleteCustomFields_at found (nodup.filter fun key => !(fields.map (·.key)).contains key)
    fun key member => mem_listEntryCustomFields (List.mem_of_mem_filter member)).bind
      fun _ => upsertCustomFields_edits fields
  have run : replaceCustomFields entryId fields vault = (do
      deleteCustomFields entryId (((listEntryCustomFields entry).map (·.key)).filter fun key =>
        !(fields.map (·.key)).contains key)
      upsertCustomFields entryId fields : VaultEdit Unit) vault := by
    unfold replaceCustomFields
    rw [bind_run, core_readEntry found]
  have whole := edits.congr (iff_of_eq (true_and _))
  exact ⟨run ▸ whole.succeeds, run ▸ whole.keeps⟩

/-- An update of the fields succeeds exactly if the file can hold all that it writes. -/
theorem applyEntryFields_edits (modifiedAt : Nat) (fields : EntryFieldsDto) {requested : Option TotpSpec}
    (settable : ∀ totp, requested = some totp → TotpSettable totp) (had : Bool) :
    EditsEntry entryId (applyEntryFields modifiedAt entryId fields requested had) fun protection =>
      TextsFit protection fields ∧ (∀ field ∈ fields.customFields, CustomFieldFits field) ∧ ClockFits modifiedAt := by
  refine .congr ((updateEntryFields_edits fields).bind fun _ => (updateTotp_edits settable had).bind fun _ =>
    (replaceCustomFields_edits fields.customFields).bind fun _ => touchEntryModifiedAt_edits modifiedAt) fun _ => ?_
  simp

/-! ### Passkeys -/

theorem removeCustomData_run {key : String} {entry : Entry} (held : entry.customData.contains key) :
    ∃ view entry', removeCustomData key entry = (.ok view, entry') ∧ entry'.customData = entry.customData.erase key ∧
      entry'.id = entry.id ∧ entry'.history = entry.history ∧ entry'.fieldProtection = entry.fieldProtection := by
  have present := Std.ExtTreeMap.getElem?_eq_some_getElem held
  simp only [removeCustomData, bind_run, get_run, present, require_some, write_run]
  exact ⟨_, _, rfl, rfl, rfl, rfl, rfl⟩

mutual
theorem entryHasCustomDataKey_put {key : String} {entry entry' : Entry} (named : uuidToString entry'.id = entryId)
    (same : entry'.customData.contains key = entry.customData.contains key) :
    ∀ root : Group, findEntryById entryId root = some entry →
      entryHasCustomDataKey entryId key (putEntryById entryId entry' root) = entryHasCustomDataKey entryId key root
  | ⟨fields, entries, children⟩, found => by
      have search : entries.find? (namedEntry entryId) = entries.find? fun entry => uuidToString entry.id = entryId :=
        rfl
      unfold findEntryById at found
      unfold putEntryById
      cases here : entries.find? fun entry => uuidToString entry.id = entryId with
      | some first =>
          rw [here, Option.some_or] at found
          cases found
          have search' : (replaceEntry entryId entry' entries).find? (namedEntry entryId) = some entry' :=
            findEntry_replace here named
          simp only [Option.isSome_some, if_true]
          unfold entryHasCustomDataKey
          rw [search', search, here, Option.any_some, Option.any_some, same]
      | none =>
          rw [here, Option.none_or] at found
          simp only [Option.isSome_none, Bool.false_eq_true, if_false]
          unfold entryHasCustomDataKey
          rw [childHasCustomDataKey_put named same children found]

theorem childHasCustomDataKey_put {key : String} {entry entry' : Entry} (named : uuidToString entry'.id = entryId)
    (same : entry'.customData.contains key = entry.customData.contains key) :
    ∀ children : List Group, findEntryIn entryId children = some entry →
      childHasCustomDataKey entryId key (putEntryIn entryId entry' children) =
        childHasCustomDataKey entryId key children
  | [], found => by cases found
  | child :: rest, found => by
      unfold findEntryIn at found
      unfold putEntryIn
      cases here : findEntryById entryId child with
      | some first =>
          rw [here, Option.some_or] at found
          cases found
          simp only [Option.isSome_some, if_true]
          unfold childHasCustomDataKey
          rw [entryHasCustomDataKey_put named same child here]
      | none =>
          rw [here, Option.none_or] at found
          simp only [Option.isSome_none, Bool.false_eq_true, if_false]
          unfold childHasCustomDataKey
          rw [childHasCustomDataKey_put named same rest found]
end

/-- Every label that the tree has under the id is a label of the entry that is found first. -/
def LabelsFound (entryId : String) (keys : List String) (root : Group) (entry : Entry) : Prop :=
  ∀ key ∈ keys, entryHasCustomDataKey entryId key root → entry.customData.contains key

theorem clearPasskeyLabels_at {keys : List String} : ∀ {vault : Vault} {entry : Entry},
    findEntryById entryId vault.root = some entry → keys.Nodup →
    EditsAt entryId (clearPasskeyLabels entryId keys) vault entry (LabelsFound entryId keys vault.root entry) := by
  induction keys with
  | nil => exact fun found _ => (EditsEntry.pure () _ _ found).congr (by simp [LabelsFound])
  | cons key rest ih =>
      intro vault entry found nodup
      obtain ⟨apart, distinct⟩ := List.nodup_cons.mp nodup
      have named := findEntryById_named vault.root found
      cases has : entryHasCustomDataKey entryId key vault.root with
      | false =>
          have skip : clearPasskeyLabels entryId (key :: rest) vault = clearPasskeyLabels entryId rest vault := by
            simp [clearPasskeyLabels, bind_run, has]
          have later := ih found distinct
          refine ⟨?_, skip ▸ later.keeps⟩
          rw [skip, later.succeeds]
          simp [LabelsFound, has]
      | true =>
          have unfolded : clearPasskeyLabels entryId (key :: rest) vault =
              (core (deleteEntryCustomData entryId key) >>= fun _ => clearPasskeyLabels entryId rest) vault := by
            simp only [clearPasskeyLabels, bind_run, get_run, has, if_true]
          cases held : entry.customData.contains key with
          | false =>
              have absent := Std.ExtTreeMap.getElem?_eq_none_of_contains_eq_false held
              have fails : core (deleteEntryCustomData entryId key) vault =
                  (.error (.mutation (.customDataNotFound key)), vault) := by
                have same := putEntryById_same entryId vault.root found
                simp [core, deleteEntryCustomData, onEntry, within, found, removeCustomData, bind_run, absent, same]
              refine ⟨?_, entry, ?_, rfl, rfl⟩
              · rw [unfolded, bind_run, fails]
                refine iff_of_false (by simp [Except.toOption]) fun all => ?_
                have clash := all key (List.mem_cons_self ..) has
                simp [held] at clash
              · rw [unfolded, bind_run, fails]
                exact found
          | true =>
              obtain ⟨view, entry', run, data, same, history, protection⟩ := removeCustomData_run held
              have named' : uuidToString entry'.id = entryId := by rw [same, named]
              have ran : core (deleteEntryCustomData entryId key) vault =
                  (.ok view, { vault with root := putEntryById entryId entry' vault.root }) := by
                simp [core, deleteEntryCustomData, onEntry, within, found, run]
              have found' := findEntryById_put named' vault.root found
              have later := ih (show findEntryById entryId
                { vault with root := putEntryById entryId entry' vault.root }.root = some entry' from found') distinct
              have labels : LabelsFound entryId rest (putEntryById entryId entry' vault.root) entry' ↔
                  LabelsFound entryId (key :: rest) vault.root entry := by
                have others (other : String) (member : other ∈ rest) :
                    entry'.customData.contains other = entry.customData.contains other := by
                  have ne : key ≠ other := fun clash => apart (clash ▸ member)
                  rw [data, Std.ExtTreeMap.contains_erase]
                  simp [ne]
                have each (other : String) (member : other ∈ rest) := entryHasCustomDataKey_put named'
                  (others other member) vault.root found
                simp only [LabelsFound, List.forall_mem_cons, held, implies_true, true_and]
                exact forall₂_congr fun other member => by rw [each other member, others other member]
              have step : clearPasskeyLabels entryId (key :: rest) vault =
                  clearPasskeyLabels entryId rest { vault with root := putEntryById entryId entry' vault.root } := by
                rw [unfolded, bind_run, ran]
              obtain ⟨entry'', found'', history', protection'⟩ := later.keeps
              refine ⟨?_, entry'', step ▸ found'', history'.trans history, protection'.trans protection⟩
              rw [step, later.succeeds, labels]

/-- Every text of a passkey that is not protected is one that XML can hold. -/
structure PasskeyTextsFit (passkey : PasskeyRecord) : Prop where
  username : isXml10Text passkey.username
  generatedUserId : ∀ text, passkey.generatedUserId = some text → isXml10Text text
  relyingParty : isXml10Text passkey.relyingParty

theorem setEntryPasskey_edits (passkey : PasskeyRecord) :
    EditsEntry entryId (core (setEntryPasskey entryId passkey)) fun _ => PasskeyTextsFit passkey := by
  refine .congr (.checked (.checked (.checked (.write ?_)))) fun _ => ?_
  · exact fun _ => ⟨rfl, rfl, rfl⟩
  · rw [validateUnprotectedXmlText_ok, validateOptionalXmlText_ok, validateUnprotectedXmlText_ok]
    exact ⟨fun ⟨username, user, party, _⟩ => ⟨username, user, party⟩,
      fun ⟨username, user, party⟩ => ⟨username, user, party, trivial⟩⟩

theorem applyPasskey_at (modifiedAt : Nat) (passkey : PasskeyRecord) {vault : Vault} {entry : Entry}
    (found : findEntryById entryId vault.root = some entry) :
    EditsAt entryId (applyPasskey modifiedAt entryId passkey) vault entry
      (LabelsFound entryId platformPasskeyLabels vault.root entry ∧ PasskeyTextsFit passkey ∧ ClockFits modifiedAt) :=
  (clearPasskeyLabels_at found (by decide)).bind fun _ =>
    (setEntryPasskey_edits passkey).bind fun _ => touchEntryModifiedAt_edits modifiedAt

end Requests

end VaultKern
