import Mathlib.Data.List.TakeWhile
import VaultKern.Core.Places
import VaultKern.Guarantees.RuntimeEdits
import VaultKern.Runtime.OtpauthUri

/-! # TOTPs in URIs

The URI of the file says a TOTP exactly. The URI of the details is written by another encoder,
so some TOTPs come back as others when an entry is saved as it was shown.
-/

namespace VaultKern

open Attempt

/-! ## The URI of the file -/

/-- What can be said is read back, and what was read is said the same way again. -/
theorem otpauthUri_roundTrip (entry : Entry) (totp : TotpSpec) :
    (∀ account, totp.accountName = some account → account ≠ "" → (∀ issuer, totp.issuer = some issuer → issuer ≠ "") →
      (totp.issuer = none → ':' ∉ account.toList) → totp.secretBase32 ≠ "" → 1 ≤ totp.digits → totp.digits ≤ 9 →
      0 < totp.periodSeconds → totp.periodSeconds < 2 ^ 64 →
      TotpSpec.parseOtpauth (entryOtpauthUri entry totp totp.algorithm.uriText) = some totp) ∧
    ∀ uri, TotpSpec.parseOtpauth uri = some totp →
      TotpSpec.parseOtpauth (entryOtpauthUri entry totp totp.algorithm.uriText) = some totp := by
  constructor
  · intro account held named issuer colon secret fewest most positive small
    apply parseOtpauth_entryOtpauthUri
    constructor
    · exact secret
    · exact ⟨account, held, named⟩
    · exact issuer
    · intro absent other same
      cases held.symm.trans same
      exact colon absent
    · exact ⟨fewest, most⟩
    · exact ⟨positive, small⟩
  · intro uri parsed
    exact parseOtpauth_entryOtpauthUri (parseOtpauth_readable parsed) entry

def colonTotp : TotpSpec :=
  { secretBase32 := "JBSWY3DP", algorithm := .sha256, digits := 8, periodSeconds := 60, issuer := some "Häuser & Co: 100%"
    accountName := some " alice:%3A" }

theorem otpauthUri_roundTrip_colons :
    TotpSpec.parseOtpauth (entryOtpauthUri { id := 1, title := "Mail" } colonTotp colonTotp.algorithm.uriText) =
      some colonTotp :=
  (otpauthUri_roundTrip { id := 1, title := "Mail" } colonTotp).1 " alice:%3A" rfl (by decide) (by intro _ same; cases same; decide)
    (by intro absent; cases absent) (by decide) (by decide) (by decide) (by decide) (by decide)

/-! ## The encoding of forms -/

/-- The characters that the encoding of forms writes for a byte. -/
def formByte (byte : UInt8) : List Char :=
  let c := Char.ofNat byte.toNat
  if c.isAlphanum || c = '*' || c = '-' || c = '.' || c = '_' then [c]
  else if c = ' ' then ['+']
  else ['%', hexUpper (byte.toNat / 16), hexUpper (byte.toNat % 16)]

theorem formEncode_toList (text : String) : (formEncode text).toList = text.toUTF8.toList.flatMap formByte := by
  unfold formEncode
  rw [String.toList_ofList]
  rfl

/-- A blank comes back as a plus sign. -/
def plusByte (byte : UInt8) : UInt8 := if byte = 32 then 43 else byte

def isFormChar (c : Char) : Bool := c ≠ ':' && c ≠ '?' && c ≠ '&' && c ≠ '='

theorem formByte_checks (byte : UInt8) : checksByte (plusByte byte) (formByte byte) = true ∧
    ∀ c ∈ formByte byte, isFormChar c = true ∧ c.toNat < 128 := by
  have table : (List.range 256).all (fun n => checksByte (plusByte (UInt8.ofNat n)) (formByte (UInt8.ofNat n)) &&
      (formByte (UInt8.ofNat n)).all fun c => isFormChar c && decide (c.toNat < 128)) = true := by decide +kernel
  have here := List.all_eq_true.mp table byte.toNat (List.mem_range.mpr byte.toNat_lt)
  rw [UInt8.ofNat_toNat] at here
  simpa only [Bool.and_eq_true, List.all_eq_true, decide_eq_true_eq] using here

theorem formByte_encoded (byte : UInt8) : EncodedByte (plusByte byte) (formByte byte) :=
  encodedByte_of_checks (formByte_checks byte).1

theorem formEncoded_char {text : String} {c : Char} (member : c ∈ (formEncode text).toList) :
    isFormChar c = true ∧ c.toNat < 128 := by
  rw [formEncode_toList, List.mem_flatMap] at member
  obtain ⟨byte, _, here⟩ := member
  exact (formByte_checks byte).2 c here

theorem not_mem_formEncoded {text : String} {c : Char} (other : isFormChar c = false) : c ∉ (formEncode text).toList := by
  intro member
  rw [(formEncoded_char member).1] at other
  cases other

theorem percentDecodeBytes_form (bytes : List UInt8) :
    percentDecodeBytes ((bytes.flatMap formByte).map charByte) = bytes.map plusByte := by
  induction bytes with
  | nil => rfl
  | cons byte rest ih =>
      rw [List.flatMap_cons, List.map_append, (formByte_encoded byte).decoded, ih, List.map_cons]

/-- The text with a plus sign for every blank. -/
def plusText (text : String) : String := String.ofList (text.toList.map fun c => if c = ' ' then '+' else c)

theorem plusText_bytes (text : String) : (plusText text).toUTF8.toList = text.toUTF8.toList.map plusByte := by
  have char (c : Char) : String.utf8EncodeChar (if c = ' ' then '+' else c) = (String.utf8EncodeChar c).map plusByte := by
    by_cases blank : c = ' '
    · subst blank
      decide
    · rw [if_neg blank, eq_comm, List.map_congr_left, List.map_id]
      intro byte member
      unfold plusByte
      rw [if_neg]
      · rfl
      · rintro rfl
        exact blank (Char.ext (UInt32.toNat_inj.mp (Utf8.ascii_byte member (by decide))))
  rw [← String.ofList_toList (s := text), plusText, String.toList_ofList, Utf8.bytes_ofList, Utf8.bytes_ofList]
  induction text.toList with
  | nil => rfl
  | cons c rest ih => rw [List.map_cons, List.flatMap_cons, List.flatMap_cons, List.map_append, char, ih]

theorem percentDecode_form (text : String) : percentDecode (formEncode text).toList = some (plusText text) := by
  unfold percentDecode
  rw [Utf8.bytes_ascii fun c member => (formEncoded_char member).2, formEncode_toList]
  have decoded := percentDecodeBytes_form text.toUTF8.toList
  unfold charByte at decoded
  rw [decoded, ← plusText_bytes]
  exact Utf8.fromUTF8_bytes (plusText text)

theorem plusText_eq {text : String} : plusText text = text ↔ ' ' ∉ text.toList := by
  have each : text.toList.map (fun c => if c = ' ' then '+' else c) = text.toList ↔
      ∀ c ∈ text.toList, (if c = ' ' then '+' else c) = c := by
    conv_lhs => rhs; rw [← List.map_id text.toList]
    exact List.map_inj_left
  rw [plusText, ← String.toList_inj, String.toList_ofList, each]
  constructor
  · intro same blank
    cases same ' ' blank
  · intro free c member
    rw [if_neg]
    rintro rfl
    exact free member

theorem plusText_ne_empty {text : String} (given : text ≠ "") : plusText text ≠ "" := by
  intro empty
  apply given
  rw [← String.toList_inj] at empty ⊢
  rw [plusText, String.toList_ofList] at empty
  exact List.map_eq_nil_iff.mp empty

theorem mem_plusText {text : String} {c : Char} (other : c ≠ '+') (member : c ∈ (plusText text).toList) :
    c ∈ text.toList := by
  rw [plusText, String.toList_ofList, List.mem_map] at member
  obtain ⟨before, inside, same⟩ := member
  split at same
  · exact absurd same.symm other
  · exact same ▸ inside

/-! ## The URI of the details -/

/-- What the URI of the details says about a TOTP with an account. -/
def shownTotp (title : String) (totp : TotpSpec) (account : String) : TotpSpec :=
  { totp with
    secretBase32 := plusText totp.secretBase32
    issuer := (some (plusText (totp.issuer.getD title))).filter fun issuer => !issuer.isEmpty
    accountName := some (plusText account) }

theorem parseOtpauthLabel_form (issuer account : String) :
    parseOtpauthLabel ((formEncode issuer).toList ++ ':' :: (formEncode account).toList) =
      some (some (plusText issuer), some (plusText account)) := by
  unfold parseOtpauthLabel
  rw [splitOnce_append (not_mem_formEncoded (by decide))]
  simp only [percentDecode_form]
  rfl

theorem parseOtpauth_totpToUri {title username account : String} {totp : TotpSpec} (readable : totp.Readable)
    (held : totp.accountName = some account) :
    TotpSpec.parseOtpauth (totpToUri title username totp) = some (shownTotp title totp account) := by
  have named : account ≠ "" := by
    obtain ⟨other, same, named⟩ := readable.account
    cases held.symm.trans same
    exact named
  have given : account.isEmpty = false := by simpa using named
  generalize issuerText : totp.issuer.getD title = issuer
  have written : (totpToUri title username totp).toList = otpauthPrefix.toList ++
      (((formEncode issuer).toList ++ ':' :: (formEncode account).toList) ++ '?' ::
        (parameterChars "secret" (formEncode totp.secretBase32).toList ++ '&' ::
          (parameterChars "issuer" (formEncode issuer).toList ++ '&' :: lastParameters totp))) := by
    unfold totpToUri lastParameters parameterChars
    simp only [held, issuerText, Option.getD_some, given, Bool.false_eq_true, if_false, String.toList_append,
      List.append_assoc]
    rfl
  have free : '?' ∉ (formEncode issuer).toList ++ ':' :: (formEncode account).toList := by
    simp only [List.mem_append, List.mem_cons, not_or]
    exact ⟨not_mem_formEncoded (by decide), by decide, not_mem_formEncoded (by decide)⟩
  rw [parseOtpauth_pieces free written, totpOfPieces, parseOtpauthLabel_form,
    splitAll_append (parameterChars_free (by decide) (by decide) (not_mem_formEncoded (by decide))),
    splitAll_append (parameterChars_free (by decide) (by decide) (not_mem_formEncoded (by decide))), List.foldlM_cons,
    read_parameter (by decide) (by decide) (by decide) (percentDecode_form totp.secretBase32)]
  simp only [OtpauthQuery.assign, Option.bind_eq_bind, Option.bind_some]
  rw [List.foldlM_cons, read_parameter (by decide) (by decide) (show "issuer" ∉ ["secret"] by decide)
    (percentDecode_form issuer)]
  simp only [OtpauthQuery.assign, Option.bind_eq_bind, Option.bind_some]
  rw [lastParameters_read readable (show ["issuer", "secret"] ⊆ ["issuer", "secret"] by decide)]
  have secret : (plusText totp.secretBase32).isEmpty = false := by simpa using plusText_ne_empty readable.secret
  have shown : (plusText account).isEmpty = false := by simpa using plusText_ne_empty named
  have accepted : (!(1 ≤ totp.digits && totp.digits ≤ 9) || totp.periodSeconds = 0 : Bool) = false := by
    have digits := readable.digits
    have period := readable.period
    simp
    omega
  have colon : (if (plusText issuer).isEmpty then none else some (plusText issuer)) = none →
      ':' ∉ (plusText account).toList := by
    intro absent inside
    have untitled : issuer = "" := by
      by_contra titled
      have filled : (plusText issuer).isEmpty = false := by simpa using plusText_ne_empty titled
      simp [filled] at absent
    cases given : totp.issuer with
    | some name =>
        rw [given, Option.getD_some] at issuerText
        exact readable.issuer name given (issuerText.trans untitled)
    | none => exact readable.colon given account held (mem_plusText (by decide) inside)
  have free : ((if (plusText issuer).isEmpty then none else some (plusText issuer)).isNone &&
      (plusText account).contains ':') = false := by
    rw [Bool.and_eq_false_iff, String.contains_char_eq]
    cases read : (if (plusText issuer).isEmpty then none else some (plusText issuer)) with
    | none => exact .inr (decide_eq_false (colon read))
    | some name => exact .inl rfl
  simp only [Option.bind_some, Option.getD_some, Option.filter_some, secret, shown, Bool.not_false, if_true,
    Bool.false_eq_true, if_false, free, accepted, Bool.false_or]
  unfold shownTotp
  rw [issuerText, Option.filter_some]
  cases (plusText issuer).isEmpty <;> rfl

/-- What the URI of the details says as it is: no text has a blank, and an entry without a title
    lends none to a missing issuer. -/
structure TotpSpec.ShownExactly (title : String) (totp : TotpSpec) : Prop where
  readable : totp.Readable
  secret : ' ' ∉ totp.secretBase32.toList
  account : ∀ name, totp.accountName = some name → ' ' ∉ name.toList
  issuer : ∀ name, totp.issuer = some name → ' ' ∉ name.toList
  untitled : totp.issuer = none → title = ""

theorem shownTotp_eq {title account : String} {totp : TotpSpec} (readable : totp.Readable)
    (held : totp.accountName = some account) : shownTotp title totp account = totp ↔ totp.ShownExactly title := by
  have parts : shownTotp title totp account = totp ↔ plusText totp.secretBase32 = totp.secretBase32 ∧
      ((some (plusText (totp.issuer.getD title))).filter fun issuer => !issuer.isEmpty) = totp.issuer ∧
      plusText account = account := by
    cases totp
    cases held
    simp [shownTotp]
  rw [parts, plusText_eq, plusText_eq]
  constructor
  · rintro ⟨secret, issuer, plain⟩
    refine ⟨readable, secret, ?_, ?_, ?_⟩
    · intro name same
      cases held.symm.trans same
      exact plain
    · intro name same
      rw [same, Option.getD_some, Option.filter_eq_some_iff] at issuer
      exact plusText_eq.mp (Option.some.inj issuer.1)
    · intro absent
      by_contra titled
      have filled : (plusText title).isEmpty = false := by simpa using plusText_ne_empty titled
      rw [absent, Option.getD_none, Option.filter_some, filled] at issuer
      cases issuer
  · intro exactly
    refine ⟨exactly.secret, ?_, exactly.account account held⟩
    cases given : totp.issuer with
    | none =>
        rw [Option.getD_none, exactly.untitled given]
        rfl
    | some name =>
        have filled : name.isEmpty = false := by simpa using readable.issuer name given
        rw [Option.getD_some, plusText_eq.mpr (exactly.issuer name given), Option.filter_some, filled]
        rfl

theorem totpToUri_readsBack {title username : String} {totp : TotpSpec} :
    TotpSpec.parseOtpauth (totpToUri title username totp) = some totp ↔ totp.ShownExactly title := by
  constructor
  · intro parsed
    have readable := parseOtpauth_readable parsed
    obtain ⟨account, held, -⟩ := readable.account
    rw [parseOtpauth_totpToUri readable held] at parsed
    exact (shownTotp_eq readable held).mp (Option.some.inj parsed)
  · intro exactly
    obtain ⟨account, held, -⟩ := exactly.readable.account
    rw [parseOtpauth_totpToUri exactly.readable held, (shownTotp_eq exactly.readable held).mpr exactly]

/-! ## Saving what was shown -/

/-- The fields of the details, to be saved again. -/
def EntryDetailDto.fields (detail : EntryDetailDto) : EntryFieldsDto :=
  { title := detail.title
    username := detail.username
    password := detail.password
    url := detail.url
    notes := detail.notes
    totpUri := detail.totpUri
    customFields := detail.customFields }

/-- The parts of an entry that an edit of its fields writes. -/
structure SameFields (before after : Entry) : Prop where
  totp : after.totp = before.totp
  attributes : after.attributes = before.attributes
  title : after.title = before.title
  username : after.username = before.username
  password : after.password = before.password
  url : after.url = before.url
  notes : after.notes = before.notes
  fieldProtection : after.fieldProtection = before.fieldProtection

/-- Whether it succeeds or not, the step leaves an entry that is as it was in its fields. -/
def KeepsFields {A : Type} (entryId : String) (shown : Entry) (m : VaultEdit A) : Prop :=
  ∀ vault entry, findEntryById entryId vault.root = some entry → SameFields shown entry →
    ∃ entry', findEntryById entryId (m vault).2.root = some entry' ∧ SameFields shown entry'

section Steps

variable {A B : Type} {entryId : String} {shown : Entry}

theorem KeepsFields.pure (a : A) : KeepsFields entryId shown (pure a : VaultEdit A) :=
  fun _ entry found same => ⟨entry, found, same⟩

theorem KeepsFields.bind {m : VaultEdit A} {next : A → VaultEdit B} (first : KeepsFields entryId shown m)
    (second : ∀ a, KeepsFields entryId shown (next a)) : KeepsFields entryId shown (m >>= next) := by
  intro vault entry found same
  obtain ⟨entry', found', same'⟩ := first vault entry found same
  rw [bind_run]
  cases run : m vault with
  | mk result vault' =>
      rw [run] at found'
      cases result with
      | error e => exact ⟨entry', found', same'⟩
      | ok a => exact second a vault' entry' found' same'

/-- The entry that is read has the fields that were shown. -/
theorem KeepsFields.after_read {next : Entry → Mutator A}
    (later : ∀ entry, SameFields shown entry → KeepsFields entryId shown (core (next entry))) :
    KeepsFields entryId shown (core (readEntry entryId >>= next)) := by
  intro vault entry found same
  have run : core (readEntry entryId >>= next) vault = core (next entry) vault := by
    rw [core_bind, bind_run, core_readEntry found]
  rw [run]
  exact later entry same vault entry found same

theorem KeepsFields.checked {m : Mutator B} {next : B → Mutator A} (reads : ReadOnly m)
    (later : ∀ b, KeepsFields entryId shown (core (next b))) : KeepsFields entryId shown (core (m >>= next)) := by
  rw [core_bind]
  refine .bind ?_ later
  intro vault entry found same
  have unread : (core m vault).2 = vault := by
    have state := reads vault
    unfold core
    cases run : m vault with
    | mk result vault' =>
        rw [run] at state
        cases result <;> exact state
  rw [unread]
  exact ⟨entry, found, same⟩

theorem KeepsFields.inside {m : Attempt MutationError Entry A}
    (keeps : ∀ entry, SameFields shown entry → (m entry).2.id = entry.id ∧ SameFields shown (m entry).2) :
    KeepsFields entryId shown (core (onEntry entryId m)) := by
  intro vault entry found same
  obtain ⟨id, same'⟩ := keeps entry same
  have named : uuidToString (m entry).2.id = entryId := by
    rw [id]
    exact findEntryById_named vault.root found
  rw [(core_onEntry found).2]
  exact ⟨(m entry).2, findEntryById_put named vault.root found, same'⟩

theorem snapshotEntryToHistory_keeps : KeepsFields entryId shown (core (snapshotEntryToHistory entryId)) := by
  apply KeepsFields.inside
  intro entry same
  exact ⟨rfl, same.totp, same.attributes, same.title, same.username, same.password, same.url, same.notes,
    same.fieldProtection⟩

theorem updateEntryFields_keeps : KeepsFields entryId shown (core (updateEntryFields entryId
    { title := some shown.title
      username := some shown.username
      password := some shown.password
      url := some shown.url
      notes := some shown.notes })) := by
  apply KeepsFields.after_read
  intro _ _
  apply KeepsFields.checked (.lift _)
  intro _
  apply KeepsFields.inside
  intro entry same
  exact ⟨rfl, same.totp, same.attributes, rfl, rfl, rfl, rfl, rfl, same.fieldProtection⟩

/-- The TOTP that the details say is the TOTP that is set. -/
theorem updateTotp_keeps (readable : ∀ totp, shown.totp = some totp → totp.Readable) :
    KeepsFields entryId shown (updateTotp entryId shown.totp shown.totp.isSome) := by
  unfold updateTotp
  cases given : shown.totp with
  | none => exact .pure ()
  | some totp =>
      obtain ⟨account, held, named⟩ := (readable totp given).account
      have accountGiven : account.isEmpty = false := by simpa using named
      have issuerGiven : totp.issuer.filter (fun issuer => !issuer.isEmpty) = totp.issuer := by
        cases issuer : totp.issuer with
        | none => rfl
        | some name =>
            have filled : name.isEmpty = false := by simpa using (readable totp given).issuer name issuer
            rw [Option.filter_some, filled]
            rfl
      refine .bind ?_ fun _ => .pure ()
      apply KeepsFields.after_read
      intro current _
      refine .checked (.ensure _ _) fun _ => .checked (.ensure _ _) fun _ => .checked (.ensure _ _) fun _ => ?_
      apply KeepsFields.inside
      intro entry same
      refine ⟨rfl, ?_, same.attributes, same.title, same.username, same.password, same.url, same.notes,
        same.fieldProtection⟩
      have account' : ((totp.accountName.filter fun name => !name.isEmpty).getD current.username) = account := by
        rw [held, Option.filter_some, accountGiven]
        rfl
      rw [given]
      cases totp
      simp_all [Entry.retargetStrings]

theorem readOnly_after {E S A B : Type} {m : Attempt E S A} {next : A → Attempt E S B}
    (holds : S → Prop) {s : S} (reads : ReadOnly m) (here : holds s) (later : ∀ a, holds (next a s).2) : holds ((m >>= next) s).2 := by
  have state := reads s
  rw [bind_run]
  cases run : m s with
  | mk result s' =>
      rw [run] at state
      cases state
      cases result with
      | error e => exact here
      | ok a => exact later a

/-- A field that is written as it is leaves the attributes as they are. -/
theorem writeCustomField_keeps {field : EntryCustomFieldDto} (member : field ∈ listEntryCustomFields shown) {entry : Entry}
    (same : SameFields shown entry) :
    (writeCustomField { key := field.key, value := field.value, isProtected := field.isProtected } entry).2.id = entry.id ∧
      SameFields shown
        (writeCustomField { key := field.key, value := field.value, isProtected := field.isProtected } entry).2 := by
  have held : entry.attributes.insert field.key { value := field.value, isProtected := field.isProtected } =
      shown.attributes := by
    obtain ⟨⟨key, custom⟩, inside, rfl⟩ := List.mem_map.mp member
    dsimp only
    have present := Std.ExtTreeMap.mem_toList_iff_getElem?_eq_some.mp (List.mem_filter.mp inside).1
    rw [same.attributes]
    apply Std.ExtTreeMap.ext_getElem?
    intro other
    rw [Std.ExtTreeMap.getElem?_insert]
    split
    · rename_i equal
      rw [← Std.LawfulEqCmp.eq_of_compare equal, present]
    · rfl
  have here : entry.id = entry.id ∧ SameFields shown entry := ⟨rfl, same⟩
  apply readOnly_after (fun after => after.id = entry.id ∧ SameFields shown after) (.ensure _ _) here
  intro _
  apply readOnly_after (fun after => after.id = entry.id ∧ SameFields shown after) (.ensure _ _) here
  intro _
  apply readOnly_after (fun after => after.id = entry.id ∧ SameFields shown after) (.lift _) here
  intro _
  apply readOnly_after (fun after => after.id = entry.id ∧ SameFields shown after) (.lift _) here
  intro _
  refine ⟨rfl, ?_⟩
  exact ⟨same.totp, held, same.title, same.username, same.password, same.url, same.notes, same.fieldProtection⟩

theorem upsertCustomFields_keeps : ∀ fields : List EntryCustomFieldDto, fields ⊆ listEntryCustomFields shown →
    KeepsFields entryId shown (upsertCustomFields entryId fields)
  | [], _ => .pure ()
  | field :: rest, listed => by
      have later := upsertCustomFields_keeps rest fun other member => listed (List.mem_cons_of_mem field member)
      unfold upsertCustomFields
      split
      · exact .bind (.pure ()) fun _ => later
      · refine .bind (.inside fun entry same => ?_) fun _ => later
        exact writeCustomField_keeps (listed List.mem_cons_self) same

theorem replaceCustomFields_keeps : KeepsFields entryId shown (replaceCustomFields entryId (listEntryCustomFields shown)) := by
  intro vault entry found same
  have listed : listEntryCustomFields entry = listEntryCustomFields shown := by
    unfold listEntryCustomFields
    rw [same.attributes]
  have run : replaceCustomFields entryId (listEntryCustomFields shown) vault =
      upsertCustomFields entryId (listEntryCustomFields shown) vault := by
    have kept : ((listEntryCustomFields shown).map (·.key)).filter
        (fun key => !((listEntryCustomFields shown).map (·.key)).contains key) = [] := by
      rw [List.filter_eq_nil_iff]
      intro key member
      simpa using member
    unfold replaceCustomFields
    rw [bind_run, core_readEntry found]
    simp only [listed, kept]
    rfl
  rw [run]
  exact upsertCustomFields_keeps _ (List.Subset.refl _) vault entry found same

theorem touchEntryModifiedAt_keeps (modifiedAt : Nat) :
    KeepsFields entryId shown (touchEntryModifiedAt entryId modifiedAt) := by
  refine .bind (.checked (.ensure _ _) fun _ => .checked (.lift _) fun _ => .checked (.lift _) fun _ => ?_) fun _ => .pure ()
  apply KeepsFields.inside
  intro entry same
  exact ⟨rfl, same.totp, same.attributes, same.title, same.username, same.password, same.url, same.notes,
    same.fieldProtection⟩

/-! ### The history limits -/

theorem trimmed_find {id : String} {before after : List Entry} (trimmed : List.Forall₂ TrimmedEntry before after) :
    Option.Rel TrimmedEntry (before.find? fun entry => uuidToString entry.id = id)
      (after.find? fun entry => uuidToString entry.id = id) := by
  induction trimmed with
  | nil => exact .none
  | @cons entry entry' rest rest' here _ ih =>
      have id' : entry'.id = entry.id := congrArg EntryFields.id here.fields
      rw [List.find?_cons, List.find?_cons, id']
      split
      · exact .some here
      · exact ih

theorem enforceHistoryLimits_keeps : KeepsFields entryId shown (modify enforceHistoryLimits) := by
  intro vault entry found same
  have pairs := @trimmed_find entryId _ _ (enforceHistoryLimits_trimmed vault).entries
  rw [← findEntryById_eq, ← findEntryById_eq, found] at pairs
  show ∃ entry', findEntryById entryId (enforceHistoryLimits vault).root = some entry' ∧ _
  cases after : findEntryById entryId (enforceHistoryLimits vault).root with
  | none =>
      rw [after] at pairs
      cases pairs
  | some entry' =>
      rw [after] at pairs
      cases pairs with
      | some trimmed =>
          refine ⟨entry', rfl, ?_⟩
          have fields := trimmed.fields
          exact ⟨(congrArg EntryFields.totp fields).trans same.totp,
            (congrArg EntryFields.attributes fields).trans same.attributes,
            (congrArg EntryFields.title fields).trans same.title,
            (congrArg EntryFields.username fields).trans same.username,
            (congrArg EntryFields.password fields).trans same.password,
            (congrArg EntryFields.url fields).trans same.url, (congrArg EntryFields.notes fields).trans same.notes,
            (congrArg EntryFields.fieldProtection fields).trans same.fieldProtection⟩

/-- The whole edit, with the TOTP that the entry has. -/
theorem updateEntryFieldsIn_keeps {totpCode : TotpSpec → Nat → Option String} {now modifiedAt : Nat}
    (readable : ∀ totp, shown.totp = some totp → totp.Readable) :
    KeepsFields entryId shown
      (updateEntryFieldsIn modifiedAt entryId (entryDetail totpCode now shown).fields shown.totp) := by
  intro vault entry found same
  have run : updateEntryFieldsIn modifiedAt entryId (entryDetail totpCode now shown).fields shown.totp vault =
      editWithHistory entryId (applyEntryFields modifiedAt entryId (entryDetail totpCode now shown).fields shown.totp
        shown.totp.isSome) vault := by
    simp only [updateEntryFieldsIn, readEntryTotp, bind_run, core_readEntry found, pure_run, same.totp]
  rw [run]
  have edit : KeepsFields entryId shown (editWithHistory entryId (applyEntryFields modifiedAt entryId
      (entryDetail totpCode now shown).fields shown.totp shown.totp.isSome)) := by
    refine .bind snapshotEntryToHistory_keeps fun _ => .bind ?_ fun _ => enforceHistoryLimits_keeps
    refine .bind updateEntryFields_keeps fun _ => .bind (updateTotp_keeps readable) fun _ => ?_
    exact .bind replaceCustomFields_keeps fun _ => touchEntryModifiedAt_keeps modifiedAt
  exact edit vault entry found same

end Steps

theorem getEntryDetail_reads (totpCode : TotpSpec → Nat → Option String) (vaultId entryId : String) :
    ReadOnly (getEntryDetail totpCode vaultId entryId) :=
  .bind .get fun _ => .bind (.lift _) fun _ => .bind (.require _ _) fun _ => .pure _

theorem readOnly_last {E S A B : Type} {m : Attempt E S A} {next : A → Attempt E S B} {s : S}
    (reads : ∀ a, ReadOnly (next a)) : ((m >>= next) s).2 = (m s).2 := by
  rw [bind_run]
  cases m s with
  | mk result s' =>
      cases result with
      | error e => rfl
      | ok a => exact reads a s'

/-- Saving the details as they are leaves the fields of the entry as they are, and what the details
    say of a TOTP is the TOTP. -/
structure SavedAsShown (totpCode : TotpSpec → Nat → Option String) (session : Session) (vaultId entryId : String)
    (entry : Entry) (detail : EntryDetailDto) : Prop where
  kept : ∃ vault' entry', (Runtime.updateEntryFields totpCode vaultId entryId detail.fields session).2.vault vaultId =
    .ok vault' ∧ findEntryById entryId vault'.root = some entry' ∧ SameFields entry entry'
  said : ∀ totp, entry.totp = some totp → ∃ uri, detail.totpUri = some uri ∧ TotpSpec.parseOtpauth uri = some totp

theorem trimText_given {text : String} {c : Char} (member : c ∈ text.toList) (solid : isWhitespace c = false) :
    (trimText text).isEmpty = false := by
  have kept : c ∈ text.toList.dropWhile isWhitespace := by
    have parts : text.toList.takeWhile isWhitespace ++ text.toList.dropWhile isWhitespace = text.toList :=
      List.takeWhile_append_dropWhile
    rw [← parts, List.mem_append] at member
    rcases member with front | back
    · have blank := List.all_takeWhile (p := isWhitespace) (l := text.toList)
      rw [List.all_eq_true.mp blank c front] at solid
      cases solid
    · exact back
  rw [← Bool.not_eq_true, String.isEmpty_iff, ← String.toList_eq_nil_iff, trimText, String.toList_ofList,
    List.reverse_eq_nil_iff, List.dropWhile_eq_nil_iff]
  intro blank
  rw [blank c (List.mem_reverse.mpr kept)] at solid
  cases solid

/-- The fields survive exactly if the details say the TOTP of the entry, if it has one. -/
theorem shownFields_saved_iff {totpCode : TotpSpec → Nat → Option String} {session : Session} {vaultId entryId : String}
    {vault : Vault} {entry : Entry} {detail : EntryDetailDto} (opened : session.vault vaultId = .ok vault)
    (found : findEntryById entryId vault.root = some entry)
    (shown : (getEntryDetail totpCode vaultId entryId session).1 = .ok detail) :
    SavedAsShown totpCode session vaultId entryId entry detail ↔
      ∀ totp, entry.totp = some totp → totp.ShownExactly entry.title := by
  obtain ⟨vault', entry', opened', found', rfl⟩ := (getEntryDetail_ok totpCode session vaultId entryId detail).mp shown
  cases opened.symm.trans opened'
  cases found.symm.trans found'
  constructor
  · intro saved totp held
    obtain ⟨uri, said, parsed⟩ := saved.said totp held
    simp only [entryDetail, held, Option.map_some, Option.some.injEq] at said
    subst said
    exact totpToUri_readsBack.mp parsed
  · intro exactly
    have parsed : parseTotpUri (entryDetail totpCode session.now entry).fields.totpUri = .ok entry.totp := by
      simp only [EntryDetailDto.fields, entryDetail, parseTotpUri]
      cases held : entry.totp with
      | none => rfl
      | some totp =>
          have given : (trimText (totpToUri entry.title entry.username totp)).isEmpty = false := by
            refine trimText_given (c := 'o') ?_ (by decide)
            unfold totpToUri
            simp only [String.toList_append, List.mem_append]
            iterate 10 apply Or.inl
            exact .inl (by decide)
          simp only [Option.map_some, given, Bool.false_eq_true, if_false, totpToUri_readsBack.mpr (exactly totp held)]
    have readable (totp : TotpSpec) (held : entry.totp = some totp) := (exactly totp held).readable
    constructor
    · have keeps : KeepsFields entryId entry (updateEntryFieldsIn session.now entryId
          (entryDetail totpCode session.now entry).fields entry.totp) := updateEntryFieldsIn_keeps readable
      obtain ⟨entry', found', same⟩ := keeps vault entry found ⟨rfl, rfl, rfl, rfl, rfl, rfl, rfl, rfl⟩
      refine ⟨_, entry', ?_, found', same⟩
      have state : (Runtime.updateEntryFields totpCode vaultId entryId
          (entryDetail totpCode session.now entry).fields session).2 =
          (onVault vaultId (updateEntryFieldsIn session.now entryId (entryDetail totpCode session.now entry).fields
            entry.totp) session).2 := by
        rw [Runtime.updateEntryFields, bind_run, get_run, parsed]
        exact readOnly_last fun _ => getEntryDetail_reads _ _ _
      rw [state, onVault, opened]
      exact (Session.vault_insert session vaultId _ vaultId).trans (if_pos rfl)
    · intro totp held
      refine ⟨totpToUri entry.title entry.username totp, ?_, totpToUri_readsBack.mpr (exactly totp held)⟩
      simp only [entryDetail, held, Option.map_some]

def webTotp (issuer : String) : TotpSpec :=
  { secretBase32 := "JBSWY3DP", algorithm := .sha1, digits := 6, periodSeconds := 30, issuer := some issuer
    accountName := some "alice" }

def webEntry (issuer : String) : Entry :=
  { id := 2, title := "Web", totp := some (webTotp issuer)
    attributes := (∅ : BTreeMap String CustomField).insert "Pin" { value := "1234", isProtected := true } }

def webVault (issuer : String) : Vault :=
  { name := "Web", root := { id := 1, title := "Root", entries := [webEntry issuer] } }

def webSession (issuer : String) : Session :=
  { loaded := (∅ : BTreeMap String (Option Vault)).insert "web" (some (webVault issuer))
    activeVaultId := some "web"
    now := 1700000000 }

def webDetail (issuer : String) : EntryDetailDto := entryDetail (fun _ _ => none) 1700000000 (webEntry issuer)

theorem webSession_opened (issuer : String) : (webSession issuer).vault "web" = .ok (webVault issuer) := by
  simp [webSession, Session.vault]

theorem webSession_found (issuer : String) :
    findEntryById (uuidToString 2) (webVault issuer).root = some (webEntry issuer) := by
  simp [webVault, webEntry, findEntryById]

theorem webSession_shown (issuer : String) :
    (getEntryDetail (fun _ _ => none) "web" (uuidToString 2) (webSession issuer)).1 = .ok (webDetail issuer) :=
  (getEntryDetail_ok _ _ _ _ _).mpr ⟨_, _, webSession_opened issuer, webSession_found issuer, rfl⟩

theorem shownFields_saved_web : SavedAsShown (fun _ _ => none) (webSession "Acme") "web" (uuidToString 2)
    (webEntry "Acme") (webDetail "Acme") := by
  apply (shownFields_saved_iff (webSession_opened "Acme") (webSession_found "Acme") (webSession_shown "Acme")).mpr
  rintro _ ⟨⟩
  refine ⟨⟨by decide, ⟨"alice", rfl, by decide⟩, ?_, by nofun, by decide, by decide⟩, by decide, ?_, ?_, by nofun⟩
  all_goals
    rintro _ ⟨⟩
    decide

/-- The blank of an issuer comes back as a plus sign, and an edit of anything else writes it. -/
theorem issuerBlank_rewritten : ¬ ∀ (totpCode : TotpSpec → Nat → Option String) (session : Session)
    (vaultId entryId : String) (vault : Vault) (entry : Entry) (detail : EntryDetailDto),
    session.vault vaultId = .ok vault → findEntryById entryId vault.root = some entry →
      (getEntryDetail totpCode vaultId entryId session).1 = .ok detail →
      SavedAsShown totpCode session vaultId entryId entry detail := by
  intro saved
  obtain ⟨vault', entry', opened', found', same⟩ := (saved _ _ _ _ _ _ _ (webSession_opened "Acme Corp")
    (webSession_found "Acme Corp") (webSession_shown "Acme Corp")).kept
  have rewritten : ((Runtime.updateEntryFields (fun _ _ => none) "web" (uuidToString 2) (webDetail "Acme Corp").fields
      (webSession "Acme Corp")).2.vault "web").toOption.bind (fun vault =>
        (findEntryById (uuidToString 2) vault.root).bind (·.totp)) = some (webTotp "Acme+Corp") := by decide +kernel
  rw [opened'] at rewritten
  simp only [Except.toOption, Option.bind_some, found', same.totp] at rewritten
  exact absurd rewritten (by decide)

end VaultKern
