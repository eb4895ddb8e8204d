import VaultKern.Runtime.OtpauthUri

/-! # One credential in several forms

A TOTP or a passkey is held as a projection, as the attributes it was read from, or as both.
The attributes that are written are the same, and writing them again changes nothing.
-/

namespace VaultKern

/-! ## Overlays -/

/-- The attributes of a family replaced by others. -/
def overlaid (isKey : String → Bool) (bindings : List (String × CustomField)) (attributes : BTreeMap String CustomField) :
    BTreeMap String CustomField :=
  bindings.foldl (fun m binding => m.insert binding.1 binding.2) (attributes.filter fun key _ => !isKey key)

theorem overlaid_lookup {isKey : String → Bool} {bindings : List (String × CustomField)}
    (own : ∀ binding ∈ bindings, isKey binding.1 = true) (attributes : BTreeMap String CustomField) (key : String) :
    (overlaid isKey bindings attributes)[key]? =
      if isKey key then (BTreeMap.lastWins bindings)[key]? else attributes[key]? := by
  unfold overlaid
  rw [BTreeMap.foldl_insert_lookup, BTreeMap.filter_key_lookup]
  cases known : isKey key with
  | true => simp
  | false =>
      have none : (BTreeMap.lastWins bindings)[key]? = none := by
        cases found : (BTreeMap.lastWins bindings)[key]? with
        | none => rfl
        | some field =>
            have member := own _ (BTreeMap.mem_of_lastWins found)
            rw [known] at member
            cases member
      simp [none]

theorem overlaid_congr {isKey : String → Bool} {bindings : List (String × CustomField)}
    (own : ∀ binding ∈ bindings, isKey binding.1 = true) {first second : BTreeMap String CustomField}
    (others : ∀ key : String, isKey key = false → first[key]? = second[key]?) :
    overlaid isKey bindings first = overlaid isKey bindings second := by
  apply Std.ExtTreeMap.ext_getElem?
  intro key
  rw [overlaid_lookup own, overlaid_lookup own]
  cases known : isKey key with
  | true => rfl
  | false => exact others key known

theorem protectAttributes_lookup (sensitive : String → Bool) (attributes : BTreeMap String CustomField) (key : String) :
    (protectAttributes sensitive attributes)[key]? =
      attributes[key]?.map fun field => if sensitive key then { field with isProtected := true } else field := by
  unfold protectAttributes
  rw [Std.ExtTreeMap.getElem?_map]

/-- The attributes of a TOTP. -/
def totpAttributes (entry : Entry) (totp : TotpSpec) : List (String × CustomField) :=
  [("otp", ⟨entryOtpauthUri entry totp totp.algorithm.uriText, true⟩), ("TimeOtp-Secret-Base32", ⟨totp.secretBase32, true⟩),
    ("TimeOtp-Algorithm", ⟨totp.algorithm.attributeText, false⟩), ("TimeOtp-Length", ⟨toString totp.digits, false⟩),
    ("TimeOtp-Period", ⟨toString totp.periodSeconds, false⟩)]

theorem totpAttributes_own (entry : Entry) (totp : TotpSpec) :
    ∀ binding ∈ totpAttributes entry totp, isTotpPersistentAttributeKey binding.1 = true := by
  intro binding member
  simp only [totpAttributes, List.mem_cons, List.not_mem_nil, or_false] at member
  rcases member with rfl | rfl | rfl | rfl | rfl <;> (dsimp only; decide)

theorem visitAttributes_own (passkey : PasskeyRecord) :
    ∀ binding ∈ passkey.visitAttributes, PasskeyRecord.isPersistentAttributeKey binding.1 = true := by
  intro binding member
  unfold PasskeyRecord.visitAttributes at member
  simp only [List.mem_append, List.mem_cons, List.not_mem_nil, or_false, Option.mem_toList,
    Option.map_eq_some_iff] at member
  rcases member with (((((rfl | rfl) | ⟨_, -, rfl⟩) | rfl | rfl) | ⟨_, -, rfl⟩) | rfl | rfl) <;> (dsimp only; decide)

/-- What is written for the TOTP attributes. -/
def totpOverlay (entry : Entry) (totp : Option TotpSpec) (attributes : BTreeMap String CustomField) : BTreeMap String CustomField :=
  match totp with
  | some totp => overlaid isTotpPersistentAttributeKey (totpAttributes entry totp) attributes
  | none => protectAttributes isTotpSecretPersistentAttributeKey attributes

/-- What is written for the passkey attributes. -/
def passkeyOverlay (passkey : Option PasskeyRecord) (attributes : BTreeMap String CustomField) : BTreeMap String CustomField :=
  match passkey with
  | some passkey => overlaid PasskeyRecord.isPersistentAttributeKey passkey.visitAttributes attributes
  | none => protectAttributes PasskeyRecord.isSensitivePersistentAttributeKey attributes

theorem materialize_eq (entry : Entry) :
    materializeEntryPersistentAttributes entry =
      passkeyOverlay (entry.passkey.or (PasskeyRecord.fromAttributes entry.attributes))
        (totpOverlay entry (entry.totp.or (totpFromPersistentAttributes entry.attributes)) entry.attributes) := by
  unfold materializeEntryPersistentAttributes passkeyOverlay totpOverlay
  rfl

/-! ## Reading what was written -/

/-- Two attributes of one value, whatever their protection. -/
def SameValue (a b : Option CustomField) : Prop := a.map (·.value) = b.map (·.value)

theorem SameValue.isSome {a b : Option CustomField} (same : SameValue a b) : a.isSome = b.isSome := by
  have present := congrArg Option.isSome same
  rwa [Option.isSome_map, Option.isSome_map] at present

theorem SameValue.algorithm {a b : Option CustomField} (same : SameValue a b) :
    parseDiscreteTotpAlgorithm a = parseDiscreteTotpAlgorithm b := by
  unfold SameValue at same
  cases a <;> cases b <;> simp_all [parseDiscreteTotpAlgorithm]

theorem SameValue.number {a b : Option CustomField} (same : SameValue a b) (bound default : Nat) :
    parseDiscreteTotpNumber bound a default = parseDiscreteTotpNumber bound b default := by
  unfold SameValue at same
  cases a <;> cases b <;> simp_all [parseDiscreteTotpNumber]

theorem SameValue.flag {a b : Option CustomField} (same : SameValue a b) : parsePasskeyFlag a = parsePasskeyFlag b := by
  unfold SameValue at same
  cases a <;> cases b <;> simp_all [parsePasskeyFlag]

theorem SameValue.any {a b : Option CustomField} (same : SameValue a b) (p : String → Bool) :
    a.any (fun field => p field.value) = b.any fun field => p field.value := by
  unfold SameValue at same
  cases a <;> cases b <;> simp_all

theorem SameValue.all {a b : Option CustomField} (same : SameValue a b) (p : String → Bool) :
    a.all (fun field => p field.value) = b.all fun field => p field.value := by
  unfold SameValue at same
  cases a <;> cases b <;> simp_all

/-- Only the values of the TOTP attributes count. -/
theorem totpFromPersistentAttributes_congr {m n : BTreeMap String CustomField}
    (values : ∀ key : String, isTotpPersistentAttributeKey key = true → SameValue m[key]? n[key]?) :
    totpFromPersistentAttributes m = totpFromPersistentAttributes n := by
  have present (key : String) (own : isTotpPersistentAttributeKey key = true) : key ∈ m.keys ↔ key ∈ n.keys := by
    rw [Std.ExtTreeMap.mem_keys, Std.ExtTreeMap.mem_keys, ← Std.ExtTreeMap.isSome_getElem?_iff_mem,
      ← Std.ExtTreeMap.isSome_getElem?_iff_mem, (values key own).isSome]
  have foreign : (m.keys.any fun key => isTotpPersistentAttributeKey key && !isProjectableTotpAttributeKey key) =
      n.keys.any fun key => isTotpPersistentAttributeKey key && !isProjectableTotpAttributeKey key := by
    rw [Bool.eq_iff_iff, List.any_eq_true, List.any_eq_true]
    constructor
    · rintro ⟨key, inside, own⟩
      exact ⟨key, (present key (Bool.and_eq_true _ _ ▸ own).1).mp inside, own⟩
    · rintro ⟨key, inside, own⟩
      exact ⟨key, (present key (Bool.and_eq_true _ _ ▸ own).1).mpr inside, own⟩
  have uri := values "otp" (by decide)
  have secret := values "TimeOtp-Secret-Base32" (by decide)
  have algorithm := values "TimeOtp-Algorithm" (by decide)
  have length := values "TimeOtp-Length" (by decide)
  have period := values "TimeOtp-Period" (by decide)
  have contains : m.contains "TimeOtp-Secret-Base32" = n.contains "TimeOtp-Secret-Base32" := by
    have same := secret.isSome
    rwa [← Std.ExtTreeMap.contains_eq_isSome_getElem?, ← Std.ExtTreeMap.contains_eq_isSome_getElem?] at same
  have discrete (spec : TotpSpec) : discreteTotpMatches m spec = discreteTotpMatches n spec := by
    unfold discreteTotpMatches
    rw [secret.any (fun value => value = spec.secretBase32), algorithm.algorithm, length.number, period.number]
  have parameters (spec : TotpSpec) : presentDiscreteTotpParametersMatch m spec = presentDiscreteTotpParametersMatch n spec := by
    unfold presentDiscreteTotpParametersMatch
    have algorithms := algorithm.all fun value => parseDiscreteTotpAlgorithm (some ⟨value, false⟩) = some spec.algorithm
    rw [length.all (fun value => parseUnsigned (2 ^ 32) value = some spec.digits),
      period.all (fun value => parseUnsigned (2 ^ 64) value = some spec.periodSeconds)]
    congr 2
  unfold totpFromPersistentAttributes
  rw [foreign, contains]
  simp only [discrete, parameters]
  unfold SameValue at uri
  cases left : m["otp"]? <;> cases right : n["otp"]? <;> simp_all

theorem fromAttributes_values (m : BTreeMap String CustomField) : PasskeyRecord.fromAttributes m = (do
    let username ← m[PasskeyRecord.usernameKey]?.map (·.value)
    let credentialId ← m[PasskeyRecord.credentialIdKey]?.map (·.value)
    let privateKeyPem ← m[PasskeyRecord.privateKeyPemKey]?.map (·.value)
    let relyingParty ← m[PasskeyRecord.relyingPartyKey]?.map (·.value)
    let backupEligible ← parsePasskeyFlag m[PasskeyRecord.flagBeKey]?
    let backupState ← parsePasskeyFlag m[PasskeyRecord.flagBsKey]?
    some
      { username, credentialId, privateKeyPem, relyingParty, backupEligible, backupState
        generatedUserId := m[PasskeyRecord.generatedUserIdKey]?.map (·.value)
        userHandle := m[PasskeyRecord.userHandleKey]?.map (·.value) }) := by
  unfold PasskeyRecord.fromAttributes
  cases m[PasskeyRecord.usernameKey]? with
  | none => rfl
  | some username =>
      cases m[PasskeyRecord.credentialIdKey]? with
      | none => rfl
      | some credentialId =>
          cases m[PasskeyRecord.privateKeyPemKey]? with
          | none => rfl
          | some privateKeyPem => cases m[PasskeyRecord.relyingPartyKey]? <;> rfl

theorem fromAttributes_congr {m n : BTreeMap String CustomField}
    (values : ∀ key : String, PasskeyRecord.isPersistentAttributeKey key = true → SameValue m[key]? n[key]?) :
    PasskeyRecord.fromAttributes m = PasskeyRecord.fromAttributes n := by
  have username := values PasskeyRecord.usernameKey (by decide)
  have credentialId := values PasskeyRecord.credentialIdKey (by decide)
  have privateKeyPem := values PasskeyRecord.privateKeyPemKey (by decide)
  have relyingParty := values PasskeyRecord.relyingPartyKey (by decide)
  have generatedUserId := values PasskeyRecord.generatedUserIdKey (by decide)
  have userHandle := values PasskeyRecord.userHandleKey (by decide)
  have backupEligible := (values PasskeyRecord.flagBeKey (by decide)).flag
  have backupState := (values PasskeyRecord.flagBsKey (by decide)).flag
  unfold SameValue at *
  rw [fromAttributes_values, fromAttributes_values, username, credentialId, privateKeyPem, relyingParty, generatedUserId,
    userHandle, backupEligible, backupState]

/-! ## Written and read -/

/-- The TOTP is read from what is written for it. -/
theorem totpFromPersistentAttributes_written {entry : Entry} {spec : TotpSpec} (readable : spec.Readable)
    {m : BTreeMap String CustomField} (written : ∀ key : String, isTotpPersistentAttributeKey key = true →
      m[key]? = (BTreeMap.lastWins (totpAttributes entry spec))[key]?) :
    totpFromPersistentAttributes m = some spec := by
  have uri : m["otp"]? = some ⟨entryOtpauthUri entry spec spec.algorithm.uriText, true⟩ := by
    rw [written _ (by decide)]
    simp [totpAttributes, BTreeMap.lastWins_lookup_cons]
  have secret : m["TimeOtp-Secret-Base32"]? = some ⟨spec.secretBase32, true⟩ := by
    rw [written _ (by decide)]
    simp [totpAttributes, BTreeMap.lastWins_lookup_cons]
  have algorithm : m["TimeOtp-Algorithm"]? = some ⟨spec.algorithm.attributeText, false⟩ := by
    rw [written _ (by decide)]
    simp [totpAttributes, BTreeMap.lastWins_lookup_cons]
  have length : m["TimeOtp-Length"]? = some ⟨toString spec.digits, false⟩ := by
    rw [written _ (by decide)]
    simp [totpAttributes, BTreeMap.lastWins_lookup_cons]
  have period : m["TimeOtp-Period"]? = some ⟨toString spec.periodSeconds, false⟩ := by
    rw [written _ (by decide)]
    simp [totpAttributes, BTreeMap.lastWins_lookup_cons]
  have foreign : (m.keys.any fun key => isTotpPersistentAttributeKey key && !isProjectableTotpAttributeKey key) = false := by
    rw [List.any_eq_false]
    intro key inside own
    rw [Bool.and_eq_true] at own
    rw [Std.ExtTreeMap.mem_keys, BTreeMap.mem_iff_lookup] at inside
    obtain ⟨field, found⟩ := inside
    rw [written key own.1] at found
    have member := BTreeMap.mem_of_lastWins found
    simp only [totpAttributes, List.mem_cons, Prod.mk.injEq, List.not_mem_nil, or_false] at member
    rcases member with ⟨rfl, -⟩ | ⟨rfl, -⟩ | ⟨rfl, -⟩ | ⟨rfl, -⟩ | ⟨rfl, -⟩ <;> exact absurd own.2 (by decide)
  have contains : m.contains "TimeOtp-Secret-Base32" = true := by
    rw [Std.ExtTreeMap.contains_iff_mem, BTreeMap.mem_iff_lookup]
    exact ⟨_, secret⟩
  have matching : discreteTotpMatches m spec = true := by
    have digits : spec.digits < 2 ^ 32 := by
      have := readable.digits
      omega
    have known : parseDiscreteTotpAlgorithm (some ⟨spec.algorithm.attributeText, false⟩) = some spec.algorithm := by
      cases spec.algorithm <;> decide
    unfold discreteTotpMatches
    rw [secret, algorithm, length, period, known]
    simp only [parseDiscreteTotpNumber, Kdbx.parseUnsigned_toString digits, Kdbx.parseUnsigned_toString readable.period.2,
      Option.any_some, decide_true, Bool.and_self]
  unfold totpFromPersistentAttributes
  rw [foreign, uri, contains]
  simp only [Option.bind_eq_bind, Option.bind_some, parseOtpauth_entryOtpauthUri readable, matching, if_true,
    Bool.false_eq_true, if_false]

/-- The passkey is read from what is written for it. -/
theorem fromAttributes_written {passkey : PasskeyRecord} {m : BTreeMap String CustomField}
    (written : ∀ key : String, PasskeyRecord.isPersistentAttributeKey key = true →
      m[key]? = (BTreeMap.lastWins passkey.visitAttributes)[key]?) :
    PasskeyRecord.fromAttributes m = some passkey := by
  have flag (value : Bool) : parsePasskeyFlag (some ⟨PasskeyRecord.flagText value, false⟩) = some value := by
    cases value <;> decide
  rw [fromAttributes_values, written _ (by decide), written _ (by decide), written _ (by decide), written _ (by decide),
    written _ (by decide), written _ (by decide), written _ (by decide), written _ (by decide)]
  obtain ⟨username, credentialId, generatedUserId, privateKeyPem, relyingParty, userHandle, eligible, state⟩ := passkey
  cases generatedUserId <;> cases userHandle <;>
    simp [PasskeyRecord.visitAttributes, BTreeMap.lastWins_lookup_cons, flag, PasskeyRecord.usernameKey,
      PasskeyRecord.credentialIdKey, PasskeyRecord.generatedUserIdKey, PasskeyRecord.privateKeyPemKey,
      PasskeyRecord.relyingPartyKey, PasskeyRecord.userHandleKey, PasskeyRecord.flagBeKey, PasskeyRecord.flagBsKey]

/-! ## The forms -/

theorem passkey_key_not_totp {key : String} (passkey : PasskeyRecord.isPersistentAttributeKey key = true) :
    isTotpPersistentAttributeKey key = false := by
  cases totp : isTotpPersistentAttributeKey key with
  | false => rfl
  | true =>
      rw [totp_key_not_passkey totp] at passkey
      cases passkey

theorem secret_key_totp {key : String} (other : isTotpPersistentAttributeKey key = false) :
    isTotpSecretPersistentAttributeKey key = false := by
  unfold isTotpPersistentAttributeKey at other
  unfold isTotpSecretPersistentAttributeKey
  simp only [List.mem_cons, not_or, decide_eq_false_iff_not] at other ⊢
  tauto

theorem sensitive_key_passkey {key : String} (other : PasskeyRecord.isPersistentAttributeKey key = false) :
    PasskeyRecord.isSensitivePersistentAttributeKey key = false := by
  unfold PasskeyRecord.isPersistentAttributeKey at other
  unfold PasskeyRecord.isSensitivePersistentAttributeKey
  simp only [List.mem_cons, not_or, decide_eq_false_iff_not] at other ⊢
  tauto

theorem totpOverlay_other (entry : Entry) (totp : Option TotpSpec) (attributes : BTreeMap String CustomField) {key : String}
    (other : isTotpPersistentAttributeKey key = false) : (totpOverlay entry totp attributes)[key]? = attributes[key]? := by
  cases totp with
  | some totp =>
      unfold totpOverlay
      rw [overlaid_lookup (totpAttributes_own entry totp), other]
      rfl
  | none =>
      unfold totpOverlay
      rw [protectAttributes_lookup, secret_key_totp other]
      simp

theorem passkeyOverlay_other (passkey : Option PasskeyRecord) (attributes : BTreeMap String CustomField) {key : String}
    (other : PasskeyRecord.isPersistentAttributeKey key = false) :
    (passkeyOverlay passkey attributes)[key]? = attributes[key]? := by
  cases passkey with
  | some passkey =>
      unfold passkeyOverlay
      rw [overlaid_lookup (visitAttributes_own passkey), other]
      rfl
  | none =>
      unfold passkeyOverlay
      rw [protectAttributes_lookup, sensitive_key_passkey other]
      simp

theorem totpOverlay_lookup_congr (entry : Entry) (totp : Option TotpSpec) {first second : BTreeMap String CustomField}
    {key : String} (same : first[key]? = second[key]?) :
    (totpOverlay entry totp first)[key]? = (totpOverlay entry totp second)[key]? := by
  cases totp with
  | some totp =>
      unfold totpOverlay
      rw [overlaid_lookup (totpAttributes_own entry totp), overlaid_lookup (totpAttributes_own entry totp), same]
  | none =>
      unfold totpOverlay
      rw [protectAttributes_lookup, protectAttributes_lookup, same]

theorem totpOverlay_congr (entry : Entry) (totp : TotpSpec) {first second : BTreeMap String CustomField}
    (others : ∀ key : String, isTotpPersistentAttributeKey key = false → first[key]? = second[key]?) :
    totpOverlay entry (some totp) first = totpOverlay entry (some totp) second :=
  overlaid_congr (totpAttributes_own entry totp) others

theorem passkeyOverlay_congr (passkey : PasskeyRecord) {first second : BTreeMap String CustomField}
    (others : ∀ key : String, PasskeyRecord.isPersistentAttributeKey key = false → first[key]? = second[key]?) :
    passkeyOverlay (some passkey) first = passkeyOverlay (some passkey) second :=
  overlaid_congr (visitAttributes_own passkey) others

/-- What was written before is written again. -/
theorem totpOverlay_again {entry : Entry} {totp : Option TotpSpec} {attributes m : BTreeMap String CustomField}
    (written : ∀ key : String, isTotpPersistentAttributeKey key = true →
      m[key]? = (totpOverlay entry totp attributes)[key]?) : totpOverlay entry totp m = m := by
  apply Std.ExtTreeMap.ext_getElem?
  intro key
  cases own : isTotpPersistentAttributeKey key with
  | false => exact totpOverlay_other entry totp m own
  | true =>
      rw [written key own]
      cases totp with
      | some totp =>
          unfold totpOverlay
          rw [overlaid_lookup (totpAttributes_own entry totp), overlaid_lookup (totpAttributes_own entry totp), own]
          rfl
      | none =>
          have here := written key own
          unfold totpOverlay at here ⊢
          rw [protectAttributes_lookup, here, protectAttributes_lookup, Option.map_map]
          congr 1
          funext field
          simp only [Function.comp_apply]
          split <;> rfl

theorem passkeyOverlay_again {passkey : Option PasskeyRecord} {attributes : BTreeMap String CustomField} :
    passkeyOverlay passkey (passkeyOverlay passkey attributes) = passkeyOverlay passkey attributes := by
  cases passkey with
  | some passkey => exact passkeyOverlay_congr passkey fun key other => passkeyOverlay_other (some passkey) attributes other
  | none =>
      unfold passkeyOverlay
      apply Std.ExtTreeMap.ext_getElem?
      intro key
      rw [protectAttributes_lookup, protectAttributes_lookup, Option.map_map]
      congr 1
      funext field
      simp only [Function.comp_apply]
      split <;> rfl

theorem SameValue.protected (sensitive : String → Bool) (attributes : BTreeMap String CustomField) (key : String) :
    SameValue (protectAttributes sensitive attributes)[key]? attributes[key]? := by
  unfold SameValue
  rw [protectAttributes_lookup, Option.map_map]
  congr 1
  funext field
  simp only [Function.comp_apply]
  split <;> rfl

theorem totp_of_attributes_readable {attributes : BTreeMap String CustomField} {spec : TotpSpec}
    (source : totpFromPersistentAttributes attributes = some spec) : spec.Readable := by
  unfold totpFromPersistentAttributes at source
  dsimp only at source
  by_cases foreign : (attributes.keys.any fun key =>
      isTotpPersistentAttributeKey key && !isProjectableTotpAttributeKey key) = true
  · rw [if_pos foreign] at source
    cases source
  rw [if_neg foreign] at source
  simp only [Option.bind_eq_bind, Option.bind_eq_some_iff] at source
  obtain ⟨field, -, uri, parsed, source⟩ := source
  have same : uri = spec := by
    split at source
    · split at source
      · cases source
        rfl
      · cases source
    · split at source
      · cases source
        rfl
      · cases source
  rw [← same]
  exact parseOtpauth_readable parsed

/-- The TOTP and the passkey are read from what is written for an entry, unless a TOTP of a form that
    no attributes have is written. -/
theorem materialize_read {entry : Entry} (readable : ∀ spec, entry.totp = some spec → spec.Readable) :
    totpFromPersistentAttributes (materializeEntryPersistentAttributes entry) =
        entry.totp.or (totpFromPersistentAttributes entry.attributes) ∧
      PasskeyRecord.fromAttributes (materializeEntryPersistentAttributes entry) =
        entry.passkey.or (PasskeyRecord.fromAttributes entry.attributes) := by
  rw [materialize_eq]
  generalize known : entry.totp.or (totpFromPersistentAttributes entry.attributes) = totp
  generalize given : entry.passkey.or (PasskeyRecord.fromAttributes entry.attributes) = passkey
  constructor
  · cases totp with
    | some spec =>
        have held : spec.Readable := by
          cases projection : entry.totp with
          | some other =>
              rw [projection] at known
              cases known
              exact readable spec projection
          | none =>
              rw [projection] at known
              exact totp_of_attributes_readable known
        apply @totpFromPersistentAttributes_written entry spec held
        intro key own
        rw [passkeyOverlay_other passkey _ (totp_key_not_passkey own)]
        unfold totpOverlay
        rw [overlaid_lookup (totpAttributes_own entry spec), own]
        rfl
    | none =>
        have unread : totpFromPersistentAttributes entry.attributes = none := (Option.or_eq_none_iff.mp known).2
        refine (totpFromPersistentAttributes_congr ?_).trans unread
        intro key own
        rw [passkeyOverlay_other passkey _ (totp_key_not_passkey own)]
        exact .protected _ _ _
  · cases passkey with
    | some passkey =>
        apply fromAttributes_written
        intro key own
        unfold passkeyOverlay
        rw [overlaid_lookup (visitAttributes_own passkey), own]
        rfl
    | none =>
        have unread : PasskeyRecord.fromAttributes entry.attributes = none := (Option.or_eq_none_iff.mp given).2
        refine (fromAttributes_congr ?_).trans unread
        intro key own
        rw [← totpOverlay_other entry totp entry.attributes (passkey_key_not_totp own)]
        exact .protected _ _ _

theorem materialize_again {entry : Entry} (readable : ∀ spec, entry.totp = some spec → spec.Readable) :
    materializeEntryPersistentAttributes
        { entry with attributes := materializeEntryPersistentAttributes entry, totp := none, passkey := none } =
      materializeEntryPersistentAttributes entry := by
  obtain ⟨totp, passkey⟩ := materialize_read readable
  rw [materialize_eq]
  simp only [Option.none_or, totp, passkey]
  have written : ∀ key : String, isTotpPersistentAttributeKey key = true →
      (materializeEntryPersistentAttributes entry)[key]? =
        (totpOverlay entry (entry.totp.or (totpFromPersistentAttributes entry.attributes)) entry.attributes)[key]? := by
    intro key own
    rw [materialize_eq, passkeyOverlay_other _ _ (totp_key_not_passkey own)]
  have kept := totpOverlay_again written
  have renamed (totp : Option TotpSpec) (m : BTreeMap String CustomField) :
      totpOverlay { entry with attributes := m, totp := none, passkey := none } totp m = totpOverlay entry totp m := by
    cases totp <;> rfl
  rw [renamed, kept, materialize_eq]
  exact passkeyOverlay_again

/-- A TOTP without the attributes it was read from, and with them. -/
theorem materialize_totp {entry : Entry} {spec : TotpSpec}
    (source : totpFromPersistentAttributes entry.attributes = some spec) :
    materializeEntryPersistentAttributes { entry with totp := some spec } =
        materializeEntryPersistentAttributes { entry with totp := none } ∧
      materializeEntryPersistentAttributes
          { entry with
            totp := some spec
            attributes := entry.attributes.filter fun key _ => !isTotpPersistentAttributeKey key } =
        materializeEntryPersistentAttributes { entry with totp := none } := by
  constructor
  · rw [materialize_eq, materialize_eq]
    simp only [Option.some_or, Option.none_or, source]
    rfl
  · rw [materialize_eq, materialize_eq]
    have filtered (key : String) (other : isTotpPersistentAttributeKey key = false) :
        (entry.attributes.filter fun key _ => !isTotpPersistentAttributeKey key)[key]? = entry.attributes[key]? := by
      rw [BTreeMap.filter_key_lookup, other]
      rfl
    have passkey : PasskeyRecord.fromAttributes (entry.attributes.filter fun key _ => !isTotpPersistentAttributeKey key) =
        PasskeyRecord.fromAttributes entry.attributes := by
      apply fromAttributes_congr
      intro key own
      rw [filtered key (passkey_key_not_totp own)]
      rfl
    simp only [Option.some_or, Option.none_or, source, passkey]
    exact congrArg _ (totpOverlay_congr entry spec filtered)

/-- A passkey without the attributes it was read from, and with them. -/
theorem materialize_passkey {entry : Entry} {passkey : PasskeyRecord}
    (source : PasskeyRecord.fromAttributes entry.attributes = some passkey) :
    materializeEntryPersistentAttributes { entry with passkey := some passkey } =
        materializeEntryPersistentAttributes { entry with passkey := none } ∧
      materializeEntryPersistentAttributes
          { entry with
            passkey := some passkey
            attributes := entry.attributes.filter fun key _ => !PasskeyRecord.isPersistentAttributeKey key } =
        materializeEntryPersistentAttributes { entry with passkey := none } := by
  constructor
  · rw [materialize_eq, materialize_eq]
    simp only [Option.some_or, Option.none_or, source]
    rfl
  · rw [materialize_eq, materialize_eq]
    have filtered (key : String) (other : PasskeyRecord.isPersistentAttributeKey key = false) :
        (entry.attributes.filter fun key _ => !PasskeyRecord.isPersistentAttributeKey key)[key]? = entry.attributes[key]? := by
      rw [BTreeMap.filter_key_lookup, other]
      rfl
    have totp : totpFromPersistentAttributes
        (entry.attributes.filter fun key _ => !PasskeyRecord.isPersistentAttributeKey key) =
          totpFromPersistentAttributes entry.attributes := by
      apply totpFromPersistentAttributes_congr
      intro key own
      rw [filtered key (totp_key_not_passkey own)]
      rfl
    simp only [Option.some_or, Option.none_or, source, totp]
    apply passkeyOverlay_congr
    intro key other
    exact totpOverlay_lookup_congr entry _ (filtered key other)

end VaultKern
