import VaultKern.Model.Types

/-! # Credential attributes

TOTP secrets and passkeys live in reserved string attributes next to the custom
ones, and once more as parsed projections. The writer emits the materialized
view: the attributes overlaid by whatever projection the entry has.
-/

namespace VaultKern

/-! ## Reserved attribute keys -/

def isProjectableTotpAttributeKey (key : String) : Bool :=
  key ∈ ["otp", "TimeOtp-Secret-Base32", "TimeOtp-Algorithm", "TimeOtp-Length", "TimeOtp-Period"]

def isTotpPersistentAttributeKey (key : String) : Bool :=
  key ∈ ["otp", "TimeOtp-Secret", "TimeOtp-Secret-Hex", "TimeOtp-Secret-Base32", "TimeOtp-Secret-Base64",
    "TimeOtp-Algorithm", "TimeOtp-Length", "TimeOtp-Period", "HmacOtp-Secret", "HmacOtp-Secret-Hex",
    "HmacOtp-Secret-Base32", "HmacOtp-Secret-Base64", "HmacOtp-Counter"]

def isTotpSecretPersistentAttributeKey (key : String) : Bool :=
  key ∈ ["otp", "TimeOtp-Secret", "TimeOtp-Secret-Hex", "TimeOtp-Secret-Base32", "TimeOtp-Secret-Base64",
    "HmacOtp-Secret", "HmacOtp-Secret-Hex", "HmacOtp-Secret-Base32", "HmacOtp-Secret-Base64",
    "HmacOtp-Counter"]

namespace PasskeyRecord

def usernameKey := "KPEX_PASSKEY_USERNAME"
def credentialIdKey := "KPEX_PASSKEY_CREDENTIAL_ID"
def generatedUserIdKey := "KPEX_PASSKEY_GENERATED_USER_ID"
def privateKeyPemKey := "KPEX_PASSKEY_PRIVATE_KEY_PEM"
def relyingPartyKey := "KPEX_PASSKEY_RELYING_PARTY"
def userHandleKey := "KPEX_PASSKEY_USER_HANDLE"
def flagBeKey := "KPEX_PASSKEY_FLAG_BE"
def flagBsKey := "KPEX_PASSKEY_FLAG_BS"

def isPersistentAttributeKey (key : String) : Bool :=
  key ∈ [usernameKey, credentialIdKey, generatedUserIdKey, privateKeyPemKey, relyingPartyKey,
    userHandleKey, flagBeKey, flagBsKey]

def isSensitivePersistentAttributeKey (key : String) : Bool :=
  key ∈ [credentialIdKey, generatedUserIdKey, privateKeyPemKey, userHandleKey]

end PasskeyRecord

def isReservedCredentialAttribute (key : String) : Bool :=
  isTotpPersistentAttributeKey key || PasskeyRecord.isPersistentAttributeKey key

/-- No key belongs to both reserved families. -/
theorem totp_key_not_passkey {key : String} (totp : isTotpPersistentAttributeKey key = true) :
    PasskeyRecord.isPersistentAttributeKey key = false := by
  simp only [isTotpPersistentAttributeKey, List.mem_cons, List.not_mem_nil, or_false,
    decide_eq_true_eq] at totp
  rcases totp with rfl | rfl | rfl | rfl | rfl | rfl | rfl | rfl | rfl | rfl | rfl | rfl | rfl <;> decide

/-! ## Text helpers -/

def eqIgnoreAsciiCase (left right : String) : Bool :=
  left.toList.map Char.toLower = right.toList.map Char.toLower

def splitOnce (separator : Char) : List Char → Option (List Char × List Char)
  | [] => none
  | c :: rest =>
      if c = separator then some ([], rest)
      else (splitOnce separator rest).map fun (before, after) => (c :: before, after)

def splitAll (separator : Char) : List Char → List (List Char)
  | [] => [[]]
  | c :: rest =>
      if c = separator then [] :: splitAll separator rest
      else match splitAll separator rest with
        | piece :: pieces => (c :: piece) :: pieces
        | [] => [[c]]

/-- Unsigned decimal text below `bound`, with an optional plus sign. -/
def parseUnsigned (bound : Nat) (text : String) : Option Nat :=
  let digits := match text.toList with
    | '+' :: rest => rest
    | chars => chars
  if digits.isEmpty then none
  else digits.foldl (fun total c => do
    let n ← total
    if c.isDigit then
      let next := n * 10 + (c.toNat - '0'.toNat)
      if next < bound then some next else none
    else none) (some 0)

def hexNibble (byte : UInt8) : Option UInt8 :=
  if 48 ≤ byte ∧ byte ≤ 57 then some (byte - 48)
  else if 97 ≤ byte ∧ byte ≤ 102 then some (byte - 97 + 10)
  else if 65 ≤ byte ∧ byte ≤ 70 then some (byte - 65 + 10)
  else none

def decodeHexByte (high low : UInt8) : Option UInt8 := do
  let h ← hexNibble high
  let l ← hexNibble low
  some (h <<< 4 ||| l)

/-- An escape is decoded only where two hexadecimal digits follow the percent sign. -/
def percentDecodeBytes : List UInt8 → List UInt8
  | 37 :: high :: low :: rest =>
      match decodeHexByte high low with
      | some value => value :: percentDecodeBytes rest
      | none => 37 :: percentDecodeBytes (high :: low :: rest)
  | byte :: rest => byte :: percentDecodeBytes rest
  | [] => []

def percentDecode (input : List Char) : Option String :=
  String.fromUTF8? ⟨(percentDecodeBytes (String.ofList input).toUTF8.toList).toArray⟩

def hexUpper (nibble : Nat) : Char := "0123456789ABCDEF".toList.getD nibble '0'

def percentEncodeComponent (input : String) : String :=
  String.ofList (input.toUTF8.toList.flatMap fun byte =>
    let c := Char.ofNat byte.toNat
    if c.isAlphanum || c = '-' || c = '.' || c = '_' || c = '~' then [c]
    else ['%', hexUpper (byte.toNat / 16), hexUpper (byte.toNat % 16)])

/-! ## otpauth URIs -/

def splitOnceEncodedLabelSeparator : List Char → Option (List Char × List Char)
  | '%' :: '3' :: c :: rest =>
      if c = 'A' || c = 'a' then some ([], rest)
      else (splitOnceEncodedLabelSeparator ('3' :: c :: rest)).map fun (before, after) =>
        ('%' :: before, after)
  | c :: rest =>
      (splitOnceEncodedLabelSeparator rest).map fun (before, after) => (c :: before, after)
  | [] => none

def trimEncodedLabelSpaces : List Char → List Char
  | '%' :: '2' :: '0' :: rest => trimEncodedLabelSpaces rest
  | chars => chars

/-- The query parameters read so far. `issuer` is present once the parameter was. -/
structure OtpauthQuery where
  names : List String := []
  secret : Option String := none
  issuer : Option (Option String) := none
  algorithm : TotpAlgorithm := .sha1
  digits : Nat := 6
  periodSeconds : Nat := 30

/-- What the value of a parameter sets. -/
def OtpauthQuery.assign (query : OtpauthQuery) (key value : String) : Option OtpauthQuery :=
  match key with
  | "secret" => some { query with secret := some value }
  | "issuer" => some { query with issuer := some (if value.isEmpty then none else some value) }
  | "algorithm" =>
      match String.ofList (value.toList.map Char.toUpper) with
      | "SHA1" | "HMAC-SHA-1" => some { query with algorithm := .sha1 }
      | "SHA256" | "HMAC-SHA-256" => some { query with algorithm := .sha256 }
      | "SHA512" | "HMAC-SHA-512" => some { query with algorithm := .sha512 }
      | _ => none
  | "digits" => do
      let digits ← parseUnsigned (2 ^ 32) value
      some { query with digits }
  | _ => do
      let periodSeconds ← parseUnsigned (2 ^ 64) value
      some { query with periodSeconds }

def OtpauthQuery.read (query : OtpauthQuery) (pair : List Char) : Option OtpauthQuery := do
  if pair.isEmpty then none
  let (keyChars, valueChars) ← splitOnce '=' pair
  let key := String.ofList keyChars
  if !(key ∈ ["secret", "issuer", "algorithm", "digits", "period"]) || key ∈ query.names then none
  let value ← percentDecode valueChars
  { query with names := key :: query.names }.assign key value

/-- Issuer and account of the label. The literal separator wins over the encoded one. -/
def parseOtpauthLabel (label : List Char) : Option (Option String × Option String) :=
  match splitOnce ':' label with
  | some (issuer, account) => do
      let issuer ← percentDecode issuer
      let account ← percentDecode account
      some (some issuer, some account)
  | none =>
      match splitOnceEncodedLabelSeparator label with
      | some (issuer, account) => do
          let issuer ← percentDecode issuer
          let account ← percentDecode (trimEncodedLabelSpaces account)
          some (some issuer, some account)
      | none => do
          let account ← percentDecode label
          some (none, if account.isEmpty then none else some account)

def otpauthPrefix := "otpauth://totp/"

/-- The label and the query of a URI. -/
def totpOfPieces (label query : List Char) : Option TotpSpec := do
  let (labelIssuer, accountName) ← parseOtpauthLabel label
  let labelIssuer := labelIssuer.filter fun issuer => !issuer.isEmpty
  let query ← (splitAll '&' query).foldlM OtpauthQuery.read {}
  let secret ← query.secret
  if secret.isEmpty then none
  let issuer := query.issuer.getD labelIssuer
  let accountName ← accountName.filter fun account => !account.isEmpty
  if (issuer.isNone && accountName.contains ':') || !(1 ≤ query.digits && query.digits ≤ 9)
      || query.periodSeconds = 0 then none
  some
    { secretBase32 := secret
      algorithm := query.algorithm
      digits := query.digits
      periodSeconds := query.periodSeconds
      issuer
      accountName := some accountName }

def TotpSpec.parseOtpauth (uri : String) : Option TotpSpec := do
  let chars := uri.toList
  if !eqIgnoreAsciiCase (String.ofList (chars.take 15)) otpauthPrefix then none
  let (label, query) ← splitOnce '?' (chars.drop 15)
  totpOfPieces label query

/-! ## Projections of the attributes -/

def parseDiscreteTotpAlgorithm (field : Option CustomField) : Option TotpAlgorithm :=
  match field with
  | none => some .sha1
  | some field =>
      if eqIgnoreAsciiCase field.value "HMAC-SHA-1" then some .sha1
      else if eqIgnoreAsciiCase field.value "HMAC-SHA-256" then some .sha256
      else if eqIgnoreAsciiCase field.value "HMAC-SHA-512" then some .sha512
      else none

def parseDiscreteTotpNumber (bound : Nat) (field : Option CustomField) (default : Nat) : Option Nat :=
  match field with
  | some field => parseUnsigned bound field.value
  | none => some default

def discreteTotpMatches (fields : BTreeMap String CustomField) (uri : TotpSpec) : Bool :=
  fields["TimeOtp-Secret-Base32"]?.any (·.value = uri.secretBase32)
    && parseDiscreteTotpAlgorithm fields["TimeOtp-Algorithm"]? = some uri.algorithm
    && parseDiscreteTotpNumber (2 ^ 32) fields["TimeOtp-Length"]? 6 = some uri.digits
    && parseDiscreteTotpNumber (2 ^ 64) fields["TimeOtp-Period"]? 30 = some uri.periodSeconds

def presentDiscreteTotpParametersMatch (fields : BTreeMap String CustomField) (uri : TotpSpec) : Bool :=
  fields["TimeOtp-Algorithm"]?.all (fun field =>
      parseDiscreteTotpAlgorithm (some field) = some uri.algorithm)
    && fields["TimeOtp-Length"]?.all (fun field => parseUnsigned (2 ^ 32) field.value = some uri.digits)
    && fields["TimeOtp-Period"]?.all (fun field =>
      parseUnsigned (2 ^ 64) field.value = some uri.periodSeconds)

/-- The TOTP the reserved attributes stand for, if they are in the projectable form. -/
def totpFromPersistentAttributes (fields : BTreeMap String CustomField) : Option TotpSpec := do
  if fields.keys.any fun key => isTotpPersistentAttributeKey key && !isProjectableTotpAttributeKey key then
    none
  let uriField ← fields["otp"]?
  let uri ← TotpSpec.parseOtpauth uriField.value
  if fields.contains "TimeOtp-Secret-Base32" then
    if discreteTotpMatches fields uri then some uri else none
  else if presentDiscreteTotpParametersMatch fields uri then some uri else none

def parsePasskeyFlag (field : Option CustomField) : Option Bool :=
  match field with
  | none => some false
  | some field =>
      if field.value = "0" then some false
      else if field.value = "1" then some true
      else if eqIgnoreAsciiCase field.value "false" then some false
      else if eqIgnoreAsciiCase field.value "true" then some true
      else none

namespace PasskeyRecord

def fromAttributes (attributes : BTreeMap String CustomField) : Option PasskeyRecord := do
  let username ← attributes[usernameKey]?
  let credentialId ← attributes[credentialIdKey]?
  let privateKeyPem ← attributes[privateKeyPemKey]?
  let relyingParty ← attributes[relyingPartyKey]?
  let backupEligible ← parsePasskeyFlag attributes[flagBeKey]?
  let backupState ← parsePasskeyFlag attributes[flagBsKey]?
  some
    { username := username.value
      credentialId := credentialId.value
      generatedUserId := attributes[generatedUserIdKey]?.map (·.value)
      privateKeyPem := privateKeyPem.value
      relyingParty := relyingParty.value
      userHandle := attributes[userHandleKey]?.map (·.value)
      backupEligible, backupState }

def flagText (flag : Bool) : String := if flag then "1" else "0"

/-- The attributes a passkey is written as, with their protection. -/
def visitAttributes (passkey : PasskeyRecord) : List (String × CustomField) :=
  [(usernameKey, ⟨passkey.username, false⟩), (credentialIdKey, ⟨passkey.credentialId, true⟩)]
    ++ (passkey.generatedUserId.map fun user => (generatedUserIdKey, ⟨user, false⟩)).toList
    ++ [(privateKeyPemKey, ⟨passkey.privateKeyPem, true⟩), (relyingPartyKey, ⟨passkey.relyingParty, false⟩)]
    ++ (passkey.userHandle.map fun handle => (userHandleKey, ⟨handle, true⟩)).toList
    ++ [(flagBeKey, ⟨flagText passkey.backupEligible, false⟩),
      (flagBsKey, ⟨flagText passkey.backupState, false⟩)]

end PasskeyRecord

/-! ## The materialized view -/

def entryOtpauthUri (entry : Entry) (totp : TotpSpec) (algorithm : String) : String :=
  let encode := percentEncodeComponent
  let titled := (encode entry.title ++ ":" ++ encode entry.username, some entry.title)
  let (label, issuer) := match totp.issuer, totp.accountName with
    | none, some account => if account.isEmpty then titled else (encode account, none)
    | none, none => titled
    | some issuer, account =>
        (encode issuer ++ ":" ++ encode (account.getD entry.username), some issuer)
  "otpauth://totp/" ++ label ++ "?secret=" ++ encode totp.secretBase32
    ++ (match issuer with | some issuer => "&issuer=" ++ encode issuer | none => "")
    ++ "&algorithm=" ++ algorithm ++ "&digits=" ++ toString totp.digits
    ++ "&period=" ++ toString totp.periodSeconds

def TotpAlgorithm.attributeText : TotpAlgorithm → String
  | .sha1 => "HMAC-SHA-1"
  | .sha256 => "HMAC-SHA-256"
  | .sha512 => "HMAC-SHA-512"

def TotpAlgorithm.uriText : TotpAlgorithm → String
  | .sha1 => "SHA1"
  | .sha256 => "SHA256"
  | .sha512 => "SHA512"

def overlayTotpProjection (attributes : BTreeMap String CustomField) (entry : Entry) (totp : TotpSpec) :
    BTreeMap String CustomField :=
  (attributes.filter fun key _ => !isTotpPersistentAttributeKey key)
    |>.insert "otp" ⟨entryOtpauthUri entry totp totp.algorithm.uriText, true⟩
    |>.insert "TimeOtp-Secret-Base32" ⟨totp.secretBase32, true⟩
    |>.insert "TimeOtp-Algorithm" ⟨totp.algorithm.attributeText, false⟩
    |>.insert "TimeOtp-Length" ⟨toString totp.digits, false⟩
    |>.insert "TimeOtp-Period" ⟨toString totp.periodSeconds, false⟩

/-- Force protection on the attributes that hold a secret. -/
def protectAttributes (sensitive : String → Bool) (attributes : BTreeMap String CustomField) :
    BTreeMap String CustomField :=
  attributes.map fun key field => if sensitive key then { field with isProtected := true } else field

def materializeEntryPersistentAttributes (entry : Entry) : BTreeMap String CustomField :=
  let attributes := match entry.totp.or (totpFromPersistentAttributes entry.attributes) with
    | some totp => overlayTotpProjection entry.attributes entry totp
    | none => protectAttributes isTotpSecretPersistentAttributeKey entry.attributes
  match entry.passkey.or (PasskeyRecord.fromAttributes entry.attributes) with
  | some passkey =>
      passkey.visitAttributes.foldl (fun m (key, field) => m.insert key field)
        (attributes.filter fun key _ => !PasskeyRecord.isPersistentAttributeKey key)
  | none => protectAttributes PasskeyRecord.isSensitivePersistentAttributeKey attributes

end VaultKern
