import VaultKern.Kdbx.Text
import VaultKern.Lib.Utf8
import VaultKern.Runtime.EditedEntry

/-! # otpauth URIs read back

What was read from an otpauth URI is written as a URI from which it is read again.
-/

namespace VaultKern

/-! ## Percent encoding -/

/-- The characters a byte is written as. -/
def percentByte (byte : UInt8) : List Char :=
  let c := Char.ofNat byte.toNat
  if c.isAlphanum || c = '-' || c = '.' || c = '_' || c = '~' then [c]
  else ['%', hexUpper (byte.toNat / 16), hexUpper (byte.toNat % 16)]

theorem percentEncodeComponent_toList (text : String) :
    (percentEncodeComponent text).toList = text.toUTF8.toList.flatMap percentByte := by
  unfold percentEncodeComponent
  rw [String.toList_ofList]
  rfl

/-- Letters, digits, four marks and the percent sign. -/
def isEncodedChar (c : Char) : Bool := c.isAlphanum || c = '-' || c = '.' || c = '_' || c = '~' || c = '%'

/-- A byte as itself, or escaped. -/
inductive EncodedByte (byte : UInt8) : List Char → Prop where
  | plain {c : Char} : c ≠ '%' → UInt8.ofNat c.toNat = byte → byte ≠ 37 → EncodedByte byte [c]
  | escape {high low : Char} : high ≠ '%' → low ≠ '%' →
      decodeHexByte (UInt8.ofNat high.toNat) (UInt8.ofNat low.toNat) = some byte →
      (high = '3' → low = 'A' ∨ low = 'a' → byte = 58) → EncodedByte byte ['%', high, low]

def checksByte (byte : UInt8) : List Char → Bool
  | [c] => c ≠ '%' && UInt8.ofNat c.toNat = byte && byte ≠ 37
  | ['%', high, low] => high ≠ '%' && low ≠ '%'
      && decodeHexByte (UInt8.ofNat high.toNat) (UInt8.ofNat low.toNat) = some byte
      && ((high ≠ '3' || (low ≠ 'A' && low ≠ 'a')) || byte = 58)
  | _ => false

theorem percentByte_checks (byte : UInt8) : checksByte byte (percentByte byte) = true ∧
    ∀ c ∈ percentByte byte, isEncodedChar c = true ∧ c.toNat < 128 := by
  have table : (List.range 256).all (fun n => checksByte (UInt8.ofNat n) (percentByte (UInt8.ofNat n)) &&
      (percentByte (UInt8.ofNat n)).all fun c => isEncodedChar c && decide (c.toNat < 128)) = true := by decide +kernel
  have here := List.all_eq_true.mp table byte.toNat (List.mem_range.mpr byte.toNat_lt)
  rw [UInt8.ofNat_toNat] at here
  simpa only [Bool.and_eq_true, List.all_eq_true, decide_eq_true_eq] using here

theorem encodedByte_of_checks {byte : UInt8} {chars : List Char} (checks : checksByte byte chars = true) :
    EncodedByte byte chars := by
  unfold checksByte at checks
  split at checks
  · simp only [Bool.and_eq_true, decide_eq_true_eq] at checks
    exact .plain checks.1.1 checks.1.2 checks.2
  · simp only [Bool.and_eq_true, Bool.or_eq_true, decide_eq_true_eq] at checks
    obtain ⟨⟨⟨highPlain, lowPlain⟩, decoded⟩, colon⟩ := checks
    apply EncodedByte.escape highPlain lowPlain decoded
    intro three letter
    rcases colon with (other | ⟨notUpper, notLower⟩) | known
    · exact absurd three other
    · rcases letter with upper | lower
      · exact absurd upper notUpper
      · exact absurd lower notLower
    · exact known
  · cases checks

theorem percentByte_encoded (byte : UInt8) : EncodedByte byte (percentByte byte) :=
  encodedByte_of_checks (percentByte_checks byte).1

theorem encoded_char {text : String} {c : Char} (member : c ∈ (percentEncodeComponent text).toList) :
    isEncodedChar c = true ∧ c.toNat < 128 := by
  rw [percentEncodeComponent_toList, List.mem_flatMap] at member
  obtain ⟨byte, _, here⟩ := member
  exact (percentByte_checks byte).2 c here

theorem not_mem_encoded {text : String} {c : Char} (other : isEncodedChar c = false) :
    c ∉ (percentEncodeComponent text).toList := by
  intro member
  rw [(encoded_char member).1] at other
  cases other

def charByte (c : Char) : UInt8 := UInt8.ofNat c.toNat

theorem percentDecodeBytes_plain {byte : UInt8} (plain : byte ≠ 37) (rest : List UInt8) :
    percentDecodeBytes (byte :: rest) = byte :: percentDecodeBytes rest := by
  rw [percentDecodeBytes]
  intro _ _ _ same
  exact absurd same plain

theorem EncodedByte.decoded {byte : UInt8} {chars : List Char} (encoded : EncodedByte byte chars) (rest : List UInt8) :
    percentDecodeBytes (chars.map charByte ++ rest) = byte :: percentDecodeBytes rest := by
  cases encoded with
  | plain _ same other =>
      rw [List.map_cons, List.map_nil, charByte, same]
      exact percentDecodeBytes_plain other rest
  | escape _ _ decoded _ =>
      simp only [List.map_cons, List.map_nil, List.cons_append, List.nil_append]
      have percent : charByte '%' = 37 := by decide
      rw [percent, percentDecodeBytes]
      simp only [charByte, decoded]

theorem percentDecodeBytes_encoded (bytes : List UInt8) :
    percentDecodeBytes ((bytes.flatMap percentByte).map charByte) = bytes := by
  induction bytes with
  | nil => rfl
  | cons byte rest ih =>
      rw [List.flatMap_cons, List.map_append, (percentByte_encoded byte).decoded, ih]

theorem percentDecode_encoded (text : String) : percentDecode (percentEncodeComponent text).toList = some text := by
  unfold percentDecode
  rw [Utf8.bytes_ascii fun c member => (encoded_char member).2, percentEncodeComponent_toList]
  have decoded := percentDecodeBytes_encoded text.toUTF8.toList
  unfold charByte at decoded
  rw [decoded]
  exact Utf8.fromUTF8_bytes text

/-! ## Splitting -/

theorem splitOnce_append {separator : Char} {before after : List Char} (free : separator ∉ before) :
    splitOnce separator (before ++ separator :: after) = some (before, after) := by
  induction before with
  | nil => simp [splitOnce]
  | cons c rest ih =>
      simp only [List.mem_cons, not_or] at free
      rw [List.cons_append, splitOnce, if_neg (Ne.symm free.1), ih free.2]
      rfl

theorem splitOnce_free {separator : Char} {chars : List Char} (free : separator ∉ chars) :
    splitOnce separator chars = none := by
  induction chars with
  | nil => rfl
  | cons c rest ih =>
      simp only [List.mem_cons, not_or] at free
      rw [splitOnce, if_neg (Ne.symm free.1), ih free.2]
      rfl

theorem splitAll_free {separator : Char} {chars : List Char} (free : separator ∉ chars) :
    splitAll separator chars = [chars] := by
  induction chars with
  | nil => rfl
  | cons c rest ih =>
      simp only [List.mem_cons, not_or] at free
      rw [splitAll, if_neg (Ne.symm free.1), ih free.2]

theorem splitAll_append {separator : Char} {before after : List Char} (free : separator ∉ before) :
    splitAll separator (before ++ separator :: after) = before :: splitAll separator after := by
  induction before with
  | nil => simp [splitAll]
  | cons c rest ih =>
      simp only [List.mem_cons, not_or] at free
      rw [List.cons_append, splitAll, if_neg (Ne.symm free.1), ih free.2]

theorem encodedSeparator_plain {c : Char} (plain : c ≠ '%') (rest : List Char) :
    splitOnceEncodedLabelSeparator (c :: rest) =
      (splitOnceEncodedLabelSeparator rest).map fun (before, after) => (c :: before, after) := by
  rw [splitOnceEncodedLabelSeparator]
  intro _ _ same
  exact absurd same plain

theorem EncodedByte.separator {byte : UInt8} {chars : List Char} (encoded : EncodedByte byte chars) (other : byte ≠ 58)
    {rest : List Char} (free : splitOnceEncodedLabelSeparator rest = none) :
    splitOnceEncodedLabelSeparator (chars ++ rest) = none := by
  cases encoded with
  | plain plain _ _ =>
      rw [List.singleton_append, encodedSeparator_plain plain, free]
      rfl
  | @escape high low highPlain lowPlain _ colon =>
      have behind : splitOnceEncodedLabelSeparator (high :: low :: rest) = none := by
        rw [encodedSeparator_plain highPlain, encodedSeparator_plain lowPlain, free]
        rfl
      simp only [List.cons_append, List.nil_append]
      by_cases three : high = '3'
      · subst three
        rw [splitOnceEncodedLabelSeparator]
        have letter : ¬ (low = 'A' || low = 'a') = true := by
          intro letter
          simp only [Bool.or_eq_true, decide_eq_true_eq] at letter
          exact other (colon rfl letter)
        rw [if_neg letter, behind]
        rfl
      · rw [splitOnceEncodedLabelSeparator, behind]
        · rfl
        · intro c others _ same
          exact absurd (List.cons.inj same).1 three

/-- Byte 58 is the colon. -/
theorem colon_of_byte {text : String} (member : (58 : UInt8) ∈ text.toUTF8.toList) : ':' ∈ text.toList := by
  rw [← String.ofList_toList (s := text), Utf8.bytes_ofList, List.mem_flatMap] at member
  obtain ⟨c, inside, member⟩ := member
  have same : c = ':' := by
    apply Char.ext
    apply UInt32.toNat_inj.mp
    exact Utf8.ascii_byte member (by decide)
  rwa [← same]

theorem encodedSeparator_encoded {text : String} (free : ':' ∉ text.toList) :
    splitOnceEncodedLabelSeparator (percentEncodeComponent text).toList = none := by
  rw [percentEncodeComponent_toList]
  have bytes : (58 : UInt8) ∉ text.toUTF8.toList := fun member => free (colon_of_byte member)
  generalize text.toUTF8.toList = list at bytes
  induction list with
  | nil => rfl
  | cons byte rest ih =>
      simp only [List.mem_cons, not_or] at bytes
      rw [List.flatMap_cons]
      exact (percentByte_encoded byte).separator (Ne.symm bytes.1) (ih bytes.2)

/-! ## Parameters -/

theorem percentDecodeBytes_free {bytes : List UInt8} (free : (37 : UInt8) ∉ bytes) : percentDecodeBytes bytes = bytes := by
  induction bytes with
  | nil => rfl
  | cons byte rest ih =>
      simp only [List.mem_cons, not_or] at free
      rw [percentDecodeBytes_plain (Ne.symm free.1), ih free.2]

/-- ASCII text without a percent sign stands for itself. -/
theorem percentDecode_free {text : String} (ascii : ∀ c ∈ text.toList, c.toNat < 128 ∧ c ≠ '%') :
    percentDecode text.toList = some text := by
  unfold percentDecode
  rw [String.ofList_toList, percentDecodeBytes_free, Utf8.fromUTF8_bytes]
  intro member
  rw [← String.ofList_toList (s := text), Utf8.bytes_ascii fun c inside => (ascii c inside).1, List.mem_map] at member
  obtain ⟨c, inside, same⟩ := member
  have code : c.toNat = 37 := by
    have bytes := congrArg UInt8.toNat same
    rw [UInt8.toNat_ofNat'] at bytes
    have small := (ascii c inside).1
    change c.toNat % 256 = 37 at bytes
    omega
  exact (ascii c inside).2 (Char.ext (UInt32.toNat_inj.mp code))

theorem toString_chars (n : Nat) : ∀ c ∈ (toString n).toList, c.isDigit = true := by
  intro c member
  have spelled : (toString n).toList = Nat.toDigits 10 n := Nat.toList_repr
  rw [spelled] at member
  exact Kdbx.toDigits_digits n c member

theorem percentDecode_toString (n : Nat) : percentDecode (toString n).toList = some (toString n) := by
  apply percentDecode_free
  intro c member
  have digit := toString_chars n c member
  constructor
  · simp only [Char.isDigit, Bool.and_eq_true, decide_eq_true_eq, ge_iff_le, UInt32.le_iff_toNat_le] at digit
    change c.val.toNat < 128
    have upper : c.val.toNat ≤ 57 := digit.2
    omega
  · rintro rfl
    cases digit

/-- A parameter as it is written. -/
def parameterChars (name : String) (value : List Char) : List Char := name.toList ++ '=' :: value

theorem splitOnce_parameter {name : String} {value : List Char} (free : '=' ∉ name.toList) :
    splitOnce '=' (parameterChars name value) = some (name.toList, value) := splitOnce_append free

theorem parameterChars_ne_nil (name : String) (value : List Char) : (parameterChars name value).isEmpty = false := by
  unfold parameterChars
  cases name.toList <;> rfl

theorem read_parameter {query : OtpauthQuery} {name text : String} {value : List Char} (free : '=' ∉ name.toList)
    (known : name ∈ ["secret", "issuer", "algorithm", "digits", "period"]) (fresh : name ∉ query.names)
    (decoded : percentDecode value = some text) :
    query.read (parameterChars name value) = { query with names := name :: query.names }.assign name text := by
  have accepted : (!(name ∈ ["secret", "issuer", "algorithm", "digits", "period"]) || name ∈ query.names : Bool) = false := by
    simp only [known, fresh, decide_true, decide_false, Bool.not_true, Bool.or_false]
  rw [OtpauthQuery.read, parameterChars_ne_nil, splitOnce_parameter free]
  simp only [Option.bind_eq_bind, Option.bind_some, String.ofList_toList, accepted, decoded, Bool.false_eq_true, if_false]

theorem read_secret {query : OtpauthQuery} (fresh : "secret" ∉ query.names) (secret : String) :
    query.read (parameterChars "secret" (percentEncodeComponent secret).toList) =
      some { query with names := "secret" :: query.names, secret := some secret } :=
  read_parameter (by decide) (by decide) fresh (percentDecode_encoded secret)

theorem read_issuer {query : OtpauthQuery} (fresh : "issuer" ∉ query.names) {issuer : String} (named : issuer ≠ "") :
    query.read (parameterChars "issuer" (percentEncodeComponent issuer).toList) =
      some { query with names := "issuer" :: query.names, issuer := some (some issuer) } := by
  rw [read_parameter (by decide) (by decide) fresh (percentDecode_encoded issuer)]
  unfold OtpauthQuery.assign
  have given : issuer.isEmpty = false := by simpa using named
  simp only [given, Bool.false_eq_true, if_false]

theorem read_algorithm {query : OtpauthQuery} (fresh : "algorithm" ∉ query.names) (algorithm : TotpAlgorithm) :
    query.read (parameterChars "algorithm" algorithm.uriText.toList) =
      some { query with names := "algorithm" :: query.names, algorithm } := by
  have decoded : percentDecode algorithm.uriText.toList = some algorithm.uriText := by
    apply percentDecode_free
    have free : (algorithm.uriText.toList.all fun c => decide (c.toNat < 128) && c ≠ '%') = true := by
      cases algorithm <;> rfl
    simpa only [List.all_eq_true, Bool.and_eq_true, decide_eq_true_eq] using free
  rw [read_parameter (by decide) (by decide) fresh decoded]
  cases algorithm <;> rfl

theorem read_digits {query : OtpauthQuery} (fresh : "digits" ∉ query.names) {digits : Nat} (small : digits < 2 ^ 32) :
    query.read (parameterChars "digits" (toString digits).toList) =
      some { query with names := "digits" :: query.names, digits } := by
  rw [read_parameter (by decide) (by decide) fresh (percentDecode_toString digits)]
  unfold OtpauthQuery.assign
  split <;> first | contradiction | rw [Kdbx.parseUnsigned_toString small]; rfl

theorem read_period {query : OtpauthQuery} (fresh : "period" ∉ query.names) {period : Nat} (small : period < 2 ^ 64) :
    query.read (parameterChars "period" (toString period).toList) =
      some { query with names := "period" :: query.names, periodSeconds := period } := by
  rw [read_parameter (by decide) (by decide) fresh (percentDecode_toString period)]
  unfold OtpauthQuery.assign
  split <;> first | contradiction | rw [Kdbx.parseUnsigned_toString small]; rfl

/-! ## The URI -/

/-- A TOTP that a URI can say. -/
structure TotpSpec.Readable (spec : TotpSpec) : Prop where
  secret : spec.secretBase32 ≠ ""
  account : ∃ name, spec.accountName = some name ∧ name ≠ ""
  issuer : ∀ name, spec.issuer = some name → name ≠ ""
  colon : spec.issuer = none → ∀ name, spec.accountName = some name → ':' ∉ name.toList
  digits : 1 ≤ spec.digits ∧ spec.digits ≤ 9
  period : 0 < spec.periodSeconds ∧ spec.periodSeconds < 2 ^ 64

/-- One digit more, while the number stays below the bound. -/
def takeDigit (bound : Nat) (total : Option Nat) (c : Char) : Option Nat := do
  let n ← total
  if c.isDigit then
    let next := n * 10 + (c.toNat - '0'.toNat)
    if next < bound then some next else none
  else none

theorem takeDigit_lt {bound : Nat} {chars : List Char} {total : Option Nat} {n : Nat} (given : chars ≠ [])
    (folded : chars.foldl (takeDigit bound) total = some n) : n < bound := by
  induction chars generalizing total with
  | nil => exact absurd rfl given
  | cons c rest ih =>
      rw [List.foldl_cons] at folded
      cases rest with
      | cons d later => exact ih (by simp) folded
      | nil =>
          rw [List.foldl_nil] at folded
          unfold takeDigit at folded
          simp only [Option.bind_eq_bind, Option.bind_eq_some_iff] at folded
          obtain ⟨m, _, taken⟩ := folded
          split at taken
          · split at taken
            · rename_i small
              cases taken
              exact small
            · cases taken
          · cases taken

theorem parseUnsigned_lt {bound n : Nat} {text : String} (parsed : parseUnsigned bound text = some n) : n < bound := by
  unfold parseUnsigned at parsed
  extract_lets digits at parsed
  split at parsed
  · cases parsed
  · rename_i given
    exact takeDigit_lt (fun empty => given (by rw [empty]; rfl)) parsed

/-- What one parameter sets: its text is decoded from a part of the pair. -/
theorem OtpauthQuery.read_cases {query query' : OtpauthQuery} {pair : List Char} (result : query.read pair = some query') :
    ∃ key value text, splitOnce '=' pair = some (key, value) ∧ percentDecode value = some text ∧
      (query'.secret = query.secret ∨ query'.secret = some text) ∧
      (query'.issuer = query.issuer ∨ query'.issuer = some (if text.isEmpty then none else some text)) ∧
      (query'.periodSeconds = query.periodSeconds ∨ query'.periodSeconds < 2 ^ 64) := by
  rw [OtpauthQuery.read] at result
  split at result
  · cases result
  simp only [Option.bind_eq_bind, Option.bind_eq_some_iff] at result
  obtain ⟨⟨key, value⟩, pieces, result⟩ := result
  split at result
  · cases result
  simp only [Option.bind_eq_some_iff] at result
  obtain ⟨text, decoded, result⟩ := result
  refine ⟨key, value, text, pieces, decoded, ?_⟩
  unfold OtpauthQuery.assign at result
  split at result
  · cases result
    exact ⟨.inr rfl, .inl rfl, .inl rfl⟩
  · cases result
    exact ⟨.inl rfl, .inr rfl, .inl rfl⟩
  · split at result
    all_goals first
      | cases result; exact ⟨.inl rfl, .inl rfl, .inl rfl⟩
      | cases result
  · simp only [Option.bind_eq_bind, Option.bind_eq_some_iff] at result
    obtain ⟨digits, -, result⟩ := result
    cases result
    exact ⟨.inl rfl, .inl rfl, .inl rfl⟩
  · simp only [Option.bind_eq_bind, Option.bind_eq_some_iff] at result
    obtain ⟨period, parsed, result⟩ := result
    cases result
    exact ⟨.inl rfl, .inl rfl, .inr (parseUnsigned_lt parsed)⟩

theorem foldlM_invariant {A B : Type} {step : B → A → Option B} {holds : B → Prop} :
    ∀ {list : List A} {b b' : B}, (∀ b, ∀ a ∈ list, ∀ b', holds b → step b a = some b' → holds b') → holds b →
      list.foldlM step b = some b' → holds b'
  | [], b, b', _, start, result => by
      cases result
      exact start
  | a :: rest, b, b', keeps, start, result => by
      simp only [List.foldlM_cons, Option.bind_eq_bind, Option.bind_eq_some_iff] at result
      obtain ⟨mid, first, later⟩ := result
      exact foldlM_invariant (fun b c member => keeps b c (List.mem_cons_of_mem a member))
        (keeps b a List.mem_cons_self mid start first) later

/-- An empty issuer parameter stands for no issuer, and the period is a number of 64 bits. -/
structure OtpauthQuery.Fits (query : OtpauthQuery) : Prop where
  issuer : ∀ issuer, query.issuer = some (some issuer) → issuer ≠ ""
  period : query.periodSeconds < 2 ^ 64

theorem OtpauthQuery.read_fits {query query' : OtpauthQuery} {pair : List Char} (fits : query.Fits)
    (result : query.read pair = some query') : query'.Fits := by
  obtain ⟨_, _, text, _, _, _, issuer, period⟩ := OtpauthQuery.read_cases result
  constructor
  · rcases issuer with same | same
    · rw [same]
      exact fits.issuer
    · rw [same]
      intro issuer given
      simp only [Option.some.injEq] at given
      split at given
      · cases given
      · rename_i nonempty
        cases given
        simpa using nonempty
  · rcases period with same | small
    · rw [same]
      exact fits.period
    · exact small

/-- What a URI that is read is made of, and what is checked. -/
theorem parseOtpauth_cases {uri : String} {spec : TotpSpec} (parsed : TotpSpec.parseOtpauth uri = some spec) :
    ∃ label text labelIssuer account query, splitOnce '?' (uri.toList.drop 15) = some (label, text) ∧
      parseOtpauthLabel label = some (labelIssuer, some account) ∧
      (splitAll '&' text).foldlM OtpauthQuery.read {} = some query ∧
      query.secret = some spec.secretBase32 ∧ spec.accountName = some account ∧
      spec.issuer = query.issuer.getD (labelIssuer.filter fun issuer => !issuer.isEmpty) ∧
      spec.periodSeconds = query.periodSeconds ∧ spec.secretBase32 ≠ "" ∧ account ≠ "" ∧
      (spec.issuer = none → ':' ∉ account.toList) ∧ (1 ≤ spec.digits ∧ spec.digits ≤ 9) ∧ spec.periodSeconds ≠ 0 := by
  unfold TotpSpec.parseOtpauth totpOfPieces at parsed
  dsimp only at parsed
  split at parsed
  · cases parsed
  simp only [Option.bind_eq_bind, Option.bind_eq_some_iff] at parsed
  obtain ⟨⟨label, text⟩, pieces, ⟨labelIssuer, account⟩, labelled, query, read, secret, given, parsed⟩ := parsed
  split at parsed
  · cases parsed
  rename_i secretGiven
  simp only [Option.bind_eq_some_iff, Option.filter_eq_some_iff] at parsed
  obtain ⟨name, ⟨rfl, nameGiven⟩, parsed⟩ := parsed
  split at parsed
  · cases parsed
  rename_i checked
  cases parsed
  refine ⟨label, text, labelIssuer, name, query, pieces, labelled, read, given, rfl, rfl, rfl, by simpa using secretGiven,
    by simpa using nameGiven, ?_, ?_, ?_⟩
  · intro none
    dsimp only at none
    rw [none] at checked
    simp at checked
    exact checked.1.1
  · simp at checked
    exact checked.1.2.imp_left Nat.pos_of_ne_zero
  · simp at checked
    exact checked.2

theorem parseOtpauth_readable {uri : String} {spec : TotpSpec} (parsed : TotpSpec.parseOtpauth uri = some spec) :
    spec.Readable := by
  obtain ⟨_, _, labelIssuer, account, query, _, _, read, _, accountName, issuer, period, secretGiven, given, colon, digits,
    positive⟩ := parseOtpauth_cases parsed
  have fits : query.Fits := foldlM_invariant (fun _ _ _ _ => OtpauthQuery.read_fits) ⟨by nofun, by decide⟩ read
  constructor
  · exact secretGiven
  · exact ⟨account, accountName, given⟩
  · intro name same
    rw [issuer] at same
    cases fromQuery : query.issuer with
    | none =>
        rw [fromQuery, Option.getD_none, Option.filter_eq_some_iff] at same
        simpa using same.2
    | some parameter =>
        rw [fromQuery, Option.getD_some] at same
        subst same
        exact fits.issuer name fromQuery
  · intro none name same
    rw [accountName] at same
    cases same
    exact colon none
  · exact digits
  · exact ⟨Nat.pos_of_ne_zero positive, period ▸ fits.period⟩

/-- What can be read can be set. -/
theorem TotpSpec.Readable.settable {spec : TotpSpec} (readable : spec.Readable) : TotpSettable spec where
  account := by
    obtain ⟨name, same, given⟩ := readable.account
    exact ⟨name, same, by simpa using given⟩
  secret := by simpa using readable.secret
  issuer none name same := by
    have absent : spec.issuer = Option.none := by
      cases given : spec.issuer with
      | none => rfl
      | some issuer =>
          rw [given, Option.filter_eq_none_iff] at none
          exact absurd (by simpa using readable.issuer issuer given) (none issuer rfl)
    simpa using readable.colon absent name same

/-- The pieces of a URI. -/
theorem parseOtpauth_pieces {uri : String} {label query : List Char} (free : '?' ∉ label)
    (written : uri.toList = otpauthPrefix.toList ++ (label ++ '?' :: query)) :
    TotpSpec.parseOtpauth uri = totpOfPieces label query := by
  have length : otpauthPrefix.toList.length = 15 := by decide
  have known : eqIgnoreAsciiCase (String.ofList otpauthPrefix.toList) otpauthPrefix = true := by decide
  unfold TotpSpec.parseOtpauth
  dsimp only
  rw [written, List.take_left' length, List.drop_left' length, splitOnce_append free, known]
  rfl

theorem parseOtpauthLabel_account {account : String} (named : account ≠ "") (free : ':' ∉ account.toList) :
    parseOtpauthLabel (percentEncodeComponent account).toList = some (none, some account) := by
  have given : account.isEmpty = false := by simpa using named
  unfold parseOtpauthLabel
  rw [splitOnce_free (not_mem_encoded (by decide)), encodedSeparator_encoded free, percentDecode_encoded]
  simp only [Option.bind_eq_bind, Option.bind_some, given, Bool.false_eq_true, if_false]

theorem parseOtpauthLabel_issuer (issuer account : String) :
    parseOtpauthLabel ((percentEncodeComponent issuer).toList ++ ':' :: (percentEncodeComponent account).toList) =
      some (some issuer, some account) := by
  unfold parseOtpauthLabel
  rw [splitOnce_append (not_mem_encoded (by decide))]
  simp only [percentDecode_encoded]
  rfl

theorem parameterChars_free {name : String} {value : List Char} {separator : Char} (other : separator ≠ '=')
    (name_free : separator ∉ name.toList) (value_free : separator ∉ value) : separator ∉ parameterChars name value := by
  unfold parameterChars
  simp only [List.mem_append, List.mem_cons, not_or]
  exact ⟨name_free, other, value_free⟩

theorem toString_free {c : Char} (other : c.isDigit = false) (n : Nat) : c ∉ (toString n).toList := by
  intro member
  rw [toString_chars n c member] at other
  cases other

/-- The parameters behind the secret and the issuer. -/
def lastParameters (spec : TotpSpec) : List Char :=
  parameterChars "algorithm" spec.algorithm.uriText.toList ++ '&' ::
    (parameterChars "digits" (toString spec.digits).toList ++ '&' ::
      parameterChars "period" (toString spec.periodSeconds).toList)

theorem lastParameters_read {spec : TotpSpec} (readable : spec.Readable) {query : OtpauthQuery}
    (names : query.names ⊆ ["issuer", "secret"]) :
    (splitAll '&' (lastParameters spec)).foldlM OtpauthQuery.read query =
      some { query with
        names := "period" :: "digits" :: "algorithm" :: query.names, algorithm := spec.algorithm
        digits := spec.digits, periodSeconds := spec.periodSeconds } := by
  have fresh {name : String} (other : name ∉ ["issuer", "secret"]) : name ∉ query.names := fun member => other (names member)
  have algorithm_free : '&' ∉ spec.algorithm.uriText.toList := by cases spec.algorithm <;> decide
  unfold lastParameters
  rw [splitAll_append (parameterChars_free (by decide) (by decide) algorithm_free),
    splitAll_append (parameterChars_free (by decide) (by decide) (toString_free (by decide) _)),
    splitAll_free (parameterChars_free (by decide) (by decide) (toString_free (by decide) _))]
  have digits : spec.digits < 2 ^ 32 := by
    have := readable.digits
    omega
  rw [List.foldlM_cons, read_algorithm (fresh (by decide))]
  simp only [Option.bind_eq_bind, Option.bind_some]
  rw [List.foldlM_cons, read_digits (by simpa using fresh (by decide)) digits]
  simp only [Option.bind_eq_bind, Option.bind_some]
  rw [List.foldlM_cons, read_period (by simpa using fresh (by decide)) readable.period.2]
  rfl

/-- What was read is read again. -/
theorem parseOtpauth_entryOtpauthUri {spec : TotpSpec} (readable : spec.Readable) (entry : Entry) :
    TotpSpec.parseOtpauth (entryOtpauthUri entry spec spec.algorithm.uriText) = some spec := by
  obtain ⟨account, accountName, named⟩ := readable.account
  have given : account.isEmpty = false := by simpa using named
  have secret : spec.secretBase32.isEmpty = false := by simpa using readable.secret
  have accepted : (!(1 ≤ spec.digits && spec.digits ≤ 9) || spec.periodSeconds = 0 : Bool) = false := by
    have digits := readable.digits
    have period := readable.period
    simp
    omega
  cases issuer : spec.issuer with
  | none =>
      have free := readable.colon issuer account accountName
      have written : (entryOtpauthUri entry spec spec.algorithm.uriText).toList = otpauthPrefix.toList ++
          ((percentEncodeComponent account).toList ++ '?' ::
            (parameterChars "secret" (percentEncodeComponent spec.secretBase32).toList ++ '&' :: lastParameters spec)) := by
        unfold entryOtpauthUri lastParameters parameterChars
        simp only [issuer, accountName, given, Bool.false_eq_true, if_false, String.toList_append, List.append_assoc]
        rfl
      rw [parseOtpauth_pieces (not_mem_encoded (by decide)) written, totpOfPieces, parseOtpauthLabel_account named free,
        splitAll_append (parameterChars_free (by decide) (by decide) (not_mem_encoded (by decide))), List.foldlM_cons,
        read_secret (by decide)]
      simp only [Option.bind_eq_bind, Option.bind_some]
      rw [lastParameters_read readable (show ["secret"] ⊆ ["issuer", "secret"] by decide)]
      simp only [Option.bind_some, Option.filter_none, Option.getD_none, Option.filter_some, given, secret, Bool.not_false,
        if_true, Bool.false_eq_true, if_false, Option.isNone_none, Bool.true_and, String.contains_char_eq, free,
        decide_false, Bool.false_or, accepted]
      cases spec
      simp_all
  | some name =>
      have written : (entryOtpauthUri entry spec spec.algorithm.uriText).toList = otpauthPrefix.toList ++
          (((percentEncodeComponent name).toList ++ ':' :: (percentEncodeComponent account).toList) ++ '?' ::
            (parameterChars "secret" (percentEncodeComponent spec.secretBase32).toList ++ '&' ::
              (parameterChars "issuer" (percentEncodeComponent name).toList ++ '&' :: lastParameters spec))) := by
        unfold entryOtpauthUri lastParameters parameterChars
        simp only [issuer, accountName, Option.getD_some, String.toList_append, List.append_assoc]
        rfl
      have free : '?' ∉ (percentEncodeComponent name).toList ++ ':' :: (percentEncodeComponent account).toList := by
        simp only [List.mem_append, List.mem_cons, not_or]
        exact ⟨not_mem_encoded (by decide), by decide, not_mem_encoded (by decide)⟩
      rw [parseOtpauth_pieces free written, totpOfPieces, parseOtpauthLabel_issuer,
        splitAll_append (parameterChars_free (by decide) (by decide) (not_mem_encoded (by decide))),
        splitAll_append (parameterChars_free (by decide) (by decide) (not_mem_encoded (by decide))), List.foldlM_cons,
        read_secret (by decide)]
      simp only [Option.bind_eq_bind, Option.bind_some]
      rw [List.foldlM_cons, read_issuer (show "issuer" ∉ ["secret"] by decide) (readable.issuer name issuer)]
      simp only [Option.bind_eq_bind, Option.bind_some]
      rw [lastParameters_read readable (show ["issuer", "secret"] ⊆ ["issuer", "secret"] by decide)]
      simp only [Option.bind_some, Option.getD_some, Option.filter_some, given, secret, Bool.not_false,
        if_true, Bool.false_eq_true, if_false, Option.isNone_some, Bool.false_and, Bool.false_or, accepted]
      cases spec
      simp_all

/-! ## Sizes -/

/-- The bytes that characters are written as. -/
def charsWidth (chars : List Char) : Nat := (chars.map Char.utf8Size).sum

theorem bytes_length (text : String) : text.toUTF8.toList.length = charsWidth text.toList := by
  have spelled := Utf8.bytes_ofList text.toList
  rw [String.ofList_toList] at spelled
  rw [spelled, List.length_flatMap]
  unfold charsWidth
  congr 1
  apply List.map_congr_left
  intro c _
  exact String.length_utf8EncodeChar c

theorem charsWidth_sublist {part whole : List Char} (sub : part.Sublist whole) : charsWidth part ≤ charsWidth whole := by
  unfold charsWidth
  induction sub with
  | slnil => exact Nat.le_refl _
  | cons c _ ih =>
      rw [List.map_cons, List.sum_cons]
      omega
  | cons_cons c _ ih =>
      rw [List.map_cons, List.map_cons, List.sum_cons, List.sum_cons]
      omega

theorem percentDecodeBytes_length (bytes : List UInt8) : (percentDecodeBytes bytes).length ≤ bytes.length := by
  fun_induction percentDecodeBytes bytes with
  | case1 high low rest value decoded ih =>
      simp only [List.length_cons]
      omega
  | case2 high low rest unknown ih =>
      simp only [List.length_cons] at ih ⊢
      omega
  | case3 byte rest _ ih =>
      simp only [List.length_cons]
      omega
  | case4 => exact Nat.le_refl _

/-- A decoded text is not longer than what it was decoded from. -/
theorem percentDecode_width {chars : List Char} {text : String} (decoded : percentDecode chars = some text) :
    charsWidth text.toList ≤ charsWidth chars := by
  have source := bytes_length (String.ofList chars)
  rw [String.toList_ofList] at source
  rw [← source, ← bytes_length]
  unfold percentDecode String.fromUTF8? at decoded
  split at decoded
  · cases decoded
    rw [Utf8.toList_eq]
    exact percentDecodeBytes_length _
  · cases decoded

theorem splitOnce_sublist {separator : Char} {chars before after : List Char}
    (found : splitOnce separator chars = some (before, after)) : before.Sublist chars ∧ after.Sublist chars := by
  induction chars generalizing before with
  | nil => cases found
  | cons c rest ih =>
      rw [splitOnce] at found
      split at found
      · cases found
        exact ⟨List.nil_sublist _, List.sublist_cons_self c _⟩
      · rw [Option.map_eq_some_iff] at found
        obtain ⟨⟨front, back⟩, inner, same⟩ := found
        cases same
        obtain ⟨left, right⟩ := ih inner
        exact ⟨left.cons_cons c, right.cons c⟩

theorem splitAll_sublist {separator : Char} {chars piece : List Char} (member : piece ∈ splitAll separator chars) :
    piece.Sublist chars := by
  induction chars generalizing piece with
  | nil =>
      rw [splitAll, List.mem_singleton] at member
      rw [member]
  | cons c rest ih =>
      rw [splitAll] at member
      split at member
      · rcases List.mem_cons.mp member with rfl | later
        · exact List.nil_sublist _
        · exact (ih later).cons c
      · split at member
        · rename_i first others pieces
          rcases List.mem_cons.mp member with rfl | later
          · exact (ih (by rw [pieces]; exact List.mem_cons_self)).cons_cons c
          · exact (ih (by rw [pieces]; exact List.mem_cons_of_mem _ later)).cons c
        · rename_i none
          rw [List.mem_singleton.mp member]
          exact (List.nil_sublist rest).cons_cons c

theorem splitOnceEncoded_sublist (chars : List Char) : ∀ before after,
    splitOnceEncodedLabelSeparator chars = some (before, after) → before.Sublist chars ∧ after.Sublist chars := by
  fun_induction splitOnceEncodedLabelSeparator chars with
  | case1 c rest letter =>
      intro before after found
      cases found
      exact ⟨List.nil_sublist _, ((List.Sublist.refl rest).cons c).cons '3' |>.cons '%'⟩
  | case2 c rest letter ih =>
      intro before after found
      rw [Option.map_eq_some_iff] at found
      obtain ⟨⟨front, back⟩, inner, same⟩ := found
      cases same
      obtain ⟨left, right⟩ := ih _ _ inner
      exact ⟨left.cons_cons '%', right.cons '%'⟩
  | case3 c rest _ ih =>
      intro before after found
      rw [Option.map_eq_some_iff] at found
      obtain ⟨⟨front, back⟩, inner, same⟩ := found
      cases same
      obtain ⟨left, right⟩ := ih _ _ inner
      exact ⟨left.cons_cons c, right.cons c⟩
  | case4 =>
      intro before after found
      cases found

theorem trimEncoded_sublist (chars : List Char) : (trimEncodedLabelSpaces chars).Sublist chars := by
  fun_induction trimEncodedLabelSpaces chars with
  | case1 rest ih => exact ((ih.cons '0').cons '2').cons '%'
  | case2 => exact .refl _

/-- Texts of a TOTP that are not longer than a bound. -/
def TotpSpec.Within (bound : Nat) (spec : TotpSpec) : Prop :=
  charsWidth spec.secretBase32.toList ≤ bound ∧ (∀ issuer, spec.issuer = some issuer → charsWidth issuer.toList ≤ bound) ∧
    ∀ account, spec.accountName = some account → charsWidth account.toList ≤ bound

theorem parseOtpauthLabel_width {label : List Char} {issuer account : Option String}
    (parsed : parseOtpauthLabel label = some (issuer, account)) :
    (∀ text, issuer = some text → charsWidth text.toList ≤ charsWidth label) ∧
      ∀ text, account = some text → charsWidth text.toList ≤ charsWidth label := by
  unfold parseOtpauthLabel at parsed
  cases literal : splitOnce ':' label with
  | some pieces =>
      obtain ⟨first, second⟩ := pieces
      obtain ⟨left, right⟩ := splitOnce_sublist literal
      rw [literal] at parsed
      simp only [Option.bind_eq_bind, Option.bind_eq_some_iff] at parsed
      obtain ⟨issuerText, issuerDecoded, accountText, accountDecoded, same⟩ := parsed
      cases same
      constructor
      · rintro _ ⟨⟩
        exact (percentDecode_width issuerDecoded).trans (charsWidth_sublist left)
      · rintro _ ⟨⟩
        exact (percentDecode_width accountDecoded).trans (charsWidth_sublist right)
  | none =>
      rw [literal] at parsed
      cases encoded : splitOnceEncodedLabelSeparator label with
      | some pieces =>
          obtain ⟨first, second⟩ := pieces
          obtain ⟨left, right⟩ := splitOnceEncoded_sublist label first second encoded
          rw [encoded] at parsed
          simp only [Option.bind_eq_bind, Option.bind_eq_some_iff] at parsed
          obtain ⟨issuerText, issuerDecoded, accountText, accountDecoded, same⟩ := parsed
          cases same
          constructor
          · rintro _ ⟨⟩
            exact (percentDecode_width issuerDecoded).trans (charsWidth_sublist left)
          · rintro _ ⟨⟩
            exact (percentDecode_width accountDecoded).trans (charsWidth_sublist ((trimEncoded_sublist second).trans right))
      | none =>
          rw [encoded] at parsed
          simp only [Option.bind_eq_bind, Option.bind_eq_some_iff] at parsed
          obtain ⟨accountText, accountDecoded, same⟩ := parsed
          cases same
          constructor
          · nofun
          · intro text given
            split at given
            · cases given
            · cases given
              exact percentDecode_width accountDecoded

/-- Texts of the query that are not longer than a bound. -/
def OtpauthQuery.Within (bound : Nat) (query : OtpauthQuery) : Prop :=
  (∀ secret, query.secret = some secret → charsWidth secret.toList ≤ bound) ∧
    ∀ issuer, query.issuer = some (some issuer) → charsWidth issuer.toList ≤ bound

theorem OtpauthQuery.read_within {bound : Nat} {query query' : OtpauthQuery} {pair : List Char}
    (within : query.Within bound) (short : charsWidth pair ≤ bound) (result : query.read pair = some query') :
    query'.Within bound := by
  obtain ⟨_, value, text, pieces, decoded, secret, issuer, _⟩ := OtpauthQuery.read_cases result
  have width : charsWidth text.toList ≤ bound :=
    (percentDecode_width decoded).trans ((charsWidth_sublist (splitOnce_sublist pieces).2).trans short)
  constructor
  · rcases secret with same | same
    · rw [same]
      exact within.1
    · rw [same]
      intro secret given
      cases given
      exact width
  · rcases issuer with same | same
    · rw [same]
      exact within.2
    · rw [same]
      intro issuer given
      simp only [Option.some.injEq] at given
      split at given
      · cases given
      · cases given
        exact width

/-- The texts of a TOTP are not longer than its URI. -/
theorem parseOtpauth_within {uri : String} {spec : TotpSpec} (parsed : TotpSpec.parseOtpauth uri = some spec) :
    spec.Within (charsWidth uri.toList) := by
  obtain ⟨label, text, labelIssuer, account, query, pieces, labelled, read, given, accountName, issuer, _⟩ :=
    parseOtpauth_cases parsed
  obtain ⟨left, right⟩ := splitOnce_sublist pieces
  have drop : (uri.toList.drop 15).Sublist uri.toList := List.drop_sublist 15 _
  have within : query.Within (charsWidth uri.toList) := by
    have start : ({} : OtpauthQuery).Within (charsWidth uri.toList) := ⟨by nofun, by nofun⟩
    refine foldlM_invariant (fun query pair member query' held result => ?_) start read
    exact OtpauthQuery.read_within held (charsWidth_sublist ((splitAll_sublist member).trans (right.trans drop))) result
  obtain ⟨issuerShort, accountShort⟩ := parseOtpauthLabel_width labelled
  have label := charsWidth_sublist (left.trans drop)
  refine ⟨within.1 _ given, ?_, ?_⟩
  · intro name same
    rw [issuer] at same
    cases fromQuery : query.issuer with
    | none =>
        rw [fromQuery, Option.getD_none, Option.filter_eq_some_iff] at same
        exact (issuerShort name same.1).trans label
    | some parameter =>
        rw [fromQuery, Option.getD_some] at same
        subst same
        exact within.2 name fromQuery
  · intro account' same
    rw [accountName] at same
    cases same
    exact (accountShort _ rfl).trans label

end VaultKern
