import Mathlib.Data.List.DropRight
import VaultKern.Lib.Base64
import VaultKern.Guarantees.UserVerification
import VaultKern.Passkey.BrowserOrigins

/-! # Passkeys at the right site

The rule for origins that the ledger, the signing code and the extension share, where they agree,
and that every signature was made under it.
-/

namespace VaultKern

open Attempt

/-! ## The rule -/

section Rule

variable (library : WebLibrary)

/-- An address, which has no names below it. -/
def isLiteralHost (host : String) : Bool := isPasskeyLoopbackHost host || library.isIpAddress host

/-- The host is the relying party, or a name below it where the relying party is no public suffix. -/
def HostOf (host relyingParty : String) : Prop :=
  host = relyingParty ∨
    (isLiteralHost library host = false ∧ isLiteralHost library relyingParty = false ∧
      (library.domainStr relyingParty).isSome = true ∧ ∃ labels : String, host = labels ++ "." ++ relyingParty)

/-- The host of an origin, without brackets and final dots. -/
def originHost (origin : String) : Option String :=
  ((library.parseUrl origin).bind (·.host)).map normalizePasskeyOriginHost

def RightSite (origin relyingParty : String) : Prop :=
  ∃ host, originHost library origin = some host ∧ HostOf library host relyingParty

end Rule

theorem demand_ok {A : Type} {condition : Bool} {text : String} {next : Except RuntimeError A} {a : A} :
    demand condition text next = .ok a ↔ condition = true ∧ next = .ok a := by
  unfold demand
  split <;> simp [*]

theorem isSubdomain_iff {host relyingParty : String} :
    isSubdomain host relyingParty = true ↔
      host = relyingParty ∨ ∃ labels : String, host = labels ++ "." ++ relyingParty := by
  simp only [isSubdomain, Bool.or_eq_true, decide_eq_true_eq, List.isSuffixOf_iff_suffix]
  apply or_congr_right
  constructor
  · rintro ⟨labels, same⟩
    refine ⟨String.ofList labels, String.toList_injective ?_⟩
    rw [← same]
    simp
  · rintro ⟨labels, rfl⟩
    exact ⟨labels.toList, by simp⟩

theorem hostOf_literal {library : WebLibrary} {host relyingParty : String}
    (literal : isLiteralHost library host = true ∨ isLiteralHost library relyingParty = true) :
    HostOf library host relyingParty ↔ host = relyingParty := by
  constructor
  · rintro (same | ⟨host', party, _⟩)
    · exact same
    · rcases literal with literal | literal
      · rw [literal] at host'
        cases host'
      · rw [literal] at party
        cases party
  · exact .inl

theorem hostOf_named {library : WebLibrary} {host relyingParty : String} (host' : isLiteralHost library host = false)
    (party : isLiteralHost library relyingParty = false) (known : (library.domainStr relyingParty).isSome = true) :
    HostOf library host relyingParty ↔ isSubdomain host relyingParty = true := by
  rw [isSubdomain_iff, HostOf]
  apply or_congr_right
  exact ⟨fun below => below.2.2.2, fun below => ⟨host', party, known, below⟩⟩

/-! ## Final dots -/

theorem trimEndDots_toList (text : String) : (trimEndDots text).toList = text.toList.rdropWhile (· = '.') :=
  String.toList_ofList

theorem trimEndDots_undotted {text : String} (undotted : text.toList.getLast? ≠ some '.') : trimEndDots text = text := by
  apply String.toList_injective
  rw [trimEndDots_toList, List.rdropWhile_eq_self_iff]
  intro given final
  apply undotted
  rw [List.getLast?_eq_some_getLast given]
  exact congrArg some (by simpa using final)

/-- A host that ends in more than one dot. -/
def endsInDots (host : String) : Bool := ['.', '.'].isSuffixOf host.toList

theorem trimEndDots_eq_dropDot {host : String} (single : endsInDots host = false) : trimEndDots host = Browser.dropDot host := by
  unfold Browser.dropDot
  split
  · rename_i dotted
    apply String.toList_injective
    rw [trimEndDots_toList, String.toList_ofList]
    obtain ⟨rest, same⟩ := List.getLast?_eq_some_iff.mp dotted
    rw [same, List.rdropWhile_concat_pos _ _ _ (by simp), List.dropLast_concat, List.rdropWhile_eq_self_iff]
    intro given final
    have last : rest = rest.dropLast ++ ['.'] := by
      rw [← List.dropLast_append_getLast given]
      simp only [List.dropLast_concat]
      congr 2
      simpa using final
    have dots : endsInDots host = true := by
      rw [endsInDots, List.isSuffixOf_iff_suffix, same, last]
      exact ⟨rest.dropLast, by simp⟩
    rw [single] at dots
    cases dots
  · rename_i undotted
    exact trimEndDots_undotted undotted

theorem dropDot_dotted {host : String} (dots : endsInDots host = true) : (Browser.dropDot host).toList.getLast? = some '.' := by
  rw [endsInDots, List.isSuffixOf_iff_suffix] at dots
  obtain ⟨rest, same⟩ := dots
  unfold Browser.dropDot
  rw [← same]
  simp

/-! ## Accepted relying parties and origins -/

section Accepted

variable {library : WebLibrary} {origin relyingParty : String}

/-- What registration asks of a relying party id. -/
structure PartyId (library : WebLibrary) (relyingParty : String) : Prop where
  given : relyingParty ≠ ""
  trimmed : trimText relyingParty = relyingParty
  undotted : relyingParty.toList.getLast? ≠ some '.'
  lower : asciiLower relyingParty = relyingParty
  kind : isLiteralHost library relyingParty = true ∨
    (splitAll '.' relyingParty.toList).all isDomainLabel = true ∧ (library.domainStr relyingParty).isSome = true

theorem partyId_of_ok (valid : validatePasskeyRelyingPartyId library relyingParty = .ok ()) :
    PartyId library relyingParty := by
  unfold validatePasskeyRelyingPartyId at valid
  dsimp only at valid
  simp only [demand_ok, Bool.and_eq_true, Bool.not_eq_true', Bool.or_eq_true, decide_eq_true_eq] at valid
  obtain ⟨⟨⟨given, trimmed⟩, undotted⟩, lower, kind, _⟩ := valid
  refine ⟨?_, trimmed, undotted, lower, ?_⟩
  · rintro rfl
    cases given
  · rcases kind with literal | ⟨⟨_, labels⟩, known⟩
    · exact .inl (by simpa [isLiteralHost] using literal)
    · exact .inr ⟨labels, known⟩

theorem PartyId.canonical (party : PartyId library relyingParty) :
    asciiLower (trimEndDots (trimText relyingParty)) = relyingParty := by
  rw [party.trimmed, trimEndDots_undotted party.undotted, party.lower]

/-- A relying party that is no address has a registrable domain. -/
theorem PartyId.known (party : PartyId library relyingParty) (named : isLiteralHost library relyingParty = false) :
    (splitAll '.' relyingParty.toList).all isDomainLabel = true ∧ (library.domainStr relyingParty).isSome = true := by
  rcases party.kind with literal | known
  · rw [named] at literal
    cases literal
  · exact known

/-- The relying party id and the origin that registration lets in, with the origin parsed. -/
structure AcceptedPair (library : WebLibrary) (origin relyingParty : String) (url : Url) (host : String) : Prop where
  party : PartyId library relyingParty
  trimmed : trimText origin = origin
  parsed : library.parseUrl origin = some url
  hosted : url.host = some host
  plain : url.isOrigin = true
  site : (url.scheme = "http" ∧ isPasskeyLoopbackHost (normalizePasskeyOriginHost host) = true ∧
      normalizePasskeyOriginHost host = relyingParty) ∨
    (url.scheme = "https" ∧ (passkeyCeremonyOriginMatchesRelyingParty library origin relyingParty = true ∨
      isLiteralHost library (normalizePasskeyOriginHost host) = false ∧ isLiteralHost library relyingParty = false ∧
        (library.domainStr (normalizePasskeyOriginHost host)).isSome = true))

theorem acceptedPair_of_ok
    (accepted : validatePasskeyCeremonyOriginAndRelyingPartyForS0 library origin relyingParty = .ok ()) :
    ∃ url host, AcceptedPair library origin relyingParty url host := by
  unfold validatePasskeyCeremonyOriginAndRelyingPartyForS0 at accepted
  obtain ⟨_, valid, accepted⟩ := Fallible.bind_ok.mp accepted
  have party := partyId_of_ok valid
  obtain ⟨trimmed, accepted⟩ := demand_ok.mp accepted
  replace trimmed : trimText origin = origin := by simpa using trimmed
  split at accepted
  · cases accepted
  · rename_i url parsed
    split at accepted
    · cases accepted
    · rename_i host found
      dsimp only at accepted
      rw [party.canonical] at accepted
      obtain ⟨plain, accepted⟩ := demand_ok.mp accepted
      refine ⟨url, host, party, trimmed, parsed, found, plain, ?_⟩
      split at accepted
      · have local' := (demand_ok.mp accepted).1
        simp only [Bool.and_eq_true, decide_eq_true_eq] at local'
        exact .inl ⟨local'.1.1.1, local'.1.1.2, local'.2⟩
      · rename_i secure
        replace secure : url.scheme = "https" := by simpa using secure
        split at accepted
        · rename_i here
          exact .inr ⟨secure, .inl here⟩
        · obtain ⟨named, accepted⟩ := demand_ok.mp accepted
          have known := (demand_ok.mp accepted).1
          simp only [Bool.not_eq_true', Bool.or_eq_false_iff] at named
          refine .inr ⟨secure, .inr ⟨?_, ?_, known⟩⟩
          · simp [isLiteralHost, named]
          · simp [isLiteralHost, named]

namespace AcceptedPair

variable {url : Url} {host : String}

theorem originHost (pair : AcceptedPair library origin relyingParty url host) :
    originHost library origin = some (normalizePasskeyOriginHost host) := by
  simp [VaultKern.originHost, pair.parsed, pair.hosted]

theorem rightSite (pair : AcceptedPair library origin relyingParty url host) :
    RightSite library origin relyingParty ↔ HostOf library (normalizePasskeyOriginHost host) relyingParty := by
  unfold RightSite
  rw [pair.originHost]
  simp

/-- The check of the ledger. -/
theorem ceremony_iff (pair : AcceptedPair library origin relyingParty url host) :
    passkeyCeremonyOriginMatchesRelyingParty library origin relyingParty = true ↔
      HostOf library (normalizePasskeyOriginHost host) relyingParty := by
  unfold passkeyCeremonyOriginMatchesRelyingParty
  rw [pair.parsed]
  dsimp only
  rw [pair.hosted]
  dsimp only
  rw [pair.party.canonical]
  rcases pair.site with ⟨plain, loopback, same⟩ | ⟨secure, _⟩
  · rw [if_pos (by simp [plain])]
    have loopback' := same ▸ loopback
    simp [plain, same, loopback', HostOf]
  · rw [if_neg (by simp [secure])]
    split
    · rename_i loopback
      simp only [Bool.or_eq_true] at loopback
      have literal : isLiteralHost library (normalizePasskeyOriginHost host) = true ∨
          isLiteralHost library relyingParty = true := by
        rcases loopback with here | here <;> simp [isLiteralHost, here]
      rw [hostOf_literal literal]
      simp only [Bool.and_eq_true, decide_eq_true_eq]
      constructor
      · exact fun both => both.2
      · intro same
        rw [same] at loopback ⊢
        simpa using loopback
    · rename_i apart
      simp only [Bool.or_eq_true, not_or, Bool.not_eq_true] at apart
      split
      · rename_i address
        simp only [Bool.or_eq_true] at address
        have literal : isLiteralHost library (normalizePasskeyOriginHost host) = true ∨
            isLiteralHost library relyingParty = true := by
          rcases address with here | here <;> simp [isLiteralHost, here]
        rw [hostOf_literal literal, decide_eq_true_eq]
      · rename_i named
        simp only [Bool.or_eq_true, not_or, Bool.not_eq_true] at named
        have party : isLiteralHost library relyingParty = false := by simp [isLiteralHost, apart, named]
        have known := (pair.party.known party).2
        rw [hostOf_named (by simp [isLiteralHost, apart, named]) party known]
        simp [known]

end AcceptedPair

end Accepted

/-! ## Facts about the web -/

def isHexDigitChar (c : Char) : Bool := c.isDigit || ('a' ≤ c && c ≤ 'f') || ('A' ≤ c && c ≤ 'F')

/-- A dotted quad, or an address with colons. -/
def isAddressText (text : String) : Bool :=
  Browser.isDottedQuad text ||
    (text.toList.contains ':' && text.toList.getLast? ≠ some '.'
      && text.toList.all fun c => c = ':' || c = '.' || isHexDigitChar c)

/-- The last label of the host, without a final dot, is a number. -/
def endsInNumber (host : String) : Bool :=
  ((splitAll '.' (Browser.dropDot host).toList).getLast?.any fun label => !label.isEmpty && label.all Char.isDigit)

/-- A visible character of ASCII that is no colon and no bracket. -/
def isHostChar (c : Char) : Bool := 0x21 ≤ c.val && c.val ≤ 0x7e && c ≠ ':' && c ≠ '[' && c ≠ ']'

/-- A host of a URL: an address in brackets, or a name in lower case, which is an address if it ends in a number. -/
inductive HostText (library : WebLibrary) : String → Prop
  | bracketed {address : String} (colon : ':' ∈ address.toList) (known : library.isIpAddress address = true)
      (lower : asciiLower address = address) : HostText library ("[" ++ address ++ "]")
  | name {host : String} (chars : ∀ c ∈ host.toList, isHostChar c = true) (lower : asciiLower host = host)
      (numbered : endsInNumber host = true → library.isIpAddress host = true) : HostText library host

/-- What both sides take from the standards: URLs, addresses, and one list of public suffixes. -/
structure WebFacts (library : WebLibrary) (browser : Browser.Library) : Prop where
  urls : ∀ text, (browser.newUrl text).map (fun url => (url.protocol, url.hostname)) =
    (library.parseUrl text).map fun url => (url.scheme ++ ":", url.host.getD "")
  suffixes : ∀ name, (splitAll '.' name.toList).all isDomainLabel = true → asciiLower name = name →
    (browser.pslGet name).isSome = (library.domainStr name).isSome
  lower : ∀ text, (∀ c ∈ text.toList, c.val < 0x80) → browser.toLowerCase text = asciiLower text
  addresses : ∀ text, library.isIpAddress text = true → isAddressText text = true
  hosts : ∀ text url host, library.parseUrl text = some url → url.scheme = "http" ∨ url.scheme = "https" →
    url.host = some host → HostText library host

/-! ## Characters -/

theorem mem_splitAll {separator : Char} {chars : List Char} {c : Char} (member : c ∈ chars) :
    c = separator ∨ ∃ piece ∈ splitAll separator chars, c ∈ piece := by
  induction chars with
  | nil => cases member
  | cons d rest ih =>
      rw [splitAll]
      split
      · rename_i here
        rcases List.mem_cons.mp member with same | later
        · exact .inl (same.trans here)
        · rcases ih later with same | ⟨piece, inside, within'⟩
          · exact .inl same
          · exact .inr ⟨piece, List.mem_cons_of_mem _ inside, within'⟩
      · split
        · rename_i first others split'
          rcases List.mem_cons.mp member with same | later
          · exact .inr ⟨d :: first, List.mem_cons_self, same ▸ List.mem_cons_self⟩
          · rcases ih later with same | ⟨piece, inside, within'⟩
            · exact .inl same
            · rw [split'] at inside
              rcases List.mem_cons.mp inside with here | other
              · exact .inr ⟨d :: first, List.mem_cons_self, List.mem_cons_of_mem _ (here ▸ within')⟩
              · exact .inr ⟨piece, List.mem_cons_of_mem _ other, within'⟩
        · rename_i none'
          rcases List.mem_cons.mp member with same | later
          · exact .inr ⟨[d], List.mem_singleton_self _, same ▸ List.mem_singleton_self d⟩
          · rcases ih later with same | ⟨piece, inside, _⟩
            · exact .inl same
            · rw [none'] at inside
              cases inside

/-- A character of a relying party id. -/
def isPartyChar (c : Char) : Bool := c.isAlphanum || c = '-' || c = '.' || c = ':'

theorem isPartyChar_plain {c : Char} (party : isPartyChar c = true) :
    c.val < 0x80 ∧ isWhitespace c = false ∧ Browser.isBlank c = false ∧ c ≠ '[' := by
  have small : c.toNat < 128 := by
    simp only [isPartyChar, Base64.isAlphanum_eq, Bool.or_eq_true, Bool.and_eq_true, decide_eq_true_eq,
      UInt32.le_iff_toNat_le, ge_iff_le, Char.ext_iff, ← UInt32.toNat_inj] at party
    simp at party
    omega
  have table : (List.range 128).all (fun n => !isPartyChar (Char.ofNat n) || (decide ((Char.ofNat n).val < 0x80) &&
      !isWhitespace (Char.ofNat n) && !Browser.isBlank (Char.ofNat n) && decide (Char.ofNat n ≠ '['))) = true := by
    decide +kernel
  have here := List.all_eq_true.mp table c.toNat (List.mem_range.mpr small)
  rw [Char.ofNat_toNat, party] at here
  simpa [and_assoc] using here

theorem isHostChar_plain {c : Char} (host : isHostChar c = true) :
    c.val < 0x80 ∧ isWhitespace c = false ∧ Browser.isBlank c = false ∧ c ≠ '[' ∧ c ≠ ':' := by
  have small : c.toNat < 128 := by
    simp only [isHostChar, Bool.and_eq_true, decide_eq_true_eq, UInt32.le_iff_toNat_le] at host
    have below := host.1.1.1.2
    simp at below
    omega
  have table : (List.range 128).all (fun n => !isHostChar (Char.ofNat n) || (decide ((Char.ofNat n).val < 0x80) &&
      !isWhitespace (Char.ofNat n) && !Browser.isBlank (Char.ofNat n) && decide (Char.ofNat n ≠ '[')
        && decide (Char.ofNat n ≠ ':'))) = true := by
    decide +kernel
  have here := List.all_eq_true.mp table c.toNat (List.mem_range.mpr small)
  rw [Char.ofNat_toNat, host] at here
  simpa [and_assoc] using here

theorem dropWhile_none {p : Char → Bool} {chars : List Char} (solid : ∀ c ∈ chars, p c = false) :
    chars.dropWhile p = chars := by
  cases chars with
  | nil => rfl
  | cons c rest => rw [List.dropWhile_cons_of_neg (by simp [solid c List.mem_cons_self])]

theorem trimText_solid {text : String} (solid : ∀ c ∈ text.toList, isWhitespace c = false) : trimText text = text := by
  rw [trimText, dropWhile_none solid, dropWhile_none fun c member => solid c (List.mem_reverse.mp member),
    List.reverse_reverse, String.ofList_toList]

theorem trim_solid {text : String} (solid : ∀ c ∈ text.toList, Browser.isBlank c = false) : Browser.trim text = text := by
  rw [Browser.trim, dropWhile_none solid, dropWhile_none fun c member => solid c (List.mem_reverse.mp member),
    List.reverse_reverse, String.ofList_toList]

theorem stripBrackets_bare {text : String} (bare : ∀ c ∈ text.toList, c ≠ '[') : stripBrackets text = text := by
  unfold stripBrackets
  split
  · rename_i rest same
    exact absurd rfl (bare '[' (same ▸ List.mem_cons_self))
  · rfl

theorem isDottedQuad_chars {text : String} (quad : Browser.isDottedQuad text = true) {c : Char} (member : c ∈ text.toList) :
    c = '.' ∨ c.isDigit = true := by
  simp only [Browser.isDottedQuad, Bool.and_eq_true, List.all_eq_true, decide_eq_true_eq] at quad
  rcases @mem_splitAll '.' _ _ member with same | ⟨piece, inside, within'⟩
  · exact .inl same
  · exact .inr ((quad.2 piece inside).2 c within')

theorem isAddressText_chars {text : String} (address : isAddressText text = true) {c : Char} (member : c ∈ text.toList) :
    isPartyChar c = true := by
  simp only [isAddressText, Bool.or_eq_true, Bool.and_eq_true, List.all_eq_true] at address
  rcases address with quad | ⟨_, chars⟩
  · rcases isDottedQuad_chars quad member with rfl | digit
    · rfl
    · simp [isPartyChar, Char.isAlphanum, digit]
  · have here := chars c member
    simp only [Bool.or_eq_true, decide_eq_true_eq, isHexDigitChar] at here
    rcases here with (rfl | rfl) | ((digit | lower) | upper)
    · rfl
    · rfl
    · simp [isPartyChar, Char.isAlphanum, digit]
    · simp only [Bool.and_eq_true, decide_eq_true_eq] at lower
      have small : c.val ≥ 'a'.val ∧ c.val ≤ 'z'.val := ⟨lower.1, UInt32.le_trans lower.2 (by decide)⟩
      have known : c.isAlphanum = true := by
        rw [Base64.isAlphanum_eq, decide_eq_true small.1, decide_eq_true small.2]
        simp
      simp [isPartyChar, known]
    · simp only [Bool.and_eq_true, decide_eq_true_eq] at upper
      have large : c.val ≥ 'A'.val ∧ c.val ≤ 'Z'.val := ⟨upper.1, UInt32.le_trans upper.2 (by decide)⟩
      have known : c.isAlphanum = true := by
        rw [Base64.isAlphanum_eq, decide_eq_true large]
        rfl
      simp [isPartyChar, known]

/-! ## The three checks -/

section Checks

variable {library : WebLibrary} {origin relyingParty : String}

theorem PartyId.chars (addresses : ∀ text, library.isIpAddress text = true → isAddressText text = true)
    (party : PartyId library relyingParty) {c : Char} (member : c ∈ relyingParty.toList) : isPartyChar c = true := by
  rcases party.kind with literal | ⟨labels, _⟩
  · simp only [isLiteralHost, Bool.or_eq_true] at literal
    rcases literal with loopback | address
    · simp only [isPasskeyLoopbackHost, Bool.or_eq_true, decide_eq_true_eq] at loopback
      have plain : ["localhost", "127.0.0.1", "::1"].all (fun text => text.toList.all isPartyChar) = true := by decide +kernel
      have listed : relyingParty ∈ ["localhost", "127.0.0.1", "::1"] := by simpa [or_assoc] using loopback
      exact List.all_eq_true.mp (List.all_eq_true.mp plain relyingParty listed) c member
    · exact isAddressText_chars (addresses _ address) member
  · rcases @mem_splitAll '.' _ _ member with rfl | ⟨piece, inside, within'⟩
    · rfl
    · have label := List.all_eq_true.mp labels piece inside
      simp only [isDomainLabel, Bool.and_eq_true, List.all_eq_true, Bool.or_eq_true, decide_eq_true_eq] at label
      simp only [isPartyChar, Bool.or_eq_true, decide_eq_true_eq]
      rcases label.2 c within' with alphanumeric | dash
      · exact .inl (.inl (.inl alphanumeric))
      · exact .inl (.inl (.inr dash))

/-- The signing code takes a relying party id as it stands. -/
theorem PartyId.normal (addresses : ∀ text, library.isIpAddress text = true → isAddressText text = true)
    (party : PartyId library relyingParty) : normalizePasskeyOriginHost relyingParty = relyingParty := by
  unfold normalizePasskeyOriginHost
  rw [party.canonical]
  exact stripBrackets_bare fun c member => (isPartyChar_plain (party.chars addresses member)).2.2.2

namespace AcceptedPair

variable {url : Url} {host : String}

/-- The check of the signing code. -/
theorem signing_iff {library : SigningLibrary}
    (addresses : ∀ text, library.isIpAddress text = true → isAddressText text = true)
    (pair : AcceptedPair library.toWebLibrary origin relyingParty url host) (relatedOriginVerified : Bool) :
    validateOriginForRelyingParty library origin relyingParty relatedOriginVerified = .ok () ↔
      HostOf library.toWebLibrary (normalizePasskeyOriginHost host) relyingParty ∨ relatedOriginVerified = true := by
  have party : (!(trimText relyingParty).isEmpty && trimText relyingParty = relyingParty
      && relyingParty = normalizePasskeyOriginHost relyingParty) = true := by
    rw [pair.party.normal addresses, pair.party.trimmed]
    simpa using pair.party.given
  have secure : (url.scheme = "https" || (url.scheme = "http" &&
      isPasskeyLoopbackHost (normalizePasskeyOriginHost host))) = true := by
    rcases pair.site with ⟨plain, loopback, _⟩ | ⟨secure, _⟩
    · simp [plain, loopback]
    · simp [secure]
  have addressed {name : String} : (isPasskeyLoopbackHost name || library.isIpAddress name) =
      isLiteralHost library.toWebLibrary name := rfl
  unfold validateOriginForRelyingParty
  dsimp only
  rw [party, pair.parsed]
  dsimp only
  rw [pair.hosted]
  dsimp only
  simp only [demand_ok, pair.trimmed, decide_true, true_and, pair.plain, secure, and_true, addressed]
  by_cases literal : isLiteralHost library.toWebLibrary (normalizePasskeyOriginHost host) = true ∨
      isLiteralHost library.toWebLibrary relyingParty = true
  · rw [hostOf_literal literal]
    have either : (isLiteralHost library.toWebLibrary (normalizePasskeyOriginHost host) ||
        isLiteralHost library.toWebLibrary relyingParty) = true := by simpa using literal
    have matched : normalizePasskeyOriginHost host = relyingParty := by
      rcases pair.site with ⟨_, _, same⟩ | ⟨_, here | ⟨host', party', _⟩⟩
      · exact same
      · exact (hostOf_literal literal).mp (pair.ceremony_iff.mp here)
      · simp [host', party'] at literal
    rw [either]
    simp [matched]
  · simp only [not_or, Bool.not_eq_true] at literal
    have known := (pair.party.known literal.2).2
    rw [hostOf_named literal.1 literal.2 known]
    simp only [literal.1, literal.2, Bool.or_self, Bool.false_eq_true, if_false, known, Bool.true_and, Bool.not_false,
      Bool.and_true, Bool.or_eq_true, Bool.and_eq_true]
    by_cases below : isSubdomain (normalizePasskeyOriginHost host) relyingParty = true
    · simp [below]
    · have outside : (library.domainStr (normalizePasskeyOriginHost host)).isSome = true := by
        rcases pair.site with ⟨_, _, same⟩ | ⟨_, here | ⟨_, _, known⟩⟩
        · exact absurd (isSubdomain_iff.mpr (.inl same)) below
        · exact absurd ((hostOf_named literal.1 literal.2 known).mp (pair.ceremony_iff.mp here)) below
        · exact known
      simp [outside]

end AcceptedPair

end Checks

/-! ## The check of the extension -/

theorem splitAll_ne_nil (separator : Char) (chars : List Char) : splitAll separator chars ≠ [] := by
  cases chars with
  | nil => simp [splitAll]
  | cons c rest =>
      rw [splitAll]
      split
      · simp
      · split <;> simp

theorem splitAll_across (separator : Char) (before after : List Char) :
    splitAll separator (before ++ separator :: after) = splitAll separator before ++ splitAll separator after := by
  induction before with
  | nil => simp [splitAll]
  | cons c rest ih =>
      rw [List.cons_append, splitAll, splitAll, ih]
      split
      · rfl
      · cases pieces : splitAll separator rest with
        | nil => exact absurd pieces (splitAll_ne_nil separator rest)
        | cons piece others => rfl

theorem getLast?_splitAll_across (separator : Char) (before after : List Char) :
    (splitAll separator (before ++ separator :: after)).getLast? = (splitAll separator after).getLast? := by
  rw [splitAll_across]
  exact List.getLast?_append_of_ne_nil _ (splitAll_ne_nil separator after)

theorem isDottedQuad_last {text : String} (quad : Browser.isDottedQuad text = true) :
    ((splitAll '.' text.toList).getLast?.any fun label => !label.isEmpty && label.all Char.isDigit) = true := by
  simp only [Browser.isDottedQuad, Bool.and_eq_true, List.all_eq_true, decide_eq_true_eq] at quad
  have given := splitAll_ne_nil '.' text.toList
  rw [List.getLast?_eq_some_getLast given]
  obtain ⟨⟨some', _⟩, digits⟩ := quad.2 _ (List.getLast_mem given)
  simp only [Option.any_some, Bool.and_eq_true, Bool.not_eq_true', List.all_eq_true]
  refine ⟨?_, digits⟩
  rw [List.isEmpty_eq_false_iff]
  intro empty
  simp [empty] at some'

theorem isAddressText_undotted {text : String} (address : isAddressText text = true) :
    text.toList.getLast? ≠ some '.' := by
  simp only [isAddressText, Bool.or_eq_true, Bool.and_eq_true, decide_eq_true_eq] at address
  rcases address with quad | ⟨⟨_, undotted⟩, _⟩
  · intro dotted
    obtain ⟨rest, same⟩ := List.getLast?_eq_some_iff.mp dotted
    have last := isDottedQuad_last quad
    rw [same, getLast?_splitAll_across] at last
    simp [splitAll] at last
  · exact undotted

theorem asciiLower_iff {text : String} : asciiLower text = text ↔ ∀ c ∈ text.toList, c.toLower = c := by
  rw [asciiLower, ← String.toList_inj, String.toList_ofList]
  constructor
  · intro same c member
    obtain ⟨i, inside, rfl⟩ := List.getElem_of_mem member
    have here := congrArg (·[i]?) same
    simpa [inside] using here
  · intro lower
    exact (List.map_congr_left lower).trans (List.map_id _)

theorem dropDot_chars {text : String} {c : Char} (member : c ∈ (Browser.dropDot text).toList) : c ∈ text.toList := by
  unfold Browser.dropDot at member
  split at member
  · rw [String.toList_ofList] at member
    exact List.dropLast_subset _ member
  · exact member

theorem trimEndDots_chars {text : String} {c : Char} (member : c ∈ (trimEndDots text).toList) : c ∈ text.toList := by
  rw [trimEndDots_toList] at member
  exact (List.rdropWhile_prefix _ _).subset member

section Browser

variable {library : WebLibrary} {browser : Browser.Library} {origin relyingParty : String}

/-- A text of plain characters in lower case loses at most a dot. -/
theorem normalizeHost_plain (web : WebFacts library browser) {text : String}
    (solid : ∀ c ∈ text.toList, c.val < 0x80 ∧ Browser.isBlank c = false) (lower : asciiLower text = text) :
    Browser.normalizeHost browser text = Browser.dropDot text := by
  unfold Browser.normalizeHost
  rw [trim_solid fun c member => (solid c member).2, web.lower _ fun c member => (solid c (dropDot_chars member)).1]
  exact asciiLower_iff.mpr fun c member => asciiLower_iff.mp lower c (dropDot_chars member)

theorem dropDot_undotted {text : String} (undotted : text.toList.getLast? ≠ some '.') : Browser.dropDot text = text := by
  rw [Browser.dropDot, if_neg undotted]

theorem PartyId.seen (web : WebFacts library browser) (party : PartyId library relyingParty) :
    Browser.normalizeHost browser relyingParty = relyingParty := by
  rw [normalizeHost_plain web _ party.lower, dropDot_undotted party.undotted]
  intro c member
  have plain := isPartyChar_plain (party.chars web.addresses member)
  exact ⟨plain.1, plain.2.2.1⟩

/-- An address of the runtime is one for the extension. -/
theorem isAddressText_browser {text : String} (address : isAddressText text = true) : Browser.isIpAddress text = true := by
  simp only [isAddressText, Bool.or_eq_true, Bool.and_eq_true] at address
  simp only [Browser.isIpAddress, Bool.or_eq_true]
  rcases address with quad | ⟨⟨colon, _⟩, _⟩
  · exact .inl quad
  · exact .inr colon

/-- The host as the runtime and as the extension see it. -/
inductive SeenHost (library : WebLibrary) (browser : Browser.Library) (host : String) : Prop
  | address {text : String} (runtime : normalizePasskeyOriginHost host = text)
      (extension : Browser.normalizeHost browser (stripBrackets host) = text) (known : isLiteralHost library text = true)
      (known' : Browser.isIpAddress text = true) (single : endsInDots host = false)
  | name (runtime : normalizePasskeyOriginHost host = trimEndDots host)
      (extension : Browser.normalizeHost browser (stripBrackets host) = Browser.dropDot host)
      (colonless : ':' ∉ host.toList) (numbered : endsInNumber host = true → library.isIpAddress host = true)

theorem HostText.seen (web : WebFacts library browser) {host : String} (text : HostText library host) :
    SeenHost library browser host := by
  cases text with
  | @bracketed address colon known lower =>
      have shown := web.addresses _ known
      have chars {c : Char} (member : c ∈ address.toList) := isPartyChar_plain (isAddressText_chars shown member)
      have stripped : stripBrackets ("[" ++ address ++ "]") = address := by
        apply String.toList_injective
        simp [stripBrackets]
      have solid : ∀ c ∈ ("[" ++ address ++ "]").toList, isWhitespace c = false := by
        intro c member
        simp only [String.toList_append, List.mem_append] at member
        rcases member with (opened | inside) | closed
        · obtain rfl : c = '[' := by simpa using opened
          decide
        · exact (chars inside).2.1
        · obtain rfl : c = ']' := by simpa using closed
          decide
      have undotted : ("[" ++ address ++ "]").toList.getLast? ≠ some '.' := by
        rw [String.toList_append, show "]".toList = [']'] from rfl, List.getLast?_concat]
        decide
      have lowered : asciiLower ("[" ++ address ++ "]") = "[" ++ address ++ "]" := by
        rw [asciiLower_iff] at lower ⊢
        intro c member
        simp only [String.toList_append, List.mem_append] at member
        rcases member with (opened | inside) | closed
        · obtain rfl : c = '[' := by simpa using opened
          decide
        · exact lower c inside
        · obtain rfl : c = ']' := by simpa using closed
          decide
      refine @SeenHost.address _ _ _ address ?_ ?_ ?_ (isAddressText_browser shown) ?_
      · rw [normalizePasskeyOriginHost, trimText_solid solid, trimEndDots_undotted undotted, lowered, stripped]
      · rw [stripped, normalizeHost_plain web (fun c member => ⟨(chars member).1, (chars member).2.2.1⟩) lower,
          dropDot_undotted (isAddressText_undotted shown)]
      · simp [isLiteralHost, known]
      · rw [← Bool.not_eq_true, endsInDots, List.isSuffixOf_iff_suffix]
        rintro ⟨rest, same⟩
        apply undotted
        rw [← same]
        simp
  | name chars lower numbered =>
      have plain {c : Char} (member : c ∈ host.toList) := isHostChar_plain (chars c member)
      refine .name ?_ ?_ (fun colon => (plain colon).2.2.2.2 rfl) numbered
      · rw [normalizePasskeyOriginHost, trimText_solid fun c member => (plain member).2.1]
        rw [asciiLower_iff.mpr fun c member => asciiLower_iff.mp lower c (trimEndDots_chars member)]
        exact stripBrackets_bare fun c member => (plain (trimEndDots_chars member)).2.2.2.1
      · rw [stripBrackets_bare fun c member => (plain member).2.2.2.1]
        exact normalizeHost_plain web (fun c member => ⟨(plain member).1, (plain member).2.2.1⟩) lower

/-- A name that is no address does not end in a number. -/
theorem endsInNumber_literal (web : WebFacts library browser) {host : String}
    (numbered : endsInNumber host = true → library.isIpAddress host = true)
    (named : isLiteralHost library (Browser.dropDot host) = false) : endsInNumber host = false := by
  cases ends : endsInNumber host with
  | false => rfl
  | true =>
      have address := numbered ends
      rw [dropDot_undotted (isAddressText_undotted (web.addresses host address))] at named
      simp [isLiteralHost, address] at named

theorem isSubdomain_dotted {host relyingParty : String} (given : relyingParty ≠ "")
    (undotted : relyingParty.toList.getLast? ≠ some '.') (dotted : host.toList.getLast? = some '.') :
    isSubdomain host relyingParty = false := by
  rw [← Bool.not_eq_true, isSubdomain_iff]
  rintro (rfl | ⟨labels, rfl⟩)
  · exact undotted dotted
  · apply undotted
    have nonempty : relyingParty.toList ≠ [] := by simpa using given
    rwa [String.toList_append, List.getLast?_append_of_ne_nil _ nonempty] at dotted

/-- The check of the extension: final dots apart, it is the same. -/
theorem AcceptedPair.browser_iff {url : Url} {host : String} (web : WebFacts library browser)
    (pair : AcceptedPair library origin relyingParty url host) :
    Browser.originMatchesRelyingParty browser origin relyingParty = true ↔
      HostOf library (normalizePasskeyOriginHost host) relyingParty ∧ endsInDots host = false := by
  have scheme : url.scheme = "http" ∨ url.scheme = "https" := by
    rcases pair.site with ⟨plain, _⟩ | ⟨secure, _⟩
    · exact .inl plain
    · exact .inr secure
  have shown : Browser.normalizedHostFromUrl browser origin =
      some (Browser.normalizeHost browser (stripBrackets host)) := by
    have urls := web.urls origin
    rw [pair.parsed, Option.map_some, Option.map_eq_some_iff] at urls
    obtain ⟨parsed, found, same⟩ := urls
    have hostname : parsed.hostname = host := by rw [(Prod.mk.inj same).2, pair.hosted, Option.getD_some]
    rw [Browser.normalizedHostFromUrl, found, Option.map_some, hostname]
  unfold Browser.originMatchesRelyingParty
  rw [shown]
  dsimp only
  rw [pair.party.seen web]
  cases (web.hosts origin url host pair.parsed scheme pair.hosted).seen web with
  | @address text runtime extension known known' single =>
      rw [runtime, extension, hostOf_literal (.inl known)]
      simp [known', single]
  | name runtime extension colonless numbered =>
      rw [runtime, extension]
      cases dots : endsInDots host with
      | true =>
          have dotted := dropDot_dotted dots
          have apart : Browser.dropDot host ≠ relyingParty := fun same => pair.party.undotted (same ▸ dotted)
          simp [apart, isSubdomain_dotted pair.party.given pair.party.undotted dotted]
      | false =>
          rw [trimEndDots_eq_dropDot dots]
          by_cases literal : isLiteralHost library (Browser.dropDot host) = true ∨ isLiteralHost library relyingParty = true
          · rw [hostOf_literal literal]
            have address {name : String} (literal : isLiteralHost library name = true) :
                isPasskeyLoopbackHost name = true ∨ Browser.isIpAddress name = true := by
              simp only [isLiteralHost, Bool.or_eq_true] at literal
              rcases literal with loopback | address
              · exact .inl loopback
              · exact .inr (isAddressText_browser (web.addresses _ address))
            rcases literal with literal | literal <;> rcases address literal with here | here <;> simp [here]
          · simp only [not_or, Bool.not_eq_true] at literal
            obtain ⟨labels, known⟩ := pair.party.known literal.2
            have unnumbered := endsInNumber_literal web numbered literal.1
            have loopback {name : String} (named : isLiteralHost library name = false) : isPasskeyLoopbackHost name = false := by
              simp only [isLiteralHost, Bool.or_eq_false_iff] at named
              exact named.1
            rw [hostOf_named literal.1 literal.2 known]
            simp only [Browser.isLoopbackHost, loopback literal.1, loopback literal.2, Bool.or_self, Bool.false_eq_true,
              if_false, and_true]
            split
            · rename_i address
              rw [decide_eq_true_eq, isSubdomain_iff]
              refine ⟨.inl, ?_⟩
              rintro (same | ⟨below, same⟩)
              · exact same
              · exfalso
                have text : (Browser.dropDot host).toList = below.toList ++ '.' :: relyingParty.toList := by
                  rw [same]
                  simp
                have colonless' : ':' ∉ (Browser.dropDot host).toList := fun colon => colonless (dropDot_chars colon)
                simp only [Browser.isIpAddress, Bool.or_eq_true, List.contains_eq_mem, decide_eq_true_eq] at address
                have numeric : endsInNumber host = true := by
                  rcases address with (quad | colon) | (quad | colon)
                  · exact isDottedQuad_last quad
                  · exact absurd colon colonless'
                  · rw [endsInNumber, text, getLast?_splitAll_across]
                    exact isDottedQuad_last quad
                  · rw [text] at colonless'
                    exact absurd (List.mem_append_right _ (List.mem_cons_of_mem _ colon)) colonless'
                rw [unnumbered] at numeric
                cases numeric
            · rw [web.suffixes relyingParty labels pair.party.lower, known, Bool.true_and]

end Browser

/-! ## Agreement -/

/-- The extension, the ledger and the signing code say the same about the origin. -/
structure RulesAgree (library : SigningLibrary) (browser : Browser.Library) (origin relyingParty : String) : Prop where
  extension : Browser.originMatchesRelyingParty browser origin relyingParty =
    passkeyCeremonyOriginMatchesRelyingParty library.toWebLibrary origin relyingParty
  signing : validateOriginForRelyingParty library origin relyingParty false = .ok () ↔
    passkeyCeremonyOriginMatchesRelyingParty library.toWebLibrary origin relyingParty = true

/-- The host of the origin ends in more than one dot. -/
def dottedOrigin (library : WebLibrary) (origin : String) : Bool :=
  ((library.parseUrl origin).bind (·.host)).any endsInDots

theorem rulesAgree_iff {library : SigningLibrary} {browser : Browser.Library} (web : WebFacts library.toWebLibrary browser)
    {origin relyingParty : String}
    (accepted : validatePasskeyCeremonyOriginAndRelyingPartyForS0 library.toWebLibrary origin relyingParty = .ok ()) :
    RulesAgree library browser origin relyingParty ↔
      (RightSite library.toWebLibrary origin relyingParty → dottedOrigin library.toWebLibrary origin = false) := by
  obtain ⟨url, host, pair⟩ := acceptedPair_of_ok accepted
  have dots : dottedOrigin library.toWebLibrary origin = endsInDots host := by
    simp [dottedOrigin, pair.parsed, pair.hosted]
  rw [pair.rightSite, dots]
  have extension := pair.browser_iff web
  have ceremony := pair.ceremony_iff
  have signing := pair.signing_iff web.addresses false
  constructor
  · intro agree right
    exact (extension.mp (agree.extension.trans (ceremony.mpr right))).2
  · intro single
    constructor
    · rw [Bool.eq_iff_iff, extension, ceremony]
      exact ⟨And.left, fun right => ⟨right, single right⟩⟩
    · rw [signing, ceremony]
      simp

/-! ## Client data -/

section ClientData

variable {library : SigningLibrary} {identity : PasskeyCeremonyIdentity} {clientData : String}

/-- The identity has passed the checks of registration. -/
def AcceptedIdentity (library : WebLibrary) (identity : PasskeyCeremonyIdentity) : Prop :=
  ∃ now, validatePasskeyCeremonyIdentity library identity now = .ok ()

/-- An origin that both sides parse. -/
def PlainOrigin (library : WebLibrary) (value : String) : Prop :=
  trimText value = value ∧ ∃ url, library.parseUrl value = some url ∧ url.isOrigin = true ∧ url.host.isSome = true

theorem plainOrigin_of_ok {library : WebLibrary} {value label : String}
    (valid : validatePasskeyCeremonyOriginValue library value label = .ok ()) : PlainOrigin library value := by
  unfold validatePasskeyCeremonyOriginValue at valid
  dsimp only at valid
  obtain ⟨trimmed, valid⟩ := demand_ok.mp valid
  split at valid
  · cases valid
  · rename_i url parsed
    split at valid
    · cases valid
    · rename_i host found
      have plain := (demand_ok.mp valid).1
      exact ⟨by simpa using trimmed, url, parsed, plain, by simp [found]⟩

theorem validateOrigins_ok {library : WebLibrary} {label : String} {values : List String}
    (valid : validateOrigins library label values = .ok ()) : ∀ value ∈ values, PlainOrigin library value := by
  induction values with
  | nil => simp
  | cons value rest ih =>
      rw [validateOrigins] at valid
      obtain ⟨_, first, later⟩ := Fallible.bind_ok.mp valid
      exact List.forall_mem_cons.mpr ⟨plainOrigin_of_ok first, ih later⟩

/-- The origins of an accepted ceremony, and its relying party. -/
structure AcceptedOrigins (library : WebLibrary) (identity : PasskeyCeremonyIdentity) : Prop where
  pair : validatePasskeyCeremonyOriginAndRelyingPartyForS0 library identity.origin identity.relyingParty = .ok ()
  origin : PlainOrigin library identity.origin
  top : ∀ top, identity.topOrigin = some top → PlainOrigin library top
  ancestors : ∀ ancestor ∈ identity.ancestorOrigins, PlainOrigin library ancestor

theorem AcceptedIdentity.origins {library : WebLibrary} (accepted : AcceptedIdentity library identity) :
    AcceptedOrigins library identity := by
  obtain ⟨now, valid⟩ := accepted
  unfold validatePasskeyCeremonyIdentity at valid
  obtain ⟨_, _, valid⟩ := Fallible.bind_ok.mp valid
  obtain ⟨_, _, valid⟩ := Fallible.bind_ok.mp valid
  obtain ⟨_, _, valid⟩ := Fallible.bind_ok.mp valid
  obtain ⟨_, pair, valid⟩ := Fallible.bind_ok.mp valid
  obtain ⟨_, top, valid⟩ := Fallible.bind_ok.mp valid
  obtain ⟨_, ancestors, _⟩ := Fallible.bind_ok.mp valid
  obtain ⟨url, host, parsed⟩ := acceptedPair_of_ok pair
  refine ⟨pair, ⟨parsed.trimmed, url, parsed.parsed, parsed.plain, by simp [parsed.hosted]⟩, fun value held => ?_,
    validateOrigins_ok ancestors⟩
  exact validateOrigins_ok top value (by simp [held])

theorem PlainOrigin.urls {value : String} (plain : PlainOrigin library.toWebLibrary value) :
    originUrl library value = passkeyCeremonyOriginUrl library.toWebLibrary value := by
  obtain ⟨trimmed, url, parsed, origin, hosted⟩ := plain
  rw [originUrl, passkeyCeremonyOriginUrl, if_neg (by simp [trimmed]), parsed, Option.filter_some_pos origin,
    Option.filter_some_pos (by simp [origin, hosted])]

/-- Where the ledger finds one origin, so does the signing code. -/
theorem sameOrigin_signing {left right : String}
    (same : passkeyCeremonyOriginsAreSameOrigin library.toWebLibrary left right = true) :
    originsAreSameOrigin library left right = true := by
  have known {value : String} {url : Url} (found : passkeyCeremonyOriginUrl library.toWebLibrary value = some url) :
      originUrl library value = some url := by
    unfold passkeyCeremonyOriginUrl at found
    split at found
    · cases found
    · obtain ⟨parsed, plain⟩ := Option.filter_eq_some_iff.mp found
      simp only [Bool.and_eq_true] at plain
      exact Option.filter_eq_some_iff.mpr ⟨parsed, plain.1⟩
  unfold passkeyCeremonyOriginsAreSameOrigin at same
  unfold originsAreSameOrigin
  split at same
  · rename_i leftUrl rightUrl leftFound rightFound
    rw [known leftFound, known rightFound]
    exact same
  · cases same

theorem PlainOrigin.same {left right : String} (plain : PlainOrigin library.toWebLibrary left)
    (plain' : PlainOrigin library.toWebLibrary right) :
    originsAreSameOrigin library left right = passkeyCeremonyOriginsAreSameOrigin library.toWebLibrary left right := by
  unfold originsAreSameOrigin passkeyCeremonyOriginsAreSameOrigin
  cases found : passkeyCeremonyOriginUrl library.toWebLibrary left with
  | none => simp only [plain.urls.trans found]
  | some url =>
      cases found' : passkeyCeremonyOriginUrl library.toWebLibrary right with
      | none => simp only [plain.urls.trans found, plain'.urls.trans found']
      | some url' => simp only [plain.urls.trans found, plain'.urls.trans found']

def expectationsOf (identity : PasskeyCeremonyIdentity) : PasskeyClientDataExpectations :=
  { challenge := identity.challenge, topOrigin := identity.topOrigin, ancestorOrigins := identity.ancestorOrigins }

/-- The check of the ledger for a ceremony. -/
def CeremonyAccepts (library : WebLibrary) (identity : PasskeyCeremonyIdentity) (clientData : String) : Prop :=
  validatePasskeyCeremonyClientData library clientData identity.ceremony identity.origin identity.challenge
    identity.topOrigin identity.ancestorOrigins = .ok ()

/-- The check of the signing code. -/
def SigningAccepts (library : SigningLibrary) (identity : PasskeyCeremonyIdentity) (clientData : String) : Prop :=
  ∃ bytes, decodeClientData library clientData = .ok bytes ∧
    validateClientDataType library bytes identity.origin (expectedClientDataType identity.ceremony)
      (expectationsOf identity) = .ok ()

def clientDataOf (library : WebLibrary) (clientData : String) : Option ClientData :=
  (library.decodeBase64Url clientData).bind library.parseClientData

/-- The client data names the type and the challenge of the ceremony, and an origin that is the same one. -/
structure NamesCeremony (library : WebLibrary) (identity : PasskeyCeremonyIdentity) (data : ClientData) : Prop where
  type : data.type = some (expectedClientDataType identity.ceremony)
  challenge : data.challenge = some identity.challenge
  origin : ∃ origin, data.origin = some origin ∧ passkeyCeremonyOriginsAreSameOrigin library origin identity.origin = true

/-- An ancestor or the top of the page is of another origin. -/
def crossOriginOf (same : String → String → Bool) (origin : String) (topOrigin : Option String)
    (ancestorOrigins : List String) : Bool :=
  (topOrigin.any fun top => !same top origin) || ancestorOrigins.any fun ancestor => !same ancestor origin

/-- The client data names the top of the page where it is of another origin, and only there. -/
def namesTop (same : String → String → Bool) (crossOrigin : Bool) (data : ClientData) (topOrigin : Option String) :
    Bool :=
  if crossOrigin then
    match data.topOrigin, topOrigin with
    | some client, some top => same client top
    | _, _ => false
  else !data.hasTopOrigin

theorem ceremonyAccepts_iff {library : WebLibrary} : CeremonyAccepts library identity clientData ↔
    ∃ data, clientDataOf library clientData = some data ∧ NamesCeremony library identity data ∧
      data.crossOrigin = some (crossOriginOf (passkeyCeremonyOriginsAreSameOrigin library) identity.origin
        identity.topOrigin identity.ancestorOrigins) ∧
      namesTop (passkeyCeremonyOriginsAreSameOrigin library) (crossOriginOf (passkeyCeremonyOriginsAreSameOrigin library)
        identity.origin identity.topOrigin identity.ancestorOrigins) data identity.topOrigin = true := by
  unfold CeremonyAccepts validatePasskeyCeremonyClientData clientDataOf
  cases library.decodeBase64Url clientData with
  | none => simp
  | some bytes =>
      dsimp only [Option.bind_some]
      cases library.parseClientData bytes with
      | none => simp
      | some data =>
          dsimp only
          simp only [demand_ok, decide_eq_true_eq, and_true]
          constructor
          · rintro ⟨type, origin, challenge, cross, top⟩
            exact ⟨data, rfl, ⟨type, challenge, (Option.any_eq_true _ _).mp origin⟩, cross, top⟩
          · rintro ⟨_, same, named, cross, top⟩
            cases same
            exact ⟨named.type, (Option.any_eq_true _ _).mpr named.origin, named.challenge, cross, top⟩

theorem signingAccepts_iff : SigningAccepts library identity clientData ↔
    ∃ data, clientDataOf library.toWebLibrary clientData = some data ∧
      data.type = some (expectedClientDataType identity.ceremony) ∧ data.origin = some identity.origin ∧
      data.challenge = some identity.challenge ∧
      data.crossOrigin = some (crossOriginOf (originsAreSameOrigin library) identity.origin identity.topOrigin
        identity.ancestorOrigins) ∧
      namesTop (originsAreSameOrigin library) (crossOriginOf (originsAreSameOrigin library) identity.origin
        identity.topOrigin identity.ancestorOrigins) data identity.topOrigin = true := by
  unfold SigningAccepts clientDataOf decodeClientData
  cases library.decodeBase64Url clientData with
  | none => simp
  | some bytes =>
      dsimp only [Option.bind_some]
      unfold validateClientDataType
      cases parsed : library.parseClientData bytes with
      | none =>
          constructor
          · rintro ⟨_, same, valid⟩
            cases same
            rw [parsed] at valid
            cases valid
          · rintro ⟨_, none, _⟩
            cases none
      | some data =>
          constructor
          · rintro ⟨_, same, valid⟩
            cases same
            rw [parsed] at valid
            dsimp only at valid
            simp only [demand_ok, decide_eq_true_eq, and_true] at valid
            exact ⟨data, rfl, valid⟩
          · rintro ⟨_, same, valid⟩
            cases same
            refine ⟨bytes, rfl, ?_⟩
            rw [parsed]
            dsimp only
            simp only [demand_ok, decide_eq_true_eq, and_true]
            exact valid

theorem AcceptedOrigins.crossOrigin (origins : AcceptedOrigins library.toWebLibrary identity) :
    crossOriginOf (originsAreSameOrigin library) identity.origin identity.topOrigin identity.ancestorOrigins =
      crossOriginOf (passkeyCeremonyOriginsAreSameOrigin library.toWebLibrary) identity.origin identity.topOrigin
        identity.ancestorOrigins := by
  have above : (identity.topOrigin.any fun top => !originsAreSameOrigin library top identity.origin) =
      identity.topOrigin.any fun top => !passkeyCeremonyOriginsAreSameOrigin library.toWebLibrary top identity.origin := by
    cases top : identity.topOrigin with
    | none => simp
    | some top' => rw [Option.any_some, Option.any_some, (origins.top top' top).same origins.origin]
  have around : (identity.ancestorOrigins.any fun ancestor => !originsAreSameOrigin library ancestor identity.origin) =
      identity.ancestorOrigins.any fun ancestor =>
        !passkeyCeremonyOriginsAreSameOrigin library.toWebLibrary ancestor identity.origin := by
    rw [Bool.eq_iff_iff, List.any_eq_true, List.any_eq_true]
    apply exists_congr
    intro ancestor
    apply and_congr_right
    intro member
    rw [(origins.ancestors ancestor member).same origins.origin]
  rw [crossOriginOf, crossOriginOf, above, around]

theorem namesTop_mono {same same' : String → String → Bool} (weaker : ∀ left right, same left right = true → same' left right = true)
    {crossOrigin : Bool} {data : ClientData} {topOrigin : Option String}
    (named : namesTop same crossOrigin data topOrigin = true) : namesTop same' crossOrigin data topOrigin = true := by
  unfold namesTop at named ⊢
  cases crossOrigin with
  | false => exact named
  | true =>
      cases client : data.topOrigin with
      | none =>
          rw [client] at named
          cases named
      | some client' =>
          rw [client] at named
          cases topOrigin with
          | none => cases named
          | some top => exact weaker client' top named

/-- What the check of the ledger lets through, the signing code lets through if the origin is the very text
    of the ceremony. -/
theorem CeremonyAccepts.signing_iff (accepted : AcceptedIdentity library.toWebLibrary identity)
    (checked : CeremonyAccepts library.toWebLibrary identity clientData) :
    ∃ data, clientDataOf library.toWebLibrary clientData = some data ∧ NamesCeremony library.toWebLibrary identity data ∧
      (SigningAccepts library identity clientData ↔ data.origin = some identity.origin) := by
  obtain ⟨data, found, named, cross, top⟩ := ceremonyAccepts_iff.mp checked
  refine ⟨data, found, named, ?_⟩
  rw [← accepted.origins.crossOrigin] at cross top
  rw [signingAccepts_iff]
  constructor
  · rintro ⟨data', found', _, origin, _⟩
    rw [found] at found'
    cases found'
    exact origin
  · intro exactly
    exact ⟨data, found, named.type, exactly, named.challenge, cross,
      namesTop_mono (fun _ _ same => sameOrigin_signing same) top⟩

end ClientData

end VaultKern
