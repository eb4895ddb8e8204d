import VaultKern.Passkey.Commands

/-! # The origin rule of the extension

What the browser extension checks before it takes a ceremony to the credentials. `URL`, the list
of public suffixes and the answer of the relying party come from outside.
-/

namespace VaultKern.Browser

/-- What the extension reads of a `URL`. -/
structure ParsedUrl where
  protocol : String
  username : String
  password : String
  hostname : String
  pathname : String
  search : String
  hash : String
  origin : String
  deriving DecidableEq

structure Library where
  newUrl : String → Option ParsedUrl
  /-- `psl.get`: the registrable domain of a host name. -/
  pslGet : String → Option String
  /-- `sld` of `psl.parse`. -/
  pslSecondLevel : String → Option String
  toLowerCase : String → String

/-! ## Hosts -/

/-- White space and line terminators of ECMAScript. -/
def isBlank (c : Char) : Bool := (isWhitespace c && c.val ≠ 0x85) || c.val = 0xfeff

/-- `String.prototype.trim`. -/
def trim (text : String) : String :=
  String.ofList ((text.toList.dropWhile isBlank).reverse.dropWhile isBlank).reverse

/-- The text without one final dot. -/
def dropDot (text : String) : String :=
  if text.toList.getLast? = some '.' then String.ofList text.toList.dropLast else text

abbrev isLoopbackHost (host : String) : Bool := isPasskeyLoopbackHost host

/-- Four numbers of one to three digits. -/
def isDottedQuad (host : String) : Bool :=
  let parts := splitAll '.' host.toList
  parts.length = 4 && parts.all fun part => 1 ≤ part.length && part.length ≤ 3 && part.all Char.isDigit

def isIpAddress (host : String) : Bool := isDottedQuad host || host.toList.contains ':'

section Rules

variable (library : Library)

def normalizeHost (value : String) : String := library.toLowerCase (dropDot (trim value))

def normalizedHostFromUrl (value : String) : Option String :=
  (library.newUrl value).map fun url => normalizeHost library (stripBrackets url.hostname)

/-! ## Origins -/

def originIsSecureForWebAuthn (origin : String) : Bool :=
  match library.newUrl origin, normalizedHostFromUrl library origin with
  | some url, some host => url.protocol = "https:" || (url.protocol = "http:" && isLoopbackHost host)
  | _, _ => false

def originMatchesRelyingParty (origin relyingParty : String) : Bool :=
  match normalizedHostFromUrl library origin with
  | none => false
  | some host =>
      let relyingParty := normalizeHost library relyingParty
      if isLoopbackHost host || isLoopbackHost relyingParty then host = relyingParty
      else if isIpAddress host || isIpAddress relyingParty then host = relyingParty
      else (library.pslGet relyingParty).isSome && isSubdomain host relyingParty

def originCanUseRelatedOriginVerification (origin relyingParty : String) : Bool :=
  match library.newUrl origin, normalizedHostFromUrl library origin with
  | some url, some host =>
      let relyingParty := normalizeHost library relyingParty
      url.protocol = "https:"
        && !(isLoopbackHost host || isLoopbackHost relyingParty || isIpAddress host || isIpAddress relyingParty
          || (library.pslGet host).isNone || (library.pslGet relyingParty).isNone)
  | _, _ => false

structure RelyingPartyValidation where
  allowed : Bool
  relatedOriginVerified : Bool
  needsRelatedOriginVerification : Bool
  deriving DecidableEq

def validateOriginForRelyingParty (origin relyingParty : String) : RelyingPartyValidation :=
  if !originIsSecureForWebAuthn library origin then ⟨false, false, false⟩
  else if originMatchesRelyingParty library origin relyingParty then ⟨true, false, false⟩
  else if originCanUseRelatedOriginVerification library origin relyingParty then ⟨true, false, true⟩
  else ⟨false, false, false⟩

/-! ## Related origins -/

def relatedOriginLabelLimit : Nat := 5

/-- An entry of another JSON type is `none`. -/
def originFromRelatedOriginAllowlistEntry (value : Option String) : Option String := do
  let text ← value
  if (trim text).isEmpty then none
  let url ← library.newUrl text
  if url.username = "" && url.password = "" && url.search = "" && url.hash = ""
      && (url.pathname = "" || url.pathname = "/") then
    some url.origin
  else none

def relatedOriginLabel (origin : String) : Option String := do
  let candidate ← originFromRelatedOriginAllowlistEntry library (some origin)
  let host ← normalizedHostFromUrl library candidate
  if isLoopbackHost host || isIpAddress host then none else library.pslSecondLevel host

/-- The origin of an entry, with its label. -/
def labelledOrigin (value : Option String) : Option (String × String) := do
  let candidate ← originFromRelatedOriginAllowlistEntry library value
  let url ← library.newUrl candidate
  if url.protocol ≠ "https:" then none
  let label ← relatedOriginLabel library candidate
  return (candidate, label)

/-- `retainedRelatedOriginAllowlist`: the origins of the first labels, which are given. -/
def retainedRelatedOriginAllowlist (labels : List String) : List (Option String) → List String
  | [] => []
  | value :: rest =>
      match labelledOrigin library value with
      | none => retainedRelatedOriginAllowlist labels rest
      | some (origin, label) =>
          if labels.contains label then origin :: retainedRelatedOriginAllowlist labels rest
          else if relatedOriginLabelLimit ≤ labels.length then retainedRelatedOriginAllowlist labels rest
          else origin :: retainedRelatedOriginAllowlist (label :: labels) rest

/-- `answer` holds the `origins` that the relying party lists, if it answers with a list. -/
def originAllowedByRelatedOrigins (origin relyingParty : String) (answer : Option (List (Option String))) : Bool :=
  originCanUseRelatedOriginVerification library origin relyingParty &&
    match library.newUrl origin, answer with
    | some url, some origins => (retainedRelatedOriginAllowlist library [] origins).contains url.origin
    | _, _ => false

def completeRelyingPartyValidation (origin relyingParty : String) (validation : RelyingPartyValidation)
    (answer : Option (List (Option String))) : RelyingPartyValidation :=
  if !validation.needsRelatedOriginVerification then validation
  else if !relyingParty.isEmpty && originAllowedByRelatedOrigins library origin relyingParty answer then
    ⟨true, true, false⟩
  else ⟨false, false, false⟩

/-- The requests to the runtime, as long as it answers them, and the validation if there is no error. -/
def advanceToCredentialResolution (token origin relyingParty : String) (validation : RelyingPartyValidation)
    (answer : Option (List (Option String))) : List PasskeyRequest × Option RelyingPartyValidation :=
  let expectedPhase : PasskeyCeremonyPhase :=
    if validation.needsRelatedOriginVerification then .networkValidation else .userAuthorization
  let started : List PasskeyRequest :=
    if validation.needsRelatedOriginVerification then [.advance token .userAuthorization .networkValidation false] else []
  let completed := completeRelyingPartyValidation library origin relyingParty validation answer
  if !completed.allowed then (started, none)
  else
    (started ++ [.advance token expectedPhase .credentialResolution completed.relatedOriginVerified], some completed)

end Rules

end VaultKern.Browser
