import VaultKern.Runtime.Session

/-! # Origins and client data

The checks of origins, relying parties and client data that a ceremony goes through.
URLs, IP addresses, public suffixes, base64url and JSON are those of libraries.
-/

namespace VaultKern

/-- What the checks read of a parsed URL. -/
structure Url where
  scheme : String
  username : String
  hasPassword : Bool
  host : Option String
  port : Option Nat
  path : String
  hasQuery : Bool
  hasFragment : Bool
  deriving DecidableEq

/-- What the checks read of client data. A value of another JSON type is `none`. -/
structure ClientData where
  type : Option String
  origin : Option String
  challenge : Option String
  crossOrigin : Option Bool
  topOrigin : Option String
  hasTopOrigin : Bool
  deriving DecidableEq

structure WebLibrary where
  parseUrl : String → Option Url
  isIpAddress : String → Bool
  /-- The registrable domain of a host name. -/
  domainStr : String → Option String
  decodeBase64Url : String → Option (List UInt8)
  parseClientData : List UInt8 → Option ClientData

def demand {A : Type} (condition : Bool) (text : String) (next : Except RuntimeError A) : Except RuntimeError A :=
  if condition then next else .error (.message text)

/-! ## Hosts -/

def asciiLower (text : String) : String := String.ofList (text.toList.map Char.toLower)

def trimEndDots (text : String) : String := String.ofList (text.toList.reverse.dropWhile (· = '.')).reverse

/-- A host without the brackets around it. -/
def stripBrackets (host : String) : String :=
  match host.toList with
  | '[' :: rest => if rest.getLast? = some ']' then String.ofList rest.dropLast else host
  | _ => host

def normalizePasskeyOriginHost (host : String) : String := stripBrackets (asciiLower (trimEndDots (trimText host)))

def isPasskeyLoopbackHost (host : String) : Bool := host = "localhost" || host = "127.0.0.1" || host = "::1"

/-- Nothing but a scheme, a host and a port. -/
def Url.isOrigin (url : Url) : Bool :=
  url.username.isEmpty && !url.hasPassword && url.path = "/" && !url.hasQuery && !url.hasFragment

def isDomainLabel (label : List Char) : Bool :=
  !label.isEmpty && label.length ≤ 63 && label.head? ≠ some '-' && label.getLast? ≠ some '-'
    && label.all fun c => c.isAlphanum || c = '-'

def isSubdomain (host relyingParty : String) : Bool :=
  host = relyingParty || ("." ++ relyingParty).toList.isSuffixOf host.toList

section Checks

variable (library : WebLibrary)

/-! ## Relying parties -/

def validatePasskeyRelyingPartyId (relyingParty : String) : Except RuntimeError Unit :=
  let invalid := "invalid passkey relying party id"
  let literal := isPasskeyLoopbackHost relyingParty || library.isIpAddress relyingParty
  let named := relyingParty.utf8ByteSize ≤ 253 && (relyingParty.toList.all fun c => !(['/', ':', '@', '?', '#'].contains c))
    && (splitAll '.' relyingParty.toList).all isDomainLabel && (library.domainStr relyingParty).isSome
  demand (!relyingParty.isEmpty && trimText relyingParty = relyingParty && relyingParty.toList.getLast? ≠ some '.') invalid <|
    demand (asciiLower relyingParty = relyingParty) invalid <|
    demand (literal || named) invalid (.ok ())

/-- Both are loopback hosts, or both are IP addresses, or the host is in the domain. -/
def passkeyCeremonyOriginMatchesRelyingParty (origin relyingParty : String) : Bool :=
  match library.parseUrl origin with
  | none => false
  | some parsed =>
      match parsed.host with
      | none => false
      | some host =>
          let host := normalizePasskeyOriginHost host
          let relyingParty := asciiLower (trimEndDots (trimText relyingParty))
          let loopback := isPasskeyLoopbackHost host && isPasskeyLoopbackHost relyingParty && host = relyingParty
          if parsed.scheme ≠ "https" then parsed.scheme = "http" && loopback
          else if isPasskeyLoopbackHost host || isPasskeyLoopbackHost relyingParty then loopback
          else if library.isIpAddress host || library.isIpAddress relyingParty then host = relyingParty
          else (library.domainStr relyingParty).isSome && isSubdomain host relyingParty

/-! ## Origins -/

def validatePasskeyCeremonyOriginValue (value label : String) : Except RuntimeError Unit :=
  let invalid := "invalid passkey ceremony " ++ label ++ " origin"
  demand (trimText value = value) invalid <|
    match library.parseUrl value with
    | none => .error (.message invalid)
    | some parsed =>
        match parsed.host with
        | none => .error (.message invalid)
        | some host =>
            demand parsed.isOrigin invalid <|
              demand (parsed.scheme = "https"
                  || (parsed.scheme = "http" && isPasskeyLoopbackHost (normalizePasskeyOriginHost host)))
                ("passkey ceremony " ++ label ++ " origin must use https") (.ok ())

def validatePasskeyCeremonyOriginAndRelyingPartyForS0 (origin relyingParty : String) : Except RuntimeError Unit := do
  validatePasskeyRelyingPartyId library relyingParty
  demand (trimText origin = origin) "invalid passkey origin" <|
    match library.parseUrl origin with
    | none => .error (.message "invalid passkey origin")
    | some parsed =>
        match parsed.host with
        | none => .error (.message "passkey origin is missing a host")
        | some host =>
            let host := normalizePasskeyOriginHost host
            let relyingParty := asciiLower (trimEndDots (trimText relyingParty))
            demand parsed.isOrigin "invalid passkey origin" <|
              if parsed.scheme ≠ "https" then
                demand (parsed.scheme = "http" && isPasskeyLoopbackHost host && isPasskeyLoopbackHost relyingParty
                  && host = relyingParty) "passkey origin must use https" (.ok ())
              else if passkeyCeremonyOriginMatchesRelyingParty library origin relyingParty then .ok ()
              else
                demand (!(isPasskeyLoopbackHost host || isPasskeyLoopbackHost relyingParty || library.isIpAddress host
                    || library.isIpAddress relyingParty)) "passkey origin does not match relying party" <|
                  demand (library.domainStr host).isSome "invalid passkey origin" (.ok ())

/-- `port_or_known_default`. -/
def Url.knownPort (url : Url) : Option Nat :=
  url.port.or (if url.scheme = "https" then some 443 else if url.scheme = "http" then some 80 else none)

def passkeyCeremonyOriginUrl (value : String) : Option Url :=
  if trimText value ≠ value then none
  else (library.parseUrl value).filter fun parsed => parsed.isOrigin && parsed.host.isSome

def passkeyCeremonyOriginsAreSameOrigin (left right : String) : Bool :=
  match passkeyCeremonyOriginUrl library left, passkeyCeremonyOriginUrl library right with
  | some left, some right =>
      left.scheme = right.scheme && left.host.map asciiLower = right.host.map asciiLower
        && left.knownPort = right.knownPort
  | _, _ => false

/-! ## Client data -/

inductive PasskeyCeremonyKind where
  | get
  | create
  deriving DecidableEq

def validatePasskeyCeremonyChallenge (challenge : String) : Except RuntimeError Unit :=
  match library.decodeBase64Url challenge with
  | none => .error (.message "invalid passkey ceremony challenge")
  | some bytes => demand (!bytes.isEmpty) "invalid passkey ceremony challenge" (.ok ())

def expectedClientDataType : PasskeyCeremonyKind → String
  | .get => "webauthn.get"
  | .create => "webauthn.create"

/-- The top origin of client data is the one of the ceremony if that is another origin, and absent
    otherwise. -/
def topOriginMatches (crossOrigin : Bool) (data : ClientData) (topOrigin : Option String) : Bool :=
  if crossOrigin then
    match data.topOrigin, topOrigin with
    | some client, some top => passkeyCeremonyOriginsAreSameOrigin library client top
    | _, _ => false
  else !data.hasTopOrigin

def validatePasskeyCeremonyClientData (clientData : String) (ceremony : PasskeyCeremonyKind)
    (origin challenge : String) (topOrigin : Option String) (ancestorOrigins : List String) :
    Except RuntimeError Unit :=
  match library.decodeBase64Url clientData with
  | none => .error (.message "invalid passkey clientDataJSON encoding")
  | some bytes =>
      match library.parseClientData bytes with
      | none => .error (.message "invalid passkey clientDataJSON")
      | some data =>
          let crossOrigin :=
            (topOrigin.any fun top => !passkeyCeremonyOriginsAreSameOrigin library top origin)
              || ancestorOrigins.any fun ancestor => !passkeyCeremonyOriginsAreSameOrigin library ancestor origin
          demand (data.type = some (expectedClientDataType ceremony))
              "passkey ceremony clientDataJSON type mismatch" <|
            demand (data.origin.any fun client => passkeyCeremonyOriginsAreSameOrigin library client origin)
              "passkey ceremony clientDataJSON origin mismatch" <|
            demand (data.challenge = some challenge) "passkey ceremony challenge mismatch" <|
            demand (data.crossOrigin = some crossOrigin) "passkey ceremony clientDataJSON crossOrigin mismatch" <|
            demand (topOriginMatches library crossOrigin data topOrigin)
              "passkey ceremony clientDataJSON topOrigin mismatch" (.ok ())

end Checks

end VaultKern
