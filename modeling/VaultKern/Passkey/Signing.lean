import VaultKern.Passkey.Ceremony

/-! # Assertions and registrations

What the authenticator signs. The authenticator data says in one byte whether the user was
present and verified.
-/

namespace VaultKern

/-! ## Authenticator data -/

def authDataFlagUserPresent : UInt8 := 0x01
def authDataFlagUserVerified : UInt8 := 0x04
def authDataFlagBackupEligible : UInt8 := 0x08
def authDataFlagBackupState : UInt8 := 0x10
def authDataFlagAttestedCredentialData : UInt8 := 0x40

def flagIf (condition : Bool) (flag : UInt8) : UInt8 := if condition then flag else 0

def assertionFlags (passkey : PasskeyRecord) (userVerified : Bool) : UInt8 :=
  authDataFlagUserPresent ||| flagIf userVerified authDataFlagUserVerified
    ||| flagIf (passkey.backupEligible || passkey.backupState) authDataFlagBackupEligible
    ||| flagIf passkey.backupState authDataFlagBackupState

def registrationFlags (userVerified : Bool) : UInt8 :=
  authDataFlagUserPresent ||| flagIf userVerified authDataFlagUserVerified ||| authDataFlagBackupEligible
    ||| authDataFlagBackupState ||| authDataFlagAttestedCredentialData

/-- The key pair of a new credential. -/
structure GeneratedKey where
  privateKeyPem : String
  publicKeyCose : List UInt8

structure SigningLibrary extends WebLibrary where
  sha256 : List UInt8 → List UInt8
  /-- The signature in DER with a key in PEM, if it is one. -/
  sign : String → List UInt8 → Option (List UInt8)

structure PasskeyClientDataExpectations where
  challenge : String
  topOrigin : Option String
  ancestorOrigins : List String

section Signing

variable (library : SigningLibrary)

def textDigest (text : String) : List UInt8 := library.sha256 text.toUTF8.toList

def authenticatorData (relyingParty : String) (passkey : PasskeyRecord) (userVerified : Bool) : List UInt8 :=
  textDigest library relyingParty ++ [assertionFlags passkey userVerified] ++ List.replicate 4 0

def attestedAuthenticatorData (relyingParty : String) (credentialId publicKeyCose : List UInt8) (userVerified : Bool) :
    List UInt8 :=
  textDigest library relyingParty ++ [registrationFlags userVerified] ++ List.replicate 4 0 ++ List.replicate 16 0
    ++ [UInt8.ofNat (credentialId.length / 256), UInt8.ofNat credentialId.length] ++ credentialId ++ publicKeyCose

/-! ## Origins and client data once more -/

def validateOriginForRelyingParty (origin relyingParty : String) (relatedOriginVerified : Bool) :
    Except RuntimeError Unit :=
  let isAddress (host : String) := isPasskeyLoopbackHost host || library.isIpAddress host
  demand (trimText origin = origin) "invalid passkey origin" <|
    demand (!(trimText relyingParty).isEmpty && trimText relyingParty = relyingParty
        && relyingParty = normalizePasskeyOriginHost relyingParty) "invalid passkey relying party" <|
    match library.parseUrl origin with
    | none => .error (.message "invalid passkey origin")
    | some parsed =>
        match parsed.host with
        | none => .error (.message "passkey origin is missing a host")
        | some host =>
            let host := normalizePasskeyOriginHost host
            let known (name : String) := (library.domainStr name).isSome
            let sameParty :=
              if isAddress host || isAddress relyingParty then host = relyingParty
              else known relyingParty && isSubdomain host relyingParty
            let related := relatedOriginVerified && !(isAddress host || isAddress relyingParty) && known host
              && known relyingParty
            demand parsed.isOrigin "invalid passkey origin" <|
              demand (parsed.scheme = "https" || (parsed.scheme = "http" && isPasskeyLoopbackHost host))
                "passkey origin must use https" <|
              demand (sameParty || related) "passkey origin does not match relying party" (.ok ())

def originUrl (value : String) : Option Url := (library.parseUrl value).filter Url.isOrigin

def originsAreSameOrigin (left right : String) : Bool :=
  match originUrl library left, originUrl library right with
  | some left, some right =>
      left.scheme = right.scheme && left.host.map asciiLower = right.host.map asciiLower
        && left.knownPort = right.knownPort
  | _, _ => false

def validateClientDataType (bytes : List UInt8) (origin expectedType : String)
    (expectations : PasskeyClientDataExpectations) : Except RuntimeError Unit :=
  match library.parseClientData bytes with
  | none => .error (.message "invalid passkey clientDataJSON")
  | some data =>
      let crossOrigin :=
        (expectations.topOrigin.any fun top => !originsAreSameOrigin library top origin)
          || expectations.ancestorOrigins.any fun ancestor => !originsAreSameOrigin library ancestor origin
      let topMatches :=
        if crossOrigin then
          match data.topOrigin, expectations.topOrigin with
          | some client, some top => originsAreSameOrigin library client top
          | _, _ => false
        else !data.hasTopOrigin
      demand (data.type = some expectedType) ("passkey clientDataJSON type must be " ++ expectedType) <|
        demand (data.origin = some origin) "passkey clientDataJSON origin mismatch" <|
        demand (data.challenge = some expectations.challenge) "passkey clientDataJSON challenge mismatch" <|
        demand (data.crossOrigin = some crossOrigin) "passkey clientDataJSON crossOrigin mismatch" <|
        demand topMatches "passkey clientDataJSON topOrigin mismatch" (.ok ())

def decodeClientData (clientData : String) : Except RuntimeError (List UInt8) :=
  match library.decodeBase64Url clientData with
  | none => .error (.message "invalid passkey clientDataJSON base64url")
  | some bytes => .ok bytes

/-! ## Assertions -/

structure PasskeyAssertionRequest where
  relyingParty : String
  origin : String
  credentialId : String
  discoverable : Bool
  userPresenceVerified : Bool
  userVerified : Bool
  relatedOriginVerified : Bool
  clientData : String

structure PasskeyAssertion where
  credentialId : String
  authenticatorData : List UInt8
  signature : List UInt8
  userHandle : Option String

def signWith (privateKeyPem : String) (payload : List UInt8) : Except RuntimeError (List UInt8) :=
  match library.sign privateKeyPem payload with
  | none => .error (.message "invalid passkey private key")
  | some signature => .ok signature

def createAssertion (passkey : PasskeyRecord) (request : PasskeyAssertionRequest)
    (expectations : PasskeyClientDataExpectations) : Except RuntimeError PasskeyAssertion :=
  demand (passkey.credentialId = request.credentialId) "passkey credential id mismatch" <|
    demand (passkey.relyingParty = request.relyingParty) "passkey relying party mismatch" <|
    demand (request.userPresenceVerified || request.userVerified) "passkey user presence was not verified" do
      validateOriginForRelyingParty library request.origin request.relyingParty request.relatedOriginVerified
      let clientData ← decodeClientData library request.clientData
      validateClientDataType library clientData request.origin "webauthn.get" expectations
      let data := authenticatorData library request.relyingParty passkey request.userVerified
      let signature ← signWith library passkey.privateKeyPem (data ++ library.sha256 clientData)
      return {
        credentialId := passkey.credentialId
        authenticatorData := data
        signature
        userHandle := if request.discoverable then passkey.userHandle else none }

/-! ## Registrations -/

structure PasskeyRegistrationRequest where
  relyingParty : String
  origin : String
  userName : String
  userHandle : String
  publicKeyAlgorithm : Int
  userVerified : Bool
  relatedOriginVerified : Bool
  clientData : String

structure PasskeyRegistration where
  passkey : PasskeyRecord
  authenticatorData : List UInt8

def es256CoseAlgorithm : Int := -7

def validateUserHandle (userHandle : String) : Except RuntimeError Unit :=
  match library.decodeBase64Url userHandle with
  | none => .error (.message "invalid passkey user handle base64url")
  | some bytes =>
      demand (!bytes.isEmpty && bytes.length ≤ 64) "passkey user handle must be 1 to 64 bytes" (.ok ())

def validatePasskeyRegistrationParameters (userHandle : String) (publicKeyAlgorithm : Int) : Except RuntimeError Unit :=
  demand (publicKeyAlgorithm = es256CoseAlgorithm) "unsupported passkey public key algorithm"
    (validateUserHandle library userHandle)

def registeredPasskey (request : PasskeyRegistrationRequest) (credentialId : String) (key : GeneratedKey) :
    PasskeyRecord :=
  { username := request.userName
    credentialId
    generatedUserId := none
    privateKeyPem := key.privateKeyPem
    relyingParty := request.relyingParty
    userHandle := some request.userHandle
    backupEligible := true
    backupState := true }

def createRegistrationMaterial (request : PasskeyRegistrationRequest) (credentialId : String) (key : GeneratedKey) :
    Except RuntimeError PasskeyRegistration := do
  validatePasskeyRegistrationParameters library request.userHandle request.publicKeyAlgorithm
  match library.decodeBase64Url credentialId with
  | none => .error (.message "generated passkey credential id was not base64url")
  | some bytes =>
      demand (!bytes.isEmpty && bytes.length < 2 ^ 16) "passkey credential id has an invalid length" <|
        .ok
          { passkey := registeredPasskey request credentialId key
            authenticatorData :=
              attestedAuthenticatorData library request.relyingParty bytes key.publicKeyCose request.userVerified }

def createRegistrationWithCredentialId (request : PasskeyRegistrationRequest)
    (expectations : PasskeyClientDataExpectations) (credentialId : String) (key : GeneratedKey) :
    Except RuntimeError PasskeyRegistration := do
  validateOriginForRelyingParty library request.origin request.relyingParty request.relatedOriginVerified
  let clientData ← decodeClientData library request.clientData
  validateClientDataType library clientData request.origin "webauthn.create" expectations
  createRegistrationMaterial library request credentialId key

end Signing

end VaultKern
