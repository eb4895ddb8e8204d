import VaultKern.Kdbx.KdfGate
import VaultKern.Runtime.UnlockBlob

/-! # Quick unlock

A vault is opened with the blob that the device keeps: with its transformed key, or, when the salt of the
file was changed, with a key that is derived from its master credential. The secure storage is the
environment; it may answer and fail as it likes.
-/

namespace VaultKern.Unlock

open Kdbx (KdbxError KdfLibrary KdfProfile CompositeKey KeyComponent Deriving ExternalKdfPolicy ExternalKdfConfirmation
  deriveTransformedKeyWithPolicy loadKdbx)

/-! ## The storage -/

inductive SecureStorageErrorKind where
  | cancelled | helloKeyInvalidated | recordInvalidated
  deriving DecidableEq

/-- The causes of an error; those of the storage have a kind. -/
abbrev ErrorChain := List (Option SecureStorageErrorKind)

def isSecureStorageCancelled (error : ErrorChain) : Bool := error.contains (some .cancelled)

def isSecureStorageInvalidated (error : ErrorChain) : Bool :=
  error.any fun cause => cause == some .helloKeyInvalidated || cause == some .recordInvalidated

abbrev LoadAnswer := Except ErrorChain (Option (List UInt8))

/-- The record of one storage key. Each call may change the storage. -/
structure SecureStorageProvider (S : Type) where
  load : S → LoadAnswer × S
  store : List UInt8 → S → Except ErrorChain Unit × S
  delete : S → Except ErrorChain Unit × S

inductive StorageCall where
  | delete
  | store (value : List UInt8)
  deriving DecidableEq

/-- The storage, with the calls that change the record and the derivations that were started. -/
structure Session (S : Type) where
  storage : S
  calls : List StorageCall := []
  started : List KdfProfile := []

inductive UnlockError where
  | storage (context : String) (error : ErrorChain)
  | kdbx (error : KdbxError)
  | blob (error : BlobError)
  deriving DecidableEq

/-! ## Attempts -/

def MasterCredential.toCompositeKey (credential : MasterCredential) : CompositeKey where
  components := (credential.password.map KeyComponent.password).toList ++
    (credential.keyFileContribution.map fun contribution => KeyComponent.keyFile contribution.bytes).toList

structure MasterCredentialShape where
  hasPassword : Bool
  hasKeyFile : Bool
  deriving DecidableEq

def MasterCredential.shape (credential : MasterCredential) : MasterCredentialShape where
  hasPassword := credential.password.isSome
  hasKeyFile := credential.keyFileContribution.isSome

structure UnlockedVault where
  vault : Vault
  transformedKey : Array32
  credentialShape : MasterCredentialShape

inductive UnlockAttempt where
  | unlocked (vault : UnlockedVault)
  | notEnrolled
  | cancelled
  | openAppRequired
  | credentialRequired

section Attempts

variable {S : Type} (provider : SecureStorageProvider S) (library : KdfLibrary)

abbrev Unlocking (S A : Type) := Attempt UnlockError (Session S) A

/-- Delete the record, and go on if that succeeds. -/
def deleteRecord (context : String) : Unlocking S Unit := fun session =>
  let (answer, storage) := provider.delete session.storage
  (answer.mapError (.storage context), { session with storage, calls := session.calls ++ [.delete] })

/-- Store a value; a failure does not matter. -/
def tryStore (value : List UInt8) : Unlocking S Unit := fun session =>
  let (_, storage) := provider.store value session.storage
  (.ok (), { session with storage, calls := session.calls ++ [.store value] })

def runDeriving {A : Type} (computation : Deriving A) : Unlocking S A := fun session =>
  let (result, started) := computation session.started
  (result.mapError .kdbx, { session with started })

variable (fileBytes : List UInt8) (policy : ExternalKdfPolicy) (confirmation : ExternalKdfConfirmation)
  (refreshCachedTransformedKey : Bool)

/-- The file did not open with the cached key. -/
def unlockWithCredential (blob : UnlockBlob) : Unlocking S UnlockAttempt :=
  if policy = .extension then pure .openAppRequired
  else do
    let refreshed ← runDeriving (deriveTransformedKeyWithPolicy library fileBytes blob.masterCredential.toCompositeKey
      policy.evaluate confirmation)
    match loadKdbx library.toFileLibrary fileBytes refreshed.bytes with
    | .ok vault =>
        let unlocked := UnlockAttempt.unlocked
          { vault, transformedKey := refreshed, credentialShape := blob.masterCredential.shape }
        if refreshCachedTransformedKey then do
          let encoded ← Attempt.lift
            ((UnlockBlob.encode { masterCredential := blob.masterCredential, cachedTransformedKey := refreshed }).mapError
              .blob)
          tryStore provider encoded
          pure unlocked
        else pure unlocked
    | .error .headerHmacMismatch =>
        if refreshCachedTransformedKey then do
          deleteRecord provider "failed to delete stale unlock blob"
          pure .credentialRequired
        else pure .credentialRequired
    | .error error => Attempt.fail (.kdbx error)

def unlockWithBlob (blob : UnlockBlob) : Unlocking S UnlockAttempt :=
  match loadKdbx library.toFileLibrary fileBytes blob.cachedTransformedKey.bytes with
  | .ok vault =>
      pure (.unlocked
        { vault, transformedKey := blob.cachedTransformedKey, credentialShape := blob.masterCredential.shape })
  | .error .headerHmacMismatch =>
      unlockWithCredential provider library fileBytes policy confirmation refreshCachedTransformedKey blob
  | .error error => Attempt.fail (.kdbx error)

/-- What is done with the answer of the storage. -/
def unlockWithAnswer : LoadAnswer → Unlocking S UnlockAttempt
  | .ok none => pure .notEnrolled
  | .ok (some encoded) =>
      if encoded = [] then do
        deleteRecord provider "failed to delete malformed unlock blob"
        pure .notEnrolled
      else
        match UnlockBlob.decode encoded with
        | .ok blob => unlockWithBlob provider library fileBytes policy confirmation refreshCachedTransformedKey blob
        | .error _ => do
            deleteRecord provider "failed to delete malformed unlock blob"
            pure .notEnrolled
  | .error error =>
      if isSecureStorageCancelled error then pure .cancelled
      else if isSecureStorageInvalidated error then do
        deleteRecord provider "failed to delete invalidated unlock blob"
        pure .notEnrolled
      else Attempt.fail (.storage "failed to load unlock blob" error)

def unlockFromBlobWithCachePolicy : Unlocking S UnlockAttempt := fun session =>
  let (answer, storage) := provider.load session.storage
  unlockWithAnswer provider library fileBytes policy confirmation refreshCachedTransformedKey answer
    { session with storage }

def unlockFromBlobWithPolicy : Unlocking S UnlockAttempt :=
  unlockFromBlobWithCachePolicy provider library fileBytes policy confirmation true

def unlockHistoricalSnapshotFromBlobWithPolicy : Unlocking S UnlockAttempt :=
  unlockFromBlobWithCachePolicy provider library fileBytes policy confirmation false

end Attempts

/-! ## Sequences of attempts -/

inductive UnlockTarget where
  | current | historicalSnapshot
  deriving DecidableEq

structure UnlockRequest where
  target : UnlockTarget
  fileBytes : List UInt8
  policy : ExternalKdfPolicy
  confirmation : ExternalKdfConfirmation

/-- What was seen of one attempt. -/
structure Attempted where
  request : UnlockRequest
  answer : LoadAnswer
  calls : List StorageCall
  started : List KdfProfile
  result : Except UnlockError UnlockAttempt

section Sequences

variable {S : Type} (provider : SecureStorageProvider S) (library : KdfLibrary)

def UnlockRequest.run (request : UnlockRequest) : Unlocking S UnlockAttempt :=
  match request.target with
  | .current => unlockFromBlobWithPolicy provider library request.fileBytes request.policy request.confirmation
  | .historicalSnapshot =>
      unlockHistoricalSnapshotFromBlobWithPolicy provider library request.fileBytes request.policy request.confirmation

def attempt (request : UnlockRequest) (storage : S) : Attempted × S :=
  let (result, session) := request.run provider library { storage }
  ({ request, answer := (provider.load storage).1, calls := session.calls, started := session.started, result },
    session.storage)

def attempts : List UnlockRequest → S → List Attempted × S
  | [], storage => ([], storage)
  | request :: rest, storage =>
      let (first, storage) := attempt provider library request storage
      let (others, storage) := attempts rest storage
      (first :: others, storage)

end Sequences

end VaultKern.Unlock
