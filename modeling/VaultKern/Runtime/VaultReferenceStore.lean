import VaultKern.Autofill.Plan
import VaultKern.Lib.LockedFile

/-! # The vault reference store

The vaults a profile knows, which of them is current, and the cleanups that deleted references still
owe. Several owners share the store's file; each operation reads it afresh under the store lock and
replaces it. A missing file reads as the empty store.
-/

namespace VaultKern.References

structure StoredOneDriveReference where
  driveId : String
  itemId : String
  accountLabel : String
  deriving DecidableEq, Repr

structure StoredVaultReference where
  vaultRefId : String
  sourceKind : String
  path : String
  oneDrive : Option StoredOneDriveReference
  displayName : String
  sourceSummary : String
  lastUsedAt : Int
  deriving DecidableEq, Repr

inductive StoredVaultSource where
  | localPath (path : String)
  | oneDriveItem (driveId itemId accountLabel : String)
  deriving DecidableEq, Repr

structure PendingVaultCleanup where
  vaultRefId : String
  source : StoredVaultSource
  deriving DecidableEq, Repr

structure VaultReferenceStoreData where
  currentVaultRefId : Option String := none
  vaults : List StoredVaultReference := []
  pendingCleanups : List PendingVaultCleanup := []
  deriving DecidableEq, Repr

/-- The digest, and how the platform takes a file name from a path. -/
structure ReferenceLibrary where
  sha256 : List UInt8 → List UInt8
  fileStem : String → Option String
  fileName : String → Option String

section Operations

variable (library : ReferenceLibrary)

def localVaultRefId (path : String) : String := "local-" ++ hexText (library.sha256 path.toUTF8.toList)

def onedriveVaultRefId (driveId itemId : String) : String :=
  "onedrive-" ++ hexText (library.sha256 (driveId ++ ":" ++ itemId).toUTF8.toList)

def displayNameForPath (path : String) : String := (library.fileStem path).getD path

def displayNameForCloudName (name : String) : String := (library.fileStem name).getD name

def sourceSummaryForPath (path : String) : String := (library.fileName path).getD path

/-- Most recently used first, then by display name. -/
def sortVaults (vaults : List StoredVaultReference) : List StoredVaultReference :=
  vaults.mergeSort fun left right =>
    decide (right.lastUsedAt < left.lastUsedAt ∨
      right.lastUsedAt = left.lastUsedAt ∧ left.displayName ≤ right.displayName)

def vaultNotFound (vaultRefId : String) : String := s!"vault reference not found: {vaultRefId}"

def storedSource (vault : StoredVaultReference) (vaultRefId : String) : Except String StoredVaultSource :=
  if vault.sourceKind = "onedrive" then
    match vault.oneDrive with
    | none => .error s!"OneDrive vault reference is incomplete: {vaultRefId}"
    | some oneDrive => .ok (.oneDriveItem oneDrive.driveId oneDrive.itemId oneDrive.accountLabel)
  else .ok (.localPath vault.path)

/-- Change the first member that is wanted. -/
def changeFirst {A : Type} (wanted : A → Bool) (change : A → A) : List A → List A
  | [] => []
  | a :: rest => if wanted a then change a :: rest else a :: changeFirst wanted change rest

namespace VaultReferenceStoreData

variable (data : VaultReferenceStoreData)

def knows (vaultRefId : String) : Bool := data.vaults.any (·.vaultRefId == vaultRefId)

/-- Change the stored reference or add it, and make it current. -/
def upsert (vaultRefId : String) (change : StoredVaultReference → StoredVaultReference) (added : StoredVaultReference) :
    VaultReferenceStoreData where
  currentVaultRefId := some vaultRefId
  vaults := sortVaults (
    if data.knows vaultRefId then changeFirst (·.vaultRefId == vaultRefId) change data.vaults
    else data.vaults ++ [added])
  pendingCleanups := data.pendingCleanups.filter (·.vaultRefId != vaultRefId)

def upsertLocalPath (path : String) (lastUsedAt : Int) : VaultReferenceStoreData :=
  let vaultRefId := localVaultRefId library path
  let displayName := displayNameForPath library path
  let sourceSummary := sourceSummaryForPath library path
  data.upsert vaultRefId (fun vault => { vault with displayName, sourceSummary, lastUsedAt })
    { vaultRefId, path, sourceKind := "local", oneDrive := none, displayName, sourceSummary, lastUsedAt }

def upsertOnedriveItem (driveId itemId displayName accountLabel : String) (lastUsedAt : Int) :
    VaultReferenceStoreData :=
  let vaultRefId := onedriveVaultRefId library driveId itemId
  let sourceSummary := accountLabel ++ " / " ++ displayName
  let oneDrive := some { driveId, itemId, accountLabel }
  let displayName := displayNameForCloudName library displayName
  data.upsert vaultRefId
    (fun vault => { vault with sourceKind := "onedrive", path := "", oneDrive, displayName, sourceSummary, lastUsedAt })
    { vaultRefId, sourceKind := "onedrive", path := "", oneDrive, displayName, sourceSummary, lastUsedAt }

def markCurrent (vaultRefId : String) (lastUsedAt : Int) : Except String VaultReferenceStoreData :=
  if data.knows vaultRefId then
    .ok { data with
      vaults := sortVaults (changeFirst (·.vaultRefId == vaultRefId) ({ · with lastUsedAt }) data.vaults)
      currentVaultRefId := some vaultRefId }
  else .error (vaultNotFound vaultRefId)

/-- What the caller is told of a deletion is `none` where the reference is current and may not be deleted. -/
def deleteWithCurrentPolicy (vaultRefId : String) (allowCurrent : Bool) :
    Except String (Option (Bool × PendingVaultCleanup) × VaultReferenceStoreData) :=
  if !allowCurrent && data.currentVaultRefId == some vaultRefId then .ok (none, data)
  else
    match data.vaults.find? (·.vaultRefId == vaultRefId) with
    | none => .error (vaultNotFound vaultRefId)
    | some stored =>
        match storedSource stored vaultRefId with
        | .error message => .error message
        | .ok source =>
            let cleanup := { vaultRefId, source }
            let deletedCurrent := data.currentVaultRefId == some vaultRefId
            .ok (some (deletedCurrent, cleanup),
              { vaults := data.vaults.filter (·.vaultRefId != vaultRefId)
                currentVaultRefId := if deletedCurrent then none else data.currentVaultRefId
                pendingCleanups := data.pendingCleanups.filter (·.vaultRefId != vaultRefId) ++ [cleanup] })

def intentIsCurrent (cleanup : PendingVaultCleanup) : Bool :=
  data.pendingCleanups.contains cleanup && !data.knows cleanup.vaultRefId

def completeCleanup (cleanup : PendingVaultCleanup) : VaultReferenceStoreData :=
  { data with pendingCleanups := data.pendingCleanups.filter (· != cleanup) }

end VaultReferenceStoreData

/-! ## Operations on the shared file -/

inductive Operation where
  | upsertLocalPath (path : String) (lastUsedAt : Int)
  | upsertOnedriveItem (driveId itemId displayName accountLabel : String) (lastUsedAt : Int)
  | markCurrent (vaultRefId : String) (lastUsedAt : Int)
  | delete (vaultRefId : String)
  | deleteIfNotCurrent (vaultRefId : String)
  /-- The cleanup's action runs between the reading of the file and its replacement. -/
  | completeCleanupWhile (cleanup : PendingVaultCleanup)
  deriving DecidableEq

open LockedFile

def mutation {A : Type} : Except String (A × VaultReferenceStoreData) → Decision VaultReferenceStoreData
  | .error _ => .refuses
  | .ok (_, next) => .replaces next

def Operation.decision (operation : Operation) (data : VaultReferenceStoreData) : Decision VaultReferenceStoreData :=
  match operation with
  | .upsertLocalPath path lastUsedAt => .replaces (data.upsertLocalPath library path lastUsedAt)
  | .upsertOnedriveItem driveId itemId displayName accountLabel lastUsedAt =>
      .replaces (data.upsertOnedriveItem library driveId itemId displayName accountLabel lastUsedAt)
  | .markCurrent vaultRefId lastUsedAt => mutation ((data.markCurrent vaultRefId lastUsedAt).map ((), ·))
  | .delete vaultRefId => mutation (data.deleteWithCurrentPolicy vaultRefId true)
  | .deleteIfNotCurrent vaultRefId => mutation (data.deleteWithCurrentPolicy vaultRefId false)
  | .completeCleanupWhile cleanup =>
      if data.intentIsCurrent cleanup then .replaces (data.completeCleanup cleanup) else .keeps

abbrev Store := LockedFile.World Operation VaultReferenceStoreData

abbrev StoreStep := LockedFile.Step (Operation.decision library)

abbrev StoreRun := LockedFile.Run (Operation.decision library)

end Operations

end VaultKern.References
