import VaultKern.Core.Detach
import VaultKern.Kdbx.Kdf
import VaultKern.Patch.MergeEntry
import VaultKern.Runtime.HistoryLimits

/-! # Saving with history limits

The limits are applied to the live vault for the time of the save. What it held before is
put back afterwards, entry by entry in the order of the tree.
-/

namespace VaultKern

open Kdbx

/-! ## Histories of a tree -/

mutual
/-- `clone_entry_histories`. -/
def cloneEntryHistories : Group → List (List Entry)
  | ⟨_, entries, children⟩ => entries.map (·.history) ++ cloneChildHistories children

def cloneChildHistories : List Group → List (List Entry)
  | [] => []
  | child :: rest => cloneEntryHistories child ++ cloneChildHistories rest
end

/-- The entries with the next histories, and the histories left. -/
def restoreHistories : List Entry → List (List Entry) → List Entry × List (List Entry)
  | [], snapshots => ([], snapshots)
  | entry :: rest, [] => (entry :: rest, [])
  | entry :: rest, history :: snapshots =>
      let later := restoreHistories rest snapshots
      ({ entry with history } :: later.1, later.2)

mutual
/-- `restore_entry_histories`, with the histories that are left. -/
def restoreEntryHistories : Group → List (List Entry) → Group × List (List Entry)
  | ⟨fields, entries, children⟩, snapshots =>
      let entries := restoreHistories entries snapshots
      let children := restoreChildHistories children entries.2
      (⟨fields, entries.1, children.1⟩, children.2)

def restoreChildHistories : List Group → List (List Entry) → List Group × List (List Entry)
  | [], snapshots => ([], snapshots)
  | child :: rest, snapshots =>
      let child := restoreEntryHistories child snapshots
      let rest := restoreChildHistories rest child.2
      (child.1 :: rest.1, rest.2)
end

/-! ## Recoverable conflicts -/

/-- `entries_by_id`. -/
def entriesById (root : Group) : BTreeMap Uuid Entry :=
  BTreeMap.lastWins ((entriesIn root).map fun entry => (entry.id, entry))

inductive RecoveryError where
  | entryRemoved
  | snapshotDiscarded (entryId : Uuid)
  deriving DecidableEq

def ensureSnapshotRetained (retainedEntries : BTreeMap Uuid Entry) (required : ThreeWayPatchRecoverySnapshot) :
    Except RecoveryError Unit :=
  match retainedEntries[required.entryId]? with
  | none => .error .entryRemoved
  | some retainedEntry =>
      if retainedEntry.history.contains required.snapshot then .ok ()
      else .error (.snapshotDiscarded required.entryId)

def ensurePatchConflictHistoryIsRecoverable (patched : Vault)
    (requiredHistorySnapshots : List ThreeWayPatchRecoverySnapshot) : Except RecoveryError Unit :=
  if requiredHistorySnapshots.isEmpty then .ok ()
  else requiredHistorySnapshots.forM (ensureSnapshotRetained (entriesById (enforceHistoryLimits patched).root))

/-! ## Saving -/

section Saving

variable (library : FileLibrary)

end Saving

end VaultKern
