import VaultKern.Model.Types

/-! # History limits

After an edit the runtime drops the oldest history items until the limits of the
vault hold. Sizes are the lengths of the texts in bytes, without any overhead.
-/

namespace VaultKern

/-! ## Items for each entry -/

mutual
/-- The oldest items come first. -/
def enforceHistoryItemLimit (maxItems : Nat) : Group → Group
  | ⟨fields, entries, children⟩ =>
      ⟨fields,
        entries.map fun entry => { entry with history := entry.history.drop (entry.history.length - maxItems) },
        enforceHistoryItemLimits maxItems children⟩

def enforceHistoryItemLimits (maxItems : Nat) : List Group → List Group
  | [] => []
  | child :: rest => enforceHistoryItemLimit maxItems child :: enforceHistoryItemLimits maxItems rest
end

/-! ## Bytes in the whole tree -/

def estimatedEntrySize (entry : Entry) : Nat :=
  entry.title.utf8ByteSize + entry.username.utf8ByteSize + entry.password.utf8ByteSize + entry.url.utf8ByteSize
    + entry.notes.utf8ByteSize
    + (entry.attributes.toList.map fun (key, field) => key.utf8ByteSize + field.value.utf8ByteSize).sum
    + (entry.attachments.toList.map fun (name, attachment) =>
        name.utf8ByteSize + attachment.data.bytes.length).sum

mutual
def totalHistorySize : Group → Nat
  | ⟨_, entries, children⟩ =>
      ((entries.flatMap (·.history)).map estimatedEntrySize).sum + totalHistorySizes children

def totalHistorySizes : List Group → Nat
  | [] => 0
  | child :: rest => totalHistorySize child + totalHistorySizes rest
end

mutual
def historyItemCount : Group → Nat
  | ⟨_, entries, children⟩ => (entries.map (·.history.length)).sum + historyItemCounts children

def historyItemCounts : List Group → Nat
  | [] => 0
  | child :: rest => historyItemCount child + historyItemCounts rest
end

/-- The entry with the oldest first item so far: its time, and its path of child indices and
    last an entry index. -/
abbrev OldestHistory := Option (Nat × List Nat)

def visitOldestHistory (groupPath : List Nat) (oldest : OldestHistory) (entry : Entry × Nat) : OldestHistory :=
  match entry.1.history.head?, oldest with
  | none, _ => oldest
  | some history, none => some (history.modifiedAt, groupPath ++ [entry.2])
  | some history, some known =>
      if history.modifiedAt < known.1 then some (history.modifiedAt, groupPath ++ [entry.2]) else oldest

mutual
def collectOldestHistoryPath (groupPath : List Nat) (oldest : OldestHistory) : Group → OldestHistory
  | ⟨_, entries, children⟩ =>
      collectOldestHistoryPaths groupPath 0 (entries.zipIdx.foldl (visitOldestHistory groupPath) oldest) children

def collectOldestHistoryPaths (groupPath : List Nat) (index : Nat) (oldest : OldestHistory) :
    List Group → OldestHistory
  | [] => oldest
  | child :: rest =>
      collectOldestHistoryPaths groupPath (index + 1)
        (collectOldestHistoryPath (groupPath ++ [index]) oldest child) rest
end

mutual
def removeHistoryItemAtPath (path : List Nat) : Group → Option Group
  | ⟨fields, entries, children⟩ =>
      match path with
      | [] => none
      | [index] =>
          match entries[index]? with
          | none => none
          | some entry =>
              if entry.history.isEmpty then none
              else some ⟨fields, entries.set index { entry with history := entry.history.tail }, children⟩
      | index :: rest => (removeHistoryItemBelow index rest children).map fun children => ⟨fields, entries, children⟩

def removeHistoryItemBelow (index : Nat) (path : List Nat) : List Group → Option (List Group)
  | [] => none
  | child :: rest =>
      match index with
      | 0 => (removeHistoryItemAtPath path child).map fun child => child :: rest
      | index + 1 => (removeHistoryItemBelow index path rest).map fun rest => child :: rest
end

def removeOldestHistoryItem (root : Group) : Option Group :=
  match collectOldestHistoryPath [] none root with
  | none => none
  | some (_, path) => removeHistoryItemAtPath path root

/-- Every turn removes an item, so the number of items is enough fuel. -/
def enforceHistorySizeLimit (maxSize : Nat) : Nat → Group → Group
  | 0, root => root
  | fuel + 1, root =>
      if totalHistorySize root > maxSize then
        match removeOldestHistoryItem root with
        | none => root
        | some root => enforceHistorySizeLimit maxSize fuel root
      else root

/-- A negative limit is no limit. -/
def historyLimit (limit : Option Int) : Option Nat :=
  match limit with
  | none => none
  | some limit => if 0 ≤ limit then some limit.toNat else none

def limitItems (maxItems : Option Nat) (root : Group) : Group :=
  match maxItems with
  | none => root
  | some maxItems => enforceHistoryItemLimit maxItems root

def limitSize (maxSize : Option Nat) (root : Group) : Group :=
  match maxSize with
  | none => root
  | some maxSize => enforceHistorySizeLimit maxSize (historyItemCount root) root

def enforceHistoryLimits (vault : Vault) : Vault :=
  { vault with
    root := limitSize (historyLimit vault.historyMaxSize) (limitItems (historyLimit vault.historyMaxItems) vault.root) }

end VaultKern
