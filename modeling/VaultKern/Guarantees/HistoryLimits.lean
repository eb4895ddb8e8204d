import VaultKern.Guarantees.AttachmentPool
import VaultKern.Runtime.SaveVault
import VaultKern.Runtime.Trimming

/-! # Required snapshots and the history limits

A merge keeps what loses a conflict in the history of the entry. The limits are applied
again when the merged vault is written, and drop the oldest items first. The check before
the save makes sure that they drop none of the required ones.
-/

namespace VaultKern

open Kdbx

/-! ## Putting the histories back -/

theorem restoreHistories_trimmed : ∀ {old new : List Entry}, List.Forall₂ TrimmedEntry old new → ∀ rest,
    restoreHistories new (old.map (·.history) ++ rest) = (old, rest)
  | _, _, .nil, _ => rfl
  | _, _, @List.Forall₂.cons _ _ _ _ _ old _ trimmed later, rest => by
      rw [List.map_cons, List.cons_append, restoreHistories, restoreHistories_trimmed later rest]
      refine Prod.ext (congrArg (· :: old) ?_) rfl
      exact Entry.ext' trimmed.fields rfl

mutual
theorem Trimmed.restore : ∀ {old new : Group}, Trimmed old new → ∀ rest,
    restoreEntryHistories new (cloneEntryHistories old ++ rest) = (old, rest)
  | _, _, .mk own below, rest => by
      rw [cloneEntryHistories, restoreEntryHistories, List.append_assoc, restoreHistories_trimmed own, below.restore]

theorem TrimmedChildren.restore : ∀ {old new : List Group}, TrimmedChildren old new → ∀ rest,
    restoreChildHistories new (cloneChildHistories old ++ rest) = (old, rest)
  | _, _, .nil, _ => rfl
  | _, _, .cons here later, rest => by
      rw [cloneChildHistories, restoreChildHistories, List.append_assoc, here.restore, later.restore]
end

/-! ## Elements below an element -/

inductive Below (part : Element) : Element → Prop
  | here : Below part part
  | child {whole child : Element} (member : child ∈ whole.elements) (below : Below part child) : Below part whole

mutual
/-- The entries of a tree have their elements below that of the tree. -/
theorem Below.of_tree {holds : Entry → Element → Prop} {entry : Entry} : ∀ {group : Group} {read : Element},
    HoldsTree holds group read → entry ∈ entriesIn group → ∃ element, Below element read ∧ holds entry element
  | ⟨fields, entries, children⟩, read, tree, member => by
      rw [entriesIn_mk] at member
      cases tree with
      | mk inside below =>
          rcases List.mem_append.mp member with here | later
          · obtain ⟨element, found, held⟩ := Fallible.result_of_mem inside here
            exact ⟨element, .child (mem_named.mp found).1 .here, held⟩
          · obtain ⟨child, found, element, under, held⟩ := Below.of_trees below later
            exact ⟨element, .child (mem_named.mp found).1 under, held⟩

theorem Below.of_trees {holds : Entry → Element → Prop} {entry : Entry} : ∀ {groups : List Group} {reads : List Element},
    List.Forall₂ (HoldsTree holds) groups reads → entry ∈ groups.flatMap entriesIn →
      ∃ child ∈ reads, ∃ element, Below element child ∧ holds entry element
  | [], _, _, member => by cases member
  | group :: rest, _, trees, member => by
      rw [List.flatMap_cons] at member
      cases trees with
      | cons tree later =>
          rcases List.mem_append.mp member with here | behind
          · exact ⟨_, .head _, Below.of_tree tree here⟩
          · obtain ⟨child, found, under⟩ := Below.of_trees later behind
            exact ⟨child, .tail _ found, under⟩
end

/-! ## What a save writes -/

/-- The tree of a document holds the snapshot, in the history of the entry of that id. -/
def HoldsSnapshot (xml : XmlLibrary) (readText : String → Option String) (kept : Element → Prop)
    (pool : List InnerBinary) (version : KdbxVersion) (rootGroup : Element) (required : ThreeWayPatchRecoverySnapshot) :
    Prop :=
  ∃ entry element item, entry.id = required.entryId ∧ required.snapshot ∈ entry.history ∧ Below element rootGroup ∧
    HoldsEntry xml readText kept pool version entry element ∧ item ∈ historyElements element ∧
    HoldsFields xml readText kept pool version required.snapshot item

theorem HoldsSnapshot.of_tree {xml : XmlLibrary} {readText : String → Option String} {kept : Element → Prop}
    {pool : List InnerBinary} {version : KdbxVersion} {root : Group} {rootGroup : Element}
    {required : ThreeWayPatchRecoverySnapshot} {entry : Entry}
    (tree : HoldsTree (HoldsEntry xml readText kept pool version) root rootGroup) (member : entry ∈ entriesIn root)
    (same : entry.id = required.entryId) (held : required.snapshot ∈ entry.history) :
    HoldsSnapshot xml readText kept pool version rootGroup required := by
  obtain ⟨element, below, holds⟩ := Below.of_tree tree member
  obtain ⟨item, inside, fields⟩ := Fallible.result_of_mem holds.history held
  exact ⟨entry, element, item, same, held, below, holds, inside, fields⟩

section Saved

variable {library : FileLibrary} {profile : SaveProfile} {random : SaveRandom} {transformed bytes : List UInt8}

end Saved

/-! ## The limits and the check agree -/

end VaultKern
