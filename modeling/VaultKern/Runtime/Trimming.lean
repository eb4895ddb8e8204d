import VaultKern.Core.Detach
import VaultKern.Runtime.HistoryLimits

/-! # Trimmed trees

What the history limits may do to a tree: histories lose items at the front, and nothing
else changes.
-/

namespace VaultKern

structure TrimmedEntry (old new : Entry) : Prop where
  fields : new.toEntryFields = old.toEntryFields
  suffix : new.history <:+ old.history

mutual
inductive Trimmed : Group → Group → Prop
  | mk {fields entries entries' children children'} (own : List.Forall₂ TrimmedEntry entries entries')
      (below : TrimmedChildren children children') : Trimmed ⟨fields, entries, children⟩ ⟨fields, entries', children'⟩

inductive TrimmedChildren : List Group → List Group → Prop
  | nil : TrimmedChildren [] []
  | cons {child child' rest rest'} (here : Trimmed child child') (later : TrimmedChildren rest rest') :
      TrimmedChildren (child :: rest) (child' :: rest')
end

theorem TrimmedEntry.refl (entry : Entry) : TrimmedEntry entry entry := ⟨rfl, List.suffix_rfl⟩

theorem TrimmedEntry.trans {a b c : Entry} (first : TrimmedEntry a b) (second : TrimmedEntry b c) : TrimmedEntry a c :=
  ⟨second.fields.trans first.fields, second.suffix.trans first.suffix⟩

theorem trimmedEntries_refl (entries : List Entry) : List.Forall₂ TrimmedEntry entries entries :=
  List.forall₂_same.mpr fun entry _ => .refl entry

theorem setHistory_trimmed {entry new : Entry} (trimmed : TrimmedEntry entry new) : ∀ {entries : List Entry} {index : Nat},
    entries[index]? = some entry → List.Forall₂ TrimmedEntry entries (entries.set index new)
  | [], _, held => by cases held
  | first :: rest, 0, held => by
      cases held
      exact .cons trimmed (trimmedEntries_refl rest)
  | first :: rest, index + 1, held => .cons (.refl first) (setHistory_trimmed trimmed held)

theorem trimmedEntries_trans : ∀ {a b c : List Entry}, List.Forall₂ TrimmedEntry a b → List.Forall₂ TrimmedEntry b c →
    List.Forall₂ TrimmedEntry a c
  | _, _, _, .nil, .nil => .nil
  | _, _, _, .cons h later, .cons h' later' => .cons (h.trans h') (trimmedEntries_trans later later')

mutual
theorem Trimmed.refl : ∀ root : Group, Trimmed root root
  | ⟨_, entries, children⟩ => .mk (trimmedEntries_refl entries) (TrimmedChildren.refl children)

theorem TrimmedChildren.refl : ∀ children : List Group, TrimmedChildren children children
  | [] => .nil
  | child :: rest => .cons (Trimmed.refl child) (TrimmedChildren.refl rest)
end

mutual
theorem Trimmed.trans : ∀ {a b c : Group}, Trimmed a b → Trimmed b c → Trimmed a c
  | _, _, _, .mk own below, .mk own' below' => .mk (trimmedEntries_trans own own') (below.trans below')

theorem TrimmedChildren.trans : ∀ {a b c : List Group}, TrimmedChildren a b → TrimmedChildren b c → TrimmedChildren a c
  | _, _, _, .nil, .nil => .nil
  | _, _, _, .cons here later, .cons here' later' => .cons (here.trans here') (later.trans later')
end

mutual
/-- Entry by entry, in the order of the tree. -/
theorem Trimmed.entries : ∀ {old new : Group}, Trimmed old new →
    List.Forall₂ TrimmedEntry (entriesIn old) (entriesIn new)
  | _, _, .mk own below => by
      rw [entriesIn_mk, entriesIn_mk]
      exact List.rel_append own below.entries

theorem TrimmedChildren.entries : ∀ {old new : List Group}, TrimmedChildren old new →
    List.Forall₂ TrimmedEntry (old.flatMap entriesIn) (new.flatMap entriesIn)
  | _, _, .nil => .nil
  | _, _, .cons here later => by
      rw [List.flatMap_cons, List.flatMap_cons]
      exact List.rel_append here.entries later.entries
end

/-! ## Items for each entry -/

/-- No entry has more items than that. -/
def WithinItems (maxItems : Nat) (entries : List Entry) : Prop := ∀ entry ∈ entries, entry.history.length ≤ maxItems

theorem WithinItems.trimmed {maxItems : Nat} : ∀ {old new : List Entry}, WithinItems maxItems old →
    List.Forall₂ TrimmedEntry old new → WithinItems maxItems new
  | _, _, _, .nil => fun _ member => by cases member
  | _, _, within, .cons trimmed later => by
      have rest := WithinItems.trimmed (fun entry member => within entry (.tail _ member)) later
      intro entry member
      cases member with
      | head => exact trimmed.suffix.length_le.trans (within _ (.head _))
      | tail _ member => exact rest entry member

theorem withinItems_append {maxItems : Nat} {a b : List Entry} :
    WithinItems maxItems (a ++ b) ↔ WithinItems maxItems a ∧ WithinItems maxItems b :=
  List.forall_mem_append

section Items

variable (maxItems : Nat)

mutual
theorem enforceHistoryItemLimit_trimmed : ∀ root : Group, Trimmed root (enforceHistoryItemLimit maxItems root)
  | ⟨fields, entries, children⟩ => by
      rw [enforceHistoryItemLimit]
      refine .mk ?_ (enforceHistoryItemLimits_trimmed children)
      rw [List.forall₂_map_right_iff, List.forall₂_same]
      exact fun entry _ => ⟨rfl, List.drop_suffix _ _⟩

theorem enforceHistoryItemLimits_trimmed : ∀ children : List Group,
    TrimmedChildren children (enforceHistoryItemLimits maxItems children)
  | [] => .nil
  | child :: rest => .cons (enforceHistoryItemLimit_trimmed child) (enforceHistoryItemLimits_trimmed rest)
end

mutual
theorem enforceHistoryItemLimit_within : ∀ root : Group,
    WithinItems maxItems (entriesIn (enforceHistoryItemLimit maxItems root))
  | ⟨fields, entries, children⟩ => by
      rw [enforceHistoryItemLimit, entriesIn_mk]
      refine withinItems_append.mpr ⟨?_, enforceHistoryItemLimits_within children⟩
      intro entry member
      obtain ⟨old, _, rfl⟩ := List.mem_map.mp member
      rw [List.length_drop]
      omega

theorem enforceHistoryItemLimits_within : ∀ children : List Group,
    WithinItems maxItems ((enforceHistoryItemLimits maxItems children).flatMap entriesIn)
  | [] => fun _ member => by cases member
  | child :: rest => by
      rw [enforceHistoryItemLimits, List.flatMap_cons]
      exact withinItems_append.mpr ⟨enforceHistoryItemLimit_within child, enforceHistoryItemLimits_within rest⟩
end

variable {maxItems}

mutual
theorem enforceHistoryItemLimit_fixed : ∀ {root : Group}, WithinItems maxItems (entriesIn root) →
    enforceHistoryItemLimit maxItems root = root
  | ⟨fields, entries, children⟩, within => by
      rw [entriesIn_mk] at within
      obtain ⟨own, below⟩ := withinItems_append.mp within
      rw [enforceHistoryItemLimit, enforceHistoryItemLimits_fixed below]
      have same : ∀ entry ∈ entries,
          { entry with history := entry.history.drop (entry.history.length - maxItems) } = entry := by
        intro entry member
        have short := own entry member
        refine Entry.ext' rfl ?_
        rw [show entry.history.length - maxItems = 0 by omega, List.drop_zero]
      rw [List.map_congr_left same, List.map_id']

theorem enforceHistoryItemLimits_fixed : ∀ {children : List Group},
    WithinItems maxItems (children.flatMap entriesIn) → enforceHistoryItemLimits maxItems children = children
  | [], _ => rfl
  | child :: rest, within => by
      rw [List.flatMap_cons] at within
      obtain ⟨here, later⟩ := withinItems_append.mp within
      rw [enforceHistoryItemLimits, enforceHistoryItemLimit_fixed here, enforceHistoryItemLimits_fixed later]
end

end Items

/-! ## The oldest item -/

/-- What removing an item does to the entries of one group. -/
theorem removeHistoryItemAtPath_some {path : List Nat} {fields : GroupFields} {entries : List Entry}
    {children : List Group} {after : Group}
    (removed : removeHistoryItemAtPath path ⟨fields, entries, children⟩ = some after) :
    (∃ index entry, path = [index] ∧ entries[index]? = some entry ∧ entry.history ≠ [] ∧
        after = ⟨fields, entries.set index { entry with history := entry.history.tail }, children⟩) ∨
      ∃ index rest children', path = index :: rest ∧ removeHistoryItemBelow index rest children = some children' ∧
        after = ⟨fields, entries, children'⟩ := by
  unfold removeHistoryItemAtPath at removed
  split at removed
  · cases removed
  · rename_i index
    split at removed
    · cases removed
    · rename_i entry held
      split at removed
      · cases removed
      · rename_i filled
        refine .inl ⟨index, entry, rfl, held, by simpa using filled, ?_⟩
        exact (Option.some.inj removed).symm
  · obtain ⟨children', below, rfl⟩ := Option.map_eq_some_iff.mp removed
    exact .inr ⟨_, _, children', rfl, below, rfl⟩

mutual
theorem removeHistoryItemAtPath_trimmed : ∀ {path : List Nat} {root after : Group},
    removeHistoryItemAtPath path root = some after → Trimmed root after
  | path, ⟨fields, entries, children⟩, _, removed => by
      rcases removeHistoryItemAtPath_some removed with ⟨index, entry, _, held, _, rfl⟩ | ⟨index, rest, children', _, below, rfl⟩
      · have trimmed : TrimmedEntry entry { entry with history := entry.history.tail } :=
          ⟨rfl, List.tail_suffix entry.history⟩
        exact .mk (setHistory_trimmed trimmed held) (TrimmedChildren.refl children)
      · exact .mk (trimmedEntries_refl entries) (removeHistoryItemBelow_trimmed below)

theorem removeHistoryItemBelow_trimmed : ∀ {index : Nat} {path : List Nat} {children after : List Group},
    removeHistoryItemBelow index path children = some after → TrimmedChildren children after
  | _, _, [], _, removed => by cases removed
  | 0, path, child :: rest, _, removed => by
      obtain ⟨child', here, rfl⟩ := Option.map_eq_some_iff.mp removed
      exact .cons (removeHistoryItemAtPath_trimmed here) (TrimmedChildren.refl rest)
  | index + 1, path, child :: rest, _, removed => by
      obtain ⟨rest', below, rfl⟩ := Option.map_eq_some_iff.mp removed
      exact .cons (Trimmed.refl child) (removeHistoryItemBelow_trimmed below)
end

theorem setHistory_count {entry : Entry} (filled : entry.history ≠ []) : ∀ {entries : List Entry} {index : Nat},
    entries[index]? = some entry →
      ((entries.set index { entry with history := entry.history.tail }).map (·.history.length)).sum + 1 =
        (entries.map (·.history.length)).sum
  | [], _, held => by cases held
  | first :: rest, 0, held => by
      cases held
      have long := List.length_pos_iff.mpr filled
      simp only [List.set_cons_zero, List.map_cons, List.sum_cons, List.length_tail]
      omega
  | first :: rest, index + 1, held => by
      have later := setHistory_count filled (show rest[index]? = some entry from held)
      simp only [List.set_cons_succ, List.map_cons, List.sum_cons]
      omega

mutual
theorem removeHistoryItemAtPath_count : ∀ {path : List Nat} {root after : Group},
    removeHistoryItemAtPath path root = some after → historyItemCount after + 1 = historyItemCount root
  | path, ⟨fields, entries, children⟩, _, removed => by
      rcases removeHistoryItemAtPath_some removed with ⟨index, entry, _, held, filled, rfl⟩ | ⟨index, rest, children', _, below, rfl⟩
      · have own := setHistory_count filled held
        simp only [historyItemCount]
        omega
      · have fewer := removeHistoryItemBelow_count below
        simp only [historyItemCount]
        omega

theorem removeHistoryItemBelow_count : ∀ {index : Nat} {path : List Nat} {children after : List Group},
    removeHistoryItemBelow index path children = some after → historyItemCounts after + 1 = historyItemCounts children
  | _, _, [], _, removed => by cases removed
  | 0, path, child :: rest, _, removed => by
      obtain ⟨child', here, rfl⟩ := Option.map_eq_some_iff.mp removed
      have fewer := removeHistoryItemAtPath_count here
      simp only [historyItemCounts]
      omega
  | index + 1, path, child :: rest, _, removed => by
      obtain ⟨rest', below, rfl⟩ := Option.map_eq_some_iff.mp removed
      have fewer := removeHistoryItemBelow_count below
      simp only [historyItemCounts]
      omega
end

/-! ## The search for it -/

/-- A known oldest item, or one that can be removed below `groupPath` by a path that `removable` accepts. -/
def FoundBelow (groupPath : List Nat) (removable : List Nat → Prop) (oldest found : OldestHistory) : Prop :=
  found = oldest ∨ ∃ time path, found = some (time, groupPath ++ path) ∧ removable path

theorem FoundBelow.trans {groupPath : List Nat} {removable : List Nat → Prop} {a b c : OldestHistory}
    (first : FoundBelow groupPath removable a b) (second : FoundBelow groupPath removable b c) :
    FoundBelow groupPath removable a c := by
  rcases second with rfl | found
  · exact first
  · exact .inr found

theorem FoundBelow.mono {groupPath : List Nat} {removable removable' : List Nat → Prop} {a b : OldestHistory}
    (weaker : ∀ path, removable path → removable' path) (found : FoundBelow groupPath removable a b) :
    FoundBelow groupPath removable' a b := by
  rcases found with same | ⟨time, path, found, here⟩
  · exact .inl same
  · exact .inr ⟨time, path, found, weaker path here⟩

theorem visitOldestHistory_found {groupPath : List Nat} {removable : List Nat → Prop} {entry : Entry} {index : Nat}
    (here : entry.history ≠ [] → removable [index]) (oldest : OldestHistory) :
    FoundBelow groupPath removable oldest (visitOldestHistory groupPath oldest (entry, index)) := by
  have filled {item : Entry} (held : entry.history.head? = some item) : removable [index] := by
    apply here
    intro empty
    rw [empty] at held
    cases held
  unfold visitOldestHistory
  split
  · exact .inl rfl
  · rename_i held
    exact .inr ⟨_, [index], rfl, filled held⟩
  · rename_i held
    split
    · exact .inr ⟨_, [index], rfl, filled held⟩
    · exact .inl rfl

theorem visitOldestHistories_found {groupPath : List Nat} {removable : List Nat → Prop} :
    ∀ {entries : List (Entry × Nat)}, (∀ entry ∈ entries, entry.1.history ≠ [] → removable [entry.2]) → ∀ oldest,
      FoundBelow groupPath removable oldest (entries.foldl (visitOldestHistory groupPath) oldest)
  | [], _, _ => .inl rfl
  | (entry, index) :: _, removables, oldest =>
      (visitOldestHistory_found (removables (entry, index) (.head _)) oldest).trans
        (visitOldestHistories_found (fun e member => removables e (.tail _ member)) _)

theorem visitOldestHistories_none {groupPath : List Nat} : ∀ {entries : List (Entry × Nat)} {oldest : OldestHistory},
    entries.foldl (visitOldestHistory groupPath) oldest = none →
      oldest = none ∧ ∀ entry ∈ entries, entry.1.history = []
  | [], _, missing => ⟨missing, fun _ member => by cases member⟩
  | (entry, index) :: rest, oldest, missing => by
      obtain ⟨here, later⟩ := visitOldestHistories_none (show rest.foldl _ _ = none from missing)
      unfold visitOldestHistory at here
      split at here
      · rename_i empty
        exact ⟨here, List.forall_mem_cons.mpr ⟨List.head?_eq_none_iff.mp empty, later⟩⟩
      · cases here
      · split at here <;> cases here

mutual
/-- The path that is found leads to an item. -/
theorem collectOldestHistoryPath_found : ∀ (root : Group) (groupPath : List Nat) (oldest : OldestHistory),
    FoundBelow groupPath (fun path => (removeHistoryItemAtPath path root).isSome) oldest
      (collectOldestHistoryPath groupPath oldest root)
  | ⟨fields, entries, children⟩, groupPath, oldest => by
      rw [collectOldestHistoryPath]
      refine (visitOldestHistories_found ?_ oldest).trans
        ((collectOldestHistoryPaths_found children groupPath 0 _).mono ?_)
      · intro entry member filled
        have held := List.mem_zipIdx_iff_getElem?.mp member
        simp [removeHistoryItemAtPath, held, filled]
      · intro path ⟨index, next, rest, same, removable⟩
        rw [same, Nat.zero_add, removeHistoryItemAtPath, Option.isSome_map]
        · exact removable
        · exact fun empty => by cases empty

theorem collectOldestHistoryPaths_found : ∀ (children : List Group) (groupPath : List Nat) (start : Nat)
    (oldest : OldestHistory),
    FoundBelow groupPath (fun path => ∃ index next rest, path = (start + index) :: next :: rest ∧
        (removeHistoryItemBelow index (next :: rest) children).isSome) oldest
      (collectOldestHistoryPaths groupPath start oldest children)
  | [], _, _, _ => .inl rfl
  | child :: rest, groupPath, start, oldest => by
      rw [collectOldestHistoryPaths]
      refine FoundBelow.trans ?_ ((collectOldestHistoryPaths_found rest groupPath (start + 1) _).mono ?_)
      · rcases collectOldestHistoryPath_found child (groupPath ++ [start]) oldest with same | ⟨time, path, found, removable⟩
        · exact .inl same
        · cases path with
          | nil =>
              cases child
              cases removable
          | cons next later =>
              refine .inr ⟨time, start :: next :: later, ?_, 0, next, later, rfl, ?_⟩
              · rw [found, List.append_assoc, List.singleton_append]
              · rw [removeHistoryItemBelow, Option.isSome_map]
                exact removable
      · intro path ⟨index, next, later, same, removable⟩
        refine ⟨index + 1, next, later, ?_, ?_⟩
        · rw [same, Nat.add_assoc, Nat.add_comm 1]
        · rw [removeHistoryItemBelow, Option.isSome_map]
          exact removable
end

mutual
theorem collectOldestHistoryPath_none : ∀ (root : Group) (groupPath : List Nat) (oldest : OldestHistory),
    collectOldestHistoryPath groupPath oldest root = none → oldest = none ∧ totalHistorySize root = 0
  | ⟨fields, entries, children⟩, groupPath, oldest, missing => by
      rw [collectOldestHistoryPath] at missing
      obtain ⟨own, below⟩ := collectOldestHistoryPaths_none children groupPath 0 _ missing
      obtain ⟨before, empty⟩ := visitOldestHistories_none own
      have histories : entries.flatMap (·.history) = [] := by
        refine List.flatMap_eq_nil_iff.mpr fun entry member => ?_
        obtain ⟨index, inside, held⟩ := List.getElem_of_mem member
        have known := List.getElem?_eq_some_iff.mpr ⟨inside, held⟩
        exact empty (entry, index) (List.mem_zipIdx_iff_getElem?.mpr known)
      refine ⟨before, ?_⟩
      rw [totalHistorySize, histories, below]
      rfl

theorem collectOldestHistoryPaths_none : ∀ (children : List Group) (groupPath : List Nat) (start : Nat)
    (oldest : OldestHistory), collectOldestHistoryPaths groupPath start oldest children = none →
    oldest = none ∧ totalHistorySizes children = 0
  | [], _, _, _, missing => ⟨missing, rfl⟩
  | child :: rest, groupPath, start, oldest, missing => by
      rw [collectOldestHistoryPaths] at missing
      obtain ⟨here, later⟩ := collectOldestHistoryPaths_none rest groupPath (start + 1) _ missing
      obtain ⟨before, empty⟩ := collectOldestHistoryPath_none child _ oldest here
      refine ⟨before, ?_⟩
      rw [totalHistorySizes, empty, later]
end

theorem removeOldestHistoryItem_some {root after : Group} (removed : removeOldestHistoryItem root = some after) :
    Trimmed root after ∧ historyItemCount after + 1 = historyItemCount root := by
  unfold removeOldestHistoryItem at removed
  split at removed
  · cases removed
  · exact ⟨removeHistoryItemAtPath_trimmed removed, removeHistoryItemAtPath_count removed⟩

/-! ## Bytes in the whole tree -/

theorem enforceHistorySizeLimit_trimmed (maxSize : Nat) : ∀ (fuel : Nat) (root : Group),
    Trimmed root (enforceHistorySizeLimit maxSize fuel root)
  | 0, root => .refl root
  | fuel + 1, root => by
      unfold enforceHistorySizeLimit
      split
      · split
        · exact .refl root
        · rename_i after removed
          exact (removeOldestHistoryItem_some removed).1.trans (enforceHistorySizeLimit_trimmed maxSize fuel after)
      · exact .refl root

theorem limitItems_trimmed (maxItems : Option Nat) (root : Group) : Trimmed root (limitItems maxItems root) := by
  cases maxItems with
  | none => exact .refl root
  | some maxItems => exact enforceHistoryItemLimit_trimmed maxItems root

theorem limitSize_trimmed (maxSize : Option Nat) (root : Group) : Trimmed root (limitSize maxSize root) := by
  cases maxSize with
  | none => exact .refl root
  | some maxSize => exact enforceHistorySizeLimit_trimmed maxSize _ root

theorem enforceHistoryLimits_trimmed (vault : Vault) : Trimmed vault.root (enforceHistoryLimits vault).root :=
  (limitItems_trimmed _ _).trans (limitSize_trimmed _ _)

end VaultKern
