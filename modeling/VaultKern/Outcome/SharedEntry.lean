import VaultKern.Patch.Merge

/-! # Entries that all three sides have

The merged entry as a function of the three entries alone, without the log.
-/

namespace VaultKern

/-- The history with the losing side's snapshot. -/
def withSnapshot (history : List Entry) (losing : Entry) : List Entry :=
  let snapshot := prepareEntryHistorySnapshot losing
  if history.contains snapshot then history else history ++ [snapshot]

theorem mem_withSnapshot {history : List Entry} {losing entry : Entry} :
    entry ∈ withSnapshot history losing ↔ entry ∈ history ∨ entry = prepareEntryHistorySnapshot losing := by
  simp only [withSnapshot]
  split
  · rename_i known
    refine ⟨.inl, fun h => h.elim id ?_⟩
    rintro rfl
    exact List.contains_iff_mem.mp known
  · simp

theorem mem_historyUnion {base local' remote : List Entry} {entry : Entry} :
    entry ∈ historyUnion base local' remote ↔ entry ∈ remote ∨ entry ∈ base ∨ entry ∈ local' := by
  have fold (added history : List Entry) :
      entry ∈ added.foldl (fun merged entry => if merged.contains entry then merged else merged ++ [entry])
        history ↔ entry ∈ history ∨ entry ∈ added := by
    induction added generalizing history with
    | nil => simp
    | cons first rest ih =>
        simp only [List.foldl_cons, ih, List.mem_cons]
        split
        · rename_i known
          have inside := List.contains_iff_mem.mp known
          constructor
          · rintro (h | h)
            · exact .inl h
            · exact .inr (.inr h)
          · rintro (h | rfl | h)
            · exact .inl h
            · exact .inl inside
            · exact .inr h
        · simp [or_assoc]
  rw [historyUnion, fold, List.mem_append]

theorem addLosingHistorySnapshot_fst (merged losing : Entry) (log : PatchLog) :
    (addLosingHistorySnapshot merged losing log).1 =
      { merged with history := withSnapshot merged.history losing } := by
  cases merged
  simp only [addLosingHistorySnapshot, withSnapshot]
  split <;> rfl

section Merge

variable (base local' remote : Entry)

def entryPrefersLocal : Bool := decide (local'.modifiedAt > remote.modifiedAt)

def entryConflict : Bool :=
  (mergeEntryUnits base local' remote (entryPrefersLocal local' remote)).result.2.conflict

def losingEntry : Entry := if entryPrefersLocal local' remote then remote else local'

/-- The history after a conflict in some field. -/
def mergedHistory : List Entry :=
  let union := historyUnion base.history local'.history remote.history
  if entryConflict base local' remote then withSnapshot union (losingEntry local' remote) else union

/-- The merged entry before its slots are normalized. -/
def mergedFields : Entry :=
  setEntryModifiedAt
    { (mergeEntryUnits base local' remote (entryPrefersLocal local' remote)).result.1 with
      history := mergedHistory base local' remote }
    (max local'.modifiedAt remote.modifiedAt)

theorem mergeEntry_value (log : PatchLog) :
    (mergeEntry base local' remote log).1.1 = normalizeEntrySlots (mergedFields base local' remote) := by
  have flag : (mergeEntryUnits base local' remote
      (decide (local'.modifiedAt > remote.modifiedAt))).result.2.conflict =
        entryConflict base local' remote := rfl
  simp only [mergeEntry, mergedFields, mergedHistory, flag]
  cases entryConflict base local' remote with
  | false => rfl
  | true =>
      simp only [if_true, addLosingHistorySnapshot_fst]
      rfl

end Merge

/-! ## With the location -/

section Row

variable (base local' remote : FlatEntry)

def entryLocation : LocationMerge :=
  mergeLocation base.parent local'.parent remote.parent local'.value.locationChangedAt
    remote.value.locationChangedAt

/-- The history after a conflict in the location. -/
def locatedHistory : List Entry :=
  let history := mergedHistory base.value local'.value remote.value
  let location := entryLocation base local' remote
  if location.conflict then
    withSnapshot history (if location.prefersLocal then remote.value else local'.value)
  else history

def mergedEntryRow : FlatEntry :=
  let location := entryLocation base local' remote
  { value :=
      { setEntryLocationChangedAt (normalizeEntrySlots (mergedFields base.value local'.value remote.value))
          location.changedAt with
        history := locatedHistory base local' remote }
    parent := location.parent
    order := if location.prefersLocal then local'.order else remote.order }

theorem mergeSharedEntry_row (log : PatchLog) :
    (mergeSharedEntry base local' remote log).1 = mergedEntryRow base local' remote := by
  have location : mergeLocation base.parent local'.parent remote.parent local'.value.locationChangedAt
      remote.value.locationChangedAt = entryLocation base local' remote := rfl
  simp only [mergeSharedEntry, mergedEntryRow, locatedHistory, mergeEntry_value, location, locateEntry]
  cases (entryLocation base local' remote).conflict with
  | false => rfl
  | true =>
      simp only [if_true, addLosingHistorySnapshot_fst]
      rfl

end Row

end VaultKern
