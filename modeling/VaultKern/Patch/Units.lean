import VaultKern.Lib.ThreeWay
import VaultKern.Patch.Flat

/-! # Merging one unit

Every unit of a record is merged by `mergeValue`, which also notes in the shared
`FieldMerge` state whether the two sides conflicted and whether the result left
the remote value. Clocks take the later side instead of conflicting.
-/

namespace VaultKern

structure FieldMerge where
  conflict : Bool := false
  changedFromRemote : Bool := false
  deriving DecidableEq

abbrev MergeM := StateM FieldMerge

theorem MergeM.bind_apply {α β : Type} (first : MergeM α) (next : α → MergeM β) (state : FieldMerge) :
    (first >>= next) state = next (first state).1 (first state).2 := rfl

@[simp] theorem MergeM.pure_apply {α : Type} (a : α) (state : FieldMerge) :
    (pure a : MergeM α) state = (a, state) := rfl

/-- Run a merge from a fresh state. -/
def MergeM.result {α : Type} (merge : MergeM α) : α × FieldMerge := merge {}

section Value

variable {α : Type} [DecidableEq α]

def mergeValue (base local' remote : α) (preferLocal : Bool) : MergeM α := fun state =>
  let selected := ThreeWay.pick base local' remote preferLocal
  let conflict := state.conflict || decide (ThreeWay.Conflicts base local' remote)
  (selected, { conflict, changedFromRemote := state.changedFromRemote || decide (selected ≠ remote) })

@[simp] theorem mergeValue_fst (base local' remote : α) (preferLocal : Bool) (state : FieldMerge) :
    (mergeValue base local' remote preferLocal state).1 = ThreeWay.pick base local' remote preferLocal := rfl

@[simp] theorem mergeValue_conflict (base local' remote : α) (preferLocal : Bool) (state : FieldMerge) :
    (mergeValue base local' remote preferLocal state).2.conflict =
      (state.conflict || decide (ThreeWay.Conflicts base local' remote)) := rfl

def noteChanged (changed : Bool) : MergeM Unit := fun state =>
  ((), { state with changedFromRemote := state.changedFromRemote || changed })

@[simp] theorem noteChanged_conflict (changed : Bool) (state : FieldMerge) :
    (noteChanged changed state).2.conflict = state.conflict := rfl

end Value

/-! ## Clocks -/

def mergeChangedAt (base local' remote : Option Int) : Option Int :=
  if local' = base then remote
  else if remote = base then local'
  else max local' remote

def i64Min : Int := -2 ^ 63

/-- The stamp of the side the value came from; of the later side where both have it. -/
def timestampOfSelected (baseMatches localMatches remoteMatches : Bool)
    (baseChangedAt localChangedAt remoteChangedAt : Option Int) : Option Int :=
  match baseMatches, localMatches, remoteMatches with
  | true, true, true => mergeChangedAt baseChangedAt localChangedAt remoteChangedAt
  | _, true, true => max localChangedAt remoteChangedAt
  | _, true, false => localChangedAt
  | _, false, true => remoteChangedAt
  | _, false, false => baseChangedAt

def mergeTimestampedValue {α : Type} [DecidableEq α] (baseValue : α) (baseChangedAt : Option Int)
    (localValue : α) (localChangedAt : Option Int) (remoteValue : α) (remoteChangedAt : Option Int) :
    MergeM (α × Option Int) := do
  let selected ← mergeValue baseValue localValue remoteValue
    (localChangedAt.getD i64Min > remoteChangedAt.getD i64Min)
  let changedAt := timestampOfSelected (baseValue = selected) (localValue = selected)
    (remoteValue = selected) baseChangedAt localChangedAt remoteChangedAt
  noteChanged (changedAt ≠ remoteChangedAt)
  return (selected, changedAt)

/-! ## Group times -/

def groupTimesHaveEqualContent (left right : GroupTimes) : Bool :=
  left.createdAt = right.createdAt && left.expires = right.expires
    && left.expiryTime = right.expiryTime && left.lastAccessedAt = right.lastAccessedAt
    && left.usageCount = right.usageCount

def mergeGroupTimes (base local' remote : Option GroupTimes) (preferLocal : Bool) :
    MergeM (Option GroupTimes) :=
  match base, local', remote with
  | some base, some local', some remote => do
      let createdAt ← mergeValue base.createdAt local'.createdAt remote.createdAt preferLocal
      let expires ← mergeValue base.expires local'.expires remote.expires preferLocal
      let expiryTime ← mergeValue base.expiryTime local'.expiryTime remote.expiryTime preferLocal
      let lastAccessedAt ←
        mergeValue base.lastAccessedAt local'.lastAccessedAt remote.lastAccessedAt preferLocal
      let usageCount ← mergeValue base.usageCount local'.usageCount remote.usageCount preferLocal
      let merged : GroupTimes :=
        { createdAt, expires, expiryTime, lastAccessedAt, usageCount
          modifiedAt := max local'.modifiedAt remote.modifiedAt
          locationChangedAt := max local'.locationChangedAt remote.locationChangedAt }
      noteChanged (merged ≠ remote)
      return some merged
  | none, some local', some remote =>
      if groupTimesHaveEqualContent local' remote then do
        let merged : GroupTimes :=
          { remote with
            modifiedAt := max local'.modifiedAt remote.modifiedAt
            locationChangedAt := max local'.locationChangedAt remote.locationChangedAt }
        noteChanged (merged ≠ remote)
        return some merged
      else mergeValue none (some local') (some remote) preferLocal
  | base, local', remote => mergeValue base local' remote preferLocal

/-! ## Keyed units -/

section Keyed

variable {K V : Type} [DecidableEq K] [Ord K] [Std.TransOrd K] [Std.LawfulEqOrd K] [DecidableEq V]

def mergeKeys (base local' remote : BTreeMap K V) (preferLocal : Bool) :
    List K → BTreeMap K V → MergeM (BTreeMap K V)
  | [], merged => pure merged
  | key :: keys, merged => do
      let value ← mergeValue base[key]? local'[key]? remote[key]? preferLocal
      mergeKeys base local' remote preferLocal keys
        (match value with | some value => merged.insert key value | none => merged)

/-- Merge every included key of the three maps as a unit of its own. -/
def mergeKeyedMapFiltered (base local' remote : BTreeMap K V) (preferLocal : Bool)
    (shouldInclude : K → Bool) : MergeM (BTreeMap K V) :=
  mergeKeys base local' remote preferLocal
    ((BTreeMap.unionKeys3 base local' remote).filter shouldInclude) ∅

omit [DecidableEq K] [Std.LawfulEqOrd K] in
theorem mergeKeys_conflict (base local' remote : BTreeMap K V) (preferLocal : Bool) (keys : List K)
    (merged : BTreeMap K V) (state : FieldMerge) :
    (mergeKeys base local' remote preferLocal keys merged state).2.conflict =
      (state.conflict ||
        keys.any fun key => decide (ThreeWay.Conflicts base[key]? local'[key]? remote[key]?)) := by
  induction keys generalizing merged state with
  | nil => simp [mergeKeys]
  | cons key keys ih =>
      simp only [mergeKeys, MergeM.bind_apply, ih, mergeValue_conflict, List.any_cons, Bool.or_assoc]

omit [DecidableEq K] [Std.LawfulEqOrd K] in
theorem mergeKeys_fst (base local' remote : BTreeMap K V) (preferLocal : Bool) (keys : List K)
    (merged : BTreeMap K V) (state : FieldMerge) :
    (mergeKeys base local' remote preferLocal keys merged state).1 =
      BTreeMap.collectFrom
        (fun key => ThreeWay.pick base[key]? local'[key]? remote[key]? preferLocal) keys merged := by
  induction keys generalizing merged state with
  | nil => rfl
  | cons key keys ih =>
      simp only [mergeKeys, MergeM.bind_apply, mergeValue_fst, ih]
      rfl

omit [DecidableEq V] in
theorem pick_absent (base local' remote : BTreeMap K V) {key : K}
    (outside : key ∉ BTreeMap.unionKeys3 base local' remote) :
    base[key]? = none ∧ local'[key]? = none ∧ remote[key]? = none := by
  rw [BTreeMap.mem_unionKeys3] at outside
  push Not at outside
  exact ⟨(BTreeMap.not_mem_iff_lookup _ _).mp outside.1, (BTreeMap.not_mem_iff_lookup _ _).mp outside.2.1,
    (BTreeMap.not_mem_iff_lookup _ _).mp outside.2.2⟩

theorem mergeKeyedMapFiltered_lookup (base local' remote : BTreeMap K V) (preferLocal : Bool)
    (shouldInclude : K → Bool) (state : FieldMerge) (key : K) :
    (mergeKeyedMapFiltered base local' remote preferLocal shouldInclude state).1[key]? =
      if shouldInclude key then ThreeWay.pick base[key]? local'[key]? remote[key]? preferLocal else none := by
  rw [mergeKeyedMapFiltered, mergeKeys_fst, BTreeMap.collectFrom_lookup]
  by_cases included : shouldInclude key = true
  · by_cases inside : key ∈ BTreeMap.unionKeys3 base local' remote
    · simp [included, inside]
    · obtain ⟨b, l, r⟩ := pick_absent base local' remote inside
      simp [included, inside, b, l, r]
  · simp [included]

theorem mergeKeyedMapFiltered_conflict (base local' remote : BTreeMap K V) (preferLocal : Bool)
    (shouldInclude : K → Bool) (state : FieldMerge) :
    (mergeKeyedMapFiltered base local' remote preferLocal shouldInclude state).2.conflict = true ↔
      state.conflict = true ∨ ∃ key, shouldInclude key = true ∧
        ThreeWay.Conflicts base[key]? local'[key]? remote[key]? := by
  rw [mergeKeyedMapFiltered, mergeKeys_conflict]
  simp only [Bool.or_eq_true, List.any_eq_true, List.mem_filter, decide_eq_true_eq]
  constructor
  · rintro (before | ⟨key, ⟨_, included⟩, conflict⟩)
    · exact .inl before
    · exact .inr ⟨key, included, conflict⟩
  · rintro (before | ⟨key, included, conflict⟩)
    · exact .inl before
    · refine .inr ⟨key, ⟨?_, included⟩, conflict⟩
      by_contra outside
      obtain ⟨b, l, r⟩ := pick_absent base local' remote outside
      simp [b, l, r] at conflict

end Keyed

/-! ## Locations -/

structure LocationMerge where
  parent : Uuid
  changedAt : Option Nat
  conflict : Bool
  prefersLocal : Bool
  deriving DecidableEq

def mergeLocation (base local' remote : Uuid) (localChangedAt remoteChangedAt : Option Nat) : LocationMerge :=
  if local' = base then ⟨remote, remoteChangedAt, false, false⟩
  else if remote = base then ⟨local', localChangedAt, false, true⟩
  else if local' = remote then
    ⟨remote, some (max (localChangedAt.getD 0) (remoteChangedAt.getD 0)), false,
      localChangedAt.getD 0 > remoteChangedAt.getD 0⟩
  else if localChangedAt.getD 0 > remoteChangedAt.getD 0 then ⟨local', localChangedAt, true, true⟩
  else ⟨remote, remoteChangedAt, true, false⟩

theorem mergeLocation_parent (base local' remote : Uuid) (localChangedAt remoteChangedAt : Option Nat) :
    (mergeLocation base local' remote localChangedAt remoteChangedAt).parent =
      ThreeWay.pick base local' remote (localChangedAt.getD 0 > remoteChangedAt.getD 0) := by
  simp only [mergeLocation, ThreeWay.pick]
  split
  · rfl
  · split
    · rfl
    · split
      · rfl
      · split
        · rename_i later
          simp [later]
        · rename_i later
          simp [later]

theorem mergeLocation_conflict (base local' remote : Uuid) (localChangedAt remoteChangedAt : Option Nat) :
    (mergeLocation base local' remote localChangedAt remoteChangedAt).conflict = true ↔
      ThreeWay.Conflicts base local' remote := by
  simp only [mergeLocation, ThreeWay.Conflicts]
  split
  · simp_all
  · split
    · simp_all
    · split
      · simp_all
      · split <;> simp_all

end VaultKern
