import VaultKern.Patch.MergeMeta

/-! # When a merge notes a conflict

A merge of many units notes a conflict exactly when one of its units conflicts.
`Detects` states this for a part of a merge, and composes over its steps.
-/

namespace VaultKern

open ThreeWay

/-- The step sets the conflict flag exactly when `conflict` holds. -/
def Detects {α : Type} (merge : MergeM α) (conflict : Prop) : Prop :=
  ∀ state, (merge state).2.conflict = true ↔ state.conflict = true ∨ conflict

namespace Detects

variable {α β : Type} {first second : Prop}

theorem bind {merge : MergeM α} {next : α → MergeM β} (head : Detects merge first)
    (tail : ∀ a, Detects (next a) second) : Detects (merge >>= next) (first ∨ second) := by
  intro state
  rw [MergeM.bind_apply, tail, head, or_assoc]

theorem pure (a : α) : Detects (Pure.pure a : MergeM α) False := by
  intro state
  simp

theorem value [DecidableEq α] (base local' remote : α) (preferLocal : Bool) :
    Detects (mergeValue base local' remote preferLocal) (Conflicts base local' remote) := by
  intro state
  simp

theorem field {R : Type} [DecidableEq α] (base local' remote : R) (preferLocal : Bool) (get : R → α) :
    Detects (mergeField base local' remote preferLocal get)
      (Conflicts (get base) (get local') (get remote)) :=
  value _ _ _ _

theorem noteChanged (changed : Bool) : Detects (noteChanged changed) False := by
  intro state
  simp

theorem congr {merge : MergeM α} (head : Detects merge first) (same : first ↔ second) :
    Detects merge second := by
  intro state
  rw [head, same]

theorem keyed {K V : Type} [DecidableEq K] [Ord K] [Std.TransOrd K] [Std.LawfulEqOrd K] [DecidableEq V]
    (base local' remote : BTreeMap K V) (preferLocal : Bool) (shouldInclude : K → Bool) :
    Detects (mergeKeyedMapFiltered base local' remote preferLocal shouldInclude)
      (∃ key, shouldInclude key = true ∧ Conflicts base[key]? local'[key]? remote[key]?) :=
  mergeKeyedMapFiltered_conflict base local' remote preferLocal shouldInclude

theorem result {merge : MergeM α} (head : Detects merge first) :
    merge.result.2.conflict = true ↔ first := by
  rw [MergeM.result, head]
  simp

end Detects

/-! ## CustomData -/

theorem customDataUnits_lookup (values : BTreeMap String String) (blocks : List CustomDataBlock)
    (key : String) : (customDataUnits values blocks)[key]? =
      values[key]?.map fun value => { value, lastModified := (lastModifiedByKey blocks)[key]?.join } := by
  simp [customDataUnits]

theorem customDataUnits_value (values : BTreeMap String String) (blocks : List CustomDataBlock)
    (key : String) : (customDataUnits values blocks)[key]?.map (·.value) = values[key]? := by
  rw [customDataUnits_lookup, Option.map_map]
  simp [Function.comp_def]

theorem Detects.customDataUnit (base local' remote : Option CustomDataUnit) (preferLocal : Bool) :
    Detects (mergeCustomDataUnit base local' remote preferLocal)
      (Conflicts (base.map (·.value)) (local'.map (·.value)) (remote.map (·.value))) := by
  refine ((Detects.value _ _ _ _).bind fun selected => (Detects.noteChanged _).bind fun _ =>
    Detects.pure _).congr ?_
  simp

theorem Detects.customDataKeys (base local' remote : BTreeMap String CustomDataUnit) (preferLocal : Bool)
    (keys : List String) (merged : BTreeMap String CustomDataUnit) :
    Detects (mergeCustomDataKeys base local' remote preferLocal keys merged)
      (∃ key ∈ keys, Conflicts (base[key]?.map (·.value)) (local'[key]?.map (·.value))
        (remote[key]?.map (·.value))) := by
  induction keys generalizing merged with
  | nil => exact (Detects.pure merged).congr (by simp)
  | cons key keys ih =>
      refine ((Detects.customDataUnit _ _ _ _).bind fun unit => ih _).congr ?_
      simp

/-- The key is bound on no side, so it cannot conflict. -/
theorem not_conflicts_of_absent {K V W : Type} [DecidableEq K] [Ord K] [Std.TransOrd K]
    [Std.LawfulEqOrd K] {base local' remote : BTreeMap K V} {key : K} (f : V → W)
    (outside : key ∉ BTreeMap.unionKeys3 base local' remote) :
    ¬ Conflicts (base[key]?.map f) (local'[key]?.map f) (remote[key]?.map f) := by
  obtain ⟨b, l, r⟩ := pick_absent base local' remote outside
  simp [b, l, r, Conflicts]

theorem Detects.customDataFields (base : BTreeMap String String) (baseBlocks : List CustomDataBlock)
    (local' : BTreeMap String String) (localBlocks : List CustomDataBlock)
    (remote : BTreeMap String String) (remoteBlocks : List CustomDataBlock) (preferLocal : Bool)
    (opaqueXml : List OpaqueXmlFragment) (nodeOrder : List String) :
    Detects (mergeCustomDataFields base baseBlocks local' localBlocks remote remoteBlocks preferLocal
      opaqueXml nodeOrder) (∃ key : String, Conflicts base[key]? local'[key]? remote[key]?) := by
  refine ((Detects.customDataKeys _ _ _ _ _ _).bind fun units => Detects.pure _).congr ?_
  simp only [customDataUnits_value, or_false]
  constructor
  · rintro ⟨key, _, conflict⟩
    exact ⟨key, conflict⟩
  · rintro ⟨key, conflict⟩
    refine ⟨key, ?_, conflict⟩
    by_contra outside
    have calm := not_conflicts_of_absent (·.value) outside
    simp only [customDataUnits_value] at calm
    exact calm conflict

end VaultKern
