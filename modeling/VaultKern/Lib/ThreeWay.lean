import Mathlib.Logic.Basic
import Mathlib.Tactic.Common

/-! # Three-way selection of one value

`pick base ours theirs preferOurs` takes the only changed side, the common
change, or, when both sides changed differently, the preferred one.
-/

namespace ThreeWay

variable {α : Type} [DecidableEq α]

def pick (base ours theirs : α) (preferOurs : Bool) : α :=
  if ours = base then theirs
  else if theirs = base then ours
  else if ours = theirs then theirs
  else if preferOurs then ours else theirs

/-- Both sides left the base, for different values. -/
def Conflicts (base ours theirs : α) : Prop :=
  ours ≠ base ∧ theirs ≠ base ∧ ours ≠ theirs

instance (base ours theirs : α) : Decidable (Conflicts base ours theirs) :=
  inferInstanceAs (Decidable (_ ∧ _ ∧ _))

@[simp] theorem pick_ours_base (base theirs : α) (p : Bool) : pick base base theirs p = theirs := by
  simp [pick]

@[simp] theorem pick_theirs_base (base ours : α) (p : Bool) : pick base ours base p = ours := by
  by_cases same : ours = base <;> simp [pick, same]

@[simp] theorem pick_same (base side : α) (p : Bool) : pick base side side p = side := by
  simp [pick]

omit [DecidableEq α] in
@[simp] theorem not_conflicts_ours_base (base theirs : α) : ¬ Conflicts base base theirs := by
  simp [Conflicts]

theorem pick_eq_or (base ours theirs : α) (p : Bool) :
    pick base ours theirs p = ours ∨ pick base ours theirs p = theirs := by
  unfold pick
  split
  · exact .inr rfl
  · split
    · exact .inl rfl
    · split
      · exact .inr rfl
      · split
        · exact .inl rfl
        · exact .inr rfl

/-- A predicate that both sides satisfy holds of the picked value. -/
theorem pick_of_both {P : α → Prop} {ours theirs : α} (base : α) (p : Bool)
    (left : P ours) (right : P theirs) : P (pick base ours theirs p) := by
  rcases pick_eq_or base ours theirs p with same | same <;> rw [same] <;> assumption

theorem pick_conflict {base ours theirs : α} (conflict : Conflicts base ours theirs) (p : Bool) :
    pick base ours theirs p = if p then ours else theirs := by
  obtain ⟨left, right, apart⟩ := conflict
  simp [pick, left, right, apart]

theorem pick_ne_base {base ours theirs : α} {p : Bool} (changed : ours ≠ base) :
    pick base ours theirs p ≠ base := by
  unfold pick
  rw [if_neg changed]
  split
  · exact changed
  · rename_i right
    split
    · exact right
    · split
      · exact changed
      · exact right

/-- Picking the base means that nobody left it. -/
theorem pick_eq_base {base ours theirs : α} {p : Bool} (same : pick base ours theirs p = base) :
    ours = base ∧ theirs = base := by
  have left : ours = base := by
    by_contra changed
    exact pick_ne_base changed same
  subst left
  exact ⟨rfl, by rwa [pick_ours_base] at same⟩

end ThreeWay
