import VaultKern.Lib.Attempt
import VaultKern.Lib.OrderedMap

/-! # Maps that change value by value

Two maps with the same keys whose values are related key by key, and computations that
change their state along a relation.
-/

namespace BTreeMap

open Std

variable {K V : Type} [DecidableEq K] [Ord K] [TransOrd K] [LawfulEqOrd K] {R : V → V → Prop}

theorem insert_same {m : BTreeMap K V} {k : K} {v : V} (held : m[k]? = some v) : m.insert k v = m := by
  refine ExtTreeMap.ext_getElem? fun a => ?_
  rw [insert_lookup]
  split
  · rename_i same
    rw [← same, held]
  · rfl

omit [DecidableEq K] [LawfulEqOrd K] in
theorem values_toList (m : BTreeMap K V) : m.values = m.toList.map Prod.snd := by
  have fold : m.values = m.foldr (fun _ v values => v :: values) [] := by
    obtain ⟨⟨m⟩⟩ := m
    induction m using Quotient.inductionOn with
    | h m => rfl
  rw [fold, ExtTreeMap.foldr_eq_foldr_toList, List.map_eq_foldr]

omit [DecidableEq K] in
theorem mem_values {m : BTreeMap K V} {k : K} {v : V} (held : m[k]? = some v) : v ∈ m.values := by
  rw [values_toList]
  exact List.mem_map_of_mem (ExtTreeMap.mem_toList_iff_getElem?_eq_some.mpr held)

/-- The same keys, with related values. -/
def Pointwise (R : V → V → Prop) (before after : BTreeMap K V) : Prop :=
  ∀ k : K, Option.Rel R before[k]? after[k]?

namespace Pointwise

omit [DecidableEq K] [LawfulEqOrd K] in
theorem refl (related : ∀ v, R v v) (m : BTreeMap K V) : Pointwise R m m := by
  intro k
  cases m[k]? with
  | none => exact .none
  | some v => exact .some (related v)

omit [DecidableEq K] [LawfulEqOrd K] in
theorem trans (through : ∀ a b c, R a b → R b c → R a c) {first second third : BTreeMap K V}
    (early : Pointwise R first second) (late : Pointwise R second third) : Pointwise R first third := by
  intro k
  have one := early k
  have two := late k
  generalize first[k]? = a, second[k]? = b, third[k]? = c at one two ⊢
  cases one with
  | none =>
      cases two
      exact .none
  | some one =>
      cases two with
      | some two => exact .some (through _ _ _ one two)

omit [DecidableEq K] [LawfulEqOrd K] in
theorem mono {R' : V → V → Prop} (weaker : ∀ {a b}, R a b → R' a b) {before after : BTreeMap K V}
    (related : Pointwise R before after) : Pointwise R' before after := by
  intro k
  have here := related k
  generalize before[k]? = a, after[k]? = b at here ⊢
  cases here with
  | none => exact .none
  | some here => exact .some (weaker here)

/-- Replacing one value. -/
theorem insert (related : ∀ v, R v v) {m : BTreeMap K V} {k : K} {old new : V} (held : m[k]? = some old)
    (here : R old new) : Pointwise R m (m.insert k new) := by
  intro a
  rw [insert_lookup]
  split
  · rename_i same
    rw [← same, held]
    exact .some here
  · exact refl related m a

end Pointwise

end BTreeMap

namespace Attempt

variable {E S A B P : Type} {R : S → S → Prop}

/-- Whatever the outcome, the state changes along the relation. -/
def Moves (R : S → S → Prop) (m : Attempt E S A) : Prop := ∀ s, R s (m s).2

theorem ReadOnly.moves (related : ∀ s, R s s) {m : Attempt E S A} (reads : ReadOnly m) : Moves R m := by
  intro s
  rw [reads s]
  exact related s

/-- A check that fails leaves the state alone, and one that succeeds is followed by the rest. -/
theorem ReadOnly.peel_run {m : Attempt E S A} {next : A → Attempt E S B} {s : S} {P : Except E B × S → Prop}
    (reads : ReadOnly m) (failed : ∀ e, P (.error e, s)) (rest : ∀ a, m s = (.ok a, s) → P (next a s)) :
    P ((m >>= next) s) := by
  have kept := reads s
  rw [bind_run]
  cases result : m s with
  | mk value mid =>
      rw [result] at kept
      cases kept
      cases value with
      | error e => exact failed e
      | ok a => exact rest a result

/-- A condition that fails, and one that holds and is followed by the rest. -/
theorem ensure_peel {condition : Bool} {e : E} {next : Unit → Attempt E S B} {s : S} {P : Except E B × S → Prop}
    (failed : condition = false → P (.error e, s)) (rest : condition = true → P (next () s)) :
    P ((ensure condition e >>= next) s) := by
  cases condition with
  | false => exact failed rfl
  | true => exact rest rfl

theorem ReadOnly.peel {m : Attempt E S A} {next : A → Attempt E S B} {s : S} {P : S → Prop} (reads : ReadOnly m)
    (same : P s) (rest : ∀ a, m s = (.ok a, s) → P (next a s).2) : P ((m >>= next) s).2 :=
  reads.peel_run (P := fun run => P run.2) (fun _ => same) rest

theorem bind_pure_state (m : Attempt E S A) (f : A → B) (s : S) : ((m >>= fun a => pure (f a)) s).2 = (m s).2 := by
  rw [bind_run]
  cases m s with
  | mk value mid => cases value <;> rfl

theorem Moves.bind (through : ∀ a b c, R a b → R b c → R a c) {m : Attempt E S A} {next : A → Attempt E S B}
    (first : Moves R m) (rest : ∀ a, Moves R (next a)) : Moves R (m >>= next) := by
  intro s
  have here := first s
  rw [bind_run]
  cases result : m s with
  | mk value mid =>
      rw [result] at here
      cases value with
      | error e => exact here
      | ok a => exact through _ _ _ here (rest a mid)

end Attempt
