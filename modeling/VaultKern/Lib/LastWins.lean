import Mathlib.Algebra.Ring.Nat
import Mathlib.Data.List.Induction
import Mathlib.Data.List.Perm.Subperm
import VaultKern.Lib.OrderedMap

/-! # Last-wins maps

Reading a list of bindings into a map keeps the last binding of every key. All
views of one list (positions, values, stamps) are projections of one such map.
-/

namespace BTreeMap

open Std

variable {K V W : Type} [DecidableEq K] [Ord K] [TransOrd K] [LawfulEqOrd K]

def lastWins (bindings : List (K × V)) : BTreeMap K V :=
  bindings.foldl (fun m binding => m.insert binding.1 binding.2) ∅

omit [DecidableEq K] [LawfulEqOrd K] in
theorem lastWins_append_singleton (bindings : List (K × V)) (k : K) (v : V) :
    lastWins (bindings ++ [(k, v)]) = (lastWins bindings).insert k v := by
  simp [lastWins, List.foldl_append]

omit [DecidableEq K] [LawfulEqOrd K] in
@[simp] theorem lastWins_nil : lastWins ([] : List (K × V)) = ∅ := rfl

theorem lastWins_lookup_append (front back : List (K × V)) (a : K) :
    (lastWins (front ++ back))[a]? = (lastWins back)[a]?.or (lastWins front)[a]? := by
  induction back using List.reverseRecOn with
  | nil => simp
  | append_singleton back binding ih =>
      obtain ⟨k, v⟩ := binding
      rw [← List.append_assoc, lastWins_append_singleton, lastWins_append_singleton,
        insert_lookup, insert_lookup, ih]
      split <;> simp

theorem lastWins_lookup_cons (k : K) (v : V) (rest : List (K × V)) (a : K) :
    (lastWins ((k, v) :: rest))[a]? = (lastWins rest)[a]?.or (if k = a then some v else none) := by
  have split : (k, v) :: rest = [(k, v)] ++ rest := rfl
  rw [split, lastWins_lookup_append]
  congr 1
  simp [lastWins]

/-- The stored binding occurs in the list. -/
theorem mem_of_lastWins {bindings : List (K × V)} {k : K} {v : V}
    (stored : (lastWins bindings)[k]? = some v) : (k, v) ∈ bindings := by
  induction bindings using List.reverseRecOn with
  | nil => simp at stored
  | append_singleton bindings binding ih =>
      obtain ⟨k', v'⟩ := binding
      rw [lastWins_append_singleton, insert_lookup] at stored
      split at stored
      · rename_i same
        cases stored
        simp [same]
      · exact List.mem_append_left _ (ih stored)

theorem lastWins_isSome {bindings : List (K × V)} {k : K} :
    (lastWins bindings)[k]?.isSome ↔ k ∈ bindings.map Prod.fst := by
  induction bindings using List.reverseRecOn with
  | nil => simp
  | append_singleton bindings binding ih =>
      obtain ⟨k', v'⟩ := binding
      rw [lastWins_append_singleton, insert_lookup]
      by_cases same : k' = k
      · simp [same]
      · simp only [same, if_false, ih, List.map_append, List.map_cons, List.map_nil, List.mem_append,
          List.mem_singleton]
        exact ⟨.inl, fun h => h.resolve_right fun eq => same eq.symm⟩

theorem lastWins_none {bindings : List (K × V)} {k : K} :
    (lastWins bindings)[k]? = none ↔ k ∉ bindings.map Prod.fst := by
  rw [← lastWins_isSome, Option.not_isSome_iff_eq_none]

/-- Projecting the bindings projects the map. -/
theorem lastWins_map (f : V → W) (bindings : List (K × V)) (k : K) :
    (lastWins (bindings.map fun binding => (binding.1, f binding.2)))[k]? = (lastWins bindings)[k]?.map f := by
  induction bindings using List.reverseRecOn with
  | nil => simp
  | append_singleton bindings binding ih =>
      obtain ⟨k', v'⟩ := binding
      rw [List.map_append, List.map_cons, List.map_nil, lastWins_append_singleton,
        lastWins_append_singleton, insert_lookup, insert_lookup, ih]
      split <;> rfl

/-- Without repeated keys every binding is stored. -/
theorem lastWins_of_mem {bindings : List (K × V)} (nodup : (bindings.map Prod.fst).Nodup) {k : K} {v : V}
    (member : (k, v) ∈ bindings) : (lastWins bindings)[k]? = some v := by
  induction bindings using List.reverseRecOn with
  | nil => simp at member
  | append_singleton bindings binding ih =>
      obtain ⟨k', v'⟩ := binding
      rw [lastWins_append_singleton, insert_lookup]
      rw [List.map_append, List.nodup_append'] at nodup
      obtain ⟨front, _, apart⟩ := nodup
      rcases List.mem_append.mp member with old | new
      · have other : k' ≠ k := by
          rintro rfl
          exact apart (List.mem_map_of_mem old) (by simp)
        rw [if_neg other]
        exact ih front old
      · simp only [List.mem_singleton, Prod.mk.injEq] at new
        simp [new]

omit [DecidableEq K] [LawfulEqOrd K] in
theorem lastWins_size_le (bindings : List (K × V)) : (lastWins bindings).size ≤ bindings.length := by
  induction bindings using List.reverseRecOn with
  | nil => simp
  | append_singleton bindings binding ih =>
      rw [lastWins_append_singleton, List.length_append, List.length_singleton]
      have step := ExtTreeMap.size_insert_le (t := lastWins bindings) (k := binding.1) (v := binding.2)
      omega

/-- A map is as large as the list where no key is repeated. -/
theorem lastWins_size {bindings : List (K × V)} :
    (lastWins bindings).size = bindings.length ↔ (bindings.map Prod.fst).Nodup := by
  induction bindings using List.reverseRecOn with
  | nil => simp
  | append_singleton bindings binding ih =>
      have size := lastWins_size_le bindings
      have known : (lastWins bindings).contains binding.1 = true ↔ binding.1 ∈ bindings.map Prod.fst := by
        rw [← lastWins_isSome, Option.isSome_iff_exists, ExtTreeMap.contains_iff_mem, mem_iff_lookup]
      rw [lastWins_append_singleton, ExtTreeMap.size_insert, List.length_append, List.length_singleton, List.map_append,
        List.map_singleton, List.nodup_append', ← ih]
      by_cases repeated : (lastWins bindings).contains binding.1 = true
      · have old := known.mp repeated
        simp only [if_pos repeated, List.disjoint_singleton, old, not_true_eq_false, and_false, iff_false]
        omega
      · have fresh : binding.1 ∉ bindings.map Prod.fst := fun member => repeated (known.mpr member)
        simp only [if_neg repeated, List.nodup_singleton, List.disjoint_singleton, fresh, not_false_eq_true, and_true]
        omega

/-- Inserting bindings into a map overrides it. -/
theorem foldl_insert_lookup (bindings : List (K × V)) (m : BTreeMap K V) (k : K) :
    (bindings.foldl (fun m binding => m.insert binding.1 binding.2) m)[k]? = (lastWins bindings)[k]?.or m[k]? := by
  induction bindings using List.reverseRecOn with
  | nil => simp
  | append_singleton bindings binding ih =>
      rw [List.foldl_append, List.foldl_cons, List.foldl_nil, insert_lookup, ih, lastWins_append_singleton,
        insert_lookup]
      split <;> simp

theorem lastWins_toList (m : BTreeMap K V) (k : K) : (lastWins m.toList)[k]? = m[k]? := by
  have nodup : (m.toList.map Prod.fst).Nodup := by
    rw [ExtTreeMap.map_fst_toList_eq_keys]
    exact ExtTreeMap.nodup_keys
  cases here : m[k]? with
  | some v => exact lastWins_of_mem nodup (by rwa [ExtTreeMap.mem_toList_iff_getElem?_eq_some])
  | none =>
      rw [lastWins_none, ExtTreeMap.map_fst_toList_eq_keys, ExtTreeMap.mem_keys, not_mem_iff_lookup]
      exact here

/-- Without repeated keys the map lists the bindings. -/
theorem lastWins_toList_perm {bindings : List (K × V)} (nodup : (bindings.map Prod.fst).Nodup) :
    (lastWins bindings).toList.Perm bindings := by
  have listed : (lastWins bindings).toList.Nodup := by
    apply List.Nodup.of_map Prod.fst
    rw [ExtTreeMap.map_fst_toList_eq_keys]
    exact ExtTreeMap.nodup_keys
  rw [List.perm_ext_iff_of_nodup listed (List.Nodup.of_map Prod.fst nodup)]
  rintro ⟨k, v⟩
  rw [ExtTreeMap.mem_toList_iff_getElem?_eq_some]
  exact ⟨mem_of_lastWins, lastWins_of_mem nodup⟩

/-- A binding that loses leaves its weight out. -/
theorem lastWins_sum_le (weight : K × V → Nat) (bindings : List (K × V)) :
    ((lastWins bindings).toList.map weight).sum ≤ (bindings.map weight).sum := by
  have listed : (lastWins bindings).toList.Nodup := by
    apply List.Nodup.of_map Prod.fst
    rw [ExtTreeMap.map_fst_toList_eq_keys]
    exact ExtTreeMap.nodup_keys
  have inside : (lastWins bindings).toList ⊆ bindings := by
    rintro ⟨k, v⟩ member
    exact mem_of_lastWins (ExtTreeMap.mem_toList_iff_getElem?_eq_some.mp member)
  obtain ⟨kept, perm, sublist⟩ := List.subperm_of_subset listed inside
  obtain ⟨lost, all⟩ := sublist.exists_perm_append
  have weights := (all.map weight).sum_nat
  have same := (perm.map weight).sum_nat
  rw [List.map_append, List.sum_append] at weights
  omega

/-- Bindings without repeated keys make one map just when they are the same bindings. -/
theorem lastWins_eq_iff {first second : List (K × V)} (left : (first.map Prod.fst).Nodup)
    (right : (second.map Prod.fst).Nodup) : lastWins first = lastWins second ↔ first.Perm second := by
  constructor
  · intro same
    have listed := lastWins_toList_perm left
    rw [same] at listed
    exact listed.symm.trans (lastWins_toList_perm right)
  · intro perm
    exact eq_of_toList_perm (((lastWins_toList_perm left).trans perm).trans (lastWins_toList_perm right).symm)

end BTreeMap
