import Mathlib.Data.List.Nodup
import Mathlib.Order.Basic
import Std.Data.ExtTreeMap
import Std.Data.ExtTreeSet

/-! # Ordered maps built key by key

`BTreeMap` and `BTreeSet` are the extensional tree containers of `Std`: equal
lookups mean equal maps, and iteration is in key order.

Two ways of building a map from a list of keys recur: a pure one (`collect`)
and one that threads a log and may fail (`collectM`). When the value stored at
a key does not depend on the log, a successful `collectM` agrees with the pure
selection at every key; `trace`, `invariant` and `total` say the rest.
-/

abbrev BTreeMap (K V : Type) [Ord K] := Std.ExtTreeMap K V compare

abbrev BTreeSet (K : Type) [Ord K] := Std.ExtTreeSet K compare

namespace BTreeMap

open Std

variable {K V : Type} [DecidableEq K] [Ord K] [TransOrd K] [LawfulEqOrd K]

@[simp] theorem insert_lookup (m : BTreeMap K V) (k a : K) (v : V) :
    (m.insert k v)[a]? = if k = a then some v else m[a]? := by
  rw [ExtTreeMap.getElem?_insert]
  simp only [Std.compare_eq_iff_eq]

@[simp] theorem erase_lookup (m : BTreeMap K V) (k a : K) :
    (m.erase k)[a]? = if k = a then none else m[a]? := by
  rw [ExtTreeMap.getElem?_erase]
  simp only [Std.compare_eq_iff_eq]

@[simp] theorem modify_lookup (m : BTreeMap K V) (k a : K) (f : V → V) :
    (m.modify k f)[a]? = if k = a then m[a]?.map f else m[a]? := by
  rw [ExtTreeMap.getElem?_modify]
  simp only [Std.compare_eq_iff_eq]
  split
  · rename_i same
    rw [same]
  · rfl

omit [DecidableEq K] in
theorem filter_key_lookup (m : BTreeMap K V) (keep : K → Bool) (k : K) :
    (m.filter fun key _ => keep key)[k]? = if keep k then m[k]? else none := by
  rw [ExtTreeMap.getElem?_filter']
  cases keep k <;> cases m[k]? <;> simp

omit [DecidableEq K] [LawfulEqOrd K] in
theorem mem_iff_lookup (m : BTreeMap K V) (k : K) : k ∈ m ↔ ∃ v, m[k]? = some v := by
  rw [← ExtTreeMap.isSome_getElem?_iff_mem, Option.isSome_iff_exists]

omit [DecidableEq K] [LawfulEqOrd K] in
theorem not_mem_iff_lookup (m : BTreeMap K V) (k : K) : k ∉ m ↔ m[k]? = none := by
  rw [← ExtTreeMap.isSome_getElem?_iff_mem, Option.not_isSome_iff_eq_none]

omit [DecidableEq K] in
theorem eq_of_toList_perm {m n : BTreeMap K V} (perm : m.toList.Perm n.toList) : m = n := by
  apply ExtTreeMap.ext_getElem?
  intro k
  apply Option.ext
  intro v
  rw [← ExtTreeMap.mem_toList_iff_getElem?_eq_some, ← ExtTreeMap.mem_toList_iff_getElem?_eq_some]
  exact perm.mem_iff

omit [DecidableEq K] [LawfulEqOrd K] in
theorem nodup_filter_keys (m : BTreeMap K V) (keep : K × V → Bool) : ((m.toList.filter keep).map Prod.fst).Nodup := by
  have keys : (m.toList.map Prod.fst).Nodup := by
    rw [ExtTreeMap.map_fst_toList_eq_keys]
    exact ExtTreeMap.nodup_keys
  exact keys.sublist (List.filter_sublist.map Prod.fst)

/-- The sorted keys occurring in at least one of three maps. -/
def unionKeys3 (first second third : BTreeMap K V) : List K :=
  (ExtTreeSet.ofList (first.keys ++ second.keys ++ third.keys) compare).toList

theorem mem_unionKeys3 (first second third : BTreeMap K V) (k : K) :
    k ∈ unionKeys3 first second third ↔ k ∈ first ∨ k ∈ second ∨ k ∈ third := by
  simp [unionKeys3, ExtTreeSet.mem_ofList]

omit [DecidableEq K] in
theorem unionKeys3_nodup (first second third : BTreeMap K V) :
    (unionKeys3 first second third).Nodup :=
  (ExtTreeSet.distinct_toList).imp fun different same => different (by rw [same]; exact ReflCmp.compare_self)

/-! ## Pure collection -/

/-- Insert the selected value of every key that has one. -/
def collectFrom (select : K → Option V) (keys : List K) (start : BTreeMap K V) : BTreeMap K V :=
  keys.foldl (fun m k => match select k with | some v => m.insert k v | none => m) start

def collect (keys : List K) (select : K → Option V) : BTreeMap K V :=
  collectFrom select keys ∅

theorem collectFrom_lookup (select : K → Option V) (keys : List K) (start : BTreeMap K V)
    (a : K) :
    (collectFrom select keys start)[a]? = if a ∈ keys then (select a).or start[a]? else start[a]? := by
  induction keys generalizing start with
  | nil => simp [collectFrom]
  | cons k keys ih =>
      have peel : collectFrom select (k :: keys) start =
          collectFrom select keys (match select k with | some v => start.insert k v | none => start) := rfl
      rw [peel, ih]
      by_cases same : k = a
      · subst same
        cases select k <;> simp
      · cases select k <;> simp [same, Ne.symm same]

theorem collect_lookup (select : K → Option V) (keys : List K) (a : K) :
    (collect keys select)[a]? = if a ∈ keys then select a else none := by
  simp [collect, collectFrom_lookup]

/-- When nothing is selected outside the keys, the collected map is the selection. -/
theorem collect_lookup_of_support {select : K → Option V} {keys : List K}
    (support : ∀ k, k ∉ keys → select k = none) (a : K) :
    (collect keys select)[a]? = select a := by
  rw [collect_lookup]
  split
  · rfl
  · rename_i outside
    rw [support a outside]

/-! ## Collection with a log and failure -/

section CollectM

variable {E S : Type}

/-- Visit the keys in order; every visit may fail, extend the log, and insert. -/
def collectM (visit : K → S → Except E (Option V × S)) :
    List K → BTreeMap K V → S → Except E (BTreeMap K V × S)
  | [], m, s => .ok (m, s)
  | k :: keys, m, s =>
      match visit k s with
      | .error e => .error e
      | .ok (some v, s') => collectM visit keys (m.insert k v) s'
      | .ok (none, s') => collectM visit keys m s'

theorem collectM_cons_ok {visit : K → S → Except E (Option V × S)} {k : K} {keys : List K}
    {m m' : BTreeMap K V} {s s' : S} (run : collectM visit (k :: keys) m s = .ok (m', s')) :
    ∃ result next mid, visit k s = .ok (result, next) ∧ collectM visit keys mid next = .ok (m', s') ∧
      ∀ a, mid[a]? = if k = a then result.or m[a]? else m[a]? := by
  simp only [collectM] at run
  split at run
  · cases run
  · rename_i v next visited
    exact ⟨some v, next, m.insert k v, visited, run, fun a => by simp⟩
  · rename_i next visited
    exact ⟨none, next, m, visited, run, fun a => by simp⟩

/-- Keys that are not visited keep their value. -/
theorem collectM_frame {visit : K → S → Except E (Option V × S)} {keys : List K}
    {m m' : BTreeMap K V} {s s' : S} (run : collectM visit keys m s = .ok (m', s')) {a : K}
    (outside : a ∉ keys) : m'[a]? = m[a]? := by
  induction keys generalizing m s with
  | nil =>
      simp only [collectM, Except.ok.injEq, Prod.mk.injEq] at run
      rw [run.1]
  | cons k keys ih =>
      obtain ⟨result, next, mid, _, rest, lookup⟩ := collectM_cons_ok run
      have ⟨other, later⟩ : a ≠ k ∧ a ∉ keys := by simpa using outside
      rw [ih rest later, lookup, if_neg (Ne.symm other)]

/-- Every visited key was visited once, at some intermediate log, and holds what
    that visit returned. `below` is any preorder the visits can only climb. -/
theorem collectM_trace {visit : K → S → Except E (Option V × S)} {keys : List K}
    {m m' : BTreeMap K V} {s s' : S} (below : S → S → Prop) (refl : ∀ s, below s s)
    (trans : ∀ {a b c}, below a b → below b c → below a c)
    (climbs : ∀ {k s r s'}, visit k s = .ok (r, s') → below s s')
    (nodup : keys.Nodup) (fresh : ∀ k ∈ keys, m[k]? = none)
    (run : collectM visit keys m s = .ok (m', s')) :
    below s s' ∧ ∀ k ∈ keys, ∃ before after,
      visit k before = .ok (m'[k]?, after) ∧ below s before ∧ below after s' := by
  induction keys generalizing m s with
  | nil =>
      simp only [collectM, Except.ok.injEq, Prod.mk.injEq] at run
      exact ⟨run.2 ▸ refl s, by simp⟩
  | cons k keys ih =>
      obtain ⟨result, next, mid, visited, rest, lookup⟩ := collectM_cons_ok run
      have ⟨notLater, laterNodup⟩ := List.nodup_cons.mp nodup
      have freshMid : ∀ a ∈ keys, mid[a]? = none := by
        intro a member
        rw [lookup, if_neg (fun same => notLater (by rw [same]; exact member))]
        exact fresh a (List.mem_cons_of_mem k member)
      obtain ⟨reached, visits⟩ := ih laterNodup freshMid rest
      have step := climbs visited
      refine ⟨trans step reached, ?_⟩
      intro a member
      rcases List.mem_cons.mp member with rfl | later
      · have stored : m'[a]? = result := by
          rw [collectM_frame rest notLater, lookup, if_pos rfl, fresh a List.mem_cons_self, Option.or_none]
        exact ⟨s, next, stored ▸ visited, refl s, reached⟩
      · obtain ⟨before, after, here, low, high⟩ := visits a later
        exact ⟨before, after, here, trans step low, high⟩

/-- The value returned for a key does not depend on the log. -/
def Steady (visit : K → S → Except E (Option V × S)) (select : K → Except E (Option V)) : Prop :=
  ∀ k s, Prod.fst <$> visit k s = select k

omit [DecidableEq K] [Ord K] [TransOrd K] [LawfulEqOrd K] in
theorem Steady.ok {visit : K → S → Except E (Option V × S)} {select : K → Except E (Option V)}
    (steady : Steady visit select) {k : K} {s s' : S} {r : Option V} (visited : visit k s = .ok (r, s')) :
    select k = .ok r := by
  rw [← steady k s, visited]
  rfl

theorem collectM_select {visit : K → S → Except E (Option V × S)}
    {select : K → Except E (Option V)} (steady : Steady visit select) {keys : List K}
    {m' : BTreeMap K V} {s s' : S} (nodup : keys.Nodup)
    (run : collectM visit keys ∅ s = .ok (m', s')) {k : K} (member : k ∈ keys) :
    select k = .ok m'[k]? := by
  obtain ⟨_, visits⟩ := collectM_trace (fun _ _ => True) (fun _ => trivial) (fun _ _ => trivial)
    (fun _ => trivial) nodup (by simp) run
  obtain ⟨_, _, visited, _⟩ := visits k member
  exact steady.ok visited

omit [DecidableEq K] [LawfulEqOrd K] in
theorem collectM_error {visit : K → S → Except E (Option V × S)} {keys : List K}
    {m : BTreeMap K V} {s : S} {e : E} (run : collectM visit keys m s = .error e) :
    ∃ k ∈ keys, ∃ s, visit k s = .error e := by
  induction keys generalizing m s with
  | nil => cases run
  | cons k keys ih =>
      simp only [collectM] at run
      split at run
      · rename_i visited
        cases run
        exact ⟨k, List.mem_cons_self, s, visited⟩
      · obtain ⟨a, member, failed⟩ := ih run
        exact ⟨a, List.mem_cons_of_mem k member, failed⟩
      · obtain ⟨a, member, failed⟩ := ih run
        exact ⟨a, List.mem_cons_of_mem k member, failed⟩

end CollectM

end BTreeMap
