import Mathlib.Data.List.Sort
import Mathlib.Tactic.Common

/-! # Ordering siblings

`sortByOrder` sorts keys by a stored position, ties by key. `spliceInto` replays
the position of preferred keys of one list into another: a run of preferred keys
is inserted before the next key that the target list also has, or at its end.
-/

namespace SiblingList

variable {K : Type}

/-! ## Sorting by position -/

section Sorting

variable [LinearOrder K]

def orderLE (a b : Nat × K) : Prop := a.1 < b.1 ∨ (a.1 = b.1 ∧ a.2 ≤ b.2)

instance : DecidableRel (orderLE (K := K)) := fun a b =>
  inferInstanceAs (Decidable (a.1 < b.1 ∨ (a.1 = b.1 ∧ a.2 ≤ b.2)))

instance : Std.Total (orderLE (K := K)) where
  total a b := by
    rcases Nat.lt_trichotomy a.1 b.1 with less | same | more
    · exact .inl (.inl less)
    · rcases le_total a.2 b.2 with le | le
      · exact .inl (.inr ⟨same, le⟩)
      · exact .inr (.inr ⟨same.symm, le⟩)
    · exact .inr (.inl more)

instance : IsTrans (Nat × K) orderLE where
  trans a b c := by
    rintro (h | ⟨h, h'⟩) (k | ⟨k, k'⟩)
    · exact .inl (h.trans k)
    · exact .inl (by omega)
    · exact .inl (by omega)
    · exact .inr ⟨h.trans k, h'.trans k'⟩

instance : Std.Antisymm (orderLE (K := K)) where
  antisymm a b := by
    rintro (h | ⟨h, h'⟩) (k | ⟨k, k'⟩)
    · omega
    · omega
    · omega
    · exact Prod.ext h (le_antisymm h' k')

def sortByOrder (pairs : List (Nat × K)) : List K :=
  (pairs.insertionSort orderLE).map Prod.snd

theorem mem_sortByOrder {pairs : List (Nat × K)} {k : K} :
    k ∈ sortByOrder pairs ↔ ∃ i, (i, k) ∈ pairs := by
  simp [sortByOrder]

theorem sortByOrder_perm_snd (pairs : List (Nat × K)) :
    (sortByOrder pairs).Perm (pairs.map Prod.snd) :=
  (List.perm_insertionSort orderLE pairs).map Prod.snd

theorem sortByOrder_congr {left right : List (Nat × K)} (perm : left.Perm right) :
    sortByOrder left = sortByOrder right := by
  have sorted : left.insertionSort orderLE = right.insertionSort orderLE :=
    List.Perm.eq_of_pairwise' (List.pairwise_insertionSort orderLE left)
      (List.pairwise_insertionSort orderLE right)
      ((List.perm_insertionSort orderLE left).trans
        (perm.trans (List.perm_insertionSort orderLE right).symm))
  rw [sortByOrder, sorted, sortByOrder]

/-- Sorting commutes with dropping keys. -/
theorem sortByOrder_filter (p : K → Bool) (pairs : List (Nat × K)) :
    sortByOrder (pairs.filter (fun pair => p pair.2)) = (sortByOrder pairs).filter p := by
  have sorted : (pairs.filter (fun pair => p pair.2)).insertionSort orderLE =
      (pairs.insertionSort orderLE).filter (fun pair => p pair.2) :=
    List.Perm.eq_of_pairwise' (List.pairwise_insertionSort orderLE _)
      ((List.pairwise_insertionSort orderLE pairs).filter _)
      ((List.perm_insertionSort orderLE _).trans
        ((List.perm_insertionSort orderLE pairs).filter _).symm)
  rw [sortByOrder, sorted, sortByOrder, List.filter_map]
  rfl

theorem positions_sorted (order : List K) (start : Nat) :
    ((order.zipIdx start).map Prod.swap).Pairwise orderLE := by
  induction order generalizing start with
  | nil => simp
  | cons k rest ih =>
      simp only [List.zipIdx_cons, List.map_cons, List.pairwise_cons]
      refine ⟨?_, ih (start + 1)⟩
      intro pair member
      obtain ⟨⟨x, i⟩, inZip, rfl⟩ := List.mem_map.mp member
      have low := List.le_snd_of_mem_zipIdx inZip
      exact .inl (by simp only [Prod.fst_swap]; omega)

/-- Keys numbered by their place in a list sort back to that list. -/
theorem sortByOrder_positions {order : List K} {pairs : List (Nat × K)}
    (perm : pairs.Perm (order.zipIdx.map Prod.swap)) : sortByOrder pairs = order := by
  rw [sortByOrder_congr perm, sortByOrder, (positions_sorted order 0).insertionSort_eq]
  simp [List.map_map, Function.comp_def, List.zipIdx_map_fst]

end Sorting

/-! ## Splicing preferred keys -/

section Splicing

variable [DecidableEq K]

def spliceInto (prefer : K → Bool) : (source order pending : List K) → List K
  | [], order, pending => order ++ pending
  | k :: rest, order, pending =>
      if prefer k then spliceInto prefer rest order (pending ++ [k])
      else match order.idxOf? k with
        | some anchor => spliceInto prefer rest (order.take anchor ++ pending ++ order.drop anchor) []
        | none => spliceInto prefer rest order pending

variable {prefer : K → Bool}

theorem split_at_anchor {k : K} {order : List K} {anchor : Nat} (found : order.idxOf? k = some anchor) :
    order = order.take anchor ++ k :: order.drop (anchor + 1) ∧ k ∉ order.take anchor := by
  obtain ⟨inside, here, before⟩ := List.idxOf?_eq_some_iff.mp found
  refine ⟨?_, ?_⟩
  · rw [← here, ← List.drop_eq_getElem_cons inside, List.take_append_drop]
  · intro member
    obtain ⟨i, small, same⟩ := List.mem_take_iff_getElem.mp member
    exact before i (by omega) same

/-- Only preferred keys are inserted. -/
theorem spliceInto_filter (source order pending : List K) (held : ∀ k ∈ pending, prefer k = true) :
    (spliceInto prefer source order pending).filter (fun k => !prefer k) =
      order.filter (fun k => !prefer k) := by
  have dropped : pending.filter (fun k => !prefer k) = [] :=
    List.filter_eq_nil_iff.mpr fun k member => by simp [held k member]
  induction source generalizing order pending with
  | nil => simp [spliceInto, dropped]
  | cons k rest ih =>
      simp only [spliceInto]
      split
      · rename_i preferred
        have held' : ∀ x ∈ pending ++ [k], prefer x = true := by
          intro x member
          rcases List.mem_append.mp member with old | new
          · exact held x old
          · rw [List.mem_singleton.mp new, preferred]
        exact ih order _ held' (by simp [dropped, preferred])
      · split
        · rename_i anchor _
          rw [ih _ [] (by simp) rfl]
          simp only [List.filter_append, dropped, List.append_nil]
          rw [← List.filter_append, List.take_append_drop]
        · exact ih order pending held dropped

end Splicing

end SiblingList
