import Mathlib.Data.List.Nodup
import Mathlib.Data.List.Flatten
import Mathlib.Data.List.Perm.Subperm
import Mathlib.Tactic.Common

/-! # Forests given by parent pointers

A partial function `parent` is a forest when no key is its own proper ancestor.
`ancestor n k` climbs `n` pointers. Two views of a subtree are connected here:
climbing from a member (`Reaches`), and listing downwards along a children
function (`descendants`).
-/

namespace ParentForest

variable {K : Type}

def ancestor (parent : K → Option K) : Nat → K → Option K
  | 0, k => some k
  | n + 1, k => (parent k).bind (ancestor parent n)

/-- `a` is `k` or one of its ancestors. -/
def Reaches (parent : K → Option K) (k a : K) : Prop := ∃ n, ancestor parent n k = some a

def Acyclic (parent : K → Option K) : Prop := ∀ k n, 0 < n → ancestor parent n k ≠ some k

/-- Every key of the domain climbs to `root`, where climbing stops. -/
structure Rooted (parent : K → Option K) (dom : K → Prop) (root : K) : Prop where
  top : parent root = none
  reaches : ∀ k, dom k → Reaches parent k root

variable {parent : K → Option K}

theorem ancestor_add (m n : Nat) (k : K) :
    ancestor parent (m + n) k = (ancestor parent m k).bind (ancestor parent n) := by
  induction m generalizing k with
  | zero => simp [ancestor]
  | succ m ih =>
      rw [Nat.succ_add]
      cases up : parent k with
      | none => simp [ancestor, up]
      | some p => simp [ancestor, up, ih]

theorem ancestor_succ (n : Nat) (k : K) :
    ancestor parent (n + 1) k = (ancestor parent n k).bind parent := by
  rw [ancestor_add]
  congr 1
  funext a
  cases up : parent a <;> simp [ancestor, up]

theorem ancestor_step {k p : K} (up : parent k = some p) (n : Nat) :
    ancestor parent (n + 1) k = ancestor parent n p := by
  simp [ancestor, up]

theorem Reaches.refl (k : K) : Reaches parent k k := ⟨0, rfl⟩

theorem Reaches.step {k p : K} (up : parent k = some p) : Reaches parent k p :=
  ⟨1, by simp [ancestor, up]⟩

theorem Reaches.trans {a b c : K} (first : Reaches parent a b) (second : Reaches parent b c) :
    Reaches parent a c := by
  obtain ⟨m, first⟩ := first
  obtain ⟨n, second⟩ := second
  exact ⟨m + n, by rw [ancestor_add, first]; exact second⟩

/-- A proper climb leaves through the parent. -/
theorem Reaches.cases {k a : K} (climb : Reaches parent k a) :
    k = a ∨ ∃ p, parent k = some p ∧ Reaches parent p a := by
  obtain ⟨n, climb⟩ := climb
  cases n with
  | zero => exact .inl (Option.some.inj climb)
  | succ n =>
      obtain ⟨p, up, rest⟩ := Option.bind_eq_some_iff.mp climb
      exact .inr ⟨p, up, n, rest⟩

theorem ancestor_none_of_le {k : K} {m n : Nat} (stopped : ancestor parent m k = none) (le : m ≤ n) :
    ancestor parent n k = none := by
  obtain ⟨d, rfl⟩ := Nat.exists_eq_add_of_le le
  rw [ancestor_add, stopped]
  rfl

theorem ancestor_cycle {k : K} {n : Nat} (loop : ancestor parent n k = some k) (m : Nat) :
    ancestor parent (n * m) k = some k := by
  induction m with
  | zero => rfl
  | succ m ih => rw [Nat.mul_succ, ancestor_add, ih]; exact loop

/-- Climbing to a top from every key that has a parent rules out cycles. -/
theorem Rooted.acyclic {dom : K → Prop} {root : K} (rooted : Rooted parent dom root)
    (support : ∀ k, parent k ≠ none → dom k) : Acyclic parent := by
  intro k n positive loop
  have inside : dom k := by
    apply support
    intro stopped
    cases n with
    | zero => omega
    | succ n => simp [ancestor, stopped] at loop
  obtain ⟨j, top⟩ := rooted.reaches k inside
  have past : ancestor parent (j + 1) k = none := by
    rw [ancestor_succ, top]
    exact rooted.top
  have later : j + 1 ≤ n * (j + 1) := Nat.le_mul_of_pos_left _ positive
  have stopped := ancestor_none_of_le past later
  rw [ancestor_cycle loop] at stopped
  cases stopped

/-- In a forest the number of steps to an ancestor is unique. -/
theorem Acyclic.steps_unique (acyclic : Acyclic parent) {k a : K} {m n : Nat}
    (first : ancestor parent m k = some a) (second : ancestor parent n k = some a) : m = n := by
  rcases Nat.lt_trichotomy m n with less | same | more
  · obtain ⟨d, rfl⟩ := Nat.exists_eq_add_of_lt less
    rw [Nat.add_assoc, ancestor_add, first] at second
    exact absurd second (acyclic a (d + 1) (Nat.succ_pos d))
  · exact same
  · obtain ⟨d, rfl⟩ := Nat.exists_eq_add_of_lt more
    rw [Nat.add_assoc, ancestor_add, second] at first
    exact absurd first (acyclic a (d + 1) (Nat.succ_pos d))

/-- A climb stops at one place. -/
theorem Reaches.top_unique {k a b : K} (first : Reaches parent k a) (second : Reaches parent k b)
    (stops : parent a = none) (stops' : parent b = none) : a = b := by
  obtain ⟨m, first⟩ := first
  obtain ⟨n, second⟩ := second
  rcases Nat.lt_trichotomy m n with less | rfl | more
  · obtain ⟨d, rfl⟩ := Nat.exists_eq_add_of_lt less
    rw [Nat.add_assoc, ancestor_add, first] at second
    simp [ancestor, stops] at second
  · exact Option.some.inj (first.symm.trans second)
  · obtain ⟨d, rfl⟩ := Nat.exists_eq_add_of_lt more
    rw [Nat.add_assoc, ancestor_add, second] at first
    simp [ancestor, stops'] at first

/-! ## Bounded climbs -/

/-- The keys passed on the way up, the end excluded. -/
def chain (parent : K → Option K) : Nat → K → List K
  | 0, _ => []
  | n + 1, k => k :: (match parent k with | some p => chain parent n p | none => [])

theorem chain_spec {n : Nat} {k a : K} (climb : ancestor parent n k = some a) :
    (chain parent n k).length = n ∧
      ∀ x ∈ chain parent n k, parent x ≠ none ∧ ∃ i, i < n ∧ ancestor parent i k = some x := by
  induction n generalizing k with
  | zero => simp [chain]
  | succ n ih =>
      obtain ⟨p, up, rest⟩ := Option.bind_eq_some_iff.mp climb
      obtain ⟨len, members⟩ := ih rest
      simp only [chain, up]
      refine ⟨by simp [len], ?_⟩
      intro x member
      rcases List.mem_cons.mp member with rfl | above
      · exact ⟨by simp [up], 0, Nat.succ_pos n, rfl⟩
      · obtain ⟨linked, i, small, at_i⟩ := members x above
        exact ⟨linked, i + 1, Nat.succ_lt_succ small, by rw [ancestor_step up]; exact at_i⟩

theorem Acyclic.chain_nodup (acyclic : Acyclic parent) (n : Nat) (k : K) {a : K}
    (climb : ancestor parent n k = some a) : (chain parent n k).Nodup := by
  induction n generalizing k with
  | zero => simp [chain]
  | succ n ih =>
      obtain ⟨p, up, rest⟩ := Option.bind_eq_some_iff.mp climb
      simp only [chain, up]
      refine List.nodup_cons.mpr ⟨?_, ih p rest⟩
      intro member
      obtain ⟨_, i, _, at_i⟩ := (chain_spec rest).2 k member
      exact acyclic k (i + 1) (Nat.succ_pos i) (by rw [ancestor_step up]; exact at_i)

/-- A climb is no longer than the list of keys that have a parent. -/
theorem Acyclic.steps_le (acyclic : Acyclic parent) {keys : List K}
    (support : ∀ k, parent k ≠ none → k ∈ keys) {n : Nat} {k a : K}
    (climb : ancestor parent n k = some a) : n ≤ keys.length := by
  have ⟨len, members⟩ := chain_spec climb
  calc
    n = (chain parent n k).length := len.symm
    _ ≤ keys.length :=
      (List.subperm_of_subset (acyclic.chain_nodup n k climb)
        fun x member => support x (members x member).1).length_le

/-! ## Downward listing -/

/-- Depth-first listing of the subtree below `k`, cut at depth `n`. -/
def descendants (kids : K → List K) : Nat → K → List K
  | 0, _ => []
  | n + 1, k => k :: (kids k).flatMap (descendants kids n)

/-- `kids` lists the children of every key, without repetition. -/
structure Lists (parent : K → Option K) (kids : K → List K) : Prop where
  mem : ∀ k c, c ∈ kids k ↔ parent c = some k
  nodup : ∀ k, (kids k).Nodup

theorem Lists.mem_descendants {kids : K → List K} (lists : Lists parent kids) {n : Nat} {x k : K} :
    x ∈ descendants kids n k ↔ ∃ j, j < n ∧ ancestor parent j x = some k := by
  induction n generalizing k with
  | zero => simp [descendants]
  | succ n ih =>
      simp only [descendants, List.mem_cons, List.mem_flatMap, lists.mem, ih]
      constructor
      · rintro (rfl | ⟨c, up, j, small, climb⟩)
        · exact ⟨0, Nat.succ_pos n, rfl⟩
        · exact ⟨j + 1, Nat.succ_lt_succ small, by rw [ancestor_succ, climb]; exact up⟩
      · rintro ⟨j, small, climb⟩
        cases j with
        | zero => exact .inl (Option.some.inj climb)
        | succ j =>
            rw [ancestor_succ] at climb
            obtain ⟨c, low, up⟩ := Option.bind_eq_some_iff.mp climb
            exact .inr ⟨c, up, j, Nat.lt_of_succ_lt_succ small, low⟩

theorem Lists.descendants_nodup {kids : K → List K} (lists : Lists parent kids)
    (acyclic : Acyclic parent) (n : Nat) (k : K) : (descendants kids n k).Nodup := by
  induction n generalizing k with
  | zero => simp [descendants]
  | succ n ih =>
      refine List.nodup_cons.mpr ⟨?_, ?_⟩
      · intro member
        obtain ⟨c, isKid, below⟩ := List.mem_flatMap.mp member
        obtain ⟨j, _, climb⟩ := lists.mem_descendants.mp below
        have up := (lists.mem k c).mp isKid
        exact acyclic k (j + 1) (Nat.succ_pos j) (by rw [ancestor_succ, climb]; exact up)
      · refine List.nodup_flatMap.mpr ⟨fun c _ => ih c, ?_⟩
        refine (lists.nodup k).pairwise_of_forall_ne ?_
        -- siblings below which one key lies coincide: both are the same number of steps up
        intro c isKid d isKid' different x below below'
        obtain ⟨i, _, climb⟩ := lists.mem_descendants.mp below
        obtain ⟨j, _, climb'⟩ := lists.mem_descendants.mp below'
        have up := (lists.mem k c).mp isKid
        have up' := (lists.mem k d).mp isKid'
        have reach : ancestor parent (i + 1) x = some k := by rw [ancestor_succ, climb]; exact up
        have reach' : ancestor parent (j + 1) x = some k := by rw [ancestor_succ, climb']; exact up'
        have same : i + 1 = j + 1 := acyclic.steps_unique reach reach'
        cases Nat.succ.inj same
        rw [climb] at climb'
        exact different (Option.some.inj climb')

end ParentForest
