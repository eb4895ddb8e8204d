import Mathlib.Data.List.Basic
import Mathlib.Tactic.Common

/-! # Anchors in a list of names

An anchor is a name with the number of one of its occurrences. When members of the list are removed, an
anchor at a survivor goes with it, and an anchor at a removed member goes to the nearest survivor before it.
-/

namespace Anchors

variable {N : Type} [DecidableEq N]

/-! ## Where an anchor stands -/

/-- The anchor is that of the member with this index. -/
def StandsAt (names : List N) (anchor : N × Nat) (index : Nat) : Prop :=
  names[index]? = some anchor.1 ∧ (names.take (index + 1)).count anchor.1 = anchor.2

instance (names : List N) (anchor : N × Nat) (index : Nat) : Decidable (StandsAt names anchor index) :=
  inferInstanceAs (Decidable (_ ∧ _))

/-- The anchor of the last member. -/
def lastAnchor (names : List N) : Option (N × Nat) := names.getLast?.map fun name => (name, names.count name)

omit [DecidableEq N] in
theorem take_succ {names : List N} {index : Nat} {name : N} (here : names[index]? = some name) :
    names.take (index + 1) = names.take index ++ [name] := by
  rw [List.take_add_one, here]
  rfl

@[simp] theorem lastAnchor_nil : lastAnchor ([] : List N) = none := rfl

@[simp] theorem lastAnchor_append (names : List N) (name : N) :
    lastAnchor (names ++ [name]) = some (name, names.count name + 1) := by
  simp [lastAnchor]

theorem StandsAt.index_lt {names : List N} {anchor : N × Nat} {index : Nat} (stands : StandsAt names anchor index) :
    index < names.length := (List.getElem?_eq_some_iff.mp stands.1).1

theorem StandsAt.positive {names : List N} {anchor : N × Nat} {index : Nat} (stands : StandsAt names anchor index) :
    0 < anchor.2 := by
  obtain ⟨here, counted⟩ := stands
  rw [take_succ here, List.count_append, List.count_singleton_self] at counted
  omega

theorem StandsAt.last (names : List N) (name : N) (rest : List N) :
    StandsAt (names ++ name :: rest) (name, names.count name + 1) names.length := by
  constructor
  · simp
  · have here : (names ++ name :: rest)[names.length]? = some name := by simp
    have split : (names ++ name :: rest).take (names.length + 1) = names ++ [name] := by
      rw [take_succ here, List.take_left' rfl]
    rw [split]
    simp

theorem standsAt_snoc (names : List N) (name : N) (anchor : N × Nat) (index : Nat) :
    StandsAt (names ++ [name]) anchor index ↔
      (index < names.length ∧ StandsAt names anchor index) ∨
        (index = names.length ∧ anchor = (name, names.count name + 1)) := by
  constructor
  · intro stands
    have inside := stands.index_lt
    rw [List.length_append, List.length_singleton] at inside
    by_cases before : index < names.length
    · refine .inl ⟨before, ?_⟩
      unfold StandsAt at stands ⊢
      rwa [List.getElem?_append_left before, List.take_append_of_le_length (by omega)] at stands
    · have last : index = names.length := by omega
      subst last
      obtain ⟨here, counted⟩ := stands
      rw [List.getElem?_concat_length, Option.some.injEq] at here
      rw [List.take_of_length_le (by simp), ← here, List.count_append, List.count_singleton_self] at counted
      exact .inr ⟨rfl, Prod.ext here.symm counted.symm⟩
  · rintro (⟨before, stands⟩ | ⟨rfl, rfl⟩)
    · unfold StandsAt at stands ⊢
      rwa [List.getElem?_append_left before, List.take_append_of_le_length (by omega)]
    · exact StandsAt.last names name []

/-! ## Removing members -/

/-- Each member with whether it stays. -/
abbrev Marked (N : Type) := List (N × Bool)

def names (marked : Marked N) : List N := marked.map Prod.fst

def survivors (marked : Marked N) : List N := (marked.filter Prod.snd).map Prod.fst

section Marks

omit [DecidableEq N]

@[simp] theorem names_append (left right : Marked N) : names (left ++ right) = names left ++ names right :=
  List.map_append

@[simp] theorem survivors_append (left right : Marked N) :
    survivors (left ++ right) = survivors left ++ survivors right := by
  simp [survivors]

@[simp] theorem survivors_nil : survivors ([] : Marked N) = [] := rfl

@[simp] theorem survivors_stays (name : N) (rest : Marked N) : survivors ((name, true) :: rest) = name :: survivors rest := rfl

@[simp] theorem survivors_removed (name : N) (rest : Marked N) : survivors ((name, false) :: rest) = survivors rest := rfl

theorem survivors_sublist (marked : Marked N) : (survivors marked).Sublist (names marked) :=
  List.filter_sublist.map Prod.fst

/-- Where a survivor stands afterwards. -/
def newIndex (marked : Marked N) (index : Nat) : Nat := (survivors (marked.take index)).length

/-- The nearest survivor at or before an index. -/
structure Nearest (marked : Marked N) (index nearest : Nat) : Prop where
  before : nearest ≤ index
  stays : (marked[nearest]?).map Prod.snd = some true
  between : ∀ k, nearest < k → k ≤ index → (marked[k]?).map Prod.snd = some false

end Marks

/-- Where an anchor at an index leads after the removals. -/
inductive Leads (marked : Marked N) (index : Nat) : Option (N × Nat) → Prop
  | follows {nearest : Nat} {anchor : N × Nat} (survivor : Nearest marked index nearest)
      (same : (names marked)[nearest]? = some anchor.1)
      (stands : StandsAt (survivors marked) anchor (newIndex marked nearest)) : Leads marked index (some anchor)
  | nowhere (removed : ∀ k ≤ index, (marked[k]?).map Prod.snd = some false) : Leads marked index none

/-- The last survivor up to an index is where an anchor at the index leads. -/
theorem leads_lastAnchor (marked : Marked N) {index : Nat} (inside : index < marked.length) :
    Leads marked index (lastAnchor (survivors (marked.take (index + 1)))) := by
  induction index with
  | zero =>
      obtain ⟨⟨name, stays⟩, rest, rfl⟩ : ∃ first rest, marked = first :: rest := by
        cases marked with
        | nil => simp at inside
        | cons first rest => exact ⟨first, rest, rfl⟩
      cases stays with
      | true =>
          have last : lastAnchor (survivors (((name, true) :: rest).take (0 + 1))) = some (name, 1) := by
            simp [lastAnchor]
          rw [last]
          have survivor : Nearest ((name, true) :: rest) 0 0 := ⟨Nat.le_refl 0, rfl, by omega⟩
          exact .follows survivor rfl (StandsAt.last [] name (survivors rest))
      | false =>
          refine .nowhere fun k le => ?_
          rw [Nat.le_zero.mp le]
          rfl
  | succ index ih =>
      obtain ⟨⟨name, stays⟩, here⟩ : ∃ member, marked[index + 1]? = some member :=
        ⟨_, List.getElem?_eq_getElem inside⟩
      have split : marked.take (index + 1 + 1) = marked.take (index + 1) ++ [(name, stays)] := take_succ here
      rw [split, survivors_append]
      cases stays with
      | true =>
          rw [survivors_stays, survivors_nil, lastAnchor_append]
          have survivor : Nearest marked (index + 1) (index + 1) := ⟨Nat.le_refl _, by rw [here]; rfl, by omega⟩
          refine .follows survivor ?_ ?_
          · rw [names, List.getElem?_map, here]
            rfl
          · have whole : survivors marked =
                survivors (marked.take (index + 1)) ++ name :: survivors (marked.drop (index + 1 + 1)) := by
              conv_lhs => rw [← List.take_append_drop (index + 1 + 1) marked, split]
              simp
            rw [whole]
            exact StandsAt.last _ name _
      | false =>
          rw [survivors_removed, survivors_nil, List.append_nil]
          have earlier := ih (by omega)
          generalize lastAnchor (survivors (marked.take (index + 1))) = new at earlier ⊢
          cases earlier with
          | follows survivor same stands =>
              refine .follows ⟨by have := survivor.before; omega, survivor.stays, fun k above le => ?_⟩ same stands
              by_cases last : k = index + 1
              · rw [last, here]
                rfl
              · exact survivor.between k above (by omega)
          | nowhere removed =>
              refine .nowhere fun k le => ?_
              by_cases last : k = index + 1
              · rw [last, here]
                rfl
              · exact removed k (by omega)

omit [DecidableEq N] in
theorem Nearest.unique {marked : Marked N} {index i j : Nat} (one : Nearest marked index i)
    (other : Nearest marked index j) : i = j := by
  rcases Nat.lt_trichotomy i j with before | same | behind
  · have removed := one.between j before other.before
    rw [other.stays] at removed
    cases removed
  · exact same
  · have removed := other.between i behind one.before
    rw [one.stays] at removed
    cases removed

/-- There is one place where an anchor leads. -/
theorem Leads.unique {marked : Marked N} {index : Nat} {one other : Option (N × Nat)} (first : Leads marked index one)
    (second : Leads marked index other) : one = other := by
  cases first with
  | nowhere removed =>
      cases second with
      | nowhere => rfl
      | follows survivor =>
          have stays := survivor.stays
          rw [removed _ survivor.before] at stays
          cases stays
  | follows survivor same stands =>
      cases second with
      | nowhere removed =>
          have stays := survivor.stays
          rw [removed _ survivor.before] at stays
          cases stays
      | follows survivor' same' stands' =>
          rw [← survivor.unique survivor'] at same' stands'
          have named := Option.some.inj (same.symm.trans same')
          have counted := stands'.2
          rw [← named, stands.2] at counted
          exact congrArg some (Prod.ext named counted)

end Anchors
