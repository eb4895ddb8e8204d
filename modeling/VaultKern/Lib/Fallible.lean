import Mathlib.Data.List.Forall2
import Mathlib.Tactic.Common

/-! # Computations that may fail

How a successful or failed composite computation in `Except` comes apart.
-/

namespace Fallible

variable {E A B : Type}

theorem bind_ok {first : Except E A} {next : A → Except E B} {b : B} :
    (first >>= next) = .ok b ↔ ∃ a, first = .ok a ∧ next a = .ok b := by
  cases first with
  | error e => simp [bind, Except.bind]
  | ok a => simp [bind, Except.bind]

theorem bind_error {first : Except E A} {next : A → Except E B} {e : E} :
    (first >>= next) = .error e ↔ first = .error e ∨ ∃ a, first = .ok a ∧ next a = .error e := by
  cases first with
  | error e' => simp [bind, Except.bind]
  | ok a => simp [bind, Except.bind]

theorem map_ok {x : Except E A} {f : A → B} {b : B} : x.map f = .ok b ↔ ∃ a, x = .ok a ∧ f a = b := by
  cases x with
  | error e => simp [Except.map]
  | ok a => simp [Except.map]

@[simp] theorem ok_bind (a : A) (next : A → Except E B) : (Except.ok a >>= next) = next a := rfl

/-- A result that is known by one of its values. -/
theorem ok_of_toOption {x : Except E A} {f : A → B} {b : B} (known : x.toOption.map f = some b) :
    ∃ a, x = .ok a ∧ f a = b := by
  cases x with
  | error e => cases known
  | ok a => exact ⟨a, rfl, Option.some.inj known⟩

theorem toOption_some {x : Except E A} {a : A} (known : x.toOption = some a) : x = .ok a := by
  cases x with
  | error e => cases known
  | ok b => exact congrArg Except.ok (Option.some.inj known)

theorem ok_of_toBool {x : Except E A} (succeeds : x.toBool = true) : ∃ a, x = .ok a := by
  cases x with
  | error e => cases succeeds
  | ok a => exact ⟨a, rfl⟩

/-- Each member was taken in some state. -/
theorem foldlM_each {S : Type} {f : S → A → Except E S} {list : List A} {start result : S}
    (folded : list.foldlM f start = .ok result) : ∀ a ∈ list, ∃ before after, f before a = .ok after := by
  induction list generalizing start with
  | nil => simp
  | cons a rest ih =>
      rw [List.foldlM_cons] at folded
      obtain ⟨next, taken, folded⟩ := bind_ok.mp folded
      intro b member
      rcases List.mem_cons.mp member with rfl | member
      · exact ⟨start, next, taken⟩
      · exact ih folded b member

/-- What every step keeps holds at the end. -/
theorem foldlM_keeps {S : Type} {f : S → A → Except E S} {holds : S → Prop} {list : List A}
    (keeps : ∀ a ∈ list, ∀ before after, holds before → f before a = .ok after → holds after) {start result : S}
    (first : holds start) (folded : list.foldlM f start = .ok result) : holds result := by
  induction list generalizing start with
  | nil =>
      cases folded
      exact first
  | cons a rest ih =>
      rw [List.foldlM_cons] at folded
      obtain ⟨next, taken, folded⟩ := bind_ok.mp folded
      exact ih (fun b member => keeps b (List.mem_cons_of_mem a member))
        (keeps a List.mem_cons_self start next first taken) folded

theorem forM_ok {check : A → Except E Unit} {list : List A} :
    list.forM check = .ok () ↔ ∀ a ∈ list, check a = .ok () := by
  induction list with
  | nil => simp [pure, Except.pure]
  | cons a rest ih =>
      simp only [List.forM_eq_forM] at ih
      simp only [List.forM_eq_forM, List.forM_cons, bind_ok, List.forall_mem_cons, ih]
      constructor
      · rintro ⟨⟨⟩, first, later⟩
        exact ⟨first, later⟩
      · rintro ⟨first, later⟩
        exact ⟨(), first, later⟩

theorem forM_error {check : A → Except E Unit} {list : List A} {e : E}
    (failed : list.forM check = .error e) : ∃ a ∈ list, check a = .error e := by
  induction list with
  | nil => cases failed
  | cons a rest ih =>
      rw [List.forM_eq_forM, List.forM_cons] at failed
      rcases bind_error.mp failed with first | ⟨_, _, later⟩
      · exact ⟨a, List.mem_cons_self, first⟩
      · obtain ⟨b, member, here⟩ := ih later
        exact ⟨b, List.mem_cons_of_mem a member, here⟩

/-- A successful `mapM` is a pointwise success. -/
theorem mapM_ok {f : A → Except E B} {list : List A} {results : List B} :
    list.mapM f = .ok results ↔ List.Forall₂ (fun a b => f a = .ok b) list results := by
  induction list generalizing results with
  | nil =>
      simp only [List.mapM_nil, List.forall₂_nil_left_iff]
      exact ⟨fun same => (Except.ok.inj same).symm, fun same => by rw [same]; rfl⟩
  | cons a rest ih =>
      simp only [List.mapM_cons, bind_ok, List.forall₂_cons_left_iff, ← ih]
      constructor
      · rintro ⟨b, first, tail, later, same⟩
        exact ⟨b, tail, first, later, (Except.ok.inj same).symm⟩
      · rintro ⟨b, tail, first, later, rfl⟩
        exact ⟨b, first, tail, later, rfl⟩

/-- Every result comes from an element. -/
theorem source_of_mem {R : A → B → Prop} {list : List A} {results : List B} (pairs : List.Forall₂ R list results)
    {b : B} (member : b ∈ results) : ∃ a ∈ list, R a b := by
  induction pairs with
  | nil => cases member
  | cons first _ ih =>
      rcases List.mem_cons.mp member with rfl | inside
      · exact ⟨_, List.mem_cons_self, first⟩
      · obtain ⟨a, member, here⟩ := ih inside
        exact ⟨a, List.mem_cons_of_mem _ member, here⟩

/-- Every element has a result. -/
theorem result_of_mem {R : A → B → Prop} {list : List A} {results : List B} (pairs : List.Forall₂ R list results)
    {a : A} (member : a ∈ list) : ∃ b ∈ results, R a b := by
  obtain ⟨b, inside, here⟩ := source_of_mem pairs.flip member
  exact ⟨b, inside, here⟩

theorem mapM_total {f : A → Except E B} {list : List A} (total : ∀ a ∈ list, ∃ b, f a = .ok b) :
    ∃ results, list.mapM f = .ok results := by
  induction list with
  | nil => exact ⟨[], rfl⟩
  | cons a rest ih =>
      obtain ⟨b, first⟩ := total a List.mem_cons_self
      obtain ⟨tail, later⟩ := ih fun c member => total c (List.mem_cons_of_mem a member)
      exact ⟨b :: tail, by rw [List.mapM_cons, first, ok_bind, later]; rfl⟩

/-- Computations that agree on the members of a list. -/
theorem mapM_agree {list : List A} {first second : A → Except E B} (agree : ∀ a ∈ list, first a = second a) :
    list.mapM first = list.mapM second := by
  induction list with
  | nil => rfl
  | cons a rest ih =>
      rw [List.mapM_cons, List.mapM_cons, agree a List.mem_cons_self,
        ih fun b member => agree b (List.mem_cons_of_mem a member)]

end Fallible

/-! ## One step for each member -/

/-- One step for each member of a list, each from where the one before it ended. -/
inductive Along {A S : Type} (step : A → S → S → Prop) : List A → S → S → Prop where
  | nil (state : S) : Along step [] state state
  | cons {a : A} {rest : List A} {before middle after : S} (first : step a before middle)
      (later : Along step rest middle after) : Along step (a :: rest) before after

theorem Along.mono {A S : Type} {step step' : A → S → S → Prop} {list : List A} {before after : S}
    (along : Along step list before after) (weaker : ∀ a before after, step a before after → step' a before after) :
    Along step' list before after := by
  induction along with
  | nil state => exact .nil state
  | cons first _ ih => exact .cons (weaker _ _ _ first) ih
