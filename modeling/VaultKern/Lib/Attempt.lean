import Mathlib.Tactic.Common

/-! # Stateful computations that may fail half way

An `Attempt` changes a state in place and may fail at any point; what it wrote
before it failed stays written. It is atomic if a failure leaves the state as it
was. Checks that write nothing may come before an atomic rest, and an atomic
start may be followed by steps that cannot fail.
-/

/-- The result, and the state as the computation left it. -/
def Attempt (E S A : Type) := S → Except E A × S

namespace Attempt

variable {E S A B P : Type}

instance : Monad (Attempt E S) where
  pure a := fun s => (.ok a, s)
  bind m next := fun s =>
    match m s with
    | (.ok a, s') => next a s'
    | (.error e, s') => (.error e, s')

instance : MonadStateOf S (Attempt E S) where
  get := fun s => (.ok s, s)
  set s := fun _ => (.ok (), s)
  modifyGet f := fun s => (.ok (f s).1, (f s).2)

def fail (e : E) : Attempt E S A := fun s => (.error e, s)

/-- Fail unless the condition holds. -/
def ensure (condition : Bool) (e : E) : Attempt E S Unit :=
  if condition then pure () else fail e

/-- A present value; `ok_or` followed by `?`. -/
def require (e : E) : Option A → Attempt E S A
  | some a => pure a
  | none => fail e

/-- A check of the arguments. -/
def lift : Except E A → Attempt E S A
  | .ok a => pure a
  | .error e => fail e

/-- Work on a part of the state through a reference to it. -/
def within (part : S → Option P) (put : P → S → S) (missing : E) (m : Attempt E P A) : Attempt E S A := fun s =>
  match part s with
  | none => (.error missing, s)
  | some p => ((m p).1, put (m p).2 s)

/-- Change the state and look at the result. -/
def write (change : S → S) (view : S → A) : Attempt E S A := do
  modify change
  return view (← get)

/-! ## Stepping -/

@[simp] theorem pure_run (a : A) (s : S) : (pure a : Attempt E S A) s = (.ok a, s) := rfl

theorem bind_run (m : Attempt E S A) (next : A → Attempt E S B) (s : S) :
    (m >>= next) s =
      match m s with
      | (.ok a, s') => next a s'
      | (.error e, s') => (.error e, s') := rfl

@[simp] theorem get_run (s : S) : (get : Attempt E S S) s = (.ok s, s) := rfl

@[simp] theorem set_run (s s' : S) : (set s' : Attempt E S PUnit) s = (.ok (), s') := rfl

@[simp] theorem modify_run (f : S → S) (s : S) : (modify f : Attempt E S PUnit) s = (.ok (), f s) := rfl

@[simp] theorem fail_run (e : E) (s : S) : (fail e : Attempt E S A) s = (.error e, s) := rfl

@[simp] theorem write_run (change : S → S) (view : S → A) (s : S) :
    (write change view : Attempt E S A) s = (.ok (view (change s)), change s) := rfl

@[simp] theorem require_some (e : E) (a : A) (s : S) : require e (some a) s = (.ok a, s) := rfl

@[simp] theorem require_none (e : E) (s : S) : (require e none : Attempt E S A) s = (.error e, s) := rfl

@[simp] theorem lift_ok (a : A) (s : S) : (lift (.ok a) : Attempt E S A) s = (.ok a, s) := rfl

@[simp] theorem lift_error (e : E) (s : S) : (lift (.error e) : Attempt E S A) s = (.error e, s) := rfl

@[simp] theorem ensure_true (e : E) (s : S) : ensure true e s = (.ok (), s) := rfl

@[simp] theorem ensure_false (e : E) (s : S) : ensure false e s = (.error e, s) := rfl

theorem bind_ok {m : Attempt E S A} {next : A → Attempt E S B} {s s' : S} {b : B} :
    (m >>= next) s = (.ok b, s') ↔ ∃ a mid, m s = (.ok a, mid) ∧ next a mid = (.ok b, s') := by
  rw [bind_run]
  cases first : m s with
  | mk result mid => cases result <;> simp

instance : LawfulMonad (Attempt E S) := LawfulMonad.mk' _
  (by
    intro A m
    funext s
    change (match m s with | (.ok a, s') => _ | (.error e, s') => _) = _
    cases m s with
    | mk result mid => cases result <;> rfl)
  (fun _ _ => rfl)
  (by
    intro A B C m next last
    funext s
    rw [bind_run, bind_run, bind_run]
    cases m s with
    | mk result mid => cases result <;> rfl)

/-! ## What a computation may do -/

/-- The state is never written. -/
def ReadOnly (m : Attempt E S A) : Prop := ∀ s, (m s).2 = s

/-- There is no failure. -/
def Infallible (m : Attempt E S A) : Prop := ∀ s, ∃ a, (m s).1 = .ok a

/-- A failure leaves the state as it was. -/
def Atomic (m : Attempt E S A) : Prop := ∀ s e, (m s).1 = .error e → (m s).2 = s

theorem Infallible.atomic {m : Attempt E S A} (succeeds : Infallible m) : Atomic m := by
  intro s e failed
  obtain ⟨a, result⟩ := succeeds s
  rw [result] at failed
  cases failed

namespace ReadOnly

theorem pure (a : A) : ReadOnly (pure a : Attempt E S A) := fun _ => rfl

theorem get : ReadOnly (get : Attempt E S S) := fun _ => rfl

theorem fail (e : E) : ReadOnly (fail e : Attempt E S A) := fun _ => rfl

theorem ensure (condition : Bool) (e : E) : ReadOnly (ensure condition e : Attempt E S Unit) := by
  cases condition
  · exact fail e
  · exact pure ()

theorem require (e : E) (value : Option A) : ReadOnly (require e value : Attempt E S A) := by
  cases value
  · exact fail e
  · exact pure _

theorem lift (check : Except E A) : ReadOnly (lift check : Attempt E S A) := by
  cases check
  · exact fail _
  · exact pure _

theorem bind {m : Attempt E S A} {next : A → Attempt E S B} (first : ReadOnly m)
    (rest : ∀ a, ReadOnly (next a)) : ReadOnly (m >>= next) := by
  intro s
  rw [bind_run]
  have same := first s
  cases result : m s with
  | mk value mid =>
      rw [result] at same
      cases same
      cases value with
      | error e => rfl
      | ok a => exact rest a _

/-- After a check the computation goes on in the same state. -/
theorem bind_ok {m : Attempt E S A} {next : A → Attempt E S B} (reads : ReadOnly m) {s s' : S} {b : B} :
    (m >>= next) s = (.ok b, s') ↔ ∃ a, m s = (.ok a, s) ∧ next a s = (.ok b, s') := by
  have same := reads s
  rw [bind_run]
  cases first : m s with
  | mk result mid =>
      rw [first] at same
      cases same
      cases result <;> simp

end ReadOnly

@[simp] theorem ensure_ok {condition : Bool} {e : E} {s s' : S} {u : Unit} :
    ensure condition e s = (.ok u, s') ↔ condition = true ∧ s = s' := by
  cases condition <;> simp [ensure]

theorem lift_eq_ok {check : Except E A} {s s' : S} {a : A} :
    lift check s = (.ok a, s') ↔ check = .ok a ∧ s = s' := by
  cases check <;> simp

namespace Infallible

theorem modify (f : S → S) : Infallible (modify f : Attempt E S PUnit) := fun _ => ⟨(), rfl⟩

end Infallible

namespace Atomic

theorem write (change : S → S) (view : S → A) : Atomic (write change view : Attempt E S A) :=
  Infallible.atomic fun s => ⟨view (change s), rfl⟩

/-- Checks before the first write. -/
theorem check_first {m : Attempt E S A} {next : A → Attempt E S B} (first : ReadOnly m)
    (rest : ∀ a, Atomic (next a)) : Atomic (m >>= next) := by
  intro s e
  rw [bind_run]
  have same := first s
  cases result : m s with
  | mk value mid =>
      rw [result] at same
      cases same
      cases value with
      | error _ => exact fun _ => rfl
      | ok a => exact rest a _ e

/-- Work on a part is atomic if putting the part back as it was changes nothing. -/
theorem within {part : S → Option P} {put : P → S → S} {missing : E} {m : Attempt E P A}
    (same : ∀ s p, part s = some p → put p s = s) (inner : Atomic m) :
    Atomic (within part put missing m) := by
  intro s e failed
  simp only [Attempt.within] at failed ⊢
  cases here : part s with
  | none => rfl
  | some p =>
      simp only [here] at failed ⊢
      rw [inner p e failed]
      exact same s p here

end Atomic

end Attempt
