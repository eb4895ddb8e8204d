import VaultKern.Lib.Framing

/-! # Readers

A reader takes a value from the front of a list and leaves the rest. It reads a code when what
it accepts are the texts of the code with anything behind them. A loop that reads goes on in
another state with what is left, or is done.
-/

namespace Reading

open Framing (Delimits)

variable {A B C E S R : Type}

/-- What is accepted is a text of the value, and what is left is behind it. -/
def Reads (read : List B → Except E (A × List B)) (code : A → List B → Prop) : Prop :=
  ∀ ⦃bytes a rest⦄, read bytes = .ok (a, rest) ↔ ∃ text, code a text ∧ bytes = text ++ rest

namespace Reads

variable {read : List B → Except E (A × List B)} {code : A → List B → Prop}

theorem accepts (reads : Reads read code) {a : A} {text : List B} (written : code a text) (rest : List B) :
    read (text ++ rest) = .ok (a, rest) :=
  reads.mpr ⟨text, written, rfl⟩

theorem delimits (reads : Reads read code) : Delimits code := by
  intro a b s t x y first second same
  have here := reads.accepts first x
  rw [same, reads.accepts second y] at here
  cases here
  exact ⟨rfl, rfl⟩

/-- A text that was cut short is refused. -/
theorem refuses_cut (reads : Reads read code) {a : A} {text short : List B} (written : code a text)
    (cut : short <+: text) (less : short ≠ text) (b : A) (rest : List B) : read short ≠ .ok (b, rest) := by
  intro read
  obtain ⟨other, there, rfl⟩ := reads.mp read
  obtain ⟨more, rfl⟩ := cut
  obtain ⟨_, ends⟩ := @delimits A B E _ _ reads a b _ other [] (rest ++ more) written there (by simp)
  obtain ⟨rfl, rfl⟩ := List.append_eq_nil_iff.mp ends.symm
  simp at less

theorem congr {code' : A → List B → Prop} (reads : Reads read code) (same : ∀ a text, code a text ↔ code' a text) :
    Reads read code' := by
  intro bytes a rest
  rw [reads]
  simp only [same]

end Reads

/-! ## Loops -/

/-- What a step of a loop says. -/
inductive Next (S R : Type) where
  | again (state : S)
  | done (result : R)

def loop (stuck : E) (step : S → List B → Except E (Next S R × List B)) : Nat → S → List B → Except E (R × List B)
  | 0, _, _ => .error stuck
  | fuel + 1, state, bytes => do
      match ← step state bytes with
      | (.again state, rest) => loop stuck step fuel state rest
      | (.done result, rest) => .ok (result, rest)

/-- The texts of the steps one after another, up to one that is done. -/
inductive Steps (code : S → Next S R → List B → Prop) : S → R → List B → Prop where
  | done {state result text} : code state (.done result) text → Steps code state result text
  | again {state next result text later} : code state (.again next) text → Steps code next result later →
      Steps code state result (text ++ later)

section Loops

variable {stuck : E} {step : S → List B → Except E (Next S R × List B)} {code : S → Next S R → List B → Prop}

/-- A step that goes on has read something. -/
def Progress (code : S → Next S R → List B → Prop) : Prop := ∀ state next text, code state (.again next) text → text ≠ []

variable (reads : ∀ state, Reads (step state) (code state)) (progress : Progress code)
include reads progress

theorem shorter {state next : S} {bytes rest : List B} (here : step state bytes = .ok (.again next, rest)) :
    rest.length < bytes.length := by
  obtain ⟨text, written, rfl⟩ := (reads state).mp here
  have positive := List.length_pos_iff.mpr (progress state next text written)
  rw [List.length_append]
  omega

/-- With more fuel than there are bytes, the fuel makes no difference. -/
theorem loop_fuel {fuel fuel' : Nat} {state : S} {bytes : List B} (enough : bytes.length < fuel)
    (enough' : bytes.length < fuel') : loop stuck step fuel state bytes = loop stuck step fuel' state bytes := by
  induction fuel generalizing fuel' state bytes with
  | zero => omega
  | succ fuel ih =>
      obtain ⟨fuel', rfl⟩ : ∃ n, fuel' = n + 1 := ⟨fuel' - 1, by omega⟩
      rw [loop, loop]
      cases here : step state bytes with
      | error e => rfl
      | ok took =>
          obtain ⟨next, rest⟩ := took
          cases next with
          | done result => rfl
          | again next =>
              have less := shorter reads progress here
              exact ih (by omega) (by omega)

theorem loop_reads {fuel : Nat} {state : S} {bytes rest : List B} {result : R} (enough : bytes.length < fuel) :
    loop stuck step fuel state bytes = .ok (result, rest) ↔
      ∃ text, Steps code state result text ∧ bytes = text ++ rest := by
  constructor
  · intro done
    clear enough
    induction fuel generalizing state bytes with
    | zero => cases done
    | succ fuel ih =>
        rw [loop] at done
        obtain ⟨⟨next, later⟩, here, there⟩ := Fallible.bind_ok.mp done
        obtain ⟨text, written, rfl⟩ := (reads state).mp here
        cases next with
        | done result' =>
            cases there
            exact ⟨text, .done written, rfl⟩
        | again next =>
            obtain ⟨more, steps, rfl⟩ := ih there
            exact ⟨text ++ more, .again written steps, (List.append_assoc _ _ _).symm⟩
  · rintro ⟨text, steps, rfl⟩
    induction steps generalizing fuel with
    | @done state result text written =>
        obtain ⟨fuel, rfl⟩ : ∃ n, fuel = n + 1 := ⟨fuel - 1, by omega⟩
        rw [loop, (reads state).accepts written]
        rfl
    | @again state next result text later written _ ih =>
        obtain ⟨fuel, rfl⟩ : ∃ n, fuel = n + 1 := ⟨fuel - 1, by omega⟩
        have positive := List.length_pos_iff.mpr (progress state next text written)
        have less : (later ++ rest).length < fuel := by
          simp only [List.length_append] at enough ⊢
          omega
        rw [List.append_assoc, loop, (reads state).accepts written]
        exact ih less

/-- The loop with the fuel that its bytes need. -/
theorem loop_reads_all (state : S) :
    Reads (fun bytes => loop stuck step (bytes.length + 1) state bytes) (Steps code state) :=
  fun _ _ _ => loop_reads reads progress (Nat.lt_succ_self _)

end Loops

end Reading
