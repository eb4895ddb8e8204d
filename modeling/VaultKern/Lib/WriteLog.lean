import Mathlib.Data.List.Basic
import VaultKern.Lib.Attempt

/-! # What a computation writes

A state keeps a log of what was written. There is a rule for each construct that says what is added to the
log, which invariant holds all the time and what is returned.
-/

namespace Attempt

variable {E S W A B C : Type}

/-- From a state with the invariant everything that is added to the log is allowed, the invariant holds again,
and a result is of a kind. -/
structure Logs (log : S → List W) (keeps : S → Prop) (allowed : W → Prop) (returns : A → Prop) (m : Attempt E S A) :
    Prop where
  kept : ∀ s, keeps s → keeps (m s).2
  logged : ∀ s, keeps s → ∃ more, log (m s).2 = log s ++ more ∧ ∀ w ∈ more, allowed w
  result : ∀ s, keeps s → ∀ a, (m s).1 = .ok a → returns a

namespace Logs

variable {log : S → List W} {keeps : S → Prop} {allowed : W → Prop} {returns : A → Prop} {returns' : B → Prop}

/-- The state changes in nothing that matters. -/
theorem quiet {m : Attempt E S A} (kept : ∀ s, keeps s → keeps (m s).2) (same : ∀ s, log (m s).2 = log s)
    (result : ∀ s, keeps s → ∀ a, (m s).1 = .ok a → returns a) : Logs log keeps allowed returns m where
  kept := kept
  logged s _ := ⟨[], by rw [same, List.append_nil], fun _ member => absurd member List.not_mem_nil⟩
  result := result

theorem pure {a : A} (good : returns a) : Logs log keeps allowed returns (pure a : Attempt E S A) :=
  quiet (fun _ keeps => keeps) (fun _ => rfl) fun _ _ _ same => Except.ok.inj same ▸ good

theorem fail (e : E) : Logs log keeps allowed returns (fail e : Attempt E S A) :=
  quiet (fun _ keeps => keeps) (fun _ => rfl) fun _ _ _ same => by cases same

theorem require {e : E} {value : Option A} (good : ∀ a, value = some a → returns a) :
    Logs log keeps allowed returns (require e value : Attempt E S A) := by
  cases value with
  | none => exact fail e
  | some a => exact pure (good a rfl)

theorem ensure (condition : Bool) (e : E) :
    Logs log keeps allowed (fun _ => condition = true) (ensure condition e : Attempt E S Unit) := by
  cases condition with
  | false => exact fail e
  | true => exact pure rfl

theorem mono {weaker : A → Prop} {m : Attempt E S A} (logs : Logs log keeps allowed returns m)
    (weaken : ∀ a, returns a → weaker a) : Logs log keeps allowed weaker m where
  kept := logs.kept
  logged := logs.logged
  result s good a same := weaken a (logs.result s good a same)

theorem any {m : Attempt E S A} (logs : Logs log keeps allowed returns m) :
    Logs log keeps allowed (fun _ => True) m := logs.mono fun _ _ => trivial

theorem bind {m : Attempt E S A} {next : A → Attempt E S B} (first : Logs log keeps allowed returns m)
    (rest : ∀ a, returns a → Logs log keeps allowed returns' (next a)) :
    Logs log keeps allowed returns' (m >>= next) := by
  have split : ∀ s, (∃ e, (m >>= next) s = (.error e, (m s).2)) ∨
      ∃ a, (m s).1 = .ok a ∧ (m >>= next) s = next a (m s).2 := by
    intro s
    rw [bind_run]
    cases m s with
    | mk result left =>
        cases result with
        | error e => exact .inl ⟨e, rfl⟩
        | ok a => exact .inr ⟨a, rfl, rfl⟩
  constructor
  · intro s good
    rcases split s with ⟨e, same⟩ | ⟨a, ok, same⟩
    · rw [same]
      exact first.kept s good
    · rw [same]
      exact (rest a (first.result s good a ok)).kept _ (first.kept s good)
  · intro s good
    obtain ⟨more, whole, each⟩ := first.logged s good
    rcases split s with ⟨e, same⟩ | ⟨a, ok, same⟩
    · rw [same]
      exact ⟨more, whole, each⟩
    · obtain ⟨more', whole', each'⟩ := (rest a (first.result s good a ok)).logged _ (first.kept s good)
      rw [same]
      refine ⟨more ++ more', by rw [whole', whole, List.append_assoc], fun w member => ?_⟩
      exact (List.mem_append.mp member).elim (each w) (each' w)
  · intro s good b done
    rcases split s with ⟨e, same⟩ | ⟨a, ok, same⟩
    · rw [same] at done
      cases done
    · rw [same] at done
      exact (rest a (first.result s good a ok)).result _ (first.kept s good) b done

/-- The next step where nothing is known of the result. -/
theorem andThen {m : Attempt E S A} {next : A → Attempt E S B} (first : Logs log keeps allowed (fun _ => True) m)
    (rest : ∀ a, Logs log keeps allowed returns' (next a)) : Logs log keeps allowed returns' (m >>= next) :=
  first.bind fun a _ => rest a

theorem ite {condition : Prop} [Decidable condition] {m m' : Attempt E S A}
    (yes : condition → Logs log keeps allowed returns m) (no : ¬condition → Logs log keeps allowed returns m') :
    Logs log keeps allowed returns (if condition then m else m') := by
  split
  · rename_i holds
    exact yes holds
  · rename_i fails
    exact no fails

theorem mapM {f : A → Attempt E S B} {list : List A} (each : ∀ a ∈ list, Logs log keeps allowed returns' (f a)) :
    Logs log keeps allowed (fun results => ∀ b ∈ results, returns' b) (list.mapM f) := by
  induction list with
  | nil =>
      rw [List.mapM_nil]
      exact pure fun _ member => absurd member List.not_mem_nil
  | cons a rest ih =>
      rw [List.mapM_cons]
      refine (each a List.mem_cons_self).bind fun b good => ?_
      refine (ih fun a member => each a (List.mem_cons_of_mem _ member)).bind fun others all => ?_
      refine pure fun c member => ?_
      rcases List.mem_cons.mp member with rfl | later
      · exact good
      · exact all c later

theorem forM {f : A → Attempt E S PUnit} {list : List A}
    (each : ∀ a ∈ list, Logs log keeps allowed (fun _ => True) (f a)) :
    Logs log keeps allowed (fun _ => True) (list.forM f) := by
  induction list with
  | nil => exact pure trivial
  | cons a rest ih =>
      exact (each a List.mem_cons_self).andThen fun _ => ih fun a member => each a (List.mem_cons_of_mem _ member)

end Logs

end Attempt
