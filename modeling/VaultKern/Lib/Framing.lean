import Mathlib.Data.List.Forall2
import VaultKern.Lib.Fallible

/-! # Self-delimiting codes

A code relates values to the texts that stand for them. It delimits when a value can be told
from any list that starts with one of its texts, whatever follows. Codes that delimit can be
written one after another and taken apart again.
-/

namespace Framing

variable {A B C E : Type}

def Delimits (code : A → List B → Prop) : Prop :=
  ∀ ⦃a b s t x y⦄, code a s → code b t → s ++ x = t ++ y → a = b ∧ x = y

/-- A text stands for one value. -/
def Unambiguous (code : A → List B → Prop) : Prop := ∀ ⦃a b s⦄, code a s → code b s → a = b

/-- Texts of one length delimit. -/
theorem Unambiguous.delimits {code : A → List B → Prop} (unique : Unambiguous code) (width : Nat)
    (sized : ∀ a s, code a s → s.length = width) : Delimits code := by
  intro a b s t x y first second same
  obtain ⟨texts, rests⟩ := List.append_inj same ((sized a s first).trans (sized b t second).symm)
  rw [texts] at first
  exact ⟨unique first second, rests⟩

theorem Delimits.mono {code narrow : A → List B → Prop} (delimits : Delimits code)
    (inside : ∀ a s, narrow a s → code a s) : Delimits narrow := by
  intro a b s t x y first second same
  exact delimits (inside a s first) (inside b t second) same

/-! ## Composite codes -/

/-- A text behind its length. -/
def Headed (header : Nat → List B → Prop) (payload : A → List B → Prop) (a : A) (s : List B) : Prop :=
  ∃ u v, header v.length u ∧ payload a v ∧ s = u ++ v

theorem Delimits.headed {header : Nat → List B → Prop} {payload : A → List B → Prop} (counts : Delimits header)
    (unique : Unambiguous payload) : Delimits (Headed header payload) := by
  rintro a b s t x y ⟨u, v, hu, hv, rfl⟩ ⟨u', v', hu', hv', rfl⟩ same
  rw [List.append_assoc, List.append_assoc] at same
  obtain ⟨lengths, later⟩ := counts hu hu' same
  obtain ⟨texts, rests⟩ := List.append_inj later lengths
  rw [texts] at hv
  exact ⟨unique hv hv', rests⟩

/-- A symbol that says whether a value follows. -/
def Optional (absent present : B) (code : A → List B → Prop) : Option A → List B → Prop
  | none, s => s = [absent]
  | some a, s => ∃ t, code a t ∧ s = present :: t

theorem Delimits.optional {code : A → List B → Prop} (delimits : Delimits code) (absent present : B)
    (apart : absent ≠ present) : Delimits (Optional absent present code) := by
  intro a b s t x y first second same
  cases a with
  | none =>
      cases first
      cases b with
      | none =>
          cases second
          exact ⟨rfl, (List.cons.inj same).2⟩
      | some b =>
          obtain ⟨t', _, rfl⟩ := second
          exact absurd (List.cons.inj same).1 apart
  | some a =>
      obtain ⟨s', here, rfl⟩ := first
      cases b with
      | none =>
          cases second
          exact absurd (List.cons.inj same).1.symm apart
      | some b =>
          obtain ⟨t', there, rfl⟩ := second
          obtain ⟨values, rests⟩ := delimits here there (List.cons.inj same).2
          exact ⟨congrArg some values, rests⟩

/-- Texts of the members of a list, one after another. -/
inductive Items (code : A → List B → Prop) : List A → List B → Prop where
  | nil : Items code [] []
  | cons {a s rest t} : code a s → Items code rest t → Items code (a :: rest) (s ++ t)

theorem Items.split {code : A → List B → Prop} (delimits : Delimits code) {as bs : List A} {s t x y : List B}
    (first : Items code as s) (second : Items code bs t) (lengths : as.length = bs.length) (same : s ++ x = t ++ y) :
    as = bs ∧ x = y := by
  induction first generalizing bs t with
  | nil =>
      cases second with
      | nil => exact ⟨rfl, same⟩
      | cons => cases lengths
  | cons here _ ih =>
      cases second with
      | nil => cases lengths
      | cons there later =>
          rw [List.append_assoc, List.append_assoc] at same
          obtain ⟨values, same⟩ := delimits here there same
          obtain ⟨others, rests⟩ := ih later (Nat.succ.inj lengths) same
          exact ⟨congrArg₂ List.cons values others, rests⟩

/-- Texts that are not empty show where the list ends. -/
theorem Items.unique {code : A → List B → Prop} (delimits : Delimits code) (visible : ∀ a s, code a s → s ≠ [])
    {as bs : List A} {s t : List B} (first : Items code as s) (second : Items code bs t) (same : s = t) : as = bs := by
  induction first generalizing bs t with
  | nil =>
      cases second with
      | nil => rfl
      | cons there _ => exact absurd (List.append_eq_nil_iff.mp same.symm).1 (visible _ _ there)
  | cons here _ ih =>
      cases second with
      | nil => exact absurd (List.append_eq_nil_iff.mp same).1 (visible _ _ here)
      | cons there later =>
          obtain ⟨values, rests⟩ := delimits here there same
          exact congrArg₂ List.cons values (ih later rests)

/-- The texts of a list that is written member by member. -/
theorem Items.flatMap {code : A → List B → Prop} {write : A → List B} {as : List A} (each : ∀ a ∈ as, code a (write a)) :
    Items code as (as.flatMap write) := by
  induction as with
  | nil => exact .nil
  | cons a rest ih =>
      rw [List.flatMap_cons]
      exact .cons (each a List.mem_cons_self) (ih fun b member => each b (List.mem_cons_of_mem a member))

/-- A list behind the number of its members. -/
def Counted (header : Nat → List B → Prop) (code : A → List B → Prop) (as : List A) (s : List B) : Prop :=
  ∃ u v, header as.length u ∧ Items code as v ∧ s = u ++ v

theorem Delimits.counted {header : Nat → List B → Prop} {code : A → List B → Prop} (counts : Delimits header)
    (delimits : Delimits code) : Delimits (Counted header code) := by
  rintro as bs s t x y ⟨u, v, hu, hv, rfl⟩ ⟨u', v', hu', hv', rfl⟩ same
  rw [List.append_assoc, List.append_assoc] at same
  obtain ⟨lengths, later⟩ := counts hu hu' same
  exact hv.split delimits hv' lengths later

/-! ## Writers -/

/-- The code that a function writes, of the values that it is for. -/
def Writes (valid : A → Prop) (write : A → Except E (List B)) (a : A) (s : List B) : Prop :=
  valid a ∧ write a = .ok s

/-- One text after another, unless one of them cannot be written. -/
def writeAll : List (Except E (List B)) → Except E (List B)
  | [] => .ok []
  | write :: rest => do
      let text ← write
      let later ← writeAll rest
      return text ++ later

theorem writeAll_cons {write : Except E (List B)} {rest : List (Except E (List B))} {s : List B} :
    writeAll (write :: rest) = .ok s ↔ ∃ u v, write = .ok u ∧ writeAll rest = .ok v ∧ s = u ++ v := by
  rw [writeAll]
  constructor
  · intro written
    obtain ⟨u, here, written⟩ := Fallible.bind_ok.mp written
    obtain ⟨v, later, written⟩ := Fallible.bind_ok.mp written
    cases written
    exact ⟨u, v, here, later, rfl⟩
  · rintro ⟨u, v, rfl, later, rfl⟩
    rw [Fallible.ok_bind, later]
    rfl

theorem writeAll_total (writes : List (Except E (List B))) : (writeAll writes).toBool = writes.all Except.toBool := by
  induction writes with
  | nil => rfl
  | cons write rest ih =>
      rw [writeAll, List.all_cons, ← ih]
      cases write with
      | error e => rfl
      | ok text => cases writeAll rest <;> rfl

theorem writeAll_items {valid : A → Prop} {write : A → Except E (List B)} {as : List A} {s : List B}
    (each : ∀ a ∈ as, valid a) (written : writeAll (as.map write) = .ok s) : Items (Writes valid write) as s := by
  induction as generalizing s with
  | nil =>
      cases written
      exact .nil
  | cons a rest ih =>
      rw [List.map_cons, writeAll_cons] at written
      obtain ⟨u, v, here, later, rfl⟩ := written
      have others := ih (fun b member => each b (List.mem_cons_of_mem a member)) later
      exact .cons ⟨each a List.mem_cons_self, here⟩ others

/-- Two rows of writers, and texts behind them, that come to one text. -/
def Agree (first second : List (Except E (List B))) (x y : List B) : Prop :=
  ∃ s t, writeAll first = .ok s ∧ writeAll second = .ok t ∧ s ++ x = t ++ y

theorem Agree.nil {x y : List B} (agree : Agree ([] : List (Except E (List B))) [] x y) : x = y := by
  obtain ⟨s, t, left, right, same⟩ := agree
  cases left
  cases right
  exact same

/-- What delimits itself is equal in both, and what is behind it still agrees. -/
theorem Agree.peel {valid : A → Prop} {write : A → Except E (List B)} (delimits : Delimits (Writes valid write))
    {a b : A} {first second : List (Except E (List B))} {x y : List B}
    (agree : Agree (write a :: first) (write b :: second) x y) (left : valid a) (right : valid b) :
    a = b ∧ Agree first second x y := by
  obtain ⟨s, t, written, writtenToo, same⟩ := agree
  obtain ⟨u, v, here, later, rfl⟩ := writeAll_cons.mp written
  obtain ⟨u', v', there, laterToo, rfl⟩ := writeAll_cons.mp writtenToo
  rw [List.append_assoc, List.append_assoc] at same
  obtain ⟨values, rests⟩ := delimits ⟨left, here⟩ ⟨right, there⟩ same
  exact ⟨values, v, v', later, laterToo, rests⟩

/-- A row of writers delimits when the values can be told from rows that agree. -/
theorem delimits_row {valid : A → Prop} {row : A → List (Except E (List B))}
    (told : ∀ {a b x y}, valid a → valid b → Agree (row a) (row b) x y → a = b ∧ x = y) :
    Delimits (Writes valid fun a => writeAll (row a)) := by
  rintro a b s t x y ⟨left, here⟩ ⟨right, there⟩ same
  exact told left right ⟨s, t, here, there, same⟩

end Framing
