import Mathlib.Algebra.GroupWithZero.Nat
import Mathlib.Tactic.Common

/-! # Slices of a text

A text has a size in bytes of UTF-8. A slice begins and ends where a character begins.
-/

namespace Utf8

/-- The number of bytes. -/
def size (text : List Char) : Nat := (text.map Char.utf8Size).sum

/-- A character begins at the index, or the text ends there. -/
def isBoundary : List Char → Nat → Bool
  | _, 0 => true
  | [], _ + 1 => false
  | c :: rest, index + 1 => decide (c.utf8Size ≤ index + 1) && isBoundary rest (index + 1 - c.utf8Size)

/-- What begins at an index. -/
def dropBytes : List Char → Nat → List Char
  | text, 0 => text
  | [], _ + 1 => []
  | c :: rest, count + 1 => dropBytes rest (count + 1 - c.utf8Size)

/-- The longest beginning that has no more bytes. -/
def fit : List Char → Nat → List Char
  | [], _ => []
  | c :: rest, count => if c.utf8Size ≤ count then c :: fit rest (count - c.utf8Size) else []

def slice (text : List Char) (start stop : Nat) : List Char := fit (dropBytes text start) (stop - start)

/-! ## Sizes -/

@[simp] theorem size_nil : size [] = 0 := rfl

@[simp] theorem size_cons (c : Char) (rest : List Char) : size (c :: rest) = c.utf8Size + size rest := by
  simp [size]

@[simp] theorem size_append (left right : List Char) : size (left ++ right) = size left + size right := by
  simp [size]

theorem size_flatMap_le {f : Char → List Char} {factor : Nat} {text : List Char}
    (each : ∀ c ∈ text, size (f c) ≤ factor * c.utf8Size) : size (text.flatMap f) ≤ factor * size text := by
  induction text with
  | nil => simp
  | cons c rest ih =>
      rw [List.flatMap_cons, size_append, size_cons, Nat.mul_add]
      exact Nat.add_le_add (each c List.mem_cons_self) (ih fun d member => each d (List.mem_cons_of_mem _ member))

/-! ## Boundaries -/

theorem isBoundary_zero (text : List Char) : isBoundary text 0 = true := by
  cases text <;> rfl

theorem isBoundary_append (before rest : List Char) (index : Nat) :
    isBoundary (before ++ rest) (size before + index) = isBoundary rest index := by
  induction before with
  | nil => rw [List.nil_append, size_nil, Nat.zero_add]
  | cons c before ih =>
      have positive := c.utf8Size_pos
      obtain ⟨total, isTotal⟩ : ∃ total, size (c :: before) + index = total + 1 :=
        ⟨size (c :: before) + index - 1, by rw [size_cons]; omega⟩
      rw [isTotal, List.cons_append, isBoundary, ← isTotal, size_cons]
      have left : c.utf8Size + size before + index - c.utf8Size = size before + index := by omega
      rw [left, ih]
      simp
      omega

theorem dropBytes_zero (text : List Char) : dropBytes text 0 = text := by
  cases text <;> rfl

theorem dropBytes_append (before rest : List Char) : dropBytes (before ++ rest) (size before) = rest := by
  induction before with
  | nil => exact dropBytes_zero rest
  | cons c before ih =>
      have positive := c.utf8Size_pos
      obtain ⟨total, isTotal⟩ : ∃ total, size (c :: before) = total + 1 :=
        ⟨size (c :: before) - 1, by rw [size_cons]; omega⟩
      rw [isTotal, List.cons_append, dropBytes, ← isTotal, size_cons, Nat.add_sub_cancel_left]
      exact ih

/-! ## What fits -/

theorem fit_size_le (text : List Char) (count : Nat) : size (fit text count) ≤ count := by
  induction text generalizing count with
  | nil => exact Nat.zero_le _
  | cons c rest ih =>
      rw [fit]
      split
      · rw [size_cons]
        have tail := ih (count - c.utf8Size)
        omega
      · exact Nat.zero_le _

/-- What does not fit begins with a character that is too long for what is left. -/
theorem fit_rest (text : List Char) (count : Nat) : ∃ rest, text = fit text count ++ rest ∧
    ∀ c after, rest = c :: after → count < size (fit text count) + c.utf8Size := by
  induction text generalizing count with
  | nil => exact ⟨[], rfl, nofun⟩
  | cons c rest ih =>
      rw [fit]
      split
      · rename_i fits
        obtain ⟨after, split, next⟩ := ih (count - c.utf8Size)
        refine ⟨after, ?_, ?_⟩
        · rw [List.cons_append, ← split]
        · intro d more same
          have long := next d more same
          rw [size_cons]
          omega
      · rename_i long
        refine ⟨c :: rest, rfl, ?_⟩
        intro d after same
        cases same
        rw [size_nil]
        omega

/-- The last boundary up to an index is where what fits ends. -/
theorem isBoundary_past (text : List Char) (count index : Nat) (past : size (fit text count) < index)
    (within : index ≤ count) (inside : index ≤ size text) : isBoundary text index = false := by
  obtain ⟨rest, split, next⟩ := fit_rest text count
  obtain ⟨more, rfl⟩ : ∃ more, index = size (fit text count) + (more + 1) := ⟨index - size (fit text count) - 1, by omega⟩
  have here := isBoundary_append (fit text count) rest (more + 1)
  rw [← split] at here
  rw [here]
  cases rest with
  | nil => rfl
  | cons c after =>
      have long := next c after rfl
      rw [isBoundary]
      have short : ¬c.utf8Size ≤ more + 1 := by omega
      simp [short]

theorem isBoundary_fit (text : List Char) (count : Nat) : isBoundary text (size (fit text count)) = true := by
  obtain ⟨rest, split, _⟩ := fit_rest text count
  have here := isBoundary_append (fit text count) rest 0
  rw [← split, Nat.add_zero, isBoundary_zero] at here
  exact here

theorem fit_append (before rest : List Char) : fit (before ++ rest) (size before) = before := by
  induction before with
  | nil =>
      cases rest with
      | nil => rfl
      | cons c rest =>
          have positive := c.utf8Size_pos
          rw [List.nil_append, fit, size_nil, if_neg (by omega)]
  | cons c before ih =>
      rw [List.cons_append, fit, size_cons, if_pos (Nat.le_add_right _ _), Nat.add_sub_cancel_left, ih]

theorem slice_middle (before piece after : List Char) :
    slice (before ++ (piece ++ after)) (size before) (size before + size piece) = piece := by
  rw [slice, dropBytes_append, Nat.add_sub_cancel_left]
  exact fit_append piece after

end Utf8
