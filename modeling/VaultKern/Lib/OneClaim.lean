import Mathlib.Data.List.Basic
import Mathlib.Logic.Function.Basic
import Mathlib.Logic.Relation

/-! # Claims that are made once

Things that are fresh, may be started once and may be claimed once, by parties that each do one of the
two. A claim closes a thing for good, and a party may tell with it whether the thing was started. Things
can be closed without a claim.
-/

namespace OneClaim

inductive Phase where
  | fresh | running | closed
  deriving DecidableEq

variable {R T : Type}

structure State (R T : Type) where
  /-- The phase of a thing that exists. -/
  phase : R → Option Phase
  /-- What a party has started. -/
  begun : T → Option R
  /-- What a party has claimed, and what it tells. -/
  won : T → Option (R × Option Bool)

/-- One step of one party. -/
inductive Effect [DecidableEq R] [DecidableEq T] (s : State R T) : State R T → Prop where
  | quiet : Effect s s
  | born (r : R) : s.phase r = none → Effect s { s with phase := Function.update s.phase r (some .fresh) }
  | start (t : T) (r : R) : s.phase r = some .fresh → s.begun t = none →
      Effect s { s with
        phase := Function.update s.phase r (some .running)
        begun := Function.update s.begun t (some r) }
  | claim (t : T) (r : R) (phase : Phase) (told : Option Bool) : s.phase r = some phase → phase ≠ .closed →
      (∀ started ∈ told, started = decide (phase = .running)) → s.won t = none →
      Effect s { s with
        phase := Function.update s.phase r (some .closed)
        won := Function.update s.won t (some (r, told)) }
  | close (r : R) : s.phase r ≠ none → Effect s { s with phase := Function.update s.phase r (some .closed) }

structure Once (s : State R T) : Prop where
  closed : ∀ t r told, s.won t = some (r, told) → s.phase r = some .closed
  once : ∀ t t' r told told', s.won t = some (r, told) → s.won t' = some (r, told') → t = t'
  begun : ∀ t r, s.begun t = some r → s.phase r = some .running ∨ s.phase r = some .closed
  startOnce : ∀ t t' r, s.begun t = some r → s.begun t' = some r → t = t'
  running : ∀ r, s.phase r = some .running → ∃ t, s.begun t = some r
  told : ∀ t r started, s.won t = some (r, some started) → (started = true ↔ ∃ t', s.begun t' = some r)

/-- Nothing exists, and nobody has done anything. -/
theorem Once.initial {start : State R T} (phases : ∀ r, start.phase r = none) (begun : ∀ t, start.begun t = none)
    (won : ∀ t, start.won t = none) : Once start := by
  constructor <;> simp [phases, begun, won]

variable [DecidableEq R] [DecidableEq T] {s s' : State R T}

/-- What is closed stays closed, and is not started any more. -/
theorem Effect.closed_stays (effect : Effect s s') {r : R} (closed : s.phase r = some .closed) :
    s'.phase r = some .closed ∧ ∀ t, s'.begun t = some r → s.begun t = some r := by
  cases effect with
  | quiet => exact ⟨closed, fun _ begun => begun⟩
  | born q absent =>
      have other : r ≠ q := by
        rintro rfl
        rw [absent] at closed
        cases closed
      exact ⟨by simp [Function.update_of_ne other, closed], fun _ begun => begun⟩
  | start t q fresh _ =>
      have other : r ≠ q := by
        rintro rfl
        rw [fresh] at closed
        cases closed
      refine ⟨by simp [Function.update_of_ne other, closed], fun t' begun => ?_⟩
      by_cases same : t' = t
      · subst same
        simp only [Function.update_self, Option.some.injEq] at begun
        exact absurd begun.symm other
      · simpa [Function.update_of_ne same] using begun
  | claim t q phase told _ _ _ _ =>
      refine ⟨?_, fun _ begun => begun⟩
      by_cases same : r = q
      · simp [same]
      · simp [Function.update_of_ne same, closed]
  | close q _ =>
      refine ⟨?_, fun _ begun => begun⟩
      by_cases same : r = q
      · simp [same]
      · simp [Function.update_of_ne same, closed]

theorem Once.step (once : Once s) (effect : Effect s s') : Once s' := by
  obtain ⟨closed, unique, begun, startOnce, running, told⟩ := once
  cases effect with
  | quiet => exact ⟨closed, unique, begun, startOnce, running, told⟩
  | born r absent =>
      -- Nobody has started or claimed what did not exist.
      constructor <;> simp only [Function.update_apply] <;> grind
  | start t r fresh idle =>
      constructor <;> simp only [Function.update_apply] <;> grind
  | claim t r phase tells here notClosed truthful idle =>
      -- What is told of a thing is whether it ran when it was claimed.
      have own : ∀ started, tells = some started → (started = true ↔ ∃ t', s.begun t' = some r) := by
        intro started same
        rw [truthful started same, decide_eq_true_eq]
        constructor
        · rintro rfl
          exact running r here
        · rintro ⟨t', start⟩
          rcases begun t' r start with runs | gone
          · exact Option.some.inj (here.symm.trans runs)
          · exact absurd (Option.some.inj (here.symm.trans gone)) notClosed
      constructor <;> simp only [Function.update_apply] <;> grind
  | close r exists_ =>
      constructor <;> simp only [Function.update_apply] <;> grind

end OneClaim
