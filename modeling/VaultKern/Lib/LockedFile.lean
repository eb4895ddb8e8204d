import Mathlib.Data.List.Basic
import Mathlib.Logic.Function.Basic

/-! # One file, several owners

Owners read a file, decide what it is to hold and replace it, under a lock that one of them holds at a
time. A replacement may report a failure after the new file is in place. Whatever the order of their
steps, the file goes through the operations one after the other.
-/

namespace LockedFile

variable {Op Data : Type}

/-- What an operation makes of the contents it reads. -/
inductive Decision (Data : Type) where
  | refuses | keeps
  | replaces (next : Data)

inductive Pc (Op Data : Type) where
  | idle
  | locked (op : Op)
  /-- Before the replacement; what an operation does outside the file it does here. -/
  | holding (op : Op) (read next : Data)

inductive Outcome where
  | failed | kept | replaced
  /-- The new file is in place and the owner is told of a failure. -/
  | unsure
  deriving DecidableEq

structure World (Op Data : Type) where
  file : Data
  lock : Option Nat
  owners : Nat → Pc Op Data
  /-- What each owner remembers of the file. -/
  kept : Nat → Data

namespace World

variable (w : World Op Data) (owner : Nat)

def go (pc : Pc Op Data) : World Op Data := { w with owners := Function.update w.owners owner pc }

def take (op : Op) : World Op Data := go { w with lock := some owner } owner (.locked op)

def leave : World Op Data := go { w with lock := none } owner .idle

def remember (data : Data) : World Op Data := { w with kept := Function.update w.kept owner data }

def replace (next : Data) : World Op Data := { w with file := next }

/-- Nobody is at work. -/
def Quiet : Prop := w.lock = none ∧ ∀ owner, w.owners owner = .idle

end World

variable {decision : Op → Data → Decision Data} {w w' start : World Op Data}

/-- One step of one owner, and the operation it ends. -/
inductive Step (decision : Op → Data → Decision Data) (w : World Op Data) (owner : Nat) :
    Option (Op × Outcome) → World Op Data → Prop where
  | turnedAway (op : Op) : w.owners owner = .idle → Step decision w owner (some (op, .failed)) w
  | locks (op : Op) : w.owners owner = .idle → w.lock = none → Step decision w owner none (w.take owner op)
  | unread {op : Op} : w.owners owner = .locked op → Step decision w owner (some (op, .failed)) (w.leave owner)
  | refused {op : Op} : w.owners owner = .locked op → decision op w.file = .refuses →
      Step decision w owner (some (op, .failed)) (w.leave owner)
  | unchanged {op : Op} : w.owners owner = .locked op → decision op w.file = .keeps →
      Step decision w owner (some (op, .kept)) ((w.remember owner w.file).leave owner)
  | decided {op : Op} {next : Data} : w.owners owner = .locked op → decision op w.file = .replaces next →
      Step decision w owner none (w.go owner (.holding op w.file next))
  | stopped {op : Op} {read next : Data} : w.owners owner = .holding op read next →
      Step decision w owner (some (op, .failed)) (w.leave owner)
  | unsure {op : Op} {read next : Data} : w.owners owner = .holding op read next →
      Step decision w owner (some (op, .unsure)) ((w.replace next).leave owner)
  | replaced {op : Op} {read next : Data} : w.owners owner = .holding op read next →
      Step decision w owner (some (op, .replaced)) (((w.replace next).remember owner next).leave owner)

/-- Steps of any owners in any order, with the operations in the order they end. -/
inductive Run (decision : Op → Data → Decision Data) (start : World Op Data) :
    List (Op × Outcome) → World Op Data → Prop where
  | start : Run decision start [] start
  | step {events : List (Op × Outcome)} {w w' : World Op Data} {owner : Nat} {event : Option (Op × Outcome)} :
      Run decision start events w → Step decision w owner event w' →
      Run decision start (events ++ event.toList) w'

/-! ## What a step does to the file -/

/-- An operation as a whole. -/
inductive Whole (decision : Op → Data → Decision Data) (data : Data) : Op × Outcome → Data → Prop where
  | failed (op : Op) : Whole decision data (op, .failed) data
  | kept {op : Op} : decision op data = .keeps → Whole decision data (op, .kept) data
  | unsure {op : Op} {next : Data} : decision op data = .replaces next → Whole decision data (op, .unsure) next
  | replaced {op : Op} {next : Data} : decision op data = .replaces next → Whole decision data (op, .replaced) next

/-- Operations one after the other. -/
inductive Serial (decision : Op → Data → Decision Data) (data : Data) : List (Op × Outcome) → Data → Prop where
  | nil : Serial decision data [] data
  | snoc {events : List (Op × Outcome)} {event : Op × Outcome} {middle next : Data} :
      Serial decision data events middle → Whole decision middle event next →
      Serial decision data (events ++ [event]) next

/-- The lock belongs to whoever is at work, and what that owner has read is still there. -/
structure Sound (decision : Op → Data → Decision Data) (w : World Op Data) : Prop where
  holder : ∀ owner, w.owners owner ≠ .idle → w.lock = some owner
  read : ∀ owner op read next, w.owners owner = .holding op read next →
    read = w.file ∧ decision op read = .replaces next

theorem World.Quiet.sound (quiet : start.Quiet) : Sound decision start where
  holder owner busy := absurd (quiet.2 owner) busy
  read owner op read next holding := by
    rw [quiet.2 owner] at holding
    cases holding

theorem go_self (owner : Nat) (pc : Pc Op Data) : (w.go owner pc).owners owner = pc := Function.update_self _ _ _

theorem go_other {owner other : Nat} (apart : other ≠ owner) (pc : Pc Op Data) :
    (w.go owner pc).owners other = w.owners other := Function.update_of_ne apart _ _

namespace Sound

variable {owner : Nat}

/-- Nobody else is at work beside the holder of the lock. -/
theorem alone (sound : Sound decision w) (busy : w.owners owner ≠ .idle) {other : Nat} (apart : other ≠ owner) :
    w.owners other = .idle := by
  by_contra working
  have first := sound.holder owner busy
  rw [sound.holder other working] at first
  exact apart (Option.some.inj first)

/-- Nobody is at work when the lock is free. -/
theorem resting (sound : Sound decision w) (free : w.lock = none) (other : Nat) : w.owners other = .idle := by
  by_contra working
  have held := sound.holder other working
  rw [free] at held
  cases held

/-- The owner that works goes on. -/
theorem goes (others : ∀ other, other ≠ owner → w.owners other = .idle) (held : w.lock = some owner) {pc : Pc Op Data}
    (read : ∀ op read next, pc = .holding op read next → read = w.file ∧ decision op read = .replaces next) :
    Sound decision (w.go owner pc) where
  holder other busy := by
    by_cases same : other = owner
    · subst same
      exact held
    · rw [go_other same, others other same] at busy
      exact absurd rfl busy
  read other op seen next holding := by
    by_cases same : other = owner
    · subst same
      rw [go_self] at holding
      exact read op seen next holding
    · rw [go_other same, others other same] at holding
      cases holding

/-- The owner that works leaves. -/
theorem leaves (others : ∀ other, other ≠ owner → w.owners other = .idle) : (w.leave owner).Quiet := by
  constructor
  · rfl
  · intro other
    by_cases same : other = owner
    · subst same
      exact go_self _ _
    · exact (go_other same _).trans (others other same)

theorem step (sound : Sound decision w) {event : Option (Op × Outcome)} (step : Step decision w owner event w') :
    Sound decision w' := by
  have others : w.owners owner ≠ .idle → ∀ other, other ≠ owner → w.owners other = .idle :=
    fun busy _ apart => sound.alone busy apart
  cases step with
  | turnedAway op idle => exact sound
  | locks op idle free =>
      have resting := sound.resting free
      apply goes (w := { w with lock := some owner }) (fun other _ => resting other) rfl
      intro op' read next holding
      cases holding
  | unread here => exact (leaves (others (by rw [here]; nofun))).sound
  | refused here _ => exact (leaves (others (by rw [here]; nofun))).sound
  | unchanged here _ => exact (leaves (w := w.remember owner w.file) (others (by rw [here]; nofun))).sound
  | @decided op next here decided =>
      have busy : w.owners owner ≠ .idle := by rw [here]; nofun
      apply goes (others busy) (sound.holder owner busy)
      intro op' read next' holding
      cases holding
      exact ⟨rfl, decided⟩
  | stopped here => exact (leaves (others (by rw [here]; nofun))).sound
  | @unsure op read next here => exact (leaves (w := w.replace next) (others (by rw [here]; nofun))).sound
  | @replaced op read next here =>
      exact (leaves (w := (w.replace next).remember owner next) (others (by rw [here]; nofun))).sound

/-- A step that ends an operation does to the file what the operation does as a whole; no other step
touches the file. -/
theorem whole (sound : Sound decision w) {event : Option (Op × Outcome)} (step : Step decision w owner event w') :
    (event = none → w'.file = w.file) ∧ ∀ ended ∈ event, Whole decision w.file ended w'.file := by
  cases step with
  | turnedAway op _ => exact ⟨nofun, fun | _, rfl => .failed op⟩
  | locks op _ _ => exact ⟨fun _ => rfl, nofun⟩
  | @unread op _ => exact ⟨nofun, fun | _, rfl => .failed op⟩
  | @refused op _ _ => exact ⟨nofun, fun | _, rfl => .failed op⟩
  | unchanged _ keeps => exact ⟨nofun, fun | _, rfl => .kept keeps⟩
  | decided _ _ => exact ⟨fun _ => rfl, nofun⟩
  | @stopped op _ _ _ => exact ⟨nofun, fun | _, rfl => .failed op⟩
  | unsure here =>
      obtain ⟨rfl, decided⟩ := sound.read _ _ _ _ here
      exact ⟨nofun, fun | _, rfl => .unsure decided⟩
  | replaced here =>
      obtain ⟨rfl, decided⟩ := sound.read _ _ _ _ here
      exact ⟨nofun, fun | _, rfl => .replaced decided⟩

end Sound

/-! ## Runs -/

theorem Run.sound {events : List (Op × Outcome)} (quiet : start.Quiet) (run : Run decision start events w) :
    Sound decision w := by
  induction run with
  | start => exact quiet.sound
  | step _ step ih => exact ih.step step

/-- Any interleaving is a serial execution. -/
theorem Run.serial {events : List (Op × Outcome)} (quiet : start.Quiet) (run : Run decision start events w) :
    Serial decision start.file events w.file := by
  induction run with
  | start => exact .nil
  | @step events w w' owner event earlier step ih =>
      have whole := (earlier.sound quiet).whole step
      cases event with
      | none =>
          rw [whole.1 rfl, Option.toList_none, List.append_nil]
          exact ih
      | some ended => exact .snoc ih (whole.2 ended rfl)

/-- An owner that nobody disturbs carries an operation through. -/
theorem Run.perform {events : List (Op × Outcome)} {op : Op} {next : Data} {outcome : Outcome}
    (run : Run decision start events w) (quiet : w.Quiet) (owner : Nat) (decided : decision op w.file = .replaces next)
    (wrote : outcome = .replaced ∨ outcome = .unsure) :
    ∃ w', Run decision start (events ++ [(op, outcome)]) w' ∧ w'.Quiet ∧ w'.file = next := by
  have locked := run.step (.locks op (quiet.2 owner) quiet.1)
  have holding := locked.step (.decided (go_self owner (.locked op)) decided)
  rw [Option.toList_none, List.append_nil, List.append_nil] at holding
  have others : ∀ other, other ≠ owner →
      ((w.take owner op).go owner (.holding op w.file next)).owners other = .idle := by
    intro other apart
    rw [go_other apart]
    exact (go_other apart _).trans (quiet.2 other)
  rcases wrote with rfl | rfl
  · exact ⟨_, holding.step (.replaced (go_self owner _)), Sound.leaves others, rfl⟩
  · exact ⟨_, holding.step (.unsure (go_self owner _)), Sound.leaves others, rfl⟩

variable {Inv : Data → Prop} {data next : Data}

theorem Whole.failed_same {op : Op} (whole : Whole decision data (op, .failed) next) : next = data := by
  cases whole
  rfl

theorem Whole.unsure_replaces {op : Op} (whole : Whole decision data (op, .unsure) next) :
    decision op data = .replaces next := by
  cases whole with
  | unsure decided => exact decided

theorem Whole.same_or_replaces {op : Op} {outcome : Outcome} (whole : Whole decision data (op, outcome) next) :
    next = data ∨ decision op data = .replaces next := by
  cases whole with
  | failed op => exact .inl rfl
  | kept _ => exact .inl rfl
  | unsure decided => exact .inr decided
  | replaced decided => exact .inr decided

theorem Whole.keeps {event : Op × Outcome} (whole : Whole decision data event next)
    (preserved : ∀ op next, decision op data = .replaces next → Inv next) (inv : Inv data) : Inv next := by
  cases whole with
  | failed op => exact inv
  | kept _ => exact inv
  | unsure decided => exact preserved _ _ decided
  | replaced decided => exact preserved _ _ decided

/-- What every replacement keeps holds after any operations. -/
theorem Serial.keeps {events : List (Op × Outcome)} (serial : Serial decision data events next)
    (preserved : ∀ op data next, Inv data → decision op data = .replaces next → Inv next) (inv : Inv data) :
    Inv next := by
  induction serial with
  | nil => exact inv
  | snoc _ whole ih => exact whole.keeps (fun op next => preserved op _ next ih) ih

/-- What every replacement keeps holds at every moment of a run. -/
theorem Run.keeps {events : List (Op × Outcome)} (quiet : start.Quiet) (run : Run decision start events w)
    (preserved : ∀ op data next, Inv data → decision op data = .replaces next → Inv next) (inv : Inv start.file) :
    Inv w.file :=
  (run.serial quiet).keeps preserved inv

end LockedFile
