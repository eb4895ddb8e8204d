import VaultKern.Runtime.ResidentIpc

/-! # Requests are answered once

In any interleaving a registration is answered at most once, a request that was cancelled or that timed
out before its execution is not executed, and the registry keeps newer registrations.
-/

namespace VaultKern.ResidentIpc

open OneClaim World

/-! ## Claims of registrations -/

def RequestPhase.claimPhase : RequestPhase → OneClaim.Phase
  | .pending => .fresh
  | .executing => .running
  | .responded => .closed

/-- What the swapped phase tells: the deadline reports it. -/
def ClaimKind.told (kind : ClaimKind) (phase : RequestPhase) : Option Bool :=
  match kind with
  | .deadline => some (phase = .executing)
  | .response => none

/-- The request that an operation returned to have answered, and what it reported. -/
def Result.answered : Result → Option (Nat × Option Bool)
  | .cancelled request => some (request, some false)
  | .claimDeadlineResponse request (some executionStarted) => some (request, some executionStarted)
  | .claimResponse request true => some (request, none)
  | _ => none

/-- The request that is answered once the phase is swapped. -/
def Pc.won : Pc → Option (Nat × Option Bool)
  | .cancelRemove _ request => some (request, some false)
  | .removeLock kind request phase => some (request, kind.told phase)
  | .removeEntry kind request phase => some (request, kind.told phase)
  | .returned result => result.answered
  | _ => none

def Pc.begun : Pc → Option Nat
  | .returned (.beginExecution request true) => some request
  | _ => none

namespace World

def claims (w : World) : OneClaim.State Nat Nat where
  phase := fun request => (w.phase request).map RequestPhase.claimPhase
  begun := fun thread => (w.threads thread).begun
  won := fun thread => (w.threads thread).won

variable {w : World} {thread request : Nat} {pc : Pc}

theorem phase_storePhase (w : World) (request other : Nat) (phase : RequestPhase) :
    (w.storePhase request phase).phase other = if request = other then (w.phase other).map fun _ => phase else w.phase other := by
  simp only [World.phase, storePhase, List.getElem?_modify]
  split
  · cases w.heap[other]? <;> rfl
  · cases w.heap[other]? <;> rfl

theorem phase_storeCancelled (w : World) (request other : Nat) :
    (w.storeCancelled request).phase other = w.phase other := by
  simp only [World.phase, storeCancelled, List.getElem?_modify]
  cases w.heap[other]? with
  | none => rfl
  | some state =>
      simp only [Option.map_eq_map, Option.map_some]
      split
      · rfl
      · rfl

/-- A thread goes on. -/
theorem claims_go (w : World) (thread : Nat) (pc : Pc) : (w.go thread pc).claims =
    { w.claims with
      begun := Function.update w.claims.begun thread pc.begun
      won := Function.update w.claims.won thread pc.won } := by
  simp only [claims, go, OneClaim.State.mk.injEq]
  refine ⟨rfl, ?_, ?_⟩
  · funext other
    simp only [Function.update_apply]
    split <;> rfl
  · funext other
    simp only [Function.update_apply]
    split <;> rfl

theorem claims_go_same {w w' : World} (same : w'.claims = w.claims) (begun : pc.begun = (w.threads thread).begun)
    (won : pc.won = (w.threads thread).won) : (w'.go thread pc).claims = w.claims := by
  rw [claims_go, same, begun, won]
  have here : (w.threads thread).begun = w.claims.begun thread := rfl
  have there : (w.threads thread).won = w.claims.won thread := rfl
  rw [here, there, Function.update_eq_self, Function.update_eq_self]

/-- A thread that has started nothing, and now claims something. -/
theorem claims_go_wins (w : World) (thread : Nat) (pc : Pc) {old : Pc} (here : w.threads thread = old)
    (begun : pc.begun = old.begun) :
    (w.go thread pc).claims = { w.claims with won := Function.update w.claims.won thread pc.won } := by
  have own : pc.begun = w.claims.begun thread := begun.trans (congrArg Pc.begun here).symm
  rw [claims_go, own, Function.update_eq_self]

/-- A thread that has claimed nothing, and now starts something. -/
theorem claims_go_begins (w : World) (thread : Nat) (pc : Pc) {old : Pc} (here : w.threads thread = old)
    (won : pc.won = old.won) :
    (w.go thread pc).claims = { w.claims with begun := Function.update w.claims.begun thread pc.begun } := by
  have own : pc.won = w.claims.won thread := won.trans (congrArg Pc.won here).symm
  rw [claims_go, own, Function.update_eq_self]

theorem claims_storeCancelled (w : World) (request : Nat) : (w.storeCancelled request).claims = w.claims := by
  simp only [claims, OneClaim.State.mk.injEq]
  refine ⟨?_, rfl, rfl⟩
  funext other
  rw [phase_storeCancelled]

theorem claims_storePhase {phase : RequestPhase} (here : (w.phase request).isSome) :
    (w.storePhase request phase).claims =
      { w.claims with phase := Function.update w.claims.phase request (some phase.claimPhase) } := by
  simp only [claims, OneClaim.State.mk.injEq]
  refine ⟨?_, rfl, rfl⟩
  funext other
  rw [phase_storePhase, Function.update_apply]
  by_cases same : other = request
  · subst same
    obtain ⟨held, known⟩ := Option.isSome_iff_exists.mp here
    rw [if_pos rfl, if_pos rfl, known]
    rfl
  · rw [if_neg fun eq => same eq.symm, if_neg same]

/-- What is not there is not stored to. -/
theorem claims_storePhase_none {phase : RequestPhase} (absent : w.phase request = none) :
    (w.storePhase request phase).claims = w.claims := by
  simp only [claims, OneClaim.State.mk.injEq]
  refine ⟨?_, rfl, rfl⟩
  funext other
  rw [phase_storePhase]
  by_cases same : request = other
  · subst same
    rw [if_pos rfl, absent]
    rfl
  · rw [if_neg same]

theorem claims_allocate (w : World) (requestId : String) : (w.allocate requestId).claims =
    { w.claims with phase := Function.update w.claims.phase w.heap.length (some .fresh) } := by
  simp only [claims, OneClaim.State.mk.injEq]
  refine ⟨?_, rfl, rfl⟩
  funext other
  simp only [World.phase, allocate, Function.update_apply, List.getElem?_append]
  by_cases old : other < w.heap.length
  · rw [if_pos old, if_neg (by omega)]
  · rw [if_neg old]
    by_cases new : other = w.heap.length
    · rw [if_pos new, new, Nat.sub_self]
      rfl
    · have past : w.heap[other]? = none := List.getElem?_eq_none (by omega)
      obtain ⟨more, later⟩ : ∃ more, other - w.heap.length = more + 1 := ⟨other - w.heap.length - 1, by omega⟩
      rw [if_neg new, past, later]
      rfl

end World

/-! ## One step -/

/-- The steps of a thread that holds the lock. -/
def Pc.holds : Pc → Bool
  | .registerInsert _ _ => true
  | .cancelLookup _ => true
  | .cancelStore _ _ => true
  | .cancelSwap _ _ => true
  | .cancelRemove _ _ => true
  | .cancelAllTake => true
  | .removeEntry _ _ _ => true
  | _ => false

/-- The entry that a cancellation found. -/
def Pc.cancelling : Pc → Option (String × Nat)
  | .cancelStore requestId request => some (requestId, request)
  | .cancelSwap requestId request => some (requestId, request)
  | .cancelRemove requestId request => some (requestId, request)
  | _ => none

/-- Who holds the lock finds the registry as it left it, and a phase that was loaded is none of an
answered request. -/
structure Sound (w : World) : Prop where
  holder : ∀ thread, (w.threads thread).holds = true → w.locked = some thread
  looked : ∀ thread requestId request, (w.threads thread).cancelling = some (requestId, request) →
    w.entries[requestId]? = some request
  loaded : ∀ thread kind request phase, w.threads thread = .claimSwap kind request phase → phase ≠ .responded

theorem holds_of_cancelling {pc : Pc} {found : String × Nat} (cancelling : pc.cancelling = some found) : pc.holds = true := by
  cases pc with
  | cancelStore _ _ => rfl
  | cancelSwap _ _ => rfl
  | cancelRemove _ _ => rfl
  | _ => cases cancelling

namespace Sound

variable {w w' : World} {thread : Nat} {pc : Pc}

/-- Only the thread that goes on has another step. -/
theorem go_other (threads : w'.threads = w.threads) {other : Nat} (apart : other ≠ thread) :
    (w'.go thread pc).threads other = w.threads other := by
  rw [World.go, threads]
  exact Function.update_of_ne apart _ _

theorem go_self (w : World) (thread : Nat) (pc : Pc) : (w.go thread pc).threads thread = pc :=
  Function.update_self _ _ _

/-- A step that leaves the lock and the registry alone. -/
theorem keeps (sound : Sound w) (threads : w'.threads = w.threads) (locked : w'.locked = w.locked)
    (entries : w'.entries = w.entries) (holds : pc.holds = true → (w.threads thread).holds = true)
    (found : ∀ requestId request, pc.cancelling = some (requestId, request) → w.entries[requestId]? = some request)
    (loaded : ∀ kind request phase, pc = .claimSwap kind request phase → phase ≠ .responded) :
    Sound (w'.go thread pc) where
  holder := by
    intro other held
    change w'.locked = some other
    rw [locked]
    by_cases same : other = thread
    · subst same
      rw [go_self] at held
      exact sound.holder other (holds held)
    · rw [go_other threads same] at held
      exact sound.holder other held
  looked := by
    intro other requestId request cancelling
    change w'.entries[requestId]? = some request
    rw [entries]
    by_cases same : other = thread
    · subst same
      rw [go_self] at cancelling
      exact found requestId request cancelling
    · rw [go_other threads same] at cancelling
      exact sound.looked other requestId request cancelling
  loaded := by
    intro other kind request phase swaps
    by_cases same : other = thread
    · subst same
      rw [go_self] at swaps
      exact loaded kind request phase swaps
    · rw [go_other threads same] at swaps
      exact sound.loaded other kind request phase swaps

/-- A thread that takes the lock: nobody held it. -/
theorem locks (sound : Sound w) (free : w.locked = none) (cancelling : pc.cancelling = none)
    (loaded : ∀ kind request phase, pc ≠ .claimSwap kind request phase) : Sound ((w.lock thread).go thread pc) where
  holder := by
    intro other held
    by_cases same : other = thread
    · subst same
      rfl
    · rw [go_other rfl same] at held
      have busy := sound.holder other held
      rw [free] at busy
      cases busy
  looked := by
    intro other requestId request found
    by_cases same : other = thread
    · subst same
      rw [go_self, cancelling] at found
      cases found
    · rw [go_other rfl same] at found
      exact sound.looked other requestId request found
  loaded := by
    intro other kind request phase swaps
    by_cases same : other = thread
    · subst same
      rw [go_self] at swaps
      exact absurd swaps (loaded kind request phase)
    · rw [go_other rfl same] at swaps
      exact sound.loaded other kind request phase swaps

/-- A thread that leaves the lock: nobody else has looked at the registry. -/
theorem unlocks (sound : Sound w) (held : (w.threads thread).holds = true) (threads : w'.threads = w.threads)
    (holds : pc.holds = false) (loaded : ∀ kind request phase, pc ≠ .claimSwap kind request phase) :
    Sound (w'.go thread pc) := by
  have alone : ∀ other, ((w'.go thread pc).threads other).holds = false := by
    intro other
    by_cases same : other = thread
    · subst same
      rw [go_self, holds]
    · rw [go_other threads same]
      cases busy : (w.threads other).holds with
      | false => rfl
      | true =>
          have owner := sound.holder other busy
          rw [sound.holder thread held] at owner
          exact absurd (Option.some.inj owner).symm same
  constructor
  · intro other busy
    rw [alone] at busy
    cases busy
  · intro other requestId request cancelling
    have busy := holds_of_cancelling cancelling
    rw [alone] at busy
    cases busy
  · intro other kind request phase swaps
    by_cases same : other = thread
    · subst same
      rw [go_self] at swaps
      exact absurd swaps (loaded kind request phase)
    · rw [go_other threads same] at swaps
      exact sound.loaded other kind request phase swaps

/-- A step outside the lock. -/
theorem passes (sound : Sound w) (threads : w'.threads = w.threads) (locked : w'.locked = w.locked)
    (entries : w'.entries = w.entries) (outside : pc.holds = false)
    (loaded : ∀ kind request phase, pc ≠ .claimSwap kind request phase) : Sound (w'.go thread pc) := by
  apply sound.keeps threads locked entries
  · intro holds
    rw [outside] at holds
    cases holds
  · intro requestId request cancelling
    rw [holds_of_cancelling cancelling] at outside
    cases outside
  · intro kind request phase swaps
    exact absurd swaps (loaded kind request phase)

theorem step (sound : Sound w) (step : Step w thread w') : Sound w' := by
  cases step with
  | register requestId idle => exact sound.passes rfl rfl rfl rfl nofun
  | cancel requestId idle => exact sound.passes rfl rfl rfl rfl nofun
  | cancelAll idle => exact sound.passes rfl rfl rfl rfl nofun
  | beginExecution request idle _ => exact sound.passes rfl rfl rfl rfl nofun
  | claimDeadlineResponse request idle _ => exact sound.passes rfl rfl rfl rfl nofun
  | claimResponse request idle _ => exact sound.passes rfl rfl rfl rfl nofun
  | registerLocks here free => exact sound.locks free rfl nofun
  | registerDuplicate here _ => exact sound.unlocks (by rw [here]; rfl) rfl rfl nofun
  | registerInserts here _ => exact sound.unlocks (by rw [here]; rfl) rfl rfl nofun
  | cancelLocks here free => exact sound.locks free rfl nofun
  | cancelMisses here _ => exact sound.unlocks (by rw [here]; rfl) rfl rfl nofun
  | cancelFinds here known =>
      apply sound.keeps rfl rfl rfl
      · intro _
        rw [here]
        rfl
      · intro requestId request found
        cases found
        exact known
      · nofun
  | @cancelStores requestId request here =>
      have kept := @keeps w (w.storeCancelled request) thread (.cancelSwap requestId request) sound rfl rfl rfl
      apply kept
      · intro _
        rw [here]
        rfl
      · intro requestId request found
        exact sound.looked thread requestId request (by rw [here]; exact found)
      · nofun
  | cancelLoses here _ => exact sound.unlocks (by rw [here]; rfl) rfl rfl nofun
  | @cancelSwaps requestId request here _ =>
      have kept := @keeps w (w.storePhase request .responded) thread (.cancelRemove requestId request)
        sound rfl rfl rfl
      apply kept
      · intro _
        rw [here]
        rfl
      · intro requestId request found
        exact sound.looked thread requestId request (by rw [here]; exact found)
      · nofun
  | cancelRemoves here => exact sound.unlocks (by rw [here]; rfl) rfl rfl nofun
  | cancelAllLocks here free => exact sound.locks free rfl nofun
  | cancelAllTakes here _ => exact sound.unlocks (by rw [here]; rfl) rfl rfl nofun
  | cancelAllStores here => exact sound.passes rfl rfl rfl rfl nofun
  | cancelAllPhases here => exact sound.passes rfl rfl rfl rfl nofun
  | cancelAllReturns here => exact sound.passes rfl rfl rfl rfl nofun
  | beginSwaps here _ => exact sound.passes rfl rfl rfl rfl nofun
  | beginLoses here _ => exact sound.passes rfl rfl rfl rfl nofun
  | deadlineStores here => exact sound.passes rfl rfl rfl rfl nofun
  | claimRefused here _ => exact sound.passes rfl rfl rfl rfl nofun
  | claimLoads here _ unanswered =>
      apply sound.keeps rfl rfl rfl
      · intro holds
        cases holds
      · intro requestId request found
        cases found
      · intro kind request phase swaps
        cases swaps
        exact unanswered
  | claimRetries here _ => exact sound.passes rfl rfl rfl rfl nofun
  | claimSwaps here _ => exact sound.passes rfl rfl rfl rfl nofun
  | removeLocks here free => exact sound.locks free rfl nofun
  | removeOwn here _ _ => exact sound.unlocks (by rw [here]; rfl) rfl rfl nofun
  | removeOther here _ _ => exact sound.unlocks (by rw [here]; rfl) rfl rfl nofun

end Sound

theorem claimed_answered (kind : ClaimKind) (request : Nat) (phase : RequestPhase) :
    (kind.claimed request phase).answered = some (request, kind.told phase) := by
  cases kind <;> rfl

theorem refused_answered (kind : ClaimKind) (request : Nat) : (kind.refused request).answered = none := by
  cases kind <;> rfl

theorem begun_claimed (kind : ClaimKind) (request : Nat) (phase : RequestPhase) :
    (Pc.returned (kind.claimed request phase)).begun = none := by
  cases kind <;> rfl

theorem begun_refused (kind : ClaimKind) (request : Nat) : (Pc.returned (kind.refused request)).begun = none := by
  cases kind <;> rfl

theorem told_truthful (kind : ClaimKind) (phase : RequestPhase) :
    ∀ started ∈ kind.told phase, started = decide (phase.claimPhase = .running) := by
  intro started member
  cases kind with
  | deadline =>
      cases phase <;> (cases member; rfl)
  | response => cases member

/-- A thread that goes on without a part in the claims. -/
theorem effect_quiet {w w' : World} {thread : Nat} {pc : Pc} (same : w'.claims = w.claims)
    (begun : pc.begun = (w.threads thread).begun) (won : pc.won = (w.threads thread).won) :
    Effect w.claims (w'.go thread pc).claims := by
  rw [World.claims_go_same same begun won]
  exact .quiet

/-- Each step is one of the claims, or none. -/
theorem Step.effect {w w' : World} {thread : Nat} (sound : Sound w) (step : Step w thread w') :
    Effect w.claims w'.claims := by
  cases step with
  | register requestId idle =>
      have absent : w.claims.phase w.heap.length = none := by
        simp [World.claims, World.phase]
      have born := Effect.born w.heap.length absent
      rw [← World.claims_allocate w requestId] at born
      rwa [World.claims_go_same rfl (by rw [World.allocate, idle]; rfl) (by rw [World.allocate, idle]; rfl)]
  | cancel requestId idle => exact effect_quiet rfl (by rw [idle]; rfl) (by rw [idle]; rfl)
  | cancelAll idle => exact effect_quiet rfl (by rw [idle]; rfl) (by rw [idle]; rfl)
  | beginExecution request idle _ => exact effect_quiet rfl (by rw [idle]; rfl) (by rw [idle]; rfl)
  | claimDeadlineResponse request idle _ => exact effect_quiet rfl (by rw [idle]; rfl) (by rw [idle]; rfl)
  | claimResponse request idle _ => exact effect_quiet rfl (by rw [idle]; rfl) (by rw [idle]; rfl)
  | registerLocks here _ => exact effect_quiet rfl (by rw [here]; rfl) (by rw [here]; rfl)
  | registerDuplicate here _ => exact effect_quiet rfl (by rw [here]; rfl) (by rw [here]; rfl)
  | registerInserts here _ => exact effect_quiet rfl (by rw [here]; rfl) (by rw [here]; rfl)
  | cancelLocks here _ => exact effect_quiet rfl (by rw [here]; rfl) (by rw [here]; rfl)
  | cancelMisses here _ => exact effect_quiet rfl (by rw [here]; rfl) (by rw [here]; rfl)
  | cancelFinds here _ => exact effect_quiet rfl (by rw [here]; rfl) (by rw [here]; rfl)
  | cancelStores here =>
      exact effect_quiet (World.claims_storeCancelled _ _) (by rw [here]; rfl) (by rw [here]; rfl)
  | cancelLoses here _ => exact effect_quiet rfl (by rw [here]; rfl) (by rw [here]; rfl)
  | @cancelSwaps requestId request here pending =>
      have phase : w.claims.phase request = some .fresh := congrArg (Option.map RequestPhase.claimPhase) pending
      have idle : w.claims.won thread = none := congrArg Pc.won here
      have claim := Effect.claim thread request .fresh (some false) phase nofun (by simp) idle
      rwa [World.claims_go_wins (w.storePhase request .responded) thread (.cancelRemove requestId request) here rfl,
        World.claims_storePhase (by rw [pending]; rfl)]
  | cancelRemoves here => exact effect_quiet rfl (by rw [here]; rfl) (by rw [here]; rfl)
  | cancelAllLocks here _ => exact effect_quiet rfl (by rw [here]; rfl) (by rw [here]; rfl)
  | cancelAllTakes here _ => exact effect_quiet rfl (by rw [here]; rfl) (by rw [here]; rfl)
  | cancelAllStores here =>
      exact effect_quiet (World.claims_storeCancelled _ _) (by rw [here]; rfl) (by rw [here]; rfl)
  | @cancelAllPhases request rest here =>
      cases held : w.phase request with
      | none =>
          exact effect_quiet (World.claims_storePhase_none held) (by rw [here]; rfl) (by rw [here]; rfl)
      | some phase =>
          have closes := Effect.close (s := w.claims) request (by simp [World.claims, held])
          have stored := @World.claims_storePhase w request .responded (by rw [held]; rfl)
          rw [World.claims_go_same rfl (by rw [World.storePhase, here]; rfl) (by rw [World.storePhase, here]; rfl), stored]
          exact closes
  | cancelAllReturns here => exact effect_quiet rfl (by rw [here]; rfl) (by rw [here]; rfl)
  | @beginSwaps request here pending =>
      have phase : w.claims.phase request = some .fresh := congrArg (Option.map RequestPhase.claimPhase) pending
      have idle : w.claims.begun thread = none := congrArg Pc.begun here
      have starts := Effect.start thread request phase idle
      rwa [World.claims_go_begins (w.storePhase request .executing) thread
        (.returned (.beginExecution request true)) here rfl,
        World.claims_storePhase (by rw [pending]; rfl)]
  | beginLoses here _ => exact effect_quiet rfl (by rw [here]; rfl) (by rw [here]; rfl)
  | deadlineStores here =>
      exact effect_quiet (World.claims_storeCancelled _ _) (by rw [here]; rfl) (by rw [here]; rfl)
  | @claimRefused kind request here _ =>
      exact effect_quiet rfl (by rw [here, begun_refused]; rfl)
        (by rw [here]; exact refused_answered kind request)
  | claimLoads here _ _ => exact effect_quiet rfl (by rw [here]; rfl) (by rw [here]; rfl)
  | claimRetries here _ => exact effect_quiet rfl (by rw [here]; rfl) (by rw [here]; rfl)
  | @claimSwaps kind request phase here loaded =>
      have held : w.claims.phase request = some phase.claimPhase := congrArg (Option.map RequestPhase.claimPhase) loaded
      have idle : w.claims.won thread = none := congrArg Pc.won here
      have unanswered : phase.claimPhase ≠ .closed := by
        have other := sound.loaded thread kind request phase here
        cases phase with
        | pending => nofun
        | executing => nofun
        | responded => exact absurd rfl other
      have claim := Effect.claim thread request phase.claimPhase (kind.told phase) held unanswered
        (told_truthful kind phase) idle
      rwa [World.claims_go_wins (w.storePhase request .responded) thread (.removeLock kind request phase) here rfl,
        World.claims_storePhase (by rw [loaded]; rfl)]
  | removeLocks here _ => exact effect_quiet rfl (by rw [here]; rfl) (by rw [here]; rfl)
  | @removeOwn kind request phase state here _ _ =>
      exact effect_quiet rfl (by rw [here, begun_claimed]; rfl)
        (by rw [here]; exact claimed_answered kind request phase)
  | @removeOther kind request phase state here _ _ =>
      exact effect_quiet rfl (by rw [here, begun_claimed]; rfl)
        (by rw [here]; exact claimed_answered kind request phase)

/-- Only who has answered a request removes its entry, and `cancel_all`. -/
theorem Step.removes {w w' : World} {thread : Nat} (sound : Sound w) (step : Step w thread w') {requestId : String}
    {request : Nat} (held : w.entries[requestId]? = some request) (gone : w'.entries[requestId]? ≠ some request) :
    w.threads thread = .cancelAllTake ∨ ∃ told, (w.threads thread).won = some (request, told) := by
  cases step with
  | @registerInserts otherId other here absent =>
      refine absurd ?_ gone
      change (w.entries.insert otherId other)[requestId]? = _
      rw [BTreeMap.insert_lookup, if_neg, held]
      rintro rfl
      rw [absent] at held
      cases held
  | @cancelRemoves otherId other here =>
      have found := sound.looked thread otherId other (by rw [here]; rfl)
      change (w.entries.erase otherId)[requestId]? ≠ _ at gone
      rw [BTreeMap.erase_lookup] at gone
      by_cases same : otherId = requestId
      · subst same
        rw [found] at held
        cases held
        exact .inr ⟨_, by rw [here]; rfl⟩
      · rw [if_neg same] at gone
        exact absurd held gone
  | cancelAllTakes here _ => exact .inl here
  | @removeOwn kind other phase state here _ found =>
      change (w.entries.erase state.requestId)[requestId]? ≠ _ at gone
      rw [BTreeMap.erase_lookup] at gone
      by_cases same : state.requestId = requestId
      · rw [same, held] at found
        cases found
        exact .inr ⟨_, by rw [here]; rfl⟩
      · rw [if_neg same] at gone
        exact absurd held gone
  | _ => exact absurd held gone

/-! ## Runs -/

theorem start_sound : Sound .start where
  holder := nofun
  looked := nofun
  loaded := nofun

theorem start_once : Once World.start.claims := Once.initial (fun _ => rfl) (fun _ => rfl) fun _ => rfl

theorem Runs.sound {w : World} (run : Runs .start w) : Sound w ∧ Once w.claims := by
  induction run with
  | refl => exact ⟨start_sound, start_once⟩
  | tail _ step ih =>
      obtain ⟨thread, step⟩ := step
      exact ⟨ih.1.step step, ih.2.step (step.effect ih.1)⟩

theorem claims_closed {w : World} {request : Nat} :
    w.claims.phase request = some .closed ↔ w.phase request = some .responded := by
  change (w.phase request).map RequestPhase.claimPhase = _ ↔ _
  cases w.phase request with
  | none => simp
  | some phase => cases phase <;> simp [RequestPhase.claimPhase]

/-- An answered request stays answered, and is not executed any more. -/
theorem Runs.responded {w w' : World} (sound : Sound w) (run : Runs w w') {request : Nat}
    (answered : w.phase request = some .responded) : Sound w' ∧ w'.phase request = some .responded ∧
      ∀ thread, (w'.threads thread).begun = some request → (w.threads thread).begun = some request := by
  induction run with
  | refl => exact ⟨sound, answered, fun _ begun => begun⟩
  | tail _ step ih =>
      obtain ⟨thread, step⟩ := step
      obtain ⟨sound, answered, before⟩ := ih
      obtain ⟨closed, kept⟩ := (step.effect sound).closed_stays (claims_closed.mpr answered)
      exact ⟨sound.step step, claims_closed.mp closed, fun thread begun => before thread (kept thread begun)⟩

theorem begun_iff {pc : Pc} {request : Nat} : pc.begun = some request ↔ pc = .returned (.beginExecution request true) := by
  constructor
  · intro begun
    unfold Pc.begun at begun
    split at begun
    · cases begun
      rfl
    · cases begun
  · rintro rfl
    rfl

/-- The operation had this request answered. -/
def Result.Answers (result : Result) (request : Nat) : Prop :=
  result = .cancelled request ∨ (∃ executionStarted, result = .claimDeadlineResponse request (some executionStarted)) ∨
    result = .claimResponse request true

theorem Result.Answers.answered {result : Result} {request : Nat} (answers : result.Answers request) :
    ∃ told, result.answered = some (request, told) := by
  rcases answers with rfl | ⟨_, rfl⟩ | rfl
  · exact ⟨_, rfl⟩
  · exact ⟨_, rfl⟩
  · exact ⟨_, rfl⟩

/-- In any interleaving a registration is answered at most once; what was cancelled, or timed out before
its execution, is not executed, and what `cancel_all` or an answer closed is not executed any more; the
deadline reports that execution started exactly if it did; and only the operation that answered a request
removes its entry, and `cancel_all`. -/
theorem residentIpc_once {w : World} (run : Runs .start w) :
    (∀ (thread other request : Nat) (result result' : Result), w.threads thread = .returned result →
      w.threads other = .returned result' → result.Answers request → result'.Answers request → thread = other) ∧
    (∀ (thread other request : Nat), w.threads thread = .returned (.cancelled request) ∨
        w.threads thread = .returned (.claimDeadlineResponse request (some false)) →
      w.threads other ≠ .returned (.beginExecution request true)) ∧
    (∀ (request : Nat) (w' : World), w.phase request = some .responded → Runs w w' →
      w'.phase request = some .responded ∧ ∀ thread, w'.threads thread = .returned (.beginExecution request true) →
        w.threads thread = .returned (.beginExecution request true)) ∧
    (∀ (thread request : Nat) (executionStarted : Bool),
      w.threads thread = .returned (.claimDeadlineResponse request (some executionStarted)) →
      (executionStarted = true ↔ ∃ other, w.threads other = .returned (.beginExecution request true))) ∧
    (∀ (thread : Nat) (w' : World), Step w thread w' → ∀ (requestId : String) (request : Nat),
      w.entries[requestId]? = some request → w'.entries[requestId]? ≠ some request →
      w.threads thread = .cancelAllTake ∨ ∃ told, (w.threads thread).won = some (request, told)) := by
  obtain ⟨sound, once⟩ := run.sound
  have tells : ∀ (thread request : Nat) (started : Bool),
      (w.threads thread).won = some (request, some started) →
      (started = true ↔ ∃ other, w.threads other = .returned (.beginExecution request true)) := by
    intro thread request started won
    rw [once.told thread request started won]
    exact exists_congr fun other => begun_iff
  refine ⟨?_, ?_, ?_, ?_, ?_⟩
  · intro thread other request result result' here there answers answers'
    obtain ⟨told, first⟩ := answers.answered
    obtain ⟨told', second⟩ := answers'.answered
    exact once.once thread other request told told' ((congrArg Pc.won here).trans first)
      ((congrArg Pc.won there).trans second)
  · intro thread other request ended began
    have told : (w.threads thread).won = some (request, some false) := by
      rcases ended with here | here
      · rw [here]
        rfl
      · rw [here]
        rfl
    cases (tells thread request false told).mpr ⟨other, began⟩
  · intro request w' answered later
    obtain ⟨_, stays, before⟩ := Runs.responded sound later answered
    exact ⟨stays, fun thread began => begun_iff.mp (before thread (begun_iff.mpr began))⟩
  · intro thread request started here
    exact tells thread request started (by rw [here]; rfl)
  · intro thread w' step requestId request held gone
    exact step.removes sound held gone

/-! ### A deadline before the execution -/

def registering : World := ((World.start.allocate "a").go 0 (.registerLock "a" 0)).lock 0 |>.go 0 (.registerInsert "a" 0)

def registered : World := (registering.unlock.setEntries (registering.entries.insert "a" 0)).go 0 (.returned (.registered 0))

theorem registered_runs : Runs .start registered := by
  have called : Step .start 0 _ := .register "a" rfl
  have locks : Step ((World.start.allocate "a").go 0 (.registerLock "a" 0)) 0 registering := .registerLocks rfl rfl
  have inserts : Step registering 0 registered := .registerInserts rfl (by decide +kernel)
  exact ((Relation.ReflTransGen.single ⟨0, called⟩).tail ⟨0, locks⟩).tail ⟨0, inserts⟩

def claiming : World :=
  ((registered.go 1 (.deadlineStore 0)).storeCancelled 0).go 1 (.claimLoad .deadline 0) |>.go 1 (.claimSwap .deadline 0 .pending)

def removing : World :=
  ((claiming.storePhase 0 .responded).go 1 (.removeLock .deadline 0 .pending)).lock 1 |>.go 1 (.removeEntry .deadline 0 .pending)

def expired : World :=
  (removing.unlock.setEntries (removing.entries.erase "a")).go 1 (.returned (.claimDeadlineResponse 0 (some false)))

theorem expired_runs : Runs registered expired := by
  have called : Step registered 1 (registered.go 1 (.deadlineStore 0)) := .claimDeadlineResponse 0 rfl ⟨0, rfl⟩
  have stores : Step (registered.go 1 (.deadlineStore 0)) 1
      (((registered.go 1 (.deadlineStore 0)).storeCancelled 0).go 1 (.claimLoad .deadline 0)) := .deadlineStores rfl
  have loads : Step (((registered.go 1 (.deadlineStore 0)).storeCancelled 0).go 1 (.claimLoad .deadline 0)) 1 claiming :=
    .claimLoads rfl rfl nofun
  have swaps : Step claiming 1 ((claiming.storePhase 0 .responded).go 1 (.removeLock .deadline 0 .pending)) :=
    .claimSwaps rfl rfl
  have locks : Step ((claiming.storePhase 0 .responded).go 1 (.removeLock .deadline 0 .pending)) 1 removing :=
    .removeLocks rfl rfl
  have removes : Step removing 1 expired :=
    @Step.removeOwn removing 1 .deadline 0 .pending ⟨"a", true, .responded⟩ rfl rfl (by decide +kernel)
  exact ((((Relation.ReflTransGen.single ⟨1, called⟩).tail ⟨1, stores⟩).tail ⟨1, loads⟩).tail ⟨1, swaps⟩).tail ⟨1, locks⟩
    |>.tail ⟨1, removes⟩

/-- A request is registered, and its deadline passes before it is executed. -/
theorem residentIpc_once_expired : Runs .start expired ∧
    expired.threads 1 = .returned (.claimDeadlineResponse 0 (some false)) ∧
    ∀ other, expired.threads other ≠ .returned (.beginExecution 0 true) := by
  have run : Runs .start expired := registered_runs.trans expired_runs
  obtain ⟨_, notBegun, _⟩ := residentIpc_once run
  exact ⟨run, rfl, fun other => notBegun 1 other 0 (.inr rfl)⟩

end VaultKern.ResidentIpc
