import VaultKern.Lib.OneClaim
import VaultKern.Lib.OrderedMap

/-! # Pending requests of the resident process

A request that comes in is registered under its id. Its handler, its deadline and cancellations of the
client work on it from threads of their own: through the phase, which is compared and swapped, and through
the registry, which is behind a lock. A thread here does one operation, atomic step by atomic step.
-/

namespace VaultKern.ResidentIpc

inductive RequestPhase where
  | pending | executing | responded
  deriving DecidableEq

/-- What a handle points to: the state of a request, and the id that the handle keeps with it. -/
structure PendingRequestState where
  requestId : String
  cancelled : Bool
  phase : RequestPhase
  deriving DecidableEq

/-! ## Threads -/

/-- The two claims of a handle. -/
inductive ClaimKind where
  | deadline | response
  deriving DecidableEq

/-- What an operation returned. A cancellation keeps the request that it cancelled. -/
inductive Result where
  | registered (request : Nat)
  | duplicate
  | cancelled (request : Nat)
  | notCancelled
  | allCancelled
  | beginExecution (request : Nat) (begun : Bool)
  | claimDeadlineResponse (request : Nat) (executionStarted : Option Bool)
  | claimResponse (request : Nat) (claimed : Bool)
  deriving DecidableEq

/-- The next atomic step of a thread. -/
inductive Pc where
  | idle
  | registerLock (requestId : String) (request : Nat)
  | registerInsert (requestId : String) (request : Nat)
  | cancelLock (requestId : String)
  | cancelLookup (requestId : String)
  | cancelStore (requestId : String) (request : Nat)
  | cancelSwap (requestId : String) (request : Nat)
  | cancelRemove (requestId : String) (request : Nat)
  | cancelAllLock
  | cancelAllTake
  | cancelAllStore (rest : List Nat)
  | cancelAllPhase (request : Nat) (rest : List Nat)
  | beginSwap (request : Nat)
  | deadlineStore (request : Nat)
  | claimLoad (kind : ClaimKind) (request : Nat)
  | claimSwap (kind : ClaimKind) (request : Nat) (phase : RequestPhase)
  | removeLock (kind : ClaimKind) (request : Nat) (phase : RequestPhase)
  | removeEntry (kind : ClaimKind) (request : Nat) (phase : RequestPhase)
  | returned (result : Result)
  deriving DecidableEq

/-- The claim succeeds from the phase that was swapped. -/
def ClaimKind.claimed (kind : ClaimKind) (request : Nat) (phase : RequestPhase) : Result :=
  match kind with
  | .deadline => .claimDeadlineResponse request (some (phase = .executing))
  | .response => .claimResponse request true

def ClaimKind.refused (kind : ClaimKind) (request : Nat) : Result :=
  match kind with
  | .deadline => .claimDeadlineResponse request none
  | .response => .claimResponse request false

/-! ## Steps -/

structure World where
  heap : List PendingRequestState
  entries : BTreeMap String Nat
  /-- The thread that holds the lock of the registry. -/
  locked : Option Nat
  threads : Nat → Pc

namespace World

def start : World := { heap := [], entries := ∅, locked := none, threads := fun _ => .idle }

def phase (w : World) (request : Nat) : Option RequestPhase := (w.heap[request]?).map PendingRequestState.phase

def go (w : World) (thread : Nat) (pc : Pc) : World := { w with threads := Function.update w.threads thread pc }

def storePhase (w : World) (request : Nat) (phase : RequestPhase) : World :=
  { w with heap := w.heap.modify request fun state => { state with phase } }

def storeCancelled (w : World) (request : Nat) : World :=
  { w with heap := w.heap.modify request fun state => { state with cancelled := true } }

def allocate (w : World) (requestId : String) : World :=
  { w with heap := w.heap ++ [{ requestId, cancelled := false, phase := .pending }] }

def lock (w : World) (thread : Nat) : World := { w with locked := some thread }

def unlock (w : World) : World := { w with locked := none }

def setEntries (w : World) (entries : BTreeMap String Nat) : World := { w with entries }

/-- Handles come from registrations. -/
def Registered (w : World) (request : Nat) : Prop := ∃ thread, w.threads thread = .returned (.registered request)

end World

open World

inductive Step (w : World) (thread : Nat) : World → Prop where
  -- An operation is called.
  | register (requestId : String) : w.threads thread = .idle →
      Step w thread ((w.allocate requestId).go thread (.registerLock requestId w.heap.length))
  | cancel (requestId : String) : w.threads thread = .idle → Step w thread (w.go thread (.cancelLock requestId))
  | cancelAll : w.threads thread = .idle → Step w thread (w.go thread .cancelAllLock)
  | beginExecution (request : Nat) : w.threads thread = .idle → w.Registered request →
      Step w thread (w.go thread (.beginSwap request))
  | claimDeadlineResponse (request : Nat) : w.threads thread = .idle → w.Registered request →
      Step w thread (w.go thread (.deadlineStore request))
  | claimResponse (request : Nat) : w.threads thread = .idle → w.Registered request →
      Step w thread (w.go thread (.claimLoad .response request))
  -- `register`
  | registerLocks {requestId : String} {request : Nat} : w.threads thread = .registerLock requestId request →
      w.locked = none →
      Step w thread ((w.lock thread).go thread (.registerInsert requestId request))
  | registerDuplicate {requestId : String} {request : Nat} : w.threads thread = .registerInsert requestId request →
      w.entries[requestId]? ≠ none →
      Step w thread (w.unlock.go thread (.returned .duplicate))
  | registerInserts {requestId : String} {request : Nat} : w.threads thread = .registerInsert requestId request →
      w.entries[requestId]? = none →
      Step w thread ((w.unlock.setEntries (w.entries.insert requestId request)).go thread
        (.returned (.registered request)))
  -- `cancel`, which holds the lock to its end
  | cancelLocks {requestId : String} : w.threads thread = .cancelLock requestId → w.locked = none →
      Step w thread ((w.lock thread).go thread (.cancelLookup requestId))
  | cancelMisses {requestId : String} : w.threads thread = .cancelLookup requestId → w.entries[requestId]? = none →
      Step w thread (w.unlock.go thread (.returned .notCancelled))
  | cancelFinds {requestId : String} {request : Nat} : w.threads thread = .cancelLookup requestId →
      w.entries[requestId]? = some request →
      Step w thread (w.go thread (.cancelStore requestId request))
  | cancelStores {requestId : String} {request : Nat} : w.threads thread = .cancelStore requestId request →
      Step w thread ((w.storeCancelled request).go thread (.cancelSwap requestId request))
  | cancelLoses {requestId : String} {request : Nat} : w.threads thread = .cancelSwap requestId request →
      w.phase request ≠ some .pending →
      Step w thread (w.unlock.go thread (.returned .notCancelled))
  | cancelSwaps {requestId : String} {request : Nat} : w.threads thread = .cancelSwap requestId request →
      w.phase request = some .pending →
      Step w thread ((w.storePhase request .responded).go thread (.cancelRemove requestId request))
  | cancelRemoves {requestId : String} {request : Nat} : w.threads thread = .cancelRemove requestId request →
      Step w thread ((w.unlock.setEntries (w.entries.erase requestId)).go thread
        (.returned (.cancelled request)))
  -- `cancel_all`, which takes the entries under the lock and goes through them without it, in any order
  | cancelAllLocks : w.threads thread = .cancelAllLock → w.locked = none →
      Step w thread ((w.lock thread).go thread .cancelAllTake)
  | cancelAllTakes {order : List Nat} : w.threads thread = .cancelAllTake →
      order.Perm (w.entries.toList.map Prod.snd) →
      Step w thread ((w.unlock.setEntries ∅).go thread (.cancelAllStore order))
  | cancelAllStores {request : Nat} {rest : List Nat} : w.threads thread = .cancelAllStore (request :: rest) →
      Step w thread ((w.storeCancelled request).go thread (.cancelAllPhase request rest))
  | cancelAllPhases {request : Nat} {rest : List Nat} : w.threads thread = .cancelAllPhase request rest →
      Step w thread ((w.storePhase request .responded).go thread (.cancelAllStore rest))
  | cancelAllReturns : w.threads thread = .cancelAllStore [] →
      Step w thread (w.go thread (.returned .allCancelled))
  -- `begin_execution`
  | beginSwaps {request : Nat} : w.threads thread = .beginSwap request → w.phase request = some .pending →
      Step w thread ((w.storePhase request .executing).go thread (.returned (.beginExecution request true)))
  | beginLoses {request : Nat} : w.threads thread = .beginSwap request → w.phase request ≠ some .pending →
      Step w thread (w.go thread (.returned (.beginExecution request false)))
  -- `claim_deadline_response` and `claim_response`
  | deadlineStores {request : Nat} : w.threads thread = .deadlineStore request →
      Step w thread ((w.storeCancelled request).go thread (.claimLoad .deadline request))
  | claimRefused {kind : ClaimKind} {request : Nat} : w.threads thread = .claimLoad kind request →
      w.phase request = some .responded →
      Step w thread (w.go thread (.returned (kind.refused request)))
  | claimLoads {kind : ClaimKind} {request : Nat} {phase : RequestPhase} : w.threads thread = .claimLoad kind request →
      w.phase request = some phase → phase ≠ .responded →
      Step w thread (w.go thread (.claimSwap kind request phase))
  | claimRetries {kind : ClaimKind} {request : Nat} {phase : RequestPhase} :
      w.threads thread = .claimSwap kind request phase → w.phase request ≠ some phase →
      Step w thread (w.go thread (.claimLoad kind request))
  | claimSwaps {kind : ClaimKind} {request : Nat} {phase : RequestPhase} :
      w.threads thread = .claimSwap kind request phase → w.phase request = some phase →
      Step w thread ((w.storePhase request .responded).go thread (.removeLock kind request phase))
  -- `remove_from_registry`
  | removeLocks {kind : ClaimKind} {request : Nat} {phase : RequestPhase} :
      w.threads thread = .removeLock kind request phase → w.locked = none →
      Step w thread ((w.lock thread).go thread (.removeEntry kind request phase))
  | removeOwn {kind : ClaimKind} {request : Nat} {phase : RequestPhase} {state : PendingRequestState} :
      w.threads thread = .removeEntry kind request phase → w.heap[request]? = some state →
      w.entries[state.requestId]? = some request →
      Step w thread ((w.unlock.setEntries (w.entries.erase state.requestId)).go thread
        (.returned (kind.claimed request phase)))
  | removeOther {kind : ClaimKind} {request : Nat} {phase : RequestPhase} {state : PendingRequestState} :
      w.threads thread = .removeEntry kind request phase → w.heap[request]? = some state →
      w.entries[state.requestId]? ≠ some request →
      Step w thread (w.unlock.go thread (.returned (kind.claimed request phase)))

/-- Steps of any threads, in any order. -/
def Runs : World → World → Prop := Relation.ReflTransGen fun w w' => ∃ thread, Step w thread w'

end VaultKern.ResidentIpc
