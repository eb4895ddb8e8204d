import Mathlib.Data.List.Induction
import Mathlib.Data.List.Perm.Basic
import Mathlib.Logic.Relation

/-! # One request at a time

Requests wait in a line and are posted on a port one by one. The next one is posted when the last one is
answered; a port on which a request is given up is left. A request may pass those that it is allowed to
pass. What happened is in a log, and the log tells all that a state has.
-/

namespace OneAtATime

/-- Requests have numbers, in the order in which they are sent, with what is known of them. -/
inductive Action (P A I : Type) where
  | sent (request : Nat) (info : I)
  | posted (request : Nat) (port : P)
  | resolved (request : Nat) (port : P) (answer : A)
  | rejected (request : Nat)

structure State (P A I : Type) where
  queue : List Nat
  active : Option Nat
  port : Option P
  log : List (Action P A I)

variable {P A I : Type}

/-! ## What a log tells -/

def Settled (log : List (Action P A I)) (request : Nat) : Prop :=
  (∃ port answer, .resolved request port answer ∈ log) ∨ .rejected request ∈ log

def Sent (log : List (Action P A I)) (request : Nat) : Prop := ∃ info, .sent request info ∈ log

def Posted (log : List (Action P A I)) (request : Nat) : Prop := ∃ port, .posted request port ∈ log

structure Waiting (log : List (Action P A I)) (request : Nat) : Prop where
  sent : Sent log request
  unposted : ¬Posted log request
  unsettled : ¬Settled log request

/-- What may happen after a log: `answers` tells which answers are of a request on a port, and `passes`
which requests may be posted before others that were sent before them. -/
def Permitted (answers : Nat → P → A → Prop) (passes : I → I → Prop) (before : List (Action P A I)) :
    Action P A I → Prop
  | .sent request _ => ∀ other, Sent before other → other < request
  | .posted request port => Waiting before request ∧
      (∀ other, .posted other port ∈ before → ∃ answer, .resolved other port answer ∈ before) ∧
      ∀ other info info', other < request → Waiting before other → .sent request info ∈ before →
        .sent other info' ∈ before → passes info info'
  | .resolved request port answer => .posted request port ∈ before ∧ ¬Settled before request ∧ answers request port answer
  | .rejected request => Sent before request ∧ ¬Settled before request

/-- Everything in the log was permitted when it happened. -/
def History (answers : Nat → P → A → Prop) (passes : I → I → Prop) (log : List (Action P A I)) : Prop :=
  ∀ before action after, log = before ++ action :: after → Permitted answers passes before action

section Logs

variable {answers : Nat → P → A → Prop} {passes : I → I → Prop} {log : List (Action P A I)} {action : Action P A I}

theorem History.nil : History answers passes ([] : List (Action P A I)) := by
  intro before action after same
  cases before <;> cases same

theorem History.snoc (history : History answers passes log) (permitted : Permitted answers passes log action) :
    History answers passes (log ++ [action]) := by
  intro before other after same
  induction after using List.reverseRecOn with
  | nil =>
      obtain ⟨rfl, last⟩ := List.append_inj' same rfl
      cases last
      exact permitted
  | append_singleton after x _ =>
      rw [← List.cons_append, ← List.append_assoc] at same
      obtain ⟨rfl, _⟩ := List.append_inj' same rfl
      exact history before other after rfl

theorem History.sent_of_posted (history : History answers passes log) {request : Nat} (posted : Posted log request) :
    Sent log request := by
  obtain ⟨port, member⟩ := posted
  obtain ⟨before, after, rfl⟩ := List.append_of_mem member
  obtain ⟨⟨⟨info, sent⟩, _, _⟩, _⟩ := history before _ after rfl
  exact ⟨info, List.mem_append_left _ sent⟩

theorem History.sent_of_settled (history : History answers passes log) {request : Nat} (settled : Settled log request) :
    Sent log request := by
  rcases settled with ⟨port, answer, member⟩ | member
  · obtain ⟨before, after, rfl⟩ := List.append_of_mem member
    obtain ⟨posted, _, _⟩ := history before _ after rfl
    exact history.sent_of_posted ⟨port, List.mem_append_left _ posted⟩
  · obtain ⟨before, after, rfl⟩ := List.append_of_mem member
    obtain ⟨⟨info, sent⟩, _⟩ := history before _ after rfl
    exact ⟨info, List.mem_append_left _ sent⟩

theorem History.sent_once (history : History answers passes log) {request : Nat} {info info' : I}
    (sent : .sent request info ∈ log) (sent' : .sent request info' ∈ log) : info = info' := by
  induction log using List.reverseRecOn with
  | nil => cases sent
  | append_singleton log last ih =>
      have permitted := history log last [] rfl
      have older : ∀ {i}, .sent request i ∈ log → ∀ {i'}, last ≠ .sent request i' := by
        rintro i old i' rfl
        exact absurd (permitted request ⟨i, old⟩) (Nat.lt_irrefl _)
      rcases List.mem_append.mp sent with old | new <;> rcases List.mem_append.mp sent' with old' | new'
      · apply ih _ old old'
        intro before action after same
        apply history before action (after ++ [last])
        rw [same, List.append_assoc, List.cons_append]
      · exact absurd (List.mem_singleton.mp new').symm (older old)
      · exact absurd (List.mem_singleton.mp new).symm (older old')
      · have same := (List.mem_singleton.mp new).trans (List.mem_singleton.mp new').symm
        cases same
        rfl

theorem settled_snoc {request : Nat} : Settled (log ++ [action]) request ↔
    Settled log request ∨ (∃ port answer, action = .resolved request port answer) ∨ action = .rejected request := by
  unfold Settled
  simp only [List.mem_append, List.mem_singleton]
  grind

theorem sent_snoc {request : Nat} : Sent (log ++ [action]) request ↔
    Sent log request ∨ ∃ info, action = .sent request info := by
  unfold Sent
  simp only [List.mem_append, List.mem_singleton]
  grind

theorem posted_snoc {request : Nat} : Posted (log ++ [action]) request ↔
    Posted log request ∨ ∃ port, action = .posted request port := by
  unfold Posted
  simp only [List.mem_append, List.mem_singleton]
  grind

end Logs

/-! ## Steps -/

/-- One step of a line. -/
inductive Effect (answers : Nat → P → A → Prop) (passes : I → I → Prop) (s : State P A I) : State P A I → Prop where
  | send (request : Nat) (info : I) (ahead behind : List Nat) :
      s.queue = ahead ++ behind → (∀ other, Sent s.log other → other < request) →
      (∀ other ∈ behind, ∀ info', .sent other info' ∈ s.log → passes info info') →
      Effect answers passes s { s with queue := ahead ++ request :: behind, log := s.log ++ [.sent request info] }
  | drop (request : Nat) (ahead behind : List Nat) : s.queue = ahead ++ request :: behind →
      Effect answers passes s { s with queue := ahead ++ behind, log := s.log ++ [.rejected request] }
  | connect (port : P) : s.active = none → (∀ request, .posted request port ∉ s.log) →
      Effect answers passes s { s with port := some port }
  | post (request : Nat) (rest : List Nat) (port : P) : s.queue = request :: rest → s.active = none →
      s.port = some port →
      Effect answers passes s { s with queue := rest, active := some request, log := s.log ++ [.posted request port] }
  | answer (request : Nat) (port : P) (answer : A) : s.active = some request → s.port = some port →
      answers request port answer →
      Effect answers passes s { s with active := none, log := s.log ++ [.resolved request port answer] }
  | abandon (request : Nat) : s.active = some request →
      Effect answers passes s { s with active := none, port := none, log := s.log ++ [.rejected request] }
  | detach : s.active = none → Effect answers passes s { s with port := none }

/-- The state is what the log tells. -/
structure Orderly (answers : Nat → P → A → Prop) (passes : I → I → Prop) (s : State P A I) : Prop where
  history : History answers passes s.log
  nodup : s.queue.Nodup
  waiting : ∀ request, request ∈ s.queue ↔ Waiting s.log request
  active : ∀ request, s.active = some request → ¬Settled s.log request ∧
    ∃ port, s.port = some port ∧ .posted request port ∈ s.log
  port : ∀ port, s.port = some port → ∀ request, .posted request port ∈ s.log →
    s.active = some request ∨ ∃ answer, .resolved request port answer ∈ s.log
  order : s.queue.Pairwise fun request other => other < request → ∀ info info', .sent request info ∈ s.log →
    .sent other info' ∈ s.log → passes info info'

variable {answers : Nat → P → A → Prop} {passes : I → I → Prop} {s s' : State P A I}

theorem Orderly.initial (port : Option P) : Orderly answers passes { queue := [], active := none, port, log := [] } where
  history := .nil
  nodup := List.nodup_nil
  waiting request := by
    constructor
    · intro member
      cases member
    · intro waiting
      obtain ⟨_, sent⟩ := waiting.sent
      cases sent
  active := nofun
  port _ _ _ posted := by cases posted
  order := .nil

section Steps

variable (orderly : Orderly answers passes s)
include orderly

theorem Orderly.sent_of_queued {request : Nat} (queued : request ∈ s.queue) : Sent s.log request :=
  ((orderly.waiting request).mp queued).sent

/-- The orders of two queues agree where the log tells the same of their requests. -/
theorem Orderly.order_of_sublist {queue : List Nat} {log : List (Action P A I)} (part : queue.Sublist s.queue)
    (same : ∀ request ∈ queue, ∀ info, .sent request info ∈ log → .sent request info ∈ s.log) :
    queue.Pairwise fun request other => other < request → ∀ info info', .sent request info ∈ log →
      .sent other info' ∈ log → passes info info' := by
  apply (orderly.order.sublist part).imp_of_mem
  intro request other member member' pair later info info' sent sent'
  exact pair later info info' (same request member info sent) (same other member' info' sent')

theorem Orderly.send {request : Nat} {info : I} {ahead behind : List Nat} (split : s.queue = ahead ++ behind)
    (fresh : ∀ other, Sent s.log other → other < request)
    (pass : ∀ other ∈ behind, ∀ info', .sent other info' ∈ s.log → passes info info') :
    Orderly answers passes
      { s with queue := ahead ++ request :: behind, log := s.log ++ [.sent request info] } := by
  have unsent : ¬Sent s.log request := fun sent => absurd (fresh request sent) (Nat.lt_irrefl _)
  have members : ∀ other, other ∈ ahead ++ request :: behind ↔ other = request ∨ other ∈ s.queue := by
    intro other
    rw [split]
    simp only [List.mem_append, List.mem_cons]
    tauto
  have known : ∀ other ∈ s.queue, ∀ info', .sent other info' ∈ s.log ++ [.sent request info] →
      .sent other info' ∈ s.log := by
    intro other queued info' sent
    rcases List.mem_append.mp sent with old | new
    · exact old
    · cases List.mem_singleton.mp new
      exact absurd (orderly.sent_of_queued queued) unsent
  constructor
  · exact orderly.history.snoc fresh
  · have perm : (ahead ++ request :: behind).Perm (request :: s.queue) := by
      rw [split]
      exact List.perm_middle
    rw [perm.nodup_iff, List.nodup_cons]
    exact ⟨fun queued => unsent (orderly.sent_of_queued queued), orderly.nodup⟩
  · intro other
    change other ∈ ahead ++ request :: behind ↔ _
    rw [members, orderly.waiting]
    constructor
    · rintro (rfl | waiting)
      · refine ⟨sent_snoc.mpr (.inr ⟨info, rfl⟩), ?_, ?_⟩
        · intro posted
          rcases posted_snoc.mp posted with old | ⟨_, new⟩
          · exact unsent (orderly.history.sent_of_posted old)
          · cases new
        · intro settled
          rcases settled_snoc.mp settled with old | ⟨_, _, new⟩ | new
          · exact unsent (orderly.history.sent_of_settled old)
          · cases new
          · cases new
      · exact ⟨sent_snoc.mpr (.inl waiting.sent), by simpa [posted_snoc] using waiting.unposted,
          by simpa [settled_snoc] using waiting.unsettled⟩
    · intro waiting
      rcases sent_snoc.mp waiting.sent with old | ⟨info', new⟩
      · exact .inr ⟨old, fun posted => waiting.unposted (posted_snoc.mpr (.inl posted)),
          fun settled => waiting.unsettled (settled_snoc.mpr (.inl settled))⟩
      · cases new
        exact .inl rfl
  · intro other active
    obtain ⟨unsettled, port, here, posted⟩ := orderly.active other active
    exact ⟨by simpa [settled_snoc] using unsettled, port, here, List.mem_append_left _ posted⟩
  · intro port here other posted
    rcases List.mem_append.mp posted with old | new
    · rcases orderly.port port here other old with active | ⟨answer, resolved⟩
      · exact .inl active
      · exact .inr ⟨answer, List.mem_append_left _ resolved⟩
    · cases List.mem_singleton.mp new
  · have old := orderly.order_of_sublist (List.Sublist.refl _) known
    rw [split] at old known
    rw [List.pairwise_append] at old
    obtain ⟨front, back, across⟩ := old
    change List.Pairwise _ (ahead ++ request :: behind)
    rw [List.pairwise_append]
    refine ⟨front, List.pairwise_cons.mpr ⟨?_, back⟩, ?_⟩
    · intro other member later info₁ info' sent sent'
      have told : info₁ = info := by
        rcases List.mem_append.mp sent with earlier | new
        · exact absurd ⟨info₁, earlier⟩ unsent
        · cases List.mem_singleton.mp new
          rfl
      rw [told]
      exact pass other member info' (known other (List.mem_append_right _ member) info' sent')
    · intro other member last member'
      rcases List.mem_cons.mp member' with rfl | behind'
      · intro later
        have sent : Sent s.log other := by
          apply orderly.sent_of_queued
          rw [split]
          exact List.mem_append_left _ member
        exact absurd (fresh other sent) (Nat.lt_asymm later)
      · exact across other member last behind'

theorem Orderly.drop {request : Nat} {ahead behind : List Nat} (split : s.queue = ahead ++ request :: behind) :
    Orderly answers passes { s with queue := ahead ++ behind, log := s.log ++ [.rejected request] } := by
  have queued : request ∈ s.queue := by
    rw [split]
    exact List.mem_append_right _ List.mem_cons_self
  have waited := (orderly.waiting request).mp queued
  have nodup := orderly.nodup
  rw [split, List.perm_middle.nodup_iff, List.nodup_cons] at nodup
  have members : ∀ other, other ∈ ahead ++ behind ↔ other ∈ s.queue ∧ other ≠ request := by
    intro other
    rw [split]
    constructor
    · intro member
      refine ⟨?_, ?_⟩
      · rcases List.mem_append.mp member with front | back
        · exact List.mem_append_left _ front
        · exact List.mem_append_right _ (List.mem_cons_of_mem _ back)
      · rintro rfl
        exact nodup.1 member
    · rintro ⟨member, different⟩
      rcases List.mem_append.mp member with front | back
      · exact List.mem_append_left _ front
      · exact List.mem_append_right _ ((List.mem_cons.mp back).resolve_left different)
  constructor
  · exact orderly.history.snoc ⟨waited.sent, waited.unsettled⟩
  · exact nodup.2
  · intro other
    change other ∈ ahead ++ behind ↔ _
    rw [members, orderly.waiting]
    constructor
    · rintro ⟨waiting, different⟩
      refine ⟨sent_snoc.mpr (.inl waiting.sent), by simpa [posted_snoc] using waiting.unposted, ?_⟩
      intro settled
      rcases settled_snoc.mp settled with old | ⟨_, _, new⟩ | new
      · exact waiting.unsettled old
      · cases new
      · cases new
        exact different rfl
    · intro waiting
      refine ⟨⟨by simpa [sent_snoc] using waiting.sent, by simpa [posted_snoc] using waiting.unposted, ?_⟩, ?_⟩
      · exact fun settled => waiting.unsettled (settled_snoc.mpr (.inl settled))
      · rintro rfl
        exact waiting.unsettled (settled_snoc.mpr (.inr (.inr rfl)))
  · intro other active
    obtain ⟨unsettled, port, here, posted⟩ := orderly.active other active
    refine ⟨?_, port, here, List.mem_append_left _ posted⟩
    intro settled
    rcases settled_snoc.mp settled with old | ⟨_, _, new⟩ | new
    · exact unsettled old
    · cases new
    · cases new
      exact waited.unposted ⟨port, posted⟩
  · intro port here other posted
    rcases List.mem_append.mp posted with old | new
    · rcases orderly.port port here other old with active | ⟨answer, resolved⟩
      · exact .inl active
      · exact .inr ⟨answer, List.mem_append_left _ resolved⟩
    · cases List.mem_singleton.mp new
  · apply orderly.order_of_sublist
    · rw [split]
      exact (List.sublist_cons_self _ _).append_left ahead
    · intro other _ info sent
      exact (List.mem_append.mp sent).resolve_right (by simp)

/-- Nothing waits or is posted otherwise when the port is another one. -/
theorem Orderly.leave {port : Option P} (idle : s.active = none)
    (fresh : ∀ p, port = some p → ∀ request, .posted request p ∉ s.log) :
    Orderly answers passes { s with port } where
  history := orderly.history
  nodup := orderly.nodup
  waiting := orderly.waiting
  active request active := by
    rw [idle] at active
    cases active
  port p here request posted := absurd posted (fresh p here request)
  order := orderly.order

theorem Orderly.post {request : Nat} {rest : List Nat} {port : P} (split : s.queue = request :: rest)
    (idle : s.active = none) (here : s.port = some port) :
    Orderly answers passes
      { s with queue := rest, active := some request, log := s.log ++ [.posted request port] } := by
  have nodup := orderly.nodup
  have order := orderly.order
  rw [split] at nodup order
  rw [List.nodup_cons] at nodup
  rw [List.pairwise_cons] at order
  have waited : Waiting s.log request := by
    apply (orderly.waiting request).mp
    rw [split]
    exact List.mem_cons_self
  constructor
  · apply orderly.history.snoc
    refine ⟨waited, ?_, ?_⟩
    · intro other posted
      rcases orderly.port port here other posted with active | resolved
      · rw [idle] at active
        cases active
      · exact resolved
    · intro other info info' earlier waiting sent sent'
      have queued := (orderly.waiting other).mpr waiting
      rw [split] at queued
      rcases List.mem_cons.mp queued with rfl | behind
      · exact absurd earlier (Nat.lt_irrefl _)
      · exact order.1 other behind earlier info info' sent sent'
  · exact nodup.2
  · intro other
    have members : other ∈ rest ↔ other ∈ s.queue ∧ other ≠ request := by
      rw [split, List.mem_cons]
      constructor
      · intro member
        refine ⟨.inr member, ?_⟩
        rintro rfl
        exact nodup.1 member
      · rintro ⟨member, different⟩
        exact member.resolve_left different
    change other ∈ rest ↔ _
    rw [members, orderly.waiting]
    constructor
    · rintro ⟨waiting, different⟩
      refine ⟨sent_snoc.mpr (.inl waiting.sent), ?_, by simpa [settled_snoc] using waiting.unsettled⟩
      intro posted
      rcases posted_snoc.mp posted with old | ⟨_, new⟩
      · exact waiting.unposted old
      · cases new
        exact different rfl
    · intro waiting
      refine ⟨⟨by simpa [sent_snoc] using waiting.sent, ?_, by simpa [settled_snoc] using waiting.unsettled⟩, ?_⟩
      · exact fun posted => waiting.unposted (posted_snoc.mpr (.inl posted))
      · rintro rfl
        exact waiting.unposted (posted_snoc.mpr (.inr ⟨port, rfl⟩))
  · intro other active
    cases active
    exact ⟨by simpa [settled_snoc] using waited.unsettled, port, here,
      List.mem_append_right _ (List.mem_singleton_self _)⟩
  · intro other here' first posted
    rcases List.mem_append.mp posted with old | new
    · rcases orderly.port other here' first old with active | ⟨answer, resolved⟩
      · rw [idle] at active
        cases active
      · exact .inr ⟨answer, List.mem_append_left _ resolved⟩
    · cases List.mem_singleton.mp new
      exact .inl rfl
  · apply orderly.order_of_sublist
    · rw [split]
      exact List.sublist_cons_self _ _
    · intro other _ info sent
      exact (List.mem_append.mp sent).resolve_right (by simp)

/-- What was posted is settled, and the port may be left. -/
theorem Orderly.settle {request : Nat} {port : Option P} {action : Action P A I} (active : s.active = some request)
    (permitted : Permitted answers passes s.log action)
    (settles : (∃ port answer, action = .resolved request port answer) ∨ action = .rejected request)
    (kept : ∀ p, port = some p → s.port = some p ∧ ∃ answer, action = .resolved request p answer) :
    Orderly answers passes { s with active := none, port, log := s.log ++ [action] } := by
  obtain ⟨unsettled, at_, _, wasPosted⟩ := orderly.active request active
  have unsent : ∀ other info, .sent other info ∈ s.log ++ [action] → .sent other info ∈ s.log := by
    intro other info sent
    apply (List.mem_append.mp sent).resolve_right
    rcases settles with ⟨_, _, rfl⟩ | rfl <;> simp
  have unposted : ∀ other p, .posted other p ∈ s.log ++ [action] → .posted other p ∈ s.log := by
    intro other p posted
    apply (List.mem_append.mp posted).resolve_right
    rcases settles with ⟨_, _, rfl⟩ | rfl <;> simp
  have settled : ∀ other, Settled (s.log ++ [action]) other ↔ Settled s.log other ∨ other = request := by
    intro other
    rw [settled_snoc]
    rcases settles with ⟨p, answer, rfl⟩ | rfl
    · simp [eq_comm]
    · simp [eq_comm]
  constructor
  · exact orderly.history.snoc permitted
  · exact orderly.nodup
  · intro other
    change other ∈ s.queue ↔ _
    rw [orderly.waiting]
    constructor
    · intro waiting
      obtain ⟨info, sent⟩ := waiting.sent
      refine ⟨⟨info, List.mem_append_left _ sent⟩, ?_, ?_⟩
      · rintro ⟨p, posted⟩
        exact waiting.unposted ⟨p, unposted other p posted⟩
      · intro done
        rcases (settled other).mp done with old | rfl
        · exact waiting.unsettled old
        · exact waiting.unposted ⟨at_, wasPosted⟩
    · intro waiting
      obtain ⟨info, sent⟩ := waiting.sent
      refine ⟨⟨info, unsent other info sent⟩, ?_, ?_⟩
      · rintro ⟨p, posted⟩
        exact waiting.unposted ⟨p, List.mem_append_left _ posted⟩
      · exact fun done => waiting.unsettled ((settled other).mpr (.inl done))
  · intro other none
    cases none
  · intro p here other posted
    obtain ⟨there, answer, rfl⟩ := kept p here
    right
    rcases orderly.port p there other (unposted other p posted) with active' | ⟨answer', resolved⟩
    · rw [active] at active'
      cases active'
      exact ⟨answer, List.mem_append_right _ (List.mem_singleton_self _)⟩
    · exact ⟨answer', List.mem_append_left _ resolved⟩
  · exact orderly.order_of_sublist (List.Sublist.refl _) fun other _ => unsent other

theorem Orderly.effect (effect : Effect answers passes s s') : Orderly answers passes s' := by
  cases effect with
  | send request info ahead behind split fresh pass => exact orderly.send split fresh pass
  | drop request ahead behind split => exact orderly.drop split
  | connect port idle fresh =>
      apply orderly.leave idle
      intro p same
      cases same
      exact fresh
  | post request rest port split idle here => exact orderly.post split idle here
  | answer request port answer active here belongs =>
      obtain ⟨unsettled, port', here', posted⟩ := orderly.active request active
      rw [here] at here'
      cases here'
      have permitted : Permitted answers passes s.log (.resolved request port answer) := ⟨posted, unsettled, belongs⟩
      apply orderly.settle active permitted (.inl ⟨port, answer, rfl⟩)
      intro p same
      rw [here] at same
      cases same
      exact ⟨here, answer, rfl⟩
  | abandon request active =>
      obtain ⟨unsettled, port, _, posted⟩ := orderly.active request active
      have permitted : Permitted answers passes s.log (.rejected request) :=
        ⟨orderly.history.sent_of_posted ⟨port, posted⟩, unsettled⟩
      exact orderly.settle active permitted (.inr rfl) nofun
  | detach idle => exact orderly.leave idle nofun

theorem Orderly.effects (effects : Relation.ReflTransGen (Effect answers passes) s s') : Orderly answers passes s' := by
  induction effects with
  | refl => exact orderly
  | tail _ effect ih => exact ih.effect effect

end Steps

/-! ## Lists of effects -/

/-- The log only grows, and an answer in the new part is one that is allowed. -/
theorem Effect.appends (effects : Relation.ReflTransGen (Effect answers passes) s s') :
    ∃ more, s'.log = s.log ++ more ∧ ∀ request port answer, .resolved request port answer ∈ more →
      answers request port answer := by
  induction effects with
  | refl => exact ⟨[], (List.append_nil _).symm, nofun⟩
  | tail _ effect ih =>
      obtain ⟨more, grown, allowed⟩ := ih
      have one : ∀ action : Action P A I, (∀ request port answer, action = .resolved request port answer →
          answers request port answer) → ∃ more', s.log ++ more ++ [action] = s.log ++ more' ∧
            ∀ request port answer, .resolved request port answer ∈ more' → answers request port answer := by
        intro action good
        refine ⟨more ++ [action], List.append_assoc _ _ _, ?_⟩
        intro request port answer member
        rcases List.mem_append.mp member with old | new
        · exact allowed request port answer old
        · exact good request port answer (List.mem_singleton.mp new).symm
      cases effect with
      | connect | detach => exact ⟨more, grown, allowed⟩
      | answer request port answer _ _ belongs =>
          rw [grown]
          apply one
          rintro _ _ _ ⟨⟩
          exact belongs
      | send | drop | post | abandon =>
          rw [grown]
          exact one _ nofun

theorem Effect.weaken {answers' : Nat → P → A → Prop}
    (weaker : ∀ request port answer, answers request port answer → answers' request port answer)
    (effects : Relation.ReflTransGen (Effect answers passes) s s') :
    Relation.ReflTransGen (Effect answers' passes) s s' := by
  induction effects with
  | refl => exact .refl
  | tail _ effect ih =>
      apply ih.tail
      cases effect with
      | send request info ahead behind split fresh pass => exact .send request info ahead behind split fresh pass
      | drop request ahead behind split => exact .drop request ahead behind split
      | connect port idle fresh => exact .connect port idle fresh
      | post request rest port split idle here => exact .post request rest port split idle here
      | answer request port answer active here belongs =>
          exact .answer request port answer active here (weaker request port answer belongs)
      | abandon request active => exact .abandon request active
      | detach idle => exact .detach idle

/-- All that wait are rejected, from the front. -/
theorem Effect.dropAll (s : State P A I) : Relation.ReflTransGen (Effect answers passes) s
    { s with queue := [], log := s.log ++ s.queue.map .rejected } := by
  obtain ⟨queue, active, port, log⟩ := s
  induction queue generalizing log with
  | nil =>
      simp only [List.map_nil, List.append_nil]
      exact .refl
  | cons request rest ih =>
      apply Relation.ReflTransGen.head (Effect.drop request [] rest rfl)
      have step := ih (log ++ [.rejected request])
      rw [List.append_assoc] at step
      exact step

/-- Some of those that wait are rejected, from the end. -/
theorem Effect.dropSome {B : Type} (number : B → Nat) (out : B → Bool) (items : List B) (s : State P A I)
    (queue : s.queue = items.map number) : Relation.ReflTransGen (Effect answers passes) s
    { s with
      queue := (items.filter (!out ·)).map number
      log := s.log ++ (items.reverse.filter out).map fun item => .rejected (number item) } := by
  obtain ⟨_, active, port, log⟩ := s
  cases queue
  have through : ∀ kept log, Relation.ReflTransGen (Effect answers passes)
      ⟨items.map number ++ kept, active, port, log⟩ ⟨(items.filter (!out ·)).map number ++ kept, active, port,
        log ++ (items.reverse.filter out).map fun item => .rejected (number item)⟩ := by
    induction items using List.reverseRecOn with
    | nil =>
        intro kept log
        simp only [List.filter_nil, List.reverse_nil, List.map_nil, List.append_nil]
        exact .refl
    | append_singleton xs x ih =>
        intro kept log
        rw [List.reverse_append, List.filter_append, List.map_append, List.append_assoc]
        cases leaves : out x with
        | false =>
            have step := ih (number x :: kept) log
            simpa [leaves] using step
        | true =>
            apply Relation.ReflTransGen.head (Effect.drop (number x) (xs.map number) kept rfl)
            have step := ih kept (log ++ [.rejected (number x)])
            simpa [leaves] using step
  have whole := through [] log
  rw [List.append_nil, List.append_nil] at whole
  exact whole

end OneAtATime
