import Mathlib.Data.List.Induction
import MessageBus.Broker.Request
import MessageBus.Proofs.Broker.Calls

/-!
# Runs of the broker

A run is a list of requests in any order: calls of the transport, granted or not, and turns of its
switches. What a request does to messages is a short list of effects, and the history of a run is
read off these effects: the deliveries that were made, the sequence numbers that were handed out,
what was abandoned, what was completed and what was forgotten.
-/

namespace MessageBus.Broker

def start (maxBatchSize : Nat) : Broker := { maxBatchSize := maxBatchSize }

/-- The part of the broker that holds messages and counts them. -/
structure Contents where
  pending : List (String × Received)
  inFlight : List (String × Received)
  deadLetters : List (String × Received)
  scheduled : List Scheduled
  sequence : Int
  locks : Nat

def contents (b : Broker) : Contents :=
  ⟨b.pending, b.inFlight, b.deadLetters, b.scheduled, b.sequence, b.locks⟩

/-- What may happen to messages. A settlement names the receiver's entity and the entry that was
locked. -/
inductive Effect
  | deliver (places : List (String × Message))
  | schedule (entity : String) (due : Int) (ms : List Message)
  | withdraw (keep : Scheduled → Bool)
  | lock (path : String) (most : Nat)
  | complete (entry : String × Received)
  | abandon (path : String) (entry : String × Received)
  | deadLetter (path : String) (entry : String × Received)
  | clear

def Effect.entry? : Effect → Option (String × Received)
  | .complete entry | .abandon _ entry | .deadLetter _ entry => some entry
  | _ => none

namespace Contents

def unlock (c : Contents) (token : LockToken) : Contents :=
  { c with inFlight := c.inFlight.filter (·.2.lockToken != token) }

def apply (c : Contents) : Effect → Contents
  | .deliver places =>
    { c with
      pending := c.pending ++ stamped c.sequence c.locks places
      sequence := c.sequence + places.length
      locks := c.locks + places.length }
  | .schedule entity due ms =>
    { c with
      scheduled := c.scheduled ++ scheduleEntries entity due c.sequence ms
      sequence := c.sequence + ms.length }
  | .withdraw keep => { c with scheduled := c.scheduled.filter keep }
  | .lock path most =>
    { c with
      pending := (takeFor path most c.pending).2
      inFlight := c.inFlight ++ (takeFor path most c.pending).1.map (path, ·) }
  | .complete entry => c.unlock entry.2.lockToken
  | .abandon path entry =>
    { c.unlock entry.2.lockToken with
      pending := (path, redelivered c.locks entry.2) :: c.pending
      locks := c.locks + 1 }
  | .deadLetter path entry =>
    { c.unlock entry.2.lockToken with deadLetters := c.deadLetters ++ [(path, entry.2)] }
  | .clear => { c with pending := [], inFlight := [], deadLetters := [], scheduled := [] }

/-- The entry of a settlement is the one that is locked under its token. -/
def Permits (c : Contents) (e : Effect) : Prop :=
  ∀ entry, e.entry? = some entry →
    c.inFlight.find? (·.2.lockToken == entry.2.lockToken) = some entry

end Contents

/-- The effects of a request on the messages of the broker; a refused one has none. -/
def effects (b : Broker) : Request → List Effect
  | .sendBatch s batch =>
    match b.batchProblem? s batch with
    | some _ => []
    | none => [.deliver (b.arrivals s.entity batch.messages)]
  | .sendMessages s ms =>
    match b.sendProblem? s with
    | some _ => []
    | none => [.deliver (b.arrivals s.entity ms)]
  | .schedule s ms due =>
    match b.sendProblem? s with
    | some _ => []
    | none => [.schedule s.entity due ms]
  | .cancelScheduled s numbers =>
    if s.id ∈ b.closed then [] else [.withdraw (·.sequenceNumber ∉ numbers)]
  | .enqueue path m => [.deliver [(path, m)]]
  | .deliverDue now =>
    [.withdraw (fun s => !decide (s.due ≤ now)),
      .deliver (b.scheduledArrivals (b.scheduled.filter (·.due ≤ now)))]
  | .receive path most => [.lock path most]
  | .complete _ r =>
    match b.settleable r with
    | .error _ => []
    | .ok entry => [.complete entry]
  | .abandon path r =>
    match b.settleable r with
    | .error _ => []
    | .ok entry => [.abandon path entry]
  | .deadLetter path r _ =>
    match b.settleable r with
    | .error _ => []
    | .ok entry => [.deadLetter path entry]
  | .clear => [.clear]
  | _ => []

theorem settleable_eq_ok {b : Broker} {r : Received} {entry : String × Received} :
    b.settleable r = .ok entry ↔
      b.failSettlement = false ∧ b.lockedBy r.lockToken = some entry := by
  unfold settleable
  cases b.failSettlement <;> cases b.lockedBy r.lockToken <;> simp

theorem lockedBy_token {b : Broker} {token : LockToken} {entry : String × Received}
    (h : b.lockedBy token = some entry) : entry.2.lockToken = token := by
  simpa using List.find?_some h

theorem token_of_settleable {b : Broker} {r : Received} {entry : String × Received}
    (h : b.settleable r = .ok entry) : entry.2.lockToken = r.lockToken :=
  lockedBy_token (settleable_eq_ok.mp h).2

/-- The effects of a request are all that it does to messages. -/
theorem contents_perform (b : Broker) (q : Request) :
    (b.perform q).contents = (b.effects q).foldl Contents.apply b.contents := by
  cases q with
  | createSubscription topic subscription =>
    simp only [perform, effects, createSubscription, List.foldl_nil]
    split <;> rfl
  | createSender r =>
    simp only [perform, effects, createSender_eq, List.foldl_nil]
    split <;> rfl
  | createBatch s requested =>
    simp only [perform, effects, createBatch_eq, List.foldl_nil]
    split <;> rfl
  | sendBatch s batch =>
    simp only [perform, effects, sendBatch_eq]
    cases b.batchProblem? s batch <;> rfl
  | sendMessages s ms =>
    simp only [perform, effects, sendMessages_eq]
    cases b.sendProblem? s <;> rfl
  | schedule s ms due =>
    simp only [perform, effects, schedule_eq]
    cases b.sendProblem? s <;> rfl
  | cancelScheduled s numbers =>
    simp only [perform, effects, cancelScheduled_eq]
    split <;> rfl
  | close s =>
    change (if s.id ∈ b.closed then b
      else { b.record (.senderClosed s.entity) with closed := s.id :: b.closed }).contents = _
    split <;> rfl
  | enqueue path m => rfl
  | deliverDue now =>
    simp only [perform, effects, deliverDue_eq]
    rfl
  | receive path most => rfl
  | complete path r =>
    simp only [perform, effects, complete_eq]
    cases h : b.settleable r with
    | error problem => rfl
    | ok entry =>
      simp only [List.foldl_cons, List.foldl_nil, Contents.apply, token_of_settleable h]
      rfl
  | abandon path r =>
    simp only [perform, effects, abandon_eq]
    cases h : b.settleable r with
    | error problem => rfl
    | ok entry =>
      simp only [List.foldl_cons, List.foldl_nil, Contents.apply, token_of_settleable h]
      rfl
  | deadLetter path r reason =>
    simp only [perform, effects, deadLetter_eq]
    cases h : b.settleable r with
    | error problem => rfl
    | ok entry =>
      simp only [List.foldl_cons, List.foldl_nil, Contents.apply, token_of_settleable h]
      rfl
  | failSendsTo entity => rfl
  | failSettlement on => rfl
  | clear => rfl

inductive Settlement (r : Received) (entry : String × Received) : Request → Effect → Prop
  | complete (path : String) : Settlement r entry (.complete path r) (.complete entry)
  | abandon (path : String) : Settlement r entry (.abandon path r) (.abandon path entry)
  | deadLetter (path : String) (reason : Option String) :
      Settlement r entry (.deadLetter path r reason) (.deadLetter path entry)

theorem Settlement.entry {r : Received} {entry : String × Received} {q : Request} {e : Effect}
    (h : Settlement r entry q e) : e.entry? = some entry := by
  cases h <;> rfl

/-- A request settles one locked message, or none; and it forgets messages only if it says so. -/
theorem effects_cases (b : Broker) (q : Request) :
    (∀ e ∈ b.effects q, e.entry? = none ∧ (e = .clear → q = .clear)) ∨
      ∃ r entry e, b.settleable r = .ok entry ∧ b.effects q = [e] ∧ Settlement r entry q e := by
  cases q with
  | complete path r =>
    cases h : b.settleable r with
    | error problem => exact .inl (by simp [effects, h])
    | ok entry => exact .inr ⟨r, entry, _, h, by simp only [effects, h], .complete path⟩
  | abandon path r =>
    cases h : b.settleable r with
    | error problem => exact .inl (by simp [effects, h])
    | ok entry => exact .inr ⟨r, entry, _, h, by simp only [effects, h], .abandon path⟩
  | deadLetter path r reason =>
    cases h : b.settleable r with
    | error problem => exact .inl (by simp [effects, h])
    | ok entry => exact .inr ⟨r, entry, _, h, by simp only [effects, h], .deadLetter path reason⟩
  | sendBatch s batch => cases h : b.batchProblem? s batch <;> simp [effects, Effect.entry?, h]
  | sendMessages s ms => cases h : b.sendProblem? s <;> simp [effects, Effect.entry?, h]
  | schedule s ms due => cases h : b.sendProblem? s <;> simp [effects, Effect.entry?, h]
  | cancelScheduled s numbers =>
    by_cases h : s.id ∈ b.closed <;> simp [effects, Effect.entry?, h]
  | _ => simp [effects, Effect.entry?]

theorem clear_mem_effects {b : Broker} {q : Request} : .clear ∈ b.effects q ↔ q = .clear := by
  constructor
  · intro h
    rcases effects_cases b q with plain | ⟨r, entry, e, -, he, settlement⟩
    · exact (plain _ h).2 rfl
    · rw [he, List.mem_singleton] at h
      cases h
      cases settlement
  · rintro rfl
    simp [effects]

theorem abandon_mem_effects {b : Broker} {q : Request} {path : String}
    {entry : String × Received} :
    .abandon path entry ∈ b.effects q ↔
      ∃ r, q = .abandon path r ∧ b.settleable r = .ok entry := by
  constructor
  · intro h
    rcases effects_cases b q with plain | ⟨r, entry', e, ok, he, settlement⟩
    · cases (plain _ h).1
    · rw [he, List.mem_singleton] at h
      cases h
      cases settlement
      exact ⟨r, rfl, ok⟩
  · rintro ⟨r, rfl, ok⟩
    simp [effects, ok]

theorem deadLetter_mem_effects {b : Broker} {q : Request} {path : String}
    {entry : String × Received} :
    .deadLetter path entry ∈ b.effects q ↔
      ∃ r reason, q = .deadLetter path r reason ∧ b.settleable r = .ok entry := by
  constructor
  · intro h
    rcases effects_cases b q with plain | ⟨r, entry', e, ok, he, settlement⟩
    · cases (plain _ h).1
    · rw [he, List.mem_singleton] at h
      cases h
      cases settlement with
      | deadLetter _ reason => exact ⟨r, reason, rfl, ok⟩
  · rintro ⟨r, reason, rfl, ok⟩
    simp [effects, ok]

/-- The rest of the broker but for its log: what it is made of and how its switches are set. -/
structure Setup where
  maxBatchSize : Nat
  subscriptions : List (String × String)
  failing : List String
  failSettlement : Bool
  senders : Nat
  closed : List Nat

def setup (b : Broker) : Setup :=
  ⟨b.maxBatchSize, b.subscriptions, b.failing, b.failSettlement, b.senders, b.closed⟩

def Setup.perform (c : Setup) : Request → Setup
  | .createSubscription topic subscription =>
    let entry := (topic, Resource.subscriptionPath topic subscription)
    if c.subscriptions.contains entry then c
    else { c with subscriptions := c.subscriptions ++ [entry] }
  | .createSender r =>
    if r.kind = .subscription then c else { c with senders := c.senders + 1 }
  | .close s => if s.id ∈ c.closed then c else { c with closed := s.id :: c.closed }
  | .failSendsTo entity => { c with failing := entity :: c.failing }
  | .failSettlement on => { c with failSettlement := on }
  | .clear => { c with subscriptions := [], failing := [], failSettlement := false }
  | _ => c

theorem setup_perform (b : Broker) (q : Request) :
    (b.perform q).setup = b.setup.perform q := by
  cases q with
  | createSubscription topic subscription =>
    let entry := (topic, Resource.subscriptionPath topic subscription)
    simp only [perform, createSubscription, Setup.perform, List.contains_iff_mem]
    exact apply_ite setup (entry ∈ b.subscriptions) ..
  | createSender r =>
    simp only [perform, createSender_eq, Setup.perform]
    split <;> rfl
  | createBatch s requested =>
    simp only [perform, createBatch_eq]
    split <;> rfl
  | sendBatch s batch =>
    simp only [perform, sendBatch_eq]
    cases b.batchProblem? s batch <;> rfl
  | sendMessages s ms =>
    simp only [perform, sendMessages_eq]
    cases b.sendProblem? s <;> rfl
  | schedule s ms due =>
    simp only [perform, schedule_eq]
    cases b.sendProblem? s <;> rfl
  | cancelScheduled s numbers =>
    simp only [perform, cancelScheduled_eq]
    split <;> rfl
  | close s =>
    exact apply_ite setup (s.id ∈ b.closed) ..
  | deliverDue now =>
    simp only [perform, deliverDue_eq]
    rfl
  | complete path r =>
    simp only [perform, complete_eq]
    cases b.settleable r <;> rfl
  | abandon path r =>
    simp only [perform, abandon_eq]
    cases b.settleable r <;> rfl
  | deadLetter path r reason =>
    simp only [perform, deadLetter_eq]
    cases b.settleable r <;> rfl
  | enqueue path m => rfl
  | receive path most => rfl
  | failSendsTo entity => rfl
  | failSettlement on => rfl
  | clear => rfl

structure History where
  /-- Every delivery as it was first made, with the entity it was made to. -/
  delivered : List (String × Received) := []
  /-- Sequence numbers of scheduled messages. -/
  reserved : List Int := []
  /-- Sequence numbers of abandoned messages, once for every time. -/
  abandoned : List Int := []
  completed : List Received := []
  /-- What was there when the broker was cleared. -/
  cleared : List Received := []

structure Account where
  contents : Contents
  history : History

namespace Account

def apply (a : Account) (e : Effect) : Account where
  contents := a.contents.apply e
  history :=
    let h := a.history
    let c := a.contents
    match e with
    | .deliver places => { h with delivered := h.delivered ++ stamped c.sequence c.locks places }
    | .schedule entity due ms =>
      { h with reserved :=
          h.reserved ++ (scheduleEntries entity due c.sequence ms).map (·.sequenceNumber) }
    | .complete entry => { h with completed := h.completed ++ [entry.2] }
    | .abandon _ entry => { h with abandoned := h.abandoned ++ [entry.2.sequenceNumber] }
    | .clear =>
      { h with cleared := h.cleared ++ (c.pending ++ c.inFlight ++ c.deadLetters).map (·.2) }
    | _ => h

theorem contents_foldl (es : List Effect) (a : Account) :
    (es.foldl apply a).contents = es.foldl Contents.apply a.contents := by
  induction es generalizing a with
  | nil => rfl
  | cons e es ih => exact ih _

end Account

def remember (b : Broker) (h : History) (q : Request) : History :=
  ((b.effects q).foldl Account.apply ⟨b.contents, h⟩).history

def history (b : Broker) (h : History) : List Request → History
  | [] => h
  | q :: requests => (b.perform q).history (b.remember h q) requests

theorem history_append (b : Broker) (h : History) (xs ys : List Request) :
    b.history h (xs ++ ys) = (b.run xs).history (b.history h xs) ys := by
  induction xs generalizing b h with
  | nil => rfl
  | cons q xs ih => exact ih _ _

def account (maxBatchSize : Nat) (requests : List Request) : Account :=
  ⟨((start maxBatchSize).run requests).contents, (start maxBatchSize).history {} requests⟩

theorem account_perform (b : Broker) (h : History) (q : Request) :
    (⟨(b.perform q).contents, b.remember h q⟩ : Account) =
      (b.effects q).foldl Account.apply ⟨b.contents, h⟩ := by
  rw [contents_perform, ← Account.contents_foldl (b.effects q) ⟨b.contents, h⟩]
  rfl

theorem account_concat (maxBatchSize : Nat) (requests : List Request) (q : Request) :
    account maxBatchSize (requests ++ [q]) =
      (((start maxBatchSize).run requests).effects q).foldl Account.apply
        (account maxBatchSize requests) := by
  simp only [account, run_append, history_append, ← account_perform]
  rfl

theorem permits_of_plain {e : Effect} (plain : e.entry? = none) (c : Contents) : c.Permits e := by
  simp [Contents.Permits, plain]

theorem permits_of_settleable {b : Broker} {r : Received} {entry : String × Received} {e : Effect}
    (ok : b.settleable r = .ok entry) (he : e.entry? = some entry) : b.contents.Permits e := by
  intro other hother
  rw [he, Option.some.injEq] at hother
  rw [← hother, token_of_settleable ok]
  exact (settleable_eq_ok.mp ok).2

theorem foldl_plain {P : Account → Prop} {es : List Effect} (plain : ∀ e ∈ es, e.entry? = none)
    (step : ∀ a e, P a → e.entry? = none → P (a.apply e)) {a : Account} (before : P a) :
    P (es.foldl Account.apply a) := by
  induction es generalizing a with
  | nil => exact before
  | cons e es ih =>
    exact ih (fun e h => plain e (List.mem_cons_of_mem _ h))
      (step a e before (plain e (List.mem_cons_self ..)))

theorem perform_induction {P : Account → Prop}
    (step : ∀ a e, P a → a.contents.Permits e → P (a.apply e))
    {b : Broker} {h : History} (before : P ⟨b.contents, h⟩) (q : Request) :
    P ((b.effects q).foldl Account.apply ⟨b.contents, h⟩) := by
  rcases effects_cases b q with plain | ⟨r, entry, e, ok, he, settlement⟩
  · exact foldl_plain (fun e he => (plain e he).1)
      (fun a e ha he => step a e ha (permits_of_plain he _)) before
  · rw [he]
    exact step _ e before (permits_of_settleable ok settlement.entry)

theorem run_induction {P : Account → Prop} {maxBatchSize : Nat}
    (start : P (account maxBatchSize []))
    (step : ∀ a e, P a → a.contents.Permits e → P (a.apply e))
    (requests : List Request) : P (account maxBatchSize requests) := by
  induction requests using List.reverseRecOn with
  | nil => exact start
  | append_singleton requests q ih =>
    rw [account_concat]
    exact perform_induction step ih q

/-- A property that only settlements can break holds after a request exactly if its settlement, if
there is one, keeps it. `I` is what is known of every account. -/
theorem perform_iff {I P : Account → Prop} {C : Contents → Effect → Prop}
    (invariant : ∀ a e, I a → a.contents.Permits e → I (a.apply e))
    (plain : ∀ c e, e.entry? = none → C c e)
    (step : ∀ a e, I a → P a → a.contents.Permits e → (P (a.apply e) ↔ C a.contents e))
    {b : Broker} {h : History} (known : I ⟨b.contents, h⟩) (before : P ⟨b.contents, h⟩)
    (q : Request) :
    P ((b.effects q).foldl Account.apply ⟨b.contents, h⟩) ↔ ∀ e ∈ b.effects q, C b.contents e := by
  rcases effects_cases b q with hplain | ⟨r, entry, e, ok, he, settlement⟩
  · have kept (a : Account) (e : Effect) (ha : I a ∧ P a) (he : e.entry? = none) :
        I (a.apply e) ∧ P (a.apply e) := by
      have permitted := permits_of_plain he a.contents
      exact ⟨invariant a e ha.1 permitted, (step a e ha.1 ha.2 permitted).mpr (plain _ e he)⟩
    exact iff_of_true (foldl_plain (fun e he => (hplain e he).1) kept ⟨known, before⟩).2
      fun e he => plain _ e (hplain e he).1
  · have permitted : b.contents.Permits e := permits_of_settleable ok settlement.entry
    rw [he, List.foldl_cons, List.foldl_nil, step _ e known before permitted]
    simp

theorem forall_prefix_iff {P : List Request → Prop} {C : List Request → Request → Prop}
    (nil : P []) (step : ∀ earlier q, P earlier → (P (earlier ++ [q]) ↔ C earlier q))
    (requests : List Request) :
    (∀ earlier, earlier <+: requests → P earlier) ↔
      ∀ earlier q, earlier ++ [q] <+: requests → C earlier q := by
  constructor
  · intro h earlier q hq
    exact (step earlier q (h _ ((List.prefix_append _ _).trans hq))).mp (h _ hq)
  · -- The first request that breaks the property would be the last one of some prefix.
    intro h earlier
    induction earlier using List.reverseRecOn with
    | nil => exact fun _ => nil
    | append_singleton earlier q ih =>
      intro hq
      exact (step earlier q (ih ((List.prefix_append _ _).trans hq))).mpr (h earlier q hq)

end MessageBus.Broker
