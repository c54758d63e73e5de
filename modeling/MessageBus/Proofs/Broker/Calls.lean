import MessageBus.Broker.Receiving
import MessageBus.Proofs.Broker.Delivery
import MessageBus.Proofs.Outcome

/-!
# Calls of the broker

The outcome of each call and the state after it, as one equation for each call. A call that is
refused leaves the broker as it was.
-/

namespace MessageBus.Broker

open Outcome

def closedProblem (s : Sender) : TransportError :=
  .connectionFailed ("sender for " ++ s.entity ++ " is closed")

def refusedProblem (entity : String) : TransportError :=
  .rejected ("send to " ++ entity ++ " refused")

def sendProblem? (b : Broker) (s : Sender) : Option TransportError :=
  if s.id ∈ b.closed then some (closedProblem s)
  else if s.entity ∈ b.failing then some (refusedProblem s.entity)
  else none

/-- Why the broker does not take a batch: only batches bounded by size are its own. -/
def batchProblem? (b : Broker) (s : Sender) (batch : Batch) : Option TransportError :=
  match batch.capacity with
  | .size _ => b.sendProblem? s
  | .count _ =>
    if s.id ∈ b.closed then some (closedProblem s)
    else some (.rejected "batch was not created by this transport")

def batchLimit (b : Broker) (requested : Option UInt64) : Nat :=
  (requested.map fun n => min n.toNat b.maxBatchSize).getD b.maxBatchSize

theorem ensureOpen_eq (s : Sender) (b : Broker) :
    ensureOpen s b = if s.id ∈ b.closed then (.error (closedProblem s), b) else (.ok (), b) := by
  simp [ensureOpen, bind_apply, closedProblem]

theorem checkSendable_eq (entity : String) (b : Broker) :
    checkSendable entity b =
      if entity ∈ b.failing then (.error (refusedProblem entity), b) else (.ok (), b) := by
  simp [checkSendable, bind_apply, refusedProblem]

theorem createSender_eq (r : Resource) (b : Broker) :
    createSender r b =
      if r.kind = .subscription then
        (.error (.rejected ("cannot send to subscription " ++ r.id)), b)
      else
        (.ok ⟨b.senders, r.kind, r.entity⟩,
          { b.record (.senderCreated r.kind r.entity) with senders := b.senders + 1 }) := by
  by_cases h : r.kind = .subscription <;> simp [createSender, bind_apply, map_apply, h]

theorem createBatch_eq (s : Sender) (requested : Option UInt64) (b : Broker) :
    createBatch s requested b =
      if s.id ∈ b.closed then (.error (closedProblem s), b)
      else (.ok { capacity := .size (b.batchLimit requested) }, b) := by
  by_cases h : s.id ∈ b.closed <;>
    simp [createBatch, bind_apply, map_apply, ensureOpen_eq, h, batchLimit]

theorem sendBatch_eq (s : Sender) (batch : Batch) (b : Broker) :
    sendBatch s batch b =
      match b.batchProblem? s batch with
      | some problem => (.error problem, b)
      | none =>
        (.ok (), (b.record (.sendBatch s.entity (ids batch.messages))).deliverAll
          (b.arrivals s.entity batch.messages)) := by
  obtain ⟨capacity, messages, size⟩ := batch
  by_cases hc : s.id ∈ b.closed
  · cases capacity <;> simp [sendBatch, batchProblem?, sendProblem?, bind_apply, ensureOpen_eq, hc]
  · cases capacity with
    | count n => simp [sendBatch, batchProblem?, bind_apply, ensureOpen_eq, hc]
    | size n =>
      by_cases hf : s.entity ∈ b.failing <;>
        simp [sendBatch, batchProblem?, sendProblem?, bind_apply, ensureOpen_eq, checkSendable_eq,
          hc, hf, routeAll_eq]

theorem sendMessages_eq (s : Sender) (ms : List Message) (b : Broker) :
    sendMessages s ms b =
      match b.sendProblem? s with
      | some problem => (.error problem, b)
      | none =>
        (.ok (), (b.record (.sendMessages s.entity (ids ms))).deliverAll
          (b.arrivals s.entity ms)) := by
  by_cases hc : s.id ∈ b.closed
  · simp [sendMessages, sendProblem?, bind_apply, ensureOpen_eq, hc]
  · by_cases hf : s.entity ∈ b.failing <;>
      simp [sendMessages, sendProblem?, bind_apply, ensureOpen_eq, checkSendable_eq, hc, hf,
        routeAll_eq]

theorem schedule_eq (s : Sender) (ms : List Message) (due : Int) (b : Broker) :
    schedule s ms due b =
      match b.sendProblem? s with
      | some problem => (.error problem, b)
      | none =>
        (.ok ((scheduleEntries s.entity due b.sequence ms).map (·.sequenceNumber)),
          { b.record (.schedule s.entity (ids ms) due) with
            scheduled := b.scheduled ++ scheduleEntries s.entity due b.sequence ms
            sequence := b.sequence + ms.length }) := by
  by_cases hc : s.id ∈ b.closed
  · simp [schedule, sendProblem?, bind_apply, ensureOpen_eq, hc]
  · by_cases hf : s.entity ∈ b.failing <;>
      simp [schedule, sendProblem?, bind_apply, map_apply, ensureOpen_eq, checkSendable_eq, hc, hf]

theorem cancelScheduled_eq (s : Sender) (numbers : List Int) (b : Broker) :
    cancelScheduled s numbers b =
      if s.id ∈ b.closed then (.error (closedProblem s), b)
      else
        (.ok (), { b.record (.cancelScheduled s.entity numbers) with
          scheduled := b.scheduled.filter (·.sequenceNumber ∉ numbers) }) := by
  by_cases hc : s.id ∈ b.closed <;> simp [cancelScheduled, bind_apply, ensureOpen_eq, hc]

theorem takeFor_taken (path : String) (n : Nat) (entries : List (String × Received)) :
    (takeFor path n entries).1 = ((entries.filter (·.1 == path)).map (·.2)).take n := by
  fun_induction takeFor path n entries with
  | case1 => simp
  | case2 => simp
  | case3 n entry rest h taken left heq ih => simp [h, ← ih, heq]
  | case4 n entry rest h taken left heq ih => simp [h, ← ih, heq]

theorem takeFor_left (path : String) (n : Nat) (entries : List (String × Received)) :
    (takeFor path n entries).2.filter (·.1 == path) = (entries.filter (·.1 == path)).drop n := by
  fun_induction takeFor path n entries with
  | case1 => simp
  | case2 => simp
  | case3 n entry rest h taken left heq ih => simp [h, ← ih, heq]
  | case4 n entry rest h taken left heq ih => simp [h, ← ih, heq]

theorem takeFor_others {path other : String} (apart : other ≠ path) (n : Nat)
    (entries : List (String × Received)) :
    (takeFor path n entries).2.filter (·.1 == other) = entries.filter (·.1 == other) := by
  fun_induction takeFor path n entries with
  | case1 => rfl
  | case2 => rfl
  | case3 n entry rest h taken left heq ih =>
    have elsewhere : entry.1 ≠ other := fun here => apart (here.symm.trans (beq_iff_eq.mp h))
    simp [elsewhere, ← ih, heq]
  | case4 n entry rest h taken left heq ih => simp [List.filter_cons, ← ih, heq]

theorem takeFor_of_absent {path : String} {entries : List (String × Received)}
    (absent : entries.filter (·.1 == path) = []) (n : Nat) :
    takeFor path n entries = ([], entries) := by
  fun_induction takeFor path n entries with
  | case1 => rfl
  | case2 => rfl
  | case3 n entry rest h => simp [h] at absent
  | case4 n entry rest h taken left heq ih =>
    have later := ih (by simpa [h] using absent)
    rw [heq] at later
    obtain ⟨rfl, rfl⟩ := Prod.mk.inj later
    rfl

theorem takeFor_sublist (path : String) (n : Nat) (entries : List (String × Received)) :
    (takeFor path n entries).2.Sublist entries := by
  fun_induction takeFor path n entries with
  | case1 => exact .refl _
  | case2 => exact .refl _
  | case3 n entry rest hp taken left heq ih =>
    rw [heq] at ih
    exact ih.cons _
  | case4 n entry rest hp taken left heq ih =>
    rw [heq] at ih
    exact ih.cons_cons _

theorem takeFor_perm (path : String) (n : Nat) (entries : List (String × Received)) :
    ((takeFor path n entries).1.map (path, ·) ++ (takeFor path n entries).2).Perm entries := by
  fun_induction takeFor path n entries with
  | case1 => exact .refl _
  | case2 => exact .refl _
  | case3 n entry rest hp taken left heq ih =>
    rw [heq] at ih
    have he : (path, entry.2) = entry := by rw [← beq_iff_eq.mp hp]
    rw [List.map_cons, he, List.cons_append]
    exact ih.cons _
  | case4 n entry rest hp taken left heq ih =>
    rw [heq] at ih
    exact List.perm_middle.trans (ih.cons _)

def lockedBy (b : Broker) (token : LockToken) : Option (String × Received) :=
  b.inFlight.find? (·.2.lockToken == token)

def settleable (b : Broker) (r : Received) : Except TransportError (String × Received) :=
  if b.failSettlement then .error (.connectionFailed "settlement link detached")
  else
    match b.lockedBy r.lockToken with
    | none => .error (.lockLost r.message.id)
    | some entry => .ok entry

def unlock (token : LockToken) (b : Broker) : Broker :=
  { b with inFlight := b.inFlight.filter (·.2.lockToken != token) }

theorem settle_eq (r : Received) (b : Broker) :
    settle r b =
      match b.settleable r with
      | .error problem => (.error problem, b)
      | .ok entry => (.ok entry.2, b.unlock r.lockToken) := by
  by_cases hf : b.failSettlement
  · simp [settle, settleable, bind_apply, hf]
  · cases h : b.inFlight.find? (·.2.lockToken == r.lockToken) <;>
      simp [settle, settleable, lockedBy, unlock, bind_apply, map_apply, hf, h]

theorem complete_eq (path : String) (r : Received) (b : Broker) :
    complete path r b =
      match b.settleable r with
      | .error problem => (.error problem, b)
      | .ok _ => (.ok (), (b.unlock r.lockToken).record (.complete path r.message.id)) := by
  cases h : b.settleable r <;> simp [complete, bind_apply, settle_eq, h]

def redelivered (lock : Nat) (locked : Received) : Received :=
  { locked with deliveryCount := locked.deliveryCount + 1, lockToken := .issued lock }

theorem abandon_eq (path : String) (r : Received) (b : Broker) :
    abandon path r b =
      match b.settleable r with
      | .error problem => (.error problem, b)
      | .ok entry =>
        (.ok (), { (b.unlock r.lockToken).record (.abandon path r.message.id) with
          pending := (path, redelivered b.locks entry.2) :: b.pending
          locks := b.locks + 1 }) := by
  cases h : b.settleable r <;> simp [abandon, bind_apply, settle_eq, h]
  rfl

theorem deadLetter_eq (path : String) (r : Received) (reason : Option String) (b : Broker) :
    deadLetter path r reason b =
      match b.settleable r with
      | .error problem => (.error problem, b)
      | .ok entry =>
        (.ok (), { (b.unlock r.lockToken).record (.deadLetter path r.message.id reason) with
          deadLetters := b.deadLetters ++ [(path, entry.2)] }) := by
  cases h : b.settleable r <;> simp [deadLetter, bind_apply, settle_eq, h]
  rfl

end MessageBus.Broker
