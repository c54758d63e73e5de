import MessageBus.Broker.Basic

/-!
# Sending to the broker

The calls of a sender. Every call is refused by a closed sender, sends and schedules also by an
entity that is set to fail; a refused call changes nothing.
-/

namespace MessageBus.Broker

def ensureOpen (s : Sender) : Call Broker Unit := do
  if s.id ∈ (← get).closed then
    throw (.connectionFailed ("sender for " ++ s.entity ++ " is closed"))

def checkSendable (entity : String) : Call Broker Unit := do
  if entity ∈ (← get).failing then
    throw (.rejected ("send to " ++ entity ++ " refused"))

def ids (ms : List Message) : List String := ms.map (·.id)

def createSender (r : Resource) : Call Broker Sender := do
  if r.kind = .subscription then
    throw (.rejected ("cannot send to subscription " ++ r.id))
  let b ← get
  let sender : Sender := ⟨b.senders, r.kind, r.entity⟩
  set { b.record (.senderCreated r.kind r.entity) with senders := b.senders + 1 }
  return sender

/-- An empty batch of at most the requested size, and at most the size that the broker takes. -/
def createBatch (s : Sender) (requested : Option UInt64) : Call Broker Batch := do
  ensureOpen s
  let most := (← get).maxBatchSize
  return { capacity := .size ((requested.map fun n => min n.toNat most).getD most) }

/-- Sends a batch. Only batches bounded by size are the broker's own. -/
def sendBatch (s : Sender) (batch : Batch) : Call Broker Unit := do
  ensureOpen s
  match batch.capacity with
  | .count _ => throw (.rejected "batch was not created by this transport")
  | .size _ =>
    checkSendable s.entity
    modify fun b =>
      (b.record (.sendBatch s.entity (ids batch.messages))).routeAll s.entity batch.messages

def sendMessages (s : Sender) (ms : List Message) : Call Broker Unit := do
  ensureOpen s
  checkSendable s.entity
  modify fun b => (b.record (.sendMessages s.entity (ids ms))).routeAll s.entity ms

def scheduleEntries (entity : String) (due : Int) : Int → List Message → List Scheduled
  | _, [] => []
  | n, m :: ms => ⟨n, entity, m, due⟩ :: scheduleEntries entity due (n + 1) ms

def schedule (s : Sender) (ms : List Message) (due : Int) : Call Broker (List Int) := do
  ensureOpen s
  checkSendable s.entity
  let b ← get
  let entries := scheduleEntries s.entity due b.sequence ms
  set { b.record (.schedule s.entity (ids ms) due) with
    scheduled := b.scheduled ++ entries
    sequence := b.sequence + ms.length }
  return entries.map (·.sequenceNumber)

/-- Takes scheduled messages back. Numbers that nothing is scheduled under are let pass. -/
def cancelScheduled (s : Sender) (numbers : List Int) : Call Broker Unit := do
  ensureOpen s
  modify fun b =>
    { b.record (.cancelScheduled s.entity numbers) with
      scheduled := b.scheduled.filter (·.sequenceNumber ∉ numbers) }

/-- Closes a sender. Closing it again does nothing. -/
def close (s : Sender) : Call Broker Unit :=
  modify fun b =>
    if s.id ∈ b.closed then b
    else { b.record (.senderClosed s.entity) with closed := s.id :: b.closed }

end MessageBus.Broker
