import MessageBus.Broker.Sending

/-!
# Receiving from the broker

Locking pending messages, and settling them by their lock tokens. A receiver belongs to one entity.
-/

namespace MessageBus.Broker

def takeFor (path : String) :
    Nat → List (String × Received) → List Received × List (String × Received)
  | 0, entries => ([], entries)
  | _ + 1, [] => ([], [])
  | n + 1, entry :: rest =>
    if entry.1 == path then
      let (taken, left) := takeFor path n rest
      (entry.2 :: taken, left)
    else
      let (taken, left) := takeFor path (n + 1) rest
      (taken, entry :: left)

/-- Locks up to `most` pending messages of an entity, oldest first. -/
def receive (path : String) (most : Nat) (b : Broker) : List Received × Broker :=
  let (taken, left) := takeFor path most b.pending
  (taken, { b with pending := left, inFlight := b.inFlight ++ taken.map (path, ·) })

def enqueue (path : String) (m : Message) (b : Broker) : Received × Broker :=
  (b.delivery m, b.deliver path m)

def settle (r : Received) : Call Broker Received := do
  let b ← get
  if b.failSettlement then
    throw (.connectionFailed "settlement link detached")
  match b.inFlight.find? (·.2.lockToken == r.lockToken) with
  | none => throw (.lockLost r.message.id)
  | some (_, locked) =>
    set { b with inFlight := b.inFlight.filter (·.2.lockToken != r.lockToken) }
    return locked

def complete (path : String) (r : Received) : Call Broker Unit := do
  let _ ← settle r
  modify (record (.complete path r.message.id))

/-- Puts a locked message in front of the pending ones, to be delivered once more. -/
def abandon (path : String) (r : Received) : Call Broker Unit := do
  let locked ← settle r
  modify fun b =>
    let again :=
      { locked with deliveryCount := locked.deliveryCount + 1, lockToken := .issued b.locks }
    { b.record (.abandon path r.message.id) with
      pending := (path, again) :: b.pending
      locks := b.locks + 1 }

def deadLetter (path : String) (r : Received) (reason : Option String) : Call Broker Unit := do
  let locked ← settle r
  modify fun b =>
    { b.record (.deadLetter path r.message.id reason) with
      deadLetters := b.deadLetters ++ [(path, locked)] }

def transport : Transport Broker where
  createSender := createSender
  createBatch := createBatch
  sendBatch := sendBatch
  sendMessages := sendMessages
  schedule := schedule
  cancelScheduled := cancelScheduled
  close := close
  complete := complete
  asksToStop := fun _ => false

end MessageBus.Broker
