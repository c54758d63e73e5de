import MessageBus.Transport.Basic

/-!
# Planned faults

A transport around another one that fails as planned. A plan belongs to an entity and holds for
every sender made for it; each sender counts its own calls. This serves runs by hand only: it is no
part of the library, and what is proved of all transports holds of it as of any other.
-/

namespace MessageBus

/-- Calls after the first `after` fail. -/
structure Failure where
  after : Nat
  error : TransportError
  deriving Repr

structure FaultPlan where
  /-- No sender can be made. -/
  createError : Option TransportError := none
  /-- For calls that send, schedule or take back. -/
  fail : Option Failure := none
  /-- For calls that make a batch. -/
  failBatch : Option Failure := none
  /-- The call of this number makes the transport ask to stop, and goes through. -/
  stopAt : Option Nat := none
  /-- Batches hold at most this many messages and are sent message by message. -/
  countBatch : Option Nat := none
  /-- Batches bounded by count are handed on as they are. -/
  handOn : Bool := false
  /-- Sequence numbers that are left out at the end of an answer. -/
  dropNumbers : Nat := 0
  /-- Sequence numbers that are added to an answer, from 9000 on. -/
  addNumbers : Nat := 0
  closeError : Option TransportError := none
  /-- Closing does nothing, and so cannot fail. -/
  staysOpen : Bool := false
  deriving Repr, Inhabited

/-- A state of the transport inside, the plans by entity, and the calls that each sender has made.
-/
structure Faulty (τ : Type) where
  inner : τ
  plans : List (String × FaultPlan) := []
  calls : List Nat := []
  batchCalls : List Nat := []
  stop : Bool := false

namespace Faulty

variable {τ α : Type}

def within (call : Call τ α) : Call (Faulty τ) α := fun s =>
  let (outcome, inner) := call s.inner
  (outcome, { s with inner := inner })

def plan (entity : String) (s : Faulty τ) : FaultPlan :=
  (s.plans.lookup entity).getD {}

def failAfter (failure : Option Failure) (made : Nat) : Call (Faulty τ) Unit :=
  match failure with
  | some f => if f.after < made then throw f.error else pure ()
  | none => pure ()

/-- Counts a call of a sender, and fails or asks to stop as planned. A call that fails does not ask
to stop. -/
def count (sender : Sender) : Call (Faulty τ) FaultPlan := do
  let s ← get
  let plan := s.plan sender.entity
  let made := s.calls.count sender.id + 1
  set { s with calls := sender.id :: s.calls }
  failAfter plan.fail made
  modify fun s => { s with stop := s.stop || plan.stopAt == some made }
  return plan

def createSender (T : Transport τ) (r : Resource) : Call (Faulty τ) Sender := do
  match ((← get).plan r.entity).createError with
  | some error => throw error
  | none => within (T.createSender r)

def createBatch (T : Transport τ) (sender : Sender) (requested : Option UInt64) :
    Call (Faulty τ) Batch := do
  let s ← get
  let plan := s.plan sender.entity
  set { s with batchCalls := sender.id :: s.batchCalls }
  failAfter plan.failBatch (s.batchCalls.count sender.id + 1)
  match plan.countBatch with
  | some n => return { capacity := .count n }
  | none => within (T.createBatch sender requested)

def sendBatch (T : Transport τ) (sender : Sender) (batch : Batch) : Call (Faulty τ) Unit := do
  let plan ← count sender
  if plan.countBatch.isSome && !plan.handOn then within (T.sendMessages sender batch.messages)
  else within (T.sendBatch sender batch)

def schedule (T : Transport τ) (sender : Sender) (ms : List Message) (due : Int) :
    Call (Faulty τ) (List Int) := do
  let plan ← count sender
  let numbers ← within (T.schedule sender ms due)
  let extra : List Int := (List.range plan.addNumbers).map fun (i : Nat) => 9000 + i
  return numbers.take (numbers.length - plan.dropNumbers) ++ extra

def close (T : Transport τ) (sender : Sender) : Call (Faulty τ) Unit := do
  let plan := (← get).plan sender.entity
  if plan.staysOpen then return
  match plan.closeError with
  | some error => throw error
  | none => within (T.close sender)

def transport (T : Transport τ) : Transport (Faulty τ) where
  createSender := createSender T
  createBatch := createBatch T
  sendBatch := sendBatch T
  sendMessages := fun sender ms => do
    let _ ← count sender
    within (T.sendMessages sender ms)
  schedule := schedule T
  cancelScheduled := fun sender numbers => do
    let _ ← count sender
    within (T.cancelScheduled sender numbers)
  close := close T
  complete := fun path r => within (T.complete path r)
  asksToStop := fun s => s.stop || T.asksToStop s.inner

end Faulty

end MessageBus
