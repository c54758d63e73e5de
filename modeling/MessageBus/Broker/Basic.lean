import MessageBus.Transport.Basic

/-!
# The broker in memory

A broker that lives in the process. It holds one list for each place that a message can be in:
pending on a queue or subscription, locked by a receiver, dead-lettered, or scheduled. Each entry
names its entity, and the entries of one entity are in the order in which they are received.
-/

namespace MessageBus

inductive Operation
  | senderCreated (kind : EntityKind) (entity : String)
  | senderClosed (entity : String)
  | sendBatch (entity : String) (ids : List String)
  | sendMessages (entity : String) (ids : List String)
  | schedule (entity : String) (ids : List String) (due : Int)
  | cancelScheduled (entity : String) (numbers : List Int)
  | complete (entity : String) (id : String)
  | abandon (entity : String) (id : String)
  | deadLetter (entity : String) (id : String) (reason : Option String)
  deriving DecidableEq, Repr

structure Scheduled where
  sequenceNumber : Int
  entity : String
  message : Message
  due : Int
  deriving Inhabited

structure Broker where
  /-- The largest batch, 256 KiB unless set. -/
  maxBatchSize : Nat := 262144
  pending : List (String × Received) := []
  inFlight : List (String × Received) := []
  deadLetters : List (String × Received) := []
  subscriptions : List (String × String) := []
  scheduled : List Scheduled := []
  operations : List Operation := []
  /-- Entities that refuse to be sent to. -/
  failing : List String := []
  failSettlement : Bool := false
  sequence : Int := 1
  locks : Nat := 0
  senders : Nat := 0
  closed : List Nat := []
  deriving Inhabited

namespace Broker

def pendingAt (b : Broker) (path : String) : List Received :=
  (b.pending.filter (·.1 == path)).map (·.2)

def deadLettersAt (b : Broker) (path : String) : List Received :=
  (b.deadLetters.filter (·.1 == path)).map (·.2)

def subscriptionsOf (b : Broker) (topic : String) : List String :=
  (b.subscriptions.filter (·.1 == topic)).map (·.2)

def completedAt (b : Broker) (path : String) : List String :=
  b.operations.filterMap fun
    | .complete entity id => if entity = path then some id else none
    | _ => none

def record (operation : Operation) (b : Broker) : Broker :=
  { b with operations := b.operations ++ [operation] }

def delivery (b : Broker) (m : Message) : Received :=
  { message := m, sequenceNumber := b.sequence, lockToken := .issued b.locks }

def deliver (path : String) (m : Message) (b : Broker) : Broker :=
  { b with
    pending := b.pending ++ [(path, b.delivery m)]
    sequence := b.sequence + 1
    locks := b.locks + 1 }

/-- Where a message sent to an entity arrives: on each subscription of a topic, or else on the queue
of that name. -/
def targets (b : Broker) (entity : String) : List String :=
  match b.subscriptionsOf entity with
  | [] => [entity]
  | paths => paths

def route (entity : String) (m : Message) (b : Broker) : Broker :=
  (b.targets entity).foldl (fun b path => b.deliver path m) b

def routeAll (entity : String) (ms : List Message) (b : Broker) : Broker :=
  ms.foldl (fun b m => b.route entity m) b

def createSubscription (topic subscription : String) (b : Broker) : Broker :=
  let entry := (topic, Resource.subscriptionPath topic subscription)
  if entry ∈ b.subscriptions then b else { b with subscriptions := b.subscriptions ++ [entry] }

/-- Delivers every scheduled message that is due, in the order of scheduling. -/
def deliverDue (now : Int) (b : Broker) : Broker :=
  let (due, waiting) := b.scheduled.partition (·.due ≤ now)
  due.foldl (fun b s => b.route s.entity s.message) { b with scheduled := waiting }

def dueCount (now : Int) (b : Broker) : Nat :=
  b.scheduled.countP (·.due ≤ now)

def failSendsTo (entity : String) (b : Broker) : Broker :=
  { b with failing := entity :: b.failing }

/-- Forgets all messages, subscriptions, schedules and recorded calls. Numbers go on, and closed
senders stay closed. -/
def clear (b : Broker) : Broker :=
  { b with
    pending := [], inFlight := [], deadLetters := [], subscriptions := [], scheduled := []
    operations := [], failing := [], failSettlement := false }

end Broker

end MessageBus
