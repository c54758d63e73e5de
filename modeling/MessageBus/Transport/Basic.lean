import MessageBus.Message
import MessageBus.Resource.Basic

/-!
# The transport

What a bus asks of a broker: senders for queues and topics, batches of bounded size, schedules, and
settlement of received messages. A transport is a record of operations over a state, and every
operation leaves a state behind, also one that fails.
-/

namespace MessageBus

inductive TransportError
  | connectionFailed (reason : String)
  | entityNotFound (entity : String)
  | lockLost (messageId : String)
  | rejected (reason : String)
  | timeout
  | other (text : String)
  deriving DecidableEq, Repr, Inhabited

namespace TransportError

def message : TransportError → String
  | .connectionFailed reason => "connection failed: " ++ reason
  | .entityNotFound entity => "entity not found: " ++ entity
  | .lockLost messageId => "message lock lost: " ++ messageId
  | .rejected reason => "rejected by broker: " ++ reason
  | .timeout => "transport timeout"
  | .other text => "transport error: " ++ text

/-- The texts of what lies behind the error, outermost first. -/
def causes : TransportError → List String
  | .other text => [text]
  | _ => []

end TransportError

/-- An operation of a transport: its outcome and the state after it. -/
abbrev Call (τ α : Type) := ExceptT TransportError (StateM τ) α

structure Sender where
  id : Nat
  kind : EntityKind
  entity : String
  deriving DecidableEq, Repr, Inhabited

/-- What bounds a batch. -/
inductive Capacity
  | size (octets : Nat)
  | count (messages : Nat)
  deriving DecidableEq, Repr, Inhabited

/-- The number that a batch reports as its bound. -/
def Capacity.limit : Capacity → Nat
  | .size n => n
  | .count n => n

structure Batch where
  capacity : Capacity
  messages : List Message := []
  size : Nat := 0
  deriving Inhabited

namespace Batch

def isEmpty (b : Batch) : Bool := b.messages.isEmpty

def fits (b : Batch) (m : Message) : Bool :=
  match b.capacity with
  | .size n => b.size + m.size ≤ n
  | .count n => b.messages.length < n

def add (b : Batch) (m : Message) : Batch :=
  { b with messages := b.messages ++ [m], size := b.size + m.size }

def tryAdd (b : Batch) (m : Message) : Option Batch :=
  if b.fits m then some (b.add m) else none

end Batch

structure Transport (τ : Type) where
  createSender : Resource → Call τ Sender
  createBatch : Sender → Option UInt64 → Call τ Batch
  sendBatch : Sender → Batch → Call τ Unit
  sendMessages : Sender → List Message → Call τ Unit
  /-- Sequence numbers of the scheduled messages, in order. -/
  schedule : Sender → List Message → Int → Call τ (List Int)
  cancelScheduled : Sender → List Int → Call τ Unit
  close : Sender → Call τ Unit
  /-- Completes a message received from the entity. -/
  complete : String → Received → Call τ Unit
  /-- The transport has given up on the operation in progress. -/
  asksToStop : τ → Bool

end MessageBus
