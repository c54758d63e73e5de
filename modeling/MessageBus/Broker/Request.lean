import MessageBus.Broker.Receiving

/-!
# Requests

All that may be asked of the broker, as one type: the calls of the transport, granted or not, and
turns of its switches. A request that puts messages on a queue or subscription wakes the receivers
that wait, of whatever entity; no other request does.
-/

namespace MessageBus.Broker

inductive Request
  | createSubscription (topic subscription : String)
  | createSender (r : Resource)
  | createBatch (s : Sender) (requested : Option UInt64)
  | sendBatch (s : Sender) (batch : Batch)
  | sendMessages (s : Sender) (ms : List Message)
  | schedule (s : Sender) (ms : List Message) (due : Int)
  | cancelScheduled (s : Sender) (numbers : List Int)
  | close (s : Sender)
  | enqueue (path : String) (m : Message)
  | deliverDue (now : Int)
  | receive (path : String) (most : Nat)
  | complete (path : String) (r : Received)
  | abandon (path : String) (r : Received)
  | deadLetter (path : String) (r : Received) (reason : Option String)
  | failSendsTo (entity : String)
  | failSettlement (on : Bool)
  | clear

def perform (b : Broker) : Request → Broker
  | .createSubscription topic subscription => b.createSubscription topic subscription
  | .createSender r => (createSender r b).2
  | .createBatch s requested => (createBatch s requested b).2
  | .sendBatch s batch => (sendBatch s batch b).2
  | .sendMessages s ms => (sendMessages s ms b).2
  | .schedule s ms due => (schedule s ms due b).2
  | .cancelScheduled s numbers => (cancelScheduled s numbers b).2
  | .close s => (close s b).2
  | .enqueue path m => (b.enqueue path m).2
  | .deliverDue now => b.deliverDue now
  | .receive path most => (b.receive path most).2
  | .complete path r => (complete path r b).2
  | .abandon path r => (abandon path r b).2
  | .deadLetter path r reason => (deadLetter path r reason b).2
  | .failSendsTo entity => b.failSendsTo entity
  | .failSettlement on => { b with failSettlement := on }
  | .clear => b.clear

def run (b : Broker) (requests : List Request) : Broker :=
  requests.foldl perform b

@[simp] theorem run_nil (b : Broker) : b.run [] = b := rfl

@[simp] theorem run_cons (b : Broker) (q : Request) (requests : List Request) :
    b.run (q :: requests) = (b.perform q).run requests := rfl

theorem run_append (b : Broker) (xs ys : List Request) : b.run (xs ++ ys) = (b.run xs).run ys :=
  List.foldl_append

/-- Whether a request wakes those who wait. A refused one does not. -/
def wakes (b : Broker) : Request → Bool
  | .sendBatch s batch => (sendBatch s batch b).1.isOk
  | .sendMessages s ms => (sendMessages s ms b).1.isOk
  | .enqueue _ _ => true
  | .deliverDue _ => true
  | .abandon path r => (abandon path r b).1.isOk
  | _ => false

def wakesAny (b : Broker) : List Request → Bool
  | [] => false
  | q :: requests => b.wakes q || (b.perform q).wakesAny requests

end MessageBus.Broker
