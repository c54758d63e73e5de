import MessageBus.Proofs.Broker.Calls

/-!
# Refused calls

A call of the transport is refused before it changes anything, so a refused call leaves the broker
as it was. A granted call leaves one operation in the log, only making a batch leaves none. So the
calls that were refused can be struck from a history, and what is left is what the log tells.
-/

namespace MessageBus.Broker

open Outcome

/-- A call of the transport that the broker may refuse. -/
inductive Refusable
  | createSender (r : Resource)
  | createBatch (s : Sender) (requested : Option UInt64)
  | sendBatch (s : Sender) (batch : Batch)
  | sendMessages (s : Sender) (ms : List Message)
  | schedule (s : Sender) (ms : List Message) (due : Int)
  | cancelScheduled (s : Sender) (numbers : List Int)
  | complete (path : String) (r : Received)
  | abandon (path : String) (r : Received)
  | deadLetter (path : String) (r : Received) (reason : Option String)

namespace Refusable

def call : Refusable → Call Broker Unit
  | .createSender r => (fun _ => ()) <$> Broker.createSender r
  | .createBatch s requested => (fun _ => ()) <$> Broker.createBatch s requested
  | .sendBatch s batch => Broker.sendBatch s batch
  | .sendMessages s ms => Broker.sendMessages s ms
  | .schedule s ms due => (fun _ => ()) <$> Broker.schedule s ms due
  | .cancelScheduled s numbers => Broker.cancelScheduled s numbers
  | .complete path r => Broker.complete path r
  | .abandon path r => Broker.abandon path r
  | .deadLetter path r reason => Broker.deadLetter path r reason

def operation? : Refusable → Option Operation
  | .createSender r => some (.senderCreated r.kind r.entity)
  | .createBatch _ _ => none
  | .sendBatch s batch => some (.sendBatch s.entity (ids batch.messages))
  | .sendMessages s ms => some (.sendMessages s.entity (ids ms))
  | .schedule s ms due => some (.schedule s.entity (ids ms) due)
  | .cancelScheduled s numbers => some (.cancelScheduled s.entity numbers)
  | .complete path r => some (.complete path r.message.id)
  | .abandon path r => some (.abandon path r.message.id)
  | .deadLetter path r reason => some (.deadLetter path r.message.id reason)

def closedProblem? (b : Broker) (s : Sender) : Option TransportError :=
  if s.id ∈ b.closed then some (closedProblem s) else none

def settlementProblem? (b : Broker) (r : Received) : Option TransportError :=
  match b.settleable r with
  | .error problem => some problem
  | .ok _ => none

def problem? (b : Broker) : Refusable → Option TransportError
  | .createSender r =>
    if r.kind = .subscription then some (.rejected ("cannot send to subscription " ++ r.id))
    else none
  | .createBatch s _ => closedProblem? b s
  | .sendBatch s batch => b.batchProblem? s batch
  | .sendMessages s _ => b.sendProblem? s
  | .schedule s _ _ => b.sendProblem? s
  | .cancelScheduled s _ => closedProblem? b s
  | .complete _ r => settlementProblem? b r
  | .abandon _ r => settlementProblem? b r
  | .deadLetter _ r _ => settlementProblem? b r

theorem operation?_eq_none_iff (c : Refusable) :
    c.operation? = none ↔ ∃ s requested, c = .createBatch s requested := by
  cases c <;> simp [operation?]

/-- The call is refused and changes nothing, or it is granted and leaves its operation. -/
def Accounted (b : Broker) (c : Refusable) : Prop :=
  match c.problem? b with
  | some problem => c.call b = (.error problem, b)
  | none => (c.call b).1 = .ok () ∧
      (c.call b).2.operations = b.operations ++ c.operation?.toList

theorem accounted (b : Broker) (c : Refusable) : c.Accounted b := by
  cases c with
  | createSender r =>
    by_cases subscription : r.kind = .subscription <;>
      simp [Accounted, problem?, operation?, call, map_apply, createSender_eq, subscription, record]
  | createBatch s requested =>
    by_cases closed : s.id ∈ b.closed <;>
      simp [Accounted, problem?, closedProblem?, operation?, call, map_apply, createBatch_eq,
        closed]
  | sendBatch s batch =>
    cases problem : b.batchProblem? s batch <;>
      simp [Accounted, problem?, operation?, call, sendBatch_eq, problem, record, deliverAll]
  | sendMessages s ms =>
    cases problem : b.sendProblem? s <;>
      simp [Accounted, problem?, operation?, call, sendMessages_eq, problem, record, deliverAll]
  | schedule s ms due =>
    cases problem : b.sendProblem? s <;>
      simp [Accounted, problem?, operation?, call, map_apply, schedule_eq, problem, record]
  | cancelScheduled s numbers =>
    by_cases closed : s.id ∈ b.closed <;>
      simp [Accounted, problem?, closedProblem?, operation?, call, cancelScheduled_eq, closed,
        record]
  | complete path r =>
    cases settled : b.settleable r <;>
      simp [Accounted, problem?, settlementProblem?, operation?, call, complete_eq, settled, record,
        unlock]
  | abandon path r =>
    cases settled : b.settleable r <;>
      simp [Accounted, problem?, settlementProblem?, operation?, call, abandon_eq, settled, record,
        unlock]
  | deadLetter path r reason =>
    cases settled : b.settleable r <;>
      simp [Accounted, problem?, settlementProblem?, operation?, call, deadLetter_eq, settled,
        record, unlock]

def callAll (b : Broker) (cs : List Refusable) : Broker :=
  cs.foldl (fun b c => (c.call b).2) b

def granted (b : Broker) : List Refusable → List Refusable
  | [] => []
  | c :: cs =>
    match c.problem? b with
    | some _ => granted b cs
    | none => c :: granted (c.call b).2 cs

theorem callAll_cons (b : Broker) (c : Refusable) (cs : List Refusable) :
    callAll b (c :: cs) = callAll (c.call b).2 cs := rfl

theorem callAll_granted (b : Broker) (cs : List Refusable) :
    callAll b (granted b cs) = callAll b cs := by
  induction cs generalizing b with
  | nil => rfl
  | cons c cs ih =>
    have one := accounted b c
    rw [Accounted] at one
    rw [granted, callAll_cons]
    cases problem : c.problem? b with
    | some _ =>
      rw [problem] at one
      rw [one]
      exact ih b
    | none => exact ih (c.call b).2

theorem operations_callAll (b : Broker) (cs : List Refusable) :
    (callAll b cs).operations = b.operations ++ (granted b cs).filterMap operation? := by
  induction cs generalizing b with
  | nil => exact (List.append_nil _).symm
  | cons c cs ih =>
    have one := accounted b c
    rw [Accounted] at one
    rw [granted, callAll_cons, ih]
    cases problem : c.problem? b with
    | some _ =>
      rw [problem] at one
      rw [one]
    | none =>
      rw [problem] at one
      rw [one.2, List.append_assoc]
      cases entry : c.operation? <;> simp [entry]

end Refusable

open Refusable

/-- A refused call leaves the broker exactly as it was. A granted one appends exactly one operation
to the log, which tells the call, and making a batch appends none. So calls in any number come to
the same as those of them that are granted, and the log is what these are. -/
theorem refused_calls_change_nothing (b : Broker) :
    (∀ c : Refusable, match c.problem? b with
      | some problem => c.call b = (.error problem, b)
      | none => (c.call b).1 = .ok () ∧
          (c.call b).2.operations = b.operations ++ c.operation?.toList) ∧
    (∀ c : Refusable, c.operation? = none ↔ ∃ s requested, c = .createBatch s requested) ∧
    ∀ cs, callAll b (granted b cs) = callAll b cs ∧
      (callAll b cs).operations = b.operations ++ (granted b cs).filterMap operation? :=
  ⟨accounted b, operation?_eq_none_iff,
    fun cs => ⟨callAll_granted b cs, operations_callAll b cs⟩⟩

end MessageBus.Broker
