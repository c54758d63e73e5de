import MessageBus.Bus.Processing
import MessageBus.Proofs.Broker.Conservation
import MessageBus.Proofs.Broker.Senders
import MessageBus.Proofs.Bus.Logging
import MessageBus.Proofs.Bus.Publishing
import MessageBus.Proofs.Topics

/-!
# Rerouting

A message that belongs to another instance is completed and sent back to where it came from. The two
steps do not depend on each other: which of them succeed can be read off the broker before.
-/

namespace MessageBus

open Broker (ClosesMade Request sendMessages start)
open Outcome World

namespace Broker

def Completes (b : Broker) (r : Received) : Prop :=
  b.failSettlement = false ∧ r.lockToken ∈ b.inFlight.map (·.2.lockToken)

instance (b : Broker) (r : Received) : Decidable (b.Completes r) :=
  inferInstanceAs (Decidable (_ ∧ _))

theorem completes_iff {b : Broker} {r : Received} :
    b.Completes r ↔ ∃ entry, b.settleable r = .ok entry := by
  simp only [settleable_eq_ok, Completes, exists_and_left, lockedBy, ← Option.isSome_iff_exists,
    List.find?_isSome, List.mem_map, beq_iff_eq]

theorem complete_of_completes {b : Broker} {r : Received} (h : b.Completes r) (path : String) :
    complete path r b = (.ok (), (b.unlock r.lockToken).record (.complete path r.message.id)) := by
  obtain ⟨entry, ok⟩ := completes_iff.mp h
  rw [complete_eq, ok]

theorem complete_of_not_completes {b : Broker} {r : Received} (h : ¬ b.Completes r)
    (path : String) : ∃ problem, complete path r b = (.error problem, b) := by
  cases settled : b.settleable r with
  | error problem => exact ⟨problem, by rw [complete_eq, settled]⟩
  | ok entry => exact absurd (completes_iff.mpr ⟨entry, settled⟩) h

theorem sendProblem?_eq_none_iff (b : Broker) (s : Sender) :
    b.sendProblem? s = none ↔ s.entity ∉ b.failing ∧ s.id ∉ b.closed := by
  rw [sendProblem?]
  by_cases closed : s.id ∈ b.closed <;> by_cases failing : s.entity ∈ b.failing <;>
    simp [closed, failing]

theorem close_of_open {b : Broker} {s : Sender} (h : s.id ∉ b.closed) :
    close s b =
      (.ok (), { b.record (.senderClosed s.entity) with closed := s.id :: b.closed }) := by
  rw [close, modify_apply, if_neg h]

theorem sendMessages_of_sendable {b : Broker} {s : Sender} (h : b.sendProblem? s = none)
    (ms : List Message) :
    sendMessages s ms b =
      (.ok (), b.sent [.sendMessages s.entity (ids ms)] (b.arrivals s.entity ms)) := by
  rw [sendMessages_eq, h]
  rfl

theorem sendMessages_of_refused {b : Broker} {s : Sender} {problem : TransportError}
    (h : b.sendProblem? s = some problem) (ms : List Message) :
    sendMessages s ms b = (.error problem, b) := by
  rw [sendMessages_eq, h]

end Broker

namespace World

theorem trackTemporary_apply {τ ε : Type} (s : Sender) (w : World τ) :
    (trackTemporary s : Work τ ε String) w = (.ok w.ids.next.1, { w with
      ids := w.ids.next.2
      temporaries := w.temporaries ++ [(w.ids.next.1, s)]
      trace := w.trace ++ logs [.temporaryCreated w.ids.next.1 s.entity] }) := rfl

theorem releaseTemporary_apply {ε : Type} {w : World Broker} {others : List (String × Sender)}
    {id : String} {s : Sender} (tracked : w.temporaries = others ++ [(id, s)])
    (fresh : id ∉ others.map (·.1)) (opened : s.id ∉ w.transport.closed) :
    (releaseTemporary Broker.transport id : Work Broker ε Unit) w = (.ok (), { w with
      transport := { w.transport.record (.senderClosed s.entity) with
        closed := s.id :: w.transport.closed }
      temporaries := others
      trace := w.trace ++ logs [.temporaryClosed id s.entity] }) := by
  have apart (entry : String × Sender) (h : entry ∈ others) : id ≠ entry.1 := by
    rintro rfl
    exact fresh (List.mem_map_of_mem h)
  have found : w.temporaries.lookup id = some s := by
    have before : others.lookup id = none :=
      List.lookup_eq_none_iff.mpr fun entry h => by simpa using apart entry h
    rw [tracked, List.lookup_append, before, List.lookup_cons_self]
    rfl
  have left : w.temporaries.filter (·.1 != id) = others := by
    have before : others.filter (·.1 != id) = others :=
      List.filter_eq_self.mpr fun entry h => by simpa using (apart entry h).symm
    rw [tracked, List.filter_append, before]
    simp
  rw [releaseTemporary, bind_ok (get_apply w), found]
  dsimp only
  rw [bind_ok (modify_apply _ w), left]
  have closing : (attempt (call (Broker.transport.close s)) : Work Broker ε _)
      { w with temporaries := others } = (.ok (.ok ()), { w with
        transport := { w.transport.record (.senderClosed s.entity) with
          closed := s.id :: w.transport.closed }
        temporaries := others }) := by
    simp only [attempt_apply, call_apply, Broker.transport, Broker.close_of_open opened]
  rw [bind_ok closing]
  rfl

end World

namespace Bus

/-- The entity that a message came from: that of the registered receiver, or else the one of the
name given. -/
def origin (bus : Bus) (a : Arrival) : String :=
  ((bus.directory.receiver? a.kind a.resourceId).map (·.entity)).getD a.resourceId

theorem source_eq (bus : Bus) (a : Arrival) :
    (bus.source a).kind = a.kind ∧ (bus.source a).entity = bus.origin a := by
  rw [source, origin]
  cases found : bus.directory.receiver? a.kind a.resourceId with
  | none => exact ⟨rfl, rfl⟩
  | some receiver =>
    have key := List.find?_some found
    exact ⟨(Prod.mk.inj (beq_iff_eq.mp key)).1, rfl⟩

def senderFor (bus : Bus) (target : Resource) : Option RegisteredSender :=
  bus.directory.findSender? target.kind target.entity target.connection

def Resends (bus : Bus) (b : Broker) (target : Resource) : Prop :=
  target.entity ∉ b.failing ∧ ∀ s ∈ bus.senderFor target, s.sender.id ∉ b.closed

instance (bus : Bus) (b : Broker) (target : Resource) : Decidable (bus.Resends b target) :=
  inferInstanceAs (Decidable (_ ∧ _))

def sendCalls (bus : Bus) (b : Broker) (target : Resource) (m : Message) : List Operation :=
  if bus.Resends b target then [.sendMessages target.entity [m.id]] else []

/-- The calls that sending a message again comes to. A sender is made if there is none. -/
def resendCalls (bus : Bus) (b : Broker) (target : Resource) (m : Message) : List Operation :=
  match bus.senderFor target with
  | some _ => bus.sendCalls b target m
  | none =>
    [.senderCreated target.kind target.entity] ++ bus.sendCalls b target m ++
      [.senderClosed target.entity]

def resendArrivals (bus : Bus) (b : Broker) (target : Resource) (m : Message) :
    List (String × Message) :=
  if bus.Resends b target then b.arrivals target.entity [m] else []

/-- The broker after a message has been sent again, or not. A sender made for it is closed. -/
def resent (bus : Bus) (b : Broker) (target : Resource) (m : Message) : Broker :=
  let after := b.sent (bus.resendCalls b target m) (bus.resendArrivals b target m)
  match bus.senderFor target with
  | some _ => after
  | none => { after with senders := b.senders + 1, closed := b.senders :: b.closed }

section Resending

variable {bus : Bus} {target : Resource} {m : Message} {w : World Broker}

theorem resends_registered_iff {registered : RegisteredSender}
    (found : bus.senderFor target = some registered)
    (entity : registered.sender.entity = target.entity) (b : Broker) :
    bus.Resends b target ↔ b.sendProblem? registered.sender = none := by
  rw [Resends, found, Broker.sendProblem?_eq_none_iff, entity]
  simp

theorem resends_unregistered_iff (none_found : bus.senderFor target = none) (b : Broker) :
    bus.Resends b target ↔ target.entity ∉ b.failing := by
  simp [Resends, none_found]

theorem sendMessages_resending {s : Sender} {b made : Broker} (entity : s.entity = target.entity)
    (subscriptions : made.subscriptions = b.subscriptions)
    (iff : bus.Resends b target ↔ made.sendProblem? s = none) :
    ∃ outcome, sendMessages s [m] made =
      (outcome, made.sent (bus.sendCalls b target m) (bus.resendArrivals b target m)) ∧
        (outcome = .ok () ↔ bus.Resends b target) := by
  by_cases resends : bus.Resends b target
  · refine ⟨.ok (), ?_, iff_of_true rfl resends⟩
    rw [Broker.sendMessages_of_sendable (iff.mp resends), sendCalls, resendArrivals,
      if_pos resends, if_pos resends, entity, Broker.arrivals_congr subscriptions]
    rfl
  · obtain ⟨problem, refused⟩ := Option.ne_none_iff_exists'.mp (mt iff.mpr resends)
    refine ⟨.error problem, ?_, iff_of_false (by simp) resends⟩
    rw [Broker.sendMessages_of_refused refused, sendCalls, resendArrivals, if_neg resends,
      if_neg resends, Broker.sent_nil]

theorem resend_registered (composed : bus.Composed) {registered : RegisteredSender}
    (found : bus.senderFor target = some registered) :
    ∃ outcome trace, bus.resend Broker.transport target m w = (outcome, { w with
      transport := bus.resent w.transport target m, trace := trace }) ∧
      (outcome = .ok () ↔ bus.Resends w.transport target) := by
  have entity : registered.sender.entity = target.entity := by
    have matching := List.find?_some found
    simp only [Bool.and_eq_true, beq_iff_eq] at matching
    rw [(composed.writes_of_sender (List.mem_of_find?_eq_some found)).2, matching.1.2]
  let logged := w.add (.log (.reroutedThrough registered.resource.id))
  have resending : bus.resend Broker.transport target m w =
      call (sendMessages registered.sender [m]) logged := by
    rw [resend, show bus.directory.findSender? _ _ _ = _ from found]
    exact bind_ok (log_apply _ w) _
  obtain ⟨outcome, sending, iff⟩ := sendMessages_resending (m := m) entity rfl
    (resends_registered_iff found entity w.transport)
  have same : logged.transport = w.transport := rfl
  refine ⟨outcome, logged.trace, ?_, iff⟩
  rw [resending, call_apply, same, sending, resent, resendCalls, found]
  rfl

theorem resend_unregistered (none_found : bus.senderFor target = none)
    (sendable : target.kind ≠ .subscription) (unmade : w.transport.senders ∉ w.transport.closed)
    (fresh : w.ids.next.1 ∉ w.temporaries.map (·.1)) :
    ∃ outcome ids trace, bus.resend Broker.transport target m w = (outcome, { w with
      transport := bus.resent w.transport target m, ids := ids, trace := trace }) ∧
      (outcome = .ok () ↔ bus.Resends w.transport target) := by
  let s : Sender := ⟨w.transport.senders, target.kind, target.entity⟩
  let created := { w.transport.record (.senderCreated target.kind target.entity) with
    senders := w.transport.senders + 1 }
  have making : call (Broker.transport.createSender target) w =
      (.ok s, { w with transport := created }) := by
    simp only [call_apply, Broker.transport, Broker.createSender_eq, if_neg sendable, s, created]
  let tracked : World Broker := { w with
    transport := created
    ids := w.ids.next.2
    temporaries := w.temporaries ++ [(w.ids.next.1, s)]
    trace := w.trace ++ logs [.temporaryCreated w.ids.next.1 s.entity] }
  have tracking : (trackTemporary s : Work Broker TransportError String)
      { w with transport := created } = (.ok w.ids.next.1, tracked) := trackTemporary_apply s _
  have iff : bus.Resends w.transport target ↔ created.sendProblem? s = none := by
    rw [resends_unregistered_iff none_found, Broker.sendProblem?_eq_none_iff]
    exact (and_iff_left unmade).symm
  have subscriptions : created.subscriptions = w.transport.subscriptions := rfl
  obtain ⟨outcome, sending, iff⟩ := sendMessages_resending (m := m) (s := s) rfl subscriptions iff
  let after := created.sent (bus.sendCalls w.transport target m)
    (bus.resendArrivals w.transport target m)
  have attempting : (attempt (call (Broker.transport.sendMessages s [m])) :
      Work Broker TransportError _) tracked =
        (.ok outcome, { tracked with transport := after }) := by
    simp only [attempt_apply, call_apply, Broker.transport, tracked, sending, after]
  have releasing : (releaseTemporary Broker.transport w.ids.next.1 :
      Work Broker TransportError Unit) { tracked with transport := after } = _ :=
    releaseTemporary_apply (s := s) rfl fresh unmade
  have closed : { after.record (.senderClosed s.entity) with
      closed := s.id :: w.transport.closed } = bus.resent w.transport target m := by
    rw [resent, resendCalls, none_found]
    simp only [after, created, s, Broker.sent, Broker.record, Broker.deliverAll,
      List.append_assoc]
  refine ⟨outcome, w.ids.next.2,
    tracked.trace ++ logs [.temporaryClosed w.ids.next.1 target.entity], ?_, iff⟩
  rw [resend, show bus.directory.findSender? _ _ _ = _ from none_found]
  dsimp only
  rw [bind_ok making, bind_ok tracking, bind_ok attempting, bind_ok releasing, ← closed]
  cases outcome with
  | ok _ => rfl
  | error problem => rfl

theorem resend_apply (composed : bus.Composed) (sendable : target.kind ≠ .subscription)
    (unmade : w.transport.senders ∉ w.transport.closed)
    (fresh : w.ids.next.1 ∉ w.temporaries.map (·.1)) :
    ∃ outcome ids trace, bus.resend Broker.transport target m w = (outcome, { w with
      transport := bus.resent w.transport target m, ids := ids, trace := trace }) ∧
      (outcome = .ok () ↔ bus.Resends w.transport target) := by
  cases found : bus.senderFor target with
  | some registered =>
    obtain ⟨outcome, trace, resending, iff⟩ := resend_registered composed found
    exact ⟨outcome, w.ids, trace, resending, iff⟩
  | none => exact resend_unregistered found sendable unmade fresh

end Resending

def completed (a : Arrival) (b : Broker) : Broker :=
  if b.Completes a.message then
    (b.unlock a.message.lockToken).record (.complete a.entity a.message.message.id)
  else b

theorem complete_apply (a : Arrival) (w : World Broker) :
    ∃ outcome, call (Broker.transport.complete a.entity a.message) w =
      (outcome, { w with transport := completed a w.transport }) ∧
        (outcome = .ok () ↔ w.transport.Completes a.message) := by
  rw [call_apply, completed]
  by_cases completes : w.transport.Completes a.message
  · refine ⟨.ok (), ?_, iff_of_true rfl completes⟩
    simp only [Broker.transport, Broker.complete_of_completes completes, if_pos completes]
  · obtain ⟨problem, refused⟩ := Broker.complete_of_not_completes completes a.entity
    refine ⟨.error problem, ?_, iff_of_false (by simp) completes⟩
    simp only [Broker.transport, refused, if_neg completes]

theorem setup_completed (a : Arrival) (b : Broker) : (completed a b).setup = b.setup := by
  rw [completed]
  split <;> rfl

theorem resends_completed_iff (bus : Bus) (a : Arrival) (b : Broker) (target : Resource) :
    bus.Resends (completed a b) target ↔ bus.Resends b target := by
  have closed : (completed a b).closed = b.closed :=
    congrArg Broker.Setup.closed (setup_completed a b)
  have failing : (completed a b).failing = b.failing :=
    congrArg Broker.Setup.failing (setup_completed a b)
  rw [Resends, Resends, closed, failing]

theorem reroute_apply {bus : Bus} (composed : bus.Composed) (a : Arrival) {w : World Broker}
    (unmade : w.transport.senders ∉ w.transport.closed)
    (fresh : w.ids.next.1 ∉ w.temporaries.map (·.1)) :
    let target := (bus.source a).rerouteTarget
    ∃ first second ids trace, bus.reroute Broker.transport a w =
      ((match RerouteError.ofOutcomes first second with
        | none => .ok ()
        | some error => .error error), { w with
        transport := bus.resent (completed a w.transport) target a.message.message
        ids := ids
        trace := trace }) ∧
      (first = .ok () ↔ w.transport.Completes a.message) ∧
      (second = .ok () ↔ bus.Resends w.transport target) := by
  intro target
  obtain ⟨first, completing, completes⟩ := complete_apply a w
  let between : World Broker := { w with transport := completed a w.transport }
  have unmade' : between.transport.senders ∉ between.transport.closed := by
    have senders : (completed a w.transport).senders = w.transport.senders :=
      congrArg Broker.Setup.senders (setup_completed a w.transport)
    have closed : (completed a w.transport).closed = w.transport.closed :=
      congrArg Broker.Setup.closed (setup_completed a w.transport)
    change (completed a w.transport).senders ∉ (completed a w.transport).closed
    rwa [senders, closed]
  obtain ⟨second, ids, trace, resending, resends⟩ := resend_apply (w := between)
    (m := a.message.message) composed (bus.source a).rerouteTarget_sendable unmade' fresh
  have completing' : (attempt (call (Broker.transport.complete a.entity a.message)) :
      Work Broker RerouteError _) w = (.ok first, between) := by
    rw [attempt_apply, completing]
  have resending' : (attempt (bus.resend Broker.transport target a.message.message) :
      Work Broker RerouteError _) between = (.ok second, { between with
        transport := bus.resent between.transport target a.message.message
        ids := ids
        trace := trace }) := by
    rw [attempt_apply, resending]
  refine ⟨first, second, ids, trace ++ logs [.rerouted a.kind a.resourceId a.message.message.id
    (a.message.message.isolationKey?.getD "") target first.isOk second.isOk], ?_, completes,
    resends.trans (resends_completed_iff ..)⟩
  rw [reroute, bind_ok completing', bind_ok resending', bind_ok (log_apply _ _)]
  cases RerouteError.ofOutcomes first second with
  | none => rfl
  | some error => rfl

theorem resendCalls_completed (bus : Bus) (a : Arrival) (b : Broker) (target : Resource)
    (m : Message) : bus.resendCalls (completed a b) target m = bus.resendCalls b target m := by
  have sends : bus.sendCalls (completed a b) target m = bus.sendCalls b target m :=
    if_congr (resends_completed_iff bus a b target) rfl rfl
  rw [resendCalls, resendCalls, sends]

theorem resendArrivals_completed (bus : Bus) (a : Arrival) (b : Broker) (target : Resource)
    (m : Message) :
    bus.resendArrivals (completed a b) target m = bus.resendArrivals b target m := by
  have same : (completed a b).arrivals target.entity [m] = b.arrivals target.entity [m] := by
    refine Broker.arrivals_congr ?_ _ _
    rw [completed]
    split <;> rfl
  rw [resendArrivals, resendArrivals, same]
  exact if_congr (resends_completed_iff bus a b target) rfl rfl

theorem resent_completed (bus : Bus) (a : Arrival) (b : Broker) (target : Resource) (m : Message) :
    bus.resent (completed a b) target m =
      { (if bus.Resends b target then b.route target.entity m else b) with
        inFlight :=
          if b.Completes a.message then
            b.inFlight.filter (·.2.lockToken != a.message.lockToken)
          else b.inFlight
        operations := b.operations ++
          (if b.Completes a.message then [.complete a.entity a.message.message.id] else []) ++
          bus.resendCalls b target m
        senders := if (bus.senderFor target).isSome then b.senders else b.senders + 1
        closed := if (bus.senderFor target).isSome then b.closed else b.senders :: b.closed } := by
  rw [resent, resendCalls_completed, resendArrivals_completed, resendArrivals, completed]
  by_cases completes : b.Completes a.message <;> by_cases resends : bus.Resends b target <;>
    cases bus.senderFor target <;>
    simp only [completes, resends, if_true, if_false, Broker.route_eq, Broker.sent,
      Broker.deliverAll_nil, List.append_nil] <;> rfl

theorem ofOutcomes_eq (first second : Except TransportError Unit) :
    (RerouteError.ofOutcomes first second = none ↔ first = .ok () ∧ second = .ok ()) ∧
      ∀ error, RerouteError.ofOutcomes first second = some error →
        (error.complete = none ↔ first = .ok ()) ∧ (error.resend = none ↔ second = .ok ()) := by
  constructor
  · rcases first with c | _ <;> rcases second with r | _ <;> simp [RerouteError.ofOutcomes]
  · intro error h
    rcases first with c | _ <;> rcases second with r | _ <;> cases h <;> simp

theorem inFlight_perm_of_completes {b : Broker} {maxBatchSize : Nat} {requests : List Request}
    (reached : b = (start maxBatchSize).run requests) {r : Received} (completes : b.Completes r) :
    ∃ entry, entry.2.lockToken = r.lockToken ∧
      b.inFlight.Perm (entry :: b.inFlight.filter (·.2.lockToken != r.lockToken)) := by
  subst reached
  obtain ⟨entry, settled⟩ := Broker.completes_iff.mp completes
  have token := Broker.token_of_settleable settled
  have locked := (Broker.settleable_eq_ok.mp settled).2
  have tokens := (Broker.account_sound maxBatchSize requests).tokens
  rw [← token] at locked ⊢
  exact ⟨entry, rfl, tokens.unlock_perm locked⟩

/-- Processing a message of another instance runs no handler and calls no listener. It completes the
message if its lock can be settled, and routes a copy to where it came from if that can be sent to;
neither step depends on the other, and an error names the steps that have failed. A sender that is
made for the copy is closed again. -/
theorem process_rerouted {bus : Bus} (composed : bus.Composed) {maxBatchSize : Nat}
    {requests : List Request} (made : ClosesMade maxBatchSize requests) {w : World Broker}
    (reached : w.transport = (start maxBatchSize).run requests)
    (fresh : w.ids.next.1 ∉ w.temporaries.map (·.1)) {a : Arrival}
    (foreign : bus.settings.isolation.accepts a.message.message.isolationKey? = false) :
    let b := w.transport
    let m := a.message.message
    let target := (bus.source a).rerouteTarget
    let result := bus.process Broker.transport a w
    (∃ events, result.2.trace = w.trace ++ logs events) ∧
      result.2.temporaries = w.temporaries ∧
      target.kind = (if a.kind = .subscription then .topic else a.kind) ∧
      target.entity = (if a.kind = .subscription then topicOf (bus.origin a) else bus.origin a) ∧
      result.2.transport =
        { (if bus.Resends b target then b.route target.entity m else b) with
          inFlight :=
            if b.Completes a.message then
              b.inFlight.filter (·.2.lockToken != a.message.lockToken)
            else b.inFlight
          operations := b.operations ++
            (if b.Completes a.message then [.complete a.entity m.id] else []) ++
            bus.resendCalls b target m
          senders := if (bus.senderFor target).isSome then b.senders else b.senders + 1
          closed :=
            if (bus.senderFor target).isSome then b.closed else b.senders :: b.closed } ∧
      (b.Completes a.message → ∃ entry, entry.2.lockToken = a.message.lockToken ∧
        b.inFlight.Perm (entry :: result.2.transport.inFlight)) ∧
      (result.1 = .ok () ↔ b.Completes a.message ∧ bus.Resends b target) ∧
      ∀ f, result.1 = .error f → ∃ error, f = failure a none (.reroute error) ∧
        (error.complete = none ↔ b.Completes a.message) ∧
        (error.resend = none ↔ bus.Resends b target) := by
  intro b m target result
  have unmade : w.transport.senders ∉ w.transport.closed := fun closed => by
    have := Broker.closed_lt_senders made w.transport.senders (reached ▸ closed)
    rw [← reached] at this
    omega
  obtain ⟨first, second, ids, trace, rerouted, completes, resends⟩ :=
    reroute_apply composed a unmade fresh
  have processed : result = _ := process_foreign foreign Broker.transport w
  have quiet : ∃ events, result.2.trace = w.trace ++ logs events := by
    rw [processed]
    exact (quiet_reroute Broker.transport bus a w).trace
  have transport : result.2.transport = bus.resent (completed a b) target m := by
    rw [processed, rerouted]
  have temporaries : result.2.temporaries = w.temporaries := by
    rw [processed, rerouted]
  have answer : result.1 = (match RerouteError.ofOutcomes first second with
      | none => .ok ()
      | some error => .error error : Except RerouteError Unit).mapError
        fun error => failure a none (.reroute error) := by
    rw [processed, rerouted]
  obtain ⟨kind, entity, -⟩ := (bus.source a).rerouteTarget_eq
  rw [(source_eq bus a).1] at kind entity
  rw [(source_eq bus a).2] at entity
  obtain ⟨both, named⟩ := ofOutcomes_eq first second
  rw [completes, resends] at both
  refine ⟨quiet, temporaries, kind, entity, transport.trans (resent_completed bus a b target m),
    fun completes => ?_, ?_, fun f hf => ?_⟩
  · have locked := inFlight_perm_of_completes reached completes
    rw [transport, resent_completed, if_pos completes]
    exact locked
  · rw [← both, answer]
    cases RerouteError.ofOutcomes first second with
    | none => exact iff_of_true rfl rfl
    | some error => exact iff_of_false (by simp) (by simp)
  · rw [answer] at hf
    cases herror : RerouteError.ofOutcomes first second with
    | none =>
      rw [herror] at hf
      cases hf
    | some error =>
      rw [herror] at hf
      obtain ⟨complete, resend⟩ := named error herror
      exact ⟨error, (Except.error.inj hf).symm, complete.trans completes, resend.trans resends⟩

-- An isolated bus without senders, and a message on one of two subscriptions of a topic.

def outpost : Bus := { settings := { isolation := .isolated "red" } }

def notice : Message := { id := "m1", properties := [(Property.isolationKey, .text "blue")] }

def noticeRequests : List Request :=
  [.createSubscription "news" "red", .createSubscription "news" "blue",
    .enqueue "news/Subscriptions/red" notice, .receive "news/Subscriptions/red" 1]

def noticeArrival : Arrival where
  kind := .subscription
  resourceId := "news/Subscriptions/red"
  message := { message := notice, sequenceNumber := 1, lockToken := .issued 0 }
  entity := "news/Subscriptions/red"

def noticeWorld : World Broker := { transport := (start 1000).run noticeRequests }

theorem process_rerouted_of_notice :
    let result := outpost.process Broker.transport noticeArrival noticeWorld
    outpost.Composed ∧ ClosesMade 1000 noticeRequests ∧
      noticeWorld.ids.next.1 ∉ noticeWorld.temporaries.map (·.1) ∧
      outpost.settings.isolation.accepts noticeArrival.message.message.isolationKey? = false ∧
      result.1 = .ok () ∧
      ∃ entry, noticeWorld.transport.inFlight.Perm (entry :: result.2.transport.inFlight) := by
  have composed : outpost.Composed :=
    ⟨{ isolation := .isolated "red" }, .inOrder, [], { transport := start 1000 }, _, rfl⟩
  have made : ClosesMade 1000 noticeRequests := by
    intro earlier s h
    have closed := h.subset (List.mem_append_right earlier (List.mem_singleton.mpr rfl))
    simp [noticeRequests] at closed
  have fresh : noticeWorld.ids.next.1 ∉ noticeWorld.temporaries.map (·.1) := List.not_mem_nil
  have foreign : outpost.settings.isolation.accepts
      noticeArrival.message.message.isolationKey? = false := by decide
  have completes : noticeWorld.transport.Completes noticeArrival.message := by decide
  have resends : outpost.Resends noticeWorld.transport
      (outpost.source noticeArrival).rerouteTarget := by decide +kernel
  obtain ⟨-, -, -, -, -, locked, answer, -⟩ :=
    process_rerouted composed made (w := noticeWorld) rfl fresh foreign
  obtain ⟨entry, -, perm⟩ := locked completes
  exact ⟨composed, made, fresh, foreign, answer.mpr ⟨completes, resends⟩, entry, perm⟩

end Bus

end MessageBus
