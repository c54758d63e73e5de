import MessageBus.Proofs.Broker.Order
import MessageBus.Proofs.Bus.Notes
import MessageBus.Proofs.Bus.Publishing
import MessageBus.Proofs.Bus.Registrations
import MessageBus.Proofs.Outgoing

/-!
# From publishing to handling

A payload type that is dispatched to a queue and received from it makes a round trip: what is
published waits on the queue in the order of the dispatches, and processing it runs the handler once
for each of them, on the payload that was dispatched.
-/

namespace MessageBus

open Outcome World
open Outgoing (MadeFrom Welcome assignments messagesTo)

namespace Bus

variable {bus : Bus} {d : DispatchRegistration} {ds : List Dispatch} {inbound : Option Inbound}
  {ids ids' : IdSupply} {outgoing : List Outgoing} {w : World Broker}

theorem assignments_of_registration {registry : DispatchRegistry}
    (keys : (registry.registrations.map (·.key)).Nodup) (hd : d ∈ registry.registrations)
    (typed : ∀ e ∈ ds, e.payload.type.identity = d.payloadType.identity) :
    (assignments registry ds).filter (fun a => a.2.resource.key = d.resource.key) =
      ds.map (·, d) := by
  have own (e : Dispatch) (he : e ∈ ds) :
      (registry.registrations.filter (·.payloadType.identity == e.payload.type.identity)).filter
        (fun r => r.resource.key = d.resource.key) = [d] := by
    rw [List.filter_filter, ← filter_eq_singleton_of_key keys hd]
    refine List.filter_congr fun r _ => ?_
    simp only [DispatchRegistration.key, Resource.key, typed e he, Prod.mk.injEq,
      Bool.decide_and, beq_eq_decide]
    rw [Bool.and_comm]
  rw [assignments, List.filter_flatMap, ← List.flatMap_singleton' (ds.map _), List.flatMap_map]
  refine List.flatMap_congr fun e he => ?_
  rw [List.filter_map]
  exact congrArg (List.map (e, ·)) (own e he)

theorem madeFrom_messagesTo (composed : bus.Composed) (hd : d ∈ bus.dispatches.registrations)
    (typed : ∀ e ∈ ds, e.payload.type.identity = d.payloadType.identity)
    (made : bus.made ds inbound ids = (.ok outgoing, ids')) :
    List.Forall₂ (fun e m => MadeFrom bus.settings.isolation inbound e d ⟨d, m⟩) ds
      (messagesTo d.resource.key outgoing) := by
  have own : List.Forall₂ (fun a o => MadeFrom bus.settings.isolation inbound a.1 a.2 o)
      ((assignments bus.dispatches ds).filter fun a => a.2.resource.key = d.resource.key)
      (outgoing.filter (·.destination = d.resource.key)) := by
    refine List.rel_filter (fun a o hmade => ?_) (Outgoing.madeFrom_of_createAll made)
    simp only [Outgoing.destination, hmade.registration]
  rw [assignments_of_registration composed.keys_nodup hd typed, List.forall₂_map_left_iff] at own
  refine List.forall₂_map_right_iff.mpr (own.imp fun e o hmade => ?_)
  obtain ⟨registration, m⟩ := o
  cases hmade.registration
  exact hmade

/-- The registration's queue gets the registration's messages, if no other destination of the
dispatches leads there. -/
theorem places_at_queue {b : Broker} (composed : bus.Composed)
    (hd : d ∈ bus.dispatches.registrations)
    (typed : ∀ e ∈ ds, e.payload.type.identity = d.payloadType.identity)
    (made : bus.made ds inbound ids = (.ok outgoing, ids'))
    (no_topic : b.subscriptionsOf d.resource.entity = [])
    (apart : ∀ other ∈ bus.dispatches.registrations,
      other.payloadType.identity = d.payloadType.identity → other.resource ≠ d.resource →
        d.resource.entity ∉ b.targets other.resource.entity) :
    (((bus.partition outgoing).flatMap fun g =>
        b.arrivals g.sender.entity g.messages).filter (·.1 == d.resource.entity)).map (·.2) =
      messagesTo d.resource.key outgoing := by
  have own (g : Group) (hg : g ∈ bus.partition outgoing) :
      ((b.arrivals g.sender.entity g.messages).filter (·.1 == d.resource.entity)).map (·.2) =
        if (g.kind, g.resourceId) = d.resource.key then messagesTo d.resource.key outgoing
        else [] := by
    split
    · next here =>
      rw [entity_of_mem_partition composed hg hd here.symm, Broker.arrivals_queue no_topic,
        messagesTo_of_mem_partition hg, here, List.filter_eq_self.mpr (by simp), List.map_map]
      exact List.map_id _
    · next elsewhere =>
      -- The group is for another destination of the type, and none of them leads to the queue.
      obtain ⟨o, ho, key⟩ := registration_of_mem_partition hg
      obtain ⟨hr, e, he, type⟩ := mem_registrations_of_made made ho
      have other : o.registration.resource ≠ d.resource := by
        rintro same
        exact elsewhere (key.symm.trans (congrArg Resource.key same))
      rw [entity_of_mem_partition composed hg hr key,
        Broker.arrivals_apart (apart _ hr (type.trans (typed e he)) other)]
      rfl
  have distinct : ((bus.partition outgoing).map fun g => (g.kind, g.resourceId)).Nodup := by
    rw [keys_partition (grouped_of_made composed made)]
    exact nodup_eraseDups _
  rw [List.filter_flatMap, List.map_flatMap, List.flatMap_congr own, flatMap_key distinct,
    keys_partition (grouped_of_made composed made)]
  split
  · rfl
  · next absent =>
    refine (List.map_eq_nil_iff.mpr (List.filter_eq_nil_iff.mpr fun o ho here => absent ?_)).symm
    exact List.mem_eraseDups.mpr (of_decide_eq_true here ▸ List.mem_map_of_mem ho)

/-- A payload type goes to an entity and comes back from it under one type id. This can only be a
queue, since nothing is received from topics or sent to subscriptions. -/
structure Loop (bus : Bus) (d : DispatchRegistration) (r : ReceptionRegistration) : Prop where
  dispatched : d ∈ bus.dispatches.registrations
  received : r ∈ bus.receptions.registrations
  same_address : d.resource.address = r.resource.address
  same_typeId : d.payloadTypeId = r.payloadTypeId
  plain : d.customizers = []

/-- The dispatch is of the type, brings no isolation key of its own, and its payload is read back
from whatever it is written as. -/
structure Returns (d : DispatchRegistration) (r : ReceptionRegistration) (e : Dispatch) :
    Prop where
  typed : e.payload.type.identity = d.payloadType.identity
  unkeyed : e.properties.get? Property.isolationKey = none
  readable : ∀ body, d.serializer.encode e.payload = .ok body →
    r.serializer.decode r.payloadType body = .ok e.payload.value

def arrivalAt (r : ReceptionRegistration) (m : Received) : Arrival :=
  ⟨r.resource.kind, r.resource.id, m, r.resource.entity⟩

def runOn (r : ReceptionRegistration) (payload : Json) (m : Received) (cancelled : Bool) :
    HandlerRun :=
  r.handler.run payload ⟨r.resource.kind, r.resource.id, m, cancelled⟩

def processAll (bus : Bus) (r : ReceptionRegistration) (cancelled : Received → Bool) :
    List Received → World Broker → World Broker
  | [], w => w
  | m :: rest, w =>
    bus.processAll r cancelled rest
      (bus.process Broker.transport (arrivalAt r m) { w with cancelled := cancelled m }).2

def runsAll (bus : Bus) (r : ReceptionRegistration) (cancelled : Received → Bool) :
    List Received → World Broker → List HandlerRun
  | [], _ => []
  | m :: rest, w =>
    let w := { w with cancelled := cancelled m }
    (bus.handlerRun? Broker.transport (arrivalAt r m) w).toList ++
      bus.runsAll r cancelled rest (bus.process Broker.transport (arrivalAt r m) w).2

variable {r : ReceptionRegistration} {e : Dispatch} {m : Received}

theorem accepts_of_madeFrom (loop : bus.Loop d r) (returns : Returns d r e)
    (welcome : Welcome bus.settings.isolation inbound)
    (made : MadeFrom bus.settings.isolation inbound e d ⟨d, m.message⟩) :
    bus.settings.isolation.accepts m.message.isolationKey? = true := by
  obtain ⟨body, ids, -, content⟩ := made.plain loop.plain
  change m.message = _ at content
  have key : m.message.isolationKey? =
      Outgoing.isolationKey bus.settings.isolation inbound := by
    rw [content, Outgoing.isolationKey?_base, returns.unkeyed]
    simp
  rw [key]
  exact Outgoing.accepts_isolationKey welcome

theorem handlerRun?_of_madeFrom (composed : bus.Composed) (loop : bus.Loop d r)
    (returns : Returns d r e)
    (made : MadeFrom bus.settings.isolation inbound e d ⟨d, m.message⟩) (w : World Broker) :
    bus.handlerRun? Broker.transport (arrivalAt r m) w =
      some (runOn r e.payload.value m w.cancelled) := by
  obtain ⟨body, ids, encoded, content⟩ := made.plain loop.plain
  change m.message = _ at content
  refine (handlerRun?_eq_some_iff ..).mpr ⟨r.payloadTypeId, r, e.payload.value, ?_, ?_, ?_, ?_⟩
  · change m.message.payloadTypeId? = _
    rw [content, Outgoing.payloadTypeId?_base, loop.same_typeId]
  · exact composed.found loop.received
  · change (r.serializer.decode r.payloadType m.message.body).mapError _ = _
    rw [DispatchRegistration.encode, if_pos returns.typed] at encoded
    have body_eq : m.message.body = body := congrArg Message.body content
    rw [body_eq, returns.readable body encoded, mapError_ok]
  · simp only [arrivalAt, runOn, isCancelled, Broker.transport, Bool.or_false]

/-- The runs on the payloads of dispatches, each with its message. -/
def runsOn (r : ReceptionRegistration) (cancelled : Received → Bool) (ds : List Dispatch)
    (received : List Received) : List HandlerRun :=
  (ds.zip received).map fun (e, m) => runOn r e.payload.value m (cancelled m)

section All

variable {received : List Received} (composed : bus.Composed) (loop : bus.Loop d r)
  (returns : ∀ e ∈ ds, Returns d r e)
  (made : List.Forall₂
    (fun e m => MadeFrom bus.settings.isolation inbound e d ⟨d, m.message⟩) ds received)
  (cancelled : Received → Bool) (w : World Broker)
include composed loop returns made

theorem runsAll_eq :
    bus.runsAll r cancelled received w = runsOn r cancelled ds received := by
  induction made generalizing w with
  | nil => rfl
  | @cons e m ds received first _ ih =>
    have own : Returns d r e := returns e (List.mem_cons_self ..)
    rw [runsAll, handlerRun?_of_madeFrom composed loop own first,
      ih (fun e he => returns e (List.mem_cons_of_mem _ he))]
    rfl

theorem noted_processAll (welcome : Welcome bus.settings.isolation inbound) :
    noted (bus.processAll r cancelled received w).trace =
      noted w.trace ++ (runsOn r cancelled ds received).flatMap fun run => noted run.notes := by
  induction made generalizing w with
  | nil => exact (List.append_nil _).symm
  | @cons e m ds received first _ ih =>
    have own : Returns d r e := returns e (List.mem_cons_self ..)
    rw [processAll, ih (fun e he => returns e (List.mem_cons_of_mem _ he)),
      noted_process (accepts_of_madeFrom loop own welcome first),
      handlerRun?_of_madeFrom composed loop own first, List.append_assoc]
    rfl

end All

/-- Nothing keeps the messages of the dispatches from going out, and the queue is there for them
alone. -/
structure Clear (bus : Bus) (d : DispatchRegistration) (ds : List Dispatch)
    (inbound : Option Inbound) (w : World Broker) : Prop where
  made : ∃ outgoing ids', bus.made ds inbound w.ids = (.ok outgoing, ids') ∧
    ∀ o ∈ outgoing, o.message.size ≤ bus.limit w.transport
  sendable : ∀ other ∈ bus.dispatches.registrations,
    other.payloadType.identity = d.payloadType.identity →
      other.resource.entity ∉ w.transport.failing
  opened : ∀ s ∈ bus.directory.senders, s.sender.id ∉ w.transport.closed
  going : w.cancelled = false
  empty : w.transport.pendingAt d.resource.entity = []
  no_topic : w.transport.subscriptionsOf d.resource.entity = []

theorem accepted_of_clear (composed : bus.Composed) (clear : bus.Clear d ds inbound w)
    (typed : ∀ e ∈ ds, e.payload.type.identity = d.payloadType.identity)
    (made : bus.made ds inbound ids = (.ok outgoing, ids'))
    (small : ∀ o ∈ outgoing, o.message.size ≤ bus.limit w.transport) {g : Group}
    (hg : g ∈ bus.partition outgoing) : bus.refusal? w.cancelled w.transport g = none := by
  refine (refusal?_eq_none_iff ..).mpr ⟨clear.going, ?_, ?_, ?_⟩
  · obtain ⟨s, hs, heq⟩ := Option.map_eq_some_iff.mp (sender_of_mem_partition hg)
    exact heq ▸ clear.opened s (Directory.mem_of_sender? hs).1
  · obtain ⟨o, ho, key⟩ := registration_of_mem_partition hg
    obtain ⟨hr, e, he, type⟩ := mem_registrations_of_made made ho
    rw [entity_of_mem_partition composed hg hr key]
    exact clear.sendable _ hr (type.trans (typed e he))
  · intro m hm
    rw [messagesTo_of_mem_partition hg] at hm
    obtain ⟨o, ho, rfl⟩ := List.mem_map.mp hm
    exact small o (List.mem_filter.mp ho).1

/-- What is published comes back: sending succeeds, and whoever receives all of the queue gets one
message for each dispatch, in order and as it was made. Processing them runs the handler once on
the payload of each dispatch, in that order, and leaves the notes of these runs and no others. No
other destination of the payload type may lead to the queue, neither by its own path nor as a topic
with a subscription of that path. -/
theorem round_trip (composed : bus.Composed) (loop : bus.Loop d r)
    (returns : ∀ e ∈ ds, Returns d r e) (welcome : Welcome bus.settings.isolation inbound)
    (clear : bus.Clear d ds inbound w)
    (apart : ∀ other ∈ bus.dispatches.registrations,
      other.payloadType.identity = d.payloadType.identity → other.resource ≠ d.resource →
        d.resource.entity ∉ w.transport.targets other.resource.entity)
    {most : Nat} (all : ds.length ≤ most) (cancelled : Received → Bool) :
    let result := bus.send Broker.transport ds inbound w
    let sent := result.2
    let taken := sent.transport.receive r.resource.entity most
    result.1 = .ok () ∧ taken.2.pendingAt r.resource.entity = [] ∧
      List.Forall₂ (fun e m => MadeFrom bus.settings.isolation inbound e d ⟨d, m.message⟩) ds
        taken.1 ∧
      bus.runsAll r cancelled taken.1 { sent with transport := taken.2 } =
        runsOn r cancelled ds taken.1 ∧
      noted (bus.processAll r cancelled taken.1 { sent with transport := taken.2 }).trace =
        noted sent.trace ++
          (runsOn r cancelled ds taken.1).flatMap fun run => noted run.notes := by
  intro result sent taken
  obtain ⟨outgoing, ids', made, small⟩ := clear.made
  have typed (e : Dispatch) (he : e ∈ ds) := (returns e he).typed
  obtain ⟨ok, calls, transport⟩ := send_of_accepted made (grouped_of_made composed made)
    fun g hg => accepted_of_clear composed clear typed made small hg
  have same := composed.same_resource loop.dispatched loop.received loop.same_address
  -- The queue was empty, so whatever waits on it now has just been sent.
  have waiting : (sent.transport.pendingAt r.resource.entity).map (·.message) =
      messagesTo d.resource.key outgoing := by
    rw [← same]
    change (result.2.transport.pendingAt _).map _ = _
    rw [transport, Broker.messages_pendingAt_sent, clear.empty,
      places_at_queue composed loop.dispatched typed made clear.no_topic apart]
    rfl
  have each := madeFrom_messagesTo composed loop.dispatched typed made
  rw [← waiting, List.forall₂_map_right_iff] at each
  have enough : (sent.transport.pendingAt r.resource.entity).length ≤ most :=
    each.length_eq ▸ all
  have received : taken.1 = sent.transport.pendingAt r.resource.entity := by
    rw [Broker.receive_received, List.take_of_length_le enough]
  have emptied : taken.2.pendingAt r.resource.entity = [] := by
    rw [Broker.receive_pendingAt, List.drop_of_length_le enough]
  rw [← received] at each
  exact ⟨ok, emptied, each, runsAll_eq composed loop returns each cancelled _,
    noted_processAll composed loop returns each cancelled _ welcome⟩

-- A queue with the name of a subscription, and a payload type that goes to the queue and to the
-- topic.

def till : Resource := .queue (Resource.subscriptionPath "events" "billing")

def cashier : Handler :=
  ⟨{ name := "Cashier" }, fun _ ctx => ⟨[.note (.text ctx.message.message.id)], .ok ()⟩⟩

def toTill : DispatchRegistration := ⟨till, slip, "slip", blank, []⟩

def atTill : ReceptionRegistration := ⟨till, slip, "slip", blank, cashier⟩

def ledger : Bus where
  settings := { isolation := .isolated "blue" }
  dispatches :=
    [toTill, ⟨.topic "events", slip, "slip", blank, []⟩].foldl DispatchRegistry.insert {}
  receptions := .insert {} atTill
  directory :=
    { senders := [⟨till, ⟨0, .queue, till.entity⟩⟩, ⟨.topic "events", ⟨1, .topic, "events"⟩⟩]
      receivers := [till] }

def sale (id : String) : Dispatch := { payload := ⟨slip, .null⟩, messageId := some id }

/-- The ids that the handler notes when all of the queue is processed. -/
def ledgerNotes (ds : List Dispatch) (inbound : Option Inbound) (w : World Broker) : List String :=
  let sent := (ledger.send Broker.transport ds inbound w).2
  let (received, after) := sent.transport.receive till.entity 10
  (noted (ledger.processAll atTill (fun _ => false) received
    { sent with transport := after }).trace).filterMap Json.text?

theorem composed_ledger : ledger.Composed :=
  ⟨{ isolation := .isolated "blue" }, .inOrder,
    [.serializer blank, .dispatch slip till none [], .dispatch slip (.topic "events") none [],
      .receive slip till none cashier], { transport := {} }, _, by rfl⟩

theorem loop_ledger : ledger.Loop toTill atTill where
  dispatched := List.mem_cons_self ..
  received := List.mem_cons_self ..
  same_address := rfl
  same_typeId := rfl
  plain := rfl

theorem returns_sale (id : String) : Returns toTill atTill (sale id) where
  typed := rfl
  unkeyed := rfl
  readable := fun _ _ => rfl

theorem clear_ledger {ds : List Dispatch} {inbound : Option Inbound} {w : World Broker}
    {outgoing : List Outgoing} {ids' : IdSupply}
    (made : ledger.made ds inbound w.ids = (.ok outgoing, ids'))
    (small : ∀ o ∈ outgoing, o.message.size ≤ ledger.limit w.transport)
    (untouched : w.transport.failing = [] ∧ w.transport.closed = [] ∧ w.transport.pending = [])
    (going : w.cancelled = false) (no_topic : w.transport.subscriptionsOf till.entity = []) :
    ledger.Clear toTill ds inbound w where
  made := ⟨outgoing, ids', made, small⟩
  sendable := fun _ _ _ => untouched.1 ▸ List.not_mem_nil
  opened := fun _ _ => untouched.2.1 ▸ List.not_mem_nil
  going := going
  empty := by rw [Broker.pendingAt, untouched.2.2]; rfl
  no_topic := no_topic

theorem round_trip_of_ledger :
    let ds := [sale "m1", sale "m2"]
    let w : World Broker := { transport := {} }
    ledger.Composed ∧ ledger.Loop toTill atTill ∧ (∀ e ∈ ds, Returns toTill atTill e) ∧
      ledger.Clear toTill ds none w ∧ (ledger.send Broker.transport ds none w).1 = .ok () ∧
      ledgerNotes ds none w = ["m1", "m2"] := by
  intro ds w
  have returns (e : Dispatch) (he : e ∈ ds) : Returns toTill atTill e := by
    simp only [ds, List.mem_cons, List.not_mem_nil, or_false] at he
    rcases he with rfl | rfl <;> exact returns_sale _
  have clear : ledger.Clear toTill ds none w :=
    clear_ledger rfl (by decide +kernel) ⟨rfl, rfl, rfl⟩ rfl rfl
  have apart : ∀ other ∈ ledger.dispatches.registrations,
      other.payloadType.identity = toTill.payloadType.identity → other.resource ≠ toTill.resource →
        toTill.resource.entity ∉ w.transport.targets other.resource.entity := by
    decide +kernel
  have welcome : Welcome ledger.settings.isolation none := by simp [Welcome]
  have trip := round_trip composed_ledger loop_ledger returns welcome clear apart
    (Nat.le_refl ds.length) fun _ => false
  exact ⟨composed_ledger, loop_ledger, returns, clear, trip.1, by decide +kernel⟩

/-- No other destination has the path of the queue, and yet a sale comes back twice if the topic has
a subscription of that path. If it is made while a message of another instance is handled, it does
not come back at all. -/
theorem sale_back_twice_or_never :
    let subscribed : World Broker :=
      { transport := (Broker.start 262144).run [.createSubscription "events" "billing"] }
    let foreign : Inbound := { isolationKey := some "red" }
    let w : World Broker := { transport := {} }
    ledger.Composed ∧ ledger.Loop toTill atTill ∧ Returns toTill atTill (sale "m1") ∧
      (∀ other ∈ ledger.dispatches.registrations, other.resource ≠ toTill.resource →
        other.resource.entity ≠ toTill.resource.entity) ∧
      ledger.Clear toTill [sale "m1"] none subscribed ∧
      ledgerNotes [sale "m1"] none subscribed = ["m1", "m1"] ∧
      ledger.Clear toTill [sale "m1"] (some foreign) w ∧
      ledgerNotes [sale "m1"] (some foreign) w = [] := by
  intro subscribed foreign w
  refine ⟨composed_ledger, loop_ledger, returns_sale _, by decide +kernel, ?_, by decide +kernel,
    ?_, by decide +kernel⟩
  · exact clear_ledger rfl (by decide +kernel) ⟨rfl, rfl, rfl⟩ rfl rfl
  · exact clear_ledger rfl (by decide +kernel) ⟨rfl, rfl, rfl⟩ rfl rfl

end Bus

end MessageBus
