import Mathlib.Logic.Relation
import MessageBus.Proofs.Bus.Notes
import MessageBus.Proofs.Bus.Publishing
import MessageBus.Proofs.Outgoing

/-!
# Chains of messages

A message causes others: sent on to where it belongs it causes a copy of itself, and handled it
causes what its handler publishes. Along any chain of such hops the correlation id and the isolation
stay those of the first message.
-/

namespace MessageBus

open Outcome World

def Broker.arrived (before after : Broker) : List Message :=
  (after.pending.drop before.pending.length).map (·.2.message)

theorem Broker.arrived_of_append {before after : Broker} {entries : List (String × Received)}
    (h : after.pending = before.pending ++ entries) :
    before.arrived after = entries.map (·.2.message) := by
  rw [arrived, h, List.drop_left]

theorem Broker.arrived_sent (b : Broker) (calls : List Operation)
    (places : List (String × Message)) : b.arrived (b.sent calls places) = places.map (·.2) := by
  have appended : (b.sent calls places).pending = b.pending ++ stamped b.sequence b.locks places :=
    rfl
  rw [arrived_of_append appended]
  have := congrArg (List.map Prod.snd) (map_stamped b.sequence b.locks places)
  rwa [List.map_map] at this

theorem Broker.arrived_self (b : Broker) : b.arrived b = [] :=
  arrived_of_append (List.append_nil _).symm

variable {ε δ α β : Type}

/-- Work after which copies of the message wait behind what was waiting, and nothing else. -/
def Forwards (m : Message) (work : Work Broker ε α) : Prop :=
  ∀ w, ∃ entries, (work w).2.transport.pending = w.transport.pending ++ entries ∧
    ∀ e ∈ entries, e.2.message = m

namespace Forwards

variable {m : Message}

theorem of_pending {work : Work Broker ε α}
    (h : ∀ w, (work w).2.transport.pending = w.transport.pending) : Forwards m work := fun w =>
  ⟨[], by rw [h, List.append_nil], by simp⟩

theorem bind {first : Work Broker ε α} {rest : α → Work Broker ε β} (h : Forwards m first)
    (h' : ∀ a, Forwards m (rest a)) : Forwards m (first >>= rest) := by
  intro w
  rw [bind_apply]
  obtain ⟨entries, pending, copies⟩ := h w
  rcases hfirst : first w with ⟨_ | a, between⟩ <;> rw [hfirst] at pending
  · exact ⟨entries, pending, copies⟩
  · obtain ⟨others, pending', copies'⟩ := h' a between
    refine ⟨entries ++ others, ?_, fun e he => ?_⟩
    · rw [← List.append_assoc, ← pending]
      exact pending'
    · exact (List.mem_append.mp he).elim (copies e) (copies' e)

theorem attempt {work : Work Broker ε α} (h : Forwards m work) :
    Forwards m (World.attempt work : Work Broker δ (Except ε α)) := h

theorem sendMessages (s : Sender) : Forwards m (call (Broker.transport.sendMessages s [m])) := by
  intro w
  simp only [call_apply, Broker.transport, Broker.sendMessages_eq]
  cases w.transport.sendProblem? s with
  | some problem => exact ⟨[], (List.append_nil _).symm, by simp⟩
  | none =>
    refine ⟨_, rfl, fun e he => ?_⟩
    have place := List.mem_map_of_mem (f := fun e => (e.1, e.2.message)) he
    rw [Broker.map_stamped, Broker.arrivals, List.flatMap_singleton] at place
    obtain ⟨path, -, same⟩ := List.mem_map.mp place
    exact (congrArg Prod.snd same).symm

theorem close (s : Sender) : Forwards m (call (Broker.transport.close s)) := by
  refine of_pending fun w => ?_
  simp only [call_apply, Broker.transport, Broker.close, modify_apply]
  split <;> rfl

theorem complete (path : String) (r : Received) :
    Forwards m (call (Broker.transport.complete path r)) := by
  refine of_pending fun w => ?_
  simp only [call_apply, Broker.transport, Broker.complete_eq]
  cases w.transport.settleable r <;> rfl

theorem createSender (r : Resource) : Forwards m (call (Broker.transport.createSender r)) := by
  refine of_pending fun w => ?_
  simp only [call_apply, Broker.transport, Broker.createSender_eq]
  split <;> rfl

theorem releaseTemporary (id : String) :
    Forwards m (World.releaseTemporary Broker.transport id : Work Broker ε Unit) := by
  refine (of_pending fun w => rfl : Forwards m get).bind fun w => ?_
  cases w.temporaries.lookup id with
  | none => exact of_pending fun _ => rfl
  | some s =>
    refine bind (of_pending fun _ => ?_) fun _ => ?_
    · rfl
    refine (close s).attempt.bind fun outcome => ?_
    cases outcome <;> exact of_pending fun _ => rfl

theorem resend (bus : Bus) (target : Resource) :
    Forwards m (bus.resend Broker.transport target m) := by
  rw [Bus.resend]
  cases bus.directory.findSender? target.kind target.entity target.connection with
  | some registered =>
    exact (of_pending fun _ => rfl : Forwards m (log _)).bind fun _ => sendMessages _
  | none =>
    refine (createSender target).bind fun s => ?_
    refine (of_pending fun _ => rfl : Forwards m (trackTemporary s)).bind fun id => ?_
    refine (sendMessages s).attempt.bind fun outcome => (releaseTemporary id).bind fun _ => ?_
    cases outcome <;> exact of_pending fun _ => rfl

theorem reroute (bus : Bus) (a : Arrival) :
    Forwards a.message.message (bus.reroute Broker.transport a) := by
  refine (complete a.entity a.message).attempt.bind fun completed => ?_
  refine (resend bus _).attempt.bind fun resent => ?_
  refine (of_pending fun _ => rfl : Forwards a.message.message (log _)).bind fun _ => ?_
  cases RerouteError.ofOutcomes completed resent <;> exact of_pending fun _ => rfl

end Forwards

namespace Bus

theorem eq_of_arrived_foreign {bus : Bus} {a : Arrival} {w : World Broker} {m : Message}
    (foreign : bus.settings.isolation.accepts a.message.message.isolationKey? = false)
    (arrived : m ∈ w.transport.arrived (bus.process Broker.transport a w).2.transport) :
    m = a.message.message := by
  obtain ⟨entries, pending, copies⟩ := Forwards.reroute bus a w
  rw [process_foreign foreign, Broker.arrived_of_append pending] at arrived
  obtain ⟨e, he, rfl⟩ := List.mem_map.mp arrived
  exact copies e he

theorem madeFrom_of_arrived {bus : Bus} {ds : List Dispatch} {inbound : Option Inbound}
    {w : World Broker} {m : Message}
    (arrived : m ∈ w.transport.arrived (bus.send Broker.transport ds inbound w).2.transport) :
    ∃ made ∈ Outgoing.assignments bus.dispatches ds, ∃ o,
      Outgoing.MadeFrom bus.settings.isolation inbound made.1 made.2 o ∧ o.message = m := by
  have groups := groups_eq bus ds inbound w
  cases made : bus.made ds inbound w.ids with
  | mk created ids =>
  rw [made] at groups
  cases created with
  | error problem =>
    rw [send, bind_error groups, Broker.arrived_self] at arrived
    cases arrived
  | ok outgoing =>
    cases hgrouped : bus.grouped outgoing with
    | error problem =>
      have refused : bus.groups ds inbound w = (.error problem, _) :=
        groups.trans (congrArg (·, _) hgrouped)
      rw [send, bind_error refused, Broker.arrived_self] at arrived
      cases arrived
    | ok parts =>
      have granted : bus.groups ds inbound w = (.ok parts, _) :=
        groups.trans (congrArg (·, _) hgrouped)
      obtain rfl := grouped_ok hgrouped
      obtain ⟨trace, sent⟩ := sendGroups_eq bus
        (fun g (hg : g ∈ bus.partition outgoing) => messages_of_mem_partition hg)
        { w with ids := ids }
      rw [send, bind_ok granted, sent] at arrived
      simp only [delivered, Broker.arrived_sent, List.map_flatMap, List.mem_flatMap] at arrived
      obtain ⟨g, hg, hm⟩ := arrived
      obtain ⟨⟨path, m'⟩, place, rfl⟩ := List.mem_map.mp hm
      obtain ⟨m', own, place⟩ := List.mem_flatMap.mp place
      obtain ⟨path', -, same⟩ := List.mem_map.mp place
      cases same
      rw [messagesTo_of_mem_partition (List.mem_filter.mp hg).1] at own
      obtain ⟨o, ho, rfl⟩ := List.mem_map.mp own
      obtain ⟨a, ha, hmade⟩ := Outgoing.madeFrom_of_mem_createAll made (List.mem_filter.mp ho).1
      exact ⟨a, ha, o, hmade, rfl⟩

theorem madeFrom_of_arrived_handled {bus : Bus} {a : Arrival} {w : World Broker} {m : Message}
    (accepted : bus.settings.isolation.accepts a.message.message.isolationKey? = true)
    (arrived : m ∈ w.transport.arrived (bus.process Broker.transport a w).2.transport) :
    ∃ run, bus.handlerRun? Broker.transport a w = some run ∧
      ∃ made ∈ Outgoing.assignments bus.dispatches run.publications, ∃ o,
        Outgoing.MadeFrom bus.settings.isolation (some a.message.inbound) made.1 made.2 o ∧
          o.message = m := by
  cases ran : bus.handlerRun? Broker.transport a w with
  | none =>
    obtain ⟨entries, processed, -⟩ := process_of_no_run accepted ran
    have same_broker : (bus.process Broker.transport a w).2.transport = w.transport := by
      rw [processed]
      rfl
    rw [same_broker, Broker.arrived_self] at arrived
    cases arrived
  | some run =>
    refine ⟨run, rfl, ?_⟩
    obtain ⟨r, executed, before, after, followed, processed⟩ :=
      process_of_run Broker.transport bus accepted ran
    have same_broker : (bus.process Broker.transport a w).2.transport = executed.2.transport := by
      rw [processed]
      rfl
    rw [same_broker] at arrived
    by_cases ended : bus.EndedWell Broker.transport a w run
    · rw [followed.sent ended, flush] at arrived
      have same : (bus.returned a w run).transport = w.transport := rfl
      rw [← same] at arrived
      split at arrived
      · rw [pure_apply, Broker.arrived_self] at arrived
        cases arrived
      · exact madeFrom_of_arrived arrived
    · rw [followed.unsent ended, Broker.arrived_self] at arrived
      cases arrived

end Bus

/-- One message causes another while it is processed. Either it is sent on, or it is handled, and
the other one is made from what the handler publishes under no correlation id of its own, for a
registration that nothing customizes. -/
inductive Hop (m m' : Message) : Prop
  | rerouted (bus : Bus) (a : Arrival) (w : World Broker) (received : a.message.message = m)
      (foreign : bus.settings.isolation.accepts m.isolationKey? = false)
      (arrived : m' ∈ w.transport.arrived (bus.process Broker.transport a w).2.transport)
  | handled (bus : Bus) (a : Arrival) (w : World Broker) (received : a.message.message = m)
      (accepted : bus.settings.isolation.accepts m.isolationKey? = true)
      (run : HandlerRun) (invoked : bus.handlerRun? Broker.transport a w = some run)
      (d : Dispatch) (r : DispatchRegistration)
      (published : (d, r) ∈ Outgoing.assignments bus.dispatches run.publications)
      (uncorrelated : d.correlationId = none) (plain : r.customizers = [])
      (made : Outgoing.MadeFrom bus.settings.isolation (some a.message.inbound) d r ⟨r, m'⟩)
      (arrived : m' ∈ w.transport.arrived (bus.process Broker.transport a w).2.transport)

/-- Nothing else arrives while a message is processed, unless it was published under a correlation
id of its own or customized. -/
theorem hop_of_arrived {bus : Bus} {a : Arrival} {w : World Broker} {m : Message}
    (arrived : m ∈ w.transport.arrived (bus.process Broker.transport a w).2.transport) :
    Hop a.message.message m ∨
      ∃ run, bus.handlerRun? Broker.transport a w = some run ∧
        ∃ made ∈ Outgoing.assignments bus.dispatches run.publications,
          made.1.correlationId ≠ none ∨ made.2.customizers ≠ [] := by
  cases accepted : bus.settings.isolation.accepts a.message.message.isolationKey? with
  | false => exact .inl (.rerouted bus a w rfl accepted arrived)
  | true =>
    obtain ⟨run, invoked, ⟨d, r⟩, published, o, made, rfl⟩ :=
      Bus.madeFrom_of_arrived_handled accepted arrived
    by_cases uncorrelated : d.correlationId = none
    · by_cases plain : r.customizers = []
      · obtain rfl := made.registration
        exact .inl (.handled bus a w rfl accepted run invoked d _ published uncorrelated plain made
          arrived)
      · exact .inr ⟨run, invoked, (d, r), published, .inr plain⟩
    · exact .inr ⟨run, invoked, (d, r), published, .inl uncorrelated⟩

/-- What a message passes on to those that it causes. -/
structure Origin where
  correlationId : String
  isolationKey : String
  isolationApps : List String
  some_app : isolationApps ≠ []

structure Message.From (m : Message) (origin : Origin) : Prop where
  correlationId : m.correlationId = some origin.correlationId
  isolationKey : m.isolationKey? = some origin.isolationKey
  isolationApps : m.isolationApps = origin.isolationApps

theorem Message.From.hop {m m' : Message} {origin : Origin} (h : m.From origin) (hop : Hop m m') :
    m'.From origin := by
  cases hop with
  | rerouted bus a w received foreign arrived =>
    subst received
    rwa [Bus.eq_of_arrived_foreign foreign arrived]
  | handled bus a w received accepted run invoked d r published uncorrelated plain made arrived =>
    subst received
    obtain ⟨body, ids, -, same⟩ := made.plain plain
    have apps : Outgoing.isolationApps bus.settings.isolation (some a.message.inbound) =
        origin.isolationApps := by
      have inherited : a.message.inbound.isolationApps = origin.isolationApps := h.isolationApps
      simp [Outgoing.isolationApps, inherited, origin.some_app]
    have key : Outgoing.isolationKey bus.settings.isolation (some a.message.inbound) =
        some origin.isolationKey := by
      have inherited : a.message.inbound.isolationKey = some origin.isolationKey := h.isolationKey
      simp [Outgoing.isolationKey, inherited]
    have names (app : String) (happ : app ∈ origin.isolationApps) : IsApp app :=
      Message.isApp_of_mem (h.isolationApps ▸ happ)
    change m' = _ at same
    constructor
    case correlationId =>
      rw [same]
      refine Outgoing.correlationId_base ?_
      rw [uncorrelated]
      exact h.correlationId
    case isolationKey =>
      rw [same, Outgoing.isolationKey?_base, key]
      rfl
    case isolationApps =>
      rw [same, Outgoing.isolationApps_base (apps ▸ origin.some_app), apps,
        splitApps_joinApps names]

theorem Message.From.chain {m m' : Message} {origin : Origin} (h : m.From origin)
    (chain : Relation.ReflTransGen Hop m m') : m'.From origin := by
  induction chain with
  | refl => exact h
  | tail _ hop ih => exact ih.hop hop

/-- Every message of a chain has the correlation id, the isolation key and the isolation apps of its
first message, so it is accepted by the isolated instances with that key and by no other ones. -/
theorem chain_keeps_origin {first m : Message} (chain : Relation.ReflTransGen Hop first m)
    {correlationId key : String} {apps : List String}
    (correlated : first.correlationId = some correlationId)
    (keyed : first.isolationKey? = some key) (marked : first.isolationApps = apps)
    (some_app : apps ≠ []) :
    m.correlationId = some correlationId ∧ m.isolationKey? = some key ∧ m.isolationApps = apps ∧
      ∀ isolation : Isolation, isolation.behavior = .handleIsolated →
        (isolation.accepts m.isolationKey? = true ↔ isolation.key = some key) := by
  let origin : Origin := ⟨correlationId, key, apps, some_app⟩
  have kept : m.From origin := Message.From.chain ⟨correlated, keyed, marked⟩ chain
  refine ⟨kept.correlationId, kept.isolationKey, kept.isolationApps, fun isolation isolated => ?_⟩
  rw [Isolation.accepts_iff_of_isolated isolated, kept.isolationKey]

-- A message of an isolated instance that passes another one and is handled by a third.

def parcel : Message where
  id := "m1"
  correlationId := some "c1"
  properties := [(Property.isolationApps, .text "billing, audit"),
    (Property.isolationKey, .text "blue"), (Property.payloadTypeId, .text "slip")]

def parcelArrival : Arrival where
  kind := .queue
  resourceId := "in"
  message := { message := parcel, lockToken := .issued 0 }
  entity := "in"

def gate : Bus := { settings := { isolation := .isolated "red" } }

def forwarded : Dispatch :=
  { payload := ⟨Bus.slip, .null⟩, properties := [(Property.isolationKey, .text "own")] }

def depot : Bus where
  settings := { isolation := { key := some "green", apps := ["elsewhere"] } }
  dispatches := .insert {} ⟨.queue "out", Bus.slip, "slip", Bus.blank, []⟩
  receptions := .insert {} ⟨.queue "in", Bus.slip, "slip", Bus.blank,
    ⟨{ name := "Desk" }, fun _ _ => ⟨[.publish forwarded], .ok ()⟩⟩⟩
  directory := { senders := [⟨.queue "out", ⟨0, .queue, "out"⟩⟩], receivers := [.queue "in"] }

theorem chain_keeps_origin_of_parcel :
    ∃ second third, Hop parcel second ∧ Hop second third ∧
      parcel.correlationId = some "c1" ∧ parcel.isolationKey? = some "blue" ∧
      parcel.isolationApps = ["billing", "audit"] ∧ third.isolationKey? = some "blue" ∧
      third.isolationApps = ["billing", "audit"] := by
  let w : World Broker := { transport := {} }
  have keyed : parcel.isolationKey? = some "blue" := by decide
  have marked : parcel.isolationApps = ["billing", "audit"] := by decide +kernel
  have passed : (w.transport.arrived
      (gate.process Broker.transport parcelArrival w).2.transport).length = 1 := by
    decide +kernel
  have handled : (w.transport.arrived
      (depot.process Broker.transport parcelArrival w).2.transport).length = 1 := by
    decide +kernel
  obtain ⟨second, copy⟩ := List.length_eq_one_iff.mp passed
  have foreign : gate.settings.isolation.accepts parcel.isolationKey? = false := by decide
  have arrived := copy ▸ List.mem_singleton_self second
  have first_hop : Hop parcel second := .rerouted gate parcelArrival w rfl foreign arrived
  obtain rfl : second = parcel := Bus.eq_of_arrived_foreign foreign arrived
  obtain ⟨third, made⟩ := List.length_eq_one_iff.mp handled
  have second_hop : Hop parcel third := by
    rcases hop_of_arrived (made ▸ List.mem_singleton_self third) with hop | other
    · exact hop
    · obtain ⟨run, invoked, pair, published, changed⟩ := other
      cases invoked
      cases List.mem_singleton.mp published
      exact absurd changed (by simp [forwarded])
  have chain : Relation.ReflTransGen Hop parcel third := .tail (.single first_hop) second_hop
  obtain ⟨-, key, apps, -⟩ := chain_keeps_origin chain rfl keyed marked (by simp)
  exact ⟨parcel, third, first_hop, second_hop, rfl, keyed, marked, key, apps⟩

end MessageBus
