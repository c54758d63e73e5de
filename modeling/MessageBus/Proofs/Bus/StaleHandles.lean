import MessageBus.Proofs.Broker.Routing
import MessageBus.Proofs.Bus.Accounting

/-!
# Stale handles

A handle may come from anywhere: it may be kept from another run, or name another resource than the
one it was given for. The numbers of handles are taken off the schedule whatever entity they were
scheduled for, so messages of other entities are safe exactly if no such handle has a number that is
on the schedule for another entity.
-/

namespace MessageBus

open Outcome Broker

namespace Bus

/-- The entity of the resource that a handle names, if the bus has a sender for it. -/
def entity? (bus : Bus) (h : ScheduledDispatch) : Option String :=
  (bus.directory.sender? h.kind h.resourceId).map (·.resource.entity)

/-- The handle has the number of the scheduled message and is for its entity. -/
def Names (bus : Bus) (h : ScheduledDispatch) (e : Scheduled) : Prop :=
  h.sequenceNumber = e.sequenceNumber ∧ bus.entity? h = some e.entity

abbrev Numbers : Type := (EntityKind × String) × List Int

/-- How far the calls got: these resources were asked, and their numbers are off the schedule. -/
structure Asked (bus : Bus) (byResource done : List Numbers) (w : World Broker)
    (r : Except DispatchError Unit × World Broker) : Prop where
  among : done <+: byResource
  all : r.1 = .ok () → done = byResource
  known : ∀ entry ∈ done, ∃ s, bus.senderTo entry.1 = some s
  after : ∃ calls trace, r.2 = { w with
    transport := w.transport.withdrawn calls (done.flatMap (·.2))
    trace := trace }

section Asked

variable {bus : Bus} {w : World Broker} {rest : List Numbers}

theorem Asked.nothing {byResource : List Numbers} {answer : Except DispatchError Unit}
    (all : answer = .ok () → byResource = []) :
    bus.Asked byResource [] w (answer, w) where
  among := List.nil_prefix
  all := fun ok => (all ok).symm
  known := fun entry h => by cases h
  after := by
    refine ⟨[], w.trace, ?_⟩
    rw [List.flatMap_nil, withdrawn_nil]

theorem Asked.cons {entry : Numbers} {s : Sender} {calls : List Operation}
    {trace : List TraceEntry} {done : List Numbers}
    {r : Except DispatchError Unit × World Broker}
    (known : bus.senderTo entry.1 = some s)
    (others : bus.Asked rest done
      { w with transport := w.transport.withdrawn calls entry.2, trace := trace } r) :
    bus.Asked (entry :: rest) (entry :: done) w r where
  among := (List.cons_prefix_cons).mpr ⟨rfl, others.among⟩
  all := fun ok => congrArg _ (others.all ok)
  known := fun other hother => by
    rcases List.mem_cons.mp hother with rfl | hother
    · exact ⟨s, known⟩
    · exact others.known other hother
  after := by
    obtain ⟨calls', trace', after⟩ := others.after
    refine ⟨calls ++ calls', trace', ?_⟩
    rw [after]
    simp only [withdrawn_withdrawn, List.flatMap_cons]

end Asked

theorem cancelEach_asked (bus : Bus) (stop : Broker → Bool) (byResource : List Numbers)
    (w : World Broker) :
    ∃ done, bus.Asked byResource done w (cancelEach (stopping stop) bus byResource w) := by
  induction byResource generalizing w with
  | nil => exact ⟨[], .nothing fun _ => rfl⟩
  | cons entry rest ih =>
    obtain ⟨⟨kind, resourceId⟩, numbers⟩ := entry
    rw [cancelEach_cons rfl]
    cases known : bus.senderTo (kind, resourceId) with
    | none => exact ⟨[], .nothing fun ok => by cases ok⟩
    | some s =>
      simp only
      split
      · exact ⟨[], .nothing fun ok => by cases ok⟩
      split
      · exact ⟨[], .nothing fun ok => by cases ok⟩
      · obtain ⟨done, others⟩ := ih ((takingBack s numbers w).add
          (.log (.scheduleCancelled kind resourceId numbers.length)))
        exact ⟨((kind, resourceId), numbers) :: done, .cons known others⟩

section Handles

variable {bus : Bus} {handles : List ScheduledDispatch} {done : List Numbers} {w : World Broker}
  {r : Except DispatchError Unit × World Broker}

theorem Asked.handle (asked : bus.Asked (numbersByResource handles) done w r) {n : Int}
    (hn : n ∈ done.flatMap (·.2)) :
    ∃ h ∈ handles, h.sequenceNumber = n ∧ ∃ entity, bus.entity? h = some entity := by
  obtain ⟨entry, hentry, hn⟩ := List.mem_flatMap.mp hn
  obtain ⟨sender, known⟩ := asked.known entry hentry
  obtain ⟨s, registered, -⟩ := Option.map_eq_some_iff.mp known
  obtain ⟨key, -, rfl⟩ := List.mem_map.mp (asked.among.subset hentry)
  obtain ⟨h, hh, rfl⟩ := List.mem_map.mp hn
  obtain ⟨hmem, same⟩ := List.mem_filter.mp hh
  obtain rfl : (h.kind, h.resourceId) = key := beq_iff_eq.mp same
  exact ⟨h, hmem, rfl, s.resource.entity,
    Option.map_eq_some_iff.mpr ⟨s, registered, rfl⟩⟩

theorem Asked.scheduled {byResource : List Numbers} (asked : bus.Asked byResource done w r) :
    r.2.transport.scheduled =
      w.transport.scheduled.filter (·.sequenceNumber ∉ done.flatMap (·.2)) := by
  obtain ⟨calls, trace, after⟩ := asked.after
  rw [after]
  rfl

theorem Asked.subscriptions {byResource : List Numbers} (asked : bus.Asked byResource done w r) :
    r.2.transport.subscriptions = w.transport.subscriptions := by
  obtain ⟨calls, trace, after⟩ := asked.after
  rw [after]
  rfl

end Handles

/-- The handle was given in the run for its entity, or its number was not handed out for a schedule
at all. -/
def GivenOrUnused (bus : Bus) (reservations : List (Sender × Scheduled)) (h : ScheduledDispatch) :
    Prop :=
  (∃ x ∈ reservations, bus.Names h x.2) ∨
    ∀ x ∈ reservations, h.sequenceNumber ≠ x.2.sequenceNumber

/-- Taking handles back, all of them or until a call fails, takes the numbers of the resources that
were asked off the schedule. Messages of other entities stay on it exactly if each of these numbers
that is on the schedule is there for the entity of a handle, so they stay whenever every handle was
given in this run for its entity or has an unused number. What stays is delivered when it is due. -/
theorem others_stay_iff_named (bus : Bus) {maxBatchSize : Nat} {requests : List Request}
    {w : World Broker} (reached : w.transport = (start maxBatchSize).run requests)
    (stop : Broker → Bool) (handles : List ScheduledDispatch) :
    let result := bus.cancelScheduled (stopping stop) handles w
    let after := result.2.transport
    let OthersStay := ∀ e ∈ w.transport.scheduled,
      (∀ h ∈ handles, ¬bus.Names h e) → e ∈ after.scheduled
    (∃ done, done <+: numbersByResource handles ∧
      (result.1 = .ok () → done = numbersByResource handles) ∧
      after.scheduled =
        w.transport.scheduled.filter (·.sequenceNumber ∉ done.flatMap (·.2)) ∧
      (OthersStay ↔ ∀ e ∈ w.transport.scheduled, e.sequenceNumber ∈ done.flatMap (·.2) →
        ∃ h ∈ handles, bus.Names h e)) ∧
    ((∀ h ∈ handles, bus.GivenOrUnused ((start maxBatchSize).reservations requests) h) →
      OthersStay) ∧
    ∀ now path, Gains after (after.deliverDue now) path ((after.scheduled.filter fun e =>
      e.due ≤ now ∧ path ∈ after.targets e.entity).map (·.message)) := by
  intro result after OthersStay
  obtain ⟨done, asked⟩ := cancelEach_asked bus stop (numbersByResource handles) w
  have scheduled : after.scheduled = _ := asked.scheduled
  have stays_iff : OthersStay ↔ ∀ e ∈ w.transport.scheduled,
      e.sequenceNumber ∈ done.flatMap (·.2) → ∃ h ∈ handles, bus.Names h e := by
    refine forall₂_congr fun e he => ?_
    have stays : e ∈ after.scheduled ↔ e.sequenceNumber ∉ done.flatMap (·.2) := by
      rw [scheduled, List.mem_filter, decide_eq_true_iff]
      exact and_iff_right he
    rw [stays, ← not_imp_not, not_not]
    simp only [not_forall, not_not, exists_prop]
  refine ⟨⟨done, asked.among, asked.all, scheduled, stays_iff⟩, fun given => ?_, fun now path => ?_⟩
  · refine stays_iff.mpr fun e he taken => ?_
    obtain ⟨s, reserved, -⟩ := reserved_of_mem_scheduled (reached ▸ he)
    obtain ⟨h, hh, number, -⟩ := asked.handle taken
    rcases given h hh with ⟨x, hx, names⟩ | unused
    · -- The number of the handle was handed out once, so it names what was scheduled under it.
      obtain rfl : x = (s, e) := reservation_unique hx reserved (names.1.symm.trans number)
      exact ⟨h, hh, names⟩
    · exact absurd number (unused (s, e) reserved)
  · have subscriptions : after.subscriptions = w.transport.subscriptions := asked.subscriptions
    refine gains_deliverDue ?_ now path
    rw [subscriptions, reached]
    exact subscriptions_nodup maxBatchSize requests

def bookedRequests : List Request :=
  [.createSender (.queue "orders"), .createSender (.queue "audit"),
    .schedule ⟨0, .queue, "orders"⟩ [{ id := "m1" }] 10,
    .schedule ⟨1, .queue, "audit"⟩ [{ id := "m2" }] 10]

def bookedWorld : World Broker := { transport := (start 1000).run bookedRequests }

theorem others_stay_iff_named_of_shop :
    let handles : List ScheduledDispatch :=
      [⟨.queue, "orders", "m1", 1⟩, ⟨.queue, "audit", "m7", 7⟩]
    let e : Scheduled := ⟨2, "audit", { id := "m2" }, 10⟩
    let result := shop.cancelScheduled (stopping fun _ => false) handles bookedWorld
    let after := result.2.transport
    result.1 = .ok () ∧ (∀ h ∈ handles, ¬shop.Names h e) ∧ e ∈ after.scheduled ∧
      Gains after (after.deliverDue 10) "audit" [e.message] := by
  intro handles e result after
  have reached : bookedWorld.transport = (start 1000).run bookedRequests := rfl
  obtain ⟨-, stays, comes⟩ := others_stay_iff_named shop reached (fun _ => false) handles
  have unnamed : ∀ h ∈ handles, ¬shop.Names h e := by
    intro h hh names
    have : ∀ h ∈ handles, h.sequenceNumber ≠ 2 := by decide
    exact this h hh names.1
  have given : ∀ h ∈ handles,
      shop.GivenOrUnused ((start 1000).reservations bookedRequests) h := by
    intro h hh
    rcases List.mem_cons.mp hh with rfl | hh
    · exact .inl ⟨_, List.mem_cons_self .., rfl, by decide +kernel⟩
    · obtain rfl := List.mem_singleton.mp hh
      refine .inr fun x hx number => ?_
      have : ∀ n ∈ ((start 1000).reservations bookedRequests).map (·.2.sequenceNumber), 7 ≠ n := by
        decide +kernel
      exact this _ (List.mem_map_of_mem hx) number
  exact ⟨rfl, unnamed, stays given e (.tail _ (.head _)) unnamed, comes 10 "audit"⟩

/-- A handle for the queue `audit` that has the number of a message for `orders`. -/
theorem stale_handle_takes_other :
    let stale : ScheduledDispatch := ⟨.queue, "audit", "m1", 1⟩
    let e : Scheduled := ⟨1, "orders", { id := "m1" }, 10⟩
    let result := shop.cancelScheduled (stopping fun _ => false) [stale] bookedWorld
    let after := result.2.transport
    shop.Composed ∧ e ∈ bookedWorld.transport.scheduled ∧ ¬shop.Names stale e ∧
      result.1 = .ok () ∧ e ∉ after.scheduled ∧ (after.deliverDue 10).pendingAt "orders" = [] := by
  intro stale e result after
  have left : after.scheduled.map (·.sequenceNumber) = [2] := by decide +kernel
  refine ⟨shop_composed, .head _, fun names => ?_, rfl, fun stays => ?_, rfl⟩
  · exact absurd names.2 (by decide +kernel)
  · have := left ▸ List.mem_map_of_mem (f := Scheduled.sequenceNumber) stays
    exact absurd this (by decide)

end Bus

end MessageBus
