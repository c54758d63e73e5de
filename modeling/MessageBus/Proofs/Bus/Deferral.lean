import MessageBus.Proofs.Bus.Accounting

/-!
# Sending later

Messages that are scheduled for a time that has come are delivered like messages that are sent: they
arrive at the same places, in the same order, and the schedule is left as it was before. Batches and
pages leave no mark on what arrives.
-/

namespace MessageBus

open Outcome Broker

section Due

variable {b : Broker} {now due : Int}

theorem Booking.due_of_mem_entries {first : Int} {bs : List Booking} {s : Scheduled}
    (h : s ∈ entries due first bs) : s.due = due := by
  obtain ⟨_, -, _, -, rfl⟩ := mem_numbered h
  rfl

theorem Broker.due_booked (soon : due ≤ now) (none_due : ∀ s ∈ b.scheduled, now < s.due)
    (calls : List Operation) (bs : List Booking) :
    (b.booked calls due bs).scheduled.filter (·.due ≤ now) = Booking.entries due b.sequence bs ∧
      (b.booked calls due bs).scheduled.filter (fun s => !decide (s.due ≤ now)) = b.scheduled := by
  have early (s : Scheduled) (hs : s ∈ b.scheduled) : ¬ s.due ≤ now :=
    Int.not_le.mpr (none_due s hs)
  have late (s : Scheduled) (hs : s ∈ Booking.entries due b.sequence bs) : s.due ≤ now :=
    Booking.due_of_mem_entries hs ▸ soon
  constructor
  · rw [booked, List.filter_append, List.filter_eq_nil_iff.mpr (by simpa using early),
      List.filter_eq_self.mpr (by simpa using late), List.nil_append]
  · rw [booked, List.filter_append, List.filter_eq_self.mpr (by simpa using early),
      List.filter_eq_nil_iff.mpr (by simpa using late), List.append_nil]

theorem Broker.dueCount_booked (soon : due ≤ now) (none_due : ∀ s ∈ b.scheduled, now < s.due)
    (calls : List Operation) (bs : List Booking) :
    (b.booked calls due bs).dueCount now = bs.length := by
  rw [dueCount, List.countP_eq_length_filter, (due_booked soon none_due calls bs).1,
    Booking.entries, Booking.length_numbered]

def Booking.arrivals (b : Broker) (bs : List Booking) : List (String × Message) :=
  bs.flatMap fun k => b.arrivals k.sender.entity [k.message]

theorem Booking.scheduledArrivals_entries (b : Broker) (due first : Int) (bs : List Booking) :
    b.scheduledArrivals (entries due first bs) = arrivals b bs := by
  have places : (entries due first bs).map (fun s => b.arrivals s.entity [s.message]) =
      bs.map fun k => b.arrivals k.sender.entity [k.message] := by
    rw [entries, map_numbered]
    exact numbered_eq_map (fun k => b.arrivals k.sender.entity [k.message]) first bs
  rw [scheduledArrivals, arrivals, List.flatMap_def, List.flatMap_def, places]

theorem Broker.deliverDue_booked (soon : due ≤ now) (none_due : ∀ s ∈ b.scheduled, now < s.due)
    (calls : List Operation) (bs : List Booking) :
    (b.booked calls due bs).deliverDue now =
      ({ b with operations := b.operations ++ calls
                sequence := b.sequence + bs.length }).deliverAll (Booking.arrivals b bs) := by
  obtain ⟨due_now, later⟩ := due_booked soon none_due calls bs
  have places : (b.booked calls due bs).scheduledArrivals (Booking.entries due b.sequence bs) =
      Booking.arrivals b bs := Booking.scheduledArrivals_entries b due b.sequence bs
  rw [deliverDue_eq, due_now, later, places]
  rfl

end Due

theorem Group.arrivals_bookings (b : Broker) (g : Group) (ms : List Message) :
    Booking.arrivals b (g.bookings ms) = b.arrivals g.sender.entity ms := by
  rw [Booking.arrivals, bookings, List.flatMap_map]
  induction ms with
  | nil => rfl
  | cons m ms ih => rw [List.flatMap_cons, ih, ← arrivals_append, List.singleton_append]

namespace Bus

theorem arrivals_bookings (bus : Bus) (b : Broker) (outgoing : List Outgoing) :
    Booking.arrivals b (bus.bookings outgoing) =
      (bus.partition outgoing).flatMap fun g => b.arrivals g.sender.entity g.messages := by
  rw [bookings, Booking.arrivals, List.flatMap_assoc]
  exact List.flatMap_congr fun g _ => g.arrivals_bookings b g.messages

theorem length_bookings {bus : Bus} {outgoing : List Outgoing}
    (h : bus.grouped outgoing = .ok (bus.partition outgoing)) :
    (bus.bookings outgoing).length = outgoing.length := by
  have all := (byDestination_perm outgoing).length_eq
  rwa [← map_bookings h, List.length_map, List.length_map] at all

/-- Nothing keeps the message from being sent: it fits a batch, and the sender for its destination
is open and writes to an entity that takes messages. -/
structure Sendable (bus : Bus) (b : Broker) (o : Outgoing) : Prop where
  fits : o.message.size ≤ bus.limit b
  opened : ∀ s, bus.senderTo o.destination = some s → s.id ∉ b.closed ∧ s.entity ∉ b.failing

section Ready

variable {bus : Bus} {outgoing : List Outgoing} {w : World Broker}

theorem refusal?_of_sendable (live : w.cancelled = false)
    (sendable : ∀ o ∈ outgoing, bus.Sendable w.transport o) {g : Group}
    (hg : g ∈ bus.partition outgoing) : bus.refusal? w.cancelled w.transport g = none := by
  obtain ⟨o, ho, key⟩ := registration_of_mem_partition hg
  obtain ⟨opened, accepting⟩ :=
    (sendable o ho).opened g.sender (key ▸ sender_of_mem_partition hg)
  refine (refusal?_eq_none_iff ..).mpr ⟨live, opened, accepting, fun m hm => ?_⟩
  rw [messagesTo_of_mem_partition hg] at hm
  obtain ⟨other, hother, rfl⟩ := List.mem_map.mp hm
  exact (sendable other (List.mem_filter.mp hother).1).fits

theorem pageProblem?_of_sendable (live : w.cancelled = false)
    (sendable : ∀ o ∈ outgoing, bus.Sendable w.transport o) {g : Group}
    (hg : g ∈ bus.partition outgoing) : pageProblem? steady w g = none := by
  obtain ⟨-, opened, accepting, -⟩ :=
    (refusal?_eq_none_iff ..).mp (refusal?_of_sendable live sendable hg)
  simp only [pageProblem?, live, Bool.or_self, Bool.false_eq_true, if_false, sendProblem?, opened,
    accepting, Option.map_none]

theorem bookable_of_sendable (live : w.cancelled = false)
    (sendable : ∀ o ∈ outgoing, bus.Sendable w.transport o) :
    bookable w (bus.partition outgoing) = bus.bookings outgoing := by
  have all_free : (bus.partition outgoing).filter (fun g => (pageProblem? steady w g).isNone) =
      bus.partition outgoing :=
    List.filter_eq_self.mpr fun g hg => by rw [pageProblem?_of_sendable live sendable hg]; rfl
  rw [bookable, all_free, bookings]

theorem schedule_of_sendable {ds : List Dispatch} {inbound : Option Inbound} {ids' : IdSupply}
    (made : bus.made ds inbound w.ids = (.ok outgoing, ids'))
    (served : bus.grouped outgoing = .ok (bus.partition outgoing)) (live : w.cancelled = false)
    (sendable : ∀ o ∈ outgoing, bus.Sendable w.transport o) (due : Int) :
    let result := bus.schedule Broker.transport ds due inbound w
    result.1 = .ok (Booking.handles w.transport.sequence (bus.bookings outgoing)) ∧
      ∃ calls, result.2.transport = w.transport.booked calls due (bus.bookings outgoing) := by
  intro result
  have grouped : (bus.made ds inbound w.ids).1 >>= bus.grouped = .ok (bus.partition outgoing) := by
    rw [made]
    exact served
  let drawn : World Broker := { w with ids := (bus.made ds inbound w.ids).2 }
  obtain ⟨answer, transport⟩ := schedule_of_grouped grouped steady due
  obtain ⟨calls, trace, scheduled⟩ := scheduleGroups_steady bus due
    (fun g hg => messages_of_mem_partition hg) drawn
  have no_problem : (bus.partition outgoing).findSome? (pageProblem? steady drawn) = none :=
    List.findSome?_eq_none_iff.mpr fun g hg => pageProblem?_of_sendable live sendable hg
  have all_booked : bookable drawn (bus.partition outgoing) = bus.bookings outgoing :=
    bookable_of_sendable live sendable
  rw [no_problem, all_booked] at scheduled
  rw [scheduled] at answer transport
  exact ⟨answer, calls, transport⟩

end Ready

/-- Dispatches that are scheduled for a time that has come, and then delivered, leave the same
messages in the same order everywhere as dispatches that are sent, and an answer of one handle for
each message delivered. The schedule is as it was. If a message cannot be made, neither way leaves
anything. -/
theorem schedule_then_deliver {bus : Bus} (composed : bus.Composed) {w : World Broker}
    (live : w.cancelled = false) {now due : Int} (soon : due ≤ now)
    (none_due : ∀ s ∈ w.transport.scheduled, now < s.due) (ds : List Dispatch)
    (inbound : Option Inbound)
    (sendable : ∀ outgoing, (bus.made ds inbound w.ids).1 = .ok outgoing →
      ∀ o ∈ outgoing, bus.Sendable w.transport o) :
    let sent := bus.send Broker.transport ds inbound w
    let scheduled := bus.schedule Broker.transport ds due inbound w
    let delivered := scheduled.2.transport.deliverDue now
    (∀ path, (delivered.pendingAt path).map (·.message) =
      (sent.2.transport.pendingAt path).map (·.message)) ∧
    delivered.scheduled = w.transport.scheduled ∧
    match (bus.made ds inbound w.ids).1 with
    | .ok outgoing =>
      sent.1 = .ok () ∧ ∃ handles, scheduled.1 = .ok handles ∧
        handles.length = outgoing.length ∧
        scheduled.2.transport.dueCount now = handles.length
    | .error problem =>
      sent.1 = .error problem ∧ scheduled.1 = .error problem ∧
        scheduled.2.transport.dueCount now = 0 := by
  intro sent scheduled delivered
  cases hmade : bus.made ds inbound w.ids with
  | mk created ids' =>
  cases created with
  | error problem =>
    have unmade : (bus.made ds inbound w.ids).1 >>= bus.grouped = .error problem := by
      rw [hmade]
      rfl
    obtain ⟨scheduled_error, hscheduled⟩ := schedule_of_not_grouped unmade Broker.transport due
    obtain ⟨sent_error, hsent⟩ := send_of_not_grouped unmade
    have nothing_booked := hscheduled.trans (w.transport.booked_nil due).symm
    have hdelivered : delivered = _ :=
      (congrArg (deliverDue now) nothing_booked).trans (deliverDue_booked soon none_due [] [])
    refine ⟨fun path => ?_, ?_, sent_error, scheduled_error, ?_⟩
    · rw [hdelivered, hsent, messages_pendingAt_deliverAll]
      exact List.append_nil _
    · rw [hdelivered]
      rfl
    · rw [nothing_booked, dueCount_booked soon none_due]
      rfl
  | ok outgoing =>
    have served := grouped_of_made composed hmade
    have ready := sendable outgoing (by rw [hmade])
    obtain ⟨sent_ok, calls, hsent⟩ :=
      send_of_accepted hmade served fun g hg => refusal?_of_sendable live ready hg
    obtain ⟨scheduled_ok, calls', hscheduled⟩ := schedule_of_sendable hmade served live ready due
    have hdelivered : delivered = _ :=
      (congrArg (deliverDue now) hscheduled).trans (deliverDue_booked soon none_due calls' _)
    have length : (Booking.handles w.transport.sequence (bus.bookings outgoing)).length =
        (bus.bookings outgoing).length := Booking.length_numbered _ _ _
    refine ⟨fun path => ?_, ?_, sent_ok, _, scheduled_ok, ?_, ?_⟩
    · rw [hdelivered, hsent, messages_pendingAt_deliverAll, messages_pendingAt_sent,
        arrivals_bookings]
      rfl
    · rw [hdelivered]
      rfl
    · rw [length, length_bookings served]
    · rw [hscheduled, dueCount_booked soon none_due, length]

/-- Of a receipt that is due at five, both copies have arrived at seven. -/
theorem schedule_then_deliver_of_shop :
    let b := (start 1000).run [.createSender (.queue "orders"), .createSender (.queue "audit")]
    let sent := shop.send Broker.transport [paid] none { transport := b }
    let scheduled := shop.schedule Broker.transport [paid] 5 none { transport := b }
    let delivered := scheduled.2.transport.deliverDue 7
    (∀ path, (delivered.pendingAt path).map (·.message) =
      (sent.2.transport.pendingAt path).map (·.message)) ∧
    delivered.scheduled = [] ∧ scheduled.2.transport.dueCount 7 = 2 ∧
    (delivered.pendingAt "audit").map (·.message.id) = ["m1"] := by
  intro b sent scheduled delivered
  have small : ((shop.made [paid] none (.counting 0)).1.toOption.getD []).all
      (fun o => decide (o.message.size ≤ shop.limit b)) = true := by decide +kernel
  obtain ⟨same, schedule, -⟩ :=
    schedule_then_deliver shop_composed (w := { transport := b }) rfl
      (show (5 : Int) ≤ 7 by decide) (by decide) [paid] none fun outgoing made o ho => by
        rw [made] at small
        exact ⟨of_decide_eq_true (List.all_eq_true.mp small o ho),
          fun _ _ => ⟨List.not_mem_nil, List.not_mem_nil⟩⟩
  exact ⟨same, schedule, by decide +kernel, by decide +kernel⟩

end Bus

end MessageBus
