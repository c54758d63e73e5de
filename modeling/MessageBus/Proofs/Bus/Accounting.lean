import MessageBus.Proofs.Bus.Scheduling

/-!
# Accounting for scheduled messages

The answer to scheduling dispatches accounts for the schedule: it gives one handle for each message
that was put there, also if only some of them were, and the handles are enough to undo all of it.
-/

namespace MessageBus

open Outcome Broker

def handlesGiven? : Except DispatchError (List ScheduledDispatch) → Option (List ScheduledDispatch)
  | .ok handles => some handles
  | .error (.partialSchedule handles _) => some handles
  | .error _ => none

namespace DispatchError

/-- A schedule call answered with a wrong number of sequence numbers. -/
def Mismatched : DispatchError → Prop
  | .numbersMismatch .. => True
  | .partialSchedule _ source => source.Mismatched
  | _ => False

/-- The error gives no handles, and it is not about their number. -/
structure Plain (problem : DispatchError) : Prop where
  none_given : handlesGiven? (.error problem) = none
  matched : ¬ problem.Mismatched

theorem Plain.answer {problem : DispatchError} (plain : problem.Plain)
    {answer : Except DispatchError (List ScheduledDispatch)} (h : answer = .error problem) :
    handlesGiven? answer = none ∧ ∀ other, answer = .error other →
      ¬ other.Mismatched ∧ ∀ source, other ≠ .partialSchedule [] source := by
  subst h
  refine ⟨plain.none_given, fun other h => ?_⟩
  obtain rfl : problem = other := Except.error.inj h
  refine ⟨plain.matched, fun source heq => ?_⟩
  have := plain.none_given
  rw [heq] at this
  cases this

theorem plain_cancelled : cancelled.Plain := ⟨rfl, id⟩

theorem plain_transport (resourceId : String) (source : TransportError) :
    (transport resourceId source).Plain := ⟨rfl, id⟩

theorem plain_senderNotFound (kind : EntityKind) (resourceId : String) :
    (senderNotFound kind resourceId).Plain := ⟨rfl, id⟩

theorem plain_of_notMade {problem : DispatchError} (h : Outgoing.NotMade problem) :
    problem.Plain := by
  cases h with
  | unregistered _ => exact ⟨rfl, id⟩
  | unwritten _ _ => exact ⟨rfl, id⟩

end DispatchError

def Booking.addressed (b : Booking) : (EntityKind × String) × Message :=
  ((b.kind, b.resourceId), b.message)

theorem Booking.entries_sorted (due first : Int) (bs : List Booking) :
    (scheduledNumbers (entries due first bs)).Pairwise (· < ·) := by
  induction bs generalizing first with
  | nil => exact .nil
  | cons b bs ih =>
    refine .cons (fun n hn => ?_) (ih (first + 1))
    obtain ⟨s, hs, rfl⟩ := List.mem_map.mp hn
    obtain ⟨-, -, m, hm, rfl⟩ := mem_numbered hs
    change first < m
    omega

namespace Bus

open Outgoing

/-- The messages with their destinations, by destination in the order in which these first occur. -/
def byDestination (outgoing : List Outgoing) : List ((EntityKind × String) × Message) :=
  (outgoing.map destination).eraseDups.flatMap fun key =>
    (messagesTo key outgoing).map fun m => (key, m)

theorem byDestination_perm (outgoing : List Outgoing) :
    (byDestination outgoing).Perm (outgoing.map fun o => (o.destination, o.message)) := by
  have own (key : EntityKind × String) :
      (messagesTo key outgoing).map (fun m => (key, m)) =
        (outgoing.filter (·.destination = key)).map fun o => (o.destination, o.message) := by
    rw [messagesTo, List.map_map]
    refine List.map_congr_left fun o ho => ?_
    rw [of_decide_eq_true (List.mem_filter.mp ho).2]
    rfl
  simp only [byDestination, own, ← List.map_flatMap]
  exact (flatMap_eraseDups_perm destination outgoing).map _

def bookings (bus : Bus) (outgoing : List Outgoing) : List Booking :=
  (bus.partition outgoing).flatMap fun g => g.bookings g.messages

theorem sender_of_mem_bookings {bus : Bus} {outgoing : List Outgoing} {b : Booking}
    (h : b ∈ bus.bookings outgoing) : bus.senderTo (b.kind, b.resourceId) = some b.sender := by
  obtain ⟨g, hg, hb⟩ := List.mem_flatMap.mp h
  obtain ⟨m, -, rfl⟩ := List.mem_map.mp hb
  exact sender_of_mem_partition hg

theorem map_bookings {bus : Bus} {outgoing : List Outgoing} {groups : List Group}
    (h : bus.grouped outgoing = .ok groups) :
    (bus.bookings outgoing).map Booking.addressed = byDestination outgoing := by
  have own (g : Group) (hg : g ∈ bus.partition outgoing) :
      (g.bookings g.messages).map Booking.addressed =
        (messagesTo (g.kind, g.resourceId) outgoing).map fun m => ((g.kind, g.resourceId), m) := by
    rw [Group.bookings, List.map_map, messagesTo_of_mem_partition hg]
    rfl
  rw [bookings, List.map_flatMap, List.flatMap_congr own, byDestination, ← keys_partition h,
    List.flatMap_map]

/-- The answer to scheduling groups, from how far it has come. -/
def answerOf (p : Progress) : Except DispatchError (List ScheduledDispatch) :=
  match p.2 with
  | none => .ok p.1
  | some problem =>
    if p.1.isEmpty then .error problem else .error (.partialSchedule p.1 problem)

theorem schedule_of_grouped {bus : Bus} {dispatches : List Dispatch} {inbound : Option Inbound}
    {w : World Broker} {groups : List Group}
    (h : (bus.made dispatches inbound w.ids).1 >>= bus.grouped = .ok groups)
    (stop : Broker → Bool) (due : Int) :
    let made := scheduleGroups (stopping stop) bus due groups
      { w with ids := (bus.made dispatches inbound w.ids).2 }
    let result := bus.schedule (stopping stop) dispatches due inbound w
    result.1 = answerOf made.1 ∧ result.2.transport = made.2.transport := by
  intro made result
  have grouped := groups_eq bus dispatches inbound w
  rw [h] at grouped
  have hresult : result = _ := bind_ok grouped _
  have lifted : _ = (Except.ok made.1, made.2) :=
    lift_apply (ε := DispatchError) (scheduleGroups (stopping stop) bus due groups) _
  rw [hresult, bind_ok lifted]
  rcases made with ⟨⟨handles, _ | problem⟩, after⟩
  · exact ⟨rfl, rfl⟩
  · cases handles with
    | nil => exact ⟨rfl, rfl⟩
    | cons handle more => exact ⟨rfl, rfl⟩

theorem schedule_of_not_grouped {bus : Bus} {dispatches : List Dispatch} {inbound : Option Inbound}
    {w : World Broker} {problem : DispatchError}
    (h : (bus.made dispatches inbound w.ids).1 >>= bus.grouped = .error problem)
    (T : Transport Broker) (due : Int) :
    let result := bus.schedule T dispatches due inbound w
    result.1 = .error problem ∧ result.2.transport = w.transport := by
  intro result
  have grouped := groups_eq bus dispatches inbound w
  rw [h] at grouped
  have hresult : result = _ := bind_error grouped _
  rw [hresult]
  exact ⟨rfl, rfl⟩

theorem of_made_grouped {bus : Bus} {dispatches : List Dispatch} {inbound : Option Inbound}
    {ids : IdSupply} {groups : List Group}
    (h : (bus.made dispatches inbound ids).1 >>= bus.grouped = .ok groups) :
    ∃ outgoing, (bus.made dispatches inbound ids).1 = .ok outgoing ∧
      bus.grouped outgoing = .ok groups ∧ groups = bus.partition outgoing := by
  cases hc : (bus.made dispatches inbound ids).1 with
  | error problem =>
    rw [hc] at h
    cases h
  | ok outgoing =>
    rw [hc] at h
    exact ⟨outgoing, rfl, h, grouped_ok h⟩

theorem plain_of_not_grouped {bus : Bus} {dispatches : List Dispatch} {inbound : Option Inbound}
    {ids : IdSupply} {problem : DispatchError}
    (h : (bus.made dispatches inbound ids).1 >>= bus.grouped = .error problem) :
    problem.Plain := by
  rcases hmade : bus.made dispatches inbound ids with ⟨_ | outgoing, ids'⟩
  · rw [hmade] at h
    cases h
    exact DispatchError.plain_of_notMade (notMade_of_createAll hmade)
  · rw [hmade] at h
    change bus.grouped outgoing = _ at h
    rw [grouped] at h
    split at h
    · cases h
      exact DispatchError.plain_senderNotFound ..
    · cases h

theorem schedule_cases (stop : Broker → Bool) (bus : Bus) (dispatches : List Dispatch) (due : Int)
    (inbound : Option Inbound) (w : World Broker) :
    let result := bus.schedule (stopping stop) dispatches due inbound w
    (∃ problem, problem.Plain ∧ result.1 = .error problem ∧
      result.2.transport.scheduled = w.transport.scheduled) ∨
    ∃ outgoing done p, (bus.made dispatches inbound w.ids).1 = .ok outgoing ∧
      bus.grouped outgoing = .ok (bus.partition outgoing) ∧ result.1 = answerOf p ∧
      Made due (bus.bookings outgoing) done w.transport p result.2.transport := by
  intro result
  cases h : (bus.made dispatches inbound w.ids).1 >>= bus.grouped with
  | error problem =>
    obtain ⟨answer, transport⟩ := schedule_of_not_grouped h (stopping stop) due
    exact .inl ⟨problem, plain_of_not_grouped h, answer, congrArg _ transport⟩
  | ok groups =>
    obtain ⟨outgoing, hcreated, hgrouped, rfl⟩ := of_made_grouped h
    obtain ⟨done, made⟩ := scheduleGroups_made stop bus due (bus.partition outgoing)
      { w with ids := (bus.made dispatches inbound w.ids).2 }
    obtain ⟨answer, transport⟩ := schedule_of_grouped h stop due
    exact .inr ⟨outgoing, done, _, hcreated, hgrouped, answer, transport ▸ made⟩

/-- The entry on the schedule is what the handle stands for. -/
structure Holds (bus : Bus) (due : Int) (h : ScheduledDispatch) (s : Scheduled) : Prop where
  number : s.sequenceNumber = h.sequenceNumber
  messageId : s.message.id = h.messageId
  entity : ∃ registered, bus.directory.sender? h.kind h.resourceId = some registered ∧
    s.entity = registered.resource.entity
  due : s.due = due

/-- Handles for messages account for what was added to the schedule, under numbers of its own, and
take it back. -/
structure Accounted (bus : Bus) (due : Int) (used : List Int)
    (messages : List ((EntityKind × String) × Message)) (before after : Broker)
    (handles : List ScheduledDispatch) (added : List Scheduled) : Prop where
  schedule : after.scheduled = before.scheduled ++ added
  sorted : (scheduledNumbers after.scheduled).Pairwise (· < ·)
  holds : List.Forall₂ (bus.Holds due) handles added
  unused : ∀ h ∈ handles, h.sequenceNumber ∉ used
  given : handles.map (fun h => ((h.kind, h.resourceId), h.messageId)) =
    messages.map fun m => (m.1, m.2.id)
  booked : added.map (·.message) = messages.map (·.2)
  opened : ∀ h ∈ handles, bus.CanTakeBack after (h.kind, h.resourceId)
  undone : ∀ later : World Broker, later.cancelled = false →
    later.transport.scheduled = after.scheduled →
    (∀ h ∈ handles, bus.CanTakeBack later.transport (h.kind, h.resourceId)) →
    (bus.cancelScheduled Broker.transport handles later).1 = .ok () ∧
      (bus.cancelScheduled Broker.transport handles later).2.transport.scheduled =
        before.scheduled

section Accounts

variable {bus : Bus} {due : Int} {outgoing : List Outgoing} {done : List Booking}
  {before after : Broker} {p : Progress}

theorem Made.holds (composed : bus.Composed)
    (made : Made due (bus.bookings outgoing) done before p after) :
    List.Forall₂ (bus.Holds due) p.1 (Booking.entries due before.sequence done) := by
  rw [made.handles]
  refine Booking.forall₂_numbered (fun b hb n => ?_) before.sequence
  obtain ⟨registered, hregistered, hsender⟩ :=
    Option.map_eq_some_iff.mp (sender_of_mem_bookings (made.among.subset hb))
  have entity := (composed.writes_of_sender (Directory.mem_of_sender? hregistered).1).2
  exact ⟨rfl, rfl, ⟨registered, hregistered, by rw [← entity, hsender]; rfl⟩, rfl⟩

theorem Made.number_le (made : Made due (bus.bookings outgoing) done before p after)
    {h : ScheduledDispatch} (hh : h ∈ p.1) : before.sequence ≤ h.sequenceNumber := by
  rw [made.handles] at hh
  obtain ⟨b, -, n, hn, rfl⟩ := Booking.mem_numbered hh
  exact hn

theorem Made.canTakeBack (made : Made due (bus.bookings outgoing) done before p after)
    {h : ScheduledDispatch} (hh : h ∈ p.1) : bus.CanTakeBack after (h.kind, h.resourceId) := by
  rw [made.handles] at hh
  obtain ⟨b, hb, n, -, rfl⟩ := Booking.mem_numbered hh
  obtain ⟨calls, rfl⟩ := made.booked
  exact ⟨b.sender, sender_of_mem_bookings (made.among.subset hb), made.opened b hb⟩

theorem Made.accounted (composed : bus.Composed) {maxBatchSize : Nat} {requests : List Request}
    (reached : before = (start maxBatchSize).run requests)
    (made : Made due (bus.bookings outgoing) done before p after) :
    bus.Accounted due ((start maxBatchSize).history {} requests).numbers
      (done.map Booking.addressed) before after p.1
      (Booking.entries due before.sequence done) := by
  obtain ⟨sorted, recorded, below⟩ := schedule_of_run maxBatchSize requests
  rw [← reached] at sorted recorded below
  have schedule : after.scheduled =
      before.scheduled ++ Booking.entries due before.sequence done := by
    obtain ⟨calls, rfl⟩ := made.booked
    rfl
  have numbers : p.1.map (·.sequenceNumber) =
      scheduledNumbers (Booking.entries due before.sequence done) := by
    rw [made.handles]
    exact Booking.numbers_handles due before.sequence done
  -- Every number of a handle is behind all that were handed out before.
  have unused (n : Int) (hn : n ∈ p.1.map (·.sequenceNumber)) : before.sequence ≤ n := by
    obtain ⟨h, hh, rfl⟩ := List.mem_map.mp hn
    exact made.number_le hh
  constructor
  case schedule => exact schedule
  case sorted =>
    rw [schedule, scheduledNumbers, List.map_append, List.pairwise_append]
    refine ⟨sorted, Booking.entries_sorted _ _ _, fun old hold new hnew => ?_⟩
    have earlier := below old (recorded hold)
    have later := unused new (numbers ▸ hnew)
    omega
  case holds => exact made.holds composed
  case unused =>
    intro h hh hused
    have earlier := below _ hused
    have later := made.number_le hh
    omega
  case given =>
    rw [made.handles, Booking.handles, Booking.map_numbered, List.map_map]
    exact Booking.numbered_eq_map ((fun m => (m.1, m.2.id)) ∘ Booking.addressed) _ _
  case booked =>
    rw [Booking.entries, Booking.map_numbered, List.map_map]
    exact Booking.numbered_eq_map _ _ _
  case opened => exact fun h hh => made.canTakeBack hh
  case undone =>
    intro later going same opened
    refine cancelScheduled_restores going opened (same.trans schedule) ?_ ?_
    · intro s hs hnumber
      have earlier := below _ (recorded (List.mem_map_of_mem hs))
      have later := unused _ hnumber
      omega
    · intro s hs
      rw [numbers]
      exact List.mem_map_of_mem hs

theorem Made.plain (made : Made due (bus.bookings outgoing) done before p after)
    {problem : DispatchError} (h : p.2 = some problem) : problem.Plain := by
  rcases made.problem problem h with rfl | ⟨resourceId, source, rfl⟩
  · exact DispatchError.plain_cancelled
  · exact DispatchError.plain_transport resourceId source

theorem Made.unchanged (made : Made due (bus.bookings outgoing) done before p after)
    (h : p.1 = []) : after.scheduled = before.scheduled := by
  have none_done : done = [] := by
    have length : (Booking.handles before.sequence done).length = done.length :=
      Booking.length_numbered Booking.handle before.sequence done
    rw [← made.handles, h] at length
    exact List.length_eq_zero_iff.mp length.symm
  obtain ⟨calls, rfl⟩ := made.booked
  rw [none_done, Broker.booked]
  exact List.append_nil _

theorem Made.answer_cases (made : Made due (bus.bookings outgoing) done before p after) :
    (p.2 = none ∧ answerOf p = .ok p.1) ∨
    (∃ problem, problem.Plain ∧ p.1 = [] ∧ answerOf p = .error problem) ∨
    ∃ problem, problem.Plain ∧ p.1 ≠ [] ∧ answerOf p = .error (.partialSchedule p.1 problem) := by
  obtain ⟨handles, _ | problem⟩ := p
  · exact .inl ⟨rfl, rfl⟩
  · have plain := made.plain rfl
    cases handles with
    | nil => exact .inr (.inl ⟨problem, plain, rfl, rfl⟩)
    | cons handle more => exact .inr (.inr ⟨problem, plain, List.cons_ne_nil _ _, rfl⟩)

theorem Made.given (made : Made due (bus.bookings outgoing) done before p after)
    {handles : List ScheduledDispatch} (h : handlesGiven? (answerOf p) = some handles) :
    p.1 = handles := by
  rcases made.answer_cases with
    ⟨-, answer⟩ | ⟨problem, plain, -, answer⟩ | ⟨problem, -, -, answer⟩ <;> rw [answer] at h
  · exact Option.some.inj h
  · cases plain.none_given.symm.trans h
  · exact Option.some.inj h

theorem Made.unchanged_of_none_given (made : Made due (bus.bookings outgoing) done before p after)
    (h : handlesGiven? (answerOf p) = none) : after.scheduled = before.scheduled := by
  rcases made.answer_cases with
    ⟨-, answer⟩ | ⟨problem, -, none_made, -⟩ | ⟨problem, -, -, answer⟩
  · rw [answer] at h
    cases h
  · exact made.unchanged none_made
  · rw [answer] at h
    cases h

theorem Made.complete_of_ok (made : Made due (bus.bookings outgoing) done before p after)
    {handles : List ScheduledDispatch} (h : answerOf p = .ok handles) :
    done = bus.bookings outgoing := by
  rcases made.answer_cases with ⟨complete, -⟩ | ⟨problem, -, -, answer⟩ | ⟨problem, -, -, answer⟩
  · exact made.complete complete
  · cases answer.symm.trans h
  · cases answer.symm.trans h

theorem Made.matched (made : Made due (bus.bookings outgoing) done before p after)
    {problem : DispatchError} (h : answerOf p = .error problem) :
    ¬ problem.Mismatched ∧ ∀ source, problem ≠ .partialSchedule [] source := by
  rcases made.answer_cases with
    ⟨-, answer⟩ | ⟨cause, plain, -, answer⟩ | ⟨cause, plain, some_made, answer⟩
  · cases answer.symm.trans h
  · exact (plain.answer answer).2 problem h
  · obtain rfl : _ = problem := Except.error.inj (answer.symm.trans h)
    refine ⟨plain.matched, fun source none_made => some_made ?_⟩
    exact (DispatchError.partialSchedule.inj none_made).1

end Accounts

def paged (bus : Bus) (size : UInt64) : Bus :=
  { bus with settings := { bus.settings with pageSize := size } }

theorem scheduleGroups_paged (bus : Bus) (size : UInt64) (due : Int) {groups : List Group}
    (some_message : ∀ g ∈ groups, g.messages ≠ []) (w : World Broker) :
    let made := scheduleGroups (stopping steady) bus due groups w
    let made' := scheduleGroups (stopping steady) (bus.paged size) due groups w
    made'.1 = made.1 ∧ made'.2.transport.scheduled = made.2.transport.scheduled := by
  intro made made'
  obtain ⟨calls, trace, h⟩ := scheduleGroups_steady bus due some_message w
  obtain ⟨calls', trace', h'⟩ := scheduleGroups_steady (bus.paged size) due some_message w
  have hmade : made = _ := h
  have hmade' : made' = _ := h'
  rw [hmade, hmade']
  exact ⟨rfl, rfl⟩

theorem schedule_paged (bus : Bus) (size : UInt64) (dispatches : List Dispatch) (due : Int)
    (inbound : Option Inbound) (w : World Broker) :
    let result := bus.schedule (stopping steady) dispatches due inbound w
    let other := (bus.paged size).schedule (stopping steady) dispatches due inbound w
    other.1 = result.1 ∧ other.2.transport.scheduled = result.2.transport.scheduled := by
  intro result other
  -- Neither making messages nor grouping them looks at the page size.
  have same : ((bus.paged size).made dispatches inbound w.ids).1 >>= (bus.paged size).grouped =
      (bus.made dispatches inbound w.ids).1 >>= bus.grouped := rfl
  cases h : (bus.made dispatches inbound w.ids).1 >>= bus.grouped with
  | error problem =>
    obtain ⟨answer, transport⟩ := schedule_of_not_grouped h (stopping steady) due
    obtain ⟨answer', transport'⟩ :=
      schedule_of_not_grouped (same.trans h) (stopping steady) due
    exact ⟨answer'.trans answer.symm, congrArg _ (transport'.trans transport.symm)⟩
  | ok groups =>
    obtain ⟨outgoing, -, -, rfl⟩ := of_made_grouped h
    obtain ⟨answer, transport⟩ := schedule_of_grouped h steady due
    obtain ⟨answer', transport'⟩ := schedule_of_grouped (same.trans h) steady due
    obtain ⟨progress, scheduled⟩ := scheduleGroups_paged bus size due
      (fun g hg => messages_of_mem_partition hg)
      { w with ids := (bus.made dispatches inbound w.ids).2 }
    constructor
    · exact answer'.trans ((congrArg answerOf progress).trans answer.symm)
    · rw [transport, ← scheduled]
      exact congrArg _ transport'

/-- The handles that scheduling dispatches on a composed bus answers with, all of them or those of
the messages that were scheduled before an error, account for what was added to the schedule. An
answer without handles has left the schedule alone. How many messages go on one page makes no
difference. -/
theorem schedule_accounted {bus : Bus} (composed : bus.Composed) {maxBatchSize : Nat}
    {requests : List Request} {w : World Broker}
    (reached : w.transport = (start maxBatchSize).run requests) (stop : Broker → Bool)
    (dispatches : List Dispatch) (due : Int) (inbound : Option Inbound) :
    let created := (bus.made dispatches inbound w.ids).1
    let used := ((start maxBatchSize).history {} requests).numbers
    let result := bus.schedule (stopping stop) dispatches due inbound w
    (∀ handles, handlesGiven? result.1 = some handles →
      ∃ outgoing messages added, created = .ok outgoing ∧
        messages.Sublist (byDestination outgoing) ∧
        (result.1 = .ok handles → messages = byDestination outgoing ∧
          messages.Perm (outgoing.map fun o => (o.destination, o.message))) ∧
        bus.Accounted due used messages w.transport result.2.transport handles added) ∧
    (handlesGiven? result.1 = none →
      result.2.transport.scheduled = w.transport.scheduled) ∧
    (∀ problem, result.1 = .error problem →
      ¬ problem.Mismatched ∧ ∀ source, problem ≠ .partialSchedule [] source) ∧
    ((∀ b, stop b = false) → ∀ size,
      let other := (bus.paged size).schedule (stopping stop) dispatches due inbound w
      other.1 = result.1 ∧
        other.2.transport.scheduled = result.2.transport.scheduled) := by
  intro created used result
  have any_size : (∀ b, stop b = false) → ∀ size,
      let other := (bus.paged size).schedule (stopping stop) dispatches due inbound w
      other.1 = result.1 ∧ other.2.transport.scheduled = result.2.transport.scheduled := by
    intro never size
    obtain rfl : stop = steady := funext never
    exact schedule_paged bus size dispatches due inbound w
  rcases schedule_cases stop bus dispatches due inbound w with
    ⟨problem, plain, answer, same⟩ | ⟨outgoing, done, p, hcreated, hgrouped, hanswer, made⟩
  · obtain ⟨none_given, matched⟩ := plain.answer answer
    refine ⟨fun handles h => ?_, fun _ => same, matched, any_size⟩
    cases none_given.symm.trans h
  · refine ⟨fun handles h => ?_, fun h => ?_, fun problem h => ?_, any_size⟩
    · obtain rfl := made.given (hanswer ▸ h)
      have among : (done.map Booking.addressed).Sublist (byDestination outgoing) :=
        map_bookings hgrouped ▸ made.among.map _
      have all (ok : result.1 = .ok p.1) : done.map Booking.addressed = byDestination outgoing := by
        rw [made.complete_of_ok (hanswer.symm.trans ok), map_bookings hgrouped]
      exact ⟨outgoing, _, _, hcreated, among, fun ok => ⟨all ok, all ok ▸ byDestination_perm _⟩,
        made.accounted composed reached⟩
    · exact made.unchanged_of_none_given (hanswer ▸ h)
    · exact made.matched (hanswer.symm.trans h)

-- A bus that writes receipts to two queues, of which one refuses them.

def receipt : PayloadType := { name := "Receipt", typeId := "receipt", shape := .text }

def shop : Bus where
  dispatches := [⟨.queue "orders", receipt, "receipt", .json, []⟩,
    ⟨.queue "audit", receipt, "receipt", .json, []⟩].foldl DispatchRegistry.insert {}
  directory := { senders := [⟨.queue "audit", ⟨1, .queue, "audit"⟩⟩,
    ⟨.queue "orders", ⟨0, .queue, "orders"⟩⟩] }

theorem shop_composed : shop.Composed :=
  ⟨{}, .inOrder,
    [.dispatch receipt (.queue "orders") none [], .dispatch receipt (.queue "audit") none []],
    { transport := start 1000 }, _, by rfl⟩

def shopRequests : List Request :=
  [.createSender (.queue "orders"), .createSender (.queue "audit"), .failSendsTo "audit"]

def shopWorld : World Broker := { transport := (start 1000).run shopRequests }

def paid : Dispatch :=
  { payload := ⟨receipt, .text "paid"⟩, messageId := some "m1", correlationId := some "c1" }

/-- The one handle that is given accounts for the schedule, and it empties the schedule again. -/
theorem schedule_accounted_of_refusal :
    let handles : List ScheduledDispatch := [⟨.queue, "orders", "m1", 1⟩]
    let result := shop.schedule (stopping fun _ => false) [paid] 10 none shopWorld
    let undone := shop.cancelScheduled Broker.transport handles result.2
    handlesGiven? result.1 = some handles ∧
      (∃ messages added, shop.Accounted 10 ((start 1000).history {} shopRequests).numbers messages
        shopWorld.transport result.2.transport handles added) ∧
      undone.1 = .ok () ∧ undone.2.transport.scheduled = [] := by
  intro handles result undone
  have given : handlesGiven? result.1 = some handles := by decide +kernel
  have going : result.2.cancelled = false := by decide +kernel
  obtain ⟨accounts, -⟩ := schedule_accounted shop_composed (w := shopWorld) rfl (fun _ => false)
    [paid] 10 none
  obtain ⟨outgoing, messages, added, -, -, -, accounted⟩ := accounts handles given
  exact ⟨given, ⟨messages, added, accounted⟩, accounted.undone result.2 going rfl accounted.opened⟩

end Bus

end MessageBus
