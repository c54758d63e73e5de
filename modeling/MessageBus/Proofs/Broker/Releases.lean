import MessageBus.Proofs.Broker.Routing
import MessageBus.Proofs.Broker.Schedule

/-!
# Delivering the schedule

Entries leave the schedule in two ways: they are delivered when they are due, or they are taken
back. An entry that was put on the schedule is still on it, or it was delivered once, or it was
taken back, and never two of these. What is due at a time arrives the same whether it is delivered
at once or in two steps.
-/

namespace MessageBus.Broker

def dueAt (now : Int) (b : Broker) : List Scheduled :=
  b.scheduled.filter (·.due ≤ now)

def messagesFor (b : Broker) (path : String) (entries : List Scheduled) : List Message :=
  (entries.filter fun e => path ∈ b.targets e.entity).map (·.message)

section One

variable {b : Broker} {now : Int}

theorem dueCount_eq (now : Int) (b : Broker) : b.dueCount now = (b.dueAt now).length :=
  List.countP_eq_length_filter

theorem scheduled_deliverDue (now : Int) (b : Broker) :
    (b.deliverDue now).scheduled = b.scheduled.filter (now < ·.due) := by
  rw [deliverDue_eq]
  refine List.filter_congr fun e _ => ?_
  rw [← decide_not, decide_eq_decide]
  exact Int.not_le

theorem targets_deliverDue (now : Int) (b : Broker) (entity : String) :
    (b.deliverDue now).targets entity = b.targets entity := by
  rw [deliverDue_eq]
  rfl

theorem pendingAt_deliverDue (distinct : b.subscriptions.Nodup) (now : Int) (path : String) :
    ∃ new, (b.deliverDue now).pendingAt path = b.pendingAt path ++ new ∧
      new.map (·.message) = b.messagesFor path (b.dueAt now) := by
  rw [deliverDue_eq]
  refine ⟨((stamped b.sequence b.locks (b.scheduledArrivals (b.dueAt now))).filter
    (·.1 == path)).map (·.2), ?_, ?_⟩
  · simp only [pendingAt, deliverAll, List.filter_append, List.map_append]
    rfl
  · rw [List.map_map, Function.comp_def, messages_stamped, scheduledArrivals_at distinct]
    rfl

theorem messages_deliverDue (distinct : b.subscriptions.Nodup) (now : Int) (path : String) :
    ((b.deliverDue now).pendingAt path).map (·.message) =
      (b.pendingAt path).map (·.message) ++ b.messagesFor path (b.dueAt now) := by
  obtain ⟨new, pending, messages⟩ := pendingAt_deliverDue distinct now path
  rw [pending, List.map_append, messages]

theorem deliverDue_of_none_due (none_due : b.dueAt now = []) : b.deliverDue now = b := by
  have waiting : b.scheduled.filter (fun e => !decide (e.due ≤ now)) = b.scheduled :=
    List.filter_eq_self.mpr fun e he => by simpa using List.filter_eq_nil_iff.mp none_due e he
  rw [dueAt] at none_due
  rw [deliverDue_eq, none_due, waiting]
  exact deliverAll_nil b

theorem dueAt_deliverDue (now : Int) (b : Broker) : (b.deliverDue now).dueAt now = [] := by
  rw [dueAt, scheduled_deliverDue, List.filter_filter]
  refine List.filter_eq_nil_iff.mpr fun e _ => ?_
  simp

end One

section Two

variable {b : Broker} {early late : Int} (order : early ≤ late)
include order

theorem scheduled_deliverDue_twice :
    ((b.deliverDue early).deliverDue late).scheduled = (b.deliverDue late).scheduled := by
  simp only [scheduled_deliverDue, List.filter_filter]
  refine List.filter_congr fun e _ => ?_
  rw [← Bool.decide_and, decide_eq_decide]
  omega

theorem dueAt_split (b : Broker) :
    (b.dueAt early ++ (b.deliverDue early).dueAt late).Perm (b.dueAt late) := by
  have first : b.dueAt early = (b.dueAt late).filter (·.due ≤ early) := by
    rw [dueAt, dueAt, List.filter_filter]
    refine List.filter_congr fun e _ => ?_
    rw [← Bool.decide_and, decide_eq_decide]
    omega
  have second : (b.deliverDue early).dueAt late =
      (b.dueAt late).filter fun e => !decide (e.due ≤ early) := by
    rw [dueAt, dueAt, scheduled_deliverDue, List.filter_filter, List.filter_filter]
    refine List.filter_congr fun e _ => ?_
    rw [← decide_not, ← Bool.decide_and, ← Bool.decide_and, decide_eq_decide]
    omega
  rw [first, second]
  exact List.filter_append_perm _ _

theorem dueCount_split (b : Broker) :
    b.dueCount early + (b.deliverDue early).dueCount late = b.dueCount late := by
  have together := (dueAt_split order b).length_eq
  rwa [List.length_append, ← dueCount_eq, ← dueCount_eq, ← dueCount_eq] at together

theorem messages_deliverDue_twice (distinct : b.subscriptions.Nodup) (path : String) :
    ((((b.deliverDue early).deliverDue late).pendingAt path).map (·.message)).Perm
      (((b.deliverDue late).pendingAt path).map (·.message)) := by
  have same : (b.deliverDue early).subscriptions = b.subscriptions := by
    rw [deliverDue_eq]
    rfl
  have targets (entries : List Scheduled) :
      (b.deliverDue early).messagesFor path entries = b.messagesFor path entries := by
    simp only [messagesFor, targets_deliverDue]
  rw [messages_deliverDue (same ▸ distinct), messages_deliverDue distinct,
    messages_deliverDue distinct, targets, List.append_assoc]
  refine List.Perm.append_left _ ?_
  rw [messagesFor, messagesFor, ← List.map_append, ← List.filter_append]
  exact ((dueAt_split order b).filter _).map _

end Two

/-- What a request delivers from the schedule. -/
def releasing (b : Broker) : Request → List Scheduled
  | .deliverDue now => b.dueAt now
  | _ => []

/-- What a request takes off the schedule and does not deliver. -/
def dropping (b : Broker) : Request → List Scheduled
  | .cancelScheduled s numbers =>
    if s.id ∈ b.closed then [] else b.scheduled.filter (·.sequenceNumber ∈ numbers)
  | .clear => b.scheduled
  | _ => []

def releases (b : Broker) : List Request → List Scheduled
  | [] => []
  | q :: requests => b.releasing q ++ (b.perform q).releases requests

def drops (b : Broker) : List Request → List Scheduled
  | [] => []
  | q :: requests => b.dropping q ++ (b.perform q).drops requests

theorem releases_append (b : Broker) (xs ys : List Request) :
    b.releases (xs ++ ys) = b.releases xs ++ (b.run xs).releases ys := by
  induction xs generalizing b with
  | nil => rfl
  | cons q xs ih => rw [List.cons_append, releases, releases, ih, List.append_assoc, run_cons]

theorem drops_append (b : Broker) (xs ys : List Request) :
    b.drops (xs ++ ys) = b.drops xs ++ (b.run xs).drops ys := by
  induction xs generalizing b with
  | nil => rfl
  | cons q xs ih => rw [List.cons_append, drops, drops, ih, List.append_assoc, run_cons]

theorem scheduled_perform (b : Broker) (q : Request) :
    (b.perform q).scheduled = ((b.effects q).foldl Contents.apply b.contents).scheduled :=
  congrArg Contents.scheduled (contents_perform b q)

theorem schedule_perform (b : Broker) (q : Request) :
    ((b.perform q).scheduled ++ b.releasing q ++ b.dropping q).Perm
      (b.scheduled ++ (b.reserving q).map (·.2)) := by
  have untouched (releasing : b.releasing q = []) (dropping : b.dropping q = [])
      (reserving : b.reserving q = []) (scheduled : (b.perform q).scheduled = b.scheduled) :
      ((b.perform q).scheduled ++ b.releasing q ++ b.dropping q).Perm
        (b.scheduled ++ (b.reserving q).map (·.2)) := by
    rw [reserving, releasing, dropping, scheduled]
    exact List.Perm.of_eq (List.append_nil _)
  cases q with
  | schedule s ms due =>
    rw [scheduled_perform]
    cases problem : b.sendProblem? s with
    | some _ =>
      simp only [effects, reserving, problem]
      exact List.Perm.of_eq (List.append_nil _)
    | none =>
      simp only [effects, reserving, problem, releasing, dropping, List.append_nil, List.map_map,
        Function.comp_def, List.map_id']
      rfl
  | cancelScheduled s numbers =>
    by_cases closed : s.id ∈ b.closed
    · refine untouched rfl (if_pos closed) rfl ?_
      rw [scheduled_perform, effects, if_pos closed]
      rfl
    · have left : (b.perform (.cancelScheduled s numbers)).scheduled =
          b.scheduled.filter (·.sequenceNumber ∉ numbers) := by
        rw [scheduled_perform, effects, if_neg closed]
        rfl
      simp only [left, releasing, dropping, if_neg closed, reserving, List.map_nil, List.append_nil,
        decide_not]
      exact List.perm_append_comm.trans (List.filter_append_perm _ _)
  | deliverDue now =>
    have due : b.dueAt now = b.scheduled.filter fun e => !decide (now < e.due) := by
      refine List.filter_congr fun e _ => ?_
      rw [← decide_not, decide_eq_decide]
      exact Int.not_lt.symm
    simp only [perform, scheduled_deliverDue, releasing, dropping, due, reserving, List.map_nil,
      List.append_nil]
    exact List.filter_append_perm _ _
  | clear => exact List.Perm.of_eq (List.append_nil _).symm
  | sendBatch s batch =>
    refine untouched rfl rfl rfl ?_
    rw [scheduled_perform, effects]
    cases b.batchProblem? s batch <;> rfl
  | sendMessages s ms =>
    refine untouched rfl rfl rfl ?_
    rw [scheduled_perform, effects]
    cases b.sendProblem? s <;> rfl
  | complete path r =>
    refine untouched rfl rfl rfl ?_
    rw [scheduled_perform, effects]
    cases b.settleable r <;> rfl
  | abandon path r =>
    refine untouched rfl rfl rfl ?_
    rw [scheduled_perform, effects]
    cases b.settleable r <;> rfl
  | deadLetter path r reason =>
    refine untouched rfl rfl rfl ?_
    rw [scheduled_perform, effects]
    cases b.settleable r <;> rfl
  | _ => exact untouched rfl rfl rfl (scheduled_perform b _)

theorem schedule_run (b : Broker) (requests : List Request) :
    ((b.run requests).scheduled ++ b.releases requests ++ b.drops requests).Perm
      (b.scheduled ++ (b.reservations requests).map (·.2)) := by
  induction requests generalizing b with
  | nil => exact List.Perm.of_eq (List.append_nil _)
  | cons q requests ih =>
    have first := schedule_perform b q
    have others := ih (b.perform q)
    rw [run_cons, releases, drops, reservations, List.map_append]
    rw [← Multiset.coe_eq_coe] at first others ⊢
    simp only [← Multiset.coe_add] at first others ⊢
    generalize (((b.perform q).scheduled : List Scheduled) : Multiset Scheduled) = between at *
    calc ↑((b.perform q).run requests).scheduled +
          (↑(b.releasing q) + ↑((b.perform q).releases requests)) +
          (↑(b.dropping q) + ↑((b.perform q).drops requests))
      _ = ↑((b.perform q).run requests).scheduled + ↑((b.perform q).releases requests) +
            ↑((b.perform q).drops requests) + ↑(b.releasing q) + ↑(b.dropping q) := by abel
      _ = between + ↑(b.releasing q) + ↑(b.dropping q) +
            ↑(((b.perform q).reservations requests).map (·.2)) := by rw [others]; abel
      _ = _ := by rw [first, add_assoc]

/-- Of the entries that were ever put on the schedule, each is on it, was delivered or was taken
back, and it has its number alone. -/
theorem entries_apart (maxBatchSize : Nat) (requests : List Request) :
    ((((start maxBatchSize).run requests).scheduled ++ (start maxBatchSize).releases requests ++
      (start maxBatchSize).drops requests).map (·.sequenceNumber)).Nodup := by
  have numbers := (account_sound maxBatchSize requests).numbers.distinct
  have reserved := (List.nodup_append.mp numbers).1
  simp only [account, reserved_history] at reserved
  refine ((schedule_run (start maxBatchSize) requests).map (·.sequenceNumber)).nodup_iff.mpr ?_
  rwa [List.map_append, List.map_map]

theorem not_released_of_dropped {maxBatchSize : Nat} {requests : List Request} {x y : Scheduled}
    (released : x ∈ (start maxBatchSize).releases requests)
    (dropped : y ∈ (start maxBatchSize).drops requests) : x.sequenceNumber ≠ y.sequenceNumber := by
  have apart := entries_apart maxBatchSize requests
  rw [List.map_append, List.map_append, List.append_assoc] at apart
  have apart := (List.nodup_append.mp apart).2.1
  exact (List.nodup_append.mp apart).2.2 _ (List.mem_map_of_mem released) _
    (List.mem_map_of_mem dropped)

/-- After any run, a delivery of the schedule brings exactly the messages that are due, each once to
every target of its entity, in the order of the schedule and behind what is pending there. To
deliver at an earlier time first makes no difference but to the order, and to deliver once more
makes none. Every entry ever scheduled is on the schedule, was delivered once or was taken back, so
what is taken back is not delivered in any later run. -/
theorem due_delivered_once (maxBatchSize : Nat) (requests : List Request) :
    let b := (start maxBatchSize).run requests
    (∀ now, (b.dueAt now).Pairwise (·.sequenceNumber < ·.sequenceNumber) ∧
      b.dueCount now = (b.dueAt now).length ∧
      (b.deliverDue now).scheduled = b.scheduled.filter (now < ·.due) ∧
      ∀ path, ∃ new, (b.deliverDue now).pendingAt path = b.pendingAt path ++ new ∧
        new.map (·.message) =
          ((b.dueAt now).filter fun e => path ∈ b.targets e.entity).map (·.message)) ∧
    (∀ early late, early ≤ late →
      let between := b.deliverDue early
      (between.deliverDue late).scheduled = (b.deliverDue late).scheduled ∧
      b.dueCount early + between.dueCount late = b.dueCount late ∧
      ∀ path, (((between.deliverDue late).pendingAt path).map (·.message)).Perm
        (((b.deliverDue late).pendingAt path).map (·.message))) ∧
    (∀ now, (b.deliverDue now).dueCount now = 0 ∧
      (b.deliverDue now).deliverDue now = b.deliverDue now) ∧
    (b.scheduled ++ (start maxBatchSize).releases requests ++
      (start maxBatchSize).drops requests).Perm
        (((start maxBatchSize).reservations requests).map (·.2)) ∧
    ∀ s numbers, s.id ∉ b.closed → ∀ e ∈ b.scheduled, e.sequenceNumber ∈ numbers →
      ∀ later, ∀ x ∈ (b.perform (.cancelScheduled s numbers)).releases later,
        x.sequenceNumber ≠ e.sequenceNumber := by
  intro b
  have distinct : b.subscriptions.Nodup := subscriptions_nodup maxBatchSize requests
  refine ⟨fun now => ⟨?_, dueCount_eq now b, scheduled_deliverDue now b,
    pendingAt_deliverDue distinct now⟩, fun early late order => ?_, fun now => ?_,
    schedule_run (start maxBatchSize) requests, ?_⟩
  · exact (List.pairwise_map.mp (schedule_of_run maxBatchSize requests).1).filter _
  · exact ⟨scheduled_deliverDue_twice order, dueCount_split order b,
      messages_deliverDue_twice order distinct⟩
  · have none_due := dueAt_deliverDue now b
    exact ⟨by rw [dueCount_eq, none_due, List.length_nil], deliverDue_of_none_due none_due⟩
  · intro s numbers opened e scheduled named later x released
    have dropped : e ∈ b.dropping (.cancelScheduled s numbers) := by
      rw [dropping, if_neg opened]
      exact List.mem_filter.mpr ⟨scheduled, decide_eq_true named⟩
    let whole := requests ++ .cancelScheduled s numbers :: later
    have released_in_whole : x ∈ (start maxBatchSize).releases whole := by
      rw [releases_append]
      exact List.mem_append_right _ released
    have dropped_in_whole : e ∈ (start maxBatchSize).drops whole := by
      rw [drops_append]
      exact List.mem_append_right _ (List.mem_append_left _ dropped)
    exact not_released_of_dropped released_in_whole dropped_in_whole

/-- Of three messages on the schedule two are due at five, and one of these is taken back. -/
theorem due_delivered_once_of_sale :
    let toSales : Sender := ⟨0, .topic, "sales"⟩
    let toRefunds : Sender := ⟨1, .queue, "refunds"⟩
    let refund : Scheduled := ⟨3, "refunds", { id := "m3" }, 5⟩
    let b := (start 1000).run [.createSubscription "sales" "billing",
      .schedule toSales [{ id := "m1" }] 5, .schedule toSales [{ id := "m2" }] 9,
      .schedule toRefunds [{ id := "m3" }] 5]
    (5 : Int) ≤ 9 ∧ b.dueCount 5 = 2 ∧ (b.deliverDue 5).dueCount 9 = 1 ∧ b.dueCount 9 = 3 ∧
      (∀ path, ((((b.deliverDue 5).deliverDue 9).pendingAt path).map (·.message)).Perm
        (((b.deliverDue 9).pendingAt path).map (·.message))) ∧
      toRefunds.id ∉ b.closed ∧ refund ∈ b.scheduled ∧
      ∀ later, ∀ x ∈ (b.perform (.cancelScheduled toRefunds [3])).releases later,
        x.sequenceNumber ≠ 3 := by
  intro toSales toRefunds refund b
  obtain ⟨-, twice, -, -, cancelled⟩ := due_delivered_once 1000
    [.createSubscription "sales" "billing", .schedule toSales [{ id := "m1" }] 5,
      .schedule toSales [{ id := "m2" }] 9, .schedule toRefunds [{ id := "m3" }] 5]
  obtain ⟨-, -, same⟩ := twice 5 9 (by decide)
  have opened : toRefunds.id ∉ b.closed := by decide +kernel
  have scheduled : refund ∈ b.scheduled := .tail _ (.tail _ (.head _))
  exact ⟨by decide, by decide +kernel, by decide +kernel, by decide +kernel, same, opened,
    scheduled, cancelled toRefunds [3] opened refund scheduled (.head _)⟩

end MessageBus.Broker
