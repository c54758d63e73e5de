import MessageBus.Proofs.Broker.Reservations

/-!
# Routing

A sender is made for a queue or for a topic, but the broker routes by the name alone. So a message
arrives where its sender says exactly if the subscriptions tell the same from the name: a topic has
some, and a queue has none and is not one of them.
-/

namespace MessageBus.Broker

/-- These messages were added to those pending at the path. -/
def Gains (before after : Broker) (path : String) (ms : List Message) : Prop :=
  (after.pendingAt path).map (·.message) = (before.pendingAt path).map (·.message) ++ ms

/-- The messages came in once where the kind of their sender says, and nowhere else. Nothing can be
sent to a subscription. -/
def AsAddressed (s : Sender) (ms : List Message) (before after : Broker) : Prop :=
  match s.kind with
  | .queue =>
    (∀ path, Gains before after path (if path = s.entity then ms else [])) ∧
      ∀ path ∈ before.subscriptions.map (·.2), Gains before after path []
  | .topic =>
    ∀ path, Gains before after path (if path ∈ before.subscriptionsOf s.entity then ms else [])
  | .subscription => True

/-- The subscriptions agree with the kind of the sender. -/
def Agrees (b : Broker) (s : Sender) : Prop :=
  match s.kind with
  | .queue => b.subscriptionsOf s.entity = [] ∧ s.entity ∉ b.subscriptions.map (·.2)
  | .topic => b.subscriptionsOf s.entity ≠ []
  | .subscription => True

section Targets

variable {b : Broker} {entity path : String}

theorem mem_subscriptionsOf :
    path ∈ b.subscriptionsOf entity ↔ (entity, path) ∈ b.subscriptions := by
  simp [subscriptionsOf]

theorem subscriptionsOf_nodup (distinct : b.subscriptions.Nodup) (entity : String) :
    (b.subscriptionsOf entity).Nodup := by
  refine List.Nodup.map_on (fun x hx y hy same => ?_) (distinct.filter _)
  have hx : x.1 = entity := by simpa using (List.mem_filter.mp hx).2
  have hy : y.1 = entity := by simpa using (List.mem_filter.mp hy).2
  exact Prod.ext (hx.trans hy.symm) same

theorem targets_nodup (distinct : b.subscriptions.Nodup) (entity : String) :
    (b.targets entity).Nodup := by
  rw [targets]
  split
  · exact List.nodup_singleton _
  · exact subscriptionsOf_nodup distinct entity

theorem targets_of_unsubscribed (unsubscribed : b.subscriptionsOf entity = []) :
    b.targets entity = [entity] := by
  rw [targets, unsubscribed]

theorem targets_of_subscribed (subscribed : b.subscriptionsOf entity ≠ []) :
    b.targets entity = b.subscriptionsOf entity := by
  rw [targets]
  split
  · next unsubscribed => exact absurd unsubscribed subscribed
  · rfl

theorem arrivals_at (distinct : b.subscriptions.Nodup) (entity path : String) (ms : List Message) :
    ((b.arrivals entity ms).filter (·.1 == path)).map (·.2) =
      if path ∈ b.targets entity then ms else [] := by
  have once (m : Message) : (((b.targets entity).map fun target => (target, m)).filter
      (·.1 == path)).map (·.2) = if path ∈ b.targets entity then [m] else [] := by
    have count := (targets_nodup distinct entity).count (a := path)
    rw [List.filter_map, List.map_map, Function.comp_def, Function.comp_def, List.map_const',
      ← List.countP_eq_length_filter, ← List.count, count]
    split <;> rfl
  simp only [arrivals, List.filter_flatMap, List.map_flatMap, once]
  split
  · exact List.flatMap_singleton' ms
  · exact List.flatMap_eq_nil_iff.mpr fun _ _ => rfl

theorem gains_iff (distinct : b.subscriptions.Nodup) (entity path : String)
    (ms expected : List Message) :
    Gains b (b.deliverAll (b.arrivals entity ms)) path expected ↔
      (if path ∈ b.targets entity then ms else []) = expected := by
  rw [Gains, messages_pendingAt_deliverAll, arrivals_at distinct, List.append_cancel_left_eq]

theorem scheduledArrivals_at (distinct : b.subscriptions.Nodup) (path : String)
    (due : List Scheduled) :
    ((b.scheduledArrivals due).filter (·.1 == path)).map (·.2) =
      (due.filter fun e => decide (path ∈ b.targets e.entity)).map (·.message) := by
  induction due with
  | nil => rfl
  | cons e due ih =>
    have first := arrivals_at distinct e.entity path [e.message]
    rw [scheduledArrivals, List.flatMap_cons, List.filter_append, List.map_append, first,
      List.filter_cons, ← scheduledArrivals, ih]
    by_cases target : path ∈ b.targets e.entity <;> simp [target]

theorem gains_deliverDue (distinct : b.subscriptions.Nodup) (now : Int) (path : String) :
    Gains b (b.deliverDue now) path
      ((b.scheduled.filter fun e => e.due ≤ now ∧ path ∈ b.targets e.entity).map (·.message)) := by
  rw [Gains, deliverDue_eq, messages_pendingAt_deliverAll, scheduledArrivals_at distinct,
    List.filter_filter]
  simp only [Bool.decide_and, Bool.and_comm]
  rfl

end Targets

theorem ite_nil_eq_iff {α : Type} {p q : Prop} [Decidable p] [Decidable q] {xs : List α}
    (nonempty : xs ≠ []) : (if p then xs else []) = (if q then xs else []) ↔ (p ↔ q) := by
  by_cases hp : p <;> by_cases hq : q <;> simp [hp, hq, nonempty, Ne.symm nonempty]

theorem asAddressed_iff {b : Broker} (distinct : b.subscriptions.Nodup) (s : Sender)
    (ms : List Message) :
    AsAddressed s ms b (b.deliverAll (b.arrivals s.entity ms)) ↔ ms = [] ∨ b.Agrees s := by
  rcases eq_or_ne ms [] with rfl | nonempty
  · refine iff_of_true ?_ (.inl rfl)
    obtain ⟨id, kind, entity⟩ := s
    cases kind <;> simp [AsAddressed, gains_iff distinct]
  obtain ⟨id, kind, entity⟩ := s
  cases kind with
  | queue =>
    simp only [AsAddressed, Agrees, gains_iff distinct, ite_nil_eq_iff nonempty, ite_eq_right_iff,
      nonempty, imp_false, false_or]
    constructor
    · rintro ⟨-, elsewhere⟩
      have undeclared : ∀ path ∈ b.targets entity, path ∉ b.subscriptions.map (·.2) :=
        fun path target declared => elsewhere path declared target
      -- The subscriptions of a topic would be targets, and each of them is a declared path.
      have unsubscribed : b.subscriptionsOf entity = [] := by
        by_contra declared
        obtain ⟨path, hpath⟩ := List.exists_mem_of_ne_nil _ declared
        rw [targets_of_subscribed declared] at undeclared
        exact undeclared path hpath (List.mem_map_of_mem (mem_subscriptionsOf.mp hpath))
      rw [targets_of_unsubscribed unsubscribed] at undeclared
      exact ⟨unsubscribed, undeclared entity (List.mem_singleton_self entity)⟩
    · rintro ⟨unsubscribed, undeclared⟩
      rw [targets_of_unsubscribed unsubscribed]
      refine ⟨fun path => List.mem_singleton, fun path declared target => undeclared ?_⟩
      rwa [← List.mem_singleton.mp target]
  | topic =>
    simp only [AsAddressed, Agrees, gains_iff distinct, ite_nil_eq_iff nonempty, nonempty, false_or]
    constructor
    · intro same unsubscribed
      have target : entity ∈ b.subscriptionsOf entity :=
        (same entity).mp (targets_of_unsubscribed unsubscribed ▸ List.mem_singleton_self entity)
      rw [unsubscribed] at target
      cases target
    · intro declared path
      rw [targets_of_subscribed declared]
  | subscription => exact iff_of_true trivial (.inr trivial)

theorem Setup.subscriptions_perform {c : Setup} (distinct : c.subscriptions.Nodup) (q : Request) :
    (c.perform q).subscriptions.Nodup := by
  cases q with
  | createSubscription topic subscription =>
    simp only [perform]
    split
    · exact distinct
    · next absent =>
      have new : (topic, Resource.subscriptionPath topic subscription) ∉ c.subscriptions :=
        mt List.contains_iff_mem.mpr absent
      exact List.Nodup.append distinct (List.nodup_singleton _) (List.disjoint_singleton.mpr new)
  | createSender r =>
    simp only [perform]
    split <;> exact distinct
  | close s =>
    simp only [perform]
    split <;> exact distinct
  | clear => exact List.nodup_nil
  | _ => exact distinct

theorem subscriptions_nodup (maxBatchSize : Nat) (requests : List Request) :
    ((start maxBatchSize).run requests).subscriptions.Nodup := by
  induction requests using List.reverseRecOn with
  | nil => exact List.nodup_nil
  | append_singleton requests q ih =>
    have step : (((start maxBatchSize).run requests).perform q).subscriptions = _ :=
      congrArg Setup.subscriptions (setup_perform _ q)
    rw [run_append, run_cons, run_nil, step]
    exact Setup.subscriptions_perform ih q

/-- The broker when the messages before this one have been delivered, of those that are due. -/
def delivering (now : Int) (earlier : List Scheduled) (b : Broker) : Broker :=
  earlier.foldl (fun b e => b.route e.entity e.message)
    { b with scheduled := b.scheduled.filter fun e => !decide (e.due ≤ now) }

theorem deliverDue_eq_foldl {now : Int} {b : Broker} {earlier later : List Scheduled}
    {e : Scheduled}
    (due : b.scheduled.filter (·.due ≤ now) = earlier ++ e :: later) :
    b.deliverDue now = later.foldl (fun b e => b.route e.entity e.message)
      ((b.delivering now earlier).route e.entity e.message) := by
  simp only [deliverDue, List.partition_eq_filter_filter, due, List.foldl_append, List.foldl_cons]
  rfl

theorem subscriptions_delivering (now : Int) (earlier : List Scheduled) (b : Broker) :
    (b.delivering now earlier).subscriptions = b.subscriptions := by
  rw [delivering, foldl_route]
  rfl

/-- In any state that a run leaves, a message that is sent in a batch, sent by itself or delivered
from the schedule arrives as its sender says exactly if the subscriptions agree with the kind of
the sender. -/
theorem as_addressed_iff_agrees (maxBatchSize : Nat) (requests : List Request) :
    let b := (start maxBatchSize).run requests
    (∀ s batch, (sendBatch s batch b).1 = .ok () →
      (AsAddressed s batch.messages b (sendBatch s batch b).2 ↔
        batch.messages = [] ∨ b.Agrees s)) ∧
      (∀ s ms, (sendMessages s ms b).1 = .ok () →
        (AsAddressed s ms b (sendMessages s ms b).2 ↔ ms = [] ∨ b.Agrees s)) ∧
      ∀ now earlier e later, b.scheduled.filter (·.due ≤ now) = earlier ++ e :: later →
        let before := b.delivering now earlier
        let after := before.route e.entity e.message
        b.deliverDue now = later.foldl (fun b e => b.route e.entity e.message) after ∧
          ∃ s, (s, e) ∈ (start maxBatchSize).reservations requests ∧ e.entity = s.entity ∧
            (AsAddressed s [e.message] before after ↔ b.Agrees s) := by
  intro b
  have distinct : b.subscriptions.Nodup := subscriptions_nodup maxBatchSize requests
  refine ⟨fun s batch sent => ?_, fun s ms sent => ?_, fun now earlier e later due => ?_⟩
  · rw [sendBatch_eq] at sent ⊢
    cases h : b.batchProblem? s batch with
    | some problem =>
      rw [h] at sent
      cases sent
    | none => exact asAddressed_iff distinct s batch.messages
  · rw [sendMessages_eq] at sent ⊢
    cases h : b.sendProblem? s with
    | some problem =>
      rw [h] at sent
      cases sent
    | none => exact asAddressed_iff distinct s ms
  · intro before after
    have scheduled : e ∈ b.scheduled :=
      List.mem_of_mem_filter (due ▸ List.mem_append_right earlier (List.mem_cons_self ..))
    obtain ⟨s, reserved, entity⟩ := reserved_of_mem_scheduled scheduled
    refine ⟨deliverDue_eq_foldl due, s, reserved, entity, ?_⟩
    have subscriptions : before.subscriptions = b.subscriptions := subscriptions_delivering ..
    have agrees : before.Agrees s ↔ b.Agrees s := by
      simp only [Agrees, subscriptionsOf, subscriptions]
    have routed : after = before.deliverAll (before.arrivals s.entity [e.message]) :=
      entity ▸ route_eq before e.entity e.message
    rw [routed, asAddressed_iff (subscriptions ▸ distinct), agrees]
    simp

theorem as_addressed_iff_agrees_of_events :
    let toOrders : Sender := ⟨0, .queue, "orders"⟩
    let toEvents : Sender := ⟨1, .topic, "events"⟩
    let m : Message := { id := "m1" }
    let e : Scheduled := ⟨1, "events", m, 5⟩
    let b := (start 262144).run [.createSubscription "events" "billing", .schedule toEvents [m] 5]
    let sent := sendMessages toOrders [m] b
    sent.1 = .ok () ∧ AsAddressed toOrders [m] b sent.2 ∧
      b.scheduled.filter (·.due ≤ 5) = [e] ∧
      AsAddressed toEvents [m] (b.delivering 5 []) (b.deliverDue 5) := by
  intro toOrders toEvents m e b sent
  obtain ⟨-, messages, due⟩ := as_addressed_iff_agrees 262144
    [.createSubscription "events" "billing", .schedule toEvents [m] 5]
  have orders : b.Agrees toOrders := ⟨rfl, by decide⟩
  have events : b.Agrees toEvents := by
    intro unsubscribed
    cases unsubscribed
  refine ⟨rfl, (messages toOrders [m] rfl).mpr (.inr orders), rfl, ?_⟩
  obtain ⟨delivered, s, reserved, -, iff⟩ := due 5 [] e [] rfl
  obtain rfl : s = toEvents := congrArg Prod.fst (List.mem_singleton.mp reserved)
  rw [delivered]
  exact iff.mpr events

/-- A message to a queue that has the name of a topic goes to the subscriptions of the topic, and a
message to a topic that nobody has subscribed to goes to the queue of that name. -/
theorem not_as_addressed :
    let toQueue : Sender := ⟨0, .queue, "orders"⟩
    let toTopic : Sender := ⟨1, .topic, "orders"⟩
    let m : Message := { id := "m1" }
    let subscribed := (start 262144).run [.createSubscription "orders" "billing"]
    let queued := sendMessages toQueue [m] subscribed
    let published := sendMessages toTopic [m] (start 262144)
    queued.1 = .ok () ∧ ¬AsAddressed toQueue [m] subscribed queued.2 ∧
      queued.2.pendingAt "orders" = [] ∧
      published.1 = .ok () ∧ ¬AsAddressed toTopic [m] (start 262144) published.2 ∧
      (published.2.pendingAt "orders").map (·.message) = [m] := by
  intro toQueue toTopic m subscribed queued published
  refine ⟨rfl, fun addressed => ?_, rfl, rfl, fun addressed => ?_, rfl⟩
  · cases addressed.1 "orders"
  · cases addressed "orders"

end MessageBus.Broker
