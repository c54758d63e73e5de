import MessageBus.Broker.Sending

/-!
# Deliveries

Enqueueing, routing and delivering schedules are one operation: a list of messages, each with the
queue or subscription that it arrives at, goes behind the pending ones, stamped one after the other
with the next sequence numbers and lock tokens.
-/

namespace MessageBus.Broker

def stamped : Int → Nat → List (String × Message) → List (String × Received)
  | _, _, [] => []
  | number, lock, (path, m) :: rest =>
    (path, { message := m, sequenceNumber := number, lockToken := .issued lock }) ::
      stamped (number + 1) (lock + 1) rest

def deliverAll (places : List (String × Message)) (b : Broker) : Broker :=
  { b with
    pending := b.pending ++ stamped b.sequence b.locks places
    sequence := b.sequence + places.length
    locks := b.locks + places.length }

/-- Where messages sent to an entity arrive: each of them on every target of the entity. -/
def arrivals (b : Broker) (entity : String) (ms : List Message) : List (String × Message) :=
  ms.flatMap fun m => (b.targets entity).map fun path => (path, m)

theorem stamped_append (number : Int) (lock : Nat) (xs ys : List (String × Message)) :
    stamped number lock (xs ++ ys) =
      stamped number lock xs ++ stamped (number + xs.length) (lock + xs.length) ys := by
  induction xs generalizing number lock with
  | nil => simp [stamped]
  | cons x xs ih =>
    have hn : number + 1 + (xs.length : Int) = number + ((x :: xs).length : Int) := by
      simp only [List.length_cons]; omega
    have hl : lock + 1 + xs.length = lock + (x :: xs).length := by
      simp only [List.length_cons]; omega
    simp only [List.cons_append, stamped, ih, hn, hl]

theorem mem_stamped {number : Int} {lock : Nat} {places : List (String × Message)}
    {e : String × Received} (h : e ∈ stamped number lock places) :
    number ≤ e.2.sequenceNumber ∧ e.2.sequenceNumber < number + places.length ∧
      e.2.deliveryCount = 1 ∧
      ∃ k, lock ≤ k ∧ k < lock + places.length ∧ e.2.lockToken = .issued k := by
  induction places generalizing number lock with
  | nil => simp [stamped] at h
  | cons p places ih =>
    simp only [stamped, List.mem_cons] at h
    simp only [List.length_cons, Int.natCast_add, Int.natCast_one]
    rcases h with rfl | h
    · refine ⟨Int.le_refl _, ?_, rfl, lock, Nat.le_refl _, by omega, rfl⟩
      simp only
      omega
    · obtain ⟨hle, hlt, hc, k, hk, hk', ht⟩ := ih h
      exact ⟨by omega, by omega, hc, k, by omega, by omega, ht⟩

theorem stamped_pairwise (number : Int) (lock : Nat) (places : List (String × Message)) :
    (stamped number lock places).Pairwise fun x y =>
      x.2.sequenceNumber < y.2.sequenceNumber ∧ x.2.lockToken ≠ y.2.lockToken := by
  induction places generalizing number lock with
  | nil => exact .nil
  | cons p places ih =>
    refine .cons ?_ (ih _ _)
    intro y hy
    obtain ⟨hle, -, -, k, hk, -, ht⟩ := mem_stamped hy
    refine ⟨by simp only; omega, ?_⟩
    rw [ht]
    intro h
    cases h
    omega

theorem map_stamped (number : Int) (lock : Nat) (places : List (String × Message)) :
    (stamped number lock places).map (fun e => (e.1, e.2.message)) = places := by
  induction places generalizing number lock with
  | nil => rfl
  | cons p places ih => rw [stamped, List.map_cons, ih]

theorem messages_stamped (number : Int) (lock : Nat) (places : List (String × Message))
    (path : String) :
    ((stamped number lock places).filter (·.1 == path)).map (·.2.message) =
      (places.filter (·.1 == path)).map (·.2) := by
  conv => rhs; rw [← map_stamped number lock places, List.filter_map, List.map_map]
  rfl

theorem arrivals_append (b : Broker) (entity : String) (xs ys : List Message) :
    b.arrivals entity (xs ++ ys) = b.arrivals entity xs ++ b.arrivals entity ys :=
  List.flatMap_append

theorem arrivals_congr {b c : Broker} (h : b.subscriptions = c.subscriptions) (entity : String)
    (ms : List Message) : b.arrivals entity ms = c.arrivals entity ms := by
  simp only [arrivals, targets, subscriptionsOf, h]

@[simp] theorem arrivals_record (b : Broker) (operation : Operation) (entity : String)
    (ms : List Message) : (b.record operation).arrivals entity ms = b.arrivals entity ms := rfl

theorem arrivals_apart {b : Broker} {entity path : String} (apart : path ∉ b.targets entity)
    (ms : List Message) : (b.arrivals entity ms).filter (·.1 == path) = [] := by
  refine List.filter_eq_nil_iff.mpr fun place hplace here => ?_
  obtain ⟨m, -, hm⟩ := List.mem_flatMap.mp hplace
  obtain ⟨target, htarget, rfl⟩ := List.mem_map.mp hm
  exact apart (beq_iff_eq.mp here ▸ htarget)

theorem arrivals_queue {b : Broker} {queue : String} (no_topic : b.subscriptionsOf queue = [])
    (ms : List Message) : b.arrivals queue ms = ms.map (queue, ·) := by
  simp only [arrivals, targets, no_topic, List.map_cons, List.map_nil]
  exact List.map_eq_flatMap.symm

@[simp] theorem deliverAll_nil (b : Broker) : b.deliverAll [] = b := by
  simp [deliverAll, stamped]

theorem deliverAll_append (b : Broker) (xs ys : List (String × Message)) :
    b.deliverAll (xs ++ ys) = (b.deliverAll xs).deliverAll ys := by
  have hn : b.sequence + ((xs ++ ys).length : Int) = b.sequence + xs.length + ys.length := by
    simp only [List.length_append]; omega
  have hl : b.locks + (xs ++ ys).length = b.locks + xs.length + ys.length := by
    simp only [List.length_append]; omega
  simp only [deliverAll, stamped_append, List.append_assoc, hn, hl]

theorem deliver_eq (b : Broker) (path : String) (m : Message) :
    b.deliver path m = b.deliverAll [(path, m)] := rfl

theorem foldl_deliver (b : Broker) (m : Message) (paths : List String) :
    paths.foldl (fun b path => b.deliver path m) b =
      b.deliverAll (paths.map fun path => (path, m)) := by
  induction paths generalizing b with
  | nil => simp
  | cons path paths ih =>
    rw [List.foldl_cons, ih, deliver_eq, List.map_cons, ← deliverAll_append, List.singleton_append]

theorem route_eq (b : Broker) (entity : String) (m : Message) :
    b.route entity m = b.deliverAll (b.arrivals entity [m]) := by
  simp only [route, foldl_deliver, arrivals, List.flatMap_cons, List.flatMap_nil, List.append_nil]

theorem routeAll_eq (b : Broker) (entity : String) (ms : List Message) :
    b.routeAll entity ms = b.deliverAll (b.arrivals entity ms) := by
  induction ms generalizing b with
  | nil => simp [routeAll, arrivals]
  | cons m ms ih =>
    have hs : (b.route entity m).arrivals entity ms = b.arrivals entity ms := by
      rw [route_eq]
      exact arrivals_congr rfl _ _
    change (b.route entity m).routeAll entity ms = _
    rw [ih, hs, route_eq, ← deliverAll_append, ← arrivals_append, List.singleton_append]

theorem messages_pendingAt_deliverAll (b : Broker) (places : List (String × Message))
    (path : String) :
    ((b.deliverAll places).pendingAt path).map (·.message) =
      (b.pendingAt path).map (·.message) ++ (places.filter (·.1 == path)).map (·.2) := by
  simp only [pendingAt, deliverAll, List.filter_append, List.map_append, List.map_map,
    Function.comp_def, ← messages_stamped b.sequence b.locks]

def scheduledArrivals (b : Broker) (due : List Scheduled) : List (String × Message) :=
  due.flatMap fun s => b.arrivals s.entity [s.message]

theorem foldl_route (b : Broker) (due : List Scheduled) :
    due.foldl (fun b s => b.route s.entity s.message) b =
      b.deliverAll (b.scheduledArrivals due) := by
  induction due generalizing b with
  | nil => simp [scheduledArrivals]
  | cons s due ih =>
    have hs : (b.deliverAll (b.arrivals s.entity [s.message])).scheduledArrivals due =
        b.scheduledArrivals due := rfl
    rw [List.foldl_cons, ih, route_eq, hs, ← deliverAll_append]
    simp only [scheduledArrivals, List.flatMap_cons]

theorem deliverDue_eq (now : Int) (b : Broker) :
    b.deliverDue now =
      ({ b with scheduled := b.scheduled.filter (fun s => !decide (s.due ≤ now)) }).deliverAll
        (b.scheduledArrivals (b.scheduled.filter (·.due ≤ now))) := by
  simp only [deliverDue, List.partition_eq_filter_filter, foldl_route]
  rfl

end MessageBus.Broker
