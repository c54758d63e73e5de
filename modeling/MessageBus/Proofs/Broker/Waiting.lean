import Mathlib.Order.Bounds.Basic
import MessageBus.Broker.Waiting
import MessageBus.Proofs.Broker.Order

/-!
# Waiting without losing a message

A receiver sleeps only while nothing is pending for it: a request that wakes nobody brings nothing
to an empty queue or subscription. So it is awake at the first instant at which messages are there,
and it takes them then, whatever woke it in vain before.
-/

namespace MessageBus.Broker

/-- The first messages at the path were locked, and nothing else was touched. -/
structure Takes (path : String) (most : Nat) (before : Broker) (received : List Received)
    (after : Broker) : Prop where
  first : received = (before.pendingAt path).take most
  left : after.pendingAt path = (before.pendingAt path).drop most
  elsewhere : ∀ other ≠ path, after.pendingAt other = before.pendingAt other
  locked : after.inFlight = before.inFlight ++ received.map (path, ·)
  rest : after = { before with pending := after.pending, inFlight := after.inFlight }

theorem takes_receive (b : Broker) (path : String) (most : Nat) :
    Takes path most b (b.receive path most).1 (b.receive path most).2 where
  first := receive_received b path most
  left := receive_pendingAt b path most
  elsewhere := fun _ apart => congrArg (List.map Prod.snd) (takeFor_others apart most b.pending)
  locked := rfl
  rest := rfl

theorem receive_of_empty {b : Broker} {path : String} (empty : b.pendingAt path = [])
    (most : Nat) : b.receive path most = ([], b) := by
  have nothing := takeFor_of_absent (List.map_eq_nil_iff.mp empty) most
  simp only [receive, nothing, List.map_nil, List.append_nil]

theorem received_eq_nil_iff {b : Broker} {path : String} {most : Nat} (wanted : 1 ≤ most) :
    (b.receive path most).1 = [] ↔ b.pendingAt path = [] := by
  rw [receive_received, List.take_eq_nil_iff]
  exact or_iff_right (by omega)

def Effect.brings : Effect → Bool
  | .deliver _ | .abandon _ _ => true
  | _ => false

theorem Contents.pending_apply (c : Contents) {e : Effect} (quiet : e.brings = false) :
    (c.apply e).pending.Sublist c.pending := by
  cases e with
  | deliver places => cases quiet
  | abandon path entry => cases quiet
  | lock path most => exact takeFor_sublist path most c.pending
  | clear => exact List.nil_sublist _
  | _ => exact .refl _

theorem Contents.pending_foldl {es : List Effect} (quiet : ∀ e ∈ es, e.brings = false)
    (c : Contents) : (es.foldl apply c).pending.Sublist c.pending := by
  induction es generalizing c with
  | nil => exact .refl _
  | cons e es ih =>
    obtain ⟨first, others⟩ := List.forall_mem_cons.mp quiet
    exact (ih others _).trans (c.pending_apply first)

theorem brings_of_not_wakes {b : Broker} {q : Request} (quiet : b.wakes q = false) :
    ∀ e ∈ b.effects q, e.brings = false := by
  cases q with
  | enqueue path m => cases quiet
  | deliverDue now => cases quiet
  | sendBatch s batch =>
    rw [wakes, sendBatch_eq] at quiet
    rw [effects]
    cases problem : b.batchProblem? s batch with
    | some _ => exact List.forall_mem_nil _
    | none =>
      rw [problem] at quiet
      cases quiet
  | sendMessages s ms =>
    rw [wakes, sendMessages_eq] at quiet
    rw [effects]
    cases problem : b.sendProblem? s with
    | some _ => exact List.forall_mem_nil _
    | none =>
      rw [problem] at quiet
      cases quiet
  | abandon path r =>
    rw [wakes, abandon_eq] at quiet
    rw [effects]
    cases settled : b.settleable r with
    | error _ => exact List.forall_mem_nil _
    | ok entry =>
      rw [settled] at quiet
      cases quiet
  | complete path r => cases settled : b.settleable r <;> simp [effects, Effect.brings, settled]
  | deadLetter path r reason =>
    cases settled : b.settleable r <;> simp [effects, Effect.brings, settled]
  | schedule s ms due => cases problem : b.sendProblem? s <;> simp [effects, Effect.brings, problem]
  | cancelScheduled s numbers =>
    by_cases closed : s.id ∈ b.closed <;> simp [effects, Effect.brings, closed]
  | _ => simp [effects, Effect.brings]

theorem pending_of_not_wakes {b : Broker} {q : Request} (quiet : b.wakes q = false) :
    (b.perform q).pending.Sublist b.pending := by
  have kept := b.contents.pending_foldl (brings_of_not_wakes quiet)
  rwa [← contents_perform] at kept

theorem pendingAt_of_not_wakesAny {b : Broker} {requests : List Request} {path : String}
    (quiet : b.wakesAny requests = false) (empty : b.pendingAt path = []) :
    (b.run requests).pendingAt path = [] := by
  induction requests generalizing b with
  | nil => exact empty
  | cons q requests ih =>
    obtain ⟨first, others⟩ := Bool.or_eq_false_iff.mp quiet
    refine ih others (List.map_eq_nil_iff.mpr ?_)
    have kept := (pending_of_not_wakes first).filter (·.1 == path)
    rw [List.map_eq_nil_iff.mp empty] at kept
    exact List.sublist_nil.mp kept

def requestsUntil (time : Nat) (instants : List (Nat × List Request)) : List Request :=
  (instants.filter (·.1 ≤ time)).flatMap (·.2)

/-- The broker after all that others ask for through a time. -/
def through (b : Broker) (instants : List (Nat × List Request)) (time : Nat) : Broker :=
  b.run (requestsUntil time instants)

theorem through_of_later {instants : List (Nat × List Request)} {time : Nat}
    (later : ∀ entry ∈ instants, time < entry.1) (b : Broker) : b.through instants time = b := by
  have unreached : instants.filter (·.1 ≤ time) = [] :=
    List.filter_eq_nil_iff.mpr fun entry h => by simpa using later entry h
  rw [through, requestsUntil, unreached]
  rfl

theorem through_cons {instant time : Nat} (reached : instant ≤ time) (requests : List Request)
    (later : List (Nat × List Request)) (b : Broker) :
    b.through ((instant, requests) :: later) time = (b.run requests).through later time := by
  rw [through, requestsUntil, List.filter_cons_of_pos (by simpa using reached), List.flatMap_cons,
    run_append]
  rfl

section Instant

variable {time : Nat} (requests : List Request) {later : List (Nat × List Request)}
  (next : ∀ entry ∈ later, time < entry.1) (b : Broker)
include next

theorem through_before {earlier : Nat} (h : earlier < time) :
    b.through ((time, requests) :: later) earlier = b :=
  through_of_later (List.forall_mem_cons.mpr ⟨h, fun entry hentry => h.trans (next entry hentry)⟩) b

theorem through_instant : b.through ((time, requests) :: later) time = b.run requests := by
  rw [through_cons (Nat.le_refl _), through_of_later next]

end Instant

section Ending

variable {path : String} {most deadline : Nat} {others : Nat → Broker} {w : Wait}

/-- The times at which a wait may end, given the broker at each time. -/
def endings (path : String) (deadline : Nat) (others : Nat → Broker) : Set Nat :=
  {time | time = deadline ∨ time < deadline ∧ (others time).pendingAt path ≠ []}

/-- The wait has ended with a try as soon as there was something, or else at the deadline. -/
structure EndsAtFirst (path : String) (most deadline : Nat) (others : Nat → Broker)
    (w : Wait) : Prop where
  first : IsLeast (endings path deadline others) w.time
  tried : (w.received, w.broker) = (others w.time).receive path most
  timely : w.time = deadline → (others deadline).pendingAt path = []

theorem EndsAtFirst.takes (h : EndsAtFirst path most deadline others w) :
    Takes path most (others w.time) w.received w.broker := by
  have takes := takes_receive (others w.time) path most
  rwa [← h.tried] at takes

theorem EndsAtFirst.late (h : EndsAtFirst path most deadline others w) (late : w.time = deadline) :
    w.received = [] ∧ w.broker = others deadline := by
  have tried := h.tried
  rw [late, receive_of_empty (h.timely late)] at tried
  exact Prod.mk.inj tried

theorem EndsAtFirst.of_same {others' : Nat → Broker} (h : EndsAtFirst path most deadline others' w)
    (same : ∀ time, others time = others' time ∨ time < deadline ∧
      (others time).pendingAt path = [] ∧ (others' time).pendingAt path = []) :
    EndsAtFirst path most deadline others w := by
  have endings_eq : endings path deadline others = endings path deadline others' := by
    ext time
    rcases same time with same | ⟨_, empty, empty'⟩
    · simp only [endings, Set.mem_ofPred_eq, same]
    · simp only [endings, Set.mem_ofPred_eq, empty, empty']
  have at_end : others w.time = others' w.time := by
    refine (same w.time).resolve_right fun ⟨before, _, empty'⟩ => ?_
    rcases h.first.1 with ended | ⟨_, found⟩
    · omega
    · exact found empty'
  have at_deadline : others deadline = others' deadline :=
    (same deadline).resolve_right fun ⟨before, _⟩ => Nat.lt_irrefl _ before
  exact ⟨endings_eq ▸ h.first, at_end ▸ h.tried, at_deadline ▸ h.timely⟩

theorem lastTry_ends {b : Broker} (empty : b.pendingAt path = [])
    (still : ∀ time ≤ deadline, others time = b) (later : List (Nat × List Request)) :
    EndsAtFirst path most deadline others (lastTry path most deadline later b) where
  first := by
    refine ⟨.inl rfl, fun time ending => ?_⟩
    rcases ending with rfl | ⟨before, found⟩
    · exact Nat.le_refl _
    · rw [still time before.le] at found
      exact absurd empty found
  tried := congrArg (receive path most) (still deadline (Nat.le_refl _)).symm
  timely := fun _ => by rwa [still deadline (Nat.le_refl _)]

theorem found_ends {time : Nat} {received : List Received} {b : Broker} (before : time < deadline)
    (empty : ∀ earlier < time, (others earlier).pendingAt path = [])
    (found : (others time).pendingAt path ≠ [])
    (tried : (others time).receive path most = (received, b)) (later : List (Nat × List Request)) :
    EndsAtFirst path most deadline others ⟨time, received, b, later⟩ where
  first := by
    refine ⟨.inr ⟨before, found⟩, fun other ending => ?_⟩
    rcases ending with rfl | ⟨_, found⟩
    · exact before.le
    · exact Nat.le_of_not_lt fun earlier => found (empty other earlier)
  tried := tried.symm
  timely := fun late => absurd late before.ne

theorem EndsAtFirst.of_instant {time : Nat} {requests : List Request}
    {later : List (Nat × List Request)} {b : Broker} (before : time < deadline)
    (next : ∀ entry ∈ later, time < entry.1) (empty : b.pendingAt path = [])
    (still_empty : (b.run requests).pendingAt path = [])
    (h : EndsAtFirst path most deadline ((b.run requests).through later) w) :
    EndsAtFirst path most deadline (b.through ((time, requests) :: later)) w := by
  refine h.of_same fun t => ?_
  rcases Nat.lt_or_ge t time with earlier | reached
  · refine .inr ⟨earlier.trans before, ?_, ?_⟩
    · rwa [through_before requests next b earlier]
    · rwa [through_of_later fun entry hentry => earlier.trans (next entry hentry)]
  · exact .inl (through_cons reached requests later b)

end Ending

section Receiver

variable {path : String} {most deadline : Nat}

theorem sleep_ends (wanted : 1 ≤ most) {instants : List (Nat × List Request)}
    (increasing : instants.Pairwise (·.1 < ·.1)) (apart : ∀ entry ∈ instants, entry.1 ≠ deadline)
    {b : Broker} (empty : b.pendingAt path = []) :
    EndsAtFirst path most deadline (b.through instants) (sleep path most deadline instants b) := by
  induction instants generalizing b with
  | nil => exact lastTry_ends empty (fun _ _ => rfl) _
  | cons entry later ih =>
    obtain ⟨time, requests⟩ := entry
    obtain ⟨next, increasing⟩ := List.pairwise_cons.mp increasing
    obtain ⟨off, apart⟩ := List.forall_mem_cons.mp apart
    rw [sleep]
    split
    · next late =>
      have late : deadline < time := Nat.lt_of_le_of_ne late off.symm
      exact lastTry_ends empty (fun t h => through_before requests next b (h.trans_lt late)) _
    · next ahead =>
      have before : time < deadline := Nat.lt_of_not_le ahead
      split
      · split
        · next tried =>
          have still_empty : (b.run requests).pendingAt path = [] :=
            (received_eq_nil_iff wanted).mp (congrArg Prod.fst tried)
          rw [receive_of_empty still_empty] at tried
          obtain rfl := congrArg Prod.snd tried
          exact (ih increasing apart still_empty).of_instant before next empty still_empty
        · next received left nonempty tried =>
          have found : (b.run requests).pendingAt path ≠ [] := fun still_empty => by
            rw [receive_of_empty still_empty] at tried
            exact nonempty (congrArg Prod.fst tried).symm
          rw [← through_instant requests next] at found tried
          refine found_ends before (fun earlier h => ?_) found tried later
          rwa [through_before requests next b h]
      · next asleep =>
        have still_empty : (b.run requests).pendingAt path = [] :=
          pendingAt_of_not_wakesAny (Bool.eq_false_iff.mpr asleep) empty
        exact (ih increasing apart still_empty).of_instant before next empty still_empty

variable (wanted : 1 ≤ most) {b : Broker} (others : Timeline)
include wanted

theorem receiveWaiting_of_found (found : b.pendingAt path ≠ []) :
    (b.receiveWaiting path most deadline others).time = 0 ∧
      Takes path most b (b.receiveWaiting path most deadline others).received
        (b.receiveWaiting path most deadline others).broker := by
  rw [receiveWaiting]
  split
  · next tried => exact absurd ((received_eq_nil_iff wanted).mp (congrArg Prod.fst tried)) found
  · next received left _ tried =>
    have takes := takes_receive b path most
    rw [tried] at takes
    exact ⟨rfl, takes⟩

theorem receiveWaiting_of_empty (empty : b.pendingAt path = [])
    (apart : ∀ entry ∈ others.instants, entry.1 ≠ deadline) :
    EndsAtFirst path most deadline (b.through others.instants)
      (b.receiveWaiting path most deadline others) := by
  rw [receiveWaiting, receive_of_empty empty]
  dsimp only
  split
  · next immediate =>
    subst immediate
    have still : ∀ time ≤ 0, b.through others.instants time = b := fun time h =>
      through_of_later (fun entry hentry => by have := apart entry hentry; omega) b
    have ends : EndsAtFirst path most 0 (b.through others.instants)
        (lastTry path most 0 others.instants b) := lastTry_ends empty still _
    rwa [lastTry, receive_of_empty empty] at ends
  · exact sleep_ends wanted others.increasing apart empty

end Receiver

/-- A wait ends at the first instant at which something is pending, with the first messages of
then. If there is none, it ends at the deadline with nothing. -/
theorem wait_ends_at_first {most : Nat} (wanted : 1 ≤ most) (path : String) (deadline : Nat)
    (others : Timeline) (apart : ∀ entry ∈ others.instants, entry.1 ≠ deadline) (b : Broker) :
    let w := b.receiveWaiting path most deadline others
    (b.pendingAt path ≠ [] → w.time = 0 ∧ Takes path most b w.received w.broker) ∧
    (b.pendingAt path = [] →
      IsLeast (endings path deadline (b.through others.instants)) w.time ∧
      Takes path most (b.through others.instants w.time) w.received w.broker ∧
      (w.time = deadline → w.received = [] ∧ w.broker = b.through others.instants deadline)) := by
  refine ⟨receiveWaiting_of_found wanted others, fun empty => ?_⟩
  have ends := receiveWaiting_of_empty wanted others empty apart
  exact ⟨ends.first, ends.takes, ends.late⟩

/-- A receiver of "orders" is woken in vain by a message for "audit", and by one that another
receiver takes in the same instant. Two more come then, and one of them ends the wait. -/
theorem wait_ends_at_second_order :
    let others : Timeline :=
      { instants := [(10, [.enqueue "audit" { id := "a1" }]),
          (20, [.enqueue "orders" { id := "m1" }, .receive "orders" 1]),
          (30, [.enqueue "orders" { id := "m2" }, .enqueue "orders" { id := "m3" }])]
        increasing := by decide }
    let b := start 1000
    let w := b.receiveWaiting "orders" 1 50 others
    (∀ entry ∈ others.instants, entry.1 ≠ 50) ∧ b.pendingAt "orders" = [] ∧
      w.time = 30 ∧ w.received.map (·.message.id) = ["m2"] ∧
      IsLeast (endings "orders" 50 (b.through others.instants)) w.time ∧
      Takes "orders" 1 (b.through others.instants 30) w.received w.broker := by
  intro others b w
  have apart : ∀ entry ∈ others.instants, entry.1 ≠ 50 := by decide
  have time : w.time = 30 := by decide +kernel
  obtain ⟨first, takes, -⟩ := (wait_ends_at_first (Nat.le_refl 1) "orders" 50 others apart b).2 rfl
  exact ⟨apart, rfl, time, by decide +kernel, first, time ▸ takes⟩

end MessageBus.Broker
