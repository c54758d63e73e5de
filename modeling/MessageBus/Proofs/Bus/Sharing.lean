import MessageBus.Proofs.Bus.Notes
import MessageBus.Proofs.Bus.Registrations
import MessageBus.Proofs.Bus.Rerouting
import MessageBus.Proofs.Isolation

/-!
# Isolated instances that share a queue

Several isolated instances lock messages of one queue and process them, in any order of turns. A
message is handled by its own instance only. Until then it is handed around: whoever gets hold of it
completes it and sends a copy back, so it is never lost and never there twice.
-/

namespace MessageBus

open Broker (ClosesMade Contents start)
open Outcome World

/-- The messages that are locked or wait, each with its entity. -/
def Broker.carried (b : Broker) : List (String × Message) :=
  b.contents.live.map fun e => (e.1, e.2.message)

/-- Instances that receive from one queue, each under an id of its own for it. -/
structure Site (ι : Type) where
  queue : String
  bus : ι → Bus
  resourceId : ι → String

/-- The broker of all instances, what each has for itself, and the messages that instances have
locked and not processed yet. -/
structure Shared (ι : Type) where
  broker : Broker
  own : ι → World Unit
  held : List (ι × Received) := []

/-- An instance locks messages, or a locked message is processed by the one that holds it. -/
inductive Turn (ι : Type)
  | lock (i : ι) (most : Nat)
  | process (position : Nat) (cancelled : Bool)

namespace World

def on (w : World Unit) (b : Broker) (cancelled : Bool) : World Broker :=
  ⟨b, w.ids, w.temporaries, cancelled, w.trace⟩

def apart (w : World Broker) : World Unit := ⟨(), w.ids, w.temporaries, w.cancelled, w.trace⟩

end World

namespace Site

variable {ι : Type}

def arrival (site : Site ι) (i : ι) (r : Received) : Arrival where
  kind := .queue
  resourceId := site.resourceId i
  message := r
  entity := site.queue

def processed (site : Site ι) (s : Shared ι) (i : ι) (r : Received) (cancelled : Bool) :
    World Broker :=
  ((site.bus i).process Broker.transport (site.arrival i r) ((s.own i).on s.broker cancelled)).2

def turn [DecidableEq ι] (site : Site ι) (s : Shared ι) : Turn ι → Shared ι
  | .lock i most =>
    let (received, broker) := s.broker.receive site.queue most
    { s with broker := broker, held := s.held ++ received.map (i, ·) }
  | .process position cancelled =>
    match s.held[position]? with
    | none => s
    | some (i, r) =>
      let after := site.processed s i r cancelled
      { broker := after.transport
        own := Function.update s.own i after.apart
        held := s.held.eraseIdx position }

def run [DecidableEq ι] (site : Site ι) (s : Shared ι) (turns : List (Turn ι)) : Shared ι :=
  turns.foldl site.turn s

/-- Each instance handles only the messages with its key, receives from the queue, and has handlers
that publish nothing. -/
structure Isolated (site : Site ι) (key : ι → Option String) : Prop where
  composed : ∀ i, (site.bus i).Composed
  behavior : ∀ i, (site.bus i).settings.isolation.behavior = .handleIsolated
  keyed : ∀ i, (site.bus i).settings.isolation.key = key i
  receives : ∀ i, ∃ r ∈ (site.bus i).receptions.registrations, r.resource.kind = .queue ∧
    r.resource.entity = site.queue ∧ r.resource.id = site.resourceId i
  silent : ∀ i, ∀ r ∈ (site.bus i).receptions.registrations, ∀ payload ctx,
    (r.handler.run payload ctx).publications = []

/-- A handler of the instance leaves the note on a message with this key. -/
def Notes (site : Site ι) (key : Option String) (i : ι) (value : Json) : Prop :=
  ∃ r ∈ (site.bus i).receptions.registrations, ∃ payload ctx,
    ctx.message.message.isolationKey? = key ∧ .note value ∈ (r.handler.run payload ctx).effects

/-- No failure is injected, no subscription turns the queue into a topic, and all senders of the
instances are open. -/
structure Ready (site : Site ι) (b : Broker) : Prop where
  tokens : b.contents.TokensDistinct
  unmade : ∀ n ∈ b.closed, n < b.senders
  sendable : site.queue ∉ b.failing
  settling : b.failSettlement = false
  no_topic : b.subscriptionsOf site.queue = []
  senders : ∀ i, ∀ s ∈ (site.bus i).directory.senders,
    s.sender.id < b.senders ∧ s.sender.id ∉ b.closed

variable {site : Site ι} {key : ι → Option String}

theorem Isolated.accepts_iff (isolated : site.Isolated key) (i : ι) (k : Option String) :
    (site.bus i).settings.isolation.accepts k = true ↔ k = key i := by
  rw [Isolation.accepts_iff_of_isolated (isolated.behavior i), isolated.keyed i, eq_comm]

theorem Isolated.refuses (isolated : site.Isolated key) {i : ι} {k : Option String}
    (foreign : k ≠ key i) : (site.bus i).settings.isolation.accepts k = false :=
  Bool.eq_false_iff.mpr (mt (isolated.accepts_iff i k).mp foreign)

/-- A broker stays ready as long as its switches and subscriptions stay, and if at most one sender
was made, which is closed. -/
theorem Ready.later {b after : Broker} (h : site.Ready b) (tokens : after.contents.TokensDistinct)
    (failing : after.failing = b.failing) (settling : after.failSettlement = b.failSettlement)
    (subscriptions : after.subscriptions = b.subscriptions)
    (senders : (after.senders = b.senders ∧ after.closed = b.closed) ∨
      after.senders = b.senders + 1 ∧ after.closed = b.senders :: b.closed) :
    site.Ready after where
  tokens := tokens
  sendable := failing ▸ h.sendable
  settling := settling.trans h.settling
  no_topic := by
    rw [Broker.subscriptionsOf, subscriptions]
    exact h.no_topic
  unmade := by
    rcases senders with ⟨made, closed⟩ | ⟨made, closed⟩ <;> rw [made, closed]
    · exact h.unmade
    · intro n hn
      rcases List.mem_cons.mp hn with rfl | hn
      · exact Nat.lt_succ_self _
      · exact Nat.lt_succ_of_lt (h.unmade n hn)
  senders := by
    intro j s hs
    obtain ⟨before, opened⟩ := h.senders j s hs
    rcases senders with ⟨made, closed⟩ | ⟨made, closed⟩ <;> rw [made, closed]
    · exact ⟨before, opened⟩
    · exact ⟨Nat.lt_succ_of_lt before,
        List.not_mem_cons_of_ne_of_not_mem (Nat.ne_of_lt before) opened⟩

theorem Ready.receive {b : Broker} (h : site.Ready b) (most : Nat) :
    site.Ready (b.receive site.queue most).2 :=
  h.later (h.tokens.apply (.lock site.queue most)) rfl rfl rfl (.inl ⟨rfl, rfl⟩)

theorem carried_receive (b : Broker) (path : String) (most : Nat) :
    (b.receive path most).2.carried.Perm b.carried := by
  refine List.Perm.map _ ?_
  change (b.inFlight ++ (Broker.takeFor path most b.pending).1.map (path, ·) ++
    (Broker.takeFor path most b.pending).2).Perm (b.inFlight ++ b.pending)
  rw [List.append_assoc]
  exact (Broker.takeFor_perm path most b.pending).append_left _

section Processing

variable (isolated : site.Isolated key) {s : Shared ι} {i : ι} {r : Received} (cancelled : Bool)
include isolated

theorem processed_own (own : r.message.isolationKey? = key i) :
    let after := site.processed s i r cancelled
    after.transport = s.broker ∧ after.temporaries = (s.own i).temporaries ∧
      ∀ value ∈ noted after.trace, value ∈ noted (s.own i).trace ∨ site.Notes (key i) i value := by
  intro after
  let a := site.arrival i r
  let w := (s.own i).on s.broker cancelled
  have accepted : (site.bus i).settings.isolation.accepts a.message.message.isolationKey? = true :=
    (isolated.accepts_iff i _).mpr own
  have registered (run : HandlerRun)
      (h : (site.bus i).handlerRun? Broker.transport a w = some run) :
      ∃ r' ∈ (site.bus i).receptions.registrations, ∃ payload,
        r'.handler.run payload ⟨a.kind, a.resourceId, a.message, isCancelled Broker.transport w⟩ =
          run := by
    obtain ⟨_, r', payload, -, found, -, ran⟩ := (Bus.handlerRun?_eq_some_iff ..).mp h
    exact ⟨r', (isolated.composed i).registered found, payload, ran⟩
  obtain ⟨cancelled', trace, same⟩ := Bus.process_of_silent (w := w) accepted fun run h => by
    obtain ⟨r', hr', payload, rfl⟩ := registered run h
    exact isolated.silent i r' hr' payload _
  have changed : after = { w with cancelled := cancelled', trace := trace } := same
  refine ⟨by rw [changed]; rfl, by rw [changed]; rfl, fun value hvalue => ?_⟩
  have notes : noted after.trace = _ := Bus.noted_process (w := w) accepted
  rw [notes, List.mem_append] at hvalue
  refine hvalue.imp id fun hvalue => ?_
  cases ran : (site.bus i).handlerRun? Broker.transport a w with
  | none =>
    rw [ran] at hvalue
    cases hvalue
  | some run =>
    rw [ran] at hvalue
    obtain ⟨r', hr', payload, rfl⟩ := registered run ran
    exact ⟨r', hr', payload, _, own, mem_noted_notes.mp hvalue⟩

theorem source_arrival : ((site.bus i).source (site.arrival i r)).rerouteTarget.kind = .queue ∧
    ((site.bus i).source (site.arrival i r)).rerouteTarget.entity = site.queue := by
  obtain ⟨registered, hr, kind, entity, name⟩ := isolated.receives i
  have known := (isolated.composed i).receiver hr
  rw [kind, name] at known
  have source : (site.bus i).source (site.arrival i r) = registered.resource := by
    rw [Bus.source]
    exact congrArg (Option.getD · _) known
  obtain ⟨target_kind, target_entity, -⟩ := registered.resource.rerouteTarget_eq
  rw [source, target_kind, target_entity, kind, entity]
  exact ⟨rfl, rfl⟩

theorem processed_foreign (ready : site.Ready s.broker)
    (no_temporaries : (s.own i).temporaries = []) (held : (site.queue, r) ∈ s.broker.inFlight)
    (foreign : r.message.isolationKey? ≠ key i) :
    let after := site.processed s i r cancelled
    after.transport.contents =
        (s.broker.contents.apply (.complete (site.queue, r))).apply
          (.deliver [(site.queue, r.message)]) ∧
      site.Ready after.transport ∧ after.temporaries = [] ∧
      noted after.trace = noted (s.own i).trace := by
  intro after
  let a := site.arrival i r
  let w := (s.own i).on s.broker cancelled
  let b := s.broker
  obtain ⟨-, entity⟩ := source_arrival isolated (i := i) (r := r)
  generalize htarget : ((site.bus i).source a).rerouteTarget = target at entity
  have refused : (site.bus i).settings.isolation.accepts a.message.message.isolationKey? = false :=
    isolated.refuses foreign
  have unmade : b.senders ∉ b.closed := fun h => Nat.lt_irrefl _ (ready.unmade _ h)
  have fresh : w.ids.next.1 ∉ w.temporaries.map (·.1) := by
    change _ ∉ (s.own i).temporaries.map (·.1)
    rw [no_temporaries]
    exact List.not_mem_nil
  have completes : b.Completes r := ⟨ready.settling, List.mem_map_of_mem held⟩
  have resends : (site.bus i).Resends b target := by
    refine ⟨entity ▸ ready.sendable, fun found hfound => ?_⟩
    exact (ready.senders i found (List.mem_of_find?_eq_some hfound)).2
  obtain ⟨first, second, ids, trace, rerouted, -, -⟩ :=
    Bus.reroute_apply (isolated.composed i) a (w := w) unmade fresh
  rw [htarget] at rerouted
  have processed : after = ((site.bus i).reroute Broker.transport a w).2 :=
    congrArg Prod.snd (Bus.process_foreign refused Broker.transport w)
  have result : after = _ := processed.trans (congrArg Prod.snd rerouted)
  have broker : after.transport = _ :=
    (congrArg World.transport result).trans ((site.bus i).resent_completed a b target r.message)
  have completes' : b.Completes a.message := completes
  rw [if_pos completes', if_pos resends, if_pos completes', Broker.route_eq, entity,
    Broker.arrivals_queue ready.no_topic] at broker
  have contents : after.transport.contents =
      (b.contents.apply (.complete (site.queue, r))).apply
        (.deliver [(site.queue, r.message)]) := by
    rw [broker]
    rfl
  have tokens : after.transport.contents.TokensDistinct := by
    rw [contents]
    exact (ready.tokens.apply _).apply _
  have senders : (after.transport.senders = b.senders ∧ after.transport.closed = b.closed) ∨
      after.transport.senders = b.senders + 1 ∧
        after.transport.closed = b.senders :: b.closed := by
    rw [broker]
    cases (site.bus i).senderFor target with
    | some registered => exact .inl ⟨rfl, rfl⟩
    | none => exact .inr ⟨rfl, rfl⟩
  refine ⟨contents, ready.later tokens ?_ ?_ ?_ senders, ?_, Bus.noted_of_foreign (w := w) refused⟩
  · rw [broker]
    rfl
  · rw [broker]
    rfl
  · rw [broker]
    rfl
  · rw [result]
    exact no_temporaries

end Processing

theorem carried_of_sent_back {b b' : Broker} (tokens : b.contents.TokensDistinct) {queue : String}
    {r : Received} (held : (queue, r) ∈ b.inFlight)
    (sent_back : b'.contents =
      (b.contents.apply (.complete (queue, r))).apply (.deliver [(queue, r.message)])) :
    b'.carried.Perm b.carried := by
  let place (e : String × Received) : String × Message := (e.1, e.2.message)
  let others := b.inFlight.filter (·.2.lockToken != r.lockToken)
  have unlocked : b.inFlight.Perm ((queue, r) :: others) :=
    perm_cons_filter_key tokens.inFlight held
  have after : b'.carried = (others ++ b.pending).map place ++ [(queue, r.message)] := by
    rw [Broker.carried, sent_back]
    simp only [Contents.live, Contents.apply, Contents.unlock, List.map_append,
      List.append_assoc]
    rfl
  have before : b.carried.Perm ((queue, r.message) :: (others ++ b.pending).map place) :=
    ((unlocked.append_right b.pending).map place)
  rw [after]
  exact (List.perm_append_singleton ..).trans before.symm

/-- What holds after any turns that began at a broker like the first one. -/
structure Sound (site : Site ι) (key : ι → Option String) (first : Broker) (s : Shared ι) :
    Prop where
  ready : site.Ready s.broker
  no_temporaries : ∀ i, (s.own i).temporaries = []
  locked : (s.held.map fun e => (site.queue, e.2)).Subperm s.broker.inFlight
  notes : ∀ i, ∀ value ∈ noted (s.own i).trace, site.Notes (key i) i value
  conserved : s.broker.carried.Perm first.carried

variable [DecidableEq ι]

theorem Sound.lock {first : Broker} {s : Shared ι} (h : site.Sound key first s) (i : ι)
    (most : Nat) : site.Sound key first (site.turn s (.lock i most)) where
  ready := h.ready.receive most
  no_temporaries := h.no_temporaries
  locked := by
    simp only [turn, List.map_append, List.map_map]
    exact (List.subperm_append_right _).mpr h.locked
  notes := h.notes
  conserved := (carried_receive ..).trans h.conserved

/-- One instance has processed a message, and only its own things have changed. -/
theorem Sound.after {first : Broker} {s : Shared ι} (h : site.Sound key first s) {i : ι}
    {after : World Broker} {held : List (ι × Received)} (ready : site.Ready after.transport)
    (no_temporaries : after.temporaries = [])
    (locked : (held.map fun e => (site.queue, e.2)).Subperm after.transport.inFlight)
    (notes : ∀ value ∈ noted after.trace,
      value ∈ noted (s.own i).trace ∨ site.Notes (key i) i value)
    (conserved : after.transport.carried.Perm s.broker.carried) :
    site.Sound key first ⟨after.transport, Function.update s.own i after.apart, held⟩ where
  ready := ready
  no_temporaries := by
    intro j
    by_cases same : j = i
    · subst same
      simpa [apart] using no_temporaries
    · simpa [same] using h.no_temporaries j
  locked := locked
  notes := by
    intro j value hvalue
    change value ∈ noted (Function.update s.own i after.apart j).trace at hvalue
    by_cases same : j = i
    · subst same
      rw [Function.update_self] at hvalue
      exact (notes value hvalue).elim (h.notes j value) id
    · rw [Function.update_of_ne same] at hvalue
      exact h.notes j value hvalue
  conserved := conserved.trans h.conserved

theorem Sound.process (isolated : site.Isolated key) {first : Broker} {s : Shared ι}
    (h : site.Sound key first s) (position : Nat) (cancelled : Bool) :
    site.Sound key first (site.turn s (.process position cancelled)) := by
  cases found : s.held[position]? with
  | none =>
    simp only [turn, found]
    exact h
  | some holding =>
    obtain ⟨i, r⟩ := holding
    simp only [turn, found]
    obtain ⟨short, at_position⟩ := List.getElem?_eq_some_iff.mp found
    have rest : s.held.Perm ((i, r) :: s.held.eraseIdx position) :=
      at_position ▸ (List.getElem_cons_eraseIdx_perm short).symm
    have locked := (rest.map fun e => (site.queue, e.2)).symm.subperm.trans h.locked
    rw [List.map_cons] at locked
    have held : (site.queue, r) ∈ s.broker.inFlight := locked.subset (List.mem_cons_self ..)
    by_cases own : r.message.isolationKey? = key i
    · -- The message stays locked, but it is not there to be processed any more.
      obtain ⟨broker, temporaries, notes⟩ := processed_own isolated (s := s) cancelled own
      refine h.after ?_ (temporaries.trans (h.no_temporaries i)) ?_ notes ?_ <;> rw [broker]
      · exact h.ready
      · exact (List.sublist_cons_self ..).subperm.trans locked
    · obtain ⟨contents, ready, temporaries, notes⟩ :=
        processed_foreign isolated cancelled h.ready (h.no_temporaries i) held own
      refine h.after ready temporaries ?_ (fun value hvalue => .inl (notes ▸ hvalue))
        (carried_of_sent_back h.ready.tokens held contents)
      have unlocked := perm_cons_filter_key h.ready.tokens.inFlight held
      have left := congrArg Contents.inFlight contents
      change _ = s.broker.inFlight.filter (·.2.lockToken != r.lockToken) at left
      change List.Subperm _ (site.processed s i r cancelled).transport.contents.inFlight
      rw [left]
      exact List.subperm_cons _ |>.mp (locked.trans unlocked.subperm)

theorem Sound.run (isolated : site.Isolated key) {first : Broker} {s : Shared ι}
    (h : site.Sound key first s) (turns : List (Turn ι)) :
    site.Sound key first (site.run s turns) := by
  induction turns generalizing s with
  | nil => exact h
  | cons t rest ih =>
    refine ih ?_
    cases t with
    | lock i most => exact h.lock i most
    | process position cancelled => exact h.process isolated position cancelled

/-- What there is before the first turn: a queue with any content and instances that have left no
notes yet. -/
structure Opening (site : Site ι) (s : Shared ι) : Prop where
  reached : ∃ maxBatchSize requests, ClosesMade maxBatchSize requests ∧
    s.broker = (start maxBatchSize).run requests
  sendable : site.queue ∉ s.broker.failing
  settling : s.broker.failSettlement = false
  no_topic : s.broker.subscriptionsOf site.queue = []
  senders : ∀ i, ∀ r ∈ (site.bus i).directory.senders,
    r.sender.id < s.broker.senders ∧ r.sender.id ∉ s.broker.closed
  no_temporaries : ∀ i, (s.own i).temporaries = []
  no_notes : ∀ i, ∀ value, .note value ∉ (s.own i).trace
  none_held : s.held = []

omit [DecidableEq ι] in
theorem Opening.sound {s : Shared ι} (h : site.Opening s) : site.Sound key s.broker s := by
  obtain ⟨maxBatchSize, requests, made, reached⟩ := h.reached
  refine ⟨?_, h.no_temporaries, ?_, ?_, .refl _⟩
  · refine ⟨?_, ?_, h.sendable, h.settling, h.no_topic, h.senders⟩
    · rw [reached]
      exact (Broker.account_sound maxBatchSize requests).tokens
    · rw [reached]
      exact Broker.closed_lt_senders made
  · rw [h.none_held]
    exact List.nil_subperm
  · intro i value hvalue
    exact absurd (mem_noted.mp hvalue) (h.no_notes i value)

/-- After any turns of any instances, the handlers of an instance have left notes only on messages
with its key, and the messages that are locked or wait are those that there were at first. An
instance does not even look for a handler of a message with another key. -/
theorem run_isolated (isolated : site.Isolated key) {s : Shared ι} (opening : site.Opening s)
    (turns : List (Turn ι)) :
    let after := site.run s turns
    (∀ i, ∀ value, .note value ∈ (after.own i).trace →
      ∃ r ∈ (site.bus i).receptions.registrations, ∃ payload ctx,
        ctx.message.message.isolationKey? = key i ∧
          .note value ∈ (r.handler.run payload ctx).effects) ∧
      (∀ i a w receptions, a.message.message.isolationKey? ≠ key i →
        { site.bus i with receptions := receptions }.process Broker.transport a w =
          (site.bus i).process Broker.transport a w) ∧
      after.broker.carried.Perm s.broker.carried := by
  intro after
  have sound : site.Sound key s.broker after := opening.sound.run isolated turns
  refine ⟨fun i value h => sound.notes i value (mem_noted.mpr h),
    fun i a w receptions foreign => ?_, sound.conserved⟩
  let other : Bus := { site.bus i with receptions := receptions }
  have refused := isolated.refuses foreign
  have refused' : other.settings.isolation.accepts a.message.message.isolationKey? = false :=
    refused
  rw [Bus.process_foreign refused]
  exact Bus.process_foreign refused' Broker.transport w

-- Two instances, and a message of the second one that the first one gets hold of.

def clerk : Handler := ⟨{ name := "Desk" }, fun _ _ => ⟨[.note (.text "seen")], .ok ()⟩⟩

def declared : List Declaration :=
  [.serializer Bus.blank, .receive Bus.slip (.queue "orders") none clerk]

def branch (key : String) : Bus where
  settings := { isolation := .isolated key }
  receptions := .insert {} ⟨.queue "orders", Bus.slip, "slip", Bus.blank, clerk⟩
  directory := { receivers := [.queue "orders"] }

def branchKey : Bool → String
  | true => "red"
  | false => "blue"

def branches : Site Bool := ⟨"orders", fun i => branch (branchKey i), fun _ => "orders"⟩

theorem branches_isolated : branches.Isolated fun i => some (branchKey i) where
  composed := by
    intro i
    cases i with
    | true =>
      exact ⟨{ isolation := .isolated "red" }, .inOrder, declared, { transport := {} }, _, by rfl⟩
    | false =>
      exact ⟨{ isolation := .isolated "blue" }, .inOrder, declared, { transport := {} }, _, by rfl⟩
  behavior := fun _ => rfl
  keyed := fun _ => rfl
  receives := fun _ => ⟨_, List.mem_singleton_self _, rfl, rfl, rfl⟩
  silent := by
    intro i r hr payload ctx
    rw [List.mem_singleton.mp hr]
    rfl

def ordered : Message where
  id := "m1"
  properties := [(Property.isolationKey, .text "blue"), (Property.payloadTypeId, .text "slip")]

def morning : Shared Bool where
  broker := (start 1000).run [.enqueue "orders" ordered]
  own := fun _ => { transport := () }

theorem run_isolated_of_branches :
    let after := branches.run morning
      [.lock true 1, .process 0 false, .lock false 1, .process 0 false]
    branches.Isolated (fun i => some (branchKey i)) ∧ branches.Opening morning ∧
      noted (after.own true).trace = [] ∧ (noted (after.own false).trace).length = 1 ∧
      after.broker.carried.Perm morning.broker.carried := by
  intro after
  have opening : branches.Opening morning := by
    constructor
    case reached =>
      refine ⟨1000, [.enqueue "orders" ordered], ?_, rfl⟩
      intro earlier r h
      have closed := h.subset (List.mem_append_right earlier (List.mem_singleton.mpr rfl))
      simp at closed
    case sendable => exact List.not_mem_nil
    case settling => rfl
    case no_topic => rfl
    case senders => exact fun _ _ h => nomatch h
    case no_temporaries => exact fun _ => rfl
    case no_notes => exact fun _ _ => List.not_mem_nil
    case none_held => rfl
  obtain ⟨-, -, carried⟩ := run_isolated branches_isolated opening
    [.lock true 1, .process 0 false, .lock false 1, .process 0 false]
  have passed : (noted (after.own true).trace).length = 0 := by decide +kernel
  have handled : (noted (after.own false).trace).length = 1 := by decide +kernel
  exact ⟨branches_isolated, opening, List.length_eq_zero_iff.mp passed, handled, carried⟩

end Site

end MessageBus
