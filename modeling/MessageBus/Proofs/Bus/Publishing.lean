import MessageBus.Broker.Receiving
import MessageBus.Proofs.Bus.Registrations
import MessageBus.Proofs.Bus.Grouping
import MessageBus.Proofs.Bus.Packing
import MessageBus.Proofs.Outgoing

/-!
# Publishing

What sending dispatches does to the broker. A group is routed as a whole or refused as a whole, and
whether it is refused does not depend on the groups before it, since sending changes neither what is
closed or failing nor how large batches are.
-/

namespace MessageBus

/-- The broker after these calls, which delivered these messages. -/
def Broker.sent (b : Broker) (calls : List Operation) (places : List (String × Message)) : Broker :=
  ({ b with operations := b.operations ++ calls }).deliverAll places

theorem Broker.sent_nil (b : Broker) : b.sent [] [] = b := by
  simp [sent]

@[simp] theorem Broker.arrivals_sent (b : Broker) (calls : List Operation)
    (places : List (String × Message)) (entity : String) (ms : List Message) :
    (b.sent calls places).arrivals entity ms = b.arrivals entity ms := rfl

theorem Broker.sent_sent (b : Broker) (calls calls' : List Operation)
    (places places' : List (String × Message)) :
    (b.sent calls places).sent calls' places' = b.sent (calls ++ calls') (places ++ places') := by
  rw [sent, sent, sent, deliverAll_append, ← List.append_assoc]
  rfl

theorem Broker.messages_pendingAt_sent (b : Broker) (calls : List Operation)
    (places : List (String × Message)) (path : String) :
    ((b.sent calls places).pendingAt path).map (·.message) =
      (b.pendingAt path).map (·.message) ++ (places.filter (·.1 == path)).map (·.2) :=
  messages_pendingAt_deliverAll { b with operations := b.operations ++ calls } places path

namespace Bus

open Outcome

def limit (bus : Bus) (b : Broker) : Nat := b.batchLimit bus.settings.maxBatchSize

theorem limit_eq (bus : Bus) (b : Broker) :
    b.batchLimit bus.settings.maxBatchSize = bus.limit b := rfl

def refusal? (bus : Bus) (cancelled : Bool) (b : Broker) (g : Group) : Option DispatchError :=
  if cancelled then some .cancelled
  else if g.sender.id ∈ b.closed then
    some (.transport g.resourceId (Broker.closedProblem g.sender))
  else
    match g.messages.find? (bus.limit b < ·.size) with
    | some m => some (.messageTooLarge m.id g.resourceId m.size (bus.limit b))
    | none =>
      if g.sender.entity ∈ b.failing then
        some (.transport g.resourceId (Broker.refusedProblem g.sender.entity))
      else none

def batches (bus : Bus) (b : Broker) (g : Group) : List Batch :=
  Batch.pack (bus.limit b) (.sized (bus.limit b)) g.messages

theorem batches_within {bus : Bus} {b : Broker} {g : Group}
    (small : ∀ m ∈ g.messages, m.size ≤ bus.limit b) :
    ∀ batch ∈ bus.batches b g, batch.Within (bus.limit b) :=
  Batch.pack_within (Batch.within_sized _) small

def batchCalls (g : Group) (batches : List Batch) : List Operation :=
  batches.map fun batch => .sendBatch g.sender.entity (Broker.ids batch.messages)

def calls (bus : Bus) (b : Broker) (g : Group) : List Operation :=
  batchCalls g (bus.batches b g)

def routed (bus : Bus) (cancelled : Bool) (b : Broker) (groups : List Group) : List Group :=
  groups.filter fun g => (bus.refusal? cancelled b g).isNone

def delivered (bus : Bus) (cancelled : Bool) (b : Broker) (groups : List Group) : Broker :=
  b.sent ((bus.routed cancelled b groups).flatMap (bus.calls b))
    ((bus.routed cancelled b groups).flatMap fun g => b.arrivals g.sender.entity g.messages)

/-- The answer to sending groups: the error of the first one that is refused. -/
def answer (bus : Bus) (cancelled : Bool) (b : Broker) (groups : List Group) :
    Except DispatchError Unit :=
  match groups.findSome? (bus.refusal? cancelled b) with
  | some problem => .error problem
  | none => .ok ()

theorem refusal?_eq_none_iff (bus : Bus) (cancelled : Bool) (b : Broker) (g : Group) :
    bus.refusal? cancelled b g = none ↔
      cancelled = false ∧ g.sender.id ∉ b.closed ∧ g.sender.entity ∉ b.failing ∧
        ∀ m ∈ g.messages, m.size ≤ bus.limit b := by
  have small : g.messages.find? (bus.limit b < ·.size) = none ↔
      ∀ m ∈ g.messages, m.size ≤ bus.limit b := by
    simp
  rw [← small]
  cases cancelled with
  | true => simp [refusal?]
  | false =>
    by_cases hc : g.sender.id ∈ b.closed
    · simp [refusal?, hc]
    · cases hf : g.messages.find? (bus.limit b < ·.size) <;> simp [refusal?, hc, hf]

theorem checkCancelled_of_going {w : World Broker} (going : w.cancelled = false) :
    checkCancelled Broker.transport w = (.ok (), w) := by
  simp [checkCancelled, bind_apply, World.isCancelled, Broker.transport, going]

theorem checkCancelled_of_cancelled {w : World Broker} (cancelled : w.cancelled = true) :
    checkCancelled Broker.transport w = (.error .cancelled, w) := by
  simp [checkCancelled, bind_apply, World.isCancelled, cancelled]

theorem raising_sendBatch_eq (g : Group) (batch : Batch) (w : World Broker) {n : Nat}
    (sized : batch.capacity = .size n) (opened : g.sender.id ∉ w.transport.closed) :
    World.raising (DispatchError.transport g.resourceId)
        (World.call (Broker.transport.sendBatch g.sender batch)) w =
      if g.sender.entity ∈ w.transport.failing then
        (.error (.transport g.resourceId (Broker.refusedProblem g.sender.entity)), w)
      else
        (.ok (), { w with
          transport := w.transport.sent (batchCalls g [batch])
            (w.transport.arrivals g.sender.entity batch.messages) }) := by
  have hproblem : w.transport.batchProblem? g.sender batch =
      if g.sender.entity ∈ w.transport.failing then
        some (Broker.refusedProblem g.sender.entity) else none := by
    simp only [Broker.batchProblem?, sized, Broker.sendProblem?, opened, if_false]
  simp only [World.raising_apply, World.call_apply, Broker.transport, Broker.sendBatch_eq, hproblem]
  by_cases hf : g.sender.entity ∈ w.transport.failing <;> simp only [hf, if_true, if_false] <;> rfl

theorem sendBatches_eq {g : Group} {limit : Nat} {batches : List Batch}
    (sized : ∀ batch ∈ batches, batch.Within limit) {w : World Broker}
    (going : w.cancelled = false) (opened : g.sender.id ∉ w.transport.closed)
    (sendable : g.sender.entity ∉ w.transport.failing) :
    ∃ trace, sendBatches Broker.transport g batches w =
      (.ok (), { w with
        transport := w.transport.sent (batchCalls g batches)
          (w.transport.arrivals g.sender.entity (batches.flatMap (·.messages)))
        trace := trace }) := by
  induction batches generalizing w with
  | nil =>
    refine ⟨w.trace, ?_⟩
    simp only [batchCalls, List.map_nil, List.flatMap_nil, Broker.arrivals, Broker.sent_nil]
    rfl
  | cons batch rest ih =>
    have bounded := (sized batch (List.mem_cons_self ..)).capacity
    have first := raising_sendBatch_eq g batch w bounded opened
    rw [if_neg sendable] at first
    obtain ⟨trace, others⟩ := ih (fun b hb => sized b (List.mem_cons_of_mem _ hb))
      (w := World.add (.log (.batchSent g.kind g.resourceId batch.messages.length)) { w with
        transport := w.transport.sent (batchCalls g [batch])
          (w.transport.arrivals g.sender.entity batch.messages) }) going opened sendable
    refine ⟨trace, ?_⟩
    rw [sendBatches, bind_ok (checkCancelled_of_going going), bind_ok first,
      bind_ok (World.log_apply _ _), others]
    simp only [World.add, Broker.arrivals_sent, Broker.sent_sent, List.flatMap_cons,
      Broker.arrivals_append, batchCalls, List.map_cons, List.map_nil, List.singleton_append]

theorem sendGroup_routed {bus : Bus} {g : Group} {w : World Broker}
    (accepted : bus.refusal? w.cancelled w.transport g = none) :
    ∃ trace, sendGroup Broker.transport bus g w =
      (.ok (), { w with
        transport := w.transport.sent (bus.calls w.transport g)
          (w.transport.arrivals g.sender.entity g.messages)
        trace := trace }) := by
  obtain ⟨going, opened, sendable, small⟩ := (refusal?_eq_none_iff ..).mp accepted
  have none_large : g.messages.find? (bus.limit w.transport < ·.size) = none := by simpa using small
  obtain ⟨trace, hbatches⟩ :=
    World.createBatches_small opened (bus.limit_eq _) g.resourceId none_large
  change _ = (Except.ok (bus.batches w.transport g), _) at hbatches
  obtain ⟨trace', hsent⟩ := sendBatches_eq (g := g) (batches_within small)
    (w := { w with trace := trace }) going opened sendable
  have content : (bus.batches w.transport g).flatMap (·.messages) = g.messages :=
    Batch.pack_messages _ _ _
  rw [content] at hsent
  refine ⟨trace' ++ [.log (.messagesSent g.kind g.resourceId g.messages.length
    (bus.batches w.transport g).length)], ?_⟩
  rw [sendGroup, bind_ok (checkCancelled_of_going going), bind_ok hbatches, bind_ok hsent]
  rfl

theorem sendBatches_refused {g : Group} {limit : Nat} {batches : List Batch}
    (some_batch : batches ≠ []) (sized : ∀ batch ∈ batches, batch.Within limit) {w : World Broker}
    (going : w.cancelled = false) (opened : g.sender.id ∉ w.transport.closed)
    (failing : g.sender.entity ∈ w.transport.failing) :
    sendBatches Broker.transport g batches w =
      (.error (.transport g.resourceId (Broker.refusedProblem g.sender.entity)), w) := by
  obtain ⟨batch, rest, rfl⟩ := List.exists_cons_of_ne_nil some_batch
  have first := raising_sendBatch_eq g batch w (sized batch (List.mem_cons_self ..)).capacity opened
  rw [if_pos failing] at first
  rw [sendBatches, bind_ok (checkCancelled_of_going going), bind_error first]

theorem sendGroup_refused {bus : Bus} {g : Group} (some_message : g.messages ≠ [])
    {w : World Broker} {problem : DispatchError}
    (refused : bus.refusal? w.cancelled w.transport g = some problem) :
    ∃ trace, sendGroup Broker.transport bus g w = (.error problem, { w with trace := trace }) := by
  by_cases cancelled : w.cancelled = true
  · refine ⟨w.trace, ?_⟩
    rw [refusal?, if_pos cancelled, Option.some.injEq] at refused
    rw [sendGroup, bind_error (checkCancelled_of_cancelled cancelled), refused]
  · have going : w.cancelled = false := by simpa using cancelled
    rw [refusal?, if_neg cancelled] at refused
    rw [sendGroup, bind_ok (checkCancelled_of_going going)]
    by_cases closed : g.sender.id ∈ w.transport.closed
    · refine ⟨w.trace, ?_⟩
      rw [if_pos closed, Option.some.injEq] at refused
      rw [bind_error (World.createBatches_closed closed g.resourceId g.messages), refused]
    · rw [if_neg closed] at refused
      cases hlarge : g.messages.find? (bus.limit w.transport < ·.size) with
      | some m =>
        obtain ⟨trace, hbatches⟩ :=
          World.createBatches_large closed (bus.limit_eq _) g.resourceId hlarge
        refine ⟨trace, ?_⟩
        simp only [hlarge, Option.some.injEq] at refused
        rw [bind_error hbatches, refused]
      | none =>
        obtain ⟨trace, hbatches⟩ :=
          World.createBatches_small closed (bus.limit_eq _) g.resourceId hlarge
        have small : ∀ m ∈ g.messages, m.size ≤ bus.limit w.transport := by simpa using hlarge
        refine ⟨trace, ?_⟩
        simp only [hlarge] at refused
        split at refused
        · next failing =>
          have stopped := sendBatches_refused (w := { w with trace := trace })
            (Batch.pack_ne_nil (bus.limit w.transport) some_message) (batches_within small) going
            closed failing
          rw [Option.some.injEq] at refused
          rw [bind_ok hbatches, bind_error stopped, refused]
        · cases refused

theorem sendGroup_eq (bus : Bus) {g : Group} (some_message : g.messages ≠ []) (w : World Broker) :
    ∃ trace, sendGroup Broker.transport bus g w =
      (bus.answer w.cancelled w.transport [g], { w with
        transport := bus.delivered w.cancelled w.transport [g]
        trace := trace }) := by
  cases h : bus.refusal? w.cancelled w.transport g with
  | none =>
    obtain ⟨trace, heq⟩ := sendGroup_routed h
    refine ⟨trace, ?_⟩
    simp [heq, answer, delivered, routed, h]
  | some problem =>
    obtain ⟨trace, heq⟩ := sendGroup_refused some_message h
    refine ⟨trace, ?_⟩
    simp [heq, answer, delivered, routed, h, Broker.sent_nil]

theorem answer_cons (bus : Bus) (cancelled : Bool) (b : Broker) (g : Group) (rest : List Group) :
    bus.answer cancelled b (g :: rest) =
      match bus.answer cancelled b [g], bus.answer cancelled b rest with
      | .error problem, _ => .error problem
      | .ok _, others => others := by
  simp only [answer, List.findSome?_cons, List.findSome?_nil]
  cases bus.refusal? cancelled b g <;> rfl

theorem delivered_cons (bus : Bus) (cancelled : Bool) (b : Broker) (g : Group) (rest : List Group) :
    bus.delivered cancelled b (g :: rest) =
      bus.delivered cancelled (bus.delivered cancelled b [g]) rest := by
  have apart : bus.routed cancelled b (g :: rest) =
      bus.routed cancelled b [g] ++ bus.routed cancelled b rest := by
    rw [routed, ← List.singleton_append, List.filter_append]
    rfl
  rw [delivered, apart, List.flatMap_append, List.flatMap_append, ← Broker.sent_sent]
  rfl

theorem sendGroups_eq (bus : Bus) {groups : List Group}
    (some_message : ∀ g ∈ groups, g.messages ≠ []) (w : World Broker) :
    ∃ trace, sendGroups Broker.transport bus groups w =
      (bus.answer w.cancelled w.transport groups, { w with
        transport := bus.delivered w.cancelled w.transport groups
        trace := trace }) := by
  induction groups generalizing w with
  | nil =>
    refine ⟨w.trace, ?_⟩
    simp only [delivered, routed, List.filter_nil, List.flatMap_nil, Broker.sent_nil]
    rfl
  | cons g rest ih =>
    obtain ⟨trace, first⟩ := sendGroup_eq bus (some_message g (List.mem_cons_self ..)) w
    obtain ⟨trace', others⟩ := ih (fun g h => some_message g (List.mem_cons_of_mem _ h))
      { w with transport := bus.delivered w.cancelled w.transport [g], trace := trace }
    -- What the first group sent is of no account for the refusal of the others.
    have same : bus.answer w.cancelled (bus.delivered w.cancelled w.transport [g]) rest =
        bus.answer w.cancelled w.transport rest := rfl
    refine ⟨trace', ?_⟩
    rw [answer_cons, delivered_cons]
    simp only [sendGroups, bind_apply, World.attempt_apply, first, others, same]
    cases bus.answer w.cancelled w.transport [g] with
    | error problem => rfl
    | ok _ => cases bus.answer w.cancelled w.transport rest <;> rfl

def made (bus : Bus) (dispatches : List Dispatch) (inbound : Option Inbound) (ids : IdSupply) :
    Except DispatchError (List Outgoing) × IdSupply :=
  Outgoing.createAll bus.dispatches bus.settings.isolation inbound dispatches ids

theorem groups_eq {τ : Type} (bus : Bus) (dispatches : List Dispatch) (inbound : Option Inbound)
    (w : World τ) :
    bus.groups dispatches inbound w =
      ((bus.made dispatches inbound w.ids).1 >>= bus.grouped,
        { w with ids := (bus.made dispatches inbound w.ids).2 }) := by
  rw [groups, bind_apply, World.drawing_apply, ← made]
  obtain ⟨_ | outgoing, ids⟩ := bus.made dispatches inbound w.ids
  · rfl
  · simp only [foldlM_addToGroup]
    change _ = (bus.grouped outgoing, _)
    cases bus.grouped outgoing <;> rfl

section Made

variable {bus : Bus} {ds : List Dispatch} {inbound : Option Inbound} {ids ids' : IdSupply}
  {outgoing : List Outgoing}

theorem mem_registrations_of_made (made : bus.made ds inbound ids = (.ok outgoing, ids'))
    {o : Outgoing} (ho : o ∈ outgoing) :
    o.registration ∈ bus.dispatches.registrations ∧
      ∃ e ∈ ds, o.registration.payloadType.identity = e.payload.type.identity := by
  obtain ⟨⟨e, r⟩, ha, hmade⟩ := Outgoing.madeFrom_of_mem_createAll made ho
  rw [hmade.registration]
  obtain ⟨e', he, hr⟩ := List.mem_flatMap.mp ha
  obtain ⟨r', hr, heq⟩ := List.mem_map.mp hr
  cases heq
  obtain ⟨hmem, typed⟩ := List.mem_filter.mp hr
  exact ⟨hmem, e, he, beq_iff_eq.mp typed⟩

theorem grouped_of_made (composed : bus.Composed)
    (made : bus.made ds inbound ids = (.ok outgoing, ids')) :
    bus.grouped outgoing = .ok (bus.partition outgoing) := by
  have served : (outgoing.map Outgoing.destination).find?
      (fun key => (bus.senderTo key).isNone) = none := by
    refine List.find?_eq_none.mpr fun key hkey => ?_
    obtain ⟨o, ho, rfl⟩ := List.mem_map.mp hkey
    obtain ⟨s, hs, -⟩ := composed.sender (mem_registrations_of_made made ho).1
    have own : bus.senderTo o.destination = some s.sender := congrArg (Option.map _) hs
    simp [own]
  rw [grouped, served]

end Made

theorem send_of_not_grouped {bus : Bus} {ds : List Dispatch} {inbound : Option Inbound}
    {w : World Broker} {problem : DispatchError}
    (h : (bus.made ds inbound w.ids).1 >>= bus.grouped = .error problem) :
    (bus.send Broker.transport ds inbound w).1 = .error problem ∧
      (bus.send Broker.transport ds inbound w).2.transport = w.transport := by
  have grouped := groups_eq bus ds inbound w
  rw [h] at grouped
  have hresult : bus.send Broker.transport ds inbound w = _ := bind_error grouped _
  rw [hresult]
  exact ⟨rfl, rfl⟩

theorem send_of_accepted {bus : Bus} {ds : List Dispatch} {inbound : Option Inbound}
    {w : World Broker} {ids' : IdSupply} {outgoing : List Outgoing}
    (made : bus.made ds inbound w.ids = (.ok outgoing, ids'))
    (served : bus.grouped outgoing = .ok (bus.partition outgoing))
    (accepted : ∀ g ∈ bus.partition outgoing, bus.refusal? w.cancelled w.transport g = none) :
    (bus.send Broker.transport ds inbound w).1 = .ok () ∧
      ∃ calls, (bus.send Broker.transport ds inbound w).2.transport = w.transport.sent calls
        ((bus.partition outgoing).flatMap fun g =>
          w.transport.arrivals g.sender.entity g.messages) := by
  have hgroups := groups_eq bus ds inbound w
  rw [made] at hgroups
  change _ = (bus.grouped outgoing, _) at hgroups
  rw [served] at hgroups
  obtain ⟨trace, hsent⟩ := sendGroups_eq bus (fun g hg => messages_of_mem_partition hg)
    { w with ids := ids' }
  have all_routed : bus.routed w.cancelled w.transport (bus.partition outgoing) =
      bus.partition outgoing :=
    List.filter_eq_self.mpr fun g hg => by rw [accepted g hg]; rfl
  have answered : bus.answer w.cancelled w.transport (bus.partition outgoing) = .ok () := by
    rw [answer, List.findSome?_eq_none_iff.mpr accepted]
  have hresult : bus.send Broker.transport ds inbound w = _ := (bind_ok hgroups _).trans hsent
  rw [hresult]
  refine ⟨answered, (bus.partition outgoing).flatMap (bus.calls w.transport), ?_⟩
  simp only [delivered, all_routed]

theorem entity_of_mem_partition {bus : Bus} (composed : bus.Composed) {outgoing : List Outgoing}
    {g : Group} (hg : g ∈ bus.partition outgoing) {r : DispatchRegistration}
    (hr : r ∈ bus.dispatches.registrations) (key : r.resource.key = (g.kind, g.resourceId)) :
    g.sender.entity = r.resource.entity := by
  obtain ⟨s, hs, -, -, entity⟩ := composed.sender hr
  have own : bus.senderTo r.resource.key = some s.sender := by
    rw [senderTo, Resource.key, hs]
    rfl
  rw [key, sender_of_mem_partition hg, Option.some.injEq] at own
  rw [own, entity]

/-- If a message cannot be made or a destination has no sender, dispatches are not sent and the
broker stays as it was. Otherwise the messages are grouped by destination, and whatever happens to
the others, a group is routed completely and in order, or not at all: not if the work has been
cancelled, its sender is closed, its entity fails or one of its messages is larger than a batch. The
answer is the error of the first group that is not routed. -/
theorem send_outcome (bus : Bus) (dispatches : List Dispatch) (inbound : Option Inbound)
    (w : World Broker) :
    let created := (bus.made dispatches inbound w.ids).1
    let result := bus.send Broker.transport dispatches inbound w
    match created >>= bus.grouped with
    | .error problem => result.1 = .error problem ∧ result.2.transport = w.transport
    | .ok groups =>
      (bus.Composed → ∀ g ∈ groups, ∀ r ∈ bus.dispatches.registrations,
        r.resource.key = (g.kind, g.resourceId) → g.sender.entity = r.resource.entity) ∧
      let refused := bus.refusal? w.cancelled w.transport
      let routed := groups.filter fun g => (refused g).isNone
      (∀ g ∈ groups, refused g = none ↔
        w.cancelled = false ∧ g.sender.id ∉ w.transport.closed ∧
          g.sender.entity ∉ w.transport.failing ∧
          ∀ m ∈ g.messages, m.size ≤ bus.limit w.transport) ∧
      result.1 = (match groups.findSome? refused with
        | some problem => .error problem
        | none => .ok ()) ∧
      result.2.transport = w.transport.sent (routed.flatMap (bus.calls w.transport))
        (routed.flatMap fun g => w.transport.arrivals g.sender.entity g.messages) := by
  intro created result
  have hgroups : bus.groups dispatches inbound w = (created >>= bus.grouped, _) :=
    groups_eq bus dispatches inbound w
  cases h : created >>= bus.grouped with
  | error problem =>
    have hresult : result = (.error problem, _) := bind_error (hgroups.trans (by rw [h])) _
    rw [hresult]
    exact ⟨rfl, rfl⟩
  | ok groups =>
    obtain ⟨outgoing, rfl⟩ : ∃ outgoing, groups = bus.partition outgoing := by
      cases hc : created with
      | error problem => rw [hc] at h; cases h
      | ok outgoing => rw [hc] at h; exact ⟨outgoing, grouped_ok h⟩
    have some_message (g : Group) (hg : g ∈ bus.partition outgoing) : g.messages ≠ [] :=
      messages_of_mem_partition hg
    obtain ⟨trace, hsent⟩ := sendGroups_eq bus some_message
      { w with ids := (bus.made dispatches inbound w.ids).2 }
    have hresult : result = _ := (bind_ok (hgroups.trans (by rw [h])) _).trans hsent
    rw [hresult]
    exact ⟨fun composed g hg r hr key => entity_of_mem_partition composed hg hr key,
      fun g _ => refusal?_eq_none_iff .., rfl, rfl⟩

end Bus

end MessageBus
