import MessageBus.Proofs.Bus.Accounting
import MessageBus.Proofs.Bus.Building

/-!
# Closing

A bus that has been closed does not get through to the broker any more. Each of its senders is asked
for before anything is sent, scheduled or taken back, and refuses.
-/

namespace MessageBus

open Outcome Broker

namespace Broker

/-- Of senders that are closed in order, those that are not closed by then. -/
def toClose (closed : List Nat) : List Sender → List Sender
  | [] => []
  | s :: rest => if s.id ∈ closed then toClose closed rest else s :: toClose (s.id :: closed) rest

theorem toClose_sublist (closed : List Nat) (senders : List Sender) :
    (toClose closed senders).Sublist senders := by
  induction senders generalizing closed with
  | nil => exact .slnil
  | cons s rest ih =>
    rw [toClose]
    split
    · exact (ih closed).cons s
    · exact (ih _).cons_cons s

theorem toClose_append (closed : List Nat) (xs ys : List Sender) :
    ∃ closed', toClose closed (xs ++ ys) = toClose closed xs ++ toClose closed' ys := by
  induction xs generalizing closed with
  | nil => exact ⟨closed, rfl⟩
  | cons x xs ih =>
    simp only [List.cons_append, toClose]
    split
    · exact ih closed
    · obtain ⟨closed', h⟩ := ih (x.id :: closed)
      exact ⟨closed', congrArg _ h⟩

theorem toClose_eq_nil {closed : List Nat} {senders : List Sender}
    (h : ∀ s ∈ senders, s.id ∈ closed) : toClose closed senders = [] := by
  induction senders with
  | nil => rfl
  | cons s rest ih =>
    obtain ⟨first, others⟩ := List.forall_mem_cons.mp h
    rw [toClose, if_pos first, ih others]

theorem toClose_eq_filter {senders : List Sender} (distinct : (senders.map (·.id)).Nodup)
    (closed : List Nat) : toClose closed senders = senders.filter (·.id ∉ closed) := by
  induction senders generalizing closed with
  | nil => rfl
  | cons s rest ih =>
    obtain ⟨new, others⟩ := List.nodup_cons.mp distinct
    rw [toClose]
    split
    · next found => rw [ih others, List.filter_cons_of_neg (by simpa using found)]
    · next missing =>
      rw [ih others, List.filter_cons_of_pos (by simpa using missing)]
      refine congrArg _ (List.filter_congr fun other hother => ?_)
      have apart : other.id ≠ s.id := fun h => new (List.mem_map.mpr ⟨other, hother, h⟩)
      simp [apart]

def closing (b : Broker) (senders : List Sender) : Broker :=
  { b with
    operations := b.operations ++ (toClose b.closed senders).map (.senderClosed ·.entity)
    closed := (toClose b.closed senders).reverse.map (·.id) ++ b.closed }

theorem closing_of_closed {b : Broker} {senders : List Sender}
    (h : ∀ s ∈ senders, s.id ∈ b.closed) : b.closing senders = b := by
  simp [closing, toClose_eq_nil h]

theorem close_eq (s : Sender) (b : Broker) : close s b = (.ok (), b.closing [s]) := by
  simp only [close, modify_apply, closing, toClose]
  split
  · simp
  · simp [record]

theorem closing_cons (b : Broker) (s : Sender) (rest : List Sender) :
    b.closing (s :: rest) = (b.closing [s]).closing rest := by
  by_cases h : s.id ∈ b.closed
  · have same : b.closing [s] = b := closing_of_closed (by simpa using h)
    rw [same]
    simp only [closing, toClose, h, if_true]
  · simp [closing, toClose, h]

theorem mem_closed_closing {b : Broker} {senders : List Sender} {s : Sender} (hs : s ∈ senders) :
    s.id ∈ (b.closing senders).closed := by
  induction senders generalizing b with
  | nil => cases hs
  | cons first rest ih =>
    rw [closing_cons]
    rcases List.mem_cons.mp hs with rfl | hs
    · refine List.mem_append_right _ ?_
      by_cases h : s.id ∈ b.closed
      · exact List.mem_append_right _ h
      · simp [closing, toClose, h]
    · exact ih hs

end Broker

theorem World.closeEach_eq {ε : Type} (senders : List Sender) (w : World Broker) :
    (closeEach Broker.transport senders : Work Broker ε (Option TransportError)) w =
      (.ok none, { w with transport := w.transport.closing senders }) := by
  induction senders generalizing w with
  | nil => simp [closeEach, Broker.closing, Broker.toClose]
  | cons s rest ih =>
    have first : (attempt (call (Broker.transport.close s)) :
        Work Broker ε (Except TransportError Unit)) w =
          (.ok (.ok ()), { w with transport := w.transport.closing [s] }) := by
      simp only [attempt_apply, call_apply, Broker.transport, Broker.close_eq]
    rw [closeEach, bind_ok first]
    simp only [bind_apply, ih, pure_apply, ← Broker.closing_cons]
    rfl

namespace Bus

theorem close_eq (bus : Bus) (w : World Broker) :
    bus.close Broker.transport w = (.ok (), { w with
      transport := w.transport.closing
        (bus.directory.senders.map (·.sender) ++ w.temporaries.map (·.2))
      temporaries := []
      trace := w.trace ++ [.log .closed] }) := by
  have all : World.closeAll Broker.transport bus.directory w = (.ok (), { w with
      transport := w.transport.closing
        (bus.directory.senders.map (·.sender) ++ w.temporaries.map (·.2))
      temporaries := [] }) := by
    rw [World.closeAll, bind_ok (get_apply w), bind_ok (modify_apply _ _),
      bind_ok (World.closeEach_eq _ _)]
    rfl
  rw [close, bind_ok all]
  rfl

section Refusals

variable (bus : Bus) (stop : Broker → Bool) {w : World Broker}

theorem sendGroup_closed {g : Group} (closed : g.sender.id ∈ w.transport.closed) :
    ∃ problem, sendGroup (stopping stop) bus g w = (.error problem, w) := by
  have checked := checkCancelled_eq (stopping stop) w
  rw [sendGroup]
  split at checked
  · exact ⟨_, bind_error checked _⟩
  · have refused : World.createBatches (stopping stop) bus.settings.maxBatchSize g.sender
        g.resourceId g.messages w =
          (.error (.transport g.resourceId (closedProblem g.sender)), w) := by
      have none_new : World.newBatch (stopping stop) bus.settings.maxBatchSize g.sender
          g.resourceId w = _ := World.newBatch_eq bus.settings.maxBatchSize g.sender g.resourceId w
      rw [if_pos closed] at none_new
      rw [World.createBatches, bind_error none_new]
    exact ⟨_, (bind_ok checked _).trans (bind_error refused _)⟩

theorem sendGroups_closed {groups : List Group}
    (closed : ∀ g ∈ groups, g.sender.id ∈ w.transport.closed) :
    ∃ answer, sendGroups (stopping stop) bus groups w = (answer, w) ∧
      answer.isOk = groups.isEmpty := by
  induction groups with
  | nil => exact ⟨.ok (), rfl, rfl⟩
  | cons g rest ih =>
    obtain ⟨first, others⟩ := List.forall_mem_cons.mp closed
    obtain ⟨problem, refused⟩ := sendGroup_closed bus stop first
    obtain ⟨answer, rest_refused, -⟩ := ih others
    refine ⟨.error problem, ?_, rfl⟩
    simp only [sendGroups, bind_apply, World.attempt_apply, refused, rest_refused, throw_apply]

theorem scheduleGroups_closed {groups : List Group}
    (some_message : ∀ g ∈ groups, g.messages ≠ [])
    (closed : ∀ g ∈ groups, g.sender.id ∈ w.transport.closed) (due : Int) :
    ∃ problem, scheduleGroups (stopping stop) bus due groups w = (([], problem), w) ∧
      problem.isNone = groups.isEmpty := by
  induction groups with
  | nil => exact ⟨none, rfl, rfl⟩
  | cons g rest ih =>
    obtain ⟨some_first, some_message⟩ := List.forall_mem_cons.mp some_message
    obtain ⟨first, others⟩ := List.forall_mem_cons.mp closed
    obtain ⟨other, rest_refused, -⟩ := ih some_message others
    obtain ⟨page, more, hpages⟩ := exists_page bus.settings.pageSize.toNat some_first
    have refused : ∃ problem, pageProblem? stop w g = some problem := by
      rw [pageProblem?, sendProblem?, if_pos first]
      split
      · exact ⟨_, rfl⟩
      · exact ⟨_, rfl⟩
    obtain ⟨problem, refused⟩ := refused
    refine ⟨some problem, ?_, rfl⟩
    rw [scheduleGroups_cons, hpages, schedulePages_cons_of_refused refused, rest_refused]
    rfl

theorem cancelEach_closed (closed : ∀ s ∈ bus.directory.senders, s.sender.id ∈ w.transport.closed)
    (byResource : List ((EntityKind × String) × List Int)) :
    ∃ answer, cancelEach (stopping stop) bus byResource w = (answer, w) ∧
      answer.isOk = byResource.isEmpty := by
  cases byResource with
  | nil => exact ⟨.ok (), rfl, rfl⟩
  | cons entry rest =>
    obtain ⟨⟨kind, resourceId⟩, numbers⟩ := entry
    rw [cancelEach_cons rfl]
    cases known : bus.senderTo (kind, resourceId) with
    | none => exact ⟨_, rfl, rfl⟩
    | some s =>
      obtain ⟨registered, hregistered, rfl⟩ := Option.map_eq_some_iff.mp known
      have shut := closed registered (Directory.mem_of_sender? hregistered).1
      simp only [if_pos shut]
      split <;> exact ⟨_, rfl, rfl⟩

end Refusals

theorem isEmpty_of_made {bus : Bus} {ds : List Dispatch} {inbound : Option Inbound}
    {ids ids' : IdSupply} {outgoing : List Outgoing}
    (h : bus.made ds inbound ids = (.ok outgoing, ids')) : outgoing.isEmpty = ds.isEmpty := by
  cases ds with
  | nil =>
    cases h
    rfl
  | cons d rest =>
    rw [made, Outgoing.createAll] at h
    cases found : bus.dispatches.find d.payload.type with
    | error problem =>
      rw [found] at h
      cases h
    | ok registrations =>
      rw [found] at h
      obtain ⟨first, between, hfirst, h⟩ := of_bind_ok h
      obtain ⟨others, after, -, h⟩ := of_bind_ok h
      cases h
      have some_registration : registrations ≠ [] := by
        rw [DispatchRegistry.find_eq] at found
        split at found
        · cases found
        · cases found
          assumption
      have as_many := (Outgoing.madeFrom_of_createEach hfirst).length_eq
      cases first with
      | nil => exact absurd (List.length_eq_zero_iff.mp as_many) some_registration
      | cons o more => rfl

theorem groups_cases (bus : Bus) (ds : List Dispatch) (inbound : Option Inbound)
    (w : World Broker) :
    ∃ ids, (∃ problem, bus.groups ds inbound w = (.error problem, { w with ids := ids }) ∧
        ds.isEmpty = false) ∨
      ∃ outgoing, bus.groups ds inbound w =
          (.ok (bus.partition outgoing), { w with ids := ids }) ∧
        (bus.partition outgoing).isEmpty = ds.isEmpty := by
  rw [groups_eq]
  cases hmade : bus.made ds inbound w.ids with
  | mk created ids' =>
  refine ⟨ids', ?_⟩
  cases created with
  | error problem =>
    refine .inl ⟨problem, rfl, ?_⟩
    cases ds with
    | nil => cases hmade
    | cons d rest => rfl
  | ok outgoing =>
    change (∃ problem, (bus.grouped outgoing, _) = _ ∧ _) ∨
      ∃ others, (bus.grouped outgoing, _) = _ ∧ _
    rw [← isEmpty_of_made hmade]
    cases h : bus.grouped outgoing with
    | error problem =>
      refine .inl ⟨problem, rfl, ?_⟩
      cases outgoing with
      | nil => cases h
      | cons o rest => rfl
    | ok groups =>
      obtain rfl := grouped_ok h
      refine .inr ⟨outgoing, rfl, ?_⟩
      have keys := congrArg List.isEmpty (keys_partition h)
      rw [List.isEmpty_map] at keys
      rw [keys]
      cases outgoing with
      | nil => rfl
      | cons o rest => rw [List.map_cons, List.eraseDups_cons]; rfl

/-- All senders of the bus have been closed, and no other sender is in use. -/
structure Shut (bus : Bus) (w : World Broker) : Prop where
  closed : ∀ s ∈ bus.directory.senders, s.sender.id ∈ w.transport.closed
  none_else : w.temporaries = []

theorem Shut.group {bus : Bus} {w : World Broker} (shut : bus.Shut w) {outgoing : List Outgoing}
    {g : Group} (hg : g ∈ bus.partition outgoing) : g.sender.id ∈ w.transport.closed := by
  obtain ⟨s, hs, heq⟩ := Option.map_eq_some_iff.mp (sender_of_mem_partition hg)
  exact heq ▸ shut.closed s (Directory.mem_of_sender? hs).1

/-- Something that is asked of a bus. What is sent, scheduled or taken back may be cancelled by its
caller, at once or as soon as the broker is in a certain state. -/
inductive Errand
  | send (stop : Broker → Bool) (dispatches : List Dispatch) (inbound : Option Inbound)
  | schedule (stop : Broker → Bool) (dispatches : List Dispatch) (due : Int)
    (inbound : Option Inbound)
  | takeBack (stop : Broker → Bool) (handles : List ScheduledDispatch)
  | close

namespace Errand

/-- Whether the errand is done, and the world after it. -/
def run (bus : Bus) : Errand → World Broker → Bool × World Broker
  | .send stop ds inbound, w =>
    let (answer, w) := bus.send (stopping stop) ds inbound w
    (answer.isOk, w)
  | .schedule stop ds due inbound, w =>
    let (answer, w) := bus.schedule (stopping stop) ds due inbound w
    (answer.isOk, w)
  | .takeBack stop handles, w =>
    let (answer, w) := bus.cancelScheduled (stopping stop) handles w
    (answer.isOk, w)
  | .close, w =>
    let (answer, w) := bus.close Broker.transport w
    (answer.isOk, w)

def runAll (bus : Bus) : List Errand → World Broker → List Bool × World Broker
  | [], w => ([], w)
  | e :: rest, w =>
    let (done, w) := e.run bus w
    let (others, w) := runAll bus rest w
    (done :: others, w)

/-- The errand needs no sender to be open: it is about no dispatch or handle at all. -/
def idle : Errand → Bool
  | .send _ ds _ => ds.isEmpty
  | .schedule _ ds _ _ => ds.isEmpty
  | .takeBack _ handles => handles.isEmpty
  | .close => true

variable {bus : Bus} {w : World Broker}

theorem run_send (shut : bus.Shut w) (stop : Broker → Bool) (ds : List Dispatch)
    (inbound : Option Inbound) :
    ∃ ids, run bus (.send stop ds inbound) w = (ds.isEmpty, { w with ids := ids }) := by
  obtain ⟨ids, ⟨problem, unmade, some_ds⟩ | ⟨outgoing, made, as_ds⟩⟩ :=
    groups_cases bus ds inbound w
  · have failed : bus.send (stopping stop) ds inbound w = _ := bind_error unmade _
    exact ⟨ids, by rw [run, failed, some_ds]; rfl⟩
  · obtain ⟨answer, refused, ok⟩ := sendGroups_closed bus stop (w := { w with ids := ids })
      fun g (hg : g ∈ bus.partition outgoing) => shut.group hg
    have failed : bus.send (stopping stop) ds inbound w = _ := (bind_ok made _).trans refused
    exact ⟨ids, by rw [run, failed, ← as_ds, ← ok]⟩

theorem run_schedule (shut : bus.Shut w) (stop : Broker → Bool) (ds : List Dispatch) (due : Int)
    (inbound : Option Inbound) :
    ∃ ids, run bus (.schedule stop ds due inbound) w = (ds.isEmpty, { w with ids := ids }) := by
  obtain ⟨ids, ⟨problem, unmade, some_ds⟩ | ⟨outgoing, made, as_ds⟩⟩ :=
    groups_cases bus ds inbound w
  · have failed : bus.schedule (stopping stop) ds due inbound w = _ := bind_error unmade _
    exact ⟨ids, by rw [run, failed, some_ds]; rfl⟩
  · obtain ⟨problem, refused, ok⟩ := scheduleGroups_closed bus stop (w := { w with ids := ids })
      (fun g (hg : g ∈ bus.partition outgoing) => messages_of_mem_partition hg)
      (fun g hg => shut.group hg) due
    have lifted := lift_apply (ε := DispatchError)
      (scheduleGroups (stopping stop) bus due (bus.partition outgoing)) { w with ids := ids }
    rw [refused] at lifted
    have failed : bus.schedule (stopping stop) ds due inbound w = _ :=
      (bind_ok made _).trans (bind_ok lifted _)
    refine ⟨ids, ?_⟩
    rw [run, failed, ← as_ds, ← ok]
    cases problem <;> rfl

theorem run_takeBack (shut : bus.Shut w) (stop : Broker → Bool)
    (handles : List ScheduledDispatch) :
    run bus (.takeBack stop handles) w = (handles.isEmpty, w) := by
  obtain ⟨answer, refused, ok⟩ := cancelEach_closed bus stop shut.closed
    (numbersByResource handles)
  have failed : bus.cancelScheduled (stopping stop) handles w = (answer, w) := refused
  have as_handles : (numbersByResource handles).isEmpty = handles.isEmpty := by
    cases handles with
    | nil => rfl
    | cons h rest => simp [numbersByResource, List.eraseDups_cons]
  rw [run, failed, ← as_handles, ← ok]

theorem run_close (shut : bus.Shut w) :
    ∃ trace, run bus .close w = (true, { w with trace := trace }) := by
  have all_closed : w.transport.closing
      (bus.directory.senders.map (·.sender) ++ w.temporaries.map (·.2)) = w.transport := by
    refine closing_of_closed fun s hs => ?_
    rw [shut.none_else, List.map_nil, List.append_nil] at hs
    obtain ⟨registered, hmem, rfl⟩ := List.mem_map.mp hs
    exact shut.closed registered hmem
  refine ⟨w.trace ++ [.log .closed], ?_⟩
  rw [run, Bus.close_eq, all_closed, ← shut.none_else]
  rfl

/-- A closed bus does an idle errand and refuses any other, and neither gets to the broker. -/
theorem run_of_shut (shut : bus.Shut w) (e : Errand) :
    ∃ ids trace, e.run bus w = (e.idle, { w with ids := ids, trace := trace }) := by
  cases e with
  | send stop ds inbound =>
    obtain ⟨ids, ran⟩ := run_send shut stop ds inbound
    exact ⟨ids, w.trace, ran⟩
  | schedule stop ds due inbound =>
    obtain ⟨ids, ran⟩ := run_schedule shut stop ds due inbound
    exact ⟨ids, w.trace, ran⟩
  | takeBack stop handles => exact ⟨w.ids, w.trace, run_takeBack shut stop handles⟩
  | close =>
    obtain ⟨trace, ran⟩ := run_close shut
    exact ⟨w.ids, trace, ran⟩

theorem runAll_of_shut (shut : bus.Shut w) (errands : List Errand) :
    (runAll bus errands w).1 = errands.map idle ∧
      (runAll bus errands w).2.transport = w.transport := by
  induction errands generalizing w with
  | nil => exact ⟨rfl, rfl⟩
  | cons e rest ih =>
    obtain ⟨ids, trace, ran⟩ := run_of_shut shut e
    have still : bus.Shut { w with ids := ids, trace := trace } := ⟨shut.closed, shut.none_else⟩
    obtain ⟨others, same⟩ := ih still
    rw [runAll, ran]
    exact ⟨congrArg (e.idle :: ·) others, same⟩

end Errand

theorem shut_close (bus : Bus) (w : World Broker) : bus.Shut (bus.close Broker.transport w).2 := by
  rw [close_eq]
  exact ⟨fun s hs => mem_closed_closing (List.mem_append_left _ (List.mem_map_of_mem hs)), rfl⟩

/-- Closing a composed bus closes each of its senders that is open, once, and whatever senders are
in use besides. From then on the bus refuses all that it is asked for, but for what needs no sender,
and none of it changes the broker any more. -/
theorem close_is_final {bus : Bus} (composed : bus.Composed) (w : World Broker)
    (errands : List Errand) :
    let closed := bus.close Broker.transport w
    let later := Errand.runAll bus errands closed.2
    let opened := bus.directory.senders.filter (·.sender.id ∉ w.transport.closed)
    closed.1 = .ok () ∧ later.1 = errands.map Errand.idle ∧
      (opened.map (·.sender.id)).Nodup ∧
      ∃ others : List Sender, others.Sublist (w.temporaries.map (·.2)) ∧
        later.2.transport = { w.transport with
          operations := w.transport.operations ++
            (opened.map (·.sender) ++ others).map (.senderClosed ·.entity)
          closed := closed.2.transport.closed } := by
  intro closed later opened
  have distinct := composed.sender_ids_nodup
  obtain ⟨done, same⟩ := Errand.runAll_of_shut (bus.shut_close w) errands
  obtain ⟨still_closed, all⟩ := toClose_append w.transport.closed
    (bus.directory.senders.map (·.sender)) (w.temporaries.map (·.2))
  have own : toClose w.transport.closed (bus.directory.senders.map (·.sender)) =
      opened.map (·.sender) := by
    rw [toClose_eq_filter (by rwa [List.map_map]), List.filter_map]
    rfl
  have hclosed : closed = _ := bus.close_eq w
  refine ⟨by rw [hclosed], done, distinct.sublist (List.filter_sublist.map _),
    toClose still_closed (w.temporaries.map (·.2)), toClose_sublist .., ?_⟩
  have unchanged : later.2.transport = closed.2.transport := same
  rw [unchanged, hclosed]
  simp only [Broker.closing, all, own]

theorem close_is_final_of_shop :
    let b := (start 1000).run [.createSender (.queue "orders"), .createSender (.queue "audit")]
    let closed := shop.close Broker.transport { transport := b }
    let later := Errand.runAll shop [.send steady [paid] none, .close,
      .schedule steady [paid] 10 none, .takeBack steady [⟨.queue, "orders", "m1", 1⟩]] closed.2
    later.1 = [false, true, false, false] ∧ later.2.transport.operations =
      b.operations ++ [.senderClosed "audit", .senderClosed "orders"] := by
  intro b closed later
  obtain ⟨-, done, -, others, none_else, same⟩ :=
    close_is_final shop_composed { transport := b } [.send steady [paid] none, .close,
      .schedule steady [paid] 10 none, .takeBack steady [⟨.queue, "orders", "m1", 1⟩]]
  rw [List.sublist_nil.mp none_else] at same
  refine ⟨done, ?_⟩
  rw [same]
  decide +kernel

end Bus

end MessageBus
