import MessageBus.Proofs.Bus.Publishing

/-!
# Taking scheduled messages back

Handles are collected by resource and each resource is asked once. Together the calls take all
numbers of the handles off the schedule, as long as each resource has an open sender.
-/

namespace MessageBus

open Outcome

def Broker.withdrawn (b : Broker) (calls : List Operation) (numbers : List Int) : Broker :=
  { b with
    operations := b.operations ++ calls
    scheduled := b.scheduled.filter (·.sequenceNumber ∉ numbers) }

theorem Broker.withdrawn_nil (b : Broker) : b.withdrawn [] [] = b := by
  simp [withdrawn]

theorem Broker.withdrawn_withdrawn (b : Broker) (calls calls' : List Operation)
    (numbers numbers' : List Int) :
    (b.withdrawn calls numbers).withdrawn calls' numbers' =
      b.withdrawn (calls ++ calls') (numbers ++ numbers') := by
  have both (s : Scheduled) :
      (decide (s.sequenceNumber ∉ numbers') && decide (s.sequenceNumber ∉ numbers)) =
        decide (s.sequenceNumber ∉ numbers ++ numbers') := by
    simp only [List.mem_append, not_or, Bool.decide_and, Bool.and_comm]
  simp only [withdrawn, List.filter_filter, both, List.append_assoc]

theorem filter_append_eq_left {before added : List Scheduled} {numbers : List Int}
    (kept : ∀ s ∈ before, s.sequenceNumber ∉ numbers)
    (taken : ∀ s ∈ added, s.sequenceNumber ∈ numbers) :
    (before ++ added).filter (·.sequenceNumber ∉ numbers) = before := by
  have left : before.filter (·.sequenceNumber ∉ numbers) = before :=
    List.filter_eq_self.mpr fun s hs => decide_eq_true (kept s hs)
  have right : added.filter (·.sequenceNumber ∉ numbers) = [] :=
    List.filter_eq_nil_iff.mpr fun s hs h => of_decide_eq_true h (taken s hs)
  rw [List.filter_append, left, right, List.append_nil]

namespace Bus

theorem checkCancelled_eq {τ : Type} (T : Transport τ) (w : World τ) :
    checkCancelled T w = if World.isCancelled T w then (.error .cancelled, w) else (.ok (), w) := by
  simp [checkCancelled, bind_apply]

theorem key_of_mem_numbersByResource {handles : List ScheduledDispatch}
    {entry : (EntityKind × String) × List Int} (h : entry ∈ numbersByResource handles) :
    ∃ handle ∈ handles, (handle.kind, handle.resourceId) = entry.1 := by
  obtain ⟨key, hkey, rfl⟩ := List.mem_map.mp h
  exact List.mem_map.mp (List.mem_eraseDups.mp hkey)

theorem mem_numbersByResource {handles : List ScheduledDispatch} (n : Int) :
    n ∈ (numbersByResource handles).flatMap (·.2) ↔ n ∈ handles.map (·.sequenceNumber) := by
  simp only [numbersByResource, List.flatMap_map, List.mem_flatMap, List.mem_map,
    List.mem_eraseDups, List.mem_filter, beq_iff_eq]
  constructor
  · rintro ⟨key, -, handle, ⟨hmem, -⟩, rfl⟩
    exact ⟨handle, hmem, rfl⟩
  · rintro ⟨handle, hmem, rfl⟩
    exact ⟨_, ⟨handle, hmem, rfl⟩, handle, ⟨hmem, rfl⟩, rfl⟩

/-- The handle is for a resource whose sender is there and open. -/
def CanTakeBack (bus : Bus) (b : Broker) (key : EntityKind × String) : Prop :=
  ∃ sender, bus.senderTo key = some sender ∧ sender.id ∉ b.closed

def takingBack (s : Sender) (numbers : List Int) (w : World Broker) : World Broker :=
  { w with transport := w.transport.withdrawn [.cancelScheduled s.entity numbers] numbers }

section Calls

variable {T : Transport Broker} (own : T.cancelScheduled = Broker.cancelScheduled)
include own

theorem raising_cancelScheduled_eq (s : Sender) (resourceId : String) (numbers : List Int)
    (w : World Broker) :
    World.raising (DispatchError.transport resourceId)
        (World.call (T.cancelScheduled s numbers)) w =
      if s.id ∈ w.transport.closed then
        (.error (.transport resourceId (Broker.closedProblem s)), w)
      else (.ok (), takingBack s numbers w) := by
  simp only [World.raising_apply, World.call_apply, own, Broker.cancelScheduled_eq]
  split <;> rfl

theorem cancelEach_cons (bus : Bus) (kind : EntityKind) (resourceId : String) (numbers : List Int)
    (rest : List ((EntityKind × String) × List Int)) (w : World Broker) :
    cancelEach T bus (((kind, resourceId), numbers) :: rest) w =
      match bus.senderTo (kind, resourceId) with
      | none => (.error (.senderNotFound kind resourceId), w)
      | some s =>
        if World.isCancelled T w then (.error .cancelled, w)
        else if s.id ∈ w.transport.closed then
          (.error (.transport resourceId (Broker.closedProblem s)), w)
        else
          cancelEach T bus rest ((takingBack s numbers w).add
            (.log (.scheduleCancelled kind resourceId numbers.length))) := by
  rw [cancelEach, resolveSender, senderTo]
  cases bus.directory.sender? kind resourceId with
  | none => rfl
  | some s =>
    have checked := checkCancelled_eq T w
    have called := raising_cancelScheduled_eq own s.sender resourceId numbers w
    simp only [Option.map_some]
    by_cases cancelled : World.isCancelled T w
    · rw [if_pos cancelled] at checked ⊢
      exact bind_error checked _
    rw [if_neg cancelled] at checked ⊢
    rw [bind_ok checked]
    by_cases closed : s.sender.id ∈ w.transport.closed
    · rw [if_pos closed] at called ⊢
      exact bind_error called _
    · rw [if_neg closed] at called ⊢
      rw [bind_ok called, bind_ok (World.log_apply _ _)]

end Calls

theorem cancelEach_eq {bus : Bus} {byResource : List ((EntityKind × String) × List Int)}
    {w : World Broker} (going : w.cancelled = false)
    (opened : ∀ entry ∈ byResource, bus.CanTakeBack w.transport entry.1) :
    ∃ calls trace, cancelEach Broker.transport bus byResource w =
      (.ok (), { w with
        transport := w.transport.withdrawn calls (byResource.flatMap (·.2))
        trace := trace }) := by
  induction byResource generalizing w with
  | nil =>
    refine ⟨[], w.trace, ?_⟩
    rw [List.flatMap_nil, Broker.withdrawn_nil]
    rfl
  | cons entry rest ih =>
    obtain ⟨⟨kind, resourceId⟩, numbers⟩ := entry
    obtain ⟨sender, hsender, hopen⟩ := opened _ (List.mem_cons_self ..)
    have steady : ¬World.isCancelled Broker.transport w = true := by
      simp [World.isCancelled, Broker.transport, going]
    obtain ⟨calls, trace, others⟩ := ih
      (w := (takingBack sender numbers w).add
        (.log (.scheduleCancelled kind resourceId numbers.length))) going
      fun other hother => opened other (List.mem_cons_of_mem _ hother)
    refine ⟨.cancelScheduled sender.entity numbers :: calls, trace, ?_⟩
    rw [cancelEach_cons rfl, hsender]
    simp only [if_neg steady, if_neg hopen]
    rw [others]
    simp only [takingBack, World.add, Broker.withdrawn_withdrawn, List.flatMap_cons,
      List.singleton_append]

/-- Handles of what was added to a schedule take all of it back, and nothing else. -/
theorem cancelScheduled_restores {bus : Bus} {handles : List ScheduledDispatch}
    {w : World Broker} (going : w.cancelled = false)
    (opened : ∀ h ∈ handles, bus.CanTakeBack w.transport (h.kind, h.resourceId))
    {before added : List Scheduled} (schedule : w.transport.scheduled = before ++ added)
    (kept : ∀ s ∈ before, s.sequenceNumber ∉ handles.map (·.sequenceNumber))
    (taken : ∀ s ∈ added, s.sequenceNumber ∈ handles.map (·.sequenceNumber)) :
    (bus.cancelScheduled Broker.transport handles w).1 = .ok () ∧
      (bus.cancelScheduled Broker.transport handles w).2.transport.scheduled = before := by
  have opened' : ∀ entry ∈ numbersByResource handles, bus.CanTakeBack w.transport entry.1 := by
    intro entry hentry
    obtain ⟨h, hh, key⟩ := key_of_mem_numbersByResource hentry
    exact key ▸ opened h hh
  obtain ⟨calls, trace, cancelled⟩ := cancelEach_eq going opened'
  rw [cancelScheduled, cancelled]
  refine ⟨rfl, ?_⟩
  simp only [Broker.withdrawn, schedule, mem_numbersByResource]
  exact filter_append_eq_left kept taken

end Bus

end MessageBus
