import MessageBus.Proofs.Broker.Conservation

/-!
# The schedule

Scheduled messages are kept under their sequence numbers, in the order of these numbers. Every
number on the schedule was handed out for it and for nothing else, so a number handed out later is
not on it.
-/

namespace MessageBus.Broker

def scheduledNumbers (ss : List Scheduled) : List Int := ss.map (·.sequenceNumber)

namespace Account

/-- The schedule is in the order of its numbers, and each of them was handed out for it. -/
structure OnSchedule (a : Account) : Prop where
  sorted : (scheduledNumbers a.contents.scheduled).Pairwise (· < ·)
  reserved : scheduledNumbers a.contents.scheduled ⊆ a.history.reserved

theorem OnSchedule.of_sublist {a b : Account} (h : a.OnSchedule)
    (kept : b.contents.scheduled.Sublist a.contents.scheduled)
    (reserved : b.history.reserved = a.history.reserved) : b.OnSchedule where
  sorted := h.sorted.sublist (kept.map _)
  reserved := by
    rw [reserved]
    exact List.Subset.trans (kept.map _).subset h.reserved

theorem OnSchedule.schedule {a : Account} (h : a.OnSchedule) (numbers : a.NumbersDistinct)
    (entity : String) (due : Int) (ms : List Message) :
    (a.apply (.schedule entity due ms)).OnSchedule := by
  constructor
  · simp only [scheduledNumbers, apply, Contents.apply, List.map_append, List.pairwise_append]
    refine ⟨h.sorted, List.pairwise_map.mpr (scheduleEntries_pairwise _ _ _ _), ?_⟩
    intro old hold new hnew
    -- What is on the schedule was handed out before, and new numbers start behind all of these.
    have handed_out : old ∈ a.history.numbers := List.mem_append_left _ (h.reserved hold)
    have below := numbers.below old handed_out
    obtain ⟨s, hs, rfl⟩ := List.mem_map.mp hnew
    have := (mem_scheduleEntries hs).1
    omega
  · simp only [scheduledNumbers, apply, Contents.apply, List.map_append]
    intro n hn
    exact List.mem_append.mpr ((List.mem_append.mp hn).imp_left fun old => h.reserved old)

theorem OnSchedule.apply {a : Account} (h : a.OnSchedule) (numbers : a.NumbersDistinct)
    (e : Effect) : (a.apply e).OnSchedule := by
  cases e with
  | schedule entity due ms => exact h.schedule numbers entity due ms
  | withdraw keep => exact h.of_sublist List.filter_sublist rfl
  | clear => exact h.of_sublist (List.nil_sublist _) rfl
  | _ => exact h.of_sublist (.refl _) rfl

end Account

theorem account_onSchedule (maxBatchSize : Nat) (requests : List Request) :
    (account maxBatchSize requests).OnSchedule := by
  have both : (account maxBatchSize requests).NumbersDistinct ∧
      (account maxBatchSize requests).OnSchedule := by
    refine run_induction (P := fun a => a.NumbersDistinct ∧ a.OnSchedule) ?_ ?_ requests
    · exact ⟨(account_sound maxBatchSize []).numbers, .nil, List.nil_subset _⟩
    · exact fun a e h _ => ⟨h.1.apply e, h.2.apply h.1 e⟩
  exact both.2

theorem schedule_of_run (maxBatchSize : Nat) (requests : List Request) :
    let b := (start maxBatchSize).run requests
    let used := ((start maxBatchSize).history {} requests).numbers
    (scheduledNumbers b.scheduled).Pairwise (· < ·) ∧ scheduledNumbers b.scheduled ⊆ used ∧
      ∀ n ∈ used, n < b.sequence := by
  intro b used
  have onSchedule := account_onSchedule maxBatchSize requests
  refine ⟨onSchedule.sorted, fun n hn => ?_, ?_⟩
  · exact List.mem_append_left _ (onSchedule.reserved hn)
  · exact (account_sound maxBatchSize requests).numbers.below

end MessageBus.Broker
