import MessageBus.Proofs.Broker.Conservation

/-!
# Reservations

An entry of the schedule names its entity and not the sender that it went through. The reservations
of a run are the entries that were ever put on the schedule, each with its sender: whatever is on
the schedule is one of them, and its number tells which.
-/

namespace MessageBus.Broker

/-- What a request puts on the schedule, and through which sender. -/
def reserving (b : Broker) : Request → List (Sender × Scheduled)
  | .schedule s ms due =>
    match b.sendProblem? s with
    | some _ => []
    | none => (scheduleEntries s.entity due b.sequence ms).map (s, ·)
  | _ => []

def reservations (b : Broker) : List Request → List (Sender × Scheduled)
  | [] => []
  | q :: requests => b.reserving q ++ (b.perform q).reservations requests

theorem entity_of_mem_scheduleEntries {entity : String} {due first : Int} {ms : List Message}
    {e : Scheduled} (h : e ∈ scheduleEntries entity due first ms) : e.entity = entity := by
  induction ms generalizing first with
  | nil => simp [scheduleEntries] at h
  | cons m ms ih =>
    simp only [scheduleEntries, List.mem_cons] at h
    rcases h with rfl | h
    · rfl
    · exact ih h

def Effect.entries (first : Int) : Effect → List Scheduled
  | .schedule entity due ms => scheduleEntries entity due first ms
  | _ => []

theorem Contents.scheduled_apply (c : Contents) (e : Effect) :
    (c.apply e).scheduled.Sublist (c.scheduled ++ e.entries c.sequence) := by
  cases e with
  | schedule entity due ms => exact .refl _
  | withdraw keep => exact List.filter_sublist.trans (List.sublist_append_left ..)
  | clear => exact List.nil_sublist _
  | _ => exact List.sublist_append_left ..

theorem Account.reserved_apply (a : Account) (e : Effect) :
    (a.apply e).history.reserved =
      a.history.reserved ++ (e.entries a.contents.sequence).map (·.sequenceNumber) := by
  cases e with
  | schedule entity due ms => rfl
  | _ => exact (List.append_nil _).symm

theorem effects_reserving (b : Broker) (q : Request) :
    (∃ s due ms, b.effects q = [.schedule s.entity due ms] ∧
        b.reserving q = (scheduleEntries s.entity due b.sequence ms).map (s, ·)) ∨
      b.reserving q = [] ∧ ∀ e ∈ b.effects q, ∀ first, e.entries first = [] := by
  cases q with
  | schedule s ms due =>
    cases h : b.sendProblem? s with
    | some problem => exact .inr (by simp [reserving, effects, h])
    | none => exact .inl ⟨s, due, ms, by simp [effects, h], by simp [reserving, h]⟩
  | sendBatch s batch =>
    cases h : b.batchProblem? s batch <;> simp [reserving, effects, Effect.entries, h]
  | sendMessages s ms => cases h : b.sendProblem? s <;> simp [reserving, effects, Effect.entries, h]
  | cancelScheduled s numbers =>
    by_cases h : s.id ∈ b.closed <;> simp [reserving, effects, Effect.entries, h]
  | complete path r => cases h : b.settleable r <;> simp [reserving, effects, Effect.entries, h]
  | abandon path r => cases h : b.settleable r <;> simp [reserving, effects, Effect.entries, h]
  | deadLetter path r reason =>
    cases h : b.settleable r <;> simp [reserving, effects, Effect.entries, h]
  | _ => simp [reserving, effects, Effect.entries]

section Plain

variable {es : List Effect} (plain : ∀ e ∈ es, ∀ first, e.entries first = [])
include plain

theorem scheduled_foldl_of_plain (c : Contents) :
    (es.foldl Contents.apply c).scheduled.Sublist c.scheduled := by
  induction es generalizing c with
  | nil => exact .refl _
  | cons e es ih =>
    have kept := c.scheduled_apply e
    rw [plain e (List.mem_cons_self ..), List.append_nil] at kept
    exact (ih (fun e he => plain e (List.mem_cons_of_mem _ he)) _).trans kept

theorem reserved_foldl_of_plain (a : Account) :
    (es.foldl Account.apply a).history.reserved = a.history.reserved := by
  induction es generalizing a with
  | nil => rfl
  | cons e es ih =>
    rw [List.foldl_cons, ih fun e he => plain e (List.mem_cons_of_mem _ he), a.reserved_apply,
      plain e (List.mem_cons_self ..), List.map_nil, List.append_nil]

end Plain

theorem mem_scheduled_perform {b : Broker} {q : Request} {e : Scheduled}
    (h : e ∈ (b.perform q).scheduled) : e ∈ b.scheduled ∨ ∃ s, (s, e) ∈ b.reserving q := by
  have after : e ∈ ((b.effects q).foldl Contents.apply b.contents).scheduled :=
    contents_perform b q ▸ h
  rcases effects_reserving b q with ⟨s, due, ms, one, reserving⟩ | ⟨-, plain⟩
  · rw [one] at after
    rcases List.mem_append.mp after with old | new
    · exact .inl old
    · exact .inr ⟨s, reserving ▸ List.mem_map_of_mem new⟩
  · exact .inl ((scheduled_foldl_of_plain plain _).subset after)

theorem reserved_remember (b : Broker) (h : History) (q : Request) :
    (b.remember h q).reserved =
      h.reserved ++ (b.reserving q).map (·.2.sequenceNumber) := by
  rcases effects_reserving b q with ⟨s, due, ms, one, reserving⟩ | ⟨unreserving, plain⟩
  · rw [remember, one, reserving, List.map_map]
    rfl
  · rw [remember, reserved_foldl_of_plain plain, unreserving, List.map_nil, List.append_nil]

theorem entity_of_reserving {b : Broker} {q : Request} {s : Sender} {e : Scheduled}
    (h : (s, e) ∈ b.reserving q) : e.entity = s.entity := by
  rcases effects_reserving b q with ⟨s', due, ms, -, reserving⟩ | ⟨unreserving, -⟩
  · rw [reserving] at h
    obtain ⟨e', he, heq⟩ := List.mem_map.mp h
    cases heq
    exact entity_of_mem_scheduleEntries he
  · rw [unreserving] at h
    cases h

theorem mem_scheduled_run {b : Broker} {requests : List Request} {e : Scheduled}
    (h : e ∈ (b.run requests).scheduled) :
    e ∈ b.scheduled ∨ ∃ s, (s, e) ∈ b.reservations requests := by
  induction requests generalizing b with
  | nil => exact .inl h
  | cons q requests ih =>
    rcases ih h with known | ⟨s, later⟩
    · exact (mem_scheduled_perform known).imp_right
        fun ⟨s, now⟩ => ⟨s, List.mem_append_left _ now⟩
    · exact .inr ⟨s, List.mem_append_right _ later⟩

theorem entity_of_mem_reservations {b : Broker} {requests : List Request} {s : Sender}
    {e : Scheduled} (h : (s, e) ∈ b.reservations requests) : e.entity = s.entity := by
  induction requests generalizing b with
  | nil => cases h
  | cons q requests ih => exact (List.mem_append.mp h).elim entity_of_reserving ih

theorem reserved_history (b : Broker) (h : History) (requests : List Request) :
    (b.history h requests).reserved =
      h.reserved ++ (b.reservations requests).map (·.2.sequenceNumber) := by
  induction requests generalizing b h with
  | nil => exact (List.append_nil _).symm
  | cons q requests ih =>
    rw [history, ih, reserved_remember, reservations, List.map_append, List.append_assoc]

section Start

variable {maxBatchSize : Nat} {requests : List Request}

theorem reserved_of_mem_scheduled {e : Scheduled}
    (h : e ∈ ((start maxBatchSize).run requests).scheduled) :
    ∃ s, (s, e) ∈ (start maxBatchSize).reservations requests ∧ e.entity = s.entity := by
  rcases mem_scheduled_run h with before | ⟨s, reserved⟩
  · cases before
  · exact ⟨s, reserved, entity_of_mem_reservations reserved⟩

theorem reservation_unique {x y : Sender × Scheduled}
    (hx : x ∈ (start maxBatchSize).reservations requests)
    (hy : y ∈ (start maxBatchSize).reservations requests)
    (same : x.2.sequenceNumber = y.2.sequenceNumber) : x = y := by
  have numbers := (account_sound maxBatchSize requests).numbers.distinct
  have reserved := (List.nodup_append.mp numbers).1
  simp only [account, reserved_history] at reserved
  exact List.inj_on_of_nodup_map (f := fun x : Sender × Scheduled => x.2.sequenceNumber)
    reserved hx hy same

end Start

end MessageBus.Broker
