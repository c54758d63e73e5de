import MessageBus.Proofs.Bus.Publishing

/-!
# Errors of sending and scheduling

Sending and scheduling dispatches on a composed bus fail for many reasons, but over no transport for
want of a sender.
-/

namespace MessageBus

open Outcome

/-- The error is that there is no sender, also if something was scheduled before. -/
def DispatchError.LacksSender : DispatchError → Prop
  | .senderNotFound .. => True
  | .partialSchedule _ source => source.LacksSender
  | _ => False

namespace World

variable {τ ε δ α β : Type} {allowed : ε → Prop}

/-- Work that fails with allowed errors only. -/
def FailsOnly (allowed : ε → Prop) (work : Work τ ε α) : Prop :=
  ∀ w problem, (work w).1 = .error problem → allowed problem

theorem failsOnly_pure (a : α) : FailsOnly allowed (pure a : Work τ ε α) := by
  intro w problem h
  cases h

theorem failsOnly_throw {problem : ε} (h : allowed problem) :
    FailsOnly allowed (throw problem : Work τ ε α) := by
  intro w other hother
  cases hother
  exact h

theorem FailsOnly.bind {m : Work τ ε α} {k : α → Work τ ε β} (first : FailsOnly allowed m)
    (rest : ∀ a, FailsOnly allowed (k a)) : FailsOnly allowed (m >>= k) := by
  intro w problem h
  rw [bind_apply] at h
  have early := first w problem
  rcases hm : m w with ⟨source | a, between⟩ <;> rw [hm] at h early
  · cases h
    exact early rfl
  · exact rest a between problem h

theorem failsOnly_get : FailsOnly allowed (get : Work τ ε (World τ)) := by
  intro w problem h
  cases h

theorem failsOnly_log (event : LogEvent) : FailsOnly allowed (log event : Work τ ε Unit) := by
  intro w problem h
  cases h

theorem failsOnly_ite {c : Prop} [Decidable c] {x y : Work τ ε α} (hx : FailsOnly allowed x)
    (hy : FailsOnly allowed y) : FailsOnly allowed (if c then x else y) := by
  by_cases h : c
  · rwa [if_pos h]
  · rwa [if_neg h]

theorem failsOnly_raising {wrap : δ → ε} (h : ∀ source, allowed (wrap source))
    (work : Work τ δ α) : FailsOnly allowed (raising wrap work) := by
  intro w problem hproblem
  rw [raising_apply] at hproblem
  cases hw : (work w).1 with
  | error source =>
    rw [hw] at hproblem
    cases hproblem
    exact h source
  | ok a =>
    rw [hw] at hproblem
    cases hproblem

end World

namespace Bus

open World

/-- Work that never lacks a sender. -/
abbrev Served {τ α : Type} (work : Work τ DispatchError α) : Prop :=
  FailsOnly (fun problem => ¬ problem.LacksSender) work

section Served

variable {τ : Type} (T : Transport τ)

theorem served_newBatch (limit : Option UInt64) (s : Sender) (resourceId : String) :
    Served (newBatch T limit s resourceId) :=
  failsOnly_raising (fun _ => id) _

theorem served_fillBatches (limit : Option UInt64) (s : Sender) (resourceId : String)
    (ms : List Message) (current : Batch) :
    Served (fillBatches T limit s resourceId current ms) := by
  induction ms generalizing current with
  | nil => exact failsOnly_pure _
  | cons m rest ih =>
    rw [fillBatches]
    cases current.tryAdd m with
    | some larger => exact ih larger
    | none =>
      refine failsOnly_ite (failsOnly_throw id) ((failsOnly_log _).bind fun _ => ?_)
      refine (served_newBatch T limit s resourceId).bind fun next => ?_
      cases next.tryAdd m with
      | none => exact failsOnly_throw id
      | some next => exact (ih next).bind fun _ => failsOnly_pure _

theorem served_checkCancelled : Served (checkCancelled T) :=
  failsOnly_get.bind fun _ => failsOnly_ite (failsOnly_throw id) (failsOnly_pure _)

theorem served_sendBatches (g : Group) (batches : List Batch) :
    Served (sendBatches T g batches) := by
  induction batches with
  | nil => exact failsOnly_pure _
  | cons batch rest ih =>
    exact (served_checkCancelled T).bind fun _ => (failsOnly_raising (fun _ => id) _).bind
      fun _ => (failsOnly_log _).bind fun _ => ih

theorem served_sendGroup (bus : Bus) (g : Group) : Served (sendGroup T bus g) :=
  (served_checkCancelled T).bind fun _ =>
    ((served_newBatch T _ _ _).bind fun batch => served_fillBatches T _ _ _ _ batch).bind
      fun batches => (served_sendBatches T g batches).bind fun _ => failsOnly_log _

theorem served_sendGroups (bus : Bus) (groups : List Group) : Served (sendGroups T bus groups) := by
  induction groups with
  | nil => exact failsOnly_pure _
  | cons g rest ih =>
    intro w problem h
    have first := served_sendGroup T bus g w
    have others := ih (sendGroup T bus g w).2
    simp only [sendGroups, bind_apply, attempt_apply] at h
    cases hg : (sendGroup T bus g w).1 with
    | error source =>
      rw [hg] at h
      cases h
      exact first _ hg
    | ok _ =>
      cases hr : (sendGroups T bus rest (sendGroup T bus g w).2).1 with
      | error source =>
        rw [hg, hr] at h
        cases h
        exact others _ hr
      | ok _ =>
        rw [hg, hr] at h
        cases h

theorem served_schedulePage (g : Group) (due : Int) (page : List Message) :
    Served (schedulePage T g due page) :=
  (served_checkCancelled T).bind fun _ => (failsOnly_raising (fun _ => id) _).bind fun _ =>
    failsOnly_ite (failsOnly_throw id) ((failsOnly_log _).bind fun _ => failsOnly_pure _)

theorem served_schedulePages (g : Group) (due : Int) (pages : List (List Message)) (w : World τ) :
    ∀ problem ∈ (schedulePages T g due pages w).1.2, ¬ problem.LacksSender := by
  induction pages generalizing w with
  | nil => exact fun problem h => nomatch h
  | cons page rest ih =>
    intro problem h
    have first := served_schedulePage T g due page w
    rw [schedulePages, state_bind_apply, ExceptT.run] at h
    rcases hp : schedulePage T g due page w with ⟨source | handles, between⟩ <;> rw [hp] at h first
    · obtain rfl := Option.some.inj h
      exact first _ rfl
    · exact ih between problem h

theorem served_scheduleGroups (bus : Bus) (due : Int) (groups : List Group) (w : World τ) :
    ∀ problem ∈ (scheduleGroups T bus due groups w).1.2, ¬ problem.LacksSender := by
  induction groups generalizing w with
  | nil => exact fun problem h => nomatch h
  | cons g rest ih =>
    let pages := paginate bus.settings.pageSize.toNat g.messages
    have first := served_schedulePages T g due pages w
    have others := ih (schedulePages T g due pages w).2
    intro problem h
    change problem ∈ ((schedulePages T g due pages w).1.2 <|>
      (scheduleGroups T bus due rest (schedulePages T g due pages w).2).1.2) at h
    cases hp : (schedulePages T g due pages w).1.2 with
    | some source =>
      rw [hp] at h first
      exact first problem h
    | none =>
      rw [hp] at h
      exact others problem h

end Served

namespace Composed

variable {τ : Type} {bus : Bus} (composed : bus.Composed) (T : Transport τ) (ds : List Dispatch)
  (inbound : Option Inbound)
include composed

theorem served_groups : Served (bus.groups ds inbound : Work τ DispatchError (List Group)) := by
  intro w problem h
  rw [groups_eq] at h
  cases hmade : bus.made ds inbound w.ids with
  | mk created ids' =>
  rw [hmade] at h
  cases created with
  | error source =>
    cases h
    cases Outgoing.notMade_of_createAll hmade <;> exact id
  | ok outgoing =>
    change bus.grouped outgoing = _ at h
    rw [grouped_of_made composed hmade] at h
    cases h

theorem served_send : Served (bus.send T ds inbound) :=
  (composed.served_groups ds inbound).bind fun groups => served_sendGroups T bus groups

theorem served_schedule (due : Int) : Served (bus.schedule T ds due inbound) := by
  refine (composed.served_groups ds inbound).bind fun groups w problem h => ?_
  have lacking := served_scheduleGroups T bus due groups w
  rw [bind_ok (lift_apply (scheduleGroups T bus due groups) w)] at h
  rcases hs : scheduleGroups T bus due groups w with ⟨⟨handles, _ | source⟩, after⟩ <;>
    rw [hs] at h lacking
  · cases h
  · cases handles with
    | nil =>
      cases h
      exact lacking _ rfl
    | cons handle more =>
      cases h
      exact lacking source rfl

end Composed

end Bus

end MessageBus
