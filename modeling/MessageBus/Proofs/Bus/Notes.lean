import MessageBus.Proofs.Bus.Handling

/-!
# Notes of handlers

Notes in the trace are left by handlers alone: processing adds those of the run of the handler, if
there is one, and no others. A handler that publishes nothing leaves the broker as it was.
-/

namespace MessageBus

open Outcome World

def TraceEntry.note? : TraceEntry → Option Json
  | .note value => some value
  | _ => none

def noted (trace : List TraceEntry) : List Json := trace.filterMap TraceEntry.note?

theorem noted_append (xs ys : List TraceEntry) : noted (xs ++ ys) = noted xs ++ noted ys :=
  List.filterMap_append

@[simp] theorem noted_logs (events : List LogEvent) : noted (logs events) = [] := by
  induction events with
  | nil => rfl
  | cons event rest ih => exact ih

theorem mem_noted {trace : List TraceEntry} {value : Json} :
    value ∈ noted trace ↔ .note value ∈ trace := by
  rw [noted, List.mem_filterMap]
  constructor
  · rintro ⟨entry, hentry, hvalue⟩
    cases entry <;> cases hvalue
    exact hentry
  · exact fun h => ⟨.note value, h, rfl⟩

theorem mem_noted_notes {run : HandlerRun} {value : Json} :
    value ∈ noted run.notes ↔ .note value ∈ run.effects := by
  rw [mem_noted, HandlerRun.notes, List.mem_filterMap]
  constructor
  · rintro ⟨effect, heffect, hentry⟩
    cases effect <;> cases hentry
    exact heffect
  · exact fun h => ⟨.note value, h, rfl⟩

namespace Bus

@[simp] theorem noted_called (bus : Bus) (call : ListenerCall) : noted (bus.called call) = [] := by
  rw [called]
  induction bus.listeners with
  | nil => rfl
  | cons name rest ih => exact ih

@[simp] theorem noted_heard (bus : Bus) (ending : Option ListenerCall) :
    noted (bus.heard ending) = [] := by
  cases ending with
  | none => rfl
  | some call => exact bus.noted_called call

variable {τ : Type} {T : Transport τ} {bus : Bus} {a : Arrival} {w : World τ}

theorem noted_of_foreign
    (foreign : bus.settings.isolation.accepts a.message.message.isolationKey? = false) :
    noted (bus.process T a w).2.trace = noted w.trace := by
  obtain ⟨events, trace⟩ := (quiet_reroute T bus a w).trace
  simp only [process_foreign foreign, trace, noted_append, noted_logs, List.append_nil]

variable (bus) in
theorem execute_of_silent {r : ReceptionRegistration} {payload : Json}
    (decoded : decode r a.message.message = .ok payload) (w : World τ)
    (silent : (runOf T a w r payload).publications = []) :
    ∃ events, (bus.execute T a r w).2 =
      (w.ran (runOf T a w r payload)).traced (logs events) := by
  have executed : bus.execute T a r w = _ := execute_decoded w decoded
  generalize runOf T a w r payload = run at executed silent
  have kept : w.ran run = (w.ran run).traced (logs []) := (traced_nil _).symm
  rw [executed]
  rcases run.outcome with problem | ⟨⟩
  · cases problem <;> exact ⟨[], kept⟩
  · by_cases cancelled : isCancelled T (w.ran run) = true
    · simp only [cancelled, if_true]
      exact ⟨_, rfl⟩
    · simp only [cancelled, flush, silent]
      exact ⟨[], kept⟩

variable (accepted : bus.settings.isolation.accepts a.message.message.isolationKey? = true)
include accepted

theorem process_of_no_run (no_run : bus.handlerRun? T a w = none) :
    ∃ entries, (bus.process T a w).2 = w.traced entries ∧ noted entries = [] := by
  cases typed : a.message.message.payloadTypeId? with
  | none =>
    refine ⟨_, by rw [process_untyped T w accepted typed], ?_⟩
    simp [noted_append]
  | some payloadTypeId =>
    cases found : bus.receptions.find? payloadTypeId a.resourceId a.kind with
    | none =>
      refine ⟨_, by rw [process_unhandled T w accepted typed found], ?_⟩
      simp [noted_append]
    | some r =>
      obtain ⟨before, after, processed⟩ := process_found T w accepted typed found
      cases decoded : decode r a.message.message with
      | error problem =>
        refine ⟨_, by rw [processed, execute_undecoded _ decoded, traced_traced], ?_⟩
        simp [noted_append]
      | ok payload => simp [handlerRun?, typed, found, decoded] at no_run

theorem noted_process :
    noted (bus.process T a w).2.trace =
      noted w.trace ++ noted ((bus.handlerRun? T a w).elim [] HandlerRun.notes) := by
  cases ran : bus.handlerRun? T a w with
  | none =>
    obtain ⟨entries, processed, none_noted⟩ := process_of_no_run accepted ran
    rw [processed]
    exact (noted_append ..).trans (congrArg _ none_noted)
  | some run =>
    obtain ⟨r, executed, before, after, followed, processed⟩ := process_of_run T bus accepted ran
    obtain ⟨events, trace⟩ := followed.trace
    rw [processed]
    simp [traced, trace, returned, World.ran, noted_append]

/-- If the handler publishes nothing, processing changes nothing but the trace and whether the work
counts as cancelled. -/
theorem process_of_silent
    (silent : ∀ run, bus.handlerRun? T a w = some run → run.publications = []) :
    ∃ cancelled trace,
      (bus.process T a w).2 = { w with cancelled := cancelled, trace := trace } := by
  cases ran : bus.handlerRun? T a w with
  | none =>
    obtain ⟨entries, processed, -⟩ := process_of_no_run accepted ran
    exact ⟨w.cancelled, _, processed⟩
  | some run =>
    obtain ⟨payloadTypeId, r, payload, typed, found, decoded, rfl⟩ :=
      (handlerRun?_eq_some_iff T bus a w run).mp ran
    obtain ⟨before, after, processed⟩ := process_found T w accepted typed found
    obtain ⟨events, executed⟩ := execute_of_silent bus decoded
      (w.traced (bus.called (.start (execution a)) ++
        logs [.received a.resourceId a.message.message.id a.message.deliveryCount]))
      (silent _ ran)
    rw [processed, executed]
    exact ⟨_, _, rfl⟩

end Bus

end MessageBus
