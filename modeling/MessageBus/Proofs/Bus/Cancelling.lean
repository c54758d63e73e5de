import MessageBus.Proofs.Bus.Composition
import MessageBus.Proofs.Bus.Handling

/-!
# Cancelling while a message is handled

Once the work has been cancelled, nothing that the handler has published is sent and the message
stays unsettled. Whether listeners hear of a failure is up to the error that the handler ends with.
-/

namespace MessageBus

open Outcome World

variable {τ : Type}

theorem listener_not_mem_logs (name : String) (call : ListenerCall) (events : List LogEvent) :
    TraceEntry.listener name call ∉ logs events := by
  simp [logs]

theorem HandlerRun.listener_not_mem_notes (name : String) (call : ListenerCall) (run : HandlerRun) :
    TraceEntry.listener name call ∉ run.notes := by
  intro h
  obtain ⟨effect, -, heq⟩ := List.mem_filterMap.mp h
  cases effect <;> cases heq

namespace Bus

theorem listener_mem_heard {bus : Bus} {name : String} {call : ListenerCall}
    {ending : Option ListenerCall} (h : .listener name call ∈ bus.heard ending) :
    ending = some call := by
  cases ending with
  | none => cases h
  | some other =>
    obtain ⟨_, -, heq⟩ := List.mem_map.mp h
    rw [(TraceEntry.listener.inj heq).2]

def entriesOf (bus : Bus) (a : Arrival) (run : HandlerRun) (during : List LogEvent)
    (ending : Option ListenerCall) (after : List LogEvent) : List TraceEntry :=
  logs [.received a.resourceId a.message.message.id a.message.deliveryCount] ++ run.notes ++
    logs during ++ bus.heard ending ++ logs after

theorem listener_mem_entriesOf {bus : Bus} {a : Arrival} {run : HandlerRun}
    {during after : List LogEvent} {ending : Option ListenerCall} {name : String}
    {call : ListenerCall} (h : .listener name call ∈ bus.entriesOf a run during ending after) :
    ending = some call := by
  simp only [entriesOf, List.mem_append, listener_not_mem_logs,
    HandlerRun.listener_not_mem_notes, false_or, or_false] at h
  exact listener_mem_heard h

/-- If the work has been cancelled by the time that the handler returns, nothing is sent or settled
and listeners hear of no success. The execution passes for cancelled, not for failed, exactly when
the handler has ended well or has ended as cancelled. -/
theorem cancelled_without_failing_iff (T : Transport τ) (bus : Bus) {a : Arrival}
    (accepted : bus.settings.isolation.accepts a.message.message.isolationKey? = true)
    {w : World τ} {run : HandlerRun} (ran : bus.handlerRun? T a w = some run)
    (cancelled : isCancelled T (bus.returned a w run) = true) :
    let result := bus.process T a w
    ∃ entries, result.2.trace = w.trace ++ bus.called (.start (execution a)) ++ entries ∧
      result.2.transport = w.transport ∧
      (∀ name e, .listener name (.success e) ∉ entries) ∧
      ((result.1 = .ok () ∧ ∀ name e problem, .listener name (.failed e problem) ∉ entries) ↔
        run.outcome = .ok () ∨ run.outcome = .error .cancelled) := by
  intro result
  obtain ⟨r, ⟨outcome, world⟩, before, after, followed, processed⟩ :=
    process_of_run T bus accepted ran
  have hresult : result = _ := processed
  rw [hresult]
  obtain ⟨events, trace⟩ := followed.trace
  have reached : world.trace = (bus.returned a w run).trace ++ logs events := trace
  have ended : ¬ bus.EndedWell T a w run := fun ended => by
    cases ended.2.symm.trans cancelled
  have counts : outcome = .ok .cancelled ↔
      run.outcome = .ok () ∨ run.outcome = .error .cancelled := by
    rw [followed.cancelled, CountsCancelled, cancelled, and_iff_left rfl]
    exact or_comm
  refine ⟨bus.entriesOf a run (events ++ before) (verdict a r outcome) after, ?_,
    followed.unsent ended, fun name e h => ?_, ?_⟩
  · simp only [traced, reached, returned, World.ran, entriesOf, logs_append, List.append_assoc]
  · have heard := listener_mem_entriesOf h
    rcases outcome with problem | _ | _
    · cases heard
    · exact ended (followed.completed.mp rfl).1
    · cases heard
  · rw [← counts]
    rcases outcome with problem | _ | _
    · exact iff_of_false (fun h => by cases h.1) (by simp)
    · exact absurd (followed.completed.mp rfl).1 ended
    · refine ⟨fun _ => rfl, fun _ => ⟨rfl, fun name e problem h => ?_⟩⟩
      cases listener_mem_entriesOf h

/-- A handler that cancels and then rejects. -/
theorem rejected_after_cancelling :
    let run : HandlerRun := ⟨[.cancel], .error (.rejected "no stock")⟩
    let bus := desk run
    let w : World Broker := { transport := {} }
    let result := bus.process Broker.transport order w
    bus.Composed ∧ bus.settings.isolation.accepts order.message.message.isolationKey? = true ∧
      bus.handlerRun? Broker.transport order w = some run ∧
      isCancelled Broker.transport (bus.returned order w run) = true ∧
      result.1 ≠ .ok () ∧
      ∃ e problem, .listener "audit" (.failed e problem) ∈ result.2.trace := by
  have composed : (desk ⟨[.cancel], .error (.rejected "no stock")⟩).Composed :=
    ⟨{}, .inOrder, [.serializer blank,
        .receive slip (.queue "orders") none
          ⟨{ name := "Desk" }, fun _ _ => ⟨[.cancel], .error (.rejected "no stock")⟩⟩,
        .listener "audit"],
      { transport := {} }, _, by rfl⟩
  intro run bus w result
  have answer : result.1 = .error (failure order (some "Desk") (.handler (.rejected "no stock"))) :=
    rfl
  have told : result.2.trace.getLast? = some (.listener "audit"
      (.failed { execution order with handler := some "Desk" }
        (.handler (.rejected "no stock")))) := rfl
  refine ⟨composed, by decide, rfl, rfl, fun ok => ?_, _, _, List.mem_of_getLast? told⟩
  cases answer.symm.trans ok

theorem cancelled_without_failing_iff_of_order :
    let run : HandlerRun := ⟨[.cancel], .ok ()⟩
    let bus := desk run
    let w : World Broker := { transport := {} }
    let result := bus.process Broker.transport order w
    bus.settings.isolation.accepts order.message.message.isolationKey? = true ∧
      bus.handlerRun? Broker.transport order w = some run ∧
      isCancelled Broker.transport (bus.returned order w run) = true ∧
      result.1 = .ok () ∧ result.2.transport = w.transport := by
  intro run bus w result
  have accepted : bus.settings.isolation.accepts order.message.message.isolationKey? = true := by
    decide
  have found : bus.handlerRun? Broker.transport order w = some run := rfl
  have cancelled : isCancelled Broker.transport (bus.returned order w run) = true := rfl
  obtain ⟨entries, -, transport, -, iff⟩ :=
    cancelled_without_failing_iff Broker.transport bus accepted found cancelled
  exact ⟨accepted, found, cancelled, (iff.mpr (.inl rfl)).1, transport⟩

end Bus

end MessageBus
