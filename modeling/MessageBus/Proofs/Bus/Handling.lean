import MessageBus.Broker.Receiving
import MessageBus.Bus.Processing
import MessageBus.Proofs.Bus.Logging
import MessageBus.Proofs.Registration.Reception

/-!
# Handling

What processing does with a message that belongs here: the calls of listeners, the run of the
handler, and what becomes of its publications. The transport may be any.
-/

namespace MessageBus

open Outcome World

namespace HandlerRun

def notes (run : HandlerRun) : List TraceEntry :=
  run.effects.filterMap fun
    | .note value => some (.note value)
    | _ => none

def cancels (run : HandlerRun) : Bool :=
  run.effects.any fun
    | .cancel => true
    | _ => false

end HandlerRun

variable {τ ε : Type}

namespace World

def traced (w : World τ) (entries : List TraceEntry) : World τ :=
  { w with trace := w.trace ++ entries }

theorem traced_nil (w : World τ) : w.traced [] = w := by
  simp [traced]

theorem traced_traced (w : World τ) (xs ys : List TraceEntry) :
    (w.traced xs).traced ys = w.traced (xs ++ ys) := by
  simp only [traced, List.append_assoc]

theorem add_log (w : World τ) (event : LogEvent) : w.add (.log event) = w.traced (logs [event]) :=
  rfl

def ran (w : World τ) (run : HandlerRun) : World τ :=
  { w with cancelled := w.cancelled || run.cancels, trace := w.trace ++ run.notes }

end World

namespace Bus

theorem perform_apply (run : HandlerRun) (w : World τ) :
    (perform run.effects : Work τ ε Unit) w = (.ok (), w.ran run) := by
  obtain ⟨effects, outcome⟩ := run
  induction effects generalizing w with
  | nil => simp [perform, World.ran, HandlerRun.notes, HandlerRun.cancels]
  | cons effect rest ih =>
    cases effect with
    | publish d => exact ih w
    | cancel =>
      refine (ih { w with cancelled := true }).trans ?_
      simp [World.ran, HandlerRun.notes, HandlerRun.cancels]
    | note value =>
      refine (ih (w.add (.note value))).trans ?_
      simp [World.ran, World.add, HandlerRun.notes, HandlerRun.cancels]

def called (bus : Bus) (call : ListenerCall) : List TraceEntry :=
  bus.listeners.map (.listener · call)

def heard (bus : Bus) (ending : Option ListenerCall) : List TraceEntry := ending.elim [] bus.called

theorem notify_apply (bus : Bus) (call : ListenerCall) (w : World τ) :
    bus.notify call w = (.ok (), w.traced (bus.called call)) := by
  have all (names : List String) : names.foldl (fun w name => w.add (.listener name call)) w =
      w.traced (names.map (.listener · call)) := by
    induction names generalizing w with
    | nil => simp [World.traced]
    | cons name names ih => exact (ih _).trans (by simp [World.traced, World.add])
  rw [notify, modify_apply, all]
  rfl

variable (T : Transport τ) (bus : Bus) (a : Arrival) (w : World τ)

def runOf (r : ReceptionRegistration) (payload : Json) : HandlerRun :=
  r.handler.run payload ⟨a.kind, a.resourceId, a.message, isCancelled T w⟩

/-- The run of the handler on a message, if there is one. -/
def handlerRun? : Option HandlerRun := do
  let payloadTypeId ← a.message.message.payloadTypeId?
  let r ← bus.receptions.find? payloadTypeId a.resourceId a.kind
  match decode r a.message.message with
  | .ok payload => some (runOf T a w r payload)
  | .error _ => none

def returned (run : HandlerRun) : World τ :=
  (w.traced (bus.called (.start (execution a)) ++
    logs [.received a.resourceId a.message.message.id a.message.deliveryCount])).ran run

def flush (run : HandlerRun) : Work τ DispatchError Unit :=
  if run.publications.isEmpty then pure ()
  else bus.send T run.publications (some a.message.inbound)

theorem quiet_flush (run : HandlerRun) : Quiet (bus.flush T a run) :=
  quiet_ite (quiet_pure _) (quiet_send T bus _ _)

variable {T bus a}

theorem execute_undecoded {r : ReceptionRegistration} {problem : ReceptionError}
    (h : decode r a.message.message = .error problem) :
    bus.execute T a r w = (.error problem, w) := by
  rw [execute, h]
  rfl

theorem execute_decoded {r : ReceptionRegistration} {payload : Json}
    (h : decode r a.message.message = .ok payload) :
    let run := runOf T a w r payload
    bus.execute T a r w =
      match run.outcome with
      | .error .cancelled => (.ok .cancelled, w.ran run)
      | .error problem => (.error (.handler problem), w.ran run)
      | .ok _ =>
        if isCancelled T (w.ran run) then
          (.ok .cancelled,
            (w.ran run).traced (logs [.discarded a.message.message.id run.publications.length]))
        else
          let flushed := bus.flush T a run (w.ran run)
          ((flushed.1.mapError .publish).map fun _ => .completed, flushed.2) := by
  intro run
  have given : r.handler.run payload ⟨a.kind, a.resourceId, a.message, isCancelled T w⟩ = run := rfl
  rw [execute, h]
  dsimp only
  rw [bind_ok (get_apply w), given, bind_ok (perform_apply run w)]
  cases run.outcome with
  | error problem => cases problem <;> rfl
  | ok _ =>
    simp only [bind_ok (get_apply (w.ran run)), Outcome.ite_apply, flush]
    by_cases cancelled : isCancelled T (w.ran run) = true
    · rw [if_pos cancelled, if_pos cancelled]
      rfl
    · rw [if_neg cancelled, if_neg cancelled]
      by_cases nothing : run.publications.isEmpty = true
      · rw [if_pos nothing, if_pos nothing]
        rfl
      · rw [if_neg nothing, if_neg nothing, bind_apply, raising_apply]
        rcases bus.send T run.publications (some a.message.inbound) (w.ran run) with ⟨_ | _, after⟩
        · rfl
        · rfl

variable (T bus a)

def EndedWell (run : HandlerRun) : Prop :=
  run.outcome = .ok () ∧ isCancelled T (bus.returned a w run) = false

def CountsCancelled (run : HandlerRun) : Prop :=
  run.outcome = .error .cancelled ∨
    run.outcome = .ok () ∧ isCancelled T (bus.returned a w run) = true

/-- How the execution of a handler goes on after its run. -/
structure Executed (run : HandlerRun) (result : Except ReceptionError Ending × World τ) :
    Prop where
  trace : ∃ events, result.2.trace = (bus.returned a w run).trace ++ logs events
  sent : bus.EndedWell T a w run → result.2 = (bus.flush T a run (bus.returned a w run)).2
  unsent : ¬ bus.EndedWell T a w run → result.2.transport = w.transport
  completed : result.1 = .ok .completed ↔
    bus.EndedWell T a w run ∧ (bus.flush T a run (bus.returned a w run)).1 = .ok ()
  cancelled : result.1 = .ok .cancelled ↔ bus.CountsCancelled T a w run

variable {T bus a w} {run : HandlerRun}

theorem EndedWell.not_countsCancelled (h : bus.EndedWell T a w run) :
    ¬ bus.CountsCancelled T a w run := by
  rintro (outcome | ⟨-, cancelled⟩)
  · cases h.1.symm.trans outcome
  · cases h.2.symm.trans cancelled

theorem executed_of_countsCancelled (h : bus.CountsCancelled T a w run) (events : List LogEvent) :
    bus.Executed T a w run (.ok .cancelled, (bus.returned a w run).traced (logs events)) where
  trace := ⟨events, rfl⟩
  sent := fun ended => absurd h ended.not_countsCancelled
  unsent := fun _ => rfl
  completed := iff_of_false (by simp) fun ended => ended.1.not_countsCancelled h
  cancelled := ⟨fun _ => h, fun _ => rfl⟩

theorem executed_of_failed {problem : HandlerError} (h : run.outcome = .error problem)
    (other : problem ≠ .cancelled) :
    bus.Executed T a w run (.error (.handler problem), bus.returned a w run) := by
  have ended : ¬ bus.EndedWell T a w run := fun ended => by cases h.symm.trans ended.1
  have counts : ¬ bus.CountsCancelled T a w run := by
    rintro (outcome | ⟨outcome, -⟩)
    · exact other (Except.error.inj (h.symm.trans outcome))
    · cases h.symm.trans outcome
  constructor
  case trace => exact ⟨[], (List.append_nil _).symm⟩
  case sent => exact fun h => absurd h ended
  case unsent => exact fun _ => rfl
  case completed => exact iff_of_false (by simp) fun h => ended h.1
  case cancelled => exact iff_of_false (by simp) counts

theorem executed_of_endedWell (h : bus.EndedWell T a w run) :
    let flushed := bus.flush T a run (bus.returned a w run)
    bus.Executed T a w run
      ((flushed.1.mapError .publish).map fun _ => .completed, flushed.2) := by
  intro flushed
  constructor
  case trace => exact (quiet_flush T bus a run (bus.returned a w run)).trace
  case sent => exact fun _ => rfl
  case unsent => exact fun other => absurd h other
  case completed =>
    change ((flushed.1.mapError _).map _ = _) ↔ _ ∧ flushed.1 = _
    cases flushed.1 with
    | error problem => exact iff_of_false (fun h => by cases h) fun h => by cases h.2
    | ok _ => exact ⟨fun _ => ⟨h, rfl⟩, fun _ => rfl⟩
  case cancelled =>
    refine ⟨fun other => ?_, fun other => absurd other h.not_countsCancelled⟩
    change (flushed.1.mapError _).map _ = _ at other
    cases hflushed : flushed.1 <;> rw [hflushed] at other <;> cases other

theorem executed_of_decoded {r : ReceptionRegistration} {payload : Json}
    (h : decode r a.message.message = .ok payload) :
    bus.Executed T a w (runOf T a w r payload) (bus.execute T a r
      (w.traced (bus.called (.start (execution a)) ++
        logs [.received a.resourceId a.message.message.id a.message.deliveryCount]))) := by
  let begun := w.traced (bus.called (.start (execution a)) ++
    logs [.received a.resourceId a.message.message.id a.message.deliveryCount])
  have executed : bus.execute T a r begun = _ := execute_decoded begun h
  -- Whether the work has been cancelled does not depend on what has been traced.
  have same : runOf T a begun r payload = runOf T a w r payload := rfl
  simp only [same] at executed
  generalize runOf T a w r payload = run at executed
  have hreturned : begun.ran run = bus.returned a w run := rfl
  simp only [hreturned] at executed
  rw [executed]
  rcases outcome : run.outcome with problem | ⟨⟩
  · cases problem with
    | cancelled =>
      have counts : bus.Executed T a w run _ := executed_of_countsCancelled (.inl outcome) []
      rwa [logs_nil, traced_nil] at counts
    | rejected reason => exact executed_of_failed outcome (by simp)
    | other text => exact executed_of_failed outcome (by simp)
  · by_cases cancelled : isCancelled T (bus.returned a w run) = true
    · simp only [cancelled, if_true]
      exact executed_of_countsCancelled (.inr ⟨outcome, cancelled⟩) _
    · simp only [cancelled]
      exact executed_of_endedWell ⟨outcome, Bool.eq_false_iff.mpr cancelled⟩

def executionBy (a : Arrival) (r : ReceptionRegistration) : Execution :=
  { execution a with handler := some r.handler.type.name }

/-- What listeners hear of an execution once it is over. -/
def verdict (a : Arrival) (r : ReceptionRegistration) :
    Except ReceptionError Ending → Option ListenerCall
  | .ok .cancelled => none
  | .ok .completed => some (.success (executionBy a r))
  | .error problem => some (.failed (executionBy a r) problem)

theorem handle_apply (T : Transport τ) (bus : Bus) (a : Arrival) (r : ReceptionRegistration)
    (payloadTypeId : String) (w : World τ) :
    let executed := bus.execute T a r
      (w.traced (logs [.received a.resourceId a.message.message.id a.message.deliveryCount]))
    ∃ before after, bus.handle T a r payloadTypeId w =
      (executed.1.map fun _ => (), executed.2.traced
        (logs before ++ bus.heard (verdict a r executed.1) ++ logs after)) := by
  intro executed
  have begun : bus.handle T a r payloadTypeId w = _ := bind_ok (log_apply _ w) _
  have attempted : (attempt (bus.execute T a r) : Work τ ReceptionError _)
      (w.add (.log (.received a.resourceId a.message.message.id a.message.deliveryCount))) =
        (.ok executed.1, executed.2) := rfl
  rw [begun, bind_ok attempted]
  rcases executed with ⟨problem | _ | _, after⟩
  · refine ⟨[.handlingFailed a.kind a.resourceId a.message.message.id payloadTypeId
      (simpleName r.handler.type.name) problem], [], ?_⟩
    dsimp only
    rw [bind_ok (log_apply _ after), bind_ok (notify_apply bus _ _), add_log, traced_traced,
      logs_nil, List.append_nil]
    rfl
  · refine ⟨[], [.handled a.kind a.resourceId a.message.message.id payloadTypeId
      (simpleName r.handler.type.name)], ?_⟩
    dsimp only
    rw [bind_ok (notify_apply bus _ _), log_apply, add_log, traced_traced]
    rfl
  · exact ⟨[.leftUnsettled a.kind a.resourceId a.message.message.id payloadTypeId
      (simpleName r.handler.type.name)], [], rfl⟩

section Processing

variable {bus : Bus} {a : Arrival} (T : Transport τ) (w : World τ)

theorem raising_notify_apply {δ : Type} (wrap : ReceptionError → δ) (call : ListenerCall) :
    (raising wrap (bus.notify call)) w = (.ok (), w.traced (bus.called call)) := by
  rw [raising_apply, notify_apply]
  rfl

variable (accepted : bus.settings.isolation.accepts a.message.message.isolationKey? = true)
include accepted

theorem process_untyped (untyped : a.message.message.payloadTypeId? = none) :
    bus.process T a w = (.error (failure a none .missingPayloadTypeId),
      w.traced (bus.called (.start (execution a)) ++
        bus.called (.failed (execution a) .missingPayloadTypeId))) := by
  rw [process]
  simp only [accepted, Bool.not_true, Bool.false_eq_true, if_false, untyped]
  rw [bind_ok (raising_notify_apply w _ _), bind_ok (raising_notify_apply _ _ _), traced_traced]
  rfl

variable {payloadTypeId : String} (typed : a.message.message.payloadTypeId? = some payloadTypeId)
include typed

theorem process_unhandled
    (none_found : bus.receptions.find? payloadTypeId a.resourceId a.kind = none) :
    bus.process T a w = (.ok (), w.traced (bus.called (.start (execution a)) ++
      logs [.ignored a.kind a.resourceId a.message.message.id payloadTypeId])) := by
  rw [process]
  simp only [accepted, Bool.not_true, Bool.false_eq_true, if_false, typed]
  rw [bind_ok (raising_notify_apply w _ _), none_found]
  exact congrArg _ (traced_traced w _ _)

theorem process_found {r : ReceptionRegistration}
    (found : bus.receptions.find? payloadTypeId a.resourceId a.kind = some r) :
    let begun := w.traced (bus.called (.start (execution a)) ++
      logs [.received a.resourceId a.message.message.id a.message.deliveryCount])
    let executed := bus.execute T a r begun
    ∃ before after, bus.process T a w =
      ((executed.1.map fun _ => ()).mapError (failure a (some r.handler.type.name)),
        executed.2.traced (logs before ++ bus.heard (verdict a r executed.1) ++ logs after)) := by
  intro begun executed
  obtain ⟨before, after, handled⟩ := handle_apply T bus a r payloadTypeId
    (w.traced (bus.called (.start (execution a))))
  rw [traced_traced] at handled
  refine ⟨before, after, ?_⟩
  rw [process]
  simp only [accepted, Bool.not_true, Bool.false_eq_true, if_false, typed]
  rw [bind_ok (raising_notify_apply w _ _), found]
  exact (raising_apply _ _ _).trans (by rw [handled])

end Processing

theorem handlerRun?_eq_some_iff (T : Transport τ) (bus : Bus) (a : Arrival) (w : World τ)
    (run : HandlerRun) :
    bus.handlerRun? T a w = some run ↔
      ∃ payloadTypeId r payload, a.message.message.payloadTypeId? = some payloadTypeId ∧
        bus.receptions.find? payloadTypeId a.resourceId a.kind = some r ∧
        decode r a.message.message = .ok payload ∧
        r.handler.run payload ⟨a.kind, a.resourceId, a.message, isCancelled T w⟩ = run := by
  simp only [handlerRun?, Option.bind_eq_bind, Option.bind_eq_some_iff]
  constructor
  · rintro ⟨payloadTypeId, typed, r, found, h⟩
    cases decoded : decode r a.message.message with
    | error problem =>
      rw [decoded] at h
      cases h
    | ok payload =>
      rw [decoded] at h
      exact ⟨payloadTypeId, r, payload, typed, found, decoded, Option.some.inj h⟩
  · rintro ⟨payloadTypeId, r, payload, typed, found, decoded, rfl⟩
    exact ⟨payloadTypeId, typed, r, found, by rw [decoded]; rfl⟩

section Protocol

variable {T : Transport τ} {bus : Bus} {a : Arrival} {w : World τ}
  {result : Except ProcessFailure Unit × World τ}

theorem process_of_run (T : Transport τ) (bus : Bus) {a : Arrival}
    (accepted : bus.settings.isolation.accepts a.message.message.isolationKey? = true)
    {w : World τ} {run : HandlerRun} (h : bus.handlerRun? T a w = some run) :
    ∃ r executed before after, bus.Executed T a w run executed ∧ bus.process T a w =
      ((executed.1.map fun _ => ()).mapError (failure a (some r.handler.type.name)),
        executed.2.traced (logs before ++ bus.heard (verdict a r executed.1) ++ logs after)) := by
  obtain ⟨payloadTypeId, r, payload, typed, found, decoded, rfl⟩ :=
    (handlerRun?_eq_some_iff T bus a w run).mp h
  obtain ⟨before, after, processed⟩ := process_found T w accepted typed found
  exact ⟨r, _, before, after, executed_of_decoded decoded, processed⟩

end Protocol

-- A bus with one listener and one handler, whose run may be any.

def slip : PayloadType := { name := "Slip", typeId := "slip", shape := .any }

def blank : Serializer where
  contentType := "text/plain"
  encode := fun _ => .ok []
  decode := fun _ _ => .ok .null

def desk (run : HandlerRun) : Bus where
  receptions :=
    .insert {} ⟨.queue "orders", slip, "slip", blank, ⟨{ name := "Desk" }, fun _ _ => run⟩⟩
  directory := { receivers := [.queue "orders"] }
  listeners := ["audit"]

def order : Arrival where
  kind := .queue
  resourceId := "orders"
  message :=
    { message := { id := "m1", properties := [(Property.payloadTypeId, .text "slip")] }
      lockToken := .issued 0 }
  entity := "orders"

end Bus

end MessageBus
