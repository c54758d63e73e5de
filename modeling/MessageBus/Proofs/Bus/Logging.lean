import MessageBus.Bus.Processing
import MessageBus.Proofs.Outcome

/-!
# Work that only logs

Sending and rerouting tell about themselves in log events. They call no listener, run no handler and
do not cancel the operation in progress, whatever the transport does.
-/

namespace MessageBus

open Outcome

def logs (events : List LogEvent) : List TraceEntry := events.map .log

@[simp] theorem logs_nil : logs [] = [] := rfl

theorem logs_append (xs ys : List LogEvent) : logs (xs ++ ys) = logs xs ++ logs ys :=
  List.map_append

variable {τ ε δ α β : Type}

namespace World

/-- A world and one after it, between which nothing was traced but log events. -/
structure OnlyLogged (before after : World τ) : Prop where
  trace : ∃ events, after.trace = before.trace ++ logs events
  cancelled : after.cancelled = before.cancelled

theorem OnlyLogged.refl (w : World τ) : OnlyLogged w w :=
  ⟨⟨[], (List.append_nil _).symm⟩, rfl⟩

theorem OnlyLogged.trans {a b c : World τ} (h : OnlyLogged a b) (h' : OnlyLogged b c) :
    OnlyLogged a c := by
  obtain ⟨events, trace⟩ := h.trace
  obtain ⟨events', trace'⟩ := h'.trace
  refine ⟨⟨events ++ events', ?_⟩, h'.cancelled.trans h.cancelled⟩
  rw [trace', trace, logs_append, List.append_assoc]

/-- Work that traces nothing but log events, whether it fails or not. -/
def Quiet (work : Work τ ε α) : Prop := ∀ w, OnlyLogged w (work w).2

theorem quiet_pure (a : α) : Quiet (pure a : Work τ ε α) := .refl

theorem quiet_throw (e : ε) : Quiet (throw e : Work τ ε α) := .refl

theorem quiet_get : Quiet (get : Work τ ε (World τ)) := .refl

theorem Quiet.bind {m : Work τ ε α} {k : α → Work τ ε β} (first : Quiet m)
    (rest : ∀ a, Quiet (k a)) : Quiet (m >>= k) := by
  intro w
  rw [bind_apply]
  have before := first w
  rcases hm : m w with ⟨_ | a, between⟩ <;> rw [hm] at before
  · exact before
  · exact before.trans (rest a between)

theorem quiet_ite {c : Prop} [Decidable c] {x y : Work τ ε α} (hx : Quiet x) (hy : Quiet y) :
    Quiet (if c then x else y) := by
  by_cases h : c
  · rwa [if_pos h]
  · rwa [if_neg h]

theorem quiet_log (event : LogEvent) : Quiet (log event : Work τ ε Unit) :=
  fun _ => ⟨⟨[event], rfl⟩, rfl⟩

theorem quiet_call (c : Call τ α) : Quiet (call c) := fun w =>
  ⟨(OnlyLogged.refl w).trace, rfl⟩

theorem quiet_drawing (work : ExceptT ε (StateM IdSupply) α) :
    Quiet (drawing work : Work τ ε α) := fun w => ⟨(OnlyLogged.refl w).trace, rfl⟩

theorem quiet_freshId : Quiet (freshId : Work τ ε String) := fun w =>
  ⟨(OnlyLogged.refl w).trace, rfl⟩

theorem quiet_temporaries (f : List (String × Sender) → List (String × Sender)) :
    Quiet (modify fun w => { w with temporaries := f w.temporaries } : Work τ ε Unit) := fun w =>
  ⟨(OnlyLogged.refl w).trace, rfl⟩

theorem Quiet.raising {work : Work τ ε α} (h : Quiet work) (wrap : ε → δ) :
    Quiet (raising wrap work) := h

theorem Quiet.attempt {work : Work τ ε α} (h : Quiet work) :
    Quiet (attempt work : Work τ δ (Except ε α)) := h

theorem quiet_newBatch (T : Transport τ) (limit : Option UInt64) (s : Sender)
    (resourceId : String) : Quiet (newBatch T limit s resourceId) :=
  (quiet_call _).raising _

theorem quiet_fillBatches (T : Transport τ) (limit : Option UInt64) (s : Sender)
    (resourceId : String) (ms : List Message) (current : Batch) :
    Quiet (fillBatches T limit s resourceId current ms) := by
  induction ms generalizing current with
  | nil => exact quiet_pure _
  | cons m rest ih =>
    rw [fillBatches]
    cases current.tryAdd m with
    | some larger => exact ih larger
    | none =>
      refine quiet_ite (quiet_throw _) ((quiet_log _).bind fun _ => ?_)
      refine (quiet_newBatch T limit s resourceId).bind fun next => ?_
      cases next.tryAdd m with
      | none => exact quiet_throw _
      | some next => exact (ih next).bind fun _ => quiet_pure _

theorem quiet_createBatches (T : Transport τ) (limit : Option UInt64) (s : Sender)
    (resourceId : String) (ms : List Message) :
    Quiet (createBatches T limit s resourceId ms) :=
  (quiet_newBatch T limit s resourceId).bind fun batch =>
    quiet_fillBatches T limit s resourceId ms batch

end World

namespace Bus

open World

theorem quiet_groups (bus : Bus) (dispatches : List Dispatch) (inbound : Option Inbound) :
    Quiet (bus.groups dispatches inbound : Work τ DispatchError (List Group)) := by
  refine (quiet_drawing _).bind fun outgoing => ?_
  cases outgoing.foldlM bus.addToGroup [] with
  | error problem => exact quiet_throw _
  | ok groups => exact quiet_pure _

theorem quiet_checkCancelled (T : Transport τ) : Quiet (checkCancelled T) :=
  quiet_get.bind fun _ => quiet_ite (quiet_throw _) (quiet_pure _)

theorem quiet_sendBatches (T : Transport τ) (g : Group) (batches : List Batch) :
    Quiet (sendBatches T g batches) := by
  induction batches with
  | nil => exact quiet_pure _
  | cons batch rest ih =>
    exact (quiet_checkCancelled T).bind fun _ => ((quiet_call _).raising _).bind fun _ =>
      (quiet_log _).bind fun _ => ih

theorem quiet_sendGroup (T : Transport τ) (bus : Bus) (g : Group) : Quiet (sendGroup T bus g) :=
  (quiet_checkCancelled T).bind fun _ => (quiet_createBatches T _ _ _ _).bind fun batches =>
    (quiet_sendBatches T g batches).bind fun _ => quiet_log _

theorem quiet_sendGroups (T : Transport τ) (bus : Bus) (groups : List Group) :
    Quiet (sendGroups T bus groups) := by
  induction groups with
  | nil => exact quiet_pure _
  | cons g rest ih =>
    refine (quiet_sendGroup T bus g).attempt.bind fun first => ih.attempt.bind fun others => ?_
    rcases first with problem | _
    · exact quiet_throw _
    · rcases others with problem | _
      · exact quiet_throw _
      · exact quiet_pure _

theorem quiet_send (T : Transport τ) (bus : Bus) (dispatches : List Dispatch)
    (inbound : Option Inbound) : Quiet (bus.send T dispatches inbound) :=
  (quiet_groups bus dispatches inbound).bind fun groups => quiet_sendGroups T bus groups

theorem quiet_trackTemporary (s : Sender) : Quiet (trackTemporary s : Work τ ε String) :=
  quiet_freshId.bind fun id => (quiet_log _).bind fun _ =>
    (quiet_temporaries (· ++ [(id, s)])).bind fun _ => quiet_pure _

theorem quiet_releaseTemporary (T : Transport τ) (id : String) :
    Quiet (releaseTemporary T id : Work τ ε Unit) := by
  refine quiet_get.bind fun w => ?_
  cases w.temporaries.lookup id with
  | none => exact quiet_pure _
  | some s =>
    refine (quiet_temporaries (·.filter (·.1 != id))).bind fun _ => ?_
    refine (quiet_call _).attempt.bind fun outcome => ?_
    rcases outcome with error | _
    · exact quiet_log _
    · exact quiet_log _

theorem quiet_resend (T : Transport τ) (bus : Bus) (target : Resource) (m : Message) :
    Quiet (bus.resend T target m) := by
  rw [resend]
  cases bus.directory.findSender? target.kind target.entity target.connection with
  | some registered => exact (quiet_log _).bind fun _ => quiet_call _
  | none =>
    refine (quiet_call _).bind fun s => (quiet_trackTemporary s).bind fun id => ?_
    refine (quiet_call _).attempt.bind fun outcome => ?_
    refine (quiet_releaseTemporary T id).bind fun _ => ?_
    rcases outcome with error | _
    · exact quiet_throw _
    · exact quiet_pure _

theorem quiet_reroute (T : Transport τ) (bus : Bus) (a : Arrival) : Quiet (bus.reroute T a) := by
  refine (quiet_call _).attempt.bind fun completed => ?_
  refine (quiet_resend T bus _ _).attempt.bind fun resent => (quiet_log _).bind fun _ => ?_
  cases RerouteError.ofOutcomes completed resent with
  | none => exact quiet_pure _
  | some error => exact quiet_throw _

theorem process_foreign {bus : Bus} {a : Arrival}
    (foreign : bus.settings.isolation.accepts a.message.message.isolationKey? = false)
    (T : Transport τ) (w : World τ) :
    bus.process T a w =
      ((bus.reroute T a w).1.mapError (fun error => failure a none (.reroute error)),
        (bus.reroute T a w).2) := by
  rw [process]
  simp only [foreign, Bool.not_false, if_true]
  exact raising_apply _ _ _

end Bus

end MessageBus
