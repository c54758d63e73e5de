import MessageBus.Bus.Rerouting
import MessageBus.Bus.Sending

/-!
# Processing received messages

A received message that belongs here goes to at most one handler, and what the handler publishes is
sent once it has ended well. Listeners hear of the start and of the end, unless the execution was
cancelled or nobody handles the message.
-/

namespace MessageBus

/-- How the execution of a handler ended, short of failing. -/
inductive Ending
  | completed
  | cancelled
  deriving DecidableEq, Repr

namespace Bus

variable {τ : Type}

def notify (bus : Bus) (call : ListenerCall) : Work τ ReceptionError Unit :=
  modify fun w => bus.listeners.foldl (fun w name => w.add (.listener name call)) w

def perform {ε : Type} : List Effect → Work τ ε Unit
  | [] => return
  | .publish _ :: rest => perform rest
  | .cancel :: rest => do
    modify fun w => { w with cancelled := true }
    perform rest
  | .note value :: rest => do
    modify (World.add (.note value))
    perform rest

def decode (r : ReceptionRegistration) (m : Message) : Except ReceptionError Json :=
  (r.serializer.decode r.payloadType m.body).mapError (.deserialization r.payloadTypeId)

/-- Runs the handler, and then sends what it published. Once cancellation is requested, publications
are dropped and the execution counts as cancelled. -/
def execute (T : Transport τ) (bus : Bus) (a : Arrival) (r : ReceptionRegistration) :
    Work τ ReceptionError Ending := do
  match decode r a.message.message with
  | .error problem => throw problem
  | .ok payload =>
    let cancelled := World.isCancelled T (← get)
    let run := r.handler.run payload ⟨a.kind, a.resourceId, a.message, cancelled⟩
    perform run.effects
    match run.outcome with
    | .error .cancelled => return .cancelled
    | .error problem => throw (.handler problem)
    | .ok _ =>
      if World.isCancelled T (← get) then
        World.log (.discarded a.message.message.id run.publications.length)
        return .cancelled
      else if run.publications.isEmpty then
        return .completed
      else
        World.raising .publish (bus.send T run.publications (some a.message.inbound))
        return .completed

def execution (a : Arrival) : Execution :=
  { kind := a.kind, resourceId := a.resourceId, messageId := a.message.message.id
    payloadTypeId := a.message.message.payloadTypeId? }

def handle (T : Transport τ) (bus : Bus) (a : Arrival) (r : ReceptionRegistration)
    (payloadTypeId : String) : Work τ ReceptionError Unit := do
  let execution := { execution a with handler := some r.handler.type.name }
  let id := a.message.message.id
  let handler := simpleName r.handler.type.name
  World.log (.received a.resourceId id a.message.deliveryCount)
  match ← World.attempt (bus.execute T a r) with
  | .ok .cancelled =>
    World.log (.leftUnsettled a.kind a.resourceId id payloadTypeId handler)
  | .ok .completed =>
    bus.notify (.success execution)
    World.log (.handled a.kind a.resourceId id payloadTypeId handler)
  | .error problem =>
    World.log (.handlingFailed a.kind a.resourceId id payloadTypeId handler problem)
    bus.notify (.failed execution problem)
    throw problem

def failure (a : Arrival) (handler : Option String) (source : ReceptionError) : ProcessFailure where
  kind := a.kind
  resourceId := a.resourceId
  messageId := a.message.message.id
  payloadTypeId := a.message.message.payloadTypeId?
  sessionId := a.message.message.sessionId
  handler := handler
  isolationKey := a.message.message.isolationKey?
  source := source

def process (T : Transport τ) (bus : Bus) (a : Arrival) : Work τ ProcessFailure Unit := do
  let m := a.message.message
  if !bus.settings.isolation.accepts m.isolationKey? then
    World.raising (fun error => failure a none (.reroute error)) (bus.reroute T a)
  else
    World.raising (failure a none) (bus.notify (.start (execution a)))
    match m.payloadTypeId? with
    | none =>
      World.raising (failure a none) (bus.notify (.failed (execution a) .missingPayloadTypeId))
      throw (failure a none .missingPayloadTypeId)
    | some payloadTypeId =>
      match bus.receptions.find? payloadTypeId a.resourceId a.kind with
      | none => World.log (.ignored a.kind a.resourceId m.id payloadTypeId)
      | some r =>
        World.raising (failure a (some r.handler.type.name)) (bus.handle T a r payloadTypeId)

end Bus

end MessageBus
