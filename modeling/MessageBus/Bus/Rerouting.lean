import MessageBus.Bus.Basic

/-!
# Rerouting

A message that belongs to another instance is completed where it was received, and a copy of it is
sent back to its source: the same queue, or the topic of a subscription. Both steps are always
tried.
-/

namespace MessageBus

/-- A message that is being processed: where it was received, and the entity whose receiver settles
it. -/
structure Arrival where
  kind : EntityKind
  resourceId : String
  message : Received
  entity : String

namespace Bus

variable {τ : Type}

def source (bus : Bus) (a : Arrival) : Resource :=
  (bus.directory.receiver? a.kind a.resourceId).getD
    ((Resource.of a.kind a.resourceId).withDefault bus.settings.connection)

/-- Sends a message through a sender of the target, a short-lived one if there is none. -/
def resend (T : Transport τ) (bus : Bus) (target : Resource) (m : Message) :
    Work τ TransportError Unit := do
  match bus.directory.findSender? target.kind target.entity target.connection with
  | some registered =>
    World.log (.reroutedThrough registered.resource.id)
    World.call (T.sendMessages registered.sender [m])
  | none =>
    let sender ← World.call (T.createSender target)
    let id ← World.trackTemporary sender
    let outcome ← World.attempt (World.call (T.sendMessages sender [m]))
    World.releaseTemporary T id
    match outcome with
    | .ok _ => return
    | .error error => throw error

def reroute (T : Transport τ) (bus : Bus) (a : Arrival) : Work τ RerouteError Unit := do
  let target := (bus.source a).rerouteTarget
  let completed ← World.attempt (World.call (T.complete a.entity a.message))
  let resent ← World.attempt (bus.resend T target a.message.message)
  World.log (.rerouted a.kind a.resourceId a.message.message.id
    (a.message.message.isolationKey?.getD "") target completed.isOk resent.isOk)
  match RerouteError.ofOutcomes completed resent with
  | none => return
  | some error => throw error

end Bus

end MessageBus
