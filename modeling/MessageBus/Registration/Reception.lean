import MessageBus.HashMap
import MessageBus.Reception.Handler
import MessageBus.Registration.Error
import MessageBus.Text.Basic

/-!
# Reception registrations

A registration binds the messages of one payload type id on one resource to a handler. A registry
holds at most one registration for a lookup key, and a handler type at most once for a resource.
-/

namespace MessageBus

structure ReceptionRegistration where
  resource : Resource
  payloadType : PayloadType
  payloadTypeId : String
  serializer : Serializer
  handler : Handler

def lookupKey (kind : EntityKind) (resourceId payloadTypeId : String) : String :=
  kind.name ++ "|" ++ resourceId ++ "|" ++ payloadTypeId

namespace ReceptionRegistration

def key (r : ReceptionRegistration) : String :=
  lookupKey r.resource.kind r.resource.id r.payloadTypeId

/-- What a handler may be bound by only once. -/
def handlerKey (r : ReceptionRegistration) : EntityKind × String × TypeIdentity :=
  (r.resource.kind, r.resource.id, r.handler.type)

end ReceptionRegistration

structure ReceptionRegistry where
  byKey : HashMap String ReceptionRegistration := .empty
  handlers : HashSet (EntityKind × String × TypeIdentity) := .empty
  /-- In the order in which they were made. -/
  registrations : List ReceptionRegistration := []
  deriving Inhabited

namespace ReceptionRegistry

def register (r : ReceptionRegistration) : Registering ReceptionRegistry Unit := do
  if Text.isBlankText r.payloadTypeId then throw (.emptyTypeId r.payloadType.name)
  if (← get).handlers.contains r.handlerKey then
    throw (.duplicateHandler r.resource.kind r.resource.id r.handler.type.name)
  if let some existing := (← get).byKey.get? r.key then
    throw (.duplicateTypeId r.resource.kind r.resource.id r.payloadTypeId existing.handler.type.name
      r.handler.type.name)
  modify fun registry => { registry with handlers := registry.handlers.insert r.handlerKey () }
  modify fun registry => { registry with byKey := registry.byKey.insert r.key r }
  modify fun registry => { registry with registrations := registry.registrations ++ [r] }

def find? (registry : ReceptionRegistry) (payloadTypeId resourceId : String) (kind : EntityKind) :
    Option ReceptionRegistration :=
  registry.byKey.get? (lookupKey kind resourceId payloadTypeId)

end ReceptionRegistry

end MessageBus
