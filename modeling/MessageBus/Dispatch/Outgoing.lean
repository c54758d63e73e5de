import MessageBus.Identifier
import MessageBus.Registration.Dispatch

/-!
# Outgoing messages

The messages that dispatches stand for: one for each dispatch and registration of its payload type.
A message inherits correlation and isolation from the message being handled, if there is one, and
the properties that route it replace properties of the same names on the dispatch.
-/

namespace MessageBus

structure Outgoing where
  registration : DispatchRegistration
  message : Message

namespace Outgoing

/-- The isolation key of messages made here: that of the message being handled, or the own one. -/
def isolationKey (isolation : Isolation) (inbound : Option Inbound) : Option String :=
  (inbound >>= Inbound.isolationKey) <|> isolation.key

/-- The isolation apps of messages made here: those of the message being handled, the own ones, or
the application's name alone. -/
def isolationApps (isolation : Isolation) (inbound : Option Inbound) : List String :=
  let inherited := ((inbound.map Inbound.isolationApps).getD [])
  if !inherited.isEmpty then inherited
  else if !isolation.apps.isEmpty then isolation.apps
  else isolation.applicationName.toList

/-- Puts a property in place if there is a value for it. -/
def setText (name : String) (value : Option String) (properties : Json.Members) : Json.Members :=
  match value with
  | some s => properties.insert name (.text s)
  | none => properties

/-- The properties of a message: those of the dispatch, and over them the ones that route it. -/
def properties (isolation : Isolation) (inbound : Option Inbound) (typeId : String) (d : Dispatch) :
    Json.Members :=
  let apps := isolationApps isolation inbound
  d.properties
    |> setText Property.messageType (some Property.integrationEvent)
    |> setText Property.payloadTypeId (some typeId)
    |> setText Property.isolationKey (isolationKey isolation inbound)
    |> setText Property.isolationApps (if apps.isEmpty then none else some (joinApps apps))
    |> setText Property.diagnosticId d.diagnosticId

/-- The message before the customizers see it. -/
def base (isolation : Isolation) (inbound : Option Inbound) (r : DispatchRegistration)
    (d : Dispatch) (body : List UInt8) : StateM IdSupply Message := do
  let id ← IdSupply.orNext d.messageId
  let correlation ← IdSupply.orNext (d.correlationId <|> (inbound >>= Inbound.correlationId))
  return {
    id := id
    body := body
    contentType := some r.serializer.contentType
    subject := some ("An integration event of type '" ++ r.payloadTypeId ++ "'")
    correlationId := some correlation
    sessionId := d.sessionId
    properties := properties isolation inbound r.payloadTypeId d }

def create (isolation : Isolation) (inbound : Option Inbound) (d : Dispatch)
    (r : DispatchRegistration) : ExceptT DispatchError (StateM IdSupply) Outgoing := do
  match r.encode d.payload with
  | .error source => throw (.serialization r.payloadTypeId source)
  | .ok body =>
    let m ← base isolation inbound r d body
    return ⟨r, r.customize d.payload m⟩

def createEach (isolation : Isolation) (inbound : Option Inbound) (d : Dispatch) :
    List DispatchRegistration → ExceptT DispatchError (StateM IdSupply) (List Outgoing)
  | [] => return []
  | r :: rest => do
    let m ← create isolation inbound d r
    return m :: (← createEach isolation inbound d rest)

/-- The messages for all dispatches, in dispatch order and then registration order. -/
def createAll (registry : DispatchRegistry) (isolation : Isolation) (inbound : Option Inbound) :
    List Dispatch → ExceptT DispatchError (StateM IdSupply) (List Outgoing)
  | [] => return []
  | d :: rest => do
    match registry.find d.payload.type with
    | .error problem => throw problem
    | .ok registrations =>
      let ms ← createEach isolation inbound d registrations
      return ms ++ (← createAll registry isolation inbound rest)

end Outgoing

end MessageBus
