import MessageBus.Dispatch.Basic

/-!
# Handlers

A handler is given a payload and what it may know about the message. It answers with what it did
while it ran, in order, and with how it ended. An error says why a received message was not
processed, with where it was received.
-/

namespace MessageBus

inductive HandlerError
  | rejected (reason : String)
  | cancelled
  | other (text : String)
  deriving DecidableEq, Repr, Inhabited

namespace HandlerError

def message : HandlerError → String
  | .rejected reason => "message rejected: " ++ reason
  | .cancelled => "handler cancelled"
  | .other text => text

def causes : HandlerError → List String
  | .other text => [text]
  | _ => []

end HandlerError

/-- The failed steps of sending a message back to its source. -/
structure RerouteError where
  complete : Option TransportError := none
  resend : Option TransportError := none
  deriving Repr, Inhabited

namespace RerouteError

/-- The error of the two steps, none if both went well. -/
def ofOutcomes : Except TransportError Unit → Except TransportError Unit → Option RerouteError
  | .ok _, .ok _ => none
  | .error c, .ok _ => some ⟨some c, none⟩
  | .ok _, .error r => some ⟨none, some r⟩
  | .error c, .error r => some ⟨some c, some r⟩

def message (e : RerouteError) : String :=
  "isolation reroute failed" ++
    ((e.complete.map fun c => "; complete: " ++ c.message).getD "") ++
    ((e.resend.map fun r => "; resend: " ++ r.message).getD "")

/-- The texts of what lies behind the error, outermost first: the failed resend, or else the failed
completion. -/
def causes (e : RerouteError) : List String :=
  match e.resend <|> e.complete with
  | some source => source.message :: source.causes
  | none => []

end RerouteError

inductive ReceptionError
  | missingPayloadTypeId
  | deserialization (payloadTypeId : String) (source : SerializationError)
  | handler (source : HandlerError)
  | publish (source : DispatchError)
  | reroute (source : RerouteError)
  deriving Repr

namespace ReceptionError

def message : ReceptionError → String
  | .missingPayloadTypeId => "message is missing the PayloadTypeId property"
  | .deserialization payloadTypeId source =>
    "failed to deserialize payload '" ++ payloadTypeId ++ "': " ++ source.message
  | .handler source => "handler failed: " ++ source.message
  | .publish source => "failed to publish handler dispatches: " ++ source.message
  | .reroute source => source.message

/-- The texts of what lies behind the error, outermost first. A failed reroute speaks for itself. -/
def causes : ReceptionError → List String
  | .missingPayloadTypeId => []
  | .deserialization _ source => source.message :: source.causes
  | .handler source => source.message :: source.causes
  | .publish source => source.message :: source.causes
  | .reroute source => source.causes

end ReceptionError

structure ProcessFailure where
  kind : EntityKind
  resourceId : String
  messageId : String
  payloadTypeId : Option String
  sessionId : Option String
  /-- The full name of the handler type, once one is found. -/
  handler : Option String
  isolationKey : Option String
  source : ReceptionError
  deriving Repr

namespace ProcessFailure

def message (f : ProcessFailure) : String :=
  let orNone (s : Option String) : String := s.getD "<none>"
  "failed to process message '" ++ f.messageId ++ "' on " ++ f.kind.name ++ " '" ++ f.resourceId ++
    "' (payload type id: " ++ orNone f.payloadTypeId ++ ", session: " ++ orNone f.sessionId ++
    ", handler: " ++ orNone f.handler ++ ", isolation key: " ++ orNone f.isolationKey ++ "): " ++
    f.source.message

def causes (f : ProcessFailure) : List String :=
  f.source.message :: f.source.causes

end ProcessFailure

structure HandlerContext where
  kind : EntityKind
  resourceId : String
  message : Received
  /-- The processing had been cancelled when the handler started. -/
  cancelled : Bool

/-- Something that a handler does. Published dispatches are sent only after the handler has ended
well. -/
inductive Effect
  | publish (d : Dispatch)
  | cancel
  | note (value : Json)

structure HandlerRun where
  effects : List Effect
  outcome : Except HandlerError Unit

def HandlerRun.publications (run : HandlerRun) : List Dispatch :=
  run.effects.filterMap fun
    | .publish d => some d
    | _ => none

structure Handler where
  type : TypeIdentity
  run : Json → HandlerContext → HandlerRun

end MessageBus
