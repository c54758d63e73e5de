import MessageBus.Bus.Basic
import MessageBus.Text.Quoted

/-!
# Descriptions

Registrations, dispatches and directories shown to a person, part by part.
-/

namespace MessageBus

open Text

mutual

/-- A JSON value with the kind of each part. -/
def Json.describe : Json → String
  | .null => "Null"
  | .flag b => "Bool(" ++ (if b then "true" else "false") ++ ")"
  | .number n => "Number(" ++ String.ofList n.chars ++ ")"
  | .text s => "String(" ++ quoted s ++ ")"
  | .list items => "Array " ++ listText (Json.describeItems items)
  | .object members => "Object " ++ mapText (Json.describeMembers members)

def Json.describeItems : List Json → List String
  | [] => []
  | v :: rest => v.describe :: Json.describeItems rest

def Json.describeMembers : List (String × Json) → List (String × String)
  | [] => []
  | (k, v) :: rest => (k, v.describe) :: Json.describeMembers rest

end

def Connection.describe (c : Connection) : String :=
  recordText "ConnectionSettings" [
    ("connection_string", optionalText (c.connectionString.map quoted)),
    ("fully_qualified_namespace", optionalText (c.hostNamespace.map quoted)),
    ("transport_type", c.protocol.name)]

def Resource.describe (r : Resource) : String :=
  recordText "ClientOptions" [
    ("resource_id", quoted r.id),
    ("original_resource_id", quoted r.entity),
    ("client_type", r.kind.name),
    ("connection", optionalText (r.connection.map Connection.describe))]

def RegisteredSender.describe (s : RegisteredSender) : String :=
  recordText "RegisteredSender" [
    ("options", s.resource.describe),
    ("entity_path", quoted s.sender.entity)]

def Directory.describe (d : Directory) (temporaries : Nat) : String :=
  recordText "ServiceBusRegistry" [
    ("senders", listText (d.senders.map RegisteredSender.describe)),
    ("receivers", listText (d.receivers.map Resource.describe)),
    ("temporary_senders", toString temporaries)]

def Dispatch.describe (d : Dispatch) : String :=
  recordText "Dispatch" [
    ("payload_type", d.payload.type.name),
    ("session_id", optionalText (d.sessionId.map quoted)),
    ("correlation_id", optionalText (d.correlationId.map quoted)),
    ("message_id", optionalText (d.messageId.map quoted)),
    ("diagnostic_id", optionalText (d.diagnosticId.map quoted)),
    ("application_properties", mapText (Json.describeMembers d.properties))]

def DispatchRegistration.describe (r : DispatchRegistration) : String :=
  recordText "MessageDispatchRegistration" [
    ("payload_type", r.payloadType.name),
    ("client_type", r.resource.kind.name),
    ("resource_id", quoted r.resource.id),
    ("payload_type_id", quoted r.payloadTypeId),
    ("customizers", toString r.customizers.length)]

def ReceptionRegistration.describe (r : ReceptionRegistration) : String :=
  recordText "MessageReceptionRegistration" [
    ("client_type", r.resource.kind.name),
    ("resource_id", quoted r.resource.id),
    ("payload_type", r.payloadType.name),
    ("payload_type_id", quoted r.payloadTypeId),
    ("handler_type", r.handler.type.name)]

end MessageBus
