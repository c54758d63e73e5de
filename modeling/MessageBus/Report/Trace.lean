import MessageBus.Broker.Basic
import MessageBus.Bus.Basic
import MessageBus.Report.Error
import MessageBus.Trace.Event

/-!
# Reports on traces

Recorded calls of the broker, calls of listeners, log events and registrations as JSON objects.
-/

namespace MessageBus.Report

def operation : Operation → Json
  | .senderCreated kind entity =>
    .object [
      ("op", .text "SenderCreated"), ("client_type", .text kind.name), ("entity", .text entity)]
  | .senderClosed entity => .object [("op", .text "SenderClosed"), ("entity", .text entity)]
  | .sendBatch entity ids =>
    .object [("op", .text "SendBatch"), ("entity", .text entity), ("ids", texts ids)]
  | .sendMessages entity ids =>
    .object [("op", .text "SendMessages"), ("entity", .text entity), ("ids", texts ids)]
  | .schedule entity ids due =>
    .object [
      ("op", .text "Schedule"), ("entity", .text entity), ("ids", texts ids), ("at", .int due)]
  | .cancelScheduled entity numbers =>
    .object [
      ("op", .text "CancelScheduled"), ("entity", .text entity),
      ("numbers", .list (numbers.map .int))]
  | .complete entity id =>
    .object [("op", .text "Complete"), ("entity", .text entity), ("id", .text id)]
  | .abandon entity id =>
    .object [("op", .text "Abandon"), ("entity", .text entity), ("id", .text id)]
  | .deadLetter entity id reason =>
    .object [
      ("op", .text "DeadLetter"), ("entity", .text entity), ("id", .text id),
      ("reason", .optional reason)]

def execution (listener event : String) (x : Execution) (error : Option ReceptionError) : Json :=
  .object [
    ("listener", .text listener), ("event", .text event), ("client_type", .text x.kind.name),
    ("resource_id", .text x.resourceId), ("message_id", .text x.messageId),
    ("payload_type_id", .optional x.payloadTypeId), ("handler", .optional x.handler),
    ("error", orNull (error.map receptionError))]

def listenerCall (listener : String) : ListenerCall → Json
  | .start x => execution listener "start" x none
  | .success x => execution listener "success" x none
  | .failed x error => execution listener "failed" x (some error)

def logEvent (e : LogEvent) : Json :=
  .object (("level", .text e.level.name) :: ("message", .text e.message) :: e.fields)

def logEvents (trace : List TraceEntry) : List Json :=
  trace.filterMap fun
    | .log event => some (logEvent event)
    | _ => none

def listenerCalls (trace : List TraceEntry) : List Json :=
  trace.filterMap fun
    | .listener name call => some (listenerCall name call)
    | _ => none

def notes (trace : List TraceEntry) : List Json :=
  trace.filterMap fun
    | .note value => some value
    | _ => none

def registeredSender (s : RegisteredSender) : Json :=
  .object [
    ("options", resource s.resource), ("client_type", .text s.sender.kind.name),
    ("entity", .text s.sender.entity)]

end MessageBus.Report
