import MessageBus.Bus.Description
import MessageBus.Dispatch.Outgoing
import MessageBus.Report.Trace

/-!
# Reports on registrations and handling

Registrations, outgoing messages, batches, and what handlers are given, as JSON objects.
-/

namespace MessageBus.Report

/-- A dispatch registration, with its description where one is asked for. -/
def dispatchRegistration (described : Bool) (r : DispatchRegistration) : Json :=
  .object [
    ("client_type", .text r.resource.kind.name), ("resource_id", .text r.resource.id),
    ("original_resource_id", .text r.resource.entity), ("payload_type", .text r.payloadType.name),
    ("payload_type_id", .text r.payloadTypeId), ("content_type", .text r.serializer.contentType),
    ("customizers", .nat r.customizers.length),
    ("debug", if described then .text r.describe else .null)]

def receptionRegistration (described : Bool) (r : ReceptionRegistration) : Json :=
  .object [
    ("client_type", .text r.resource.kind.name), ("resource_id", .text r.resource.id),
    ("original_resource_id", .text r.resource.entity), ("payload_type", .text r.payloadType.name),
    ("payload_type_id", .text r.payloadTypeId), ("handler", .text r.handler.type.name),
    ("handler_display", .text (simpleName r.handler.type.name)),
    ("debug", if described then .text r.describe else .null)]

def outgoing (o : Outgoing) : Json :=
  let m := o.message
  let r := o.registration.resource
  .object (message m ++ [
    ("to", .text (r.kind.name ++ " " ++ r.id)),
    ("read", .list [
      .optional m.payloadTypeId?, .optional m.isolationKey?, texts m.isolationApps])])

def batch (b : Batch) : Json :=
  .object [
    ("ids", texts (b.messages.map (·.id))), ("len", .nat b.messages.length), ("size", .nat b.size),
    ("max", .nat b.capacity.limit)]

/-- What a handler was given. The time at which a message was put on its entity is always that of
the message. -/
def handled (handler : String) (payload : Json) (c : HandlerContext) : Json :=
  let m := c.message.message
  .object [
    ("handler", .text handler), ("payload", payload), ("client_type", .text c.kind.name),
    ("resource_id", .text c.resourceId), ("message_id", .text m.id),
    ("correlation_id", .optional m.correlationId), ("session_id", .optional m.sessionId),
    ("payload_type_id", .optional m.payloadTypeId?), ("isolation_key", .optional m.isolationKey?),
    ("isolation_apps", texts m.isolationApps),
    ("delivery_count", .nat c.message.deliveryCount.toNat),
    ("sequence_number", .int c.message.sequenceNumber),
    ("enqueued_time_is_message_time", .flag true), ("cancelled", .flag c.cancelled)]

def sortByText (vs : List Json) : List Json :=
  ((vs.map fun v => (v.sorted.render, v)).mergeSort fun a b => a.1 ≤ b.1).map (·.2)

/-- Sorts every run of values that satisfy `p` by text. -/
def sortRuns (p : Json → Bool) (run : List Json) : List Json → List Json
  | [] => sortByText run
  | v :: rest =>
    if p v then sortRuns p (run ++ [v]) rest
    else sortByText run ++ v :: sortRuns p [] rest

end MessageBus.Report
