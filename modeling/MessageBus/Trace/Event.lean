import MessageBus.Json.Value
import MessageBus.Reception.Handler

/-!
# Events

What a bus tells about its work: log events with their levels and fields, and the calls of execution
listeners. Measured times are left out of both.

A time is a number of milliseconds since the start of 1970. It is written in the proleptic Gregorian
calendar with second or millisecond precision. Years are counted in eras of 400 years, each of
146097 days and starting on a first of March.
-/

namespace MessageBus.Clock

structure Date where
  year : Int
  month : Int
  day : Int
  deriving DecidableEq, Repr

def dateOfDay (days : Int) : Date :=
  let z := days + 719468
  let era := Int.fdiv z 146097
  let dayOfEra := Int.fmod z 146097
  let yearOfEra :=
    (dayOfEra - dayOfEra / 1460 + dayOfEra / 36524 - dayOfEra / 146096) / 365
  let dayOfYear := dayOfEra - (365 * yearOfEra + yearOfEra / 4 - yearOfEra / 100)
  let m := (5 * dayOfYear + 2) / 153
  let day := dayOfYear - (153 * m + 2) / 5 + 1
  let month := if m < 10 then m + 3 else m - 9
  ⟨yearOfEra + era * 400 + (if month ≤ 2 then 1 else 0), month, day⟩

def padded (width : Nat) (n : Nat) : String :=
  let digits := toString n
  String.ofList (List.replicate (width - digits.length) '0') ++ digits

/-- A year of four digits, or one with a sign and at least four digits. -/
def yearText (year : Int) : String :=
  if 0 ≤ year ∧ year ≤ 9999 then padded 4 year.toNat
  else (if year < 0 then "-" else "+") ++ padded 4 year.natAbs

def timeText (millis : Int) : String :=
  let date := dateOfDay (Int.fdiv millis 86400000)
  let rest := (Int.fmod millis 86400000).toNat
  let fraction := rest % 1000
  yearText date.year ++ "-" ++ padded 2 date.month.toNat ++ "-" ++ padded 2 date.day.toNat ++ " " ++
    padded 2 (rest / 3600000) ++ ":" ++ padded 2 (rest / 60000 % 60) ++ ":" ++
    padded 2 (rest / 1000 % 60) ++ (if fraction = 0 then "" else "." ++ padded 3 fraction) ++ " UTC"

end MessageBus.Clock

namespace MessageBus

inductive LogEvent
  | idAllocated (kind : EntityKind) (entity resourceId : String)
  | batchFull (resourceId : String) (messages size : Nat)
  | batchSent (kind : EntityKind) (resourceId : String) (messages : Nat)
  | messagesSent (kind : EntityKind) (resourceId : String) (messages batches : Nat)
  | pageScheduled (kind : EntityKind) (resourceId : String) (messages : Nat) (due : Int)
  | partlyScheduled (scheduled : Nat) (error : DispatchError)
  | scheduleCancelled (kind : EntityKind) (resourceId : String) (count : Nat)
  | temporaryCreated (id entity : String)
  | temporaryClosed (id entity : String)
  | temporaryCloseFailed (id entity : String) (error : TransportError)
  | closeFailed (entity : String) (error : TransportError)
  | senderCreated (kind : EntityKind) (resourceId entity : String)
  | composed (dispatches receptions senders receivers : Nat) (behavior : IsolationBehavior)
  | closed
  | ignored (kind : EntityKind) (resourceId messageId payloadTypeId : String)
  | received (resourceId messageId : String) (deliveryCount : UInt32)
  | discarded (messageId : String) (publications : Nat)
  | leftUnsettled (kind : EntityKind) (resourceId messageId payloadTypeId handler : String)
  | handled (kind : EntityKind) (resourceId messageId payloadTypeId handler : String)
  | handlingFailed (kind : EntityKind) (resourceId messageId payloadTypeId handler : String)
      (error : ReceptionError)
  | rerouted (kind : EntityKind) (resourceId messageId isolationKey : String) (target : Resource)
      (completed resent : Bool)
  | reroutedThrough (resourceId : String)
  deriving Repr

inductive Level
  | trace
  | debug
  | info
  | warn
  deriving DecidableEq, Repr

def Level.name : Level → String
  | .trace => "TRACE"
  | .debug => "DEBUG"
  | .info => "INFO"
  | .warn => "WARN"

namespace LogEvent

def level : LogEvent → Level
  | .batchFull .. => .trace
  | .messagesSent .. | .composed .. | .closed | .leftUnsettled .. => .info
  | .handled .. | .rerouted .. => .info
  | .partlyScheduled .. | .temporaryCloseFailed .. | .closeFailed .. | .handlingFailed .. => .warn
  | _ => .debug

def message : LogEvent → String
  | .idAllocated .. => "resource requested on another connection, allocated a distinct id"
  | .batchFull .. => "batch full"
  | .batchSent .. => "batch sent"
  | .messagesSent .. => "messages sent"
  | .pageScheduled .. => "page scheduled"
  | .partlyScheduled .. => "scheduling partially failed"
  | .scheduleCancelled .. => "scheduled messages cancelled"
  | .temporaryCreated .. => "temporary sender created"
  | .temporaryClosed .. => "temporary sender closed"
  | .temporaryCloseFailed .. => "failed to close temporary sender"
  | .closeFailed .. => "failed to close sender"
  | .senderCreated .. => "sender created"
  | .composed .. => "service bus composed"
  | .closed => "service bus closed"
  | .ignored .. => "no handler registered, message ignored"
  | .received .. => "message received"
  | .discarded .. => "reception cancelled, publications discarded"
  | .leftUnsettled .. => "message handling cancelled, left unsettled"
  | .handled .. => "message handled"
  | .handlingFailed .. => "message handling failed"
  | .rerouted .. => "message rerouted to its isolation owner"
  | .reroutedThrough .. => "rerouting through registered sender"

def measured : Json := .text "<time>"

def handling (kind : EntityKind) (resourceId messageId payloadTypeId handler : String) :
    Json.Members :=
  [("client_type", .text kind.name), ("resource_id", .text resourceId),
   ("message_id", .text messageId), ("payload_type_id", .text payloadTypeId),
   ("handler", .text handler)]

def fields : LogEvent → Json.Members
  | .idAllocated kind entity resourceId =>
    [("client_type", .text kind.name), ("original_resource_id", .text entity),
     ("resource_id", .text resourceId)]
  | .batchFull resourceId messages size =>
    [("resource_id", .text resourceId), ("messages", .nat messages), ("size", .nat size)]
  | .batchSent kind resourceId messages =>
    [("client_type", .text kind.name), ("resource_id", .text resourceId),
     ("messages", .nat messages)]
  | .messagesSent kind resourceId messages batches =>
    [("client_type", .text kind.name), ("resource_id", .text resourceId),
     ("messages", .nat messages), ("batches", .nat batches)]
  | .pageScheduled kind resourceId messages due =>
    [("client_type", .text kind.name), ("resource_id", .text resourceId),
     ("messages", .nat messages), ("enqueue_time", .text (Clock.timeText due))]
  | .partlyScheduled scheduled error =>
    [("scheduled", .nat scheduled), ("error", .text error.message)]
  | .scheduleCancelled kind resourceId count =>
    [("client_type", .text kind.name), ("resource_id", .text resourceId), ("count", .nat count)]
  | .temporaryCreated id entity => [("id", .text id), ("entity_path", .text entity)]
  | .temporaryClosed id entity => [("id", .text id), ("entity_path", .text entity)]
  | .temporaryCloseFailed id entity error =>
    [("id", .text id), ("entity_path", .text entity), ("error", .text error.message)]
  | .closeFailed entity error => [("entity_path", .text entity), ("error", .text error.message)]
  | .senderCreated kind resourceId entity =>
    [("client_type", .text kind.name), ("resource_id", .text resourceId),
     ("entity_path", .text entity)]
  | .composed dispatches receptions senders receivers behavior =>
    [("dispatch_registrations", .nat dispatches), ("reception_registrations", .nat receptions),
     ("senders", .nat senders), ("receivers", .nat receivers), ("isolation", .text behavior.name)]
  | .closed => []
  | .ignored kind resourceId messageId payloadTypeId =>
    [("client_type", .text kind.name), ("resource_id", .text resourceId),
     ("message_id", .text messageId), ("payload_type_id", .text payloadTypeId)]
  | .received resourceId messageId deliveryCount =>
    [("resource_id", .text resourceId), ("message_id", .text messageId),
     ("queue_latency_ms", measured), ("delivery_count", .nat deliveryCount.toNat)]
  | .discarded messageId publications =>
    [("message_id", .text messageId), ("discarded", .nat publications)]
  | .leftUnsettled kind resourceId messageId payloadTypeId handler =>
    handling kind resourceId messageId payloadTypeId handler
  | .handled kind resourceId messageId payloadTypeId handler =>
    handling kind resourceId messageId payloadTypeId handler ++ [("elapsed_ms", measured)]
  | .handlingFailed kind resourceId messageId payloadTypeId handler error =>
    handling kind resourceId messageId payloadTypeId handler ++ [("error", .text error.message)]
  | .rerouted kind resourceId messageId isolationKey target completed resent =>
    [("client_type", .text kind.name), ("resource_id", .text resourceId),
     ("message_id", .text messageId), ("isolation_key", .text isolationKey),
     ("target_type", .text target.kind.name), ("target", .text target.entity),
     ("completed", .flag completed), ("resent", .flag resent)]
  | .reroutedThrough resourceId => [("resource_id", .text resourceId)]

end LogEvent

/-- What listeners are told about an execution. The handler is known once a registration is found.
-/
structure Execution where
  kind : EntityKind
  resourceId : String
  messageId : String
  payloadTypeId : Option String
  handler : Option String := none
  deriving Repr

inductive ListenerCall
  | start (execution : Execution)
  | success (execution : Execution)
  | failed (execution : Execution) (error : ReceptionError)
  deriving Repr

/-- An entry of the trace: a log event, the call of a listener, or a note that a handler left. -/
inductive TraceEntry
  | log (event : LogEvent)
  | listener (name : String) (call : ListenerCall)
  | note (value : Json)

end MessageBus
