import MessageBus.Json.Shape
import MessageBus.Settings.Basic

/-!
# Settings as JSON

Settings are written as one object with all fields in order, and read from a text that may leave out
any of them.
-/

namespace MessageBus

open Json (Shape Fields)

def Connection.toJson (c : Connection) : Json :=
  .object [
    ("connection_string", .optional c.connectionString),
    ("fully_qualified_namespace", .optional c.hostNamespace),
    ("transport_type", .text c.protocol.name)]

def Isolation.toJson (i : Isolation) : Json :=
  .object [
    ("behavior", .text i.behavior.name),
    ("isolation_key", .optional i.key),
    ("application_name", .optional i.applicationName),
    ("isolation_apps", .list (i.apps.map .text))]

def Settings.toJson (s : Settings) : Json :=
  .object [
    ("connection", (s.connection.map Connection.toJson).getD .null),
    ("isolation", s.isolation.toJson),
    ("max_batch_size_in_bytes", (s.maxBatchSize.map fun n => .nat n.toNat).getD .null),
    ("schedule_page_size", .nat s.pageSize.toNat)]

def Settings.render (s : Settings) : String := s.toJson.render

/-- Every field may be left out; a missing one is taken from the given object. -/
def Json.Fields.withFallbacks (defaults : Json) : List (String × Shape) → Fields
  | [] => .nil
  | (name, shape) :: rest => .cons name shape (defaults.member? name) (withFallbacks defaults rest)

def Connection.shape : Shape :=
  .record (Json.Fields.withFallbacks (Connection.toJson {}) [
    ("connection_string", .optional .text),
    ("fully_qualified_namespace", .optional .text),
    ("transport_type", .variant ["Amqp", "AmqpWebSockets"])])

def Isolation.shape : Shape :=
  .record (Json.Fields.withFallbacks (Isolation.toJson {}) [
    ("behavior", .variant ["HandleAllMessages", "HandleIsolatedMessages"]),
    ("isolation_key", .optional .text),
    ("application_name", .optional .text),
    ("isolation_apps", .list .text)])

def Settings.shape : Shape :=
  .record (Json.Fields.withFallbacks (Settings.toJson {}) [
    ("connection", .optional Connection.shape),
    ("isolation", Isolation.shape),
    ("max_batch_size_in_bytes", .optional .unsigned64),
    ("schedule_page_size", .unsigned64)])

def Connection.ofJson (v : Json) : Connection where
  connectionString := v.member? "connection_string" >>= Json.text?
  hostNamespace := v.member? "fully_qualified_namespace" >>= Json.text?
  protocol :=
    if v.member? "transport_type" >>= Json.text? = some "AmqpWebSockets" then .amqpWebSockets
    else .amqp

def Isolation.ofJson (v : Json) : Isolation where
  behavior :=
    if v.member? "behavior" >>= Json.text? = some "HandleIsolatedMessages" then .handleIsolated
    else .handleAll
  key := v.member? "isolation_key" >>= Json.text?
  applicationName := v.member? "application_name" >>= Json.text?
  apps := ((v.member? "isolation_apps").map Json.items).getD [] |>.filterMap Json.text?

def Settings.ofJson (v : Json) : Settings where
  connection :=
    match v.member? "connection" with
    | some (.object members) => some (Connection.ofJson (.object members))
    | _ => none
  isolation := ((v.member? "isolation").map Isolation.ofJson).getD {}
  maxBatchSize := (v.member? "max_batch_size_in_bytes" >>= Json.nat?).map Nat.toUInt64
  pageSize := ((v.member? "schedule_page_size" >>= Json.nat?).map Nat.toUInt64).getD 100

def Settings.parse (s : String) : Except Json.Problem Settings :=
  (Settings.shape.parse (Text.symbols s)).map Settings.ofJson

end MessageBus
