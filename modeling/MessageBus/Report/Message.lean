import MessageBus.Dispatch.Basic
import MessageBus.Identifier
import MessageBus.Settings.Text

/-!
# Reports on messages and resources

JSON objects about resources and messages, for tools that look at a bus. A long body is reported by
its length and a hash, and one in binary form not at all.
-/

namespace MessageBus.Report

def texts (ss : List String) : Json := .list (ss.map .text)

def orNull (v : Option Json) : Json := v.getD .null

def resource (r : Resource) : Json :=
  .object [
    ("client_type", .text r.kind.name), ("resource_id", .text r.id),
    ("original_resource_id", .text r.entity),
    ("connection", orNull (r.connection.map Connection.toJson)),
    ("topic_name", .optional r.topicName?)]

def fnv1a (bytes : List UInt8) : UInt64 :=
  bytes.foldl (fun h b => (h ^^^ b.toUInt64) * 0x100000001b3) 0xcbf29ce484222325

def octets (bytes : List UInt8) : Json :=
  if 2048 < bytes.length then
    .object [
      ("len", .nat bytes.length),
      ("fnv1a64", .text (String.ofList (hexDigits 16 (fnv1a bytes).toNat)))]
  else
    match Text.text? bytes with
    | some s => .text s
    | none =>
      .object [("hex", .text (String.ofList (bytes.flatMap fun b => hexDigits 2 b.toNat)))]

/-- Bodies of this content type are in binary form. -/
def isBinary (contentType : Option String) : Bool :=
  contentType == some "application/x-bitcode"

def body (contentType : Option String) (bytes : List UInt8) : Json :=
  if isBinary contentType then .text "<bitcode>" else octets bytes

def message (m : Message) : Json.Members := [
  ("message_id", .text m.id), ("body", body m.contentType m.body),
  ("content_type", .optional m.contentType), ("subject", .optional m.subject),
  ("correlation_id", .optional m.correlationId), ("session_id", .optional m.sessionId),
  ("properties", .object m.properties),
  ("size", if isBinary m.contentType then .null else .nat m.size)]

/-- A delivered message. Tokens that the broker issued are written like ids of the given seed. -/
def received (seed : Nat) (r : Received) : Json :=
  let token :=
    match r.lockToken with
    | .issued n => idText seed n
    | .given s => s
  .object (message r.message ++ [
    ("sequence_number", .int r.sequenceNumber), ("delivery_count", .nat r.deliveryCount.toNat),
    ("lock_token", .text token)])

def inbound (i : Inbound) : Json :=
  .object [
    ("message_id", .text i.messageId), ("correlation_id", .optional i.correlationId),
    ("isolation_key", .optional i.isolationKey), ("isolation_apps", texts i.isolationApps)]

def scheduled (h : ScheduledDispatch) : Json :=
  .object [
    ("client_type", .text h.kind.name), ("resource_id", .text h.resourceId),
    ("message_id", .text h.messageId), ("sequence_number", .int h.sequenceNumber)]

end MessageBus.Report
