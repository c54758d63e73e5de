import MessageBus.Json.Value
import MessageBus.Text.Basic

/-!
# Messages

What travels over the broker: a body of octets, ids, and a bag of properties. The properties named
here carry the routing type and the isolation of a message.
-/

namespace MessageBus

namespace Property

def messageType : String := "MessageType"

def payloadTypeId : String := "PayloadTypeId"

def isolationKey : String := "IsolationKey"

def isolationApps : String := "IsolationApps"

def diagnosticId : String := "Diagnostic-Id"

/-- The value of `messageType` on every message of the bus. -/
def integrationEvent : String := "IntegrationEvent"

end Property

/-- The applications in one text, separated by commas. -/
def joinApps (apps : List String) : String :=
  ",".intercalate apps

/-- The applications in a text: what stands between commas, without blanks around it, where anything
is left. -/
def splitApps (joined : String) : List String :=
  ((joined.toList.splitOn ',').map Text.trimChars |>.filter (!·.isEmpty)).map String.ofList

structure Message where
  id : String := ""
  body : List UInt8 := []
  contentType : Option String := none
  subject : Option String := none
  correlationId : Option String := none
  sessionId : Option String := none
  properties : Json.Members := []
  deriving Inhabited

/-- Octets that the value of a property counts for. -/
def propertySize : Json → Nat
  | .null => 0
  | .flag _ => 1
  | .number _ => 8
  | .text s => s.utf8ByteSize
  | v => v.render.utf8ByteSize

namespace Message

def text? (m : Message) (name : String) : Option String :=
  Json.Members.get? m.properties name >>= Json.text?

def payloadTypeId? (m : Message) : Option String := m.text? Property.payloadTypeId

def isolationKey? (m : Message) : Option String := m.text? Property.isolationKey

def isolationApps (m : Message) : List String :=
  ((m.text? Property.isolationApps).map splitApps).getD []

def withProperty (m : Message) (name : String) (value : Json) : Message :=
  { m with properties := m.properties.insert name value }

/-- The estimated size on the wire: body, ids, and names and values of properties. -/
def size (m : Message) : Nat :=
  let optional (s : Option String) : Nat := (s.map String.utf8ByteSize).getD 0
  m.body.length + m.id.utf8ByteSize + optional m.contentType + optional m.subject +
    optional m.correlationId + optional m.sessionId +
    m.properties.foldl (fun n p => n + p.1.utf8ByteSize + propertySize p.2) 0

def same (a b : Message) : Bool :=
  a.id == b.id && a.body == b.body && a.contentType == b.contentType && a.subject == b.subject &&
    a.correlationId == b.correlationId && a.sessionId == b.sessionId &&
    Json.sameMembers a.properties b.properties

end Message

/-- The token that a delivered message is settled by: one that the broker issued, or any other. -/
inductive LockToken
  | issued (n : Nat)
  | given (text : String)
  deriving DecidableEq, Repr, Inhabited

structure Received where
  message : Message
  sequenceNumber : Int := 0
  /-- Deliveries so far, this one included. The count is kept in 32 bits and starts over at zero. -/
  deliveryCount : UInt32 := 1
  lockToken : LockToken
  deriving Inhabited

/-- The message being handled, as the messages that it causes see it. -/
structure Inbound where
  messageId : String := ""
  correlationId : Option String := none
  isolationKey : Option String := none
  isolationApps : List String := []
  deriving DecidableEq, Repr, Inhabited

def Received.inbound (r : Received) : Inbound :=
  ⟨r.message.id, r.message.correlationId, r.message.isolationKey?, r.message.isolationApps⟩

end MessageBus
