import MessageBus.Message
import MessageBus.Payload.Basic
import MessageBus.Resource.Basic
import MessageBus.Transport.Basic

/-!
# Dispatches

A dispatch is one event to be sent: a payload, and what is marked on every message made from it. A
scheduled dispatch is the handle of one scheduled message. An error says why dispatches were not
sent or not scheduled.
-/

namespace MessageBus

structure Dispatch where
  payload : Payload
  sessionId : Option String := none
  correlationId : Option String := none
  messageId : Option String := none
  diagnosticId : Option String := none
  properties : Json.Members := []

structure ScheduledDispatch where
  kind : EntityKind
  resourceId : String
  messageId : String
  sequenceNumber : Int
  deriving DecidableEq, Repr, Inhabited

inductive DispatchError
  | registrationNotFound (payloadType : String)
  | senderNotFound (kind : EntityKind) (resourceId : String)
  | messageTooLarge (messageId resourceId : String) (size limit : Nat)
  | serialization (payloadTypeId : String) (source : SerializationError)
  | transport (resourceId : String) (source : TransportError)
  /-- A schedule call answered with a wrong number of sequence numbers. -/
  | numbersMismatch (resourceId : String) (expected actual : Nat)
  /-- Some messages are scheduled already. -/
  | partialSchedule (scheduled : List ScheduledDispatch) (source : DispatchError)
  | cancelled
  deriving Repr, Inhabited

namespace DispatchError

def message : DispatchError → String
  | .registrationNotFound payloadType =>
    "no dispatch registration for payload type " ++ payloadType
  | .senderNotFound .queue resourceId =>
    "no sender registered for queue '" ++ resourceId ++ "'"
  | .senderNotFound _ resourceId =>
    "no sender registered for topic '" ++ resourceId ++ "'"
  | .messageTooLarge messageId resourceId size limit =>
    "message '" ++ messageId ++ "' for '" ++ resourceId ++ "' is " ++ toString size ++
      " bytes, larger than the maximum batch size of " ++ toString limit ++ " bytes"
  | .serialization payloadTypeId source =>
    "failed to serialize payload '" ++ payloadTypeId ++ "': " ++ source.message
  | .transport resourceId source =>
    "transport failed for '" ++ resourceId ++ "': " ++ source.message
  | .numbersMismatch resourceId expected actual =>
    "scheduling on '" ++ resourceId ++ "' returned " ++ toString actual ++
      " sequence numbers for " ++ toString expected ++ " messages"
  | .partialSchedule scheduled source =>
    "scheduling failed after " ++ toString scheduled.length ++ " messages were scheduled: " ++
      source.message
  | .cancelled => "dispatch cancelled"

def causes : DispatchError → List String
  | .serialization _ source => source.message :: source.causes
  | .transport _ source => source.message :: source.causes
  | .partialSchedule _ source => source.message :: source.causes
  | _ => []

end DispatchError

end MessageBus
