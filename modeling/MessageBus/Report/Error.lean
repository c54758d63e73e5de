import MessageBus.Reception.Handler
import MessageBus.Registration.Error
import MessageBus.Report.Message

/-!
# Reports on errors

Every error as a JSON object: its name, its message, and what it is about. The error behind an error
is reported inside it.
-/

namespace MessageBus.Report

def error (name message : String) (about : Json.Members := []) : Json :=
  .object (("error", .text name) :: ("message", .text message) :: about)

def transportError (e : TransportError) : Json :=
  let name :=
    match e with
    | .connectionFailed _ => "ConnectionFailed"
    | .entityNotFound _ => "EntityNotFound"
    | .lockLost _ => "MessageLockLost"
    | .rejected _ => "Rejected"
    | .timeout => "Timeout"
    | .other _ => "Other"
  error name e.message

def serializationError (e : SerializationError) : Json :=
  match e with
  | .json _ => error "Json" e.message
  | .binary => error "Bitcode" e.message
  | .typeMismatch expected => error "TypeMismatch" e.message [("expected", .text expected)]

def dispatchError (e : DispatchError) : Json :=
  match e with
  | .registrationNotFound payloadType =>
    error "DispatchRegistrationNotFound" e.message [("payload_type", .text payloadType)]
  | .senderNotFound kind resourceId =>
    error (if kind = .queue then "QueueSenderNotFound" else "TopicSenderNotFound") e.message
      [("resource_id", .text resourceId)]
  | .messageTooLarge messageId resourceId size limit =>
    error "MessageTooLarge" e.message [
      ("message_id", .text messageId), ("resource_id", .text resourceId), ("size", .nat size),
      ("max_size", .nat limit)]
  | .serialization payloadTypeId source =>
    error "Serialization" e.message [
      ("payload_type_id", .text payloadTypeId), ("source", serializationError source)]
  | .transport resourceId source =>
    error "Transport" e.message [
      ("resource_id", .text resourceId), ("source", transportError source)]
  | .numbersMismatch resourceId expected actual =>
    error "SequenceNumberMismatch" e.message [
      ("resource_id", .text resourceId), ("expected", .nat expected), ("actual", .nat actual)]
  | .partialSchedule handles source =>
    error "PartialSchedule" e.message [
      ("scheduled", .list (handles.map scheduled)), ("source", dispatchError source)]
  | .cancelled => error "Cancelled" e.message

def handlerError (e : HandlerError) : Json :=
  match e with
  | .rejected _ => error "Rejected" e.message
  | .cancelled => error "Cancelled" e.message
  | .other _ => error "Other" e.message

def receptionError (e : ReceptionError) : Json :=
  match e with
  | .missingPayloadTypeId => error "MissingPayloadTypeId" e.message
  | .deserialization payloadTypeId source =>
    error "Deserialization" e.message [
      ("payload_type_id", .text payloadTypeId), ("source", serializationError source)]
  | .handler source => error "Handler" e.message [("source", handlerError source)]
  | .publish source => error "Publish" e.message [("source", dispatchError source)]
  | .reroute source =>
    error "IsolationReroute" e.message [
      ("complete_error", orNull (source.complete.map transportError)),
      ("resend_error", orNull (source.resend.map transportError))]

def processFailure (f : ProcessFailure) : Json :=
  error "FailedToProcessMessage" f.message [
    ("client_type", .text f.kind.name), ("resource_id", .text f.resourceId),
    ("message_id", .text f.messageId), ("payload_type_id", .optional f.payloadTypeId),
    ("session_id", .optional f.sessionId), ("handler", .optional f.handler),
    ("isolation_key", .optional f.isolationKey), ("source", receptionError f.source)]

def duplicateDispatch (d : DuplicateDispatch) : Json :=
  .object [
    ("payload_type", .text d.payloadType), ("client_type", .text d.kind.name),
    ("resource_id", .text d.resourceId), ("payload_type_ids", texts d.payloadTypeIds)]

def registrationError (e : RegistrationError) : Json :=
  match e with
  | .duplicateDispatches duplicates =>
    error "MultiplePublicationRegistration" e.message
      [("duplicates", .list (duplicates.map duplicateDispatch))]
  | .duplicateHandler .. => error "DuplicateReceptionHandler" e.message
  | .duplicateTypeId .. => error "DuplicatePayloadTypeId" e.message
  | .emptyTypeId _ => error "EmptyPayloadTypeId" e.message
  | .invalidTarget _ => error "InvalidDispatchTarget" e.message
  | .invalidSource _ => error "InvalidReceptionSource" e.message

def compositionError (e : CompositionError) : Json :=
  match e with
  | .registration source => registrationError source
  | .senderCreation kind resourceId source =>
    error "SenderCreation" e.message [
      ("client_type", .text kind.name), ("resource_id", .text resourceId),
      ("source", transportError source)]

end MessageBus.Report
