import MessageBus.Resource.Basic
import MessageBus.Transport.Basic

/-!
# Registration errors

What is wrong with the registrations of a bus, and why a bus could not be composed. A call on a
registry leaves a registry behind, also one that is refused.
-/

namespace MessageBus

/-- One destination that a payload type is registered for more than once. -/
structure DuplicateDispatch where
  payloadType : String
  kind : EntityKind
  resourceId : String
  /-- The type ids of all registrations for it, in order. -/
  payloadTypeIds : List String
  deriving DecidableEq, Repr

def DuplicateDispatch.message (d : DuplicateDispatch) : String :=
  d.payloadType ++ " -> " ++ d.kind.name ++ " '" ++ d.resourceId ++ "' (" ++
    toString d.payloadTypeIds.length ++ " registrations: " ++
    ", ".intercalate d.payloadTypeIds ++ ")"

inductive RegistrationError
  | duplicateDispatches (duplicates : List DuplicateDispatch)
  | duplicateHandler (kind : EntityKind) (resourceId handler : String)
  | duplicateTypeId (kind : EntityKind) (resourceId payloadTypeId existing handler : String)
  | emptyTypeId (payloadType : String)
  | invalidTarget (resourceId : String)
  | invalidSource (resourceId : String)
  deriving DecidableEq, Repr

def RegistrationError.message : RegistrationError → String
  | .duplicateDispatches duplicates =>
    "multiple dispatch registrations for the same destination: " ++
      "; ".intercalate (duplicates.map DuplicateDispatch.message)
  | .duplicateHandler kind resourceId handler =>
    "handler " ++ handler ++ " is registered more than once on " ++ kind.name ++ " '" ++
      resourceId ++ "'"
  | .duplicateTypeId kind resourceId payloadTypeId existing handler =>
    "payload type id '" ++ payloadTypeId ++ "' on " ++ kind.name ++ " '" ++ resourceId ++
      "' is claimed by both " ++ existing ++ " and " ++ handler
  | .emptyTypeId payloadType => "payload type id of " ++ payloadType ++ " must not be empty"
  | .invalidTarget resourceId => "cannot dispatch to subscription '" ++ resourceId ++ "'"
  | .invalidSource resourceId =>
    "cannot receive from topic '" ++ resourceId ++ "', register a subscription instead"

/-- A call on a registry: how it is answered, and the registry that it leaves behind. -/
abbrev Registering (ρ α : Type) := ExceptT RegistrationError (StateM ρ) α

inductive CompositionError
  | registration (source : RegistrationError)
  | senderCreation (kind : EntityKind) (resourceId : String) (source : TransportError)
  deriving DecidableEq, Repr

namespace CompositionError

def message : CompositionError → String
  | .registration source => source.message
  | .senderCreation kind resourceId source =>
    "failed to create sender for " ++ kind.name ++ " '" ++ resourceId ++ "': " ++ source.message

def causes : CompositionError → List String
  | .registration _ => []
  | .senderCreation _ _ source => source.message :: source.causes

end CompositionError

end MessageBus
