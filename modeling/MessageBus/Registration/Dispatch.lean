import MessageBus.Dispatch.Basic
import MessageBus.HashMap
import MessageBus.Registration.Error
import MessageBus.Text.Basic

/-!
# Dispatch registrations

A registration binds a payload type to one destination. A registry holds at most one registration
for a payload type and a destination, and finds all registrations of a payload type.
-/

namespace MessageBus

/-- Binds a payload type to a destination. Customizers see the payload and change each message made
for the registration, in order. -/
structure DispatchRegistration where
  resource : Resource
  payloadType : PayloadType
  payloadTypeId : String
  serializer : Serializer
  customizers : List (Payload → Message → Message) := []

/-- What tells the registrations of one registry apart: payload type, kind and resource id. -/
abbrev DispatchKey := TypeIdentity × EntityKind × String

namespace DispatchRegistration

/-- The body for a payload, which has to be of the registered type. -/
def encode (r : DispatchRegistration) (p : Payload) : Except SerializationError (List UInt8) :=
  if p.type.identity = r.payloadType.identity then r.serializer.encode p
  else .error (.typeMismatch r.payloadType.name)

def customize (r : DispatchRegistration) (p : Payload) (m : Message) : Message :=
  r.customizers.foldl (fun m customizer => customizer p m) m

def key (r : DispatchRegistration) : DispatchKey :=
  (r.payloadType.identity, r.resource.kind, r.resource.id)

def problem? (r : DispatchRegistration) : Option RegistrationError :=
  if Text.isBlankText r.payloadTypeId then some (.emptyTypeId r.payloadType.name)
  else if r.resource.kind = .subscription then some (.invalidTarget r.resource.id)
  else none

end DispatchRegistration

/-- Registrations by key, and their keys in the order in which they first occur. -/
structure ByKey where
  order : List DispatchKey := []
  groups : HashMap DispatchKey (List DispatchRegistration) := .empty

def ByKey.add (known : ByKey) (r : DispatchRegistration) : ByKey where
  order := if known.groups.contains r.key then known.order else known.order ++ [r.key]
  groups := known.groups.push r.key r

/-- The groups of registrations with one key that have more than one member, by first member. -/
def findDuplicates (all : List DispatchRegistration) : List DuplicateDispatch :=
  let found : ByKey := all.foldl ByKey.add {}
  found.order.filterMap fun key => do
    let group ← found.groups.get? key
    if group.length < 2 then none
    else some ⟨key.1.name, key.2.1, key.2.2, group.map (·.payloadTypeId)⟩

/-- Each registration is under its own payload type, and no payload type is without any. -/
def Filed (types : HashMap TypeIdentity (List DispatchRegistration)) : Prop :=
  ∀ type group, types.get? type = some group →
    group ≠ [] ∧ ∀ r ∈ group, r.payloadType.identity = type

theorem filed_empty : Filed .empty := fun _ _ h => nomatch h

theorem Filed.push {types : HashMap TypeIdentity (List DispatchRegistration)} (filed : Filed types)
    (r : DispatchRegistration) : Filed (types.push r.payloadType.identity r) := by
  intro type group h
  rw [HashMap.get?_push] at h
  split at h
  · next own =>
    obtain rfl := Option.some.inj h
    refine ⟨List.append_ne_nil_of_right_ne_nil _ (List.cons_ne_nil _ _), fun other hother => ?_⟩
    rcases List.mem_append.mp hother with hother | hother
    · cases before : types.get? r.payloadType.identity with
      | none =>
        rw [before] at hother
        cases hother
      | some known =>
        rw [before] at hother
        rw [own]
        exact (filed _ known before).2 other hother
    · rw [List.mem_singleton.mp hother, own]
  · exact filed type group h

/-- Registrations by payload type and their number. -/
structure DispatchRegistry where
  byPayloadType : HashMap TypeIdentity (List DispatchRegistration) := .empty
  count : Nat := 0
  /-- The order in which payload types are visited. -/
  hasher : Hasher TypeIdentity (List DispatchRegistration) := .inOrder
  filed : Filed byPayloadType := by exact filed_empty

namespace DispatchRegistry

instance : Inhabited DispatchRegistry := ⟨{}⟩

/-- All registrations, those of one payload type together. -/
def registrations (registry : DispatchRegistry) : List DispatchRegistration :=
  (registry.hasher.arrange registry.byPayloadType.entries).flatMap (·.2)

def insert (registry : DispatchRegistry) (r : DispatchRegistration) : DispatchRegistry :=
  { registry with
    byPayloadType := registry.byPayloadType.push r.payloadType.identity r
    count := registry.count + 1
    filed := registry.filed.push r }

/-- Adds registrations, all or none of them. -/
def register (added : List DispatchRegistration) : Registering DispatchRegistry Unit := do
  if let some problem := added.findSome? DispatchRegistration.problem? then throw problem
  let duplicates := findDuplicates ((← get).registrations ++ added)
  if !duplicates.isEmpty then throw (.duplicateDispatches duplicates)
  modify fun registry => added.foldl insert registry

def new (hasher : Hasher TypeIdentity (List DispatchRegistration))
    (added : List DispatchRegistration) : Except RegistrationError DispatchRegistry :=
  match register added { hasher := hasher } with
  | (.ok _, registry) => .ok registry
  | (.error problem, _) => .error problem

/-- The registrations of a payload type, of which there has to be one. -/
def find (registry : DispatchRegistry) (type : PayloadType) :
    Except DispatchError (List DispatchRegistration) :=
  match registry.byPayloadType.get? type.identity with
  | some found => .ok found
  | none => .error (.registrationNotFound type.name)

end DispatchRegistry

end MessageBus
