import MessageBus.Bus.Basic
import MessageBus.Resource.Allocator

/-!
# Composition

A bus is declared piece by piece and then built: every registration is checked, and one sender is
made for each resource that dispatches go to. A registration encodes or decodes with the serializer
that was in force when it was declared.
-/

namespace MessageBus

/-- What may be declared about a bus. A registration without a type id of its own takes that of its
payload type. -/
inductive Declaration
  | dispatch (type : PayloadType) (target : Resource) (typeId : Option String)
      (customizers : List (Payload → Message → Message))
  | receive (type : PayloadType) (source : Resource) (typeId : Option String) (handler : Handler)
  | serializer (s : Serializer)
  | listener (name : String)

structure Builder where
  settings : Settings
  allocator : Allocator
  serializer : Serializer := .json
  dispatches : List DispatchRegistration := []
  receptions : List ReceptionRegistration := []
  listeners : List String := []
  notices : List LogEvent := []
  /-- The order in which the registry of dispatches visits payload types. -/
  hasher : Hasher TypeIdentity (List DispatchRegistration)

namespace Builder

def new (settings : Settings)
    (hasher : Hasher TypeIdentity (List DispatchRegistration) := .inOrder) : Builder :=
  { settings := settings, allocator := { defaultConnection := settings.connection }
    hasher := hasher }

def allocate (b : Builder) (requested : Resource) : Resource × Builder :=
  let (resource, allocator) := b.allocator.allocate requested
  let notices :=
    if b.allocator.renames requested then
      [LogEvent.idAllocated resource.kind resource.entity resource.id]
    else []
  (resource, { b with allocator := allocator, notices := b.notices ++ notices })

def declare (b : Builder) : Declaration → Builder
  | .dispatch type target typeId customizers =>
    let (resource, b) := b.allocate target
    { b with
      dispatches := b.dispatches ++
        [⟨resource, type, typeId.getD type.typeId, b.serializer, customizers⟩] }
  | .receive type source typeId handler =>
    let (resource, b) := b.allocate source
    { b with
      receptions := b.receptions ++
        [⟨resource, type, typeId.getD type.typeId, b.serializer, handler⟩] }
  | .serializer s => { b with serializer := s }
  | .listener name => { b with listeners := b.listeners ++ [name] }

/-- Registers receptions in order. Topics are not received from. -/
def registerReceptions : List ReceptionRegistration → Registering ReceptionRegistry Unit
  | [] => return
  | r :: rest => do
    if r.resource.kind = .topic then throw (.invalidSource r.resource.id)
    ReceptionRegistry.register r
    registerReceptions rest

def addSender {τ : Type} (T : Transport τ) (d : Directory) (r : Resource) :
    Work τ CompositionError Directory := do
  let sender ← World.raising (.senderCreation r.kind r.id) (World.call (T.createSender r))
  return d.registerSender r sender

def addSenders {τ : Type} (T : Transport τ) (d : Directory) :
    List Resource → Work τ CompositionError Directory
  | [] => return d
  | r :: rest => do
    if (d.sender? r.kind r.id).isSome then addSenders T d rest
    else
      let d ← addSender T d r
      World.log (.senderCreated r.kind r.id r.entity)
      addSenders T d rest

def build {τ : Type} (T : Transport τ) (b : Builder) : Work τ CompositionError Bus := do
  modify fun w => b.notices.foldl (fun w event => w.add (.log event)) w
  match DispatchRegistry.new b.hasher b.dispatches with
  | .error problem => throw (.registration problem)
  | .ok dispatches =>
    match registerReceptions b.receptions {} with
    | (.error problem, _) => throw (.registration problem)
    | (.ok _, receptions) =>
      let d ← addSenders T {} (dispatches.registrations.map (·.resource))
      let d := receptions.registrations.foldl (fun d r => d.registerReceiver r.resource) d
      World.log (.composed dispatches.count receptions.registrations.length
        d.senders.length d.receivers.length b.settings.isolation.behavior)
      return ⟨b.settings, dispatches, receptions, d, b.listeners⟩

end Builder

end MessageBus
