import MessageBus.Registration.Dispatch
import MessageBus.Registration.Reception
import MessageBus.Resource.Basic
import MessageBus.Trace.World

/-!
# Buses

A composed bus: its settings, its registrations, its senders and receivers by resource, and its
listeners by name. Senders and receivers are kept in the order of kind and id. The short-lived
senders belong to the world around the bus.
-/

namespace MessageBus

structure RegisteredSender where
  resource : Resource
  sender : Sender
  deriving DecidableEq, Repr, Inhabited

namespace Resource

/-- The order of resource keys: queues, topics, subscriptions, and each by id. -/
def precedes (a b : Resource) : Bool :=
  a.kind.rank < b.kind.rank || (a.kind.rank == b.kind.rank && a.id < b.id)

end Resource

/-- Puts an entry in the place of its resource, instead of one with the same key. -/
def putByResource {α : Type} (resource : α → Resource) (entry : α) : List α → List α
  | [] => [entry]
  | other :: rest =>
    if (resource entry).key = (resource other).key then entry :: rest
    else if (resource entry).precedes (resource other) then entry :: other :: rest
    else other :: putByResource resource entry rest

structure Directory where
  senders : List RegisteredSender := []
  receivers : List Resource := []
  deriving Repr, Inhabited

namespace Directory

def registerSender (d : Directory) (resource : Resource) (sender : Sender) : Directory :=
  { d with senders := putByResource RegisteredSender.resource ⟨resource, sender⟩ d.senders }

def registerReceiver (d : Directory) (resource : Resource) : Directory :=
  { d with receivers := putByResource id resource d.receivers }

def sender? (d : Directory) (kind : EntityKind) (id : String) : Option RegisteredSender :=
  d.senders.find? (·.resource.key == (kind, id))

def receiver? (d : Directory) (kind : EntityKind) (id : String) : Option Resource :=
  d.receivers.find? (·.key == (kind, id))

/-- A sender that writes to the entity over the connection, whatever its id. -/
def findSender? (d : Directory) (kind : EntityKind) (entity : String)
    (connection : Option Connection) : Option RegisteredSender :=
  d.senders.find? fun r =>
    r.resource.kind == kind && r.resource.entity == entity && r.resource.connection == connection

end Directory

namespace World

variable {τ ε : Type}

def trackTemporary (sender : Sender) : Work τ ε String := do
  let id ← freshId
  log (.temporaryCreated id sender.entity)
  modify fun w => { w with temporaries := w.temporaries ++ [(id, sender)] }
  return id

def releaseTemporary (T : Transport τ) (id : String) : Work τ ε Unit := do
  match (← get).temporaries.lookup id with
  | none => return
  | some sender =>
    modify fun w => { w with temporaries := w.temporaries.filter (·.1 != id) }
    match ← attempt (call (T.close sender)) with
    | .ok _ => log (.temporaryClosed id sender.entity)
    | .error error => log (.temporaryCloseFailed id sender.entity error)

/-- Closes senders one after the other, also after one has failed; the first error is the answer. -/
def closeEach (T : Transport τ) : List Sender → Work τ ε (Option TransportError)
  | [] => return none
  | sender :: rest => do
    let first ←
      match ← attempt (call (T.close sender)) with
      | .ok _ => pure none
      | .error error => do
        log (.closeFailed sender.entity error)
        pure (some error)
    return first <|> (← closeEach T rest)

def closeAll (T : Transport τ) (d : Directory) : Work τ TransportError Unit := do
  let temporary := (← get).temporaries.map (·.2)
  modify fun w => { w with temporaries := [] }
  match ← closeEach T (d.senders.map (·.sender) ++ temporary) with
  | some error => throw error
  | none => return

end World

structure Bus where
  settings : Settings := {}
  dispatches : DispatchRegistry := {}
  receptions : ReceptionRegistry := {}
  directory : Directory := {}
  listeners : List String := []
  deriving Inhabited

def Bus.close {τ : Type} (T : Transport τ) (bus : Bus) : Work τ TransportError Unit := do
  World.closeAll T bus.directory
  World.log .closed

end MessageBus
