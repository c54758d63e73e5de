import MessageBus.Bus.Basic
import MessageBus.Bus.Batching
import MessageBus.Dispatch.Outgoing

/-!
# Sending, scheduling and taking back

Messages made from dispatches are grouped by resource in the order in which resources first occur.
Groups are served one after the other, and a group that fails does not keep the next one from being
tried.
-/

namespace MessageBus

/-- Messages for one resource, in the order in which they were made. -/
structure Group where
  kind : EntityKind
  resourceId : String
  sender : Sender
  messages : List Message

namespace Bus

variable {τ : Type}

def resolveSender (bus : Bus) (kind : EntityKind) (resourceId : String) :
    Except DispatchError Sender :=
  match bus.directory.sender? kind resourceId with
  | some registered => .ok registered.sender
  | none => .error (.senderNotFound kind resourceId)

/-- Adds a message to the group of its resource, a new one if there is none. -/
def addToGroup (bus : Bus) (groups : List Group) (o : Outgoing) :
    Except DispatchError (List Group) :=
  let r := o.registration.resource
  let belongs (g : Group) : Bool := g.kind == r.kind && g.resourceId == r.id
  if groups.any belongs then
    .ok (groups.map fun g =>
      if belongs g then { g with messages := g.messages ++ [o.message] } else g)
  else do
    let sender ← bus.resolveSender r.kind r.id
    return groups ++ [⟨r.kind, r.id, sender, [o.message]⟩]

def groups (bus : Bus) (dispatches : List Dispatch) (inbound : Option Inbound) :
    Work τ DispatchError (List Group) := do
  let outgoing ← World.drawing
    (Outgoing.createAll bus.dispatches bus.settings.isolation inbound dispatches)
  match outgoing.foldlM bus.addToGroup [] with
  | .ok groups => return groups
  | .error problem => throw problem

def checkCancelled (T : Transport τ) : Work τ DispatchError Unit := do
  if World.isCancelled T (← get) then throw .cancelled

def sendBatches (T : Transport τ) (g : Group) : List Batch → Work τ DispatchError Unit
  | [] => return
  | batch :: rest => do
    checkCancelled T
    World.raising (.transport g.resourceId) (World.call (T.sendBatch g.sender batch))
    World.log (.batchSent g.kind g.resourceId batch.messages.length)
    sendBatches T g rest

def sendGroup (T : Transport τ) (bus : Bus) (g : Group) : Work τ DispatchError Unit := do
  checkCancelled T
  let batches ←
    World.createBatches T bus.settings.maxBatchSize g.sender g.resourceId g.messages
  sendBatches T g batches
  World.log (.messagesSent g.kind g.resourceId g.messages.length batches.length)

/-- Tries every group; the answer is the error of the first that failed. -/
def sendGroups (T : Transport τ) (bus : Bus) : List Group → Work τ DispatchError Unit
  | [] => return
  | g :: rest => do
    let first ← World.attempt (sendGroup T bus g)
    let others ← World.attempt (sendGroups T bus rest)
    match first, others with
    | .error problem, _ => throw problem
    | _, .error problem => throw problem
    | _, _ => return

def send (T : Transport τ) (bus : Bus) (dispatches : List Dispatch) (inbound : Option Inbound) :
    Work τ DispatchError Unit := do
  sendGroups T bus (← bus.groups dispatches inbound)

def schedulePage (T : Transport τ) (g : Group) (due : Int) (page : List Message) :
    Work τ DispatchError (List ScheduledDispatch) := do
  checkCancelled T
  let numbers ←
    World.raising (.transport g.resourceId) (World.call (T.schedule g.sender page due))
  if numbers.length ≠ page.length then
    throw (.numbersMismatch g.resourceId page.length numbers.length)
  World.log (.pageScheduled g.kind g.resourceId page.length due)
  return page.zipWith (fun m n => ⟨g.kind, g.resourceId, m.id, n⟩) numbers

/-- Handles of what was scheduled, and the error that stopped it. -/
abbrev Progress := List ScheduledDispatch × Option DispatchError

def schedulePages (T : Transport τ) (g : Group) (due : Int) :
    List (List Message) → StateM (World τ) Progress
  | [] => return ([], none)
  | page :: rest => do
    match ← (schedulePage T g due page).run with
    | .error problem => return ([], some problem)
    | .ok handles =>
      let (more, problem) ← schedulePages T g due rest
      return (handles ++ more, problem)

def scheduleGroups (T : Transport τ) (bus : Bus) (due : Int) :
    List Group → StateM (World τ) Progress
  | [] => return ([], none)
  | g :: rest => do
    let pages := paginate bus.settings.pageSize.toNat g.messages
    let (handles, problem) ← schedulePages T g due pages
    let (more, other) ← scheduleGroups T bus due rest
    return (handles ++ more, problem <|> other)

/-- Schedules dispatches. An error after some messages were scheduled carries their handles. -/
def schedule (T : Transport τ) (bus : Bus) (dispatches : List Dispatch) (due : Int)
    (inbound : Option Inbound) : Work τ DispatchError (List ScheduledDispatch) := do
  let groups ← bus.groups dispatches inbound
  let (handles, problem) ← (scheduleGroups T bus due groups : StateM (World τ) Progress)
  match problem with
  | none => return handles
  | some problem =>
    if handles.isEmpty then throw problem
    World.log (.partlyScheduled handles.length problem)
    throw (.partialSchedule handles problem)

/-- The sequence numbers of handles by resource, in the order in which resources first occur. -/
def numbersByResource (handles : List ScheduledDispatch) :
    List ((EntityKind × String) × List Int) :=
  ((handles.map fun h => (h.kind, h.resourceId)).eraseDups).map fun key =>
    (key, (handles.filter fun h => (h.kind, h.resourceId) == key).map (·.sequenceNumber))

def cancelEach (T : Transport τ) (bus : Bus) :
    List ((EntityKind × String) × List Int) → Work τ DispatchError Unit
  | [] => return
  | ((kind, resourceId), numbers) :: rest => do
    match bus.resolveSender kind resourceId with
    | .error problem => throw problem
    | .ok sender =>
      checkCancelled T
      World.raising (.transport resourceId) (World.call (T.cancelScheduled sender numbers))
      World.log (.scheduleCancelled kind resourceId numbers.length)
      cancelEach T bus rest

/-- Takes scheduled dispatches back, with one call for each resource, until one fails. -/
def cancelScheduled (T : Transport τ) (bus : Bus) (handles : List ScheduledDispatch) :
    Work τ DispatchError Unit :=
  cancelEach T bus (numbersByResource handles)

end Bus

end MessageBus
