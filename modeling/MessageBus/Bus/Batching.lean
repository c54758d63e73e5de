import MessageBus.Dispatch.Basic
import MessageBus.Trace.World

/-!
# Batches and pages

Messages for one sender are packed into batches in order, a new one whenever the current one is
full. For schedules they are cut into pages by count.
-/

namespace MessageBus.World

variable {τ : Type}

def newBatch (T : Transport τ) (limit : Option UInt64) (sender : Sender) (resourceId : String) :
    Work τ DispatchError Batch :=
  raising (.transport resourceId) (call (T.createBatch sender limit))

def tooLarge (resourceId : String) (m : Message) (b : Batch) : DispatchError :=
  .messageTooLarge m.id resourceId m.size b.capacity.limit

/-- Fills the current batch and those after it. A message that does not go into an empty batch is
too large. -/
def fillBatches (T : Transport τ) (limit : Option UInt64) (sender : Sender) (resourceId : String)
    (current : Batch) : List Message → Work τ DispatchError (List Batch)
  | [] => return if current.isEmpty then [] else [current]
  | m :: rest => do
    match current.tryAdd m with
    | some current => fillBatches T limit sender resourceId current rest
    | none =>
      if current.isEmpty then throw (tooLarge resourceId m current)
      log (.batchFull resourceId current.messages.length current.size)
      let next ← newBatch T limit sender resourceId
      match next.tryAdd m with
      | none => throw (tooLarge resourceId m next)
      | some next => return current :: (← fillBatches T limit sender resourceId next rest)

def createBatches (T : Transport τ) (limit : Option UInt64) (sender : Sender) (resourceId : String)
    (messages : List Message) : Work τ DispatchError (List Batch) := do
  fillBatches T limit sender resourceId (← newBatch T limit sender resourceId) messages

end MessageBus.World

namespace MessageBus

/-- Cuts a list into pages of `size` elements; a page size of zero counts as one. -/
def paginate {α : Type} (size : Nat) : List α → List (List α)
  | [] => []
  | x :: rest => (x :: rest.take (size - 1)) :: paginate size (rest.drop (size - 1))
termination_by xs => xs.length
decreasing_by simp only [List.length_drop, List.length_cons]; omega

end MessageBus
