import MessageBus.Identifier
import MessageBus.Trace.Event
import MessageBus.Transport.Basic

/-!
# The world of a bus

All that the work of a bus changes: the state of the transport, the supply of ids, the temporary
senders in use, whether the operation in progress has been cancelled, and the trace.
-/

namespace MessageBus

structure World (τ : Type) where
  transport : τ
  ids : IdSupply := .counting 0
  /-- Senders made for one message, with the ids that they are tracked by. -/
  temporaries : List (String × Sender) := []
  cancelled : Bool := false
  trace : List TraceEntry := []

/-- Work that may fail; what it has changed stays changed. -/
abbrev Work (τ ε α : Type) := ExceptT ε (StateM (World τ)) α

namespace World

variable {τ ε α : Type}

def add (entry : TraceEntry) (w : World τ) : World τ :=
  { w with trace := w.trace ++ [entry] }

def log (event : LogEvent) : Work τ ε Unit :=
  modify (add (.log event))

def call (c : Call τ α) : Work τ TransportError α := fun w =>
  let (outcome, transport) := c w.transport
  (outcome, { w with transport := transport })

def drawing (work : ExceptT ε (StateM IdSupply) α) : Work τ ε α := fun w =>
  let (outcome, ids) := work w.ids
  (outcome, { w with ids := ids })

def freshId : Work τ ε String := fun w =>
  let (id, ids) := w.ids.next
  (.ok id, { w with ids := ids })

/-- The outcome of the work, whatever it is. -/
def attempt {δ : Type} (work : Work τ ε α) : Work τ δ (Except ε α) := fun w =>
  let (outcome, w) := work w
  (.ok outcome, w)

/-- Work whose errors become those of a larger piece of work. -/
def raising {δ : Type} (wrap : ε → δ) (work : Work τ ε α) : Work τ δ α := fun w =>
  let (outcome, w) := work w
  (outcome.mapError wrap, w)

/-- The operation in progress has been cancelled, by its caller or by the transport. -/
def isCancelled (T : Transport τ) (w : World τ) : Bool :=
  w.cancelled || T.asksToStop w.transport

end World

end MessageBus
