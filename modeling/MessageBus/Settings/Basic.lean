/-!
# Settings of a bus

The connection that resources use unless they name one of their own, the isolation of this instance,
and the limits on batches and pages.
-/

namespace MessageBus

inductive TransportProtocol
  | amqp
  | amqpWebSockets
  deriving DecidableEq, Repr, Inhabited

def TransportProtocol.name : TransportProtocol → String
  | .amqp => "Amqp"
  | .amqpWebSockets => "AmqpWebSockets"

/-- A connection to a broker. Two resources with equal connections share one. -/
structure Connection where
  connectionString : Option String := none
  hostNamespace : Option String := none
  protocol : TransportProtocol := .amqp
  deriving DecidableEq, Repr, Inhabited

namespace Connection

def ofConnectionString (s : String) : Connection := { connectionString := some s }

def ofNamespace (s : String) : Connection := { hostNamespace := some s }

end Connection

inductive IsolationBehavior
  | handleAll
  | handleIsolated
  deriving DecidableEq, Repr, Inhabited

def IsolationBehavior.name : IsolationBehavior → String
  | .handleAll => "HandleAllMessages"
  | .handleIsolated => "HandleIsolatedMessages"

/-- The isolation of an instance: which received messages it handles, and the key and the
applications that it marks its own messages with. -/
structure Isolation where
  behavior : IsolationBehavior := .handleAll
  key : Option String := none
  applicationName : Option String := none
  apps : List String := []
  deriving DecidableEq, Repr, Inhabited

namespace Isolation

def isolated (key : String) : Isolation := { behavior := .handleIsolated, key := some key }

def accepts (isolation : Isolation) (key : Option String) : Bool :=
  match isolation.behavior with
  | .handleAll => true
  | .handleIsolated => key == isolation.key

end Isolation

structure Settings where
  connection : Option Connection := none
  isolation : Isolation := {}
  maxBatchSize : Option UInt64 := none
  pageSize : UInt64 := 100
  deriving DecidableEq, Repr, Inhabited

/-- Sets the size of schedule pages; a page holds at least one message. -/
def Settings.withPageSize (settings : Settings) (size : UInt64) : Settings :=
  { settings with pageSize := if size = 0 then 1 else size }

end MessageBus
