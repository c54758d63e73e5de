import MessageBus.Settings.Basic

/-!
# Resources

The queues, topics and subscriptions of a broker, as this process knows them. A subscription is
named after its topic with `/Subscriptions/` in between.
-/

namespace MessageBus

inductive EntityKind
  | queue
  | topic
  | subscription
  deriving DecidableEq, Repr, Inhabited

namespace EntityKind

def name : EntityKind → String
  | .queue => "Queue"
  | .topic => "Topic"
  | .subscription => "Subscription"

def rank : EntityKind → Nat
  | .queue => 0
  | .topic => 1
  | .subscription => 2

end EntityKind

/-- A resource. `entity` is the path that was asked for and that the transport connects to; `id`
names the resource inside this process, and differs from `entity` only where another resource has
that name for its id already. -/
structure Resource where
  kind : EntityKind
  id : String
  entity : String
  connection : Option Connection := none
  deriving DecidableEq, Repr, Inhabited

def subscriptionsSegment : String := "/Subscriptions/"

/-- What stands before the first occurrence of `segment`, or all of it. -/
def beforeSegment (segment : List Char) : List Char → List Char
  | [] => []
  | c :: rest =>
    if segment.isPrefixOf (c :: rest) then [] else c :: beforeSegment segment rest

/-- The topic in the name of a subscription. A name without the separator stays as it is. -/
def topicOf (id : String) : String :=
  String.ofList (beforeSegment subscriptionsSegment.toList id.toList)

namespace Resource

def of (kind : EntityKind) (entity : String) : Resource := ⟨kind, entity, entity, none⟩

def queue (name : String) : Resource := of .queue name

def topic (name : String) : Resource := of .topic name

def subscriptionPath (topic subscription : String) : String :=
  topic ++ subscriptionsSegment ++ subscription

def subscription (topic subscription : String) : Resource :=
  of .subscription (subscriptionPath topic subscription)

def topicName? (r : Resource) : Option String :=
  if r.kind = .subscription then some (topicOf r.entity) else none

/-- Uses the connection where the resource names none of its own. -/
def withDefault (r : Resource) (connection : Option Connection) : Resource :=
  { r with connection := r.connection <|> connection }

def key (r : Resource) : EntityKind × String := (r.kind, r.id)

/-- The two resources are one entity on one connection. -/
def sameEntity (a b : Resource) : Bool :=
  a.kind == b.kind && a.entity == b.entity && a.connection == b.connection

/-- Where a message received on the resource is sent again: the same queue, or the topic of a
subscription, on the same connection. -/
def rerouteTarget (source : Resource) : Resource :=
  let target :=
    match source.kind with
    | .subscription => topic (topicOf source.entity)
    | kind => of kind source.entity
  { target with connection := source.connection }

end Resource

end MessageBus
