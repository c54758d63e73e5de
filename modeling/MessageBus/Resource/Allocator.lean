import MessageBus.Resource.Basic

/-!
# Allocation of resource ids

Each connection on which an entity is asked for has a resource of its own. The first one keeps the
name of the entity as its id, the next ones get `_2`, `_3` and so on behind it. Suffixes are counted
without a bound; a signed counter of 32 bits comes to the same for fewer than 2³¹ - 1 resources.
-/

namespace MessageBus

structure Allocator where
  defaultConnection : Option Connection := none
  allocated : List Resource := []
  deriving Repr, Inhabited

namespace Allocator

def isTaken (a : Allocator) (kind : EntityKind) (id : String) : Bool :=
  a.allocated.any fun r => r.kind == kind && r.id == id

def suffixed (entity : String) (k : Nat) : String := entity ++ "_" ++ toString k

/-- The first free id among `entity_k`, `entity_(k+1)`, … , trying at most `fuel` of them. -/
def freeSuffix (a : Allocator) (kind : EntityKind) (entity : String) : Nat → Nat → String
  | 0, k => suffixed entity k
  | fuel + 1, k =>
    if a.isTaken kind (suffixed entity k) then freeSuffix a kind entity fuel (k + 1)
    else suffixed entity k

/-- One of as many suffixes as there are resources is free, or the one after them. -/
def freeId (a : Allocator) (kind : EntityKind) (entity : String) : String :=
  if a.isTaken kind entity then a.freeSuffix kind entity a.allocated.length 2 else entity

/-- The resource for a request, and the allocator after it. An entity asked for again on its
connection keeps its resource. -/
def allocate (a : Allocator) (requested : Resource) : Resource × Allocator :=
  let requested := requested.withDefault a.defaultConnection
  match a.allocated.find? (·.sameEntity requested) with
  | some existing => (existing, a)
  | none =>
    let r := { requested with id := a.freeId requested.kind requested.entity }
    (r, { a with allocated := a.allocated ++ [r] })

/-- The request gets a resource of its own whose id is not the name of its entity. -/
def renames (a : Allocator) (requested : Resource) : Bool :=
  let requested := requested.withDefault a.defaultConnection
  !a.allocated.any (·.sameEntity requested) && (a.allocate requested).1.id != requested.entity

end Allocator

end MessageBus
