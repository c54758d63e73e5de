import MessageBus.Bus.Composition

/-!
# Wiring by hand

A bus put together from its declarations one at a time. Each reception is registered as soon as it
is declared, topics among them; a sender is made where a dispatch finds none, unless its resource is
to go without; the dispatches are registered last. This serves runs by hand only: the library
composes its buses by `Builder.build`, and nothing is proved about wired ones.
-/

namespace MessageBus.Builder

variable {τ : Type}

structure Wiring where
  builder : Builder
  directory : Directory := {}
  receptions : ReceptionRegistry := {}

namespace Wiring

def dispatch (T : Transport τ) (without : List String) (w : Wiring) (r : DispatchRegistration) :
    Work τ CompositionError Wiring := do
  if (w.directory.sender? r.resource.kind r.resource.id).isSome || r.resource.id ∈ without then
    return w
  else
    return { w with directory := ← addSender T w.directory r.resource }

def receive (w : Wiring) (r : ReceptionRegistration) : Except RegistrationError Wiring :=
  match ReceptionRegistry.register r w.receptions with
  | (.error problem, _) => .error problem
  | (.ok _, receptions) => .ok
    { w with receptions := receptions, directory := w.directory.registerReceiver r.resource }

def declare (T : Transport τ) (without : List String) (w : Wiring) (d : Declaration) :
    Work τ CompositionError Wiring := do
  let builder := w.builder.declare d
  let w := { w with builder := builder }
  match d, builder.dispatches.getLast?, builder.receptions.getLast? with
  | .dispatch .., some r, _ => w.dispatch T without r
  | .receive .., _, some r =>
    match w.receive r with
    | .ok w => return w
    | .error problem => throw (.registration problem)
  | _, _, _ => return w

end Wiring

/-- Wires a bus; resources with an id among `without` get no sender. -/
def wire (T : Transport τ) (settings : Settings) (without : List String)
    (declarations : List Declaration) : Work τ CompositionError Bus := do
  let w ← declarations.foldlM (Wiring.declare T without) { builder := new settings }
  let b := w.builder
  modify fun world => b.notices.foldl (fun world event => world.add (.log event)) world
  match DispatchRegistry.new b.hasher b.dispatches with
  | .error problem => throw (.registration problem)
  | .ok dispatches => return ⟨settings, dispatches, w.receptions, w.directory, b.listeners⟩

end MessageBus.Builder
