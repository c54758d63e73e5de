import MessageBus.Broker.Receiving
import MessageBus.Bus.Composition
import MessageBus.Proofs.Allocation
import MessageBus.Proofs.Bus.Directory

/-!
# Composed buses

A composed bus was built over the broker from declarations. What has been declared is registered on
resources that were allocated for it, which neither their keys nor their addresses confuse.
-/

namespace MessageBus

namespace Builder

/-- Whatever is registered, its resource is an allocated one. -/
structure Placed (b : Builder) : Prop where
  distinct : b.allocator.KeysDistinct
  addresses : b.allocator.AddressesDistinct
  dispatched : b.dispatches.map (·.resource) ⊆ b.allocator.allocated
  received : b.receptions.map (·.resource) ⊆ b.allocator.allocated

theorem Placed.allocate {b : Builder} (h : b.Placed) (requested : Resource) :
    (b.allocate requested).2.Placed where
  distinct := h.distinct.allocate requested
  addresses := h.addresses.allocate requested
  dispatched := List.Subset.trans h.dispatched (b.allocator.allocated_grows requested).subset
  received := List.Subset.trans h.received (b.allocator.allocated_grows requested).subset

theorem Placed.declare {b : Builder} (h : b.Placed) (d : Declaration) : (b.declare d).Placed := by
  cases d with
  | dispatch type target typeId customizers =>
    have later := h.allocate target
    refine ⟨later.distinct, later.addresses, ?_, later.received⟩
    simp only [Builder.declare, List.map_append, List.append_subset]
    exact ⟨later.dispatched,
      List.cons_subset.mpr ⟨b.allocator.allocate_mem target, List.nil_subset _⟩⟩
  | receive type source typeId handler =>
    have later := h.allocate source
    refine ⟨later.distinct, later.addresses, later.dispatched, ?_⟩
    simp only [Builder.declare, List.map_append, List.append_subset]
    exact ⟨later.received,
      List.cons_subset.mpr ⟨b.allocator.allocate_mem source, List.nil_subset _⟩⟩
  | serializer s => exact ⟨h.distinct, h.addresses, h.dispatched, h.received⟩
  | listener name => exact ⟨h.distinct, h.addresses, h.dispatched, h.received⟩

theorem placed_foldl {b : Builder} (h : b.Placed) (declarations : List Declaration) :
    (declarations.foldl declare b).Placed := by
  induction declarations generalizing b with
  | nil => exact h
  | cons d declarations ih => exact ih (h.declare d)

theorem placed_new (settings : Settings)
    (hasher : Hasher TypeIdentity (List DispatchRegistration)) : (new settings hasher).Placed :=
  ⟨List.nodup_nil, List.nodup_nil, List.nil_subset _, List.nil_subset _⟩

variable {b : Builder}

theorem Placed.keysApart (placed : b.Placed) {rs : List Resource}
    (allocated : rs ⊆ b.allocator.allocated) : Resource.KeysApart rs := fun _ hr _ hother =>
  List.inj_on_of_nodup_map placed.distinct (allocated hr) (allocated hother)

theorem Placed.addressesApart (placed : b.Placed) {r other : Resource}
    (hr : r ∈ b.allocator.allocated) (hother : other ∈ b.allocator.allocated)
    (same : r.address = other.address) : r = other :=
  List.inj_on_of_nodup_map placed.addresses hr hother same

end Builder

/-- The bus was built over the broker from declarations, with its hash maps in whatever order. -/
def Bus.Composed (bus : Bus) : Prop :=
  ∃ (settings : Settings) (hasher : Hasher TypeIdentity (List DispatchRegistration))
    (declarations : List Declaration) (w w' : World Broker),
    (declarations.foldl Builder.declare (Builder.new settings hasher)).build Broker.transport w =
      (.ok bus, w')

end MessageBus
