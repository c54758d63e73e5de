import Mathlib.Data.List.Induction
import MessageBus.Proofs.Allocation

/-!
# Requests for resources

An allocator serves requests one after the other. What it has granted stays as it is, and is granted
again to whoever asks for the same entity on the same connection. Anything else that is asked for
gets the first id that is free.
-/

namespace MessageBus

def Resource.addressOn (connection : Option Connection) (r : Resource) :
    EntityKind × String × Option Connection :=
  (r.withDefault connection).address

theorem Resource.addressOn_of_address {connection : Option Connection} {r q : Resource}
    (h : r.address = q.addressOn connection) : r.addressOn connection = q.addressOn connection := by
  have inherited : r.connection = (q.connection <|> connection) :=
    congrArg (fun address => address.2.2) h
  have once : (r.connection <|> connection) = r.connection := by
    rw [inherited]
    cases q.connection <;> cases connection <;> rfl
  rw [← h, addressOn, withDefault, once]

def Resource.queueOn (connection name : String) : Resource :=
  { Resource.queue name with connection := some (.ofConnectionString connection) }

namespace Allocator

open Resource (queueOn)

def after (connection : Option Connection) (requests : List Resource) : Allocator :=
  requests.foldl (fun a r => (a.allocate r).2) { defaultConnection := connection }

theorem allocate_of_address {a : Allocator} (distinct : a.AddressesDistinct) {existing r : Resource}
    (h : existing ∈ a.allocated) (same : r.addressOn a.defaultConnection = existing.address) :
    a.allocate r = (existing, a) := by
  rcases a.allocate_eq r with ⟨other, hother, address, heq⟩ | ⟨new, -⟩
  · have : other = existing := List.inj_on_of_nodup_map distinct hother h (address.trans same)
    rw [heq, this]
  · have known : r.addressOn a.defaultConnection ∈ a.allocated.map Resource.address :=
      same ▸ List.mem_map_of_mem h
    exact absurd known new

theorem mem_addresses_allocate (a : Allocator) (q : Resource)
    (address : EntityKind × String × Option Connection) :
    address ∈ (a.allocate q).2.allocated.map Resource.address ↔
      address ∈ a.allocated.map Resource.address ∨ address = q.addressOn a.defaultConnection := by
  rcases a.allocate_eq q with ⟨existing, hmem, same, heq⟩ | ⟨-, id, -, heq⟩
  · have known : q.addressOn a.defaultConnection ∈ a.allocated.map Resource.address :=
      List.mem_map.mpr ⟨existing, hmem, same⟩
    rw [heq]
    constructor
    · exact .inl
    · rintro (old | rfl)
      · exact old
      · exact known
  · rw [heq, List.map_append, List.mem_append, List.map_singleton, List.mem_singleton]
    rfl

section After

variable (connection : Option Connection)

theorem after_concat (requests : List Resource) (q : Resource) :
    after connection (requests ++ [q]) = ((after connection requests).allocate q).2 := by
  rw [after, List.foldl_concat, after]

variable {connection} in
theorem after_induction {P : Allocator → Prop} (start : P { defaultConnection := connection })
    (step : ∀ a q, P a → P (a.allocate q).2) (requests : List Resource) :
    P (after connection requests) := by
  induction requests using List.reverseRecOn with
  | nil => exact start
  | append_singleton requests q ih =>
    rw [after_concat]
    exact step _ q ih

theorem defaultConnection_after (requests : List Resource) :
    (after connection requests).defaultConnection = connection :=
  after_induction (P := fun a => a.defaultConnection = connection) rfl
    (fun a q h => (a.defaultConnection_allocate q).trans h) requests

theorem keysDistinct_after (requests : List Resource) : (after connection requests).KeysDistinct :=
  after_induction List.nodup_nil (fun _ q h => h.allocate q) requests

theorem addressesDistinct_after (requests : List Resource) :
    (after connection requests).AddressesDistinct :=
  after_induction List.nodup_nil (fun _ q h => h.allocate q) requests

theorem mem_addresses_after (requests : List Resource)
    (address : EntityKind × String × Option Connection) :
    address ∈ (after connection requests).allocated.map Resource.address ↔
      address ∈ requests.map (·.addressOn connection) := by
  induction requests using List.reverseRecOn with
  | nil => exact Iff.rfl
  | append_singleton requests q ih =>
    rw [after_concat, mem_addresses_allocate, ih, defaultConnection_after, List.map_append,
      List.mem_append, List.map_singleton, List.mem_singleton]

theorem allocated_grows_after {earlier requests : List Resource} (h : earlier <+: requests) :
    (after connection earlier).allocated <+: (after connection requests).allocated := by
  obtain ⟨later, rfl⟩ := h
  induction later using List.reverseRecOn with
  | nil => exact ⟨[], by simp only [List.append_nil]⟩
  | append_singleton later q ih =>
    rw [← List.append_assoc, after_concat]
    exact ih.trans (allocated_grows _ q)

end After

/-- Whatever is asked for in whatever order, no two resources share a key or an address. What a
request was granted stays where it is, and is granted to every later request for the same address
and to itself. A request for a new address is granted a resource behind the others, under the name
of the entity if that is free and else under the first suffix that is. -/
theorem allocations_settled (connection : Option Connection) (requests : List Resource) :
    let a := after connection requests
    (a.allocated.map Resource.key).Nodup ∧ (a.allocated.map Resource.address).Nodup ∧
      (∀ earlier q, earlier ++ [q] <+: requests →
        let granted := ((after connection earlier).allocate q).1
        let next := ((after connection earlier).allocate q).2
        granted.address = q.addressOn connection ∧ granted ∈ next.allocated ∧
          next.allocated <+: a.allocated ∧
          ∀ again : Resource,
            again = granted ∨ again.addressOn connection = q.addressOn connection →
              a.allocate again = (granted, a)) ∧
      ∀ new : Resource, new.addressOn connection ∉ requests.map (·.addressOn connection) →
        let r := new.withDefault connection
        ∃ id, a.Finds r.kind r.entity id ∧
          a.allocate new =
            ({ r with id := id },
              { a with allocated := a.allocated ++ [{ r with id := id }] }) := by
  intro a
  have inherits : a.defaultConnection = connection := defaultConnection_after connection requests
  have distinct : a.AddressesDistinct := addressesDistinct_after connection requests
  refine ⟨keysDistinct_after connection requests, distinct, fun earlier q hq => ?_,
    fun new unasked => ?_⟩
  · have granted_address := address_allocate (after connection earlier) q
    rw [defaultConnection_after] at granted_address
    have granted_mem := allocate_mem (after connection earlier) q
    have kept := allocated_grows_after connection hq
    rw [after_concat] at kept
    refine ⟨granted_address, granted_mem, kept, fun again hagain => ?_⟩
    refine allocate_of_address distinct (kept.subset granted_mem) ?_
    rw [inherits, granted_address]
    rcases hagain with rfl | same
    · exact Resource.addressOn_of_address granted_address
    · exact same
  · have request : new.withDefault a.defaultConnection = new.withDefault connection := by
      rw [inherits]
    rcases a.allocate_eq new with ⟨existing, hmem, same, -⟩ | ⟨-, granted⟩
    · have asked := (mem_addresses_after connection requests _).mp (List.mem_map_of_mem hmem)
      rw [same, request] at asked
      exact absurd asked unasked
    · rw [request] at granted
      exact granted

def sharedOrders : List Resource :=
  [queueOn "a" "orders", queueOn "b" "orders", queueOn "a" "orders_3"]

theorem allocations_settled_orders :
    let a := after none sharedOrders
    let shared := { queueOn "b" "orders" with id := "orders_2" }
    a.allocate (queueOn "b" "orders") = (shared, a) ∧ a.allocate shared = (shared, a) ∧
      (a.allocate (queueOn "c" "orders")).1 = { queueOn "c" "orders" with id := "orders_4" } := by
  intro a shared
  obtain ⟨-, -, kept, added⟩ := allocations_settled none sharedOrders
  obtain ⟨-, -, -, again⟩ := kept [queueOn "a" "orders"] (queueOn "b" "orders")
    ⟨[queueOn "a" "orders_3"], rfl⟩
  obtain ⟨id, found, granted⟩ := added (queueOn "c" "orders") (by decide)
  refine ⟨again _ (.inr rfl), again _ (.inl (by decide +kernel)), ?_⟩
  rw [granted]
  cases found with
  | name free => exact absurd free (by decide +kernel)
  | suffix k taken first tried ends =>
    have reached := ends 3 (Nat.le_refl _)
    rw [← reached]
    decide +kernel

end Allocator

end MessageBus
