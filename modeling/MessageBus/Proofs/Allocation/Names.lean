import MessageBus.Proofs.Allocation.Requests

/-!
# The names of entities as ids

A resource keeps the name of its entity as its id, unless another resource of its kind has that name
as its id already. It may be one of the same entity on another connection, or one of another entity
that was given the name with a suffix: ids stay unique, whoever asks for a name later.
-/

namespace MessageBus

namespace Allocator

open Resource (queueOn)

def Unasked (earlier : List Resource) (q : Resource) : Prop :=
  ∀ p ∈ earlier, p.kind = q.kind → p.entity ≠ q.entity

/-- A resource of another entity has the name that is asked for, as a suffixed id. -/
def GivenAway (a : Allocator) (q : Resource) : Prop :=
  ∃ other ∈ a.allocated, other.kind = q.kind ∧ other.id = q.entity ∧
    ∃ k, 2 ≤ k ∧ q.entity = suffixed other.entity k

/-- The resource has its entity in common with one on another connection. -/
def Shared (a : Allocator) (r : Resource) : Prop :=
  ∃ other ∈ a.allocated, other.kind = r.kind ∧ other.entity = r.entity ∧
    other.connection ≠ r.connection

/-- The request that a resource was granted for: its address was new, and its id is what the search
found. -/
structure GrantedAt (connection : Option Connection) (requests : List Resource) (r : Resource)
    (earlier : List Resource) (q : Resource) : Prop where
  among : earlier ++ [q] <+: requests
  new : r.address ∉ (after connection earlier).allocated.map Resource.address
  address : r.address = q.addressOn connection
  found : (after connection earlier).Finds r.kind r.entity r.id

theorem GrantedAt.later {connection : Option Connection} {requests more earlier : List Resource}
    {r q : Resource} (granted : GrantedAt connection requests r earlier q)
    (h : requests <+: more) : GrantedAt connection more r earlier q :=
  { granted with among := granted.among.trans h }

section Finds

variable {a : Allocator} {kind : EntityKind} {entity id : String}

theorem Finds.eq_name_or_suffixed (found : a.Finds kind entity id) :
    id = entity ∨ ∃ k, 2 ≤ k ∧ id = suffixed entity k := by
  cases found with
  | name => exact .inl rfl
  | suffix k taken first => exact .inr ⟨k, first.two_le, rfl⟩

theorem Finds.eq_name_iff (found : a.Finds kind entity id) :
    id = entity ↔ (kind, entity) ∉ a.keys := by
  cases found with
  | name free => exact ⟨fun _ => free, fun _ => rfl⟩
  | suffix k taken => exact ⟨fun h => absurd h (suffixed_ne entity k), absurd taken⟩

end Finds

section After

variable {connection : Option Connection} {earlier requests : List Resource} {q r : Resource}

theorem granted_of_mem_after (h : r ∈ (after connection requests).allocated) :
    ∃ earlier q, GrantedAt connection requests r earlier q := by
  induction requests using List.reverseRecOn with
  | nil => cases h
  | append_singleton requests q ih =>
    have older : r ∈ (after connection requests).allocated →
        ∃ earlier p, GrantedAt connection (requests ++ [q]) r earlier p := by
      intro hr
      obtain ⟨earlier, p, granted⟩ := ih hr
      exact ⟨earlier, p, granted.later (List.prefix_append _ _)⟩
    rw [after_concat] at h
    rcases (after connection requests).allocate_eq q with
      ⟨existing, -, -, heq⟩ | ⟨new, id, found, heq⟩
    · rw [heq] at h
      exact older h
    · rw [heq] at h
      rcases List.mem_append.mp h with hr | hr
      · exact older hr
      · rw [List.mem_singleton] at hr
        subst hr
        have inherited := defaultConnection_after connection requests
        exact ⟨requests, q, List.prefix_refl _, new, congrArg q.addressOn inherited, found⟩

theorem eq_name_or_suffixed_of_mem (h : r ∈ (after connection requests).allocated) :
    r.id = r.entity ∨ ∃ k, 2 ≤ k ∧ r.id = suffixed r.entity k :=
  have ⟨_, _, granted⟩ := granted_of_mem_after h
  granted.found.eq_name_or_suffixed

theorem asked_of_mem (h : r ∈ (after connection requests).allocated) :
    ∃ p ∈ requests, p.kind = r.kind ∧ p.entity = r.entity ∧
      p.addressOn connection = r.address := by
  obtain ⟨p, hp, same⟩ :=
    List.mem_map.mp ((mem_addresses_after connection requests _).mp (List.mem_map_of_mem h))
  exact ⟨p, hp, congrArg Prod.fst same, congrArg (·.2.1) same, same⟩

theorem Unasked.new (first : Unasked earlier q) :
    q.addressOn connection ∉ (after connection earlier).allocated.map Resource.address := by
  rw [mem_addresses_after]
  intro asked
  obtain ⟨p, hp, same⟩ := List.mem_map.mp asked
  exact first p hp (congrArg Prod.fst same) (congrArg (·.2.1) same)

theorem Unasked.mem_keys_iff (first : Unasked earlier q) :
    (q.kind, q.entity) ∈ (after connection earlier).keys ↔
      (after connection earlier).GivenAway q := by
  constructor
  · intro taken
    obtain ⟨other, hother, key⟩ := List.mem_map.mp taken
    have kind : other.kind = q.kind := congrArg Prod.fst key
    have id : other.id = q.entity := congrArg Prod.snd key
    refine ⟨other, hother, kind, id, ?_⟩
    rcases eq_name_or_suffixed_of_mem hother with name | ⟨k, two_le, suffix⟩
    · obtain ⟨p, hp, p_kind, p_entity, -⟩ := asked_of_mem hother
      exact absurd (p_entity.trans (name.symm.trans id)) (first p hp (p_kind.trans kind))
    · exact ⟨k, two_le, id.symm.trans suffix⟩
  · rintro ⟨other, hother, kind, id, -⟩
    exact List.mem_map.mpr ⟨other, hother, Prod.ext kind id⟩

theorem Unasked.id_eq_iff (first : Unasked earlier q) :
    ((after connection earlier).allocate q).1.id = q.entity ↔
      ¬(after connection earlier).GivenAway q := by
  rcases (after connection earlier).allocate_eq q with ⟨existing, hmem, same, -⟩ | ⟨-, id, found, h⟩
  · rw [defaultConnection_after] at same
    exact absurd (List.mem_map.mpr ⟨existing, hmem, same⟩) first.new
  · rw [h, ← first.mem_keys_iff]
    exact found.eq_name_iff

theorem Unasked.not_shared (first : Unasked earlier q) :
    ¬(after connection (earlier ++ [q])).Shared ((after connection earlier).allocate q).1 := by
  have address := address_allocate (after connection earlier) q
  rw [defaultConnection_after] at address
  rintro ⟨other, hother, kind, entity, elsewhere⟩
  obtain ⟨p, hp, p_kind, p_entity, same⟩ := asked_of_mem hother
  have granted_kind := congrArg Prod.fst address
  have granted_entity := congrArg (·.2.1) address
  rcases List.mem_append.mp hp with hp | hp
  · exact first p hp (p_kind.trans (kind.trans granted_kind))
      (p_entity.trans (entity.trans granted_entity))
  · rw [List.mem_singleton] at hp
    subst hp
    exact elsewhere (congrArg (·.2.2) (same.symm.trans address.symm))

theorem GrantedAt.taken (granted : GrantedAt connection requests r earlier q)
    (renamed : r.id ≠ r.entity) :
    ∃ other ∈ (after connection earlier).allocated, other.kind = r.kind ∧ other.id = r.entity ∧
      (other.entity = r.entity ∧ other.connection ≠ r.connection ∨
        ∃ k, 2 ≤ k ∧ r.entity = suffixed other.entity k) := by
  have key : (r.kind, r.entity) ∈ (after connection earlier).keys := by
    by_contra free
    exact renamed (granted.found.eq_name_iff.mpr free)
  obtain ⟨other, hother, same⟩ := List.mem_map.mp key
  have kind : other.kind = r.kind := congrArg Prod.fst same
  have id : other.id = r.entity := congrArg Prod.snd same
  refine ⟨other, hother, kind, id, ?_⟩
  rcases eq_name_or_suffixed_of_mem hother with name | ⟨k, two_le, suffix⟩
  · have entity : other.entity = r.entity := name.symm.trans id
    refine .inl ⟨entity, fun connected => granted.new ?_⟩
    have one : other.address = r.address := by
      rw [Resource.address, kind, entity, connected, Resource.address]
    exact one ▸ List.mem_map_of_mem hother
  · exact .inr ⟨k, two_le, id.symm.trans suffix⟩

end After

/-- An id is not the name of its entity only if another resource of the kind has that name as its
id: the same entity on another connection, or an entity that was given it with a suffix. The first
request for an entity gets the name exactly if it was not given away so. Where no name that is asked
for is a suffixed form of another, another id is due to another connection. -/
theorem renamed_only_if_taken (connection : Option Connection) (requests : List Resource) :
    let a := after connection requests
    (∀ r ∈ a.allocated, r.id ≠ r.entity →
      ∃ other ∈ a.allocated, other.kind = r.kind ∧ other.id = r.entity ∧
        (other.entity = r.entity ∧ other.connection ≠ r.connection ∨
          ∃ k, 2 ≤ k ∧ r.entity = suffixed other.entity k)) ∧
    (∀ earlier q, earlier ++ [q] <+: requests → Unasked earlier q →
      (((after connection earlier).allocate q).1.id = q.entity ↔
        ¬(after connection earlier).GivenAway q)) ∧
    ((∀ p ∈ requests, ∀ q ∈ requests, p.kind = q.kind →
        ∀ k, 2 ≤ k → q.entity ≠ suffixed p.entity k) →
      ∀ r ∈ a.allocated, r.id ≠ r.entity → a.Shared r) := by
  intro a
  have taken : ∀ r ∈ a.allocated, r.id ≠ r.entity →
      ∃ other ∈ a.allocated, other.kind = r.kind ∧ other.id = r.entity ∧
        (other.entity = r.entity ∧ other.connection ≠ r.connection ∨
          ∃ k, 2 ≤ k ∧ r.entity = suffixed other.entity k) := by
    intro r hr renamed
    obtain ⟨earlier, q, granted⟩ := granted_of_mem_after hr
    obtain ⟨other, hother, holds⟩ := granted.taken renamed
    have stays := allocated_grows_after connection
      ((List.prefix_append earlier [q]).trans granted.among)
    exact ⟨other, stays.subset hother, holds⟩
  refine ⟨taken, fun earlier q _ first => first.id_eq_iff, fun apart r hr renamed => ?_⟩
  obtain ⟨other, hother, kind, -, ⟨entity, elsewhere⟩ | ⟨k, two_le, suffix⟩⟩ := taken r hr renamed
  · exact ⟨other, hother, kind, entity, elsewhere⟩
  · obtain ⟨p, hp, p_kind, p_entity, -⟩ := asked_of_mem hother
    obtain ⟨q, hq, q_kind, q_entity, -⟩ := asked_of_mem hr
    refine absurd ?_ (apart p hp q hq (p_kind.trans (kind.trans q_kind.symm)) k two_le)
    rw [q_entity, p_entity]
    exact suffix

/-- The name of a queue that nobody has asked for is the id of the second resource of `orders`. -/
theorem renamed_only_if_taken_orders :
    let requests := [queueOn "a" "orders", queueOn "b" "orders", queueOn "a" "orders_2"]
    let a := after none requests
    let r := { queueOn "a" "orders_2" with id := "orders_2_2" }
    r ∈ a.allocated ∧ r.id ≠ r.entity ∧
      ∃ other ∈ a.allocated, other.kind = r.kind ∧ other.id = r.entity ∧
        (other.entity = r.entity ∧ other.connection ≠ r.connection ∨
          ∃ k, 2 ≤ k ∧ r.entity = suffixed other.entity k) := by
  intro requests a r
  have allocated : r ∈ a.allocated := by decide +kernel
  have renamed : r.id ≠ r.entity := by decide
  exact ⟨allocated, renamed, (renamed_only_if_taken none requests).1 r allocated renamed⟩

/-- The first request for `orders_2` comes after that name went to the second resource of
`orders`. -/
theorem renamed_unshared :
    let earlier := [queueOn "a" "orders", queueOn "b" "orders"]
    let q := queueOn "a" "orders_2"
    let a := after none (earlier ++ [q])
    Unasked earlier q ∧ ((after none earlier).allocate q).1.id = "orders_2_2" ∧
      ¬∀ r ∈ a.allocated, r.id ≠ r.entity → a.Shared r := by
  intro earlier q a
  have first : Unasked earlier q := by
    unfold Unasked
    decide
  refine ⟨first, by decide +kernel, fun shared => ?_⟩
  exact first.not_shared (shared _ (by decide +kernel) (by decide +kernel))

end Allocator

end MessageBus
