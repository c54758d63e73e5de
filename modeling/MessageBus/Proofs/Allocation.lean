import Mathlib.Algebra.Ring.Nat
import Mathlib.Data.List.Nodup
import Mathlib.Data.List.Perm.Subperm
import Mathlib.Data.Nat.Find
import MessageBus.Resource.Allocator

/-!
# Allocated resources

Whatever is asked for, a new resource gets an id that no other resource of its kind has: there are
more suffixes to try than resources that could have taken them. And no entity gets two resources on
one connection.
-/

namespace MessageBus

def Resource.address (r : Resource) : EntityKind × String × Option Connection :=
  (r.kind, r.entity, r.connection)

theorem Resource.sameEntity_iff (a b : Resource) :
    a.sameEntity b = true ↔ a.address = b.address := by
  simp [sameEntity, address, and_assoc]

namespace Allocator

theorem suffixed_injective (entity : String) : Function.Injective (suffixed entity) := by
  intro j k h
  have digits : Nat.repr j = Nat.repr k := (String.append_right_inj _).mp h
  have := congrArg (Nat.ofDigitChars 10 ·.toList 0) digits
  simpa [Nat.repr, Nat.ofDigitChars_ten_toDigits] using this

theorem suffixed_ne (entity : String) (k : Nat) : suffixed entity k ≠ entity := by
  intro h
  have := congrArg String.length h
  simp only [suffixed, String.length_append] at this
  have : "_".length = 1 := rfl
  omega

def keys (a : Allocator) : List (EntityKind × String) := a.allocated.map Resource.key

def KeysDistinct (a : Allocator) : Prop := (a.allocated.map Resource.key).Nodup

theorem isTaken_iff (a : Allocator) (kind : EntityKind) (id : String) :
    a.isTaken kind id = true ↔ (kind, id) ∈ a.keys := by
  simp [isTaken, keys, Resource.key]

section Search

variable {a : Allocator} {kind : EntityKind} {entity : String}

structure FirstFree (a : Allocator) (kind : EntityKind) (entity : String) (k : Nat) : Prop where
  two_le : 2 ≤ k
  free : (kind, suffixed entity k) ∉ a.keys
  taken : ∀ j, 2 ≤ j → j < k → (kind, suffixed entity j) ∈ a.keys

theorem tried_le {k : Nat} (name : (kind, entity) ∈ a.keys)
    (taken : ∀ j, 2 ≤ j → j < k → (kind, suffixed entity j) ∈ a.keys) :
    k - 1 ≤ a.allocated.length := by
  let suffixes := (List.range' 2 (k - 2)).map fun j => (kind, suffixed entity j)
  have distinct : ((kind, entity) :: suffixes).Nodup := by
    refine List.nodup_cons.mpr ⟨fun h => ?_, List.Nodup.map (fun i j hij => ?_) List.nodup_range'⟩
    · obtain ⟨j, -, hj⟩ := List.mem_map.mp h
      exact suffixed_ne entity j (congrArg Prod.snd hj)
    · exact suffixed_injective entity (congrArg Prod.snd hij)
  have subset : (kind, entity) :: suffixes ⊆ a.keys := by
    refine List.cons_subset.mpr ⟨name, fun key hkey => ?_⟩
    obtain ⟨j, hj, rfl⟩ := List.mem_map.mp hkey
    rw [List.mem_range'_1] at hj
    exact taken j hj.1 (by omega)
  have := (distinct.subperm subset).length_le
  simp only [suffixes, keys, List.length_cons, List.length_map, List.length_range'] at this
  omega

theorem exists_firstFree (name : (kind, entity) ∈ a.keys) : ∃ k, a.FirstFree kind entity k := by
  have some_free : ∃ k, 2 ≤ k ∧ (kind, suffixed entity k) ∉ a.keys := by
    by_contra all_taken
    simp only [not_exists, not_and, not_not] at all_taken
    have := tried_le (k := a.allocated.length + 2) name fun j hj _ => all_taken j hj
    omega
  obtain ⟨two_le, free⟩ := Nat.find_spec some_free
  refine ⟨Nat.find some_free, two_le, free, fun j hj earlier => ?_⟩
  have := Nat.find_min some_free earlier
  tauto

theorem freeSuffix_eq {first k fuel : Nat} (start : first ≤ k) (enough : k ≤ first + fuel)
    (free : (kind, suffixed entity k) ∉ a.keys)
    (taken : ∀ j, first ≤ j → j < k → (kind, suffixed entity j) ∈ a.keys) :
    a.freeSuffix kind entity fuel first = suffixed entity k := by
  induction fuel generalizing first with
  | zero =>
    obtain rfl : first = k := by omega
    rfl
  | succ fuel ih =>
    rw [freeSuffix]
    rcases Nat.eq_or_lt_of_le start with rfl | later
    · rw [if_neg (mt (isTaken_iff ..).mp free)]
    · rw [if_pos ((isTaken_iff ..).mpr (taken first (Nat.le_refl _) later))]
      exact ih later (by omega) fun j hj => taken j (by omega)

theorem FirstFree.freeSuffix {k fuel : Nat} (first : a.FirstFree kind entity k)
    (name : (kind, entity) ∈ a.keys) (enough : a.allocated.length ≤ fuel) :
    a.freeSuffix kind entity fuel 2 = suffixed entity k := by
  have tried := tried_le name first.taken
  exact freeSuffix_eq first.two_le (by omega) first.free first.taken

end Search

/-- What the search for an id comes to. It tries no more suffixes than there are resources, and
allowed any number of further tries it ends where it does. -/
inductive Finds (a : Allocator) (kind : EntityKind) (entity : String) : String → Prop
  | name (free : (kind, entity) ∉ a.keys) : Finds a kind entity entity
  | suffix (k : Nat) (taken : (kind, entity) ∈ a.keys) (first : a.FirstFree kind entity k)
      (tried : k - 1 ≤ a.allocated.length)
      (ends : ∀ fuel, a.allocated.length ≤ fuel →
        a.freeSuffix kind entity fuel 2 = suffixed entity k) :
      Finds a kind entity (suffixed entity k)

theorem finds_freeId (a : Allocator) (kind : EntityKind) (entity : String) :
    a.Finds kind entity (a.freeId kind entity) := by
  rw [freeId]
  split
  · next taken =>
    have taken := (isTaken_iff ..).mp taken
    obtain ⟨k, first⟩ := exists_firstFree taken
    rw [first.freeSuffix taken (Nat.le_refl _)]
    exact .suffix k taken first (tried_le taken first.taken) fun _ => first.freeSuffix taken
  · next free => exact .name (mt (isTaken_iff ..).mpr free)

/-- The search ends within the range of a signed counter of 32 bits. -/
theorem Finds.suffix_lt {a : Allocator} {kind : EntityKind} {entity id : String}
    (found : a.Finds kind entity id) (few : a.allocated.length + 1 < 2 ^ 31) :
    id = entity ∨ ∃ k, a.FirstFree kind entity k ∧ k < 2 ^ 31 ∧ id = suffixed entity k := by
  cases found with
  | name => exact .inl rfl
  | suffix k taken first tried => exact .inr ⟨k, first, by omega, rfl⟩

theorem Finds.free {a : Allocator} {kind : EntityKind} {entity id : String}
    (found : a.Finds kind entity id) : (kind, id) ∉ a.keys := by
  cases found with
  | name free => exact free
  | suffix k taken first => exact first.free

theorem allocate_eq (a : Allocator) (requested : Resource) :
    let r := requested.withDefault a.defaultConnection
    (∃ existing ∈ a.allocated, existing.address = r.address ∧
        a.allocate requested = (existing, a)) ∨
      r.address ∉ a.allocated.map Resource.address ∧ ∃ id, a.Finds r.kind r.entity id ∧
        a.allocate requested =
          ({ r with id := id }, { a with allocated := a.allocated ++ [{ r with id := id }] }) := by
  intro r
  cases h : a.allocated.find? (·.sameEntity r) with
  | some existing =>
    have same := List.find?_some h
    refine .inl ⟨existing, List.mem_of_find?_eq_some h, ?_, ?_⟩
    · exact (Resource.sameEntity_iff existing _).mp same
    · simp only [allocate, r] at h ⊢
      rw [h]
  | none =>
    refine .inr ⟨fun hmem => ?_, a.freeId r.kind r.entity, a.finds_freeId .., ?_⟩
    · obtain ⟨other, hother, same⟩ := List.mem_map.mp hmem
      exact List.find?_eq_none.mp h other hother ((Resource.sameEntity_iff ..).mpr same)
    · simp only [allocate, r] at h ⊢
      rw [h]

theorem KeysDistinct.allocate {a : Allocator} (h : a.KeysDistinct) (requested : Resource) :
    (a.allocate requested).2.KeysDistinct := by
  rcases a.allocate_eq requested with ⟨existing, -, -, heq⟩ | ⟨-, id, found, heq⟩
  · rw [heq]
    exact h
  · rw [heq]
    simp only [KeysDistinct, List.map_append, List.map_cons, List.map_nil]
    exact List.Nodup.append h (List.nodup_singleton _) (List.disjoint_singleton.mpr found.free)

def AddressesDistinct (a : Allocator) : Prop := (a.allocated.map Resource.address).Nodup

theorem AddressesDistinct.allocate {a : Allocator} (h : a.AddressesDistinct)
    (requested : Resource) : (a.allocate requested).2.AddressesDistinct := by
  rcases a.allocate_eq requested with ⟨existing, -, -, heq⟩ | ⟨new, id, -, heq⟩
  · rw [heq]
    exact h
  · rw [heq]
    simp only [AddressesDistinct, List.map_append, List.map_cons, List.map_nil]
    exact List.Nodup.append h (List.nodup_singleton _) (List.disjoint_singleton.mpr new)

theorem address_allocate (a : Allocator) (requested : Resource) :
    (a.allocate requested).1.address =
      (requested.withDefault a.defaultConnection).address := by
  rcases a.allocate_eq requested with ⟨existing, -, same, heq⟩ | ⟨-, id, -, heq⟩
  · rw [heq]
    exact same
  · rw [heq]
    rfl

theorem defaultConnection_allocate (a : Allocator) (requested : Resource) :
    (a.allocate requested).2.defaultConnection = a.defaultConnection := by
  rcases a.allocate_eq requested with ⟨existing, -, -, heq⟩ | ⟨-, id, -, heq⟩ <;> rw [heq]

theorem allocate_mem (a : Allocator) (requested : Resource) :
    (a.allocate requested).1 ∈ (a.allocate requested).2.allocated := by
  rcases a.allocate_eq requested with ⟨existing, hmem, -, heq⟩ | ⟨-, id, -, heq⟩
  · rw [heq]
    exact hmem
  · rw [heq]
    exact List.mem_append_right _ (List.mem_singleton_self _)

theorem allocated_grows (a : Allocator) (requested : Resource) :
    a.allocated <+: (a.allocate requested).2.allocated := by
  rcases a.allocate_eq requested with ⟨existing, -, -, heq⟩ | ⟨-, id, -, heq⟩
  · refine ⟨[], ?_⟩
    rw [heq, List.append_nil]
  · rw [heq]
    exact List.prefix_append _ _

end Allocator

end MessageBus
