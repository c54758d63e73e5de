import MessageBus.Proofs.Keyed
import MessageBus.Proofs.Outcome
import MessageBus.Proofs.Registration.Calls
import MessageBus.Registration.Reception

/-!
# Registering receptions

A registry keeps its registrations in a list, by the text that they are looked up by, and a set of
the handlers that are bound. The three go together after any calls. Registrations that are accepted
have keys of their own and do not bind a handler twice on one resource. This is all that it takes,
so it does not matter in which order registrations are made if all of them are accepted.
-/

namespace MessageBus

open Outcome

namespace ReceptionRegistry

/-- Registrations that can stand in one registry. -/
structure Compatible (rs : List ReceptionRegistration) : Prop where
  named : ∀ r ∈ rs, Text.isBlankText r.payloadTypeId = false
  handlers : (rs.map (·.handlerKey)).Nodup
  keys : (rs.map (·.key)).Nodup

theorem Compatible.perm {rs rs' : List ReceptionRegistration} (h : Compatible rs)
    (hp : rs'.Perm rs) : Compatible rs' where
  named := fun r hr => h.named r (hp.subset hr)
  handlers := (hp.map _).nodup_iff.mpr h.handlers
  keys := (hp.map _).nodup_iff.mpr h.keys

theorem Compatible.sublist {rs rs' : List ReceptionRegistration} (h : Compatible rs)
    (hs : rs'.Sublist rs) : Compatible rs' where
  named := fun r hr => h.named r (hs.subset hr)
  handlers := h.handlers.sublist (hs.map _)
  keys := h.keys.sublist (hs.map _)

theorem nodup_map_concat_iff {κ : Type} {f : ReceptionRegistration → κ}
    {rs : List ReceptionRegistration} {r : ReceptionRegistration} :
    ((rs ++ [r]).map f).Nodup ↔ (rs.map f).Nodup ∧ ∀ other ∈ rs, f other ≠ f r := by
  rw [List.map_append, List.map_singleton, List.nodup_append]
  simp

theorem compatible_concat_iff {rs : List ReceptionRegistration} {r : ReceptionRegistration} :
    Compatible (rs ++ [r]) ↔ Compatible rs ∧ Text.isBlankText r.payloadTypeId = false ∧
      (∀ other ∈ rs, other.handlerKey ≠ r.handlerKey) ∧ ∀ other ∈ rs, other.key ≠ r.key := by
  constructor
  · intro h
    exact ⟨h.sublist (List.sublist_append_left ..), h.named r (by simp),
      (nodup_map_concat_iff.mp h.handlers).2, (nodup_map_concat_iff.mp h.keys).2⟩
  · rintro ⟨h, named, apart, fresh⟩
    refine ⟨?_, nodup_map_concat_iff.mpr ⟨h.handlers, apart⟩,
      nodup_map_concat_iff.mpr ⟨h.keys, fresh⟩⟩
    exact List.forall_mem_append.mpr ⟨h.named, List.forall_mem_singleton.mpr named⟩

/-- The registry stands for the list of what is stored in it: each of the three structures does. -/
structure Stores (registry : ReceptionRegistry) (stored : List ReceptionRegistration) : Prop where
  listed : registry.registrations = stored
  filed : ∀ key r, registry.byKey.get? key = some r ↔ r ∈ stored ∧ r.key = key
  bound : ∀ key, registry.handlers.contains key = true ↔ ∃ r ∈ stored, r.handlerKey = key
  compatible : Compatible stored

theorem stores_empty : Stores {} [] where
  listed := rfl
  filed := fun _ _ => ⟨nofun, fun h => nomatch h.1⟩
  bound := fun _ => ⟨nofun, fun ⟨_, hr, _⟩ => nomatch hr⟩
  compatible := ⟨List.forall_mem_nil _, .nil, .nil⟩

def insert (registry : ReceptionRegistry) (r : ReceptionRegistration) : ReceptionRegistry where
  byKey := registry.byKey.insert r.key r
  handlers := registry.handlers.insert r.handlerKey ()
  registrations := registry.registrations ++ [r]

variable {registry : ReceptionRegistry} {r : ReceptionRegistration}
  {stored : List ReceptionRegistration}

theorem Stores.insert (stores : registry.Stores stored)
    (compatible : Compatible (stored ++ [r])) : (registry.insert r).Stores (stored ++ [r]) where
  listed := by rw [ReceptionRegistry.insert, stores.listed]
  filed := fun key other => by
    obtain ⟨-, -, -, fresh⟩ := compatible_concat_iff.mp compatible
    rw [ReceptionRegistry.insert, HashMap.get?_insert, List.mem_append, List.mem_singleton]
    by_cases own : key = r.key
    · subst own
      rw [if_pos rfl, Option.some_inj]
      constructor
      · rintro rfl
        exact ⟨.inr rfl, rfl⟩
      · rintro ⟨old | rfl, same⟩
        · exact absurd same (fresh other old)
        · rfl
    · rw [if_neg own, stores.filed]
      constructor
      · exact fun ⟨old, same⟩ => ⟨.inl old, same⟩
      · rintro ⟨old | rfl, same⟩
        · exact ⟨old, same⟩
        · exact absurd same.symm own
  bound := fun key => by
    have grown : (registry.insert r).handlers.contains key = true ↔
        registry.handlers.contains key = true ∨ r.handlerKey = key := by
      by_cases own : key = r.handlerKey
      · simp [ReceptionRegistry.insert, HashMap.contains, own]
      · simp [ReceptionRegistry.insert, HashMap.contains, own, Ne.symm own]
    simp only [grown, stores.bound, List.mem_append, List.mem_singleton, or_and_right, exists_or,
      exists_eq_left]
  compatible := compatible

theorem register_of_blank (blank : Text.isBlankText r.payloadTypeId = true) :
    register r registry = (.error (.emptyTypeId r.payloadType.name), registry) := by
  simp [register, blank]

theorem register_of_bound (named : Text.isBlankText r.payloadTypeId = false)
    (bound : registry.handlers.contains r.handlerKey = true) :
    register r registry =
      (.error (.duplicateHandler r.resource.kind r.resource.id r.handler.type.name), registry) := by
  simp [register, named, bound, bind_apply]

theorem register_of_taken (named : Text.isBlankText r.payloadTypeId = false)
    (unbound : registry.handlers.contains r.handlerKey = false) {existing : ReceptionRegistration}
    (taken : registry.byKey.get? r.key = some existing) :
    register r registry =
      (.error (.duplicateTypeId r.resource.kind r.resource.id r.payloadTypeId
        existing.handler.type.name r.handler.type.name), registry) := by
  simp [register, named, unbound, taken, bind_apply]

theorem register_of_free (named : Text.isBlankText r.payloadTypeId = false)
    (unbound : registry.handlers.contains r.handlerKey = false)
    (free : registry.byKey.get? r.key = none) :
    register r registry = (.ok (), registry.insert r) := by
  simp [register, named, unbound, free, bind_apply, insert]

/-- A call ends at the first of three checks that fails, or it registers. -/
theorem register_cases (registry : ReceptionRegistry) (r : ReceptionRegistration) :
    register r registry = (.error (.emptyTypeId r.payloadType.name), registry) ∨
    register r registry =
      (.error (.duplicateHandler r.resource.kind r.resource.id r.handler.type.name), registry) ∨
    (∃ existing, registry.byKey.get? r.key = some existing ∧ register r registry =
      (.error (.duplicateTypeId r.resource.kind r.resource.id r.payloadTypeId
        existing.handler.type.name r.handler.type.name), registry)) ∨
    (Text.isBlankText r.payloadTypeId = false ∧ registry.handlers.contains r.handlerKey = false ∧
      registry.byKey.get? r.key = none ∧ register r registry = (.ok (), registry.insert r)) := by
  cases named : Text.isBlankText r.payloadTypeId with
  | true => exact .inl (register_of_blank named)
  | false =>
    cases unbound : registry.handlers.contains r.handlerKey with
    | true => exact .inr (.inl (register_of_bound named unbound))
    | false =>
      cases free : registry.byKey.get? r.key with
      | some existing =>
        exact .inr (.inr (.inl ⟨existing, rfl, register_of_taken named unbound free⟩))
      | none => exact .inr (.inr (.inr ⟨rfl, rfl, rfl, register_of_free named unbound free⟩))

theorem keeps_register : Calls.Keeps register := by
  intro registry r problem refused
  rcases register_cases registry r with h | h | ⟨_, -, h⟩ | ⟨-, -, -, h⟩ <;> rw [h] at refused ⊢
  cases refused

theorem register_ne_duplicateDispatches (registry : ReceptionRegistry) (r : ReceptionRegistration)
    (duplicates : List DuplicateDispatch) :
    (register r registry).1 ≠ .error (.duplicateDispatches duplicates) := by
  rcases register_cases registry r with h | h | ⟨_, -, h⟩ | ⟨-, -, -, h⟩ <;> rw [h] <;> nofun

/-- How a registry that stores a list answers a call. -/
structure Answered (registry : ReceptionRegistry) (stored : List ReceptionRegistration)
    (r : ReceptionRegistration) (result : Except RegistrationError Unit × ReceptionRegistry) :
    Prop where
  blank : Text.isBlankText r.payloadTypeId = true →
    result = (.error (.emptyTypeId r.payloadType.name), registry)
  handler : Text.isBlankText r.payloadTypeId = false →
    ∀ other ∈ stored, other.handlerKey = r.handlerKey →
    result =
      (.error (.duplicateHandler r.resource.kind r.resource.id r.handler.type.name), registry)
  typeId : Text.isBlankText r.payloadTypeId = false →
    (∀ other ∈ stored, other.handlerKey ≠ r.handlerKey) →
    ∀ other ∈ stored, other.key = r.key →
    result = (.error (.duplicateTypeId r.resource.kind r.resource.id r.payloadTypeId
      other.handler.type.name r.handler.type.name), registry)
  fits : Text.isBlankText r.payloadTypeId = false →
    (∀ other ∈ stored, other.handlerKey ≠ r.handlerKey) →
    (∀ other ∈ stored, other.key ≠ r.key) →
    result.1 = .ok () ∧ result.2.Stores (stored ++ [r])

theorem Stores.answered (stores : registry.Stores stored) (r : ReceptionRegistration) :
    Answered registry stored r (register r registry) := by
  have unbound (apart : ∀ other ∈ stored, other.handlerKey ≠ r.handlerKey) :
      registry.handlers.contains r.handlerKey = false := by
    rw [Bool.eq_false_iff, ne_eq, stores.bound]
    exact fun ⟨other, hother, same⟩ => apart other hother same
  constructor
  case blank => exact register_of_blank
  case handler =>
    exact fun named other hother same =>
      register_of_bound named ((stores.bound _).mpr ⟨other, hother, same⟩)
  case typeId =>
    exact fun named apart other hother same =>
      register_of_taken named (unbound apart) ((stores.filed ..).mpr ⟨hother, same⟩)
  case fits =>
    intro named apart fresh
    have free : registry.byKey.get? r.key = none :=
      Option.eq_none_iff_forall_ne_some.mpr fun other found =>
        fresh other ((stores.filed ..).mp found).1 ((stores.filed ..).mp found).2
    rw [register_of_free named (unbound apart) free]
    exact ⟨rfl, stores.insert (compatible_concat_iff.mpr ⟨stores.compatible, named, apart, fresh⟩)⟩

theorem register_ok_iff (stores : registry.Stores stored) :
    (register r registry).1 = .ok () ↔ Compatible (stored ++ [r]) := by
  have answered := stores.answered r
  rw [compatible_concat_iff]
  constructor
  · intro ok
    rcases register_cases registry r with h | h | ⟨_, -, h⟩ | ⟨named, unbound, free, -⟩
    case inr.inr.inr =>
      refine ⟨stores.compatible, named, fun other hother same => ?_, fun other hother same => ?_⟩
      · have bound := (stores.bound _).mpr ⟨other, hother, same⟩
        cases bound.symm.trans unbound
      · cases ((stores.filed ..).mpr ⟨hother, same⟩).symm.trans free
    all_goals
      rw [h] at ok
      cases ok
  · rintro ⟨-, named, apart, fresh⟩
    exact (answered.fits named apart fresh).1

theorem Stores.register (stores : registry.Stores stored)
    (ok : (ReceptionRegistry.register r registry).1 = .ok ()) :
    (ReceptionRegistry.register r registry).2.Stores (stored ++ [r]) := by
  obtain ⟨-, named, apart, fresh⟩ := compatible_concat_iff.mp ((register_ok_iff stores).mp ok)
  exact ((stores.answered r).fits named apart fresh).2

theorem stores_run (calls : List ReceptionRegistration) :
    (Calls.run register {} calls).Stores (Calls.accepted register {} calls) := by
  have reached := Calls.stands_run (β := ReceptionRegistration) keeps_register
    (fun _ _ _ stores ok => Stores.register stores ok) stores_empty calls
  rwa [List.nil_append, List.flatMap_singleton'] at reached

theorem Stores.find?_iff (stores : registry.Stores stored) (typeId resourceId : String)
    (kind : EntityKind) (r : ReceptionRegistration) :
    registry.find? typeId resourceId kind = some r ↔
      r ∈ stored ∧ r.key = lookupKey kind resourceId typeId :=
  stores.filed ..

theorem allAccepted_iff (stores : registry.Stores stored) (calls : List ReceptionRegistration) :
    Calls.AllAccepted register registry calls ↔ Compatible (stored ++ calls) := by
  induction calls generalizing registry stored with
  | nil => simpa [Calls.AllAccepted, Calls.answers] using stores.compatible
  | cons r rest ih =>
    rw [Calls.allAccepted_cons, List.append_cons]
    constructor
    · rintro ⟨ok, others⟩
      exact (ih (stores.register ok)).mp others
    · intro all
      have ok := (register_ok_iff stores).mpr (all.sublist (List.sublist_append_left _ rest))
      exact ⟨ok, (ih (stores.register ok)).mpr all⟩

theorem Stores.find?_perm {other : ReceptionRegistry} {reordered : List ReceptionRegistration}
    (stores : registry.Stores stored) (others : other.Stores reordered)
    (hp : reordered.Perm stored) (typeId resourceId : String) (kind : EntityKind) :
    other.find? typeId resourceId kind = registry.find? typeId resourceId kind :=
  Option.ext fun r => by rw [others.find?_iff, stores.find?_iff, hp.mem_iff]

/-- Whatever is registered, what is stored is what was accepted, in order; each of it is found under
its own ids and binds a handler of its own on its resource. A refused call changes nothing, neither
the registry nor the answer to any other call, and of the things that are wrong with a call a blank
type id is reported before a handler that is bound already, and this before a type id that is taken.
Calls that are all accepted are accepted in every order, and the same is found. -/
theorem received_in_any_order (calls : List ReceptionRegistration) :
    let registry := Calls.run register {} calls
    let stored := Calls.accepted register {} calls
    registry.registrations = stored ∧
    (∀ r ∈ stored, registry.find? r.payloadTypeId r.resource.id r.resource.kind = some r) ∧
    (stored.map (·.handlerKey)).Nodup ∧
    Calls.Undisturbed register {} calls ∧
    (∀ r, Answered registry stored r (register r registry)) ∧
    (Calls.AllAccepted register {} calls → ∀ order : List ReceptionRegistration,
      order.Perm calls → Calls.AllAccepted register {} order ∧
        ∀ typeId resourceId kind, (Calls.run register {} order).find? typeId resourceId kind =
          registry.find? typeId resourceId kind) := by
  intro registry stored
  have stores : registry.Stores stored := stores_run calls
  refine ⟨stores.listed, fun r hr => (stores.find?_iff ..).mpr ⟨hr, rfl⟩,
    stores.compatible.handlers, Calls.undisturbed keeps_register {} calls, stores.answered,
    fun all order reordered => ?_⟩
  have whole : Compatible order := ((allAccepted_iff stores_empty calls).mp all).perm reordered
  have all_in_order := (allAccepted_iff stores_empty order).mpr whole
  refine ⟨all_in_order, stores.find?_perm (stores_run order) ?_⟩
  rw [Calls.accepted_of_allAccepted all_in_order]
  exact reordered.trans (.of_eq (Calls.accepted_of_allAccepted all).symm)

end ReceptionRegistry

end MessageBus
