import Mathlib.Algebra.Ring.Nat
import MessageBus.Proofs.Keyed
import MessageBus.Proofs.Outcome
import MessageBus.Proofs.Registration.Calls
import MessageBus.Registration.Dispatch

/-!
# Registering dispatches

A registry keeps registrations by payload type and counts them, and stands for the list of all that
has been registered. A call registers all of its registrations or none. What is wrong with one of
them alone is reported first, and then every key that more than one of the old and new registrations
have. So what is stored has distinct keys, and it makes no difference whether registrations come in
one call or in two.
-/

namespace MessageBus

open Outcome

def reportOf (all : List DispatchRegistration) (key : DispatchKey) : DuplicateDispatch :=
  ⟨key.1.name, key.2.1, key.2.2, (all.filter (·.key == key)).map (·.payloadTypeId)⟩

/-- Each key that more than one registration has is reported once, with the type ids of all of them
in order. -/
def Reports (duplicates : List DuplicateDispatch) (all : List DispatchRegistration) : Prop :=
  ∃ keys : List DispatchKey, keys.Nodup ∧
    (∀ key, key ∈ keys ↔ 2 ≤ (all.filter (·.key == key)).length) ∧
      duplicates = keys.map (reportOf all)

theorem length_filter_key (all : List DispatchRegistration) (key : DispatchKey) :
    (all.filter (·.key == key)).length = (all.map (·.key)).count key := by
  rw [List.count, List.countP_map, List.countP_eq_length_filter]
  rfl

theorem Reports.eq_nil_iff {duplicates : List DuplicateDispatch} {all : List DispatchRegistration}
    (reports : Reports duplicates all) : duplicates = [] ↔ (all.map (·.key)).Nodup := by
  obtain ⟨keys, -, shared, rfl⟩ := reports
  rw [List.map_eq_nil_iff, List.nodup_iff_count_le_one, List.eq_nil_iff_forall_not_mem]
  refine forall_congr' fun key => ?_
  rw [shared, length_filter_key]
  omega

theorem Reports.of_filter {duplicates : List DuplicateDispatch}
    {all others : List DispatchRegistration} (reports : Reports duplicates all)
    (same : ∀ key, others.filter (·.key == key) = all.filter (·.key == key)) :
    Reports duplicates others := by
  have same_report : reportOf others = reportOf all := by
    funext key
    rw [reportOf, same, reportOf]
  obtain ⟨keys, once, shared, rfl⟩ := reports
  exact ⟨keys, once, fun key => same key ▸ shared key, same_report ▸ rfl⟩

structure ByKey.Knows (known : ByKey) (seen : List DispatchRegistration) : Prop where
  once : known.order.Nodup
  keys : ∀ key, key ∈ known.order ↔ known.groups.contains key = true
  groups : ∀ key, known.groups.get? key =
    if seen.filter (·.key == key) = [] then none else some (seen.filter (·.key == key))

theorem ByKey.Knows.add {known : ByKey} {seen : List DispatchRegistration} (h : known.Knows seen)
    (r : DispatchRegistration) : (known.add r).Knows (seen ++ [r]) where
  once := by
    rw [ByKey.add]
    split
    · exact h.once
    · next new =>
      exact List.concat_eq_append ▸ h.once.concat fun old => new ((h.keys r.key).mp old)
  keys := fun key => by
    have grown : (known.add r).groups.contains key = true ↔
        known.groups.contains key = true ∨ key = r.key := by
      by_cases own : key = r.key <;> simp [ByKey.add, HashMap.contains, own]
    rw [grown, ByKey.add]
    split
    · next old => rw [h.keys, or_iff_left_of_imp fun own => own ▸ old]
    · rw [List.mem_append, List.mem_singleton, h.keys]
  groups := fun key => by
    rw [ByKey.add, HashMap.get?_push, List.filter_append]
    by_cases own : key = r.key
    · subst own
      rw [if_pos rfl, h.groups]
      split <;> simp [*]
    · rw [if_neg own, h.groups]
      simp [Ne.symm own]

theorem ByKey.knows_foldl (all : List DispatchRegistration) :
    (all.foldl ByKey.add {}).Knows all := by
  have knows {known : ByKey} {seen : List DispatchRegistration} (h : known.Knows seen)
      (rest : List DispatchRegistration) : (rest.foldl ByKey.add known).Knows (seen ++ rest) := by
    induction rest generalizing known seen with
    | nil => rwa [List.append_nil]
    | cons r rest ih => exact List.append_cons seen r rest ▸ ih (h.add r)
  have start : ({} : ByKey).Knows [] :=
    ⟨.nil, fun key => by simp [HashMap.contains], fun key => rfl⟩
  exact knows start all

theorem reports_findDuplicates (all : List DispatchRegistration) :
    Reports (findDuplicates all) all := by
  rw [findDuplicates]
  have knows := ByKey.knows_foldl all
  generalize all.foldl ByKey.add {} = known at knows ⊢
  let shared (key : DispatchKey) : Bool := 2 ≤ (all.filter (·.key == key)).length
  refine ⟨known.order.filter shared, knows.once.filter _, fun key => ?_, ?_⟩
  · rw [List.mem_filter, decide_eq_true_eq, knows.keys, HashMap.contains, knows.groups]
    refine and_iff_right_of_imp fun twice => ?_
    rw [if_neg (List.ne_nil_of_length_pos (by omega))]
    rfl
  · have reported : (known.order.filter shared).map (reportOf all) =
        known.order.filterMap fun key => if shared key then some (reportOf all key) else none := by
      rw [← List.filterMap_eq_map, List.filterMap_filter]
      rfl
    rw [reported]
    refine List.filterMap_congr fun key _ => ?_
    rw [knows.groups]
    by_cases twice : 2 ≤ (all.filter (·.key == key)).length
    · rw [if_neg (List.ne_nil_of_length_pos (by omega)), if_pos (decide_eq_true twice)]
      exact if_neg (by omega)
    · rw [if_neg (mt of_decide_eq_true twice)]
      split
      · rfl
      · exact if_pos (by omega)

namespace DispatchRegistration

def Fine (r : DispatchRegistration) : Prop :=
  Text.isBlankText r.payloadTypeId = false ∧ r.resource.kind ≠ .subscription

theorem problem?_of_blank {r : DispatchRegistration}
    (blank : Text.isBlankText r.payloadTypeId = true) :
    r.problem? = some (.emptyTypeId r.payloadType.name) := by
  rw [problem?, if_pos blank]

theorem problem?_of_subscription {r : DispatchRegistration}
    (named : Text.isBlankText r.payloadTypeId = false)
    (subscription : r.resource.kind = .subscription) :
    r.problem? = some (.invalidTarget r.resource.id) := by
  rw [problem?, named, if_neg Bool.false_ne_true, if_pos subscription]

theorem problem?_eq_none_iff {r : DispatchRegistration} : r.problem? = none ↔ r.Fine := by
  rw [Fine]
  cases named : Text.isBlankText r.payloadTypeId with
  | true => simp [problem?_of_blank named]
  | false =>
    by_cases subscription : r.resource.kind = .subscription
    · simp [problem?_of_subscription named subscription, subscription]
    · simp [problem?, named, subscription]

theorem findSome?_of_fine {added : List DispatchRegistration} (fine : ∀ r ∈ added, r.Fine) :
    added.findSome? problem? = none :=
  List.findSome?_eq_none_iff.mpr fun r hr => problem?_eq_none_iff.mpr (fine r hr)

theorem filter_key_of_filter_type {all others : List DispatchRegistration}
    (same : ∀ type, all.filter (·.payloadType.identity == type) =
      others.filter (·.payloadType.identity == type)) (key : DispatchKey) :
    all.filter (·.key == key) = others.filter (·.key == key) := by
  have narrowed (rs : List DispatchRegistration) : rs.filter (·.key == key) =
      (rs.filter (·.payloadType.identity == key.1)).filter (·.key == key) := by
    rw [List.filter_filter]
    refine List.filter_congr fun r _ => ?_
    by_cases own : r.key = key
    · simp [← own, DispatchRegistration.key]
    · simp [own]
  rw [narrowed, same, ← narrowed]

end DispatchRegistration

namespace DispatchRegistry

theorem filter_registrations (registry : DispatchRegistry) (type : TypeIdentity) :
    registry.registrations.filter (·.payloadType.identity == type) =
      (registry.byPayloadType.get? type).getD [] := by
  have arranged := registry.hasher.perm registry.byPayloadType.entries
  let visited : HashMap TypeIdentity (List DispatchRegistration) :=
    ⟨registry.hasher.arrange registry.byPayloadType.entries,
      (arranged.map _).nodup_iff.mpr registry.byPayloadType.distinct⟩
  have same : visited.get? type = registry.byPayloadType.get? type :=
    HashMap.get?_perm arranged type
  rw [← same, ← visited.flatMap_entries_key, registrations, List.filter_flatMap]
  refine List.flatMap_congr fun e he => ?_
  have known := (HashMap.mem_entries_iff ..).mp (arranged.mem_iff.mp he)
  have own := (registry.filed e.1 e.2 known).2
  by_cases here : e.1 = type
  · rw [if_pos here, List.filter_eq_self]
    exact fun r hr => beq_iff_eq.mpr ((own r hr).trans here)
  · rw [if_neg here, List.filter_eq_nil_iff]
    exact fun r hr same => here ((own r hr).symm.trans (beq_iff_eq.mp same))

theorem find_eq (registry : DispatchRegistry) (type : PayloadType) :
    registry.find type =
      match registry.registrations.filter (·.payloadType.identity == type.identity) with
      | [] => .error (.registrationNotFound type.name)
      | found => .ok found := by
  rw [filter_registrations, find]
  cases known : registry.byPayloadType.get? type.identity with
  | none => rfl
  | some group =>
    cases group with
    | nil => exact absurd rfl (registry.filed _ _ known).1
    | cons r rest => rfl

/-- The registry stands for the list of what is stored in it. -/
structure Stores (registry : DispatchRegistry) (stored : List DispatchRegistration) : Prop where
  all : registry.registrations.Perm stored
  /-- For each payload type in order. -/
  filed : ∀ type, registry.registrations.filter (·.payloadType.identity == type) =
    stored.filter (·.payloadType.identity == type)
  count : registry.count = stored.length

variable {registry : DispatchRegistry} {stored added : List DispatchRegistration}

theorem stores_empty (hasher : Hasher TypeIdentity (List DispatchRegistration)) :
    Stores { hasher := hasher } [] := by
  have nothing : ({ hasher := hasher } : DispatchRegistry).registrations = [] :=
    congrArg (·.flatMap (·.2)) (hasher.perm []).eq_nil
  exact ⟨by rw [nothing], fun type => by rw [nothing], rfl⟩

theorem Stores.insert (stores : registry.Stores stored) (r : DispatchRegistration) :
    (registry.insert r).Stores (stored ++ [r]) where
  all := by
    have visited := (registry.hasher.perm registry.byPayloadType.entries).flatMap_right (·.2)
    have grown := registry.byPayloadType.flatMap_push_perm r.payloadType.identity r
    exact ((registry.hasher.perm _).flatMap_right (·.2)).trans
      (grown.trans ((visited.symm.trans stores.all).append_right [r]))
  filed := fun type => by
    rw [filter_registrations, List.filter_append, ← stores.filed, filter_registrations]
    by_cases own : type = r.payloadType.identity
    · subst own
      simp [DispatchRegistry.insert]
    · simp [DispatchRegistry.insert, own, Ne.symm own]
  count := by
    rw [List.length_append, ← stores.count]
    rfl

theorem Stores.foldl_insert (stores : registry.Stores stored) (added : List DispatchRegistration) :
    (added.foldl DispatchRegistry.insert registry).Stores (stored ++ added) := by
  induction added generalizing registry stored with
  | nil => rwa [List.append_nil]
  | cons r rest ih => exact List.append_cons stored r rest ▸ ih (stores.insert r)

theorem Stores.nodup_iff (stores : registry.Stores stored) (added : List DispatchRegistration) :
    ((registry.registrations ++ added).map (·.key)).Nodup ↔
      ((stored ++ added).map (·.key)).Nodup :=
  ((stores.all.append_right added).map _).nodup_iff

theorem register_of_problem {problem : RegistrationError}
    (h : added.findSome? DispatchRegistration.problem? = some problem) :
    register added registry = (.error problem, registry) := by
  rw [register, h]
  rfl

theorem register_of_fine (fine : ∀ r ∈ added, r.Fine) :
    register added registry =
      if (findDuplicates (registry.registrations ++ added)).isEmpty then
        (.ok (), added.foldl insert registry)
      else
        (.error (.duplicateDispatches (findDuplicates (registry.registrations ++ added))),
          registry) := by
  rw [register, DispatchRegistration.findSome?_of_fine fine]
  cases h : findDuplicates (registry.registrations ++ added) <;> simp [bind_apply, h]

theorem register_of_distinct (fine : ∀ r ∈ added, r.Fine)
    (distinct : ((registry.registrations ++ added).map (·.key)).Nodup) :
    register added registry = (.ok (), added.foldl insert registry) := by
  rw [register_of_fine fine, (reports_findDuplicates _).eq_nil_iff.mpr distinct]
  rfl

theorem register_of_clash (fine : ∀ r ∈ added, r.Fine)
    (clash : ¬ ((registry.registrations ++ added).map (·.key)).Nodup) :
    register added registry =
      (.error (.duplicateDispatches (findDuplicates (registry.registrations ++ added))),
        registry) := by
  rw [register_of_fine fine]
  exact if_neg (mt List.isEmpty_iff.mp (mt (reports_findDuplicates _).eq_nil_iff.mp clash))

theorem register_cases (registry : DispatchRegistry) (added : List DispatchRegistration) :
    (∃ problem, added.findSome? DispatchRegistration.problem? = some problem ∧
      register added registry = (.error problem, registry)) ∨
    ((∀ r ∈ added, r.Fine) ∧ ¬ ((registry.registrations ++ added).map (·.key)).Nodup ∧
      register added registry =
        (.error (.duplicateDispatches (findDuplicates (registry.registrations ++ added))),
          registry)) ∨
    ((∀ r ∈ added, r.Fine) ∧ ((registry.registrations ++ added).map (·.key)).Nodup ∧
      register added registry = (.ok (), added.foldl insert registry)) := by
  cases wrong : added.findSome? DispatchRegistration.problem? with
  | some problem => exact .inl ⟨problem, rfl, register_of_problem wrong⟩
  | none =>
    have fine : ∀ r ∈ added, r.Fine := fun r hr =>
      DispatchRegistration.problem?_eq_none_iff.mp (List.findSome?_eq_none_iff.mp wrong r hr)
    by_cases distinct : ((registry.registrations ++ added).map (·.key)).Nodup
    · exact .inr (.inr ⟨fine, distinct, register_of_distinct fine distinct⟩)
    · exact .inr (.inl ⟨fine, distinct, register_of_clash fine distinct⟩)

theorem keeps_register : Calls.Keeps register := by
  intro registry added problem refused
  rcases register_cases registry added with ⟨_, -, h⟩ | ⟨-, -, h⟩ | ⟨-, -, h⟩ <;>
    rw [h] at refused ⊢
  cases refused

theorem register_ok_iff (stores : registry.Stores stored) :
    (register added registry).1 = .ok () ↔
      (∀ r ∈ added, r.Fine) ∧ ((stored ++ added).map (·.key)).Nodup := by
  rw [← stores.nodup_iff]
  rcases register_cases registry added with
    ⟨problem, wrong, h⟩ | ⟨-, clash, h⟩ | ⟨fine, distinct, h⟩
  · refine iff_of_false (by rw [h]; nofun) fun ⟨fine, _⟩ => ?_
    cases wrong.symm.trans (DispatchRegistration.findSome?_of_fine fine)
  · exact iff_of_false (by rw [h]; nofun) fun ⟨_, distinct⟩ => clash distinct
  · exact iff_of_true (by rw [h]) ⟨fine, distinct⟩

theorem Stores.register (stores : registry.Stores stored)
    (ok : (register added registry).1 = .ok ()) :
    (DispatchRegistry.register added registry).2.Stores (stored ++ added) := by
  obtain ⟨fine, distinct⟩ := (register_ok_iff stores).mp ok
  rw [register_of_distinct fine ((stores.nodup_iff added).mpr distinct)]
  exact stores.foldl_insert added

/-- How a registry that stores a list answers a call, and what it stores then. -/
structure Answered (registry : DispatchRegistry) (stored added : List DispatchRegistration)
    (result : Except RegistrationError Unit × DispatchRegistry) : Prop where
  blank : ∀ before r after, added = before ++ r :: after → (∀ x ∈ before, x.Fine) →
    Text.isBlankText r.payloadTypeId = true →
    result = (.error (.emptyTypeId r.payloadType.name), registry)
  subscription : ∀ before r after, added = before ++ r :: after → (∀ x ∈ before, x.Fine) →
    Text.isBlankText r.payloadTypeId = false → r.resource.kind = .subscription →
    result = (.error (.invalidTarget r.resource.id), registry)
  clash : (∀ r ∈ added, r.Fine) → ¬ ((stored ++ added).map (·.key)).Nodup →
    ∃ duplicates, result = (.error (.duplicateDispatches duplicates), registry) ∧
      Reports duplicates (stored ++ added)
  distinct : (∀ r ∈ added, r.Fine) → ((stored ++ added).map (·.key)).Nodup →
    result.1 = .ok () ∧ result.2.Stores (stored ++ added)

theorem Stores.answered (stores : registry.Stores stored) (added : List DispatchRegistration) :
    Answered registry stored added (DispatchRegistry.register added registry) := by
  have first_wrong {before after : List DispatchRegistration} {r : DispatchRegistration}
      {problem : RegistrationError} (fine : ∀ x ∈ before, x.Fine)
      (wrong : r.problem? = some problem) :
      (before ++ r :: after).findSome? DispatchRegistration.problem? = some problem := by
    rw [List.findSome?_append, DispatchRegistration.findSome?_of_fine fine, List.findSome?_cons,
      wrong]
    rfl
  constructor
  case blank =>
    rintro before r after rfl fine blank
    exact register_of_problem (first_wrong fine (DispatchRegistration.problem?_of_blank blank))
  case subscription =>
    rintro before r after rfl fine named subscription
    exact register_of_problem
      (first_wrong fine (DispatchRegistration.problem?_of_subscription named subscription))
  case clash =>
    intro fine clash
    have same (key : DispatchKey) : (stored ++ added).filter (·.key == key) =
        (registry.registrations ++ added).filter (·.key == key) := by
      rw [List.filter_append, List.filter_append,
        DispatchRegistration.filter_key_of_filter_type stores.filed]
    exact ⟨_, register_of_clash fine (mt (stores.nodup_iff added).mp clash),
      (reports_findDuplicates _).of_filter same⟩
  case distinct =>
    intro fine distinct
    have ok := (register_ok_iff stores).mpr ⟨fine, distinct⟩
    exact ⟨ok, stores.register ok⟩

theorem Stores.find (stores : registry.Stores stored) (type : PayloadType) :
    registry.find type =
      match stored.filter (·.payloadType.identity == type.identity) with
      | [] => .error (.registrationNotFound type.name)
      | found => .ok found := by
  rw [find_eq, stores.filed]

theorem new_eq_ok_iff {hasher : Hasher TypeIdentity (List DispatchRegistration)} :
    new hasher added = .ok registry ↔
      DispatchRegistry.register added { hasher := hasher } = (.ok (), registry) := by
  rw [new]
  rcases DispatchRegistry.register added { hasher := hasher } with ⟨problem | ⟨⟩, after⟩
  · exact ⟨nofun, nofun⟩
  · exact ⟨fun h => Except.ok.inj h ▸ rfl, fun h => congrArg Except.ok (Prod.ext_iff.mp h).2⟩

theorem stores_of_new {hasher : Hasher TypeIdentity (List DispatchRegistration)}
    (made : new hasher added = .ok registry) : registry.Stores added := by
  have answered := new_eq_ok_iff.mp made
  have ok : (DispatchRegistry.register added { hasher := hasher }).1 = .ok () := by rw [answered]
  have stores := (stores_empty hasher).register ok
  rwa [answered] at stores

theorem exists_new_iff (hasher : Hasher TypeIdentity (List DispatchRegistration))
    (added : List DispatchRegistration) :
    (∃ registry, new hasher added = .ok registry) ↔
      (∀ r ∈ added, r.Fine) ∧ (added.map (·.key)).Nodup := by
  rw [← List.nil_append (added.map _), ← List.map_nil, ← List.map_append,
    ← register_ok_iff (stores_empty hasher)]
  constructor
  · rintro ⟨registry, made⟩
    rw [new_eq_ok_iff.mp made]
  · exact fun ok => ⟨_, new_eq_ok_iff.mpr (Prod.ext ok rfl)⟩

theorem new_of_clash (hasher : Hasher TypeIdentity (List DispatchRegistration))
    (fine : ∀ r ∈ added, r.Fine) (clash : ¬ (added.map (·.key)).Nodup) :
    ∃ duplicates, new hasher added = .error (.duplicateDispatches duplicates) := by
  obtain ⟨duplicates, refused, -⟩ := ((stores_empty hasher).answered added).clash fine clash
  exact ⟨duplicates, by rw [new, refused]⟩

/-- Registrations come in two calls as they come in one. -/
theorem new_append_iff (hasher other : Hasher TypeIdentity (List DispatchRegistration))
    (a b : List DispatchRegistration) :
    (∃ whole, new hasher (a ++ b) = .ok whole) ↔
      ∃ part whole, new other a = .ok part ∧
        DispatchRegistry.register b part = (.ok (), whole) := by
  rw [exists_new_iff, List.forall_mem_append]
  constructor
  · rintro ⟨⟨fine_a, fine_b⟩, distinct⟩
    obtain ⟨part, made⟩ := (exists_new_iff other a).mpr
      ⟨fine_a, distinct.sublist ((List.sublist_append_left a b).map _)⟩
    have ok := (register_ok_iff (stores_of_new made)).mpr ⟨fine_b, distinct⟩
    exact ⟨part, _, made, Prod.ext ok rfl⟩
  · rintro ⟨part, whole, made, added⟩
    have ok : (DispatchRegistry.register b part).1 = .ok () := by rw [added]
    obtain ⟨fine_b, distinct⟩ := (register_ok_iff (stores_of_new made)).mp ok
    exact ⟨⟨((exists_new_iff other a).mp ⟨part, made⟩).1, fine_b⟩, distinct⟩

theorem find_of_new_append {hasher other : Hasher TypeIdentity (List DispatchRegistration)}
    {a b : List DispatchRegistration} {whole part grown : DispatchRegistry}
    (at_once : new hasher (a ++ b) = .ok whole) (first : new other a = .ok part)
    (second : DispatchRegistry.register b part = (.ok (), grown)) (type : PayloadType) :
    whole.find type = grown.find type := by
  have ok : (DispatchRegistry.register b part).1 = .ok () := by rw [second]
  have stores := (stores_of_new first).register ok
  rw [second] at stores
  rw [(stores_of_new at_once).find, stores.find]

/-- Whatever is registered, the registry stores what was accepted, with keys of its own: it knows
their number, and for each payload type which they are, in order. A refused call changes nothing,
neither the registry nor the answer to any other call. In a registry of its own, what is registered
in one call is what is registered in two. -/
theorem registered_by_calls (hasher : Hasher TypeIdentity (List DispatchRegistration))
    (calls : List (List DispatchRegistration)) :
    let start : DispatchRegistry := { hasher := hasher }
    let registry := Calls.run register start calls
    let stored := (Calls.accepted register start calls).flatten
    Calls.Undisturbed register start calls ∧
    (∀ added, Answered registry stored added (DispatchRegistry.register added registry)) ∧
    (stored.map (·.key)).Nodup ∧
    registry.registrations.Perm stored ∧
    registry.count = stored.length ∧
    (∀ type : PayloadType, registry.find type =
      match stored.filter (·.payloadType.identity == type.identity) with
      | [] => .error (.registrationNotFound type.name)
      | found => .ok found) ∧
    ∀ a b other, ((∃ whole, new hasher (a ++ b) = .ok whole) ↔
        ∃ part grown, new other a = .ok part ∧
          DispatchRegistry.register b part = (.ok (), grown)) ∧
      ∀ whole part grown, new hasher (a ++ b) = .ok whole → new other a = .ok part →
        DispatchRegistry.register b part = (.ok (), grown) →
        ∀ type, whole.find type = grown.find type := by
  intro start registry stored
  let Sound (registry : DispatchRegistry) (stored : List DispatchRegistration) : Prop :=
    registry.Stores stored ∧ (stored.map (·.key)).Nodup
  have step (registry : DispatchRegistry) (stored added : List DispatchRegistration)
      (sound : Sound registry stored) (ok : (DispatchRegistry.register added registry).1 = .ok ()) :
      Sound (DispatchRegistry.register added registry).2 (stored ++ id added) :=
    ⟨sound.1.register ok, ((register_ok_iff sound.1).mp ok).2⟩
  have sound : Sound start [] := ⟨stores_empty hasher, .nil⟩
  obtain ⟨stores, distinct⟩ : Sound registry stored := by
    have reached := Calls.stands_run keeps_register step sound calls
    rwa [List.nil_append, List.flatMap_id] at reached
  exact ⟨Calls.undisturbed keeps_register start calls, stores.answered, distinct, stores.all,
    stores.count, stores.find, fun a b other => ⟨new_append_iff hasher other a b,
      fun _ _ _ at_once first second => find_of_new_append at_once first second⟩⟩

end DispatchRegistry

end MessageBus
