import MessageBus.Proofs.Registration.Reception

/-!
# Looking up receptions

A registration is looked up by one text, in which a bar stands between the resource id and the
payload type id. The text says where the bar is only if neither of the ids has a bar of its own: up
to then the look-up is by kind, resource id and type id, and beyond it is not.
-/

namespace MessageBus

def ReceptionRegistration.triple (r : ReceptionRegistration) : EntityKind × String × String :=
  (r.resource.kind, r.resource.id, r.payloadTypeId)

def ReceptionRegistration.HasBar (r : ReceptionRegistration) : Prop :=
  '|' ∈ r.resource.id.toList ∨ '|' ∈ r.payloadTypeId.toList

theorem append_bar_eq {as bs cs ds : List Char} (has : '|' ∉ as) (hbs : '|' ∉ bs)
    (h : as ++ '|' :: bs = cs ++ '|' :: ds) : as = cs ∧ bs = ds := by
  rcases List.append_eq_append_iff.mp h with ⟨mid, rfl, hmid⟩ | ⟨mid, rfl, hmid⟩
  · cases mid with
    | nil => simpa using hmid
    | cons c mid =>
      obtain ⟨-, rfl⟩ := List.cons.inj hmid
      simp at hbs
  · cases mid with
    | nil => simpa [eq_comm] using hmid
    | cons c mid =>
      obtain ⟨rfl, -⟩ := List.cons.inj hmid
      simp at has

theorem lookupKey_toList (kind : EntityKind) (resourceId typeId : String) :
    (lookupKey kind resourceId typeId).toList =
      kind.name.toList ++ '|' :: (resourceId.toList ++ '|' :: typeId.toList) := by
  simp [lookupKey]

theorem name_append_eq_iff {kind kind' : EntityKind} {xs ys : List Char} :
    kind.name.toList ++ '|' :: xs = kind'.name.toList ++ '|' :: ys ↔ kind = kind' ∧ xs = ys := by
  cases kind <;> cases kind' <;> simp [EntityKind.name]

theorem lookupKey_eq_iff {kind kind' : EntityKind}
    {resourceId resourceId' typeId typeId' : String} :
    lookupKey kind resourceId typeId = lookupKey kind' resourceId' typeId' ↔
      kind = kind' ∧ resourceId.toList ++ '|' :: typeId.toList =
        resourceId'.toList ++ '|' :: typeId'.toList := by
  rw [← String.toList_inj, lookupKey_toList, lookupKey_toList, name_append_eq_iff]

theorem lookupKey_eq_iff_of_plain {r : ReceptionRegistration} (plain : ¬ r.HasBar)
    {kind : EntityKind} {resourceId typeId : String} :
    r.key = lookupKey kind resourceId typeId ↔ r.triple = (kind, resourceId, typeId) := by
  obtain ⟨hid, htype⟩ := not_or.mp plain
  rw [ReceptionRegistration.key, lookupKey_eq_iff, ReceptionRegistration.triple, Prod.mk.injEq,
    Prod.mk.injEq]
  refine and_congr_right fun _ => ⟨fun h => ?_, ?_⟩
  · obtain ⟨ids, types⟩ := append_bar_eq hid htype h
    exact ⟨String.toList_inj.mp ids, String.toList_inj.mp types⟩
  · rintro ⟨rfl, rfl⟩
    rfl

theorem exists_query_of_hasBar {r : ReceptionRegistration} (h : r.HasBar) :
    ∃ resourceId typeId, r.key = lookupKey r.resource.kind resourceId typeId ∧
      r.triple ≠ (r.resource.kind, resourceId, typeId) := by
  have longer (xs ys : List Char) : xs ≠ xs ++ '|' :: ys := fun h => by
    have := congrArg List.length h
    simp at this
  simp only [ReceptionRegistration.key, ReceptionRegistration.triple, lookupKey_eq_iff, true_and,
    ne_eq, Prod.mk.injEq]
  rcases h with h | h
  · obtain ⟨before, after, split⟩ := List.append_of_mem h
    refine ⟨.ofList before, .ofList (after ++ '|' :: r.payloadTypeId.toList), ?_, fun same => ?_⟩
    · simp [split]
    · have := congrArg String.toList same.1
      rw [split, String.toList_ofList] at this
      exact longer before after this.symm
  · obtain ⟨before, after, split⟩ := List.append_of_mem h
    refine ⟨.ofList (r.resource.id.toList ++ '|' :: before), .ofList after, ?_, fun same => ?_⟩
    · simp [split]
    · have := congrArg String.toList same.1
      rw [String.toList_ofList] at this
      exact longer _ before this

namespace ReceptionRegistry

/-- Look-ups find what was registered under exactly this kind, resource id and type id, and type ids
are refused only where these three are taken. -/
structure Exact (calls : List ReceptionRegistration) : Prop where
  found : ∀ typeId resourceId kind r,
    (Calls.run register {} calls).find? typeId resourceId kind = some r ↔
      r ∈ Calls.accepted register {} calls ∧ r.triple = (kind, resourceId, typeId)
  refused : ∀ r kind resourceId typeId existing handler,
    (register r (Calls.run register {} calls)).1 =
        .error (.duplicateTypeId kind resourceId typeId existing handler) →
      ∃ other ∈ Calls.accepted register {} calls, other.triple = r.triple

theorem taken_of_duplicateTypeId {registry : ReceptionRegistry} {r : ReceptionRegistration}
    {kind : EntityKind} {resourceId typeId existing handler : String}
    (refused : (register r registry).1 =
      .error (.duplicateTypeId kind resourceId typeId existing handler)) :
    ∃ other, registry.find? r.payloadTypeId r.resource.id r.resource.kind = some other := by
  rcases register_cases registry r with h | h | ⟨other, taken, -⟩ | ⟨-, -, -, h⟩
  case inr.inr.inl => exact ⟨other, taken⟩
  all_goals
    rw [h] at refused
    cases refused

/-- Whatever is registered, a look-up finds what has the text of the query. This is exact precisely
when no resource id or type id that was accepted has a bar in it. -/
theorem lookup_exact_iff (calls : List ReceptionRegistration) :
    (∀ typeId resourceId kind r,
      (Calls.run register {} calls).find? typeId resourceId kind = some r ↔
        r ∈ Calls.accepted register {} calls ∧ r.resource.kind = kind ∧
          r.resource.id ++ "|" ++ r.payloadTypeId = resourceId ++ "|" ++ typeId) ∧
    (Exact calls ↔ ∀ r ∈ Calls.accepted register {} calls, ¬ r.HasBar) := by
  have stores := stores_run calls
  refine ⟨fun typeId resourceId kind r => ?_, fun exact r accepted bar => ?_, fun plain => ?_⟩
  · rw [stores.find?_iff, ReceptionRegistration.key, lookupKey_eq_iff, ← String.toList_inj]
    simp
  · obtain ⟨resourceId, typeId, same, other⟩ := exists_query_of_hasBar bar
    have found := (stores.find?_iff typeId resourceId _ r).mpr ⟨accepted, same⟩
    exact other ((exact.found ..).mp found).2
  · have found (typeId resourceId : String) (kind : EntityKind) (r : ReceptionRegistration) :
        (Calls.run register {} calls).find? typeId resourceId kind = some r ↔
          r ∈ Calls.accepted register {} calls ∧ r.triple = (kind, resourceId, typeId) := by
      rw [stores.find?_iff]
      exact and_congr_right fun accepted => lookupKey_eq_iff_of_plain (plain r accepted)
    refine ⟨found, fun r _ _ _ _ _ duplicate => ?_⟩
    obtain ⟨other, hother⟩ := taken_of_duplicateTypeId duplicate
    exact ⟨other, (found ..).mp hother⟩

/-- A registration on a queue with a bar in its name is found on another queue, and keeps a
registration there out. -/
theorem bar_in_queue_name :
    let order : PayloadType := { name := "Order", typeId := "order", shape := .any }
    let json : Serializer := .json
    let idle : HandlerRun := ⟨[], .ok ()⟩
    let first : ReceptionRegistration := ⟨.queue "orders|eu", order, "created", json,
      ⟨{ name := "Billing" }, fun _ _ => idle⟩⟩
    let second : ReceptionRegistration := ⟨.queue "orders", order, "eu|created", json,
      ⟨{ name := "Shipping" }, fun _ _ => idle⟩⟩
    let registry := Calls.run register {} [first]
    Calls.accepted register {} [first] = [first] ∧
      registry.find? "eu|created" "orders" .queue = some first ∧
      (register second registry).1 =
        .error (.duplicateTypeId .queue "orders" "eu|created" "Billing" "Shipping") ∧
      ¬ Exact [first] := by
  intro order json idle first second registry
  have written : Text.isBlankText "created" = false ∧ Text.isBlankText "eu|created" = false := by
    decide
  have all : Calls.AllAccepted register {} [first] :=
    (allAccepted_iff stores_empty [first]).mpr
      ⟨List.forall_mem_singleton.mpr written.1, List.nodup_singleton _, List.nodup_singleton _⟩
  have accepted := Calls.accepted_of_allAccepted all
  have stores : registry.Stores [first] := accepted ▸ stores_run [first]
  have found : registry.find? "eu|created" "orders" .queue = some first :=
    (stores.find?_iff ..).mpr ⟨List.mem_singleton_self _, by decide⟩
  refine ⟨accepted, found, ?_, fun exact => ?_⟩
  · have apart : ∀ other ∈ [first], other.handlerKey ≠ second.handlerKey :=
      List.forall_mem_singleton.mpr (by decide)
    rw [(stores.answered second).typeId written.2 apart first (List.mem_singleton_self _)
      (by decide)]
    rfl
  · have mem : first ∈ Calls.accepted register {} [first] := by
      rw [accepted]
      exact List.mem_singleton_self _
    exact (lookup_exact_iff [first]).2.mp exact first mem (.inl (by decide))

end ReceptionRegistry

end MessageBus
