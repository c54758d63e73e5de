import MessageBus.Proofs.Bus.Serving

/-!
# From declarations to a bus

What is registered on a bus is what was declared, each with the serializer in force at that point
and on a resource of the entity and connection that were asked for.
-/

namespace MessageBus

namespace Builder

/-- The dispatches that are asked for, with the serializer in force and over the connection given if
they name none of their own. -/
def askedDispatches (connection : Option Connection) :
    Serializer → List Declaration → List DispatchRegistration
  | _, [] => []
  | s, .dispatch type target typeId customizers :: rest =>
    ⟨target.withDefault connection, type, typeId.getD type.typeId, s, customizers⟩ ::
      askedDispatches connection s rest
  | s, .receive .. :: rest => askedDispatches connection s rest
  | _, .serializer s :: rest => askedDispatches connection s rest
  | s, .listener _ :: rest => askedDispatches connection s rest

def askedReceptions (connection : Option Connection) :
    Serializer → List Declaration → List ReceptionRegistration
  | _, [] => []
  | s, .dispatch .. :: rest => askedReceptions connection s rest
  | s, .receive type source typeId handler :: rest =>
    ⟨source.withDefault connection, type, typeId.getD type.typeId, s, handler⟩ ::
      askedReceptions connection s rest
  | _, .serializer s :: rest => askedReceptions connection s rest
  | s, .listener _ :: rest => askedReceptions connection s rest

end Builder

/-- What is registered is what was asked for, at the same address; the resource may have another
id. -/
def DispatchRegistration.Grants (asked granted : DispatchRegistration) : Prop :=
  granted.resource.address = asked.resource.address ∧
    granted = { asked with resource := granted.resource }

def ReceptionRegistration.Grants (asked granted : ReceptionRegistration) : Prop :=
  granted.resource.address = asked.resource.address ∧
    granted = { asked with resource := granted.resource }

namespace Builder

/-- Between two builders declarations were made that came to what they asked for. -/
structure Declared (before : Builder) (declarations : List Declaration) (after : Builder) :
    Prop where
  dispatches : ∃ ds, after.dispatches = before.dispatches ++ ds ∧
    List.Forall₂ DispatchRegistration.Grants
      (askedDispatches before.allocator.defaultConnection before.serializer declarations) ds
  receptions : ∃ rs, after.receptions = before.receptions ++ rs ∧
    List.Forall₂ ReceptionRegistration.Grants
      (askedReceptions before.allocator.defaultConnection before.serializer declarations) rs

theorem declared_foldl (before : Builder) (declarations : List Declaration) :
    before.Declared declarations (declarations.foldl declare before) := by
  induction declarations generalizing before with
  | nil => exact ⟨⟨[], by simp, .nil⟩, [], by simp, .nil⟩
  | cons d rest ih =>
    obtain ⟨⟨ds, dispatches, granted⟩, rs, receptions, received⟩ := ih (before.declare d)
    rw [List.foldl_cons]
    cases d with
    | dispatch type target typeId customizers =>
      have same := before.allocator.defaultConnection_allocate target
      change List.Forall₂ _ (askedDispatches (before.allocator.allocate target).2.defaultConnection
        before.serializer rest) ds at granted
      change List.Forall₂ _ (askedReceptions (before.allocator.allocate target).2.defaultConnection
        before.serializer rest) rs at received
      rw [same] at granted received
      let first : DispatchRegistration := ⟨(before.allocator.allocate target).1, type,
        typeId.getD type.typeId, before.serializer, customizers⟩
      refine ⟨⟨first :: ds, ?_, .cons ⟨?_, rfl⟩ granted⟩, rs, receptions, received⟩
      · rw [dispatches, List.append_cons]
        rfl
      · exact before.allocator.address_allocate target
    | receive type source typeId handler =>
      have same := before.allocator.defaultConnection_allocate source
      change List.Forall₂ _ (askedDispatches (before.allocator.allocate source).2.defaultConnection
        before.serializer rest) ds at granted
      change List.Forall₂ _ (askedReceptions (before.allocator.allocate source).2.defaultConnection
        before.serializer rest) rs at received
      rw [same] at granted received
      let first : ReceptionRegistration := ⟨(before.allocator.allocate source).1, type,
        typeId.getD type.typeId, before.serializer, handler⟩
      refine ⟨⟨ds, dispatches, granted⟩, first :: rs, ?_, .cons ⟨?_, rfl⟩ received⟩
      · rw [receptions, List.append_cons]
        rfl
      · exact before.allocator.address_allocate source
    | serializer s => exact ⟨⟨ds, dispatches, granted⟩, rs, receptions, received⟩
    | listener name => exact ⟨⟨ds, dispatches, granted⟩, rs, receptions, received⟩

theorem declared_new (settings : Settings)
    (hasher : Hasher TypeIdentity (List DispatchRegistration)) (declarations : List Declaration) :
    let b := declarations.foldl declare (new settings hasher)
    List.Forall₂ DispatchRegistration.Grants
        (askedDispatches settings.connection .json declarations) b.dispatches ∧
      List.Forall₂ ReceptionRegistration.Grants
        (askedReceptions settings.connection .json declarations) b.receptions := by
  obtain ⟨⟨ds, dispatches, granted⟩, rs, receptions, received⟩ :=
    declared_foldl (new settings hasher) declarations
  exact ⟨dispatches.trans (List.nil_append ds) ▸ granted,
    receptions.trans (List.nil_append rs) ▸ received⟩

theorem registerReceptions_ne_duplicateDispatches (registry : ReceptionRegistry)
    (rs : List ReceptionRegistration) (duplicates : List DuplicateDispatch) :
    (registerReceptions rs registry).1 ≠ .error (.duplicateDispatches duplicates) := by
  induction rs generalizing registry with
  | nil =>
    intro same
    cases same
  | cons r rest ih =>
    rw [registerReceptions]
    by_cases topic : r.resource.kind = .topic
    · rw [if_pos topic]
      intro same
      cases same
    · rw [if_neg topic]
      have first := ReceptionRegistry.register_ne_duplicateDispatches registry r duplicates
      change ((ReceptionRegistry.register r >>= fun _ => registerReceptions rest) registry).1 ≠ _
      rcases answer : ReceptionRegistry.register r registry with ⟨problem | _, next⟩
      · rw [answer] at first
        rwa [Outcome.bind_error answer]
      · rw [Outcome.bind_ok answer]
        exact ih next

end Builder

theorem map_eq_of_forall₂ {α β γ : Type} {R : α → β → Prop} {xs : List α} {ys : List β}
    {f : α → γ} {g : β → γ} (h : List.Forall₂ R xs ys) (same : ∀ x y, R x y → g y = f x) :
    ys.map g = xs.map f := by
  induction h with
  | nil => rfl
  | cons first _ ih => rw [List.map_cons, List.map_cons, same _ _ first, ih]

namespace DispatchRegistration

/-- What a payload type is dispatched to, whatever the id of the resource. -/
def destination (r : DispatchRegistration) :
    TypeIdentity × EntityKind × String × Option Connection :=
  (r.payloadType.identity, r.resource.address)

theorem Grants.destination {asked granted : DispatchRegistration} (h : asked.Grants granted) :
    granted.destination = asked.destination := by
  rw [DispatchRegistration.destination, h.1, h.2]
  rfl

end DispatchRegistration

namespace Builder

variable {b : Builder}

theorem keys_nodup_iff (placed : b.Placed) :
    (b.dispatches.map (·.key)).Nodup ↔
      (b.dispatches.map DispatchRegistration.destination).Nodup := by
  rw [List.Nodup, List.Nodup, List.pairwise_map, List.pairwise_map]
  refine List.Pairwise.iff_of_mem fun {r other} hr hother => not_congr ?_
  have allocated := placed.dispatched (List.mem_map_of_mem hr)
  have other_allocated := placed.dispatched (List.mem_map_of_mem hother)
  have keys : r.resource.key = other.resource.key ↔ r.resource.address = other.resource.address :=
    ⟨fun h => congrArg _ (placed.keysApart (List.Subset.refl _) _ allocated _ other_allocated h),
      fun h => congrArg _ (placed.addressesApart allocated other_allocated h)⟩
  have key_iff : r.key = other.key ↔ r.payloadType.identity = other.payloadType.identity ∧
      r.resource.key = other.resource.key := Prod.ext_iff
  have destination_iff : r.destination = other.destination ↔
      r.payloadType.identity = other.payloadType.identity ∧
        r.resource.address = other.resource.address := Prod.ext_iff
  rw [key_iff, destination_iff, keys]

theorem duplicates_iff (fine : ∀ r ∈ b.dispatches, r.Fine) :
    (∃ duplicates, b.registries = .error (.duplicateDispatches duplicates)) ↔
      ¬ (b.dispatches.map (·.key)).Nodup := by
  have made := DispatchRegistry.exists_new_iff b.hasher b.dispatches
  rw [registries]
  by_cases distinct : (b.dispatches.map (·.key)).Nodup
  · obtain ⟨dispatches, hd⟩ := made.mpr ⟨fine, distinct⟩
    refine iff_of_false ?_ (not_not_intro distinct)
    rintro ⟨duplicates, h⟩
    have other := registerReceptions_ne_duplicateDispatches {} b.receptions duplicates
    rw [hd] at h
    rcases hr : registerReceptions b.receptions {} with ⟨problem | _, receptions⟩
    · simp only [hr] at h other
      cases h
      exact other rfl
    · simp only [hr] at h
      cases h
  · obtain ⟨duplicates, hd⟩ := DispatchRegistry.new_of_clash b.hasher fine distinct
    exact iff_of_true ⟨duplicates, by rw [hd]⟩ distinct

theorem fine_of_granted {asked granted : List DispatchRegistration}
    (h : List.Forall₂ DispatchRegistration.Grants asked granted)
    (fine : ∀ a ∈ asked, a.Fine) : ∀ r ∈ granted, r.Fine := by
  induction h with
  | nil => exact List.forall_mem_nil _
  | @cons a r _ _ first _ ih =>
    obtain ⟨⟨named, writable⟩, others⟩ := List.forall_mem_cons.mp fine
    have same_id : r.payloadTypeId = a.payloadTypeId := by rw [first.2]
    have same_kind : r.resource.kind = a.resource.kind := congrArg Prod.fst first.1
    exact List.forall_mem_cons.mpr ⟨⟨same_id ▸ named, same_kind ▸ writable⟩, ih others⟩

end Builder

/-- The bus is what the dispatches and receptions ask for. There is one sender for each address that
is dispatched to, made on the broker for this bus in whatever order, and one receiver for each that
is received from. -/
structure Bus.Answers (bus : Bus) (asked : List DispatchRegistration)
    (received : List ReceptionRegistration) (before after : Broker) : Prop where
  dispatches : ∃ granted, List.Forall₂ DispatchRegistration.Grants asked granted ∧
    bus.dispatches.Stores granted
  receptions : List.Forall₂ ReceptionRegistration.Grants received bus.receptions.registrations
  created : ∃ rs : List Resource,
    (rs.map Resource.address).Perm (asked.map (·.resource.address)).eraseDups ∧
      after = before.withSenders rs ∧
      bus.directory.senders.Perm (Directory.sendersFor before.senders rs)
  alone : (bus.directory.senders.map (·.resource.address)).Nodup
  found : ∀ kind entity connection s,
    bus.directory.findSender? kind entity connection = some s ↔
      s ∈ bus.directory.senders ∧ s.resource.address = (kind, entity, connection)
  receivers : bus.directory.receivers.Perm
    (bus.receptions.registrations.map (·.resource)).eraseDups
  sources : (bus.directory.receivers.map Resource.address).Perm
    (received.map (·.resource.address)).eraseDups
  served : ∀ {τ : Type} (T : Transport τ) (ds : List Dispatch) (inbound : Option Inbound),
    Bus.Served (bus.send T ds inbound) ∧ ∀ due, Bus.Served (bus.schedule T ds due inbound)

theorem Directory.findSender?_iff {d : Directory}
    (alone : (d.senders.map (·.resource.address)).Nodup) {kind : EntityKind} {entity : String}
    {connection : Option Connection} {s : RegisteredSender} :
    d.findSender? kind entity connection = some s ↔
      s ∈ d.senders ∧ s.resource.address = (kind, entity, connection) := by
  rw [← find_key_iff alone, findSender?]
  refine iff_of_eq (congrArg (List.find? · d.senders = some s) (funext fun other => ?_))
  rw [Bool.eq_iff_iff]
  simp [Resource.address, and_assoc]

namespace Builder

theorem build_error_iff {b : Builder} (placed : b.Placed) (w : World Broker)
    (problem : CompositionError) :
    (b.build Broker.transport w).1 = .error problem ↔
      ∃ source, b.registries = .error source ∧ problem = .registration source := by
  cases h : b.registries with
  | error source =>
    obtain ⟨trace, refused⟩ := build_refused h Broker.transport w
    rw [refused]
    simp [eq_comm]
  | ok registries =>
    obtain ⟨d, trace, made, -⟩ := build_eq placed h w
    rw [made]
    simp

theorem transport_of_build_error {b : Builder} (placed : b.Placed) {w : World Broker}
    {problem : CompositionError} (h : (b.build Broker.transport w).1 = .error problem) :
    (b.build Broker.transport w).2.transport = w.transport := by
  obtain ⟨source, wrong, -⟩ := (build_error_iff placed w problem).mp h
  obtain ⟨trace, refused⟩ := build_refused wrong Broker.transport w
  rw [refused]

theorem answers_of_build {settings : Settings}
    {hasher : Hasher TypeIdentity (List DispatchRegistration)} {declarations : List Declaration}
    {w w' : World Broker} {bus : Bus}
    (built : (declarations.foldl declare (new settings hasher)).build Broker.transport w =
      (.ok bus, w')) :
    bus.Answers (askedDispatches settings.connection .json declarations)
      (askedReceptions settings.connection .json declarations) w.transport w'.transport := by
  have composed : bus.Composed := ⟨settings, hasher, declarations, w, w', built⟩
  have placed := placed_foldl (placed_new settings hasher) declarations
  obtain ⟨granted, received⟩ := declared_new settings hasher declarations
  generalize declarations.foldl declare (new settings hasher) = b at built placed granted received
  have builds := builds_of_build placed built
  have dispatched := builds.dispatched placed
  have asked_addresses : ((bus.dispatches.registrations.map (·.resource)).eraseDups.map
      Resource.address).Perm ((askedDispatches settings.connection .json declarations).map
        (·.resource.address)).eraseDups := by
    rw [map_eraseDups fun r hr other hother =>
      placed.addressesApart (dispatched hr) (dispatched hother), List.map_map,
      ← map_eq_of_forall₂ granted fun _ _ grants => grants.1]
    exact perm_eraseDups (builds.dispatches.all.map _)
  have alone : (bus.directory.senders.map (·.resource.address)).Nodup := by
    have made := (builds.senders.map (·.resource)).map Resource.address
    rw [Directory.resources_sendersFor, List.map_map] at made
    exact (made.trans asked_addresses).nodup_iff.mpr (nodup_eraseDups _)
  constructor
  case dispatches => exact ⟨_, granted, builds.dispatches⟩
  case receptions => exact builds.receptions.listed ▸ received
  case created => exact ⟨_, asked_addresses, builds.made, builds.senders⟩
  case alone => exact alone
  case found => exact fun _ _ _ _ => Directory.findSender?_iff alone
  case receivers => exact builds.receptions.listed ▸ builds.receivers
  case sources =>
    have made := builds.receivers.map Resource.address
    rw [map_eraseDups fun r hr other hother =>
      placed.addressesApart (placed.received hr) (placed.received hother), List.map_map] at made
    rwa [← map_eq_of_forall₂ received fun _ _ grants => grants.1]
  case served =>
    exact fun T ds inbound =>
      ⟨composed.served_send T ds inbound, composed.served_schedule T ds inbound⟩

/-- If each dispatch that is declared has a type id and does not go to a subscription, building the
bus fails on duplicates exactly when two dispatches are asked for with one payload type and one
address. A bus that is not built has left the broker alone, and one that is built is what was
declared. -/
theorem build_answers (settings : Settings)
    (hasher : Hasher TypeIdentity (List DispatchRegistration)) (declarations : List Declaration)
    (w : World Broker) :
    let asked := askedDispatches settings.connection .json declarations
    let received := askedReceptions settings.connection .json declarations
    let result := (declarations.foldl declare (new settings hasher)).build Broker.transport w
    ((∀ a ∈ asked, Text.isBlankText a.payloadTypeId = false ∧ a.resource.kind ≠ .subscription) →
      ((∃ duplicates, result.1 = .error (.registration (.duplicateDispatches duplicates))) ↔
        ¬ (asked.map DispatchRegistration.destination).Nodup)) ∧
    (∀ problem, result.1 = .error problem → result.2.transport = w.transport) ∧
    ∀ bus, result.1 = .ok bus →
      bus.Answers asked received w.transport result.2.transport := by
  intro asked received result
  have placed := placed_foldl (placed_new settings hasher) declarations
  obtain ⟨granted, -⟩ := declared_new settings hasher declarations
  refine ⟨fun fine => ?_, fun problem h => ?_, fun bus h => ?_⟩
  · have destinations := map_eq_of_forall₂ granted fun _ _ grants => grants.destination
    rw [← destinations, ← keys_nodup_iff placed, ← duplicates_iff (fine_of_granted granted fine)]
    refine exists_congr fun duplicates => ?_
    rw [build_error_iff placed]
    simp
  · exact transport_of_build_error placed h
  · have built : result = (.ok bus, result.2) := Prod.ext h rfl
    exact answers_of_build built

/-- Two type ids do not keep the dispatches of one type to one queue apart. -/
theorem build_answers_of_twice :
    let receipt : PayloadType := { name := "Receipt", typeId := "receipt", shape := .text }
    let twice : List Declaration := [.dispatch receipt (.queue "orders") none [],
      .dispatch receipt (.queue "orders") (some "bill") []]
    let w : World Broker := { transport := {} }
    let result := (twice.foldl declare (new {})).build Broker.transport w
    (∃ duplicates, result.1 = .error (.registration (.duplicateDispatches duplicates))) ∧
      result.2.transport = w.transport := by
  intro receipt twice w result
  obtain ⟨clash, untouched, -⟩ := build_answers {} .inOrder twice w
  obtain ⟨duplicates, h⟩ := (clash (by decide +kernel)).mpr (by decide +kernel)
  exact ⟨⟨duplicates, h⟩, untouched _ h⟩

end Builder

end MessageBus
