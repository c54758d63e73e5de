import MessageBus.Proofs.Outgoing

/-!
# Properties that the caller does not choose

The properties that route a message or isolate it are put over those of its dispatch, each if there
is a value for it. So what a dispatch brings under one of these names shows on the message exactly
where nothing is put over it: two dispatches that differ in their properties then make messages that
differ as well.
-/

namespace MessageBus

def Dispatch.withProperties (d : Dispatch) (properties : Json.Members) : Dispatch :=
  { d with properties := properties }

namespace Outgoing

/-- The properties of a message that have a value of their own, whatever its dispatch brings. -/
inductive Stamped (isolation : Isolation) (inbound : Option Inbound) (d : Dispatch) : String → Prop
  | messageType : Stamped isolation inbound d Property.messageType
  | payloadTypeId : Stamped isolation inbound d Property.payloadTypeId
  | isolationKey (some_key : isolationKey isolation inbound ≠ none) :
      Stamped isolation inbound d Property.isolationKey
  | isolationApps (some_app : isolationApps isolation inbound ≠ []) :
      Stamped isolation inbound d Property.isolationApps
  | diagnosticId (some_id : d.diagnosticId ≠ none) :
      Stamped isolation inbound d Property.diagnosticId

def stamp? (isolation : Isolation) (inbound : Option Inbound) (typeId : String) (d : Dispatch)
    (name : String) : Option Json :=
  (properties isolation inbound typeId (d.withProperties [])).get? name

variable {isolation : Isolation} {inbound : Option Inbound} {d : Dispatch}
  {r : DispatchRegistration} {ids ids' : IdSupply}

theorem get?_properties_withProperties (typeId : String) (d : Dispatch) (p : Json.Members)
    (name : String) :
    (properties isolation inbound typeId (d.withProperties p)).get? name =
      (stamp? isolation inbound typeId d name <|> p.get? name) := by
  have nothing : Json.Members.get? [] name = none := rfl
  rw [stamp?, get?_properties, get?_properties]
  simp only [Dispatch.withProperties, nothing, Option.orElse_eq_orElse, Option.orElse_eq_or,
    Option.or_none, Option.or_assoc]

theorem stamp?_ne_none_iff (typeId : String) (d : Dispatch) (name : String) :
    stamp? isolation inbound typeId d name ≠ none ↔ Stamped isolation inbound d name := by
  have nothing : (d.withProperties []).properties.get? name = none := rfl
  rw [stamp?, get?_properties]
  simp only [Option.orElse_eq_orElse, Option.orElse_eq_or, ne_eq, Option.or_eq_none_iff,
    ite_eq_right_iff, Option.map_eq_none_iff, reduceCtorEq, imp_false, not_and_or,
    Classical.not_imp, not_not, nothing, not_true_eq_false, or_false]
  constructor
  · rintro (⟨rfl, some_id⟩ | ⟨rfl, some_app⟩ | ⟨rfl, some_key⟩ | rfl | rfl)
    · exact .diagnosticId some_id
    · exact .isolationApps fun none_left => some_app (by simp [none_left])
    · exact .isolationKey some_key
    · exact .payloadTypeId
    · exact .messageType
  · intro stamped
    cases stamped with
    | messageType => simp
    | payloadTypeId => simp
    | isolationKey some_key => simp [some_key]
    | isolationApps some_app => simp [some_app]
    | diagnosticId some_id => simpa using .inl some_id

theorem base_withProperties (d : Dispatch) (p : Json.Members) (body : List UInt8) :
    base isolation inbound r (d.withProperties p) body ids =
      ({ (base isolation inbound r d body ids).1 with
          properties := properties isolation inbound r.payloadTypeId (d.withProperties p) },
        (base isolation inbound r d body ids).2) := rfl

theorem create_plain (plain : r.customizers = []) (d : Dispatch) :
    create isolation inbound d r ids =
      match r.encode d.payload with
      | .error source => (.error (.serialization r.payloadTypeId source), ids)
      | .ok body =>
        (.ok ⟨r, (base isolation inbound r d body ids).1⟩,
          (base isolation inbound r d body ids).2) := by
  rw [create]
  cases r.encode d.payload with
  | error source => rfl
  | ok body =>
    simp only [DispatchRegistration.customize, plain]
    rfl

/-- Dispatches that differ in their properties only are made into messages with the same ids, or
not at all. Such messages have a property in common exactly if it has a value of its own or the
dispatches have it in common. -/
theorem agree_iff_stamped (plain : r.customizers = []) (isolation : Isolation)
    (inbound : Option Inbound) (d : Dispatch) (p q : Json.Members) (ids : IdSupply) :
    let first := create isolation inbound (d.withProperties p) r ids
    let second := create isolation inbound (d.withProperties q) r ids
    first.2 = second.2 ∧
      match first.1, second.1 with
      | .ok a, .ok b => ∀ name,
        a.message.properties.get? name = b.message.properties.get? name ↔
          Stamped isolation inbound d name ∨ p.get? name = q.get? name
      | .error problem, .error other => problem = other
      | _, _ => False := by
  intro first second
  have hfirst : first = _ := create_plain plain (d.withProperties p)
  have hsecond : second = _ := create_plain plain (d.withProperties q)
  have payload (m : Json.Members) : (d.withProperties m).payload = d.payload := rfl
  rw [hfirst, hsecond, payload, payload]
  cases r.encode d.payload with
  | error source => exact ⟨rfl, rfl⟩
  | ok body =>
    refine ⟨rfl, fun name => ?_⟩
    rw [← stamp?_ne_none_iff r.payloadTypeId]
    simp only [base_withProperties, get?_properties_withProperties]
    cases stamp? isolation inbound r.payloadTypeId d name with
    | none => simp
    | some value => simp

def ticket : PayloadType := { name := "Ticket", typeId := "ticket", shape := .text }

def toDesk : DispatchRegistration := ⟨.queue "desk", ticket, "ticket", .json, []⟩

def opened : Dispatch :=
  { payload := ⟨ticket, .text "opened"⟩, messageId := some "m1", correlationId := some "c1" }

def keyed (key : String) : Json.Members := [(Property.isolationKey, .text key)]

/-- An instance without an isolation key of its own passes on the one that the caller brings, and
another instance takes the message for its own. -/
theorem brought_isolation_key :
    let made (p : Json.Members) := (create {} none (opened.withProperties p) toDesk (.counting 0)).1
    let other := Isolation.isolated "tenant-b"
    ∃ a b, made (keyed "tenant-b") = .ok a ∧ made [] = .ok b ∧
      a.message.properties.get? Property.isolationKey = some (.text "tenant-b") ∧
      b.message.properties.get? Property.isolationKey = none ∧
      other.accepts a.message.isolationKey? = true ∧
      other.accepts b.message.isolationKey? = false := by
  exact ⟨_, _, rfl, rfl, rfl, rfl, by decide, by decide⟩

theorem agree_iff_stamped_of_keyed :
    let isolation : Isolation := { key := some "tenant-a" }
    let made (p : Json.Members) :=
      create isolation none (opened.withProperties p) toDesk (.counting 0)
    toDesk.customizers = [] ∧ (made (keyed "tenant-b")).2 = (made []).2 ∧
      ∃ a b, (made (keyed "tenant-b")).1 = .ok a ∧ (made []).1 = .ok b ∧
        a.message.properties.get? Property.isolationKey =
          b.message.properties.get? Property.isolationKey := by
  intro isolation made
  have plain : toDesk.customizers = [] := rfl
  obtain ⟨same_ids, agree⟩ :=
    agree_iff_stamped plain isolation none opened (keyed "tenant-b") [] (.counting 0)
  refine ⟨plain, same_ids, _, _, rfl, rfl, ?_⟩
  exact (agree Property.isolationKey).mpr (.inl (.isolationKey (by decide)))

end Outgoing

end MessageBus
