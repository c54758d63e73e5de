import Mathlib.Data.List.Forall2
import MessageBus.Dispatch.Outgoing
import MessageBus.Proofs.Isolation
import MessageBus.Proofs.Json.Members
import MessageBus.Proofs.Outcome
import MessageBus.Proofs.Registration.Dispatch

/-!
# Making messages

Why messages cannot be made from dispatches: a payload type is not registered, or a payload cannot
be written. What is made otherwise: one message for each dispatch and registration of its type, and
what it carries if no customizer changes it.
-/

namespace MessageBus.Outgoing

open Outcome

/-- Errors that making messages ends with. -/
inductive NotMade : DispatchError → Prop
  | unregistered (payloadType : String) : NotMade (.registrationNotFound payloadType)
  | unwritten (typeId : String) (source : SerializationError) :
      NotMade (.serialization typeId source)

variable {registry : DispatchRegistry} {isolation : Isolation} {inbound : Option Inbound}
  {problem : DispatchError} {ids ids' : IdSupply}

theorem notMade_of_create {d : Dispatch} {r : DispatchRegistration}
    (h : create isolation inbound d r ids = (.error problem, ids')) : NotMade problem := by
  rw [create] at h
  cases encoded : r.encode d.payload with
  | error source =>
    rw [encoded] at h
    cases h
    exact .unwritten ..
  | ok body =>
    rw [encoded] at h
    cases h

theorem notMade_of_createEach {d : Dispatch} {rs : List DispatchRegistration}
    (h : createEach isolation inbound d rs ids = (.error problem, ids')) : NotMade problem := by
  induction rs generalizing ids with
  | nil => cases h
  | cons r rest ih =>
    rcases of_bind_error h with first | ⟨m, between, -, h⟩
    · exact notMade_of_create first
    · rcases of_bind_error h with others | ⟨ms, between, -, h⟩
      · exact ih others
      · cases h

theorem notMade_of_find {type : PayloadType} (h : registry.find type = .error problem) :
    NotMade problem := by
  rw [DispatchRegistry.find] at h
  split at h
  · cases h
  · cases h
    exact .unregistered _

theorem notMade_of_createAll {ds : List Dispatch}
    (h : createAll registry isolation inbound ds ids = (.error problem, ids')) :
    NotMade problem := by
  induction ds generalizing ids with
  | nil => cases h
  | cons d rest ih =>
    rw [createAll] at h
    cases found : registry.find d.payload.type with
    | error source =>
      rw [found] at h
      cases h
      exact notMade_of_find found
    | ok registrations =>
      rw [found] at h
      rcases of_bind_error h with first | ⟨ms, between, -, h⟩
      · exact notMade_of_createEach first
      · rcases of_bind_error h with others | ⟨more, between, -, h⟩
        · exact ih others
        · cases h

/-- A message that the dispatch stands for at the registration. -/
def MadeFrom (isolation : Isolation) (inbound : Option Inbound) (d : Dispatch)
    (r : DispatchRegistration) (o : Outgoing) : Prop :=
  ∃ ids ids', create isolation inbound d r ids = (.ok o, ids')

def assignments (registry : DispatchRegistry) (ds : List Dispatch) :
    List (Dispatch × DispatchRegistration) :=
  ds.flatMap fun d =>
    (registry.registrations.filter (·.payloadType.identity == d.payload.type.identity)).map (d, ·)

theorem registrations_of_find {type : PayloadType} {found : List DispatchRegistration}
    (h : registry.find type = .ok found) :
    registry.registrations.filter (·.payloadType.identity == type.identity) = found := by
  rw [DispatchRegistry.find_eq] at h
  split at h
  · cases h
  · exact Except.ok.inj h

theorem madeFrom_of_createEach {d : Dispatch} {rs : List DispatchRegistration} {os : List Outgoing}
    (h : createEach isolation inbound d rs ids = (.ok os, ids')) :
    List.Forall₂ (MadeFrom isolation inbound d) rs os := by
  induction rs generalizing ids os with
  | nil =>
    cases h
    exact .nil
  | cons r rest ih =>
    obtain ⟨o, between, first, h⟩ := of_bind_ok h
    obtain ⟨others, after, hothers, h⟩ := of_bind_ok h
    cases h
    exact .cons ⟨ids, between, first⟩ (ih hothers)

theorem madeFrom_of_createAll {ds : List Dispatch} {os : List Outgoing}
    (h : createAll registry isolation inbound ds ids = (.ok os, ids')) :
    List.Forall₂ (fun a o => MadeFrom isolation inbound a.1 a.2 o)
      (assignments registry ds) os := by
  induction ds generalizing ids os with
  | nil =>
    cases h
    exact .nil
  | cons d rest ih =>
    rw [createAll] at h
    cases found : registry.find d.payload.type with
    | error source =>
      rw [found] at h
      cases h
    | ok registrations =>
      rw [found] at h
      obtain ⟨first, between, hfirst, h⟩ := of_bind_ok h
      obtain ⟨others, after, hothers, h⟩ := of_bind_ok h
      cases h
      rw [assignments, List.flatMap_cons, registrations_of_find found]
      have own : List.Forall₂ (fun a o => MadeFrom isolation inbound a.1 a.2 o)
          (registrations.map (d, ·)) first :=
        List.forall₂_map_left_iff.mpr (madeFrom_of_createEach hfirst)
      exact List.rel_append own (ih hothers)

theorem madeFrom_of_mem_createAll {ds : List Dispatch} {os : List Outgoing} {o : Outgoing}
    (h : createAll registry isolation inbound ds ids = (.ok os, ids')) (ho : o ∈ os) :
    ∃ a ∈ assignments registry ds, MadeFrom isolation inbound a.1 a.2 o := by
  have made := madeFrom_of_createAll h
  clear h
  generalize assignments registry ds = all at made ⊢
  induction made with
  | nil => cases ho
  | cons first _ ih =>
    rcases List.mem_cons.mp ho with rfl | ho
    · exact ⟨_, List.mem_cons_self .., first⟩
    · obtain ⟨a, ha, hmade⟩ := ih ho
      exact ⟨a, List.mem_cons_of_mem _ ha, hmade⟩

theorem MadeFrom.of_ok {d : Dispatch} {r : DispatchRegistration} {o : Outgoing}
    (h : MadeFrom isolation inbound d r o) :
    ∃ body ids, r.encode d.payload = .ok body ∧
      o = ⟨r, r.customize d.payload (base isolation inbound r d body ids).1⟩ := by
  obtain ⟨ids, ids', h⟩ := h
  rw [create] at h
  cases encoded : r.encode d.payload with
  | error source =>
    rw [encoded] at h
    cases h
  | ok body =>
    rw [encoded] at h
    cases h
    exact ⟨body, ids, rfl, rfl⟩

theorem MadeFrom.registration {d : Dispatch} {r : DispatchRegistration} {o : Outgoing}
    (h : MadeFrom isolation inbound d r o) : o.registration = r := by
  obtain ⟨body, ids, -, rfl⟩ := h.of_ok
  rfl

theorem MadeFrom.plain {d : Dispatch} {r : DispatchRegistration} {o : Outgoing}
    (h : MadeFrom isolation inbound d r o) (plain : r.customizers = []) :
    ∃ body ids, r.encode d.payload = .ok body ∧
      o.message = (base isolation inbound r d body ids).1 := by
  obtain ⟨body, ids, encoded, rfl⟩ := h.of_ok
  refine ⟨body, ids, encoded, ?_⟩
  simp only [DispatchRegistration.customize, plain, List.foldl_nil]

theorem get?_setText (members : Json.Members) (key name : String) (value : Option String) :
    (setText key value members).get? name =
      ((if name = key then value.map Json.text else none) <|> members.get? name) := by
  cases value with
  | none => simp [setText]
  | some s => by_cases h : name = key <;> simp [setText, Json.Members.get?_insert, h]

theorem get?_properties (typeId : String) (d : Dispatch) (name : String) :
    (properties isolation inbound typeId d).get? name =
      ((if name = Property.diagnosticId then d.diagnosticId.map Json.text else none) <|>
        (if name = Property.isolationApps then
          (if (isolationApps isolation inbound).isEmpty then none
            else some (Json.text (joinApps (isolationApps isolation inbound)))) else none) <|>
        (if name = Property.isolationKey then (isolationKey isolation inbound).map Json.text
          else none) <|>
        (if name = Property.payloadTypeId then some (Json.text typeId) else none) <|>
        (if name = Property.messageType then some (Json.text Property.integrationEvent) else none)
          <|> d.properties.get? name) := by
  simp only [properties, get?_setText, Option.map_some]
  cases (isolationApps isolation inbound).isEmpty <;> rfl

/-- Nothing is being handled, or a message that brings no key or one that is accepted here. -/
def Welcome (isolation : Isolation) (inbound : Option Inbound) : Prop :=
  ∀ i ∈ inbound, i.isolationKey = none ∨ isolation.accepts i.isolationKey = true

theorem accepts_isolationKey (welcome : Welcome isolation inbound) :
    isolation.accepts (isolationKey isolation inbound) = true := by
  cases inbound with
  | none => exact isolation.accepts_own
  | some i =>
    cases key : i.isolationKey with
    | none =>
      have own : isolationKey isolation (some i) = isolation.key := by simp [isolationKey, key]
      rw [own]
      exact isolation.accepts_own
    | some k =>
      have inherited : isolationKey isolation (some i) = i.isolationKey := by
        simp [isolationKey, key]
      rw [inherited]
      exact (welcome i rfl).resolve_left (by simp [key])

section Base

variable {d : Dispatch} {r : DispatchRegistration} {body : List UInt8}

theorem text?_base (name : String) :
    (base isolation inbound r d body ids).1.text? name =
      ((properties isolation inbound r.payloadTypeId d).get? name >>= Json.text?) := rfl

theorem payloadTypeId?_base :
    (base isolation inbound r d body ids).1.payloadTypeId? = some r.payloadTypeId := by
  rw [Message.payloadTypeId?, text?_base, get?_properties]
  simp [Property.payloadTypeId, Property.diagnosticId, Property.isolationApps,
    Property.isolationKey, Json.text?]

theorem isolationKey?_base :
    (base isolation inbound r d body ids).1.isolationKey? =
      (isolationKey isolation inbound <|>
        (d.properties.get? Property.isolationKey >>= Json.text?)) := by
  rw [Message.isolationKey?, text?_base, get?_properties]
  cases isolationKey isolation inbound <;>
    simp [Property.payloadTypeId, Property.diagnosticId, Property.isolationApps,
      Property.isolationKey, Property.messageType, Json.text?]

theorem isolationApps_base (some_app : isolationApps isolation inbound ≠ []) :
    (base isolation inbound r d body ids).1.isolationApps =
      splitApps (joinApps (isolationApps isolation inbound)) := by
  rw [Message.isolationApps, text?_base, get?_properties]
  simp [Property.diagnosticId, Property.isolationApps, Json.text?, some_app]

theorem correlationId_base {correlation : String}
    (h : (d.correlationId <|> (inbound >>= Inbound.correlationId)) = some correlation) :
    (base isolation inbound r d body ids).1.correlationId = some correlation := by
  rw [base]
  simp only [h]
  rfl

end Base

end MessageBus.Outgoing
