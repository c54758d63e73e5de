import Mathlib.Algebra.Ring.Nat
import Mathlib.Data.List.Nodup
import MessageBus.Proofs.Outgoing

/-!
# Drafts

What is made of dispatches, said without the order of the work. Either something is wrong with one
of them, and the first such thing is reported; or there is a draft for each dispatch and each
registration of its type, and the customizers of the registration turn it into the message. The ids
of drafts that nobody gives are the next ones of the supply, which are all different.
-/

namespace MessageBus

namespace IdSupply

def upcoming (ids : IdSupply) (n : Nat) : List String :=
  (List.range' ids.issued n).map ids.stream

def skip (ids : IdSupply) (n : Nat) : IdSupply := { ids with issued := ids.issued + n }

theorem skip_skip (ids : IdSupply) (m n : Nat) : (ids.skip m).skip n = ids.skip (m + n) := by
  simp only [skip, Nat.add_assoc]

theorem upcoming_add (ids : IdSupply) (m n : Nat) :
    ids.upcoming (m + n) = ids.upcoming m ++ (ids.skip m).upcoming n := by
  simp only [upcoming, skip, ← List.map_append, List.range'_append_1]

theorem upcoming_nodup (ids : IdSupply) (n : Nat) : (ids.upcoming n).Nodup :=
  List.Nodup.map (fun i j same => ids.distinct i j same) List.nodup_range'

theorem orNext_fresh (given : Option String) (ids : IdSupply) :
    ∃ n, (orNext given ids).2 = ids.skip n ∧
      (if given = none then [(orNext given ids).1] else []) = ids.upcoming n := by
  cases given with
  | some id => exact ⟨0, rfl, rfl⟩
  | none => exact ⟨1, rfl, rfl⟩

end IdSupply

namespace Outgoing

open Outcome

/-- The registration cannot write the payload of the dispatch. -/
def unwritten? (d : Dispatch) (r : DispatchRegistration) : Option DispatchError :=
  match r.encode d.payload with
  | .error source => some (.serialization r.payloadTypeId source)
  | .ok _ => none

/-- All that is wrong with a dispatch, in the order of the registrations. -/
def problems (registry : DispatchRegistry) (d : Dispatch) : List DispatchError :=
  match registry.registrations.filter (·.payloadType.identity == d.payload.type.identity) with
  | [] => [.registrationNotFound d.payload.type.name]
  | registrations => registrations.filterMap (unwritten? d)

def correlation? (inbound : Option Inbound) (d : Dispatch) : Option String :=
  d.correlationId.or (inbound.bind Inbound.correlationId)

/-- What a message has under the names of the bus, if anything, whatever its dispatch brings. The
apps are the first of three lists that has any. -/
def overrides (isolation : Isolation) (inbound : Option Inbound) (r : DispatchRegistration)
    (d : Dispatch) : List (String × Option String) :=
  let apps := [(inbound.map Inbound.isolationApps).getD [], isolation.apps,
    isolation.applicationName.toList]
  [(Property.messageType, some Property.integrationEvent),
    (Property.payloadTypeId, some r.payloadTypeId),
    (Property.isolationKey, (inbound.bind Inbound.isolationKey).or isolation.key),
    (Property.isolationApps, (apps.find? (!·.isEmpty)).map joinApps),
    (Property.diagnosticId, d.diagnosticId)]

/-- The message is a dispatch written by a registration, before the customizers see it. -/
structure Draft (isolation : Isolation) (inbound : Option Inbound) (d : Dispatch)
    (r : DispatchRegistration) (m : Message) : Prop where
  body : r.encode d.payload = .ok m.body
  contentType : m.contentType = some r.serializer.contentType
  subject : m.subject = some ("An integration event of type '" ++ r.payloadTypeId ++ "'")
  sessionId : m.sessionId = d.sessionId
  id : ∀ id ∈ d.messageId, m.id = id
  correlationId : ∀ id ∈ correlation? inbound d, m.correlationId = some id
  properties : ∀ name, m.properties.get? name =
    (((overrides isolation inbound r d).lookup name).join.map Json.text).or
      (d.properties.get? name)

def freshIds (inbound : Option Inbound) (d : Dispatch) (m : Message) : List (Option String) :=
  (if d.messageId = none then [some m.id] else []) ++
    (if correlation? inbound d = none then [m.correlationId] else [])

/-- The message that the customizers, one after the other, make of a draft. -/
def finish (a : Dispatch × DispatchRegistration) (m : Message) : Outgoing :=
  ⟨a.2, a.2.customizers.foldl (fun m customizer => customizer a.1.payload m) m⟩

/-- There is a draft for each dispatch and registration, and the supply has handed out the ids that
nobody has given. -/
structure Drafted (isolation : Isolation) (inbound : Option Inbound)
    (all : List (Dispatch × DispatchRegistration)) (ids ids' : IdSupply)
    (drafts : List Message) : Prop where
  each : List.Forall₂ (fun a m => Draft isolation inbound a.1 a.2 m) all drafts
  fresh : ∃ n, ids' = ids.skip n ∧
    (List.zipWith (fun a m => freshIds inbound a.1 m) all drafts).flatten =
      (ids.upcoming n).map some

variable {registry : DispatchRegistry} {isolation : Isolation} {inbound : Option Inbound}
  {d : Dispatch} {r : DispatchRegistration} {ids ids' : IdSupply}

theorem find?_apps (isolation : Isolation) (inbound : Option Inbound) :
    ([(inbound.map Inbound.isolationApps).getD [], isolation.apps,
      isolation.applicationName.toList].find? (!·.isEmpty)) =
      if (isolationApps isolation inbound).isEmpty then none
      else some (isolationApps isolation inbound) := by
  rw [isolationApps]
  cases h₁ : ((inbound.map Inbound.isolationApps).getD []).isEmpty with
  | false => simp [h₁]
  | true =>
    cases h₂ : isolation.apps.isEmpty with
    | false => simp [h₁, h₂]
    | true => cases h₃ : isolation.applicationName.toList.isEmpty <;> simp [h₁, h₂, h₃]

theorem get?_foldl_setText (table : List (String × Option String))
    (apart : (table.map Prod.fst).Nodup) (members : Json.Members) (name : String) :
    (table.foldl (fun members entry => setText entry.1 entry.2 members) members).get? name =
      ((table.lookup name).join.map Json.text).or (members.get? name) := by
  induction table generalizing members with
  | nil => rfl
  | cons entry rest ih =>
    obtain ⟨key, value⟩ := entry
    obtain ⟨absent, apart⟩ := List.nodup_cons.mp apart
    rw [List.foldl_cons, ih apart, get?_setText, List.lookup_cons]
    by_cases here : name = key
    · have none_later : rest.lookup name = none := by
        refine List.lookup_eq_none_iff.mpr fun other hother => bne_iff_ne.mpr fun same => ?_
        exact absent (List.mem_map.mpr ⟨other, hother, same.symm.trans here⟩)
      rw [none_later, beq_iff_eq.mpr here]
      simp [here]
    · simp [here, beq_false_of_ne here]

theorem properties_eq (isolation : Isolation) (inbound : Option Inbound) (r : DispatchRegistration)
    (d : Dispatch) :
    properties isolation inbound r.payloadTypeId d =
      (overrides isolation inbound r d).foldl
        (fun members entry => setText entry.1 entry.2 members) d.properties := by
  have key : isolationKey isolation inbound =
      (inbound.bind Inbound.isolationKey).or isolation.key := Option.orElse_eq_or
  rw [overrides, find?_apps, properties, key]
  cases (isolationApps isolation inbound).isEmpty <;> rfl

theorem names_overrides (isolation : Isolation) (inbound : Option Inbound)
    (r : DispatchRegistration) (d : Dispatch) :
    ((overrides isolation inbound r d).map Prod.fst).Nodup := by
  have apart : [Property.messageType, Property.payloadTypeId, Property.isolationKey,
      Property.isolationApps, Property.diagnosticId].Nodup := by decide
  exact apart

theorem correlation?_eq (inbound : Option Inbound) (d : Dispatch) :
    (d.correlationId <|> (inbound >>= Inbound.correlationId)) = correlation? inbound d :=
  Option.orElse_eq_or

section Base

variable {body : List UInt8}

theorem draft_base (written : r.encode d.payload = .ok body) (ids : IdSupply) :
    Draft isolation inbound d r (base isolation inbound r d body ids).1 where
  body := written
  contentType := rfl
  subject := rfl
  sessionId := rfl
  id := fun id given => by
    rw [base, Option.mem_def.mp given]
    rfl
  correlationId := fun id given => correlationId_base ((correlation?_eq inbound d).trans given)
  properties := fun name => by
    rw [← get?_foldl_setText _ (names_overrides ..), ← properties_eq]
    rfl

theorem fresh_base (ids : IdSupply) :
    let m := (base isolation inbound r d body ids).1
    ∃ n, (base isolation inbound r d body ids).2 = ids.skip n ∧
      freshIds inbound d m = (ids.upcoming n).map some := by
  intro m
  obtain ⟨n, after, first⟩ := IdSupply.orNext_fresh d.messageId ids
  obtain ⟨k, after', second⟩ := IdSupply.orNext_fresh (correlation? inbound d) (ids.skip n)
  have id : m.id = (IdSupply.orNext d.messageId ids).1 := rfl
  have correlation : m.correlationId =
      some (IdSupply.orNext (correlation? inbound d) (ids.skip n)).1 := by
    rw [← correlation?_eq, ← after]
    rfl
  refine ⟨n + k, ?_, ?_⟩
  · rw [← ids.skip_skip, ← after', ← after, ← correlation?_eq]
    rfl
  · rw [freshIds, ids.upcoming_add, List.map_append, ← first, ← second, id, correlation]
    congr 1 <;> split <;> rfl

end Base

theorem Drafted.nil (ids : IdSupply) : Drafted isolation inbound [] ids ids [] where
  each := .nil
  fresh := ⟨0, rfl, rfl⟩

theorem Drafted.append {first others : List (Dispatch × DispatchRegistration)}
    {between : IdSupply} {ms ms' : List Message}
    (h : Drafted isolation inbound first ids between ms)
    (h' : Drafted isolation inbound others between ids' ms') :
    Drafted isolation inbound (first ++ others) ids ids' (ms ++ ms') where
  each := List.rel_append h.each h'.each
  fresh := by
    obtain ⟨n, rfl, fresh⟩ := h.fresh
    obtain ⟨n', rfl, fresh'⟩ := h'.fresh
    refine ⟨n + n', ids.skip_skip n n', ?_⟩
    rw [List.zipWith_append h.each.length_eq, List.flatten_append, fresh, fresh',
      IdSupply.upcoming_add, List.map_append]

theorem create_cases (isolation : Isolation) (inbound : Option Inbound) (d : Dispatch)
    (r : DispatchRegistration) (ids : IdSupply) :
    (∃ problem, unwritten? d r = some problem ∧
      create isolation inbound d r ids = (.error problem, ids)) ∨
    (unwritten? d r = none ∧ ∃ m ids',
      create isolation inbound d r ids = (.ok (finish (d, r) m), ids') ∧
        Drafted isolation inbound [(d, r)] ids ids' [m]) := by
  rw [create, unwritten?]
  cases written : r.encode d.payload with
  | error source => exact .inl ⟨_, rfl, rfl⟩
  | ok body =>
    let made := base isolation inbound r d body ids
    obtain ⟨n, after, fresh⟩ : ∃ n, made.2 = ids.skip n ∧
      freshIds inbound d made.1 = (ids.upcoming n).map some := fresh_base ids
    exact .inr ⟨rfl, made.1, made.2, rfl, .cons (draft_base written ids) .nil, n, after,
      (List.append_nil _).trans fresh⟩

theorem createEach_made (isolation : Isolation) (inbound : Option Inbound)
    {rs : List DispatchRegistration} (fine : rs.filterMap (unwritten? d) = []) (ids : IdSupply) :
    ∃ drafts ids', createEach isolation inbound d rs ids =
        (.ok (List.zipWith finish (rs.map (d, ·)) drafts), ids') ∧
      Drafted isolation inbound (rs.map (d, ·)) ids ids' drafts := by
  induction rs generalizing ids with
  | nil => exact ⟨[], ids, rfl, .nil ids⟩
  | cons r rest ih =>
    rcases create_cases isolation inbound d r ids with
      ⟨problem, wrong, -⟩ | ⟨written, m, between, made, first⟩
    · rw [List.filterMap_cons_some wrong] at fine
      cases fine
    · rw [List.filterMap_cons_none written] at fine
      obtain ⟨ms, ids', others, drafted⟩ := ih fine between
      refine ⟨m :: ms, ids', ?_, first.append drafted⟩
      rw [createEach, bind_ok made, bind_ok others]
      rfl

theorem createEach_wrong {rs : List DispatchRegistration} {problem : DispatchError}
    (wrong : (rs.filterMap (unwritten? d)).head? = some problem) (ids : IdSupply) :
    (createEach isolation inbound d rs ids).1 = .error problem := by
  induction rs generalizing ids with
  | nil => cases wrong
  | cons r rest ih =>
    rcases create_cases isolation inbound d r ids with
      ⟨other, unwritten, failed⟩ | ⟨written, m, between, made, -⟩
    · rw [List.filterMap_cons_some unwritten] at wrong
      cases wrong
      rw [createEach, bind_error failed]
    · rw [List.filterMap_cons_none written] at wrong
      have failed : createEach isolation inbound d rest between = (.error problem, _) :=
        Prod.ext (ih wrong between) rfl
      rw [createEach, bind_ok made, bind_error failed]

theorem find_cases (registry : DispatchRegistry) (d : Dispatch) :
    (∃ problem, problems registry d = [problem] ∧
      registry.find d.payload.type = .error problem) ∨
    ∃ rs, rs = registry.registrations.filter (·.payloadType.identity == d.payload.type.identity) ∧
      problems registry d = rs.filterMap (unwritten? d) ∧
      registry.find d.payload.type = .ok rs := by
  rw [problems, DispatchRegistry.find_eq]
  cases registry.registrations.filter (·.payloadType.identity == d.payload.type.identity) with
  | nil => exact .inl ⟨_, rfl, rfl⟩
  | cons r rest => exact .inr ⟨_, rfl, rfl, rfl⟩

theorem createAll_made (isolation : Isolation) (inbound : Option Inbound) {ds : List Dispatch}
    (fine : ds.flatMap (problems registry) = []) (ids : IdSupply) :
    ∃ drafts ids', createAll registry isolation inbound ds ids =
        (.ok (List.zipWith finish (assignments registry ds) drafts), ids') ∧
      Drafted isolation inbound (assignments registry ds) ids ids' drafts := by
  induction ds generalizing ids with
  | nil => exact ⟨[], ids, rfl, .nil ids⟩
  | cons d rest ih =>
    obtain ⟨none_here, none_later⟩ := List.append_eq_nil_iff.mp (List.flatMap_cons ▸ fine)
    rcases find_cases registry d with ⟨problem, wrong, -⟩ | ⟨rs, hrs, all, found⟩
    · rw [wrong] at none_here
      cases none_here
    · obtain ⟨ms, between, first, drafted⟩ :=
        createEach_made isolation inbound (all ▸ none_here) ids
      obtain ⟨ms', ids', others, drafted'⟩ := ih none_later between
      have split : assignments registry (d :: rest) =
          rs.map (d, ·) ++ assignments registry rest := by
        rw [assignments, List.flatMap_cons, ← hrs, assignments]
      refine ⟨ms ++ ms', ids', ?_, split ▸ drafted.append drafted'⟩
      rw [createAll, found, split, List.zipWith_append drafted.each.length_eq]
      simp only [bind_ok first, bind_ok others, pure_apply]

theorem createAll_wrong {ds : List Dispatch} {problem : DispatchError}
    (wrong : (ds.flatMap (problems registry)).head? = some problem) (ids : IdSupply) :
    (createAll registry isolation inbound ds ids).1 = .error problem := by
  induction ds generalizing ids with
  | nil => cases wrong
  | cons d rest ih =>
    rw [List.flatMap_cons, List.head?_append] at wrong
    rcases find_cases registry d with ⟨other, here, lost⟩ | ⟨rs, -, all, found⟩
    · rw [here] at wrong
      cases wrong
      rw [createAll, lost]
      rfl
    · rw [createAll, found]
      rw [all] at wrong
      cases first : (rs.filterMap (unwritten? d)).head? with
      | some other =>
        rw [first] at wrong
        cases wrong
        have failed : createEach isolation inbound d rs ids = (.error problem, _) :=
          Prod.ext (createEach_wrong first ids) rfl
        simp only [bind_error failed]
      | none =>
        rw [first, Option.none_or] at wrong
        obtain ⟨ms, between, made, -⟩ :=
          createEach_made isolation inbound (List.head?_eq_none_iff.mp first) ids
        have failed : createAll registry isolation inbound rest between = (.error problem, _) :=
          Prod.ext (ih wrong between) rfl
        simp only [bind_ok made, bind_error failed]

/-- Dispatches are refused for the first thing that is wrong with them, in their order and that of
the registrations. Otherwise each of them has a draft for each registration of its type, and the
customizers make the message of it. The ids that nobody has given are all different. -/
theorem createAll_drafts (registry : DispatchRegistry) (isolation : Isolation)
    (inbound : Option Inbound) (ds : List Dispatch) (ids : IdSupply) :
    let result := createAll registry isolation inbound ds ids
    match (ds.flatMap (problems registry)).head? with
    | some problem => result.1 = .error problem
    | none => ∃ drafts,
      result.1 = .ok (List.zipWith finish (assignments registry ds) drafts) ∧
      Drafted isolation inbound (assignments registry ds) ids result.2 drafts ∧
      (List.zipWith (fun a m => freshIds inbound a.1 m)
        (assignments registry ds) drafts).flatten.Nodup := by
  intro result
  cases wrong : (ds.flatMap (problems registry)).head? with
  | some problem => exact createAll_wrong wrong ids
  | none =>
    obtain ⟨drafts, ids', made, drafted⟩ :=
      createAll_made isolation inbound (List.head?_eq_none_iff.mp wrong) ids
    have hresult : result = _ := made
    rw [hresult]
    refine ⟨drafts, rfl, drafted, ?_⟩
    obtain ⟨n, -, fresh⟩ := drafted.fresh
    rw [fresh]
    exact (ids.upcoming_nodup n).map fun _ _ => Option.some.inj

end Outgoing

end MessageBus
