import MessageBus.Proofs.Broker.Calls
import MessageBus.Proofs.Bus.Composition
import MessageBus.Proofs.Registration.Dispatch
import MessageBus.Proofs.Registration.Reception

/-!
# Building

Building a bus fails on what is registered, before the broker is asked for anything, or it succeeds
and has made one sender for each resource of the dispatches.
-/

namespace MessageBus

open Outcome

def Directory.sendersFor (first : Nat) (rs : List Resource) : List RegisteredSender :=
  (rs.zipIdx first).map fun (r, n) => ⟨r, ⟨n, r.kind, r.entity⟩⟩

namespace Directory

theorem resources_sendersFor (first : Nat) (rs : List Resource) :
    (sendersFor first rs).map (·.resource) = rs := by
  rw [sendersFor, List.map_map]
  exact List.zipIdx_map_fst first rs

theorem ids_sendersFor (first : Nat) (rs : List Resource) :
    (sendersFor first rs).map (·.sender.id) = List.range' first rs.length := by
  rw [sendersFor, List.map_map]
  exact List.zipIdx_map_snd first rs

theorem writes_of_mem_sendersFor {first : Nat} {rs : List Resource} {s : RegisteredSender}
    (h : s ∈ sendersFor first rs) :
    s.sender.kind = s.resource.kind ∧ s.sender.entity = s.resource.entity := by
  obtain ⟨⟨r, n⟩, -, rfl⟩ := List.mem_map.mp h
  exact ⟨rfl, rfl⟩

end Directory

def Broker.withSenders (b : Broker) (rs : List Resource) : Broker :=
  { b with
    operations := b.operations ++ rs.map fun r => .senderCreated r.kind r.entity
    senders := b.senders + rs.length }

theorem Broker.withSenders_cons (b : Broker) (r : Resource) (rs : List Resource) :
    b.withSenders (r :: rs) = (b.withSenders [r]).withSenders rs := by
  have count : b.senders + (rs.length + 1) = b.senders + 1 + rs.length := by omega
  simp only [withSenders, List.map_cons, List.map_nil, List.length_cons, List.length_nil,
    List.append_assoc, List.singleton_append, Nat.zero_add, count]

/-- The resources that the directory has no sender for. -/
def Directory.missing (d : Directory) (rs : List Resource) : List Resource :=
  (rs.filter fun r => (d.sender? r.kind r.id).isNone).eraseDups

namespace Directory

theorem missing_of_empty (rs : List Resource) : missing {} rs = rs.eraseDups :=
  congrArg List.eraseDups (List.filter_eq_self.mpr fun _ _ => rfl)

theorem missing_cons_of_present {d : Directory} {r : Resource} {s : RegisteredSender}
    (present : d.sender? r.kind r.id = some s) (rest : List Resource) :
    d.missing (r :: rest) = d.missing rest := by
  rw [missing, List.filter_cons_of_neg (by simp [present]), missing]

/-- Of what is missing, a resource whose sender is registered is missing no more, and it alone. -/
theorem missing_cons_of_absent {d : Directory} {r : Resource} {rest : List Resource}
    (absent : d.sender? r.kind r.id = none) (apart : Resource.KeysApart (r :: rest)) (s : Sender) :
    d.missing (r :: rest) = r :: (d.registerSender r s).missing rest := by
  rw [missing, List.filter_cons_of_pos (by simp [absent]), List.eraseDups_cons,
    List.filter_filter, missing]
  refine congrArg (r :: ·.eraseDups) (List.filter_congr fun other hother => ?_)
  rw [sender?_registerSender]
  by_cases same : other = r
  · simp [same, Resource.key]
  · have other_key : r.key ≠ (other.kind, other.id) := fun h =>
      same (apart r (List.mem_cons_self ..) other (List.mem_cons_of_mem _ hother) h).symm
    simp [same, other_key]

end Directory

namespace Builder

open Directory

theorem addSender_eq (d : Directory) {r : Resource} (writable : r.kind ≠ .subscription)
    (w : World Broker) :
    addSender Broker.transport d r w =
      (.ok (d.registerSender r ⟨w.transport.senders, r.kind, r.entity⟩),
        { w with transport := w.transport.withSenders [r] }) := by
  have made : World.raising (CompositionError.senderCreation r.kind r.id)
      (World.call (Broker.transport.createSender r)) w =
        (.ok ⟨w.transport.senders, r.kind, r.entity⟩,
          { w with transport := w.transport.withSenders [r] }) := by
    simp only [World.raising_apply, World.call_apply, Broker.transport, Broker.createSender_eq]
    rw [if_neg writable]
    rfl
  rw [addSender, bind_ok made]
  rfl

theorem addSenders_eq {d : Directory} {rs : List Resource}
    (writable : ∀ r ∈ rs, r.kind ≠ .subscription)
    (apart_keys : Resource.KeysApart rs) (w : World Broker) :
    ∃ d' trace, addSenders Broker.transport d rs w =
      (.ok d', { w with transport := w.transport.withSenders (d.missing rs), trace := trace }) ∧
      d'.senders.Perm (d.senders ++ sendersFor w.transport.senders (d.missing rs)) ∧
      d'.receivers = d.receivers := by
  induction rs generalizing d w with
  | nil =>
    refine ⟨d, w.trace, ?_, ?_, rfl⟩
    · simp [addSenders, missing, Broker.withSenders]
    · simp [missing, sendersFor]
  | cons r rest ih =>
    obtain ⟨writable_r, writable⟩ := List.forall_mem_cons.mp writable
    have apart_rest : Resource.KeysApart rest := fun r hr other hother =>
      apart_keys r (List.mem_cons_of_mem _ hr) other (List.mem_cons_of_mem _ hother)
    cases present : d.sender? r.kind r.id with
    | some s =>
      rw [addSenders, present, Option.isSome_some, if_pos rfl, missing_cons_of_present present]
      exact ih writable apart_rest w
    | none =>
      let added := d.registerSender r ⟨w.transport.senders, r.kind, r.entity⟩
      have first : d.missing (r :: rest) = r :: added.missing rest :=
        missing_cons_of_absent present apart_keys _
      obtain ⟨d', trace, others, senders, receivers⟩ := ih (d := added) writable apart_rest
        (World.add (.log (.senderCreated r.kind r.id r.entity))
          { w with transport := w.transport.withSenders [r] })
      refine ⟨d', trace, ?_, ?_, receivers⟩
      · rw [addSenders, present, Option.isSome_none, if_neg Bool.false_ne_true,
          bind_ok (addSender_eq d writable_r w), bind_ok (World.log_apply _ _), others, first,
          w.transport.withSenders_cons r (added.missing rest)]
        rfl
      · have new : ∀ s ∈ d.senders, s.resource.key ≠ r.key := by
          simpa [sender?, Resource.key] using present
        have put : added.senders.Perm (⟨r, ⟨w.transport.senders, r.kind, r.entity⟩⟩ :: d.senders) :=
          putByResource_perm new
        rw [first]
        exact senders.trans ((put.append_right _).trans List.perm_middle.symm)

theorem stores_registerReceptions {registry after : ReceptionRegistry}
    {stored rs : List ReceptionRegistration} (stores : registry.Stores stored)
    (h : registerReceptions rs registry = (.ok (), after)) : after.Stores (stored ++ rs) := by
  induction rs generalizing registry stored with
  | nil =>
    obtain rfl := (Prod.ext_iff.mp h).2
    rwa [List.append_nil]
  | cons r rest ih =>
    rw [registerReceptions] at h
    by_cases topic : r.resource.kind = .topic
    · rw [if_pos topic] at h
      cases h
    · rw [if_neg topic] at h
      obtain ⟨⟨⟩, next, registered, others⟩ := of_bind_ok h
      have ok : (ReceptionRegistry.register r registry).1 = .ok () := by rw [registered]
      have grown := stores.register ok
      rw [registered] at grown
      exact List.append_cons stored r rest ▸ ih grown others

def registries (b : Builder) : Except RegistrationError (DispatchRegistry × ReceptionRegistry) :=
  match DispatchRegistry.new b.hasher b.dispatches with
  | .error problem => .error problem
  | .ok dispatches =>
    match registerReceptions b.receptions {} with
    | (.error problem, _) => .error problem
    | (.ok _, receptions) => .ok (dispatches, receptions)

theorem registries_ok {b : Builder} {dispatches : DispatchRegistry} {receptions : ReceptionRegistry}
    (h : b.registries = .ok (dispatches, receptions)) :
    DispatchRegistry.new b.hasher b.dispatches = .ok dispatches ∧
      registerReceptions b.receptions {} = (.ok (), receptions) := by
  rw [registries] at h
  split at h
  · cases h
  · split at h
    · cases h
    · next made _ _ _ registered =>
      cases h
      exact ⟨made, registered⟩

section Build

variable {b : Builder}

theorem foldl_notices {τ : Type} (notices : List LogEvent) (w : World τ) :
    notices.foldl (fun w event => w.add (.log event)) w =
      { w with trace := w.trace ++ notices.map .log } := by
  induction notices generalizing w with
  | nil => simp
  | cons event notices ih => exact (ih _).trans (by simp [World.add])

theorem build_refused {problem : RegistrationError} (h : b.registries = .error problem)
    {τ : Type} (T : Transport τ) (w : World τ) :
    ∃ trace, b.build T w = (.error (.registration problem), { w with trace := trace }) := by
  refine ⟨w.trace ++ b.notices.map .log, ?_⟩
  rw [build, bind_ok (modify_apply _ _), foldl_notices]
  rw [registries] at h
  cases made : DispatchRegistry.new b.hasher b.dispatches with
  | error other =>
    rw [made] at h
    cases h
    rfl
  | ok dispatches =>
    rw [made] at h
    rcases registered : registerReceptions b.receptions {} with ⟨other | _, receptions⟩
    · simp only [registered] at h ⊢
      cases h
      rfl
    · simp only [registered] at h
      cases h

theorem build_eq (placed : b.Placed) {dispatches : DispatchRegistry}
    {receptions : ReceptionRegistry} (h : b.registries = .ok (dispatches, receptions))
    (w : World Broker) :
    let created := (dispatches.registrations.map (·.resource)).eraseDups
    ∃ d trace, b.build Broker.transport w =
      (.ok ⟨b.settings, dispatches, receptions, d, b.listeners⟩,
        { w with transport := w.transport.withSenders created, trace := trace }) ∧
      d.senders.Perm (sendersFor w.transport.senders created) ∧
      d.receivers.Perm (b.receptions.map (·.resource)).eraseDups := by
  intro created
  obtain ⟨made, registered⟩ := registries_ok h
  have all := (DispatchRegistry.stores_of_new made).all
  have fine := ((DispatchRegistry.exists_new_iff ..).mp ⟨dispatches, made⟩).1
  have received : receptions.registrations = b.receptions :=
    (stores_registerReceptions ReceptionRegistry.stores_empty registered).listed
  have writable : ∀ r ∈ dispatches.registrations.map (·.resource), r.kind ≠ .subscription := by
    intro r hr
    obtain ⟨d, hd, rfl⟩ := List.mem_map.mp hr
    exact (fine d (all.mem_iff.mp hd)).2
  have apart := placed.keysApart
    (List.Subset.trans (all.map (·.resource)).subset placed.dispatched)
  obtain ⟨d, trace, added, senders, receivers⟩ := addSenders_eq (d := {}) writable apart
    { w with trace := w.trace ++ b.notices.map .log }
  rw [missing_of_empty] at added senders
  let final := (b.receptions.map (·.resource)).foldl registerReceiver d
  refine ⟨final, trace ++ [.log (.composed dispatches.count b.receptions.length
    final.senders.length final.receivers.length b.settings.isolation.behavior)], ?_, ?_, ?_⟩
  · rw [build, bind_ok (modify_apply _ _), foldl_notices, made]
    simp only [registered, received]
    rw [bind_ok added, bind_ok (World.log_apply _ _), ← List.foldl_map]
    rfl
  · rw [show final.senders = d.senders from senders_registerReceiver d _]
    exact senders
  · exact receivers_perm (placed.keysApart placed.received) receivers

end Build

structure Builds (b : Builder) (bus : Bus) (before after : Broker) : Prop where
  registries : b.registries = .ok (bus.dispatches, bus.receptions)
  made : after = before.withSenders (bus.dispatches.registrations.map (·.resource)).eraseDups
  senders : bus.directory.senders.Perm
    (sendersFor before.senders (bus.dispatches.registrations.map (·.resource)).eraseDups)
  receivers : bus.directory.receivers.Perm (b.receptions.map (·.resource)).eraseDups

theorem builds_of_build {b : Builder} (placed : b.Placed) {bus : Bus} {w w' : World Broker}
    (built : b.build Broker.transport w = (.ok bus, w')) :
    b.Builds bus w.transport w'.transport := by
  cases h : b.registries with
  | error problem =>
    obtain ⟨trace, refused⟩ := build_refused h Broker.transport w
    cases refused.symm.trans built
  | ok registries =>
    obtain ⟨dispatches, receptions⟩ := registries
    obtain ⟨d, trace, made, senders, receivers⟩ := build_eq placed h w
    cases made.symm.trans built
    exact ⟨h, rfl, senders, receivers⟩

section Builds

variable {b : Builder} {bus : Bus} {before after : Broker} (builds : b.Builds bus before after)
include builds

theorem Builds.dispatches : bus.dispatches.Stores b.dispatches :=
  DispatchRegistry.stores_of_new (registries_ok builds.registries).1

theorem Builds.receptions : bus.receptions.Stores b.receptions :=
  stores_registerReceptions ReceptionRegistry.stores_empty (registries_ok builds.registries).2

theorem Builds.dispatch_keys_nodup : (b.dispatches.map (·.key)).Nodup :=
  ((DispatchRegistry.exists_new_iff ..).mp ⟨_, (registries_ok builds.registries).1⟩).2

theorem Builds.dispatched (placed : b.Placed) :
    bus.dispatches.registrations.map (·.resource) ⊆ b.allocator.allocated :=
  List.Subset.trans (builds.dispatches.all.map _).subset placed.dispatched

end Builds

end Builder

theorem Bus.Composed.built {bus : Bus} (composed : bus.Composed) :
    ∃ (b : Builder) (before after : Broker), b.Placed ∧ b.Builds bus before after := by
  obtain ⟨settings, hasher, declarations, w, w', built⟩ := composed
  have placed := Builder.placed_foldl (Builder.placed_new settings hasher) declarations
  exact ⟨_, _, _, placed, Builder.builds_of_build placed built⟩

end MessageBus
