import MessageBus.Proofs.Bus.Building

/-!
# Registrations of composed buses

A composed bus has at most one dispatch registration for a payload type and a resource, and a sender
for each that writes to the entity of the resource. It knows the resource of each reception
registration as a receiver and finds the registration there. What is received from where something
is dispatched to has the same resource as the dispatches.
-/

namespace MessageBus

open Directory

namespace Bus.Composed

variable {bus : Bus} (composed : bus.Composed)
include composed

theorem keys_nodup : (bus.dispatches.registrations.map (·.key)).Nodup := by
  obtain ⟨b, before, after, -, builds⟩ := composed.built
  exact (builds.dispatches.all.map _).nodup_iff.mpr builds.dispatch_keys_nodup

theorem sender_ids_nodup : (bus.directory.senders.map (·.sender.id)).Nodup := by
  obtain ⟨b, before, after, -, builds⟩ := composed.built
  rw [(builds.senders.map _).nodup_iff, ids_sendersFor]
  exact List.nodup_range'

theorem writes_of_sender {s : RegisteredSender} (hs : s ∈ bus.directory.senders) :
    s.sender.kind = s.resource.kind ∧ s.sender.entity = s.resource.entity := by
  obtain ⟨b, before, after, -, builds⟩ := composed.built
  exact writes_of_mem_sendersFor (builds.senders.mem_iff.mp hs)

theorem sender {r : DispatchRegistration} (hr : r ∈ bus.dispatches.registrations) :
    ∃ s, bus.directory.sender? r.resource.kind r.resource.id = some s ∧
      s.resource = r.resource ∧ s.sender.kind = r.resource.kind ∧
      s.sender.entity = r.resource.entity := by
  obtain ⟨b, before, after, placed, builds⟩ := composed.built
  have resources := builds.senders.map (·.resource)
  rw [resources_sendersFor] at resources
  have own : r.resource ∈ bus.directory.senders.map (·.resource) := by
    rw [resources.mem_iff, List.mem_eraseDups]
    exact List.mem_map_of_mem hr
  obtain ⟨s, hs, same⟩ := List.mem_map.mp own
  have distinct : (bus.directory.senders.map (·.resource.key)).Nodup := by
    have keys := resources.map Resource.key
    rw [map_eraseDups (placed.keysApart (builds.dispatched placed)), List.map_map] at keys
    exact keys.nodup_iff.mpr (nodup_eraseDups _)
  have found : bus.directory.sender? s.resource.kind s.resource.id = some s :=
    find_eq_some_of_key distinct hs
  rw [same] at found
  obtain ⟨kind, entity⟩ := composed.writes_of_sender hs
  exact ⟨s, found, same, same ▸ kind, same ▸ entity⟩

theorem receiver {r : ReceptionRegistration} (hr : r ∈ bus.receptions.registrations) :
    bus.directory.receiver? r.resource.kind r.resource.id = some r.resource := by
  obtain ⟨b, before, after, placed, builds⟩ := composed.built
  have own : r.resource ∈ bus.directory.receivers := by
    rw [builds.receivers.mem_iff, List.mem_eraseDups, ← builds.receptions.listed]
    exact List.mem_map_of_mem hr
  have distinct : (bus.directory.receivers.map Resource.key).Nodup := by
    have keys := builds.receivers.map Resource.key
    rw [map_eraseDups (placed.keysApart placed.received)] at keys
    exact keys.nodup_iff.mpr (nodup_eraseDups _)
  exact find_eq_some_of_key distinct own

theorem found {r : ReceptionRegistration} (hr : r ∈ bus.receptions.registrations) :
    bus.receptions.find? r.payloadTypeId r.resource.id r.resource.kind = some r := by
  obtain ⟨b, before, after, -, builds⟩ := composed.built
  rw [builds.receptions.listed] at hr
  exact (builds.receptions.find?_iff ..).mpr ⟨hr, rfl⟩

theorem registered {typeId resourceId : String} {kind : EntityKind} {r : ReceptionRegistration}
    (found : bus.receptions.find? typeId resourceId kind = some r) :
    r ∈ bus.receptions.registrations := by
  obtain ⟨b, before, after, -, builds⟩ := composed.built
  rw [builds.receptions.listed]
  exact ((builds.receptions.find?_iff ..).mp found).1

theorem same_resource {d : DispatchRegistration} (hd : d ∈ bus.dispatches.registrations)
    {r : ReceptionRegistration} (hr : r ∈ bus.receptions.registrations)
    (same : d.resource.address = r.resource.address) : d.resource = r.resource := by
  obtain ⟨b, before, after, placed, builds⟩ := composed.built
  rw [builds.receptions.listed] at hr
  exact placed.addressesApart (builds.dispatched placed (List.mem_map_of_mem hd))
    (placed.received (List.mem_map_of_mem hr)) same

end Bus.Composed

end MessageBus
