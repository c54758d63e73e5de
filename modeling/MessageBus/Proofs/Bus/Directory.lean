import Mathlib.Data.List.Induction
import Mathlib.Data.Prod.Lex
import Mathlib.Data.String.Basic
import MessageBus.Bus.Basic
import MessageBus.Proofs.Keyed

/-!
# The directory

A directory is kept in the order of kinds and ids. An entry that is put into it takes the place of
one with the same key and is new otherwise, so there is never more than one entry for a key.
-/

namespace MessageBus

theorem find?_putByResource {α : Type} (resource : α → Resource) (entry : α) (entries : List α)
    (key : EntityKind × String) :
    (putByResource resource entry entries).find? (fun e => (resource e).key == key) =
      if (resource entry).key = key then some entry
      else entries.find? (fun e => (resource e).key == key) := by
  induction entries with
  | nil => by_cases h : (resource entry).key = key <;> simp [putByResource, h]
  | cons other rest ih =>
    rw [putByResource]
    by_cases same : (resource entry).key = (resource other).key
    · rw [if_pos same, List.find?_cons, List.find?_cons, same]
      by_cases h : (resource other).key = key
      · rw [if_pos h, beq_iff_eq.mpr h]
      · rw [if_neg h, beq_false_of_ne h]
    · rw [if_neg same]
      split
      · rw [List.find?_cons]
        by_cases h : (resource entry).key = key
        · rw [if_pos h, beq_iff_eq.mpr h]
        · rw [if_neg h, beq_false_of_ne h]
      · rw [List.find?_cons, List.find?_cons]
        by_cases h : (resource other).key = key
        · have : ¬ (resource entry).key = key := fun he => same (he.trans h.symm)
          rw [if_neg this, beq_iff_eq.mpr h]
        · rw [beq_false_of_ne h]
          exact ih

theorem mem_putByResource {α : Type} {resource : α → Resource} {entry other : α} {entries : List α}
    (h : other ∈ putByResource resource entry entries) : other = entry ∨ other ∈ entries := by
  induction entries with
  | nil => exact .inl (List.mem_singleton.mp h)
  | cons first rest ih =>
    rw [putByResource] at h
    split at h
    · exact (List.mem_cons.mp h).imp_right (List.mem_cons_of_mem _)
    · split at h
      · exact List.mem_cons.mp h
      · rcases List.mem_cons.mp h with rfl | h
        · exact .inr (List.mem_cons_self ..)
        · exact (ih h).imp_right (List.mem_cons_of_mem _)

namespace Resource

def place (r : Resource) : Nat ×ₗ String := toLex (r.kind.rank, r.id)

theorem precedes_iff (a b : Resource) : a.precedes b = true ↔ a.place < b.place := by
  simp [precedes, place, Prod.Lex.toLex_lt_toLex]

theorem place_eq_iff (a b : Resource) : a.place = b.place ↔ a.key = b.key := by
  have kinds : a.kind.rank = b.kind.rank ↔ a.kind = b.kind := by
    cases a.kind <;> cases b.kind <;> decide
  simp [place, key, kinds]

end Resource

section Entries

variable {α : Type} {resource : α → Resource} {entry : α} {entries : List α}

/-- The entries are in the order of their resources, and no two have one key. -/
def Ordered (resource : α → Resource) (entries : List α) : Prop :=
  entries.Pairwise fun a b => (resource a).place < (resource b).place

theorem Ordered.keys_nodup (h : Ordered resource entries) :
    (entries.map fun e => (resource e).key).Nodup :=
  List.pairwise_map.mpr <| h.imp fun before same =>
    before.ne ((Resource.place_eq_iff _ _).mpr same)

theorem Ordered.putByResource (h : Ordered resource entries) (entry : α) :
    Ordered resource (putByResource resource entry entries) := by
  induction entries with
  | nil => exact List.pairwise_singleton _ _
  | cons other rest ih =>
    obtain ⟨first, others⟩ := List.pairwise_cons.mp h
    rw [MessageBus.putByResource]
    split
    · next same =>
      rw [← Resource.place_eq_iff] at same
      exact .cons (fun e he => same ▸ first e he) others
    · next different =>
      rw [← Resource.place_eq_iff] at different
      split
      · next before =>
        rw [Resource.precedes_iff] at before
        refine .cons (fun e he => ?_) h
        rcases List.mem_cons.mp he with rfl | he
        · exact before
        · exact before.trans (first e he)
      · next behind =>
        rw [Resource.precedes_iff] at behind
        have after : (resource other).place < (resource entry).place :=
          lt_of_le_of_ne (not_lt.mp behind) (Ne.symm different)
        refine .cons (fun e he => ?_) (ih others)
        rcases mem_putByResource he with rfl | he
        · exact after
        · exact first e he

theorem putByResource_perm (new : ∀ e ∈ entries, (resource e).key ≠ (resource entry).key) :
    (putByResource resource entry entries).Perm (entry :: entries) := by
  induction entries with
  | nil => exact .refl _
  | cons other rest ih =>
    obtain ⟨first, others⟩ := List.forall_mem_cons.mp new
    rw [putByResource, if_neg (Ne.symm first)]
    split
    · exact .refl _
    · exact ((ih others).cons other).trans (.swap entry other rest)

theorem mem_putByResource_iff
    (only : ∀ e ∈ entries, (resource e).key = (resource entry).key → e = entry) {other : α} :
    other ∈ putByResource resource entry entries ↔ other = entry ∨ other ∈ entries := by
  induction entries with
  | nil => simp [putByResource]
  | cons head rest ih =>
    obtain ⟨first, others⟩ := List.forall_mem_cons.mp only
    rw [putByResource]
    split
    · next same =>
      rw [first same.symm, List.mem_cons, or_self_left]
    · split
      · exact List.mem_cons
      · rw [List.mem_cons, ih others, List.mem_cons, or_left_comm]

end Entries

def Resource.KeysApart (rs : List Resource) : Prop :=
  ∀ r ∈ rs, ∀ other ∈ rs, r.key = other.key → r = other

namespace Directory

variable {d : Directory} {rs : List Resource}

theorem sender?_registerSender (d : Directory) (r : Resource) (s : Sender) (kind : EntityKind)
    (id : String) :
    (d.registerSender r s).sender? kind id =
      if r.key = (kind, id) then some ⟨r, s⟩ else d.sender? kind id :=
  find?_putByResource RegisteredSender.resource ⟨r, s⟩ d.senders (kind, id)

theorem mem_of_sender? {d : Directory} {kind : EntityKind} {id : String} {s : RegisteredSender}
    (h : d.sender? kind id = some s) : s ∈ d.senders ∧ s.resource.key = (kind, id) := by
  rw [sender?] at h
  exact ⟨List.mem_of_find?_eq_some h, by simpa using List.find?_some h⟩

theorem senders_registerReceiver (d : Directory) (rs : List Resource) :
    (rs.foldl registerReceiver d).senders = d.senders := by
  induction rs generalizing d with
  | nil => rfl
  | cons r rs ih => exact ih _

theorem ordered_receivers (h : Ordered id d.receivers) (rs : List Resource) :
    Ordered id (rs.foldl registerReceiver d).receivers := by
  induction rs generalizing d with
  | nil => exact h
  | cons r rs ih => exact ih (h.putByResource r)

theorem mem_receivers (apart : Resource.KeysApart rs) (none_before : d.receivers = [])
    {r : Resource} : r ∈ (rs.foldl registerReceiver d).receivers ↔ r ∈ rs := by
  induction rs using List.reverseRecOn generalizing r with
  | nil => simp [none_before]
  | append_singleton rs last ih =>
    have others {r : Resource} := ih (fun r hr other hother =>
      apart r (List.mem_append_left _ hr) other (List.mem_append_left _ hother)) (r := r)
    rw [List.foldl_concat, registerReceiver, mem_putByResource_iff (fun other hother same => ?_),
      others, List.mem_append, List.mem_singleton, or_comm]
    exact apart other (List.mem_append_left _ (others.mp hother)) last (by simp) same

theorem receivers_perm (apart : Resource.KeysApart rs) (none_before : d.receivers = []) :
    (rs.foldl registerReceiver d).receivers.Perm rs.eraseDups := by
  have ordered := ordered_receivers (none_before ▸ List.Pairwise.nil) rs
  refine (List.perm_ext_iff_of_nodup (.of_map _ ordered.keys_nodup) (nodup_eraseDups _)).mpr
    fun r => ?_
  rw [mem_receivers apart none_before, List.mem_eraseDups]

end Directory

end MessageBus
