import Mathlib.Data.List.Basic
import Mathlib.Data.List.Induction
import MessageBus.Bus.Sending

/-!
# Grouping

Adding messages to groups one by one comes to a partition: one group for each destination, in the
order in which destinations first occur, with all messages for it in the order in which they were
made. It fails at the first message whose destination has no sender.
-/

namespace MessageBus

def Outgoing.destination (o : Outgoing) : EntityKind × String := o.registration.resource.key

def Outgoing.messagesTo (destination : EntityKind × String) (outgoing : List Outgoing) :
    List Message :=
  (outgoing.filter (·.destination = destination)).map (·.message)

def Group.takes (g : Group) (o : Outgoing) : Bool := (g.kind, g.resourceId) == o.destination

def Group.push (g : Group) (m : Message) : Group := { g with messages := g.messages ++ [m] }

theorem flatMap_eraseDups_perm {α β : Type} [BEq β] [LawfulBEq β] [DecidableEq β] (f : α → β)
    (xs : List α) :
    ((xs.map f).eraseDups.flatMap fun k => xs.filter (f · = k)).Perm xs := by
  -- The elements with the first key come first, and the others are fewer.
  induction hn : xs.length using Nat.strongRecOn generalizing xs with
  | ind n ih =>
    cases xs with
    | nil => exact .nil
    | cons x rest =>
      let others := (x :: rest).filter (f · ≠ f x)
      have hothers : others = rest.filter (f · ≠ f x) := List.filter_cons_of_neg (by simp)
      have keys : ((x :: rest).map f).eraseDups = f x :: (others.map f).eraseDups := by
        rw [List.map_cons, List.eraseDups_cons, hothers, List.filter_map]
        congr 3
        exact List.filter_congr fun y _ => by by_cases h : f y = f x <;> simp [h]
      have same (k : β) (hk : k ∈ (others.map f).eraseDups) :
          (x :: rest).filter (f · = k) = others.filter (f · = k) := by
        obtain ⟨y, hy, rfl⟩ := List.mem_map.mp (List.mem_eraseDups.mp hk)
        have hne : f y ≠ f x := of_decide_eq_true (List.mem_filter.mp hy).2
        rw [List.filter_filter]
        refine List.filter_congr fun z _ => ?_
        by_cases hz : f z = f y <;> simp [hz, hne]
      have fewer : others.length < n := by
        have := List.length_filter_le (f · ≠ f x) rest
        rw [hothers, ← hn, List.length_cons]
        omega
      rw [keys, List.flatMap_cons, List.flatMap_congr same]
      refine ((ih _ fewer others rfl).append_left _).trans ?_
      have := List.filter_append_perm (f · = f x) (x :: rest)
      simpa only [others, decide_not, ne_eq] using this

namespace Bus

open Outgoing

def senderTo (bus : Bus) (destination : EntityKind × String) : Option Sender :=
  (bus.directory.sender? destination.1 destination.2).map (·.sender)

def groupFor (bus : Bus) (outgoing : List Outgoing) (destination : EntityKind × String) :
    Option Group :=
  (bus.senderTo destination).map fun sender =>
    ⟨destination.1, destination.2, sender, messagesTo destination outgoing⟩

def partition (bus : Bus) (outgoing : List Outgoing) : List Group :=
  (outgoing.map destination).eraseDups.filterMap (bus.groupFor outgoing)

/-- The messages by destination, or the first destination without a sender. -/
def grouped (bus : Bus) (outgoing : List Outgoing) : Except DispatchError (List Group) :=
  match (outgoing.map destination).find? fun key => (bus.senderTo key).isNone with
  | some key => .error (.senderNotFound key.1 key.2)
  | none => .ok (bus.partition outgoing)

variable {bus : Bus}

theorem addToGroup_eq (groups : List Group) (o : Outgoing) :
    bus.addToGroup groups o =
      if groups.any (·.takes o) then
        .ok (groups.map fun g => if g.takes o then g.push o.message else g)
      else
        match bus.senderTo o.destination with
        | some sender => .ok (groups ++ [⟨o.destination.1, o.destination.2, sender, [o.message]⟩])
        | none => .error (.senderNotFound o.destination.1 o.destination.2) := by
  have htakes (g : Group) : g.takes o = (g.kind == o.registration.resource.kind &&
      g.resourceId == o.registration.resource.id) := rfl
  simp only [addToGroup, htakes, Group.push]
  split
  · rfl
  · simp only [resolveSender, senderTo, destination, Resource.key]
    cases bus.directory.sender? o.registration.resource.kind o.registration.resource.id <;> rfl

theorem messagesTo_concat (destination : EntityKind × String) (outgoing : List Outgoing)
    (o : Outgoing) :
    messagesTo destination (outgoing ++ [o]) =
      messagesTo destination outgoing ++
        if o.destination = destination then [o.message] else [] := by
  simp only [messagesTo, List.filter_append, List.map_append, List.filter_cons, List.filter_nil,
    decide_eq_true_eq]
  split <;> rfl

theorem groupFor_concat (outgoing : List Outgoing) (o : Outgoing)
    (destination : EntityKind × String) :
    bus.groupFor (outgoing ++ [o]) destination =
      (bus.groupFor outgoing destination).map fun g =>
        if g.takes o then g.push o.message else g := by
  obtain ⟨kind, id⟩ := destination
  cases h : bus.senderTo (kind, id) with
  | none => simp [groupFor, h]
  | some sender =>
    simp only [groupFor, h, Option.map_some, messagesTo_concat, Group.takes, Group.push, beq_iff_eq,
      eq_comm (a := (kind, id)), Option.some.injEq]
    split <;> simp

theorem takes_of_groupFor {outgoing : List Outgoing} {destination : EntityKind × String} {g : Group}
    (h : bus.groupFor outgoing destination = some g) (o : Outgoing) :
    g.takes o = true ↔ destination = o.destination := by
  obtain ⟨sender, -, rfl⟩ := Option.map_eq_some_iff.mp h
  exact beq_iff_eq

theorem any_takes_iff {outgoing : List Outgoing}
    (served : ∀ key ∈ outgoing.map destination, (bus.senderTo key).isSome) (o : Outgoing) :
    (bus.partition outgoing).any (·.takes o) ↔ o.destination ∈ outgoing.map destination := by
  simp only [partition, List.any_eq_true, List.mem_filterMap, List.mem_eraseDups]
  constructor
  · rintro ⟨g, ⟨key, hkey, hg⟩, htakes⟩
    rw [← (takes_of_groupFor hg o).mp htakes]
    exact hkey
  · intro hkey
    obtain ⟨sender, hsender⟩ := Option.isSome_iff_exists.mp (served _ hkey)
    have hg : bus.groupFor outgoing o.destination =
        some ⟨o.destination.1, o.destination.2, sender, messagesTo o.destination outgoing⟩ := by
      rw [groupFor, hsender, Option.map_some]
    exact ⟨_, ⟨_, hkey, hg⟩, (takes_of_groupFor hg o).mpr rfl⟩

theorem partition_concat {outgoing : List Outgoing} {o : Outgoing} {sender : Sender}
    (hsender : bus.senderTo o.destination = some sender) :
    bus.partition (outgoing ++ [o]) =
      if o.destination ∈ outgoing.map destination then
        (bus.partition outgoing).map fun g => if g.takes o then g.push o.message else g
      else
        bus.partition outgoing ++ [⟨o.destination.1, o.destination.2, sender, [o.message]⟩] := by
  have keys : ((outgoing ++ [o]).map destination).eraseDups =
      (outgoing.map destination).eraseDups ++
        if o.destination ∈ outgoing.map destination then [] else [o.destination] := by
    rw [List.map_append, List.eraseDups_append]
    by_cases h : o.destination ∈ outgoing.map destination <;>
      simp only [List.removeAll, List.map_cons, List.map_nil, List.filter_cons, List.filter_nil,
        List.elem_eq_mem, h, decide_true, decide_false, Bool.not_true, Bool.not_false, if_true,
        if_false, Bool.false_eq_true] <;> rfl
  rw [partition, keys, List.filterMap_append]
  by_cases h : o.destination ∈ outgoing.map destination
  · rw [if_pos h, if_pos h, List.filterMap_nil, List.append_nil, partition, List.map_filterMap]
    exact List.filterMap_congr fun key _ => groupFor_concat outgoing o key
  · have new_group : bus.groupFor (outgoing ++ [o]) o.destination =
        some ⟨o.destination.1, o.destination.2, sender, [o.message]⟩ := by
      have none_before : messagesTo o.destination outgoing = [] := by
        rw [messagesTo, List.map_eq_nil_iff, List.filter_eq_nil_iff]
        intro other hother heq
        exact h (List.mem_map.mpr ⟨other, hother, of_decide_eq_true heq⟩)
      rw [groupFor, hsender, Option.map_some, messagesTo_concat, none_before, if_pos rfl,
        List.nil_append]
    have others (key : EntityKind × String) (hkey : key ∈ (outgoing.map destination).eraseDups) :
        bus.groupFor (outgoing ++ [o]) key = bus.groupFor outgoing key := by
      have hne : o.destination ≠ key := by
        rintro rfl
        exact h (List.mem_eraseDups.mp hkey)
      simp only [groupFor, messagesTo_concat, hne, if_false, List.append_nil]
    rw [if_neg h, if_neg h, List.filterMap_congr others, List.filterMap_cons, new_group]
    rfl

theorem foldlM_addToGroup (outgoing : List Outgoing) :
    outgoing.foldlM bus.addToGroup [] = bus.grouped outgoing := by
  -- Groups grow at the end, and by then all destinations so far have turned out to have senders.
  induction outgoing using List.reverseRecOn with
  | nil => rfl
  | append_singleton outgoing o ih =>
    rw [List.foldlM_append, ih]
    simp only [grouped, List.map_append, List.find?_append, List.map_cons, List.map_nil]
    cases hfind : (outgoing.map destination).find? fun key => (bus.senderTo key).isNone with
    | some key => rfl
    | none =>
      have served (key : EntityKind × String) (hkey : key ∈ outgoing.map destination) :
          (bus.senderTo key).isSome := by
        have := List.find?_eq_none.mp hfind key hkey
        simpa [Option.isSome_iff_ne_none] using this
      change bus.addToGroup (bus.partition outgoing) o >>= pure = _
      rw [bind_pure, addToGroup_eq]
      cases hsender : bus.senderTo o.destination with
      | some sender =>
        have : [o.destination].find? (fun key => (bus.senderTo key).isNone) = none := by
          simp [hsender]
        rw [partition_concat hsender, this]
        by_cases h : o.destination ∈ outgoing.map destination
        · rw [if_pos ((any_takes_iff served o).mpr h), if_pos h]
          rfl
        · rw [if_neg (mt (any_takes_iff served o).mp h), if_neg h]
          rfl
      | none =>
        have missing : o.destination ∉ outgoing.map destination := fun h => by
          have := served _ h
          rw [hsender] at this
          cases this
        have : [o.destination].find? (fun key => (bus.senderTo key).isNone) =
            some o.destination := by
          simp [hsender]
        rw [if_neg (mt (any_takes_iff served o).mp missing), this]
        rfl

theorem messages_of_mem_partition {outgoing : List Outgoing} {g : Group}
    (h : g ∈ bus.partition outgoing) : g.messages ≠ [] := by
  obtain ⟨key, hkey, hg⟩ := List.mem_filterMap.mp h
  obtain ⟨sender, -, rfl⟩ := Option.map_eq_some_iff.mp hg
  obtain ⟨o, ho, rfl⟩ := List.mem_map.mp (List.mem_eraseDups.mp hkey)
  intro none_to
  rw [messagesTo, List.map_eq_nil_iff, List.filter_eq_nil_iff] at none_to
  exact none_to o ho (decide_eq_true rfl)

theorem sender_of_mem_partition {outgoing : List Outgoing} {g : Group}
    (h : g ∈ bus.partition outgoing) : bus.senderTo (g.kind, g.resourceId) = some g.sender := by
  obtain ⟨key, -, hg⟩ := List.mem_filterMap.mp h
  obtain ⟨sender, hsender, rfl⟩ := Option.map_eq_some_iff.mp hg
  exact hsender

theorem messagesTo_of_mem_partition {outgoing : List Outgoing} {g : Group}
    (h : g ∈ bus.partition outgoing) : g.messages = messagesTo (g.kind, g.resourceId) outgoing := by
  obtain ⟨key, -, hg⟩ := List.mem_filterMap.mp h
  obtain ⟨sender, -, rfl⟩ := Option.map_eq_some_iff.mp hg
  rfl

theorem registration_of_mem_partition {bus : Bus} {outgoing : List Outgoing} {g : Group}
    (hg : g ∈ bus.partition outgoing) :
    ∃ o ∈ outgoing, o.destination = (g.kind, g.resourceId) := by
  have content := messagesTo_of_mem_partition hg
  obtain ⟨m, hm⟩ := List.exists_mem_of_ne_nil _ (messages_of_mem_partition hg)
  rw [content] at hm
  obtain ⟨o, ho, -⟩ := List.mem_map.mp hm
  exact ⟨o, (List.mem_filter.mp ho).1, of_decide_eq_true (List.mem_filter.mp ho).2⟩

theorem keys_partition {outgoing : List Outgoing} {groups : List Group}
    (h : bus.grouped outgoing = .ok groups) :
    (bus.partition outgoing).map (fun g => (g.kind, g.resourceId)) =
      (outgoing.map destination).eraseDups := by
  have served (key : EntityKind × String) (hkey : key ∈ (outgoing.map destination).eraseDups) :
      (bus.groupFor outgoing key).map (fun g => (g.kind, g.resourceId)) = some key := by
    rw [grouped] at h
    split at h
    · cases h
    · have := List.find?_eq_none.mp ‹_› key (List.mem_eraseDups.mp hkey)
      obtain ⟨sender, hsender⟩ := Option.ne_none_iff_exists'.mp (by simpa using this)
      rw [groupFor, hsender]
      rfl
  rw [partition, List.map_filterMap, List.filterMap_congr served, List.filterMap_some]

theorem grouped_ok {outgoing : List Outgoing} {groups : List Group}
    (h : bus.grouped outgoing = .ok groups) : groups = bus.partition outgoing := by
  rw [grouped] at h
  split at h <;> cases h
  rfl

end Bus

end MessageBus
