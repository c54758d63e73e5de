import MessageBus.Broker.Request

/-!
# Waiting for messages

A receiver that finds nothing sleeps until it is woken or its time is up. Every request that brings
messages wakes it, whatever entity they are for, so it tries again and may find nothing once more.
Requests of one instant are made together, and the receiver tries after them.
-/

namespace MessageBus.Broker

/-- What others ask of the broker and when. -/
structure Timeline where
  instants : List (Nat × List Request) := []
  increasing : instants.Pairwise (·.1 < ·.1) := by exact .nil

namespace Timeline

def insert (time : Nat) (q : Request) : List (Nat × List Request) → List (Nat × List Request)
  | [] => [(time, [q])]
  | (instant, requests) :: rest =>
    if time < instant then (time, [q]) :: (instant, requests) :: rest
    else if time = instant then (instant, requests ++ [q]) :: rest
    else (instant, requests) :: insert time q rest

theorem mem_insert {time : Nat} {q : Request} {instants : List (Nat × List Request)}
    {entry : Nat × List Request} (h : entry ∈ insert time q instants) :
    entry.1 = time ∨ ∃ other ∈ instants, entry.1 = other.1 := by
  induction instants with
  | nil =>
    rw [insert, List.mem_singleton] at h
    exact .inl (h ▸ rfl)
  | cons first rest ih =>
    obtain ⟨instant, requests⟩ := first
    rw [insert] at h
    split at h
    · rcases List.mem_cons.mp h with rfl | h
      · exact .inl rfl
      · exact .inr ⟨entry, h, rfl⟩
    split at h
    · rcases List.mem_cons.mp h with rfl | h
      · exact .inr ⟨(instant, requests), .head _, rfl⟩
      · exact .inr ⟨entry, .tail _ h, rfl⟩
    · rcases List.mem_cons.mp h with rfl | h
      · exact .inr ⟨(instant, requests), .head _, rfl⟩
      · exact (ih h).imp_right fun ⟨other, hother, same⟩ => ⟨other, .tail _ hother, same⟩

theorem increasing_insert (time : Nat) (q : Request) {instants : List (Nat × List Request)}
    (increasing : instants.Pairwise (·.1 < ·.1)) :
    (insert time q instants).Pairwise (·.1 < ·.1) := by
  induction instants with
  | nil => exact List.pairwise_singleton ..
  | cons first rest ih =>
    obtain ⟨instant, requests⟩ := first
    obtain ⟨least, increasing⟩ := List.pairwise_cons.mp increasing
    rw [insert]
    split
    · next before =>
      refine .cons (fun other hother => ?_) (.cons least increasing)
      rcases List.mem_cons.mp hother with rfl | hother
      · exact before
      · exact Nat.lt_trans before (least other hother)
    split
    · exact .cons least increasing
    · next not_before not_at =>
      refine .cons (fun other hother => ?_) (ih increasing)
      rcases mem_insert hother with same | ⟨known, hknown, same⟩
      · rw [same]
        exact Nat.lt_of_le_of_ne (Nat.le_of_not_lt not_before) (Ne.symm not_at)
      · rw [same]
        exact least known hknown

def add (line : Timeline) (time : Nat) (q : Request) : Timeline where
  instants := insert time q line.instants
  increasing := increasing_insert time q line.increasing

def ofList (requests : List (Nat × Request)) : Timeline :=
  requests.foldl (fun line entry => line.add entry.1 entry.2) {}

end Timeline

/-- How a wait has ended: when, with which messages, what it has left, and what was still to come
then. -/
structure Wait where
  time : Nat
  received : List Received
  broker : Broker
  later : List (Nat × List Request)

def Wait.afterwards (w : Wait) : Broker := w.broker.run (w.later.flatMap (·.2))

section Receiver

variable (path : String) (most deadline : Nat)

def lastTry (later : List (Nat × List Request)) (b : Broker) : Wait :=
  let (received, b) := b.receive path most
  ⟨deadline, received, b, later⟩

/-- The receiver sleeps while instants go by, tries when it is woken, and sleeps on if there is
nothing for it. -/
def sleep : List (Nat × List Request) → Broker → Wait
  | [], b => lastTry path most deadline [] b
  | (time, requests) :: later, b =>
    if deadline ≤ time then lastTry path most deadline ((time, requests) :: later) b
    else if b.wakesAny requests then
      match (b.run requests).receive path most with
      | ([], b) => sleep later b
      | (received, b) => ⟨time, received, b, later⟩
    else sleep later (b.run requests)

/-- Waits for the first messages until the deadline. What comes at the deadline is too late. -/
def receiveWaiting (others : Timeline) (b : Broker) : Wait :=
  match b.receive path most with
  | ([], b) =>
    if deadline = 0 then ⟨0, [], b, others.instants⟩
    else sleep path most deadline others.instants b
  | (received, b) => ⟨0, received, b, others.instants⟩

end Receiver

end MessageBus.Broker
