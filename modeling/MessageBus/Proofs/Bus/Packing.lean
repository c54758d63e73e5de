import MessageBus.Bus.Batching
import MessageBus.Proofs.Broker.Calls

/-!
# Packing

What the broker's batches hold when the messages of one sender are packed: each batch takes messages
as long as they fit and the next one goes on from there. Packing fails at the first message that is
larger than a batch, whatever is around it.
-/

namespace MessageBus

namespace Batch

def sized (limit : Nat) : Batch := { capacity := .size limit }

/-- The batch counts its messages right and is not larger than the limit. -/
structure Within (limit : Nat) (b : Batch) : Prop where
  capacity : b.capacity = .size limit
  size : b.size = b.messages.foldl (fun n m => n + m.size) 0
  le : b.size ≤ limit

def pack (limit : Nat) (current : Batch) : List Message → List Batch
  | [] => if current.isEmpty then [] else [current]
  | m :: rest =>
    match current.tryAdd m with
    | some current => pack limit current rest
    | none => current :: pack limit ((sized limit).add m) rest

variable {limit : Nat}

theorem within_sized (limit : Nat) : (sized limit).Within limit := ⟨rfl, rfl, Nat.zero_le _⟩

theorem Within.add {b : Batch} (h : b.Within limit) {m : Message} (room : b.size + m.size ≤ limit) :
    (b.add m).Within limit where
  capacity := h.capacity
  size := by simp [Batch.add, h.size]
  le := room

theorem Within.tryAdd {b : Batch} (h : b.Within limit) (m : Message) :
    b.tryAdd m = if b.size + m.size ≤ limit then some (b.add m) else none := by
  simp [Batch.tryAdd, fits, h.capacity]

theorem Within.size_of_isEmpty {b : Batch} (h : b.Within limit) (empty : b.isEmpty) :
    b.size = 0 := by
  have := List.isEmpty_iff.mp empty
  rw [h.size, this]
  rfl

theorem sized_tryAdd (limit : Nat) (m : Message) :
    (sized limit).tryAdd m = if m.size ≤ limit then some ((sized limit).add m) else none := by
  rw [(within_sized limit).tryAdd]
  simp [sized]

theorem begun_within {m : Message} (small : m.size ≤ limit) :
    ((sized limit).add m).Within limit :=
  (within_sized limit).add (by simpa [sized] using small)

theorem pack_cons {current : Batch} (h : current.Within limit) (m : Message) (rest : List Message) :
    pack limit current (m :: rest) =
      if current.size + m.size ≤ limit then pack limit (current.add m) rest
      else current :: pack limit ((sized limit).add m) rest := by
  rw [pack, h.tryAdd]
  by_cases room : current.size + m.size ≤ limit
  · simp only [room, if_true]
  · simp only [room, if_false]

theorem pack_messages (limit : Nat) (current : Batch) (ms : List Message) :
    (pack limit current ms).flatMap (·.messages) = current.messages ++ ms := by
  induction ms generalizing current with
  | nil =>
    cases h : current.messages <;> simp [pack, isEmpty, h]
  | cons m rest ih =>
    rw [pack]
    split
    · next added heq =>
      have : added = current.add m := by
        simp only [Batch.tryAdd] at heq
        split at heq <;> simp_all
      rw [ih, this]
      simp [Batch.add]
    · rw [List.flatMap_cons, ih]
      simp [Batch.add, sized]

theorem pack_within {current : Batch} (h : current.Within limit) {ms : List Message}
    (fit : ∀ m ∈ ms, m.size ≤ limit) : ∀ b ∈ pack limit current ms, b.Within limit := by
  induction ms generalizing current with
  | nil =>
    intro b hb
    rw [pack] at hb
    split at hb
    · cases hb
    · rw [List.mem_singleton.mp hb]
      exact h
  | cons m rest ih =>
    obtain ⟨small, fit⟩ := List.forall_mem_cons.mp fit
    rw [pack_cons h]
    by_cases room : current.size + m.size ≤ limit
    · rw [if_pos room]
      exact ih (h.add room) fit
    · rw [if_neg room]
      exact List.forall_mem_cons.mpr ⟨h, ih (begun_within small) fit⟩

theorem pack_ne_nil (limit : Nat) {ms : List Message} (some_message : ms ≠ []) :
    pack limit (sized limit) ms ≠ [] := by
  intro h
  have := pack_messages limit (sized limit) ms
  rw [h] at this
  exact some_message this.symm

end Batch

theorem flatten_paginate {α : Type} (size : Nat) (xs : List α) :
    (paginate size xs).flatten = xs := by
  fun_induction paginate size xs with
  | case1 => rfl
  | case2 x rest ih =>
    rw [List.flatten_cons, ih, List.cons_append, List.take_append_drop]

theorem exists_page {α : Type} (size : Nat) {xs : List α} (some_element : xs ≠ []) :
    ∃ page rest, paginate size xs = page :: rest := by
  refine List.exists_cons_of_ne_nil fun none_left => ?_
  have all_pages := flatten_paginate size xs
  rw [none_left] at all_pages
  exact some_element all_pages.symm

namespace World

open Outcome

theorem newBatch_eq (requested : Option UInt64) (s : Sender) (resourceId : String)
    (w : World Broker) :
    newBatch Broker.transport requested s resourceId w =
      if s.id ∈ w.transport.closed then
        (.error (.transport resourceId (Broker.closedProblem s)), w)
      else (.ok (.sized (w.transport.batchLimit requested)), w) := by
  simp only [newBatch, raising_apply, call_apply, Broker.transport, Broker.createBatch_eq]
  split <;> rfl

def packed (limit : Nat) (resourceId : String) (current : Batch) (ms : List Message) :
    Except DispatchError (List Batch) :=
  match ms.find? (limit < ·.size) with
  | some m => .error (.messageTooLarge m.id resourceId m.size limit)
  | none => .ok (Batch.pack limit current ms)

theorem fillBatches_full {requested : Option UInt64} {s : Sender} (resourceId : String)
    {current : Batch} {m : Message} (full : current.tryAdd m = none)
    (some_before : current.isEmpty = false) (rest : List Message) {w : World Broker}
    (opened : s.id ∉ w.transport.closed) {limit : Nat}
    (hlimit : w.transport.batchLimit requested = limit) :
    let after := w.add (.log (.batchFull resourceId current.messages.length current.size))
    fillBatches Broker.transport requested s resourceId current (m :: rest) w =
      if m.size ≤ limit then
        (List.cons current <$> fillBatches Broker.transport requested s resourceId
          ((Batch.sized limit).add m) rest) after
      else (.error (.messageTooLarge m.id resourceId m.size limit), after) := by
  intro after
  have opened' : s.id ∉ after.transport.closed := opened
  have hlimit' : after.transport.batchLimit requested = limit := hlimit
  simp only [fillBatches, full, some_before, Bool.false_eq_true, if_false, bind_apply, log_apply,
    newBatch_eq]
  rw [if_neg opened', hlimit']
  by_cases small : m.size ≤ limit
  · simp only [Batch.sized_tryAdd, small, if_true, bind_apply, map_apply, pure_apply]
    rfl
  · simp only [Batch.sized_tryAdd, small, if_false]
    rfl

theorem fillBatches_eq {requested : Option UInt64} {s : Sender} {limit : Nat} (resourceId : String)
    {current : Batch} (h : current.Within limit) (ms : List Message) (w : World Broker)
    (opened : s.id ∉ w.transport.closed) (hlimit : w.transport.batchLimit requested = limit) :
    ∃ trace, fillBatches Broker.transport requested s resourceId current ms w =
      (packed limit resourceId current ms, { w with trace := trace }) := by
  -- The current batch counts its messages right, so an empty one has room for all that a batch
  -- can hold, and any other one has room or is full.
  induction ms generalizing current w with
  | nil => exact ⟨w.trace, rfl⟩
  | cons m rest ih =>
    by_cases room : current.size + m.size ≤ limit
    · have small : ¬ limit < m.size := by omega
      obtain ⟨trace, heq⟩ := ih (h.add room) w opened hlimit
      refine ⟨trace, ?_⟩
      simp only [fillBatches, packed, Batch.pack, h.tryAdd, room, if_true, List.find?_cons, small,
        decide_false] at heq ⊢
      exact heq
    · have full : current.tryAdd m = none := by rw [h.tryAdd, if_neg room]
      by_cases empty : current.isEmpty
      · have none_before := h.size_of_isEmpty empty
        have large : limit < m.size := by omega
        refine ⟨w.trace, ?_⟩
        simp only [fillBatches, packed, full, empty, if_true, List.find?_cons, large, decide_true,
          bind_apply, throw_apply, tooLarge, h.capacity, Capacity.limit]
      · rw [fillBatches_full resourceId full (Bool.eq_false_iff.mpr empty) rest opened hlimit]
        by_cases small : m.size ≤ limit
        · have hm : ¬ limit < m.size := by omega
          obtain ⟨trace, heq⟩ := ih (Batch.begun_within small) (w.add (.log (.batchFull resourceId
            current.messages.length current.size))) opened hlimit
          refine ⟨trace, ?_⟩
          rw [if_pos small, map_apply, heq]
          simp only [packed, Batch.pack, full, List.find?_cons, hm, decide_false]
          cases rest.find? (limit < ·.size) <;> rfl
        · have hm : limit < m.size := by omega
          refine ⟨w.trace ++
            [.log (.batchFull resourceId current.messages.length current.size)], ?_⟩
          rw [if_neg small]
          simp only [packed, List.find?_cons, hm, decide_true]
          rfl

variable {requested : Option UInt64} {s : Sender} {w : World Broker}

theorem createBatches_closed (closed : s.id ∈ w.transport.closed) (resourceId : String)
    (ms : List Message) :
    createBatches Broker.transport requested s resourceId ms w =
      (.error (.transport resourceId (Broker.closedProblem s)), w) := by
  have := newBatch_eq requested s resourceId w
  rw [if_pos closed] at this
  rw [createBatches, bind_error this]

theorem createBatches_opened (opened : s.id ∉ w.transport.closed) {limit : Nat}
    (hlimit : w.transport.batchLimit requested = limit) (resourceId : String) (ms : List Message) :
    ∃ trace, createBatches Broker.transport requested s resourceId ms w =
      (packed limit resourceId (.sized limit) ms, { w with trace := trace }) := by
  have := newBatch_eq requested s resourceId w
  rw [if_neg opened, hlimit] at this
  rw [createBatches, bind_ok this]
  exact fillBatches_eq resourceId (Batch.within_sized limit) ms w opened hlimit

theorem createBatches_large (opened : s.id ∉ w.transport.closed) {limit : Nat}
    (hlimit : w.transport.batchLimit requested = limit) (resourceId : String) {ms : List Message}
    {m : Message} (large : ms.find? (limit < ·.size) = some m) :
    ∃ trace, createBatches Broker.transport requested s resourceId ms w =
      (.error (.messageTooLarge m.id resourceId m.size limit), { w with trace := trace }) := by
  have := createBatches_opened opened hlimit resourceId ms
  simpa only [packed, large] using this

theorem createBatches_small (opened : s.id ∉ w.transport.closed) {limit : Nat}
    (hlimit : w.transport.batchLimit requested = limit) (resourceId : String) {ms : List Message}
    (small : ms.find? (limit < ·.size) = none) :
    ∃ trace, createBatches Broker.transport requested s resourceId ms w =
      (.ok (Batch.pack limit (.sized limit) ms), { w with trace := trace }) := by
  have := createBatches_opened opened hlimit resourceId ms
  simpa only [packed, small] using this

end World

end MessageBus
