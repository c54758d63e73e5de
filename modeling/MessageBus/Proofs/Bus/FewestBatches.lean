import Mathlib.Algebra.Order.BigOperators.Group.List
import Mathlib.Algebra.Order.Group.Nat
import Mathlib.Algebra.Ring.Nat
import MessageBus.Proofs.Bus.Packing

/-!
# As few batches as possible

A batch is filled as far as it goes before the next one is begun. No other way of cutting the
messages of one sender into consecutive pieces that fit gives fewer of them: to go on from a batch
that is filled less takes no more batches, and to go on from any other one at most one more.
-/

namespace MessageBus

def totalSize (ms : List Message) : Nat := (ms.map Message.size).sum

theorem foldl_size (ms : List Message) (n : Nat) :
    ms.foldl (fun n m => n + m.size) n = n + totalSize ms := by
  induction ms generalizing n with
  | nil => rfl
  | cons m rest ih =>
    rw [List.foldl_cons, ih, totalSize, totalSize, List.map_cons, List.sum_cons, Nat.add_assoc]

theorem totalSize_cons (m : Message) (ms : List Message) :
    totalSize (m :: ms) = m.size + totalSize ms := rfl

theorem size_le_totalSize {ms : List Message} {m : Message} (h : m ∈ ms) :
    m.size ≤ totalSize ms :=
  List.le_sum_of_mem (List.mem_map_of_mem h)

namespace Batch

variable {limit : Nat} {current : Batch} {ms : List Message}

theorem Within.size_eq (h : current.Within limit) : current.size = totalSize current.messages := by
  rw [h.size, foldl_size, Nat.zero_add]

theorem pack_nonempty (h : current.Within limit) (fit : ∀ m ∈ ms, m.size ≤ limit) :
    ∀ b ∈ pack limit current ms, b.messages ≠ [] := by
  induction ms generalizing current with
  | nil =>
    intro b hb
    rw [pack] at hb
    split at hb
    · cases hb
    · next some_message =>
      rw [List.mem_singleton.mp hb]
      exact fun none_left => some_message (List.isEmpty_iff.mpr none_left)
  | cons m rest ih =>
    obtain ⟨small, fit⟩ := List.forall_mem_cons.mp fit
    rw [pack_cons h]
    by_cases room : current.size + m.size ≤ limit
    · rw [if_pos room]
      exact ih (h.add room) fit
    · rw [if_neg room]
      refine List.forall_mem_cons.mpr ⟨fun none_left => ?_, ih (begun_within small) fit⟩
      have := h.size_of_isEmpty (List.isEmpty_iff.mpr none_left)
      omega

theorem length_pack_nil (limit : Nat) (current : Batch) :
    (pack limit current []).length = if current.isEmpty then 0 else 1 := by
  rw [pack]
  split <;> rfl

/-- Going on from one batch or from another, the numbers of batches differ by one at most, and a
batch that is filled less needs no more. -/
theorem length_pack_le {other : Batch} (h : current.Within limit) (hother : other.Within limit)
    (fit : ∀ m ∈ ms, m.size ≤ limit) :
    (pack limit current ms).length ≤ (pack limit other ms).length + 1 ∧
      (current.size ≤ other.size → (other.isEmpty → current.isEmpty) →
        (pack limit current ms).length ≤ (pack limit other ms).length) := by
  -- The two halves need one another: where only one of the batches is full, the other half speaks
  -- of the batch that has just been begun.
  induction ms generalizing current other with
  | nil =>
    rw [length_pack_nil, length_pack_nil]
    by_cases empty : current.isEmpty
    · simp [empty]
    · by_cases other_empty : other.isEmpty <;> simp [empty, other_empty]
  | cons m rest ih =>
    obtain ⟨small, fit⟩ := List.forall_mem_cons.mp fit
    have begun := begun_within small
    have added (b : Batch) : (b.add m).size = b.size + m.size := rfl
    have least (b : Batch) : ((sized limit).add m).size ≤ (b.add m).size := by
      rw [added, added]
      exact Nat.add_le_add_right (Nat.zero_le _) _
    have filled (b : Batch) : ¬ (b.add m).isEmpty := by simp [Batch.add, isEmpty]
    rw [pack_cons h, pack_cons hother]
    by_cases room : current.size + m.size ≤ limit <;>
      by_cases other_room : other.size + m.size ≤ limit
    · rw [if_pos room, if_pos other_room]
      obtain ⟨one_more, no_more⟩ := ih (h.add room) (hother.add other_room) fit
      refine ⟨one_more, fun less _ => no_more ?_ fun empty => absurd empty (filled other)⟩
      rw [added, added]
      omega
    · rw [if_pos room, if_neg other_room, List.length_cons]
      obtain ⟨one_more, -⟩ := ih (h.add room) begun fit
      exact ⟨Nat.le_succ_of_le one_more, fun _ _ => one_more⟩
    · rw [if_neg room, if_pos other_room, List.length_cons]
      obtain ⟨-, no_more⟩ := ih begun (hother.add other_room) fit
      refine ⟨Nat.succ_le_succ (no_more (least other) fun empty => absurd empty (filled other)),
        fun less _ => ?_⟩
      omega
    · rw [if_neg room, if_neg other_room, List.length_cons, List.length_cons]
      exact ⟨Nat.le_succ _, fun _ _ => Nat.le_refl _⟩

theorem pack_append (h : current.Within limit) (piece rest : List Message)
    (room : current.size + totalSize piece ≤ limit) :
    ∃ filled : Batch, filled.Within limit ∧
      pack limit current (piece ++ rest) = pack limit filled rest := by
  induction piece generalizing current with
  | nil => exact ⟨current, h, rfl⟩
  | cons m piece ih =>
    rw [totalSize_cons, ← Nat.add_assoc] at room
    have first : current.size + m.size ≤ limit := by omega
    obtain ⟨filled, hfilled, same⟩ := ih (h.add first) room
    refine ⟨filled, hfilled, ?_⟩
    rw [List.cons_append, pack_cons h, if_pos first, same]

theorem length_pack_le_pieces {pieces : List (List Message)}
    (small : ∀ piece ∈ pieces, totalSize piece ≤ limit) :
    (pack limit (sized limit) pieces.flatten).length ≤ pieces.length := by
  induction pieces with
  | nil => exact Nat.le_refl _
  | cons piece others ih =>
    obtain ⟨first, small⟩ := List.forall_mem_cons.mp small
    have fit : ∀ m ∈ others.flatten, m.size ≤ limit := fun m hm => by
      obtain ⟨other, hother, hm⟩ := List.mem_flatten.mp hm
      exact Nat.le_trans (size_le_totalSize hm) (small other hother)
    obtain ⟨filled, hfilled, same⟩ := pack_append (within_sized limit) piece others.flatten
      (by simpa [sized] using first)
    calc (pack limit (sized limit) (piece :: others).flatten).length
      _ = (pack limit filled others.flatten).length := by rw [List.flatten_cons, same]
      _ ≤ (pack limit (sized limit) others.flatten).length + 1 :=
        (length_pack_le hfilled (within_sized limit) fit).1
      _ ≤ (piece :: others).length := Nat.succ_le_succ (ih small)

end Batch

/-- The batches hold the messages in order, none is empty or too large, and there are no more of
them than it takes. -/
structure Packs (limit : Nat) (ms : List Message) (batches : List Batch) : Prop where
  all : batches.flatMap (·.messages) = ms
  some_message : ∀ b ∈ batches, b.messages ≠ []
  size : ∀ b ∈ batches, b.size = totalSize b.messages
  le : ∀ b ∈ batches, b.size ≤ limit
  fewest : ∀ pieces : List (List Message), pieces.flatten = ms →
    (∀ piece ∈ pieces, totalSize piece ≤ limit) → batches.length ≤ pieces.length

theorem packs_pack {limit : Nat} {ms : List Message} (fit : ∀ m ∈ ms, m.size ≤ limit) :
    Packs limit ms (Batch.pack limit (.sized limit) ms) where
  all := Batch.pack_messages limit (.sized limit) ms
  some_message := Batch.pack_nonempty (Batch.within_sized limit) fit
  size := fun b hb => (Batch.pack_within (Batch.within_sized limit) fit b hb).size_eq
  le := fun b hb => (Batch.pack_within (Batch.within_sized limit) fit b hb).le
  fewest := fun _ cut small => cut ▸ Batch.length_pack_le_pieces small

namespace World

/-- The messages of an open sender are packed into as few batches as possible exactly if none of
them is larger than a batch. Otherwise the first one that is too large is reported. -/
theorem createBatches_packs {s : Sender} {w : World Broker} (opened : s.id ∉ w.transport.closed)
    (requested : Option UInt64) (resourceId : String) (ms : List Message) :
    let limit := w.transport.batchLimit requested
    let result := createBatches Broker.transport requested s resourceId ms w
    ((∃ batches, result.1 = .ok batches) ↔ ∀ m ∈ ms, m.size ≤ limit) ∧
    (∀ batches, result.1 = .ok batches → Packs limit ms batches) ∧
    (∀ before m after, ms = before ++ m :: after → (∀ x ∈ before, x.size ≤ limit) →
      limit < m.size → result.1 = .error (.messageTooLarge m.id resourceId m.size limit)) ∧
    result.2.transport = w.transport := by
  intro limit result
  cases large : ms.find? (limit < ·.size) with
  | none =>
    have fit : ∀ m ∈ ms, m.size ≤ limit := fun m hm => by
      simpa using List.find?_eq_none.mp large m hm
    obtain ⟨trace, answer⟩ := createBatches_small opened (rfl : _ = limit) resourceId large
    have hresult : result = _ := answer
    rw [hresult]
    refine ⟨iff_of_true ⟨_, rfl⟩ fit, fun batches h => ?_, fun before m after h _ hm => ?_, rfl⟩
    · cases h
      exact packs_pack fit
    · have := fit m (by simp [h])
      omega
  | some m =>
    have too_large : limit < m.size := by simpa using List.find?_some large
    obtain ⟨trace, answer⟩ := createBatches_large opened (rfl : _ = limit) resourceId large
    have hresult : result = _ := answer
    rw [hresult]
    refine ⟨iff_of_false (by simp) fun fit => ?_, fun batches h => (by cases h),
      fun before x after h small hx => ?_, rfl⟩
    · have := fit m (List.mem_of_find?_eq_some large)
      omega
    · have first : ms.find? (limit < ·.size) = some x := by
        rw [h, List.find?_append, List.find?_eq_none.mpr (by simpa using small)]
        simp [hx]
      obtain rfl := Option.some.inj (large.symm.trans first)
      rfl

/-- Two batches of at most four octets are enough for three letters, and a letter of five octets is
reported before one of six. -/
theorem createBatches_packs_of_letters :
    let letter (n : Nat) : Message := { body := List.replicate n 0 }
    let w : World Broker := { transport := { maxBatchSize := 10 } }
    let s : Sender := ⟨0, .queue, "letters"⟩
    let create (ms : List Message) := (createBatches Broker.transport (some 4) s "letters" ms w).1
    let few := [letter 3, letter 2, letter 2]
    s.id ∉ w.transport.closed ∧ w.transport.batchLimit (some 4) = 4 ∧
      (∃ batches, create few = .ok batches ∧ batches.length = 2 ∧ Packs 4 few batches) ∧
      create [letter 2, letter 5, letter 6] = .error (.messageTooLarge "" "letters" 5 4) := by
  intro letter w s create few
  have opened : s.id ∉ w.transport.closed := List.not_mem_nil
  have limit : w.transport.batchLimit (some 4) = 4 := by decide
  have letter_size (n : Nat) : (letter n).size = n := by simp [letter, Message.size]
  refine ⟨opened, limit, ?_, ?_⟩
  · obtain ⟨enough, packs, -⟩ := createBatches_packs opened (some 4) "letters" few
    rw [limit] at enough packs
    obtain ⟨batches, made⟩ := enough.mpr (by simp [few, letter_size])
    have counted : (create few).toOption.map List.length = some 2 := by decide
    rw [show create few = .ok batches from made] at counted
    exact ⟨batches, made, Option.some.inj counted, packs batches made⟩
  · obtain ⟨-, -, first, -⟩ :=
      createBatches_packs opened (some 4) "letters" [letter 2, letter 5, letter 6]
    rw [limit] at first
    have reported := first [letter 2] (letter 5) [letter 6] rfl (by simp [letter_size])
      (by simp [letter_size])
    rwa [letter_size] at reported

end World

end MessageBus
