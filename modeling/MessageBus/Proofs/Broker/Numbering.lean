import Mathlib.Data.List.Perm.Subperm
import MessageBus.Proofs.Broker.Run
import MessageBus.Proofs.Keyed

/-!
# Sequence numbers and lock tokens

The counters of the broker only go up, so whatever they hand out is new. In every account of a run
the sequence numbers of deliveries and schedules differ from one another, and so do the tokens of
the messages that are pending or locked.
-/

namespace MessageBus.Broker

theorem mem_scheduleEntries {entity : String} {due first : Int} {ms : List Message} {s : Scheduled}
    (h : s ∈ scheduleEntries entity due first ms) :
    first ≤ s.sequenceNumber ∧ s.sequenceNumber < first + ms.length := by
  induction ms generalizing first with
  | nil => simp [scheduleEntries] at h
  | cons m ms ih =>
    simp only [scheduleEntries, List.mem_cons] at h
    simp only [List.length_cons, Int.natCast_add, Int.natCast_one]
    rcases h with rfl | h
    · simp only
      omega
    · have := ih h
      omega

theorem scheduleEntries_pairwise (entity : String) (due first : Int) (ms : List Message) :
    (scheduleEntries entity due first ms).Pairwise (·.sequenceNumber < ·.sequenceNumber) := by
  induction ms generalizing first with
  | nil => exact .nil
  | cons m ms ih =>
    refine .cons (fun s hs => ?_) (ih _)
    have := (mem_scheduleEntries hs).1
    simp only
    omega

namespace Contents

def live (c : Contents) : List (String × Received) := c.inFlight ++ c.pending

/-- Every live message has a token of its own, and one that was issued before. -/
structure TokensDistinct (c : Contents) : Prop where
  distinct : (c.live.map (·.2.lockToken)).Nodup
  issued : ∀ e ∈ c.live, ∃ k < c.locks, e.2.lockToken = .issued k

theorem TokensDistinct.not_issued {c : Contents} (h : c.TokensDistinct) {k : Nat} (hk : c.locks ≤ k)
    {e : String × Received} (he : e ∈ c.live) : e.2.lockToken ≠ .issued k := by
  obtain ⟨j, hj, ht⟩ := h.issued e he
  rw [ht]
  intro hjk
  cases hjk
  omega

theorem TokensDistinct.of_subperm {c d : Contents} (h : c.TokensDistinct)
    (hp : d.live.Subperm c.live) (hl : c.locks ≤ d.locks) : d.TokensDistinct where
  distinct := by
    obtain ⟨l, hperm, hsub⟩ := hp
    exact (hperm.map _).nodup_iff.mp (h.distinct.sublist (hsub.map _))
  issued := fun e he => by
    obtain ⟨k, hk, ht⟩ := h.issued e (hp.subset he)
    exact ⟨k, by omega, ht⟩

theorem TokensDistinct.deliver {c : Contents} (h : c.TokensDistinct)
    (places : List (String × Message)) : (c.apply (.deliver places)).TokensDistinct := by
  have hlive : (c.apply (.deliver places)).live =
      c.live ++ stamped c.sequence c.locks places := by
    simp only [live, apply, List.append_assoc]
  constructor
  · rw [hlive, List.map_append, List.nodup_append]
    refine ⟨h.distinct, ?_, ?_⟩
    · rw [List.nodup_iff_pairwise_ne, List.pairwise_map]
      exact (stamped_pairwise _ _ _).imp And.right
    · intro t ht u hu
      obtain ⟨e, he, rfl⟩ := List.mem_map.mp ht
      obtain ⟨e', he', rfl⟩ := List.mem_map.mp hu
      obtain ⟨-, -, -, k, hk, -, ht'⟩ := mem_stamped he'
      rw [ht']
      exact h.not_issued hk he
  · intro e he
    rw [hlive, List.mem_append] at he
    rcases he with he | he
    · obtain ⟨k, hk, ht⟩ := h.issued e he
      exact ⟨k, by simp only [apply]; omega, ht⟩
    · obtain ⟨-, -, -, k, -, hk, ht⟩ := mem_stamped he
      exact ⟨k, by simpa only [apply] using hk, ht⟩

theorem unlock_sublist (c : Contents) (token : LockToken) :
    (c.unlock token).inFlight.Sublist c.inFlight := List.filter_sublist

theorem TokensDistinct.unlock {c : Contents} (h : c.TokensDistinct) (token : LockToken) :
    (c.unlock token).TokensDistinct :=
  h.of_subperm ((c.unlock_sublist token).append_right c.pending).subperm (Nat.le_refl _)

theorem TokensDistinct.abandon {c : Contents} (h : c.TokensDistinct) (path : String)
    (entry : String × Received) : (c.apply (.abandon path entry)).TokensDistinct := by
  have hu := h.unlock entry.2.lockToken
  have hp : (c.apply (.abandon path entry)).live.Perm
      ((path, redelivered c.locks entry.2) :: (c.unlock entry.2.lockToken).live) :=
    List.perm_middle
  constructor
  · rw [(hp.map _).nodup_iff, List.map_cons, List.nodup_cons]
    refine ⟨fun hm => ?_, hu.distinct⟩
    obtain ⟨e, he, ht⟩ := List.mem_map.mp hm
    exact hu.not_issued (Nat.le_refl c.locks) he ht
  · intro e he
    rcases List.mem_cons.mp (hp.subset he) with rfl | he
    · exact ⟨c.locks, by simp only [apply]; omega, rfl⟩
    · obtain ⟨k, hk, ht⟩ := hu.issued e he
      exact ⟨k, by simp only [apply]; exact Nat.lt_succ_of_lt hk, ht⟩

theorem TokensDistinct.apply {c : Contents} (h : c.TokensDistinct) (e : Effect) :
    (c.apply e).TokensDistinct := by
  cases e with
  | deliver places => exact h.deliver places
  | schedule entity due ms => exact h.of_subperm (.refl _) (Nat.le_refl _)
  | withdraw keep => exact h.of_subperm (.refl _) (Nat.le_refl _)
  | lock path most =>
    refine h.of_subperm (List.Perm.subperm ?_) (Nat.le_refl _)
    simp only [live, Contents.apply, List.append_assoc]
    exact (takeFor_perm path most c.pending).append_left _
  | complete entry => exact h.unlock _
  | abandon path entry => exact h.abandon path entry
  | deadLetter path entry => exact (h.unlock _).of_subperm (.refl _) (Nat.le_refl _)
  | clear => exact h.of_subperm (List.nil_subperm) (Nat.le_refl _)

theorem TokensDistinct.inFlight {c : Contents} (h : c.TokensDistinct) :
    (c.inFlight.map (·.2.lockToken)).Nodup := by
  have := h.distinct
  rw [live, List.map_append] at this
  exact (List.nodup_append.mp this).1

theorem TokensDistinct.unlock_perm {c : Contents} (h : c.TokensDistinct)
    {entry : String × Received}
    (locked : c.inFlight.find? (·.2.lockToken == entry.2.lockToken) = some entry) :
    c.inFlight.Perm (entry :: (c.unlock entry.2.lockToken).inFlight) :=
  perm_cons_filter_key h.inFlight (List.mem_of_find?_eq_some locked)

end Contents

def History.numbers (h : History) : List Int :=
  h.reserved ++ h.delivered.map (·.2.sequenceNumber)

namespace Account

/-- No sequence number has been handed out twice, nor the next one at all. -/
structure NumbersDistinct (a : Account) : Prop where
  distinct : a.history.numbers.Nodup
  below : ∀ n ∈ a.history.numbers, n < a.contents.sequence

theorem NumbersDistinct.extend {a b : Account} (h : a.NumbersDistinct) (new : List Int)
    (hp : b.history.numbers.Perm (a.history.numbers ++ new)) (increasing : new.Pairwise (· < ·))
    (range : ∀ n ∈ new, a.contents.sequence ≤ n ∧ n < b.contents.sequence)
    (hs : a.contents.sequence ≤ b.contents.sequence) : b.NumbersDistinct where
  distinct := by
    rw [hp.nodup_iff, List.nodup_append]
    refine ⟨h.distinct, increasing.imp Int.ne_of_lt, fun m hm n hn hmn => ?_⟩
    have := h.below m hm
    have := (range n hn).1
    omega
  below := fun n hn => by
    rcases List.mem_append.mp (hp.subset hn) with hn | hn
    · have := h.below n hn
      omega
    · exact (range n hn).2

theorem NumbersDistinct.apply {a : Account} (h : a.NumbersDistinct) (e : Effect) :
    (a.apply e).NumbersDistinct := by
  cases e with
  | deliver places =>
    refine h.extend ((stamped a.contents.sequence a.contents.locks places).map
      (·.2.sequenceNumber)) ?_ ?_ ?_ ?_
    · simp only [History.numbers, Account.apply, List.map_append, List.append_assoc]
      exact .refl _
    · exact List.pairwise_map.mpr ((stamped_pairwise _ _ _).imp And.left)
    · intro n hn
      obtain ⟨e, he, rfl⟩ := List.mem_map.mp hn
      exact ⟨(mem_stamped he).1, (mem_stamped he).2.1⟩
    · simp only [Account.apply, Contents.apply]
      omega
  | schedule entity due ms =>
    refine h.extend ((scheduleEntries entity due a.contents.sequence ms).map
      (·.sequenceNumber)) ?_ ?_ ?_ ?_
    · simp only [History.numbers, Account.apply, List.append_assoc]
      exact List.perm_append_comm.append_left _
    · exact List.pairwise_map.mpr (scheduleEntries_pairwise _ _ _ _)
    · intro n hn
      obtain ⟨s, hs, rfl⟩ := List.mem_map.mp hn
      exact mem_scheduleEntries hs
    · simp only [Account.apply, Contents.apply]
      omega
  | _ => exact ⟨h.distinct, h.below⟩

end Account

end MessageBus.Broker
