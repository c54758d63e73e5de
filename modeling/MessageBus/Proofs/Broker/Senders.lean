import MessageBus.Proofs.Broker.Run

/-!
# Senders of the broker

Senders are numbered as they are made, and closed senders are remembered by their numbers. As long
as nobody closes a sender that was not made yet, the next sender is an open one.
-/

namespace MessageBus.Broker

/-- Every sender that is closed in the run was made before. -/
def ClosesMade (maxBatchSize : Nat) (requests : List Request) : Prop :=
  ∀ earlier s, earlier ++ [.close s] <+: requests →
    s.id < ((start maxBatchSize).run earlier).senders

theorem senders_of_setup (b : Broker) (q : Request) :
    b.senders ≤ (b.perform q).senders ∧
      ((b.perform q).closed = b.closed ∨
        ∃ s, q = .close s ∧ (b.perform q).closed = s.id :: b.closed) := by
  have senders : (b.perform q).senders = (b.setup.perform q).senders :=
    congrArg Setup.senders (setup_perform b q)
  have closed : (b.perform q).closed = (b.setup.perform q).closed :=
    congrArg Setup.closed (setup_perform b q)
  rw [senders, closed]
  cases q with
  | createSubscription topic subscription =>
    simp only [Setup.perform]
    split <;> exact ⟨Nat.le_refl _, .inl rfl⟩
  | createSender r =>
    simp only [Setup.perform]
    split
    · exact ⟨Nat.le_refl _, .inl rfl⟩
    · exact ⟨Nat.le_succ _, .inl rfl⟩
  | close s =>
    simp only [Setup.perform]
    split
    · exact ⟨Nat.le_refl _, .inl rfl⟩
    · exact ⟨Nat.le_refl _, .inr ⟨s, rfl, rfl⟩⟩
  | _ => exact ⟨Nat.le_refl _, .inl rfl⟩

theorem closed_lt_senders {maxBatchSize : Nat} {requests : List Request}
    (made : ClosesMade maxBatchSize requests) :
    ∀ n ∈ ((start maxBatchSize).run requests).closed,
      n < ((start maxBatchSize).run requests).senders := by
  induction requests using List.reverseRecOn with
  | nil =>
    intro n hn
    cases hn
  | append_singleton requests q ih =>
    have before := ih fun earlier s h => made earlier s (h.trans (List.prefix_append _ _))
    simp only [run_append, run_cons, run_nil]
    generalize hb : (start maxBatchSize).run requests = b at before ⊢
    intro n hn
    obtain ⟨senders, same | ⟨s, rfl, closed⟩⟩ := senders_of_setup b q
    · have := before n (same ▸ hn)
      omega
    · rw [closed] at hn
      rcases List.mem_cons.mp hn with rfl | hn
      · have := made requests s (List.prefix_refl _)
        rw [hb] at this
        omega
      · have := before n hn
        omega

end MessageBus.Broker
