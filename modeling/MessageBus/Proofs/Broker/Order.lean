import MessageBus.Proofs.Broker.Conservation

/-!
# The order of pending messages

Deliveries go behind the pending messages and receivers take from the front, so the messages of an
entity wait in the order of their sequence numbers. A message that is put back goes to the front
whatever waits there: the order is kept as long as only older messages are put back.
-/

namespace MessageBus.Broker

def InOrder (b : Broker) : Prop :=
  ∀ path, (b.pendingAt path).Pairwise (·.sequenceNumber < ·.sequenceNumber)

/-- A receiver gets messages in their order, and none before one that it leaves behind. -/
def OldestFirst (b : Broker) : Prop :=
  ∀ path most, let (received, after) := b.receive path most
    received.Pairwise (·.sequenceNumber < ·.sequenceNumber) ∧
      ∀ r ∈ received, ∀ left ∈ after.pendingAt path, r.sequenceNumber < left.sequenceNumber

/-- The request puts no message in front of an older one. -/
def PutsBackOlder (b : Broker) : Request → Prop
  | .abandon path r => ∀ entry, b.settleable r = .ok entry →
      ∀ next ∈ b.pendingAt path, entry.2.sequenceNumber < next.sequenceNumber
  | _ => True

theorem receive_pendingAt (b : Broker) (path : String) (most : Nat) :
    (b.receive path most).2.pendingAt path = (b.pendingAt path).drop most := by
  change ((takeFor path most b.pending).2.filter (·.1 == path)).map (·.2) = _
  rw [takeFor_left, pendingAt, List.map_drop]

theorem receive_received (b : Broker) (path : String) (most : Nat) :
    (b.receive path most).1 = (b.pendingAt path).take most :=
  takeFor_taken path most b.pending

theorem InOrder.oldestFirst {b : Broker} (h : b.InOrder) : b.OldestFirst := by
  intro path most
  have hp := h path
  rw [← List.take_append_drop most (b.pendingAt path), List.pairwise_append] at hp
  obtain ⟨taken, -, across⟩ := hp
  rw [← receive_received] at taken across
  rw [← receive_pendingAt] at across
  exact ⟨taken, across⟩

def Contents.Ordered (c : Contents) : Prop :=
  c.pending.Pairwise fun x y => x.1 = y.1 → x.2.sequenceNumber < y.2.sequenceNumber

theorem contents_ordered_iff (b : Broker) : b.contents.Ordered ↔ b.InOrder := by
  simp only [InOrder, pendingAt, List.pairwise_map, List.pairwise_filter, beq_iff_eq]
  constructor
  · intro h path
    refine h.imp fun {x y} hxy hx hy => hxy ?_
    rw [hx, hy]
  · intro h
    rw [Contents.Ordered, List.pairwise_iff_forall_sublist]
    intro x y hxy hpath
    exact List.pairwise_iff_forall_sublist.mp (h y.1) hxy hpath rfl

def Effect.Older (c : Contents) : Effect → Prop
  | .abandon path entry =>
    ∀ next ∈ c.pending, path = next.1 → entry.2.sequenceNumber < next.2.sequenceNumber
  | _ => True

theorem forall_effects_older (b : Broker) (q : Request) :
    (∀ e ∈ b.effects q, e.Older b.contents) ↔ b.PutsBackOlder q := by
  have waiting {path : String} {entry : String × Received} :
      (Effect.abandon path entry).Older b.contents ↔
        ∀ next ∈ b.pendingAt path, entry.2.sequenceNumber < next.sequenceNumber := by
    simp only [Effect.Older, pendingAt, contents, List.mem_map, List.mem_filter, beq_iff_eq]
    constructor
    · rintro older - ⟨next, ⟨hnext, hpath⟩, rfl⟩
      exact older next hnext hpath.symm
    · exact fun older next hnext hpath => older _ ⟨next, ⟨hnext, hpath.symm⟩, rfl⟩
  constructor
  · intro h
    cases q with
    | abandon path r =>
      exact fun entry ok =>
        waiting.mp (h (.abandon path entry) (abandon_mem_effects.mpr ⟨r, rfl, ok⟩))
    | _ => trivial
  · intro h e he
    cases e with
    | abandon path entry =>
      obtain ⟨r, rfl, ok⟩ := abandon_mem_effects.mp he
      exact waiting.mpr (h entry ok)
    | _ => trivial

namespace Account

theorem Sound.pending_below {a : Account} (h : a.Sound) {e : String × Received}
    (he : e ∈ a.contents.pending) : e.2.sequenceNumber < a.contents.sequence := by
  have held : e.2 ∈ a.held := by
    simp only [Account.held, Multiset.mem_coe, List.mem_map, Multiset.mem_add]
    exact .inl (.inl (.inl (.inl ⟨e, he, rfl⟩)))
  obtain ⟨d, hd, heq⟩ := h.balanced.delivery_of_held held
  have number : d.2.sequenceNumber = e.2.sequenceNumber := congrArg Prod.fst heq
  rw [← number]
  exact h.numbers.below _ (List.mem_append_right _ (List.mem_map_of_mem hd))

theorem ordered_apply_iff {a : Account} (h : a.contents.Ordered) (sound : a.Sound) (e : Effect) :
    (a.apply e).contents.Ordered ↔ e.Older a.contents := by
  cases e with
  | deliver places =>
    refine iff_of_true (List.pairwise_append.mpr ⟨h, ?_, fun x hx y hy _ => ?_⟩) trivial
    · exact (stamped_pairwise _ _ _).imp fun hxy _ => hxy.1
    · have := sound.pending_below hx
      have := (mem_stamped hy).1
      omega
  | lock path most => exact iff_of_true (h.sublist (takeFor_sublist _ _ _)) trivial
  | abandon path entry =>
    -- The entry becomes the first one, so it has to be older than the others of its path.
    constructor
    · exact fun ordered => (List.pairwise_cons.mp ordered).1
    · exact fun older => List.pairwise_cons.mpr ⟨older, h⟩
  | clear => exact iff_of_true .nil trivial
  | _ => exact iff_of_true h trivial

end Account

/-- All along a run messages wait in order, and receivers get the oldest ones first, exactly if
every message that is put back is older than those that wait on its queue or subscription then. -/
theorem pending_in_order_iff (maxBatchSize : Nat) (requests : List Request) :
    (∀ earlier, earlier <+: requests →
      ((start maxBatchSize).run earlier).InOrder ∧ ((start maxBatchSize).run earlier).OldestFirst) ↔
    ∀ earlier q, earlier ++ [q] <+: requests →
      ((start maxBatchSize).run earlier).PutsBackOlder q := by
  have account_ordered (rs : List Request) :
      (account maxBatchSize rs).contents.Ordered ↔
        ((start maxBatchSize).run rs).InOrder ∧ ((start maxBatchSize).run rs).OldestFirst := by
    refine (contents_ordered_iff _).trans ⟨fun h => ⟨h, h.oldestFirst⟩, And.left⟩
  simp only [← account_ordered]
  refine forall_prefix_iff .nil ?_ requests
  intro earlier q ordered
  rw [account_concat, ← forall_effects_older]
  exact perform_iff (P := fun a => a.contents.Ordered) (I := Account.Sound)
    (C := fun c e => e.Older c) (fun a e ha permitted => ha.apply permitted)
    (fun _ e he => by cases e <;> trivial)
    (fun a e ha ho _ => Account.ordered_apply_iff ho ha e)
    (account_sound maxBatchSize earlier) ordered q

/-- Two messages of one queue are put back by its own receiver, the older one first. -/
theorem abandon_oldest_first :
    let first : Received :=
      { message := { id := "m1" }, sequenceNumber := 1, lockToken := .issued 0 }
    let second : Received :=
      { message := { id := "m2" }, sequenceNumber := 2, lockToken := .issued 1 }
    let b := (start 262144).run
      [.enqueue "orders" { id := "m1" }, .enqueue "orders" { id := "m2" }, .receive "orders" 2]
    let after := b.run [.abandon "orders" first, .abandon "orders" second]
    b.inFlight = [("orders", first), ("orders", second)] ∧
      (after.pendingAt "orders").map (·.sequenceNumber) = [2, 1] ∧
      (after.receive "orders" 1).1.map (·.sequenceNumber) = [2] ∧
      ¬ after.InOrder ∧ ¬ after.OldestFirst := by
  intro first second b after
  have waiting : after.pendingAt "orders" = [redelivered 3 second, redelivered 2 first] := rfl
  refine ⟨rfl, rfl, rfl, fun ordered => ?_, fun oldest => ?_⟩
  · have := ordered "orders"
    rw [waiting, List.pairwise_pair] at this
    exact absurd this (by decide)
  · have := (oldest "orders" 1).2 (redelivered 3 second) (.head _) (redelivered 2 first) (.head _)
    exact absurd this (by decide)

end MessageBus.Broker
