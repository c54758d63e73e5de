import Mathlib.Algebra.Order.Group.Multiset
import Mathlib.Tactic.Abel
import MessageBus.Proofs.Broker.Numbering

/-!
# Conservation of deliveries

Whatever is asked of the broker and in whatever order, a delivery that was made is in exactly one
place from then on: it is pending, locked, dead-lettered or completed. What it carries never
changes, and its count of deliveries is one more than the number of times that it was abandoned, as
far as thirty-two bits can count.
-/

namespace MessageBus.Broker

namespace Account

/-- Everything that was delivered, wherever it is now. -/
def held (a : Account) : Multiset Received :=
  ↑(a.contents.pending.map (·.2)) + ↑(a.contents.inFlight.map (·.2)) +
    ↑(a.contents.deadLetters.map (·.2)) + ↑a.history.completed + ↑a.history.cleared

def identity (r : Received) : Int × Message := (r.sequenceNumber, r.message)

/-- What is held is what was delivered, counted once for every time. -/
structure Balanced (a : Account) : Prop where
  conserved : a.held.map identity = (a.history.delivered.map fun e => identity e.2 : List _)
  counted : ∀ r ∈ a.held,
    r.deliveryCount = 1 + .ofNat (a.history.abandoned.count r.sequenceNumber)
  abandoned_delivered :
    ∀ n ∈ a.history.abandoned, n ∈ a.history.delivered.map (·.2.sequenceNumber)

theorem Balanced.of_held {a b : Account} (h : a.Balanced) (held : b.held = a.held)
    (delivered : b.history.delivered = a.history.delivered)
    (abandoned : b.history.abandoned = a.history.abandoned) : b.Balanced where
  conserved := by rw [held, delivered, h.conserved]
  counted := by rw [held, abandoned]; exact h.counted
  abandoned_delivered := by rw [abandoned, delivered]; exact h.abandoned_delivered

theorem Balanced.delivery_of_held {a : Account} (h : a.Balanced) {r : Received} (hr : r ∈ a.held) :
    ∃ d ∈ a.history.delivered, identity d.2 = identity r := by
  have := Multiset.mem_map_of_mem identity hr
  rw [h.conserved] at this
  exact List.mem_map.mp this

theorem Balanced.numbers_nodup {a : Account} (h : a.Balanced) (hn : a.NumbersDistinct) :
    (a.held.map (·.sequenceNumber)).Nodup := by
  have hm : a.held.map (·.sequenceNumber) =
      (a.history.delivered.map (·.2.sequenceNumber) : List Int) := by
    have := congrArg (Multiset.map Prod.fst) h.conserved
    simp only [Multiset.map_map, Multiset.map_coe, List.map_map] at this
    exact this
  rw [hm, Multiset.coe_nodup]
  exact (List.nodup_append.mp hn.distinct).2.1

theorem Balanced.deliver {a : Account} (h : a.Balanced) (hn : a.NumbersDistinct)
    (places : List (String × Message)) : (a.apply (.deliver places)).Balanced := by
  have hheld : (a.apply (.deliver places)).held =
      a.held + ↑((stamped a.contents.sequence a.contents.locks places).map (·.2)) := by
    simp only [held, apply, Contents.apply, List.map_append, ← Multiset.coe_add]
    abel
  constructor
  · rw [hheld, Multiset.map_add, h.conserved]
    simp only [apply, List.map_append, ← Multiset.coe_add, Multiset.map_coe, List.map_map]
    rfl
  · intro r hr
    rw [hheld, Multiset.mem_add, Multiset.mem_coe, List.mem_map] at hr
    rcases hr with hr | ⟨e, he, rfl⟩
    · exact h.counted r hr
    · obtain ⟨hle, -, hcount, -⟩ := mem_stamped he
      -- A new number was not abandoned before, so the first delivery counts one.
      have fresh : e.2.sequenceNumber ∉ a.history.abandoned := fun hm => by
        have := hn.below _ (List.mem_append_right _ (h.abandoned_delivered _ hm))
        omega
      rw [hcount]
      simp only [apply, List.count_eq_zero_of_not_mem fresh]
      rfl
  · intro n hm
    simp only [apply, List.map_append, List.mem_append]
    exact .inl (h.abandoned_delivered n hm)

theorem held_eq_locked {a : Account} (ht : a.contents.TokensDistinct) {entry : String × Received}
    (locked : a.contents.inFlight.find? (·.2.lockToken == entry.2.lockToken) = some entry) :
    a.held = entry.2 ::ₘ (⟨a.contents.unlock entry.2.lockToken, a.history⟩ : Account).held := by
  have hp := (ht.unlock_perm locked).map (·.2)
  simp only [held, Multiset.coe_eq_coe.mpr hp, List.map_cons, ← Multiset.cons_coe,
    ← Multiset.singleton_add]
  simp only [Contents.unlock]
  abel

theorem Balanced.abandon {a : Account} (h : a.Balanced) (hn : a.NumbersDistinct)
    (ht : a.contents.TokensDistinct) (path : String) {entry : String × Received}
    (locked : a.contents.inFlight.find? (·.2.lockToken == entry.2.lockToken) = some entry) :
    (a.apply (.abandon path entry)).Balanced := by
  have hbefore := held_eq_locked ht locked
  have hafter : (a.apply (.abandon path entry)).held = redelivered a.contents.locks entry.2 ::ₘ
      (⟨a.contents.unlock entry.2.lockToken, a.history⟩ : Account).held := by
    simp only [held, apply, Contents.apply, Contents.unlock, List.map_cons, ← Multiset.cons_coe,
      ← Multiset.singleton_add]
    abel
  have hentry : entry.2 ∈ a.held := hbefore ▸ Multiset.mem_cons_self _ _
  -- The count of the abandoned message goes up, and no other message has its number.
  generalize (⟨a.contents.unlock entry.2.lockToken, a.history⟩ : Account).held = others at *
  have hothers : ∀ r ∈ others, entry.2.sequenceNumber ≠ r.sequenceNumber := by
    have := h.numbers_nodup hn
    rw [hbefore, Multiset.map_cons, Multiset.nodup_cons] at this
    exact fun r hr heq => this.1 (heq ▸ Multiset.mem_map_of_mem _ hr)
  constructor
  · rw [hafter, Multiset.map_cons]
    have := h.conserved
    rw [hbefore, Multiset.map_cons] at this
    exact this
  · intro r hr
    have hcount : (a.apply (.abandon path entry)).history.abandoned.count r.sequenceNumber =
        a.history.abandoned.count r.sequenceNumber +
          [entry.2.sequenceNumber].count r.sequenceNumber := List.count_append ..
    rw [hcount]
    rw [hafter, Multiset.mem_cons] at hr
    rcases hr with rfl | hr
    · rw [redelivered, h.counted _ hentry, List.count_cons_self, List.count_nil, UInt32.ofNat_add,
        UInt32.add_assoc]
      rfl
    · rw [List.count_cons_of_ne (hothers r hr), List.count_nil, Nat.add_zero]
      exact h.counted r (hbefore ▸ Multiset.mem_cons_of_mem hr)
  · intro n hm
    rcases List.mem_append.mp hm with hm | hm
    · exact h.abandoned_delivered n hm
    · obtain rfl := List.mem_singleton.mp hm
      obtain ⟨d, hd, heq⟩ := h.delivery_of_held hentry
      exact List.mem_map.mpr ⟨d, hd, congrArg Prod.fst heq⟩

theorem Balanced.apply {a : Account} (h : a.Balanced) (hn : a.NumbersDistinct)
    (ht : a.contents.TokensDistinct) {e : Effect} (permitted : a.contents.Permits e) :
    (a.apply e).Balanced := by
  cases e with
  | deliver places => exact h.deliver hn places
  | schedule entity due ms => exact h.of_held rfl rfl rfl
  | withdraw keep => exact h.of_held rfl rfl rfl
  | lock path most =>
    refine h.of_held ?_ rfl rfl
    have hp := Multiset.coe_eq_coe.mpr ((takeFor_perm path most a.contents.pending).map (·.2))
    simp only [held, Account.apply, Contents.apply, List.map_append, ← Multiset.coe_add, ← hp]
    abel
  | complete entry =>
    refine h.of_held ?_ rfl rfl
    rw [held_eq_locked ht (permitted entry rfl)]
    simp only [held, Account.apply, Contents.apply, ← Multiset.coe_add, ← Multiset.singleton_add,
      Multiset.coe_singleton]
    abel
  | abandon path entry => exact h.abandon hn ht path (permitted entry rfl)
  | deadLetter path entry =>
    refine h.of_held ?_ rfl rfl
    rw [held_eq_locked ht (permitted entry rfl)]
    simp only [held, Account.apply, Contents.apply, Contents.unlock, List.map_append, List.map_cons,
      List.map_nil, ← Multiset.coe_add, ← Multiset.singleton_add, Multiset.coe_singleton]
    abel
  | clear =>
    refine h.of_held ?_ rfl rfl
    simp only [held, Account.apply, Contents.apply, List.map_append, ← Multiset.coe_add,
      List.map_nil, Multiset.coe_nil]
    abel

structure Sound (a : Account) : Prop where
  tokens : a.contents.TokensDistinct
  numbers : a.NumbersDistinct
  balanced : a.Balanced

theorem Sound.apply {a : Account} (h : a.Sound) {e : Effect} (permitted : a.contents.Permits e) :
    (a.apply e).Sound :=
  ⟨h.tokens.apply e, h.numbers.apply e, h.balanced.apply h.numbers h.tokens permitted⟩

end Account

theorem account_sound (maxBatchSize : Nat) (requests : List Request) :
    (account maxBatchSize requests).Sound := by
  refine run_induction ?_ (fun a e h permitted => h.apply permitted) requests
  refine ⟨⟨.nil, ?_⟩, ⟨.nil, ?_⟩, ⟨rfl, ?_, ?_⟩⟩
  · simp [account, start, contents, Contents.live]
  · simp [account, start, History.numbers, history]
  · simp [account, start, contents, history, Account.held]
  · simp [account, history]

/-- Where a delivery may be; the first three are on a queue or subscription. -/
inductive Place
  | pending (path : String)
  | inFlight (path : String)
  | deadLetter (path : String)
  | completed
  deriving DecidableEq, Repr

def everywhere (b : Broker) (h : History) : List (Place × Received) :=
  b.pending.map (fun e => (.pending e.1, e.2)) ++ b.inFlight.map (fun e => (.inFlight e.1, e.2)) ++
    b.deadLetters.map (fun e => (.deadLetter e.1, e.2)) ++
    h.completed.map (fun r => (.completed, r))

def placesOf (b : Broker) (h : History) (number : Int) : List (Place × Received) :=
  (b.everywhere h).filter (·.2.sequenceNumber = number)

theorem everywhere_held (b : Broker) (h : History) (cleared : h.cleared = []) :
    ((b.everywhere h).map (·.2) : Multiset Received) = (⟨b.contents, h⟩ : Account).held := by
  simp only [everywhere, Account.held, contents, cleared, List.map_append, List.map_map,
    ← Multiset.coe_add, Multiset.coe_nil, add_zero, Function.comp_def, List.map_id']

theorem mem_everywhere_inFlight {b : Broker} {h : History} {path : String} {r : Received}
    (hx : (Place.inFlight path, r) ∈ b.everywhere h) : (path, r) ∈ b.inFlight := by
  simpa [everywhere] using hx

theorem history_cleared (b : Broker) (h : History) {requests : List Request}
    (kept : .clear ∉ requests) : (b.history h requests).cleared = h.cleared := by
  have kept_foldl (es : List Effect) (a : Account) (hes : .clear ∉ es) :
      (es.foldl Account.apply a).history.cleared = a.history.cleared := by
    induction es generalizing a with
    | nil => rfl
    | cons e es ih =>
      rw [List.foldl_cons, ih _ (fun h => hes (List.mem_cons_of_mem _ h))]
      cases e with
      | clear => exact absurd (List.mem_cons_self ..) hes
      | _ => rfl
  induction requests generalizing b h with
  | nil => rfl
  | cons q requests ih =>
    rw [history, ih _ _ (fun h => kept (List.mem_cons_of_mem _ h))]
    refine kept_foldl _ _ fun hq => kept ?_
    rw [clear_mem_effects.mp hq]
    exact List.mem_cons_self ..

theorem toNat_one_add_ofNat {n : Nat} (room : n + 1 < 2 ^ 32) :
    (1 + UInt32.ofNat n).toNat = 1 + n := by
  rw [UInt32.toNat_add, UInt32.toNat_ofNat', UInt32.toNat_one]
  omega

/-- Every delivery is in exactly one place, in flight only under its own lock token, with the
message that was delivered and one delivery counted for each time it was abandoned; nothing else is
anywhere, and no sequence number is handed out twice. The sum is taken in the 32 bits of the count,
and so it is the sum of the numbers for a message abandoned less than 2³² - 1 times, and starts over
at zero then. -/
theorem delivery_in_one_place (maxBatchSize : Nat) (requests : List Request)
    (kept : .clear ∉ requests) :
    let b := (start maxBatchSize).run requests
    let h := (start maxBatchSize).history {} requests
    h.numbers.Nodup ∧
      (∀ d ∈ h.delivered, ∃ place r,
        b.placesOf h d.2.sequenceNumber = [(place, r)] ∧ r.message = d.2.message ∧
          r.deliveryCount = 1 + .ofNat (h.abandoned.count d.2.sequenceNumber) ∧
          (h.abandoned.count d.2.sequenceNumber + 1 < 2 ^ 32 →
            r.deliveryCount.toNat = 1 + h.abandoned.count d.2.sequenceNumber) ∧
          ∀ path, place = .inFlight path → b.lockedBy r.lockToken = some (path, r)) ∧
      ∀ x ∈ b.everywhere h, ∃ d ∈ h.delivered, d.2.sequenceNumber = x.2.sequenceNumber := by
  intro b h
  obtain ⟨tokens, numbers, balanced⟩ := account_sound maxBatchSize requests
  have hheld : ((b.everywhere h).map (·.2) : Multiset Received) =
      (account maxBatchSize requests).held := everywhere_held b h (history_cleared _ _ kept)
  -- Numbers are distinct over all places together, so there is at most one place for each.
  have hnumbers : ((b.everywhere h).map (·.2.sequenceNumber)).Nodup := by
    have := balanced.numbers_nodup numbers
    rw [← hheld, Multiset.map_coe, Multiset.coe_nodup, List.map_map] at this
    exact this
  have mem_held {x : Place × Received} (hx : x ∈ b.everywhere h) :
      x.2 ∈ (account maxBatchSize requests).held := by
    rw [← hheld]
    exact List.mem_map_of_mem hx
  refine ⟨numbers.distinct, fun d hd => ?_, fun x hx => ?_⟩
  · have : Account.identity d.2 ∈ (account maxBatchSize requests).held.map Account.identity := by
      rw [balanced.conserved]
      exact List.mem_map.mpr ⟨d, hd, rfl⟩
    rw [← hheld, Multiset.map_coe, List.map_map] at this
    obtain ⟨⟨place, r⟩, hx, heq⟩ := List.mem_map.mp this
    have hnumber : r.sequenceNumber = d.2.sequenceNumber := congrArg Prod.fst heq
    have counted : r.deliveryCount = 1 + .ofNat (h.abandoned.count d.2.sequenceNumber) :=
      hnumber ▸ balanced.counted r (mem_held hx)
    refine ⟨place, r, ?_, congrArg Prod.snd heq, counted, fun room => ?_, ?_⟩
    · rw [placesOf, ← hnumber]
      exact filter_eq_singleton_of_key hnumbers hx
    · rw [counted, toNat_one_add_ofNat room]
    · rintro path rfl
      exact find_eq_some_of_key tokens.inFlight (mem_everywhere_inFlight hx)
  · obtain ⟨d, hd, heq⟩ := balanced.delivery_of_held (mem_held hx)
    exact ⟨d, hd, congrArg Prod.fst heq⟩

/-- A message sent to a topic with two subscriptions: one of the two deliveries is put back,
received again and completed. -/
theorem delivery_in_one_place_of_topic :
    let sender : Sender := ⟨0, .topic, "orders"⟩
    let handle (lock : Nat) : Received :=
      { message := { id := "m1" }, lockToken := .issued lock }
    let billing := Resource.subscriptionPath "orders" "billing"
    let requests : List Request :=
      [.createSubscription "orders" "billing", .createSubscription "orders" "audit",
        .sendMessages sender [{ id := "m1" }], .receive billing 1, .abandon billing (handle 0),
        .receive billing 1, .complete billing (handle 2)]
    let b := (start 262144).run requests
    let h := (start 262144).history {} requests
    .clear ∉ requests ∧ h.numbers.Nodup ∧ h.numbers = [1, 2] ∧ h.abandoned = [1] ∧
      (∀ d ∈ h.delivered, (b.placesOf h d.2.sequenceNumber).length = 1) ∧
      (b.placesOf h 1).map (fun x => (x.1, x.2.deliveryCount)) = [(.completed, 2)] ∧
      (b.placesOf h 2).map (fun x => (x.1, x.2.deliveryCount)) =
        [(.pending (Resource.subscriptionPath "orders" "audit"), 1)] := by
  intro sender handle billing requests b h
  have kept : .clear ∉ requests := by simp [requests]
  obtain ⟨numbers, deliveries, -⟩ := delivery_in_one_place 262144 requests kept
  refine ⟨kept, numbers, by decide +kernel, by decide +kernel, fun d hd => ?_, by decide +kernel,
    by decide +kernel⟩
  obtain ⟨place, r, hplace, -⟩ := deliveries d hd
  rw [hplace]
  rfl

end MessageBus.Broker
