import MessageBus.Proofs.Broker.Conservation

/-!
# Settling at the entity

A locked message is found by its token alone, so a receiver of any entity settles it. The messages
of a broker stay filed under the entities that they were delivered to exactly as long as every
message is put back or dead-lettered by a receiver of the entity that it was locked on.
-/

namespace MessageBus.Broker

def Refuses (b : Broker) (call : Call Broker Unit) : Prop :=
  ∃ problem, call b = (.error problem, b)

/-- No receiver of another entity settles a locked message. -/
def SettlesOnlyAtHome (b : Broker) : Prop :=
  ∀ entry ∈ b.inFlight, ∀ path, path ≠ entry.1 → ∀ r : Received,
    r.lockToken = entry.2.lockToken →
      b.Refuses (complete path r) ∧ b.Refuses (abandon path r) ∧
        ∀ reason, b.Refuses (deadLetter path r reason)

theorem refuses_of_settleable {b : Broker} {r : Received} {problem : TransportError}
    (h : b.settleable r = .error problem) (path : String) :
    b.Refuses (complete path r) ∧ b.Refuses (abandon path r) ∧
      ∀ reason, b.Refuses (deadLetter path r reason) :=
  ⟨⟨problem, by rw [complete_eq, h]⟩, ⟨problem, by rw [abandon_eq, h]⟩,
    fun _ => ⟨problem, by rw [deadLetter_eq, h]⟩⟩

theorem settleable_of_inFlight {b : Broker} (on : b.failSettlement = false)
    {entry : String × Received} (locked : entry ∈ b.inFlight) :
    ∃ found, b.settleable entry.2 = .ok found := by
  cases h : b.lockedBy entry.2.lockToken with
  | none => simpa using List.find?_eq_none.mp h entry locked
  | some found => exact ⟨found, settleable_eq_ok.mpr ⟨on, h⟩⟩

theorem settlesOnlyAtHome_iff (b : Broker) :
    b.SettlesOnlyAtHome ↔ b.inFlight = [] ∨ b.failSettlement = true := by
  constructor
  · intro home
    by_contra h
    obtain ⟨some_locked, on⟩ := not_or.mp h
    obtain ⟨entry, locked⟩ := List.exists_mem_of_ne_nil _ some_locked
    obtain ⟨found, ok⟩ := settleable_of_inFlight (Bool.eq_false_iff.mpr on) locked
    -- Any other path will do, such as a longer one.
    have elsewhere : entry.1 ++ "/" ≠ entry.1 := fun he => by
      have := congrArg String.length he
      simp [String.length_append] at this
    obtain ⟨problem, refused⟩ := (home entry locked _ elsewhere entry.2 rfl).1
    rw [complete_eq, ok] at refused
    cases refused
  · rintro (none_locked | off) entry locked path - r -
    · simp [none_locked] at locked
    · exact refuses_of_settleable (by simp only [settleable, off]; rfl) path

/-- Every message is filed under the entity that it was delivered to. -/
def Account.Filed (a : Account) : Prop :=
  ∀ e ∈ a.contents.live ++ a.contents.deadLetters,
    ∃ d ∈ a.history.delivered, d.1 = e.1 ∧ d.2.sequenceNumber = e.2.sequenceNumber

def SettlesAtHome (b : Broker) : Request → Prop
  | .abandon path r | .deadLetter path r _ =>
    ∀ entry, b.settleable r = .ok entry → entry.1 = path
  | _ => True

def Effect.AtHome : Effect → Prop
  | .abandon path entry | .deadLetter path entry => entry.1 = path
  | _ => True

theorem forall_effects_atHome (b : Broker) (q : Request) :
    (∀ e ∈ b.effects q, e.AtHome) ↔ b.SettlesAtHome q := by
  constructor
  · intro h
    cases q with
    | abandon path r =>
      exact fun entry ok => h (.abandon path entry) (abandon_mem_effects.mpr ⟨r, rfl, ok⟩)
    | deadLetter path r reason =>
      exact fun entry ok =>
        h (.deadLetter path entry) (deadLetter_mem_effects.mpr ⟨r, reason, rfl, ok⟩)
    | _ => trivial
  · intro h e he
    cases e with
    | abandon path entry =>
      obtain ⟨r, rfl, ok⟩ := abandon_mem_effects.mp he
      exact h entry ok
    | deadLetter path entry =>
      obtain ⟨r, reason, rfl, ok⟩ := deadLetter_mem_effects.mp he
      exact h entry ok
    | _ => trivial

namespace Account

theorem Filed.of_subset {a b : Account} (h : a.Filed)
    (held : b.contents.live ++ b.contents.deadLetters ⊆ a.contents.live ++ a.contents.deadLetters)
    (delivered : b.history.delivered = a.history.delivered) : b.Filed := by
  intro e he
  rw [delivered]
  exact h e (held he)

theorem Filed.deliver {a : Account} (h : a.Filed) (places : List (String × Message)) :
    (a.apply (.deliver places)).Filed := by
  intro e he
  simp only [apply, Contents.apply, Contents.live, List.mem_append] at he ⊢
  by_cases hs : e ∈ stamped a.contents.sequence a.contents.locks places
  · exact ⟨e, .inr hs, rfl, rfl⟩
  · have : e ∈ a.contents.live ++ a.contents.deadLetters := by
      simp only [Contents.live, List.mem_append]
      tauto
    obtain ⟨d, hd, same⟩ := h e this
    exact ⟨d, .inl hd, same⟩

theorem filed_cons_iff {a b : Account} (ha : a.Filed) (hn : a.NumbersDistinct)
    {entry : String × Received} (locked : entry ∈ a.contents.inFlight)
    (moved : String × Received) (number : moved.2.sequenceNumber = entry.2.sequenceNumber)
    (held : ∀ e, e ∈ b.contents.live ++ b.contents.deadLetters →
      e = moved ∨ e ∈ a.contents.live ++ a.contents.deadLetters)
    (hmoved : moved ∈ b.contents.live ++ b.contents.deadLetters)
    (delivered : b.history.delivered = a.history.delivered) :
    b.Filed ↔ entry.1 = moved.1 := by
  obtain ⟨d, hd, hpath, hnumber⟩ := ha entry
    (List.mem_append_left _ (List.mem_append_left _ locked))
  constructor
  · intro hb
    obtain ⟨d', hd', hpath', hnumber'⟩ := hb moved hmoved
    rw [delivered] at hd'
    -- The delivery that explains the moved message has the number of the one that was locked.
    have hdistinct := (List.nodup_append.mp hn.distinct).2.1
    have : d' = d := List.inj_on_of_nodup_map hdistinct hd' hd (by rw [hnumber', number, hnumber])
    rw [← hpath, ← hpath', this]
  · intro hpaths e he
    rw [delivered]
    rcases held e he with rfl | he
    · exact ⟨d, hd, by rw [hpath, hpaths], by rw [hnumber, number]⟩
    · exact ha e he

theorem filed_apply_iff {a : Account} (h : a.Filed) (sound : a.Sound) {e : Effect}
    (permitted : a.contents.Permits e) : (a.apply e).Filed ↔ e.AtHome := by
  cases e with
  | deliver places => exact iff_of_true (h.deliver places) trivial
  | lock path most =>
    refine iff_of_true (h.of_subset ?_ rfl) trivial
    intro e he
    simp only [apply, Contents.apply, Contents.live, List.append_assoc, List.mem_append] at he ⊢
    have hp := (takeFor_perm path most a.contents.pending).mem_iff (a := e)
    rw [List.mem_append] at hp
    tauto
  | abandon path entry =>
    have locked := List.mem_of_find?_eq_some (permitted entry rfl)
    refine filed_cons_iff h sound.numbers locked (path, redelivered a.contents.locks entry.2) rfl
      (fun e he => ?_) ?_ rfl
    · have := a.contents.unlock_sublist entry.2.lockToken |>.subset (a := e)
      simp only [apply, Contents.apply, Contents.live, List.mem_append, List.mem_cons] at he ⊢
      tauto
    · simp [apply, Contents.apply, Contents.live]
  | deadLetter path entry =>
    have locked := List.mem_of_find?_eq_some (permitted entry rfl)
    refine filed_cons_iff h sound.numbers locked (path, entry.2) rfl (fun e he => ?_) ?_ rfl
    · have := a.contents.unlock_sublist entry.2.lockToken |>.subset (a := e)
      simp only [apply, Contents.apply, Contents.live, Contents.unlock, List.mem_append,
        List.mem_singleton] at he this ⊢
      tauto
    · simp [apply, Contents.apply]
  | complete entry =>
    refine iff_of_true (h.of_subset ?_ rfl) trivial
    have := a.contents.unlock_sublist entry.2.lockToken |>.subset
    intro e he
    have := this (a := e)
    simp only [apply, Contents.apply, Contents.live, Contents.unlock, List.mem_append] at he this ⊢
    tauto
  | schedule entity due ms => exact iff_of_true (h.of_subset (List.Subset.refl _) rfl) trivial
  | withdraw keep => exact iff_of_true (h.of_subset (List.Subset.refl _) rfl) trivial
  | clear => exact iff_of_true (h.of_subset (List.nil_subset _) rfl) trivial

end Account

/-- After a run a locked message is safe from the receivers of other entities exactly if nothing is
locked or settling fails altogether; and all along the run every message is filed under the entity
that it was delivered to exactly if no receiver of another entity puts back or dead-letters it. -/
theorem settlement_stays_iff (maxBatchSize : Nat) (requests : List Request) :
    let b := (start maxBatchSize).run requests
    (b.SettlesOnlyAtHome ↔ b.inFlight = [] ∨ b.failSettlement = true) ∧
      ((∀ earlier, earlier <+: requests → (account maxBatchSize earlier).Filed) ↔
        ∀ earlier q, earlier ++ [q] <+: requests →
          ((start maxBatchSize).run earlier).SettlesAtHome q) := by
  refine ⟨settlesOnlyAtHome_iff _, forall_prefix_iff ?_ ?_ requests⟩
  · simp [Account.Filed, account, start, contents, Contents.live]
  · intro earlier q filed
    rw [account_concat, ← forall_effects_atHome]
    exact perform_iff (I := Account.Sound) (C := fun _ e => e.AtHome)
      (fun a e ha permitted => ha.apply permitted)
      (fun _ e he => by cases e <;> trivial)
      (fun a e ha hf permitted => Account.filed_apply_iff hf ha permitted)
      (account_sound maxBatchSize earlier) filed q

/-- A message of one queue is put back on another one. -/
theorem abandon_elsewhere :
    let locked : Received :=
      { message := { id := "m1" }, sequenceNumber := 1, lockToken := .issued 0 }
    let requests : List Request := [.enqueue "orders" { id := "m1" }, .receive "orders" 1]
    let b := (start 262144).run requests
    let after := b.perform (.abandon "refunds" locked)
    b.inFlight = [("orders", locked)] ∧ ¬ b.SettlesOnlyAtHome ∧
      after.pending.map (fun e => (e.1, e.2.sequenceNumber)) = [("refunds", 1)] ∧
      after.operations = [.abandon "refunds" "m1"] ∧
      ¬ (account 262144 (requests ++ [.abandon "refunds" locked])).Filed := by
  intro locked requests b after
  refine ⟨rfl, ?_, rfl, rfl, ?_⟩
  · rw [settlesOnlyAtHome_iff]
    exact fun h => h.elim (fun h => by cases h) (fun h => by cases h)
  · intro filed
    obtain ⟨d, hd, hpath, -⟩ := filed ("refunds", redelivered 1 locked) (.head _)
    cases hd with
    | head => exact absurd hpath (by decide)
    | tail _ hd => cases hd

end MessageBus.Broker
