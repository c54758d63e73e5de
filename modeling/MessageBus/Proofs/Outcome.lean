import MessageBus.Trace.World

/-!
# Work that fails and keeps its state

Equations for computations over a state that may fail and leave a state behind in either case. They
take a computation apart, step by step, into its outcome and the state after it.
-/

namespace MessageBus.Outcome

variable {σ ε α β : Type}

@[simp] theorem pure_apply (a : α) (s : σ) :
    (pure a : ExceptT ε (StateM σ) α) s = (.ok a, s) := rfl

@[simp] theorem throw_apply (e : ε) (s : σ) :
    (throw e : ExceptT ε (StateM σ) α) s = (.error e, s) := rfl

@[simp] theorem get_apply (s : σ) : (get : ExceptT ε (StateM σ) σ) s = (.ok s, s) := rfl

@[simp] theorem set_apply (s' s : σ) : (set s' : ExceptT ε (StateM σ) PUnit) s = (.ok (), s') := rfl

@[simp] theorem modify_apply (f : σ → σ) (s : σ) :
    (modify f : ExceptT ε (StateM σ) PUnit) s = (.ok (), f s) := rfl

@[simp] theorem mapError_ok (f : ε → β) (a : α) :
    (Except.ok a : Except ε α).mapError f = .ok a := rfl

@[simp] theorem mapError_error (f : ε → β) (e : ε) :
    (Except.error e : Except ε α).mapError f = .error (f e) := rfl

theorem bind_apply (m : ExceptT ε (StateM σ) α) (k : α → ExceptT ε (StateM σ) β) (s : σ) :
    (m >>= k) s =
      match m s with
      | (.ok a, s) => k a s
      | (.error e, s) => (.error e, s) := by
  simp only [bind, ExceptT.bind, ExceptT.mk, StateT.bind, ExceptT.bindCont]
  rcases m s with ⟨_ | _, _⟩ <;> rfl

theorem map_apply (f : α → β) (m : ExceptT ε (StateM σ) α) (s : σ) :
    (f <$> m) s =
      match m s with
      | (.ok a, s) => (.ok (f a), s)
      | (.error e, s) => (.error e, s) := by
  simp only [Functor.map, ExceptT.map, ExceptT.mk, bind, StateT.bind]
  rcases m s with ⟨_ | _, _⟩ <;> rfl

theorem bind_ok {m : ExceptT ε (StateM σ) α} {s s' : σ} {a : α} (h : m s = (.ok a, s'))
    (k : α → ExceptT ε (StateM σ) β) : (m >>= k) s = k a s' := by
  rw [bind_apply, h]

theorem bind_error {m : ExceptT ε (StateM σ) α} {s s' : σ} {e : ε} (h : m s = (.error e, s'))
    (k : α → ExceptT ε (StateM σ) β) : (m >>= k) s = (.error e, s') := by
  rw [bind_apply, h]

theorem of_bind_ok {m : ExceptT ε (StateM σ) α} {k : α → ExceptT ε (StateM σ) β} {s s' : σ} {b : β}
    (h : (m >>= k) s = (.ok b, s')) : ∃ a between, m s = (.ok a, between) ∧
      k a between = (.ok b, s') := by
  rw [bind_apply] at h
  split at h
  · exact ⟨_, _, ‹_›, h⟩
  · cases h

theorem of_bind_error {m : ExceptT ε (StateM σ) α} {k : α → ExceptT ε (StateM σ) β} {s s' : σ}
    {e : ε} (h : (m >>= k) s = (.error e, s')) :
    m s = (.error e, s') ∨ ∃ a between, m s = (.ok a, between) ∧ k a between = (.error e, s') := by
  rw [bind_apply] at h
  split at h
  · exact .inr ⟨_, _, ‹_›, h⟩
  · cases h
    exact .inl ‹_›

theorem state_bind_apply (m : StateM σ α) (k : α → StateM σ β) (s : σ) :
    (m >>= k) s = k (m s).1 (m s).2 := rfl

theorem lift_apply (m : StateM σ α) (s : σ) :
    (liftM m : ExceptT ε (StateM σ) α) s = (.ok (m s).1, (m s).2) := rfl

@[simp] theorem ite_apply (c : Prop) [Decidable c] (x y : ExceptT ε (StateM σ) α) (s : σ) :
    (if c then x else y) s = if c then x s else y s := by
  by_cases h : c <;> simp only [h, if_true, if_false]

end MessageBus.Outcome

namespace MessageBus.World

variable {τ ε δ α : Type}

theorem log_apply (event : LogEvent) (w : World τ) :
    (log event : Work τ ε Unit) w = (.ok (), w.add (.log event)) := rfl

theorem call_apply (c : Call τ α) (w : World τ) :
    call c w = ((c w.transport).1, { w with transport := (c w.transport).2 }) := rfl

theorem drawing_apply (work : ExceptT ε (StateM IdSupply) α) (w : World τ) :
    drawing work w = ((work w.ids).1, { w with ids := (work w.ids).2 }) := rfl

theorem attempt_apply (work : Work τ ε α) (w : World τ) :
    (attempt work : Work τ δ (Except ε α)) w = (.ok (work w).1, (work w).2) := rfl

theorem raising_apply (wrap : ε → δ) (work : Work τ ε α) (w : World τ) :
    raising wrap work w = ((work w).1.mapError wrap, (work w).2) := rfl

end MessageBus.World
