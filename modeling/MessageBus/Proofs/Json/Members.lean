import Mathlib.Data.List.Forall2
import MessageBus.Json.Value

/-!
# Members of objects

What is found under a name after a member was put in, and after some members were picked: any of
them, in any order.
-/

namespace MessageBus.Json.Members

theorem get?_cons (key name : String) (value : Json) (members : Members) :
    get? ((key, value) :: members) name =
      if name = key then some value else members.get? name := by
  rw [get?, List.lookup_cons]
  by_cases h : name = key
  · rw [if_pos h, beq_iff_eq.mpr h]
  · rw [if_neg h, beq_false_of_ne h]
    rfl

theorem get?_insert (members : Members) (key name : String) (value : Json) :
    (members.insert key value).get? name =
      if name = key then some value else members.get? name := by
  induction members with
  | nil => exact get?_cons key name value []
  | cons member rest ih =>
    obtain ⟨k, v⟩ := member
    rw [insert]
    by_cases before : key < k
    · rw [if_pos before, get?_cons]
    · rw [if_neg before]
      by_cases same : key = k
      · rw [if_pos same, get?_cons, get?_cons, ← same]
        split <;> rfl
      · rw [if_neg same, get?_cons, get?_cons, ih]
        by_cases h : name = k
        · rw [if_pos h, if_neg (fun h' => same (h'.symm.trans h)), if_pos h]
        · rw [if_neg h, if_neg h]

theorem get?_eq_none {members : Members} {name : String} (new : name ∉ members.map Prod.fst) :
    members.get? name = none := by
  refine List.lookup_eq_none_iff.mpr fun v hv => bne_iff_ne.mpr ?_
  rintro rfl
  exact new (List.mem_map_of_mem hv)

def pick (names : List String) (members : Members) : Members :=
  names.filterMap fun name => (members.get? name).map (name, ·)

theorem pick_cons (name : String) (names : List String) (members : Members) :
    pick (name :: names) members =
      match members.get? name with
      | some v => (name, v) :: pick names members
      | none => pick names members := by
  rw [pick, List.filterMap_cons]
  cases members.get? name <;> rfl

theorem names_pick_sublist (names : List String) (members : Members) :
    ((pick names members).map Prod.fst).Sublist names := by
  induction names with
  | nil => exact .slnil
  | cons name names ih =>
    rw [pick_cons]
    cases members.get? name with
    | none => exact ih.cons name
    | some v => exact ih.cons_cons name

theorem get?_pick (names : List String) (members : Members) (key : String) :
    (pick names members).get? key = if key ∈ names then members.get? key else none := by
  induction names with
  | nil => rfl
  | cons name names ih =>
    rw [pick_cons]
    cases found : members.get? name with
    | none =>
      by_cases same : key = name
      · subst same
        simp [ih, found]
      · simp [ih, same]
    | some v =>
      rw [get?_cons]
      by_cases same : key = name
      · subst same
        simp [found]
      · simp [ih, same]

section Forall₂

variable {R : String × Json → String × Json → Prop} {vs ws : Members}

theorem get?_of_forall₂ (h : List.Forall₂ R vs ws) (same : ∀ v w, R v w → v.1 = w.1)
    (name : String) :
    (vs.get? name = none ∧ ws.get? name = none) ∨
      ∃ v w, vs.get? name = some v ∧ ws.get? name = some w ∧ R (name, v) (name, w) := by
  induction h with
  | nil => exact .inl ⟨rfl, rfl⟩
  | @cons v w vs ws related _ ih =>
    obtain ⟨k, v⟩ := v
    obtain ⟨_, w⟩ := w
    obtain rfl : k = _ := same _ _ related
    rw [get?_cons, get?_cons]
    by_cases here : name = k
    · subst here
      exact .inr ⟨v, w, if_pos rfl, if_pos rfl, related⟩
    · rwa [if_neg here, if_neg here]

theorem forall₂_pick (h : List.Forall₂ R vs ws) (same : ∀ v w, R v w → v.1 = w.1)
    (names : List String) : List.Forall₂ R (pick names vs) (pick names ws) := by
  induction names with
  | nil => exact .nil
  | cons name names ih =>
    rw [pick_cons, pick_cons]
    rcases get?_of_forall₂ h same name with ⟨left, right⟩ | ⟨v, w, left, right, related⟩
    · rw [left, right]
      exact ih
    · rw [left, right]
      exact .cons related ih

end Forall₂

end MessageBus.Json.Members
