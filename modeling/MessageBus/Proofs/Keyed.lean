import Mathlib.Data.List.Nodup

/-!
# Lists with distinct keys

An element of a list is the only one with its key, so finding, filtering and removing by the key
come to that element.
-/

namespace MessageBus

section Find

variable {α β : Type} [BEq β] [LawfulBEq β] {f : α → β} {xs : List α} {x : α}

theorem find_eq_some_of_key (distinct : (xs.map f).Nodup) (hx : x ∈ xs) :
    xs.find? (f · == f x) = some x := by
  cases h : xs.find? (f · == f x) with
  | none => simpa using List.find?_eq_none.mp h x hx
  | some y =>
    have hy : f y = f x := by simpa using List.find?_some h
    exact congrArg some (List.inj_on_of_nodup_map distinct (List.mem_of_find?_eq_some h) hx hy)

theorem find_key_iff (distinct : (xs.map f).Nodup) {key : β} :
    xs.find? (f · == key) = some x ↔ x ∈ xs ∧ f x = key := by
  constructor
  · intro h
    exact ⟨List.mem_of_find?_eq_some h, by simpa using List.find?_some h⟩
  · rintro ⟨hx, rfl⟩
    exact find_eq_some_of_key distinct hx

end Find

variable {α β : Type} [DecidableEq β] {f : α → β} {xs : List α} {x : α}

theorem perm_cons_filter_key (distinct : (xs.map f).Nodup) (hx : x ∈ xs) :
    xs.Perm (x :: xs.filter (f · != f x)) := by
  induction xs with
  | nil => cases hx
  | cons y ys ih =>
    obtain ⟨hy, hys⟩ := List.nodup_cons.mp distinct
    rcases List.mem_cons.mp hx with rfl | hx
    · have others : ys.filter (f · != f x) = ys := by
        refine List.filter_eq_self.mpr fun z hz => ?_
        have : f z ≠ f x := fun h => hy (h ▸ List.mem_map_of_mem hz)
        simpa using this
      simp [others]
    · have : f y ≠ f x := fun h => hy (h ▸ List.mem_map_of_mem hx)
      rw [List.filter_cons_of_pos (by simpa using this)]
      exact ((ih hys hx).cons y).trans (.swap x y _)

theorem filter_eq_singleton_of_key (distinct : (xs.map f).Nodup) (hx : x ∈ xs) :
    xs.filter (f · = f x) = [x] := by
  have hp := (perm_cons_filter_key distinct hx).filter (f · = f x)
  have none_left : (xs.filter (f · != f x)).filter (f · = f x) = [] := by
    simp [List.filter_filter]
  rw [List.filter_cons_of_pos (by simp), none_left] at hp
  exact List.perm_singleton.mp hp

theorem flatMap_key {γ : Type} (distinct : (xs.map f).Nodup) (key : β) (ys : List γ) :
    xs.flatMap (fun x => if f x = key then ys else []) = if key ∈ xs.map f then ys else [] := by
  induction xs with
  | nil => rfl
  | cons x xs ih =>
    obtain ⟨hx, hxs⟩ := List.nodup_cons.mp distinct
    rw [List.flatMap_cons, ih hxs, List.map_cons]
    by_cases here : f x = key
    · have none_later : key ∉ xs.map f := here ▸ hx
      simp [here, none_later]
    · simp [here, Ne.symm here]

theorem nodup_eraseDups {κ : Type} [BEq κ] [LawfulBEq κ] (keys : List κ) :
    keys.eraseDups.Nodup := by
  induction hn : keys.length using Nat.strongRecOn generalizing keys with
  | ind n ih =>
    cases keys with
    | nil => exact List.nodup_nil
    | cons key rest =>
      rw [List.eraseDups_cons]
      have fewer := List.length_filter_le (fun k => !k == key) rest
      rw [List.length_cons] at hn
      refine List.nodup_cons.mpr ⟨fun again => ?_, ih _ (by omega) _ rfl⟩
      simp at again

theorem perm_eraseDups {κ : Type} [BEq κ] [LawfulBEq κ] {xs ys : List κ} (hp : xs.Perm ys) :
    xs.eraseDups.Perm ys.eraseDups :=
  (List.perm_ext_iff_of_nodup (nodup_eraseDups xs) (nodup_eraseDups ys)).mpr fun key => by
    rw [List.mem_eraseDups, List.mem_eraseDups, hp.mem_iff]

theorem map_eraseDups {α κ : Type} [BEq α] [LawfulBEq α] [BEq κ] [LawfulBEq κ] {f : α → κ}
    {xs : List α} (apart : ∀ x ∈ xs, ∀ y ∈ xs, f x = f y → x = y) :
    xs.eraseDups.map f = (xs.map f).eraseDups := by
  induction hn : xs.length using Nat.strongRecOn generalizing xs with
  | ind n ih =>
    cases xs with
    | nil => rfl
    | cons x rest =>
      have fewer := List.length_filter_le (fun y => !y == x) rest
      rw [List.length_cons] at hn
      have others : (rest.map f).filter (fun k => !k == f x) =
          (rest.filter fun y => !y == x).map f := by
        rw [List.filter_map]
        refine congrArg _ (List.filter_congr fun y hy => ?_)
        by_cases same : y = x
        · simp [same]
        · have differ : f y ≠ f x := fun h => same
            (apart y (List.mem_cons_of_mem _ hy) x (List.mem_cons_self ..) h)
          simp [same, differ]
      rw [List.eraseDups_cons, List.map_cons, List.map_cons, List.eraseDups_cons, others,
        ih _ (by omega) (fun y hy z hz => ?_) rfl]
      exact apart y (List.mem_cons_of_mem _ (List.mem_of_mem_filter hy)) z
        (List.mem_cons_of_mem _ (List.mem_of_mem_filter hz))

end MessageBus
