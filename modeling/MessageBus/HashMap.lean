/-!
# Hash maps

Values by key. The entries have no order of their own: whoever goes through them does so in the
order of a hasher, and that may be any order.
-/

namespace MessageBus

structure HashMap (κ ν : Type) where
  entries : List (κ × ν)
  distinct : (entries.map Prod.fst).Nodup

/-- The order in which the entries of hash maps are visited. -/
structure Hasher (κ ν : Type) where
  arrange : List (κ × ν) → List (κ × ν)
  perm : ∀ entries, (arrange entries).Perm entries

/-- Entries in the order in which their keys were first put in. -/
def Hasher.inOrder {κ ν : Type} : Hasher κ ν := ⟨id, .refl⟩

instance {κ ν : Type} : Inhabited (Hasher κ ν) := ⟨.inOrder⟩

namespace HashMap

variable {κ ν : Type}

def empty : HashMap κ ν := ⟨[], .nil⟩

instance : Inhabited (HashMap κ ν) := ⟨.empty⟩

variable [DecidableEq κ]

def put (key : κ) (value : ν) : List (κ × ν) → List (κ × ν)
  | [] => [(key, value)]
  | e :: rest => if e.1 = key then (key, value) :: rest else e :: put key value rest

theorem keys_put (key : κ) (value : ν) (entries : List (κ × ν)) :
    (put key value entries).map Prod.fst =
      if key ∈ entries.map Prod.fst then entries.map Prod.fst
      else entries.map Prod.fst ++ [key] := by
  induction entries with
  | nil => rfl
  | cons e rest ih =>
    rw [put]
    by_cases same : e.1 = key
    · simp [same]
    · simp only [if_neg same, List.map_cons, ih, List.mem_cons, Ne.symm same, false_or]
      split <;> rfl

theorem nodup_put {key : κ} {value : ν} {entries : List (κ × ν)}
    (distinct : (entries.map Prod.fst).Nodup) : ((put key value entries).map Prod.fst).Nodup := by
  rw [keys_put]
  split
  · exact distinct
  · next new =>
    refine List.nodup_append.mpr ⟨distinct, List.pairwise_singleton _ _, fun k hk j hj same => ?_⟩
    rw [List.mem_singleton] at hj
    exact new (hj ▸ same ▸ hk)

def get? (m : HashMap κ ν) (key : κ) : Option ν := m.entries.lookup key

def contains (m : HashMap κ ν) (key : κ) : Bool := (m.get? key).isSome

/-- Puts the value in the place of one with the same key, if there is any. -/
def insert (m : HashMap κ ν) (key : κ) (value : ν) : HashMap κ ν :=
  ⟨put key value m.entries, nodup_put m.distinct⟩

/-- Puts an element behind those that are kept under the key. -/
def push {α : Type} (m : HashMap κ (List α)) (key : κ) (x : α) : HashMap κ (List α) :=
  m.insert key ((m.get? key).getD [] ++ [x])

@[simp] theorem get?_empty (key : κ) : (empty : HashMap κ ν).get? key = none := rfl

theorem lookup_cons (k : κ) (v : ν) (rest : List (κ × ν)) (key : κ) :
    ((k, v) :: rest).lookup key = if key = k then some v else rest.lookup key := by
  rw [List.lookup_cons]
  by_cases here : key = k
  · rw [if_pos here, beq_iff_eq.mpr here]
  · rw [if_neg here, beq_false_of_ne here]

@[simp] theorem get?_insert (m : HashMap κ ν) (key : κ) (value : ν) (other : κ) :
    (m.insert key value).get? other = if other = key then some value else m.get? other := by
  simp only [get?, insert]
  induction m.entries with
  | nil => exact lookup_cons key value [] other
  | cons e rest ih =>
    obtain ⟨k, v⟩ := e
    rw [put]
    by_cases same : k = key
    · rw [if_pos same, lookup_cons, lookup_cons, same]
      split <;> rfl
    · rw [if_neg same, lookup_cons, lookup_cons, ih]
      by_cases here : other = k
      · rw [if_pos here, if_pos here, if_neg (here ▸ same)]
      · rw [if_neg here, if_neg here]

@[simp] theorem get?_push {α : Type} (m : HashMap κ (List α)) (key : κ) (x : α) (other : κ) :
    (m.push key x).get? other =
      if other = key then some ((m.get? key).getD [] ++ [x]) else m.get? other :=
  get?_insert ..

theorem flatMap_push_perm {α : Type} (m : HashMap κ (List α)) (key : κ) (x : α) :
    ((m.push key x).entries.flatMap (·.2)).Perm (m.entries.flatMap (·.2) ++ [x]) := by
  simp only [push, insert, get?]
  induction m.entries with
  | nil => exact .refl _
  | cons e rest ih =>
    obtain ⟨k, xs⟩ := e
    rw [put, lookup_cons]
    by_cases same : k = key
    · rw [if_pos same, if_pos same.symm, List.flatMap_cons, List.flatMap_cons, Option.getD_some,
        List.append_assoc, List.append_assoc]
      exact List.perm_append_comm.append_left xs
    · rw [if_neg same, if_neg (Ne.symm same), List.flatMap_cons, List.flatMap_cons,
        List.append_assoc]
      exact ih.append_left xs

theorem mem_entries_iff (m : HashMap κ ν) (key : κ) (value : ν) :
    (key, value) ∈ m.entries ↔ m.get? key = some value := by
  rw [get?]
  have distinct := m.distinct
  generalize m.entries = entries at distinct
  induction entries with
  | nil => simp
  | cons e rest ih =>
    obtain ⟨k, v⟩ := e
    obtain ⟨new, distinct⟩ := List.nodup_cons.mp distinct
    rw [List.mem_cons, lookup_cons]
    by_cases here : key = k
    · subst here
      have gone : (key, value) ∉ rest := fun h => new (List.mem_map.mpr ⟨_, h, rfl⟩)
      simp [gone, eq_comm]
    · simpa [here] using ih distinct

theorem get?_perm {m n : HashMap κ ν} (hp : m.entries.Perm n.entries) (key : κ) :
    m.get? key = n.get? key :=
  Option.ext fun value => by rw [← mem_entries_iff, ← mem_entries_iff, hp.mem_iff]

theorem flatMap_entries_key {α : Type} (m : HashMap κ (List α)) (key : κ) :
    m.entries.flatMap (fun e => if e.1 = key then e.2 else []) = (m.get? key).getD [] := by
  rw [get?]
  have distinct := m.distinct
  generalize m.entries = entries at distinct
  induction entries with
  | nil => rfl
  | cons e rest ih =>
    obtain ⟨k, xs⟩ := e
    obtain ⟨new, distinct⟩ := List.nodup_cons.mp distinct
    rw [List.flatMap_cons, lookup_cons]
    by_cases here : key = k
    · subst here
      have gone : rest.flatMap (fun e => if e.1 = key then e.2 else []) = [] :=
        List.flatMap_eq_nil_iff.mpr fun e he =>
          if_neg fun same => new (List.mem_map.mpr ⟨e, he, same⟩)
      rw [if_pos rfl, if_pos rfl, gone, List.append_nil, Option.getD_some]
    · rw [if_neg here, if_neg (Ne.symm here), List.nil_append, ih distinct]

end HashMap

/-- Keys alone, each of them once. -/
abbrev HashSet (κ : Type) := HashMap κ Unit

end MessageBus
