import MessageBus.Proofs.Bus.Packing

/-!
# Cutting into pages

A list is cut into pages by cutting one page after another off its front while anything is left.
This comes to an end exactly if a page holds something or there is nothing to cut, and then in one
way only: all elements in their order, full pages and at most one shorter page behind them.
-/

namespace MessageBus

variable {α : Type}

/-- Cutting `size` elements off the front, again and again while any are left, comes to an end with
these pages. -/
inductive Cuts (size : Nat) : List α → List (List α) → Prop
  | nothing : Cuts size [] []
  | page {xs : List α} {pages : List (List α)} (some_left : xs ≠ [])
      (rest : Cuts size (xs.drop size) pages) : Cuts size xs (xs.take size :: pages)

namespace Cuts

variable {size : Nat} {xs : List α} {pages : List (List α)}

theorem unique (h : Cuts size xs pages) {others : List (List α)} (h' : Cuts size xs others) :
    others = pages := by
  induction h generalizing others with
  | nothing =>
    cases h' with
    | nothing => rfl
    | page some_left => exact absurd rfl some_left
  | page some_left _ ih =>
    cases h' with
    | nothing => exact absurd rfl some_left
    | page _ rest => rw [ih rest]

theorem some_left (h : Cuts size xs pages) (some_page : pages ≠ []) : xs ≠ [] := by
  cases h with
  | nothing => exact absurd rfl some_page
  | page some_left => exact some_left

theorem length_of_mem_dropLast (h : Cuts size xs pages) :
    ∀ page ∈ pages.dropLast, page.length = size := by
  induction h with
  | nothing => simp
  | @page xs pages _ rest ih =>
    by_cases last : pages = []
    · simp [last]
    · rw [List.dropLast_cons_of_ne_nil last]
      refine List.forall_mem_cons.mpr ⟨?_, ih⟩
      have longer := List.length_pos_iff.mpr (rest.some_left last)
      rw [List.length_drop] at longer
      rw [List.length_take]
      omega

theorem length_of_mem (h : Cuts size xs pages) (positive : 0 < size) :
    ∀ page ∈ pages, 1 ≤ page.length ∧ page.length ≤ size := by
  induction h with
  | nothing => simp
  | page some_left _ ih =>
    refine List.forall_mem_cons.mpr ⟨?_, ih⟩
    have := List.length_pos_iff.mpr some_left
    rw [List.length_take]
    omega

theorem length_eq (h : Cuts size xs pages) (positive : 0 < size) :
    pages.length = (xs.length + size - 1) / size := by
  induction h with
  | nothing =>
    rw [List.length_nil, List.length_nil, Nat.div_eq_of_lt (by omega)]
  | @page xs pages some_left _ ih =>
    have := List.length_pos_iff.mpr some_left
    rw [List.length_cons, ih, List.length_drop, ← Nat.add_div_right _ positive]
    by_cases last : xs.length ≤ size
    · have one : xs.length - size + size - 1 + size = size - 1 + size := by omega
      rw [one, Nat.add_div_right _ positive, Nat.div_eq_of_lt (by omega)]
      refine (Nat.div_eq_of_lt_le ?_ ?_).symm <;> omega
    · have other : xs.length - size + size - 1 + size = xs.length + size - 1 := by omega
      rw [other]

theorem eq_nil_of_zero (h : Cuts 0 xs pages) : xs = [] := by
  induction h with
  | nothing => rfl
  | page some_left _ ih => exact absurd ih some_left

end Cuts

theorem cuts_paginate (size : Nat) (xs : List α) : Cuts (max size 1) xs (paginate size xs) := by
  fun_induction paginate size xs with
  | case1 => exact .nothing
  | case2 x rest ih =>
    have page : max size 1 = size - 1 + 1 := by omega
    rw [page] at ih ⊢
    exact .page (List.cons_ne_nil x rest) ih

theorem exists_cuts_iff {size : Nat} {xs : List α} :
    (∃ pages, Cuts size xs pages) ↔ xs = [] ∨ 0 < size := by
  constructor
  · rintro ⟨pages, h⟩
    cases size with
    | zero => exact .inl h.eq_nil_of_zero
    | succ size => exact .inr (Nat.succ_pos size)
  · rintro (rfl | positive)
    · exact ⟨[], .nothing⟩
    · have cut := cuts_paginate size xs
      rw [Nat.max_eq_left positive] at cut
      exact ⟨_, cut⟩

/-- Cutting comes to an end only where a page holds something or nothing is to be cut. With pages of
at least one element it always does, whatever size is asked for, and in one way only. The pages hold
all elements in their order; all but the last are full, the last is not empty and at most full, and
there are no more of them than that takes. -/
theorem paginate_cuts (size : Nat) (xs : List α) :
    let full := max size 1
    let pages := paginate size xs
    ((∃ cut, Cuts size xs cut) ↔ xs = [] ∨ 0 < size) ∧
      (∀ cut, Cuts full xs cut ↔ cut = pages) ∧ pages.flatten = xs ∧
      (∀ page ∈ pages.dropLast, page.length = full) ∧
      (∀ page ∈ pages.getLast?, 1 ≤ page.length ∧ page.length ≤ full) ∧
      pages.length = (xs.length + full - 1) / full := by
  intro full pages
  have cut : Cuts full xs pages := cuts_paginate size xs
  have positive : 0 < full := Nat.lt_of_lt_of_le Nat.zero_lt_one (Nat.le_max_right size 1)
  refine ⟨exists_cuts_iff, fun other => ⟨cut.unique, fun same => same ▸ cut⟩,
    flatten_paginate size xs, cut.length_of_mem_dropLast, fun page last => ?_,
    cut.length_eq positive⟩
  exact cut.length_of_mem positive page (List.mem_of_getLast? last)

example : paginate 0 ['a', 'b'] = [['a'], ['b']] := by cbv

end MessageBus
