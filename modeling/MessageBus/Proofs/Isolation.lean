import Mathlib.Data.List.DropRight
import MessageBus.Message
import MessageBus.Settings.Basic

/-!
# Isolation as it travels

An isolated instance accepts the messages with its own key. The applications of a message travel as
one text. Any text is read as a list of applications, but writing that list and reading it again
changes nothing any more: what has been read contains no comma, no blank at either end, and no empty
name.
-/

namespace MessageBus

theorem Isolation.accepts_iff_of_isolated {isolation : Isolation}
    (isolated : isolation.behavior = .handleIsolated) (key : Option String) :
    isolation.accepts key = true ↔ isolation.key = key := by
  rw [accepts, isolated]
  exact beq_iff_eq.trans eq_comm

theorem Isolation.accepts_own (isolation : Isolation) :
    isolation.accepts isolation.key = true := by
  cases behavior : isolation.behavior with
  | handleAll => rw [accepts, behavior]
  | handleIsolated => exact (accepts_iff_of_isolated behavior _).mpr rfl

namespace Text

theorem trimChars_eq (cs : List Char) :
    trimChars cs = (cs.dropWhile isBlank).rdropWhile isBlank := rfl

theorem trimChars_subset (cs : List Char) : trimChars cs ⊆ cs := by
  rw [trimChars_eq]
  exact List.Subset.trans (List.rdropWhile_prefix isBlank _).subset
    (List.dropWhile_suffix isBlank).subset

theorem dropWhile_trimChars (cs : List Char) :
    (trimChars cs).dropWhile isBlank = trimChars cs := by
  obtain ⟨ending, split⟩ := List.rdropWhile_prefix isBlank (l := cs.dropWhile isBlank)
  rw [← trimChars_eq] at split
  cases kept : trimChars cs with
  | nil => rfl
  | cons c rest =>
    have first : (cs.dropWhile isBlank).head? = some c := by
      rw [← split, kept]
      rfl
    have printed : isBlank c = false := by
      have := List.head?_dropWhile_not isBlank cs
      rw [first] at this
      simpa using this
    rw [List.dropWhile_cons_of_neg (by simp [printed])]

theorem trimChars_trimChars (cs : List Char) : trimChars (trimChars cs) = trimChars cs := by
  rw [trimChars_eq (trimChars cs), dropWhile_trimChars, trimChars_eq, List.rdropWhile_idempotent]

end Text

theorem not_mem_of_mem_splitOn {α : Type} [DecidableEq α] {a : α} {xs part : List α}
    (h : part ∈ xs.splitOn a) : a ∉ part := by
  induction xs generalizing part with
  | nil =>
    rw [List.splitOn_nil, List.mem_singleton] at h
    simp [h]
  | cons x xs ih =>
    rw [List.splitOn_cons_eq_if_modifyHead] at h
    by_cases same : x = a
    · rw [if_pos (beq_iff_eq.mpr same)] at h
      rcases List.mem_cons.mp h with rfl | h
      · exact List.not_mem_nil
      · exact ih h
    · rw [if_neg (mt beq_iff_eq.mp same)] at h
      obtain ⟨first, others, parts⟩ := List.exists_cons_of_ne_nil (List.splitOn_ne_nil a xs)
      rw [parts] at h ih
      rcases List.mem_cons.mp h with rfl | h
      · exact List.not_mem_cons_of_ne_of_not_mem (Ne.symm same) (ih (List.mem_cons_self ..))
      · exact ih (List.mem_cons_of_mem _ h)

/-- A name as it is read from a text of several. -/
structure IsApp (app : String) : Prop where
  no_comma : ',' ∉ app.toList
  trimmed : Text.trimChars app.toList = app.toList
  some_char : app.toList ≠ []

theorem isApp_of_mem_splitApps {joined app : String} (h : app ∈ splitApps joined) : IsApp app := by
  simp only [splitApps, List.mem_map, List.mem_filter] at h
  obtain ⟨-, ⟨⟨part, hpart, rfl⟩, some_char⟩, rfl⟩ := h
  rw [← String.toList_ofList (l := Text.trimChars part)] at some_char
  refine ⟨?_, ?_, by simpa using some_char⟩
  · rw [String.toList_ofList]
    exact fun comma => not_mem_of_mem_splitOn hpart (Text.trimChars_subset part comma)
  · rw [String.toList_ofList, Text.trimChars_trimChars]

theorem splitApps_joinApps {apps : List String} (h : ∀ app ∈ apps, IsApp app) :
    splitApps (joinApps apps) = apps := by
  cases apps with
  | nil => rfl
  | cons first rest =>
    have parts : (joinApps (first :: rest)).toList.splitOn ',' =
        (first :: rest).map String.toList := by
      rw [joinApps, String.toList_intercalate]
      refine List.splitOn_intercalate ',' (fun part hpart => ?_) (by simp)
      obtain ⟨app, happ, rfl⟩ := List.mem_map.mp hpart
      exact (h app happ).no_comma
    have trimmed : ((first :: rest).map String.toList).map Text.trimChars =
        (first :: rest).map String.toList := by
      rw [List.map_map]
      exact List.map_congr_left fun app happ => (h app happ).trimmed
    have kept : ((first :: rest).map String.toList).filter (!·.isEmpty) =
        (first :: rest).map String.toList := by
      refine List.filter_eq_self.mpr fun part hpart => ?_
      obtain ⟨app, happ, rfl⟩ := List.mem_map.mp hpart
      simpa using (h app happ).some_char
    rw [splitApps, parts, trimmed, kept, List.map_map]
    exact (List.map_congr_left fun app _ => String.ofList_toList).trans (List.map_id _)

theorem Message.isApp_of_mem {m : Message} {app : String} (h : app ∈ m.isolationApps) :
    IsApp app := by
  rw [isolationApps] at h
  cases text : m.text? Property.isolationApps with
  | none =>
    rw [text] at h
    cases h
  | some joined =>
    rw [text] at h
    exact isApp_of_mem_splitApps h

end MessageBus
