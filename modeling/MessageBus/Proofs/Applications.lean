import Mathlib.Logic.Function.Iterate
import Mathlib.Logic.Relation
import MessageBus.Proofs.Outgoing

/-!
# Applications on the wire

The applications of a message travel as one text, joined by commas, and are read back by splitting
at commas, trimming and dropping what is empty. So not every list comes back: a name is read as it
was written exactly if it can be told from what stands around it. What is read can always be told
apart, so from the first reader on nothing changes any more.
-/

namespace MessageBus

theorem Text.trimChars_eq_self_iff {cs : List Char} :
    trimChars cs = cs ↔
      (∀ c ∈ cs.head?, isBlank c = false) ∧ ∀ c ∈ cs.getLast?, isBlank c = false := by
  constructor
  · intro same
    have begins := dropWhile_trimChars cs
    rw [same] at begins
    have ends : cs.rdropWhile isBlank = cs := by
      rwa [trimChars_eq, begins] at same
    refine ⟨fun c first => ?_, fun c last => ?_⟩
    · rw [← begins] at first
      have printed := List.head?_dropWhile_not isBlank cs
      rw [first] at printed
      simpa using printed
    · have some_char : cs ≠ [] := fun none_left => by simp [none_left] at last
      rw [List.getLast?_eq_some_getLast some_char] at last
      obtain rfl := Option.some.inj last
      simpa using List.rdropWhile_eq_self_iff.mp ends some_char
  · rintro ⟨begins, ends⟩
    cases cs with
    | nil => rfl
    | cons c rest =>
      have printed : isBlank c = false := begins c rfl
      rw [trimChars_eq, List.dropWhile_cons_of_neg (by simp [printed]),
        List.rdropWhile_eq_self_iff]
      intro some_char
      simpa using ends _ (List.getLast?_eq_some_getLast some_char)

/-- A name that can be told from what stands around it in a text of several. -/
structure Separable (app : String) : Prop where
  some_char : app ≠ ""
  no_comma : ',' ∉ app.toList
  begins : ∀ c ∈ app.toList.head?, Text.isBlank c = false
  ends : ∀ c ∈ app.toList.getLast?, Text.isBlank c = false

theorem separable_iff_isApp {app : String} : Separable app ↔ IsApp app := by
  have some_char : app ≠ "" ↔ app.toList ≠ [] := by simp
  constructor
  · rintro ⟨h, no_comma, begins, ends⟩
    exact ⟨no_comma, Text.trimChars_eq_self_iff.mpr ⟨begins, ends⟩, some_char.mp h⟩
  · rintro ⟨no_comma, trimmed, h⟩
    obtain ⟨begins, ends⟩ := Text.trimChars_eq_self_iff.mp trimmed
    exact ⟨some_char.mpr h, no_comma, begins, ends⟩

theorem separable_of_mem_splitApps {joined app : String} (h : app ∈ splitApps joined) :
    Separable app :=
  separable_iff_isApp.mpr (isApp_of_mem_splitApps h)

theorem splitApps_joinApps_iff {apps : List String} :
    splitApps (joinApps apps) = apps ↔ ∀ app ∈ apps, Separable app := by
  constructor
  · intro same app happ
    exact separable_of_mem_splitApps (same.symm ▸ happ)
  · intro separable
    exact splitApps_joinApps fun app happ => separable_iff_isApp.mp (separable app happ)

theorem splitApps_rejoined (joined : String) :
    splitApps (joinApps (splitApps joined)) = splitApps joined :=
  splitApps_joinApps_iff.mpr fun _ => separable_of_mem_splitApps

theorem splitApps_iterate (joined : String) (hops : Nat) :
    splitApps ((joinApps ∘ splitApps)^[hops] joined) = splitApps joined := by
  induction hops with
  | zero => rfl
  | succ hops ih =>
    rw [Function.iterate_succ_apply', Function.comp_apply, splitApps_rejoined, ih]

/-- The second message is made while the first one is handled. Its properties are those before
customizers. -/
inductive PassedOn : Message → Message → Prop
  | made (a : Received) (isolation : Isolation) (r : DispatchRegistration) (d : Dispatch)
      (body : List UInt8) (ids : IdSupply) :
      PassedOn a.message (Outgoing.base isolation (some a.inbound) r d body ids).1

theorem PassedOn.isolationApps {m m' : Message} (h : PassedOn m m')
    (some_app : m.isolationApps ≠ []) : m'.isolationApps = m.isolationApps := by
  obtain ⟨a, isolation, r, d, body, ids⟩ := h
  have inherited : Outgoing.isolationApps isolation (some a.inbound) = a.message.isolationApps := by
    have same : a.inbound.isolationApps = a.message.isolationApps := rfl
    simp [Outgoing.isolationApps, same, some_app]
  rw [Outgoing.isolationApps_base (inherited ▸ some_app), inherited]
  exact splitApps_joinApps fun _ => Message.isApp_of_mem

theorem isolationApps_of_chain {first last : Message}
    (chain : Relation.ReflTransGen PassedOn first last) (some_app : first.isolationApps ≠ []) :
    last.isolationApps = first.isolationApps := by
  induction chain with
  | refl => rfl
  | tail _ hop ih => exact (hop.isolationApps (ih ▸ some_app)).trans ih

/-- Joined applications are read back as they were exactly if each of them is not empty, contains no
comma and has no blank character at either end. All that is ever read is of this form; so whoever
joins again what was read, and however often that happens, what is read stays the same, also along
every chain of messages made from one another. -/
theorem apps_on_the_wire :
    (∀ apps : List String,
      splitApps (joinApps apps) = apps ↔ ∀ app ∈ apps, Separable app) ∧
    (∀ joined : String, (∀ app ∈ splitApps joined, Separable app) ∧
      splitApps (joinApps (splitApps joined)) = splitApps joined ∧
      ∀ hops, splitApps ((joinApps ∘ splitApps)^[hops] joined) = splitApps joined) ∧
    (∀ isolation inbound r d body ids, Outgoing.isolationApps isolation inbound ≠ [] →
      ((Outgoing.base isolation inbound r d body ids).1.isolationApps =
          Outgoing.isolationApps isolation inbound ↔
        ∀ app ∈ Outgoing.isolationApps isolation inbound, Separable app)) ∧
    ∀ first last : Message, Relation.ReflTransGen PassedOn first last →
      first.isolationApps ≠ [] → last.isolationApps = first.isolationApps := by
  refine ⟨fun apps => splitApps_joinApps_iff, fun joined => ⟨fun _ => separable_of_mem_splitApps,
    splitApps_rejoined joined, splitApps_iterate joined⟩, ?_, fun _ _ => isolationApps_of_chain⟩
  intro isolation inbound r d body ids some_app
  rw [Outgoing.isolationApps_base some_app]
  exact splitApps_joinApps_iff

example : splitApps (joinApps ["billing", "", " audit"]) = ["billing", "audit"] := by
  decide +kernel

end MessageBus
