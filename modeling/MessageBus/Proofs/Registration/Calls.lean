import MessageBus.Registration.Error

/-!
# Calls on a registry

A registry is filled by calls, and each of them is accepted or refused; the next one goes on with
what it has left behind. Where refused calls leave the registry as it is, it is filled by the
accepted ones, in order, and the answers to all other calls are as if a refused one had not been
made.
-/

namespace MessageBus.Calls

variable {ρ α β : Type}

section Definitions

variable (register : α → Registering ρ Unit)

def run (registry : ρ) (calls : List α) : ρ :=
  calls.foldl (fun registry call => (register call registry).2) registry

/-- For each call the error that refuses it, or none. -/
def answers (registry : ρ) : List α → List (Option RegistrationError)
  | [] => []
  | call :: rest =>
    match register call registry with
    | (.ok _, next) => none :: answers next rest
    | (.error problem, next) => some problem :: answers next rest

def accepted (registry : ρ) : List α → List α
  | [] => []
  | call :: rest =>
    match register call registry with
    | (.ok _, next) => call :: accepted next rest
    | (.error _, next) => accepted next rest

def AllAccepted (registry : ρ) (calls : List α) : Prop :=
  ∀ answer ∈ answers register registry calls, answer = none

/-- A call that is refused leaves the registry as it is. -/
def Keeps : Prop :=
  ∀ registry call problem, (register call registry).1 = .error problem →
    (register call registry).2 = registry

/-- Wherever a call is refused, it leaves the registry that it has found, and all that follows is as
without it: the other answers and the registry in the end. -/
def Undisturbed (registry : ρ) (calls : List α) : Prop :=
  ∀ before call rest problem, calls = before ++ call :: rest →
    (register call (run register registry before)).1 = .error problem →
    (register call (run register registry before)).2 = run register registry before ∧
      run register registry calls = run register registry (before ++ rest) ∧
      (answers register registry calls).eraseIdx before.length =
        answers register registry (before ++ rest)

end Definitions

variable {register : α → Registering ρ Unit} {registry : ρ}

theorem run_append (registry : ρ) (before rest : List α) :
    run register registry (before ++ rest) = run register (run register registry before) rest :=
  List.foldl_append ..

theorem length_answers (registry : ρ) (calls : List α) :
    (answers register registry calls).length = calls.length := by
  induction calls generalizing registry with
  | nil => rfl
  | cons call rest ih =>
    rw [answers]
    split <;> rw [List.length_cons, List.length_cons, ih]

theorem answers_append (registry : ρ) (before rest : List α) :
    answers register registry (before ++ rest) =
      answers register registry before ++ answers register (run register registry before) rest := by
  induction before generalizing registry with
  | nil => rfl
  | cons call before ih =>
    rw [List.cons_append, answers, answers, run, List.foldl_cons]
    rcases register call registry with ⟨problem | _, next⟩ <;>
      exact congrArg (_ :: ·) (ih next)

theorem undisturbed (keeps : Keeps register) (registry : ρ) (calls : List α) :
    Undisturbed register registry calls := by
  rintro before call rest problem rfl refused
  have kept := keeps _ call problem refused
  refine ⟨kept, ?_, ?_⟩
  · rw [run_append, run_append]
    exact congrArg (run register · rest) kept
  · have answered : register call (run register registry before) =
        (.error problem, run register registry before) := Prod.ext refused kept
    rw [answers_append, answers_append, answers, answered,
      List.eraseIdx_append_of_length_le (Nat.le_of_eq (length_answers ..)), length_answers,
      Nat.sub_self, List.eraseIdx_cons_zero]

/-- A registry that stands for a list, to which each accepted call adds, stands for all that the
accepted calls have added. -/
theorem stands_run {Stands : ρ → List β → Prop} {adds : α → List β} (keeps : Keeps register)
    (step : ∀ registry stored call, Stands registry stored → (register call registry).1 = .ok () →
      Stands (register call registry).2 (stored ++ adds call))
    {stored : List β} (stands : Stands registry stored) (calls : List α) :
    Stands (run register registry calls)
      (stored ++ (accepted register registry calls).flatMap adds) := by
  induction calls generalizing registry stored with
  | nil => exact (List.append_nil stored).symm ▸ stands
  | cons call rest ih =>
    rw [run, List.foldl_cons, accepted]
    cases answer : (register call registry).1 with
    | ok _ =>
      have answered : register call registry = (.ok (), (register call registry).2) :=
        Prod.ext answer rfl
      have next := ih (step registry stored call stands answer)
      rw [answered, List.flatMap_cons, ← List.append_assoc]
      exact next
    | error problem =>
      have answered : register call registry = (.error problem, registry) :=
        Prod.ext answer (keeps registry call problem answer)
      rw [answered]
      exact ih stands

theorem allAccepted_cons (call : α) (rest : List α) :
    AllAccepted register registry (call :: rest) ↔
      (register call registry).1 = .ok () ∧
        AllAccepted register (register call registry).2 rest := by
  rw [AllAccepted, answers]
  rcases register call registry with ⟨problem | _, next⟩ <;> simp [AllAccepted]

theorem accepted_of_allAccepted {calls : List α} (all : AllAccepted register registry calls) :
    accepted register registry calls = calls := by
  induction calls generalizing registry with
  | nil => rfl
  | cons call rest ih =>
    obtain ⟨ok, others⟩ := (allAccepted_cons call rest).mp all
    have answered : register call registry = (.ok (), (register call registry).2) :=
      Prod.ext ok rfl
    rw [accepted, answered]
    exact congrArg _ (ih others)

end MessageBus.Calls
