import Mathlib.Data.List.TakeWhile

/-!
# Runs of characters

A run of characters of a kind is the longest one at the start of a text when nothing behind it goes
on it. Readers that take longest runs are compared with a grammar by this: a text is cut into a run
and such a rest in one way.
-/

namespace TemplateMachine

/-- Characters that do not go on a run. -/
def Stops (p : Char → Bool) (rest : List Char) : Prop :=
  ∀ c ∈ rest.head?, p c = false

variable {p : Char → Bool} {run rest : List Char}

/-- What is left behind the longest run does not go on it. -/
theorem stops_dropWhile (chars : List Char) : Stops p (chars.dropWhile p) := by
  intro c first
  have stop := List.head?_dropWhile_not p chars
  rwa [Option.mem_def.mp first] at stop

/-- A run with nothing behind it that goes on it is the longest one. -/
theorem takeWhile_run (all : ∀ c ∈ run, p c) (stop : Stops p rest) :
    (run ++ rest).takeWhile p = run := by
  rw [List.takeWhile_append_of_pos all]
  cases rest with
  | nil => simp
  | cons c rest => rw [List.takeWhile_cons_of_neg (by simp [stop c rfl]), List.append_nil]

/-- What is left behind such a run is what stood there. -/
theorem dropWhile_run (all : ∀ c ∈ run, p c) (stop : Stops p rest) :
    (run ++ rest).dropWhile p = rest := by
  rw [List.dropWhile_append_of_pos all]
  cases rest with
  | nil => rfl
  | cons c rest => rw [List.dropWhile_cons_of_neg (by simp [stop c rfl])]

/-- A text has one run with nothing behind it that goes on it. -/
theorem run_unique {run' rest' : List Char} (all : ∀ c ∈ run, p c) (stop : Stops p rest)
    (all' : ∀ c ∈ run', p c) (stop' : Stops p rest') (same : run ++ rest = run' ++ rest') :
    run = run' ∧ rest = rest' :=
  ⟨by rw [← takeWhile_run all stop, same, takeWhile_run all' stop'],
    by rw [← dropWhile_run all stop, same, dropWhile_run all' stop']⟩

/-- A part of a run that ends where something else starts is at the start of it. -/
theorem prefix_of_run {start other : List Char} (start_all : ∀ c ∈ start, p c)
    (all : ∀ c ∈ run, p c) (stop : Stops p rest) (same : start ++ other = run ++ rest) :
    start <+: run := by
  rw [← takeWhile_run all stop, ← same, List.takeWhile_append_of_pos start_all]
  exact List.prefix_append _ _

end TemplateMachine
