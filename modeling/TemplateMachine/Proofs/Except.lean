/-!
# Computations that may fail

When a computation in `Except` succeeds: exactly if each of its steps does; and when it fails: with
the error of the first step that does. Proofs about encoders, operands and instances take such
computations apart with these laws instead of unfolding the monad.
-/

namespace TemplateMachine

variable {ε α β : Type}

/-- A sequence succeeds exactly if its first part does and the rest does with that result. -/
theorem bind_eq_ok_iff {x : Except ε α} {f : α → Except ε β} {b : β} :
    (x >>= f) = .ok b ↔ ∃ a, x = .ok a ∧ f a = .ok b := by
  cases x with
  | ok a =>
    change f a = .ok b ↔ _
    simp
  | error e =>
    change Except.error e = .ok b ↔ _
    simp

/-- A pure computation succeeds with its value. -/
@[simp] theorem pure_eq_ok_iff {a b : α} : (pure a : Except ε α) = .ok b ↔ a = b := by
  change Except.ok a = .ok b ↔ _
  simp

/-- A sequence fails exactly if its first part does, or the rest does with the result of that. -/
theorem bind_eq_error_iff {x : Except ε α} {f : α → Except ε β} {e : ε} :
    (x >>= f) = .error e ↔ x = .error e ∨ ∃ a, x = .ok a ∧ f a = .error e := by
  cases x with
  | ok a =>
    change f a = .error e ↔ _
    simp
  | error other =>
    change Except.error other = .error e ↔ _
    simp

/-- A pure computation does not fail. -/
@[simp] theorem pure_ne_error {a : α} {e : ε} : (pure a : Except ε α) ≠ .error e :=
  fun h => nomatch h

/-- A computation whose result is only wrapped fails as it would by itself. -/
theorem bind_pure_eq_error_iff {x : Except ε α} {g : α → β} {e : ε} :
    (x >>= fun a => pure (g a)) = .error e ↔ x = .error e := by
  simp only [bind_eq_error_iff, pure_ne_error, and_false, exists_false, or_false]

/-- A thrown error is the error of the computation. -/
@[simp] theorem throw_eq_error_iff {e other : ε} :
    (throw e : Except ε α) = .error other ↔ e = other := by
  change Except.error e = .error other ↔ _
  simp

/-- A computation that combines the results of two others fails with the error of the first one if
that fails, and else with that of the second one. -/
theorem map₂_eq_error_iff {γ : Type} {x : Except ε α} {y : Except ε β} {g : α → β → γ} {e : ε} :
    (do let a ← x; let b ← y; pure (g a b)) = .error e ↔
      x = .error e ∨ (∃ a, x = .ok a) ∧ y = .error e := by
  rw [bind_eq_error_iff]
  simp only [bind_pure_eq_error_iff, exists_and_right]

/-- A computation succeeds exactly if it fails with no error. -/
theorem exists_eq_ok_iff {x : Except ε α} : (∃ a, x = .ok a) ↔ ∀ e, x ≠ .error e := by
  cases x <;> simp

/-- A sequence whose first part succeeds goes on with its result. -/
@[simp] theorem ok_bind {a : α} {f : α → Except ε β} : (Except.ok a >>= f) = f a := rfl

end TemplateMachine
