/-! # Results of fallible steps

How a computation that fails at its first failing step ends: with the value of the last step if all
succeed, and with the error of the first that does not.

* **`bind_eq_ok_iff`**, **`bind_eq_error_iff`** — the two ends of a sequence of steps. -/

namespace LivekitVoice

variable {ε α β : Type} {x : Except ε α} {f : α → Except ε β}

/-- **A check passes, and then the rest succeeds.** -/
theorem bind_eq_ok_iff {b : β} : x >>= f = .ok b ↔ ∃ a, x = .ok a ∧ f a = .ok b := by
  cases x <;> simp [bind, Except.bind]

/-- **A check fails, or it passes and then the rest fails.** -/
theorem bind_eq_error_iff {e : ε} :
    x >>= f = .error e ↔ x = .error e ∨ ∃ a, x = .ok a ∧ f a = .error e := by
  cases x <;> simp [bind, Except.bind]

@[simp] theorem ok_bind {a : α} : ((.ok a : Except ε α) >>= f) = f a := rfl

theorem toOption_eq_none_iff : x.toOption = none ↔ ∃ e, x = .error e := by
  cases x <;> simp [Except.toOption]

theorem toOption_map_bind {γ : Type} (x : Except ε α) (f : α → β) (g : β → γ) :
    (x >>= fun a => pure (f a)).toOption.map g = x.toOption.map fun a => g (f a) := by
  cases x <;> rfl

end LivekitVoice
