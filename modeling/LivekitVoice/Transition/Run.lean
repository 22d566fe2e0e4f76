import Mathlib.Data.List.Basic

/-! # Runs of partial labelled step functions

A component is given by a step function `step : σ → α → Option σ`: an action either is not
enabled (`none`) or leads to one successor state. A schedule is a list of actions and
`run step s as` is the state it leads to. This file supplies

* **`Along step G s as`** — every action of the schedule meets the condition `G` in the state it
  is taken in (a condition on the environment or on the scheduler),
* the **invariant rules** `run_invariant` and `run_invariant_along`,
* **`throughout_iff_along`** — a condition on the actions that is not only enough but needed,
* the **variant rule** `run_length_add_le`,
* **`run_flatMap`** — what a run adds to an append-only observation of the state. -/

namespace LivekitVoice.Transition

universe u v w

variable {σ : Type u} {α : Type v} {step : σ → α → Option σ}

/-- The state reached by taking the actions of a schedule one after another; `none` as soon as
one of them is not enabled. -/
def run (step : σ → α → Option σ) : σ → List α → Option σ
  | s, [] => some s
  | s, a :: as => (step s a).bind fun s' => run step s' as

@[simp] theorem run_nil (s : σ) : run step s [] = some s := rfl

theorem run_cons (s : σ) (a : α) (as : List α) :
    run step s (a :: as) = (step s a).bind fun s' => run step s' as := rfl

variable {s s' : σ} {a : α} {as : List α} {G : σ → α → Prop} {I : σ → Prop}

theorem run_cons_eq_some :
    run step s (a :: as) = some s' ↔ ∃ t, step s a = some t ∧ run step t as = some s' := by
  rw [run_cons, Option.bind_eq_some_iff]

theorem run_singleton (h : step s a = some s') : run step s [a] = some s' :=
  run_cons_eq_some.mpr ⟨s', h, rfl⟩

theorem run_append (s : σ) (as bs : List α) :
    run step s (as ++ bs) = (run step s as).bind fun t => run step t bs := by
  induction as generalizing s with
  | nil => rfl
  | cons a as ih =>
    rw [List.cons_append, run_cons, run_cons]
    cases hstep : step s a with
    | none => rfl
    | some t => simpa using ih t

/-- **Every action meets a condition.** `Along step G s as`: each action of the schedule `as`
satisfies `G` in the state in which it is taken, starting from `s`. -/
def Along (step : σ → α → Option σ) (G : σ → α → Prop) : σ → List α → Prop
  | _, [] => True
  | s, a :: as => G s a ∧ ∀ s', step s a = some s' → Along step G s' as

theorem along_cons :
    Along step G s (a :: as) ↔ G s a ∧ ∀ s', step s a = some s' → Along step G s' as := Iff.rfl

/-- A decidable condition can be checked along a schedule by running it. -/
instance decidableAlong (G : σ → α → Prop) [∀ s a, Decidable (G s a)] :
    (s : σ) → (as : List α) → Decidable (Along step G s as)
  | _, [] => isTrue trivial
  | s, a :: as =>
    match hstep : step s a with
    | none => decidable_of_iff (G s a) (by simp [along_cons, hstep])
    | some t =>
      have := decidableAlong G t as
      decidable_of_iff (G s a ∧ Along step G t as) (by simp [along_cons, hstep])

theorem along_of_forall_mem {P : α → Prop} (h : ∀ a ∈ as, P a) :
    Along step (fun _ a => P a) s as := by
  induction as generalizing s with
  | nil => trivial
  | cons a as ih =>
    exact ⟨h a List.mem_cons_self, fun _ _ => ih fun b hb => h b (List.mem_cons_of_mem a hb)⟩

/-- **Guarded invariant rule.** What every step that meets the condition `G` preserves holds at
the end of every run along which `G` is met. -/
theorem run_invariant_along (hstep : ∀ s a s', I s → G s a → step s a = some s' → I s') (hI : I s)
    (hG : Along step G s as) (hrun : run step s as = some s') : I s' := by
  induction as generalizing s with
  | nil =>
    obtain rfl : s = s' := Option.some.inj hrun
    exact hI
  | cons a as ih =>
    obtain ⟨t, hst, htail⟩ := run_cons_eq_some.mp hrun
    exact ih (hstep s a t hI hG.1 hst) (hG.2 t hst) htail

/-- **Invariant rule.** What every step preserves holds at the end of every run. -/
theorem run_invariant (hstep : ∀ s a s', I s → step s a = some s' → I s') (hI : I s)
    (hrun : run step s as = some s') : I s' := by
  have hG : Along step (fun _ _ => True) s as := along_of_forall_mem fun _ _ => trivial
  exact run_invariant_along (fun s a s' hI _ h => hstep s a s' hI h) hI hG hrun

/-- **Every state along a schedule** has the property. -/
def Throughout (step : σ → α → Option σ) (P : σ → Prop) (s : σ) (as : List α) : Prop :=
  ∀ n s', run step s (as.take n) = some s' → P s'

theorem Along.take (h : Along step G s as) (n : Nat) : Along step G s (as.take n) := by
  induction as generalizing s n with
  | nil => simpa using h
  | cons a as ih =>
    cases n with
    | zero => trivial
    | succ n => exact ⟨h.1, fun t ht => ih (h.2 t ht) n⟩

/-- **Guarded invariant rule**, for every state along a schedule. -/
theorem throughout_of_along (hstep : ∀ s a s', I s → G s a → step s a = some s' → I s') (hI : I s)
    (hG : Along step G s as) : Throughout step I s as :=
  fun n _ hrun => run_invariant_along hstep hI (hG.take n) hrun

/-- **Exact condition.** Along a schedule that meets `H`: if the steps that also meet the condition
`G` keep `I`, and those that do not destroy `P`, then every state along the schedule has `P` exactly
if `G` is met along it. -/
theorem throughout_iff_along_of {H : σ → α → Prop} {P : σ → Prop} (hP : ∀ s, I s → P s)
    (hidle : ∀ s a, I s → step s a = none → G s a)
    (hkeep : ∀ s a s', I s → H s a → G s a → step s a = some s' → I s')
    (hbreak : ∀ s a s', I s → H s a → step s a = some s' → P s' → G s a) (hI : I s)
    (hH : Along step H s as) : Throughout step P s as ↔ Along step G s as := by
  induction as generalizing s with
  | nil =>
    refine iff_of_true (fun n s' hrun => ?_) trivial
    rw [List.take_nil] at hrun
    exact Option.some.inj hrun ▸ hP s hI
  | cons a as ih =>
    cases hstep : step s a with
    | none =>
      refine iff_of_true (fun n s' hrun => ?_) ⟨hidle s a hI hstep, fun t ht => ?_⟩
      · cases n with
        | zero => exact Option.some.inj hrun ▸ hP s hI
        | succ n =>
          obtain ⟨t, ht, -⟩ := run_cons_eq_some.mp hrun
          simp [hstep] at ht
      · simp [hstep] at ht
    | some t =>
      constructor
      · intro hall
        have hG : G s a := hbreak s a t hI hH.1 hstep (hall 1 t (run_singleton hstep))
        refine ⟨hG, fun t' ht' =>
          (ih (hkeep s a t' hI hH.1 hG ht') (hH.2 t' ht')).mp fun n s' hrun => ?_⟩
        exact hall (n + 1) s' (run_cons_eq_some.mpr ⟨t', ht', hrun⟩)
      · rintro ⟨hG, hrest⟩ n s' hrun
        cases n with
        | zero => exact Option.some.inj hrun ▸ hP s hI
        | succ n =>
          obtain ⟨t', ht', htail⟩ := run_cons_eq_some.mp hrun
          exact (ih (hkeep s a t' hI hH.1 hG ht') (hH.2 t' ht')).mpr (hrest t' ht') n s' htail

/-- **Exact condition**, along any schedule. -/
theorem throughout_iff_along {P : σ → Prop} (hP : ∀ s, I s → P s)
    (hidle : ∀ s a, step s a = none → G s a)
    (hkeep : ∀ s a s', I s → G s a → step s a = some s' → I s')
    (hbreak : ∀ s a s', I s → step s a = some s' → P s' → G s a) (hI : I s) :
    Throughout step P s as ↔ Along step G s as := by
  have hH : Along step (fun _ _ => True) s as := along_of_forall_mem fun _ _ => trivial
  exact throughout_iff_along_of hP (fun s a _ h => hidle s a h)
    (fun s a s' hI _ hG h => hkeep s a s' hI hG h) (fun s a s' hI _ h hP => hbreak s a s' hI h hP)
    hI hH

/-- **Guarded variant rule.** If every step that meets the condition `G` keeps `I` and makes the
measure `μ` smaller, a run along which `G` is met has at most as many steps as `μ` says. -/
theorem run_length_add_le {μ : σ → Nat}
    (hstep : ∀ s a s', I s → G s a → step s a = some s' → I s' ∧ μ s' < μ s) (hI : I s)
    (hG : Along step G s as) (hrun : run step s as = some s') :
    as.length + μ s' ≤ μ s := by
  induction as generalizing s with
  | nil =>
    obtain rfl : s = s' := Option.some.inj hrun
    simp
  | cons a as ih =>
    obtain ⟨t, hst, htail⟩ := run_cons_eq_some.mp hrun
    obtain ⟨hIt, hlt⟩ := hstep s a t hI hG.1 hst
    have hle := ih hIt (hG.2 t hst) htail
    rw [List.length_cons]
    omega

/-- **Append-only observations.** If every step `a` appends `g a` to the observation `f` of the
state, a run appends the concatenation of what its actions append. -/
theorem run_flatMap {β : Type w} {f : σ → List β} {g : α → List β}
    (hstep : ∀ s a s', step s a = some s' → f s' = f s ++ g a)
    (hrun : run step s as = some s') : f s' = f s ++ as.flatMap g := by
  induction as generalizing s with
  | nil =>
    obtain rfl : s = s' := Option.some.inj hrun
    simp
  | cons a as ih =>
    obtain ⟨t, hst, htail⟩ := run_cons_eq_some.mp hrun
    rw [ih htail, hstep s a t hst, List.flatMap_cons, List.append_assoc]

end LivekitVoice.Transition
