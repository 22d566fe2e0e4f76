import Mathlib.Algebra.BigOperators.Group.List.Basic

/-! # Pools of calls

The calls in flight of a concurrent system, as a list: a call is named by its position, it begins
by being appended and takes a step by being replaced. This file supplies

* **`getElem?_set_eq_some`** and **`getElem?_concat_eq_some`** — who is in the pool after a step
  and after a call has begun,
* **`forall_set`**, **`forall_concat`** and **`forall_modify`** — the same for a property that all
  calls have,
* **`Distinct f l`** — no two calls of the pool hold the same key `f`,
* **`sum_map_set`**, **`countP_set`** — what a step changes in a quantity that every call
  contributes to. -/

namespace LivekitVoice.Transition

open List

universe u v

variable {τ : Type u} {l : List τ} {i j : Nat} {x y z : τ}

/-- **After a step of call `i`**, a call of the pool is the stepped one or an old one. -/
theorem getElem?_set_eq_some (hi : l[i]? = some z) :
    (l.set i y)[j]? = some x ↔ j = i ∧ x = y ∨ j ≠ i ∧ l[j]? = some x := by
  obtain ⟨hlt, -⟩ := List.getElem?_eq_some_iff.mp hi
  by_cases hji : j = i
  · subst hji
    simp [List.getElem?_set_self hlt, eq_comm]
  · rw [List.getElem?_set_ne (Ne.symm hji)]
    simp [hji]

theorem getElem?_set_stepped (hi : l[i]? = some z) : (l.set i y)[i]? = some y :=
  (getElem?_set_eq_some hi).mpr (.inl ⟨rfl, rfl⟩)

theorem getElem?_set_other (hi : l[i]? = some z) (hji : j ≠ i) (hj : l[j]? = some x) :
    (l.set i y)[j]? = some x :=
  (getElem?_set_eq_some hi).mpr (.inr ⟨hji, hj⟩)

/-- **After a call has begun**, a call of the pool is an old one or the new one. -/
theorem getElem?_concat_eq_some :
    (l ++ [y])[j]? = some x ↔ l[j]? = some x ∨ j = l.length ∧ x = y := by
  -- before, at and after the place of the new call
  rcases Nat.lt_trichotomy j l.length with h | h | h
  · rw [List.getElem?_append_left h]
    simp [Nat.ne_of_lt h]
  · subst h
    simp [eq_comm]
  · have hnone : l[j]? = none := List.getElem?_eq_none (Nat.le_of_lt h)
    have hlen : (l ++ [y]).length ≤ j := by simpa using Nat.succ_le_of_lt h
    rw [List.getElem?_eq_none hlen, hnone]
    simp [Nat.ne_of_gt h]

theorem getElem?_concat_old (hj : l[j]? = some x) : (l ++ [y])[j]? = some x :=
  getElem?_concat_eq_some.mpr (.inl hj)

/-- **Call `j` has a property** after a step of call `i`. -/
theorem exists_getElem?_set {P : τ → Prop} (hi : l[i]? = some z) :
    (∃ x, (l.set i y)[j]? = some x ∧ P x) ↔
      if j = i then P y else ∃ x, l[j]? = some x ∧ P x := by
  split
  · next h => simp [h, getElem?_set_stepped hi]
  · next h => rw [List.getElem?_set_ne (Ne.symm h)]

/-- **Call `j` has a property** after a call has begun. -/
theorem exists_getElem?_concat {P : τ → Prop} : (∃ x, (l ++ [y])[j]? = some x ∧ P x) ↔
    (∃ x, l[j]? = some x ∧ P x) ∨ j = l.length ∧ P y := by
  simp [getElem?_concat_eq_some, or_and_right, exists_or, and_assoc]

theorem mem_set_stepped (hi : l[i]? = some z) : y ∈ l.set i y :=
  mem_of_getElem? (getElem?_set_stepped hi)

theorem mem_set_of_ne (hi : l[i]? = some z) (hx : x ∈ l) (hne : x ≠ z) : x ∈ l.set i y := by
  obtain ⟨j, hj⟩ := mem_iff_getElem?.mp hx
  have hji : j ≠ i := by
    rintro rfl
    exact hne (Option.some.inj (hj.symm.trans hi))
  exact mem_of_getElem? (getElem?_set_other hi hji hj)

theorem forall_mem_set {P : τ → Prop} (hothers : ∀ x ∈ l, P x) (hself : P y) :
    ∀ x ∈ l.set i y, P x := by
  intro x hx
  rcases mem_or_eq_of_mem_set hx with hold | rfl
  · exact hothers x hold
  · exact hself

theorem forall_mem_concat {P : τ → Prop} (hothers : ∀ x ∈ l, P x) (hnew : P y) :
    ∀ x ∈ l ++ [y], P x :=
  forall_mem_append.mpr ⟨hothers, forall_mem_singleton.mpr hnew⟩

/-- **Some call has a property** after a step of one that did not have it. -/
theorem exists_mem_set {P : τ → Prop} (hi : l[i]? = some z) (hz : ¬ P z) :
    (∃ x ∈ l.set i y, P x) ↔ (∃ x ∈ l, P x) ∨ P y := by
  constructor
  · rintro ⟨x, hx, hPx⟩
    rcases mem_or_eq_of_mem_set hx with hold | rfl
    · exact .inl ⟨x, hold, hPx⟩
    · exact .inr hPx
  · rintro (⟨x, hx, hPx⟩ | hPy)
    · exact ⟨x, mem_set_of_ne hi hx fun h => hz (h ▸ hPx), hPx⟩
    · exact ⟨y, mem_set_stepped hi, hPy⟩

theorem forall_set {P : Nat → τ → Prop} (hi : l[i]? = some z)
    (hothers : ∀ j x, j ≠ i → l[j]? = some x → P j x) (hself : P i y) :
    ∀ j x, (l.set i y)[j]? = some x → P j x := by
  intro j x hx
  rcases (getElem?_set_eq_some hi).mp hx with ⟨rfl, rfl⟩ | ⟨hji, hx⟩
  · exact hself
  · exact hothers j x hji hx

theorem forall_concat {P : Nat → τ → Prop} (hothers : ∀ j x, l[j]? = some x → P j x)
    (hnew : P l.length y) : ∀ j x, (l ++ [y])[j]? = some x → P j x := by
  intro j x hx
  rcases getElem?_concat_eq_some.mp hx with hx | ⟨rfl, rfl⟩
  · exact hothers j x hx
  · exact hnew

theorem forall_modify {P : Nat → τ → Prop} {f : τ → τ}
    (hothers : ∀ j x, j ≠ i → l[j]? = some x → P j x) (hself : ∀ x, l[i]? = some x → P i (f x)) :
    ∀ j x, (l.modify i f)[j]? = some x → P j x := by
  intro j x hx
  rw [List.getElem?_modify] at hx
  obtain ⟨y, hy, rfl⟩ := Option.map_eq_some_iff.mp hx
  by_cases hij : i = j
  · subst hij
    rw [if_pos rfl]
    exact hself y hy
  · rw [if_neg hij]
    exact hothers j y (Ne.symm hij) hy

/-- **No two calls hold the same key.** `f x` is the key a call `x` holds, if it holds one. -/
def Distinct {κ : Type v} (f : τ → Option κ) (l : List τ) : Prop :=
  ∀ (i j : Nat) (x y : τ) (k : κ),
    l[i]? = some x → l[j]? = some y → f x = some k → f y = some k → i = j

theorem distinct_nil {κ : Type v} (f : τ → Option κ) : Distinct f [] := by
  intro i j x y k hx
  simp at hx

theorem Distinct.set {κ : Type v} {f : τ → Option κ} (h : Distinct f l) (hi : l[i]? = some z)
    (hkey : ∀ k, f y = some k → ∀ j x, j ≠ i → l[j]? = some x → f x ≠ some k) :
    Distinct f (l.set i y) := by
  intro a b x x' k hx hx' hk hk'
  -- only the stepped call has a new key; the pairs with an old one are what `hkey` is about
  rcases (getElem?_set_eq_some hi).mp hx with ⟨rfl, rfl⟩ | ⟨ha, hold⟩
  · rcases (getElem?_set_eq_some hi).mp hx' with ⟨rfl, rfl⟩ | ⟨hb, hold'⟩
    · rfl
    · exact absurd hk' (hkey k hk b x' hb hold')
  · rcases (getElem?_set_eq_some hi).mp hx' with ⟨rfl, rfl⟩ | ⟨-, hold'⟩
    · exact absurd hk (hkey k hk' a x ha hold)
    · exact h a b x x' k hold hold' hk hk'

theorem Distinct.set_of_le {κ : Type v} {f : τ → Option κ} (h : Distinct f l)
    (hi : l[i]? = some z) (hle : ∀ k, f y = some k → f z = some k) : Distinct f (l.set i y) :=
  h.set hi fun k hk j x hji hx hxk => hji (h j i x z k hx hi hxk (hle k hk))

theorem Distinct.concat {κ : Type v} {f : τ → Option κ} (h : Distinct f l)
    (hkey : ∀ k, f y = some k → ∀ x ∈ l, f x ≠ some k) : Distinct f (l ++ [y]) := by
  intro a b x x' k hx hx' hk hk'
  rcases getElem?_concat_eq_some.mp hx with hold | ⟨rfl, rfl⟩
  · rcases getElem?_concat_eq_some.mp hx' with hold' | ⟨rfl, rfl⟩
    · exact h a b x x' k hold hold' hk hk'
    · exact absurd hk (hkey k hk' x (mem_of_getElem? hold))
  · rcases getElem?_concat_eq_some.mp hx' with hold' | ⟨rfl, -⟩
    · exact absurd hk' (hkey k hk x' (mem_of_getElem? hold'))
    · rfl

/-- **A step in a sum over the pool** replaces the contribution of the call that steps. -/
theorem sum_map_set {M : Type v} [AddCommMonoid M] {f : τ → M} (hi : l[i]? = some z) :
    ((l.set i y).map f).sum + f z = (l.map f).sum + f y := by
  induction l generalizing i with
  | nil => simp at hi
  | cons a l ih =>
    cases i with
    | zero =>
      obtain rfl : a = z := by simpa using hi
      rw [set_cons_zero, map_cons, map_cons, sum_cons, sum_cons]
      rw [add_right_comm, add_right_comm (f a), add_comm (f y)]
    | succ i =>
      rw [set_cons_succ, map_cons, map_cons, sum_cons, sum_cons]
      rw [add_assoc, ih (by simpa using hi), add_assoc]

/-- **A step in a count over the pool** replaces the call that steps. -/
theorem countP_set {p : τ → Bool} (hi : l[i]? = some z) :
    (l.set i y).countP p + (p z).toNat = l.countP p + (p y).toNat := by
  induction l generalizing i with
  | nil => simp at hi
  | cons a l ih =>
    cases i with
    | zero =>
      obtain rfl : a = z := by simpa using hi
      rw [set_cons_zero, countP_cons, countP_cons]
      cases p a <;> cases p y <;> simp
    | succ i =>
      have hrest := ih (by simpa using hi)
      rw [set_cons_succ, countP_cons, countP_cons]
      omega

end LivekitVoice.Transition
