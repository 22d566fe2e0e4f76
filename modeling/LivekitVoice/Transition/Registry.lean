import Mathlib.Data.Finset.Card
import LivekitVoice.Transition.Pool

/-! # Registries of the keys of calls

A set or a map that the calls of a pool share: a call puts its key in at one step and takes it out
at another. If no two calls have the same key, who has put what in can be read off the pool.

* **`Registers key holds l M`** — the keys in `M` are those of the calls that hold theirs,
* **`Indexes key holds l look`** — the map has the numbers of those calls. Two calls may have one
  key, if only one holds it. -/

namespace LivekitVoice.Transition

universe u v

variable {τ : Type u} {κ : Type v} {key : τ → κ} {holds : τ → Bool} {l : List τ} {M M' : κ → Prop}
  {i : Nat} {x y z : τ}

/-- **The keys that are in are those of the calls that hold theirs.** -/
def Registers (key : τ → κ) (holds : τ → Bool) (l : List τ) (M : κ → Prop) : Prop :=
  ∀ k, M k ↔ ∃ x ∈ l, key x = k ∧ holds x

theorem map_set_of_eq (hi : l[i]? = some z) (hkey : key y = key z) :
    (l.set i y).map key = l.map key := by
  rw [List.map_set, hkey]
  refine List.ext_getElem? fun j => ?_
  by_cases hji : j = i
  · subst hji
    rw [List.getElem?_map, hi, List.getElem?_set_self', List.getElem?_map, hi]
    rfl
  · rw [List.getElem?_set_ne (Ne.symm hji)]

theorem eq_of_key_eq (hnodup : (l.map key).Nodup) (hx : x ∈ l) (hy : y ∈ l) (h : key x = key y) :
    x = y :=
  List.inj_on_of_nodup_map hnodup hx hy h

namespace Registers

variable (h : Registers key holds l M)
include h

/-- **Whether the key of a call is in.** -/
theorem mem_iff (hnodup : (l.map key).Nodup) (hx : x ∈ l) : M (key x) ↔ holds x := by
  rw [h (key x)]
  constructor
  · rintro ⟨y, hy, hyx, hholds⟩
    obtain rfl := eq_of_key_eq hnodup hy hx hyx
    exact hholds
  · intro hholds
    exact ⟨x, hx, rfl, hholds⟩

theorem concat (hnew : holds y = false) : Registers key holds (l ++ [y]) M := by
  intro k
  rw [h k]
  simp [hnew, or_and_right, exists_or]

section

variable (hnodup : (l.map key).Nodup)
include hnodup

section

variable (hi : l[i]? = some z)
include hi

/-- **A call steps**: its own key is in if it holds it then, and no other key moves. -/
theorem set (hkey : key y = key z) (hself : M' (key z) ↔ holds y)
    (hothers : ∀ k, k ≠ key z → (M' k ↔ M k)) : Registers key holds (l.set i y) M' := by
  have hy : y ∈ l.set i y := mem_set_stepped hi
  have hnodup' : ((l.set i y).map key).Nodup := by rwa [map_set_of_eq hi hkey]
  intro k
  by_cases hk : k = key z
  · subst hk
    rw [hself]
    constructor
    · intro hholds
      exact ⟨y, hy, hkey, hholds⟩
    · rintro ⟨x, hx, hxk, hholds⟩
      obtain rfl : x = y := eq_of_key_eq hnodup' hx hy (hxk.trans hkey.symm)
      exact hholds
  · rw [hothers k hk, h k]
    -- a call with another key is in the pool before exactly if it is after
    constructor
    · rintro ⟨x, hx, hxk, hholds⟩
      refine ⟨x, mem_set_of_ne hi hx ?_, hxk, hholds⟩
      rintro rfl
      exact hk hxk.symm
    · rintro ⟨x, hx, hxk, hholds⟩
      rcases List.mem_or_eq_of_mem_set hx with hold | rfl
      · exact ⟨x, hold, hxk, hholds⟩
      · exact absurd (hxk.symm.trans hkey) hk

theorem put (hkey : key y = key z) (hholds : holds y)
    (hM : ∀ k, M' k ↔ k = key z ∨ M k) : Registers key holds (l.set i y) M' := by
  refine h.set hnodup hi hkey ?_ fun k hk => ?_
  · simp [hM, hholds]
  · simp [hM, hk]

theorem drop (hkey : key y = key z) (hholds : holds y = false)
    (hM : ∀ k, M' k ↔ k ≠ key z ∧ M k) : Registers key holds (l.set i y) M' := by
  refine h.set hnodup hi hkey ?_ fun k hk => ?_
  · simp [hM, hholds]
  · simp [hM, hk]

theorem set_of_eq (hkey : key y = key z) (hholds : holds y = holds z) :
    Registers key holds (l.set i y) M := by
  refine h.set hnodup hi hkey ?_ fun _ _ => Iff.rfl
  rw [hholds]
  exact h.mem_iff hnodup (List.mem_of_getElem? hi)

end

end

end Registers

/-- **How many keys are in.** -/
theorem Registers.card_eq [DecidableEq κ] {S : Finset κ}
    (h : Registers key holds l (· ∈ S)) (hnodup : (l.map key).Nodup) : S.card = l.countP holds := by
  have hkeys : S = ((l.filter holds).map key).toFinset := by
    ext k
    refine (h k).trans ?_
    simp [List.mem_toFinset, List.mem_map, List.mem_filter, and_assoc, and_comm]
  have hsub : ((l.filter holds).map key).Nodup := hnodup.sublist (List.filter_sublist.map key)
  rw [hkeys, List.toFinset_card_of_nodup hsub, List.length_map, List.countP_eq_length_filter]

/-! ## Maps to the numbers of calls -/

/-- **The map has the number of the call that holds a key.** -/
def Indexes (key : τ → κ) (holds : τ → Bool) (l : List τ) (look : κ → Option Nat) : Prop :=
  ∀ k i, look k = some i ↔ ∃ x, l[i]? = some x ∧ key x = k ∧ holds x

section Indexes

variable {look look' : κ → Option Nat}

namespace Indexes

variable (h : Indexes key holds l look)
include h

theorem concat (hnew : holds y = false) : Indexes key holds (l ++ [y]) look := by
  intro k j
  rw [h k j, exists_getElem?_concat]
  simp [hnew]

theorem enter (hfree : look (key y) = none)
    (hholds : holds y) (hself : look' (key y) = some l.length)
    (hothers : ∀ k, k ≠ key y → look' k = look k) : Indexes key holds (l ++ [y]) look' := by
  intro k j
  rw [exists_getElem?_concat, ← h k j]
  by_cases hk : k = key y
  · subst hk
    simp [hself, hfree, hholds, eq_comm]
  · simp [hothers k hk, Ne.symm hk]

/-- **A call steps** whose key nobody else holds: it is in if it holds it then. -/
theorem set (hi : l[i]? = some z) (hkey : key y = key z)
    (hmine : ∀ j, look (key z) = some j → j = i)
    (hself : look' (key z) = if holds y then some i else none)
    (hothers : ∀ k, k ≠ key z → look' k = look k) : Indexes key holds (l.set i y) look' := by
  intro k j
  rw [exists_getElem?_set hi, hkey]
  by_cases hk : k = key z
  · subst hk
    rw [hself]
    by_cases hji : j = i
    · simp [hji]
    · -- nobody else holds the key, before or after
      rw [if_neg hji, ← h (key z) j]
      refine iff_of_false (fun hsome => hji ?_) fun hheld => hji (hmine j hheld)
      exact (Option.some.inj (Option.ite_none_right_eq_some.mp hsome).2).symm
  · rw [hothers k hk, h k j]
    split
    · next hji => simp [hji, hi, Ne.symm hk]
    · rfl

theorem set_of_eq (hi : l[i]? = some z) (hkey : key y = key z) (hholds : holds y = holds z) :
    Indexes key holds (l.set i y) look := by
  intro k j
  rw [h k j, exists_getElem?_set hi]
  split
  · next hji => simp [hji, hi, hkey, hholds]
  · rfl

end Indexes

end Indexes

end LivekitVoice.Transition
