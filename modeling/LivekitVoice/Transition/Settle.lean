import Mathlib.Data.List.Basic

/-! # Passes that settle keys

A pass goes through a list and takes up some keys of a state at every element: it brings them into
the condition that is wanted, and leaves all other keys alone. What the whole pass settles is what
its steps settle, however often a key is taken up.

* **`Settles`** — the keys that were settled are as wanted, and the others look the same,
* **`settles_foldl`** — a pass settles what one of its steps settles. -/

namespace LivekitVoice.Transition

variable {σ ι κ ν : Type}

/-- **The keys `D` were settled** between two states, of which each key has a view. -/
structure Settles (view : σ → κ → ν) (wanted : ν → Prop) (D : κ → Prop) (s s' : σ) : Prop where
  settled : ∀ k, D k → wanted (view s' k)
  same : ∀ k, ¬ D k → view s' k = view s k

variable {view : σ → κ → ν} {wanted : ν → Prop} {D D' : κ → Prop} {s s' s'' : σ}

theorem settles_of_same (hD : ∀ k, ¬ D k) (hsame : ∀ k, view s' k = view s k) :
    Settles view wanted D s s' where
  settled k hk := absurd hk (hD k)
  same k _ := hsame k

theorem Settles.congr (h : Settles view wanted D s s') (hD : ∀ k, D k ↔ D' k) :
    Settles view wanted D' s s' where
  settled k hk := h.settled k ((hD k).mpr hk)
  same k hk := h.same k fun hk' => hk ((hD k).mp hk')

/-- **One after the other**: a key that the second leaves alone is as the first has left it. -/
theorem Settles.trans (h : Settles view wanted D s s') (h' : Settles view wanted D' s' s'') :
    Settles view wanted (fun k => D k ∨ D' k) s s'' where
  settled k hk := by
    by_cases hk' : D' k
    · exact h'.settled k hk'
    · rw [h'.same k hk']
      exact h.settled k (hk.resolve_right hk')
  same k hk := by
    rw [h'.same k fun hk' => hk (.inr hk'), h.same k fun hk' => hk (.inl hk')]

/-- **A pass**, of which every step keeps an invariant and settles its own keys. -/
theorem settles_foldl {f : σ → ι → σ} {I : σ → Prop} {D : ι → κ → Prop}
    (hstep : ∀ s x, I s → I (f s x) ∧ Settles view wanted (D x) s (f s x)) (l : List ι) (hs : I s) :
    I (l.foldl f s) ∧ Settles view wanted (fun k => ∃ x ∈ l, D x k) s (l.foldl f s) := by
  induction l generalizing s with
  | nil => exact ⟨hs, settles_of_same (fun k hk => by simp at hk) fun _ => rfl⟩
  | cons x l ih =>
    obtain ⟨hx, hsettles⟩ := hstep s x hs
    obtain ⟨hl, hrest⟩ := ih hx
    exact ⟨hl, (hsettles.trans hrest).congr fun k => by simp⟩

end LivekitVoice.Transition
