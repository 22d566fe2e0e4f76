import Mathlib.Data.List.Count
import Mathlib.Data.List.Nodup

/-! # Things that are done once

Two ways in which a system sees to it that something is done once for each key. In a *record*,
whoever enters a key that was not there does the thing. In a *sweep*, keys are issued to callers;
there is one sweep, which does the thing for all that are there, and a caller whose key was issued
does it itself if it finds that the sweep is over. What has been done is counted, with what somebody
is about to do.

* **`Recorded.count_eq_one`** and **`Swept.count_eq_one`** — it is done once. -/

namespace LivekitVoice.Transition

open List

universe u

/-! ## A record -/

section Record

variable {κ : Type u} [DecidableEq κ]

/-- **A record** of distinct keys; `n` says how often the thing was done. -/
structure Recorded (keys : List κ) (n : κ → Nat) : Prop where
  nodup : keys.Nodup
  count : ∀ k, n k = keys.count k

theorem recorded_nil {n : κ → Nat} (h : ∀ k, n k = 0) : Recorded [] n where
  nodup := nodup_nil
  count := h

variable {keys : List κ} {n n' : κ → Nat}

theorem Recorded.congr (h : Recorded keys n) (hn : ∀ k, n' k = n k) : Recorded keys n' where
  nodup := h.nodup
  count k := (hn k).trans (h.count k)

/-- **A new key** is entered, and the thing is done for it. -/
theorem Recorded.enter (h : Recorded keys n) {k : κ} (hnew : k ∉ keys)
    (hn : ∀ k', n' k' = n k' + [k].count k') : Recorded (keys ++ [k]) n' where
  nodup := by
    rw [nodup_append']
    exact ⟨h.nodup, nodup_singleton k, disjoint_singleton.mpr hnew⟩
  count k' := by rw [hn, h.count, count_append]

theorem Recorded.count_eq_one (h : Recorded keys n) {k : κ} (hk : k ∈ keys) : n k = 1 := by
  rw [h.count]
  exact count_eq_one_of_mem h.nodup hk

end Record

/-! ## A sweep -/

section Sweep

variable {ι : Type u}

/-- **A sweep.** The keys `live` are those of the `issued` ones that were not taken back; `asking`
are those whose callers have yet to look whether it is over. -/
structure Swept (past : Bool) (issued live : List ι) (asking : ι → Prop) (n : ι → Nat) : Prop where
  nodup : live.Nodup
  known : ∀ k ∈ live, k ∈ issued
  fresh : ∀ k, k ∉ issued → n k = 0
  /-- Before the sweep, nothing is done. -/
  ahead : past = false → ∀ k ∈ live, n k = 0
  /-- After it, the thing is done or somebody is there to do it. -/
  behind : past → ∀ k ∈ live, n k = 1 ∨ n k = 0 ∧ asking k

theorem swept_nil {asking : ι → Prop} {n : ι → Nat} (h : ∀ k, n k = 0) :
    Swept false [] [] asking n where
  nodup := nodup_nil
  known := nofun
  fresh k _ := h k
  ahead _ k _ := h k
  behind := nofun

variable {past : Bool} {issued live : List ι} {asking asking' : ι → Prop} {n n' : ι → Nat}

namespace Swept

variable (h : Swept past issued live asking n)
include h

theorem congr (hn : ∀ k, n' k = n k) (hasking : past → ∀ k, asking k → asking' k) :
    Swept past issued live asking' n' where
  __ := h
  fresh k hk := (hn k).trans (h.fresh k hk)
  ahead hpast k hk := (hn k).trans (h.ahead hpast k hk)
  behind hpast k hk := by
    rw [hn]
    exact (h.behind hpast k hk).imp_right fun hzero => ⟨hzero.1, hasking hpast k hzero.2⟩

/-- **A key is issued** to somebody who asks. -/
theorem issue {k : ι} (hnew : k ∉ issued)
    (hn : ∀ k, n' k = n k) (hk : asking' k) (hasking : ∀ k, asking k → asking' k) :
    Swept past (issued ++ [k]) (live ++ [k]) asking' n' where
  nodup := by
    rw [nodup_append']
    exact ⟨h.nodup, nodup_singleton k,
      disjoint_singleton.mpr fun hmem => hnew (h.known k hmem)⟩
  known k' hk' := by
    rcases mem_append.mp hk' with hk' | hk'
    · exact mem_append_left _ (h.known k' hk')
    · exact mem_append_right _ hk'
  fresh k' hk' := by
    rw [mem_append, not_or] at hk'
    rw [hn]
    exact h.fresh k' hk'.1
  ahead hpast k' hk' := by
    rw [hn]
    rcases mem_append.mp hk' with hk' | hk'
    · exact h.ahead hpast k' hk'
    · rw [mem_singleton.mp hk']
      exact h.fresh k hnew
  behind hpast k' hk' := by
    rw [hn]
    rcases mem_append.mp hk' with hk' | hk'
    · exact (h.behind hpast k' hk').imp_right fun hzero => ⟨hzero.1, hasking k' hzero.2⟩
    · rw [mem_singleton.mp hk']
      exact .inr ⟨h.fresh k hnew, hk⟩

/-- **Keys are taken back.** -/
theorem withdraw {live' : List ι}
    (hlive : live'.Sublist live) : Swept past issued live' asking n where
  nodup := h.nodup.sublist hlive
  known k hk := h.known k (hlive.subset hk)
  fresh := h.fresh
  ahead hpast k hk := h.ahead hpast k (hlive.subset hk)
  behind hpast k hk := h.behind hpast k (hlive.subset hk)

end Swept

/-- **The sweep** takes place. -/
theorem Swept.sweep [DecidableEq ι] (h : Swept false issued live asking n)
    (hn : ∀ k, n' k = n k + live.count k) : Swept true issued live asking n' where
  __ := h
  fresh k hk := by
    rw [hn, h.fresh k hk, count_eq_zero_of_not_mem fun hmem => hk (h.known k hmem)]
  ahead := nofun
  behind _ k hk := by
    rw [hn, h.ahead rfl k hk, count_eq_one_of_mem h.nodup hk]
    exact .inl rfl

/-- **Somebody finds the sweep over**, and nothing done. -/
theorem Swept.serve [DecidableEq ι] (h : Swept true issued live asking n) {k : ι}
    (hissued : k ∈ issued) (hzero : n k = 0) (hn : ∀ k', n' k' = n k' + [k].count k')
    (hasking : ∀ k', k' ≠ k → asking k' → asking' k') : Swept true issued live asking' n' where
  __ := h
  fresh k' hk' := by
    have hne : k' ∉ [k] := fun hmem => hk' (mem_singleton.mp hmem ▸ hissued)
    rw [hn, h.fresh k' hk', count_eq_zero_of_not_mem hne]
  ahead := nofun
  behind _ k' hk' := by
    rw [hn]
    by_cases heq : k' = k
    · subst heq
      rw [hzero, count_singleton_self]
      exact .inl rfl
    · rw [count_eq_zero_of_not_mem (by simpa using heq)]
      exact (h.behind rfl k' hk').imp_right fun hzero' => ⟨hzero'.1, hasking k' heq hzero'.2⟩

theorem Swept.count_eq_one (h : Swept true issued live asking n) (hquiet : ∀ k, ¬ asking k) {k : ι}
    (hk : k ∈ live) : n k = 1 := by
  rcases h.behind rfl k hk with hone | ⟨-, hask⟩
  · exact hone
  · exact absurd hask (hquiet k)

end Sweep

end LivekitVoice.Transition
