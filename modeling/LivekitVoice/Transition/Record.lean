import Mathlib.Data.List.Basic
import Mathlib.Data.List.Induction

/-! # Records of what has happened

A component that keeps a record of events appends to it, step by step. That some events came in a
certain order is that they form a sublist of the record; that an event came only after others is
that every event fits the record up to it.

* **`concat_sublist_concat_iff`** — events that came in a certain order after one more event has
  been recorded: they did before, or the last of them is the new one,
* **`Preceded.concat`** — one more event that fits what has been recorded. -/

namespace LivekitVoice.Transition

open List

universe u

variable {β : Type u} {l log : List β} {b e : β}

/-- **One more event**: a series that has happened by then had happened before, or is completed by
the new event. -/
theorem concat_sublist_concat_iff :
    (l ++ [b]).Sublist (log ++ [e]) ↔ (l ++ [b]).Sublist log ∨ b = e ∧ l.Sublist log := by
  -- read backwards, the new event comes first
  rw [← reverse_sublist, reverse_append, reverse_append, reverse_singleton,
    reverse_singleton, singleton_append, singleton_append, cons_sublist_cons',
    reverse_sublist]
  have hflip : (b :: l.reverse).Sublist log.reverse ↔ (l ++ [b]).Sublist log := by
    rw [← reverse_sublist, reverse_reverse, reverse_cons, reverse_reverse]
  rw [hflip]

/-- **Every event fits** the record up to it. -/
def Preceded (P : List β → β → Prop) (log : List β) : Prop :=
  ∀ a e c, log = a ++ e :: c → P a e

variable {P : List β → β → Prop}

theorem preceded_nil : Preceded P [] := by
  intro a e c h
  simp at h

/-- **One more event** that fits. -/
theorem Preceded.concat (h : Preceded P log) (he : P log e) : Preceded P (log ++ [e]) := by
  intro a x c heq
  -- the event is the last one, or was there before
  cases c using List.reverseRecOn with
  | nil =>
    obtain ⟨rfl, ⟨⟩⟩ := append_inj' heq rfl
    exact he
  | append_singleton c y =>
    rw [← cons_append, ← append_assoc] at heq
    exact h a x c (append_inj' heq rfl).1

end LivekitVoice.Transition
