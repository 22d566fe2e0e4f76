import LivekitVoice.Transition.Record

/-! # Tenure of keys

A table gives each key to at most one holder at a time. Its history is a list of events: a holder
takes a key, gives it up, or is found under it. In an orderly history a key is taken only while it
is free, and whoever gives it up or is found under it holds it.

* **`Orderly.concat`** — one more event,
* **`holder_of_enter`** — who has taken a key holds it until giving it up. -/

namespace LivekitVoice.Transition

universe u v

/-- An event in the history of a table. -/
inductive Tenure (κ : Type u) (ο : Type v)
  /-- The holder `o` takes the key. -/
  | enter (k : κ) (o : ο)
  /-- The holder `o` gives the key up. -/
  | leave (k : κ) (o : ο)
  /-- The holder `o` is found under the key. -/
  | found (k : κ) (o : ο)

variable {κ : Type u} {ο : Type v} [DecidableEq κ]

/-- Who holds which key after an event. -/
def Tenure.apply (holder : κ → Option ο) : Tenure κ ο → κ → Option ο
  | .enter k o => Function.update holder k (some o)
  | .leave k _ => Function.update holder k none
  | .found _ _ => holder

theorem Tenure.apply_enter (holder : κ → Option ο) (k k' : κ) (o : ο) :
    (Tenure.enter k o).apply holder k' = if k' = k then some o else holder k' :=
  Function.update_apply holder k (some o) k'

theorem Tenure.apply_leave (holder : κ → Option ο) (k k' : κ) (o : ο) :
    (Tenure.leave k o).apply holder k' = if k' = k then none else holder k' :=
  Function.update_apply holder k none k'

variable (log : List (Tenure κ ο))

/-- **Who holds which key** after a history. -/
def holders : κ → Option ο := log.foldl Tenure.apply fun _ => none

theorem holders_concat (e : Tenure κ ο) : holders (log ++ [e]) = e.apply (holders log) := by
  rw [holders, List.foldl_append]
  rfl

/-- An event that fits who holds what. -/
def Tenure.Fits (holder : κ → Option ο) : Tenure κ ο → Prop
  | .enter k _ => holder k = none
  | .leave k o => holder k = some o
  | .found k o => holder k = some o

/-- **An orderly history**: every event fits what was before it. -/
def Orderly : Prop :=
  ∀ a e c, log = a ++ e :: c → e.Fits (holders a)

theorem orderly_nil : Orderly ([] : List (Tenure κ ο)) := preceded_nil

/-- **One more event** that fits. -/
theorem Orderly.concat {log : List (Tenure κ ο)} {e : Tenure κ ο} (h : Orderly log)
    (he : e.Fits (holders log)) : Orderly (log ++ [e]) :=
  Preceded.concat h he

theorem Orderly.of_append {log rest : List (Tenure κ ο)} (h : Orderly (log ++ rest)) :
    Orderly log := by
  rintro a e c rfl
  exact h a e (c ++ rest) (by simp)

/-- **Who has taken a key** holds it until giving it up. -/
theorem holder_of_enter {k : κ} {o : ο} {a b : List (Tenure κ ο)}
    (h : Orderly (a ++ .enter k o :: b)) (hstay : .leave k o ∉ b) :
    holders (a ++ .enter k o :: b) k = some o := by
  induction b using List.reverseRecOn with
  | nil =>
    rw [holders_concat, Tenure.apply_enter, if_pos rfl]
  | append_singleton b e ih =>
    have hassoc : a ++ .enter k o :: (b ++ [e]) = (a ++ .enter k o :: b) ++ [e] := by simp
    have hb : .leave k o ∉ b := fun hmem => hstay (List.mem_append_left _ hmem)
    have hold := ih (hassoc ▸ h).of_append hb
    have hfits : e.Fits (holders (a ++ .enter k o :: b)) := h _ e [] hassoc
    rw [hassoc, holders_concat]
    -- nobody else takes the key, and its holder does not leave
    cases e with
    | enter k' o' =>
      by_cases hk : k = k'
      · subst hk
        simp [Tenure.Fits, hold] at hfits
      · rw [Tenure.apply_enter, if_neg hk]
        exact hold
    | leave k' o' =>
      by_cases hk : k = k'
      · subst hk
        rw [Tenure.Fits, hold] at hfits
        cases hfits
        exact absurd (List.mem_append_right b (List.mem_singleton_self _)) hstay
      · rw [Tenure.apply_leave, if_neg hk]
        exact hold
    | found k' o' => exact hold

end LivekitVoice.Transition
