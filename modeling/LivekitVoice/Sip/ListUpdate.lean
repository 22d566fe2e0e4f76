import Mathlib.Data.List.Nodup

/-! # Updates of the lists of a trunk

An update of an inbound trunk says of its numbers, its allowed addresses and its allowed numbers
what is set, added and removed. The list is cleared, set, added to and removed from in this order.

* **`applyListUpdate_eq`** — the four steps are one filter of what was there and what is new,
* **`listUpdate_idempotent`** — an update is idempotent and follows the sets. -/

namespace LivekitVoice

open List

/-- `ListUpdate`. -/
structure ListUpdate where
  set : List String
  add : List String
  remove : List String
  clear : Bool

/-- One round of the loop over `add`. -/
def addMissing (current : List String) (add : String) : List String :=
  if current.contains add then current else current ++ [add]

/-- **`apply_list_update`.** -/
def applyListUpdate (current : List String) (update : ListUpdate) : List String :=
  let current := if update.clear then [] else current
  let current := if update.set.isEmpty then current else update.set
  let current := update.add.foldl addMissing current
  update.remove.foldl (fun current rem => current.filter (· != rem)) current

namespace ListUpdate

/-- **What is added to and removed from**: the list that is set, if any. -/
def base (update : ListUpdate) (current : List String) : List String :=
  if update.set ≠ [] then update.set else if update.clear then [] else current

end ListUpdate

theorem foldl_remove (remove current : List String) :
    remove.foldl (fun current rem => current.filter (· != rem)) current =
      current.filter (· ∉ remove) := by
  induction remove generalizing current with
  | nil => simp
  | cons rem remove ih =>
    rw [foldl_cons, ih, filter_filter]
    refine filter_congr fun x _ => ?_
    by_cases hx : x = rem <;> simp [hx]

/-- **The loop over `add`** appends what is missing, once. -/
theorem foldl_addMissing (add current : List String) :
    ∃ new, add.foldl addMissing current = current ++ new ∧ new.Nodup ∧ new.Sublist add ∧
      (∀ x ∈ new, x ∉ current) ∧ ∀ x ∈ add, x ∈ current ∨ x ∈ new := by
  induction add generalizing current with
  | nil => exact ⟨[], by simp⟩
  | cons a add ih =>
    rw [foldl_cons, addMissing]
    split
    · next hin =>
      obtain ⟨new, hfold, hnodup, hsub, hfresh, hall⟩ := ih current
      refine ⟨new, hfold, hnodup, hsub.cons a, hfresh, forall_mem_cons.mpr ⟨.inl ?_, hall⟩⟩
      simpa using hin
    · next hout =>
      -- `a` is new, and what is new after it is not `a`
      obtain ⟨new, hfold, hnodup, hsub, hfresh, hall⟩ := ih (current ++ [a])
      have hne : a ∉ new := fun ha => hfresh a ha (by simp)
      refine ⟨a :: new, by simp [hfold], nodup_cons.mpr ⟨hne, hnodup⟩, hsub.cons_cons a, ?_,
        ?_⟩
      · refine forall_mem_cons.mpr ⟨by simpa using hout, fun x hx hcur => ?_⟩
        exact hfresh x hx (mem_append_left _ hcur)
      · refine forall_mem_cons.mpr ⟨.inr mem_cons_self, fun x hx => ?_⟩
        simpa [or_assoc] using hall x hx

variable (current : List String) (update : ListUpdate)

/-- **An update in one expression.** -/
theorem applyListUpdate_eq : applyListUpdate current update =
    (update.add.foldl addMissing (update.base current)).filter (· ∉ update.remove) := by
  rw [← foldl_remove]
  unfold applyListUpdate ListUpdate.base
  cases update.set <;> rfl

theorem mem_applyListUpdate {x : String} : x ∈ applyListUpdate current update ↔
    (x ∈ update.base current ∨ x ∈ update.add) ∧ x ∉ update.remove := by
  obtain ⟨new, hfold, -, hsub, -, hall⟩ := foldl_addMissing update.add (update.base current)
  have hnew : x ∈ update.base current ∨ x ∈ new ↔ x ∈ update.base current ∨ x ∈ update.add :=
    ⟨fun h => h.imp_right fun hx => hsub.subset hx, fun h => h.elim .inl (hall x)⟩
  rw [applyListUpdate_eq, hfold, mem_filter, mem_append, hnew, decide_eq_true_eq]

/-- **An update that has been applied** changes nothing: what it adds is there, or removed again. -/
theorem applyListUpdate_applied :
    applyListUpdate (applyListUpdate current update) update = applyListUpdate current update := by
  have hmem {x : String} := mem_applyListUpdate current update (x := x)
  by_cases hfixed : update.base (applyListUpdate current update) = update.base current
  · rw [applyListUpdate_eq, hfixed, ← applyListUpdate_eq]
  · -- neither set nor cleared: it starts from the list it has made
    have hbase : ∀ l, update.base l = l := by
      intro l
      cases hset : update.set <;> cases hclear : update.clear <;> simp_all [ListUpdate.base]
    obtain ⟨new, hfold, -, hsub, hfresh, -⟩ :=
      foldl_addMissing update.add (applyListUpdate current update)
    have hkept : (applyListUpdate current update).filter (· ∉ update.remove) =
        applyListUpdate current update :=
      filter_eq_self.mpr fun x hx => by simpa using (hmem.mp hx).2
    have hgone : new.filter (· ∉ update.remove) = [] := by
      refine filter_eq_nil_iff.mpr fun x hx hout => hfresh x hx (hmem.mpr ?_)
      exact ⟨.inr (hsub.subset hx), by simpa using hout⟩
    rw [applyListUpdate_eq, hbase, hfold, filter_append, hkept, hgone, append_nil]

/-- **List updates are idempotent and follow the sets.** Applied twice an update does what it does
once; the elements are those it starts from and those added, without those removed; the elements it
starts from keep their order, and what is added comes after them, once. -/
theorem listUpdate_idempotent :
    applyListUpdate (applyListUpdate current update) update = applyListUpdate current update ∧
    (∀ x, x ∈ applyListUpdate current update ↔
      (x ∈ update.base current ∨ x ∈ update.add) ∧ x ∉ update.remove) ∧
    ∃ new, applyListUpdate current update =
        (update.base current).filter (· ∉ update.remove) ++ new ∧
      new.Nodup ∧ new.Sublist update.add ∧ ∀ x ∈ new, x ∉ update.base current := by
  refine ⟨applyListUpdate_applied current update, fun x => mem_applyListUpdate current update, ?_⟩
  obtain ⟨new, hfold, hnodup, hsub, hfresh, -⟩ :=
    foldl_addMissing update.add (update.base current)
  refine ⟨new.filter (· ∉ update.remove), ?_, hnodup.filter _, filter_sublist.trans hsub,
    fun x hx => hfresh x (mem_filter.mp hx).1⟩
  rw [applyListUpdate_eq, hfold, filter_append]

end LivekitVoice
