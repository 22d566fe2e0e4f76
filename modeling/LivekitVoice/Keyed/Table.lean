import Mathlib.Data.List.AList

/-! # Finite tables

What a finite map holds after an update, as one equation per operation; and several tables in one,
whose keys are made of the name of a table and a key of it.

* **`Flattens.insert`**, **`Flattens.erase`** — the one table follows the updates of the several,
* **`Flattens.values_perm`** — the values of a table are those under the keys made of its name. -/

namespace LivekitVoice.Keyed

variable {κ : Type*} {β : Type*} [DecidableEq κ]

/-- **Lookup after an insertion.** -/
theorem lookup_insert_eq (table : AList fun _ : κ => β) (key key' : κ) (value : β) :
    (table.insert key value).lookup key' =
      if key' = key then some value else table.lookup key' := by
  split
  · next h => exact h ▸ AList.lookup_insert table
  · next h => exact AList.lookup_insert_ne h

/-- **Lookup after a deletion.** -/
theorem lookup_erase_eq (table : AList fun _ : κ => β) (key key' : κ) :
    (table.erase key).lookup key' = if key' = key then none else table.lookup key' := by
  split
  · next h => exact h ▸ AList.lookup_erase key table
  · next h => exact AList.lookup_erase_ne h

section Flatten

variable {τ ι : Type*} [DecidableEq ι] (key : τ → ι → κ)

/-- **Several tables in one**: what a table holds is found under the key made of both. -/
def Flattens (flat : AList fun _ : κ => β) (tables : τ → AList fun _ : ι => β) : Prop :=
  ∀ t i, flat.lookup (key t i) = (tables t).lookup i

variable {key} {flat : AList fun _ : κ => β} {tables : τ → AList fun _ : ι => β}
  (hkey : Function.Injective2 key)

include hkey

theorem Flattens.insert [DecidableEq τ] (h : Flattens key flat tables) (t : τ) (i : ι) (value : β) :
    Flattens key (flat.insert (key t i) value)
      (Function.update tables t ((tables t).insert i value)) := by
  intro t' i'
  simp only [lookup_insert_eq, hkey.eq_iff, h t' i']
  by_cases ht : t' = t
  · subst ht
    simp [lookup_insert_eq]
  · simp [ht]

theorem Flattens.erase [DecidableEq τ] (h : Flattens key flat tables) (t : τ) (i : ι) :
    Flattens key (flat.erase (key t i)) (Function.update tables t ((tables t).erase i)) := by
  intro t' i'
  simp only [lookup_erase_eq, hkey.eq_iff, h t' i']
  by_cases ht : t' = t
  · subst ht
    simp [lookup_erase_eq]
  · simp [ht]

/-- **The values of a table**, in any order. -/
theorem Flattens.values_perm (h : Flattens key flat tables) {t : τ} {p : κ → Bool}
    (hp : ∀ k, p k ↔ ∃ i, k = key t i) :
    ((flat.entries.filter fun e => p e.1).map fun e => e.2).Perm
      ((tables t).entries.map fun e => e.2) := by
  have hperm : (flat.entries.filter fun e => p e.1).Perm
      ((tables t).entries.map fun e => ⟨key t e.1, e.2⟩) := by
    refine (List.perm_ext_iff_of_nodup (flat.nodupKeys.nodup.filter _)
      ((tables t).nodupKeys.nodup.map ?_)).mpr ?_
    · rintro ⟨i, v⟩ ⟨i', v'⟩ heq
      simp only [Sigma.mk.injEq, heq_eq_eq] at heq
      obtain ⟨hk, rfl⟩ := heq
      obtain ⟨-, rfl⟩ := hkey hk
      rfl
    · rintro ⟨k, v⟩
      simp only [List.mem_filter, hp, List.mem_map, ← AList.mem_lookup_iff, Option.mem_def]
      constructor
      · rintro ⟨hlookup, i, rfl⟩
        exact ⟨⟨i, v⟩, (AList.mem_lookup_iff).mp ((h t i).symm.trans hlookup), rfl⟩
      · rintro ⟨⟨i, v'⟩, hmem, heq⟩
        simp only [Sigma.mk.injEq, heq_eq_eq] at heq
        obtain ⟨rfl, rfl⟩ := heq
        exact ⟨(h t i).trans (AList.mem_lookup_iff.mpr hmem), i, rfl⟩
  have hvalues := hperm.map fun e => e.2
  rwa [List.map_map] at hvalues

end Flatten

end LivekitVoice.Keyed
