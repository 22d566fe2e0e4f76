import LivekitVoice.Cluster.Calls
import Mathlib.Data.Fin.VecNotation
import Mathlib.Data.Fintype.Basic

/-! # Releasing a claim

`release_room` reads the owner and deletes the entry in two separate commands. Any number of
`release_room` and `route_room` calls run on any nodes, and bus commands may fail.

* **`releaseRoom_keepsForeign`** — if releases of one room do not overlap (`SerialRelease`), none
  deletes the entry of another node. -/

namespace LivekitVoice

open Transition

variable {ι : Type} [DecidableEq ι]

/-- A release deletes no entry of another node in this step. -/
def KeepsForeign (calls : ι → Call) (s : ClusterState ι) (a : ι × Reply) : Prop :=
  ∀ pc s', s.pc a.1 = .release pc → s.step calls a = some s' →
    ∀ r m, s.bus.owner r = some m → s'.bus.owner r = none → m = (calls a.1).node

/-- **Releases of one node for one room do not overlap**: a release that reads the owner in this
step finds no other release of its node and room between the read and the delete. -/
def SerialRelease (calls : ι → Call) (s : ClusterState ι) (a : ι × Reply) : Prop :=
  s.pc a.1 = .release .hget → ∀ j, j ≠ a.1 → (calls j).node = (calls a.1).node →
    (calls j).room = (calls a.1).room → s.pc j ≠ .release .hdel

instance [Fintype ι] (calls : ι → Call) (s : ClusterState ι) (a : ι × Reply) :
    Decidable (SerialRelease calls s a) :=
  inferInstanceAs (Decidable (_ → ∀ _, _))

/-- **The release invariant**: a release about to delete is registered for its room, and no other
release is about to delete that entry. -/
structure ReleaseInv (calls : ι → Call) (s : ClusterState ι) : Prop where
  /-- A release about to delete owns the entry. -/
  own : ∀ i, s.pc i = .release .hdel → s.bus.owner (calls i).room = some (calls i).node
  /-- At most one release is about to delete a room's entry. -/
  unique : ∀ i j, s.pc i = .release .hdel → s.pc j = .release .hdel →
    (calls i).room = (calls j).room → i = j

variable {calls : ι → Call} {s s' : ClusterState ι}

omit [DecidableEq ι] in
theorem releaseInv_init (calls : ι → Call) (b : Bus) :
    ReleaseInv calls (ClusterState.init calls b) := by
  have hpc : ∀ i, (ClusterState.init calls b).pc i ≠ .release .hdel := by
    intro i h
    simp only [ClusterState.init, Call.start] at h
    split at h
    · cases h
    · simp only [Cluster.releaseRoom, CallPc.release.injEq] at h
      split at h <;> cases h
  exact ⟨fun i h => absurd h (hpc i), fun i _ h => absurd h (hpc i)⟩

theorem pc_of_update_ne {i j : ι} {b : Bus} {pc : CallPc} (hj : j ≠ i) {p : CallPc}
    (h : (⟨b, Function.update s.pc i pc⟩ : ClusterState ι).pc j = p) : s.pc j = p := by
  simpa [Function.update_of_ne hj] using h

theorem hdel_of_update {i j : ι} {b : Bus} {pc : CallPc} (hpc : pc ≠ .release .hdel)
    (h : (⟨b, Function.update s.pc i pc⟩ : ClusterState ι).pc j = .release .hdel) :
    j ≠ i ∧ s.pc j = .release .hdel := by
  have hne : j ≠ i := by
    rintro rfl
    exact hpc (by simpa using h)
  exact ⟨hne, pc_of_update_ne hne h⟩

omit [DecidableEq ι] in
/-- The invariant survives a step that puts no further release before its delete and leaves the
entries of the releases that are there. -/
theorem ReleaseInv.of_le (hI : ReleaseInv calls s)
    (hpc : ∀ i, s'.pc i = .release .hdel → s.pc i = .release .hdel)
    (hown : ∀ i, s'.pc i = .release .hdel →
      s'.bus.owner (calls i).room = s.bus.owner (calls i).room) : ReleaseInv calls s' where
  own := fun i h => (hown i h).trans (hI.own i (hpc i h))
  unique := fun i j hi hj hroom => hI.unique i j (hpc i hi) (hpc j hj) hroom

/-- **Step lemma**: a step that meets `SerialRelease` preserves the release invariant. -/
theorem releaseInv_step {a : ι × Reply} (hI : ReleaseInv calls s) (hG : SerialRelease calls s a)
    (h : s.step calls a = some s') : ReleaseInv calls s' := by
  obtain ⟨i, rep⟩ := a
  rcases ClusterState.step_cases h with
    ⟨pc, b', pc', hpc, hmove, rfl⟩ | ⟨pc, b', pc', hpc, hmove, rfl⟩
  · -- a `route_room` command: it writes at most an entry nobody is registered for
    refine hI.of_le (fun j hj => (hdel_of_update (by simp) hj).2) fun j hj => ?_
    have howner := hI.own j (hdel_of_update (by simp) hj).2
    exact (hmove.owner_eq_of_some howner).trans howner.symm
  · cases hmove with
    | own howner =>
      -- the release that has just read itself as the owner is the only one before its delete
      have hfresh : ∀ j, j ≠ i → s.pc j = .release .hdel →
          (calls j).room = (calls i).room → False := by
        intro j hj hpcj hroom
        refine hG hpc j hj ?_ hroom hpcj
        have hj' := hI.own j hpcj
        rw [hroom, howner] at hj'
        exact (Option.some.inj hj').symm
      refine ⟨fun j hj => ?_, fun j k hj hk hroom => ?_⟩
      · by_cases hji : j = i
        · subst hji
          exact howner
        · exact hI.own j (pc_of_update_ne hji hj)
      · by_cases hji : j = i <;> by_cases hki : k = i
        · rw [hji, hki]
        · subst hji
          exact (hfresh k hki (pc_of_update_ne hki hk) hroom.symm).elim
        · subst hki
          exact (hfresh j hji (pc_of_update_ne hji hj) hroom).elim
        · exact hI.unique j k (pc_of_update_ne hji hj) (pc_of_update_ne hki hk) hroom
    | skip | lost => exact hI.of_le (fun j hj => (hdel_of_update (by simp) hj).2) fun _ _ => rfl
    | deleted =>
      -- the entry that goes is that of the release, and nobody else is about to delete it
      refine hI.of_le (fun j hj => (hdel_of_update (by simp) hj).2) fun j hj => ?_
      obtain ⟨hji, hpcj⟩ := hdel_of_update (by simp) hj
      have hne : (calls j).room ≠ (calls i).room := fun heq => hji (hI.unique j i hpcj hpc heq)
      simp [hne]

theorem ReleaseInv.keepsForeign (hI : ReleaseInv calls s) (a : ι × Reply) :
    KeepsForeign calls s a := by
  intro pc s' hpc h r m hm hnone
  rcases ClusterState.step_cases h with
    ⟨pc₀, b', pc', hpc₀, -, -⟩ | ⟨pc₀, b', pc', hpc₀, hmove, rfl⟩
  · simp [hpc] at hpc₀
  · cases hmove with
    | deleted =>
      by_cases hr : r = (calls a.1).room
      · subst hr
        exact Option.some.inj (hm.symm.trans (hI.own a.1 hpc₀))
      · rw [show Bus.owner (s.bus.hdel roomsKey (calls a.1).room) r = s.bus.owner r by
          simp [hr], hm] at hnone
        cases hnone
    | _ =>
      simp [show Bus.owner s.bus r = none from hnone] at hm

/-- **A release removes its own claim.** In every run of `release_room` and `route_room` calls, on
any nodes and with any bus failures, in which no release reads the owner while another release of
the same node and room stands between its read and its delete: no step of a release deletes an
entry that names another node. -/
theorem releaseRoom_keepsForeign (calls : ι → Call) (b : Bus) {as : List (ι × Reply)}
    {s : ClusterState ι}
    (hserial : Along (ClusterState.step calls) (SerialRelease calls)
      (ClusterState.init calls b) as)
    (hrun : run (ClusterState.step calls) (ClusterState.init calls b) as = some s)
    (a : ι × Reply) : KeepsForeign calls s a :=
  (run_invariant_along (fun _ _ _ hI hG h => releaseInv_step hI hG h) (releaseInv_init calls b)
    hserial hrun).keepsForeign a

/-- Two releases of `r` on `A` and a `route_room` for `r` on `B`. -/
def releaseRace : Fin 3 → Call :=
  ![⟨.releaseRoom, ⟨"A", true⟩, "r"⟩, ⟨.releaseRoom, ⟨"A", true⟩, "r"⟩,
    ⟨.routeRoom, ⟨"B", true⟩, "r"⟩]

/-- The bus on which `r` is registered to `A`. -/
def releaseRaceBus : Bus := Bus.empty.hset roomsKey "r" "A"

/-- The theorem where the first release runs to its delete and then `B` claims the room. -/
theorem releaseRoom_keepsForeign_serial :
    ∃ s, run (ClusterState.step releaseRace) (ClusterState.init releaseRace releaseRaceBus)
        [(0, .ok), (0, .ok), (2, .ok), (2, .ok)] = some s ∧
      s.bus.owner "r" = some "B" ∧ KeepsForeign releaseRace s (1, .ok) := by
  refine (show ∃ s ∈ run _ _ _, s.bus.owner "r" = some "B" by decide).imp
    fun s ⟨hrun, howner⟩ => ⟨hrun, howner,
      releaseRoom_keepsForeign releaseRace releaseRaceBus ?_ hrun (1, .ok)⟩
  decide

/-- **A release deletes another node's claim.** Both releases of `A` read `A` as the owner, the
first deletes the entry, `B` claims the room, and the second release deletes the entry of `B`. -/
theorem releaseRoom_deletes_foreign :
    ∃ s, run (ClusterState.step releaseRace) (ClusterState.init releaseRace releaseRaceBus)
        [(0, .ok), (1, .ok), (0, .ok), (2, .ok), (2, .ok)] = some s ∧
      ¬ KeepsForeign releaseRace s (1, .ok) := by
  refine (show ∃ s ∈ run _ _ _, s.pc 1 = .release .hdel ∧ s.bus.owner "r" = some "B" ∧
    ∃ s' ∈ s.step releaseRace (1, .ok), s'.bus.owner "r" = none by decide).imp
    fun s ⟨hrun, hpc, howner, s', hstep, hnone⟩ => ⟨hrun, fun hkeep => ?_⟩
  exact absurd (hkeep .hdel s' hpc hstep "r" "B" howner hnone) (by decide)

end LivekitVoice
