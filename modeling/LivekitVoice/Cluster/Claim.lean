import LivekitVoice.Cluster.Calls
import Mathlib.Data.Fin.VecNotation
import Mathlib.Data.Fintype.Basic

/-! # Who hosts a room: concurrent `route_room` calls

Any number of `route_room` calls, on any nodes and for any rooms, run against one bus without bus
errors and without releases.

* **`routeRoom_agrees`** — the calls for an unowned room agree on one node. The invariant
  `FirstClaim` bounds every call to its second attempt, so no schedule reaches the fallback.
* **`routeRoom_deadOwner_local`** — `HSETNX` never replaces an entry, so a dead owner keeps its
  room, and every live caller is answered `Local` by the fallback. -/

namespace LivekitVoice

open Transition

variable {ι : Type} [DecidableEq ι]

/-- One step without bus errors: call `i` issues its next command and gets the reply. -/
def ClusterState.stepOk (calls : ι → Call) (s : ClusterState ι) (i : ι) : Option (ClusterState ι) :=
  s.step calls (i, .ok)

/-- A family of `route_room` calls on nodes with clustering enabled. -/
def routeCalls (node : ι → NodeId) (room : ι → RoomName) (i : ι) : Call :=
  ⟨.routeRoom, ⟨node i, true⟩, room i⟩

/-- The answer node `n` should get when `owner` hosts the room. -/
def routingAt (owner n : NodeId) : Routing := if owner = n then .local else .remote owner

@[simp] theorem routingAt_self (n : NodeId) : routingAt n n = .local := if_pos rfl

section RouteRoom

variable {node : ι → NodeId} {room : ι → RoomName} {r : RoomName} {s s' : ClusterState ι}

/-- Every call of the family stands in `route_room`. -/
def InRoute (s : ClusterState ι) : Prop := ∀ i, ∃ pc, s.pc i = .route pc

variable {i : ι} {pc : RoutePc} {b : Bus} {n : NodeId}

/-- **One error-free step** of a family of `route_room` calls is one rule of one call. -/
theorem stepOk_cases (hroute : InRoute s) (h : s.stepOk (routeCalls node room) i = some s') :
    ∃ pc b' pc', s.pc i = .route pc ∧ RouteMove (node i) (room i) s.bus .ok pc b' pc' ∧
      s' = ⟨b', Function.update s.pc i (.route pc')⟩ := by
  obtain ⟨pc, hpc⟩ := hroute i
  rcases ClusterState.step_cases h with
    ⟨pc₀, b', pc', hpc₀, hmove, rfl⟩ | ⟨pc₀, b', pc', hpc₀, -, -⟩
  · exact ⟨pc₀, b', pc', hpc₀, hmove, rfl⟩
  · simp [hpc] at hpc₀

theorem InRoute.update (h : InRoute s) :
    InRoute (⟨b, Function.update s.pc i (.route pc)⟩ : ClusterState ι) := by
  intro j
  by_cases hj : j = i
  · subst hj
    exact ⟨pc, Function.update_self ..⟩
  · obtain ⟨pc', hpc'⟩ := h j
    exact ⟨pc', by simpa [Function.update_of_ne hj] using hpc'⟩

/-! ## Concurrent first claim -/

/-- Where a `route_room` call on node `n` may stand while the registry entry of its room is
`owner`: nobody needs more than two attempts, and whoever has read an owner has read `owner`. -/
def Settling (owner : Option NodeId) (n : NodeId) : RoutePc → Prop
  | .hget attempt => attempt = 0 ∨ attempt = 1 ∧ owner ≠ none
  | .nodeAlive _ o => owner = some o ∧ o ≠ n
  | .hsetnx attempt => attempt = 0
  | .done routing => ∃ o, owner = some o ∧ routing = routingAt o n

theorem Settling.register {o : NodeId} (h : Settling none n pc) : Settling (some o) n pc := by
  cases pc with
  | hget attempt =>
    rcases h with h | ⟨-, h⟩
    · exact .inl h
    · exact absurd rfl h
  | nodeAlive attempt owner => cases h.1
  | hsetnx attempt => exact h
  | done routing =>
    obtain ⟨o', h, -⟩ := h
    cases h

/-- **The first-claim invariant** for the room `r`: callers are alive, whoever is registered is
alive, and every call for `r` fits the registry entry. -/
structure FirstClaim (node : ι → NodeId) (room : ι → RoomName) (r : RoomName)
    (s : ClusterState ι) : Prop where
  /-- Every call stands in `route_room`. -/
  inRoute : InRoute s
  /-- Every caller's liveness key is present. -/
  callers : ∀ i, s.bus.alive (node i)
  /-- The registered node's liveness key is present. -/
  owner : ∀ o, s.bus.owner r = some o → s.bus.alive o
  /-- Every call for the room fits its entry. -/
  calls : ∀ i pc, room i = r → s.pc i = .route pc → Settling (s.bus.owner r) (node i) pc

omit [DecidableEq ι] in
theorem settling_move {b' : Bus} {pc' : RoutePc} (howner : ∀ o, b.owner r = some o → b.alive o)
    (hfit : Settling (b.owner r) n pc) (hmove : RouteMove n r b .ok pc b' pc') :
    Settling (b'.owner r) n pc' := by
  cases hmove with
  | own attempt h => exact ⟨n, h, (routingAt_self n).symm⟩
  | other attempt owner h hne => exact ⟨h, hne⟩
  | unowned attempt h =>
    -- a second attempt only happens once the room is registered, so this is the first
    rcases hfit with rfl | ⟨-, hne⟩
    · rfl
    · exact absurd h hne
  | live attempt owner h => exact ⟨owner, hfit.1, (if_neg hfit.2).symm⟩
  | dead attempt owner h =>
    -- whoever is registered is a caller, and callers are alive
    simp [howner owner hfit.1] at h
  | claimed attempt h => exact ⟨n, by simp, (routingAt_self n).symm⟩
  | contended attempt owner h =>
    obtain rfl : attempt = 0 := hfit
    exact .inr ⟨rfl, by rw [h]; exact Option.some_ne_none owner⟩

/-- **Step lemma**: one error-free command of any call preserves the first-claim invariant. -/
theorem firstClaim_step (hI : FirstClaim node room r s)
    (h : s.stepOk (routeCalls node room) i = some s') : FirstClaim node room r s' := by
  obtain ⟨pc, b', pc', hpc, hmove, rfl⟩ := stepOk_cases hI.inRoute h
  refine ⟨hI.inRoute.update, fun j => ?_, fun o ho => ?_, fun j pcj hroom hpcj => ?_⟩
  · rw [hmove.alive_eq]
    exact hI.callers j
  · rw [hmove.alive_eq]
    rcases hmove.owner_eq r with hown | ⟨-, hown⟩
    · exact hI.owner o (hown ▸ ho)
    · obtain rfl : node i = o := Option.some.inj (hown.symm.trans ho)
      exact hI.callers i
  · by_cases hj : j = i
    · subst hj
      obtain rfl : pc' = pcj := by simpa using hpcj
      rw [← hroom] at hI ⊢
      exact settling_move hI.owner (hI.calls j pc rfl hpc) hmove
    · have hfit := hI.calls j pcj hroom (by simpa [Function.update_of_ne hj] using hpcj)
      rcases hmove.owner_eq r with hown | ⟨hnone, hown⟩
      · rw [hown]
        exact hfit
      · -- the room has just been registered
        rw [hown]
        rw [hnone] at hfit
        exact hfit.register

/-- **Concurrent first claim.** Nodes whose liveness keys are present route a room nobody is
registered for: in every state that any interleaving of the bus commands of their `route_room`
calls reaches, all calls for the room that have returned agree on one registered node. -/
theorem routeRoom_agrees (node : ι → NodeId) (room : ι → RoomName) (r : RoomName) (b : Bus)
    (halive : ∀ i, b.alive (node i)) (hfree : b.owner r = none) {is : List ι}
    {s : ClusterState ι}
    (hrun : run (ClusterState.stepOk (routeCalls node room))
      (ClusterState.init (routeCalls node room) b) is = some s)
    {i : ι} {g : Routing} (hroom : room i = r) (hret : s.Returned i g) :
    ∃ o, s.bus.owner r = some o ∧
      ∀ j g', room j = r → s.Returned j g' → g' = routingAt o (node j) := by
  have hI : FirstClaim node room r s :=
    run_invariant (fun _ _ _ hI h => firstClaim_step hI h)
      ⟨fun i => ⟨.hget 0, rfl⟩, halive, fun o ho => by simp [ClusterState.init, hfree] at ho,
        fun i pc _ hpc => by
          obtain rfl : .hget 0 = pc := CallPc.route.inj hpc
          exact .inl rfl⟩ hrun
  obtain ⟨o, ho, -⟩ := hI.calls i _ hroom hret
  refine ⟨o, ho, fun j g' hj hg' => ?_⟩
  obtain ⟨o', ho', hg⟩ := hI.calls j _ hj hg'
  obtain rfl : o = o' := Option.some.inj (ho.symm.trans ho')
  exact hg

/-- Two live nodes race for a free room: both read it unowned and `A` claims it first, so `B`
fails its claim, reads again and is told `Remote(A)`. -/
theorem routeRoom_agrees_race :
    ∃ s, run (ClusterState.stepOk (routeCalls ![ "A", "B"] fun _ => "r"))
        (ClusterState.init (routeCalls ![ "A", "B"] fun _ => "r")
          ((Bus.empty.set (nodeKey "A") "alive").set (nodeKey "B") "alive"))
        [0, 1, 0, 1, 1, 1] = some s ∧ s.Returned 1 (.remote "A") ∧
      ∃ o, s.bus.owner "r" = some o ∧ ∀ (j : Fin 2) (g : Routing), "r" = "r" → s.Returned j g →
        g = routingAt o ((![ "A", "B"] : Fin 2 → NodeId) j) := by
  refine (show ∃ s ∈ run _ _ _, s.pc 1 = .route (.done (.remote "A")) by decide).imp
    fun s ⟨hrun, hret⟩ => ⟨hrun, hret,
      routeRoom_agrees _ _ _ _ (by decide) (by decide) hrun rfl hret⟩

/-! ## A dead owner -/

/-- **The sole-owner property** of a room: a call for it that returned `Local` runs on the node
the registry names. -/
def SoleOwner (node : ι → NodeId) (room : ι → RoomName) (r : RoomName) (s : ClusterState ι) :
    Prop :=
  ∀ i, room i = r → s.Returned i .local → s.bus.owner r = some (node i)

/-- Where a `route_room` call may stand while its room is registered to a dead node `d`: within
its attempts, or answered `Local`. -/
def Stranded (d : NodeId) : RoutePc → Prop
  | .hget attempt => attempt ≤ maxAttempts
  | .nodeAlive attempt o => attempt ≤ maxAttempts ∧ o = d
  | .hsetnx attempt => attempt < maxAttempts
  | .done routing => routing = .local

/-- How many commands a stranded call still issues. -/
def RoutePc.remaining : RoutePc → Nat
  | .hget attempt => 3 * (maxAttempts - attempt) + 2
  | .nodeAlive attempt _ => 3 * (maxAttempts - attempt) + 1
  | .hsetnx attempt => 3 * (maxAttempts - attempt)
  | .done _ => 0

theorem stranded_move {d : NodeId} {b' : Bus} {pc' : RoutePc} (howner : b.owner r = some d)
    (hne : d ≠ n) (hdead : b.alive d = false) (hpc : Stranded d pc)
    (hmove : RouteMove n r b .ok pc b' pc') :
    b' = b ∧ Stranded d pc' ∧ pc'.remaining < pc.remaining := by
  cases hmove with
  | own attempt h =>
    rw [howner] at h
    exact absurd (Option.some.inj h) hne
  | other attempt owner h _ =>
    obtain rfl : d = owner := Option.some.inj (howner.symm.trans h)
    exact ⟨rfl, ⟨hpc, rfl⟩, Nat.lt_succ_self _⟩
  | unowned attempt h | claimed attempt h =>
    simp [howner] at h
  | live attempt owner h =>
    obtain ⟨-, rfl⟩ := hpc
    simp [hdead] at h
  | dead attempt owner h =>
    unfold RoutePc.claimOrFallback
    split
    · next hlt => exact ⟨rfl, hlt, Nat.lt_succ_self _⟩
    · exact ⟨rfl, rfl, Nat.succ_pos _⟩
  | contended attempt owner h =>
    have hlt : attempt < maxAttempts := hpc
    refine ⟨rfl, hlt, ?_⟩
    show 3 * (maxAttempts - (attempt + 1)) + 2 < 3 * (maxAttempts - attempt)
    omega

/-- **The dead-owner invariant** for the room `r`: the registry keeps naming the dead node `d`,
and every call for `r` is stranded. -/
structure DeadOwner (node : ι → NodeId) (room : ι → RoomName) (r : RoomName) (d : NodeId)
    (s : ClusterState ι) : Prop where
  /-- Every call stands in `route_room`. -/
  inRoute : InRoute s
  /-- Every caller's liveness key is present. -/
  callers : ∀ i, s.bus.alive (node i)
  /-- The registry names `d`. -/
  owner : s.bus.owner r = some d
  /-- The liveness key of `d` is gone. -/
  dead : s.bus.alive d = false
  /-- Every call for the room is stranded. -/
  calls : ∀ i pc, room i = r → s.pc i = .route pc → Stranded d pc

variable {d : NodeId}

omit [DecidableEq ι] in
theorem DeadOwner.ne (hI : DeadOwner node room r d s) (i : ι) : d ≠ node i := by
  rintro rfl
  have h := hI.dead
  simp [hI.callers i] at h

/-- **Step lemma**: one error-free command of any call preserves the dead-owner invariant. -/
theorem deadOwner_step (hI : DeadOwner node room r d s)
    (h : s.stepOk (routeCalls node room) i = some s') : DeadOwner node room r d s' := by
  obtain ⟨pc, b', pc', hpc, hmove, rfl⟩ := stepOk_cases hI.inRoute h
  refine ⟨hI.inRoute.update, fun j => ?_, ?_, ?_, fun j pcj hroom hpcj => ?_⟩
  · rw [hmove.alive_eq]
    exact hI.callers j
  · exact hmove.owner_eq_of_some hI.owner
  · rw [hmove.alive_eq]
    exact hI.dead
  · by_cases hj : j = i
    · subst hj
      obtain rfl : pc' = pcj := by simpa using hpcj
      rw [← hroom] at hI
      exact (stranded_move hI.owner (hI.ne j) hI.dead (hI.calls j pc rfl hpc) hmove).2.1
    · exact hI.calls j pcj hroom (by simpa [Function.update_of_ne hj] using hpcj)

omit [DecidableEq ι] in
/-- In a dead-owner state, a call for the room that has returned was answered `Local`, and that
breaks the sole-owner property. -/
theorem DeadOwner.not_soleOwner (hI : DeadOwner node room r d s) {g : Routing} (hroom : room i = r)
    (hret : s.Returned i g) : g = .local ∧ ¬ SoleOwner node room r s := by
  obtain rfl : g = .local := hI.calls i _ hroom hret
  refine ⟨rfl, fun hsole => hI.ne i ?_⟩
  exact Option.some.inj (hI.owner.symm.trans (hsole i hroom hret))

theorem done_of_stepOk_eq_none (hpc : s.pc i = .route pc)
    (h : s.stepOk (routeCalls node room) i = none) : ∃ routing, pc = .done routing := by
  simp only [ClusterState.stepOk, ClusterState.step, hpc, Option.map_eq_none_iff] at h
  cases pc with
  | done routing => exact ⟨routing, rfl⟩
  | hget attempt =>
    rw [RoutePc.step] at h
    split at h
    · split at h <;> cases h
    · cases h
  | nodeAlive attempt o =>
    rw [RoutePc.step] at h
    split at h <;> cases h
  | hsetnx attempt => cases h

/-- **A call returns** from wherever it is, by the commands that it has left. -/
theorem DeadOwner.returns (hroom : room i = r) :
    ∀ (k : Nat) (s : ClusterState ι) (pc : RoutePc), DeadOwner node room r d s →
      s.pc i = .route pc → pc.remaining = k →
      ∃ is s', run (ClusterState.stepOk (routeCalls node room)) s is = some s' ∧
        DeadOwner node room r d s' ∧ s'.Returned i .local := by
  intro k
  -- on the number of commands the call still issues
  induction k using Nat.strong_induction_on with
  | _ k ih =>
    intro s pc hI hpc hk
    cases hstep : s.stepOk (routeCalls node room) i with
    | none =>
      obtain ⟨routing, rfl⟩ := done_of_stepOk_eq_none hpc hstep
      obtain rfl : routing = .local := hI.calls i _ hroom hpc
      exact ⟨[], s, rfl, hI, hpc⟩
    | some s₁ =>
      have hI₁ := deadOwner_step hI hstep
      obtain ⟨pc₀, b', pc', hpc₀, hmove, rfl⟩ := stepOk_cases hI.inRoute hstep
      obtain rfl : pc = pc₀ := CallPc.route.inj (hpc.symm.trans hpc₀)
      have hlt : pc'.remaining < k := by
        rw [← hk]
        subst hroom
        exact (stranded_move hI.owner (hI.ne i) hI.dead (hI.calls i pc rfl hpc) hmove).2.2
      obtain ⟨is, s', hrun, hI', hret⟩ :=
        ih pc'.remaining hlt _ pc' hI₁ (Function.update_self ..) rfl
      exact ⟨i :: is, s', run_cons_eq_some.mpr ⟨_, hstep, hrun⟩, hI', hret⟩

/-- **A dead owner is never replaced.** A room is registered to a node whose liveness key is gone
and live nodes route it, in any interleaving. Whenever one of their calls for the room has
returned, it was answered `Local` although the registry names another node; and every such call
can be driven to that answer, so every two live nodes that route the room both get `Local`. -/
theorem routeRoom_deadOwner_local (node : ι → NodeId) (room : ι → RoomName) (r : RoomName)
    (d : NodeId) (b : Bus) (halive : ∀ i, b.alive (node i))
    (howner : b.owner r = some d) (hdead : b.alive d = false) {is : List ι} {s : ClusterState ι}
    (hrun : run (ClusterState.stepOk (routeCalls node room))
      (ClusterState.init (routeCalls node room) b) is = some s) {i : ι} (hroom : room i = r) :
    (∀ g, s.Returned i g → g = .local ∧ ¬ SoleOwner node room r s) ∧
      ∃ js s', run (ClusterState.stepOk (routeCalls node room)) s js = some s' ∧
        s'.Returned i .local ∧ ¬ SoleOwner node room r s' := by
  have hI : DeadOwner node room r d s :=
    run_invariant (fun _ _ _ hI h => deadOwner_step hI h)
      ⟨fun i => ⟨.hget 0, rfl⟩, halive, howner, hdead, fun i pc _ hpc => by
        obtain rfl : .hget 0 = pc := CallPc.route.inj hpc
        exact Nat.zero_le _⟩ hrun
  refine ⟨fun g hret => hI.not_soleOwner hroom hret, ?_⟩
  obtain ⟨pc, hpc⟩ := hI.inRoute i
  obtain ⟨js, s', hrun', hI', hret⟩ := DeadOwner.returns hroom _ s pc hI hpc rfl
  exact ⟨js, s', hrun', hret, (hI'.not_soleOwner hroom hret).2⟩

/-- A bus on which `B` and `C` are alive and the room `r` is registered to the dead node `A`. -/
def deadOwnerBus : Bus :=
  ((Bus.empty.set (nodeKey "B") "alive").set (nodeKey "C") "alive").hset roomsKey "r" "A"

/-- The dead-owner theorem at two live nodes, before any command has been issued. -/
theorem routeRoom_deadOwner_local_start :
    ∃ js s', run (ClusterState.stepOk (routeCalls ![ "B", "C"] fun _ => "r"))
        (ClusterState.init (routeCalls ![ "B", "C"] fun _ => "r") deadOwnerBus) js = some s' ∧
      s'.Returned 1 .local ∧ ¬ SoleOwner ![ "B", "C"] (fun _ => "r") "r" s' :=
  (routeRoom_deadOwner_local ![ "B", "C"] (fun _ => "r") "r" "A" deadOwnerBus (by decide)
    (by decide) (by decide) (run_nil _) rfl).2

/-- **Split ownership.** `B` and `C` are alive, `A` is not, and `r` is registered to `A`. Run one
after the other, the calls of `B` and of `C` both return `Local`, and `r` is still registered to
`A`. -/
theorem routeRoom_deadOwner_split :
    ∃ s, run (ClusterState.stepOk (routeCalls ![ "B", "C"] fun _ => "r"))
        (ClusterState.init (routeCalls ![ "B", "C"] fun _ => "r") deadOwnerBus)
        (List.replicate 26 0 ++ List.replicate 26 1) = some s ∧
      s.Returned 0 .local ∧ s.Returned 1 .local ∧ s.bus.owner "r" = some "A" ∧
      ¬ SoleOwner ![ "B", "C"] (fun _ => "r") "r" s := by
  refine (show ∃ s ∈ run _ _ _, s.pc 0 = .route (.done .local) ∧ s.pc 1 = .route (.done .local) ∧
    s.bus.owner "r" = some "A" by decide +kernel).imp
    fun s ⟨hrun, hB, hC, howner⟩ => ⟨hrun, hB, hC, howner, fun hsole => ?_⟩
  have hown := hsole 0 rfl hB
  rw [howner] at hown
  exact absurd hown (by decide)

end RouteRoom

end LivekitVoice
