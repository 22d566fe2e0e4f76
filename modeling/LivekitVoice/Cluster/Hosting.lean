import LivekitVoice.Cluster.Calls
import Mathlib.Data.Fin.VecNotation
import Mathlib.Data.Fintype.Basic

/-! # Rooms hosted on cluster nodes

The room maps of all nodes next to the registry. Four paths touch them, interleaved at every
`await`: a client join (`run_rtc_session`), which asks `route_room` on the entry node and joins on
the node it names, and calls `release_room` when the join fails and the node has no such room;
`CreateRoom` and `CreateSIPParticipant`, which call `get_or_create_room` on the node that received
them; and `Room::close`, which sets the closing flag, calls `release_room` and then removes the room
from the map.

* **`hosted_on_owner`** — under `Exclusive`, a room is open on the node it is registered to only. -/

namespace LivekitVoice

open Option Transition

/-! ## The model -/

/-- A room in a node's map: open, or with its closing flag set (`Room::closed`). -/
inductive RoomPhase
  /-- The room accepts joins. -/
  | active
  /-- `Room::close` has begun. -/
  | closing
  deriving DecidableEq

/-- The operations that create or drop rooms. -/
inductive HostOpKind
  /-- A client connects for the room. -/
  | join
  /-- `RoomService.CreateRoom` or `CreateSIPParticipant`, past its argument checks. -/
  | create
  /-- `Room::close` (deletion or timeout). -/
  | close

/-- An operation: what, on which node, for which room. -/
structure HostOp where
  /-- The operation. -/
  kind : HostOpKind
  /-- The node that receives it. -/
  node : NodeId
  /-- The room it names. -/
  room : RoomName

/-- **Where an operation stands**: what it does next. -/
inductive HostPc
  /-- A join in `route_room` on its entry node. -/
  | route (pc : RoutePc)
  /-- `run_session_with_io` on `host`: resume, or `join_room`. -/
  | session (host : NodeId)
  /-- `join_room` on `host` has its room: `room.join`. -/
  | joining (host : NodeId)
  /-- `join_room` on `host` returned an error: look for the room. -/
  | failed (host : NodeId)
  /-- No such room on `host`: `release_room`. -/
  | release (host : NodeId) (pc : ReleasePc)
  /-- `get_or_create_room` of `CreateRoom` or `CreateSIPParticipant`. -/
  | create
  /-- `Room::close`: the closing flag. -/
  | close
  /-- `Room::close`: `release_room`. -/
  | closeRelease (pc : ReleasePc)
  /-- `Room::close`: `on_close` removes the room from the map. -/
  | remove
  /-- Finished. -/
  | done
  deriving DecidableEq

/-- The first thing an operation does, with clustering enabled. -/
def HostOp.start (op : HostOp) : HostPc :=
  match op.kind with
  | .join => .route (Cluster.routeRoom ⟨op.node, true⟩)
  | .create => .create
  | .close => .close

/-- What the environment decides in a step. -/
inductive Choice
  /-- A bus command ends. -/
  | reply (rep : Reply)
  /-- The check the operation stands at passes, or there is none. -/
  | accept
  /-- The check fails: permissions, a full room, a duplicate identity. -/
  | reject
  /-- A reconnect finds its participant. -/
  | resume
  /-- The relayed token does not verify on the hosting node. -/
  | drop
  deriving DecidableEq

/-- **All nodes at one moment**: the bus, every node's room map, and every operation. -/
structure HostState (ι : Type) where
  /-- The shared bus. -/
  bus : Bus
  /-- Each node's room map (`Server::rooms`). -/
  rooms : NodeId → RoomName → Option RoomPhase
  /-- Where each operation stands. -/
  pc : ι → HostPc

/-- After a command of `route_room`: the session starts on this node or, relayed, on the node
named. -/
def afterRoute (node : NodeId) : RoutePc → HostPc
  | .done .local => .session node
  | .done (.remote owner) => .session owner
  | pc => .route pc

/-- After a command of a failed join's `release_room`. -/
def afterRelease (host : NodeId) : ReleasePc → HostPc
  | .done => .done
  | pc => .release host pc

/-- After a command of `Room::close`'s `release_room`. -/
def afterCloseRelease : ReleasePc → HostPc
  | .done => .remove
  | pc => .closeRelease pc

/-- The room maps after setting one entry. -/
def setRoom (rooms : NodeId → RoomName → Option RoomPhase) (n : NodeId) (r : RoomName)
    (phase : Option RoomPhase) : NodeId → RoomName → Option RoomPhase :=
  fun n' r' => if n' = n ∧ r' = r then phase else rooms n' r'

/-- `get_or_create_room`: the room there is, or a new open one. -/
def getOrCreateRoom (rooms : NodeId → RoomName → Option RoomPhase) (n : NodeId) (r : RoomName) :
    NodeId → RoomName → Option RoomPhase :=
  if (rooms n r).isSome then rooms else setRoom rooms n r (some .active)

namespace HostState

variable {ι : Type} [DecidableEq ι]

/-- No room is open, no operation has begun. -/
def init (ops : ι → HostOp) (b : Bus) : HostState ι :=
  ⟨b, fun _ _ => none, fun i => (ops i).start⟩

/-- The state with operation `i` at `pc`. -/
def setPc (s : HostState ι) (i : ι) (pc : HostPc) : HostState ι :=
  { s with pc := Function.update s.pc i pc }

/-- **One step** of operation `a.1`, with what the environment decides. -/
def step (ops : ι → HostOp) (s : HostState ι) (a : ι × Choice) : Option (HostState ι) :=
  let node := (ops a.1).node
  let room := (ops a.1).room
  match s.pc a.1, a.2 with
  | .route pc, .reply rep =>
    (pc.step node room s.bus rep).map fun r =>
      { s with bus := r.1 }.setPc a.1 (afterRoute node r.2)
  | .session host, .accept =>
    some ({ s with rooms := getOrCreateRoom s.rooms host room }.setPc a.1 (.joining host))
  | .session host, .reject => some (s.setPc a.1 (.failed host))
  | .session host, .resume =>
    if (s.rooms host room).isSome then some (s.setPc a.1 .done) else none
  | .session host, .drop => if host = node then none else some (s.setPc a.1 .done)
  | .joining host, .accept =>
    -- `room.join` answers false on a closed room; one that left the map is closed
    if s.rooms host room = some .active then some (s.setPc a.1 .done) else none
  | .joining host, .reject => some (s.setPc a.1 (.failed host))
  | .failed host, .accept =>
    some (s.setPc a.1
      (if (s.rooms host room).isSome then .done
        else afterRelease host (Cluster.releaseRoom ⟨host, true⟩)))
  | .release host pc, .reply rep =>
    (pc.step host room s.bus rep).map fun r =>
      { s with bus := r.1 }.setPc a.1 (afterRelease host r.2)
  | .create, .accept =>
    some ({ s with rooms := getOrCreateRoom s.rooms node room }.setPc a.1 .done)
  | .close, .accept =>
    if s.rooms node room = some .active then
      some ({ s with rooms := setRoom s.rooms node room (some .closing) }.setPc a.1
        (afterCloseRelease (Cluster.releaseRoom ⟨node, true⟩)))
    else some (s.setPc a.1 .done)
  | .closeRelease pc, .reply rep =>
    (pc.step node room s.bus rep).map fun r =>
      { s with bus := r.1 }.setPc a.1 (afterCloseRelease r.2)
  | .remove, .accept =>
    some ({ s with rooms := setRoom s.rooms node room none }.setPc a.1 .done)
  | _, _ => none

end HostState

namespace HostPc

/-- The node a join is bound for while it has not got its room there yet: it has read that node as
the owner, or its session has started there. -/
def boundFor : HostPc → Option NodeId
  | .route (.nodeAlive _ owner) => some owner
  | .session host => some host
  | _ => none

/-- The node on which an operation received by `node` is releasing its room. -/
def releasing (node : NodeId) : HostPc → Option NodeId
  | .release host _ => some host
  | .closeRelease _ => some node
  | _ => none

/-- The node whose entry an operation received by `node` is about to delete. -/
def deleting (node : NodeId) : HostPc → Option NodeId
  | .release host .hdel => some host
  | .closeRelease .hdel => some node
  | _ => none

/-- Between the closing flag and the removal from the map. -/
def inClose : HostPc → Bool
  | .closeRelease _ => true
  | .remove => true
  | _ => false

/-- A join still has claim attempts left, the last read excepted. -/
def WithinAttempts : HostPc → Prop
  | .route (.hget attempt) => attempt ≤ maxAttempts
  | .route (.nodeAlive attempt _) => attempt < maxAttempts
  | .route (.hsetnx attempt) => attempt < maxAttempts
  | _ => True

theorem releasing_of_deleting {node o : NodeId} {pc : HostPc} (h : pc.deleting node = some o) :
    pc.releasing node = some o := by
  cases pc with
  | release host p | closeRelease p => cases p <;> first | exact h | cases h
  | _ => cases h

end HostPc

variable {ι : Type} {ops : ι → HostOp} {s s' : HostState ι}

/-! ## The invariant -/

/-- **What holds of an operation** at `pc`, given the bus and the room maps. -/
structure PcOk (b : Bus) (rooms : NodeId → RoomName → Option RoomPhase) (op : HostOp)
    (pc : HostPc) : Prop where
  /-- A join is bound for the registered node. -/
  bound : ∀ h, pc.boundFor = some h → b.owner op.room = some h
  /-- A release about to delete owns the entry. -/
  deleting : ∀ h, pc.deleting op.node = some h → b.owner op.room = some h
  /-- Nothing is open where a release is in flight. -/
  releasing : ∀ h, pc.releasing op.node = some h → rooms h op.room ≠ some .active
  /-- A room being closed stays in the map until its close removes it. -/
  closing : pc.inClose → rooms op.node op.room = some .closing
  /-- No join has run out of attempts. -/
  attempts : pc.WithinAttempts

/-- **The hosting invariant.** -/
structure HostInv (ops : ι → HostOp) (s : HostState ι) : Prop where
  /-- An open room is registered to the node it is open on. -/
  hosted : ∀ n r, s.rooms n r = some .active → s.bus.owner r = some n
  /-- Every operation is where it may be. -/
  pcs : ∀ i, PcOk s.bus s.rooms (ops i) (s.pc i)
  /-- A room is being closed at most once. -/
  closeOnce : ∀ i j, (s.pc i).inClose → (s.pc j).inClose →
    (ops i).node = (ops j).node → (ops i).room = (ops j).room → i = j

variable {b b' : Bus} {rooms : NodeId → RoomName → Option RoomPhase} {op : HostOp} {i : ι}
  {n : NodeId} {r : RoomName}

theorem PcOk.of_bound {pc : HostPc} (hbound : ∀ h, pc.boundFor = some h → b.owner op.room = some h)
    (hrel : pc.releasing op.node = none) (hclose : pc.inClose = false)
    (hatt : pc.WithinAttempts) : PcOk b rooms op pc where
  bound := hbound
  deleting h hh := by simp [HostPc.releasing_of_deleting hh] at hrel
  releasing h hh := by simp [hrel] at hh
  closing hh := by simp [hclose] at hh
  attempts := hatt

theorem PcOk.of_idle {pc : HostPc} (hbound : pc.boundFor = none)
    (hrel : pc.releasing op.node = none) (hclose : pc.inClose = false)
    (hatt : pc.WithinAttempts) : PcOk b rooms op pc :=
  PcOk.of_bound (fun h hh => by simp [hbound] at hh) hrel hclose hatt

section Positions

theorem pcOk_session {host : NodeId} (howner : b.owner op.room = some host) :
    PcOk b rooms op (.session host) := by
  refine PcOk.of_bound ?_ rfl rfl trivial
  rintro h ⟨⟩
  exact howner

theorem pcOk_release {host : NodeId} {pc : ReleasePc} (hclosed : rooms host op.room ≠ some .active)
    (hdel : pc = .hdel → b.owner op.room = some host) : PcOk b rooms op (.release host pc) where
  bound := nofun
  deleting h hh := by
    cases pc with
    | hdel => exact hdel rfl ▸ hh
    | _ => cases hh
  releasing h hh := some.inj hh ▸ hclosed
  closing := nofun
  attempts := trivial

theorem pcOk_closeRelease {pc : ReleasePc} (hclosing : rooms op.node op.room = some .closing)
    (hdel : pc = .hdel → b.owner op.room = some op.node) : PcOk b rooms op (.closeRelease pc) where
  bound := nofun
  deleting h hh := by
    cases pc with
    | hdel => exact hdel rfl ▸ hh
    | _ => cases hh
  releasing h hh := by simp [← some.inj hh, hclosing]
  closing := fun _ => hclosing
  attempts := trivial

end Positions

theorem hostInv_init (ops : ι → HostOp) (b : Bus) : HostInv ops (HostState.init ops b) := by
  have hstart : ∀ i, (HostState.init ops b).pc i = .route (.hget 0) ∨
      (HostState.init ops b).pc i = .create ∨ (HostState.init ops b).pc i = .close := by
    intro i
    simp only [HostState.init, HostOp.start]
    cases (ops i).kind with
    | join => exact .inl rfl
    | create => exact .inr (.inl rfl)
    | close => exact .inr (.inr rfl)
  refine ⟨nofun, fun i => ?_, fun i j hi => ?_⟩
  · rcases hstart i with h | h | h <;> rw [h]
    · exact PcOk.of_idle rfl rfl rfl (Nat.zero_le _)
    all_goals exact PcOk.of_idle rfl rfl rfl trivial
  · rcases hstart i with h | h | h <;> rw [h] at hi <;> cases hi

/-- **Assembling a step**: the new bus and maps respect hosting, the operation that moved is where
it may be, every other operation still is, and a close that begins does so on an open room. -/
theorem HostInv.update [DecidableEq ι] (hI : HostInv ops s)
    {rooms' : NodeId → RoomName → Option RoomPhase} {pc' : HostPc}
    (hhosted : ∀ n r, rooms' n r = some .active → b'.owner r = some n)
    (hself : PcOk b' rooms' (ops i) pc') (hothers : ∀ j, j ≠ i → PcOk b' rooms' (ops j) (s.pc j))
    (hclose : pc'.inClose → (s.pc i).inClose ∨
      s.rooms (ops i).node (ops i).room = some .active) :
    HostInv ops ⟨b', rooms', Function.update s.pc i pc'⟩ := by
  -- a close that is under way elsewhere has its room closing, so it is not the one that begins
  have hfresh : ∀ j, j ≠ i → pc'.inClose → (s.pc j).inClose →
      (ops i).node = (ops j).node → (ops i).room = (ops j).room → False := by
    intro j hj hi' hj' hnode hroom
    rcases hclose hi' with hi | hactive
    · exact hj (hI.closeOnce j i hj' hi hnode.symm hroom.symm)
    · have hclosing := (hI.pcs j).closing hj'
      simp [← hnode, ← hroom, hactive] at hclosing
  refine ⟨hhosted, (Function.forall_update_iff s.pc fun j pc => PcOk b' rooms' (ops j) pc).mpr
    ⟨hself, hothers⟩, fun j k hj hk hnode hroom => ?_⟩
  · by_cases hji : j = i <;> by_cases hki : k = i
    · rw [hji, hki]
    · subst hji
      simp only [Function.update_self] at hj
      simp only [Function.update_of_ne hki] at hk
      exact (hfresh k hki hj hk hnode hroom).elim
    · subst hki
      simp only [Function.update_self] at hk
      simp only [Function.update_of_ne hji] at hj
      exact (hfresh j hji hk hj hnode.symm hroom.symm).elim
    · simp only [Function.update_of_ne hji] at hj
      simp only [Function.update_of_ne hki] at hk
      exact hI.closeOnce j k hj hk hnode hroom

theorem PcOk.mono {pc : HostPc} (h : PcOk b rooms op pc)
    (hb : ∀ o, pc.boundFor = some o ∨ pc.deleting op.node = some o → b.owner op.room = some o →
      b'.owner op.room = some o) :
    PcOk b' rooms op pc where
  __ := h
  bound := fun o ho => hb o (.inl ho) (h.bound o ho)
  deleting := fun o ho => hb o (.inr ho) (h.deleting o ho)

/-- A step that changes one room entry of one node keeps an operation where it may be, if it does
not open a room where the operation is releasing and does not drop a room it is closing. -/
theorem PcOk.setRoom {pc : HostPc} {phase : Option RoomPhase} (h : PcOk b rooms op pc)
    (hopen : phase = some .active → op.room = r → pc.releasing op.node ≠ some n)
    (hkeep : pc.inClose → ¬ (op.node = n ∧ op.room = r)) :
    PcOk b (setRoom rooms n r phase) op pc where
  __ := h
  releasing := by
    intro o ho hactive
    unfold LivekitVoice.setRoom at hactive
    split at hactive
    · next heq => exact hopen hactive heq.2 (heq.1 ▸ ho)
    · exact h.releasing o ho hactive
  closing := by
    intro hc
    unfold LivekitVoice.setRoom
    rw [if_neg (hkeep hc)]
    exact h.closing hc

/-! ## The condition and the result -/

/-- **Joins and releases do not overlap**: no join is bound for a node on which an operation is
releasing the join's room. -/
def HostState.JoinsApart (ops : ι → HostOp) (s : HostState ι) : Prop :=
  ∀ i j, (ops i).room = (ops j).room → (s.pc i).boundFor ≠ none →
    (s.pc j).releasing (ops j).node ≠ (s.pc i).boundFor

/-- **Releases do not overlap**: a node releases a room at most once at a time. -/
def HostState.ReleasesOnce (ops : ι → HostOp) (s : HostState ι) : Prop :=
  ∀ i j, (ops i).room = (ops j).room → (s.pc i).releasing (ops i).node ≠ none →
    (s.pc i).releasing (ops i).node = (s.pc j).releasing (ops j).node → i = j

/-- **Creation by the owner**: if operation `i` is a `CreateRoom` or `CreateSIPParticipant` about
to open a room, the room is registered to its node, which is not releasing it. -/
def HostState.CreatesOwned (ops : ι → HostOp) (s : HostState ι) (i : ι) : Prop :=
  s.pc i = .create → s.rooms (ops i).node (ops i).room = none →
    s.bus.owner (ops i).room = some (ops i).node ∧
      ∀ j, (ops j).room = (ops i).room → (s.pc j).releasing (ops j).node ≠ some (ops i).node

/-- **The condition** under which a step keeps rooms on their owners. -/
structure Exclusive (ops : ι → HostOp) (s : HostState ι) (a : ι × Choice) : Prop where
  /-- Joins and releases of a room on a node do not overlap. -/
  apart : s.JoinsApart ops
  /-- Releases of a room on a node do not overlap. -/
  single : s.ReleasesOnce ops
  /-- No join runs out of claim attempts. -/
  attempts : s.pc a.1 ≠ .route (.hget maxAttempts)
  /-- A new room is created by its owner only. -/
  creates : s.CreatesOwned ops a.1

section Decidable

variable [Fintype ι] [DecidableEq ι] (ops : ι → HostOp) (s : HostState ι)

instance : Decidable (s.JoinsApart ops) := inferInstanceAs (Decidable (∀ _ _, _))

instance : Decidable (s.ReleasesOnce ops) := inferInstanceAs (Decidable (∀ _ _, _))

instance (i : ι) : Decidable (s.CreatesOwned ops i) := inferInstanceAs (Decidable (_ → _ → _))

instance (a : ι × Choice) : Decidable (Exclusive ops s a) :=
  decidable_of_iff
    (s.JoinsApart ops ∧ s.ReleasesOnce ops ∧ s.pc a.1 ≠ .route (.hget maxAttempts) ∧
      s.CreatesOwned ops a.1)
    ⟨fun h => ⟨h.1, h.2.1, h.2.2.1, h.2.2.2⟩,
      fun h => ⟨h.apart, h.single, h.attempts, h.creates⟩⟩

end Decidable

variable {a : ι × Choice}

/-- `get_or_create_room` on the registered node, with no release in flight there, keeps rooms on
their owners and operations where they may be. -/
theorem HostInv.getOrCreateRoom (hI : HostInv ops s)
    (howner : s.rooms n r = none → s.bus.owner r = some n)
    (hrel : s.rooms n r = none → ∀ j, (ops j).room = r → (s.pc j).releasing (ops j).node ≠ some n) :
    (∀ n' r', LivekitVoice.getOrCreateRoom s.rooms n r n' r' = some .active →
      s.bus.owner r' = some n') ∧
    ∀ j, PcOk s.bus (LivekitVoice.getOrCreateRoom s.rooms n r) (ops j) (s.pc j) := by
  unfold LivekitVoice.getOrCreateRoom
  by_cases hsome : (s.rooms n r).isSome
  · rw [if_pos hsome]
    exact ⟨hI.hosted, hI.pcs⟩
  · rw [if_neg hsome]
    have hnone : s.rooms n r = none := by simpa using hsome
    refine ⟨fun n' r' hactive => ?_, fun j => ?_⟩
    · unfold LivekitVoice.setRoom at hactive
      split at hactive
      · next heq =>
        obtain ⟨rfl, rfl⟩ := heq
        exact howner hnone
      · exact hI.hosted n' r' hactive
    · refine (hI.pcs j).setRoom (fun _ hroom => hrel hnone j hroom) ?_
      rintro hclose ⟨hnode, hroom⟩
      have hclosing := (hI.pcs j).closing hclose
      simp [hnode, hroom, hnone] at hclosing

/-- Deleting the entry that operation `i` is about to delete leaves every other operation where it
may be: nobody is bound for that node, and nobody else deletes there. -/
theorem HostInv.pcs_hdel (hI : HostInv ops s) (hG : Exclusive ops s a)
    (hdel : (s.pc i).deleting (ops i).node = some n) {j : ι} (hj : j ≠ i) :
    PcOk (s.bus.hdel roomsKey (ops i).room) s.rooms (ops j) (s.pc j) := by
  have howner := (hI.pcs i).deleting n hdel
  have hrel := HostPc.releasing_of_deleting hdel
  refine (hI.pcs j).mono fun o ho hown => ?_
  -- a join bound for `n`, or another release there, would overlap with this one
  have hne : (ops j).room ≠ (ops i).room := by
    intro hroom
    obtain rfl : o = n := some.inj ((hroom ▸ hown).symm.trans howner)
    rcases ho with hbound | hdel'
    · exact hG.apart j i hroom (by rw [hbound]; simp) (hrel.trans hbound.symm)
    · have hrel' := HostPc.releasing_of_deleting hdel'
      exact hj (hG.single j i hroom (by rw [hrel']; simp) (hrel'.trans hrel.symm))
  simpa [hne] using hown

/-- A command of a `release_room` in flight on `n` keeps rooms on their owners and every other
operation where it may be, and leads to the delete only when `n` is registered. -/
theorem HostInv.releaseMove (hI : HostInv ops s) (hG : Exclusive ops s a) {pc pc' : ReleasePc}
    (hrel : (s.pc i).releasing (ops i).node = some n)
    (hdel : pc = .hdel → (s.pc i).deleting (ops i).node = some n)
    (hmove : ReleaseMove n (ops i).room s.bus pc b' pc') :
    (∀ n' r, s.rooms n' r = some .active → b'.owner r = some n') ∧
    (∀ j, j ≠ i → PcOk b' s.rooms (ops j) (s.pc j)) ∧
    (pc' = .done ∨ pc' = .hdel ∧ b'.owner (ops i).room = some n) := by
  cases hmove with
  | own h => exact ⟨hI.hosted, fun j _ => hI.pcs j, .inr ⟨rfl, h⟩⟩
  | skip | lost => exact ⟨hI.hosted, fun j _ => hI.pcs j, .inl rfl⟩
  | deleted =>
    have howner := (hI.pcs i).deleting n (hdel rfl)
    refine ⟨fun n' r' hactive => ?_, fun j hj => hI.pcs_hdel hG (hdel rfl) hj, .inl rfl⟩
    -- the room whose entry goes is not open on its owner
    have hn' := hI.hosted n' r' hactive
    by_cases hr : r' = (ops i).room
    · subst hr
      obtain rfl : n' = n := some.inj (hn'.symm.trans howner)
      exact absurd hactive ((hI.pcs i).releasing n' hrel)
    · simpa [hr] using hn'

theorem pcOk_afterRoute {rep : Reply} {pc pc' : RoutePc} (hok : PcOk b rooms op (.route pc))
    (hlast : pc ≠ .hget maxAttempts) (hmove : RouteMove op.node op.room b rep pc b' pc') :
    PcOk b' rooms op (afterRoute op.node pc') := by
  have hclaim : ∀ attempt, attempt < maxAttempts →
      PcOk b rooms op (afterRoute op.node (RoutePc.claimOrFallback attempt)) := by
    intro attempt hlt
    rw [RoutePc.claimOrFallback, if_pos hlt]
    exact PcOk.of_idle rfl rfl rfl hlt
  have hretry : ∀ (b' : Bus) attempt, attempt < maxAttempts →
      PcOk b' rooms op (afterRoute op.node (.hget (attempt + 1))) := fun b' attempt hlt =>
    PcOk.of_idle rfl rfl rfl (show attempt + 1 ≤ maxAttempts from hlt)
  have hread : ∀ attempt, pc = .hget attempt → attempt < maxAttempts := by
    rintro attempt rfl
    have hle : attempt ≤ maxAttempts := hok.attempts
    exact lt_of_le_of_ne hle fun heq => hlast (by rw [heq])
  cases hmove with
  | own attempt h => exact pcOk_session h
  | other attempt owner h hne =>
    refine PcOk.of_bound ?_ rfl rfl (hread attempt rfl)
    rintro _ ⟨⟩
    exact h
  | unowned attempt h | unread applied attempt => exact hclaim attempt (hread attempt rfl)
  | live attempt owner h => exact pcOk_session (hok.bound owner rfl)
  | dead attempt owner h | unchecked applied attempt owner => exact hclaim attempt hok.attempts
  | claimed attempt h => exact pcOk_session (by simp)
  | contended attempt owner h | unclaimed applied attempt => exact hretry b attempt hok.attempts
  | unconfirmed attempt h => exact hretry _ attempt hok.attempts

theorem HostInv.hosted_setRoom (hI : HostInv ops s) {phase : Option RoomPhase}
    (hphase : phase ≠ some .active) :
    ∀ n' r', setRoom s.rooms n r phase n' r' = some .active → s.bus.owner r' = some n' := by
  intro n' r' hr
  unfold setRoom at hr
  split at hr
  · exact absurd hr hphase
  · exact hI.hosted n' r' hr

theorem HostInv.quiet [DecidableEq ι] (hI : HostInv ops s) {pc' : HostPc}
    (hpc' : pc' = .done ∨ ∃ host, pc' = .failed host) : HostInv ops (s.setPc i pc') := by
  refine hI.update hI.hosted ?_ (fun j _ => hI.pcs j) fun hc => ?_
  · rcases hpc' with rfl | ⟨host, rfl⟩ <;> exact PcOk.of_idle rfl rfl rfl trivial
  · rcases hpc' with rfl | ⟨host, rfl⟩ <;> cases hc

/-- **Step lemma**: a step that meets `Exclusive` preserves the hosting invariant. -/
theorem hostInv_step [DecidableEq ι] (hI : HostInv ops s) (hG : Exclusive ops s a)
    (h : s.step ops a = some s') : HostInv ops s' := by
  obtain ⟨i, c⟩ := a
  revert h
  fun_cases HostState.step ops s (i, c) <;> intro h
  case case5 | case6 | case9 | case18 => cases h
  case case4 | case7 | case8 | case15 =>
    cases h
    exact hI.quiet (.inl rfl)
  case case3 host _ _ | case10 host _ _ =>
    cases h
    exact hI.quiet (.inr ⟨host, rfl⟩)
  · -- a command of `route_room`, which writes at most an entry nobody is registered for
    next node room pc rep _ hpc =>
    obtain ⟨⟨b', pc'⟩, hstep, rfl⟩ := map_eq_some_iff.mp h
    have hmove := RoutePc.move_of_step hstep
    have hok : PcOk s.bus s.rooms (ops i) (.route pc) := hpc ▸ hI.pcs i
    have hlast : pc ≠ .hget maxAttempts := by
      rintro rfl
      exact hG.attempts hpc
    refine hI.update (fun n r hr => hmove.owner_eq_of_some (hI.hosted n r hr))
      (pcOk_afterRoute hok hlast hmove)
      (fun j _ => (hI.pcs j).mono fun o _ ho => hmove.owner_eq_of_some ho) fun hc => ?_
    unfold afterRoute at hc
    split at hc <;> cases hc
  · -- `join_room` gets its room
    next room host _ hpc =>
    cases h
    have hbound : (s.pc i).boundFor = some host := by rw [hpc]; rfl
    have howner : s.bus.owner (ops i).room = some host := (hI.pcs i).bound host hbound
    obtain ⟨hhosted, hpcs⟩ := hI.getOrCreateRoom (fun _ => howner) fun _ j hroom =>
      hbound ▸ hG.apart i j hroom.symm (by rw [hbound]; simp)
    exact hI.update hhosted (PcOk.of_idle rfl rfl rfl trivial) (fun j _ => hpcs j)
      nofun
  · -- a failed join finds its room, or starts the release
    next room host _ hpc =>
    cases h
    by_cases hsome : (s.rooms host room).isSome
    · rw [if_pos hsome]
      exact hI.quiet (.inl rfl)
    · rw [if_neg hsome]
      refine hI.update hI.hosted (pcOk_release (fun hactive => ?_) nofun)
        (fun j _ => hI.pcs j) nofun
      exact hsome (isSome_of_eq_some hactive)
  · -- a command of a failed join's `release_room`
    next room host pc rep _ hpc =>
    obtain ⟨⟨b', pc'⟩, hstep, rfl⟩ := map_eq_some_iff.mp h
    have hrel : (s.pc i).releasing (ops i).node = some host := by rw [hpc]; rfl
    obtain ⟨hhosted, hothers, hnext⟩ :=
      hI.releaseMove hG hrel (by rintro rfl; rw [hpc]; rfl) (ReleasePc.move_of_step hstep)
    refine hI.update hhosted ?_ hothers fun hc => ?_
    · rcases hnext with rfl | ⟨rfl, howner⟩
      · exact PcOk.of_idle rfl rfl rfl trivial
      · exact pcOk_release ((hI.pcs i).releasing host hrel) fun _ => howner
    · rcases hnext with rfl | ⟨rfl, -⟩ <;> cases hc
  · -- `CreateRoom` or `CreateSIPParticipant` gets its room
    next node room _ hpc =>
    cases h
    obtain ⟨hhosted, hpcs⟩ := hI.getOrCreateRoom (fun hnone => (hG.creates hpc hnone).1)
      fun hnone j hroom => (hG.creates hpc hnone).2 j hroom
    exact hI.update hhosted (PcOk.of_idle rfl rfl rfl trivial) (fun j _ => hpcs j)
      nofun
  · -- the closing flag of an open room: one that is being closed already is not open
    next hactive =>
    cases h
    refine hI.update (hI.hosted_setRoom (by simp))
      (pcOk_closeRelease (if_pos ⟨rfl, rfl⟩) nofun) (fun j hj => ?_)
      fun _ => .inr hactive
    refine (hI.pcs j).setRoom nofun ?_
    rintro hclose ⟨hnode, hroom⟩
    have hclosing := (hI.pcs j).closing hclose
    simp [hnode, hroom, hactive] at hclosing
  · -- a command of `Room::close`'s `release_room`
    next node room pc rep _ hpc =>
    obtain ⟨⟨b', pc'⟩, hstep, rfl⟩ := map_eq_some_iff.mp h
    have hclose : (s.pc i).inClose := by rw [hpc]; rfl
    have hclosing := (hI.pcs i).closing hclose
    obtain ⟨hhosted, hothers, hnext⟩ := hI.releaseMove hG (by rw [hpc]; rfl)
      (by rintro rfl; rw [hpc]; rfl) (ReleasePc.move_of_step hstep)
    refine hI.update hhosted ?_ hothers fun _ => .inl hclose
    rcases hnext with rfl | ⟨rfl, howner⟩
    · exact ⟨nofun, nofun, nofun, fun _ => hclosing, trivial⟩
    · exact pcOk_closeRelease hclosing fun _ => howner
  · -- the closed room leaves the map
    next node room _ hpc =>
    cases h
    have hclose : (s.pc i).inClose := by rw [hpc]; rfl
    refine hI.update (hI.hosted_setRoom (by simp)) (PcOk.of_idle rfl rfl rfl trivial)
      (fun j hj => ?_) nofun
    refine (hI.pcs j).setRoom nofun ?_
    rintro hclose' ⟨hnode, hroom⟩
    exact hj (hI.closeOnce j i hclose' hclose hnode hroom)

/-- **A room is hosted on the node it is registered to.** Client joins, `CreateRoom`,
`CreateSIPParticipant` and `Room::close` run on any nodes, interleaved at every bus command and
with any bus failures. In every state reached by a run whose steps all meet `Exclusive`, a room
open on a node is registered to that node, so no room is open on two nodes. -/
theorem hosted_on_owner [DecidableEq ι] (ops : ι → HostOp) (b : Bus) {as : List (ι × Choice)}
    {s : HostState ι} (hexcl : Along (HostState.step ops) (Exclusive ops) (HostState.init ops b) as)
    (hrun : run (HostState.step ops) (HostState.init ops b) as = some s) :
    (∀ n r, s.rooms n r = some .active → s.bus.owner r = some n) ∧
      ∀ n m r, s.rooms n r = some .active → s.rooms m r = some .active → n = m := by
  have hI : HostInv ops s :=
    run_invariant_along (fun _ _ _ hI hG h => hostInv_step hI hG h) (hostInv_init ops b) hexcl hrun
  refine ⟨hI.hosted, fun n m r hn hm => ?_⟩
  exact some.inj ((hI.hosted n r hn).symm.trans (hI.hosted m r hm))

/-- Two live nodes and no room. -/
def twoNodesBus : Bus := (Bus.empty.set (nodeKey "A") "alive").set (nodeKey "B") "alive"

/-- A client joins on `A`, which claims the room; a client on `B` is relayed to `A`; `CreateRoom`
on `A` finds the room. The condition is met throughout. -/
theorem hosted_on_owner_relayed :
    ∃ s, run (HostState.step ![⟨.join, "A", "r"⟩, ⟨.join, "B", "r"⟩, ⟨.create, "A", "r"⟩])
        (HostState.init ![⟨.join, "A", "r"⟩, ⟨.join, "B", "r"⟩, ⟨.create, "A", "r"⟩] twoNodesBus)
        [(0, .reply .ok), (0, .reply .ok), (0, .accept), (1, .reply .ok), (1, .reply .ok),
          (1, .accept), (0, .accept), (2, .accept)] = some s ∧
      s.rooms "A" "r" = some .active ∧
      (∀ n r, s.rooms n r = some .active → s.bus.owner r = some n) ∧
      ∀ n m r, s.rooms n r = some .active → s.rooms m r = some .active → n = m := by
  refine (show ∃ s ∈ run _ _ _, s.rooms "A" "r" = some .active by decide).imp
    fun s ⟨hrun, hroom⟩ => ⟨hrun, hroom, hosted_on_owner _ _ (by decide) hrun⟩

/-- **`CreateRoom` does not claim the room.** Both nodes are alive and no room is registered; a
`CreateRoom` on `A` and one on `B` for the same name leave the room open on both. -/
theorem createRoom_on_two_nodes :
    ∃ s, run (HostState.step ![⟨.create, "A", "r"⟩, ⟨.create, "B", "r"⟩])
        (HostState.init ![⟨.create, "A", "r"⟩, ⟨.create, "B", "r"⟩] twoNodesBus)
        [(0, .accept), (1, .accept)] = some s ∧
      s.rooms "A" "r" = some .active ∧ s.rooms "B" "r" = some .active ∧
      s.bus.owner "r" = none ∧ s.bus.alive "A" ∧ s.bus.alive "B" := by
  decide

end LivekitVoice
