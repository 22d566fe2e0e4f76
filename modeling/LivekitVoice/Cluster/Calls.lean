import LivekitVoice.Cluster.Bus
import LivekitVoice.Transition.Run

/-! # `route_room` and `release_room` as interleaved bus commands

Every `await` on the bus is a step boundary, so a call is a program counter that names the next
bus command together with the locals it needs: the attempt of `route_room`'s claim loop and the
owner it has read. `ClusterState` runs any family of calls on any nodes against one bus.

* **`RouteMove`**, **`ReleaseMove`** — the steps as rules, one per branch of the source; every
  proof about calls goes through `RoutePc.move_of_step` and `ReleasePc.move_of_step`. -/

namespace LivekitVoice

open Transition

/-- Where a room is hosted, as `route_room` answers. -/
inductive Routing
  /-- This node hosts the room. -/
  | local
  /-- The named node hosts the room. -/
  | remote (owner : NodeId)
  deriving DecidableEq

/-- A node's view of the cluster (`Cluster`, without the bus handle it shares). -/
structure Cluster where
  /-- This node's id. -/
  nodeId : NodeId
  /-- Whether clustering is on. -/
  enabled : Bool

/-! ## `route_room` -/

/-- The number of claim attempts before `route_room` settles for what it observes. -/
def maxAttempts : Nat := 8

/-- **The next bus command of `route_room`.** Attempts below `maxAttempts` are the claim loop;
attempt `maxAttempts` is the read that follows it. -/
inductive RoutePc
  /-- About to read the owner. -/
  | hget (attempt : Nat)
  /-- About to check that the owner read is alive. -/
  | nodeAlive (attempt : Nat) (owner : NodeId)
  /-- About to claim the room. -/
  | hsetnx (attempt : Nat)
  /-- Returned. -/
  | done (routing : Routing)
  deriving DecidableEq

/-- The first command of a `route_room` call; a disabled cluster answers at once. -/
def Cluster.routeRoom (c : Cluster) : RoutePc :=
  if c.enabled then .hget 0 else .done .local

namespace RoutePc

/-- Unowned or dead owner: the loop tries to claim the room, the read after it answers
`Local`. -/
def claimOrFallback (attempt : Nat) : RoutePc :=
  if attempt < maxAttempts then .hsetnx attempt else .done .local

/-- **One bus command of `route_room`** on node `node` for `room`. -/
def step (node : NodeId) (room : RoomName) (b : Bus) (rep : Reply) :
    RoutePc → Option (Bus × RoutePc)
  | .hget attempt =>
    -- a failed read counts as "no owner"
    match rep.read (b.hget roomsKey room) with
    | some owner =>
      if owner = node then some (b, .done .local) else some (b, .nodeAlive attempt owner)
    | none => some (b, claimOrFallback attempt)
  | .nodeAlive attempt owner =>
    if rep.flag (b.alive owner) then some (b, .done (.remote owner))
    else some (b, claimOrFallback attempt)
  | .hsetnx attempt =>
    -- the write may take effect although its reply is lost
    let r := b.hsetnx roomsKey room node
    some (rep.write b r.1, if rep.flag r.2 then .done .local else .hget (attempt + 1))
  | .done _ => none

end RoutePc

/-- **What one command of `route_room` does**, one rule per branch of the source: the reply it
gets, the program counter before it, and the bus and the program counter after it. -/
inductive RouteMove (node : NodeId) (room : RoomName) (b : Bus) :
    Reply → RoutePc → Bus → RoutePc → Prop
  /-- The registry names this node. -/
  | own (attempt : Nat) (h : b.owner room = some node) :
      RouteMove node room b .ok (.hget attempt) b (.done .local)
  /-- The registry names another node. -/
  | other (attempt : Nat) (owner : NodeId) (h : b.owner room = some owner) (hne : owner ≠ node) :
      RouteMove node room b .ok (.hget attempt) b (.nodeAlive attempt owner)
  /-- The registry names nobody. -/
  | unowned (attempt : Nat) (h : b.owner room = none) :
      RouteMove node room b .ok (.hget attempt) b (RoutePc.claimOrFallback attempt)
  /-- The registry could not be read. -/
  | unread (applied : Bool) (attempt : Nat) :
      RouteMove node room b (.failed applied) (.hget attempt) b (RoutePc.claimOrFallback attempt)
  /-- The owner is alive. -/
  | live (attempt : Nat) (owner : NodeId) (h : b.alive owner) :
      RouteMove node room b .ok (.nodeAlive attempt owner) b (.done (.remote owner))
  /-- The owner's liveness key is gone. -/
  | dead (attempt : Nat) (owner : NodeId) (h : b.alive owner = false) :
      RouteMove node room b .ok (.nodeAlive attempt owner) b (RoutePc.claimOrFallback attempt)
  /-- The owner's liveness key could not be read. -/
  | unchecked (applied : Bool) (attempt : Nat) (owner : NodeId) :
      RouteMove node room b (.failed applied) (.nodeAlive attempt owner) b
        (RoutePc.claimOrFallback attempt)
  /-- The claim succeeds. -/
  | claimed (attempt : Nat) (h : b.owner room = none) :
      RouteMove node room b .ok (.hsetnx attempt) (b.hset roomsKey room node) (.done .local)
  /-- The claim fails: the room is registered already. -/
  | contended (attempt : Nat) (owner : NodeId) (h : b.owner room = some owner) :
      RouteMove node room b .ok (.hsetnx attempt) b (.hget (attempt + 1))
  /-- The claim succeeds but its reply is lost. -/
  | unconfirmed (attempt : Nat) (h : b.owner room = none) :
      RouteMove node room b (.failed true) (.hsetnx attempt) (b.hset roomsKey room node)
        (.hget (attempt + 1))
  /-- The claim is lost. -/
  | unclaimed (applied : Bool) (attempt : Nat) :
      RouteMove node room b (.failed applied) (.hsetnx attempt) b (.hget (attempt + 1))

namespace RoutePc

variable {node : NodeId} {room : RoomName} {b b' : Bus} {pc pc' : RoutePc} {rep : Reply}

/-- **Every command of `route_room`** is one of the rules. -/
theorem move_of_step (h : step node room b rep pc = some (b', pc')) :
    RouteMove node room b rep pc b' pc' := by
  cases pc with
  | hget attempt =>
    cases rep with
    | failed applied =>
      cases h
      exact .unread applied attempt
    | ok =>
      rw [step, Reply.read_ok, Bus.hget_roomsKey] at h
      split at h
      · next owner ho =>
        split at h <;> cases h
        · next hown => exact .own attempt (hown ▸ ho)
        · next hne => exact .other attempt owner ho hne
      · next ho =>
        cases h
        exact .unowned attempt ho
  | nodeAlive attempt owner =>
    cases rep with
    | failed applied =>
      cases h
      exact .unchecked applied attempt owner
    | ok =>
      rw [step, Reply.flag_ok] at h
      split at h <;> cases h
      · next halive => exact .live attempt owner halive
      · next hdead => exact .dead attempt owner (by simpa using hdead)
  | hsetnx attempt =>
    cases ho : b.owner room with
    | some owner =>
      rw [step, show b.hsetnx roomsKey room node = (b, false) by simp [Bus.hsetnx, ho]] at h
      cases rep with
      | ok =>
        cases h
        exact .contended attempt owner ho
      | failed applied => cases applied <;> cases h <;> exact .unclaimed _ attempt
    | none =>
      rw [step, show b.hsetnx roomsKey room node = (b.hset roomsKey room node, true) by
        simp [Bus.hsetnx, ho]] at h
      cases rep with
      | ok =>
        cases h
        exact .claimed attempt ho
      | failed applied =>
        cases applied with
        | true =>
          cases h
          exact .unconfirmed attempt ho
        | false =>
          cases h
          exact .unclaimed false attempt
  | done routing => cases h

end RoutePc

namespace RouteMove

variable {node : NodeId} {room : RoomName} {b b' : Bus} {pc pc' : RoutePc} {rep : Reply}

section

variable (h : RouteMove node room b rep pc b' pc')
include h

/-- **The only write of `route_room`**, whatever the reply: a command leaves the bus alone, or
registers this node for a room nobody is registered for. -/
theorem bus_eq : b' = b ∨ b.owner room = none ∧ b' = b.hset roomsKey room node := by
  cases h with
  | claimed attempt h | unconfirmed attempt h => exact .inr ⟨h, rfl⟩
  | _ => exact .inl rfl

theorem owner_eq_of_some {r : RoomName} {o : NodeId}
    (ho : b.owner r = some o) : b'.owner r = some o := by
  rcases h.bus_eq with rfl | ⟨hnone, rfl⟩
  · exact ho
  · have hne : r ≠ room := by
      rintro rfl
      simp [hnone] at ho
    simpa [hne] using ho

theorem owner_eq (r : RoomName) :
    b'.owner r = b.owner r ∨ b.owner r = none ∧ b'.owner r = some node := by
  rcases h.bus_eq with rfl | ⟨hnone, rfl⟩
  · exact .inl rfl
  · by_cases hr : r = room
    · subst hr
      exact .inr ⟨hnone, by simp⟩
    · exact .inl (by simp [hr])

theorem alive_eq (m : NodeId) : b'.alive m = b.alive m := by
  rcases h.bus_eq with rfl | ⟨-, rfl⟩
  · rfl
  · exact Bus.alive_hset b _ _ _ m

end

end RouteMove

/-! ## `release_room` -/

/-- **The next bus command of `release_room`.** -/
inductive ReleasePc
  /-- About to read the owner. -/
  | hget
  /-- Has read its own id as the owner; about to delete the entry. -/
  | hdel
  /-- Returned. -/
  | done
  deriving DecidableEq

/-- The first command of a `release_room` call; a disabled cluster does nothing. -/
def Cluster.releaseRoom (c : Cluster) : ReleasePc :=
  if c.enabled then .hget else .done

namespace ReleasePc

/-- **One bus command of `release_room`** on node `node` for `room`. -/
def step (node : NodeId) (room : RoomName) (b : Bus) (rep : Reply) :
    ReleasePc → Option (Bus × ReleasePc)
  | .hget => some (b, if rep.read (b.hget roomsKey room) = some node then .hdel else .done)
  | .hdel => some (rep.write b (b.hdel roomsKey room), .done)
  | .done => none

end ReleasePc

/-- **What one command of `release_room` does**, whatever the reply. -/
inductive ReleaseMove (node : NodeId) (room : RoomName) (b : Bus) :
    ReleasePc → Bus → ReleasePc → Prop
  /-- The registry names this node. -/
  | own (h : b.owner room = some node) : ReleaseMove node room b .hget b .hdel
  /-- The registry does not name this node, or could not be read. -/
  | skip : ReleaseMove node room b .hget b .done
  /-- The entry is deleted. -/
  | deleted : ReleaseMove node room b .hdel (b.hdel roomsKey room) .done
  /-- The delete is lost. -/
  | lost : ReleaseMove node room b .hdel b .done

namespace ReleasePc

variable {node : NodeId} {room : RoomName} {b b' : Bus} {pc pc' : ReleasePc} {rep : Reply}

/-- **Every command of `release_room`** is one of the rules. -/
theorem move_of_step (h : step node room b rep pc = some (b', pc')) :
    ReleaseMove node room b pc b' pc' := by
  cases pc with
  | hget =>
    cases h
    split
    · next howner =>
      cases rep with
      | ok => exact .own howner
      | failed => simp [Reply.read] at howner
    · exact .skip
  | hdel =>
    cases h
    cases rep with
    | ok => exact .deleted
    | failed applied =>
      cases applied with
      | true => exact .deleted
      | false => exact .lost
  | done => cases h

end ReleasePc

/-! ## Interleaved calls -/

/-- The two calls that touch the room registry. -/
inductive CallKind
  /-- `route_room`. -/
  | routeRoom
  /-- `release_room`. -/
  | releaseRoom

/-- A call: what is called, on which node, for which room. -/
structure Call where
  /-- The method called. -/
  kind : CallKind
  /-- The node it runs on. -/
  cluster : Cluster
  /-- Its argument. -/
  room : RoomName

/-- The node a call runs on. -/
abbrev Call.node (c : Call) : NodeId := c.cluster.nodeId

/-- The program counter of a call. -/
inductive CallPc
  /-- In `route_room`. -/
  | route (pc : RoutePc)
  /-- In `release_room`. -/
  | release (pc : ReleasePc)
  deriving DecidableEq

/-- The program counter a call starts with. -/
def Call.start (c : Call) : CallPc :=
  match c.kind with
  | .routeRoom => .route c.cluster.routeRoom
  | .releaseRoom => .release c.cluster.releaseRoom

/-- **The cluster at one moment**: the bus, and where each call stands. -/
structure ClusterState (ι : Type) where
  /-- The shared bus. -/
  bus : Bus
  /-- The next command of every call. -/
  pc : ι → CallPc

namespace ClusterState

variable {ι : Type} [DecidableEq ι]

/-- No call has issued a command yet. -/
def init (calls : ι → Call) (b : Bus) : ClusterState ι := ⟨b, fun i => (calls i).start⟩

/-- One step: call `a.1` issues its next command, which ends as `a.2` says. -/
def step (calls : ι → Call) (s : ClusterState ι) (a : ι × Reply) : Option (ClusterState ι) :=
  match s.pc a.1 with
  | .route pc =>
    (pc.step (calls a.1).node (calls a.1).room s.bus a.2).map fun r =>
      ⟨r.1, Function.update s.pc a.1 (.route r.2)⟩
  | .release pc =>
    (pc.step (calls a.1).node (calls a.1).room s.bus a.2).map fun r =>
      ⟨r.1, Function.update s.pc a.1 (.release r.2)⟩

/-- A call of the family has returned `routing` from `route_room`. -/
def Returned (s : ClusterState ι) (i : ι) (routing : Routing) : Prop :=
  s.pc i = .route (.done routing)

/-- **One step is one command of one call**: either a `route_room` or a `release_room` moves, and
no other call's program counter changes. -/
theorem step_cases {calls : ι → Call} {s s' : ClusterState ι} {i : ι} {rep : Reply}
    (h : step calls s (i, rep) = some s') :
    (∃ pc b' pc', s.pc i = .route pc ∧
      RouteMove (calls i).node (calls i).room s.bus rep pc b' pc' ∧
      s' = ⟨b', Function.update s.pc i (.route pc')⟩) ∨
    (∃ pc b' pc', s.pc i = .release pc ∧
      ReleaseMove (calls i).node (calls i).room s.bus pc b' pc' ∧
      s' = ⟨b', Function.update s.pc i (.release pc')⟩) := by
  simp only [step] at h
  split at h
  · next pc hpc =>
    obtain ⟨⟨b', pc'⟩, hstep, rfl⟩ := Option.map_eq_some_iff.mp h
    exact .inl ⟨pc, b', pc', hpc, RoutePc.move_of_step hstep, rfl⟩
  · next pc hpc =>
    obtain ⟨⟨b', pc'⟩, hstep, rfl⟩ := Option.map_eq_some_iff.mp h
    exact .inr ⟨pc, b', pc', hpc, ReleasePc.move_of_step hstep, rfl⟩

end ClusterState

end LivekitVoice
