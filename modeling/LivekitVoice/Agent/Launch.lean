import LivekitVoice.Room.Agents
import LivekitVoice.Transition.Once

/-! # Launching the agents of a room

An agent comes into a room in two ways. A token, or `CreateRoom`, names agents for the room; they
are recorded with it, and the session of the participant who brought them launches them. An
`AgentDispatch` is created on its own, before or after its room: `CreateDispatch` launches it if it
finds the room, and the task that is spawned when the room is created launches those it finds.
Launches are tasks of their own. This is the machine of one room name, up to the closing of the
room.

* **`launched_once`** — under `Careful`, every agent and every dispatch is launched once. -/

namespace LivekitVoice

open List Transition

/-! ## Launches -/

/-- What a launch is for. -/
inductive LaunchKey
  | agent (key : String)
  | dispatch (id : String)
  deriving DecidableEq

/-- The arguments of `launch_room_job`, without the room. -/
structure LaunchRequest where
  agentName : String
  metadata : String
  deployment : String
  attributes : List (String × String)
  dispatchId : Option String

/-- The agent of the room, or the dispatch, that is launched. -/
def LaunchRequest.target (r : LaunchRequest) : LaunchKey :=
  match r.dispatchId with
  | none => .agent (r.agentName ++ "\x00" ++ r.metadata)
  | some id => .dispatch id

/-- The launch of an agent by a session. -/
def RoomAgentDispatch.launch (d : RoomAgentDispatch) : LaunchRequest :=
  ⟨d.agentName, d.metadata, d.deployment, d.attributes, none⟩

/-- The launch of a dispatch. -/
def AgentDispatch.launch (d : AgentDispatch) : LaunchRequest :=
  ⟨d.agentName, d.metadata, d.deployment, d.attributes, some d.id⟩

/-! ## The calls -/

/-- Where a `get_or_create_room` stands. -/
inductive OpeningPc
  | lookup
  /-- The room is made, and inserted unless another one is there. -/
  | entry
  deriving DecidableEq

/-- Where a `CreateRoom` stands. -/
inductive CreateRoomPc
  | opening (pc : OpeningPc)
  | configure
  /-- It has these agents left. -/
  | record (todo : List RoomAgentDispatch)
  | done
  deriving DecidableEq

/-- **Where a join stands**, with the agents that it has recorded. -/
inductive JoiningPc
  | opening (pc : OpeningPc)
  | evict
  | record (todo added : List RoomAgentDispatch)
  | closedCheck (added : List RoomAgentDispatch)
  | fullCheck (added : List RoomAgentDispatch)
  | insert (added : List RoomAgentDispatch)
  /-- The participant is in the room, and its session launches the agents. -/
  | launch (added : List RoomAgentDispatch)
  | refused
  | done
  deriving DecidableEq

/-- The agents that are still to be launched. -/
def JoiningPc.added : JoiningPc → List RoomAgentDispatch
  | .record _ added | .closedCheck added | .fullCheck added | .insert added | .launch added => added
  | .opening _ | .evict | .refused | .done => []

/-- **A call, or a task.** -/
inductive LaunchCall
  /-- `CreateRoom`; without agents also any other call that wants the room to exist. -/
  | createRoom (req : CreateRoomRequest) (pc : CreateRoomPc)
  /-- `join_room` and the beginning of the session. -/
  | join (p : Participant) (agents : List RoomAgentDispatch) (pc : JoiningPc)
  /-- `CreateDispatch`, which has created the dispatch. -/
  | createDispatch (d : AgentDispatch) (looked : Bool)
  /-- The task of a launch. -/
  | launch (req : LaunchRequest) (started : Bool)

namespace LaunchCall

def finished : LaunchCall → Bool
  | .createRoom _ pc => pc = .done
  | .join _ _ pc => pc = .refused || pc = .done
  | .createDispatch _ looked => looked
  | .launch _ started => started

/-- The dispatch that a call has created and not looked for a room for. -/
def asks : LaunchCall → Option String
  | .createDispatch d false => some d.id
  | _ => none

/-- How many launches for a key a call has yet to start. -/
def owes (k : LaunchKey) : LaunchCall → Nat
  | .join _ _ pc => (pc.added.map fun d => d.launch.target).count k
  | .launch req false => [req.target].count k
  | _ => 0

end LaunchCall

/-- The room of the name. -/
structure LaunchRoom where
  room : Room
  record : AgentRecord
  /-- The task that its creation spawned has looked for dispatches. -/
  listed : Bool

/-- **The server**, as far as one room name goes. -/
structure LaunchServer where
  name : String
  /-- The configured capacity of a new room. -/
  maxParticipants : Nat
  room : Option LaunchRoom
  manager : AgentManager
  /-- The dispatch ids that were given out; they are random, and none is given out twice. -/
  issued : List String
  calls : List LaunchCall
  /-- The calls of `launch_room_job`. -/
  started : List LaunchRequest

/-- What can happen. -/
inductive LaunchAction
  | createRoom (req : CreateRoomRequest)
  | join (p : Participant) (agents : List RoomAgentDispatch)
  /-- `CreateDispatch` creates its dispatch. -/
  | createDispatch (req : CreateDispatchRequest) (id : String) (now : Int)
  /-- `DeleteDispatch`. -/
  | deleteDispatch (id : String)
  /-- A participant leaves. -/
  | leave (sid : ParticipantSid)
  /-- The task that was spawned when the room was created: `launch_room_dispatches`. -/
  | launchRoomDispatches
  /-- Call `i` goes on. -/
  | next (i : Nat)

namespace LaunchServer

/-- A server without the room. -/
def init (name : String) (maxParticipants : Nat) : LaunchServer where
  name := name
  maxParticipants := maxParticipants
  room := none
  manager := .new
  issued := []
  calls := []
  started := []

variable (s : LaunchServer)

/-- Call `i` is now this. -/
def setCall (i : Nat) (c : LaunchCall) : LaunchServer :=
  { s with calls := s.calls.set i c }

/-- The room is changed, if it is there. -/
def modifyRoom (f : LaunchRoom → LaunchRoom) : LaunchServer :=
  { s with room := s.room.map f }

/-- Tasks are spawned. -/
def spawn (reqs : List LaunchRequest) : LaunchServer :=
  { s with calls := s.calls ++ reqs.map fun req => .launch req false }

/-- A step of `get_or_create_room`: what is left to do, if anything. -/
def openRoom : OpeningPc → LaunchServer × Option OpeningPc
  | .lookup => (s, if s.room.isSome then none else some .entry)
  | .entry =>
    (match s.room with
      | some _ => s
      | none => { s with room := some ⟨.new s.maxParticipants, .empty, false⟩ }, none)

/-- A step of `CreateRoom`. -/
def createRoomStep (i : Nat) (req : CreateRoomRequest) :
    CreateRoomPc → Option LaunchServer
  | .opening pc =>
    let opened := s.openRoom pc
    some (opened.1.setCall i (.createRoom req (opened.2.elim .configure .opening)))
  | .configure =>
    let limit (r : LaunchRoom) : LaunchRoom :=
      { r with room.maxParticipants :=
          if req.maxParticipants = 0 then r.room.maxParticipants else req.maxParticipants }
    some ((s.modifyRoom limit).setCall i (.createRoom req (.record req.agents)))
  | .record [] => some (s.setCall i (.createRoom req .done))
  | .record (d :: todo) =>
    -- whether it was new is not looked at
    some ((s.modifyRoom fun r => { r with record := (r.record.addAgentDispatch d).2 }).setCall i
      (.createRoom req (.record todo)))
  | .done => none

/-- A step of `join_room` or of the session that follows. -/
def joinStep (i : Nat) (r : LaunchRoom) (p : Participant)
    (agents : List RoomAgentDispatch) : JoiningPc → Option LaunchServer
  | .opening _ => none
  | .evict =>
    some ((s.modifyRoom fun r => { r with room := (r.room.evict p.identity).1 }).setCall i
      (.join p agents (.record agents [])))
  | .record [] added => some (s.setCall i (.join p agents (.closedCheck added)))
  | .record (d :: todo) added =>
    let result := r.record.addAgentDispatch d
    if result.1 then
      some ((s.modifyRoom fun r =>
        { r with record := result.2.markDispatchLaunched d.key }).setCall i
          (.join p agents (.record todo (added ++ [d]))))
    else some (s.setCall i (.join p agents (.record todo added)))
  | .closedCheck added =>
    some (s.setCall i (.join p agents (if r.room.closed then .refused
      else if p.kind.isDependent then .insert added else .fullCheck added)))
  | .fullCheck added =>
    some (s.setCall i (.join p agents (if r.room.isFull then .refused else .insert added)))
  | .insert added =>
    if r.room.hasIdentity p.identity then some (s.setCall i (.join p agents .refused))
    else
      some ((s.modifyRoom fun r => { r with room := r.room.addParticipant p }).setCall i
        (.join p agents (.launch added)))
  | .launch added =>
    some ((s.setCall i (.join p agents .done)).spawn (added.map RoomAgentDispatch.launch))
  | .refused | .done => none

/-- The next step of a call. -/
def callStep (i : Nat) : LaunchCall → Option LaunchServer
  | .createRoom req pc => s.createRoomStep i req pc
  | .join p agents (.opening pc) =>
    let opened := s.openRoom pc
    some (opened.1.setCall i (.join p agents (opened.2.elim .evict .opening)))
  | .join p agents pc => s.room.bind fun r => s.joinStep i r p agents pc
  | .createDispatch d false =>
    let looked := s.setCall i (.createDispatch d true)
    some (if s.room.isSome then looked.spawn [d.launch] else looked)
  | .launch req false =>
    some { s.setCall i (.launch req true) with started := s.started ++ [req] }
  | .createDispatch _ true | .launch _ true => none

/-- **One step.** -/
def step : LaunchAction → Option LaunchServer
  | .createRoom req => some { s with calls := s.calls ++ [.createRoom req (.opening .lookup)] }
  | .join p agents => some { s with calls := s.calls ++ [.join p agents (.opening .lookup)] }
  | .createDispatch req id now =>
    if req.room = s.name ∧ id ∉ s.issued then
      some { s with
        manager := s.manager.createDispatch req id now
        issued := s.issued ++ [id]
        calls := s.calls ++ [.createDispatch (AgentManager.newDispatch req id now) false] }
    else none
  | .deleteDispatch id => some { s with manager := s.manager.erase id }
  | .leave sid => some (s.modifyRoom fun r => { r with room := r.room.removeParticipant sid })
  | .launchRoomDispatches =>
    match s.room with
    | some ⟨room, record, false⟩ =>
      some ({ s with room := some ⟨room, record, true⟩ }.spawn
        ((s.manager.listDispatches s.name).map AgentDispatch.launch))
    | _ => none
  | .next i => s.calls[i]?.bind (s.callStep i)

/-! ## Once -/

/-- No call or task is in flight. -/
def quiet : Bool :=
  s.calls.all LaunchCall.finished && s.room.all LaunchRoom.listed

/-- How often `launch_room_job` was started for a key. -/
def launchesOf (k : LaunchKey) : Nat :=
  (s.started.map LaunchRequest.target).count k

/-- **Everything is launched once**: when all is quiet and somebody has joined who is not an agent
or a recorder, every agent of the room has been launched once, and every dispatch for it. -/
def LaunchedOnce : Prop :=
  s.quiet → ∀ r ∈ s.room, r.room.everJoined →
    (∀ d ∈ r.record.agents, s.launchesOf (.agent d.key) = 1) ∧
    ∀ d ∈ s.manager.listDispatches s.name, s.launchesOf (.dispatch d.id) = 1

/-- How often it was, or will be, by a call or task that is there. -/
def launches (k : LaunchKey) : Nat :=
  s.launchesOf k + (s.calls.map (LaunchCall.owes k)).sum

/-- The task that the creation of the room spawned has looked. -/
def listed : Bool := s.room.any LaunchRoom.listed

/-- The condition on the next step of a call. -/
def CarefulCall : LaunchCall → Prop
  | .createRoom _ (.record (d :: _)) => ∀ r ∈ s.room, r.record.recorded d
  | .join _ _ (.closedCheck added) => ∀ r ∈ s.room, r.room.closed → added = []
  | .join _ _ (.fullCheck added) => ∀ r ∈ s.room, r.room.isFull → added = []
  | .join p _ (.insert added) => ∀ r ∈ s.room, r.room.hasIdentity p.identity → added = []
  | .createDispatch d false =>
    s.room.isSome → s.listed ∧ s.launches (.dispatch d.id) = 0
  | _ => True

instance (c : LaunchCall) : Decidable (s.CarefulCall c) := by
  unfold CarefulCall
  split <;> infer_instance

/-- **The condition on a step**: `CreateRoom` adds no agent that the room does not have; a
participant who brought agents is not refused; and `CreateDispatch` finds the room only after the
task has looked for dispatches, and if its own was not among them. -/
def Careful : LaunchAction → Prop
  | .next i => ∀ c ∈ s.calls[i]?, s.CarefulCall c
  | _ => True

instance (a : LaunchAction) : Decidable (s.Careful a) := by
  unfold Careful
  split <;> infer_instance

/-! ## The books -/

/-- The keys of the agents that the room has. -/
def keys : List String :=
  s.room.elim [] fun r => r.record.agents.map RoomAgentDispatch.key

/-- The dispatches for the room. -/
def live : List String := (s.manager.ofRoom s.name).map AgentDispatch.id

/-- Some call has created a dispatch and not looked for the room yet. -/
def Asking (id : String) : Prop := ∃ c ∈ s.calls, c.asks = some id

/-- **The books are right**: the agents of the room are a record, and its dispatches are swept by
the task that its creation spawned. -/
structure Accounted (s : LaunchServer) : Prop where
  agents : Recorded s.keys fun key => s.launches (.agent key)
  dispatches : Swept s.listed s.issued s.live s.Asking fun id => s.launches (.dispatch id)
  known : ∀ id, s.Asking id → id ∈ s.issued

theorem accounted_init (name : String) (maxParticipants : Nat) :
    Accounted (init name maxParticipants) :=
  ⟨recorded_nil fun _ => rfl, swept_nil fun _ => rfl, by simp [Asking, init]⟩

variable {s s' : LaunchServer} {i : Nat} {c c' : LaunchCall} {k : LaunchKey}

theorem launches_setCall (hi : s.calls[i]? = some c) (c' : LaunchCall) (k : LaunchKey) :
    (s.setCall i c').launches k + c.owes k = s.launches k + c'.owes k := by
  have hsum : ((s.calls.set i c').map (LaunchCall.owes k)).sum + c.owes k =
      (s.calls.map (LaunchCall.owes k)).sum + c'.owes k := sum_map_set hi
  show s.launchesOf k + ((s.calls.set i c').map (LaunchCall.owes k)).sum + c.owes k =
    s.launchesOf k + (s.calls.map (LaunchCall.owes k)).sum + c'.owes k
  omega

theorem sum_owes_launch (reqs : List LaunchRequest) (k : LaunchKey) :
    ((reqs.map fun req => LaunchCall.launch req false).map (LaunchCall.owes k)).sum =
      (reqs.map LaunchRequest.target).count k := by
  induction reqs with
  | nil => rfl
  | cons req reqs ih =>
    rw [map_cons, map_cons, sum_cons, ih, map_cons, ← singleton_append,
      count_append]
    rfl

theorem launches_spawn (s : LaunchServer) (reqs : List LaunchRequest) (k : LaunchKey) :
    (s.spawn reqs).launches k = s.launches k + (reqs.map LaunchRequest.target).count k := by
  show s.launchesOf k + ((s.calls ++ reqs.map fun req => LaunchCall.launch req false).map
    (LaunchCall.owes k)).sum = _
  rw [map_append, sum_append, sum_owes_launch, ← Nat.add_assoc]
  rfl

variable {id : String} {p : Participant} {agents : List RoomAgentDispatch}

theorem asking_setCall (hi : s.calls[i]? = some c) (h : s.Asking id) (hne : c.asks ≠ some id) :
    (s.setCall i c').Asking id := (exists_mem_set hi hne).mpr (.inl h)

theorem asking_of_setCall (h : (s.setCall i c').Asking id) (hasks : c'.asks = none) :
    s.Asking id := by
  obtain ⟨d, hd, hid⟩ := h
  rcases mem_or_eq_of_mem_set hd with hd | rfl
  · exact ⟨d, hd, hid⟩
  · simp [hasks] at hid

theorem asking_concat {manager : AgentManager} {issued : List String} :
    { s with manager := manager, issued := issued, calls := s.calls ++ [c] }.Asking id ↔
      s.Asking id ∨ c.asks = some id := by
  simp [Asking, or_and_right, exists_or]

theorem asking_spawn {reqs : List LaunchRequest} : (s.spawn reqs).Asking id ↔ s.Asking id := by
  simp [Asking, spawn, or_and_right, exists_or, LaunchCall.asks]

theorem calls_openRoom (s : LaunchServer) (pc : OpeningPc) : (s.openRoom pc).1.calls = s.calls := by
  fun_cases openRoom s pc
  · rfl
  · cases s.room <;> rfl

namespace Accounted

variable (hs : Accounted s)
include hs

/-- **The room changes**, but not its agents, nor whether the task has looked. -/
theorem setRoom {room : Option LaunchRoom} (hkeys : { s with room := room }.keys = s.keys)
    (hlisted : { s with room := room }.listed = s.listed) : Accounted { s with room := room } where
  agents := by
    rw [hkeys]
    exact hs.agents
  dispatches := by
    rw [hlisted]
    exact hs.dispatches
  known := hs.known

theorem modifyRoom {f : LaunchRoom → LaunchRoom}
    (hagents : ∀ r, s.room = some r → (f r).record.agents = r.record.agents)
    (hlisted : ∀ r, s.room = some r → (f r).listed = r.listed) : Accounted (s.modifyRoom f) := by
  refine hs.setRoom ?_ ?_
  · cases hroom : s.room with
    | none => simp [keys, hroom]
    | some r => simp [keys, hroom, hagents r hroom]
  · cases hroom : s.room with
    | none => simp [listed, hroom]
    | some r => simp [listed, hroom, hlisted r hroom]

/-- **A call goes on**: what it owed, it owes, the tasks that it spawns owe, or was started. -/
theorem advance (hi : s.calls[i]? = some c) (c' : LaunchCall)
    (reqs started : List LaunchRequest)
    (howes : ∀ k, c'.owes k + (reqs.map LaunchRequest.target).count k +
      (started.map LaunchRequest.target).count k = c.owes k)
    (hasks : s.listed → c.asks = none) (hasks' : c'.asks = none) :
    Accounted { (s.setCall i c').spawn reqs with started := s.started ++ started } := by
  have hlaunches : ∀ k, { (s.setCall i c').spawn reqs with
      started := s.started ++ started }.launches k = s.launches k := by
    intro k
    have hspawn := launches_spawn (s.setCall i c') reqs k
    have hset := launches_setCall hi c' k
    have howes := howes k
    simp only [launches, launchesOf, map_append, count_append] at hspawn hset ⊢
    simp only [spawn, setCall] at hspawn hset ⊢
    omega
  refine ⟨hs.agents.congr fun key => hlaunches _,
    hs.dispatches.congr (fun id => hlaunches _) fun hlisted id hask => asking_spawn.mpr ?_,
    fun id hask => hs.known id (asking_of_setCall (asking_spawn.mp hask) hasks')⟩
  exact asking_setCall hi hask (by simp [hasks hlisted])

theorem setCall (hi : s.calls[i]? = some c) (howes : ∀ k, c'.owes k = c.owes k)
    (hasks : s.listed → c.asks = none) (hasks' : c'.asks = none) : Accounted (s.setCall i c') := by
  have hnext := hs.advance hi c' [] [] (by simpa using howes) hasks hasks'
  simpa [spawn, LaunchServer.setCall] using hnext

theorem push (howes : ∀ k, c.owes k = 0) (hasks : c.asks = none) :
    Accounted { s with calls := s.calls ++ [c] } := by
  have hlaunches : ∀ k, { s with calls := s.calls ++ [c] }.launches k = s.launches k := by
    intro k
    show s.launchesOf k + ((s.calls ++ [c]).map (LaunchCall.owes k)).sum = _
    rw [map_append, sum_append, map_singleton, sum_singleton, howes]
    rfl
  refine ⟨hs.agents.congr fun key => hlaunches _,
    hs.dispatches.congr (fun id => hlaunches _) fun _ id hask => asking_concat.mpr (.inl hask),
    fun id hask => ?_⟩
  rcases asking_concat.mp hask with hask | heq
  · exact hs.known id hask
  · simp [hasks] at heq

/-- **A join records an agent** that the room does not have, and is to launch it. -/
theorem record {d : RoomAgentDispatch} {todo added : List RoomAgentDispatch} {r r' : LaunchRoom}
    (hi : s.calls[i]? = some (.join p agents (.record (d :: todo) added))) (hroom : s.room = some r)
    (hnew : r.record.recorded d = false) (hagents : r'.record.agents = r.record.agents ++ [d])
    (hlisted : r'.listed = r.listed) :
    Accounted ({ s with room := some r' }.setCall i
      (.join p agents (.record todo (added ++ [d])))) := by
  have hlaunches : ∀ k, ({ s with room := some r' }.setCall i
      (.join p agents (.record todo (added ++ [d])))).launches k =
        s.launches k + [LaunchKey.agent d.key].count k := by
    intro k
    have h := launches_setCall hi (.join p agents (.record todo (added ++ [d]))) k
    have howes : (LaunchCall.join p agents (.record todo (added ++ [d]))).owes k =
        (LaunchCall.join p agents (.record (d :: todo) added)).owes k +
          [LaunchKey.agent d.key].count k := by
      show ((added ++ [d]).map fun d => d.launch.target).count k = _
      rw [map_append, count_append]
      rfl
    show (s.setCall i (.join p agents (.record todo (added ++ [d])))).launches k = _
    omega
  have hkeys : s.keys = r.record.agents.map RoomAgentDispatch.key := by rw [keys, hroom]; rfl
  have hkeys' : r'.record.agents.map RoomAgentDispatch.key = s.keys ++ [d.key] := by
    rw [hagents, map_append, hkeys]
    rfl
  have hfresh : d.key ∉ s.keys := by
    rw [hkeys]
    intro hmem
    obtain ⟨a, ha, heq⟩ := mem_map.mp hmem
    rw [AgentRecord.recorded, any_eq_false] at hnew
    exact hnew a ha (by simpa using heq)
  have hsame : r'.listed = s.listed := by rw [hlisted, LaunchServer.listed, hroom]; rfl
  refine ⟨?_, ?_, fun id hask => hs.known id (asking_of_setCall hask rfl)⟩
  · show Recorded (r'.record.agents.map RoomAgentDispatch.key) _
    rw [hkeys']
    refine hs.agents.enter hfresh fun key => (hlaunches _).trans ?_
    rw [count_singleton, count_singleton]
    simp
  · show Swept r'.listed s.issued s.live _ _
    rw [hsame]
    refine hs.dispatches.congr (fun id => (hlaunches _).trans ?_) fun _ id hask => ?_
    · rw [count_eq_zero_of_not_mem (by simp), Nat.add_zero]
    · exact asking_setCall hi hask (by simp [LaunchCall.asks])

/-- **A session launches its agents**: what it owed, the tasks owe. -/
theorem launch {added : List RoomAgentDispatch}
    (hi : s.calls[i]? = some (.join p agents (.launch added))) :
    Accounted ((s.setCall i (.join p agents .done)).spawn
      (added.map RoomAgentDispatch.launch)) := by
  have hnext := hs.advance hi (.join p agents .done) (added.map RoomAgentDispatch.launch) []
    (fun k => by simp [LaunchCall.owes, JoiningPc.added, Function.comp_def]) (fun _ => rfl) rfl
  rwa [append_nil] at hnext

/-- **A task starts** the launch that it owes. -/
theorem start {req : LaunchRequest} (hi : s.calls[i]? = some (.launch req false)) :
    Accounted { s.setCall i (.launch req true) with started := s.started ++ [req] } := by
  have hnext := hs.advance hi (.launch req true) [] [req]
    (fun k => by simp [LaunchCall.owes]) (fun _ => rfl) rfl
  simpa [spawn, LaunchServer.setCall] using hnext

/-- **`CreateDispatch` finds the room** after the task has looked, and launches its dispatch. -/
theorem serve {d : AgentDispatch} (hi : s.calls[i]? = some (.createDispatch d false))
    (hlisted : s.listed) (hzero : s.launches (.dispatch d.id) = 0) :
    Accounted ((s.setCall i (.createDispatch d true)).spawn [d.launch]) := by
  have hlaunches : ∀ k, ((s.setCall i (.createDispatch d true)).spawn [d.launch]).launches k =
      s.launches k + [LaunchKey.dispatch d.id].count k := by
    intro k
    have h := launches_setCall hi (.createDispatch d true) k
    have howes : (LaunchCall.createDispatch d false).owes k = 0 := rfl
    have hdone : (LaunchCall.createDispatch d true).owes k = 0 := rfl
    rw [launches_spawn, map_singleton, show d.launch.target = .dispatch d.id from rfl]
    omega
  have hids := hs.dispatches
  rw [hlisted] at hids
  refine ⟨hs.agents.congr fun key => (hlaunches _).trans ?_, ?_,
    fun id hask => hs.known id (asking_of_setCall (asking_spawn.mp hask) rfl)⟩
  · rw [count_eq_zero_of_not_mem (by simp), Nat.add_zero]
  · show Swept s.listed s.issued s.live _ _
    rw [hlisted]
    refine hids.serve (hs.known d.id ⟨_, mem_of_getElem? hi, rfl⟩) hzero
      (fun id => (hlaunches _).trans ?_) fun id hne hask => asking_spawn.mpr ?_
    · rw [count_singleton, count_singleton]
      simp
    · refine asking_setCall hi hask ?_
      exact fun heq => hne (Option.some.inj heq).symm

/-- **The task looks for dispatches** and launches them. -/
theorem sweep {room : Room} {record : AgentRecord} (hroom : s.room = some ⟨room, record, false⟩) :
    Accounted ({ s with room := some ⟨room, record, true⟩ }.spawn
      ((s.manager.listDispatches s.name).map AgentDispatch.launch)) := by
  have htargets : ((s.manager.listDispatches s.name).map AgentDispatch.launch).map
      LaunchRequest.target = s.live.map LaunchKey.dispatch := by
    rw [AgentManager.listDispatches_eq, live, map_map, map_map]
    rfl
  have hlaunches : ∀ k, ({ s with room := some ⟨room, record, true⟩ }.spawn
      ((s.manager.listDispatches s.name).map AgentDispatch.launch)).launches k =
        s.launches k + (s.live.map LaunchKey.dispatch).count k := by
    intro k
    rw [launches_spawn, htargets]
    rfl
  have hids := hs.dispatches
  rw [listed, hroom] at hids
  refine ⟨?_, ?_, fun id hask => hs.known id (asking_spawn.mp hask)⟩
  · have hkeys : s.keys = record.agents.map RoomAgentDispatch.key := by rw [keys, hroom]; rfl
    show Recorded (record.agents.map RoomAgentDispatch.key) _
    rw [← hkeys]
    refine hs.agents.congr fun key => (hlaunches _).trans ?_
    rw [count_eq_zero_of_not_mem (by simp), Nat.add_zero]
  · refine (hids.sweep fun id => (hlaunches _).trans ?_).congr (fun _ => rfl)
      fun _ id hask => asking_spawn.mpr hask
    rw [count_map_of_injective _ _ fun a b h => LaunchKey.dispatch.inj h]

/-- **A dispatch is created.** -/
theorem create {req : CreateDispatchRequest} {now : Int}
    (hroom : req.room = s.name) (hnew : id ∉ s.issued) :
    Accounted { s with
      manager := s.manager.createDispatch req id now
      issued := s.issued ++ [id]
      calls := s.calls ++ [.createDispatch (AgentManager.newDispatch req id now) false] } := by
  have hlaunches : ∀ k, { s with
      manager := s.manager.createDispatch req id now
      issued := s.issued ++ [id]
      calls := s.calls ++
        [LaunchCall.createDispatch (AgentManager.newDispatch req id now) false] }.launches k =
      s.launches k := by
    intro k
    show s.launchesOf k + ((s.calls ++ [_]).map (LaunchCall.owes k)).sum = _
    rw [map_append, sum_append]
    rfl
  have hothers : (s.manager.erase id).ofRoom s.name = s.manager.ofRoom s.name := by
    refine AgentManager.ofRoom_erase_iff.mpr fun d hd hid hname => hnew ?_
    rw [← hid]
    exact hs.dispatches.known d.id
      (mem_map_of_mem (AgentManager.mem_ofRoom_iff.mpr ⟨hd, hname⟩))
  have hlive : ((s.manager.createDispatch req id now).ofRoom s.name).map AgentDispatch.id =
      s.live ++ [id] := by
    rw [live, ← hothers, AgentManager.ofRoom, AgentManager.ofRoom]
    show (((s.manager.erase id).dispatches ++ [AgentManager.newDispatch req id now]).filter
      _).map _ = _
    simp [AgentManager.newDispatch, hroom]
  refine ⟨hs.agents.congr fun key => hlaunches _, ?_, fun id' hask => ?_⟩
  · show Swept s.listed (s.issued ++ [id])
      (((s.manager.createDispatch req id now).ofRoom s.name).map AgentDispatch.id) _ _
    rw [hlive]
    exact hs.dispatches.issue hnew (fun id => hlaunches _) (asking_concat.mpr (.inr rfl))
      fun id' hask => asking_concat.mpr (.inl hask)
  · rcases asking_concat.mp hask with hask | heq
    · exact mem_append_left _ (hs.known id' hask)
    · exact mem_append_right _ (mem_singleton.mpr (Option.some.inj heq).symm)

/-- **A dispatch is deleted.** -/
theorem delete (id : String) : Accounted { s with manager := s.manager.erase id } where
  __ := hs
  dispatches := by
    refine hs.dispatches.withdraw ?_
    exact (List.Sublist.filter _ filter_sublist).map AgentDispatch.id

/-! ## Runs -/

theorem openRoom (pc : OpeningPc) : Accounted (s.openRoom pc).1 := by
  fun_cases LaunchServer.openRoom s pc
  · exact hs
  · split
    · exact hs
    · next hroom =>
      refine hs.setRoom ?_ ?_
      · simp [keys, hroom, AgentRecord.empty]
      · simp [listed, hroom]

/-- **A step of `CreateRoom`** keeps the books right. -/
theorem createRoomStep {req : CreateRoomRequest} {pc : CreateRoomPc}
    (hi : s.calls[i]? = some (.createRoom req pc)) (hcareful : s.CarefulCall (.createRoom req pc))
    (h : s.createRoomStep i req pc = some s') : Accounted s' := by
  revert h
  fun_cases LaunchServer.createRoomStep s i req pc <;> rintro ⟨⟩
  case case1 pc _ =>
    rw [← calls_openRoom s pc] at hi
    exact (hs.openRoom pc).setCall hi (fun _ => rfl) (fun _ => rfl) rfl
  case case2 =>
    exact Accounted.setCall (hs.modifyRoom (fun _ _ => rfl) fun _ _ => rfl) hi (fun _ => rfl)
      (fun _ => rfl) rfl
  case case3 => exact hs.setCall hi (fun _ => rfl) (fun _ => rfl) rfl
  case case4 d todo =>
    refine Accounted.setCall (hs.modifyRoom (fun r hr => ?_) fun _ _ => rfl) hi
      (fun _ => rfl) (fun _ => rfl) rfl
    -- the room has the agent already
    rw [AgentRecord.addAgentDispatch, if_pos (hcareful r hr)]

theorem refuse {pc : JoiningPc}
    (hi : s.calls[i]? = some (.join p agents pc)) (hadded : pc.added = []) :
    Accounted (s.setCall i (.join p agents .refused)) := by
  refine hs.setCall hi (fun k => ?_) (fun _ => rfl) rfl
  rw [LaunchCall.owes, LaunchCall.owes, hadded]
  rfl

/-- **A step of a join** keeps the books right. -/
theorem joinStep {r : LaunchRoom} {pc : JoiningPc}
    (hroom : s.room = some r) (hi : s.calls[i]? = some (.join p agents pc))
    (hcareful : s.CarefulCall (.join p agents pc)) (h : s.joinStep i r p agents pc = some s') :
    Accounted s' := by
  revert h
  fun_cases LaunchServer.joinStep s i r p agents pc <;> rintro ⟨⟩
  case case2 | case9 =>
    exact Accounted.setCall (hs.modifyRoom (fun _ _ => rfl) fun _ _ => rfl) hi (fun _ => rfl)
      (fun _ => rfl) rfl
  case case3 | case5 => exact hs.setCall hi (fun _ => rfl) (fun _ => rfl) rfl
  case case4 d todo added result hadded =>
    cases hrec : r.record.recorded d with
    | true => simp [result, AgentRecord.addAgentDispatch, hrec] at hadded
    | false =>
      have hadd : result = (true, { r.record with agents := r.record.agents ++ [d] }) :=
        if_neg (by simp [hrec])
      rw [LaunchServer.modifyRoom, hroom, hadd]
      exact hs.record hi hroom hrec rfl rfl
  case case6 added =>
    split
    · next hclosed => exact hs.refuse hi (hcareful r hroom hclosed)
    · split
      all_goals exact hs.setCall hi (fun _ => rfl) (fun _ => rfl) rfl
  case case7 added =>
    split
    · next hfull => exact hs.refuse hi (hcareful r hroom hfull)
    · exact hs.setCall hi (fun _ => rfl) (fun _ => rfl) rfl
  case case8 hid => exact hs.refuse hi (hcareful r hroom hid)
  case case10 => exact hs.launch hi

/-- **A step of a call**, by what the call is. -/
theorem callStep (hi : s.calls[i]? = some c)
    (hcareful : s.CarefulCall c) (h : s.callStep i c = some s') : Accounted s' := by
  revert h
  fun_cases LaunchServer.callStep s i c <;> intro h
  case case1 => exact hs.createRoomStep hi hcareful h
  case case3 =>
    obtain ⟨r, hroom, hstep⟩ := Option.bind_eq_some_iff.mp h
    exact hs.joinStep hroom hi hcareful hstep
  all_goals cases h
  case case2 p agents pc _ =>
    rw [← calls_openRoom s pc] at hi
    refine (hs.openRoom pc).setCall hi (fun k => ?_) (fun _ => rfl) rfl
    cases (s.openRoom pc).2 <;> rfl
  case case4 d _ =>
    split
    · next hsome =>
      obtain ⟨hlisted, hzero⟩ := hcareful hsome
      exact hs.serve hi hlisted hzero
    · next hnone =>
      -- there is no room yet: the task will find the dispatch
      rw [Option.not_isSome_iff_eq_none] at hnone
      exact hs.setCall hi (fun _ => rfl) (fun hlisted => by simp [listed, hnone] at hlisted) rfl
  case case5 => exact hs.start hi

/-- **One step** that meets the condition. -/
theorem step {a : LaunchAction} (hcareful : s.Careful a)
    (h : s.step a = some s') : Accounted s' := by
  revert h
  fun_cases LaunchServer.step s a <;> intro h
  case case9 i =>
    obtain ⟨c, hi, hstep⟩ := Option.bind_eq_some_iff.mp h
    exact hs.callStep hi (hcareful c hi) hstep
  all_goals cases h
  case case1 | case2 => exact hs.push (fun _ => rfl) rfl
  case case3 hnew => exact hs.create hnew.1 hnew.2
  case case5 id => exact hs.delete id
  case case6 => exact hs.modifyRoom (fun _ _ => rfl) fun _ _ => rfl
  case case7 hroom => exact hs.sweep hroom

end Accounted

theorem owes_of_finished (h : c.finished) (k : LaunchKey) : c.owes k = 0 := by
  cases c with
  | createRoom | createDispatch => rfl
  | join p agents pc =>
    cases pc <;> simp_all [LaunchCall.finished, LaunchCall.owes, JoiningPc.added]
  | launch req started => simp_all [LaunchCall.finished, LaunchCall.owes]

theorem asks_of_finished (h : c.finished) : c.asks = none := by
  cases c with
  | createDispatch d looked =>
    cases looked with
    | true => rfl
    | false => cases h
  | _ => rfl

theorem Accounted.launchedOnce (hs : Accounted s) : LaunchedOnce s := by
  intro hquiet r hroom _
  rw [quiet, Bool.and_eq_true, all_eq_true] at hquiet
  obtain ⟨hdone, hlisted⟩ := hquiet
  rw [Option.mem_def] at hroom
  have hof : ∀ k, s.launches k = s.launchesOf k := by
    intro k
    have hzero : (s.calls.map (LaunchCall.owes k)).sum = 0 := by
      refine sum_eq_zero fun n hn => ?_
      obtain ⟨c, hc, rfl⟩ := mem_map.mp hn
      exact owes_of_finished (hdone c hc) k
    rw [launches, hzero, Nat.add_zero]
  constructor
  · intro d hd
    rw [← hof]
    refine hs.agents.count_eq_one ?_
    rw [keys, hroom]
    exact mem_map_of_mem hd
  · intro d hd
    have hids := hs.dispatches
    have hover : s.listed := by simpa [listed, hroom] using hlisted
    rw [hover] at hids
    rw [← hof]
    refine hids.count_eq_one ?_ ?_
    · rintro id ⟨c, hc, hasks⟩
      simp [asks_of_finished (hdone c hc)] at hasks
    · rw [AgentManager.listDispatches_eq] at hd
      exact mem_map_of_mem hd

/-- **Every agent and every dispatch is launched once** along every run that meets the condition. -/
theorem launched_once {name : String} {maxParticipants : Nat} {acts : List LaunchAction}
    {s : LaunchServer} (hcareful : Along step Careful (init name maxParticipants) acts)
    (hrun : run step (init name maxParticipants) acts = some s) : LaunchedOnce s :=
  (run_invariant_along (fun _ _ _ hs hc h => hs.step hc h) (accounted_init name maxParticipants)
    hcareful hrun).launchedOnce

/-- A user. -/
def userOf (sid : ParticipantSid) : Participant := ⟨sid, sid, .standard, 0⟩

/-- An agent of the room. -/
def voice : RoomAgentDispatch := ⟨"voice", "", "", []⟩

/-- A dispatch for the room. -/
def recorder : CreateDispatchRequest := { agentName := "recorder", room := "room" }

/-- Call `i` takes `n` steps. -/
def steps (i n : Nat) : List LaunchAction := List.replicate n (.next i)

/-- What a reader of the room and of the launches sees: how often each agent and each dispatch was
launched, when all is quiet and somebody has joined. -/
def counts (s : LaunchServer) : Option (List Nat × List Nat) :=
  s.room.bind fun r =>
    if s.quiet && r.room.everJoined then
      some (r.record.agents.map fun d => s.launchesOf (.agent d.key),
        (s.manager.listDispatches s.name).map fun d => s.launchesOf (.dispatch d.id))
    else none

/-- A dispatch is created before the room and one after it; two users bring the same agent, and one
of them is first. -/
def careful : List LaunchAction :=
  List.flatten [[.createDispatch recorder "AD_1" 0, .next 0, .join (userOf "PA_1") [voice],
    .join (userOf "PA_2") [voice]], steps 1 4, [.launchRoomDispatches], steps 2 8,
    [.createDispatch recorder "AD_2" 0, .next 4, .next 3, .next 5], steps 1 5, [.next 6]]

theorem launched_once_careful :
    (run step (init "room" 0) careful).map counts = some (some ([1], [1, 1])) ∧
      ∀ s, run step (init "room" 0) careful = some s → LaunchedOnce s :=
  ⟨by decide +kernel, fun _ hrun => launched_once (by decide +kernel) hrun⟩

/-- `CreateRoom` brings an agent; the user who joins brings it again. -/
def unclaimed : List LaunchAction :=
  List.flatten [[.createRoom { name := "room", agents := [voice] }], steps 0 5,
    [.launchRoomDispatches, .join (userOf "PA_1") [voice]], steps 1 8]

/-- A user brings an agent, and is refused because the room is full. -/
def turnedAway : List LaunchAction :=
  List.flatten [[.join (userOf "PA_1") []], steps 0 8,
    [.launchRoomDispatches, .join (userOf "PA_2") [voice]], steps 1 6]

/-- A dispatch is created before the room, and `CreateDispatch` looks for the room after it was
created. -/
def crossed : List LaunchAction :=
  List.flatten [[.createDispatch recorder "AD_1" 0, .join (userOf "PA_1") []], steps 1 8,
    [.launchRoomDispatches, .next 0, .next 2, .next 3]]

/-- **Agents are launched never or twice**: an agent that `CreateRoom` brings is never launched,
even if a token names it, nor is that of a user who was refused; and a dispatch is launched twice if
its room is created while `CreateDispatch` is on its way. -/
theorem launched_never_or_twice :
    (run step (init "room" 0) unclaimed).map counts = some (some ([0], [])) ∧
    (run step (init "room" 1) turnedAway).map counts = some (some ([0], [])) ∧
    (run step (init "room" 0) crossed).map counts = some (some ([], [2])) := by
  decide +kernel

end LaunchServer
end LivekitVoice
