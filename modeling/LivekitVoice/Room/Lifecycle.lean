import LivekitVoice.Room.Alone

/-! # The lifecycle webhooks of a room

`room_started` and `room_finished` are sent from four places: `CreateRoom` for a room it makes (from
a task it spawns), `join_room` for a join that finds `ever_joined` not set, `DeleteRoom` (from a
task that then closes the room) and `Room::close`. A server is a map of names to room objects; its
history is a sequence of whole calls, which do not overlap, with the spawned tasks running in
between in any order.

* **`lifecycle_fires_once`** — under `Orderly`, every room object sends `room_started` at most once
  and first, and `room_finished` at most once and last. -/

namespace LivekitVoice

open List Option Transition

/-! ## Events -/

namespace RoomEvent

/-- The room object an event is about. -/
def room : RoomEvent → Nat
  | .roomStarted r | .roomFinished r => r
  | .admitted p | .participantJoined p | .participantLeft p | .totalInc p | .totalDec p => p.room

/-- `participant_joined` and `participant_left`. -/
def isParticipant : RoomEvent → Bool
  | .participantJoined _ | .participantLeft _ => true
  | _ => false

end RoomEvent

/-- **The law** for the events of room object `r`, in the order in which they are sent. -/
structure FiresOnce (r : Nat) (events : List RoomEvent) : Prop where
  startedOnce : events.count (.roomStarted r) ≤ 1
  /-- Nothing is sent before `room_started`. -/
  startedFirst : events.Pairwise fun _ later => later ≠ .roomStarted r
  finishedOnce : events.count (.roomFinished r) ≤ 1
  /-- No participant event is sent after `room_finished`. -/
  finishedLast : events.Pairwise fun earlier later =>
    earlier = .roomFinished r → later.isParticipant = false

/-! ## Histories -/

/-- A task that a request has spawned. -/
inductive SpawnedTask
  /-- `CreateRoom`: `room_started`. -/
  | roomStarted (r : Nat)
  /-- `DeleteRoom`: `room_finished`, and then `close_room`. -/
  | roomFinished (r : Nat) (name : String)
  /-- `DeleteRoom`, after `room_finished`. -/
  | closeRoom (name : String)

/-- **The rooms of a server**, with the webhooks sent and the tasks to run. -/
structure RoomManager where
  /-- The room objects there have been. -/
  rooms : List Room
  /-- The room map of the server: names to room objects. -/
  names : AList fun _ : String => Nat
  /-- The capacity a new room gets from the configuration. -/
  maxParticipants : Nat
  tasks : List SpawnedTask
  /-- The webhooks, in the order in which they are sent. -/
  log : List RoomEvent

/-- A call, or a step of a spawned task. -/
inductive ManagerAction
  /-- `CreateRoom`, with the capacity it asks for (`0`: none). -/
  | createRoom (name : String) (maxParticipants : Nat)
  /-- `join_room`, past its checks of the token. -/
  | joinRoom (name : String) (sid : ParticipantSid) (identity : Identity) (kind : ParticipantKind)
  /-- `end_participant`. -/
  | leave (p : Participant)
  /-- `DeleteRoom`. -/
  | deleteRoom (name : String)
  /-- `check_room_timeouts` closes a room. -/
  | timeout (name : String)
  /-- Task `i` takes its next step. -/
  | spawned (i : Nat)

namespace RoomManager

/-- A server with no room. -/
def init (maxParticipants : Nat) : RoomManager := ⟨[], ∅, maxParticipants, [], []⟩

variable (s : RoomManager)

/-- `get_or_create_room`: the server afterwards, and the room object. -/
def getOrCreateRoom (name : String) : RoomManager × Nat :=
  match s.names.lookup name with
  | some r => (s, r)
  | none =>
    ({ s with
      rooms := s.rooms ++ [.new s.maxParticipants]
      names := s.names.insert name s.rooms.length }, s.rooms.length)

/-- What a call has done to room object `r`. -/
def update (r : Nat) (out : Room × List RoomEvent) : RoomManager :=
  { s with rooms := s.rooms.set r out.1, log := s.log ++ out.2 }

/-- `close_room` and `check_room_timeouts`: `Room::close`, whose `on_close` takes the name out of
the map. -/
def closeNamed (name : String) (r : Nat) (room : Room) : RoomManager :=
  { s.update r (room.close r) with
    names := if room.closed then s.names else s.names.erase name }

/-- The next step of a spawned task. -/
def taskStep (i : Nat) : SpawnedTask → Option RoomManager
  | .roomStarted r =>
    some { s with log := s.log ++ [.roomStarted r], tasks := s.tasks.eraseIdx i }
  | .roomFinished r name =>
    some { s with log := s.log ++ [.roomFinished r], tasks := s.tasks.set i (.closeRoom name) }
  | .closeRoom name =>
    match s.names.lookup name with
    | none => some { s with tasks := s.tasks.eraseIdx i }
    | some r =>
      s.rooms[r]?.map fun room =>
        { s.closeNamed name r room with tasks := s.tasks.eraseIdx i }

/-- **One step.** -/
def step : ManagerAction → Option RoomManager
  | .createRoom name maxParticipants =>
    let existed := (s.names.lookup name).isSome
    let created := s.getOrCreateRoom name
    created.1.rooms[created.2]?.map fun room =>
      { created.1.update created.2
          (if maxParticipants = 0 then room else { room with maxParticipants }, []) with
        -- `room_started` only for a room that was not there
        tasks := if existed then s.tasks else s.tasks ++ [.roomStarted created.2] }
  | .joinRoom name sid identity kind =>
    let created := s.getOrCreateRoom name
    created.1.rooms[created.2]?.map fun room =>
      created.1.update created.2 (room.joinRoom ⟨sid, identity, kind, created.2⟩)
  | .leave p => s.rooms[p.room]?.map fun room => s.update p.room (room.endParticipant p)
  | .deleteRoom name =>
    match s.names.lookup name with
    -- `room not found`
    | none => some s
    -- the task sends `room_finished` itself, and closes the room after that
    | some r => some { s with tasks := s.tasks ++ [.roomFinished r name] }
  | .timeout name =>
    (s.names.lookup name).bind fun r =>
      s.rooms[r]?.bind fun room =>
        -- `should_close`, whatever the clock says
        if room.closed = false ∧ room.nonDependents = 0 then some (s.closeNamed name r room)
        else none
  | .spawned i => s.tasks[i]?.bind fun task => s.taskStep i task

/-- The events of room object `r`. -/
def eventsOf (r : Nat) : List RoomEvent := s.log.filter fun e => e.room = r

/-- **The condition on a call**: `CreateRoom` names a room there is, `DeleteRoom` none, and a
dependent participant joins a room that has been joined by one that is not. -/
def Orderly : ManagerAction → Prop
  | .createRoom name _ => name ∈ s.names
  | .joinRoom name _ _ kind => kind.isDependent →
      ∃ r ∈ s.names.lookup name, ∃ room ∈ s.rooms[r]?, room.everJoined
  | .deleteRoom name => name ∉ s.names
  | .leave _ | .timeout _ | .spawned _ => True

instance (a : ManagerAction) : Decidable (s.Orderly a) := by
  unfold Orderly
  split <;> infer_instance

end RoomManager

/-! ## The life of one room object -/

/-- **How far a room object is**, and the events it has sent by then. -/
inductive LifeStage (r : Nat) (room : Room) : List RoomEvent → Prop
  /-- Nobody has joined. -/
  | unused (hopen : room.closed = false) (hnever : room.everJoined = false)
      (hempty : room.participants = ∅) : LifeStage r room []
  /-- Started, and not closed. -/
  | running {events : List RoomEvent} (hopen : room.closed = false)
      (hjoined : room.everJoined) (hevents : ∀ e ∈ events, e.isParticipant) :
      LifeStage r room (.roomStarted r :: events)
  /-- Closed, and nobody had joined. -/
  | expired (hclosed : room.closed) (hempty : room.participants = ∅) :
      LifeStage r room [.roomFinished r]
  /-- Closed. -/
  | finished {events : List RoomEvent} (hclosed : room.closed)
      (hempty : room.participants = ∅) (hevents : ∀ e ∈ events, e.isParticipant) :
      LifeStage r room (.roomStarted r :: events ++ [.roomFinished r])

variable {r : Nat} {events : List RoomEvent}

theorem RoomEvent.ne_of_isParticipant {e : RoomEvent} (h : e.isParticipant) (r : Nat) :
    e ≠ .roomStarted r ∧ e ≠ .roomFinished r := by
  constructor
  all_goals
    rintro rfl
    cases h

theorem firesOnce_nil (r : Nat) : FiresOnce r [] :=
  ⟨Nat.zero_le _, .nil, Nat.zero_le _, .nil⟩

theorem firesOnce_running (h : ∀ e ∈ events, e.isParticipant) :
    FiresOnce r (.roomStarted r :: events) where
  startedOnce := by
    have hnone : RoomEvent.roomStarted r ∉ events := fun hmem =>
      (RoomEvent.ne_of_isParticipant (h _ hmem) r).1 rfl
    rw [count_cons_self, count_eq_zero.mpr hnone]
  startedFirst := by
    refine .cons (fun e he => (RoomEvent.ne_of_isParticipant (h e he) r).1) ?_
    exact pairwise_of_forall_mem_list fun _ _ e he =>
      (RoomEvent.ne_of_isParticipant (h e he) r).1
  finishedOnce := by
    have hnone : RoomEvent.roomFinished r ∉ RoomEvent.roomStarted r :: events := by
      rintro (_ | ⟨_, hmem⟩)
      exact (RoomEvent.ne_of_isParticipant (h _ hmem) r).2 rfl
    rw [count_eq_zero.mpr hnone]
    exact Nat.zero_le 1
  finishedLast := by
    refine .cons nofun ?_
    exact pairwise_of_forall_mem_list fun e he _ _ heq =>
      absurd heq (RoomEvent.ne_of_isParticipant (h e he) r).2

theorem FiresOnce.concat (h : FiresOnce r events) (hnone : .roomFinished r ∉ events) :
    FiresOnce r (events ++ [.roomFinished r]) where
  startedOnce := by
    rw [count_append]
    simpa using h.startedOnce
  startedFirst := by
    refine pairwise_append.mpr ⟨h.startedFirst, pairwise_singleton _ _, ?_⟩
    intro _ _ e he
    obtain rfl := mem_singleton.mp he
    exact nofun
  finishedOnce := by
    rw [count_append, count_eq_zero.mpr hnone]
    simp
  finishedLast := by
    refine pairwise_append.mpr ⟨h.finishedLast, pairwise_singleton _ _, ?_⟩
    intro _ _ e he _
    obtain rfl := mem_singleton.mp he
    rfl

/-- **At every stage the law holds.** -/
theorem LifeStage.firesOnce {room : Room} (h : LifeStage r room events) : FiresOnce r events := by
  cases h with
  | unused => exact firesOnce_nil r
  | running _ _ hevents => exact firesOnce_running hevents
  | expired => exact (firesOnce_nil r).concat not_mem_nil
  | finished _ _ hevents =>
    refine (firesOnce_running hevents).concat ?_
    rintro (_ | ⟨_, hmem⟩)
    exact (RoomEvent.ne_of_isParticipant (hevents _ hmem) r).2 rfl

/-! ## What a call does to a room object -/

/-- **The outcome of a call** on a room object that had sent `events` by then: the room is at one
of the stages, has its own participants only, and the new events are its own. -/
structure Staged (r : Nat) (events : List RoomEvent) (out : Room × List RoomEvent) : Prop where
  stage : LifeStage r out.1 (events ++ out.2)
  members : ∀ q ∈ out.1.values, q.room = r
  about : ∀ e ∈ out.2, e.room = r

namespace Staged

variable {room : Room}

theorem silent (hstage : LifeStage r room events) (hmem : ∀ q ∈ room.values, q.room = r) :
    Staged r events (room, []) where
  stage := by simpa using hstage
  members := hmem
  about := fun e he => absurd he not_mem_nil

theorem append {evicted out : Room × List RoomEvent} (h : Staged r events evicted)
    (hout : Staged r (events ++ evicted.2) out) : Staged r events (out.1, evicted.2 ++ out.2) where
  stage := by simpa using hout.stage
  members := hout.members
  about := fun e he => by
    rcases mem_append.mp he with he | he
    · exact h.about e he
    · exact hout.about e he

variable {p : Participant}

section

variable (hstage : LifeStage r room events) (hmem : ∀ q ∈ room.values, q.room = r)
include hstage hmem

/-- **`end_participant`.** -/
theorem endParticipant (hp : p.room = r) : Staged r events (room.endParticipant p) := by
  rw [Room.endParticipant]
  split
  · exact silent hstage hmem
  · rename_i hin
    -- somebody is in the room, so it is running
    have hsome : room.participants ≠ ∅ := by
      intro hempty
      apply hin
      rw [Room.getParticipant, hempty]
      rfl
    refine ⟨?_, fun q hq => ?_, by simpa [RoomEvent.room] using hp⟩
    · cases hstage with
      | unused _ _ hempty | expired _ hempty | finished _ hempty => exact absurd hempty hsome
      | running hopen hjoined hevents =>
        refine .running hopen hjoined fun e he => ?_
        rcases mem_append.mp he with he | he
        · exact hevents e he
        · obtain rfl := mem_singleton.mp he
          rfl
    · exact hmem q ((room.values_removeParticipant_sublist p.sid).subset hq)

theorem evict (identity : Identity) : Staged r events (room.evict identity) := by
  rw [Room.evict]
  split
  · exact silent hstage hmem
  · rename_i q hq
    exact endParticipant hstage hmem (hmem q (Room.getParticipantByIdentity_eq_some hq).1)

/-- **`join_room` from `Room::join` on**: dependent participants come to a room that has been
joined. -/
theorem enter (hp : p.room = r) (hdep : p.kind.isDependent → room.everJoined) :
    Staged r events (room.enter (!room.everJoined) p) := by
  rw [Room.enter]
  cases hjoin : room.join p with
  | error => exact silent hstage hmem
  | ok joined =>
    obtain ⟨hopen, rfl⟩ := Room.join_eq_ok hjoin
    have hmem' : ∀ q ∈ (room.addParticipant p).values, q.room = r := by
      intro q hq
      rw [Room.values_addParticipant] at hq
      rcases mem_cons.mp hq with rfl | hq
      · exact hp
      · exact hmem q ((room.values_removeParticipant_sublist p.sid).subset hq)
    cases hstage with
    | unused _ hnever =>
      -- the first join, by a participant that is not dependent
      have hstandard : p.kind.isDependent = false := by
        by_contra hdependent
        have hjoined := hdep (by simpa using hdependent)
        simp [hnever] at hjoined
      rw [hnever]
      refine ⟨?_, hmem', by simp [RoomEvent.room, hp]⟩
      rw [hp]
      exact .running hopen (by simp [Room.addParticipant, hstandard])
        (by simp [RoomEvent.isParticipant])
    | @running events _ hjoined hevents =>
      rw [hjoined]
      refine ⟨.running hopen (by simp [Room.addParticipant, hjoined]) ?_, hmem',
        by simp [RoomEvent.room, hp]⟩
      intro e he
      rcases mem_append.mp he with he | he
      · exact hevents e he
      · obtain rfl := mem_singleton.mp he
        rfl
    | expired hclosed | finished hclosed =>
      simp [hopen] at hclosed

/-- **`join_room`.** -/
theorem joinRoom (hp : p.room = r) (hdep : p.kind.isDependent → room.everJoined) :
    Staged r events (room.joinRoom p) := by
  have hevict := evict hstage hmem p.identity
  refine hevict.append (enter hevict.stage hevict.members hp ?_)
  rw [(room.evict_unchanged p.identity).2.1]
  exact hdep

/-- **`Room::close`.** -/
theorem close : Staged r events (room.close r) := by
  rw [Room.close]
  split
  · exact silent hstage hmem
  · rename_i hopen
    refine ⟨?_, fun q hq => absurd hq not_mem_nil, fun e he => ?_⟩
    · cases hstage with
      | unused _ _ hempty =>
        rw [Room.values, hempty]
        exact .expired rfl rfl
      | @running events _ _ hevents =>
        -- everybody leaves before `room_finished`
        have hall : ∀ e ∈ events ++ room.values.map RoomEvent.participantLeft,
            e.isParticipant := by
          intro e he
          rcases mem_append.mp he with he | he
          · exact hevents e he
          · obtain ⟨q, -, rfl⟩ := mem_map.mp he
            rfl
        have hstage' : LifeStage r { room.clear with closed := true } _ :=
          .finished rfl rfl hall
        simpa using hstage'
      | expired hclosed | finished hclosed => exact absurd hclosed hopen
    · rcases mem_append.mp he with he | he
      · obtain ⟨q, hq, rfl⟩ := mem_map.mp he
        exact hmem q hq
      · obtain rfl := mem_singleton.mp he
        rfl

end

end Staged

/-! ## Whole histories -/

namespace RoomManager

/-- **The invariant**: no task is waiting, every room object is at the stage its events say, and a
room object that is still to come has sent nothing. -/
structure WellStaged (s : RoomManager) : Prop where
  tasks : s.tasks = []
  staged : ∀ (r : Nat) (room : Room), s.rooms[r]? = some room →
    LifeStage r room (s.eventsOf r) ∧ ∀ q ∈ room.values, q.room = r
  fresh : ∀ r, s.rooms.length ≤ r → s.eventsOf r = []

theorem wellStaged_init (maxParticipants : Nat) : WellStaged (init maxParticipants) where
  tasks := rfl
  staged := fun r room hroom => by simp [init] at hroom
  fresh := fun _ _ => rfl

variable {s : RoomManager}

theorem eventsOf_update (s : RoomManager) {out : Room × List RoomEvent}
    (habout : ∀ e ∈ out.2, e.room = r) (k : Nat) :
    (s.update r out).eventsOf k = s.eventsOf k ++ if k = r then out.2 else [] := by
  rw [eventsOf, update, filter_append]
  refine congrArg (s.eventsOf k ++ ·) ?_
  split
  · rename_i hk
    exact filter_eq_self.mpr fun e he => by simp [habout e he, hk]
  · rename_i hk
    refine filter_eq_nil_iff.mpr fun e he => ?_
    rw [habout e he]
    simpa using fun h => hk h.symm

/-- **A call on a room object** keeps the invariant. -/
theorem WellStaged.update (hs : WellStaged s) {room : Room} {out : Room × List RoomEvent}
    (hroom : s.rooms[r]? = some room) (hout : Staged r (s.eventsOf r) out) :
    WellStaged (s.update r out) where
  tasks := hs.tasks
  staged := by
    refine forall_set hroom (fun k room' hk hroom' => ?_) ?_
    · rw [eventsOf_update s hout.about, if_neg hk, append_nil]
      exact hs.staged k room' hroom'
    · rw [eventsOf_update s hout.about, if_pos rfl]
      exact ⟨hout.stage, hout.members⟩
  fresh := fun k hk => by
    have hk : s.rooms.length ≤ k := by simpa [RoomManager.update] using hk
    have hne : k ≠ r := Nat.ne_of_gt ((List.getElem?_eq_some_iff.mp hroom).1.trans_le hk)
    rw [eventsOf_update s hout.about, if_neg hne, append_nil]
    exact hs.fresh k hk

/-- **`get_or_create_room`** keeps the invariant: a new room object is unused. -/
theorem WellStaged.getOrCreateRoom (hs : WellStaged s) (name : String) :
    WellStaged (s.getOrCreateRoom name).1 := by
  rw [RoomManager.getOrCreateRoom]
  split
  · exact hs
  · refine ⟨hs.tasks, forall_concat hs.staged ⟨?_, fun q hq => absurd hq not_mem_nil⟩, ?_⟩
    · have hnone : s.eventsOf s.rooms.length = [] := hs.fresh _ (Nat.le_refl _)
      show LifeStage _ _ (s.eventsOf s.rooms.length)
      rw [hnone]
      exact .unused rfl rfl rfl
    · intro k hk
      exact hs.fresh k (by simp at hk; omega)

theorem WellStaged.closeNamed (hs : WellStaged s) {name : String} {room : Room}
    (hroom : s.rooms[r]? = some room) : WellStaged (s.closeNamed name r room) := by
  obtain ⟨hstage, hmem⟩ := hs.staged r room hroom
  have hclosed := hs.update hroom (.close hstage hmem)
  exact ⟨hclosed.tasks, hclosed.staged, hclosed.fresh⟩

/-- **One step** that meets the condition keeps the invariant. -/
theorem WellStaged.step {s' : RoomManager} {a : ManagerAction} (hs : WellStaged s)
    (hG : s.Orderly a) (h : s.step a = some s') : WellStaged s' := by
  cases a with
  | createRoom name maxParticipants =>
    -- the room exists: only its capacity changes
    obtain ⟨r, hr⟩ := isSome_iff_exists.mp (AList.lookup_isSome.mpr hG)
    simp only [RoomManager.step, RoomManager.getOrCreateRoom, hr] at h
    obtain ⟨room, hroom, rfl⟩ := map_eq_some_iff.mp h
    obtain ⟨hstage, hmem⟩ := hs.staged r room hroom
    have hcap : Staged r (s.eventsOf r)
        (if maxParticipants = 0 then room else { room with maxParticipants }, []) := by
      split
      · exact .silent hstage hmem
      · -- the capacity has nothing to do with it
        refine .silent ?_ hmem
        generalize s.eventsOf r = events at hstage ⊢
        cases hstage with
        | unused hopen hnever hempty => exact .unused hopen hnever hempty
        | running hopen hjoined hevents => exact .running hopen hjoined hevents
        | expired hclosed hempty => exact .expired hclosed hempty
        | finished hclosed hempty hevents => exact .finished hclosed hempty hevents
    have hnew := hs.update hroom hcap
    exact ⟨hs.tasks, hnew.staged, hnew.fresh⟩
  | joinRoom name sid identity kind =>
    have hs₁ := hs.getOrCreateRoom name
    obtain ⟨room, hroom, rfl⟩ := map_eq_some_iff.mp h
    obtain ⟨hstage, hmem⟩ := hs₁.staged _ room hroom
    refine hs₁.update hroom (.joinRoom hstage hmem rfl fun hdep => ?_)
    -- a dependent participant finds the room there and joined
    obtain ⟨r, hr, room', hroom', hjoined⟩ := hG hdep
    have hr : s.names.lookup name = some r := hr
    simp only [RoomManager.getOrCreateRoom, hr] at hroom
    obtain rfl : room' = room := some.inj (hroom'.symm.trans hroom)
    exact hjoined
  | leave p =>
    obtain ⟨room, hroom, rfl⟩ := map_eq_some_iff.mp h
    obtain ⟨hstage, hmem⟩ := hs.staged _ room hroom
    exact hs.update hroom (.endParticipant hstage hmem rfl)
  | deleteRoom name =>
    have hnone : s.names.lookup name = none := AList.lookup_eq_none.mpr hG
    simp only [RoomManager.step, hnone] at h
    cases h
    exact hs
  | timeout name =>
    obtain ⟨r, -, h⟩ := bind_eq_some_iff.mp h
    obtain ⟨room, hroom, h⟩ := bind_eq_some_iff.mp h
    obtain ⟨-, ⟨⟩⟩ := ite_none_right_eq_some.mp h
    exact hs.closeNamed hroom
  | spawned i =>
    simp [RoomManager.step, hs.tasks] at h

/-- **The lifecycle webhooks fire once**, along every history in which `CreateRoom` names a room
there is, `DeleteRoom` none, and dependent participants join rooms that have been joined. -/
theorem lifecycle_fires_once {maxParticipants : Nat} {acts : List ManagerAction} {s : RoomManager}
    (hG : Along step Orderly (init maxParticipants) acts)
    (hrun : run step (init maxParticipants) acts = some s) (r : Nat) :
    FiresOnce r (s.eventsOf r) := by
  have hs : WellStaged s :=
    run_invariant_along (fun _ _ _ hI hG h => hI.step hG h) (wellStaged_init maxParticipants)
      hG hrun
  cases hroom : s.rooms[r]? with
  | none =>
    rw [hs.fresh r (List.getElem?_eq_none_iff.mp hroom)]
    exact firesOnce_nil r
  | some room => exact (hs.staged r room hroom).1.firesOnce

/-- Two participants and an agent come and go, and the room times out. -/
def dailyCall : List ManagerAction :=
  [.joinRoom "daily" "PA_1" "alice" .standard, .createRoom "daily" 8,
    .joinRoom "daily" "PA_2" "agent" .agent, .joinRoom "daily" "PA_3" "bob" .standard,
    .leave ⟨"PA_1", "alice", .standard, 0⟩, .leave ⟨"PA_3", "bob", .standard, 0⟩, .timeout "daily"]

/-- In that history, the room has started and finished once. -/
theorem lifecycle_fires_once_dailyCall :
    ∃ s, run step (init 0) dailyCall = some s ∧ .roomFinished 0 ∈ s.eventsOf 0 ∧
      FiresOnce 0 (s.eventsOf 0) := by
  refine (show ∃ s ∈ run _ _ _, .roomFinished 0 ∈ s.eventsOf 0 by decide +kernel).imp
    fun s ⟨hrun, hfinished⟩ => ⟨hrun, hfinished, lifecycle_fires_once (by decide +kernel) hrun 0⟩

/-- **Where they fire twice.** A room made by `CreateRoom` and then joined, a room joined by two
agents, and a room that is deleted. -/
theorem lifecycle_repeats :
    (run step (init 0) [.createRoom "daily" 0, .spawned 0,
        .joinRoom "daily" "PA_1" "alice" .standard]).map (·.eventsOf 0) =
      some [.roomStarted 0, .roomStarted 0,
        .participantJoined ⟨"PA_1", "alice", .standard, 0⟩] ∧
    (run step (init 0) [.joinRoom "daily" "PA_1" "scribe" .agent,
        .joinRoom "daily" "PA_2" "guide" .agent]).map (·.eventsOf 0) =
      some [.roomStarted 0, .participantJoined ⟨"PA_1", "scribe", .agent, 0⟩, .roomStarted 0,
        .participantJoined ⟨"PA_2", "guide", .agent, 0⟩] ∧
    (run step (init 0) [.joinRoom "daily" "PA_1" "alice" .standard, .deleteRoom "daily",
        .spawned 0, .spawned 0]).map (·.eventsOf 0) =
      some [.roomStarted 0, .participantJoined ⟨"PA_1", "alice", .standard, 0⟩, .roomFinished 0,
        .participantLeft ⟨"PA_1", "alice", .standard, 0⟩, .roomFinished 0] := by
  decide +kernel

end RoomManager
end LivekitVoice
