import LivekitVoice.Api.Service
import LivekitVoice.Room.Admission
import Mathlib.Data.Finset.Insert

/-! # The agents of a room, and what a join leaves behind

A token may name agents that its room is to have. `join_room` ends whoever is in the room under the
identity of the token, records the agents of the token with the room and marks them as launched,
and only then lets `Room::join` decide. The caller launches the agents that were new, but only if
the participant was admitted.

* **`join_fails_cleanly_iff`** — a join that fails leaves the room as it was exactly if
  `CleanJoin`. -/

namespace LivekitVoice

open List

/-! ## The agents of a room -/

/-- The key a dispatch is recorded under. -/
def RoomAgentDispatch.key (d : RoomAgentDispatch) : String := d.agentName ++ "\x00" ++ d.metadata

/-- **What a room knows of its agents.** -/
structure AgentRecord where
  agents : List RoomAgentDispatch
  /-- The keys of those that were launched. -/
  launched : Finset String

namespace AgentRecord

/-- A new room has none. -/
def empty : AgentRecord := ⟨[], ∅⟩

/-- A dispatch with the same key is there. -/
def recorded (r : AgentRecord) (d : RoomAgentDispatch) : Bool := r.agents.any fun a => a.key = d.key

/-- `add_agent_dispatch`; it returns whether the dispatch is new. -/
def addAgentDispatch (r : AgentRecord) (d : RoomAgentDispatch) : Bool × AgentRecord :=
  if r.recorded d then (false, r) else (true, { r with agents := r.agents ++ [d] })

/-- `mark_dispatch_launched`. -/
def markDispatchLaunched (r : AgentRecord) (key : String) : AgentRecord :=
  { r with launched := insert key r.launched }

/-- The loop over the agents of a token: those that are new, and the record after it. -/
def addAll (r : AgentRecord) : List RoomAgentDispatch → List RoomAgentDispatch × AgentRecord
  | [] => ([], r)
  | d :: ds =>
    let added := r.addAgentDispatch d
    if added.1 then
      let rest := (added.2.markDispatchLaunched d.key).addAll ds
      (d :: rest.1, rest.2)
    else added.2.addAll ds

variable {r : AgentRecord} {d : RoomAgentDispatch}

theorem addAll_cons_of_recorded (h : r.recorded d) (ds : List RoomAgentDispatch) :
    r.addAll (d :: ds) = r.addAll ds := by
  rw [addAll, addAgentDispatch, if_pos h]
  rfl

theorem addAll_cons_of_new (h : r.recorded d = false) (ds : List RoomAgentDispatch) :
    r.addAll (d :: ds) =
      (d :: (addAll ⟨r.agents ++ [d], insert d.key r.launched⟩ ds).1,
        (addAll ⟨r.agents ++ [d], insert d.key r.launched⟩ ds).2) := by
  have hadd : r.addAgentDispatch d = (true, ⟨r.agents ++ [d], r.launched⟩) :=
    if_neg (by simp [h])
  rw [addAll, hadd]
  rfl

/-- **The loop appends** what is new. -/
theorem agents_addAll (r : AgentRecord) (ds : List RoomAgentDispatch) :
    (r.addAll ds).2.agents = r.agents ++ (r.addAll ds).1 := by
  induction ds generalizing r with
  | nil => exact (append_nil _).symm
  | cons d ds ih =>
    cases hrec : r.recorded d with
    | true =>
      rw [addAll_cons_of_recorded hrec]
      exact ih r
    | false =>
      rw [addAll_cons_of_new hrec]
      refine (ih _).trans ?_
      simp

theorem addAll_fst_congr {r r' : AgentRecord} (h : r.agents = r'.agents)
    (ds : List RoomAgentDispatch) : (r.addAll ds).1 = (r'.addAll ds).1 := by
  induction ds generalizing r r' with
  | nil => rfl
  | cons d ds ih =>
    have hsame : r.recorded d = r'.recorded d := by rw [recorded, recorded, h]
    cases hrec : r'.recorded d with
    | true =>
      rw [addAll_cons_of_recorded (hsame.trans hrec), addAll_cons_of_recorded hrec]
      exact ih h
    | false =>
      rw [addAll_cons_of_new (hsame.trans hrec), addAll_cons_of_new hrec]
      exact congrArg (d :: ·) (ih (by rw [h]))

theorem addAll_of_recorded {ds : List RoomAgentDispatch} (h : ∀ d ∈ ds, r.recorded d) :
    r.addAll ds = ([], r) := by
  induction ds with
  | nil => rfl
  | cons d ds ih =>
    rw [addAll_cons_of_recorded (h d mem_cons_self)]
    exact ih fun e he => h e (mem_cons_of_mem _ he)

/-- **Nothing is new** exactly if all are recorded. -/
theorem addAll_fst_eq_nil_iff {ds : List RoomAgentDispatch} :
    (r.addAll ds).1 = [] ↔ ∀ d ∈ ds, r.recorded d := by
  constructor
  · intro h
    induction ds with
    | nil => exact nofun
    | cons d ds ih =>
      cases hrec : r.recorded d with
      | true =>
        rw [addAll_cons_of_recorded hrec] at h
        exact forall_mem_cons.mpr ⟨hrec, ih h⟩
      | false =>
        simp [addAll_cons_of_new hrec] at h
  · intro h
    rw [addAll_of_recorded h]

end AgentRecord

/-! ## Rooms -/

namespace Room

/-- The participants are kept under their sids, and their identities are distinct. -/
structure Tidy (room : Room) : Prop where
  keyed : ∀ e ∈ room.participants.entries, e.1 = e.2.sid
  distinct : (room.values.map Participant.identity).Nodup

theorem tidy_new (maxParticipants : Nat) : Tidy (new maxParticipants) where
  keyed := nofun
  distinct := nodup_nil

variable {room : Room} {identity : Identity} {p q : Participant}

theorem Tidy.removeParticipant (h : Tidy room) (sid : ParticipantSid) :
    Tidy (room.removeParticipant sid) where
  keyed e he := h.keyed e (mem_entries_removeParticipant he)
  distinct := nodup_identities_removeParticipant h.distinct

theorem Tidy.addParticipant (h : Tidy room) (hfree : room.hasIdentity p.identity = false) :
    Tidy (room.addParticipant p) where
  keyed e he := by
    rcases mem_entries_addParticipant he with rfl | he
    · rfl
    · exact h.keyed e he
  distinct := nodup_identities_addParticipant h.distinct hfree

theorem Tidy.getParticipant_of_identity (h : Tidy room)
    (hq : room.getParticipantByIdentity identity = some q) :
    room.getParticipant q.sid = some q := by
  obtain ⟨sid, hentry⟩ := mem_values.mp (getParticipantByIdentity_eq_some hq).1
  obtain rfl : sid = q.sid := h.keyed _ hentry
  exact AList.mem_lookup_iff.mpr hentry

theorem evict_of_none (h : room.getParticipantByIdentity identity = none) :
    (room.evict identity).1 = room := by
  rw [evict, h]

theorem Tidy.evict_of_some (h : Tidy room) (hq : room.getParticipantByIdentity identity = some q) :
    (room.evict identity).1 = room.removeParticipant q.sid := by
  rw [Room.evict, hq]
  show (room.endParticipant q).1 = _
  rw [endParticipant, if_neg]
  simp [h.getParticipant_of_identity hq]

theorem Tidy.evict (h : Tidy room) (identity : Identity) : Tidy (room.evict identity).1 := by
  cases hq : room.getParticipantByIdentity identity with
  | none =>
    rw [evict_of_none hq]
    exact h
  | some q =>
    rw [h.evict_of_some hq]
    exact h.removeParticipant q.sid

/-- **An eviction leaves** those with another identity. -/
theorem Tidy.values_evict (h : Tidy room) (identity : Identity) :
    (room.evict identity).1.values = room.values.filter fun p => p.identity ≠ identity := by
  cases hq : room.getParticipantByIdentity identity with
  | none =>
    rw [evict_of_none hq, eq_comm, filter_eq_self]
    intro p hp
    simpa using List.find?_eq_none.mp hq p hp
  | some q =>
    obtain ⟨-, hid⟩ := getParticipantByIdentity_eq_some hq
    have hin : q.sid ∈ room.participants :=
      AList.lookup_isSome.mp (Option.isSome_of_mem (h.getParticipant_of_identity hq))
    obtain ⟨q', l₁, l₂, -, hl, hl'⟩ := exists_of_kerase (AList.mem_keys.mp hin)
    obtain rfl : q' = q := by
      have hlookup : room.getParticipant q.sid = some q' :=
        AList.mem_lookup_iff.mpr (by rw [hl]; simp)
      exact Option.some.inj (hlookup.symm.trans (h.getParticipant_of_identity hq))
    have hold : room.values = (l₁ ++ ⟨q'.sid, q'⟩ :: l₂).map fun e => e.2 :=
      congrArg (List.map fun e : Entry => e.2) hl
    have hnew : (room.removeParticipant q'.sid).values = (l₁ ++ l₂).map fun e => e.2 :=
      congrArg (List.map fun e : Entry => e.2) hl'
    -- nobody else has the identity
    have hother : ∀ p ∈ (l₁ ++ l₂).map fun e => e.2, p.identity ≠ identity := by
      have hdistinct := h.distinct
      rw [hold, map_append, map_cons, map_append, map_cons,
        nodup_middle, nodup_cons, ← map_append, ← map_append] at hdistinct
      intro p hp heq
      exact hdistinct.1 (mem_map.mpr ⟨p, hp, heq.trans hid.symm⟩)
    rw [h.evict_of_some hq, hnew, hold, map_append, map_append, map_cons,
      filter_append, filter_cons_of_neg (by simp [hid]), ← filter_append,
      ← map_append, eq_comm, filter_eq_self]
    intro p hp
    simpa using hother p hp

/-- **The room has a place**: it is open, and if the participant counts, there are fewer than the
maximum that count, without those of the same identity. -/
def Admits (room : Room) (identity : Identity) (kind : ParticipantKind) : Prop :=
  room.closed = false ∧ (kind.isDependent ∨ room.maxParticipants = 0 ∨
    (room.values.filter fun p => p.identity ≠ identity ∧ p.kind.isDependent = false).length <
      room.maxParticipants)

/-- **After an eviction `Room::join` admits** exactly if the room has a place. -/
theorem Tidy.join_evict_iff (h : Tidy room) (p : Participant) :
    (∃ joined, (room.evict p.identity).1.join p = .ok joined) ↔ room.Admits p.identity p.kind := by
  have hfree : (room.evict p.identity).1.hasIdentity p.identity = false := by
    rw [hasIdentity_eq_false, h.values_evict]
    intro q hq
    simpa using (mem_filter.mp hq).2
  -- an evicted room is full if it was full of others
  obtain ⟨hclosed, -, hmax⟩ := room.evict_unchanged p.identity
  have hcount : (room.evict p.identity).1.nonDependents = (room.values.filter fun q =>
      q.identity ≠ p.identity ∧ q.kind.isDependent = false).length := by
    rw [nonDependents, h.values_evict, filter_filter]
    congr 1
    refine filter_congr fun q _ => ?_
    cases q.kind.isDependent <;> simp
  have hfull := not_congr (room.evict p.identity).1.isFull_eq_true_iff
  rw [Bool.not_eq_true, hmax, hcount, not_and_or, not_not, Nat.not_le] at hfull
  rw [Admits, ← hfull, ← hclosed, join, hfree]
  cases (room.evict p.identity).1.closed with
  | true => simp
  | false =>
    cases p.kind.isDependent with
    | true => simp
    | false =>
      cases (room.evict p.identity).1.isFull with
      | _ => simp

theorem Tidy.join (h : Tidy room) {joined : Room} (hjoin : room.join p = .ok joined) :
    Tidy joined := by
  rw [Room.join] at hjoin
  split at hjoin
  · cases hjoin
  · split at hjoin
    · cases hjoin
    · split at hjoin
      · cases hjoin
      · next hid =>
        cases hjoin
        exact h.addParticipant (by simpa using hid)

end Room

/-- **A room with its agents.** -/
structure AgentRoom where
  room : Room
  record : AgentRecord
  tidy : room.Tidy

namespace AgentRoom

/-- `Room::new`. -/
def new (maxParticipants : Nat) : AgentRoom where
  room := .new maxParticipants
  record := .empty
  tidy := Room.tidy_new maxParticipants

/-- The duplicate identity in `join_room`. -/
def evict (r : AgentRoom) (identity : Identity) : AgentRoom where
  room := (r.room.evict identity).1
  record := r.record
  tidy := r.tidy.evict identity

/-- `Room::join`. -/
def join (r : AgentRoom) (p : Participant) : Except JoinError AgentRoom :=
  match h : r.room.join p with
  | .error e => .error e
  | .ok room => .ok ⟨room, r.record, r.tidy.join h⟩

theorem join_eq_error {r : AgentRoom} {p : Participant} {e : JoinError}
    (h : r.room.join p = .error e) : r.join p = .error e := by
  rw [join]
  split
  · next e' h' =>
    rw [h] at h'
    rw [Except.error.inj h']
  · next room h' =>
    rw [h] at h'
    cases h'

theorem join_eq_ok {r : AgentRoom} {p : Participant} {room : Room} (h : r.room.join p = .ok room) :
    r.join p = .ok ⟨room, r.record, r.tidy.join h⟩ := by
  rw [join]
  split
  · next e' h' =>
    rw [h] at h'
    cases h'
  · next room' h' =>
    obtain rfl : room = room' := Except.ok.inj (h.symm.trans h')
    rfl

/-- **The same as before**, as far as participants and agents go. -/
structure Untouched (before after : AgentRoom) : Prop where
  participants : ∀ sid, after.room.getParticipant sid = before.room.getParticipant sid
  agents : after.record.agents = before.record.agents
  launched : after.record.launched = before.record.launched

theorem Untouched.refl (r : AgentRoom) : Untouched r r := ⟨fun _ => rfl, rfl, rfl⟩

end AgentRoom

/-! ## `join_room` -/

/-- A verified token with the agents of its `room_config`, none if it has no configuration. -/
structure AgentToken extends VerifiedToken where
  agents : List RoomAgentDispatch

/-- The checks that come before the room is looked up. -/
def AgentToken.check (token : AgentToken) (params : SessionParams) : Option JoinError :=
  if !token.video.roomJoin then some .joinDenied
  else if token.identity = "" then some .identityRequired
  else if token.video.room = "" then some .roomRequired
  else if !params.publish && !token.canSubscribe then some .subscribeDenied
  else none

/-- What `join_room` returns. -/
structure JoinedRoom where
  room : AgentRoom
  participant : Participant
  /-- The dispatches to launch. -/
  launchAgents : List RoomAgentDispatch

/-- **The rooms of a server** by name, and the configured capacity of a new room. -/
structure AgentServer where
  rooms : AList fun _ : String => AgentRoom
  maxParticipants : Nat

namespace AgentServer

/-- The room `get_or_create_room` returns. -/
def getOrCreateRoom (server : AgentServer) (name : String) : AgentRoom :=
  match server.rooms.lookup name with
  | none => .new server.maxParticipants
  | some room => room

/-- The room of a name is now this. -/
def setRoom (server : AgentServer) (name : String) (room : AgentRoom) : AgentServer :=
  { server with rooms := server.rooms.insert name room }

theorem getOrCreateRoom_setRoom_self (server : AgentServer) (name : String) (room : AgentRoom) :
    (server.setRoom name room).getOrCreateRoom name = room := by
  rw [getOrCreateRoom, setRoom, AList.lookup_insert]

theorem getOrCreateRoom_setRoom_of_ne (server : AgentServer) {name other : String}
    (room : AgentRoom) (h : other ≠ name) :
    (server.setRoom name room).getOrCreateRoom other = server.getOrCreateRoom other := by
  rw [getOrCreateRoom, setRoom, AList.lookup_insert_ne h]
  rfl

/-- **`join_room`**, for a participant with the sid `sid` and the room object number `number`. -/
def joinRoom (server : AgentServer) (token : AgentToken) (params : SessionParams)
    (kind : ParticipantKind) (sid : ParticipantSid) (number : Nat) :
    Except JoinError JoinedRoom × AgentServer :=
  match token.check params with
  | some e => (.error e, server)
  | none =>
    let name := token.video.room
    let room := (server.getOrCreateRoom name).evict token.identity
    let participant : Participant := ⟨sid, token.identity, kind, number⟩
    -- the agents are recorded before it is known whether the participant is admitted
    let added := room.record.addAll token.agents
    let room := { room with record := added.2 }
    match room.join participant with
    | .error e => (.error e, server.setRoom name room)
    | .ok joined => (.ok ⟨joined, participant, added.1⟩, server.setRoom name joined)

variable {server server' : AgentServer} {token : AgentToken} {params : SessionParams}
  {kind : ParticipantKind} {sid : ParticipantSid} {number : Nat}

/-- The room that `join_room` leaves if it fails after the checks. -/
def attempted (server : AgentServer) (token : AgentToken) : AgentRoom :=
  let room := (server.getOrCreateRoom token.video.room).evict token.identity
  { room with record := (room.record.addAll token.agents).2 }

/-- **What `join_room` does**: it is turned away at the checks, or refused by `Room::join` when the
agents are recorded, or it returns those that were new. -/
theorem joinRoom_cases (server : AgentServer) (token : AgentToken) (params : SessionParams)
    (kind : ParticipantKind) (sid : ParticipantSid) (number : Nat) :
    (∃ e, token.check params = some e ∧
        server.joinRoom token params kind sid number = (.error e, server)) ∨
    (∃ e, token.check params = none ∧
        ¬(server.getOrCreateRoom token.video.room).room.Admits token.identity kind ∧
        server.joinRoom token params kind sid number =
          (.error e, server.setRoom token.video.room (server.attempted token))) ∨
    ∃ out server', token.check params = none ∧
        (server.getOrCreateRoom token.video.room).room.Admits token.identity kind ∧
        server.joinRoom token params kind sid number = (.ok out, server') ∧
        out.launchAgents =
          ((server.getOrCreateRoom token.video.room).record.addAll token.agents).1 := by
  cases hcheck : token.check params with
  | some e =>
    refine .inl ⟨e, rfl, ?_⟩
    rw [joinRoom, hcheck]
  | none =>
    have hiff := (server.getOrCreateRoom token.video.room).tidy.join_evict_iff
      ⟨sid, token.identity, kind, number⟩
    cases hdecided : ((server.getOrCreateRoom token.video.room).room.evict token.identity).1.join
        ⟨sid, token.identity, kind, number⟩ with
    | error e =>
      refine .inr (.inl ⟨e, rfl, fun hadmits => ?_, ?_⟩)
      · obtain ⟨joined, hjoined⟩ := hiff.mpr hadmits
        simp [hdecided] at hjoined
      · rw [joinRoom, hcheck]
        dsimp only
        rw [AgentRoom.join_eq_error hdecided]
        rfl
    | ok room =>
      refine .inr (.inr ?_)
      rw [joinRoom, hcheck]
      dsimp only
      rw [AgentRoom.join_eq_ok hdecided]
      exact ⟨_, _, rfl, hiff.mp ⟨room, hdecided⟩, rfl, rfl⟩

/-- **A join that fails leaves no trace**: every room is as before, and a later join with the same
token that succeeds returns the agents it would have returned at first. -/
structure FailsCleanly (server : AgentServer) (token : AgentToken) (params : SessionParams)
    (kind : ParticipantKind) (sid : ParticipantSid) (number : Nat) : Prop where
  untouched : ∀ e server', server.joinRoom token params kind sid number = (.error e, server') →
    ∀ name, AgentRoom.Untouched (server.getOrCreateRoom name) (server'.getOrCreateRoom name)
  launches : ∀ e server', server.joinRoom token params kind sid number = (.error e, server') →
    ∀ params' kind' sid' number' out server'',
      server'.joinRoom token params' kind' sid' number' = (.ok out, server'') →
      out.launchAgents =
        ((server.getOrCreateRoom token.video.room).record.addAll token.agents).1

/-- **When a join leaves no trace if it fails**: the token is turned away before the room is looked
up, or the room has a place, or there is nobody under the identity and no agent to record. -/
def CleanJoin (server : AgentServer) (token : AgentToken) (params : SessionParams)
    (kind : ParticipantKind) : Prop :=
  let room := server.getOrCreateRoom token.video.room
  token.check params ≠ none ∨ room.room.Admits token.identity kind ∨
    room.room.getParticipantByIdentity token.identity = none ∧
      ∀ d ∈ token.agents, room.record.recorded d

/-- What is left of a join that was refused is what was there, exactly if there is nobody under the
identity and no agent to record. -/
theorem untouched_attempted_iff :
    AgentRoom.Untouched (server.getOrCreateRoom token.video.room) (server.attempted token) ↔
      (server.getOrCreateRoom token.video.room).room.getParticipantByIdentity token.identity =
          none ∧
        ∀ d ∈ token.agents,
          (server.getOrCreateRoom token.video.room).record.recorded d := by
  constructor
  · intro h
    constructor
    · cases hq : (server.getOrCreateRoom token.video.room).room.getParticipantByIdentity
          token.identity with
      | none => rfl
      | some q =>
        -- the eviction took it out of the map
        have htidy := (server.getOrCreateRoom token.video.room).tidy
        have hsame := h.participants q.sid
        rw [htidy.getParticipant_of_identity hq] at hsame
        have hgone : (server.attempted token).room.getParticipant q.sid = none := by
          show ((server.getOrCreateRoom token.video.room).room.evict
            token.identity).1.getParticipant q.sid = none
          rw [htidy.evict_of_some hq]
          exact AList.lookup_erase _ _
        simp [hgone] at hsame
    · have hagents := h.agents
      rw [attempted, AgentRecord.agents_addAll] at hagents
      exact AgentRecord.addAll_fst_eq_nil_iff.mp (append_right_eq_self.mp hagents)
  · rintro ⟨hnone, hrecorded⟩
    have hroom : (server.attempted token).room =
        (server.getOrCreateRoom token.video.room).room := Room.evict_of_none hnone
    have hrecord : (server.attempted token).record =
        (server.getOrCreateRoom token.video.room).record := by
      show ((server.getOrCreateRoom token.video.room).record.addAll token.agents).2 = _
      rw [AgentRecord.addAll_of_recorded hrecorded]
    exact ⟨fun _ => by rw [hroom], by rw [hrecord], by rw [hrecord]⟩

theorem failsCleanly_of_untouched
    (h : ∀ e server', server.joinRoom token params kind sid number = (.error e, server') →
      ∀ name, AgentRoom.Untouched (server.getOrCreateRoom name) (server'.getOrCreateRoom name)) :
    server.FailsCleanly token params kind sid number :=
  ⟨h, fun e server' heq params kind sid number _ _ hjoin => by
    -- a join that succeeds returns the agents of the token that were new
    rcases server'.joinRoom_cases token params kind sid number with
      ⟨e, -, heq'⟩ | ⟨e, -, -, heq'⟩ | ⟨out, server'', -, -, heq', hlaunch⟩
    · simp [heq'] at hjoin
    · simp [heq'] at hjoin
    · rw [heq'] at hjoin
      cases hjoin
      exact hlaunch.trans (AgentRecord.addAll_fst_congr
        (h e server' heq token.video.room).agents token.agents)⟩

/-- **A failed join leaves no trace exactly if** it is turned away at the checks of the token, or
there was a place after all, or there is nobody under the identity and no agent to record. -/
theorem join_fails_cleanly_iff (server : AgentServer) (token : AgentToken) (params : SessionParams)
    (kind : ParticipantKind) (sid : ParticipantSid) (number : Nat) :
    server.FailsCleanly token params kind sid number ↔ server.CleanJoin token params kind := by
  rw [CleanJoin]
  rcases server.joinRoom_cases token params kind sid number with
    ⟨e, hcheck, heq⟩ | ⟨e, hcheck, hrefused, heq⟩ | ⟨out, server', hcheck, hadmits, heq, -⟩
  · refine iff_of_true (failsCleanly_of_untouched fun e' server' h name => ?_)
      (.inl (by simp [hcheck]))
    rw [heq] at h
    cases h
    exact .refl _
  · -- no trace in the servers is no trace in the room
    have hself := server.getOrCreateRoom_setRoom_self token.video.room (server.attempted token)
    have hclean : server.FailsCleanly token params kind sid number ↔
        AgentRoom.Untouched (server.getOrCreateRoom token.video.room) (server.attempted token) := by
      refine ⟨fun h => hself ▸ h.untouched e _ heq token.video.room, fun hroom =>
        failsCleanly_of_untouched fun e' server' h name => ?_⟩
      rw [heq] at h
      cases h
      by_cases hname : name = token.video.room
      · rw [hname, hself]
        exact hroom
      · rw [server.getOrCreateRoom_setRoom_of_ne _ hname]
        exact .refl _
    rw [hclean, untouched_attempted_iff]
    simp [hcheck, hrefused]
  · refine iff_of_true (failsCleanly_of_untouched fun e server'' h => ?_) (.inr (.inl hadmits))
    simp [heq] at h

/-! ## Two failed joins -/

/-- A participant of room number `0`. -/
def present (sid : ParticipantSid) (identity : Identity) : Participant :=
  ⟨sid, identity, .standard, 0⟩

/-- A room with one participant and no agents. -/
def roomOf (p : Participant) (maxParticipants : Nat) (closed : Bool) : AgentRoom where
  room := { (Room.new maxParticipants).addParticipant p with closed := closed }
  record := .empty
  tidy :=
    have h := (Room.tidy_new maxParticipants).addParticipant (p := p) rfl
    ⟨h.keyed, h.distinct⟩

/-- A server with this room. -/
def hosting (room : AgentRoom) : AgentServer where
  rooms := AList.singleton "room" room
  maxParticipants := 0

/-- A token for the room with one agent. -/
def withAgent : AgentToken where
  identity := "alice"
  video := { roomJoin := true, room := "room" }
  agents := [⟨"voice", "", "", []⟩]

/-- The parameters of a client that subscribes. -/
def subscribing : SessionParams := ⟨false, "", false⟩

/-- What is left of a join: its error, and in the room the names of the agents, the keys of those
marked as launched, and the identities. -/
def trace (r : Except JoinError JoinedRoom × AgentServer) :
    Option String × List String × Finset String × List Identity :=
  let room := r.2.getOrCreateRoom "room"
  (match r.1 with
    | .error e => some e.message
    | .ok _ => none,
    room.record.agents.map RoomAgentDispatch.agentName, room.record.launched,
    room.room.values.map Participant.identity)

/-- A client is refused by a room that is full with somebody else in it. -/
def refusedJoin : Except JoinError JoinedRoom × AgentServer :=
  (hosting (roomOf (present "PA_1" "bob") 1 false)).joinRoom withAgent subscribing .standard
    "PA_2" 0

/-- It comes back when the other one has left. -/
def laterJoin : Except JoinError JoinedRoom × AgentServer :=
  (refusedJoin.2.setRoom "room" ((refusedJoin.2.getOrCreateRoom "room").evict "bob")).joinRoom
    withAgent subscribing .standard "PA_3" 0

/-- A client joins again a room that is closing with it. -/
def closingJoin : Except JoinError JoinedRoom × AgentServer :=
  (hosting (roomOf (present "PA_1" "alice") 0 true)).joinRoom { withAgent with agents := [] }
    subscribing .standard "PA_2" 0

/-- **A failed join leaves its traces.** A full room keeps the agent of a client it refuses, and
when the client is admitted later, with the same token, it launches nothing. A room that is closing
loses the participant that was there under the identity. -/
theorem failed_join_keeps_agents :
    trace refusedJoin = (some "room is full or closed", ["voice"], {"voice\x00"}, ["bob"]) ∧
    laterJoin.1.toOption.map (fun out => (out.participant.sid, out.launchAgents)) =
      some ("PA_3", []) ∧
    trace closingJoin = (some "room is full or closed", [], ∅, []) := by
  decide +kernel

end AgentServer
end LivekitVoice
