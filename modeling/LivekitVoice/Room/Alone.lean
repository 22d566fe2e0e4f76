import LivekitVoice.Room.Calls

/-! # Calls that run alone

What `join_room`, `end_participant` and `Room::close` do to a room when nothing else happens
between their steps: the room they leave behind and the webhook events they send. Sequences of
whole calls are made of these. -/

namespace LivekitVoice

open Transition

/-- Why a session is not admitted. -/
inductive JoinError
  | joinDenied
  | identityRequired
  | roomRequired
  | subscribeDenied
  /-- `Room::join` returned false at the `closed` flag. -/
  | closed
  /-- `Room::join` returned false at `is_full`. -/
  | full
  /-- `Room::join` returned false because the identity is in the room. -/
  | duplicate

/-- The error text of `join_room`. -/
def JoinError.message : JoinError → String
  | .joinDenied => "join permission denied"
  | .identityRequired => "identity is required"
  | .roomRequired => "room is required"
  | .subscribeDenied => "subscribe permission denied"
  | .closed | .full | .duplicate => "room is full or closed"

namespace Room

variable (room : Room)

/-- `Room::join`; the error says which of the checks returned false. -/
def join (p : Participant) : Except JoinError Room :=
  if room.closed then .error .closed
  else if !p.kind.isDependent && room.isFull then .error .full
  else if room.hasIdentity p.identity then .error .duplicate
  else .ok (room.addParticipant p)

/-- `end_participant`. -/
def endParticipant (p : Participant) : Room × List RoomEvent :=
  if (room.getParticipant p.sid).isNone then (room, [])
  else (room.removeParticipant p.sid, [.participantLeft p])

/-- The duplicate identity in `join_room`: the participant there is ends. -/
def evict (identity : Identity) : Room × List RoomEvent :=
  match room.getParticipantByIdentity identity with
  | none => (room, [])
  | some q => room.endParticipant q

/-- `join_room` from `Room::join` on. -/
def enter (firstJoin : Bool) (p : Participant) : Room × List RoomEvent :=
  match room.join p with
  | .error _ => (room, [])
  | .ok joined =>
    (joined, (if firstJoin then [.roomStarted p.room] else []) ++ [.participantJoined p])

/-- `join_room`, past the checks of the token. -/
def joinRoom (p : Participant) : Room × List RoomEvent :=
  let evicted := room.evict p.identity
  let entered := evicted.1.enter (!evicted.1.everJoined) p
  (entered.1, evicted.2 ++ entered.2)

/-- `Room::close` of room number `r`. -/
def close (r : Nat) : Room × List RoomEvent :=
  if room.closed then (room, [])
  else ({ room.clear with closed := true },
    room.values.map RoomEvent.participantLeft ++ [.roomFinished r])

theorem join_eq_ok {room joined : Room} {p : Participant} (h : room.join p = .ok joined) :
    room.closed = false ∧ joined = room.addParticipant p := by
  rw [join] at h
  split at h
  · cases h
  · rename_i hopen
    split at h
    · cases h
    · split at h
      · cases h
      · cases h
        exact ⟨by simpa using hopen, rfl⟩

theorem evict_unchanged (identity : Identity) :
    (room.evict identity).1.closed = room.closed ∧
      (room.evict identity).1.everJoined = room.everJoined ∧
      (room.evict identity).1.maxParticipants = room.maxParticipants := by
  rw [evict]
  split
  · exact ⟨rfl, rfl, rfl⟩
  · rw [endParticipant]
    split
    all_goals exact ⟨rfl, rfl, rfl⟩

end Room

end LivekitVoice
