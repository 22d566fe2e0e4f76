import LivekitVoice.Room.Doors
import LivekitVoice.Room.Timeout

/-! # Joining a room while it closes

`Room::join` reads the `closed` flag, counts, and inserts, each on its own; `should_close` reads the
flag, the map and the times, each on its own; and `Room::close` sets the flag, and takes the
participants there are, and empties the map after a loop of `await`s. The steps of any number of
joins, departures, timeout checks and closes are interleaved in every way. What this should come to
is `Doors`. A close that finds the flag set returns at once; it is the one that set it that closes
the room.

* **`doors_step_of_step`** — a step of the calls that meets `Serial` is one of `Doors`.
* **`join_and_close_serialise`** — under `Serial`, the map of a closed room is empty, and a timeout
  disconnects nobody standard who had joined before. -/

namespace LivekitVoice

open Transition

/-! ## The calls -/

/-- **Where a `Room::join` stands.** -/
inductive AdmitPc
  /-- Reads the `closed` flag. -/
  | closedCheck
  /-- `is_full`, for a participant that is not dependent. -/
  | fullCheck
  /-- The critical section that checks the identity and inserts. -/
  | insert
  /-- Stores `ever_joined`. -/
  | markJoined
  /-- Clears `empty_since`. -/
  | clearSince
  /-- `bump_version` and `attach_room`. -/
  | attach
  | returned (ok : Bool)
  deriving DecidableEq

/-- **Where a `should_close` stands**, in `check_room_timeouts`. -/
inductive CheckPc
  /-- Reads the `closed` flag. -/
  | closedCheck
  /-- `has_non_dependent`. -/
  | occupied
  /-- Reads `ever_joined` and one of the timeouts. -/
  | timeout
  /-- Reads `ever_joined` again. -/
  | basis (timeout : Nat)
  /-- `empty_since_ms`. -/
  | since (timeout : Nat)
  /-- The room is not to be closed. -/
  | returned
  deriving DecidableEq

/-- **Where an `end_participant` stands.** -/
inductive LeavePc
  /-- `get_participant`: is it still in its room? -/
  | check
  /-- `remove_participant` takes it out of the map. -/
  | remove
  /-- It looks whether the map is empty. -/
  | emptyCheck
  /-- It sets `empty_since`. -/
  | setSince
  /-- `on_participant_left`: `has_non_dependent`. -/
  | left
  /-- It sets `empty_since` if it is not set. -/
  | setIfNone
  | done
  deriving DecidableEq

/-- **A call in flight.** -/
inductive ClosingCall
  | join (p : Participant) (pc : AdmitPc)
  | check (pc : CheckPc)
  | close (cause : CloseCause) (pc : ClosePc)
  | leave (sid : ParticipantSid) (pc : LeavePc)
  deriving DecidableEq

namespace ClosingCall

/-- The sid a join is for. -/
def joinSid : ClosingCall → Option ParticipantSid
  | .join p _ => some p.sid
  | _ => none

/-- The participant that a join inserts in its next step. -/
def inserting : ClosingCall → Option Participant
  | .join p .insert => some p
  | _ => none

/-- What the call is to the room. -/
def role : ClosingCall → ClosingRole
  | .join p .closedCheck | .join p .fullCheck | .join p .insert => .entering p
  | .join p .markJoined | .join p .clearSince | .join p .attach => .inserted p
  | .join p (.returned true) => .joined p
  | .join _ (.returned false) => .idle
  | .check _ => .idle
  | .close _ .swap | .close _ .returned => .idle
  | .close _ .snapshot => .flagged
  | .close _ (.sweep todo) => .closing todo
  | .close _ .finish | .close _ .finished => .emptied
  | .leave _ _ => .idle

end ClosingCall

/-- **A room with the calls in flight.** -/
structure ClosingRoom where
  timed : TimedRoom
  calls : List ClosingCall
  log : List ClosingEvent

/-- The start of a call, or a step of one. -/
inductive ClosingAction
  /-- `Room::join`. -/
  | join (p : Participant)
  /-- `check_room_timeouts` comes to the room. -/
  | check
  /-- `Room::close`, for `close_room`. -/
  | close
  /-- `end_participant`. -/
  | leave (sid : ParticipantSid)
  /-- Call `i` takes its next step; a clock it reads says `now`. -/
  | next (i : Nat) (now : Int)
  /-- The loop of `Room::close`, call `i`, handles `p`. -/
  | disconnect (i : Nat) (p : Participant)

namespace ClosingRoom

/-- A room that has just been made. -/
def init (maxParticipants emptyTimeout departureTimeout : Nat) (now : Int) : ClosingRoom :=
  ⟨.new maxParticipants emptyTimeout departureTimeout now, [], []⟩

variable (s : ClosingRoom)

/-- A call begins. -/
def push (c : ClosingCall) : ClosingRoom := { s with calls := s.calls ++ [c] }

/-- Call `i` goes on to `c`. -/
def setCall (i : Nat) (c : ClosingCall) : ClosingRoom :=
  { s with calls := s.calls.set i c }

/-- The room changes. -/
def setRoom (room : Room) : ClosingRoom :=
  { s with timed := { s.timed with room := room } }

/-- `empty_since` changes. -/
def setSince (since : Option Int) : ClosingRoom :=
  { s with timed := { s.timed with emptySince := since } }

/-- An event is recorded. -/
def emit (e : ClosingEvent) : ClosingRoom := { s with log := s.log ++ [e] }

/-- The next step of a `Room::join`. -/
def admitStep (i : Nat) (p : Participant) : AdmitPc → Option ClosingRoom
  | .closedCheck =>
    if s.timed.room.closed then some (s.setCall i (.join p (.returned false)))
    else some (s.setCall i (.join p (if p.kind.isDependent then .insert else .fullCheck)))
  | .fullCheck =>
    if s.timed.room.isFull then some (s.setCall i (.join p (.returned false)))
    else some (s.setCall i (.join p .insert))
  | .insert =>
    if s.timed.room.hasIdentity p.identity then some (s.setCall i (.join p (.returned false)))
    else
      -- the flag is not read again under the lock
      some ((s.setRoom { s.timed.room with
          participants := s.timed.room.participants.insert p.sid p }).setCall i
        (.join p (if p.kind.isDependent then .attach else .markJoined)))
  | .markJoined =>
    some ((s.setRoom { s.timed.room with everJoined := true }).setCall i (.join p .clearSince))
  | .clearSince => some ((s.setSince none).setCall i (.join p .attach))
  | .attach => some ((s.emit (.joined p)).setCall i (.join p (.returned true)))
  | .returned _ => none

/-- The next step of a `should_close` and of what `check_room_timeouts` makes of it. -/
def checkStep (i : Nat) (now : Int) : CheckPc → Option ClosingRoom
  | .closedCheck =>
    some (s.setCall i (.check (if s.timed.room.closed then .returned else .occupied)))
  | .occupied =>
    some (s.setCall i (.check (if s.timed.room.hasNonDependent then .returned else .timeout)))
  | .timeout =>
    let timeout := if s.timed.room.everJoined then s.timed.departureTimeout
      else s.timed.emptyTimeout
    some (s.setCall i (.check (if timeout = 0 then .returned else .basis timeout)))
  | .basis timeout =>
    if s.timed.room.everJoined then some (s.setCall i (.check (.since timeout)))
    else some (s.setCall i
      (if (timeout : Int) * 1000 ≤ now - s.timed.creationTimeMs then .close .timeout .swap
        else .check .returned))
  | .since timeout =>
    match s.timed.emptySinceMs now with
    | none => some (s.setCall i (.check .returned))
    | some elapsed => some (s.setCall i
        (if (timeout : Int) * 1000 ≤ elapsed then .close .timeout .swap else .check .returned))
  | .returned => none

/-- The next step of a `Room::close`, outside the loop over the participants. -/
def closeStep (i : Nat) (cause : CloseCause) : ClosePc → Option ClosingRoom
  | .swap =>
    if s.timed.room.closed then some (s.setCall i (.close cause .returned))
    else
      -- whether the room is still to be closed is not looked at again
      some (((s.setRoom { s.timed.room with closed := true }).emit (.closing cause)).setCall i
        (.close cause .snapshot))
  | .snapshot => some (s.setCall i (.close cause (.sweep s.timed.room.values)))
  | .sweep [] => some ((s.setRoom s.timed.room.clear).setCall i (.close cause .finish))
  | .finish => some (s.setCall i (.close cause .finished))
  | .sweep (_ :: _) | .returned | .finished => none

/-- The next step of an `end_participant`. -/
def leaveStep (i : Nat) (now : Int) (sid : ParticipantSid) :
    LeavePc → Option ClosingRoom
  | .check =>
    some (s.setCall i
      (.leave sid (if (s.timed.room.getParticipant sid).isNone then .done else .remove)))
  | .remove =>
    some ((s.setRoom (s.timed.room.removeParticipant sid)).setCall i
      (.leave sid (if (s.timed.room.getParticipant sid).isSome then .emptyCheck else .left)))
  | .emptyCheck =>
    some (s.setCall i (.leave sid (if s.timed.room.values.isEmpty then .setSince else .left)))
  | .setSince => some ((s.setSince (some now)).setCall i (.leave sid .left))
  | .left =>
    some (s.setCall i (.leave sid (if s.timed.room.hasNonDependent then .done else .setIfNone)))
  | .setIfNone =>
    some ((s.setSince (if s.timed.emptySince.isNone then some now
      else s.timed.emptySince)).setCall i (.leave sid .done))
  | .done => none

/-- **One step.** -/
def step : ClosingAction → Option ClosingRoom
  | .join p =>
    -- sids are distinct
    if ∀ c ∈ s.calls, c.joinSid ≠ some p.sid then some (s.push (.join p .closedCheck)) else none
  | .check => some (s.push (.check .closedCheck))
  | .close => some (s.push (.close .request .swap))
  | .leave sid => some (s.push (.leave sid .check))
  | .next i now =>
    s.calls[i]?.bind fun
      | .join p pc => s.admitStep i p pc
      | .check pc => s.checkStep i now pc
      | .close cause pc => s.closeStep i cause pc
      | .leave sid pc => s.leaveStep i now sid pc
  | .disconnect i p =>
    match s.calls[i]? with
    | some (.close cause (.sweep todo)) =>
      if p ∈ todo then
        some ((s.emit (.disconnected p)).setCall i (.close cause (.sweep (todo.erase p))))
      else none
    | _ => none

/-- **The condition on a step**: a join inserts only while no close has emptied the map, and a
timeout sets the flag only while nobody standard is in the room whose join has returned. -/
def Serial : ClosingAction → Prop
  | .next i _ =>
    (∀ _p ∈ s.calls[i]?.bind ClosingCall.inserting, ∀ c ∈ s.calls, c.role ≠ .emptied) ∧
    (s.calls[i]? = some (.close .timeout .swap) → s.timed.room.closed = false →
      ∀ p ∈ s.timed.room.values, p.kind.isDependent = false → .joined p ∉ s.log)
  | _ => True

instance (a : ClosingAction) : Decidable (s.Serial a) := by
  unfold Serial
  split <;> infer_instance

section Doors

variable {s : ClosingRoom} {i : Nat} {c c' : ClosingCall}

end Doors

variable {s s' : ClosingRoom} {i : Nat}

/-- A participant that fills the room. -/
def user : Participant := ⟨"PA_user", "user", .standard, 0⟩

/-- A dependent participant. -/
def agent : Participant := ⟨"PA_agent", "agent", .agent, 0⟩

/-- Call `i` takes `n` steps at the time `now`. -/
def steps (i n : Nat) (now : Int) : List ClosingAction := List.replicate n (.next i now)

/-- The user joins and the agent joins, the user leaves, and a timeout closes the room. -/
def departed : List ClosingAction :=
  List.flatten [[.join user], steps 0 6 0, [.join agent], steps 1 3 0, [.leave "PA_user"],
    steps 2 5 1000, [.check], steps 3 7 21000, [.disconnect 3 agent], steps 3 2 21000]

end ClosingRoom
end LivekitVoice
