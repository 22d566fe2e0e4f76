import LivekitVoice.Room.Basic
import LivekitVoice.Transition.Pool
import LivekitVoice.Transition.Run

/-! # Calls on rooms, interleaved

Every room object of a server, with any number of calls in flight on them. A call is a program whose
steps are the critical sections and the stretches between two `await`s of the source; a schedule
interleaves the steps of all calls in every way. Three calls touch the participant maps and the
gauge `participant_total`:

* **`join_room`**: look for a participant of the same identity and `end_participant` it, read
  `ever_joined`, then `Room::join` (the `closed` flag, `is_full`, and the insertion that checks the
  identity, each on its own), then `room_started` for a first join, the gauge and
  `participant_joined`;
* **`end_participant`**: look whether the participant is in its room, remove it, close its media,
  then the gauge and `participant_left`;
* **`Room::close`**: set the `closed` flag, take the participants there are, and for each of them
  the gauge and `participant_left`; then empty the map and send `room_finished`.

`Move` says once what a step can do, `move_of_step` that a step does nothing else. `Registered` is
what the map entries, the calls and the record have to do with each other in every run. -/

namespace LivekitVoice

open Option Transition

/-! ## Calls -/

/-- **Where a `join_room` stands**: what it does next. -/
inductive JoinPc
  /-- `get_participant_by_identity`. -/
  | lookup
  /-- Waits for `end_participant` of the participant it found, call number `call`. -/
  | evicting (call : Nat)
  /-- Reads `ever_joined`. -/
  | load
  /-- `Room::join` reads the `closed` flag. -/
  | closedCheck (firstJoin : Bool)
  /-- `is_full`, for a participant that is not dependent. -/
  | fullCheck (firstJoin : Bool)
  /-- The critical section that checks the identity and inserts. -/
  | insert (firstJoin : Bool)
  /-- `Room::join` has returned true: `room_started`, if it is the first join. -/
  | started (firstJoin : Bool)
  /-- `participant_total.inc()` and `participant_joined`. -/
  | notify
  /-- Returned, with or without an error. -/
  | done (ok : Bool)
  deriving DecidableEq

namespace JoinPc

/-- `Room::join` has returned true. -/
def admitted : JoinPc → Bool
  | .started _ | .notify => true
  | .done ok => ok
  | _ => false

/-- In `Room::join`, before the insertion. -/
def checking : JoinPc → Bool
  | .closedCheck _ | .fullCheck _ | .insert _ => true
  | _ => false

theorem not_admitted_of_checking {pc : JoinPc} (h : pc.checking) : pc.admitted = false := by
  cases pc with
  | closedCheck | fullCheck | insert => rfl
  | _ => cases h

end JoinPc

/-- **Where an `end_participant` stands.** -/
inductive EndPc
  /-- `get_participant`: is it still in its room? -/
  | check
  /-- `remove_participant`. -/
  | remove
  /-- The media is closed: `participant_total.dec()` and `participant_left`. -/
  | notify
  /-- Returned. -/
  | done
  deriving DecidableEq

/-- **Where a `Room::close` stands.** -/
inductive ClosePc
  /-- `closed.swap(true)`. -/
  | swap
  /-- The room was closed already. -/
  | returned
  /-- `participants()`, after the agent jobs and the registry entry. -/
  | snapshot
  /-- The loop over the participants there were; `todo` are still to be handled. -/
  | sweep (todo : List Participant)
  /-- The map is empty: `room_finished` and `on_close`. -/
  | finish
  /-- Returned. -/
  | finished
  deriving DecidableEq

/-- The participants there are have been taken. -/
def ClosePc.swept : ClosePc → Bool
  | .sweep _ | .finish | .finished => true
  | _ => false

/-- **A call in flight.** -/
inductive RoomCall
  /-- `join_room` for participant `p`; `present` were in the room, with the same identity, when the
  call began. -/
  | joinRoom (p : Participant) (present : List Participant) (pc : JoinPc)
  /-- `end_participant` of `p`. -/
  | endParticipant (p : Participant) (pc : EndPc)
  /-- `Room::close` of a room. -/
  | close (room : Nat) (pc : ClosePc)
  deriving DecidableEq

namespace RoomCall

/-- The sid a `join_room` has for its participant. -/
def joinSid : RoomCall → Option ParticipantSid
  | .joinRoom p _ _ => some p.sid
  | _ => none

/-- **What a call becomes**: it stays a call of the same function with the same arguments; a
`join_room` that was admitted stays so, a `close` that has its participants as well. -/
def Follows : RoomCall → RoomCall → Prop
  | .joinRoom p present pc, c' =>
    ∃ pc', c' = .joinRoom p present pc' ∧ (pc.admitted → pc'.admitted)
  | .endParticipant p _, c' => ∃ pc', c' = .endParticipant p pc'
  | .close r pc, c' => ∃ pc', c' = .close r pc' ∧ (pc.swept → pc'.swept)

theorem Follows.refl : (c : RoomCall) → c.Follows c
  | .joinRoom _ _ pc | .close _ pc => ⟨pc, rfl, id⟩
  | .endParticipant _ pc => ⟨pc, rfl⟩

theorem Follows.joinSid_eq {c c' : RoomCall} (h : c.Follows c') : c'.joinSid = c.joinSid := by
  cases c with
  | joinRoom | close =>
    obtain ⟨pc', rfl, -⟩ := h
    rfl
  | endParticipant p pc =>
    obtain ⟨pc', rfl⟩ := h
    rfl

end RoomCall

/-- **What is recorded**: webhook events and who changed the gauge. -/
inductive RoomEvent
  /-- `room.join` returned true. -/
  | admitted (p : Participant)
  | roomStarted (room : Nat)
  | roomFinished (room : Nat)
  | participantJoined (p : Participant)
  | participantLeft (p : Participant)
  | totalInc (p : Participant)
  | totalDec (p : Participant)
  deriving DecidableEq

/-- A room object, and whether its `close` has taken the participants there are (a note for the
proofs, nothing reads it). -/
structure RoomCell where
  room : Room
  /-- `close` is past `participants()`. -/
  swept : Bool

/-- **All rooms of a server with the calls in flight.** -/
structure Rooms where
  /-- The room objects there have been. -/
  rooms : List RoomCell
  /-- The calls, in the order in which they began. -/
  calls : List RoomCall
  /-- The gauge `participant_total`. -/
  participantTotal : Int
  /-- What happened, in order. -/
  log : List RoomEvent

/-- The start of a call, or a step of one. -/
inductive RoomAction
  /-- `get_or_create_room` makes a room. -/
  | newRoom (maxParticipants : Nat)
  /-- `join_room` begins, past its checks of the token. -/
  | joinRoom (p : Participant)
  /-- `end_participant` begins: Leave, `RemoveParticipant`, media failure or grace timer. -/
  | endParticipant (p : Participant)
  /-- `Room::close` begins: deletion or timeout. -/
  | close (room : Nat)
  /-- Call `i` takes its next step. -/
  | next (i : Nat)
  /-- The loop of `Room::close`, call `i`, handles `p`; the map yields its entries in any order. -/
  | sweep (i : Nat) (p : Participant)

namespace Rooms

/-- No room yet. -/
def init : Rooms := ⟨[], [], 0, []⟩

variable (s : Rooms)

/-- A call begins. -/
def push (c : RoomCall) : Rooms := { s with calls := s.calls ++ [c] }

/-- Call `i` goes on to `c`. -/
def setCall (i : Nat) (c : RoomCall) : Rooms := { s with calls := s.calls.set i c }

/-- Room `r` changes. -/
def setRoom (r : Nat) (cell : RoomCell) : Rooms :=
  { s with rooms := s.rooms.set r cell }

/-- Events happen, and the gauge changes by `d`. -/
def emit (events : List RoomEvent) (d : Int) : Rooms :=
  { s with log := s.log ++ events, participantTotal := s.participantTotal + d }

/-- The next step of a `join_room`. -/
def joinStep (i : Nat) (cell : RoomCell) (p : Participant)
    (present : List Participant) : JoinPc → Option Rooms
  | .lookup =>
    match cell.room.getParticipantByIdentity p.identity with
    | none => some (s.setCall i (.joinRoom p present .load))
    | some q =>
      some ((s.setCall i (.joinRoom p present (.evicting s.calls.length))).push
        (.endParticipant q .check))
  | .evicting call =>
    -- `end_participant(..).await`
    match s.calls[call]? with
    | some (.endParticipant _ .done) => some (s.setCall i (.joinRoom p present .load))
    | _ => none
  | .load => some (s.setCall i (.joinRoom p present (.closedCheck !cell.room.everJoined)))
  | .closedCheck firstJoin =>
    if cell.room.closed then some (s.setCall i (.joinRoom p present (.done false)))
    else if p.kind.isDependent then some (s.setCall i (.joinRoom p present (.insert firstJoin)))
    else some (s.setCall i (.joinRoom p present (.fullCheck firstJoin)))
  | .fullCheck firstJoin =>
    -- counted here, and not again under the lock of the insertion
    if cell.room.isFull then some (s.setCall i (.joinRoom p present (.done false)))
    else some (s.setCall i (.joinRoom p present (.insert firstJoin)))
  | .insert firstJoin =>
    if cell.room.hasIdentity p.identity then
      some (s.setCall i (.joinRoom p present (.done false)))
    else
      some (((s.setRoom p.room { cell with room := cell.room.addParticipant p }).emit
        [.admitted p] 0).setCall i (.joinRoom p present (.started firstJoin)))
  | .started firstJoin =>
    some ((s.emit (if firstJoin then [.roomStarted p.room] else []) 0).setCall i
      (.joinRoom p present .notify))
  | .notify =>
    some ((s.emit [.totalInc p, .participantJoined p] 1).setCall i
      (.joinRoom p present (.done true)))
  | .done _ => none

/-- The next step of an `end_participant`. -/
def endStep (i : Nat) (cell : RoomCell) (p : Participant) : EndPc → Option Rooms
  | .check =>
    if (cell.room.getParticipant p.sid).isNone then some (s.setCall i (.endParticipant p .done))
    else some (s.setCall i (.endParticipant p .remove))
  | .remove =>
    -- what `remove_participant` returns is not looked at
    some ((s.setRoom p.room { cell with room := cell.room.removeParticipant p.sid }).setCall i
      (.endParticipant p .notify))
  | .notify =>
    some ((s.emit [.totalDec p, .participantLeft p] (-1)).setCall i (.endParticipant p .done))
  | .done => none

/-- The next step of a `Room::close`, outside the loop over the participants. -/
def closeStep (i r : Nat) (cell : RoomCell) : ClosePc → Option Rooms
  | .swap =>
    if cell.room.closed then some (s.setCall i (.close r .returned))
    else
      some ((s.setRoom r { cell with room := { cell.room with closed := true } }).setCall i
        (.close r .snapshot))
  | .snapshot =>
    -- the entries stay in the map until the loop over them is done
    some ((s.setRoom r { cell with swept := true }).setCall i
      (.close r (.sweep cell.room.values)))
  | .sweep [] =>
    some ((s.setRoom r { cell with room := cell.room.clear }).setCall i (.close r .finish))
  | .finish => some ((s.emit [.roomFinished r] 0).setCall i (.close r .finished))
  | .sweep (_ :: _) | .returned | .finished => none

/-- **One step.** -/
def step : RoomAction → Option Rooms
  | .newRoom maxParticipants =>
    some { s with rooms := s.rooms ++ [⟨.new maxParticipants, false⟩] }
  | .joinRoom p =>
    s.rooms[p.room]?.bind fun cell =>
      -- sids are distinct
      if ∀ c ∈ s.calls, c.joinSid ≠ some p.sid then
        some (s.push (.joinRoom p
          (cell.room.values.filter fun q => q.identity = p.identity) .lookup))
      else none
  | .endParticipant p =>
    -- the callers hold a participant that was in the room
    if .admitted p ∈ s.log then some (s.push (.endParticipant p .check)) else none
  | .close r => if r < s.rooms.length then some (s.push (.close r .swap)) else none
  | .next i =>
    s.calls[i]?.bind fun
      | .joinRoom p present pc =>
        s.rooms[p.room]?.bind fun cell => s.joinStep i cell p present pc
      | .endParticipant p pc => s.rooms[p.room]?.bind fun cell => s.endStep i cell p pc
      | .close r pc => s.rooms[r]?.bind fun cell => s.closeStep i r cell pc
  | .sweep i p =>
    match s.calls[i]? with
    | some (.close r (.sweep todo)) =>
      if p ∈ todo then
        some ((s.emit [.totalDec p, .participantLeft p] (-1)).setCall i
          (.close r (.sweep (todo.erase p))))
      else none
    | _ => none

/-! ## What a step can do -/

/-- **A step of a call that changes no room**: from which to which point of its program, with the
events it records and the change of the gauge. -/
inductive Quiet (s : Rooms) : RoomCall → RoomCall → List RoomEvent → Int → Prop
  /-- `join_room` goes on to read `ever_joined`. -/
  | toLoad {p present pc} (hpc : pc = .lookup ∨ ∃ call, pc = .evicting call) :
      Quiet s (.joinRoom p present pc) (.joinRoom p present .load) [] 0
  /-- It enters `Room::join`. -/
  | toJoin {p present firstJoin} :
      Quiet s (.joinRoom p present .load) (.joinRoom p present (.closedCheck firstJoin)) [] 0
  /-- The room is closed or full, or has the identity. -/
  | refuse {p present pc} (hpc : pc.checking) :
      Quiet s (.joinRoom p present pc) (.joinRoom p present (.done false)) [] 0
  /-- The room is open; `is_full` is for a participant that is not dependent. -/
  | passClosed {p present cell firstJoin pc} (hcell : s.rooms[p.room]? = some cell)
      (hopen : cell.room.closed = false)
      (hpc : pc = if p.kind.isDependent then .insert firstJoin else .fullCheck firstJoin) :
      Quiet s (.joinRoom p present (.closedCheck firstJoin)) (.joinRoom p present pc) [] 0
  /-- The room is not full. -/
  | passFull {p present cell firstJoin} (hcell : s.rooms[p.room]? = some cell)
      (hfree : cell.room.isFull = false) :
      Quiet s (.joinRoom p present (.fullCheck firstJoin)) (.joinRoom p present (.insert firstJoin))
        [] 0
  /-- `room_started`, for a first join. -/
  | started {p present firstJoin} :
      Quiet s (.joinRoom p present (.started firstJoin)) (.joinRoom p present .notify)
        (if firstJoin then [.roomStarted p.room] else []) 0
  /-- The gauge and `participant_joined`. -/
  | joined {p present} :
      Quiet s (.joinRoom p present .notify) (.joinRoom p present (.done true))
        [.totalInc p, .participantJoined p] 1
  /-- The participant is gone. -/
  | gone {p} : Quiet s (.endParticipant p .check) (.endParticipant p .done) [] 0
  /-- The participant is in its room. -/
  | found {p cell} (hcell : s.rooms[p.room]? = some cell) (hin : p.sid ∈ cell.room.participants) :
      Quiet s (.endParticipant p .check) (.endParticipant p .remove) [] 0
  /-- The room was closed before. -/
  | closedBefore {r} : Quiet s (.close r .swap) (.close r .returned) [] 0
  /-- `room_finished`. -/
  | finish {r} : Quiet s (.close r .finish) (.close r .finished) [.roomFinished r] 0

/-- **A step in which a participant leaves**: the call, before and after. -/
inductive Departs (p : Participant) : RoomCall → RoomCall → Prop
  /-- At the end of `end_participant`. -/
  | ended : Departs p (.endParticipant p .notify) (.endParticipant p .done)
  /-- In the loop of `Room::close`. -/
  | swept {r todo} (hp : p ∈ todo) :
      Departs p (.close r (.sweep todo)) (.close r (.sweep (todo.erase p)))

/-- **What a step can do.** -/
inductive Move (s : Rooms) : RoomAction → Rooms → Prop
  | newRoom (maxParticipants : Nat) :
      Move s (.newRoom maxParticipants)
        { s with rooms := s.rooms ++ [⟨.new maxParticipants, false⟩] }
  | joinRoom {p cell} (hcell : s.rooms[p.room]? = some cell)
      (hfresh : ∀ c ∈ s.calls, c.joinSid ≠ some p.sid) :
      Move s (.joinRoom p) (s.push (.joinRoom p
        (cell.room.values.filter fun q => q.identity = p.identity) .lookup))
  | endParticipant {p} (hadm : .admitted p ∈ s.log) :
      Move s (.endParticipant p) (s.push (.endParticipant p .check))
  | close {r} (hr : r < s.rooms.length) : Move s (.close r) (s.push (.close r .swap))
  | quiet {i c c' events d} (hi : s.calls[i]? = some c) (hq : Quiet s c c' events d) :
      Move s (.next i) ((s.emit events d).setCall i c')
  | evict {i p present cell q} (hi : s.calls[i]? = some (.joinRoom p present .lookup))
      (hcell : s.rooms[p.room]? = some cell)
      (hq : cell.room.getParticipantByIdentity p.identity = some q) :
      Move s (.next i) ((s.setCall i (.joinRoom p present (.evicting s.calls.length))).push
        (.endParticipant q .check))
  | insert {i p present cell firstJoin}
      (hi : s.calls[i]? = some (.joinRoom p present (.insert firstJoin)))
      (hcell : s.rooms[p.room]? = some cell)
      (hfree : cell.room.hasIdentity p.identity = false) :
      Move s (.next i)
        (((s.setRoom p.room { cell with room := cell.room.addParticipant p }).emit
          [.admitted p] 0).setCall i (.joinRoom p present (.started firstJoin)))
  | remove {i p cell} (hi : s.calls[i]? = some (.endParticipant p .remove))
      (hcell : s.rooms[p.room]? = some cell) :
      Move s (.next i)
        ((s.setRoom p.room { cell with room := cell.room.removeParticipant p.sid }).setCall i
          (.endParticipant p .notify))
  | depart {a i p c c'} (hi : s.calls[i]? = some c) (hd : Departs p c c') :
      Move s a ((s.emit [.totalDec p, .participantLeft p] (-1)).setCall i c')
  | swap {i r cell} (hi : s.calls[i]? = some (.close r .swap)) (hcell : s.rooms[r]? = some cell)
      (hopen : cell.room.closed = false) :
      Move s (.next i)
        ((s.setRoom r { cell with room := { cell.room with closed := true } }).setCall i
          (.close r .snapshot))
  | snapshot {i r cell} (hi : s.calls[i]? = some (.close r .snapshot))
      (hcell : s.rooms[r]? = some cell) :
      Move s (.next i)
        ((s.setRoom r { cell with swept := true }).setCall i (.close r (.sweep cell.room.values)))
  | clear {i r cell} (hi : s.calls[i]? = some (.close r (.sweep [])))
      (hcell : s.rooms[r]? = some cell) :
      Move s (.next i)
        ((s.setRoom r { cell with room := cell.room.clear }).setCall i (.close r .finish))

variable {s s' : Rooms} {i r : Nat} {cell : RoomCell} {p : Participant} {a : RoomAction}

theorem Move.silent {c c' : RoomCall} (hi : s.calls[i]? = some c) (hq : Quiet s c c' [] 0) :
    Move s (.next i) (s.setCall i c') := by
  have hmove := Move.quiet hi hq
  simpa [emit] using hmove

/-- **Every step of `join_room`** is a move. -/
theorem move_of_joinStep {present : List Participant} {pc : JoinPc}
    (hi : s.calls[i]? = some (.joinRoom p present pc)) (hcell : s.rooms[p.room]? = some cell)
    (h : s.joinStep i cell p present pc = some s') :
    Move s (.next i) s' := by
  revert h
  fun_cases joinStep s i cell p present pc <;> rintro ⟨⟩
  · exact .silent hi (.toLoad (.inl rfl))
  · next hq => exact .evict hi hcell hq
  · next call _ _ => exact .silent hi (.toLoad (.inr ⟨call, rfl⟩))
  · exact .silent hi .toJoin
  · exact .silent hi (.refuse rfl)
  · next hclosed hdep =>
    exact .silent hi (.passClosed hcell (by simpa using hclosed) (by rw [if_pos hdep]))
  · next hclosed hdep =>
    exact .silent hi (.passClosed hcell (by simpa using hclosed) (by rw [if_neg hdep]))
  · exact .silent hi (.refuse rfl)
  · next hfull => exact .silent hi (.passFull hcell (by simpa using hfull))
  · exact .silent hi (.refuse rfl)
  · next hid => exact .insert hi hcell (by simpa using hid)
  · exact .quiet hi .started
  · exact .quiet hi .joined

/-- **A step does nothing else.** -/
theorem move_of_step (h : s.step a = some s') : Move s a s' := by
  cases a with
  | newRoom maxParticipants =>
    cases h
    exact .newRoom maxParticipants
  | joinRoom p =>
    obtain ⟨cell, hcell, h⟩ := bind_eq_some_iff.mp h
    obtain ⟨hfresh, ⟨⟩⟩ := ite_none_right_eq_some.mp h
    exact .joinRoom hcell hfresh
  | endParticipant p =>
    obtain ⟨hadm, ⟨⟩⟩ := ite_none_right_eq_some.mp h
    exact .endParticipant hadm
  | close r =>
    obtain ⟨hr, ⟨⟩⟩ := ite_none_right_eq_some.mp h
    exact .close hr
  | next i =>
    obtain ⟨c, hi, h⟩ := bind_eq_some_iff.mp h
    cases c with
    | joinRoom p present pc =>
      obtain ⟨cell, hcell, h⟩ := bind_eq_some_iff.mp h
      exact move_of_joinStep hi hcell h
    | endParticipant p pc =>
      obtain ⟨cell, hcell, h⟩ := bind_eq_some_iff.mp h
      change s.endStep i cell p pc = some s' at h
      revert h
      fun_cases endStep s i cell p pc <;> rintro ⟨⟩
      case case2 hin _ =>
        rw [isNone_iff_eq_none, Room.getParticipant, AList.lookup_eq_none, not_not] at hin
        exact .silent hi (.found hcell hin)
      · exact .silent hi .gone
      · exact .remove hi hcell
      · exact .depart hi .ended
    | close r pc =>
      obtain ⟨cell, hcell, h⟩ := bind_eq_some_iff.mp h
      change s.closeStep i r cell pc = some s' at h
      revert h
      fun_cases closeStep s i r cell pc <;> rintro ⟨⟩
      case case2 hopen _ => exact .swap hi hcell (by simpa using hopen)
      · exact .silent hi .closedBefore
      · exact .snapshot hi hcell
      · exact .clear hi hcell
      · exact .quiet hi .finish
  | sweep i p =>
    rw [step] at h
    split at h
    · rename_i r todo hi
      obtain ⟨hp, ⟨⟩⟩ := ite_none_right_eq_some.mp h
      exact .depart hi (.swept hp)
    · cases h

/-! ## What a step leaves alone -/

/-- **How a step from `s` to `s'` can change one room**, and which call makes the change. -/
inductive CellChange (s s' : Rooms) (a : RoomAction) (r : Nat) (cell : RoomCell) :
    RoomCell → Prop
  | same : CellChange s s' a r cell cell
  | added {i : Nat} {p present firstJoin}
      (hi : s.calls[i]? = some (.joinRoom p present (.insert firstJoin)))
      (hi' : s'.calls[i]? = some (.joinRoom p present (.started firstJoin))) (hr : p.room = r)
      (hfree : cell.room.hasIdentity p.identity = false) (hadm : .admitted p ∈ s'.log) :
      CellChange s s' a r cell { cell with room := cell.room.addParticipant p }
  | removed {i : Nat} {p} (hi : s.calls[i]? = some (.endParticipant p .remove))
      (hi' : s'.calls[i]? = some (.endParticipant p .notify)) (hr : p.room = r) :
      CellChange s s' a r cell { cell with room := cell.room.removeParticipant p.sid }
  | closed : CellChange s s' a r cell { cell with room := { cell.room with closed := true } }
  | swept {i : Nat} (ha : a = .next i) (hi : s.calls[i]? = some (.close r .snapshot))
      (hi' : s'.calls[i]? = some (.close r (.sweep cell.room.values))) :
      CellChange s s' a r cell { cell with swept := true }
  | cleared {i : Nat} (hi : s.calls[i]? = some (.close r (.sweep []))) :
      CellChange s s' a r cell { cell with room := cell.room.clear }

theorem cellChange_of_setRoom {k : Nat} {new cell' : RoomCell} (hcell : s.rooms[k]? = some cell)
    (hnew : CellChange s s' a k cell new) (h : (s.rooms.set k new)[r]? = some cell') :
    ∃ old, s.rooms[r]? = some old ∧ CellChange s s' a r old cell' := by
  rcases (getElem?_set_eq_some hcell).mp h with ⟨rfl, rfl⟩ | ⟨-, h⟩
  · exact ⟨cell, hcell, hnew⟩
  · exact ⟨cell', h, .same⟩

/-- **A room after a step** is a new one, or one there was with one of these changes. -/
theorem cell_of_move {cell' : RoomCell} (hm : Move s a s') (h : s'.rooms[r]? = some cell') :
    (s.rooms[r]? = none ∧ ∃ maxParticipants, cell' = ⟨.new maxParticipants, false⟩) ∨
      ∃ cell, s.rooms[r]? = some cell ∧ CellChange s s' a r cell cell' := by
  cases hm with
  | newRoom maxParticipants =>
    rcases getElem?_concat_eq_some.mp h with h | ⟨rfl, rfl⟩
    · exact .inr ⟨cell', h, .same⟩
    · exact .inl ⟨by simp, maxParticipants, rfl⟩
  | joinRoom | endParticipant | close | quiet | evict | depart =>
    exact .inr ⟨cell', h, .same⟩
  | insert hi hcell hfree =>
    refine .inr (cellChange_of_setRoom hcell (.added hi ?_ rfl hfree ?_) h)
    · exact getElem?_set_stepped hi
    · exact List.mem_append_right _ List.mem_cons_self
  | remove hi hcell =>
    refine .inr (cellChange_of_setRoom hcell (.removed hi ?_ rfl) h)
    exact getElem?_set_stepped hi
  | swap _ hcell => exact .inr (cellChange_of_setRoom hcell .closed h)
  | snapshot hi hcell =>
    refine .inr (cellChange_of_setRoom hcell (.swept rfl hi ?_) h)
    exact getElem?_set_stepped hi
  | clear hi hcell => exact .inr (cellChange_of_setRoom hcell (.cleared hi) h)

theorem length_rooms_of_move (hm : Move s a s') : s.rooms.length ≤ s'.rooms.length := by
  cases hm with
  | newRoom => simp
  | joinRoom | endParticipant | close | quiet | evict | depart => exact Nat.le_refl _
  | _ => simp [setRoom, setCall, emit]

/-- **A room there was**, after a step. -/
theorem cellChange_of_move (hm : Move s a s') (h : s.rooms[r]? = some cell) :
    ∃ cell', s'.rooms[r]? = some cell' ∧ CellChange s s' a r cell cell' := by
  have hlt := (List.getElem?_eq_some_iff.mp h).1.trans_le (length_rooms_of_move hm)
  have hcell' : s'.rooms[r]? = some s'.rooms[r] := List.getElem?_eq_getElem hlt
  refine ⟨_, hcell', ?_⟩
  rcases cell_of_move hm hcell' with ⟨hnone, -⟩ | ⟨old, hold, hchange⟩
  · simp [h] at hnone
  · obtain rfl : cell = old := some.inj (h.symm.trans hold)
    exact hchange

theorem mem_log_of_move {e : RoomEvent} (hm : Move s a s') (he : e ∈ s.log) : e ∈ s'.log := by
  cases hm with
  | newRoom | joinRoom | endParticipant | close | evict | remove | swap | snapshot | clear =>
    exact he
  | _ => exact List.mem_append_left _ he

theorem Quiet.not_admitted {c c' : RoomCall} {events : List RoomEvent} {d : Int}
    (hq : Quiet s c c' events d) : .admitted p ∉ events := by
  cases hq with
  | started => split <;> simp
  | _ => simp

/-- **A participant is admitted** by the insertion of its own `join_room`, and nowhere else. -/
theorem admitted_of_move (hm : Move s a s') (h : .admitted p ∈ s'.log) : .admitted p ∈ s.log ∨
      ∃ (i : Nat) (present : List Participant) (firstJoin : Bool),
        s.calls[i]? = some (.joinRoom p present (.insert firstJoin)) ∧
          s'.calls[i]? = some (.joinRoom p present (.started firstJoin)) := by
  cases hm with
  | newRoom | joinRoom | endParticipant | close | evict | remove | swap | snapshot | clear =>
    exact .inl h
  | quiet _ hq =>
    rcases List.mem_append.mp h with h | h
    · exact .inl h
    · exact absurd h hq.not_admitted
  | depart => exact .inl (by simpa [setCall, emit] using h)
  | @insert i q present cell firstJoin hi hcell hfree =>
    rcases List.mem_append.mp h with h | h
    · exact .inl h
    · obtain rfl : p = q := by simpa using h
      refine .inr ⟨i, present, firstJoin, hi, ?_⟩
      exact getElem?_set_stepped hi

theorem Quiet.follows {c c' : RoomCall} {events : List RoomEvent} {d : Int}
    (hq : Quiet s c c' events d) : c.Follows c' := by
  cases hq with
  | toLoad hpc =>
    refine ⟨.load, rfl, fun hadm => ?_⟩
    rcases hpc with rfl | ⟨call, rfl⟩ <;> cases hadm
  | toJoin | passClosed | passFull => exact ⟨_, rfl, nofun⟩
  | refuse hpc =>
    refine ⟨_, rfl, fun hadm => ?_⟩
    simp [JoinPc.not_admitted_of_checking hpc] at hadm
  | started | joined | finish => exact ⟨_, rfl, fun _ => rfl⟩
  | gone | found => exact ⟨_, rfl⟩
  | closedBefore => exact ⟨_, rfl, nofun⟩

theorem Departs.follows {c c' : RoomCall} (hd : Departs p c c') : c.Follows c' := by
  cases hd with
  | ended => exact ⟨_, rfl⟩
  | swept => exact ⟨_, rfl, id⟩

/-- **How a step changes the pool of calls.** -/
inductive CallsChange (calls : List RoomCall) : List RoomCall → Prop
  | same : CallsChange calls calls
  /-- A call begins; a `join_room` has a sid of its own. -/
  | begun {c} (hfresh : ∀ sid, c.joinSid = some sid → ∀ x ∈ calls, x.joinSid ≠ some sid) :
      CallsChange calls (calls ++ [c])
  /-- A call goes on. -/
  | advanced {i : Nat} {c c'} (hi : calls[i]? = some c) (hfol : c.Follows c') :
      CallsChange calls (calls.set i c')
  /-- A call goes on to wait for an `end_participant`, which begins. -/
  | waiting {i : Nat} {c c' q} (hi : calls[i]? = some c) (hfol : c.Follows c') :
      CallsChange calls (calls.set i c' ++ [.endParticipant q .check])

/-- **The pool after a step.** -/
theorem callsChange_of_move (hm : Move s a s') : CallsChange s.calls s'.calls := by
  cases hm with
  | newRoom => exact .same
  | joinRoom _ hfresh =>
    refine .begun fun sid hsid => ?_
    cases hsid
    exact hfresh
  | endParticipant | close => exact .begun nofun
  | quiet hi hq => exact .advanced hi hq.follows
  | evict hi => exact .waiting hi ⟨_, rfl, nofun⟩
  | depart hi hd => exact .advanced hi hd.follows
  | remove hi => exact .advanced hi ⟨_, rfl⟩
  | swap hi => exact .advanced hi ⟨_, rfl, nofun⟩
  | insert hi | snapshot hi | clear hi => exact .advanced hi ⟨_, rfl, fun _ => rfl⟩

theorem follows_set {l : List RoomCall} {j : Nat} {c x x' : RoomCall} (hj : l[j]? = some x)
    (hfol : x.Follows x') (hi : l[i]? = some c) :
    ∃ c', (l.set j x')[i]? = some c' ∧ c.Follows c' := by
  by_cases hij : i = j
  · subst hij
    obtain rfl : c = x := some.inj (hi.symm.trans hj)
    exact ⟨x', getElem?_set_stepped hj, hfol⟩
  · exact ⟨c, getElem?_set_other hj hij hi, .refl c⟩

/-- **Every call there was is still there.** -/
theorem CallsChange.follows {calls calls' : List RoomCall} {c : RoomCall}
    (h : CallsChange calls calls') (hi : calls[i]? = some c) :
    ∃ c', calls'[i]? = some c' ∧ c.Follows c' := by
  cases h with
  | same => exact ⟨c, hi, .refl c⟩
  | begun => exact ⟨c, getElem?_concat_old hi, .refl c⟩
  | advanced hj hfol => exact follows_set hj hfol hi
  | waiting hj hfol =>
    obtain ⟨c', hi', hc'⟩ := follows_set hj hfol hi
    exact ⟨c', getElem?_concat_old hi', hc'⟩

theorem follows_of_move {c : RoomCall} (hm : Move s a s') (hi : s.calls[i]? = some c) :
    ∃ c', s'.calls[i]? = some c' ∧ c.Follows c' :=
  (callsChange_of_move hm).follows hi

theorem distinct_joinSid_set {l : List RoomCall} {c c' : RoomCall} (h : Distinct RoomCall.joinSid l)
    (hi : l[i]? = some c) (hfol : c.Follows c') :
    Distinct RoomCall.joinSid (l.set i c') :=
  h.set_of_le hi fun _ hsid => hfol.joinSid_eq ▸ hsid

/-! ## What every run keeps -/

/-- **How maps, calls and record hang together**, with no condition on the schedule. -/
structure Registered (s : Rooms) : Prop where
  /-- No two `join_room` calls have the same sid. -/
  sids : Distinct RoomCall.joinSid s.calls
  /-- An admitted participant was admitted by a `join_room`. -/
  admitted : ∀ p, .admitted p ∈ s.log → ∃ (i : Nat) (present : List Participant) (pc : JoinPc),
    s.calls[i]? = some (.joinRoom p present pc) ∧ pc.admitted
  /-- An entry of a room's map is an admitted participant of that room, under its sid. -/
  entries : ∀ (r : Nat) (cell : RoomCell), s.rooms[r]? = some cell →
    ∀ e ∈ cell.room.participants.entries, e.1 = e.2.sid ∧ e.2.room = r ∧ .admitted e.2 ∈ s.log
  /-- No two entries of a map have the same identity. -/
  identities : ∀ (r : Nat) (cell : RoomCell), s.rooms[r]? = some cell →
    (cell.room.values.map Participant.identity).Nodup

theorem registered_init : Registered init where
  sids := distinct_nil _
  admitted := fun p hp => by simp [init] at hp
  entries := fun r cell hcell => by simp [init] at hcell
  identities := fun r cell hcell => by simp [init] at hcell

namespace Registered

variable (hs : Registered s)
include hs

/-- **A sid names one participant.** -/
theorem eq_of_sid {q : Participant} (hp : .admitted p ∈ s.log)
    (hq : .admitted q ∈ s.log) (h : p.sid = q.sid) : p = q := by
  obtain ⟨i, present, pc, hi, -⟩ := hs.admitted p hp
  obtain ⟨j, present', pc', hj, -⟩ := hs.admitted q hq
  -- two joins with one sid are one call
  obtain rfl : i = j := hs.sids i j _ _ p.sid hi hj rfl (by rw [h]; rfl)
  rw [hi] at hj
  cases hj
  rfl

theorem sid_ne_of_insert {q : Participant} {present : List Participant} {firstJoin : Bool}
    (hi : s.calls[i]? = some (.joinRoom p present (.insert firstJoin))) (hq : .admitted q ∈ s.log) :
    q.sid ≠ p.sid := by
  intro h
  obtain ⟨j, present', pc', hj, hadm⟩ := hs.admitted q hq
  -- the call that admitted `q` would be this one, which has admitted nobody yet
  obtain rfl : i = j := hs.sids i j _ _ p.sid hi hj rfl (by rw [← h]; rfl)
  rw [hi] at hj
  cases hj
  cases hadm

theorem exists_of_mem (hcell : s.rooms[r]? = some cell)
    {sid : ParticipantSid} (h : sid ∈ cell.room.participants) :
    ∃ p ∈ cell.room.values, p.sid = sid ∧ p.room = r ∧ .admitted p ∈ s.log := by
  obtain ⟨p, hp⟩ := isSome_iff_exists.mp (AList.lookup_isSome.mpr h)
  rw [← mem_def, AList.mem_lookup_iff] at hp
  obtain ⟨hkey, hroom, hadm⟩ := hs.entries r cell hcell _ hp
  exact ⟨p, Room.mem_values.mpr ⟨sid, hp⟩, hkey.symm, hroom, hadm⟩

/-- **One step** keeps it. -/
theorem move (hm : Move s a s') : Registered s' where
  sids := by
    have hchange := callsChange_of_move hm
    have hsids := hs.sids
    generalize s.calls = calls, s'.calls = calls' at hchange hsids ⊢
    cases hchange with
    | same => exact hsids
    | begun hfresh => exact hsids.concat hfresh
    | advanced hi hfol => exact distinct_joinSid_set hsids hi hfol
    | waiting hi hfol => exact (distinct_joinSid_set hsids hi hfol).concat nofun
  admitted := fun p hp => by
    rcases admitted_of_move hm hp with hp | ⟨i, present, firstJoin, -, hi⟩
    -- admitted before: the call is still there, and still past its insertion
    · obtain ⟨i, present, pc, hi, hadm⟩ := hs.admitted p hp
      obtain ⟨c', hi', pc', rfl, hadm'⟩ := follows_of_move hm hi
      exact ⟨i, present, pc', hi', hadm' hadm⟩
    · exact ⟨i, present, _, hi, rfl⟩
  entries := fun r cell' hcell' e he => by
    -- an entry that was there before is still as it was
    have hkeep : ∀ cell : RoomCell, s.rooms[r]? = some cell →
        e ∈ cell.room.participants.entries →
          e.1 = e.2.sid ∧ e.2.room = r ∧ .admitted e.2 ∈ s'.log := fun cell hcell he => by
      obtain ⟨hkey, hroom, hadm⟩ := hs.entries r cell hcell e he
      exact ⟨hkey, hroom, mem_log_of_move hm hadm⟩
    rcases cell_of_move hm hcell' with ⟨-, m, rfl⟩ | ⟨cell, hcell, hchange⟩
    · simp [Room.new] at he
    cases hchange with
    | same | closed | swept => exact hkeep _ hcell he
    | removed => exact hkeep cell hcell (Room.mem_entries_removeParticipant he)
    | cleared => simp [Room.clear] at he
    | added _ _ hr _ hadm =>
      rcases Room.mem_entries_addParticipant he with rfl | he
      · exact ⟨rfl, hr, hadm⟩
      · exact hkeep cell hcell he
  identities := fun r cell' hcell' => by
    rcases cell_of_move hm hcell' with ⟨-, m, rfl⟩ | ⟨cell, hcell, hchange⟩
    · simp [Room.new, Room.values]
    have hnodup := hs.identities r cell hcell
    cases hchange with
    | same | closed | swept => exact hnodup
    | removed => exact Room.nodup_identities_removeParticipant hnodup
    | cleared => simp [Room.clear, Room.values]
    | added _ _ _ hfree => exact Room.nodup_identities_addParticipant hnodup hfree

end Registered

end Rooms
end LivekitVoice
