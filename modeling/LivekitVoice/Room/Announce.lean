import LivekitVoice.Room.Basic

/-! # Announcing a disconnect

The server ends a connected participant in three ways: `Room::close` (deletion or timeout), the
`RemoveParticipant` request, and `join_room` for a participant of the same identity. Each of them
drops the sender of the participant's outbound channel (`clear_signal_sink`), and a message can be
put on the channel only before that.

* **`announces_iff`** — whoever is ended gets a `Leave` only on the duplicate-identity path. -/

namespace LivekitVoice

/-! ## Connections -/

/-- `lk.DisconnectReason`. -/
inductive DisconnectReason
  | unknownReason
  | clientInitiated
  | duplicateIdentity
  | serverShutdown
  | participantRemoved
  | roomDeleted
  | stateMismatch
  | joinFailure
  | migration
  | signalClose
  | roomClosed
  | userUnavailable
  | userRejected
  | sipTrunkFailure
  | connectionTimeout
  | mediaFailure
  | agentError
  deriving DecidableEq

/-- `ParticipantState`, in the order in which the states follow each other. -/
inductive ParticipantState
  | joining
  | joined
  | active
  | disconnected
  deriving DecidableEq

/-- A message to a client: a `Leave`, or any other. -/
inductive SignalResponse
  | leave (reason : DisconnectReason)
  | other
  deriving DecidableEq

/-- What happens to the outbound channel of a participant. -/
inductive SinkEffect
  /-- A message is put on it. -/
  | put (message : SignalResponse)
  /-- The participant's sender is dropped. -/
  | dropped
  deriving DecidableEq

/-- `SIGNAL_CHANNEL_CAPACITY`. -/
def signalChannelCapacity : Nat := 4096

/-- **The signal side of a participant.** -/
structure Connection where
  state : ParticipantState
  /-- `disconnected_reason`, once it is set. -/
  disconnectedReason : Option DisconnectReason
  /-- The sender `tx` of the outbound channel, with the messages that wait in the channel. -/
  tx : Option (List SignalResponse)
  /-- The websocket task still holds the receiver. -/
  receiving : Bool
  /-- What has happened to the channel, in order. -/
  effects : List SinkEffect

namespace Connection

variable (c : Connection)

/-- `set_state(Disconnected)`: no state follows it. -/
def setDisconnected : Connection := { c with state := .disconnected }

/-- `clear_signal_sink`. -/
def clearSignalSink : Connection :=
  match c.tx with
  | none => c
  | some _ => { c with tx := none, effects := c.effects ++ [.dropped] }

/-- The message is in the channel. -/
def put (queue : List SignalResponse) (message : SignalResponse) : Connection :=
  { c with tx := some (queue ++ [message]), effects := c.effects ++ [.put message] }

/-- `send`, which waits for room in the channel. -/
def send (message : SignalResponse) : Connection :=
  match c.tx with
  | some queue => if c.receiving then c.put queue message else c
  | none => c

/-- `send_update`, which gives up if the channel is full. -/
def sendUpdate (message : SignalResponse) : Connection :=
  match c.tx with
  | some queue =>
    if c.receiving ∧ queue.length < signalChannelCapacity then c.put queue message else c
  | none => c

/-- `close_signal`. -/
def closeSignal (reason : DisconnectReason) : Connection :=
  let sent := c.sendUpdate (.leave reason)
  if sent.state = .disconnected then sent
  else { sent.setDisconnected with disconnectedReason := some reason }

/-- The part of `end_participant` that concerns the connection. -/
def endParticipant (reason : DisconnectReason) : Connection :=
  clearSignalSink { c.setDisconnected with disconnectedReason := some reason }

/-- The body of the loop of `Room::close`. -/
def closeBody (reason : DisconnectReason) : Connection :=
  (clearSignalSink { c.setDisconnected with disconnectedReason := some reason }).send
    (.leave reason)

/-- Connected, with room in the channel. -/
def Reachable : Prop :=
  ∃ queue, c.tx = some queue ∧ c.receiving ∧ queue.length < signalChannelCapacity

end Connection

/-! ## Rooms -/

/-- A room with the connections of its participants. -/
structure SignalRoom where
  room : Room
  /-- The connection of a participant, by its sid. -/
  conn : ParticipantSid → Connection

/-- **How the server ends participants.** -/
inductive ServerEnd
  /-- `Room::close`: `ROOM_DELETED` for a deletion, `ROOM_CLOSED` for a timeout. -/
  | close (reason : DisconnectReason)
  /-- `RoomService.RemoveParticipant`. -/
  | removeParticipant (identity : Identity)
  /-- `join_room` finds a participant of the same identity. -/
  | duplicateIdentity (identity : Identity)

/-- The reason given. -/
def ServerEnd.reason : ServerEnd → DisconnectReason
  | .close reason => reason
  | .removeParticipant _ => .participantRemoved
  | .duplicateIdentity _ => .duplicateIdentity

namespace SignalRoom

variable (s : SignalRoom)

/-- The connection of a participant changes. -/
def modify (sid : ParticipantSid) (f : Connection → Connection) : SignalRoom :=
  { s with conn := Function.update s.conn sid (f (s.conn sid)) }

/-- `close_signal`. -/
def closeSignal (p : Participant) (reason : DisconnectReason) : SignalRoom :=
  s.modify p.sid fun c => c.closeSignal reason

/-- `end_participant`. -/
def endParticipant (p : Participant) (reason : DisconnectReason) : SignalRoom :=
  if (s.room.getParticipant p.sid).isNone then s
  else
    let ended := s.modify p.sid fun c => c.endParticipant reason
    { ended with room := s.room.removeParticipant p.sid }

/-- The loop of `Room::close`. -/
def closeLoop (reason : DisconnectReason) (participants : List Participant) :
    SignalRoom :=
  participants.foldl (fun s p => s.modify p.sid fun c => c.closeBody reason) s

/-- `Room::close`. -/
def close (reason : DisconnectReason) : SignalRoom :=
  if s.room.closed then s
  else
    let swept := s.closeLoop reason s.room.values
    { swept with room := { s.room.clear with closed := true } }

/-- **What the server does.** -/
def serverEnd : ServerEnd → SignalRoom
  | .close reason => s.close reason
  | .removeParticipant identity =>
    match s.room.getParticipantByIdentity identity with
    | none => s
    | some p => s.endParticipant p .participantRemoved
  | .duplicateIdentity identity =>
    match s.room.getParticipantByIdentity identity with
    | none => s
    | some p => (s.closeSignal p .duplicateIdentity).endParticipant p .duplicateIdentity

/-- Whom it ends. -/
def ends : ServerEnd → List Participant
  | .close _ => if s.room.closed then [] else s.room.values
  | .removeParticipant identity | .duplicateIdentity identity =>
    (s.room.getParticipantByIdentity identity).toList

end SignalRoom

/-- **Announced**: in what has happened to the channel since, a `Leave` with the reason was put
before the sender was dropped. -/
def Announced (reason : DisconnectReason) (c c' : Connection) : Prop :=
  ∃ before after, c'.effects = c.effects ++ (before ++ .put (.leave reason) :: after) ∧
    .dropped ∉ before

/-- **The law**: whomever the server ends is told so, if it is connected and its channel has
room. -/
def SignalRoom.Announces (s : SignalRoom) (e : ServerEnd) : Prop :=
  ∀ p ∈ s.ends e, (s.conn p.sid).Reachable →
    Announced e.reason (s.conn p.sid) ((s.serverEnd e).conn p.sid)

/-! ## One connection -/

namespace Connection

/-- Since `c`, nothing has happened to the channel but drops of the sender. -/
def OnlyDropped (c c' : Connection) : Prop :=
  ∃ effects, c'.effects = c.effects ++ effects ∧ ∀ e ∈ effects, e = .dropped

variable (c : Connection)

theorem OnlyDropped.refl : OnlyDropped c c :=
  ⟨[], (List.append_nil _).symm, fun _ he => absurd he List.not_mem_nil⟩

theorem OnlyDropped.trans {c c' c'' : Connection} (h : OnlyDropped c c')
    (h' : OnlyDropped c' c'') : OnlyDropped c c'' := by
  obtain ⟨effects, heff, hdropped⟩ := h
  obtain ⟨effects', heff', hdropped'⟩ := h'
  refine ⟨effects ++ effects', by rw [heff', heff, List.append_assoc], fun e he => ?_⟩
  rcases List.mem_append.mp he with he | he
  · exact hdropped e he
  · exact hdropped' e he

/-- **That is no announcement.** -/
theorem OnlyDropped.not_announced {c c' : Connection} (h : OnlyDropped c c')
    (reason : DisconnectReason) : ¬ Announced reason c c' := by
  rintro ⟨before, after, heff, -⟩
  obtain ⟨effects, heff', hdropped⟩ := h
  rw [heff'] at heff
  have hmem : .put (.leave reason) ∈ effects := by
    rw [List.append_cancel_left heff]
    simp
  cases hdropped _ hmem

/-- **`end_participant`** drops the sender and puts no message. -/
theorem endParticipant_onlyDropped (reason : DisconnectReason) :
    OnlyDropped c (c.endParticipant reason) := by
  rw [endParticipant, clearSignalSink]
  split
  · exact .refl c
  · exact ⟨[.dropped], rfl, fun e he => List.mem_singleton.mp he⟩

theorem endParticipant_tx (reason : DisconnectReason) : (c.endParticipant reason).tx = none := by
  rw [endParticipant, clearSignalSink]
  split
  · assumption
  · rfl

/-- **In the loop of `Room::close`** the `Leave` comes too late: the sender has been dropped. -/
theorem closeBody_eq (reason : DisconnectReason) :
    c.closeBody reason = c.endParticipant reason := by
  -- `send` finds no sender
  have hnone := c.endParticipant_tx reason
  have hsend : (c.endParticipant reason).send (.leave reason) = c.endParticipant reason := by
    rw [send, hnone]
  exact hsend

end Connection

namespace SignalRoom

variable (s : SignalRoom)

theorem conn_modify_self (sid : ParticipantSid) (f : Connection → Connection) :
    (s.modify sid f).conn sid = f (s.conn sid) := Function.update_self ..

theorem conn_endParticipant (p : Participant) (reason : DisconnectReason) :
    (s.conn p.sid).OnlyDropped ((s.endParticipant p reason).conn p.sid) := by
  rw [endParticipant]
  split
  · exact .refl _
  · rw [conn_modify_self]
    exact (s.conn p.sid).endParticipant_onlyDropped reason

/-- **The loop of `Room::close`** puts no message on a channel. -/
theorem conn_closeLoop (reason : DisconnectReason)
    (participants : List Participant) (sid : ParticipantSid) :
    (s.conn sid).OnlyDropped ((s.closeLoop reason participants).conn sid) := by
  induction participants generalizing s with
  | nil => exact .refl _
  | cons p participants ih =>
    refine .trans ?_ (ih (s.modify p.sid fun c => c.closeBody reason))
    by_cases hsid : sid = p.sid
    · subst hsid
      rw [conn_modify_self, Connection.closeBody_eq]
      exact (s.conn p.sid).endParticipant_onlyDropped reason
    · rw [show (s.modify p.sid _).conn sid = s.conn sid from Function.update_of_ne hsid ..]
      exact .refl _

/-- **The duplicate-identity path** announces. -/
theorem announces_duplicateIdentity (identity : Identity) :
    s.Announces (.duplicateIdentity identity) := by
  intro p hp hreach
  have hp : s.room.getParticipantByIdentity identity = some p := by simpa [ends] using hp
  obtain ⟨dropped, heff, -⟩ :=
    (s.closeSignal p .duplicateIdentity).conn_endParticipant p .duplicateIdentity
  refine ⟨[], dropped, ?_, List.not_mem_nil⟩
  rw [serverEnd, hp]
  refine heff.trans ?_
  -- `close_signal` puts the `Leave`, as the channel has room
  obtain ⟨queue, htx, hrec, hroom⟩ := hreach
  have hsent : (s.conn p.sid).sendUpdate (.leave .duplicateIdentity) =
      (s.conn p.sid).put queue (.leave .duplicateIdentity) := by
    rw [Connection.sendUpdate, htx]
    exact if_pos ⟨hrec, hroom⟩
  rw [closeSignal, conn_modify_self, Connection.closeSignal, hsent]
  split <;> exact List.append_assoc ..

/-- **Who is told.** A server-initiated end announces itself to everybody it ends exactly on the
duplicate-identity path, or if nobody it ends is connected with room in its channel. -/
theorem announces_iff (e : ServerEnd) :
    s.Announces e ↔
      (∃ identity, e = .duplicateIdentity identity) ∨
        ∀ p ∈ s.ends e, ¬ (s.conn p.sid).Reachable := by
  constructor
  · intro hann
    cases e with
    | close reason =>
      refine .inr fun p hp hreach => Connection.OnlyDropped.not_announced ?_ reason
        (hann p hp hreach)
      cases hclosed : s.room.closed with
      | true => simp [ends, hclosed] at hp
      | false =>
        rw [serverEnd, close, if_neg (by simp [hclosed])]
        exact s.conn_closeLoop reason s.room.values p.sid
    | removeParticipant identity =>
      refine .inr fun p hp hreach => Connection.OnlyDropped.not_announced ?_ _
        (hann p hp hreach)
      have hp : s.room.getParticipantByIdentity identity = some p := by simpa [ends] using hp
      rw [serverEnd, hp]
      exact s.conn_endParticipant p _
    | duplicateIdentity identity => exact .inl ⟨identity, rfl⟩
  · rintro (⟨identity, rfl⟩ | hnobody)
    · exact s.announces_duplicateIdentity identity
    · exact fun p hp hreach => absurd hreach (hnobody p hp)

/-- A room with one participant, connected and with nothing waiting in its channel. -/
def oneConnected : SignalRoom where
  room := (Room.new 0).addParticipant ⟨"PA_1", "alice", .standard, 0⟩
  conn := fun _ => ⟨.active, none, some [], true, []⟩

/-- **Where nobody is told.** The room is deleted, or the participant is removed: its sender is
dropped, and nothing else happens to its channel. -/
theorem ends_unannounced :
    (oneConnected.ends (.close .roomDeleted)).map Participant.sid = ["PA_1"] ∧
    ((oneConnected.serverEnd (.close .roomDeleted)).conn "PA_1").effects = [.dropped] ∧
    (oneConnected.ends (.removeParticipant "alice")).map Participant.sid = ["PA_1"] ∧
    ((oneConnected.serverEnd (.removeParticipant "alice")).conn "PA_1").effects = [.dropped] ∧
    ((oneConnected.serverEnd (.duplicateIdentity "alice")).conn "PA_1").effects =
      [.put (.leave .duplicateIdentity), .dropped] := by
  decide +kernel

end SignalRoom
end LivekitVoice
