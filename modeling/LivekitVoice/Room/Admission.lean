import LivekitVoice.Room.Alone
import LivekitVoice.Room.Permission

/-! # Two admission decisions

A client that connects over the websocket is admitted twice: `rtc_ws_impl` answers a full room
before the upgrade, and `run_session_with_io` decides again when the session starts. The second one
resumes a participant that is still there without joining, evicts a participant of the same
identity before it counts, and does not count for dependent participants; the first one does none
of this.

* **`fullCheck_agrees_iff`** — the two agree exactly if `CapacityDecides`. -/

namespace LivekitVoice

/-! ## Tokens and parameters -/

/-- A verified token, as far as admission reads it. -/
structure VerifiedToken where
  identity : Identity
  video : VideoGrant

/-- `can_subscribe`: granted unless the token says otherwise. -/
def VerifiedToken.canSubscribe (token : VerifiedToken) : Bool :=
  token.video.canSubscribe.getD true

/-- The session parameters that admission reads. -/
structure SessionParams where
  reconnect : Bool
  /-- The sid the client had, if it names one. -/
  participantSid : ParticipantSid
  publish : Bool

/-- **A room on this server**, with what a reconnect looks at. The key of a map entry is the sid of
its participant. -/
structure HostedRoom where
  room : Room
  /-- The participants whose state is `Disconnected`. -/
  disconnected : List ParticipantSid
  keyed : ∀ e ∈ room.participants.entries, e.1 = e.2.sid

/-- **The rooms of a server**, by name, and the configured capacity of a new room. -/
structure RoomServer where
  rooms : AList fun _ : String => HostedRoom
  maxParticipants : Nat

/-- Why `rtc_ws_impl` refuses the upgrade. -/
inductive WsError
  | noPermission
  | roomRequired
  | identityRequired
  | full

/-- The text of the answer. -/
def WsError.message : WsError → String
  | .noPermission => "no permissions to access the room"
  | .roomRequired => "room is required"
  | .identityRequired => "identity is required"
  | .full => "room has exceeded its max participants"

/-- How a session is admitted. -/
inductive Admission
  /-- The participant there is goes on. -/
  | resumed (p : Participant)
  /-- A new participant is in the room. -/
  | joined (room : Room)

namespace RoomServer

variable (server : RoomServer) (token : VerifiedToken)

/-- `get_room`. -/
def getRoom (name : String) : Option HostedRoom := server.rooms.lookup name

/-- `rtc_ws_impl` up to the upgrade, for a token that has been verified. The count is made here, not
by `is_full`. -/
def rtcWsImpl : Except WsError Unit :=
  if !token.video.roomJoin then .error .noPermission
  else if token.video.room = "" then .error .roomRequired
  else if token.identity = "" then .error .identityRequired
  else
    match server.getRoom token.video.room with
    | none => .ok ()
    | some hosted =>
      let max := hosted.room.maxParticipants
      let full :=
        if max = 0 then false
        else
          let count := (hosted.room.values.filter fun x => !x.kind.isDependent).length
          decide (max ≤ count)
      if full then .error .full else .ok ()

/-- `resume_room_participant`. -/
def resumeRoomParticipant (params : SessionParams) : Option Participant :=
  (server.getRoom token.video.room).bind fun hosted =>
    (hosted.room.getParticipantByIdentity token.identity).bind fun participant =>
      if participant.sid ∈ hosted.disconnected then none
      else if params.participantSid ≠ "" ∧ participant.sid ≠ params.participantSid then none
      else some participant

/-- The room `get_or_create_room` returns. -/
def getOrCreateRoom (name : String) : Room :=
  match server.getRoom name with
  | none => .new server.maxParticipants
  | some hosted => hosted.room

/-- `join_room`, for a participant with the sid `sid` and the room object number `number`. -/
def joinRoom (params : SessionParams) (kind : ParticipantKind) (sid : ParticipantSid)
    (number : Nat) : Except JoinError Room :=
  if !token.video.roomJoin then .error .joinDenied
  else if token.identity = "" then .error .identityRequired
  else if token.video.room = "" then .error .roomRequired
  else if !params.publish && !token.canSubscribe then .error .subscribeDenied
  else
    -- whoever has the identity is ended before the capacity is looked at
    let room := ((server.getOrCreateRoom token.video.room).evict token.identity).1
    room.join ⟨sid, token.identity, kind, number⟩

/-- `run_session_with_io` up to the point where the session is admitted or not. -/
def runSessionWithIo (params : SessionParams)
    (kind : ParticipantKind) (sid : ParticipantSid) (number : Nat) :
    Except JoinError Admission :=
  match if params.reconnect then server.resumeRoomParticipant token params else none with
  | some participant => .ok (.resumed participant)
  | none => (server.joinRoom token params kind sid number).map .joined

end RoomServer

/-! ## Who is left after an eviction -/

namespace Room

theorem nonDependents_eq_sum (room : Room) :
    room.nonDependents = (room.values.map fun p => if p.kind.isDependent then 0 else 1).sum := by
  rw [nonDependents]
  induction room.values with
  | nil => rfl
  | cons p l ih =>
    rw [List.filter_cons, List.map_cons, List.sum_cons, ← ih]
    cases p.kind.isDependent with
    | true => simp
    | false =>
      simp only [Bool.not_false, if_true, List.length_cons, Bool.false_eq_true, if_false]
      omega

/-- **`Room::join` refuses for capacity** if the room is open and full and the participant
counts. -/
theorem join_eq_full_iff {room : Room} {p : Participant} :
    room.join p = .error .full ↔
      room.closed = false ∧ p.kind.isDependent = false ∧ room.isFull := by
  rw [join]
  cases room.closed with
  | true => simp
  | false =>
    cases p.kind.isDependent with
    | true => by_cases hid : room.hasIdentity p.identity <;> simp [hid]
    | false =>
      cases room.isFull with
      | true => simp
      | false => by_cases hid : room.hasIdentity p.identity <;> simp [hid]

theorem isFull_eq_true_iff {room : Room} : room.isFull ↔
    room.maxParticipants ≠ 0 ∧ room.maxParticipants ≤ room.nonDependents := by
  rw [isFull]
  split <;> simp [*]

theorem isFull_evict_new (max : Nat) (identity : Identity) :
    ((new max).evict identity).1.isFull = false := by
  cases max <;> rfl

end Room

namespace HostedRoom

/-- **What an eviction frees**: the place of the participant it finds, if it takes one. -/
theorem nonDependents_evict (hosted : HostedRoom) (identity : Identity) :
    (hosted.room.evict identity).1.nonDependents +
        (match hosted.room.getParticipantByIdentity identity with
          | none => 0
          | some q => if q.kind.isDependent then 0 else 1) =
      hosted.room.nonDependents := by
  rw [Room.evict]
  cases hq : hosted.room.getParticipantByIdentity identity with
  | none => rfl
  | some q =>
    obtain ⟨sid, hentry⟩ := Room.mem_values.mp (Room.getParticipantByIdentity_eq_some hq).1
    obtain rfl : sid = q.sid := hosted.keyed _ hentry
    have hlookup : hosted.room.getParticipant q.sid = some q := AList.mem_lookup_iff.mpr hentry
    have hin : q.sid ∈ hosted.room.participants :=
      AList.lookup_isSome.mp (Option.isSome_of_mem hlookup)
    have honly : ∀ q', ⟨q.sid, q'⟩ ∈ hosted.room.participants.entries → q' = q := by
      intro q' hq'
      exact Option.some.inj ((AList.mem_lookup_iff.mpr hq').symm.trans hlookup)
    -- the removal takes one summand out of the count
    have hsum := Room.sum_values_removeParticipant
      (fun p => if p.kind.isDependent then 0 else 1) hin honly
    have hend : hosted.room.endParticipant q =
        (hosted.room.removeParticipant q.sid, [.participantLeft q]) := by
      rw [Room.endParticipant, if_neg (by simp [hlookup])]
    simp only [hend, Room.nonDependents_eq_sum]
    exact hsum

/-- **Full after an eviction**: over the capacity before, or at it and nobody that counts is
evicted. -/
theorem isFull_evict_iff (hosted : HostedRoom) (identity : Identity) (hfull : hosted.room.isFull) :
    (hosted.room.evict identity).1.isFull ↔
      hosted.room.maxParticipants < hosted.room.nonDependents ∨
        ∀ q ∈ hosted.room.getParticipantByIdentity identity, q.kind.isDependent := by
  obtain ⟨hmax, hle⟩ := Room.isFull_eq_true_iff.mp hfull
  obtain ⟨-, -, hsame⟩ := hosted.room.evict_unchanged identity
  have hleft := hosted.nonDependents_evict identity
  rw [Room.isFull_eq_true_iff, hsame]
  cases hq : hosted.room.getParticipantByIdentity identity with
  | none =>
    rw [hq] at hleft
    have hleft : (hosted.room.evict identity).1.nonDependents = hosted.room.nonDependents := hleft
    simp [hmax, hleft, hle]
  | some q =>
    rw [hq] at hleft
    cases hdep : q.kind.isDependent with
    | true =>
      simp only [hdep, if_true] at hleft
      simp [hmax, hdep]
      omega
    | false =>
      simp only [hdep, Bool.false_eq_true, if_false] at hleft
      simp [hmax, hdep]
      omega

end HostedRoom

/-! ## The two decisions -/

namespace RoomServer

variable (server : RoomServer) (token : VerifiedToken)

/-- The checks of the token that both make. -/
def Presentable : Prop :=
  token.video.roomJoin ∧ token.video.room ≠ "" ∧ token.identity ≠ ""

/-- **`rtc_ws_impl` answers that the room is full** if it is there and full. -/
theorem rtcWsImpl_eq_full_iff :
    server.rtcWsImpl token = .error .full ↔ Presentable token ∧
      ∃ hosted, server.getRoom token.video.room = some hosted ∧ hosted.room.isFull := by
  rw [rtcWsImpl, Presentable]
  by_cases hjoin : token.video.roomJoin
  · by_cases hname : token.video.room = ""
    · simp [hjoin, hname]
    · by_cases hid : token.identity = ""
      · simp [hjoin, hname, hid]
      · cases hroom : server.getRoom token.video.room with
        | none => simp [hjoin, hname, hid]
        | some hosted =>
          -- the count is that of `is_full`
          have hsame : (if hosted.room.maxParticipants = 0 then false
              else decide (hosted.room.maxParticipants ≤
                (hosted.room.values.filter fun x => !x.kind.isDependent).length)) =
              hosted.room.isFull := rfl
          cases hfull : hosted.room.isFull with
          | _ => simp [hjoin, hname, hid, hsame, hfull]
  · simp [hjoin]

/-- **`join_room` refuses for capacity** if the room is open and, after the eviction, full. -/
theorem joinRoom_eq_full_iff (params : SessionParams) (kind : ParticipantKind)
    (sid : ParticipantSid) (number : Nat) :
    server.joinRoom token params kind sid number = .error .full ↔
      Presentable token ∧ (params.publish ∨ token.canSubscribe) ∧
      kind.isDependent = false ∧
      ∃ hosted, server.getRoom token.video.room = some hosted ∧ hosted.room.closed = false ∧
        (hosted.room.evict token.identity).1.isFull := by
  rw [joinRoom, Presentable]
  by_cases hjoin : token.video.roomJoin
  · by_cases hname : token.video.room = ""
    · by_cases hid : token.identity = "" <;> simp [hjoin, hname, hid]
    · by_cases hid : token.identity = ""
      · simp [hjoin, hname, hid]
      · by_cases hsub : params.publish ∨ token.canSubscribe
        · have hpass : (!params.publish && !token.canSubscribe) = false := by
            rcases hsub with h | h <;> simp [h]
          simp only [hjoin, hname, hid, hsub, hpass, Bool.not_true, Bool.false_eq_true, if_false,
            Room.join_eq_full_iff, true_and, ne_eq, not_false_eq_true]
          cases hroom : server.getRoom token.video.room with
          | none => simp [getOrCreateRoom, hroom, Room.isFull_evict_new]
          | some hosted =>
            simp [getOrCreateRoom, hroom, (hosted.room.evict_unchanged token.identity).1]
            tauto
        · have hdenied : (!params.publish && !token.canSubscribe) := by
            simpa using hsub
          simp [hjoin, hname, hid, hsub, hdenied]
  · simp [hjoin]

/-- **`run_session_with_io` refuses for capacity** if the client does not resume, may subscribe or
publishes, counts, and finds the room open and, after the eviction, full. -/
theorem runSessionWithIo_eq_full_iff (params : SessionParams) (kind : ParticipantKind)
    (sid : ParticipantSid) (number : Nat) :
    server.runSessionWithIo token params kind sid number = .error .full ↔
      Presentable token ∧
      (params.reconnect → server.resumeRoomParticipant token params = none) ∧
      (params.publish ∨ token.canSubscribe) ∧ kind.isDependent = false ∧
      ∃ hosted, server.getRoom token.video.room = some hosted ∧ hosted.room.closed = false ∧
        (hosted.room.evict token.identity).1.isFull := by
  have hmap : ∀ x : Except JoinError Room,
      x.map Admission.joined = .error .full ↔ x = .error .full := by
    intro x
    cases x <;> simp [Except.map]
  rw [runSessionWithIo]
  cases hrec : params.reconnect with
  | false => simp [hmap, joinRoom_eq_full_iff]
  | true =>
    cases hres : server.resumeRoomParticipant token params with
    | none => simp [hmap, joinRoom_eq_full_iff]
    | some p => simp

/-- A participant of the identity is there to be resumed: it is not disconnected, and it is the one
the client names, if it names one. -/
def CanResume (hosted : HostedRoom) (identity : Identity) (named : ParticipantSid) : Prop :=
  ∃ q, hosted.room.getParticipantByIdentity identity = some q ∧ q.sid ∉ hosted.disconnected ∧
    (named = "" ∨ q.sid = named)

/-- **Nobody is resumed** if nobody of the identity can be. -/
theorem resumeRoomParticipant_eq_none_iff {server : RoomServer} {token : VerifiedToken}
    {params : SessionParams} {hosted : HostedRoom}
    (hroom : server.getRoom token.video.room = some hosted) :
    server.resumeRoomParticipant token params = none ↔
      ¬ CanResume hosted token.identity params.participantSid := by
  rw [resumeRoomParticipant, CanResume, hroom, Option.bind_some]
  cases hq : hosted.room.getParticipantByIdentity token.identity with
  | none => simp
  | some q =>
    rw [Option.bind_some]
    by_cases hgone : q.sid ∈ hosted.disconnected
    · simp [hgone]
    · by_cases hnamed : params.participantSid ≠ "" ∧ q.sid ≠ params.participantSid
      all_goals simp [hgone, hnamed]

/-- **The condition**: a full room is open, the client would neither resume nor be refused for its
permissions, it counts, and it would still find the room full after replacing itself. -/
def CapacityDecides (params : SessionParams) (kind : ParticipantKind) : Prop :=
  Presentable token → ∀ hosted, server.getRoom token.video.room = some hosted →
    hosted.room.isFull →
      (params.reconnect → ¬ CanResume hosted token.identity params.participantSid) ∧
      (params.publish ∨ token.canSubscribe) ∧ kind.isDependent = false ∧
      hosted.room.closed = false ∧
      (hosted.room.maxParticipants < hosted.room.nonDependents ∨
        ∀ q ∈ hosted.room.getParticipantByIdentity token.identity, q.kind.isDependent)

/-- **The two decisions agree** exactly under the condition. -/
theorem fullCheck_agrees_iff (params : SessionParams)
    (kind : ParticipantKind) (sid : ParticipantSid) (number : Nat) :
    (server.rtcWsImpl token = .error .full ↔
        server.runSessionWithIo token params kind sid number = .error .full) ↔
      server.CapacityDecides token params kind := by
  rw [rtcWsImpl_eq_full_iff, runSessionWithIo_eq_full_iff, CapacityDecides]
  constructor
  · intro hagree hok hosted hroom hfull
    obtain ⟨-, hresume, hpub, hcounts, hosted', hroom', hopen, hstill⟩ :=
      hagree.mp ⟨hok, hosted, hroom, hfull⟩
    obtain rfl : hosted' = hosted := Option.some.inj (hroom'.symm.trans hroom)
    exact ⟨fun hrec => (resumeRoomParticipant_eq_none_iff hroom).mp (hresume hrec), hpub, hcounts,
      hopen, (hosted'.isFull_evict_iff _ hfull).mp hstill⟩
  · intro hcond
    constructor
    · rintro ⟨hok, hosted, hroom, hfull⟩
      obtain ⟨hresume, hpub, hcounts, hopen, hstill⟩ := hcond hok hosted hroom hfull
      exact ⟨hok, fun hrec => (resumeRoomParticipant_eq_none_iff hroom).mpr (hresume hrec), hpub,
        hcounts, hosted, hroom, hopen, (hosted.isFull_evict_iff _ hfull).mpr hstill⟩
    · rintro ⟨hok, -, -, -, hosted, hroom, -, hstill⟩
      -- a room that is not full is not full after an eviction
      obtain ⟨hmax, hle⟩ := Room.isFull_eq_true_iff.mp hstill
      obtain ⟨-, -, hsame⟩ := hosted.room.evict_unchanged token.identity
      have hleft := hosted.nonDependents_evict token.identity
      rw [hsame] at hmax hle
      exact ⟨hok, hosted, hroom, Room.isFull_eq_true_iff.mpr ⟨hmax, by omega⟩⟩

/-- A room for one, with one participant in it. -/
def fullOfOne : RoomServer where
  rooms := AList.singleton "daily"
    { room := (Room.new 1).addParticipant ⟨"PA_1", "alice", .standard, 0⟩
      disconnected := []
      keyed := fun e he => by
        rcases Room.mem_entries_addParticipant he with rfl | hold
        · rfl
        · exact absurd hold (List.not_mem_nil) }
  maxParticipants := 1

/-- A token for the room. -/
def dailyToken (identity : Identity) : VerifiedToken :=
  { identity, video := { roomJoin := true, room := "daily" } }

/-- **Where the two differ.** The room for one is full for the check before the upgrade; the session
would let the participant in it resume and would let it replace itself, and it would let an agent
in. -/
theorem fullCheck_differs :
    fullOfOne.rtcWsImpl (dailyToken "alice") = .error .full ∧
    fullOfOne.runSessionWithIo (dailyToken "alice") ⟨true, "PA_1", true⟩ .standard "PA_2" 0 =
      .ok (.resumed ⟨"PA_1", "alice", .standard, 0⟩) ∧
    (fullOfOne.runSessionWithIo (dailyToken "alice") ⟨false, "", true⟩ .standard "PA_2" 0).isOk =
      true ∧
    fullOfOne.rtcWsImpl (dailyToken "agent") = .error .full ∧
    (fullOfOne.runSessionWithIo (dailyToken "agent") ⟨false, "", true⟩ .agent "PA_2" 0).isOk =
      true :=
  ⟨rfl, rfl, rfl, rfl, rfl⟩

end RoomServer
end LivekitVoice
