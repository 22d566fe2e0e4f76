import LivekitVoice.Agent.Dispatch
import LivekitVoice.Room.Data
import LivekitVoice.Room.Limits
import LivekitVoice.Room.Subscribe

/-! # The room and agent dispatch services

The methods of `RoomService` and `AgentDispatchService` over the rooms of a server and its agent
manager. A call is parsed and checked, and then either fails, which changes nothing, or responds,
changes the server, and leaves tasks that are run on their own. The methods that administer a room
look it up by name, and then read and change that room only (`onRoom`); the dispatch services look
dispatches up by id. What is sent, and which webhooks are fired, is recorded with the room it is
about. -/

namespace LivekitVoice

/-! ## The server -/

/-- An agent that is dispatched to a room when somebody joins. -/
structure RoomAgentDispatch where
  agentName : String
  metadata : String
  deployment : String
  attributes : List (String × String)
  deriving DecidableEq

/-- **A room**, as the services see it. -/
structure ApiRoom where
  name : String
  sid : String
  metadata : String := ""
  emptyTimeout : Nat
  departureTimeout : Nat
  maxParticipants : Nat
  creationTimeMs : Int
  activeRecording : Bool := false
  closed : Bool := false
  agents : List RoomAgentDispatch := []
  members : List ParticipantInfo := []
  /-- Subscribers, each with a track. -/
  subscriptions : List (ParticipantSid × TrackSid) := []
  deriving DecidableEq

/-- `lk.Room`. -/
structure RoomInfo where
  sid : String
  name : String
  emptyTimeout : Nat
  departureTimeout : Nat
  maxParticipants : Nat
  creationTimeMs : Int
  metadata : String
  numParticipants : Nat
  activeRecording : Bool
  deriving DecidableEq

/-- `to_proto`. -/
def ApiRoom.info (room : ApiRoom) : RoomInfo where
  sid := room.sid
  name := room.name
  emptyTimeout := room.emptyTimeout
  departureTimeout := room.departureTimeout
  maxParticipants := room.maxParticipants
  creationTimeMs := room.creationTimeMs
  metadata := room.metadata
  numParticipants := room.members.length
  activeRecording := room.activeRecording

/-- What a participant is sent. -/
inductive ApiPayload
  | signal (message : SignalMessage)
  | roomUpdate (room : RoomInfo)
  | data (packet : DataPacket)
  | mute (track : TrackSid) (muted : Bool)
  deriving DecidableEq

/-- A message to a participant of a room. -/
structure RoomMessage where
  room : String
  recipient : ParticipantSid
  payload : ApiPayload
  deriving DecidableEq

/-- A webhook, with the room and the participant it is about. -/
structure RoomWebhook where
  event : String
  room : RoomInfo
  participant : Option ParticipantInfo := none
  deriving DecidableEq

/-- What a new room is made with. -/
structure RoomDefaults where
  emptyTimeout : Nat := 300
  departureTimeout : Nat := 20
  maxParticipants : Nat := 0

/-- **The server.** -/
structure ApiServer where
  limit : LimitConfig
  defaults : RoomDefaults
  rooms : List ApiRoom
  agents : AgentManager
  messages : List RoomMessage
  /-- What workers were sent, by worker id. -/
  workerLog : List (String × WorkerMessage)
  webhooks : List RoomWebhook

/-- What a call draws at random, and the time. -/
structure Fresh where
  roomSid : String
  dispatchId : String
  messageId : String
  /-- `unix_seconds`. -/
  now : Int
  /-- `unix_millis`. -/
  nowMs : Int

/-- **What a call leaves to be done.** -/
inductive ApiTask
  /-- The `room_started` webhook. -/
  | roomStarted (room : RoomInfo)
  /-- `launch_pending_dispatches`. -/
  | launchDispatches (room : String)
  /-- The `room_finished` webhook, with the room as it was, and `close_room`. -/
  | closeRoom (room : RoomInfo)
  /-- `end_participant`. -/
  | endParticipant (room : String) (sid : ParticipantSid)
  /-- `set_track_muted`, from the server. -/
  | setTrackMuted (room : String) (sid : ParticipantSid) (track : TrackSid) (muted : Bool)
  /-- `handle_update_subscriptions`. -/
  | updateSubscriptions (room : String) (sid : ParticipantSid) (update : UpdateSubscription)
  /-- `launch_room_job`, for a dispatch. -/
  | launchJob (dispatch : AgentDispatch)

/-- `lk.AgentDispatch`, with its state. -/
structure DispatchInfo where
  id : String
  agentName : String
  room : String
  metadata : String
  deployment : String
  attributes : List (String × String)
  jobs : List AgentJob
  /-- In nanoseconds. -/
  createdAt : Int
  /-- In nanoseconds; zero if it is not deleted. -/
  deletedAt : Int
  deriving DecidableEq

/-- `dispatch_to_proto`. -/
def AgentDispatch.info (d : AgentDispatch) : DispatchInfo where
  id := d.id
  agentName := d.agentName
  room := d.room
  metadata := d.metadata
  deployment := d.deployment
  attributes := d.attributes
  jobs := d.jobs
  createdAt := d.createdAt * 1000000000
  deletedAt := d.deletedAt.getD 0 * 1000000000

/-- The response to a call. -/
inductive ApiResponse
  | empty
  | room (room : RoomInfo)
  | rooms (rooms : List RoomInfo)
  | participant (participant : ParticipantInfo)
  | participants (participants : List ParticipantInfo)
  | track (track : TrackSid) (muted : Bool)
  | dispatch (dispatch : DispatchInfo)
  | dispatches (dispatches : List DispatchInfo)
  deriving DecidableEq

namespace ApiServer

variable (s : ApiServer)

/-- `get_room`. -/
def getRoom (name : String) : Option ApiRoom := s.rooms.find? fun r => r.name = name

/-- The room of that name has changed. -/
def setRoom (room : ApiRoom) : ApiServer :=
  { s with rooms := s.rooms.map fun r => if r.name = room.name then room else r }

/-- Participants of a room are sent messages. -/
def send (room : String) (messages : List (ParticipantSid × ApiPayload)) :
    ApiServer :=
  { s with messages := s.messages ++ messages.map fun x => ⟨room, x.1, x.2⟩ }

/-- Webhooks are fired. -/
def fire (webhooks : List RoomWebhook) : ApiServer :=
  { s with webhooks := s.webhooks ++ webhooks }

/-- Workers are sent messages about jobs. -/
def tell (messages : List (String × WorkerMessage)) : ApiServer :=
  { s with workerLog := s.workerLog ++ messages }

/-- Every worker for the agent of a job is told that the job is over. -/
def terminations (jobs : List AgentJob) : List (String × WorkerMessage) :=
  jobs.flatMap fun job =>
    (s.agents.workersFor job.agentName).map fun w => (w.workerId, .termination job)

end ApiServer

/-! ## Methods on a room -/

/-- **What a method makes of a room**: of the room itself only its metadata and its participants
change. -/
structure RoomEffect where
  response : ApiResponse
  metadata : String
  members : List ParticipantInfo
  messages : List (ParticipantSid × ApiPayload)
  tasks : List ApiTask

/-- A method that only responds. -/
def ApiRoom.respond (room : ApiRoom) (response : ApiResponse) : RoomEffect :=
  ⟨response, room.metadata, room.members, [], []⟩

/-- `get_participant_by_identity`. -/
def ApiRoom.byIdentity (room : ApiRoom) (identity : Identity) :
    Except TwirpError ParticipantInfo :=
  match room.members.find? fun p => p.identity = identity with
  | none => .error ⟨.notFound, "participant not found"⟩
  | some p => .ok p

/-- `ListParticipants`. -/
def listParticipants (room : ApiRoom) : Except TwirpError RoomEffect :=
  .ok (room.respond (.participants room.members))

/-- `GetParticipant`. -/
def getParticipant (identity : Identity) (room : ApiRoom) : Except TwirpError RoomEffect := do
  let p ← room.byIdentity identity
  return room.respond (.participant p)

/-- `RemoveParticipant`. -/
def removeParticipant (identity : Identity) (room : ApiRoom) : Except TwirpError RoomEffect := do
  let p ← room.byIdentity identity
  return { room.respond .empty with tasks := [.endParticipant room.name p.sid] }

/-- `lk.MuteRoomTrackRequest`, without the room. -/
structure MuteTrackRequest where
  identity : Identity
  trackSid : TrackSid
  muted : Bool

/-- The participant with a track muted, or not. -/
def ParticipantInfo.withMuted (p : ParticipantInfo) (track : TrackSid) (muted : Bool) :
    ParticipantInfo :=
  { p with tracks := p.tracks.map fun x => if x.1 = track then (track, muted) else x }

/-- `MutePublishedTrack`: the track is muted at once. -/
def mutePublishedTrack (r : MuteTrackRequest) (room : ApiRoom) : Except TwirpError RoomEffect := do
  let p ← room.byIdentity r.identity
  match p.tracks.lookup r.trackSid with
  | none => .error ⟨.notFound, "track not found"⟩
  | some _ =>
    return { room.respond (.track r.trackSid r.muted) with
      members := reviseMember room.members (p.withMuted r.trackSid r.muted)
      tasks := [.setTrackMuted room.name p.sid r.trackSid r.muted] }

/-- Updates of participants, as payloads. -/
def updatePayloads (messages : List (ParticipantSid × SignalMessage)) :
    List (ParticipantSid × ApiPayload) :=
  messages.map fun x => (x.1, .signal x.2)

/-- `UpdateParticipant`. -/
def updateParticipantMethod (limit : LimitConfig) (r : UpdateParticipantRequest) (room : ApiRoom) :
    Except TwirpError RoomEffect := do
  let updated ← updateParticipant limit room.members r
  let members := reviseMember room.members updated.1
  return { room.respond (.participant updated.1) with
    members := members
    messages :=
      if updated.2 then updatePayloads (broadcastParticipantUpdate members [updated.1] none)
      else [] }

/-- `UpdateSubscriptions`. -/
def updateSubscriptionsMethod (identity : Identity) (update : UpdateSubscription)
    (room : ApiRoom) : Except TwirpError RoomEffect := do
  let p ← room.byIdentity identity
  return { room.respond .empty with tasks := [.updateSubscriptions room.name p.sid update] }

/-- `SendData`. -/
def sendDataMethod (r : SendDataRequest) (messageId : String) (room : ApiRoom) :
    Except TwirpError RoomEffect :=
  .ok { room.respond .empty with
    messages := (sendData room.members r messageId).map fun d =>
      (d.recipient.sid, .data d.packet) }

/-- `UpdateRoomMetadata`: everybody is told, if the metadata are new. -/
def updateRoomMetadata (metadata : String) (room : ApiRoom) : Except TwirpError RoomEffect :=
  if room.metadata = metadata then .ok (room.respond (.room room.info))
  else
    let info := { room.info with metadata := metadata }
    .ok { room.respond (.room info) with
      metadata := metadata
      messages := room.members.map fun p => (p.sid, .roomUpdate info) }

/-! ## Calls -/

/-- A request that names a room. -/
structure InRoom (α : Type) where
  room : String
  request : α

/-- `lk.CreateRoomRequest`, as far as it is read. -/
structure CreateRoomRequest where
  name : String
  metadata : String := ""
  emptyTimeout : Nat := 0
  departureTimeout : Nat := 0
  maxParticipants : Nat := 0
  agents : List RoomAgentDispatch := []

/-- **A call**, with its body as it is parsed. -/
inductive ApiCall
  | createRoom (body : Except TwirpError CreateRoomRequest)
  | listRooms (names : Except TwirpError (List String))
  | deleteRoom (room : Except TwirpError String)
  | listParticipants (body : Except TwirpError (InRoom Unit))
  | getParticipant (body : Except TwirpError (InRoom Identity))
  | removeParticipant (body : Except TwirpError (InRoom Identity))
  | mutePublishedTrack (body : Except TwirpError (InRoom MuteTrackRequest))
  | updateParticipant (body : Except TwirpError (InRoom UpdateParticipantRequest))
  | updateSubscriptions (body : Except TwirpError (InRoom (Identity × UpdateSubscription)))
  | sendData (body : Except TwirpError (InRoom SendDataRequest))
  | updateRoomMetadata (body : Except TwirpError (InRoom String))
  /-- `ForwardParticipant`, `MoveParticipant` and `PerformRpc`. -/
  | unsupported
  | createDispatch (body : Except TwirpError CreateDispatchRequest)
  | deleteDispatch (body : Except TwirpError (InRoom String))
  | listDispatch (body : Except TwirpError (InRoom String))
  | unknown (method : String)

/-- What a call that succeeds comes to. -/
structure ApiResult where
  response : ApiResponse
  server : ApiServer
  tasks : List ApiTask

/-- **A method that administers a room.** `check` comes before the room is looked up. -/
def onRoom {α : Type} (grant : ApiGrant) (s : ApiServer) (body : Except TwirpError (InRoom α))
    (check : α → Except TwirpError Unit) (method : α → ApiRoom → Except TwirpError RoomEffect) :
    Except TwirpError ApiResult := do
  let r ← body
  ensureAdmin grant r.room
  check r.request
  match s.getRoom r.room with
  | none => .error ⟨.notFound, "room not found"⟩
  | some room =>
    let effect ← method r.request room
    let room' := { room with metadata := effect.metadata, members := effect.members }
    return ⟨effect.response, (s.setRoom room').send room.name effect.messages, effect.tasks⟩

/-- An agent is added to a room, unless one with the same name and metadata is there. -/
def ApiRoom.addAgent (room : ApiRoom) (agent : RoomAgentDispatch) : ApiRoom :=
  if room.agents.any fun a =>
      a.agentName ++ "\x00" ++ a.metadata = agent.agentName ++ "\x00" ++ agent.metadata then room
  else { room with agents := room.agents ++ [agent] }

/-- The room with what the request sets. -/
def CreateRoomRequest.apply (r : CreateRoomRequest) (room : ApiRoom) : ApiRoom :=
  r.agents.foldl ApiRoom.addAgent
    { room with
      metadata := if r.metadata = "" then room.metadata else r.metadata
      emptyTimeout := if r.emptyTimeout = 0 then room.emptyTimeout else r.emptyTimeout
      departureTimeout :=
        if r.departureTimeout = 0 then room.departureTimeout else r.departureTimeout
      maxParticipants := if r.maxParticipants = 0 then room.maxParticipants else r.maxParticipants }

/-- `Room::new`. -/
def ApiServer.newRoom (s : ApiServer) (name : String) (fresh : Fresh) : ApiRoom where
  name := name
  sid := fresh.roomSid
  emptyTimeout := s.defaults.emptyTimeout
  departureTimeout := s.defaults.departureTimeout
  maxParticipants := s.defaults.maxParticipants
  creationTimeMs := fresh.nowMs

variable (grant : ApiGrant)

/-- `CreateRoom`. -/
def createRoom (fresh : Fresh) (s : ApiServer)
    (body : Except TwirpError CreateRoomRequest) : Except TwirpError ApiResult := do
  ensureCreate grant
  let r ← body
  if r.name = "" then .error ⟨.invalidArgument, "room name is required"⟩
  else if r.name.utf8ByteSize > s.limit.maxRoomNameLength then
    .error ⟨.invalidArgument, "room name length exceeds limits: max length " ++
      toString s.limit.maxRoomNameLength⟩
  else
    validateMetadata s.limit r.metadata
    match s.getRoom r.name with
    | some room =>
      let room := r.apply room
      return ⟨.room room.info, s.setRoom room, []⟩
    | none =>
      let room := r.apply (s.newRoom r.name fresh)
      return ⟨.room room.info, { s with rooms := s.rooms ++ [room] },
        [.launchDispatches r.name, .roomStarted room.info]⟩

/-- `ListRooms`. -/
def listRooms (s : ApiServer) (names : Except TwirpError (List String)) :
    Except TwirpError ApiResult := do
  ensureList grant
  let names ← names
  let rooms := s.rooms.filter fun room => names.isEmpty || decide (room.name ∈ names)
  return ⟨.rooms (rooms.map ApiRoom.info), s, []⟩

/-- `DeleteRoom`. -/
def deleteRoom (s : ApiServer) (room : Except TwirpError String) :
    Except TwirpError ApiResult := do
  ensureCreate grant
  let name ← room
  if name = "" then .error ⟨.invalidArgument, "room is required"⟩
  else
    match s.getRoom name with
    | none => .error ⟨.notFound, "room not found"⟩
    | some room => return ⟨.empty, s, [.closeRoom room.info]⟩

/-- `CreateDispatch`: a job is launched at once if the room exists. -/
def createDispatch (fresh : Fresh) (s : ApiServer)
    (body : Except TwirpError CreateDispatchRequest) : Except TwirpError ApiResult := do
  let r ← body
  ensureAdmin grant r.room
  if r.agentName = "" then .error ⟨.invalidArgument, "agent name is required"⟩
  else if r.room = "" then .error ⟨.invalidArgument, "room is required"⟩
  else
    let d := AgentManager.newDispatch r fresh.dispatchId fresh.now
    return ⟨.dispatch d.info,
      { s with agents := s.agents.createDispatch r fresh.dispatchId fresh.now },
      if (s.getRoom r.room).isSome then [.launchJob d] else []⟩

/-- `DeleteDispatch`: **the room of the dispatch is not looked at.** -/
def deleteDispatch (fresh : Fresh) (s : ApiServer)
    (body : Except TwirpError (InRoom String)) : Except TwirpError ApiResult := do
  let r ← body
  ensureAdmin grant r.room
  match s.agents.deleteDispatch r.request fresh.now with
  | none => .error ⟨.notFound, "dispatch not found"⟩
  | some (d, agents) =>
    return ⟨.dispatch d.info, { s with agents := agents }.tell (s.terminations d.jobs), []⟩

/-- `ListDispatch`: by id if one is given, **whatever its room.** -/
def listDispatch (s : ApiServer) (body : Except TwirpError (InRoom String)) :
    Except TwirpError ApiResult := do
  let r ← body
  ensureAdmin grant r.room
  let dispatches :=
    if r.request = "" then s.agents.listDispatches r.room
    else (s.agents.getDispatch r.request).toList
  return ⟨.dispatches (dispatches.map AgentDispatch.info), s, []⟩

/-- **The services.** -/
def serve (fresh : Fresh) (s : ApiServer) : ApiCall → Except TwirpError ApiResult
  | .createRoom body => createRoom grant fresh s body
  | .listRooms names => listRooms grant s names
  | .deleteRoom room => deleteRoom grant s room
  | .listParticipants body => onRoom grant s body (fun _ => .ok ()) fun _ => listParticipants
  | .getParticipant body => onRoom grant s body (fun _ => .ok ()) getParticipant
  | .removeParticipant body => onRoom grant s body (fun _ => .ok ()) removeParticipant
  | .mutePublishedTrack body => onRoom grant s body (fun _ => .ok ()) mutePublishedTrack
  | .updateParticipant body =>
    onRoom grant s body (fun _ => .ok ()) (updateParticipantMethod s.limit)
  | .updateSubscriptions body =>
    onRoom grant s body (fun _ => .ok ()) fun r => updateSubscriptionsMethod r.1 r.2
  | .sendData body =>
    onRoom grant s body (fun _ => .ok ()) fun r => sendDataMethod r fresh.messageId
  | .updateRoomMetadata body =>
    onRoom grant s body (validateMetadata s.limit) updateRoomMetadata
  | .unsupported => .error ⟨.failedPrecondition, "not supported on this server"⟩
  | .createDispatch body => createDispatch grant fresh s body
  | .deleteDispatch body => deleteDispatch grant fresh s body
  | .listDispatch body => listDispatch grant s body
  | .unknown method => .error ⟨.notFound, "method not found: " ++ method⟩

/-! ## Tasks -/

/-- What becomes of a job: the worker that is asked, if one is free, and whether it takes the
job. -/
structure Launch where
  jobId : String
  worker : Option String
  accepted : Bool

/-- What a task depends on besides the server: what becomes of the jobs it launches, and which
tracks cannot be subscribed to yet. -/
structure TaskOutcome where
  launches : List Launch := []
  refused : List TrackSid := []

/-- The job of a dispatch. -/
def AgentDispatch.job (d : AgentDispatch) (id : String) : AgentJob where
  id := id
  dispatchId := d.id
  room := d.room
  agentName := d.agentName
  metadata := d.metadata
  deployment := d.deployment
  attributes := d.attributes

/-- `launch_room_job`, for a dispatch: a worker for the agent is asked, and given the job if it
takes it. Then the job is recorded. -/
def ApiServer.launchJob (s : ApiServer) (d : AgentDispatch) (launch : Launch) : ApiServer :=
  match (s.agents.workersFor d.agentName).find? fun w => launch.worker = some w.workerId with
  | none => s
  | some w =>
    let job := d.job launch.jobId
    if launch.accepted then
      { s.tell [(w.workerId, .availability job), (w.workerId, .assignment job)] with
        agents := s.agents.trackJob job }
    else s.tell [(w.workerId, .availability job)]

/-- The track of an item, of the publisher that it names or of anybody, is there. -/
def ApiRoom.hasTrack (room : ApiRoom) (item : Option ParticipantSid × TrackSid) : Bool :=
  room.members.any fun p =>
    (item.1.isNone || item.1 = some p.sid) && (p.tracks.lookup item.2).isSome

/-- One turn of the loops of `handle_update_subscriptions`. Only `add_subscription` can fail. -/
def ApiRoom.subscribeItem (sid : ParticipantSid) (subscribe : Bool) (refused : List TrackSid)
    (room : ApiRoom) (item : Option ParticipantSid × TrackSid) : ApiRoom :=
  let others := room.subscriptions.filter fun x => !(x.1 == sid && x.2 == item.2)
  if !room.hasTrack item then room
  else if !subscribe then { room with subscriptions := others }
  else if refused.contains item.2 then room
  else { room with subscriptions := others ++ [(sid, item.2)] }

/-- `handle_update_subscriptions`. -/
def ApiRoom.updateSubscriptions (room : ApiRoom) (p : ParticipantInfo)
    (update : UpdateSubscription) (refused : List TrackSid) : ApiRoom :=
  if !p.permission.canSubscribe then room
  else update.items.foldl (ApiRoom.subscribeItem p.sid update.subscribe refused) room

/-- `remove_participant` and `close_participant_media`: a participant is gone, with its
subscriptions and those to its tracks. -/
def ApiRoom.remove (room : ApiRoom) (p : ParticipantInfo) : ApiRoom :=
  { room with
    members := room.members.filter fun q => q.sid ≠ p.sid
    subscriptions := room.subscriptions.filter fun x =>
      x.1 ≠ p.sid && (p.tracks.lookup x.2).isNone }

/-- The participant after its session has ended. -/
def ParticipantInfo.disconnect (p : ParticipantInfo) : ParticipantInfo :=
  { p with state := .disconnected }

namespace ApiServer

variable (s : ApiServer)

/-- A task on a participant of a room; nothing happens if it is gone. -/
def onMember (name : String) (sid : ParticipantSid)
    (f : ApiRoom → ParticipantInfo → ApiServer) : ApiServer :=
  match s.getRoom name with
  | none => s
  | some room =>
    match room.members.find? fun p => p.sid = sid with
    | none => s
    | some p => f room p

/-- `end_participant`: the others are told. -/
def endParticipant (room : ApiRoom) (p : ParticipantInfo) : ApiServer :=
  let room' := room.remove p
  ((s.setRoom room').send room.name (updatePayloads
    (broadcastParticipantUpdate room'.members [p.disconnect] (some p.sid)))).fire
      [⟨"participant_left", room.info, some p.disconnect⟩]

/-- `set_track_muted`, from the server: nobody is told if the track is muted already. -/
def setTrackMuted (room : ApiRoom) (p : ParticipantInfo) (track : TrackSid)
    (muted : Bool) : ApiServer :=
  match p.tracks.lookup track with
  | none => s
  | some old =>
    if old = muted then s
    else
      let p' := p.withMuted track muted
      let room' := { room with members := reviseMember room.members p' }
      (s.setRoom room').send room.name ((p.sid, .mute track muted) ::
        updatePayloads (broadcastParticipantUpdate room'.members [p'] (some p.sid)))

/-- The jobs for a room, of any dispatch. -/
def roomJobs (name : String) : List AgentJob :=
  s.agents.dispatches.flatMap fun d => d.jobs.filter fun job => job.room = name

/-- `close`, unless the room is closed: its jobs are terminated, and it is removed. The sinks of the
participants are cleared before they are sent that they have to leave, so that nobody gets it. -/
def close (room : ApiRoom) : ApiServer :=
  if room.closed then s
  else
    let left := room.members.map fun p =>
      (⟨"participant_left", room.info, some p.disconnect⟩ : RoomWebhook)
    let s := (s.tell (s.terminations (s.roomJobs room.name))).fire
      (left ++ [⟨"room_finished", room.info, none⟩])
    { s with rooms := s.rooms.filter fun r => r.name ≠ room.name }

end ApiServer

/-- **What a task does.** -/
def ApiTask.run (s : ApiServer) (outcome : TaskOutcome) : ApiTask → ApiServer
  | .roomStarted room => s.fire [⟨"room_started", room, none⟩]
  | .launchDispatches room =>
    ((s.agents.listDispatches room).zip outcome.launches).foldl (fun s x => s.launchJob x.1 x.2) s
  | .closeRoom info =>
    let s := s.fire [⟨"room_finished", info, none⟩]
    match s.getRoom info.name with
    | none => s
    | some room => s.close room
  | .endParticipant name sid => s.onMember name sid s.endParticipant
  | .setTrackMuted name sid track muted =>
    s.onMember name sid fun room p => s.setTrackMuted room p track muted
  | .updateSubscriptions name sid update =>
    s.onMember name sid fun room p =>
      s.setRoom (room.updateSubscriptions p update outcome.refused)
  | .launchJob d =>
    match outcome.launches with
    | [] => s
    | launch :: _ => s.launchJob d launch

end LivekitVoice
