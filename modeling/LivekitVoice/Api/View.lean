import LivekitVoice.Api.Service

/-! # What belongs to a room

The part of a server that belongs to the room of a name, and what leaves it alone. The operations of
the services are each about one room, and are not seen by another one. The tasks that a call leaves
to be done are built from them, so that a task concerns its own room only, whenever it is run.

* **`AgreesOn`** — two servers that differ in what belongs to other rooms,
* **`view_launchJob`**, **`view_close`** — jobs are launched, and a room is closed,
* **`ApiTask.view_run`** — a task concerns one room. -/

namespace LivekitVoice

open List

/-! ## What belongs to a room -/

/-- **What belongs to a room**: the room itself, its dispatches, and what was sent and fired about
it. -/
structure RoomView where
  rooms : List ApiRoom
  dispatches : List AgentDispatch
  messages : List RoomMessage
  jobs : List (String × WorkerMessage)
  webhooks : List RoomWebhook
  deriving DecidableEq

/-- What belongs to the room of a name. -/
def ApiServer.view (s : ApiServer) (name : String) : RoomView where
  rooms := s.rooms.filter fun r => r.name = name
  dispatches := s.agents.ofRoom name
  messages := s.messages.filter fun m => m.room = name
  jobs := s.workerLog.filter fun x => x.2.job.room = name
  webhooks := s.webhooks.filter fun w => w.room.name = name

/-- **Two servers agree on a room**: they differ in what belongs to other rooms only. -/
structure AgreesOn (name : String) (s t : ApiServer) : Prop where
  limit : t.limit = s.limit
  defaults : t.defaults = s.defaults
  workers : t.agents.workers = s.agents.workers
  view : t.view name = s.view name

theorem AgreesOn.getRoom {name : String} {s t : ApiServer} (h : AgreesOn name s t) :
    t.getRoom name = s.getRoom name := by
  have hrooms : t.rooms.filter (fun r => r.name = name) = s.rooms.filter fun r => r.name = name :=
    congrArg RoomView.rooms h.view
  rw [ApiServer.getRoom, ApiServer.getRoom, ← List.head?_filter, ← List.head?_filter, hrooms]

theorem AgreesOn.ofRoom {name : String} {s t : ApiServer} (h : AgreesOn name s t) :
    t.agents.ofRoom name = s.agents.ofRoom name :=
  congrArg RoomView.dispatches h.view

/-! ## What leaves a room alone -/

section Frame

variable {s : ApiServer} {other : String}

theorem filter_append_of_forall_not {α : Type} {p : α → Bool} {l new : List α}
    (h : ∀ x ∈ new, p x = false) : (l ++ new).filter p = l.filter p := by
  have hnew : new.filter p = [] := by
    rw [filter_eq_nil_iff]
    intro x hx
    rw [h x hx]
    exact Bool.false_ne_true
  rw [filter_append, hnew, append_nil]

theorem view_send {room : String} {messages : List (ParticipantSid × ApiPayload)}
    (h : room ≠ other) : (s.send room messages).view other = s.view other := by
  have hnew : ∀ m ∈ messages.map fun x => (⟨room, x.1, x.2⟩ : RoomMessage),
      decide (m.room = other) = false := by
    intro m hm
    obtain ⟨x, -, rfl⟩ := mem_map.mp hm
    exact decide_eq_false h
  simp [ApiServer.view, ApiServer.send, filter_append_of_forall_not hnew]

theorem view_fire {webhooks : List RoomWebhook} (h : ∀ w ∈ webhooks, w.room.name ≠ other) :
    (s.fire webhooks).view other = s.view other := by
  have hnew : ∀ w ∈ webhooks, decide (w.room.name = other) = false :=
    fun w hw => decide_eq_false (h w hw)
  simp [ApiServer.view, ApiServer.fire, filter_append_of_forall_not hnew]

theorem view_tell {messages : List (String × WorkerMessage)}
    (h : ∀ x ∈ messages, x.2.job.room ≠ other) : (s.tell messages).view other = s.view other := by
  have hnew : ∀ x ∈ messages, decide (x.2.job.room = other) = false :=
    fun x hx => decide_eq_false (h x hx)
  simp [ApiServer.view, ApiServer.tell, filter_append_of_forall_not hnew]

theorem view_agents {agents : AgentManager} (h : agents.ofRoom other = s.agents.ofRoom other) :
    { s with agents := agents }.view other = s.view other := by
  simp [ApiServer.view, h]

theorem view_rooms {rooms : List ApiRoom}
    (h : rooms.filter (fun r => r.name = other) = s.rooms.filter fun r => r.name = other) :
    { s with rooms := rooms }.view other = s.view other := by
  simp [ApiServer.view, h]

theorem view_setRoom {room : ApiRoom} (h : room.name ≠ other) :
    (s.setRoom room).view other = s.view other := by
  refine view_rooms ?_
  induction s.rooms with
  | nil => rfl
  | cons r rooms ih =>
    rw [map_cons, filter_cons, filter_cons, ih]
    by_cases hr : r.name = room.name
    · simp [hr, h]
    · simp [hr]

/-- **A job is launched**: it concerns the room of its dispatch, as long as its id is not that of a
dispatch of another room. -/
theorem view_launchJob {d : AgentDispatch} {launch : Launch} (hroom : d.room ≠ other)
    (hid : ∀ e ∈ s.agents.dispatches, e.id = d.id → e.room = d.room) :
    (s.launchJob d launch).view other = s.view other := by
  rw [ApiServer.launchJob]
  split
  · rfl
  · have htold : ∀ messages : List (String × WorkerMessage),
        (∀ x ∈ messages, x.2.job = d.job launch.jobId) →
          (s.tell messages).view other = s.view other := by
      intro messages hjob
      refine view_tell fun x hx => ?_
      rw [hjob x hx]
      exact hroom
    split
    · refine Eq.trans (view_agents ?_) (htold _ (by simp [WorkerMessage.job]))
      refine AgentManager.ofRoom_trackJob fun e he heid => ?_
      rw [hid e he heid]
      exact hroom
    · exact htold _ (by simp [WorkerMessage.job])

/-- **Jobs are launched**, one dispatch after another. -/
theorem view_launchJobs {launches : List (AgentDispatch × Launch)} {s : ApiServer}
    (hroom : ∀ x ∈ launches, x.1.room ≠ other)
    (hid : ∀ x ∈ launches, ∀ e ∈ s.agents.dispatches, e.id = x.1.id → e.room = x.1.room) :
    (launches.foldl (fun s x => s.launchJob x.1 x.2) s).view other = s.view other := by
  -- the rooms of ids do not change while the jobs are launched
  induction launches generalizing s with
  | nil => rfl
  | cons x launches ih =>
    rw [forall_mem_cons] at hroom hid
    rw [foldl_cons, ih hroom.2, view_launchJob hroom.1 hid.1]
    intro y hy e he heid
    rw [ApiServer.launchJob] at he
    split at he
    · exact hid.2 y hy e he heid
    · split at he
      · obtain ⟨e', he', rfl⟩ := mem_map.mp he
        rw [e'.id_track] at heid
        rw [e'.room_track]
        exact hid.2 y hy e' he' heid
      · exact hid.2 y hy e he heid

theorem view_close {room : ApiRoom} (h : room.name ≠ other) :
    (s.close room).view other = s.view other := by
  rw [ApiServer.close]
  split
  · rfl
  · -- the jobs that are terminated are those of the room
    have hjobs : ∀ x ∈ s.terminations (s.roomJobs room.name), x.2.job.room ≠ other := by
      intro x hx
      obtain ⟨job, hjob, hx⟩ := mem_flatMap.mp hx
      obtain ⟨w, -, rfl⟩ := mem_map.mp hx
      obtain ⟨d, -, hjob⟩ := mem_flatMap.mp hjob
      have hname : job.room = room.name := by simpa using (mem_filter.mp hjob).2
      exact hname.trans_ne h
    refine Eq.trans (view_rooms ?_) ((view_fire ?_).trans (view_tell hjobs))
    · rw [filter_filter]
      refine filter_congr fun r _ => ?_
      by_cases hr : r.name = other
      · simp [hr, Ne.symm h]
      · simp [hr]
    · intro w hw
      rcases mem_append.mp hw with hw | hw
      · obtain ⟨p, -, rfl⟩ := mem_map.mp hw
        exact h
      · rw [mem_singleton.mp hw]
        exact h

theorem name_updateSubscriptions (room : ApiRoom) (p : ParticipantInfo)
    (update : UpdateSubscription) (refused : List TrackSid) :
    (room.updateSubscriptions p update refused).name = room.name := by
  rw [ApiRoom.updateSubscriptions]
  split
  · rfl
  · induction update.items generalizing room with
    | nil => rfl
    | cons item items ih =>
      rw [foldl_cons, ih, ApiRoom.subscribeItem]
      split_ifs <;> rfl

theorem view_onMember {name : String} {sid : ParticipantSid}
    {f : ApiRoom → ParticipantInfo → ApiServer}
    (h : ∀ room p, room.name = name → (f room p).view other = s.view other) :
    (s.onMember name sid f).view other = s.view other := by
  rw [ApiServer.onMember]
  split
  · rfl
  · rename_i room hroom
    have hname : room.name = name := by simpa using List.find?_some hroom
    split
    · rfl
    · exact h room _ hname

end Frame

/-! ## Tasks -/

namespace ApiTask

/-- The room a task is about. -/
def room : ApiTask → String
  | .roomStarted room | .closeRoom room => room.name
  | .launchDispatches room => room
  | .endParticipant room _ | .setTrackMuted room .. | .updateSubscriptions room .. => room
  | .launchJob d => d.room

/-- The id of the dispatch whose job is to be launched is not that of a dispatch of another room. -/
def Settled (s : ApiServer) : ApiTask → Prop
  | .launchJob d => ∀ e ∈ s.agents.dispatches, e.id = d.id → e.room = d.room
  | _ => True

/-- **A task concerns its room only**, whenever it is run. -/
theorem view_run {s : ApiServer} {outcome : TaskOutcome} {other : String} {task : ApiTask}
    (hroom : task.room ≠ other) (hsettled : task.Settled s) :
    (task.run s outcome).view other = s.view other := by
  cases task with
  | roomStarted room =>
    refine view_fire fun w hw => ?_
    rw [mem_singleton.mp hw]
    exact hroom
  | launchDispatches room =>
    -- what is listed for the room is registered under its id, which no other dispatch has
    have hlisted : ∀ x ∈ (s.agents.listDispatches room).zip outcome.launches,
        x.1 ∈ s.agents.dispatches ∧ x.1.room = room := by
      intro x hx
      have hmem := (of_mem_zip hx).1
      rw [AgentManager.listDispatches_eq] at hmem
      exact AgentManager.mem_ofRoom_iff.mp hmem
    refine view_launchJobs (fun x hx => ?_) fun x hx e he heid => ?_
    · rw [(hlisted x hx).2]
      exact hroom
    · rw [inj_on_of_nodup_map s.agents.ids_nodup he (hlisted x hx).1 heid]
  | closeRoom info =>
    have hfired : (s.fire [⟨"room_finished", info, none⟩]).view other = s.view other := by
      refine view_fire fun w hw => ?_
      rw [mem_singleton.mp hw]
      exact hroom
    simp only [run]
    split
    · exact hfired
    · rename_i room hget
      have hname : room.name = info.name := by simpa using List.find?_some hget
      rw [view_close (by rw [hname]; exact hroom), hfired]
  | endParticipant name sid =>
    refine view_onMember fun room p hname => ?_
    have hne : room.name ≠ other := by rw [hname]; exact hroom
    refine (view_fire fun w hw => ?_).trans ((view_send hne).trans (view_setRoom hne))
    rw [mem_singleton.mp hw]
    exact hne
  | setTrackMuted name sid track muted =>
    refine view_onMember fun room p hname => ?_
    have hne : room.name ≠ other := by rw [hname]; exact hroom
    rw [ApiServer.setTrackMuted]
    split
    · rfl
    · split
      · rfl
      · exact (view_send hne).trans (view_setRoom hne)
  | updateSubscriptions name sid update =>
    refine view_onMember fun room p hname => view_setRoom ?_
    rw [name_updateSubscriptions, hname]
    exact hroom
  | launchJob d =>
    simp only [run]
    split
    · rfl
    · exact view_launchJob hroom hsettled

end ApiTask

end LivekitVoice
