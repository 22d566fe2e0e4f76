import LivekitVoice.Api.View

/-! # Isolation of the administrators of rooms

Two rooms of a server share its workers and its registry of dispatches. A token that administers one
room and grants nothing else should neither change what belongs to another room nor learn of it. The
methods that look up their room by name keep to it. Those that look up a dispatch by id do not,
since the room of the dispatch is not compared with the room of the request.

* **`isolated_onRoom`** — a method that administers a room is isolated,
* **`admin_isolated_iff`** — the calls that are isolated. -/

namespace LivekitVoice

open List

/-! ## Isolation -/

/-- **The token of an administrator of a room**, without any other grant. -/
def adminOf (room : String) : ApiGrant := { room := room, roomAdmin := true }

/-- **A service is isolated** in a state: its response is the same on every server that agrees on
the room, and neither the call nor what it leaves to be done changes what belongs to another room. A
task may run at any later time, as long as the id drawn for its dispatch is not used for another
room. -/
structure Isolated (name : String) (s : ApiServer)
    (service : ApiServer → Except TwirpError ApiResult) : Prop where
  response : ∀ t, AgreesOn name s t →
    (service t).map ApiResult.response = (service s).map ApiResult.response
  server : ∀ result, service s = .ok result →
    ∀ other ≠ name, result.server.view other = s.view other
  settled : ∀ result, service s = .ok result → ∀ task ∈ result.tasks, task.Settled result.server
  tasks : ∀ result, service s = .ok result → ∀ task ∈ result.tasks,
    ∀ later, task.Settled later → ∀ outcome, ∀ other ≠ name,
      (task.run later outcome).view other = later.view other

section Isolation

variable {name : String} {s : ApiServer} {room : String}
  {service : ApiServer → Except TwirpError ApiResult} {result : ApiResult}

theorem ensureAdmin_adminOf : ensureAdmin (adminOf name) room = .ok () ↔ room = name := by
  rw [ensureAdmin_eq_ok_iff, adminOf]
  constructor
  · intro h
    exact h.2.symm
  · intro h
    exact ⟨rfl, h.symm⟩

theorem ensureAdmin_adminOf_of_ne (h : room ≠ name) :
    ensureAdmin (adminOf name) room = .error ⟨.unauthenticated, "permissions denied"⟩ := by
  rw [ensureAdmin, ensureGrant, if_neg]
  simpa [adminOf] using Ne.symm h

theorem isolated_of_error {e : TwirpError} (h : ∀ t, service t = .error e) :
    Isolated name s service where
  response t _ := by rw [h t, h s]
  server result hok := by simp [h s] at hok
  settled result hok := by simp [h s] at hok
  tasks result hok := by simp [h s] at hok

theorem isolated_of_tasks_eq_nil
    (hresponse : ∀ t, AgreesOn name s t → (service t).map ApiResult.response =
      (service s).map ApiResult.response)
    (hok : service s = .ok result) (htasks : result.tasks = [])
    (hserver : ∀ other ≠ name, result.server.view other = s.view other) :
    Isolated name s service := by
  have hresult : ∀ result', service s = .ok result' → result' = result := by
    intro result' hok'
    rw [hok] at hok'
    exact (Except.ok.inj hok').symm
  refine ⟨hresponse, fun result' hok' => ?_, fun result' hok' task htask => ?_,
    fun result' hok' task htask => ?_⟩
  · rw [hresult result' hok']
    exact hserver
  all_goals
    simp [hresult result' hok', htasks] at htask

/-- **A method keeps to its room**: what it leaves to be done is about the room, and is not a
launch. -/
def KeepsToRoom {α : Type} (method : α → ApiRoom → Except TwirpError RoomEffect) : Prop :=
  ∀ request room effect, method request room = .ok effect →
    ∀ task ∈ effect.tasks, task.room = room.name ∧ ∀ s, task.Settled s

theorem onRoom_eq_ok {α : Type} {grant : ApiGrant} {body : Except TwirpError (InRoom α)}
    {check : α → Except TwirpError Unit} {method : α → ApiRoom → Except TwirpError RoomEffect}
    (h : onRoom grant s body check method = .ok result) :
    ∃ (r : InRoom α) (room : ApiRoom) (effect : RoomEffect),
      ensureAdmin grant r.room = .ok () ∧ room.name = r.room ∧
      method r.request room = .ok effect ∧
      result = ⟨effect.response,
        (s.setRoom { room with metadata := effect.metadata, members := effect.members }).send
          room.name effect.messages, effect.tasks⟩ := by
  obtain ⟨r, -, h⟩ := bind_eq_ok_iff.mp h
  obtain ⟨_, hadmin, h⟩ := bind_eq_ok_iff.mp h
  obtain ⟨_, -, h⟩ := bind_eq_ok_iff.mp h
  cases hget : s.getRoom r.room with
  | none =>
    simp [hget] at h
  | some room =>
    rw [hget] at h
    obtain ⟨effect, hmethod, ⟨⟩⟩ := bind_eq_ok_iff.mp h
    have hname : room.name = r.room := by simpa using List.find?_some hget
    exact ⟨r, room, effect, hadmin, hname, hmethod, rfl⟩

/-- **A method that administers a room is isolated.** It may depend on the limits. -/
theorem isolated_onRoom {α : Type} (body : Except TwirpError (InRoom α))
    (check : LimitConfig → α → Except TwirpError Unit)
    (method : LimitConfig → α → ApiRoom → Except TwirpError RoomEffect)
    (hmethod : KeepsToRoom (method s.limit)) :
    Isolated name s fun s => onRoom (adminOf name) s body (check s.limit) (method s.limit) where
  response t ht := by
    simp only [ht.limit]
    cases body with
    | error e => rfl
    | ok r =>
      simp only [onRoom, bind, Except.bind]
      by_cases hr : r.room = name
      · rw [ensureAdmin_adminOf.mpr hr, hr, ht.getRoom]
        cases check s.limit r.request with
        | error e => rfl
        | ok _ =>
          cases s.getRoom name with
          | none => rfl
          | some room =>
            simp only
            cases method s.limit r.request room with
            | _ => rfl
      · rw [ensureAdmin_adminOf_of_ne hr]
  server result hok other hother := by
    obtain ⟨r, room, effect, hadmin, hname, -, rfl⟩ := onRoom_eq_ok hok
    have hne : room.name ≠ other := by
      rw [hname, ensureAdmin_adminOf.mp hadmin]
      exact hother.symm
    exact (view_send hne).trans (view_setRoom hne)
  settled result hok task htask := by
    obtain ⟨r, room, effect, -, -, heffect, rfl⟩ := onRoom_eq_ok hok
    exact (hmethod r.request room effect heffect task htask).2 _
  tasks result hok task htask later hsettled outcome other hother := by
    obtain ⟨r, room, effect, hadmin, hname, heffect, rfl⟩ := onRoom_eq_ok hok
    refine ApiTask.view_run ?_ hsettled
    rw [(hmethod r.request room effect heffect task htask).1, hname,
      ensureAdmin_adminOf.mp hadmin]
    exact hother.symm

end Isolation

/-! ## The methods on a room -/

section Methods

theorem keepsToRoom_of_tasks_eq_nil {α : Type} {method : α → ApiRoom → Except TwirpError RoomEffect}
    (h : ∀ request room effect, method request room = .ok effect → effect.tasks = []) :
    KeepsToRoom method := by
  intro request room effect heffect task htask
  simp [h request room effect heffect] at htask

theorem keepsToRoom_listParticipants : KeepsToRoom fun _ : Unit => listParticipants := by
  refine keepsToRoom_of_tasks_eq_nil fun _ room effect h => ?_
  cases h
  rfl

theorem keepsToRoom_getParticipant : KeepsToRoom getParticipant := by
  refine keepsToRoom_of_tasks_eq_nil fun identity room effect h => ?_
  obtain ⟨p, -, ⟨⟩⟩ := bind_eq_ok_iff.mp h
  rfl

theorem keepsToRoom_removeParticipant : KeepsToRoom removeParticipant := by
  intro identity room effect h task htask
  obtain ⟨p, -, ⟨⟩⟩ := bind_eq_ok_iff.mp h
  rw [mem_singleton.mp htask]
  exact ⟨rfl, fun _ => trivial⟩

theorem keepsToRoom_mutePublishedTrack : KeepsToRoom mutePublishedTrack := by
  intro r room effect h task htask
  obtain ⟨p, -, h⟩ := bind_eq_ok_iff.mp h
  cases htrack : p.tracks.lookup r.trackSid with
  | none =>
    simp [htrack] at h
  | some old =>
    rw [htrack] at h
    cases h
    rw [mem_singleton.mp htask]
    exact ⟨rfl, fun _ => trivial⟩

theorem keepsToRoom_updateParticipantMethod (limit : LimitConfig) :
    KeepsToRoom (updateParticipantMethod limit) := by
  refine keepsToRoom_of_tasks_eq_nil fun r room effect h => ?_
  obtain ⟨updated, -, ⟨⟩⟩ := bind_eq_ok_iff.mp h
  rfl

theorem keepsToRoom_updateSubscriptionsMethod :
    KeepsToRoom fun r : Identity × UpdateSubscription => updateSubscriptionsMethod r.1 r.2 := by
  intro r room effect h task htask
  obtain ⟨p, -, ⟨⟩⟩ := bind_eq_ok_iff.mp h
  rw [mem_singleton.mp htask]
  exact ⟨rfl, fun _ => trivial⟩

theorem keepsToRoom_sendDataMethod (messageId : String) :
    KeepsToRoom fun r => sendDataMethod r messageId := by
  refine keepsToRoom_of_tasks_eq_nil fun r room effect h => ?_
  cases h
  rfl

theorem keepsToRoom_updateRoomMetadata : KeepsToRoom updateRoomMetadata := by
  refine keepsToRoom_of_tasks_eq_nil fun metadata room effect h => ?_
  rw [updateRoomMetadata] at h
  split at h
  all_goals
    cases h
    rfl

end Methods

/-! ## The methods on dispatches -/

section Dispatches

variable {name : String} {s : ApiServer} {fresh : Fresh}

/-- A request for a dispatch in another room. -/
def elsewhere (name : String) : CreateDispatchRequest where
  agentName := "agent"
  room := name ++ "-"

theorem room_elsewhere_ne (name : String) : (elsewhere name).room ≠ name := by
  intro h
  have hlength := congrArg String.length h
  simp [elsewhere] at hlength

variable {id : String} {d : AgentDispatch}

theorem agreesOn_elsewhere (hfree : s.agents.find id = none) :
    AgreesOn name s { s with agents := s.agents.createDispatch (elsewhere name) id 0 } := by
  have hne := room_elsewhere_ne name
  refine ⟨rfl, rfl, rfl, view_agents ((AgentManager.ofRoom_createDispatch_iff hne).mpr ?_)⟩
  intro d hd hid
  simp [AgentManager.find_eq_some_iff.mpr ⟨hd, hid⟩] at hfree

theorem AgreesOn.find {t : ApiServer} (h : AgreesOn name s t) (hd : d ∈ s.agents.dispatches)
    (hid : d.id = id) (hroom : d.room = name) :
    t.agents.find id = some d := by
  have hmem : d ∈ t.agents.ofRoom name := by
    rw [h.ofRoom]
    exact AgentManager.mem_ofRoom_iff.mpr ⟨hd, hroom⟩
  exact AgentManager.find_eq_some_iff.mpr ⟨(AgentManager.mem_ofRoom_iff.mp hmem).1, hid⟩

/-! ### `CreateDispatch` -/

theorem createDispatch_of_admin {r : CreateDispatchRequest} (hr : r.room = name)
    (hagent : r.agentName ≠ "") (hroom : r.room ≠ "") (s : ApiServer) :
    createDispatch (adminOf name) fresh s (.ok r) =
      .ok ⟨.dispatch (AgentManager.newDispatch r fresh.dispatchId fresh.now).info,
        { s with agents := s.agents.createDispatch r fresh.dispatchId fresh.now },
        if (s.getRoom r.room).isSome then
          [.launchJob (AgentManager.newDispatch r fresh.dispatchId fresh.now)] else []⟩ := by
  simp only [createDispatch, bind, Except.bind, ensureAdmin_adminOf.mpr hr, if_neg hagent,
    if_neg hroom]
  rfl

theorem mem_launch {task : ApiTask} {p : Prop} [Decidable p]
    (h : task ∈ if p then [ApiTask.launchJob d] else []) : task = .launchJob d := by
  split at h
  · exact mem_singleton.mp h
  · cases h

/-- **`CreateDispatch` is isolated** if no dispatch of another room has the id that is drawn. -/
theorem isolated_createDispatch_iff {r : CreateDispatchRequest} (hr : r.room = name)
    (hagent : r.agentName ≠ "") (hroom : r.room ≠ "") :
    Isolated name s (fun s => createDispatch (adminOf name) fresh s (.ok r)) ↔
      ∀ d ∈ s.agents.dispatches, d.id = fresh.dispatchId → d.room = name := by
  have hserve : ∀ t, createDispatch (adminOf name) fresh t (.ok r) = _ :=
    createDispatch_of_admin hr hagent hroom
  constructor
  · intro h d hd hid
    by_contra hne
    -- its room would lose the dispatch
    have hview := h.server _ (hserve s) d.room hne
    have hdispatches := congrArg RoomView.dispatches hview
    refine (AgentManager.ofRoom_createDispatch_iff ?_).mp hdispatches d hd hid rfl
    rw [hr]
    exact Ne.symm hne
  · intro h
    refine ⟨fun t _ => ?_, fun result hok other hother => ?_, fun result hok task htask => ?_,
      fun result hok task htask later hsettled outcome other hother => ?_⟩
    · rw [hserve t, hserve s]
      rfl
    · rw [hserve s] at hok
      cases hok
      refine view_agents ((AgentManager.ofRoom_createDispatch_iff ?_).mpr fun d hd hid => ?_)
      · rw [hr]
        exact hother.symm
      · rw [h d hd hid]
        exact hother.symm
    · rw [hserve s] at hok
      cases hok
      obtain rfl := mem_launch htask
      -- what is registered under the new id is the new dispatch
      intro e he hid
      rcases mem_append.mp he with he | he
      · have hne : e.id ≠ fresh.dispatchId := of_decide_eq_true (mem_filter.mp he).2
        exact absurd hid hne
      · rw [mem_singleton.mp he]
    · rw [hserve s] at hok
      cases hok
      obtain rfl := mem_launch htask
      refine ApiTask.view_run ?_ hsettled
      show r.room ≠ other
      rw [hr]
      exact hother.symm

/-! ### `DeleteDispatch` -/

theorem deleteDispatch_of_some {r : InRoom String} (hr : r.room = name) {s : ApiServer}
    (h : s.agents.find r.request = some d) :
    deleteDispatch (adminOf name) fresh s (.ok r) =
      .ok ⟨.dispatch { d with deletedAt := some fresh.now : AgentDispatch }.info,
        { s with agents := s.agents.erase r.request }.tell (s.terminations d.jobs), []⟩ := by
  simp only [deleteDispatch, bind, Except.bind, ensureAdmin_adminOf.mpr hr,
    AgentManager.deleteDispatch, h, Option.map_some]
  rfl

/-- **`DeleteDispatch` is isolated** if the id is that of a dispatch of the room, and nobody is told
of jobs for other rooms. -/
theorem isolated_deleteDispatch_iff {r : InRoom String} (hr : r.room = name) :
    Isolated name s (fun s => deleteDispatch (adminOf name) fresh s (.ok r)) ↔
      ∃ d ∈ s.agents.dispatches, d.id = r.request ∧ d.room = name ∧
        ∀ job ∈ d.jobs, job.room ≠ name → s.agents.workersFor job.agentName = [] := by
  constructor
  · intro h
    cases hfind : s.agents.find r.request with
    | none =>
      -- with a dispatch of another room under the id, the call would succeed
      have hresponse := h.response _ (agreesOn_elsewhere hfind)
      rw [deleteDispatch_of_some hr AgentManager.find_createDispatch] at hresponse
      simp [deleteDispatch, bind, Except.bind, ensureAdmin_adminOf.mpr hr,
        AgentManager.deleteDispatch, hfind, Except.map] at hresponse
    | some d =>
      obtain ⟨hd, hid⟩ := AgentManager.find_eq_some_iff.mp hfind
      have hserver := h.server _ (deleteDispatch_of_some hr hfind)
      refine ⟨d, hd, hid, ?_, fun job hjob hne => ?_⟩
      · by_contra hne
        have hdispatches := congrArg RoomView.dispatches (hserver d.room hne)
        exact AgentManager.ofRoom_erase_iff.mp hdispatches d hd hid rfl
      · have hjobs := congrArg RoomView.jobs (hserver job.room hne)
        have hnone : (s.terminations d.jobs).filter (fun x => x.2.job.room = job.room) = [] := by
          simpa [ApiServer.view, ApiServer.tell, filter_append] using hjobs
        refine eq_nil_iff_forall_not_mem.mpr fun w hw => ?_
        have hmem : (w.workerId, WorkerMessage.termination job) ∈ s.terminations d.jobs :=
          mem_flatMap.mpr ⟨job, hjob, mem_map.mpr ⟨w, hw, rfl⟩⟩
        simpa [WorkerMessage.job] using filter_eq_nil_iff.mp hnone _ hmem
  · rintro ⟨d, hd, hid, hroom, hjobs⟩
    have hfind : s.agents.find r.request = some d := AgentManager.find_eq_some_iff.mpr ⟨hd, hid⟩
    refine isolated_of_tasks_eq_nil (fun t ht => ?_) (deleteDispatch_of_some hr hfind) rfl
      fun other hother => ?_
    · rw [deleteDispatch_of_some hr (ht.find hd hid hroom), deleteDispatch_of_some hr hfind]
      rfl
    · refine (view_tell fun x hx => ?_).trans
        (view_agents (AgentManager.ofRoom_erase_iff.mpr fun e he heid => ?_))
      · obtain ⟨job, hjob, hx⟩ := mem_flatMap.mp hx
        obtain ⟨w, hw, rfl⟩ := mem_map.mp hx
        have hown : job.room = name := by
          by_contra hne
          simp [hjobs job hjob hne] at hw
        show job.room ≠ other
        rw [hown]
        exact hother.symm
      · rw [inj_on_of_nodup_map s.agents.ids_nodup he hd (heid.trans hid.symm), hroom]
        exact hother.symm

/-! ### `ListDispatch` -/

theorem listDispatch_of_admin {r : InRoom String} (hr : r.room = name) (s : ApiServer) :
    listDispatch (adminOf name) s (.ok r) =
      .ok ⟨.dispatches ((if r.request = "" then s.agents.ofRoom name
        else (s.agents.find r.request).toList).map AgentDispatch.info), s, []⟩ := by
  subst hr
  simp only [listDispatch, bind, Except.bind, ensureAdmin_adminOf.mpr rfl,
    AgentManager.listDispatches_eq, AgentManager.getDispatch_eq]
  rfl

/-- **`ListDispatch` is isolated** if no id is given, or that of a dispatch of the room. -/
theorem isolated_listDispatch_iff {r : InRoom String} (hr : r.room = name) :
    Isolated name s (fun s => listDispatch (adminOf name) s (.ok r)) ↔
      r.request = "" ∨ ∃ d ∈ s.agents.dispatches, d.id = r.request ∧ d.room = name := by
  constructor
  · intro h
    by_cases hempty : r.request = ""
    · exact .inl hempty
    refine .inr ?_
    -- an id of another room, or of none, is found on one server and not on another
    have hresponse : ∀ t, AgreesOn name s t →
        (t.agents.find r.request).toList.map AgentDispatch.info =
          (s.agents.find r.request).toList.map AgentDispatch.info := by
      intro t ht
      have hsame := h.response t ht
      rw [listDispatch_of_admin hr, listDispatch_of_admin hr, if_neg hempty, if_neg hempty] at hsame
      simpa [Except.map] using hsame
    cases hfind : s.agents.find r.request with
    | none =>
      have hsame := hresponse _ (agreesOn_elsewhere hfind)
      simp [hfind, AgentManager.find_createDispatch] at hsame
    | some d =>
      obtain ⟨hd, hid⟩ := AgentManager.find_eq_some_iff.mp hfind
      refine ⟨d, hd, hid, ?_⟩
      by_contra hne
      have hagrees : AgreesOn name s { s with agents := s.agents.erase r.request } := by
        refine ⟨rfl, rfl, rfl, view_agents (AgentManager.ofRoom_erase_iff.mpr fun e he heid => ?_)⟩
        rw [inj_on_of_nodup_map s.agents.ids_nodup he hd (heid.trans hid.symm)]
        exact hne
      have hsame := hresponse _ hagrees
      simp [hfind, AgentManager.find_erase] at hsame
  · intro h
    refine isolated_of_tasks_eq_nil (fun t ht => ?_) (listDispatch_of_admin hr s) rfl fun _ _ => rfl
    rw [listDispatch_of_admin hr, listDispatch_of_admin hr, ht.ofRoom]
    rcases h with hempty | ⟨d, hd, hid, hroom⟩
    · rw [if_pos hempty, if_pos hempty]
      rfl
    · rw [ht.find hd hid hroom, AgentManager.find_eq_some_iff.mpr ⟨hd, hid⟩]
      rfl

end Dispatches

/-! ## Which calls are isolated -/

/-- **The call keeps to the room.** Only the services that look a dispatch up by id, or put one
under an id, may fail to; they do not get that far with a request that is refused. -/
def Confined (name : String) (fresh : Fresh) (s : ApiServer) : ApiCall → Prop
  | .createDispatch (.ok r) => r.room = name → r.agentName ≠ "" → r.room ≠ "" →
      ∀ d ∈ s.agents.dispatches, d.id = fresh.dispatchId → d.room = name
  | .deleteDispatch (.ok r) => r.room = name →
      ∃ d ∈ s.agents.dispatches, d.id = r.request ∧ d.room = name ∧
        ∀ job ∈ d.jobs, job.room ≠ name → s.agents.workersFor job.agentName = []
  | .listDispatch (.ok r) => r.room = name →
      r.request = "" ∨ ∃ d ∈ s.agents.dispatches, d.id = r.request ∧ d.room = name
  | _ => True

theorem isolated_iff_of_admin {name room : String} {s : ApiServer} {p : Prop}
    {service : ApiServer → Except TwirpError ApiResult}
    (hrefused : room ≠ name → ∀ t, service t = .error ⟨.unauthenticated, "permissions denied"⟩)
    (h : room = name → (Isolated name s service ↔ p)) :
    Isolated name s service ↔ (room = name → p) := by
  by_cases hr : room = name
  · rw [h hr]
    exact ⟨fun h _ => h, fun h => h hr⟩
  · exact iff_of_true (isolated_of_error (hrefused hr)) fun h => absurd h hr

/-- **Which calls are isolated**, for a token that administers one room and nothing else: all but
those that name, or are given, the id of a dispatch elsewhere. -/
theorem admin_isolated_iff (name : String) (fresh : Fresh) (s : ApiServer) (call : ApiCall) :
    Isolated name s (fun s => serve (adminOf name) fresh s call) ↔ Confined name fresh s call := by
  cases call with
  | createRoom | listRooms | deleteRoom | unsupported | unknown =>
    exact iff_of_true (isolated_of_error fun _ => rfl) trivial
  | listParticipants body =>
    exact iff_of_true (isolated_onRoom body (fun _ _ => .ok ()) (fun _ _ => listParticipants)
      keepsToRoom_listParticipants) trivial
  | getParticipant body =>
    exact iff_of_true (isolated_onRoom body (fun _ _ => .ok ()) (fun _ => getParticipant)
      keepsToRoom_getParticipant) trivial
  | removeParticipant body =>
    exact iff_of_true (isolated_onRoom body (fun _ _ => .ok ()) (fun _ => removeParticipant)
      keepsToRoom_removeParticipant) trivial
  | mutePublishedTrack body =>
    exact iff_of_true (isolated_onRoom body (fun _ _ => .ok ()) (fun _ => mutePublishedTrack)
      keepsToRoom_mutePublishedTrack) trivial
  | updateParticipant body =>
    exact iff_of_true (isolated_onRoom body (fun _ _ => .ok ()) updateParticipantMethod
      (keepsToRoom_updateParticipantMethod s.limit)) trivial
  | updateSubscriptions body =>
    exact iff_of_true (isolated_onRoom body (fun _ _ => .ok ())
      (fun _ r => updateSubscriptionsMethod r.1 r.2)
      keepsToRoom_updateSubscriptionsMethod) trivial
  | sendData body =>
    exact iff_of_true (isolated_onRoom body (fun _ _ => .ok ())
      (fun _ r => sendDataMethod r fresh.messageId)
      (keepsToRoom_sendDataMethod fresh.messageId)) trivial
  | updateRoomMetadata body =>
    exact iff_of_true (isolated_onRoom body validateMetadata (fun _ => updateRoomMetadata)
      keepsToRoom_updateRoomMetadata) trivial
  | createDispatch body =>
    cases body with
    | error e => exact iff_of_true (isolated_of_error fun _ => rfl) trivial
    | ok r =>
      refine isolated_iff_of_admin (fun hr t => by
        simp [serve, createDispatch, bind, Except.bind, ensureAdmin_adminOf_of_ne hr]) fun hr => ?_
      by_cases hagent : r.agentName = ""
      · refine iff_of_true (isolated_of_error
          (e := ⟨.invalidArgument, "agent name is required"⟩) fun t => ?_)
          fun hne => absurd hagent hne
        simp [serve, createDispatch, bind, Except.bind, ensureAdmin_adminOf.mpr hr, if_pos hagent]
      by_cases hroom : r.room = ""
      · refine iff_of_true (isolated_of_error
          (e := ⟨.invalidArgument, "room is required"⟩) fun t => ?_)
          fun _ hne => absurd hroom hne
        simp only [serve, createDispatch, bind, Except.bind, ensureAdmin_adminOf.mpr hr,
          if_neg hagent, if_pos hroom]
      refine (isolated_createDispatch_iff hr hagent hroom).trans ?_
      exact ⟨fun h _ _ => h, fun h => h hagent hroom⟩
  | deleteDispatch body =>
    cases body with
    | error e => exact iff_of_true (isolated_of_error fun _ => rfl) trivial
    | ok r =>
      exact isolated_iff_of_admin (fun hr t => by
        simp [serve, deleteDispatch, bind, Except.bind, ensureAdmin_adminOf_of_ne hr])
        isolated_deleteDispatch_iff
  | listDispatch body =>
    cases body with
    | error e => exact iff_of_true (isolated_of_error fun _ => rfl) trivial
    | ok r =>
      exact isolated_iff_of_admin (fun hr t => by
        simp [serve, listDispatch, bind, Except.bind, ensureAdmin_adminOf_of_ne hr])
        isolated_listDispatch_iff

/-- A job that runs in room `b`. -/
def foreignJob : AgentJob := ⟨"LJ_1", "DA_1", "b", "agent", "", "", []⟩

/-- The dispatch of the job. -/
def foreignDispatch : AgentDispatch :=
  ⟨"DA_1", "agent", "b", "secret", "", [], 0, none, [foreignJob]⟩

/-- A server with the dispatch, and a worker for it. -/
def sharedServer : ApiServer where
  limit := {}
  defaults := {}
  rooms := []
  agents := ⟨[⟨"W", "agent"⟩], [foreignDispatch], by decide, by decide⟩
  messages := []
  workerLog := []
  webhooks := []

/-- **A dispatch of room `b` is read and deleted by the administrator of room `a`**, and its job is
terminated. -/
theorem foreign_dispatch_deleted :
    ((serve (adminOf "a") ⟨"", "", "", 1, 1000⟩ sharedServer
        (.listDispatch (.ok ⟨"a", "DA_1"⟩))).map ApiResult.response).toOption =
          some (.dispatches [foreignDispatch.info]) ∧
      (sharedServer.view "b").dispatches = [foreignDispatch] ∧
      ((serve (adminOf "a") ⟨"", "", "", 1, 1000⟩ sharedServer
        (.deleteDispatch (.ok ⟨"a", "DA_1"⟩))).map fun result => result.server.view "b").toOption =
          some ⟨[], [], [], [("W", .termination foreignJob)], []⟩ := by
  decide +kernel

end LivekitVoice

