import LivekitVoice.Agent.Dispatch
import LivekitVoice.Transition.Pool
import LivekitVoice.Transition.Run

/-! # Terminating the jobs of a room or a dispatch

`launch_room_job` has a worker take a job (`dispatch_job`, which ends with the assignment) and then
records the job with its dispatch (`track_job`). `Room::close` and `DeleteDispatch` find jobs to
terminate in these records: the first takes the jobs of its room from all dispatches, the second
removes the dispatch and goes through its jobs. The worker of a job is not recorded; a termination
goes to every worker of the agent. All of them run at the same time, and the workers stay connected.

* **`jobs_terminated`** — under `InTime`, every job of a closed room or a deleted dispatch is sent a
  termination. -/

namespace LivekitVoice

open List Option Transition

namespace AgentDispatch

variable {d : AgentDispatch} {job j : AgentJob}

theorem mem_jobs_track : j ∈ (d.track job).jobs ↔ j ∈ d.jobs ∨
    (job.dispatchId ≠ "" ∧ d.id = job.dispatchId ∧ ∀ k ∈ d.jobs, k.id ≠ job.id) ∧ j = job := by
  rw [track]
  split
  · next hnew => rw [mem_append, mem_singleton, and_iff_right hnew]
  · next hold => rw [or_iff_left fun h => hold h.1]

end AgentDispatch

namespace AgentManager

/-- `register_worker`. -/
def registerWorker (m : AgentManager) (w : AgentWorker) : AgentManager :=
  { m with workers := m.workers ++ [w] }

/-- The jobs that `terminate_room_jobs` finds. -/
def roomJobs (m : AgentManager) (name : String) : List AgentJob :=
  m.dispatches.flatMap fun d => d.jobs.filter fun j => j.room = name

variable {m : AgentManager} {d : AgentDispatch}

theorem mem_roomJobs {name : String} {job : AgentJob} :
    job ∈ m.roomJobs name ↔ (∃ d ∈ m.dispatches, job ∈ d.jobs) ∧ job.room = name := by
  simp only [roomJobs, mem_flatMap, mem_filter, decide_eq_true_eq]
  constructor
  · rintro ⟨d, hd, hjob, hroom⟩
    exact ⟨⟨d, hd, hjob⟩, hroom⟩
  · rintro ⟨⟨d, hd, hjob⟩, hroom⟩
    exact ⟨d, hd, hjob, hroom⟩

theorem mem_erase {id : String} : d ∈ (m.erase id).dispatches ↔ d ∈ m.dispatches ∧ d.id ≠ id := by
  rw [erase, mem_filter]
  simp

theorem mem_trackJob {job : AgentJob} :
    d ∈ (m.trackJob job).dispatches ↔ ∃ e ∈ m.dispatches, e.track job = d := mem_map

end AgentManager

/-! ## The calls -/

/-- Where a `launch_room_job` stands. -/
inductive JobPc
  /-- In `dispatch_job`. -/
  | asking
  /-- The assignment was sent; the job is to be recorded. -/
  | assigned
  | done
  | failed
  deriving DecidableEq

/-- Where a `Room::close` stands. -/
inductive ShutdownPc
  | swap
  /-- `terminate_room_jobs` is to look for the jobs. -/
  | collect
  /-- These jobs are left. -/
  | terminate (todo : List AgentJob)
  | closed
  /-- The flag was set before. -/
  | returned
  deriving DecidableEq

/-- Where a `DeleteDispatch` stands. -/
inductive DeletePc
  | remove (now : Int)
  /-- These jobs are left. -/
  | terminate (todo : List AgentJob)
  | deleted
  | notFound
  deriving DecidableEq

/-- **A call.** -/
inductive JobCall
  | launch (job : AgentJob) (room : Nat) (pc : JobPc)
  | close (room : Nat) (pc : ShutdownPc)
  | delete (id : String) (pc : DeletePc)
  deriving DecidableEq

namespace JobCall

/-- The id of the job it launches. -/
def jobId : JobCall → Option String
  | .launch job _ _ => some job.id
  | .close _ _ | .delete _ _ => none

/-- The job it has assigned and not recorded. -/
def untracked : JobCall → Option AgentJob
  | .launch job _ .assigned => some job
  | _ => none

/-- The room whose jobs it has looked for, and the jobs that are left. -/
def closing : JobCall → Option (Nat × List AgentJob)
  | .close r (.terminate todo) => some (r, todo)
  | .close r .closed => some (r, [])
  | _ => none

/-- The dispatch it has removed, and the jobs that are left. -/
def deleting : JobCall → Option (String × List AgentJob)
  | .delete id (.terminate todo) => some (id, todo)
  | .delete id .deleted => some (id, [])
  | _ => none

/-- It launches a job, and has not finished. -/
def launching : JobCall → Bool
  | .launch _ _ .asking | .launch _ _ .assigned => true
  | _ => false

end JobCall

/-- A room. -/
structure JobRoom where
  name : String
  closed : Bool

/-- What is sent to workers. -/
inductive JobEvent
  /-- The assignment of a job in the room with this number. -/
  | assigned (job : AgentJob) (room : Nat) (worker : AgentWorker)
  | terminated (jobId : String) (worker : AgentWorker)
  deriving DecidableEq

/-- **The agents of a server**: rooms are numbered, since a name may be used again. -/
structure JobServer where
  manager : AgentManager
  rooms : List JobRoom
  /-- The dispatch ids that were given out; they are random, and none is given out twice. -/
  issued : List String
  calls : List JobCall
  log : List JobEvent

/-- What can happen. -/
inductive JobAction
  | register (w : AgentWorker)
  | createRoom (name : String)
  | createDispatch (req : CreateDispatchRequest) (id : String) (now : Int)
  /-- A launch begins, from a session, from `CreateDispatch` or from the creation of a room. -/
  | launch (job : AgentJob) (room : Nat)
  | close (room : Nat)
  | delete (id : String) (now : Int)
  /-- A worker has accepted the job of call `i`, and is sent the assignment. -/
  | assign (i : Nat) (w : AgentWorker)
  /-- The `dispatch_job` of call `i` fails. -/
  | fail (i : Nat)
  /-- Call `i` goes on. -/
  | next (i : Nat)

namespace JobServer

/-- A server that has just started. -/
def init : JobServer where
  manager := .new
  rooms := []
  issued := []
  calls := []
  log := []

variable (s : JobServer)

/-- A call begins. -/
def push (c : JobCall) : JobServer := { s with calls := s.calls ++ [c] }

/-- Call `i` is now this. -/
def setCall (i : Nat) (c : JobCall) : JobServer :=
  { s with calls := s.calls.set i c }

/-- Messages are sent. -/
def emit (events : List JobEvent) : JobServer := { s with log := s.log ++ events }

/-- The terminations of a job: to every worker of its agent. -/
def terminations (job : AgentJob) : List JobEvent :=
  (s.manager.workersFor job.agentName).map fun w => .terminated job.id w

/-- A step of `Room::close`. -/
def closeStep (i r : Nat) (room : JobRoom) : ShutdownPc → Option JobServer
  | .swap =>
    some (if room.closed then s.setCall i (.close r .returned)
      else { s with rooms := s.rooms.set r ⟨room.name, true⟩ }.setCall i (.close r .collect))
  -- `terminate_room_jobs` takes the jobs of all dispatches under one lock, by the room's name
  | .collect => some (s.setCall i (.close r (.terminate (s.manager.roomJobs room.name))))
  | .terminate (job :: todo) =>
    some ((s.emit (s.terminations job)).setCall i (.close r (.terminate todo)))
  | .terminate [] => some (s.setCall i (.close r .closed))
  | .closed | .returned => none

/-- A step of `DeleteDispatch`. -/
def deleteStep (i : Nat) (id : String) : DeletePc → Option JobServer
  | .remove now =>
    match s.manager.deleteDispatch id now with
    | none => some (s.setCall i (.delete id .notFound))
    | some (d, manager) =>
      some ({ s with manager := manager }.setCall i (.delete id (.terminate d.jobs)))
  | .terminate (job :: todo) =>
    some ((s.emit (s.terminations job)).setCall i (.delete id (.terminate todo)))
  | .terminate [] => some (s.setCall i (.delete id .deleted))
  | .deleted | .notFound => none

/-- The next step of a call. -/
def callStep (i : Nat) : JobCall → Option JobServer
  | .launch job r .assigned =>
    some ({ s with manager := s.manager.trackJob job }.setCall i (.launch job r .done))
  | .launch _ _ _ => none
  | .close r pc => s.rooms[r]?.bind fun room => s.closeStep i r room pc
  | .delete id pc => s.deleteStep i id pc

/-- **One step.** -/
def step : JobAction → Option JobServer
  | .register w => some { s with manager := s.manager.registerWorker w }
  | .createRoom name => some { s with rooms := s.rooms ++ [⟨name, false⟩] }
  | .createDispatch req id now =>
    if id ∈ s.issued then none
    else some { s with
      manager := s.manager.createDispatch req id now
      issued := s.issued ++ [id] }
  | .launch job r =>
    -- the job has an id of its own, and the name of its room
    if (∀ c ∈ s.calls, c.jobId ≠ some job.id) ∧ s.rooms[r]?.map JobRoom.name = some job.room then
      some (s.push (.launch job r .asking))
    else none
  | .close r => if r < s.rooms.length then some (s.push (.close r .swap)) else none
  | .delete id now => some (s.push (.delete id (.remove now)))
  | .assign i w =>
    match s.calls[i]? with
    | some (.launch job r .asking) =>
      if w ∈ s.manager.workersFor job.agentName then
        some ((s.emit [.assigned job r w]).setCall i (.launch job r .assigned))
      else none
    | _ => none
  | .fail i =>
    match s.calls[i]? with
    | some (.launch job r .asking) => some (s.setCall i (.launch job r .failed))
    | _ => none
  | .next i => s.calls[i]?.bind (s.callStep i)

/-! ## Terminations -/

/-- The worker was sent the termination of a job after its assignment. -/
def Ended (log : List JobEvent) (job : AgentJob) (r : Nat) (w : AgentWorker) : Prop :=
  [JobEvent.assigned job r w, .terminated job.id w].Sublist log

/-- **Jobs are terminated** when their room has closed, or their dispatch was deleted, and no launch
is in flight. -/
structure Terminated (s : JobServer) : Prop where
  ofRoom : (∀ c ∈ s.calls, c.launching = false) → ∀ r, .close r .closed ∈ s.calls →
    ∀ job w, .assigned job r w ∈ s.log → Ended s.log job r w
  ofDispatch : (∀ c ∈ s.calls, c.launching = false) → ∀ id, .delete id .deleted ∈ s.calls →
    ∀ job r w, .assigned job r w ∈ s.log → job.dispatchId = id → Ended s.log job r w

/-- The condition on an assignment: the dispatch of the job is there, and nobody has looked for the
jobs of the room. -/
def AssignsInTime : JobCall → Prop
  | .launch job r .asking => job.dispatchId ≠ "" ∧ (s.manager.find job.dispatchId).isSome ∧
      ∀ c ∈ s.calls, ∀ x ∈ c.closing, x.1 ≠ r
  | _ => True

/-- The condition on a look for jobs: none of those looked for is assigned and not recorded, and
`Room::close` does not find a `DeleteDispatch` that has yet to terminate one of its jobs. -/
def LooksInTime : JobCall → Prop
  | .close r .collect => ∀ room ∈ s.rooms[r]?, ∀ c ∈ s.calls,
      (∀ job ∈ c.untracked, job.room ≠ room.name) ∧
      ∀ x ∈ c.deleting, ∀ job ∈ x.2, job.room ≠ room.name
  | .delete id (.remove _) => ∀ c ∈ s.calls, ∀ job ∈ c.untracked, job.dispatchId ≠ id
  | _ => True

/-- **The condition on a step.** -/
def InTime : JobAction → Prop
  | .assign i _ => ∀ c ∈ s.calls[i]?, s.AssignsInTime c
  | .next i => ∀ c ∈ s.calls[i]?, s.LooksInTime c
  | _ => True

instance (c : JobCall) : Decidable (s.AssignsInTime c) := by
  unfold AssignsInTime
  split <;> infer_instance

instance (c : JobCall) : Decidable (s.LooksInTime c) := by
  unfold LooksInTime
  split <;> infer_instance

instance (a : JobAction) : Decidable (s.InTime a) := by
  unfold InTime
  split <;> infer_instance

/-! ## The records of jobs -/

/-- **What the records hold**: jobs of launches that are over, each under the id of its own. -/
structure Kept (manager : AgentManager) (rooms : List JobRoom) (issued : List String)
    (calls : List JobCall) : Prop where
  distinct : Distinct JobCall.jobId calls
  live : ∀ d ∈ manager.dispatches, d.id ∈ issued
  tracked : ∀ d ∈ manager.dispatches, ∀ j ∈ d.jobs, ∃ r, .launch j r .done ∈ calls
  /-- A job that is to be recorded has a dispatch. -/
  pending : ∀ c ∈ calls, ∀ job, c.untracked = some job →
    job.dispatchId ≠ "" ∧ ∃ d ∈ manager.dispatches, d.id = job.dispatchId
  /-- A dispatch that was deleted is not there, and does not come back. -/
  gone : ∀ c ∈ calls, ∀ id todo, c.deleting = some (id, todo) →
    id ∈ issued ∧ ∀ d ∈ manager.dispatches, d.id ≠ id
  placed : ∀ job r pc, .launch job r pc ∈ calls → rooms[r]?.map JobRoom.name = some job.room

/-- **Where a job is that was assigned**: about to be recorded, recorded, or in the hands of a
`DeleteDispatch`. -/
def Located (job : AgentJob) : Prop :=
  (∃ c ∈ s.calls, c.untracked = some job) ∨
  (∃ d ∈ s.manager.dispatches, d.id = job.dispatchId ∧ job ∈ d.jobs) ∨
  ∃ c ∈ s.calls, ∃ todo, c.deleting = some (job.dispatchId, todo)

/-- **What is known of the assigned jobs**; and whoever has looked for jobs has them all. -/
structure Traced (s : JobServer) : Prop where
  worker : ∀ job r w, .assigned job r w ∈ s.log → w ∈ s.manager.workersFor job.agentName
  room : ∀ job r w, .assigned job r w ∈ s.log → s.rooms[r]?.map JobRoom.name = some job.room
  found : ∀ job r w, .assigned job r w ∈ s.log → s.Located job
  closed : ∀ c ∈ s.calls, ∀ r todo, c.closing = some (r, todo) →
    ∀ job w, .assigned job r w ∈ s.log → job ∈ todo ∨ Ended s.log job r w
  deleted : ∀ c ∈ s.calls, ∀ id todo, c.deleting = some (id, todo) →
    ∀ job r w, .assigned job r w ∈ s.log → job.dispatchId = id → job ∈ todo ∨ Ended s.log job r w

/-- **The invariant.** -/
structure Followed (s : JobServer) : Prop where
  kept : Kept s.manager s.rooms s.issued s.calls
  traced : Traced s

theorem followed_init : Followed init :=
  ⟨⟨distinct_nil _, nofun, nofun, nofun, nofun, nofun⟩, nofun, nofun, nofun, nofun, nofun⟩

variable {s s' : JobServer} {i : Nat} {c c' : JobCall} {job : AgentJob} {r : Nat}
  {w : AgentWorker} {manager : AgentManager} {rooms : List JobRoom} {issued : List String}
  {calls : List JobCall}

theorem Ended.append {log : List JobEvent} (h : Ended log job r w) (events : List JobEvent) :
    Ended (log ++ events) job r w := h.trans (sublist_append_left _ _)

theorem Located.setCall (h : s.Located job) (hi : s.calls[i]? = some c)
    (huntracked : c.untracked ≠ some job)
    (hdeleting : ∀ todo, c.deleting = some (job.dispatchId, todo) →
      ∃ todo', c'.deleting = some (job.dispatchId, todo')) : (s.setCall i c').Located job := by
  rcases h with ⟨d, hd, hjob⟩ | hrecorded | ⟨d, hd, todo, hjob⟩
  · exact .inl ⟨d, mem_set_of_ne hi hd fun heq => huntracked (heq ▸ hjob), hjob⟩
  · exact .inr (.inl hrecorded)
  · refine .inr (.inr ?_)
    by_cases hself : d = c
    · subst hself
      obtain ⟨todo', hc'⟩ := hdeleting todo hjob
      exact ⟨c', mem_set_stepped hi, todo', hc'⟩
    · exact ⟨d, mem_set_of_ne hi hd hself, todo, hjob⟩

theorem Located.mono (h : s.Located job) (hcalls : ∀ c ∈ s.calls, c ∈ s'.calls)
    (hdispatches : ∀ d ∈ s.manager.dispatches, d.id = job.dispatchId →
      ∃ e ∈ s'.manager.dispatches, e.id = d.id ∧ ∀ j ∈ d.jobs, j ∈ e.jobs) : s'.Located job := by
  rcases h with ⟨c, hc, hjob⟩ | ⟨d, hd, hid, hjob⟩ | ⟨c, hc, hdeleting⟩
  · exact .inl ⟨c, hcalls c hc, hjob⟩
  · obtain ⟨e, he, heid, hjobs⟩ := hdispatches d hd hid
    exact .inr (.inl ⟨e, he, heid.trans hid, hjobs job hjob⟩)
  · exact .inr (.inr ⟨c, hcalls c hc, hdeleting⟩)

variable {d : AgentDispatch} {id : String} {now : Int}

theorem Kept.tracked_set (hk : Kept manager rooms issued calls) (hi : calls[i]? = some c)
    (hc : ∀ j r, c ≠ .launch j r .done) (hd : d ∈ manager.dispatches)
    {j : AgentJob} (hj : j ∈ d.jobs) : ∃ r, .launch j r .done ∈ calls.set i c' := by
  obtain ⟨r, hdone⟩ := hk.tracked d hd j hj
  exact ⟨r, mem_set_of_ne hi hdone fun heq => hc j r heq.symm⟩

theorem Kept.placed_set (hk : Kept manager rooms issued calls) (hi : calls[i]? = some c)
    (hc : ∀ job r pc, c' = .launch job r pc → ∃ pc', c = .launch job r pc') (job : AgentJob)
    (r : Nat) (pc : JobPc) (hmem : .launch job r pc ∈ calls.set i c') :
    rooms[r]?.map JobRoom.name = some job.room := by
  rcases mem_or_eq_of_mem_set hmem with hold | heq
  · exact hk.placed job r pc hold
  · obtain ⟨pc', rfl⟩ := hc job r pc heq.symm
    exact hk.placed job r pc' (mem_of_getElem? hi)

/-! ## Calls that go on -/

/-- A step of a call that launches nothing, or gives up. -/
structure Yields (c c' : JobCall) : Prop where
  jobId : c'.jobId = c.jobId
  notDone : ∀ j r, c ≠ .launch j r .done
  tracked : c.untracked = none
  untracked : c'.untracked = none
  launch : ∀ job r pc, c' = .launch job r pc → ∃ pc', c = .launch job r pc'
  /-- A dispatch that was deleted remains so. -/
  deleting : ∀ id todo, c.deleting = some (id, todo) → ∃ todo', c'.deleting = some (id, todo')
  removed : ∀ id todo, c'.deleting = some (id, todo) → ∃ todo', c.deleting = some (id, todo')

theorem Kept.yield (hk : Kept manager rooms issued calls) (hi : calls[i]? = some c)
    (hyields : Yields c c') : Kept manager rooms issued (calls.set i c') where
  distinct := hk.distinct.set_of_le hi fun k hkey => hyields.jobId ▸ hkey
  live := hk.live
  tracked d hd j hj := hk.tracked_set hi hyields.notDone hd hj
  pending := forall_mem_set hk.pending (by simp [hyields.untracked])
  gone := forall_mem_set hk.gone fun id todo hdeleting => by
    obtain ⟨todo', hc⟩ := hyields.removed id todo hdeleting
    exact hk.gone c (mem_of_getElem? hi) id todo' hc
  placed := hk.placed_set hi hyields.launch

/-- What a call says of the jobs that are left is right: the others assigned have ended since. -/
def Accounts (log log' : List JobEvent) (c : JobCall) : Prop :=
  (∀ r todo, c.closing = some (r, todo) → ∀ job w, .assigned job r w ∈ log →
    job ∈ todo ∨ Ended log' job r w) ∧
  ∀ id todo, c.deleting = some (id, todo) → ∀ job r w, .assigned job r w ∈ log →
    job.dispatchId = id → job ∈ todo ∨ Ended log' job r w

/-- **A call goes on**, and sends terminations. -/
theorem Followed.yield (hs : Followed s) (events : List JobEvent) (hi : s.calls[i]? = some c)
    (hyields : Yields c c') (hevents : ∀ job r w, .assigned job r w ∉ events)
    (haccounts : Accounts s.log (s.log ++ events) c') :
    Followed ((s.emit events).setCall i c') where
  kept := hs.kept.yield hi hyields
  traced := by
    have hold : ∀ {job r w}, .assigned job r w ∈ s.log ++ events → .assigned job r w ∈ s.log :=
      fun hmem => (mem_append.mp hmem).resolve_right (hevents _ _ _)
    refine ⟨fun job r w hmem => hs.traced.worker job r w (hold hmem),
      fun job r w hmem => hs.traced.room job r w (hold hmem), fun job r w hmem => ?_,
      forall_mem_set (fun d hd r todo hc job w hmem => ?_)
        fun r todo hc job w hmem => haccounts.1 r todo hc job w (hold hmem),
      forall_mem_set (fun d hd id todo hc job r w hmem hid => ?_)
        fun id todo hc job r w hmem hid => haccounts.2 id todo hc job r w (hold hmem) hid⟩
    · refine (hs.traced.found job r w (hold hmem)).setCall hi ?_ (hyields.deleting _)
      rw [hyields.tracked]
      exact (some_ne_none job).symm
    · exact (hs.traced.closed d hd r todo hc job w (hold hmem)).imp_right (·.append events)
    · exact (hs.traced.deleted d hd id todo hc job r w (hold hmem) hid).imp_right (·.append events)

theorem Followed.rest (hs : Followed s) (hi : s.calls[i]? = some c) (hyields : Yields c c')
    (haccounts : Accounts s.log s.log c') : Followed (s.setCall i c') := by
  have hnext := hs.yield [] hi hyields (fun _ _ _ => not_mem_nil)
  rw [emit, append_nil] at hnext
  exact hnext haccounts

theorem left_of_terminations (hs : Traced s) {job' : AgentJob} {todo : List AgentJob}
    (hlog : .assigned job r w ∈ s.log) (h : job ∈ job' :: todo ∨ Ended s.log job r w) :
    job ∈ todo ∨ Ended (s.log ++ s.terminations job') job r w := by
  rcases h with hmem | hended
  · rcases mem_cons.mp hmem with rfl | hmem
    · have hterm : JobEvent.terminated job.id w ∈ s.terminations job :=
        mem_map_of_mem (hs.worker job r w hlog)
      exact .inr (List.Sublist.append (singleton_sublist.mpr hlog)
        (singleton_sublist.mpr hterm))
    · exact .inl hmem
  · exact .inr (hended.append _)

theorem assigned_notMem_terminations (s : JobServer) (job' : AgentJob) :
    ∀ job r w, .assigned job r w ∉ s.terminations job' := by
  intro job r w hmem
  obtain ⟨w', -, ⟨⟩⟩ := mem_map.mp hmem

namespace Followed

variable (hs : Followed s)
include hs

theorem push (hnew : ∀ k, c.jobId = some k → ∀ x ∈ s.calls, x.jobId ≠ some k)
    (huntracked : c.untracked = none) (hclosing : c.closing = none) (hdeleting : c.deleting = none)
    (hplaced : ∀ job r pc, c = .launch job r pc → s.rooms[r]?.map JobRoom.name = some job.room) :
    Followed (s.push c) where
  kept := { hs.kept with
      distinct := hs.kept.distinct.concat hnew
      tracked := fun d hd j hj => by
        obtain ⟨r, hdone⟩ := hs.kept.tracked d hd j hj
        exact ⟨r, mem_append_left _ hdone⟩
      pending := forall_mem_concat hs.kept.pending (by simp [huntracked])
      gone := forall_mem_concat hs.kept.gone (by simp [hdeleting])
      placed := fun job r pc hmem => by
        rcases mem_append.mp hmem with hmem | hmem
        · exact hs.kept.placed job r pc hmem
        · exact hplaced job r pc (mem_singleton.mp hmem).symm }
  traced := { hs.traced with
      found := fun job r w hmem => (hs.traced.found job r w hmem).mono
        (fun _ => mem_append_left _) fun d hd _ => ⟨d, hd, rfl, fun _ hj => hj⟩
      closed := forall_mem_concat hs.traced.closed (by simp [hclosing])
      deleted := forall_mem_concat hs.traced.deleted (by simp [hdeleting]) }

/-! ## Workers, rooms and dispatches -/

theorem register (w : AgentWorker) : Followed { s with manager := s.manager.registerWorker w } where
  kept := { hs.kept with }
  traced := { hs.traced with
    worker := fun job r w' hmem => by
      obtain ⟨hworker, hname⟩ := mem_filter.mp (hs.traced.worker job r w' hmem)
      exact mem_filter.mpr ⟨mem_append_left _ hworker, hname⟩ }

theorem setRooms {rooms : List JobRoom}
    (hnames : ∀ (r : Nat) name, s.rooms[r]?.map JobRoom.name = some name →
      rooms[r]?.map JobRoom.name = some name) : Followed { s with rooms := rooms } where
  kept := { hs.kept with
    placed := fun job r pc hmem => hnames r _ (hs.kept.placed job r pc hmem) }
  traced := { hs.traced with
    room := fun job r w hmem => hnames r _ (hs.traced.room job r w hmem) }

/-- **A new dispatch** has an id of its own and no jobs. -/
theorem create {req : CreateDispatchRequest} (hnew : id ∉ s.issued) :
    Followed { s with
      manager := s.manager.createDispatch req id now
      issued := s.issued ++ [id] } := by
  have hmem : ∀ d, d ∈ (s.manager.createDispatch req id now).dispatches ↔
      d ∈ s.manager.dispatches ∨ d = AgentManager.newDispatch req id now := by
    intro d
    show d ∈ (s.manager.erase id).dispatches ++ [AgentManager.newDispatch req id now] ↔ _
    rw [mem_append, mem_singleton, AgentManager.mem_erase, and_iff_left_of_imp]
    rintro hd rfl
    exact hnew (hs.kept.live d hd)
  constructor
  · refine ⟨hs.kept.distinct, fun d hd => ?_, fun d hd j hj => ?_, fun c hc job hjob => ?_,
      fun c hc id' todo hdel => ?_, hs.kept.placed⟩
    · rcases (hmem d).mp hd with hd | rfl
      · exact mem_append_left _ (hs.kept.live d hd)
      · exact mem_append_right _ (mem_singleton_self id)
    · rcases (hmem d).mp hd with hd | rfl
      · exact hs.kept.tracked d hd j hj
      · cases hj
    · obtain ⟨hne, d, hd, hid⟩ := hs.kept.pending c hc job hjob
      exact ⟨hne, d, (hmem d).mpr (.inl hd), hid⟩
    · obtain ⟨hissued, hgone⟩ := hs.kept.gone c hc id' todo hdel
      refine ⟨mem_append_left _ hissued, fun d hd => ?_⟩
      rcases (hmem d).mp hd with hd | rfl
      · exact hgone d hd
      · rintro rfl
        exact hnew hissued
  · exact { hs.traced with
      found := fun job r w hlog => (hs.traced.found job r w hlog).mono (fun _ hc => hc)
        fun d hd _ => ⟨d, (hmem d).mpr (.inl hd), rfl, fun _ hj => hj⟩ }

end Followed

/-! ## A job is assigned -/

theorem assigned_of_concat {log : List JobEvent} {job' : AgentJob} {r' : Nat} {w' : AgentWorker}
    (hmem : .assigned job' r' w' ∈ log ++ [.assigned job r w]) :
    .assigned job' r' w' ∈ log ∨ job' = job ∧ r' = r ∧ w' = w := by
  simpa using hmem

theorem Kept.assign (hk : Kept manager rooms issued calls)
    (hi : calls[i]? = some (.launch job r .asking)) (hne : job.dispatchId ≠ "")
    (hd : d ∈ manager.dispatches) (hid : d.id = job.dispatchId) :
    Kept manager rooms issued (calls.set i (.launch job r .assigned)) where
  distinct := hk.distinct.set_of_le hi fun k hkey => hkey
  live := hk.live
  tracked d hd j hj := hk.tracked_set hi (by simp) hd hj
  pending := forall_mem_set hk.pending fun job' hjob => by
    cases hjob
    exact ⟨hne, d, hd, hid⟩
  gone := forall_mem_set hk.gone nofun
  placed := hk.placed_set hi fun job' r' pc heq => by
    cases heq
    exact ⟨.asking, rfl⟩

/-- **A job is assigned** while its dispatch is there and nobody has looked for jobs of its room. -/
theorem Followed.assign (hs : Followed s) (hi : s.calls[i]? = some (.launch job r .asking))
    (hw : w ∈ s.manager.workersFor job.agentName)
    (hintime : s.AssignsInTime (.launch job r .asking)) :
    Followed ((s.emit [.assigned job r w]).setCall i (.launch job r .assigned)) := by
  obtain ⟨hne, hsome, hopen⟩ := hintime
  obtain ⟨d₀, hfind⟩ := isSome_iff_exists.mp hsome
  obtain ⟨hd₀, hid₀⟩ := AgentManager.find_eq_some_iff.mp hfind
  refine ⟨hs.kept.assign hi hne hd₀ hid₀, fun job' r' w' hmem => ?_, fun job' r' w' hmem => ?_,
    fun job' r' w' hmem => ?_,
    forall_mem_set (fun c hc r' todo hclosing job' w' hmem => ?_) nofun,
    forall_mem_set (fun c hc id todo hdeleting job' r' w' hmem hid => ?_)
      nofun⟩
  · rcases assigned_of_concat hmem with hold | ⟨rfl, rfl, rfl⟩
    · exact hs.traced.worker job' r' w' hold
    · exact hw
  · rcases assigned_of_concat hmem with hold | ⟨rfl, rfl, rfl⟩
    · exact hs.traced.room job' r' w' hold
    · exact hs.kept.placed job' r' .asking (mem_of_getElem? hi)
  · rcases assigned_of_concat hmem with hold | ⟨rfl, rfl, rfl⟩
    · exact (hs.traced.found job' r' w' hold).setCall hi (some_ne_none job').symm
        nofun
    · exact .inl ⟨_, mem_set_stepped hi, rfl⟩
  · -- nobody has looked for the jobs of this room yet
    rcases assigned_of_concat hmem with hold | ⟨rfl, rfl, rfl⟩
    · exact (hs.traced.closed c hc r' todo hclosing job' w' hold).imp_right (·.append _)
    · exact absurd rfl (hopen c hc _ hclosing)
  · -- and the dispatch is there, so it was not deleted
    rcases assigned_of_concat hmem with hold | ⟨rfl, rfl, rfl⟩
    · exact (hs.traced.deleted c hc id todo hdeleting job' r' w' hold hid).imp_right (·.append _)
    · exact absurd (hid₀.trans hid) ((hs.kept.gone c hc id todo hdeleting).2 d₀ hd₀)

/-! ## A job is recorded -/

section Track

variable (hk : Kept manager rooms issued calls) (hi : calls[i]? = some (.launch job r .assigned))
include hk hi

theorem Kept.track :
    Kept (manager.trackJob job) rooms issued (calls.set i (.launch job r .done)) := by
  refine ⟨hk.distinct.set_of_le hi fun k hkey => hkey, fun d hd => ?_, fun d hd j hj => ?_,
    forall_mem_set (fun c hc job' hjob => ?_) nofun,
    forall_mem_set (fun c hc id todo hdel => ?_) nofun,
    hk.placed_set hi fun job' r' pc heq => ?_⟩
  · obtain ⟨e, he, rfl⟩ := AgentManager.mem_trackJob.mp hd
    rw [e.id_track job]
    exact hk.live e he
  · obtain ⟨e, he, rfl⟩ := AgentManager.mem_trackJob.mp hd
    rcases AgentDispatch.mem_jobs_track.mp hj with hj | ⟨-, rfl⟩
    · exact hk.tracked_set hi (by simp) he hj
    · exact ⟨r, mem_set_stepped hi⟩
  · obtain ⟨hne, d, hd, hid⟩ := hk.pending c hc job' hjob
    exact ⟨hne, d.track job, AgentManager.mem_trackJob.mpr ⟨d, hd, rfl⟩,
      (d.id_track job).trans hid⟩
  · obtain ⟨hissued, hgone⟩ := hk.gone c hc id todo hdel
    refine ⟨hissued, fun d hd => ?_⟩
    obtain ⟨e, he, rfl⟩ := AgentManager.mem_trackJob.mp hd
    rw [e.id_track job]
    exact hgone e he
  · cases heq
    exact ⟨.assigned, rfl⟩

theorem Kept.recorded : ∃ d ∈ (manager.trackJob job).dispatches,
    d.id = job.dispatchId ∧ job ∈ d.jobs := by
  obtain ⟨hne, d, hd, hid⟩ := hk.pending _ (mem_of_getElem? hi) job rfl
  refine ⟨d.track job, AgentManager.mem_trackJob.mpr ⟨d, hd, rfl⟩, (d.id_track job).trans hid,
    AgentDispatch.mem_jobs_track.mpr (.inr ⟨⟨hne, hid, fun j hj heq => ?_⟩, rfl⟩)⟩
  obtain ⟨r', hdone⟩ := hk.tracked d hd j hj
  obtain ⟨i', hi'⟩ := mem_iff_getElem?.mp hdone
  have hsame : i = i' := hk.distinct i i' _ _ job.id hi hi' rfl (congrArg some heq)
  subst hsame
  rw [hi] at hi'
  cases hi'

end Track

/-- **A job is recorded** with its dispatch, which is there. -/
theorem Followed.track (hs : Followed s) (hi : s.calls[i]? = some (.launch job r .assigned)) :
    Followed ({ s with manager := s.manager.trackJob job }.setCall i (.launch job r .done)) := by
  refine ⟨hs.kept.track hi, hs.traced.worker, hs.traced.room, fun job' r' w' hlog => ?_,
    forall_mem_set hs.traced.closed nofun,
    forall_mem_set hs.traced.deleted nofun⟩
  -- the job moves from the call to its dispatch, and every other job stays where it is
  by_cases hself : job' = job
  · subst hself
    exact .inr (.inl (hs.kept.recorded hi))
  · have hlocated : { s with manager := s.manager.trackJob job }.Located job' :=
      (hs.traced.found job' r' w' hlog).mono (fun _ hc => hc) fun d hd _ =>
        ⟨d.track job, AgentManager.mem_trackJob.mpr ⟨d, hd, rfl⟩, d.id_track job,
          fun _ hj => AgentDispatch.mem_jobs_track.mpr (.inl hj)⟩
    exact hlocated.setCall hi (fun heq => hself (some.inj heq).symm) nofun

/-! ## Jobs are looked for -/

theorem Kept.remove (hk : Kept manager rooms issued calls)
    (hi : calls[i]? = some (.delete id (.remove now))) (hissued : id ∈ issued)
    (hintime : ∀ c ∈ calls, ∀ job, c.untracked = some job → job.dispatchId ≠ id)
    (todo : List AgentJob) :
    Kept (manager.erase id) rooms issued (calls.set i (.delete id (.terminate todo))) := by
  refine ⟨hk.distinct.set_of_le hi fun k hkey => hkey,
    fun e he => hk.live e (AgentManager.mem_erase.mp he).1,
    fun e he j hj => hk.tracked_set hi (by simp) (AgentManager.mem_erase.mp he).1 hj,
    forall_mem_set (fun c hc job hjob => ?_) nofun,
    forall_mem_set (fun c hc id' todo hdel => ?_) (fun id' todo hdel => ?_),
    hk.placed_set hi nofun⟩
  · obtain ⟨hne, e, he, heid⟩ := hk.pending c hc job hjob
    have hother : e.id ≠ id := fun heq => hintime c hc job hjob (heid.symm.trans heq)
    exact ⟨hne, e, AgentManager.mem_erase.mpr ⟨he, hother⟩, heid⟩
  · obtain ⟨hknown, hgone⟩ := hk.gone c hc id' todo hdel
    exact ⟨hknown, fun e he => hgone e (AgentManager.mem_erase.mp he).1⟩
  · cases hdel
    exact ⟨hissued, fun e he => (AgentManager.mem_erase.mp he).2⟩

/-- **A dispatch is removed** while none of its jobs is assigned and not recorded. -/
theorem Followed.remove (hs : Followed s) (hi : s.calls[i]? = some (.delete id (.remove now)))
    (hfind : s.manager.find id = some d) (hintime : s.LooksInTime (.delete id (.remove now))) :
    Followed ({ s with manager := s.manager.erase id }.setCall i
      (.delete id (.terminate d.jobs))) := by
  obtain ⟨hd, rfl⟩ := AgentManager.find_eq_some_iff.mp hfind
  refine ⟨hs.kept.remove hi (hs.kept.live d hd) hintime d.jobs, hs.traced.worker, hs.traced.room,
    fun job r w hlog => ?_, forall_mem_set hs.traced.closed nofun,
    forall_mem_set hs.traced.deleted (fun id' todo hdel job r w hlog hjobid => ?_)⟩
  · by_cases hjobid : job.dispatchId = d.id
    · -- it is in the hands of the call now
      refine .inr (.inr ⟨_, mem_set_stepped hi, d.jobs, ?_⟩)
      rw [hjobid]
      rfl
    · have hlocated : { s with manager := s.manager.erase d.id }.Located job :=
        (hs.traced.found job r w hlog).mono (fun _ hc => hc) fun e he heid =>
          ⟨e, AgentManager.mem_erase.mpr ⟨he, fun heq => hjobid (heid.symm.trans heq)⟩, rfl,
            fun _ hj => hj⟩
      exact hlocated.setCall hi (some_ne_none job).symm nofun
  · cases hdel
    -- a job of the dispatch is in its record: nobody else has removed the dispatch
    rcases hs.traced.found job r w hlog with ⟨c, hc, hjob⟩ | ⟨e, he, heid, hjob⟩ |
      ⟨c, hc, todo, hjob⟩
    · exact absurd hjobid (hintime c hc job hjob)
    · have hsame : e = d :=
        inj_on_of_nodup_map s.manager.ids_nodup he hd (heid.trans hjobid)
      exact .inl (hsame ▸ hjob)
    · exact absurd hjobid.symm ((hs.kept.gone c hc _ todo hjob).2 d hd)

theorem yields_close {pc pc' : ShutdownPc} : Yields (.close r pc) (.close r pc') where
  jobId := rfl
  notDone _ _ := by simp
  tracked := rfl
  untracked := rfl
  launch := nofun
  deleting := nofun
  removed := nofun

/-- **The jobs of a room are looked for** while none is assigned and not recorded, nor in the hands
of a `DeleteDispatch`. -/
theorem Followed.collect (hs : Followed s) {room : JobRoom} (hroom : s.rooms[r]? = some room)
    (hi : s.calls[i]? = some (.close r .collect)) (hintime : s.LooksInTime (.close r .collect)) :
    Followed (s.setCall i (.close r (.terminate (s.manager.roomJobs room.name)))) := by
  refine hs.rest hi yields_close ⟨?_, nofun⟩
  rintro _ _ ⟨⟩ job w hlog
  have hname : job.room = room.name := by
    have h := hs.traced.room job r w hlog
    rw [hroom] at h
    exact (some.inj h).symm
  -- the condition rules out the first place it could be in, and leaves of the third what is done
  rcases hs.traced.found job r w hlog with ⟨c, hc, hjob⟩ | ⟨d, hd, -, hjob⟩ | ⟨c, hc, todo, hjob⟩
  · exact absurd hname ((hintime room hroom c hc).1 job hjob)
  · exact .inl (AgentManager.mem_roomJobs.mpr ⟨⟨d, hd, hjob⟩, hname⟩)
  · rcases hs.traced.deleted c hc _ todo hjob job r w hlog rfl with htodo | hended
    · exact absurd hname ((hintime room hroom c hc).2 _ hjob job htodo)
    · exact .inr hended

/-! ## Runs -/

/-- **A step of a shutdown**, which ends the jobs that it has collected. -/
theorem Followed.closeStep (hs : Followed s) {room : JobRoom} {pc : ShutdownPc}
    (hroom : s.rooms[r]? = some room) (hi : s.calls[i]? = some (.close r pc))
    (hintime : s.LooksInTime (.close r pc)) (h : s.closeStep i r room pc = some s') :
    Followed s' := by
  revert h
  fun_cases JobServer.closeStep s i r room pc <;> rintro ⟨⟩
  · split
    · exact hs.rest hi yields_close ⟨nofun, nofun⟩
    · -- the flag is set, the name stays
      refine (hs.setRooms fun r' name hname => ?_).rest hi yields_close ⟨nofun, nofun⟩
      by_cases hr : r' = r
      · subst hr
        simpa [getElem?_set_stepped hroom, hroom] using hname
      · rwa [List.getElem?_set_ne (Ne.symm hr)]
  · exact hs.collect hroom hi hintime
  · next job' todo =>
    have hleft := hs.traced.closed _ (mem_of_getElem? hi) r _ rfl
    refine hs.yield (s.terminations job') hi yields_close (s.assigned_notMem_terminations job')
      ⟨?_, nofun⟩
    rintro _ _ ⟨⟩ job w hlog
    exact left_of_terminations hs.traced hlog (hleft job w hlog)
  · have hleft := hs.traced.closed _ (mem_of_getElem? hi) r [] rfl
    refine hs.rest hi yields_close ⟨?_, nofun⟩
    rintro _ _ ⟨⟩
    exact hleft

theorem yields_delete {pc pc' : DeletePc}
    (hdeleting : ∀ id' todo, (JobCall.delete id pc).deleting = some (id', todo) →
      ∃ todo', (JobCall.delete id pc').deleting = some (id', todo'))
    (hremoved : ∀ id' todo, (JobCall.delete id pc').deleting = some (id', todo) →
      ∃ todo', (JobCall.delete id pc).deleting = some (id', todo')) :
    Yields (.delete id pc) (.delete id pc') where
  jobId := rfl
  notDone _ _ := by simp
  tracked := rfl
  untracked := rfl
  launch := nofun
  deleting := hdeleting
  removed := hremoved

namespace Followed

variable (hs : Followed s)
include hs

/-- **A step of `DeleteDispatch`**, which ends the jobs of the dispatch. -/
theorem deleteStep {pc : DeletePc}
    (hi : s.calls[i]? = some (.delete id pc)) (hintime : s.LooksInTime (.delete id pc))
    (h : s.deleteStep i id pc = some s') : Followed s' := by
  revert h
  fun_cases JobServer.deleteStep s i id pc <;> rintro ⟨⟩
  · exact hs.rest hi (yields_delete nofun nofun) ⟨nofun, nofun⟩
  · next hdelete =>
    obtain ⟨d, hfind, ⟨⟩⟩ := map_eq_some_iff.mp hdelete
    exact Followed.remove (d := d) hs hi hfind hintime
  · next job' todo =>
    have hleft := hs.traced.deleted _ (mem_of_getElem? hi) id _ rfl
    refine hs.yield (s.terminations job') hi (yields_delete ?_ ?_)
      (s.assigned_notMem_terminations job') ⟨nofun, ?_⟩
    · rintro _ _ ⟨⟩
      exact ⟨todo, rfl⟩
    · rintro _ _ ⟨⟩
      exact ⟨job' :: todo, rfl⟩
    · rintro _ _ ⟨⟩ job r w hlog hid
      exact left_of_terminations hs.traced hlog (hleft job r w hlog hid)
  · have hleft := hs.traced.deleted _ (mem_of_getElem? hi) id [] rfl
    refine hs.rest hi (yields_delete ?_ ?_) ⟨nofun, ?_⟩
    · rintro _ _ ⟨⟩
      exact ⟨[], rfl⟩
    · rintro _ _ ⟨⟩
      exact ⟨[], rfl⟩
    · rintro _ _ ⟨⟩
      exact hleft

/-- **A step of a call**, by what the call is. -/
theorem callStep (hi : s.calls[i]? = some c)
    (hintime : s.LooksInTime c) (h : s.callStep i c = some s') : Followed s' := by
  cases c with
  | launch job r pc =>
    cases pc with
    | assigned =>
      cases h
      exact hs.track hi
    | _ => cases h
  | close r pc =>
    obtain ⟨room, hroom, hstep⟩ := bind_eq_some_iff.mp h
    exact hs.closeStep hroom hi hintime hstep
  | delete id pc => exact hs.deleteStep hi hintime h

/-- **One step** that meets the condition. -/
theorem step {a : JobAction} (hintime : s.InTime a) (h : s.step a = some s') : Followed s' := by
  revert h
  fun_cases JobServer.step s a <;> intro h
  case case15 i =>
    obtain ⟨c, hi, hstep⟩ := bind_eq_some_iff.mp h
    exact hs.callStep hi (hintime c hi) hstep
  -- the other branches that do something
  all_goals cases h
  · exact hs.register _
  · refine hs.setRooms fun r name' hname => ?_
    obtain ⟨room, hroom, rfl⟩ := map_eq_some_iff.mp hname
    exact map_eq_some_iff.mpr ⟨room, getElem?_concat_old hroom, rfl⟩
  · next hnew => exact hs.create hnew
  · next hlaunch =>
    exact hs.push (fun k hk => by cases hk; exact hlaunch.1) rfl rfl rfl
      fun job' r' pc heq => by cases heq; exact hlaunch.2
  · exact hs.push nofun rfl rfl rfl nofun
  · exact hs.push nofun rfl rfl rfl nofun
  · next hi hw => exact hs.assign hi hw (hintime _ hi)
  · next hi =>
    refine hs.rest hi ⟨rfl, by simp, rfl, rfl, ?_, nofun, nofun⟩ ⟨nofun, nofun⟩
    rintro _ _ _ ⟨⟩
    exact ⟨.asking, rfl⟩

theorem terminated : Terminated s where
  ofRoom _ r hclosed job w hlog :=
    (hs.traced.closed _ hclosed r [] rfl job w hlog).resolve_left not_mem_nil
  ofDispatch _ id hdeleted job r w hlog hid :=
    (hs.traced.deleted _ hdeleted id [] rfl job r w hlog hid).resolve_left not_mem_nil

end Followed

/-- **Jobs are terminated** with their room or their dispatch, along every run that meets the
condition. -/
theorem jobs_terminated {acts : List JobAction} {s : JobServer}
    (hintime : Along step InTime init acts) (hrun : run step init acts = some s) : Terminated s :=
  Followed.terminated (run_invariant_along (fun _ _ _ hs hi h => Followed.step hs hi h)
    followed_init hintime hrun)

/-- A job of the agent `voice` in the room `room`. -/
def voiceJobOf (id dispatchId : String) : AgentJob := ⟨id, dispatchId, "room", "voice", "", "", []⟩

/-- A worker of the agent. -/
def voiceWorker : AgentWorker := ⟨"AW_1", "voice"⟩

/-- Call `i` takes `n` steps. -/
def steps (i n : Nat) : List JobAction := List.replicate n (.next i)

/-- A worker, a room and a dispatch for it. -/
def prepared : List JobAction :=
  [.register voiceWorker, .createRoom "room",
    .createDispatch { agentName := "voice", room := "room" } "AD_1" 0]

/-- What was sent, whether a launch is in flight, and where call `i` stands. -/
def outcome (i : Nat) (s : JobServer) : List JobEvent × Bool × Option JobCall :=
  (s.log, s.calls.any JobCall.launching, s.calls[i]?)

/-- Two jobs are launched; the dispatch is deleted and the room closed. -/
def closedInTime : List JobAction :=
  List.flatten [prepared, [.launch (voiceJobOf "AJ_1" "AD_1") 0,
    .launch (voiceJobOf "AJ_2" "AD_1") 0, .assign 0 voiceWorker, .assign 1 voiceWorker, .next 1,
    .next 0, .delete "AD_1" 0], steps 2 4, [.close 0], steps 3 3]

theorem jobs_terminated_in_time :
    (run step init closedInTime).map (outcome 3) =
        some ([.assigned (voiceJobOf "AJ_1" "AD_1") 0 voiceWorker,
          .assigned (voiceJobOf "AJ_2" "AD_1") 0 voiceWorker,
          .terminated "AJ_2" voiceWorker, .terminated "AJ_1" voiceWorker],
          false, some (.close 0 .closed)) ∧
      ∀ s, run step init closedInTime = some s → Terminated s :=
  ⟨by decide +kernel, fun _ hrun => jobs_terminated (by decide +kernel) hrun⟩

/-- The job of a token: it has no dispatch. -/
def tokenJob : List JobAction :=
  List.flatten [prepared,
    [.launch (voiceJobOf "AJ_1" "") 0, .assign 0 voiceWorker, .next 0, .close 0], steps 1 3]

/-- The worker accepts after the room has looked for jobs. -/
def lateJob : List JobAction :=
  List.flatten [prepared, [.launch (voiceJobOf "AJ_1" "AD_1") 0, .close 0], steps 1 2,
    [.assign 0 voiceWorker, .next 0, .next 1]]

/-- The dispatch is deleted between the assignment and the record. -/
def unrecordedJob : List JobAction :=
  List.flatten [prepared,
    [.launch (voiceJobOf "AJ_1" "AD_1") 0, .delete "AD_1" 0, .assign 0 voiceWorker], steps 1 2,
    [.next 0]]

/-- **Jobs are left running**: in each of the runs the room has closed, or the dispatch was deleted,
no launch is in flight, and the job was never sent a termination. -/
theorem jobs_left_running :
    (run step init tokenJob).map (outcome 1) =
        some ([.assigned (voiceJobOf "AJ_1" "") 0 voiceWorker], false, some (.close 0 .closed)) ∧
      (run step init lateJob).map (outcome 1) =
        some ([.assigned (voiceJobOf "AJ_1" "AD_1") 0 voiceWorker], false,
          some (.close 0 .closed)) ∧
      (run step init unrecordedJob).map (outcome 1) =
        some ([.assigned (voiceJobOf "AJ_1" "AD_1") 0 voiceWorker], false,
          some (.delete "AD_1" .deleted)) := by
  decide +kernel

end JobServer
end LivekitVoice
