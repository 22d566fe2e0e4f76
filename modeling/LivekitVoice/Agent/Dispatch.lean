import Mathlib.Data.List.Nodup

/-! # Agent dispatches

The registry of agent dispatches and of the workers that take their jobs. A dispatch is for one room
and is kept under a random id, whatever its room; the jobs launched for it are recorded with it. A
dispatch that is deleted leaves the registry.

* **`find_eq_some_iff`** — the dispatch under an id,
* **`ofRoom_erase_iff`**, **`ofRoom_createDispatch_iff`** — when the dispatches of a room stay as
  they are. -/

namespace LivekitVoice

open List

/-! ## Dispatches, jobs and workers -/

/-- `lk.Job`, without its state. -/
structure AgentJob where
  id : String
  dispatchId : String
  /-- The name of the room it is for. -/
  room : String
  agentName : String
  metadata : String
  deployment : String
  attributes : List (String × String)
  deriving DecidableEq

/-- `AgentDispatch`. -/
structure AgentDispatch where
  id : String
  agentName : String
  room : String
  metadata : String
  deployment : String
  attributes : List (String × String)
  createdAt : Int
  deletedAt : Option Int
  jobs : List AgentJob
  deriving DecidableEq

namespace AgentDispatch

/-- A job that names this dispatch is recorded, once. -/
def track (d : AgentDispatch) (job : AgentJob) : AgentDispatch :=
  if job.dispatchId ≠ "" ∧ d.id = job.dispatchId ∧ ∀ j ∈ d.jobs, j.id ≠ job.id then
    { d with jobs := d.jobs ++ [job] }
  else d

theorem id_track (d : AgentDispatch) (job : AgentJob) : (d.track job).id = d.id := by
  rw [track]
  split <;> rfl

theorem room_track (d : AgentDispatch) (job : AgentJob) : (d.track job).room = d.room := by
  rw [track]
  split <;> rfl

end AgentDispatch

/-- A worker that has registered for an agent name. -/
structure AgentWorker where
  workerId : String
  agentName : String
  deriving DecidableEq

/-- What a worker is sent about a job. -/
inductive WorkerMessage
  | availability (job : AgentJob)
  | assignment (job : AgentJob)
  /-- It holds the id of the job only. -/
  | termination (job : AgentJob)
  deriving DecidableEq

/-- The job a message is about. -/
def WorkerMessage.job : WorkerMessage → AgentJob
  | .availability job | .assignment job | .termination job => job

/-- `lk.CreateAgentDispatchRequest`. -/
structure CreateDispatchRequest where
  agentName : String
  room : String
  metadata : String := ""
  deployment : String := ""
  attributes : List (String × String) := []

/-- **The agent manager**: the workers, and the dispatches by id. What is deleted is not there. -/
structure AgentManager where
  workers : List AgentWorker
  dispatches : List AgentDispatch
  ids_nodup : (dispatches.map AgentDispatch.id).Nodup
  live : ∀ d ∈ dispatches, d.deletedAt = none

namespace AgentManager

/-- A manager that has just been created. -/
def new : AgentManager where
  workers := []
  dispatches := []
  ids_nodup := nodup_nil
  live _ h := absurd h not_mem_nil

variable (m : AgentManager)

/-- `workers_for`. -/
def workersFor (agentName : String) : List AgentWorker :=
  m.workers.filter fun w => w.agentName = agentName

/-- The dispatch under an id. -/
def find (id : String) : Option AgentDispatch :=
  m.dispatches.find? fun d => d.id = id

/-- The registry without an id. -/
def erase (id : String) : AgentManager where
  workers := m.workers
  dispatches := m.dispatches.filter fun d => d.id ≠ id
  ids_nodup := m.ids_nodup.sublist (filter_sublist.map AgentDispatch.id)
  live d hd := m.live d (mem_of_mem_filter hd)

/-- A dispatch is put under its id. -/
def insert (d : AgentDispatch) (hlive : d.deletedAt = none) : AgentManager where
  workers := m.workers
  dispatches := (m.erase d.id).dispatches ++ [d]
  ids_nodup := by
    rw [map_append, map_singleton, nodup_append']
    refine ⟨(m.erase d.id).ids_nodup, nodup_singleton _, ?_⟩
    simp [disjoint_singleton, erase]
  live e he := by
    rcases mem_append.mp he with he | he
    · exact (m.erase d.id).live e he
    · rw [mem_singleton.mp he]
      exact hlive

/-- The dispatch of a request. -/
def newDispatch (r : CreateDispatchRequest) (id : String) (now : Int) : AgentDispatch where
  id := id
  agentName := r.agentName
  room := r.room
  metadata := r.metadata
  deployment := r.deployment
  attributes := r.attributes
  createdAt := now
  deletedAt := none
  jobs := []

/-- `create_dispatch`, with the new id. -/
def createDispatch (r : CreateDispatchRequest) (id : String) (now : Int) :
    AgentManager :=
  m.insert (newDispatch r id now) rfl

/-- `delete_dispatch`: the dispatch that was under the id, marked as deleted. -/
def deleteDispatch (id : String) (now : Int) :
    Option (AgentDispatch × AgentManager) :=
  (m.find id).map fun d => ({ d with deletedAt := some now }, m.erase id)

/-- `list_dispatches`. -/
def listDispatches (room : String) : List AgentDispatch :=
  m.dispatches.filter fun d => d.room = room && d.deletedAt.isNone

/-- `get_dispatch`. -/
def getDispatch (id : String) : Option AgentDispatch :=
  (m.find id).filter fun d => d.deletedAt.isNone

/-- `track_job`: a job is recorded with its dispatch, if that is still there. -/
def trackJob (job : AgentJob) : AgentManager where
  workers := m.workers
  dispatches := m.dispatches.map fun d => d.track job
  ids_nodup := by
    have hids : (m.dispatches.map fun d => d.track job).map AgentDispatch.id =
        m.dispatches.map AgentDispatch.id := by
      rw [map_map]
      exact map_congr_left fun d _ => d.id_track job
    rw [hids]
    exact m.ids_nodup
  live d hd := by
    obtain ⟨e, he, rfl⟩ := mem_map.mp hd
    unfold AgentDispatch.track
    split <;> exact m.live e he

/-! ## The dispatches of a room -/

/-- The dispatches for a room. -/
def ofRoom (room : String) : List AgentDispatch :=
  m.dispatches.filter fun d => d.room = room

variable {m : AgentManager} {id room : String} {d : AgentDispatch} {now : Int}

theorem mem_ofRoom_iff : d ∈ m.ofRoom room ↔ d ∈ m.dispatches ∧ d.room = room := by
  simp [ofRoom]

theorem listDispatches_eq : m.listDispatches room = m.ofRoom room := by
  refine filter_congr fun d hd => ?_
  simp [m.live d hd]

/-- **The dispatch under an id**: ids are distinct. -/
theorem find_eq_some_iff : m.find id = some d ↔ d ∈ m.dispatches ∧ d.id = id := by
  constructor
  · intro h
    exact ⟨mem_of_find?_eq_some h, by simpa using List.find?_some h⟩
  · rintro ⟨hd, rfl⟩
    cases hfind : m.find d.id with
    | none =>
      have hnot := List.find?_eq_none.mp hfind d hd
      simp at hnot
    | some e =>
      have he : e.id = d.id := by simpa using List.find?_some hfind
      rw [inj_on_of_nodup_map m.ids_nodup (mem_of_find?_eq_some hfind) hd he]

theorem getDispatch_eq : m.getDispatch id = m.find id := by
  ext d
  rw [getDispatch, Option.filter_eq_some_iff]
  refine and_iff_left_of_imp fun h => ?_
  rw [m.live d (find_eq_some_iff.mp h).1]
  rfl

theorem find_createDispatch {r : CreateDispatchRequest} :
    (m.createDispatch r id now).find id = some (newDispatch r id now) :=
  find_eq_some_iff.mpr ⟨mem_append_right _ (mem_singleton_self _), rfl⟩

theorem find_erase : (m.erase id).find id = none := by
  refine List.find?_eq_none.mpr fun d hd => ?_
  simpa using (mem_filter.mp hd).2

theorem ofRoom_erase_iff : (m.erase id).ofRoom room = m.ofRoom room ↔
    ∀ d ∈ m.dispatches, d.id = id → d.room ≠ room := by
  have hsub : (m.erase id).ofRoom room = (m.ofRoom room).filter fun d => d.id ≠ id := by
    rw [ofRoom, ofRoom, erase, filter_filter, filter_filter]
    exact filter_congr fun d _ => Bool.and_comm _ _
  rw [hsub, filter_eq_self]
  constructor
  · intro h d hd hid hroom
    have hne := h d (mem_ofRoom_iff.mpr ⟨hd, hroom⟩)
    simp [hid] at hne
  · intro h d hd
    obtain ⟨hd, hroom⟩ := mem_ofRoom_iff.mp hd
    simpa using fun hid => h d hd hid hroom

/-- **When a new dispatch leaves those of another room alone**: none of them has its id. -/
theorem ofRoom_createDispatch_iff {r : CreateDispatchRequest} (hroom : r.room ≠ room) :
    (m.createDispatch r id now).ofRoom room = m.ofRoom room ↔
      ∀ d ∈ m.dispatches, d.id = id → d.room ≠ room := by
  have hnew : (m.createDispatch r id now).ofRoom room = (m.erase id).ofRoom room := by
    show ((m.erase id).dispatches ++ [newDispatch r id now]).filter _ = _
    simp [newDispatch, hroom, ofRoom]
  rw [hnew, ofRoom_erase_iff]

theorem ofRoom_trackJob {job : AgentJob}
    (h : ∀ d ∈ m.dispatches, d.id = job.dispatchId → d.room ≠ room) :
    (m.trackJob job).ofRoom room = m.ofRoom room := by
  rw [ofRoom, ofRoom, trackJob, filter_map]
  have hsame : ((fun d => decide (AgentDispatch.room d = room)) ∘ fun d => d.track job) =
      fun d => decide (AgentDispatch.room d = room) := by
    funext d
    rw [Function.comp_apply, d.room_track job]
  rw [hsame]
  conv_rhs => rw [← map_id (m.dispatches.filter _)]
  refine map_congr_left fun d hd => ?_
  obtain ⟨hd, hroom⟩ := mem_ofRoom_iff.mp hd
  exact if_neg fun htrack => h d hd htrack.2.1 hroom

end AgentManager

end LivekitVoice
