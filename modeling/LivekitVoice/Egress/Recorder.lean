import Mathlib.Algebra.Order.Field.Rat
import Mathlib.Data.List.AList
import LivekitVoice.Egress.Redact
import LivekitVoice.Egress.Reports
import LivekitVoice.Egress.Spec
import LivekitVoice.Psrpc.Network
import LivekitVoice.Transition.Registry

/-! # The recorder

A recorder runs any number of `StartEgress` handlers, and a task for each recording they start. They
share the set `active` of the recordings that count against the capacity of the node, and three maps
from egress ids: the channels that stop a recording (`stops`), the tasks that listen for
`StopEgress` (`stop_tasks`) and the last infos (`infos`). A handler looks at `active` to admit a
request, reports the recording to the server, and only then puts the id into `active` and `stops`;
the id goes into `stop_tasks` once the topic of `StopEgress` is registered. A recording that ends
takes its id out of `active` and `stop_tasks`. A step is what runs between two awaits.

* **`Kept`** — with distinct ids, which call has its id in which of the maps,
* **`admission_of_checkedAlone`** — requests that are checked one at a time fit on the node,
* **`released_iff`** — what a failed `StartEgress` and the end of a recording leave in each map. -/

namespace LivekitVoice

open List Transition

/-! ## Admission -/

/-- The cost of one recording. -/
def EgressConfig.recordingCost (conf : EgressConfig) : Rat :=
  match conf.cpuCost with
  | some c => c.roomCompositeCpuCost
  | none => 3

/-- The capacity of a node: its CPUs, if their number is known. -/
def nodeCapacity (parallelism : Option Nat) : Rat :=
  match parallelism with
  | some n => n
  | none => 1

/-- **`admitted`**: one more recording fits. -/
def admitted (conf : EgressConfig) (parallelism : Option Nat) (activeCount : Nat) : Bool :=
  ((activeCount : Rat) + 1) * conf.recordingCost ≤ nodeCapacity parallelism

/-! ## Calls -/

/-- `rpc.StartEgressRequest`. -/
structure StartEgressCall where
  egressId : String
  roomId : String
  request : Option EgressRequest

/-- An admitted request: what is recorded, and the first info. -/
structure RecordingPlan where
  job : EgressJob
  spec : RecSpec
  /-- What `StartEgress` reports and returns. -/
  info : EgressInfo

/-- **Where an admitted request is.** -/
inductive RecordingPhase
  /-- The handler awaits the report of the first info. -/
  | creating
  /-- It awaits the registration of the topic of `StopEgress`. -/
  | registering
  /-- The registration has failed, and the handler has returned an error. -/
  | unregistered (error : Psrpc.RpcError)
  /-- The handler has returned the first info, and the task connects to the room. -/
  | connecting
  /-- It awaits the report of the active info. -/
  | activating (info : EgressInfo)
  | recording
  | uploading (frames size : Nat)
  /-- It awaits the report of the last info. -/
  | finishing (info : EgressInfo)
  /-- It has failed, and awaits the report of the last info. -/
  | failing (info : EgressInfo)
  | ended
  deriving DecidableEq

namespace RecordingPhase

/-- The task of the recording runs. -/
def running : RecordingPhase → Bool
  | .connecting | .activating _ | .recording | .uploading _ _ | .finishing _ | .failing _ => true
  | .creating | .registering | .unregistered _ | .ended => false

end RecordingPhase

/-- **A call of `StartEgress`**, and the recording it starts. -/
inductive RecorderCall
  /-- It has returned an error before it has done anything. -/
  | refused (egressId : String) (error : Psrpc.RpcError)
  /-- The request could not be redacted. -/
  | panicked (egressId : String)
  | recording (plan : RecordingPlan) (phase : RecordingPhase)

namespace RecorderCall

/-- The id of its recording. -/
def egressId : RecorderCall → String
  | .refused id _ => id
  | .panicked id => id
  | .recording plan _ => plan.job.egressId

/-- The error that `StartEgress` has returned. -/
def error : RecorderCall → Option Psrpc.RpcError
  | .refused _ e => some e
  | .recording _ (.unregistered e) => some e
  | _ => none

/-- The recording has ended. -/
def hasEnded : RecorderCall → Bool
  | .recording _ .ended => true
  | _ => false

/-- What the call awaits: the report of its first info, or the registration of its topic. -/
def awaitsReport : RecorderCall → Bool
  | .recording _ .creating => true
  | _ => false

@[inherit_doc awaitsReport]
def awaitsTopic : RecorderCall → Bool
  | .recording _ .registering => true
  | _ => false

/-- The recording is under way: its handler awaits the registration, or its task runs. -/
def underWay : RecorderCall → Bool
  | .recording _ phase => phase == .registering || phase.running
  | _ => false

/-! What a call has put into the maps and not taken out. -/

/-- Its id is in `active`. -/
def hasSlot : RecorderCall → Bool
  | .recording _ phase => phase != .creating && phase != .ended
  | _ => false

/-- Its id is in `stops`. -/
def hasStop : RecorderCall → Bool
  | .recording _ phase => phase != .creating
  | _ => false

/-- Its id is in `stop_tasks`. -/
def hasTask : RecorderCall → Bool
  | .recording _ phase => phase.running
  | _ => false

end RecorderCall

/-- **`StartEgress`, up to its first await.** -/
def startEgress (conf : EgressConfig) (parallelism : Option Nat) (activeCount : Nat)
    (call : StartEgressCall) (now : Int) : RecorderCall :=
  let refuse (code message : String) : RecorderCall := .refused call.egressId ⟨code, message⟩
  if call.egressId = "" then refuse "invalid_argument" "egress_id is required"
  else
    match recSpec call.request conf with
    | .error e => refuse "invalid_argument" e
    | .ok spec =>
      if spec.room = "" then refuse "invalid_argument" "room_name is required"
      else
        match requestInfo call.request with
        | none => .panicked call.egressId
        | some none => refuse "invalid_argument" "unsupported egress request"
        | some (some request) =>
          if admitted conf parallelism activeCount then
            let job : EgressJob := ⟨call.egressId, call.roomId, spec.room, request⟩
            .recording ⟨job, spec, job.starting now⟩ .creating
          else
            refuse "unavailable"
              ("egress node at capacity (" ++ toString activeCount ++
                " active, cpu_cost admission)")

/-! ## The recorder -/

/-- **A recorder at one moment.** -/
structure Recorder where
  /-- The recordings that count against the capacity. -/
  active : Finset String
  /-- For each channel, whether the recording was told to stop. -/
  stops : AList fun _ : String => Bool
  infos : AList fun _ : String => EgressInfo
  /-- For each listening task, the call that has registered it. -/
  stopTasks : AList fun _ : String => Nat
  calls : List RecorderCall

/-- **What happens on a recorder.** The number is that of the call. -/
inductive RecorderAction
  | start (call : StartEgressCall) (now : Int)
  /-- `CreateEgress` has returned, with an error or without. -/
  | created (i : Nat)
  | registered (i : Nat)
  | registrationFailed (i : Nat) (error : String)
  | connected (i : Nat) (now : Int)
  /-- `UpdateEgress` has returned for the active info, with an error or without. -/
  | activated (i : Nat)
  | recorded (i : Nat) (frames size : Nat)
  | uploaded (i : Nat) (location : String) (now : Int)
  /-- The recorder could not connect, record or upload. -/
  | failed (i : Nat) (error : String) (now : Int)
  /-- `UpdateEgress` has returned for the last info, with an error or without. -/
  | reported (i : Nat)
  /-- `StopEgress`. -/
  | stop (egressId : String)

namespace Recorder

/-- A recorder that has just been started. -/
def new : Recorder := ⟨∅, ∅, ∅, ∅, []⟩

/-- The ids of all calls. -/
def ids (s : Recorder) : List String := s.calls.map RecorderCall.egressId

/-- A call moves on. -/
def moveTo (s : Recorder) (i : Nat) (plan : RecordingPlan) (phase : RecordingPhase) : Recorder :=
  { s with calls := s.calls.set i (.recording plan phase) }

/-- **`StopHandler`**: the recording is told to stop, and the last info is returned. -/
def stopEgress (s : Recorder) (egressId : String) : Except Psrpc.RpcError EgressInfo × Recorder :=
  let told := if egressId ∈ s.stops then s.stops.insert egressId true else s.stops
  let answer :=
    match s.infos.lookup egressId with
    | some info => .ok info
    | none => .error ⟨"not_found", "egress " ++ egressId ++ " not found"⟩
  (answer, { s with stops := told })

/-- **One step of a recorder.** -/
def step (conf : EgressConfig) (parallelism : Option Nat) (s : Recorder) :
    RecorderAction → Option Recorder
  | .start call now =>
    some { s with
      calls := s.calls ++ [startEgress conf parallelism s.active.card call now] }
  | .created i =>
    match s.calls[i]? with
    | some (.recording plan .creating) =>
      let id := plan.job.egressId
      let s := s.moveTo i plan .registering
      some { s with
        infos := s.infos.insert id plan.info
        stops := s.stops.insert id false
        active := insert id s.active }
    | _ => none
  | .registered i =>
    match s.calls[i]? with
    | some (.recording plan .registering) =>
      let s := s.moveTo i plan .connecting
      some { s with stopTasks := s.stopTasks.insert plan.job.egressId i }
    | _ => none
  | .registrationFailed i error =>
    match s.calls[i]? with
    | some (.recording plan .registering) =>
      -- `register_topic(..).await?` returns with the id in `infos`, `stops` and `active`
      some (s.moveTo i plan (.unregistered ⟨"internal", error⟩))
    | _ => none
  | .connected i now =>
    match s.calls[i]? with
    | some (.recording plan .connecting) =>
      some (s.moveTo i plan (.activating (plan.job.active now)))
    | _ => none
  | .activated i =>
    match s.calls[i]? with
    | some (.recording plan (.activating info)) =>
      let s := s.moveTo i plan .recording
      some { s with infos := s.infos.insert plan.job.egressId info }
    | _ => none
  | .recorded i frames size =>
    match s.calls[i]? with
    | some (.recording plan .recording) => some (s.moveTo i plan (.uploading frames size))
    | _ => none
  | .uploaded i location now =>
    match s.calls[i]? with
    | some (.recording plan (.uploading frames size)) =>
      let key := storageKey plan.spec.filepath plan.job.egressId plan.spec.format.ext
      let info := plan.job.finished key location frames size now
      some (s.moveTo i plan (.finishing info))
    | _ => none
  | .failed i error now =>
    match s.calls[i]? with
    | some (.recording plan .connecting)
    | some (.recording plan .recording)
    | some (.recording plan (.uploading _ _)) =>
      some (s.moveTo i plan (.failing (plan.job.failed error now)))
    | _ => none
  | .reported i =>
    match s.calls[i]? with
    | some (.recording plan (.finishing info))
    | some (.recording plan (.failing info)) =>
      let id := plan.job.egressId
      let s := s.moveTo i plan .ended
      some { s with
        infos := s.infos.insert id info
        active := s.active.erase id
        stopTasks := s.stopTasks.erase id }
    | _ => none
  | .stop egressId => some (s.stopEgress egressId).2

/-- The number of recordings under way. -/
def recordings (s : Recorder) : Nat := s.calls.countP RecorderCall.underWay

/-! ## What a step does -/

variable {conf : EgressConfig} {parallelism : Option Nat} {s s' : Recorder}
variable {a : RecorderAction} {c : RecorderCall}

/-- **How a call begins**: it has the id of its request, and nothing in the maps. -/
theorem startEgress_spec (conf : EgressConfig) (parallelism : Option Nat) (activeCount : Nat)
    (call : StartEgressCall) (now : Int) :
    let c := startEgress conf parallelism activeCount call now
    c.egressId = call.egressId ∧ c.hasSlot = false ∧ c.hasStop = false ∧ c.hasTask = false := by
  fun_cases startEgress conf parallelism activeCount call now <;> exact ⟨rfl, rfl, rfl, rfl⟩

theorem mem_stops_stopEgress {egressId id : String} :
    id ∈ (s.stopEgress egressId).2.stops ↔ id ∈ s.stops := by
  unfold stopEgress
  split
  · next hin =>
    rw [AList.mem_insert]
    constructor
    · rintro (rfl | h)
      · exact hin
      · exact h
    · exact .inr
  · rfl

/-! ## Which call has its id where -/

/-- **What is in the maps** is what the calls have put in: no two calls have one id. -/
structure Kept (s : Recorder) : Prop where
  distinct : s.ids.Nodup
  active : Registers RecorderCall.egressId RecorderCall.hasSlot s.calls (· ∈ s.active)
  stops : Registers RecorderCall.egressId RecorderCall.hasStop s.calls (· ∈ s.stops)
  stopTasks : Registers RecorderCall.egressId RecorderCall.hasTask s.calls (· ∈ s.stopTasks)

theorem kept_new : Kept new := by
  refine ⟨nodup_nil, fun id => ?_, fun id => ?_, fun id => ?_⟩
  all_goals simp [new]

/-- **Distinct ids**: a request has an id that no request before it had. -/
def FreshEgressId (s : Recorder) : RecorderAction → Prop
  | .start call _ => call.egressId ∉ s.ids
  | _ => True

instance decidableFreshEgressId (s : Recorder) (a : RecorderAction) :
    Decidable (FreshEgressId s a) := by
  unfold FreshEgressId
  split <;> infer_instance

theorem ids_moveTo {i : Nat} {plan : RecordingPlan} {before after : RecordingPhase}
    (hc : s.calls[i]? = some (.recording plan before)) : (s.moveTo i plan after).ids = s.ids :=
  map_set_of_eq hc rfl

theorem Kept.moveTo (hs : Kept s) {i : Nat} {plan : RecordingPlan} {before after : RecordingPhase}
    {infos : AList fun _ : String => EgressInfo} (hc : s.calls[i]? = some (.recording plan before))
    (hslot : RecorderCall.hasSlot (.recording plan after) =
      RecorderCall.hasSlot (.recording plan before))
    (hstop : RecorderCall.hasStop (.recording plan after) =
      RecorderCall.hasStop (.recording plan before))
    (htask : after.running = before.running) : Kept { s.moveTo i plan after with infos } :=
  ⟨(ids_moveTo hc).symm ▸ hs.distinct, hs.active.set_of_eq hs.distinct hc rfl hslot,
    hs.stops.set_of_eq hs.distinct hc rfl hstop, hs.stopTasks.set_of_eq hs.distinct hc rfl htask⟩

/-- **Who has put what in stays known** in every step with a fresh id. -/
theorem Kept.step (hs : Kept s) (hfresh : FreshEgressId s a)
    (h : step conf parallelism s a = some s') : Kept s' := by
  revert h
  fun_cases Recorder.step conf parallelism s a <;> rintro ⟨⟩
  case case1 call now =>
    obtain ⟨hid, hslot, hstop, htask⟩ :=
      startEgress_spec conf parallelism s.active.card call now
    refine ⟨?_, hs.active.concat hslot, hs.stops.concat hstop, hs.stopTasks.concat htask⟩
    rw [ids, map_append, nodup_append]
    refine ⟨hs.distinct, nodup_singleton _, fun id hin id' hin' => ?_⟩
    rw [map_singleton, mem_singleton, hid] at hin'
    rintro rfl
    exact hfresh (hin' ▸ hin)
  case case2 i plan hc id s₁ =>
    refine ⟨(ids_moveTo hc).symm ▸ hs.distinct, ?_, ?_, ?_⟩
    · exact hs.active.put hs.distinct hc rfl rfl fun _ => Finset.mem_insert
    · exact hs.stops.put hs.distinct hc rfl rfl fun _ => AList.mem_insert _
    · exact hs.stopTasks.set_of_eq hs.distinct hc rfl rfl
  case case4 i plan hc s₁ =>
    refine ⟨(ids_moveTo hc).symm ▸ hs.distinct, ?_, ?_, ?_⟩
    · exact hs.active.set_of_eq hs.distinct hc rfl rfl
    · exact hs.stops.set_of_eq hs.distinct hc rfl rfl
    · exact hs.stopTasks.put hs.distinct hc rfl rfl fun _ => AList.mem_insert _
  case case20 i plan info hc id s₁ | case21 i plan info hc id s₁ =>
    -- `stops` keeps the id
    refine ⟨(ids_moveTo hc).symm ▸ hs.distinct, ?_, ?_, ?_⟩
    · exact hs.active.drop hs.distinct hc rfl rfl fun _ => Finset.mem_erase
    · exact hs.stops.set_of_eq hs.distinct hc rfl rfl
    · exact hs.stopTasks.drop hs.distinct hc rfl rfl fun _ => AList.mem_erase
  case case23 egressId =>
    exact ⟨hs.distinct, hs.active, fun id => mem_stops_stopEgress.trans (hs.stops id), hs.stopTasks⟩
  -- a failed registration leaves the id where it is, and the task of a recording that goes on
  all_goals
    have hc := ‹s.calls[_]? = some _›
    exact hs.moveTo hc rfl rfl rfl

/-- **Every recording under way counts**, if ids are distinct. -/
theorem Kept.recordings_le (hs : Kept s) : s.recordings ≤ s.active.card := by
  rw [hs.active.card_eq hs.distinct]
  refine countP_mono_left fun c _ h => ?_
  cases c with
  | recording plan phase => cases phase <;> first | rfl | cases h
  | _ => cases h

/-! ## Admission -/

/-- **The node is not oversubscribed.** -/
def Within (conf : EgressConfig) (parallelism : Option Nat) (count : Nat) : Prop :=
  (count : Rat) * conf.recordingCost ≤ nodeCapacity parallelism

theorem within_zero : Within conf parallelism 0 := by
  unfold Within nodeCapacity
  split <;> simp

theorem Within.mono (hcost : 0 < conf.recordingCost) {m n : Nat} (hmn : m ≤ n)
    (h : Within conf parallelism n) : Within conf parallelism m := by
  calc (m : Rat) * conf.recordingCost
      ≤ (n : Rat) * conf.recordingCost :=
        mul_le_mul_of_nonneg_right (Nat.cast_le.mpr hmn) hcost.le
    _ ≤ nodeCapacity parallelism := h

/-- The handlers that are between their check and the insertion of their id. -/
def pending (s : Recorder) : Nat := s.calls.countP RecorderCall.awaitsReport

/-- **Checked alone**: a request that passes the check comes when no handler is between its own
check and the insertion of its id. -/
def CheckedAlone (conf : EgressConfig) (parallelism : Option Nat) (s : Recorder) :
    RecorderAction → Prop
  | .start call now =>
    (startEgress conf parallelism s.active.card call now).awaitsReport →
      ∀ c ∈ s.calls, c.awaitsReport = false
  | _ => True

instance decidableCheckedAlone (s : Recorder) (a : RecorderAction) :
    Decidable (CheckedAlone conf parallelism s a) := by
  unfold CheckedAlone
  split <;> infer_instance

/-- **Only a request that fits is admitted**: a handler that goes on to its first report has found
room for one more recording. -/
theorem within_of_awaitsReport {activeCount : Nat} {call : StartEgressCall} {now : Int}
    (h : (startEgress conf parallelism activeCount call now).awaitsReport) :
    Within conf parallelism (activeCount + 1) := by
  revert h
  fun_cases startEgress conf parallelism activeCount call now
  case case6 hadmitted _ =>
    intro _
    simpa [admitted, Within] using hadmitted
  all_goals exact fun h => Bool.noConfusion h

/-- **A call moves on** and awaits its first report exactly if it did before: if no id is put into
`active`, there is still room for all that are admitted. -/
theorem Within.of_set (hcost : 0 < conf.recordingCost)
    (hs : Within conf parallelism (s.active.card + s.pending)) {i : Nat} {c' : RecorderCall}
    (hc : s.calls[i]? = some c) (hcalls : s'.calls = s.calls.set i c')
    (hawaits : c'.awaitsReport = c.awaitsReport) (hactive : s'.active ⊆ s.active) :
    Within conf parallelism (s'.active.card + s'.pending) := by
  obtain ⟨hlt, hget⟩ := List.getElem?_eq_some_iff.mp hc
  have hle : (if c.awaitsReport = true then 1 else 0) ≤ s.pending := by
    split
    · next h => exact countP_pos_iff.mpr ⟨c, mem_of_getElem? hc, h⟩
    · exact Nat.zero_le _
  have hsame : s'.pending = s.pending := by
    rw [pending, hcalls, countP_set hlt, hget, hawaits]
    exact Nat.sub_add_cancel hle
  rw [hsame]
  exact hs.mono hcost (Nat.add_le_add_right (Finset.card_le_card hactive) _)

/-- A handler whose first report returns is no longer pending. -/
theorem pending_created {i : Nat} {plan : RecordingPlan}
    (hc : s.calls[i]? = some (.recording plan .creating)) :
    (s.moveTo i plan .registering).pending + 1 = s.pending := by
  obtain ⟨hlt, hget⟩ := List.getElem?_eq_some_iff.mp hc
  have hpos : 0 < s.pending :=
    countP_pos_iff.mpr ⟨_, getElem_mem hlt, by rw [hget]; rfl⟩
  have hset : (s.moveTo i plan .registering).pending = s.pending - 1 := by
    rw [pending, moveTo, countP_set hlt, hget]
    rfl
  omega

/-- **Room for all that are admitted.** The active recordings and the handlers between their check
and their insertion stay within the capacity: a check that passes is made when there are no such
handlers, an insertion turns one into the other, and the end of a recording only makes room. -/
theorem within_step (hcost : 0 < conf.recordingCost)
    (hs : Within conf parallelism (s.active.card + s.pending))
    (halone : CheckedAlone conf parallelism s a) (h : step conf parallelism s a = some s') :
    Within conf parallelism (s'.active.card + s'.pending) := by
  revert h
  fun_cases step conf parallelism s a <;> rintro ⟨⟩
  case case1 call now =>
    have hpending : ∀ c, pending { s with calls := s.calls ++ [c] } =
        s.pending + if c.awaitsReport = true then 1 else 0 := by
      intro c
      rw [pending, countP_append, countP_singleton]
      rfl
    rw [hpending]
    split
    · next hpasses =>
      have hnone : s.pending = 0 := by
        refine countP_eq_zero.mpr fun c hc => ?_
        rw [halone hpasses c hc]
        exact Bool.false_ne_true
      rw [hnone]
      exact within_of_awaitsReport hpasses
    · exact hs
  case case2 i plan hc id s₁ =>
    refine hs.mono hcost ?_
    have hcard : (insert id s.active).card ≤ s.active.card + 1 := Finset.card_insert_le _ _
    have hone : s₁.pending + 1 = s.pending := pending_created hc
    show (insert id s.active).card + s₁.pending ≤ _
    omega
  case case20 i plan info hc id s₁ | case21 i plan info hc id s₁ =>
    exact hs.of_set hcost hc rfl rfl (Finset.erase_subset id s.active)
  case case23 => exact hs
  all_goals
    have hc := ‹s.calls[_]? = some _›
    exact hs.of_set hcost hc rfl rfl (Finset.Subset.refl _)

/-- **Admission.** If no request passes its check while another handler is between its check and the
insertion of its id, the active recordings never need more than the node has. If also no two
requests have the same id, every recording under way is an active one, and so the recordings under
way do not need more either. -/
theorem admission_of_checkedAlone (hcost : 0 < conf.recordingCost) (as : List RecorderAction)
    (halone : Along (step conf parallelism) (CheckedAlone conf parallelism) new as) :
    Throughout (step conf parallelism) (fun s => Within conf parallelism s.active.card) new as ∧
      (Along (step conf parallelism) FreshEgressId new as →
        Throughout (step conf parallelism) (fun s => Within conf parallelism s.recordings)
          new as) := by
  have hroom : Throughout (step conf parallelism)
      (fun s => Within conf parallelism (s.active.card + s.pending)) new as :=
    throughout_of_along (fun s a s' hs hG h => within_step hcost hs hG h) within_zero halone
  refine ⟨fun n s hrun => (hroom n s hrun).mono hcost (Nat.le_add_right _ _),
    fun hfresh n s hrun => ?_⟩
  have hkept : Throughout (step conf parallelism) Kept new as :=
    throughout_of_along (fun s a s' hs hG h => hs.step hG h) kept_new hfresh
  have hle := (hkept n s hrun).recordings_le
  exact (hroom n s hrun).mono hcost (by omega)

/-- A request for a recording of a room, with the default outputs. -/
def plainCall (egressId : String) : StartEgressCall :=
  ⟨egressId, "RM_1", some (.egress ⟨"room", none, [], none, []⟩)⟩

/-- A recording costs a CPU. -/
def oneCpuConfig : EgressConfig := { cpuCost := some ⟨1⟩ }

/-- A request comes while the only CPU is taken, and one after the recording has ended. -/
def consecutiveStarts : List RecorderAction :=
  [.start (plainCall "EG_1") 0, .created 0, .registered 0, .start (plainCall "EG_2") 1,
    .connected 0 2, .activated 0, .stop "EG_1", .recorded 0 50 960, .uploaded 0 "/out/EG_1.wav" 3,
    .reported 0, .start (plainCall "EG_3") 4, .created 2, .registered 2]

theorem admission_consecutive :
    0 < oneCpuConfig.recordingCost ∧
      Throughout (step oneCpuConfig (some 1)) (fun s => Within oneCpuConfig (some 1) s.recordings)
        new consecutiveStarts := by
  have hcost : 0 < oneCpuConfig.recordingCost := by decide +kernel
  have halone : Along (step oneCpuConfig (some 1)) (CheckedAlone oneCpuConfig (some 1)) new
      consecutiveStarts := by
    decide +kernel
  have hfresh : Along (step oneCpuConfig (some 1)) FreshEgressId new consecutiveStarts := by
    decide +kernel
  exact ⟨hcost, (admission_of_checkedAlone hcost consecutiveStarts halone).2 hfresh⟩

/-- **Two recordings on one CPU.** Both requests are checked before either id is put in. -/
theorem admission_oversubscribed :
    (run (step oneCpuConfig (some 1)) new
        [.start (plainCall "EG_1") 0, .start (plainCall "EG_2") 0, .created 0, .created 1]).map
        (fun s => (s.active, s.recordings)) = some ({"EG_1", "EG_2"}, 2) ∧
      ¬ Within oneCpuConfig (some 1) 2 := by
  refine ⟨by decide +kernel, ?_⟩
  simp [Within, oneCpuConfig, EgressConfig.recordingCost, nodeCapacity]

/-! ## Release -/

/-- **Nothing is left behind** under an id. -/
def Released (s : Recorder) (id : String) : Prop :=
  id ∉ s.active ∧ id ∉ s.stops ∧ id ∉ s.stopTasks

/-- A `StartEgress` that has returned an error has left nothing behind. -/
def ReleasedOnError (s : Recorder) : Prop :=
  ∀ c ∈ s.calls, c.error.isSome → s.Released c.egressId

theorem hasStop_of_holds (h : c.hasSlot ∨ c.hasTask) : c.hasStop := by
  cases c with
  | refused | panicked => simp [RecorderCall.hasSlot, RecorderCall.hasTask] at h
  | recording plan phase =>
    cases phase with
    | creating => simp [RecorderCall.hasSlot, RecorderCall.hasTask, RecordingPhase.running] at h
    | _ => rfl

/-- **A call has left nothing behind** if it has never opened its channel. -/
theorem Kept.released_iff_hasStop (hs : Kept s) (hc : c ∈ s.calls) :
    s.Released c.egressId ↔ c.hasStop = false := by
  have hslot := hs.active.mem_iff hs.distinct hc
  have hstop := hs.stops.mem_iff hs.distinct hc
  have htask := hs.stopTasks.mem_iff hs.distinct hc
  rw [Released, hslot, hstop, htask, Bool.not_eq_true, Bool.not_eq_true, Bool.not_eq_true]
  constructor
  · exact fun h => h.2.1
  · intro h
    refine ⟨?_, h, ?_⟩
    · rw [← Bool.not_eq_true] at h ⊢
      exact fun hheld => h (hasStop_of_holds (.inl hheld))
    · rw [← Bool.not_eq_true] at h ⊢
      exact fun hheld => h (hasStop_of_holds (.inr hheld))

/-- The topic of the call could not be registered. -/
def leftByError (c : RecorderCall) : Bool := c.error.isSome && c.hasStop

/-- **Errors leave nothing behind** exactly if no call is one whose registration failed. -/
theorem Kept.releasedOnError_iff (hs : Kept s) :
    ReleasedOnError s ↔ ∀ c ∈ s.calls, leftByError c = false := by
  refine forall₂_congr fun c hc => ?_
  rw [hs.released_iff_hasStop hc, leftByError]
  cases c.error.isSome <;> simp

/-- **What a call that is over has left**, map by map. -/
structure Leaves (s : Recorder) (c : RecorderCall) : Prop where
  /-- The end of a recording releases its place in `active` and its task, and never its channel. -/
  ended : c.hasEnded →
    c.egressId ∉ s.active ∧ c.egressId ∉ s.stopTasks ∧ c.egressId ∈ s.stops
  /-- A request that is refused leaves nothing. -/
  refused : c.error.isSome → leftByError c = false → s.Released c.egressId
  /-- One whose topic could not be registered keeps its place and its channel. -/
  unregistered : leftByError c →
    c.egressId ∈ s.active ∧ c.egressId ∈ s.stops ∧ c.egressId ∉ s.stopTasks

/-- **What every call has left** is read off its phase, which says what it holds. -/
theorem Kept.leaves (hs : Kept s) (hc : c ∈ s.calls) : s.Leaves c := by
  have hslot := hs.active.mem_iff hs.distinct hc
  have hstop := hs.stops.mem_iff hs.distinct hc
  have htask := hs.stopTasks.mem_iff hs.distinct hc
  refine ⟨fun hended => ?_, fun herror hleft => ?_, fun hleft => ?_⟩
  · rw [hslot, hstop, htask]
    cases c with
    | recording plan phase =>
      cases phase with
      | ended => exact ⟨Bool.false_ne_true, Bool.false_ne_true, rfl⟩
      | _ => cases hended
    | _ => cases hended
  · rw [leftByError, herror, Bool.true_and] at hleft
    exact (hs.released_iff_hasStop hc).mpr hleft
  · rw [hslot, hstop, htask]
    cases c with
    | recording plan phase =>
      cases phase with
      | unregistered => exact ⟨rfl, rfl, Bool.false_ne_true⟩
      | _ => cases hleft
    | _ => cases hleft

/-- **No registration fails.** -/
def NoFailedRegistration (s : Recorder) : RecorderAction → Prop
  | .registrationFailed i _ => ∀ c ∈ s.calls[i]?, c.awaitsTopic = false
  | _ => True

/-- **A step leaves something behind after an error** exactly if a registration fails. -/
theorem leftByError_step_iff (hs : ∀ c ∈ s.calls, leftByError c = false)
    (h : step conf parallelism s a = some s') :
    (∀ c ∈ s'.calls, leftByError c = false) ↔ NoFailedRegistration s a := by
  revert h
  fun_cases step conf parallelism s a <;> rintro ⟨⟩
  case case1 call now =>
    obtain ⟨-, -, hstop, -⟩ := startEgress_spec conf parallelism s.active.card call now
    refine iff_of_true (forall_mem_concat hs ?_) trivial
    rw [leftByError, hstop, Bool.and_false]
  case case6 i error plan hc =>
    refine iff_of_false (fun hall => ?_) fun hguard => Bool.noConfusion (hguard _ hc)
    exact Bool.noConfusion (hall _ (mem_set_stepped hc))
  case case23 => exact iff_of_true hs trivial
  all_goals exact iff_of_true (forall_mem_set hs rfl) trivial

theorem noFailedRegistration_of_not_enabled (h : step conf parallelism s a = none) :
    NoFailedRegistration s a := by
  cases a with
  | registrationFailed i error =>
    intro c hc
    rw [Option.mem_def] at hc
    cases c with
    | recording plan phase =>
      cases phase with
      | registering => simp [step, hc] at h
      | _ => rfl
    | _ => rfl
  | _ => trivial

/-- **Release.** If no two requests have the same id, every state of every run says of each map what
the calls that are over have left in it (`Leaves`): the end of a recording releases its id from
`active` and `stop_tasks` and never from `stops`, a refused request leaves nothing, and a failed
registration leaves its id in `active` and `stops`. So a `StartEgress` that returns an error has
always left nothing behind exactly if no registration ever fails. -/
theorem released_iff (as : List RecorderAction)
    (hfresh : Along (step conf parallelism) FreshEgressId new as) :
    Throughout (step conf parallelism) (fun s => ∀ c ∈ s.calls, s.Leaves c) new as ∧
      (Throughout (step conf parallelism) ReleasedOnError new as ↔
        Along (step conf parallelism) NoFailedRegistration new as) := by
  refine ⟨fun n s hrun c hc => ?_, ?_⟩
  · have hkept : Throughout (step conf parallelism) Kept new as :=
      throughout_of_along (fun s a s' hs hG h => hs.step hG h) kept_new hfresh
    exact (hkept n s hrun).leaves hc
  · refine throughout_iff_along_of
      (I := fun s => Kept s ∧ ∀ c ∈ s.calls, leftByError c = false)
      (fun s hs => hs.1.releasedOnError_iff.mpr hs.2)
      (fun s a _ hnone => noFailedRegistration_of_not_enabled hnone)
      (fun s a s' hs hH hG h => ⟨hs.1.step hH h, (leftByError_step_iff hs.2 h).mpr hG⟩)
      (fun s a s' hs hH h hP => ?_) ⟨kept_new, by simp [new]⟩ hfresh
    exact (leftByError_step_iff hs.2 h).mp ((hs.1.step hH h).releasedOnError_iff.mp hP)

theorem released_consecutive :
    ∃ s, run (step oneCpuConfig (some 1)) new consecutiveStarts = some s ∧
      (∃ c ∈ s.calls, c.error.isSome ∧ s.Released c.egressId) ∧
      (∃ c ∈ s.calls, c.hasEnded ∧
        c.egressId ∉ s.active ∧ c.egressId ∉ s.stopTasks ∧ c.egressId ∈ s.stops) := by
  have hfresh : Along (step oneCpuConfig (some 1)) FreshEgressId new consecutiveStarts := by
    decide +kernel
  refine (show ∃ s ∈ run (step oneCpuConfig (some 1)) new consecutiveStarts,
    (∃ c ∈ s.calls, c.error.isSome ∧ leftByError c = false) ∧
      ∃ c ∈ s.calls, c.hasEnded = true by decide +kernel).imp fun s ⟨hrun, hrefused, hended⟩ => ?_
  have hleaves := (released_iff consecutiveStarts hfresh).1 consecutiveStarts.length s
    (by rw [take_length]; exact hrun)
  refine ⟨hrun, ?_, ?_⟩
  · obtain ⟨c, hc, herror, hleft⟩ := hrefused
    exact ⟨c, hc, herror, (hleaves c hc).refused herror hleft⟩
  · obtain ⟨c, hc, hover⟩ := hended
    exact ⟨c, hc, hover, (hleaves c hc).ended hover⟩

/-- **What is left behind.** The registration of the first recording fails, and the second one is
completed: `active` keeps the first id, and `stops` keeps both. -/
theorem released_leaks :
    (run (step oneCpuConfig (some 2)) new
        [.start (plainCall "EG_1") 0, .created 0, .registrationFailed 0 "bus closed",
          .start (plainCall "EG_2") 1, .created 1, .registered 1, .connected 1 2, .activated 1,
          .recorded 1 50 960, .uploaded 1 "/out/EG_2.wav" 3, .reported 1]).map
        (fun s => (s.calls.map fun c => (c.egressId, c.error.isSome, c.hasEnded),
          s.active, s.stops.keys, s.stopTasks.keys)) =
      some ([("EG_1", true, false), ("EG_2", false, true)], {"EG_1"}, ["EG_2", "EG_1"], []) := by
  decide +kernel

end Recorder

end LivekitVoice

