import LivekitVoice.Agent.Dispatch
import LivekitVoice.Transition.Pool
import LivekitVoice.Transition.Record
import LivekitVoice.Transition.Run

/-! # Asking a worker whether it takes a job

`dispatch_job` asks a worker whether it is available for a job, and assigns the job if it is. The
answer comes over the worker's own connection, so the call leaves the sending half of a one-shot
channel in a slot of the worker and waits for the other half, for ten seconds at most. The slot has
room for one: a call that finds a sender in it gives up, and one that finds none puts its own there
in a second step. An answer goes to whoever is in the slot, whatever job it names. A call that has
waited long enough leaves its sender behind.

* **`assigned_only_on_acceptance`** — under `Matched` a job is assigned only if it was accepted,
* **`slot_freed`** — under `Attended` no call blocks the worker for others. -/

namespace LivekitVoice

open Option Transition

/-! ## The calls -/

/-- `lk.AvailabilityResponse`, as far as it is read. -/
structure AvailabilityResponse where
  /-- The job it is about; nothing reads it. -/
  jobId : String
  available : Bool
  participantIdentity : String := ""
  participantName : String := ""
  participantMetadata : String := ""
  participantAttributes : List (String × String) := []

/-- What an agent's join token says of the participant, and where it may join. -/
structure AgentClaims where
  iss : String
  sub : String
  name : String
  metadata : String
  attributes : List (String × String)
  room : String

/-- The claims that `dispatch_job` has signed. -/
def agentClaims (apiKey : String) (job : AgentJob) (res : AvailabilityResponse) : AgentClaims where
  iss := apiKey
  sub := if res.participantIdentity = "" then "agent-" ++ job.id else res.participantIdentity
  name := res.participantName
  metadata := res.participantMetadata
  attributes := res.participantAttributes
  room := job.room

/-- Why `dispatch_job` fails. -/
inductive DispatchError
  | noWorker (agentName : String)
  | pending
  | noResponse
  | channelClosed
  | declined
  | unknownKey (apiKey : String)
  /-- The token could not be signed. -/
  | encode (message : String)

/-- The error text. -/
def DispatchError.message : DispatchError → String
  | .noWorker agentName =>
    "not dispatching agent job since no worker is available (agent '" ++ agentName ++ "')"
  | .pending => "worker already has a pending availability request"
  | .noResponse => "worker did not respond to availability request"
  | .channelClosed => "availability channel closed"
  | .declined => "worker declined the job"
  | .unknownKey apiKey => "unknown api key '" ++ apiKey ++ "'"
  | .encode message => "encode agent token: " ++ message

/-- The one-shot channel of a call, from its receiving half. -/
inductive OneShot
  | empty
  | value (res : AvailabilityResponse)
  /-- The sender is gone. -/
  | closed

/-- **Where a `dispatch_job` stands.** -/
inductive DispatchPc
  /-- `pick_worker`. -/
  | pick
  /-- Is there a sender in the slot? -/
  | check
  /-- `set_availability_responder`. -/
  | respond
  /-- The request is to be sent. -/
  | request (rx : OneShot)
  | waiting (rx : OneShot)
  /-- The worker has accepted; a token is to be made. -/
  | assign (res : AvailabilityResponse)
  | done (result : Except DispatchError Unit)

namespace DispatchPc

/-- Something happens to the sender. -/
def fill (rx : OneShot) : DispatchPc → DispatchPc
  | .request _ => .request rx
  | .waiting _ => .waiting rx
  | pc => pc

/-- The call has sent off its sender and waits for it. -/
def isOpen : DispatchPc → Bool
  | .request .empty | .waiting .empty => true
  | _ => false

def finished : DispatchPc → Bool
  | .done _ => true
  | _ => false

end DispatchPc

/-- A `dispatch_job` in flight. -/
structure DispatchCall where
  job : AgentJob
  pc : DispatchPc

/-- What passes between the server and the worker. -/
inductive WorkerEvent
  | requested (job : AgentJob)
  | answered (res : AvailabilityResponse)
  | assigned (job : AgentJob) (claims : AgentClaims)

/-- **A worker**, with the calls that have picked it. -/
structure AskedWorker where
  agentName : String
  apiKey : String
  /-- The key is one of the server's. -/
  keyKnown : Bool
  isAvailable : Bool
  /-- The call whose sender is in the slot. -/
  slot : Option Nat
  calls : List DispatchCall
  log : List WorkerEvent

/-- What can happen. -/
inductive WorkerAction
  | dispatch (job : AgentJob)
  /-- `UpdateWorker` with a status. -/
  | update (available : Bool)
  /-- The worker answers. -/
  | answer (res : AvailabilityResponse)
  /-- Call `i` goes on. -/
  | next (i : Nat)
  /-- Call `i` has waited long enough. An answer that has just come is lost. -/
  | timeout (i : Nat)
  /-- The token of call `i` cannot be signed. -/
  | encodeFails (i : Nat) (message : String)

namespace AskedWorker

/-- A worker that has registered. -/
def init (agentName apiKey : String) (keyKnown : Bool) : AskedWorker where
  agentName := agentName
  apiKey := apiKey
  keyKnown := keyKnown
  isAvailable := true
  slot := none
  calls := []
  log := []

variable (s : AskedWorker)

/-- Call `i` is now there. -/
def setPc (i : Nat) (c : DispatchCall) (pc : DispatchPc) : AskedWorker :=
  { s with calls := s.calls.set i ⟨c.job, pc⟩ }

/-- An event is recorded. -/
def record (e : WorkerEvent) : AskedWorker := { s with log := s.log ++ [e] }

/-- The sender in the slot is taken out and used, or dropped. -/
def vacate (rx : OneShot) : AskedWorker :=
  match s.slot with
  | none => s
  | some j =>
    { s with
      slot := none
      calls := s.calls.modify j fun c => ⟨c.job, c.pc.fill rx⟩ }

/-- `fulfill_availability`. -/
def fulfillAvailability (res : AvailabilityResponse) : AskedWorker :=
  (s.vacate (.value res)).record (.answered res)

/-- `set_availability_responder`: a sender that is there is dropped. -/
def setAvailabilityResponder (i : Nat) : AskedWorker :=
  { s.vacate .closed with slot := some i }

/-- The next step of `dispatch_job`. -/
def dispatchStep (i : Nat) (c : DispatchCall) : Option AskedWorker :=
  match c.pc with
  | .pick =>
    some (s.setPc i c (if s.isAvailable && c.job.agentName = s.agentName then .check
      else .done (.error (.noWorker c.job.agentName))))
  | .check => some (s.setPc i c (if s.slot.isSome then .done (.error .pending) else .respond))
  | .respond => some ((s.setAvailabilityResponder i).setPc i c (.request .empty))
  | .request rx => some ((s.setPc i c (.waiting rx)).record (.requested c.job))
  | .waiting .empty => none
  | .waiting .closed => some (s.setPc i c (.done (.error .channelClosed)))
  | .waiting (.value res) =>
    some (s.setPc i c (if res.available then .assign res else .done (.error .declined)))
  | .assign res =>
    if s.keyKnown then
      some ((s.setPc i c (.done (.ok ()))).record
        (.assigned c.job (agentClaims s.apiKey c.job res)))
    else some (s.setPc i c (.done (.error (.unknownKey s.apiKey))))
  | .done _ => none

/-- The call gives up waiting. -/
def timeoutStep (i : Nat) (c : DispatchCall) : Option AskedWorker :=
  match c.pc with
  -- its sender stays where it is
  | .waiting _ => some (s.setPc i c (.done (.error .noResponse)))
  | _ => none

/-- The token cannot be signed. -/
def encodeFailsStep (i : Nat) (c : DispatchCall) (message : String) :
    Option AskedWorker :=
  match c.pc with
  | .assign _ =>
    if s.keyKnown then some (s.setPc i c (.done (.error (.encode message)))) else none
  | _ => none

/-- **One step.** -/
def step : WorkerAction → Option AskedWorker
  | .dispatch job => some { s with calls := s.calls ++ [⟨job, .pick⟩] }
  | .update available => some { s with isAvailable := available }
  | .answer res => some (s.fulfillAvailability res)
  | .next i => s.calls[i]?.bind (s.dispatchStep i)
  | .timeout i => s.calls[i]?.bind (s.timeoutStep i)
  | .encodeFails i message => s.calls[i]?.bind fun c => s.encodeFailsStep i c message

/-! ## What a step does -/

variable {s s' : AskedWorker} {i : Nat} {c : DispatchCall} {a : WorkerAction}
  {log : List WorkerEvent} {pc : DispatchPc}

theorem slot_vacate (s : AskedWorker) (rx : OneShot) : (s.vacate rx).slot = none := by
  rw [vacate]
  split
  · assumption
  · rfl

theorem log_vacate (s : AskedWorker) (rx : OneShot) : (s.vacate rx).log = s.log := by
  fun_cases vacate s rx <;> rfl

theorem length_vacate (s : AskedWorker) (rx : OneShot) :
    (s.vacate rx).calls.length = s.calls.length := by
  rw [vacate]
  split
  · rfl
  · exact List.length_modify _ _ _

/-- **Who is there after the slot was emptied**: the call that had its sender there has heard of it,
and the others are as they were. -/
theorem forall_vacate {P : Nat → DispatchCall → Prop} {rx : OneShot}
    (hothers : ∀ j c, s.slot ≠ some j → s.calls[j]? = some c → P j c)
    (hself : ∀ j c, s.slot = some j → s.calls[j]? = some c → P j ⟨c.job, c.pc.fill rx⟩) :
    ∀ j c, (s.vacate rx).calls[j]? = some c → P j c := by
  rw [vacate]
  split
  · next hslot => exact fun j c hj => hothers j c (by simp [hslot]) hj
  · next k hslot =>
    refine forall_modify (fun j c hjk hj => hothers j c ?_ hj) (fun c hk => hself k c hslot hk)
    rw [hslot]
    exact fun heq => hjk (some.inj heq).symm

/-! ## Assignments -/

/-- The worker has accepted a job. -/
def Accepted (log : List WorkerEvent) (jobId : String) : Prop :=
  ∃ res, .answered res ∈ log ∧ res.jobId = jobId ∧ res.available

theorem Accepted.concat {jobId : String} (h : Accepted log jobId) (e : WorkerEvent) :
    Accepted (log ++ [e]) jobId := by
  obtain ⟨res, hmem, hres⟩ := h
  exact ⟨res, List.mem_append_left _ hmem, hres⟩

/-- An assignment comes after the acceptance of its job. -/
def AfterAcceptance (log : List WorkerEvent) : WorkerEvent → Prop
  | .assigned job _ => Accepted log job.id
  | .requested _ | .answered _ => True

/-- **A job is assigned only on acceptance of that job.** -/
def AssignedOnAcceptance (s : AskedWorker) : Prop := Preceded AfterAcceptance s.log

/-- **The condition on an answer**: an acceptance finds the slot empty, or the sender of a call for
the job it names. -/
def Matched (s : AskedWorker) : WorkerAction → Prop
  | .answer res => res.available →
      ∀ i ∈ s.slot, ∀ c ∈ s.calls[i]?, c.job.id = res.jobId
  | _ => True

instance (s : AskedWorker) (a : WorkerAction) : Decidable (s.Matched a) := by
  unfold Matched
  split <;> infer_instance

/-- An acceptance that a call holds is of its own job. -/
def Justified (log : List WorkerEvent) (c : DispatchCall) : Prop :=
  match c.pc with
  | .request (.value res) | .waiting (.value res) => res.available → Accepted log c.job.id
  | .assign _ => Accepted log c.job.id
  | _ => True

theorem Justified.concat {c : DispatchCall} (h : Justified log c) (e : WorkerEvent) :
    Justified (log ++ [e]) c := by
  obtain ⟨job, pc⟩ := c
  cases pc with
  | request rx | waiting rx =>
    cases rx with
    | empty | closed => trivial
    | value res => exact fun havailable => (h havailable).concat e
  | assign res => exact Accepted.concat h e
  | _ => trivial

/-- **Every acceptance that a call holds is of its own job**, and so was every assignment. -/
structure Deserved (s : AskedWorker) : Prop where
  justified : ∀ (i : Nat) c, s.calls[i]? = some c → Justified s.log c
  assigned : Preceded AfterAcceptance s.log

theorem Deserved.setPc (hs : Deserved s) (hi : s.calls[i]? = some c)
    (hpc : Justified s.log ⟨c.job, pc⟩) : Deserved (s.setPc i c pc) :=
  ⟨forall_set hi (fun j c _ hj => hs.justified j c hj) hpc, hs.assigned⟩

/-- **One step of a call.** -/
theorem Deserved.dispatchStep (hs : Deserved s) (hi : s.calls[i]? = some c)
    (h : s.dispatchStep i c = some s') : Deserved s' := by
  have hc := hs.justified i c hi
  revert h
  fun_cases AskedWorker.dispatchStep s i c <;> rintro ⟨⟩
  case case1 | case2 => exact hs.setPc hi (by split <;> trivial)
  case case3 =>
    constructor
    · show ∀ j d, ((s.vacate .closed).calls.set i ⟨c.job, .request .empty⟩)[j]? = some d →
        Justified (s.vacate .closed).log d
      rw [log_vacate]
      intro j d hj
      -- the call itself has heard nothing, and the one before it that it was dropped
      by_cases hji : j = i
      · subst hji
        rw [List.getElem?_set_self' ] at hj
        obtain ⟨_, _, rfl⟩ := map_eq_some_iff.mp hj
        trivial
      · rw [List.getElem?_set_ne (Ne.symm hji)] at hj
        refine forall_vacate (fun k d _ hk => hs.justified k d hk) (fun k d _ hk => ?_) j d hj
        have hold := hs.justified k d hk
        obtain ⟨job, pc⟩ := d
        cases pc with
        | request | waiting | pick | check | respond | done => trivial
        | assign res => exact hold
    · show Preceded AfterAcceptance (s.vacate .closed).log
      rw [log_vacate]
      exact hs.assigned
  case case4 rx hpc =>
    refine ⟨forall_set hi (fun j c _ hj => (hs.justified j c hj).concat _) ?_,
      hs.assigned.concat trivial⟩
    rw [Justified, hpc] at hc
    cases rx with
    | empty | closed => trivial
    | value res => exact fun havailable => (hc havailable).concat _
  case case6 | case9 => exact hs.setPc hi trivial
  case case7 res hpc =>
    rw [Justified, hpc] at hc
    refine hs.setPc hi ?_
    split
    · next havailable => exact hc havailable
    · trivial
  case case8 res hpc _ =>
    rw [Justified, hpc] at hc
    exact ⟨forall_set hi (fun j c _ hj => (hs.justified j c hj).concat _) trivial,
      hs.assigned.concat hc⟩

/-- **One step** that meets the condition. -/
theorem Deserved.step (hs : Deserved s) (hmatched : s.Matched a) (h : s.step a = some s') :
    Deserved s' := by
  cases a with
  | dispatch job =>
    cases h
    exact ⟨forall_concat hs.justified trivial, hs.assigned⟩
  | update available =>
    cases h
    exact ⟨hs.justified, hs.assigned⟩
  | answer res =>
    cases h
    constructor
    · show ∀ i c, (s.vacate (.value res)).calls[i]? = some c →
        Justified ((s.vacate (.value res)).log ++ [.answered res]) c
      rw [log_vacate]
      refine forall_vacate (fun j c _ hj => (hs.justified j c hj).concat _) ?_
      intro j c hslot hj
      have hnew : res.available → Accepted (s.log ++ [.answered res]) c.job.id :=
        fun havailable => ⟨res, by simp, (hmatched havailable j hslot c hj).symm, havailable⟩
      have hold := hs.justified j c hj
      obtain ⟨job, pc⟩ := c
      cases pc with
      | request | waiting => exact hnew
      | pick | check | respond | done => trivial
      | assign res' => exact hold.concat _
    · show Preceded AfterAcceptance ((s.vacate (.value res)).log ++ [.answered res])
      rw [log_vacate]
      exact hs.assigned.concat trivial
  | next i =>
    obtain ⟨c, hi, h⟩ := bind_eq_some_iff.mp h
    exact hs.dispatchStep hi h
  | timeout i =>
    obtain ⟨c, hi, h⟩ := bind_eq_some_iff.mp h
    revert h
    fun_cases timeoutStep s i c <;> rintro ⟨⟩
    exact hs.setPc hi trivial
  | encodeFails i message =>
    obtain ⟨c, hi, h⟩ := bind_eq_some_iff.mp h
    revert h
    fun_cases encodeFailsStep s i c message <;> rintro ⟨⟩
    exact hs.setPc hi trivial

/-- **A job is assigned only on acceptance of that job**, along every run in which an acceptance
finds the slot empty or with the job it names. -/
theorem assigned_only_on_acceptance {agentName apiKey : String} {keyKnown : Bool}
    {acts : List WorkerAction} {s : AskedWorker}
    (hmatched : Along step Matched (init agentName apiKey keyKnown) acts)
    (hrun : run step (init agentName apiKey keyKnown) acts = some s) : AssignedOnAcceptance s :=
  (run_invariant_along (I := Deserved) (fun _ _ _ hs hm h => hs.step hm h)
    ⟨by simp [init], preceded_nil⟩ hmatched hrun).assigned

/-- A job for the agent `voice` in the room `room`. -/
def voiceJob (id : String) : AgentJob := ⟨id, "", "room", "voice", "", "", []⟩

/-- Call `i` takes `n` steps. -/
def steps (i n : Nat) : List WorkerAction := List.replicate n (.next i)

/-- What has been assigned. -/
def assignments (s : AskedWorker) : List String :=
  s.log.filterMap fun
    | .assigned job _ => some job.id
    | .requested _ | .answered _ => none

/-- What has been accepted. -/
def acceptances (s : AskedWorker) : List String :=
  s.log.filterMap fun
    | .answered res => if res.available then some res.jobId else none
    | .requested _ | .assigned _ _ => none

/-- The worker accepts or declines a job. -/
def answers (id : String) (available : Bool) : WorkerAction :=
  .answer ⟨id, available, "", "", "", []⟩

/-- A job is accepted and one is declined. -/
def orderly : List WorkerAction :=
  List.flatten [[.dispatch (voiceJob "AJ_1")], steps 0 4, [answers "AJ_1" true], steps 0 2,
    [.dispatch (voiceJob "AJ_2")], steps 1 4, [answers "AJ_2" false], steps 1 1]

theorem assigned_only_on_acceptance_accepted :
    (run step (init "voice" "key" true) orderly).map assignments = some ["AJ_1"] ∧
      ∀ s, run step (init "voice" "key" true) orderly = some s → AssignedOnAcceptance s :=
  ⟨by decide +kernel, fun _ hrun => assigned_only_on_acceptance (by decide +kernel) hrun⟩

/-- Two calls look at the slot before either has put its sender there. -/
def overlapping : List WorkerAction :=
  List.flatten [[.dispatch (voiceJob "AJ_1"), .dispatch (voiceJob "AJ_2")], steps 0 2, steps 1 2,
    steps 0 2, steps 1 2, [answers "AJ_1" true], steps 1 2]

/-- The worker repeats its acceptance of a job while it is asked about the next one. -/
def repeated : List WorkerAction :=
  List.flatten [[.dispatch (voiceJob "AJ_1")], steps 0 4, [answers "AJ_1" true], steps 0 2,
    [.dispatch (voiceJob "AJ_2")], steps 1 4, [answers "AJ_1" true], steps 1 2]

/-- **A job is assigned on the acceptance of another**: of two calls that overlap the second gets
the answer about the first; and an answer about an earlier job is taken for one about the next. -/
theorem assigned_on_another_answer :
    (run step (init "voice" "key" true) overlapping).map (fun s => (s.acceptances, s.assignments)) =
      some (["AJ_1"], ["AJ_2"]) ∧
    (run step (init "voice" "key" true) repeated).map (fun s => (s.acceptances, s.assignments)) =
      some (["AJ_1", "AJ_1"], ["AJ_1", "AJ_2"]) := by
  decide +kernel

/-! ## The slot -/

/-- **The slot is free when nobody needs it.** -/
structure Freed (s : AskedWorker) : Prop where
  /-- It is empty when no call is in flight. -/
  empty : (∀ c ∈ s.calls, c.pc.finished) → s.slot = none
  /-- A call that looks at it while no other is in flight goes on. -/
  admits : ∀ (i : Nat) c, s.calls[i]? = some c → c.pc = .check →
    (∀ (j : Nat) d, j ≠ i → s.calls[j]? = some d → d.pc.finished) →
      s.step (.next i) = some (s.setPc i c .respond)

/-- **The condition on a timeout**: the call's own sender is not in the slot, because it was used
or another call has put its own there. -/
def Attended (s : AskedWorker) : WorkerAction → Prop
  | .timeout i => s.slot ≠ some i
  | _ => True

instance (s : AskedWorker) (a : WorkerAction) : Decidable (s.Attended a) := by
  unfold Attended
  split <;> infer_instance

/-- **The sender in the slot** is that of a call that waits for it. -/
def Held (s : AskedWorker) : Prop :=
  ∀ i, s.slot = some i → ∃ c, s.calls[i]? = some c ∧ c.pc.isOpen

theorem not_finished_of_isOpen (h : pc.isOpen) : pc.finished = false := by
  cases pc with
  | done result => cases h
  | _ => rfl

theorem Held.freed (hs : Held s) : Freed s := by
  constructor
  · intro hdone
    cases hslot : s.slot with
    | none => rfl
    | some j =>
      obtain ⟨d, hj, hopen⟩ := hs j hslot
      have hfinished := hdone d (List.mem_of_getElem? hj)
      simp [not_finished_of_isOpen hopen] at hfinished
  · intro i c hi hpc halone
    have hslot : s.slot = none := by
      cases hslot : s.slot with
      | none => rfl
      | some j =>
        obtain ⟨d, hj, hopen⟩ := hs j hslot
        by_cases hji : j = i
        · subst hji
          obtain rfl : c = d := some.inj (hi.symm.trans hj)
          rw [hpc] at hopen
          cases hopen
        · have hfinished := halone j d hji hj
          simp [not_finished_of_isOpen hopen] at hfinished
    rw [step, hi, bind_some, dispatchStep, hpc, hslot]
    rfl

theorem Held.setPc (hs : Held s) (hi : s.calls[i]? = some c)
    (hopen : s.slot = some i → c.pc.isOpen → pc.isOpen) : Held (s.setPc i c pc) := by
  intro j hslot
  obtain ⟨d, hj, hd⟩ := hs j hslot
  by_cases hji : j = i
  · subst hji
    obtain rfl : c = d := some.inj (hi.symm.trans hj)
    exact ⟨⟨c.job, pc⟩, getElem?_set_stepped hi, hopen hslot hd⟩
  · exact ⟨d, getElem?_set_other hi hji hj, hd⟩

/-- **One step of a call.** It stops waiting for its sender only by giving up. -/
theorem Held.dispatchStep (hs : Held s) (hi : s.calls[i]? = some c)
    (h : s.dispatchStep i c = some s') : Held s' := by
  revert h
  fun_cases AskedWorker.dispatchStep s i c <;> rintro ⟨⟩
  case case3 =>
    intro j hslot
    obtain rfl : i = j := some.inj hslot
    have hlt : i < (s.vacate .closed).calls.length := by
      rw [length_vacate]
      exact (List.getElem?_eq_some_iff.mp hi).1
    exact ⟨⟨c.job, .request .empty⟩, List.getElem?_set_self hlt, rfl⟩
  case case4 rx hpc =>
    refine hs.setPc hi fun _ hopen => ?_
    rw [hpc] at hopen
    cases rx with
    | empty => rfl
    | _ => cases hopen
  all_goals
    have hpc := ‹c.pc = _›
    refine hs.setPc hi fun _ hopen => ?_
    rw [hpc] at hopen
    cases hopen

/-- **One step** that meets the condition. -/
theorem Held.step (hs : Held s) (hattended : s.Attended a) (h : s.step a = some s') : Held s' := by
  cases a with
  | dispatch job =>
    cases h
    intro i hslot
    obtain ⟨c, hi, hc⟩ := hs i hslot
    exact ⟨c, getElem?_concat_old hi, hc⟩
  | update available =>
    cases h
    exact hs
  | answer res =>
    cases h
    intro i hslot
    have hnone : (s.fulfillAvailability res).slot = none := slot_vacate s _
    simp [hnone] at hslot
  | next i =>
    obtain ⟨c, hi, h⟩ := bind_eq_some_iff.mp h
    exact hs.dispatchStep hi h
  | timeout i =>
    obtain ⟨c, hi, h⟩ := bind_eq_some_iff.mp h
    revert h
    fun_cases timeoutStep s i c <;> rintro ⟨⟩
    exact hs.setPc hi fun hslot _ => absurd hslot hattended
  | encodeFails i message =>
    obtain ⟨c, hi, h⟩ := bind_eq_some_iff.mp h
    revert h
    fun_cases encodeFailsStep s i c message <;> rintro ⟨⟩
    next hpc _ => exact hs.setPc hi fun _ hopen => by simp [hpc, DispatchPc.isOpen] at hopen

/-- **The slot is freed** along every run in which no call gives up while its sender is there. -/
theorem slot_freed {agentName apiKey : String} {keyKnown : Bool} {acts : List WorkerAction}
    {s : AskedWorker} (hattended : Along step Attended (init agentName apiKey keyKnown) acts)
    (hrun : run step (init agentName apiKey keyKnown) acts = some s) : Freed s :=
  (run_invariant_along (I := Held) (fun _ _ _ hs ha h => hs.step ha h)
    (by simp [Held, init]) hattended hrun).freed

/-- Of two calls that overlap, the first is no longer in the slot when it gives up, and the second
is declined. -/
def givenUp : List WorkerAction :=
  List.flatten [[.dispatch (voiceJob "AJ_1"), .dispatch (voiceJob "AJ_2")], steps 0 2, steps 1 2,
    steps 0 2, steps 1 2, [.timeout 0, answers "AJ_2" false], steps 1 1]

/-- How the calls have ended. -/
def results (s : AskedWorker) : List (Option String) :=
  s.calls.map fun c =>
    match c.pc with
    | .done (.error e) => some e.message
    | _ => none

theorem slot_freed_given_up :
    (run step (init "voice" "key" true) givenUp).map (fun s => (s.slot, s.results)) =
        some (none, [some "worker did not respond to availability request",
          some "worker declined the job"]) ∧
      ∀ s, run step (init "voice" "key" true) givenUp = some s → Freed s :=
  ⟨by decide +kernel, fun _ hrun => slot_freed (by decide +kernel) hrun⟩

/-- A call gives up, and another one begins. -/
def unanswered : List WorkerAction :=
  List.flatten [[.dispatch (voiceJob "AJ_1")], steps 0 4, [.timeout 0, .dispatch (voiceJob "AJ_2")],
    steps 1 2]

/-- **A call that gives up blocks the worker**: its sender stays in the slot, and the next call is
refused although no other is in flight and the worker is available. -/
theorem slot_blocked :
    (run step (init "voice" "key" true) unanswered).map
        (fun s => (s.slot, s.isAvailable, s.results)) =
      some (some 0, true, [some "worker did not respond to availability request",
        some "worker already has a pending availability request"]) := by
  decide +kernel

end AskedWorker
end LivekitVoice
