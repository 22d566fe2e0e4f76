import LivekitVoice.Api.Access
import LivekitVoice.Egress.Request
import LivekitVoice.Transition.Pool
import LivekitVoice.Transition.Run

/-! # The reports of a recording

The life of one recording, identified by its egress id, between the recorder and the server. The
recorder reports a starting info with `CreateEgress`, an active one and a last one with
`UpdateEgress`; it awaits each report, but goes on if that times out, and only then keeps the info
as its own (`infos`). On the server each report is handled on its own, and so are the `Start*Egress`
call that asked for the recording and any number of `StopEgress` calls: both ask the recorder for an
info and store it once they have it. Store reads, store writes and recorder calls are steps of their
own.

* **`Kept.step`** — who can still store an info that is not the last one,
* **`finished_stays_finished`** — under `Quiet`, a finished recording stays finished. -/

namespace LivekitVoice

open Transition

/-! ## Infos -/

/-- `lk.EgressStatus`. -/
inductive EgressStatus
  | starting
  | active
  | ending
  | complete
  | failed
  | aborted
  | limitReached
  deriving DecidableEq

namespace EgressStatus

/-- The recording is over. -/
def isTerminal : EgressStatus → Bool
  | .complete | .failed | .aborted | .limitReached => true
  | .starting | .active | .ending => false

/-- `StopEgress` is passed on to the recorder. -/
def canStop : EgressStatus → Bool
  | .starting | .active => true
  | _ => false

/-- The name in an error message. -/
def name : EgressStatus → String
  | .starting => "EgressStarting"
  | .active => "EgressActive"
  | .ending => "EgressEnding"
  | .complete => "EgressComplete"
  | .failed => "EgressFailed"
  | .aborted => "EgressAborted"
  | .limitReached => "EgressLimitReached"

end EgressStatus

/-- `lk.FileInfo`. -/
structure FileInfo where
  filename : String
  startedAt : Int
  endedAt : Int
  duration : Int
  location : String
  size : Int
  deriving DecidableEq

/-- `lk.EgressInfo`. -/
structure EgressInfo where
  egressId : String
  roomId : String
  roomName : String
  /-- `1` is a source of the SDK. -/
  sourceType : Int := 1
  status : EgressStatus
  startedAt : Int
  endedAt : Int := 0
  updatedAt : Int
  request : EgressRequest
  fileResults : List FileInfo := []
  error : String := ""
  deriving DecidableEq

/-- The recording is over. -/
def EgressInfo.isTerminal (info : EgressInfo) : Bool := info.status.isTerminal

/-- **What is recorded**, as the recorder was told; the request is the redacted one. -/
structure EgressJob where
  egressId : String
  roomId : String
  roomName : String
  request : EgressRequest

namespace EgressJob

variable (job : EgressJob)

/-- The info of `CreateEgress`, and of the response to `StartEgress`. -/
def starting (now : Int) : EgressInfo where
  egressId := job.egressId
  roomId := job.roomId
  roomName := job.roomName
  status := .starting
  startedAt := now
  updatedAt := now
  request := job.request

/-- The info once the recorder is in the room. -/
def active (now : Int) : EgressInfo where
  egressId := job.egressId
  roomId := job.roomId
  roomName := job.roomName
  status := .active
  startedAt := now
  updatedAt := now
  request := job.request

/-- The info of a recording that has failed. -/
def failed (error : String) (now : Int) : EgressInfo where
  egressId := job.egressId
  roomId := job.roomId
  roomName := job.roomName
  status := .failed
  startedAt := now
  endedAt := now
  updatedAt := now
  error := error
  request := job.request

/-- `finished_info`; a frame is 20 ms. -/
def finished (filename location : String) (frames size : Nat) (now : Int) :
    EgressInfo where
  egressId := job.egressId
  roomId := job.roomId
  roomName := job.roomName
  status := .complete
  startedAt := now
  endedAt := now
  updatedAt := now
  request := job.request
  fileResults := [⟨filename, now, now, frames * 20, location, size⟩]

end EgressJob

/-! ## The recorder and the handlers -/

/-- **Where the recorder is** with this recording. -/
inductive RecorderPhase
  /-- It has not been asked. -/
  | idle
  /-- It awaits the report of the starting info. -/
  | creating (info : EgressInfo)
  /-- It awaits the registration of the topic of `StopEgress`. -/
  | registering (info : EgressInfo)
  /-- It has responded, and connects to the room. -/
  | connecting
  /-- It awaits the report of the active info. -/
  | activating (info : EgressInfo)
  /-- It records, or uploads. -/
  | recording
  /-- It awaits the report of the last info. -/
  | finishing (info : EgressInfo)
  /-- It is done. -/
  | finished
  /-- The topic could not be registered. -/
  | refused

/-- **A handler on the server**, and the step it is about to take. -/
inductive EgressHandler
  /-- `CreateEgress`: look for an earlier create. -/
  | createLoad (info : EgressInfo)
  | createStore (info : EgressInfo)
  /-- The `egress_started` webhook. -/
  | createNotify (info : EgressInfo)
  /-- `UpdateEgress`. -/
  | updateStore (info : EgressInfo)
  /-- The `egress_updated` or `egress_ended` webhook. -/
  | updateNotify (info : EgressInfo)
  /-- `Start*Egress`: await the recorder. -/
  | startCall
  | startStore (info : EgressInfo)
  /-- `StopEgress`: look for the recording. -/
  | stopLoad
  /-- Await the recorder. -/
  | stopCall
  | stopStore (info : EgressInfo)
  /-- It has returned, with an error or without. -/
  | returned (error : Option TwirpError)
  deriving DecidableEq

/-- A webhook. -/
inductive EgressEvent
  | started (info : EgressInfo)
  | updated (info : EgressInfo)
  | ended (info : EgressInfo)
  deriving DecidableEq

/-- **Everything about one egress id.** -/
structure EgressState where
  phase : RecorderPhase
  /-- The recorder's own info. -/
  infos : Option EgressInfo
  /-- The topic of `StopEgress` is registered. -/
  topic : Bool
  /-- The recorder has been told to stop. -/
  stopped : Bool
  /-- The stored info. -/
  store : Option EgressInfo
  /-- The handlers; the first is the `Start*Egress` call. -/
  handlers : List EgressHandler
  /-- The id is among those whose end has been announced. -/
  ended : Bool
  events : List EgressEvent

/-- How a write to the store ends. -/
inductive StoreResult
  /-- Nothing is written. -/
  | failed (error : String)
  /-- The info is written, but not the index of its room. -/
  | unindexed (error : String)
  | stored

/-- What happens. -/
inductive EgressAction
  /-- The recorder gets the `StartEgress` request, and reports the starting info. -/
  | accept (now : Int)
  /-- The report that the recorder awaits has returned, or has timed out. -/
  | reported
  /-- The topic is registered: the recorder responds. -/
  | registered
  /-- The topic could not be registered. -/
  | registerFailed
  /-- The recorder is in the room, and reports the active info. -/
  | connected (now : Int)
  /-- The recording has failed, which is reported. -/
  | fail (error : String) (now : Int)
  /-- The file is recorded and uploaded, which is reported. -/
  | complete (filename location : String) (frames size : Nat) (now : Int)
  /-- The topic of `StopEgress` is withdrawn. -/
  | unregister
  /-- A `StopEgress` call arrives. -/
  | stop
  /-- Handler `i` reads the store, which may fail. -/
  | load (i : Nat) (error : Option String)
  /-- The recorder answers the `StopEgress` call of handler `i`. -/
  | answer (i : Nat)
  /-- Handler `i` writes the store. -/
  | store (i : Nat) (result : StoreResult)
  /-- Handler `i` sends its webhook. -/
  | notify (i : Nat)
  /-- The call of handler `i` to the recorder fails. -/
  | giveUp (i : Nat) (error : TwirpError)

namespace EgressState

/-- A `Start*Egress` call has chosen the id. -/
def init : EgressState where
  phase := .idle
  infos := none
  topic := false
  stopped := false
  store := none
  handlers := [.startCall]
  ended := false
  events := []

variable (s : EgressState)

/-- A report is on its way. -/
def report (phase : RecorderPhase) (handler : EgressHandler) : EgressState :=
  { s with phase := phase, handlers := s.handlers ++ [handler] }

/-- Handler `i` goes on. -/
def setHandler (i : Nat) (handler : EgressHandler) : EgressState :=
  { s with handlers := s.handlers.set i handler }

/-- Handler `i` stores an info, and goes on if that succeeds. -/
def storeEgress (i : Nat) (info : EgressInfo) (next : EgressHandler) :
    StoreResult → EgressState
  | .failed error => s.setHandler i (.returned (some ⟨.internal, error⟩))
  | .unindexed error =>
    { s.setHandler i (.returned (some ⟨.internal, error⟩)) with store := some info }
  | .stored => { s.setHandler i next with store := some info }

/-- What `StopEgress` makes of the stored info. -/
def stopNext : Option String → Option EgressInfo → EgressHandler
  | some error, _ => .returned (some ⟨.internal, error⟩)
  | none, none => .returned (some ⟨.notFound, "egress does not exist"⟩)
  | none, some info =>
    if info.status.canStop then .stopCall
    else .returned (some ⟨.failedPrecondition,
      "egress with status " ++ info.status.name ++ " cannot be stopped"⟩)

/-- The recorder's answer to `StopEgress` (`StopHandler`): the info it has. -/
def stopAnswer (job : EgressJob) : Option EgressInfo → EgressHandler
  | some info => .stopStore info
  | none => .returned (some ⟨.notFound, "egress " ++ job.egressId ++ " not found"⟩)

/-- **One step.** -/
def step (job : EgressJob) (s : EgressState) : EgressAction → Option EgressState
  | .accept now =>
    match s.phase with
    | .idle => some (s.report (.creating (job.starting now)) (.createLoad (job.starting now)))
    | _ => none
  | .reported =>
    match s.phase with
    | .creating info => some { s with phase := .registering info, infos := some info }
    | .activating info => some { s with phase := .recording, infos := some info }
    | .finishing info => some { s with phase := .finished, infos := some info }
    | _ => none
  | .registered =>
    match s.phase with
    | .registering info =>
      some { s with
        phase := .connecting
        topic := true
        -- unless the call has been given up
        handlers := if s.handlers[0]? = some .startCall then s.handlers.set 0 (.startStore info)
          else s.handlers }
    | _ => none
  | .registerFailed =>
    match s.phase with
    | .registering _ => some { s with phase := .refused }
    | _ => none
  | .connected now =>
    match s.phase with
    | .connecting =>
      some (s.report (.activating (job.active now)) (.updateStore (job.active now)))
    | _ => none
  | .fail error now =>
    match s.phase with
    | .connecting | .recording =>
      some (s.report (.finishing (job.failed error now))
        (.updateStore (job.failed error now)))
    | _ => none
  | .complete filename location frames size now =>
    match s.phase with
    | .recording =>
      some (s.report (.finishing (job.finished filename location frames size now))
        (.updateStore (job.finished filename location frames size now)))
    | _ => none
  | .unregister =>
    match s.phase with
    | .finished => some { s with topic := false }
    | _ => none
  | .stop => some { s with handlers := s.handlers ++ [.stopLoad] }
  | .load i error =>
    match s.handlers[i]? with
    | some (.createLoad info) =>
      -- an error of the store counts as no earlier create
      if error.isNone && s.store.isSome then some (s.setHandler i (.returned none))
      else some (s.setHandler i (.createStore info))
    | some .stopLoad => some (s.setHandler i (stopNext error s.store))
    | _ => none
  | .answer i =>
    match s.handlers[i]? with
    | some .stopCall =>
      if s.topic then
        some { s.setHandler i (stopAnswer job s.infos) with stopped := true }
      else none
    | _ => none
  | .store i result =>
    match s.handlers[i]? with
    | some (.createStore info) => some (s.storeEgress i info (.createNotify info) result)
    | some (.updateStore info) => some (s.storeEgress i info (.updateNotify info) result)
    | some (.startStore info) | some (.stopStore info) =>
      some (s.storeEgress i info (.returned none) result)
    | _ => none
  | .notify i =>
    match s.handlers[i]? with
    | some (.createNotify info) =>
      some { s.setHandler i (.returned none) with events := s.events ++ [.started info] }
    | some (.updateNotify info) =>
      if info.isTerminal then
        -- only the first end is announced
        some { s.setHandler i (.returned none) with
          ended := true
          events := if s.ended then s.events else s.events ++ [.ended info] }
      else some { s.setHandler i (.returned none) with events := s.events ++ [.updated info] }
    | _ => none
  | .giveUp i error =>
    match s.handlers[i]? with
    | some .startCall | some .stopCall => some (s.setHandler i (.returned (some error)))
    | _ => none

/-! ## The condition and the law -/

/-- **The recording is over**, as far as the store knows. -/
def Finished : Prop := ∃ info, s.store = some info ∧ info.isTerminal

instance : Decidable s.Finished :=
  match hstore : s.store with
  | none => isFalse fun ⟨_, h, _⟩ => by simp [hstore] at h
  | some info => decidable_of_iff (info.isTerminal) (by simp [Finished, hstore])

end EgressState

/-- The info a handler has yet to store. -/
def EgressHandler.toStore : EgressHandler → Option EgressInfo
  | .createLoad info | .createStore info | .updateStore info | .startStore info
  | .stopStore info => some info
  | _ => none

/-- **A handler that may still store an older info**: it has one, or awaits one of the recorder. -/
def EgressHandler.Pending (h : EgressHandler) : Prop :=
  h = .startCall ∨ h = .stopCall ∨ ∃ info ∈ h.toStore, info.isTerminal = false
  deriving Decidable

namespace EgressState

/-- **The condition on a step**: a last info is stored only while no other handler may still store
an older one. -/
def Quiet (s : EgressState) : EgressAction → Prop
  | .store i _ => ∀ info ∈ (s.handlers[i]?).bind EgressHandler.toStore, info.isTerminal →
      ∀ j < s.handlers.length, j ≠ i → ∀ h ∈ s.handlers[j]?, ¬ h.Pending
  | _ => True

instance (s : EgressState) (a : EgressAction) : Decidable (s.Quiet a) := by
  unfold Quiet
  split <;> infer_instance

end EgressState

/-- The recorder has reported the last info. -/
def RecorderPhase.Late : RecorderPhase → Prop
  | .finishing _ | .finished => True
  | _ => False

/-- What the recorder is about to keep as its info is a last one only late. -/
def RecorderPhase.Consistent : RecorderPhase → Prop
  | .creating info | .registering info | .activating info => info.isTerminal = false
  | _ => True

/-- **What is known of a handler**: it has a last info only late, and once the recording is over it
is not pending. -/
structure EgressHandler.Fits (late finished : Prop) (h : EgressHandler) : Prop where
  late : ∀ info ∈ h.toStore, info.isTerminal → late
  settled : finished → ¬ h.Pending

/-- A handler that has nothing to store, and awaits nothing. -/
def EgressHandler.Idle : EgressHandler → Prop
  | .createNotify _ | .updateNotify _ | .stopLoad | .returned _ => True
  | _ => False

namespace EgressState

/-- **What every step keeps.** -/
structure Kept (s : EgressState) : Prop where
  handlers : ∀ (j : Nat) (h : EgressHandler), s.handlers[j]? = some h →
    h.Fits s.phase.Late s.Finished
  stored : s.Finished → s.phase.Late
  known : ∀ info ∈ s.infos, info.isTerminal → s.phase.Late
  phase : s.phase.Consistent

section Step

variable {job : EgressJob} {s s' : EgressState} {i : Nat}

theorem kept_init : Kept init where
  handlers j h hj := by
    have hmem : h ∈ [EgressHandler.startCall] := List.mem_of_getElem? hj
    obtain rfl := List.mem_singleton.mp hmem
    exact ⟨by simp [EgressHandler.toStore], by simp [Finished, init]⟩
  stored := by simp [Finished, init]
  known := by simp [init]
  phase := trivial

variable {late finished : Prop} {h : EgressHandler} {info : EgressInfo} {t : EgressState}

theorem fits_of_idle (hidle : h.Idle) : h.Fits late finished := by
  have hstore : h.toStore = none := by
    cases h <;> first | rfl | exact hidle.elim
  refine ⟨by simp [hstore], fun _ hpending => ?_⟩
  rcases hpending with rfl | rfl | ⟨info, hinfo, -⟩
  · exact hidle
  · exact hidle
  · simp [hstore] at hinfo

theorem fits_of_terminal (hstore : h.toStore = some info) (hinfo : info.isTerminal) (hlate : late) :
    h.Fits late finished := by
  refine ⟨fun _ _ _ => hlate, fun _ hpending => ?_⟩
  rcases hpending with rfl | rfl | ⟨info', hinfo', hnot⟩
  · cases hstore
  · cases hstore
  · rw [hstore, Option.mem_some_iff] at hinfo'
    simp [← hinfo', hinfo] at hnot

theorem fits_of_not_finished (hstore : h.toStore = some info) (hinfo : info.isTerminal = false)
    (hnot : ¬ finished) :
    h.Fits late finished := by
  refine ⟨fun info' hinfo' hterminal => ?_, fun hfinished => absurd hfinished hnot⟩
  rw [hstore, Option.mem_some_iff] at hinfo'
  simp [← hinfo', hinfo] at hterminal

theorem fits_of_late {late' : Prop} (hfits : h.Fits late finished) (hlate : late → late') :
    h.Fits late' finished where
  late info hinfo hterminal := hlate (hfits.late info hinfo hterminal)
  settled := hfits.settled

theorem not_terminal_of_mem_some {p : Prop} (h : info.isTerminal = false) :
    ∀ info' ∈ some info, info'.isTerminal → p := by
  intro info' hinfo' hterminal
  obtain rfl : info = info' := Option.mem_some_iff.mp hinfo'
  simp [h] at hterminal

namespace Kept

variable (hs : Kept s)
include hs

theorem setHandler {h' : EgressHandler} (hi : s.handlers[i]? = some h)
    (hfits : h'.Fits s.phase.Late s.Finished) (hhandlers : t.handlers = s.handlers.set i h')
    (hphase : t.phase = s.phase) (hinfos : t.infos = s.infos) (hstore : t.store = s.store) :
    Kept t := by
  have hfinished : t.Finished ↔ s.Finished := by rw [Finished, Finished, hstore]
  refine ⟨?_, ?_, ?_, ?_⟩
  · rw [hhandlers, hphase, propext hfinished]
    exact forall_set hi (fun j h _ hj => hs.handlers j h hj) hfits
  · rw [hfinished, hphase]
    exact hs.stored
  · rw [hinfos, hphase]
    exact hs.known
  · rw [hphase]
    exact hs.phase

theorem returned (hi : s.handlers[i]? = some h) (error : Option TwirpError)
    (hhandlers : t.handlers = s.handlers.set i (.returned error)) (hphase : t.phase = s.phase)
    (hinfos : t.infos = s.infos) (hstore : t.store = s.store) : Kept t :=
  hs.setHandler hi (fits_of_idle (h := .returned error) trivial) hhandlers hphase hinfos hstore

theorem report {phase : RecorderPhase} {handler : EgressHandler}
    (hlate : s.phase.Late → phase.Late) (hconsistent : phase.Consistent)
    (hfits : handler.Fits phase.Late s.Finished) : Kept (s.report phase handler) where
  handlers := forall_concat (fun j h hj => fits_of_late (hs.handlers j h hj) hlate) hfits
  stored hfinished := hlate (hs.stored hfinished)
  known info hinfo hterminal := hlate (hs.known info hinfo hterminal)
  phase := hconsistent

theorem advance (hhandlers : t.handlers = s.handlers)
    (hstore : t.store = s.store) (hlate : s.phase.Late → t.phase.Late)
    (hknown : ∀ info ∈ t.infos, info.isTerminal → t.phase.Late)
    (hconsistent : t.phase.Consistent) : Kept t := by
  have hfinished : t.Finished ↔ s.Finished := by rw [Finished, Finished, hstore]
  refine ⟨?_, ?_, hknown, hconsistent⟩
  · rw [hhandlers, propext hfinished]
    intro j h hj
    exact fits_of_late (hs.handlers j h hj) hlate
  · rw [hfinished]
    exact fun h => hlate (hs.stored h)

theorem not_finished (hearly : ¬ s.phase.Late) : ¬ s.Finished :=
  fun h => hearly (hs.stored h)

theorem known_early (hearly : ¬ s.phase.Late) : ∀ info ∈ s.infos, info.isTerminal → late :=
  fun info hmem hterminal => absurd (hs.known info hmem hterminal) hearly

theorem not_terminal (hphase : s.phase = .creating info ∨ s.phase = .registering info ∨
    s.phase = .activating info) :
    info.isTerminal = false := by
  have hconsistent := hs.phase
  rcases hphase with hphase | hphase | hphase
  all_goals rwa [hphase] at hconsistent

/-- **A handler stores its info.** A last one is stored late, and while nobody is pending; an older
one is stored only before the recording is over, since its handler is pending. -/
theorem storeEgress (hi : s.handlers[i]? = some h)
    (hinfo : h.toStore = some info) (next : EgressHandler) (hnext : next.Idle)
    (hquiet : info.isTerminal → ∀ j < s.handlers.length, j ≠ i →
      ∀ h ∈ s.handlers[j]?, ¬ h.Pending)
    (result : StoreResult) :
    Kept (s.storeEgress i info next result) ∧
      (s.Finished → (s.storeEgress i info next result).Finished) := by
  -- the store after a write, with the handler on its way
  have hwritten : ∀ h' : EgressHandler, h'.Idle →
      Kept { s.setHandler i h' with store := some info } ∧
        (s.Finished → Finished { s.setHandler i h' with store := some info }) := by
    intro h' hh'
    have hthis := hs.handlers i h hi
    cases hterminal : info.isTerminal with
    | true =>
      have hlate : s.phase.Late := hthis.late info hinfo hterminal
      refine ⟨⟨?_, fun _ => hlate, hs.known, hs.phase⟩, fun _ => ⟨info, rfl, hterminal⟩⟩
      refine forall_set hi
        (fun j h'' hj hh'' => ⟨fun _ _ _ => hlate, fun _ => ?_⟩) (fits_of_idle hh')
      have hlt : j < s.handlers.length := (List.getElem?_eq_some_iff.mp hh'').1
      exact hquiet hterminal j hlt hj h'' hh''
    | false =>
      have hpending : h.Pending := .inr (.inr ⟨info, hinfo, hterminal⟩)
      have hnot : ¬ s.Finished := fun hfinished => hthis.settled hfinished hpending
      have hnot' : ¬ Finished { s.setHandler i h' with store := some info } := by
        rintro ⟨info', hstore, hinfo'⟩
        obtain rfl : info = info' := Option.some.inj hstore
        rw [hterminal] at hinfo'
        cases hinfo'
      refine ⟨⟨?_, fun hf => absurd hf hnot', hs.known, hs.phase⟩, fun hf => absurd hf hnot⟩
      exact forall_set hi
        (fun j h'' _ hj => ⟨(hs.handlers j h'' hj).late, fun hf => absurd hf hnot'⟩)
        (fits_of_idle hh')
  cases result with
  | failed error =>
    exact ⟨hs.returned hi (some ⟨.internal, error⟩) rfl rfl rfl rfl, id⟩
  | unindexed error => exact hwritten _ trivial
  | stored => exact hwritten _ hnext

end Kept

theorem fits_stopNext (error : Option String) :
    (stopNext error s.store).Fits s.phase.Late s.Finished := by
  cases error with
  | some error => exact fits_of_idle trivial
  | none =>
    cases hstore : s.store with
    | none => exact fits_of_idle trivial
    | some info =>
      rw [stopNext]
      split
      · rename_i hcan
        refine ⟨by simp [EgressHandler.toStore], ?_⟩
        rintro ⟨info', hinfo', hterminal⟩
        obtain rfl : info = info' := Option.some.inj (hstore.symm.trans hinfo')
        cases hstatus : info.status <;>
          simp_all [EgressInfo.isTerminal, EgressStatus.isTerminal, EgressStatus.canStop]
      · exact fits_of_idle trivial

theorem fits_createStore {finished : Prop}
    (h : (EgressHandler.createLoad info).Fits late finished) :
    (EgressHandler.createStore info).Fits late finished := by
  refine ⟨h.late, fun hfinished hpending => h.settled hfinished (.inr (.inr ?_))⟩
  rcases hpending with hpending | hpending | hpending
  · cases hpending
  · cases hpending
  · exact hpending

/-- **One step that meets the condition**: the invariant is kept, and a finished recording stays
finished. -/
theorem Kept.step (hs : Kept s) {a : EgressAction} (hquiet : s.Quiet a)
    (hstep : s.step job a = some s') : Kept s' ∧ (s.Finished → s'.Finished) := by
  have hearly : ∀ {phase : RecorderPhase}, s.phase = phase → ¬ phase.Late → ¬ s.phase.Late := by
    rintro _ rfl
    exact id
  have hothers : ∀ {i result h}, s.Quiet (.store i result) → s.handlers[i]? = some h →
      ∀ info, h.toStore = some info → info.isTerminal →
        ∀ j < s.handlers.length, j ≠ i → ∀ h ∈ s.handlers[j]?, ¬ h.Pending := by
    intro i result h hquiet hi info hinfo
    exact hquiet info (by rw [hi]; exact hinfo)
  revert hstep
  -- a goal for each branch of `step` that does something
  fun_cases EgressState.step job s a <;> rintro ⟨⟩
  · next hphase =>
    have hnot := hearly hphase id
    exact ⟨hs.report (fun h => absurd h hnot) rfl
      (fits_of_not_finished rfl rfl (hs.not_finished hnot)), id⟩
  · next hphase =>
    have hinfo := hs.not_terminal (.inl hphase)
    exact ⟨hs.advance rfl rfl (fun h => absurd h (hearly hphase id))
      (not_terminal_of_mem_some hinfo) hinfo, id⟩
  · next hphase =>
    have hinfo := hs.not_terminal (.inr (.inr hphase))
    exact ⟨hs.advance rfl rfl (fun h => absurd h (hearly hphase id))
      (not_terminal_of_mem_some hinfo) trivial, id⟩
  · exact ⟨hs.advance rfl rfl (fun _ => trivial) (fun _ _ _ => trivial) trivial, id⟩
  · next hphase =>
    -- the `StartEgress` call gets its answer
    have hnot := hearly hphase id
    have hadvance : Kept { s with phase := .connecting, topic := true } :=
      hs.advance rfl rfl (fun h => absurd h hnot) (hs.known_early hnot) trivial
    refine ⟨?_, id⟩
    by_cases hstart : s.handlers[0]? = some .startCall
    · rw [if_pos hstart]
      exact hadvance.setHandler hstart (fits_of_not_finished rfl
        (hs.not_terminal (.inr (.inl hphase))) (hs.not_finished hnot)) rfl rfl rfl rfl
    · rw [if_neg hstart]
      exact hadvance
  · next hphase =>
    have hnot := hearly hphase id
    exact ⟨hs.advance rfl rfl (fun h => absurd h hnot) (hs.known_early hnot) trivial, id⟩
  · next hphase =>
    have hnot := hearly hphase id
    exact ⟨hs.report (fun h => absurd h hnot) rfl
      (fits_of_not_finished rfl rfl (hs.not_finished hnot)), id⟩
  iterate 3 exact ⟨hs.report (fun _ => trivial) trivial (fits_of_terminal rfl rfl trivial), id⟩
  · exact ⟨hs.advance rfl rfl id hs.known hs.phase, id⟩
  · exact ⟨hs.report id hs.phase (fits_of_idle trivial), id⟩
  · next hi _ => exact ⟨hs.returned hi _ rfl rfl rfl rfl, id⟩
  · next hi _ =>
    exact ⟨hs.setHandler hi (fits_createStore (hs.handlers _ _ hi)) rfl rfl rfl rfl, id⟩
  · next hi => exact ⟨hs.setHandler hi (fits_stopNext _) rfl rfl rfl rfl, id⟩
  · next hi _ =>
    refine ⟨hs.setHandler hi ?_ rfl rfl rfl rfl, id⟩
    have hnot : ¬ s.Finished := fun hfinished =>
      (hs.handlers _ _ hi).settled hfinished (.inr (.inl rfl))
    cases hinfos : s.infos with
    | none => exact fits_of_idle trivial
    | some info =>
      refine ⟨fun info' hinfo' => ?_, fun hf => absurd hf hnot⟩
      obtain rfl : info = info' := Option.mem_some_iff.mp hinfo'
      exact hs.known info hinfos
  · next hi => exact hs.storeEgress hi rfl (.createNotify _) trivial (hothers hquiet hi _ rfl) _
  · next hi => exact hs.storeEgress hi rfl (.updateNotify _) trivial (hothers hquiet hi _ rfl) _
  · next hi => exact hs.storeEgress hi rfl (.returned _) trivial (hothers hquiet hi _ rfl) _
  · next hi => exact hs.storeEgress hi rfl (.returned _) trivial (hothers hquiet hi _ rfl) _
  · next hi => exact ⟨hs.returned hi _ rfl rfl rfl rfl, id⟩
  · next hi _ => exact ⟨hs.returned hi _ rfl rfl rfl rfl, id⟩
  · next hi _ => exact ⟨hs.returned hi _ rfl rfl rfl rfl, id⟩
  · next hi => exact ⟨hs.returned hi _ rfl rfl rfl rfl, id⟩
  · next hi => exact ⟨hs.returned hi _ rfl rfl rfl rfl, id⟩

end Step

end EgressState

open EgressState

/-- **A finished recording stays finished**: once the stored info is a last one, it is so at the end
of every run, if a last info is stored only while no other handler may still store an older one. -/
theorem finished_stays_finished (job : EgressJob) (as bs : List EgressAction) (s t : EgressState)
    (hquiet : Along (step job) Quiet init as) (hrun : run (step job) init as = some s)
    (hquiet' : Along (step job) Quiet s bs) (hrun' : run (step job) s bs = some t)
    (hfinished : s.Finished) : t.Finished := by
  have hs : Kept s :=
    run_invariant_along (fun _ _ _ h hG hstep => (h.step hG hstep).1) kept_init hquiet hrun
  have ht : Kept t ∧ t.Finished := by
    refine run_invariant_along (I := fun u => Kept u ∧ u.Finished) ?_ ⟨hs, hfinished⟩ hquiet' hrun'
    intro u a u' hu hG hstep
    obtain ⟨hkept, hstays⟩ := hu.1.step hG hstep
    exact ⟨hkept, hstays hu.2⟩
  exact ht.2

/-- A recording of one track. -/
def trackJob : EgressJob where
  egressId := "EG_1"
  roomId := "RM_1"
  roomName := "r"
  request := .track
    { roomName := "r", trackId := "TR_1", output := some (.websocketUrl "ws://a"), webhooks := [] }

/-- The recorder has started: the starting info is stored, and the call is answered. -/
def startActions : List EgressAction :=
  [.accept 1, .load 1 none, .store 1 .stored, .notify 1, .reported, .registered]

/-- The recorder is in the room, and records. -/
def activeActions : List EgressAction :=
  [.connected 2, .store 2 .stored, .notify 2, .reported]

/-- A recording that stays finished: the call has stored its info before the recorder connects, and
a `StopEgress` call that comes after the last info is refused. -/
theorem finished_stays_finished_refused :
    ∃ s t, run (step trackJob) init
        (startActions ++ [.store 0 .stored] ++ activeActions ++
          [.complete "f" "l" 1 2 3, .store 3 .stored]) = some s ∧
      run (step trackJob) s [.stop, .load 4 none, .reported] = some t ∧
      t.handlers[4]? = some (.returned (some ⟨.failedPrecondition,
        "egress with status EgressComplete cannot be stopped"⟩)) ∧ t.Finished := by
  obtain ⟨s, hrun, hfinished, hquiet', t, hrun', hstop⟩ : ∃ s ∈ run (step trackJob) init
      (startActions ++ [.store 0 .stored] ++ activeActions ++
        [.complete "f" "l" 1 2 3, .store 3 .stored]), s.Finished ∧
      Along (step trackJob) Quiet s [.stop, .load 4 none, .reported] ∧
      ∃ t ∈ run (step trackJob) s [.stop, .load 4 none, .reported],
        t.handlers[4]? = some (.returned (some ⟨.failedPrecondition,
          "egress with status EgressComplete cannot be stopped"⟩)) := by decide +kernel
  exact ⟨s, t, hrun, hrun', hstop, finished_stays_finished trackJob _ _ s t (by decide +kernel) hrun
    hquiet' hrun' hfinished⟩

/-- **A finished recording changes back**: the connection fails at once, and the failure is stored
before the `StartEgress` call stores the starting info it was given; and a recording ends while a
`StopEgress` call is about to store the active info it was given. -/
theorem finished_changes_back :
    (run (step trackJob) init (startActions ++ [.fail "refused" 2, .store 2 .stored])).map
        (fun s => s.store.map EgressInfo.status) = some (some .failed) ∧
      (run (step trackJob) init
        (startActions ++ [.fail "refused" 2, .store 2 .stored] ++ [.store 0 .stored])).map
        (fun s => s.store.map EgressInfo.status) = some (some .starting) ∧
      (run (step trackJob) init
        (startActions ++ [.store 0 .stored] ++ activeActions ++
          [.stop, .load 3 none, .answer 3, .complete "f" "l" 1 2 3, .store 4 .stored])).map
        (fun s => s.store.map EgressInfo.status) = some (some .complete) ∧
      (run (step trackJob) init
        (startActions ++ [.store 0 .stored] ++ activeActions ++
          [.stop, .load 3 none, .answer 3, .complete "f" "l" 1 2 3, .store 4 .stored] ++
          [.store 3 .stored])).map
        (fun s => s.store.map EgressInfo.status) = some (some .active) := by
  decide +kernel

end LivekitVoice
