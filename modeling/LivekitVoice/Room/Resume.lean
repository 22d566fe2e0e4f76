import LivekitVoice.Transition.Pool
import LivekitVoice.Transition.Run

/-! # Resumed sessions and the reconnect grace

One participant and all its signal sessions (`run_signal_session`): the session of its join, and
one for every reconnect that resumed it (`resume_room_participant`). A session that ends leaves a
grace task behind, which sleeps for `RECONNECT_GRACE` and then ends the participant unless the
counter `resume_gen` has changed. Every access to the counter is a step of its own, so sessions,
reconnects and grace tasks interleave in every order; a session is named by its position in the
order in which the sessions started.

* **`resumed_spared_by_grace`** — when no grace task ends a participant that has resumed. -/

namespace LivekitVoice

open Option Transition

/-! ## The model -/

/-- **Where a signal session stands**, its grace task included. -/
inductive SessionPhase
  /-- The reader loop runs: the session is open. -/
  | reading
  /-- The reader loop is over, the transport is being closed (`io.close`). -/
  | closing
  /-- The grace task sleeps; it has read `resume_gen` as `gen`. -/
  | grace (gen : Nat)
  /-- The grace task found the counter unchanged and is about to call `end_participant`. -/
  | ending
  /-- Nothing left to do. -/
  | gone
  deriving DecidableEq

/-- A signal session of the participant. -/
structure SignalSession where
  /-- It was started by a reconnect that resumed the participant. -/
  resumed : Bool
  /-- Where it stands. -/
  phase : SessionPhase

namespace SignalSession

/-- A session opened by a reconnect whose reader loop still runs. -/
def openResumed (x : SignalSession) : Bool := x.resumed && decide (x.phase = .reading)

end SignalSession

/-- **The participant and its sessions.** -/
structure ResumeState where
  /-- The counter `resume_gen`, an `AtomicU64`. -/
  resumeGen : Nat
  /-- `state()` is `Disconnected`. -/
  disconnected : Bool
  /-- The participant is in its room's map. -/
  inRoom : Bool
  /-- `join_room` has added the participant, its own session has not started yet. -/
  joining : Bool
  /-- Reconnects past the checks of `resume_room_participant`, before its `fetch_add`. -/
  resuming : Nat
  /-- The sessions, in the order in which they started. -/
  sessions : List SignalSession

/-- The steps of the sessions, of reconnects, and of others that end the participant. -/
inductive ResumeAction
  /-- `run_signal_session` for the join itself. -/
  | start
  /-- `resume_room_participant` finds the participant, not disconnected. -/
  | checkResume
  /-- Its `resume_gen.fetch_add(1)`; the resumed session starts. -/
  | resume
  /-- The reader loop of session `i` ends. -/
  | close (i : Nat)
  /-- Session `i`, its transport closed, reads the state and the counter and spawns its task. -/
  | spawnGrace (i : Nat)
  /-- The grace task of session `i` wakes and compares the counter. -/
  | fire (i : Nat)
  /-- The grace task of session `i` runs `end_participant`. -/
  | endParticipant (i : Nat)
  /-- `close_signal` marks the participant disconnected. -/
  | closeSignal
  /-- Another caller runs `end_participant`, or the room closes. -/
  | endByOther

namespace ResumeState

/-- `join_room` has just added the participant to its room. -/
def init : ResumeState := ⟨0, false, true, true, 0, []⟩

variable (s : ResumeState)

/-- The state with session `i` in another phase. -/
def setPhase (i : Nat) (x : SignalSession) (phase : SessionPhase) :
    ResumeState :=
  { s with sessions := s.sessions.set i { x with phase } }

/-- What session `i`, found at `x`, does next by itself. -/
def sessionStep (i : Nat) (x : SignalSession) :
    ResumeAction → Option ResumeState
  | .close _ => if x.phase = .reading then some (s.setPhase i x .closing) else none
  | .spawnGrace _ =>
    -- the counter is read here, when the session is over, not when it started
    if x.phase = .closing then
      some (s.setPhase i x (if s.disconnected then .gone else .grace s.resumeGen))
    else none
  | .fire _ =>
    match x.phase with
    | .grace gen => some (s.setPhase i x (if s.resumeGen = gen then .ending else .gone))
    | _ => none
  | .endParticipant _ =>
    if x.phase = .ending then
      -- a participant that is no longer in its room is left alone
      let s' := if s.inRoom then { s with inRoom := false, disconnected := true } else s
      some (s'.setPhase i x .gone)
    else none
  | _ => none

/-- **One step.** -/
def step (a : ResumeAction) : Option ResumeState :=
  match a with
  | .start =>
    if s.joining then
      some { s with joining := false, sessions := s.sessions ++ [⟨false, .reading⟩] }
    else none
  | .checkResume =>
    if s.inRoom ∧ ¬ s.disconnected then some { s with resuming := s.resuming + 1 } else none
  | .resume =>
    if 0 < s.resuming then
      some { s with
        resuming := s.resuming - 1
        resumeGen := (s.resumeGen + 1) % UInt64.size
        sessions := s.sessions ++ [⟨true, .reading⟩] }
    else none
  | .close i | .spawnGrace i | .fire i | .endParticipant i =>
    s.sessions[i]?.bind fun x => s.sessionStep i x a
  | .closeSignal => some { s with disconnected := true }
  | .endByOther => some { s with inRoom := false, disconnected := true }

/-! ## What the property speaks of -/

/-- The grace task of session `i` ends the participant in its next step. -/
def GraceEnds (i : Nat) : Prop :=
  ∃ s', s.step (.endParticipant i) = some s' ∧ s.inRoom ∧ s'.inRoom = false

/-- Some session that resumed the participant after session `i` started is open. -/
def ResumedSince (i : Nat) : Prop :=
  ∃ x ∈ s.sessions.drop (i + 1), x.openResumed
  deriving Decidable

variable {s s' : ResumeState} {i : Nat} {x : SignalSession}

theorem resumedSince_iff :
    s.ResumedSince i ↔ ∃ j x, i < j ∧ s.sessions[j]? = some x ∧ x.openResumed := by
  unfold ResumedSince
  constructor
  · rintro ⟨x, hx, hopen⟩
    obtain ⟨k, hk⟩ := List.mem_iff_getElem?.mp hx
    rw [List.getElem?_drop] at hk
    exact ⟨i + 1 + k, x, by omega, hk, hopen⟩
  · rintro ⟨j, x, hij, hx, hopen⟩
    refine ⟨x, List.mem_iff_getElem?.mpr ⟨j - (i + 1), ?_⟩, hopen⟩
    rw [List.getElem?_drop, Nat.add_sub_cancel' hij]
    exact hx

/-! ## Where it holds -/

variable (s)

/-- **The condition on a step.** A session that is over reads the counter while no session that
resumed after it started is open; a reconnect bumps it while no grace task stands between its
comparison and its `end_participant`, and without wrapping it. -/
def ClosedBeforeResume : ResumeAction → Prop
  | .spawnGrace i => ¬ s.ResumedSince i
  | .resume => (∀ x ∈ s.sessions, x.phase ≠ .ending) ∧ s.resumeGen + 1 < UInt64.size
  | _ => True

instance (a : ResumeAction) : Decidable (s.ClosedBeforeResume a) := by
  unfold ClosedBeforeResume
  split <;> infer_instance

/-- What a session's phase promises about the sessions that resumed after it. -/
def Promise (i : Nat) : SessionPhase → Prop
  -- as long as the counter has not moved, nobody has resumed
  | .grace gen => gen ≤ s.resumeGen ∧ (gen = s.resumeGen → ¬ s.ResumedSince i)
  | .ending => ¬ s.ResumedSince i
  | _ => True

/-- **The invariant**: every session's phase keeps its promise. -/
def Spares : Prop :=
  ∀ i x, s.sessions[i]? = some x → s.Promise i x.phase

variable {s}

theorem Promise.mono {phase : SessionPhase} (hgen : s'.resumeGen = s.resumeGen)
    (hsince : s'.ResumedSince i → s.ResumedSince i) (h : s.Promise i phase) :
    s'.Promise i phase := by
  cases phase with
  | reading | closing | gone => trivial
  | grace gen => exact ⟨hgen ▸ h.1, fun heq hs => h.2 (heq.trans hgen) (hsince hs)⟩
  | ending => exact fun hs => h (hsince hs)

/-- **A session's own step** keeps the invariant if its new phase keeps its promise. -/
theorem Spares.set {k : Nat} {phase : SessionPhase} (hs : s.Spares) (hx : s.sessions[k]? = some x)
    (hsess : s'.sessions = s.sessions.set k { x with phase }) (hgen : s'.resumeGen = s.resumeGen)
    (hphase : phase ≠ .reading) (hnew : s.Promise k phase) : s'.Spares := by
  have hclosed : ({ x with phase } : SignalSession).openResumed = false := by
    simp [SignalSession.openResumed, hphase]
  intro i y hy
  have hmono {q : SessionPhase} : s.Promise i q → s'.Promise i q := by
    refine Promise.mono hgen fun hsince => ?_
    obtain ⟨j, z, hij, hz, hopen⟩ := resumedSince_iff.mp hsince
    rw [hsess] at hz
    rcases (getElem?_set_eq_some hx).mp hz with ⟨-, rfl⟩ | ⟨-, hz⟩
    · simp [hclosed] at hopen
    · exact resumedSince_iff.mpr ⟨j, z, hij, hz, hopen⟩
  rw [hsess] at hy
  rcases (getElem?_set_eq_some hx).mp hy with ⟨rfl, rfl⟩ | ⟨-, hy⟩
  · exact hmono hnew
  · exact hmono (hs i y hy)

/-- **A step of a session on its way out**: its connection closes, its grace begins and passes. -/
theorem Spares.sessionStep {a : ResumeAction} (hs : s.Spares) (hx : s.sessions[i]? = some x)
    (hG : a = .spawnGrace i → ¬ s.ResumedSince i)
    (ha : a = .close i ∨ a = .spawnGrace i ∨ a = .fire i ∨ a = .endParticipant i)
    (h : s.sessionStep i x a = some s') : s'.Spares := by
  rcases ha with rfl | rfl | rfl | rfl
  · obtain ⟨-, ⟨⟩⟩ := ite_none_right_eq_some.mp h
    exact hs.set hx rfl rfl (by decide) trivial
  · obtain ⟨-, ⟨⟩⟩ := ite_none_right_eq_some.mp h
    cases s.disconnected with
    | true => exact hs.set hx rfl rfl (by simp) trivial
    | false => exact hs.set hx rfl rfl (by simp) ⟨Nat.le_refl _, fun _ => hG rfl⟩
  · cases hphase : x.phase with
    | grace gen =>
      -- the comparison turns the task's conditional promise into the unconditional one
      have hpromise : s.Promise i (.grace gen) := hphase ▸ hs i x hx
      rw [ResumeState.sessionStep, hphase] at h
      cases h
      by_cases heq : s.resumeGen = gen
      · rw [if_pos heq]
        exact hs.set hx rfl rfl (by decide) (hpromise.2 heq.symm)
      · rw [if_neg heq]
        exact hs.set hx rfl rfl (by decide) trivial
    | _ => simp [ResumeState.sessionStep, hphase] at h
  · obtain ⟨-, ⟨⟩⟩ := ite_none_right_eq_some.mp h
    cases s.inRoom <;> exact hs.set hx rfl rfl (by decide) trivial

/-- **A reconnect** bumps the counter, so every sleeping task keeps its promise by having read
another value. -/
theorem Spares.resume (hs : s.Spares) (hG : s.ClosedBeforeResume .resume)
    (h : s.step .resume = some s') : s'.Spares := by
  obtain ⟨hending, hwrap⟩ := hG
  obtain ⟨-, ⟨⟩⟩ := ite_none_right_eq_some.mp h
  have hgen : (s.resumeGen + 1) % UInt64.size = s.resumeGen + 1 := Nat.mod_eq_of_lt hwrap
  intro i x hx
  rcases getElem?_concat_eq_some.mp hx with hx | ⟨-, rfl⟩
  · have hpromise := hs i x hx
    have hne := hending x (List.mem_of_getElem? hx)
    cases hphase : x.phase with
    | grace gen =>
      rw [hphase] at hpromise
      -- what the task has read is at most the old value, so it is not the new one
      have hle : gen ≤ s.resumeGen := hpromise.1
      refine ⟨?_, fun heq => ?_⟩
      · show gen ≤ (s.resumeGen + 1) % UInt64.size
        rw [hgen]
        omega
      · have heq : gen = (s.resumeGen + 1) % UInt64.size := heq
        rw [hgen] at heq
        omega
    | ending => exact absurd hphase hne
    | _ => trivial
  · trivial

/-- **One step** that meets the condition keeps the invariant. -/
theorem Spares.step {a : ResumeAction} (hs : s.Spares) (hG : s.ClosedBeforeResume a)
    (h : s.step a = some s') : s'.Spares := by
  cases a with
  | start =>
    obtain ⟨-, ⟨⟩⟩ := ite_none_right_eq_some.mp h
    intro i x hx
    rcases getElem?_concat_eq_some.mp hx with hx | ⟨-, rfl⟩
    · refine Promise.mono (s := s) rfl (fun hsince => ?_) (hs i x hx)
      -- a session that starts with the join is no later resumed one
      obtain ⟨j, y, hij, hy, hopen⟩ := resumedSince_iff.mp hsince
      rcases getElem?_concat_eq_some.mp hy with hy | ⟨-, rfl⟩
      · exact resumedSince_iff.mpr ⟨j, y, hij, hy, hopen⟩
      · cases hopen
    · trivial
  | checkResume =>
    obtain ⟨-, ⟨⟩⟩ := ite_none_right_eq_some.mp h
    exact fun i x hx => (hs i x hx).mono rfl id
  | resume => exact hs.resume hG h
  | close i =>
    obtain ⟨x, hx, h⟩ := bind_eq_some_iff.mp h
    exact hs.sessionStep hx (fun hc => by cases hc) (.inl rfl) h
  | spawnGrace i =>
    obtain ⟨x, hx, h⟩ := bind_eq_some_iff.mp h
    exact hs.sessionStep hx (fun _ => hG) (.inr (.inl rfl)) h
  | fire i =>
    obtain ⟨x, hx, h⟩ := bind_eq_some_iff.mp h
    exact hs.sessionStep hx (fun hc => by cases hc) (.inr (.inr (.inl rfl))) h
  | endParticipant i =>
    obtain ⟨x, hx, h⟩ := bind_eq_some_iff.mp h
    exact hs.sessionStep hx (fun hc => by cases hc) (.inr (.inr (.inr rfl))) h
  | _ =>
    cases h
    exact fun i x hx => (hs i x hx).mono rfl id

theorem spares_init : init.Spares := fun _ _ hx => by simp [init] at hx

/-- **A resumed participant is spared.** Along every run whose steps meet `ClosedBeforeResume`, a
grace task ends the participant only while no session that resumed it after the task's own session
started is open. -/
theorem resumed_spared_by_grace {acts : List ResumeAction} {s : ResumeState} {i : Nat}
    (hG : Along step ClosedBeforeResume init acts) (hrun : run step init acts = some s)
    (hends : s.GraceEnds i) : ¬ s.ResumedSince i := by
  have hs : s.Spares :=
    run_invariant_along (fun _ _ _ hI hG h => Spares.step hI hG h) spares_init hG hrun
  -- the task that ends the participant has found the counter unchanged
  obtain ⟨s', hstep, -, -⟩ := hends
  obtain ⟨x, hx, hstep⟩ := bind_eq_some_iff.mp hstep
  obtain ⟨hphase, -⟩ := ite_none_right_eq_some.mp hstep
  have hpromise := hs i x hx
  rw [hphase] at hpromise
  exact hpromise

/-- A client whose first connection breaks reconnects; its second connection breaks as well, and
ten seconds later the participant is ended. -/
def reconnectThenLost : List ResumeAction :=
  [.start, .close 0, .spawnGrace 0, .checkResume, .resume, .fire 0, .close 1, .spawnGrace 1,
    .fire 1]

/-- The second session's task may end the participant, and the condition was met. -/
theorem resumed_spared_by_grace_after_reconnect :
    ∃ s, Along step ClosedBeforeResume init reconnectThenLost ∧
      run step init reconnectThenLost = some s ∧ s.GraceEnds 1 ∧ ¬ s.ResumedSince 1 := by
  have hG : Along step ClosedBeforeResume init reconnectThenLost := by decide
  obtain ⟨s, hrun, hin, s', hs', hout⟩ : ∃ s ∈ run step init reconnectThenLost, s.inRoom ∧
      ∃ s' ∈ s.step (.endParticipant 1), s'.inRoom = false := by decide
  have hends : s.GraceEnds 1 := ⟨s', hs', hin, hout⟩
  exact ⟨s, hG, hrun, hends, resumed_spared_by_grace hG hrun hends⟩

/-- A client reconnects while its first connection is half open; only then does the server notice
that the first one is gone. -/
def halfOpenClosesLate : List ResumeAction :=
  [.start, .checkResume, .resume, .close 0, .spawnGrace 0, .fire 0]

/-- **The older session ends the resumed participant**: it reads the counter after the reconnect
has bumped it, so its task finds it unchanged while the resumed session is open. -/
theorem resumed_ended_by_older_session :
    ∃ s, run step init halfOpenClosesLate = some s ∧ s.GraceEnds 0 ∧ s.ResumedSince 0 := by
  obtain ⟨s, hrun, hin, hsince, s', hs', hout⟩ : ∃ s ∈ run step init halfOpenClosesLate,
      s.inRoom ∧ s.ResumedSince 0 ∧
        ∃ s' ∈ s.step (.endParticipant 0), s'.inRoom = false := by decide
  exact ⟨s, hrun, ⟨s', hs', hin, hout⟩, hsince⟩

end ResumeState
end LivekitVoice
