import LivekitVoice.Relay.Writer
import LivekitVoice.Room.Announce

/-! # The writer of a signaling session

`run_signal_session` has two tasks that write to the transport. The writer task writes the greeting
(the join response and what follows it) and then whatever it takes from the participant's channel.
The session itself reads requests in a loop, and when the loop has ended it writes the close frame;
only after that does it wait for the writer. The two exclude each other for the length of one frame.
Responses come onto the channel from anywhere on the server: `send` and `send_update` clone the
participant's sender and go on with the clone.

* **`session_flushes_iff`** — what was accepted is written before the close frame exactly if
  `InOrder`. -/

namespace LivekitVoice

open List Transition

section Session

variable {Resp : Type}

/-! ## The tasks -/

/-- A frame, and where it came from. -/
inductive SessionFrame (Resp : Type)
  /-- The join or reconnect response, or one that follows it. -/
  | greeting (resp : Resp)
  /-- A response from the channel. -/
  | response (resp : Resp)
  | close
  deriving DecidableEq

/-- The response from the channel that a frame is. -/
def SessionFrame.fromChannel : SessionFrame Resp → Option Resp
  | .response resp => some resp
  | .greeting _ | .close => none

/-- The responses from the channel among frames. -/
def responses (frames : List (SessionFrame Resp)) : List Resp :=
  frames.filterMap SessionFrame.fromChannel

/-- **Where the writer task stands.** -/
inductive SessionWriter (Resp : Type)
  /-- It has these left of the greeting; if none, it waits for the channel. -/
  | greeting (rest : List Resp)
  /-- It has taken a response from the channel. -/
  | holding (resp : Resp)
  /-- It has returned, because the channel was closed or because a write failed. -/
  | stopped (lost : Option Resp)
  deriving DecidableEq

/-- The response from the channel that the writer has and has not written. -/
def SessionWriter.hand : SessionWriter Resp → List Resp
  | .holding resp => [resp]
  | .stopped lost => lost.toList
  | .greeting _ => []

/-- The writer has not returned, so that the receiver of the channel is there. -/
def SessionWriter.running : SessionWriter Resp → Bool
  | .greeting _ | .holding _ => true
  | .stopped _ => false

/-- **Where the session stands.** -/
inductive SessionReader
  /-- In the reader loop, or before it. -/
  | looping
  /-- The loop has ended. -/
  | ended
  /-- `close` has returned. -/
  | closed
  deriving DecidableEq

/-- Who has the session's sender. -/
inductive SinkHolder
  | participant
  /-- A newer session of the participant, which keeps the sender it replaced to its own end. -/
  | successor
  | gone
  deriving DecidableEq

/-- A call that has cloned the sender. -/
structure SendCall (Resp : Type) where
  resp : Resp
  /-- `send`, which awaits capacity; otherwise `send_update`. -/
  waits : Bool

/-- **A session.** -/
structure SessionTasks (Resp : Type) where
  sink : SinkHolder
  calls : List (SendCall Resp)
  channel : List Resp
  writer : SessionWriter Resp
  reader : SessionReader
  /-- What has been written to the transport. -/
  frames : List (SessionFrame Resp)
  /-- What has been accepted onto the channel. -/
  accepted : List Resp
  /-- How much of it before the loop ended. -/
  early : Nat

/-- A step of a task, or of the rest of the server. -/
inductive SessionAction (Resp : Type)
  /-- `send` or `send_update` clones the sender. -/
  | clone (call : SendCall Resp)
  /-- The call with the `i`-th clone goes on. -/
  | offer (i : Nat)
  /-- `clear_signal_sink`. -/
  | clearSink
  /-- A newer session sets its own sender. -/
  | supersede
  /-- The newer session ends. -/
  | release
  /-- The writer calls `recv`. -/
  | recv
  /-- The writer writes the frame it has. -/
  | write (ok : Bool)
  /-- The reader loop ends. -/
  | endLoop
  /-- The session writes the close frame. -/
  | close (ok : Bool)

namespace SessionTasks

/-- A session that begins, with its greeting. -/
def init (join : Resp) (postJoin : List Resp) : SessionTasks Resp where
  sink := .participant
  calls := []
  channel := []
  writer := .greeting (join :: postJoin)
  reader := .looping
  frames := []
  accepted := []
  early := 0

variable (s : SessionTasks Resp)

/-- A response comes onto the channel. -/
def accept (resp : Resp) : SessionTasks Resp :=
  { s with channel := s.channel ++ [resp], accepted := s.accepted ++ [resp] }

/-- A call goes on with its clone. -/
def offerStep (i : Nat) : Option (SessionTasks Resp) :=
  match s.calls[i]? with
  | none => none
  | some call =>
    let rest := { s with calls := s.calls.eraseIdx i }
    if s.writer.running = false then some rest
    else if s.channel.length < signalChannelCapacity then some (rest.accept call.resp)
    -- a full channel: `send` waits, `send_update` drops
    else if call.waits then none
    else some rest

/-- The writer's `recv`. -/
def recvStep : Option (SessionTasks Resp) :=
  match s.writer with
  | .greeting [] =>
    match s.channel with
    | resp :: rest => some { s with channel := rest, writer := .holding resp }
    | [] =>
      -- `recv` returns `None` when every sender is gone
      if s.sink = .gone ∧ s.calls.isEmpty then some { s with writer := .stopped none }
      else none
  | _ => none

/-- The writer's `send`. -/
def writeStep (ok : Bool) : Option (SessionTasks Resp) :=
  match s.writer with
  | .greeting (resp :: rest) =>
    some (if ok then
      { s with
        writer := .greeting rest
        frames := s.frames ++ [.greeting resp] }
      else { s with writer := .stopped none })
  | .holding resp =>
    some (if ok then
      { s with
        writer := .greeting []
        frames := s.frames ++ [.response resp] }
      else { s with writer := .stopped (some resp) })
  | .greeting [] | .stopped _ => none

/-- **One step.** -/
def step : SessionAction Resp → Option (SessionTasks Resp)
  | .clone call =>
    some (if s.sink = .participant then { s with calls := s.calls ++ [call] } else s)
  | .offer i => s.offerStep i
  | .clearSink => some { s with sink := if s.sink = .participant then .gone else s.sink }
  | .supersede => if s.sink = .participant then some { s with sink := .successor } else none
  | .release => if s.sink = .successor then some { s with sink := .gone } else none
  | .recv => s.recvStep
  | .write ok => s.writeStep ok
  | .endLoop =>
    if s.reader = .looping then some { s with reader := .ended, early := s.accepted.length }
    else none
  | .close ok =>
    if s.reader = .ended then
      -- nothing waits for the writer here
      some { s with
        reader := .closed
        frames := if ok then s.frames ++ [.close] else s.frames }
    else none

/-- What has been accepted and not written. -/
def unwritten : List Resp := s.writer.hand ++ s.channel

/-- **The session flushes before it closes.** -/
structure Flushed (s : SessionTasks Resp) : Prop where
  /-- What was accepted before the loop ended was written before the close frame. -/
  before : ∀ a c, s.frames = a ++ .close :: c → s.accepted.take s.early <+: responses a
  /-- Nothing is written after it. -/
  after : ∀ a c, s.frames = a ++ .close :: c → c = []

/-- The writer has a frame to write. -/
def hasFrame : Bool :=
  match s.writer with
  | .greeting (_ :: _) | .holding _ => true
  | .greeting [] | .stopped _ => false

/-- The close frame has been written. -/
def hasClosed : Bool :=
  s.frames.any fun
    | .close => true
    | .greeting _ | .response _ => false

/-- **The condition on a step**: the close frame is written when all that is left to write was
accepted after the loop ended, and a write after it fails. -/
def InOrder : SessionAction Resp → Prop
  | .close ok => s.reader = .ended → ok →
      s.early + s.unwritten.length ≤ s.accepted.length
  | .write ok => s.hasFrame → s.hasClosed → ok = false
  | _ => True

/-! ## What a step does -/

theorem hasClosed_iff {s : SessionTasks Resp} : s.hasClosed ↔ SessionFrame.close ∈ s.frames := by
  rw [hasClosed, any_eq_true]
  constructor
  · rintro ⟨f, hf, hclose⟩
    cases f with
    | close => exact hf
    | _ => cases hclose
  · exact fun h => ⟨.close, h, rfl⟩

/-- **What a step does** to the frames, to what has been accepted and to what is left to write. -/
inductive Effect (s : SessionTasks Resp) : SessionAction Resp → SessionTasks Resp → Prop
  /-- Nothing is written, and what is accepted is left to write. -/
  | quiet {a : SessionAction Resp} {s' : SessionTasks Resp} (new : List Resp)
      (horder : s.InOrder a) (hframes : s'.frames = s.frames) (hreader : s'.reader = s.reader)
      (hearly : s'.early = s.early) (haccepted : s'.accepted = s.accepted ++ new)
      (hunwritten : s'.unwritten = s.unwritten ++ new) : Effect s a s'
  /-- The writer writes a frame. -/
  | wrote {s' : SessionTasks Resp} (f : SessionFrame Resp) (hf : f ≠ .close)
      (hhas : s.hasFrame) (hframes : s'.frames = s.frames ++ [f])
      (hreader : s'.reader = s.reader) (hearly : s'.early = s.early)
      (haccepted : s'.accepted = s.accepted)
      (hunwritten : s.unwritten = responses [f] ++ s'.unwritten) : Effect s (.write true) s'
  | ended (hreader : s.reader = .looping) :
      Effect s .endLoop { s with reader := .ended, early := s.accepted.length }
  | closed (ok : Bool) (hreader : s.reader = .ended) :
      Effect s (.close ok)
        { s with
          reader := .closed
          frames := if ok then s.frames ++ [.close] else s.frames }

variable {s s' : SessionTasks Resp}

theorem Effect.still {a : SessionAction Resp} (horder : s.InOrder a)
    (hframes : s'.frames = s.frames) (hreader : s'.reader = s.reader)
    (hearly : s'.early = s.early) (haccepted : s'.accepted = s.accepted)
    (hunwritten : s'.unwritten = s.unwritten) : Effect s a s' :=
  .quiet [] horder hframes hreader hearly (by rw [haccepted, append_nil])
    (by rw [hunwritten, append_nil])

/-- **A response is offered** to the channel, which takes it or drops it. -/
theorem effect_offerStep {i : Nat} (h : s.offerStep i = some s') : Effect s (.offer i) s' := by
  revert h
  fun_cases offerStep s i <;> intro h
  case case1 | case4 => cases h
  all_goals obtain rfl := Option.some.inj h
  case case2 | case5 => exact .still trivial rfl rfl rfl rfl rfl
  case case3 call _ rest _ _ =>
    exact .quiet [call.resp] trivial rfl rfl rfl rfl (by simp [unwritten, accept, rest])

/-- **The writer takes** the first response from the channel. -/
theorem effect_recvStep (h : s.recvStep = some s') : Effect s .recv s' := by
  revert h
  fun_cases recvStep s <;> rintro ⟨⟩
  -- the response goes from the channel to the hand
  case case1 hwriter resp rest hchannel =>
    exact .still trivial rfl rfl rfl rfl
      (by simp [unwritten, hwriter, hchannel, SessionWriter.hand])
  case case2 hwriter _ _ =>
    exact .still trivial rfl rfl rfl rfl (by simp [unwritten, hwriter, SessionWriter.hand])

/-- **The writer writes** what it has in hand, or fails and ends. -/
theorem effect_writeStep {ok : Bool} (h : s.writeStep ok = some s') : Effect s (.write ok) s' := by
  have hfails : s.InOrder (.write false) := fun _ _ => rfl
  revert h
  fun_cases writeStep s ok <;> rintro ⟨⟩
  case case1 resp rest hwriter =>
    cases ok with
    | true =>
      refine .wrote (.greeting resp) (by simp) (by rw [hasFrame, hwriter]) rfl rfl rfl rfl ?_
      rw [unwritten, hwriter]
      rfl
    | false =>
      exact .still hfails rfl rfl rfl rfl (by simp [unwritten, hwriter, SessionWriter.hand])
  case case2 resp hwriter =>
    cases ok with
    | true =>
      refine .wrote (.response resp) (by simp) (by rw [hasFrame, hwriter]) rfl rfl rfl rfl ?_
      rw [unwritten, hwriter]
      rfl
    | false =>
      exact .still hfails rfl rfl rfl rfl (by simp [unwritten, hwriter, SessionWriter.hand])

/-- **Every step has an effect.** -/
theorem effect_of_step {a : SessionAction Resp} (h : s.step a = some s') : Effect s a s' := by
  revert h
  fun_cases step s a <;> intro h
  case case2 => exact effect_offerStep h
  case case8 => exact effect_recvStep h
  case case9 => exact effect_writeStep h
  all_goals cases h
  case case1 => split <;> exact .still trivial rfl rfl rfl rfl rfl
  case case10 hreader => exact .ended hreader
  case case12 hreader => exact .closed _ hreader
  all_goals exact .still trivial rfl rfl rfl rfl rfl

/-- A step that cannot be taken is in order. -/
theorem inOrder_of_step_eq_none {a : SessionAction Resp} (h : s.step a = none) : s.InOrder a := by
  cases a with
  | close ok =>
    intro hreader
    simp [step, hreader] at h
  | write ok =>
    intro hhas
    rw [step] at h
    revert h
    fun_cases writeStep s ok <;> simp_all [hasFrame]
  | _ => trivial

/-! ## First in, first out -/

theorem responses_concat (frames : List (SessionFrame Resp)) (f : SessionFrame Resp) :
    responses (frames ++ [f]) = responses frames ++ responses [f] := filterMap_append

/-- **What has been accepted** has been written, is in the writer's hand or is on the channel, in
this order; and the close frame is written when the loop has ended. -/
structure Queued (s : SessionTasks Resp) : Prop where
  fifo : s.accepted = responses s.frames ++ s.unwritten
  early : s.early ≤ s.accepted.length
  closed : SessionFrame.close ∈ s.frames → s.reader = .closed

theorem queued_init (join : Resp) (postJoin : List Resp) : Queued (init join postJoin) where
  fifo := rfl
  early := Nat.le_refl _
  closed := nofun

/-- **Every step keeps what has been accepted** in its order. -/
theorem Queued.step (hs : Queued s) {a : SessionAction Resp} (h : s.step a = some s') :
    Queued s' := by
  cases effect_of_step h with
  | quiet new horder hframes hreader hearly haccepted hunwritten =>
    constructor
    · rw [haccepted, hframes, hunwritten, hs.fifo, append_assoc]
    · rw [hearly, haccepted, length_append]
      exact Nat.le_trans hs.early (Nat.le_add_right _ _)
    · rw [hframes, hreader]
      exact hs.closed
  | wrote f hf hhas hframes hreader hearly haccepted hunwritten =>
    constructor
    · rw [haccepted, hs.fifo, hframes, responses_concat, hunwritten, append_assoc]
    · rw [hearly, haccepted]
      exact hs.early
    · intro hmem
      rw [hframes, mem_append, mem_singleton] at hmem
      rw [hreader]
      exact hs.closed (hmem.resolve_right fun heq => hf heq.symm)
  | ended hreader =>
    refine ⟨hs.fifo, Nat.le_refl _, fun hmem => ?_⟩
    simp [hs.closed hmem] at hreader
  | closed ok hreader =>
    refine ⟨?_, hs.early, fun _ => rfl⟩
    have hresponses : responses (if ok then s.frames ++ [.close] else s.frames)
        = responses s.frames := by
      cases ok <;> simp [responses, SessionFrame.fromChannel]
    exact hs.fifo.trans (congrArg (· ++ s.unwritten) hresponses.symm)

/-- **What was accepted early has been written** exactly if what is left to write was not. -/
theorem Queued.take_early_iff (hs : Queued s) :
    s.accepted.take s.early <+: responses s.frames ↔
      s.early + s.unwritten.length ≤ s.accepted.length := by
  have hlength : s.accepted.length = (responses s.frames).length + s.unwritten.length := by
    rw [hs.fifo, length_append]
  have hwritten : responses s.frames <+: s.accepted := by
    rw [hs.fifo]
    exact prefix_append _ _
  constructor
  · intro hpre
    have hle := hpre.length_le
    rw [length_take, Nat.min_eq_left hs.early] at hle
    omega
  · intro hle
    -- both are initial parts of what was accepted, and the shorter one comes first
    refine prefix_of_prefix_length_le ( take_prefix _ _) hwritten ?_
    rw [length_take, Nat.min_eq_left hs.early]
    omega

/-! ## Flushing -/

theorem flushed_of_notMem (h : SessionFrame.close ∉ s.frames) : Flushed s := by
  have hno : ∀ a c, s.frames ≠ a ++ .close :: c := by
    intro a c heq
    rw [heq] at h
    exact h (by simp)
  exact ⟨fun a c heq => absurd heq (hno a c), fun a c heq => absurd heq (hno a c)⟩

theorem eq_of_concat_close {frames a c : List (SessionFrame Resp)} (hno : .close ∉ frames)
    (h : frames ++ [.close] = a ++ .close :: c) : a = frames ∧ c = [] := by
  rcases append_eq_append_iff.mp h with ⟨d, rfl, hd⟩ | ⟨d, rfl, hd⟩ <;> cases d <;> simp_all

/-- **A step in order** leaves a session that flushes. -/
theorem Flushed.step (hq : Queued s) (hs : Flushed s) {a : SessionAction Resp}
    (horder : s.InOrder a) (h : s.step a = some s') : Flushed s' := by
  cases effect_of_step h with
  | quiet new _ hframes hreader hearly haccepted hunwritten =>
    constructor
    · intro a c heq
      rw [hframes] at heq
      rw [hearly, haccepted, take_append_of_le_length hq.early]
      exact hs.before a c heq
    · intro a c heq
      rw [hframes] at heq
      exact hs.after a c heq
  | wrote f hf hhas hframes hreader hearly haccepted hunwritten =>
    -- the frame could be written, so no close frame was there
    have hno : SessionFrame.close ∉ s.frames := by
      intro hmem
      exact Bool.noConfusion (horder hhas (hasClosed_iff.mpr hmem))
    refine flushed_of_notMem ?_
    rw [hframes, mem_append, mem_singleton, not_or]
    exact ⟨hno, fun heq => hf heq.symm⟩
  | ended hreader =>
    refine flushed_of_notMem fun hmem => ?_
    simp [hq.closed hmem] at hreader
  | closed ok hreader =>
    have hno : SessionFrame.close ∉ s.frames := by
      intro hmem
      simp [hq.closed hmem] at hreader
    cases ok with
    | false => exact flushed_of_notMem hno
    | true =>
      constructor
      · intro a c heq
        obtain ⟨rfl, -⟩ := eq_of_concat_close hno heq
        exact hq.take_early_iff.mpr (horder hreader rfl)
      · intro a c heq
        exact (eq_of_concat_close hno heq).2

/-- **A step out of order** leaves one that does not. -/
theorem Flushed.inOrder (hq : Queued s) {a : SessionAction Resp} (h : s.step a = some s')
    (hs : Flushed s') : s.InOrder a := by
  cases effect_of_step h with
  | quiet new horder hframes hreader hearly haccepted hunwritten => exact horder
  | wrote f hf hhas hframes hreader hearly haccepted hunwritten =>
    intro _ hclosed
    obtain ⟨a, c, hsplit⟩ := append_of_mem (hasClosed_iff.mp hclosed)
    rw [hsplit, append_assoc, cons_append] at hframes
    have hnil : c ++ [f] = [] := hs.after a (c ++ [f]) hframes
    simp at hnil
  | ended hreader => trivial
  | closed ok hreader =>
    rintro _ rfl
    exact hq.take_early_iff.mp (hs.before s.frames [] rfl)

/-- **A session flushes before it closes** exactly if the close frame is written when nothing is
left of what was accepted before the reader loop ended, and the transport takes nothing after it. -/
theorem session_flushes_iff (join : Resp) (postJoin : List Resp)
    (actions : List (SessionAction Resp)) :
    Throughout step Flushed (init join postJoin) actions ↔
      Along step InOrder (init join postJoin) actions := by
  have hinit : Flushed (init join postJoin) := flushed_of_notMem not_mem_nil
  refine throughout_iff_along (I := fun s => Queued s ∧ Flushed s) (fun s hs => hs.2)
    (fun s a => inOrder_of_step_eq_none) ?_ ?_ ⟨queued_init join postJoin, hinit⟩
  · rintro s a s' ⟨hq, hs⟩ horder hstep
    exact ⟨hq.step hstep, hs.step hq horder hstep⟩
  · rintro s a s' ⟨hq, -⟩ hstep hs'
    exact Flushed.inOrder hq hstep hs'

/-- A response is accepted, and the reader loop ends while it waits on the channel. -/
def overtaken : List (SessionAction Nat) :=
  [.write true, .clone ⟨1, true⟩, .offer 0, .endLoop, .close true, .recv]

/-- **The close frame overtakes a response**: it is written after the close frame if the transport
still takes it, and lost if it does not. -/
theorem session_close_overtakes :
    (run step (init 0 []) (overtaken ++ [.write true])).map
        (fun s => (s.accepted.take s.early, s.frames))
      = some ([1], [.greeting 0, .close, .response 1]) ∧
    (run step (init 0 []) (overtaken ++ [.write false])).map
        (fun s => (s.accepted.take s.early, s.frames, s.writer))
      = some ([1], [.greeting 0, .close], .stopped (some 1)) := by
  decide +kernel

end SessionTasks
end Session
end LivekitVoice
