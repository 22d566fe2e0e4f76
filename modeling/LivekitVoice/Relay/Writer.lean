import LivekitVoice.Cluster.Bus
import LivekitVoice.Relay.Stream
import LivekitVoice.Transition.Run
import Mathlib.Data.List.Forall2
import Mathlib.Data.List.Infix

/-! # Relayed responses

The responses of a relayed session travel over `relay_out`. `RelayIoWriter` on the hosting node
appends an entry per `send` and per `close`; the out-consumer of `run_relay_client` on the entry
node reads the stream from its start and writes a websocket frame per response, in the wire mode of
the moment, until it meets a closing entry. The two, and the in-pump that switches the wire mode,
are interleaved at every bus command and every frame.

* **`relayOut_writes_responses`** — the frames written are those of the responses, then a close. -/

namespace LivekitVoice

open List Transition

/-! ## `RelayIoWriter` -/

/-- A call of the writer. -/
inductive WriterCall (Resp : Type)
  /-- `RelayIoWriter::send`. -/
  | send (resp : Resp)
  /-- `RelayIoWriter::close`. -/
  | close

section RelayOut

variable {Req Resp : Type}

/-- The entry a call appends. -/
def WriterCall.fields (c : SignalCodec Req Resp) : WriterCall Resp → Fields
  | .send resp => responseFields c resp
  | .close => closeFields

/-- The calls up to the first `close`, which is the last of them. -/
def upToClose : List (WriterCall Resp) → List (WriterCall Resp)
  | [] => []
  | .send resp :: calls => .send resp :: upToClose calls
  | .close :: _ => [.close]

theorem upToClose_append_of_notMem {calls : List (WriterCall Resp)} (h : .close ∉ calls)
    (rest : List (WriterCall Resp)) : upToClose (calls ++ rest) = calls ++ upToClose rest := by
  induction calls with
  | nil => rfl
  | cons w calls ih =>
    rw [mem_cons, not_or] at h
    cases w with
    | send resp => rw [cons_append, upToClose, ih h.2, cons_append]
    | close => exact absurd rfl h.1

theorem upToClose_append_of_mem {calls : List (WriterCall Resp)} (h : .close ∈ calls)
    (rest : List (WriterCall Resp)) : upToClose (calls ++ rest) = upToClose calls := by
  induction calls with
  | nil => cases h
  | cons w calls ih =>
    cases w with
    | send resp =>
      rw [cons_append, upToClose, upToClose, ih]
      simpa using h
    | close => rfl

/-! ## The out-consumer -/

/-- Where the out-consumer stands. -/
inductive ConsumerPhase
  /-- About to read. -/
  | idle
  /-- In `XREAD`, for the entries after `start`. -/
  | blocked (start : Nat)
  /-- Going through the entries of an answer. -/
  | batch (rest : List (Fields × Nat))
  /-- Returned, or aborted. -/
  | done

/-- **A relayed session's outward half.** -/
structure RelayOut (Resp : Type) where
  /-- The stream `relay_out`. -/
  stream : List Fields
  /-- The calls that have appended to it. -/
  calls : List (WriterCall Resp)
  /-- The id of the last entry the consumer has taken up. -/
  lastId : LastId
  /-- Where the consumer stands. -/
  phase : ConsumerPhase
  /-- The wire mode, as the in-pump has set it. -/
  json : Bool
  /-- The frames written to the client. -/
  frames : List Message

/-- The steps of the writer, the consumer, the in-pump and the bus. -/
inductive RelayOutAction (Resp : Type)
  /-- A call of the writer. -/
  | call (w : WriterCall Resp) (rep : Reply)
  /-- The in-pump switches the wire mode. -/
  | setMode (json : Bool)
  /-- The consumer sends `XREAD`. -/
  | read
  /-- The bus answers `XREAD`. -/
  | serve
  /-- `XREAD` fails. -/
  | fail
  /-- The consumer takes up the next entry; `written` says whether the socket takes the frame. -/
  | entry (written : Bool)
  /-- The in-pump has ended and the consumer is aborted. -/
  | abort

/-- The frame that ends the session. -/
def closeFrame : Message := .close (some (1000, ""))

namespace RelayOut

/-- A session that has just been started. -/
def init : RelayOut Resp := ⟨[], [], .entry 0, .idle, false, []⟩

variable (c : SignalCodec Req Resp)

/-- **One entry of a batch**, with `rest` after it. -/
def handle (s : RelayOut Resp) (e : Fields × Nat)
    (rest : List (Fields × Nat)) (written : Bool) : RelayOut Resp :=
  let s : RelayOut Resp := { s with lastId := .entry e.2 }
  match e.1.get "kind" with
  | some "close" =>
    { s with frames := if written then s.frames ++ [closeFrame] else s.frames, phase := .done }
  | some "response" =>
    match (Base64.decode ((e.1.get "data").getD "")).bind c.response.decode with
    | some resp =>
      -- a socket that does not take the frame ends the consumer
      if written then
        { s with frames := s.frames ++ [wsEncode c resp s.json], phase := .batch rest }
      else { s with phase := .done }
    | none => { s with phase := .batch rest }
  | _ => { s with phase := .batch rest }

/-- **One step of a relayed session's outward half.** -/
def step (s : RelayOut Resp) :
    RelayOutAction Resp → Option (RelayOut Resp)
  | .call w rep =>
    some { s with stream := rep.write s.stream (s.stream ++ [w.fields c]),
                  calls := rep.write s.calls (s.calls ++ [w]) }
  | .setMode json => some { s with json := json }
  | .read =>
    match s.phase with
    | .idle => some { s with phase := .blocked (s.lastId.resolve s.stream) }
    | _ => none
  | .serve =>
    match s.phase with
    | .blocked start => some { s with phase := .batch (xread s.stream start) }
    | _ => none
  | .fail =>
    match s.phase with
    | .blocked _ => some { s with phase := .idle }
    | _ => none
  | .entry written =>
    match s.phase with
    | .batch [] => some { s with phase := .idle }
    | .batch (e :: rest) => some (s.handle c e rest written)
    | _ => none
  | .abort => some { s with phase := .done }

theorem handle_response (s : RelayOut Resp) (resp : Resp) (n : Nat) (rest : List (Fields × Nat)) :
    s.handle c (responseFields c resp, n) rest true =
      { s with lastId := .entry n, frames := s.frames ++ [wsEncode c resp s.json],
               phase := .batch rest } := by
  simp [handle]

theorem handle_close (s : RelayOut Resp) (n : Nat) (rest : List (Fields × Nat)) :
    s.handle c (closeFields, n) rest true =
      { s with lastId := .entry n, frames := s.frames ++ [closeFrame], phase := .done } := by
  simp [handle]

end RelayOut

/-! ## What is written -/

/-- **The client keeps its side open and the writer's bus commands succeed**, in this step. -/
def RelayOutAction.clientOpen : RelayOutAction Resp → Bool
  | .call _ rep => rep = .ok
  | .entry written => written
  | .abort => false
  | _ => true

/-- The steps of the consumer, with a bus that answers and a socket that takes its frames. -/
def RelayOutAction.isConsumer : RelayOutAction Resp → Bool
  | .read => true
  | .serve => true
  | .entry written => written
  | _ => false

/-- The calls an action adds to the stream. -/
def RelayOutAction.calls : RelayOutAction Resp → List (WriterCall Resp)
  | .call w rep => rep.write [] [w]
  | _ => []

variable (c : SignalCodec Req Resp)

/-- **The frame of a call**: the response in one of the two wire modes, or the close frame. -/
def Written (msg : Message) : WriterCall Resp → Prop
  | .send resp => ∃ json, msg = wsEncode c resp json
  | .close => msg = closeFrame

/-- The consumer has taken up `n` entries, all of them responses, and has written them. -/
structure WrittenTo (c : SignalCodec Req Resp) (calls : List (WriterCall Resp))
    (frames : List Message) (n : Nat) : Prop where
  /-- No closing entry yet. -/
  opened : .close ∉ calls.take n
  /-- The frames of the responses. -/
  frames : List.Forall₂ (Written c) frames (calls.take n)

/-- What holds in each phase of the consumer. -/
def ConsumerOk (calls : List (WriterCall Resp)) (frames : List Message)
    (n : Nat) : ConsumerPhase → Prop
  | .idle => WrittenTo c calls frames n
  | .blocked start => start = n ∧ WrittenTo c calls frames n
  | .batch rest =>
    (∃ ws, ws <+: calls.drop n ∧ rest = (ws.map (WriterCall.fields c)).zipIdx (n + 1)) ∧
      WrittenTo c calls frames n
  | .done => .close ∈ calls ∧ List.Forall₂ (Written c) frames (upToClose calls)

/-- **The invariant of the outward half.** -/
structure RelayOutInv (c : SignalCodec Req Resp) (s : RelayOut Resp) : Prop where
  /-- The stream holds the entries of the calls. -/
  stream : s.stream = s.calls.map (WriterCall.fields c)
  /-- The consumer reads from the start, by entry number. -/
  lastId : s.lastId = .entry s.lastId.read
  /-- The consumer has read what is there. -/
  read_le : s.lastId.read ≤ s.calls.length
  /-- What has been written. -/
  phase : ConsumerOk c s.calls s.frames s.lastId.read s.phase

theorem relayOutInv_init : RelayOutInv c (RelayOut.init : RelayOut Resp) :=
  ⟨rfl, rfl, Nat.le_refl 0, ⟨by simp [RelayOut.init], .nil⟩⟩

section Step

variable {c : SignalCodec Req Resp} {s s' : RelayOut Resp} {a : RelayOutAction Resp}

theorem ConsumerOk.call {calls : List (WriterCall Resp)} {frames : List Message} {n : Nat}
    {phase : ConsumerPhase} (h : ConsumerOk c calls frames n phase) (hn : n ≤ calls.length)
    (w : WriterCall Resp) : ConsumerOk c (calls ++ [w]) frames n phase := by
  have hto : WrittenTo c calls frames n → WrittenTo c (calls ++ [w]) frames n := by
    rintro ⟨hopen, hframes⟩
    have htake : (calls ++ [w]).take n = calls.take n := take_append_of_le_length hn
    rw [← htake] at hopen hframes
    exact ⟨hopen, hframes⟩
  cases phase with
  | idle => exact hto h
  | blocked start => exact ⟨h.1, hto h.2⟩
  | batch rest =>
    obtain ⟨⟨ws, hws, hrest⟩, hwritten⟩ := h
    refine ⟨⟨ws, ?_, hrest⟩, hto hwritten⟩
    rw [drop_append_of_le_length hn]
    exact hws.trans (prefix_append _ _)
  | done =>
    refine ⟨mem_append_left _ h.1, ?_⟩
    rw [upToClose_append_of_mem h.1]
    exact h.2

theorem RelayOutInv.consumerOk (hI : RelayOutInv c s) {phase : ConsumerPhase}
    (hphase : s.phase = phase) : ConsumerOk c s.calls s.frames s.lastId.read phase :=
  hphase ▸ hI.phase

theorem WrittenTo.send {calls : List (WriterCall Resp)} {frames : List Message} {n : Nat}
    (h : WrittenTo c calls frames n) {resp : Resp}
    (hnext : calls.take (n + 1) = calls.take n ++ [.send resp]) (json : Bool) :
    WrittenTo c calls (frames ++ [wsEncode c resp json]) (n + 1) := by
  constructor
  · rw [hnext]
    simpa using h.opened
  · rw [hnext]
    exact rel_append h.frames (.cons ⟨json, rfl⟩ .nil)

theorem WrittenTo.close {calls later : List (WriterCall Resp)} {frames : List Message} {n : Nat}
    (h : WrittenTo c calls frames n) (hcalls : calls = calls.take n ++ .close :: later) :
    List.Forall₂ (Written c) (frames ++ [closeFrame]) (upToClose calls) := by
  rw [hcalls, upToClose_append_of_notMem h.opened]
  exact rel_append h.frames (.cons rfl .nil)

/-- **Taking up an entry** of a batch: the frame of its call is written, and the consumer is done
or goes on to the next entry. -/
theorem RelayOutInv.entry (hI : RelayOutInv c s) {e : Fields × Nat} {rest : List (Fields × Nat)}
    (hphase : s.phase = .batch (e :: rest)) :
    RelayOutInv c (s.handle c e rest true) ∧
      ((s.handle c e rest true).phase = .done ∨
        (s.handle c e rest true).phase = .batch rest ∧
          (s.handle c e rest true).lastId.read = s.lastId.read + 1) := by
  obtain ⟨⟨ws, hws, hrest⟩, hwritten⟩ := hI.consumerOk hphase
  cases ws with
  | nil => cases hrest
  | cons w ws =>
    obtain ⟨rfl, rfl⟩ : e = (w.fields c, s.lastId.read + 1) ∧
        rest = (ws.map (WriterCall.fields c)).zipIdx (s.lastId.read + 1 + 1) := by
      simpa [zipIdx_cons] using hrest
    -- `w` is the first call that has not been taken up, and `later` follow the batch
    obtain ⟨later, hlater⟩ := hws
    have hcalls : s.calls = s.calls.take s.lastId.read ++ w :: (ws ++ later) := by
      rw [← cons_append, hlater, take_append_drop]
    have hlt : s.lastId.read < s.calls.length := by
      have hlen := congrArg List.length hlater
      rw [length_drop, length_append, length_cons] at hlen
      omega
    cases w with
    | send resp =>
      have htake : s.calls.take (s.lastId.read + 1) =
          s.calls.take s.lastId.read ++ [.send resp] := by
        rw [take_add, ← hlater]
        rfl
      have hdrop : s.calls.drop (s.lastId.read + 1) = ws ++ later := by
        rw [← drop_drop, ← hlater]
        rfl
      rw [WriterCall.fields, RelayOut.handle_response]
      refine ⟨⟨hI.stream, rfl, hlt, ⟨ws, ?_, rfl⟩, hwritten.send htake s.json⟩,
        .inr ⟨rfl, rfl⟩⟩
      exact hdrop ▸ prefix_append _ _
    | close =>
      rw [WriterCall.fields, RelayOut.handle_close]
      refine ⟨⟨hI.stream, rfl, hlt, ?_, hwritten.close hcalls⟩, .inl rfl⟩
      exact hcalls ▸ mem_append_right _ mem_cons_self

/-- **One step keeps the invariant** while the client keeps its side open. -/
theorem relayOutInv_step (hI : RelayOutInv c s) (hopen : a.clientOpen)
    (h : s.step c a = some s') : RelayOutInv c s' := by
  revert h
  fun_cases RelayOut.step c s a <;> rintro ⟨⟩
  · next w rep =>
    obtain rfl : rep = .ok := by simpa [RelayOutAction.clientOpen] using hopen
    refine ⟨by simp [hI.stream], hI.lastId, ?_, hI.phase.call hI.read_le w⟩
    have hle := hI.read_le
    simp only [Reply.write_ok, length_append]
    omega
  · exact { hI with }
  · next hphase =>
    refine { hI with phase := ⟨?_, hI.consumerOk hphase⟩ }
    rw [hI.lastId]
    rfl
  · next hphase =>
    obtain ⟨rfl, hwritten⟩ := hI.consumerOk hphase
    refine { hI with phase := ⟨⟨_, prefix_rfl, ?_⟩, hwritten⟩ }
    rw [xread, hI.stream, map_drop]
  · next hphase => exact { hI with phase := (hI.consumerOk hphase).2 }
  · next hphase => exact { hI with phase := (hI.consumerOk hphase).2 }
  · next written e rest hphase =>
    obtain rfl : written := hopen
    exact (hI.entry hphase).1
  · cases hopen

/-- **The calls of the writer** grow by those of the step. -/
theorem calls_of_step (h : s.step c a = some s') : s'.calls = s.calls ++ a.calls := by
  have hhandle : ∀ e rest written, (s.handle c e rest written).calls = s.calls :=
    fun e rest written => by fun_cases RelayOut.handle c s e rest written <;> rfl
  revert h
  fun_cases RelayOut.step c s a <;> rintro ⟨⟩
  case case1 w rep =>
    cases rep with
    | ok => rfl
    | failed applied => cases applied <;> simp [RelayOutAction.calls, Reply.write]
  all_goals simp [RelayOutAction.calls, hhandle]

theorem RelayOutInv.frames (hI : RelayOutInv c s) :
    List.Forall₂ (Written c) s.frames ((upToClose s.calls).take s.frames.length) := by
  have hwritten : WrittenTo c s.calls s.frames s.lastId.read →
      List.Forall₂ (Written c) s.frames ((upToClose s.calls).take s.frames.length) := by
    rintro ⟨hopen, hframes⟩
    have hdue : upToClose s.calls =
        s.calls.take s.lastId.read ++ upToClose (s.calls.drop s.lastId.read) := by
      rw [← upToClose_append_of_notMem hopen, take_append_drop]
    rw [hdue, hframes.length_eq, take_left]
    exact hframes
  cases hphase : s.phase with
  | idle => exact hwritten (hI.consumerOk hphase)
  | blocked | batch => exact hwritten (hI.consumerOk hphase).2
  | done =>
    obtain ⟨-, hall⟩ := hI.consumerOk hphase
    rw [hall.length_eq, take_length]
    exact hall

/-! ## The consumer gets there -/

/-- The consumer alone takes the session from `s` to `s'`. -/
def ConsumerRun (c : SignalCodec Req Resp) (s s' : RelayOut Resp) : Prop :=
  ∃ bs, (∀ b ∈ bs, b.isConsumer) ∧ run (RelayOut.step c) s bs = some s'

theorem ConsumerRun.refl (c : SignalCodec Req Resp) (s : RelayOut Resp) : ConsumerRun c s s :=
  ⟨[], by simp, rfl⟩

theorem ConsumerRun.trans {t : RelayOut Resp} (h : ConsumerRun c s t) (h' : ConsumerRun c t s') :
    ConsumerRun c s s' := by
  obtain ⟨bs, hbs, hrun⟩ := h
  obtain ⟨bs', hbs', hrun'⟩ := h'
  refine ⟨bs ++ bs', fun b hb => ?_, ?_⟩
  · exact (mem_append.mp hb).elim (hbs b) (hbs' b)
  · rw [run_append, hrun]
    exact hrun'

/-- A step of the consumer is a run of it. -/
theorem ConsumerRun.of_step (ha : a.isConsumer) (h : s.step c a = some s') : ConsumerRun c s s' :=
  ⟨[a], by simpa using ha, run_singleton h⟩

/-- **A batch is gone through**: the consumer is done, or back at reading with all of it taken
up. -/
theorem exists_run_batch (rest : List (Fields × Nat)) (hI : RelayOutInv c s)
    (hphase : s.phase = .batch rest) :
    ∃ s', ConsumerRun c s s' ∧ RelayOutInv c s' ∧
      (s'.phase = .done ∨ s'.phase = .idle ∧ s'.lastId.read = s.lastId.read + rest.length) := by
  induction rest generalizing s with
  | nil =>
    have hstep : s.step c (.entry true) = some { s with phase := .idle } := by
      simp [RelayOut.step, hphase]
    exact ⟨_, .of_step rfl hstep, relayOutInv_step hI rfl hstep, .inr ⟨rfl, rfl⟩⟩
  | cons e rest ih =>
    have hstep : s.step c (.entry true) = some (s.handle c e rest true) := by
      simp [RelayOut.step, hphase]
    obtain ⟨hI₁, hdone | ⟨hbatch, hread⟩⟩ := hI.entry hphase
    · -- a closing entry in the middle of a batch leaves the rest of it alone
      exact ⟨_, .of_step rfl hstep, hI₁, .inl hdone⟩
    · obtain ⟨s', hrun, hI', hend⟩ := ih hI₁ hbatch
      refine ⟨s', (ConsumerRun.of_step rfl hstep).trans hrun, hI', ?_⟩
      rw [hread] at hend
      rw [length_cons, Nat.add_comm rest.length, ← Nat.add_assoc]
      exact hend

/-- **The consumer's read** at a moment when it is about to read: everything appended is taken up,
or the consumer is done. -/
theorem exists_run_idle (hI : RelayOutInv c s) (hphase : s.phase = .idle) :
    ∃ s', ConsumerRun c s s' ∧ RelayOutInv c s' ∧
      (s'.phase = .done ∨ s'.phase = .idle ∧ s'.lastId.read = s.calls.length) := by
  have hread : s.step c .read = some { s with phase := .blocked s.lastId.read } := by
    simp only [RelayOut.step, hphase]
    rw [hI.lastId]
    rfl
  have hserve : ({ s with phase := .blocked s.lastId.read } : RelayOut Resp).step c .serve =
      some { s with phase := .batch (xread s.stream s.lastId.read) } := rfl
  have hI₂ := relayOutInv_step (relayOutInv_step hI rfl hread) rfl hserve
  obtain ⟨s', hrun, hI', hend⟩ := exists_run_batch _ hI₂ rfl
  refine ⟨s', ?_, hI', ?_⟩
  · exact ((ConsumerRun.of_step rfl hread).trans (.of_step rfl hserve)).trans hrun
  · have hlen : s.lastId.read + (xread s.stream s.lastId.read).length = s.calls.length := by
      have hle := hI.read_le
      rw [xread, length_zipIdx, length_drop, hI.stream, length_map]
      omega
    rw [← hlen]
    exact hend

theorem exists_run_to_idle (hI : RelayOutInv c s) :
    ∃ s', ConsumerRun c s s' ∧ RelayOutInv c s' ∧ (s'.phase = .done ∨ s'.phase = .idle) := by
  cases hphase : s.phase with
  | idle => exact ⟨s, .refl c s, hI, .inr hphase⟩
  | done => exact ⟨s, .refl c s, hI, .inl hphase⟩
  | batch rest =>
    obtain ⟨s', hrun, hI', hend⟩ := exists_run_batch rest hI hphase
    exact ⟨s', hrun, hI', hend.imp_right And.left⟩
  | blocked start =>
    have hserve : s.step c .serve = some { s with phase := .batch (xread s.stream start) } := by
      simp [RelayOut.step, hphase]
    obtain ⟨s', hrun, hI', hend⟩ := exists_run_batch _ (relayOutInv_step hI rfl hserve) rfl
    exact ⟨s', (ConsumerRun.of_step rfl hserve).trans hrun, hI', hend.imp_right And.left⟩

theorem ConsumerRun.calls_eq (h : ConsumerRun c s s') : s'.calls = s.calls := by
  obtain ⟨bs, hbs, hrun⟩ := h
  have hnil : bs.flatMap RelayOutAction.calls = [] := by
    refine flatMap_eq_nil_iff.mpr fun b hb => ?_
    have hcons := hbs b hb
    cases b with
    | call w rep => cases hcons
    | _ => rfl
  rw [run_flatMap (fun _ _ _ h => calls_of_step h) hrun, hnil, append_nil]

theorem RelayOutInv.complete (hI : RelayOutInv c s)
    (hend : s.phase = .done ∨ s.phase = .idle ∧ s.lastId.read = s.calls.length) :
    List.Forall₂ (Written c) s.frames (upToClose s.calls) := by
  rcases hend with hdone | ⟨hidle, hread⟩
  · exact (hI.consumerOk hdone).2
  · obtain ⟨hopen, hframes⟩ := hI.consumerOk hidle
    rw [hread, take_length] at hopen hframes
    have hdue := upToClose_append_of_notMem hopen []
    rw [append_nil] at hdue
    rw [hdue, upToClose, append_nil]
    exact hframes

/-- **The consumer can always be run** to the point where all that is due is written. -/
theorem exists_run_complete (hI : RelayOutInv c s) :
    ∃ s', ConsumerRun c s s' ∧ List.Forall₂ (Written c) s'.frames (upToClose s.calls) := by
  obtain ⟨s₁, hrun₁, hI₁, hend₁⟩ := exists_run_to_idle hI
  have hcalls₁ := hrun₁.calls_eq
  rcases hend₁ with hdone | hidle
  · exact ⟨s₁, hrun₁, hcalls₁ ▸ hI₁.complete (.inl hdone)⟩
  · -- one more read takes up whatever has been appended since the last one
    obtain ⟨s₂, hrun₂, hI₂, hend₂⟩ := exists_run_idle hI₁ hidle
    have hcalls₂ := hrun₂.calls_eq
    refine ⟨s₂, hrun₁.trans hrun₂, ?_⟩
    rw [← hcalls₁, ← hcalls₂]
    refine hI₂.complete ?_
    rw [hcalls₂]
    exact hend₂

end Step

/-- **Relayed responses are delivered exactly once and in order.** The writer's calls, the
out-consumer and the in-pump's changes of the wire mode are interleaved in any way, while the
client keeps its side open. The frames written are those of the calls up to the first `close`, in
order and once each, as far as the consumer has got; and the consumer alone can always be run to
the point where they are all written. -/
theorem relayOut_writes_responses (c : SignalCodec Req Resp) {as : List (RelayOutAction Resp)}
    {s : RelayOut Resp} (hopen : ∀ a ∈ as, a.clientOpen)
    (hrun : run (RelayOut.step c) RelayOut.init as = some s) :
    List.Forall₂ (Written c) s.frames
        ((upToClose (as.flatMap RelayOutAction.calls)).take s.frames.length) ∧
      ∃ bs s', (∀ b ∈ bs, b.isConsumer) ∧ run (RelayOut.step c) s bs = some s' ∧
        List.Forall₂ (Written c) s'.frames (upToClose (as.flatMap RelayOutAction.calls)) := by
  have hI : RelayOutInv c s :=
    run_invariant_along (fun _ a _ hI hG h => relayOutInv_step (a := a) hI hG h)
      (relayOutInv_init c) (along_of_forall_mem hopen) hrun
  have hcalls : s.calls = as.flatMap RelayOutAction.calls := by
    rw [run_flatMap (fun _ _ _ h => calls_of_step h) hrun]
    rfl
  rw [← hcalls]
  obtain ⟨s', ⟨bs, hbs, hrun'⟩, hframes⟩ := exists_run_complete hI
  exact ⟨hI.frames, bs, s', hbs, hrun', hframes⟩

/-- A session in which a response is sent after the close: it is not written. -/
theorem relayOut_writes_responses_late :
    ∃ s, run (RelayOut.step rawCodec) RelayOut.init
        [.read, .call (.send [1]) .ok, .serve, .entry true, .call .close .ok, .entry true,
          .call (.send [2]) .ok, .read, .serve, .entry true] = some s ∧
      List.Forall₂ (Written rawCodec) s.frames [.send [1], .close] := by
  refine (show ∃ s ∈ run _ _ _, s.frames.length = 2 by decide).imp
    fun s ⟨hrun, hframes⟩ => ⟨hrun, ?_⟩
  have hwritten := (relayOut_writes_responses rawCodec (by decide) hrun).1
  rw [hframes] at hwritten
  exact hwritten

end RelayOut

end LivekitVoice
