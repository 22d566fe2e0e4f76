import LivekitVoice.Cluster.Bus
import LivekitVoice.Relay.Stream
import LivekitVoice.Transition.Run
import Mathlib.Data.List.Infix

/-! # Relayed requests

The client's requests travel over `relay_in`. The entry node (`run_relay_client`) appends one entry
per request, a closing entry when the client is gone, and deletes the stream 100 ms later. The
hosting node reads with `RelayIoReader::next_request`, which starts at `$`, queues the requests of a
batch, and ends the session on the closing entry. The two are interleaved at every bus command.

* **`relayIn_delivers_all`** — under `Timely`, the requests arrive in order and to the last one. -/

namespace LivekitVoice

open List Transition

section RelayIn

variable {Req Resp : Type}

/-! ## `RelayIoReader` -/

/-- `RelayIoReader`, apart from the bus and the session it reads from. -/
structure RelayIoReader (Req : Type) where
  /-- The id of the last entry read. -/
  lastId : LastId
  /-- The requests read and not returned yet. -/
  pending : List Req

/-- The reader of a new session (`relay_io`). -/
def relayIo : RelayIoReader Req := ⟨.newest, []⟩

namespace RelayIoReader

variable (c : SignalCodec Req Resp)

/-- **One entry of a batch**: the reader, and whether the closing entry has been seen. -/
def entry (acc : RelayIoReader Req × Bool) (e : Fields × Nat) : RelayIoReader Req × Bool :=
  let r : RelayIoReader Req := { acc.1 with lastId := .entry e.2 }
  match e.1.get "kind" with
  | some "close" => (r, true)
  | some "request" =>
    match e.1.get "data", Base64.decode ((e.1.get "data").getD "") with
    | some _, some bytes =>
      match c.request.decode bytes with
      | some req => ({ r with pending := r.pending ++ [req] }, acc.2)
      | none => (r, acc.2)
    | _, _ => (r, acc.2)
  | _ => (r, acc.2)

variable (r : RelayIoReader Req)

/-- **The entries of a batch**, in order. -/
def scan (batch : List (Fields × Nat)) : RelayIoReader Req × Bool :=
  batch.foldl (entry c) (r, false)

theorem entry_request (acc : RelayIoReader Req × Bool) (req : Req) (n : Nat) :
    entry c acc (requestFields c req, n) = (⟨.entry n, acc.1.pending ++ [req]⟩, acc.2) := by
  simp [entry]

theorem entry_close (acc : RelayIoReader Req × Bool) (n : Nat) :
    entry c acc (closeFields, n) = (⟨.entry n, acc.1.pending⟩, true) := by
  simp [entry]

theorem entry_seen (e : Fields × Nat) : (entry c (r, true) e).2 := by
  unfold entry
  split
  · rfl
  · split
    · split <;> rfl
    · rfl
  · rfl

theorem foldl_entry_seen (batch : List (Fields × Nat)) : (batch.foldl (entry c) (r, true)).2 := by
  induction batch generalizing r with
  | nil => rfl
  | cons e batch ih =>
    have hacc : entry c (r, true) e = ((entry c (r, true) e).1, true) :=
      Prod.ext rfl (entry_seen c r e)
    rw [foldl_cons, hacc]
    exact ih _

/-- **A batch of requests** is queued in order; the reader then stands at its last entry. -/
theorem scan_requests (reqs : List Req) :
    (scan c r ((reqs.map (requestFields c)).zipIdx (r.lastId.read + 1))).1.pending =
        r.pending ++ reqs ∧
      (scan c r ((reqs.map (requestFields c)).zipIdx (r.lastId.read + 1))).1.lastId.read =
        r.lastId.read + reqs.length ∧
      (scan c r ((reqs.map (requestFields c)).zipIdx (r.lastId.read + 1))).2 = false := by
  unfold scan
  induction reqs generalizing r with
  | nil => simp
  | cons req reqs ih =>
    rw [map_cons, zipIdx_cons, foldl_cons, entry_request]
    obtain ⟨hpending, hread, hseen⟩ := ih ⟨.entry (r.lastId.read + 1), r.pending ++ [req]⟩
    refine ⟨?_, ?_, hseen⟩
    · rw [show r.pending ++ req :: reqs = r.pending ++ [req] ++ reqs by simp]
      exact hpending
    · rw [length_cons, Nat.add_comm reqs.length 1, ← Nat.add_assoc]
      exact hread

theorem scan_close {batch : List (Fields × Nat)} {n : Nat}
    (h : (closeFields, n) ∈ batch) : (scan c r batch).2 := by
  obtain ⟨before, after, rfl⟩ := append_of_mem h
  rw [scan, foldl_append, foldl_cons, entry_close]
  exact foldl_entry_seen c _ after

end RelayIoReader

/-! ## The two nodes -/

/-- Where the entry node stands. -/
inductive EntryPhase
  /-- Forwarding the client's requests. -/
  | pumping
  /-- The pump has ended; about to append the closing entry. -/
  | stopped
  /-- The closing entry is appended; about to delete the stream. -/
  | closing
  /-- The stream is deleted. -/
  | gone
  deriving DecidableEq

/-- The entry node has appended its closing entry. -/
def EntryPhase.closed : EntryPhase → Bool
  | .closing => true
  | .gone => true
  | _ => false

/-- Where the reader stands. -/
inductive ReaderPhase
  /-- Between two calls, or about to read again in one. -/
  | idle
  /-- In `XREAD`, for the entries after `start`. -/
  | blocked (start : Nat)
  /-- `XREAD` is answered. -/
  | answered (batch : List (Fields × Nat))
  /-- `next_request` has returned `None`. -/
  | finished
  deriving DecidableEq

/-- **A relayed session's inward half.** -/
structure RelayIn (Req : Type) where
  /-- The stream `relay_in`. -/
  stream : List Fields
  /-- The entry node. -/
  entry : EntryPhase
  /-- The requests the entry node has appended. -/
  sent : List Req
  /-- The reader on the hosting node. -/
  reader : RelayIoReader Req
  /-- Where the reader stands. -/
  phase : ReaderPhase
  /-- The requests its calls have returned. -/
  returned : List Req

/-- The steps of the two nodes and of the bus. -/
inductive RelayInAction (Req : Type)
  /-- The entry node appends a request. -/
  | forward (req : Req) (rep : Reply)
  /-- The entry node's pump ends. -/
  | stop
  /-- The entry node appends the closing entry. -/
  | close (rep : Reply)
  /-- The entry node deletes the stream. -/
  | del (rep : Reply)
  /-- `next_request`: return a queued request, or read. -/
  | nextRequest
  /-- The bus answers `XREAD`. -/
  | serve
  /-- `XREAD` fails. -/
  | fail
  /-- The reader goes through the answer. -/
  | receive

namespace RelayIn

/-- A session that has just been started. -/
def init : RelayIn Req := ⟨[], .pumping, [], relayIo, .idle, []⟩

/-- Return the first queued request; without one go on as `otherwise` says. -/
def popOr (s : RelayIn Req) (r : RelayIoReader Req) (otherwise : ReaderPhase) : RelayIn Req :=
  match r.pending with
  | req :: rest =>
    { s with reader := { r with pending := rest }, phase := .idle,
             returned := s.returned ++ [req] }
  | [] => { s with reader := r, phase := otherwise }

/-- **One step of a relayed session's inward half.** -/
def step (c : SignalCodec Req Resp) (s : RelayIn Req) : RelayInAction Req → Option (RelayIn Req)
  | .forward req rep =>
    -- a failed `XADD` ends the pump
    if s.entry = .pumping then
      some { s with stream := rep.write s.stream (s.stream ++ [requestFields c req]),
                    sent := rep.write s.sent (s.sent ++ [req]),
                    entry := if rep = .ok then .pumping else .stopped }
    else none
  | .stop => if s.entry = .pumping then some { s with entry := .stopped } else none
  | .close rep =>
    if s.entry = .stopped then
      some { s with stream := rep.write s.stream (s.stream ++ [closeFields]), entry := .closing }
    else none
  | .del rep =>
    if s.entry = .closing then some { s with stream := rep.write s.stream [], entry := .gone }
    else none
  | .nextRequest =>
    if s.phase = .idle then
      some (s.popOr s.reader (.blocked (s.reader.lastId.resolve s.stream)))
    else none
  | .serve =>
    match s.phase with
    | .blocked start => some { s with phase := .answered (xread s.stream start) }
    | _ => none
  | .fail =>
    match s.phase with
    | .blocked _ => some { s with phase := .finished }
    | _ => none
  | .receive =>
    match s.phase with
    | .answered batch =>
      -- the closing entry returns `None` before the queue is looked at
      let scanned := s.reader.scan c batch
      if scanned.2 then some { s with reader := scanned.1, phase := .finished }
      else some (s.popOr scanned.1 .idle)
    | _ => none

end RelayIn

/-! ## When nothing is lost -/

/-- **The condition on the timing of a step**, with a bus that does not fail: `XREAD` from `$`
reaches the server before the first entry is appended, the closing entry is read in a batch of its
own, and the stream is deleted only after the reader has finished. -/
def Timely (s : RelayIn Req) : RelayInAction Req → Prop
  | .forward _ rep => rep = .ok
  | .stop => True
  | .close rep => rep = .ok
  | .del rep => rep = .ok ∧ s.phase = .finished
  | .nextRequest => s.reader.lastId = .newest → s.stream = []
  | .serve =>
    match s.phase with
    | .blocked start => closeFields ∈ s.stream.drop start → s.stream.drop start = [closeFields]
    | _ => True
  | .fail => False
  | .receive => True

instance (s : RelayIn Req) (a : RelayInAction Req) : Decidable (Timely s a) := by
  unfold Timely
  split <;> (try split) <;> infer_instance

/-- The requests an action appends. -/
def RelayInAction.requests : RelayInAction Req → List Req
  | .forward req rep => rep.write [] [req]
  | _ => []

/-- The steps of the reader and of the bus that serves it. -/
def RelayInAction.isReader : RelayInAction Req → Bool
  | .nextRequest => true
  | .serve => true
  | .receive => true
  | _ => false

/-- **What is in a batch read after entry `n`**: requests, or the closing entry after all
requests. -/
inductive BatchOk (c : SignalCodec Req Resp) (sent : List Req) (entry : EntryPhase) (n : Nat) :
    List (Fields × Nat) → Prop
  /-- The next requests. -/
  | requests (reqs : List Req) (h : reqs <+: sent.drop n) :
      BatchOk c sent entry n ((reqs.map (requestFields c)).zipIdx (n + 1))
  /-- The closing entry. -/
  | close (hn : n = sent.length) (hclosed : entry.closed) :
      BatchOk c sent entry n [(closeFields, n + 1)]

/-- What holds of the reader in each of its phases; `n` is the number of entries it has read. -/
def PhaseOk (c : SignalCodec Req Resp) (s : RelayIn Req) (n : Nat) : ReaderPhase → Prop
  | .idle => s.returned ++ s.reader.pending = s.sent.take n
  | .blocked start => start = n ∧ s.reader.pending = [] ∧ s.returned = s.sent.take n
  | .answered batch =>
    BatchOk c s.sent s.entry n batch ∧ s.reader.pending = [] ∧ s.returned = s.sent.take n
  | .finished => s.returned = s.sent ∧ s.entry.closed

/-- **The invariant of a timely session.** -/
structure RelayInv (c : SignalCodec Req Resp) (s : RelayIn Req) : Prop where
  /-- The stream holds the requests in order, then the closing entry. -/
  stream : s.entry ≠ .gone → s.stream = s.sent.map (requestFields c) ++
    if s.entry.closed then [closeFields] else []
  /-- The stream is there as long as it is read. -/
  gone : s.entry = .gone → s.phase = .finished
  /-- The reader has read requests only. -/
  read_le : s.phase ≠ .finished → s.reader.lastId.read ≤ s.sent.length
  /-- What has been returned. -/
  phase : PhaseOk c s s.reader.lastId.read s.phase

theorem relayInv_init (c : SignalCodec Req Resp) : RelayInv c (RelayIn.init : RelayIn Req) :=
  ⟨fun _ => rfl, fun h => (by cases h), fun _ => Nat.le_refl 0, rfl⟩

section Step

variable {c : SignalCodec Req Resp} {s s' : RelayIn Req} {a : RelayInAction Req}

theorem RelayInv.not_gone (hI : RelayInv c s) (hfin : s.phase ≠ .finished) : s.entry ≠ .gone :=
  fun hgone => hfin (hI.gone hgone)

theorem RelayInv.phaseOk (hI : RelayInv c s) {phase : ReaderPhase} (hphase : s.phase = phase) :
    PhaseOk c s s.reader.lastId.read phase :=
  hphase ▸ hI.phase

/-- **What the reader does leaves the stream and the entry node alone.** -/
theorem RelayInv.of_reader {t : RelayIn Req} (hI : RelayInv c s) (hfin : s.phase ≠ .finished)
    (hstream : t.stream = s.stream) (hentry : t.entry = s.entry) (hsent : t.sent = s.sent)
    (hread : t.reader.lastId.read ≤ s.sent.length)
    (hphase : PhaseOk c t t.reader.lastId.read t.phase) : RelayInv c t where
  stream := by
    rw [hstream, hentry, hsent]
    exact hI.stream
  gone := fun hgone => absurd (hentry.symm.trans hgone) (hI.not_gone hfin)
  read_le := fun _ => hsent ▸ hread
  phase := hphase

/-- **What the entry node does leaves the reader's phase alone**: it may append requests before
its closing entry, and nothing after it. -/
theorem PhaseOk.mono {t : RelayIn Req} {n : Nat} (h : PhaseOk c s n s.phase)
    (hn : s.phase ≠ .finished → n ≤ s.sent.length) (hsent : s.sent <+: t.sent)
    (hclosed : s.entry.closed → t.entry.closed ∧ t.sent = s.sent)
    (hreader : t.reader = s.reader) (hreturned : t.returned = s.returned) :
    PhaseOk c t n s.phase := by
  have htake : n ≤ s.sent.length → t.sent.take n = s.sent.take n := by
    intro hle
    obtain ⟨rest, hrest⟩ := hsent
    rw [← hrest, take_append_of_le_length hle]
  cases hphase : s.phase with
  | idle | blocked =>
    rw [hphase] at h hn
    rw [PhaseOk, htake (hn (by simp)), hreader, hreturned]
    exact h
  | answered batch =>
    rw [hphase] at h hn
    rw [PhaseOk, htake (hn (by simp)), hreader, hreturned]
    refine ⟨?_, h.2⟩
    cases h.1 with
    | requests reqs hreqs => exact .requests reqs (hreqs.trans (hsent.drop n))
    | close hlen hc =>
      obtain ⟨hc', hsent'⟩ := hclosed hc
      exact .close (by rw [hlen, hsent']) hc'
  | finished =>
    rw [hphase] at h
    obtain ⟨hc', hsent'⟩ := hclosed h.2
    rw [PhaseOk, hreturned, hsent']
    exact ⟨h.1, hc'⟩

section

variable (hI : RelayInv c s)
include hI

/-- **A timely answer** has the next requests, or the closing entry alone. -/
theorem batchOk_xread (hG : Timely s .serve) (hphase : s.phase = .blocked s.reader.lastId.read) :
    BatchOk c s.sent s.entry s.reader.lastId.read (xread s.stream s.reader.lastId.read) := by
  have hn : s.reader.lastId.read ≤ s.sent.length := hI.read_le (by rw [hphase]; simp)
  have hne : s.entry ≠ .gone := hI.not_gone (by rw [hphase]; simp)
  have hdrop : s.stream.drop s.reader.lastId.read =
      (s.sent.drop s.reader.lastId.read).map (requestFields c) ++
        if s.entry.closed then [closeFields] else [] := by
    rw [hI.stream hne, drop_append_of_le_length (by simpa using hn), map_drop]
  rw [xread]
  cases hclosed : s.entry.closed with
  | false =>
    rw [hclosed, if_neg (by simp), append_nil] at hdrop
    rw [hdrop]
    exact .requests _ prefix_rfl
  | true =>
    -- the closing entry is in the batch, so it is all of it
    rw [hclosed, if_pos rfl] at hdrop
    have halone : s.stream.drop s.reader.lastId.read = [closeFields] := by
      simp only [Timely, hphase] at hG
      exact hG (by rw [hdrop]; simp)
    have hlen : s.reader.lastId.read = s.sent.length := by
      rw [halone] at hdrop
      have hlength := congrArg List.length hdrop
      simp at hlength
      omega
    rw [halone]
    exact .close hlen hclosed

/-- **Going through a batch without the closing entry** queues the requests after those
returned. -/
theorem RelayInv.scan {batch : List (Fields × Nat)}
    (hphase : s.phase = .answered batch) (hclose : (s.reader.scan c batch).2 = false) :
    (s.reader.scan c batch).1.lastId.read ≤ s.sent.length ∧
      s.returned ++ (s.reader.scan c batch).1.pending =
        s.sent.take (s.reader.scan c batch).1.lastId.read ∧
      (s.reader.scan c batch).1.pending.length = batch.length := by
  have hn := hI.read_le (by rw [hphase]; simp)
  obtain ⟨hbatch, hpending, hreturned⟩ := hI.phaseOk hphase
  cases hbatch with
  | requests reqs hreqs =>
    obtain ⟨hqueue, hread, -⟩ := RelayIoReader.scan_requests c s.reader reqs
    rw [hpending, nil_append] at hqueue
    have hlen := hreqs.length_le
    rw [length_drop] at hlen
    have htake : reqs = (s.sent.drop s.reader.lastId.read).take reqs.length :=
      prefix_iff_eq_take.mp hreqs
    refine ⟨by omega, ?_, by simp [hqueue]⟩
    rw [hqueue, hread, hreturned, take_add, ← htake]
  | close _ _ =>
    simp [RelayIoReader.scan_close c s.reader mem_cons_self] at hclose

/-- **A queued request is returned**, or there is none. -/
theorem RelayInv.popOr (hfin : s.phase ≠ .finished) {r : RelayIoReader Req}
    {otherwise : ReaderPhase} (hread : r.lastId.read ≤ s.sent.length)
    (hqueue : s.returned ++ r.pending = s.sent.take r.lastId.read)
    (hother : r.pending = [] →
      PhaseOk c { s with reader := r, phase := otherwise } r.lastId.read otherwise) :
    RelayInv c (s.popOr r otherwise) := by
  fun_cases RelayIn.popOr s r otherwise
  · next req rest hpending =>
    refine hI.of_reader hfin rfl rfl rfl hread ?_
    rw [hpending] at hqueue
    simpa [PhaseOk] using hqueue
  · next hpending => exact hI.of_reader hfin rfl rfl rfl hread (hother hpending)

/-- **One timely step keeps the invariant.** -/
theorem relayInv_step (hG : Timely s a) (h : s.step c a = some s') : RelayInv c s' := by
  revert h
  fun_cases RelayIn.step c s a <;> rintro ⟨⟩
  · next req rep hentry =>
    obtain rfl : rep = .ok := hG
    refine ⟨fun _ => ?_, fun hc => (by cases hc), fun hfin => ?_, ?_⟩
    · have hstream := hI.stream (by rw [hentry]; simp)
      simp [hstream, hentry, EntryPhase.closed]
    · have hle := hI.read_le hfin
      simp only [Reply.write_ok, length_append]
      omega
    · refine hI.phase.mono hI.read_le (prefix_append _ _) (fun hc => ?_) rfl rfl
      rw [hentry] at hc
      cases hc
  · next hentry =>
    refine ⟨fun _ => ?_, fun hc => (by cases hc), hI.read_le, ?_⟩
    · have hstream := hI.stream (by rw [hentry]; simp)
      simpa [hentry, EntryPhase.closed] using hstream
    · refine hI.phase.mono hI.read_le prefix_rfl (fun hc => ?_) rfl rfl
      rw [hentry] at hc
      cases hc
  · next rep hentry =>
    obtain rfl : rep = .ok := hG
    refine ⟨fun _ => ?_, fun hc => (by cases hc), hI.read_le, ?_⟩
    · have hstream := hI.stream (by rw [hentry]; simp)
      simp [hstream, hentry, EntryPhase.closed]
    · exact hI.phase.mono hI.read_le prefix_rfl (fun _ => ⟨rfl, rfl⟩) rfl rfl
  · refine ⟨fun hne => absurd rfl hne, fun _ => hG.2, hI.read_le, ?_⟩
    exact hI.phase.mono hI.read_le prefix_rfl (fun _ => ⟨rfl, rfl⟩) rfl rfl
  · next hphase =>
    have hfin : s.phase ≠ .finished := by rw [hphase]; simp
    have hidle := hI.phaseOk hphase
    refine hI.popOr hfin (hI.read_le hfin) hidle fun hpending => ?_
    rw [PhaseOk, hpending, append_nil] at hidle
    refine ⟨?_, hpending, hidle⟩
    -- from `$` the read starts at the end of the stream, which is still empty
    cases hlast : s.reader.lastId with
    | newest =>
      have hempty := hG hlast
      simp [LastId.resolve, LastId.read, hempty]
    | entry n => rfl
  · next start hphase =>
    have hfin : s.phase ≠ .finished := by rw [hphase]; simp
    refine hI.of_reader hfin rfl rfl rfl (hI.read_le hfin) ?_
    obtain ⟨rfl, hpending, hreturned⟩ := hI.phaseOk hphase
    have hbatch := batchOk_xread hI hG hphase
    exact ⟨hbatch, hpending, hreturned⟩
  · exact hG.elim
  · next batch hphase scanned hclose =>
    refine ⟨hI.stream, fun _ => rfl, fun hne => absurd rfl hne, ?_⟩
    obtain ⟨hbatch, hpending, hreturned⟩ := hI.phaseOk hphase
    -- a timely batch with the closing entry has nothing else in it
    cases hbatch with
    | requests reqs hreqs =>
      cases (RelayIoReader.scan_requests c s.reader reqs).2.2.symm.trans hclose
    | close hlen hc =>
      refine ⟨?_, hc⟩
      rw [hlen, take_length] at hreturned
      exact hreturned
  · next batch hphase scanned hclose =>
    have hfin : s.phase ≠ .finished := by rw [hphase]; simp
    obtain ⟨hread, hqueue, -⟩ := hI.scan hphase (by simpa using hclose)
    exact hI.popOr hfin hread hqueue fun _ => hqueue

end

/-! ## When the reader finishes -/

/-- **The reader's work**: how many steps it is from returning `None`, once the closing entry is
on the stream. -/
def RelayIn.work (s : RelayIn Req) : Nat :=
  match s.phase with
  | .idle => s.reader.pending.length + 3
  | .blocked _ => 2
  | .answered batch => if closeFields ∈ batch.map Prod.fst then 1 else batch.length + 4
  | .finished => 0

/-- **Every step of the reader is progress** once the closing entry is on the stream. -/
theorem work_lt (hI : RelayInv c s) (hentry : s.entry = .closing) (hreader : a.isReader)
    (h : s.step c a = some s') : s'.work < s.work ∧ s'.entry = .closing := by
  revert h
  fun_cases RelayIn.step c s a <;> rintro ⟨⟩
  case case1 | case3 | case5 | case7 | case13 => cases hreader
  · next hphase =>
    fun_cases RelayIn.popOr s s.reader (.blocked (s.reader.lastId.resolve s.stream))
    · next hpending =>
      refine ⟨?_, hentry⟩
      simp only [RelayIn.work, hphase, hpending, length_cons]
      omega
    · refine ⟨?_, hentry⟩
      simp only [RelayIn.work, hphase]
      omega
  · next start hphase =>
    refine ⟨?_, hentry⟩
    have hmem : closeFields ∈ (xread s.stream start).map Prod.fst := by
      -- the closing entry is on the stream, and the reader has read no more than the requests
      have hn := hI.read_le (by rw [hphase]; simp)
      obtain ⟨rfl, -, -⟩ := hI.phaseOk hphase
      rw [xread, zipIdx_map_fst, hI.stream (by rw [hentry]; simp), hentry,
        drop_append_of_le_length (by simpa using hn)]
      simp [EntryPhase.closed]
    simp [RelayIn.work, hphase, hmem]
  · next hphase _ _ =>
    refine ⟨?_, hentry⟩
    simp only [RelayIn.work, hphase]
    split <;> omega
  · next batch hphase scanned hclose =>
    have hopen : scanned.2 = false := by simpa using hclose
    obtain ⟨-, -, hlen⟩ := hI.scan hphase hopen
    have hnot : closeFields ∉ batch.map Prod.fst := by
      intro hmem
      obtain ⟨⟨f, n⟩, hfn, rfl⟩ := mem_map.mp hmem
      simp [scanned, RelayIoReader.scan_close c s.reader hfn] at hopen
    have hwork : s.work = batch.length + 4 := by simp [RelayIn.work, hphase, hnot]
    rw [hwork]
    fun_cases RelayIn.popOr s scanned.1 .idle
    · next hpending =>
      refine ⟨?_, hentry⟩
      rw [hpending, length_cons] at hlen
      simp only [RelayIn.work]
      omega
    · next hpending =>
      refine ⟨?_, hentry⟩
      simp only [RelayIn.work, hpending, length_nil]
      omega

/-- **What has been sent** grows by the requests of the step. -/
theorem sent_of_step (h : s.step c a = some s') : s'.sent = s.sent ++ a.requests := by
  have hpop : ∀ r otherwise, (s.popOr r otherwise).sent = s.sent := fun r otherwise => by
    fun_cases RelayIn.popOr s r otherwise <;> rfl
  revert h
  fun_cases RelayIn.step c s a <;> rintro ⟨⟩
  case case1 req rep _ =>
    cases rep with
    | ok => rfl
    | failed applied => cases applied <;> simp [RelayInAction.requests, Reply.write]
  all_goals simp [RelayInAction.requests, hpop]

/-- In a timely session the requests returned are a prefix of those appended, all of them once the
reader has finished. -/
theorem RelayInv.returned (hI : RelayInv c s) :
    s.returned <+: s.sent ∧ (s.phase = .finished → s.returned = s.sent) := by
  cases hphase : s.phase with
  | idle =>
    refine ⟨?_, nofun⟩
    have hqueued : s.returned ++ s.reader.pending <+: s.sent := by
      rw [hI.phaseOk hphase]
      exact take_prefix _ _
    exact (prefix_append _ _).trans hqueued
  | blocked | answered =>
    refine ⟨?_, nofun⟩
    rw [(hI.phaseOk hphase).2.2]
    exact take_prefix _ _
  | finished =>
    obtain ⟨hall, -⟩ := hI.phaseOk hphase
    exact ⟨hall ▸ prefix_rfl, fun _ => hall⟩

end Step

/-- **Relayed requests are delivered exactly once and in order**, in every session whose steps are
timely. The requests returned are a prefix of those appended, and all of them once `next_request`
has returned `None`. Once the closing entry is on the stream, `None` is returned after at most
`RelayIn.work` steps of the reader, which is never stuck before. -/
theorem relayIn_delivers_all (c : SignalCodec Req Resp) {as : List (RelayInAction Req)}
    {s : RelayIn Req} (htimely : Along (RelayIn.step c) Timely RelayIn.init as)
    (hrun : run (RelayIn.step c) RelayIn.init as = some s) :
    s.returned <+: as.flatMap RelayInAction.requests ∧
      (s.phase = .finished → s.returned = as.flatMap RelayInAction.requests) ∧
      (s.entry = .closing → ∀ bs s',
        Along (RelayIn.step c) (fun t b => b.isReader ∧ Timely t b) s bs →
        run (RelayIn.step c) s bs = some s' →
        bs.length + s'.work ≤ s.work ∧
          (s'.phase = .finished ∨ ∃ b, b.isReader ∧ (s'.step c b).isSome)) := by
  have hI : RelayInv c s :=
    run_invariant_along (fun _ _ _ hI hG h => relayInv_step hI hG h) (relayInv_init c) htimely hrun
  have hsent : s.sent = as.flatMap RelayInAction.requests := by
    have hflat := run_flatMap (fun _ _ _ h => sent_of_step h) hrun
    rw [hflat]
    rfl
  rw [← hsent]
  refine ⟨hI.returned.1, hI.returned.2, fun hentry bs s' hbs hrun' => ⟨?_, ?_⟩⟩
  · refine run_length_add_le (I := fun t => RelayInv c t ∧ t.entry = .closing)
      (fun t b t' ht hb h => ?_) ⟨hI, hentry⟩ hbs hrun'
    obtain ⟨hlt, hentry'⟩ := work_lt ht.1 ht.2 hb.1 h
    exact ⟨⟨relayInv_step ht.1 hb.2 h, hentry'⟩, hlt⟩
  · -- a reader that has not finished has a next step
    cases hphase : s'.phase with
    | idle => exact .inr ⟨.nextRequest, rfl, by simp [RelayIn.step, hphase]⟩
    | blocked start => exact .inr ⟨.serve, rfl, by simp [RelayIn.step, hphase]⟩
    | answered batch =>
      refine .inr ⟨.receive, rfl, ?_⟩
      simp only [RelayIn.step, hphase]
      split <;> rfl
    | finished => exact .inl rfl

/-- A session of two requests: the reader is waiting when each entry is appended. -/
def timelySession : List (RelayInAction Bytes) :=
  [.nextRequest, .forward [1] .ok, .serve, .receive, .nextRequest, .forward [2] .ok, .serve,
    .receive, .nextRequest, .stop, .close .ok, .serve, .receive]

/-- The theorem at that session: both requests are returned before `None`. -/
theorem relayIn_delivers_all_session :
    ∃ s, run (RelayIn.step rawCodec) RelayIn.init timelySession = some s ∧
      s.phase = .finished ∧ s.returned = [[1], [2]] := by
  refine (show ∃ s ∈ run _ _ _, s.phase = .finished by decide).imp
    fun s ⟨hrun, hphase⟩ => ⟨hrun, hphase,
      (relayIn_delivers_all rawCodec (by decide) hrun).2.1 hphase⟩

/-- **Requests are lost** in two ways. A request appended before the first `XREAD` is skipped by
`$`. And a request that is on the stream together with the closing entry when the reader comes
back to read is queued and never returned. -/
theorem relayIn_loses_requests :
    (∃ s, run (RelayIn.step rawCodec) RelayIn.init
        [.forward [1] .ok, .nextRequest, .stop, .close .ok, .serve, .receive] = some s ∧
      s.sent = [[1]] ∧ s.phase = .finished ∧ s.returned = []) ∧
    ∃ s, run (RelayIn.step rawCodec) RelayIn.init
        [.nextRequest, .forward [1] .ok, .serve, .receive, .forward [2] .ok, .stop, .close .ok,
          .nextRequest, .serve, .receive] = some s ∧
      s.sent = [[1], [2]] ∧ s.phase = .finished ∧ s.returned = [[1]] := by
  simp only [← Option.mem_def]
  decide

end RelayIn

end LivekitVoice
