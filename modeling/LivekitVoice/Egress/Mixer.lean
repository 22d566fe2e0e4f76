import Mathlib.Algebra.Group.Nat.Defs
import Mathlib.Data.List.Basic
import Mathlib.Data.List.Induction
import Mathlib.Order.Nat

/-! # The mixer of a recording

The packets of all tracks of a room arrive one after another. Each is decoded and put into the queue
of its track; then, while some queue holds a frame of 960 samples, a frame is taken off all queues
and mixed, where a track with fewer samples is silent. At the end of the stream the file is closed.

* **`Mixer.mixing_unclipped`** — a frame is the sum of the shares of the tracks, which is in range,
* **`mixed_iff`** — packets of the same time are mixed exactly if there is only one track,
* **`conserved_iff`** — no sample is lost exactly if none is waiting at the end. -/

namespace LivekitVoice

open List

/-! ## The mixer -/

/-- `FRAME_SAMPLES`: 20 ms at 48 kHz. -/
def frameSamples : Nat := 960

/-- `SILENT_TRACK_TIMEOUT`, in ns. -/
def silentTrackTimeout : Nat := 5000000000

/-- **The mixer**: the tracks it has a queue and a last packet for, in the order of the map. -/
structure Mixer where
  ids : List String
  queue : String → List Int16
  /-- When the last packet came. -/
  lastPacket : String → Nat
  nodup : ids.Nodup
  queue_absent : ∀ c, c ∉ ids → queue c = []

namespace Mixer

/-- No track. -/
def new : Mixer := ⟨[], fun _ => [], fun _ => 0, .nil, fun _ _ => rfl⟩

variable (m : Mixer)

/-- `push`. -/
def push (cid : String) (pcm : List Int16) (now : Nat) : Mixer where
  ids := if cid ∈ m.ids then m.ids else m.ids ++ [cid]
  queue := Function.update m.queue cid (m.queue cid ++ pcm)
  lastPacket := Function.update m.lastPacket cid now
  nodup := by
    split
    · exact m.nodup
    · next h => simpa [nodup_append, m.nodup] using fun c hc => ne_of_mem_of_not_mem hc h
  queue_absent c hc := by
    have hne : c ≠ cid := by
      rintro rfl
      split at hc <;> simp_all
    rw [Function.update_of_ne hne]
    refine m.queue_absent c fun h => hc ?_
    split <;> simp [h]

/-- The track has been silent for too long. -/
def stale (now : Nat) (cid : String) : Bool :=
  now - m.lastPacket cid > silentTrackTimeout

/-- `prune_stale`. -/
def pruneStale (now : Nat) : Mixer where
  ids := m.ids.filter fun cid => !m.stale now cid
  queue cid := if m.stale now cid then [] else m.queue cid
  lastPacket := m.lastPacket
  nodup := m.nodup.filter _
  queue_absent c hc := by
    split
    · rfl
    · next h => exact m.queue_absent c fun hmem => hc (by simp [hmem, h])

/-- `available`: the longest queue. -/
def available : Nat := (m.ids.map fun c => (m.queue c).length).max?.getD 0

/-- A sample is added to a slot; the range of `i16` is not left. -/
def mixSample (count : Int) (slot s : Int16) : Int16 :=
  .ofInt (max (-32768) (min 32767 (slot.toInt + s.toInt.tdiv count)))

/-- One queue is mixed into a frame; what is missing is silence. -/
def mixInto (count : Int) : List Int16 → List Int16 → List Int16
  | [], _ => []
  | slot :: frame, q => mixSample count slot (q.headD 0) :: mixInto count frame q.tail

/-- The number of tracks in `i32`, at least one. -/
def count : Int := (max m.ids.length 1 : Int).bmod 4294967296

/-- **`read_frame`**: the frame, and the mixer without it. -/
def readFrame (len : Nat) : List Int16 × Mixer :=
  (m.ids.foldl (fun frame c => mixInto m.count frame (m.queue c)) (List.replicate len 0),
    { m with
      queue := fun c => (m.queue c).drop len
      queue_absent := fun c hc => by rw [m.queue_absent c hc, drop_nil] })

/-- **The loop that drains the queues**: the mixers that a frame is read from, and the one that is
left. -/
def drain : Nat → Mixer → List Mixer × Mixer
  | 0, m => ([], m)
  | fuel + 1, m =>
    if frameSamples ≤ m.available then
      let rest := drain fuel (m.readFrame frameSamples).2
      (m :: rest.1, rest.2)
    else ([], m)

end Mixer

/-- A packet of a track, decoded if it can be. -/
structure AudioPacket where
  trackCid : String
  decoded : Option (List Int16)
  /-- When it is handled. -/
  now : Nat

/-- **A recording**: the mixer, and the mixers that the frames so far were read from. -/
structure Recording where
  mixer : Mixer
  read : List Mixer

namespace Recording

/-- A recording begins. -/
def new : Recording := ⟨.new, []⟩

/-- **The loop of `run_recording`**, for one packet. -/
def packet (r : Recording) (p : AudioPacket) : Recording :=
  match p.decoded with
  | none => r
  | some pcm =>
    let m := (r.mixer.push p.trackCid pcm p.now).pruneStale p.now
    let drained := m.drain m.available
    ⟨drained.2, r.read ++ drained.1⟩

/-- **The frames of the file.** -/
def frames (r : Recording) : List (List Int16) := r.read.map fun m => (m.readFrame frameSamples).1

/-- The samples of a track that are in the file. -/
def taken (r : Recording) (cid : String) : List Int16 :=
  r.read.flatMap fun m => (m.queue cid).take frameSamples

end Recording

variable (ps : List AudioPacket)

/-- **`run_recording`**, until the end of the stream: what is waiting then is left out. -/
def record : Recording := ps.foldl Recording.packet .new

theorem record_concat (p : AudioPacket) : record (ps ++ [p]) = (record ps).packet p :=
  foldl_concat ..

/-- No packet finds a track that has been silent for too long. -/
def Unpruned : Prop :=
  ∀ qs p pcm, qs ++ [p] <+: ps → p.decoded = some pcm →
    ∀ c ∈ ((record qs).mixer.push p.trackCid pcm p.now).ids,
      ((record qs).mixer.push p.trackCid pcm p.now).stale p.now c = false

/-- The samples that came in for a track. -/
def pushed (cid : String) (ps : List AudioPacket) : List Int16 :=
  ps.flatMap fun p => if p.trackCid = cid then p.decoded.getD [] else []

/-- The number of samples of a packet. -/
def AudioPacket.samples (p : AudioPacket) : Nat := (p.decoded.getD []).length

/-- What waits after a packet, by the lengths alone: if it makes frames with what waits of its
track, these take everything that waits of the others. -/
def AudioPacket.leaves (w : String → Nat) (p : AudioPacket) (c : String) : Nat :=
  let total := w p.trackCid + p.samples
  if c = p.trackCid then total % frameSamples else if total < frameSamples then w c else 0

/-- **How many samples of a track wait** after packets of these lengths. -/
def waiting : String → Nat := ps.foldl AudioPacket.leaves fun _ => 0

/-! ## What is read and what is left -/

namespace Mixer

variable {m : Mixer} {n : Nat}

theorem available_le_iff : m.available ≤ n ↔ ∀ c, (m.queue c).length ≤ n := by
  have hids : m.available ≤ n ↔ ∀ c ∈ m.ids, (m.queue c).length ≤ n := by
    unfold available
    cases hmax : (m.ids.map fun c => (m.queue c).length).max? with
    | none => simp [map_eq_nil_iff.mp (List.max?_eq_none_iff.mp hmax)]
    | some a => simpa using List.max?_le_iff hmax
  refine hids.trans ⟨fun h c => ?_, fun h c _ => h c⟩
  by_cases hc : c ∈ m.ids
  · exact h c hc
  · simp [m.queue_absent c hc]

/-- **Draining** loses nothing, keeps the tracks and leaves less than a frame. -/
theorem drain_spec (fuel : Nat) (m : Mixer) :
    (m.drain fuel).2.ids = m.ids ∧
      (∀ c, ((m.drain fuel).1.flatMap fun m => (m.queue c).take frameSamples) ++
        (m.drain fuel).2.queue c = m.queue c) ∧
      (m.available ≤ fuel → (m.drain fuel).2.available < frameSamples) := by
  induction fuel generalizing m with
  | zero => exact ⟨rfl, fun c => rfl, fun h => Nat.lt_of_le_of_lt h (by decide)⟩
  | succ fuel ih =>
    unfold drain
    split
    · next havail =>
      obtain ⟨hids, hqueue, hleft⟩ := ih (m.readFrame frameSamples).2
      refine ⟨hids, fun c => ?_, fun h => hleft ?_⟩
      · rw [flatMap_cons, append_assoc, hqueue c]
        exact take_append_drop ..
      · refine available_le_iff.mpr fun c => ?_
        have hc := available_le_iff.mp h c
        rw [show ((m.readFrame frameSamples).2.queue c).length =
          (m.queue c).length - frameSamples from length_drop, frameSamples]
        omega
    · next havail => exact ⟨rfl, fun c => rfl, fun _ => not_le.mp havail⟩

/-- **What draining leaves** if only one queue may hold a frame: the rest of that queue, and of the
others everything or nothing. -/
theorem length_drain (cid : String) {fuel : Nat}
    (hothers : ∀ c ≠ cid, (m.queue c).length < frameSamples) (hfuel : m.available ≤ fuel)
    (c : String) :
    ((m.drain fuel).2.queue c).length =
      if c = cid then (m.queue cid).length % frameSamples
      else if (m.queue cid).length < frameSamples then (m.queue c).length else 0 := by
  induction fuel generalizing m with
  | zero =>
    have hempty := available_le_iff.mp hfuel
    simp only [drain, Nat.le_zero.mp (hempty c), Nat.le_zero.mp (hempty cid), Nat.zero_mod,
      ite_self]
  | succ fuel ih =>
    unfold drain
    split
    · next havail =>
      have hlong : frameSamples ≤ (m.queue cid).length := by
        by_contra hshort
        have hle : m.available ≤ 959 := available_le_iff.mpr fun c => by
          by_cases hc : c = cid
          · exact hc ▸ Nat.le_of_lt_succ (not_le.mp hshort)
          · exact Nat.le_of_lt_succ (hothers c hc)
        exact absurd (havail.trans hle) (by decide)
      have hdrop : ∀ c, ((m.readFrame frameSamples).2.queue c).length =
          (m.queue c).length - frameSamples := fun c => length_drop
      have hnext := ih (m := (m.readFrame frameSamples).2)
        (fun c hc => by rw [hdrop]; exact Nat.lt_of_le_of_lt (Nat.sub_le _ _) (hothers c hc))
        (available_le_iff.mpr fun c => by
          have hle := available_le_iff.mp hfuel c
          rw [hdrop, frameSamples]
          omega)
      rw [hnext, hdrop, hdrop, ← Nat.mod_eq_sub_mod hlong, if_neg (not_lt.mpr hlong)]
      split
      · rfl
      · next hc => rw [Nat.sub_eq_zero_of_le (hothers c hc).le, ite_self]
    · next havail =>
      have hshort := fun c => (available_le_iff.mp le_rfl c).trans_lt (not_le.mp havail)
      rw [Nat.mod_eq_of_lt (hshort cid), if_pos (hshort cid)]
      split
      · next hc => rw [hc]
      · rfl

/-- The sample of a frame: those of the tracks at its place, added up one after another. -/
def mixedAt (m : Mixer) (i : Nat) : Int16 :=
  m.ids.foldl (fun slot c => mixSample m.count slot ((m.queue c)[i]?.getD 0)) 0

theorem getElem?_mixInto (count : Int) (frame q : List Int16) (i : Nat) :
    (mixInto count frame q)[i]? =
      frame[i]?.map fun slot => mixSample count slot (q[i]?.getD 0) := by
  induction frame generalizing q i with
  | nil => simp [mixInto]
  | cons slot frame ih =>
    cases i with
    | zero => cases q <;> simp [mixInto]
    | succ i => cases q <;> simp [mixInto, ih]

/-- **Each sample of a frame** is mixed from one sample of each queue. -/
theorem readFrame_eq (m : Mixer) (len : Nat) :
    (m.readFrame len).1 = (List.range len).map m.mixedAt := by
  have hfold : ∀ (ids : List String) (frame : List Int16) (i : Nat),
      (ids.foldl (fun frame c => mixInto m.count frame (m.queue c)) frame)[i]? =
        frame[i]?.map fun slot =>
          ids.foldl (fun slot c => mixSample m.count slot ((m.queue c)[i]?.getD 0)) slot := by
    intro ids
    induction ids with
    | nil => simp
    | cons c ids ih =>
      intro frame i
      rw [foldl_cons, ih, getElem?_mixInto, Option.map_map]
      rfl
  refine ext_getElem? fun i => ?_
  rw [readFrame, hfold, List.getElem?_replicate, List.getElem?_map]
  by_cases hi : i < len
  · simp [hi, mixedAt]
  · simp [hi]

/-! ## A frame is not clipped -/

/-- The shares of some tracks in a sample, added up in their order. -/
def shareSum (m : Mixer) (ids : List String) (i : Nat) : Int :=
  ids.foldl (fun sum c => sum + ((m.queue c)[i]?.getD 0).toInt.tdiv m.ids.length) 0

theorem shareSum_concat (m : Mixer) (ids : List String) (c : String) (i : Nat) :
    m.shareSum (ids ++ [c]) i =
      m.shareSum ids i + ((m.queue c)[i]?.getD 0).toInt.tdiv m.ids.length :=
  foldl_concat ..

theorem share_bounds {n : Int} (hn : 0 < n) (s : Int16) :
    -(32768 / n) ≤ s.toInt.tdiv n ∧ s.toInt.tdiv n ≤ 32767 / n := by
  have hs := s.toInt_lt
  have hlow := Int.tdiv_le_tdiv hn s.le_toInt
  have hhigh : s.toInt.tdiv n ≤ Int.tdiv 32767 n := Int.tdiv_le_tdiv hn (by omega)
  rw [show (-2 ^ 15 : Int) = -32768 from rfl, Int.neg_tdiv,
    Int.tdiv_eq_ediv_of_nonneg (by decide)] at hlow
  rw [show Int.tdiv 32767 n = 32767 / n from Int.tdiv_eq_ediv_of_nonneg (by decide)] at hhigh
  exact ⟨hlow, hhigh⟩

/-- **No partial sum leaves the range of `i16`**: it has at most as many shares as there are
tracks. -/
theorem shareSum_bounds {ids : List String} (hn : 1 ≤ m.ids.length)
    (hlen : ids.length ≤ m.ids.length) (i : Nat) :
    -32768 ≤ m.shareSum ids i ∧ m.shareSum ids i ≤ 32767 := by
  have hpos : (0 : Int) < m.ids.length := by omega
  have hsum : -(ids.length * (32768 / (m.ids.length : Int))) ≤ m.shareSum ids i ∧
      m.shareSum ids i ≤ ids.length * (32767 / (m.ids.length : Int)) := by
    clear hlen
    induction ids using List.reverseRecOn with
    | nil => simp [shareSum]
    | append_singleton ids c ih =>
      have hshare := share_bounds hpos ((m.queue c)[i]?.getD 0)
      rw [shareSum_concat, length_append, length_singleton, Int.natCast_add, Int.add_mul,
        Int.add_mul]
      omega
  -- as many shares of the loudest sample as there are tracks are at most this sample
  have hall (a : Int) (ha : 0 ≤ a) : ids.length * (a / m.ids.length) ≤ a :=
    Int.le_trans (Int.mul_le_mul_of_nonneg_right (by omega) (Int.ediv_nonneg ha (by omega)))
      (Int.mul_ediv_self_le (by omega))
  have hlow := hall 32768 (by decide)
  have hhigh := hall 32767 (by decide)
  omega

/-- **A sample is the sum of the shares.** -/
theorem toInt_mixedAt (hn : 1 ≤ m.ids.length) (hn' : m.ids.length < 2 ^ 31) (i : Nat) :
    (m.mixedAt i).toInt = m.shareSum m.ids i := by
  have hcount : m.count = m.ids.length := by
    rw [count, Int.max_eq_left (by omega), Int.bmod_eq_of_le (by omega) (by omega)]
  have hfold : ∀ ids : List String, ids.length ≤ m.ids.length →
      (ids.foldl (fun slot c => mixSample m.count slot ((m.queue c)[i]?.getD 0)) 0).toInt =
        m.shareSum ids i := by
    intro ids hlen
    induction ids using List.reverseRecOn with
    | nil => rfl
    | append_singleton ids c ih =>
      have hrange := shareSum_bounds hn hlen i
      rw [length_append] at hlen
      have hslot := ih (Nat.le_of_add_right_le hlen)
      rw [shareSum_concat, ← hslot] at hrange
      rw [foldl_concat, shareSum_concat, ← hslot, hcount] at *
      -- in the range nothing is cut off
      rw [mixSample, Int.min_eq_right hrange.2, Int.max_eq_right hrange.1]
      exact Int16.toInt_ofInt_of_le (by simpa using hrange.1)
        (by simpa using Int.lt_add_one_of_le hrange.2)
  exact hfold m.ids le_rfl

/-- **Mixing does not clip and does not depend on the order of the tracks.** Each sample of a frame
is the sum of the shares of the tracks, no partial sum leaves the range of `i16`, another order of
the tracks gives the same frame, and each queue loses the frame from its front. -/
theorem mixing_unclipped (m : Mixer) (len : Nat) (hn : 1 ≤ m.ids.length)
    (hn' : m.ids.length < 2 ^ 31) :
    (m.readFrame len).1.map Int16.toInt = (List.range len).map (m.shareSum m.ids) ∧
    (∀ ids, ids <+: m.ids → ∀ i, -32768 ≤ m.shareSum ids i ∧ m.shareSum ids i ≤ 32767) ∧
    (∀ m' : Mixer, m'.ids.Perm m.ids → m'.queue = m.queue →
      (m'.readFrame len).1 = (m.readFrame len).1 ∧
        (m'.readFrame len).2.queue = (m.readFrame len).2.queue) ∧
    ∀ c, (m.queue c).take len ++ (m.readFrame len).2.queue c = m.queue c ∧
      ((m.readFrame len).2.queue c).length = (m.queue c).length - min (m.queue c).length len := by
  refine ⟨?_, fun ids hids => shareSum_bounds hn hids.length_le, fun m' hids hqueue => ?_,
    fun c => ⟨take_append_drop .., ?_⟩⟩
  · rw [readFrame_eq, map_map]
    exact map_congr_left fun i _ => toInt_mixedAt hn hn' i
  · have hlen := hids.length_eq
    have hshares (i : Nat) : m'.shareSum m'.ids i = m.shareSum m.ids i := by
      unfold shareSum
      rw [hlen, hqueue]
      exact hids.foldl_eq' (fun _ _ _ _ _ => Int.add_right_comm ..) 0
    refine ⟨?_, by simp [readFrame, hqueue]⟩
    rw [readFrame_eq, readFrame_eq]
    refine map_congr_left fun i _ => Int16.toInt_inj.mp ?_
    rw [toInt_mixedAt (by omega) (by omega), toInt_mixedAt hn hn', hshares]
  · show ((m.queue c).drop len).length = _
    rw [length_drop]
    omega

/-- The loudest samples of two tracks reach the end of the range. -/
theorem mixing_unclipped_extreme :
    (((new.push "a" [-32768, 5] 0).push "b" [-32768] 0).readFrame 2).1.map Int16.toInt =
      [-32768, 2] :=
  (mixing_unclipped ((new.push "a" [-32768, 5] 0).push "b" [-32768] 0) 2 (by decide)
    (by decide)).1.trans (by decide)

end Mixer

/-! ## No sample is lost, but at the end -/

variable {ps : List AudioPacket} {p : AudioPacket} {pcm : List Int16} {cid : String}

theorem Unpruned.left {qs : List AudioPacket} (h : Unpruned (ps ++ qs)) : Unpruned ps :=
  fun rs p pcm hrs => h rs p pcm (hrs.trans (prefix_append ps qs))

theorem unpruned_of_short (h : ∀ p ∈ ps, p.now ≤ silentTrackTimeout) : Unpruned ps := by
  intro qs p pcm hqs _ c _
  have hp := h p (hqs.mem (by simp))
  simp only [Mixer.stale, decide_eq_false_iff_not]
  omega

/-- **The mixer that is drained** after the last packet. -/
theorem Unpruned.drained (h : Unpruned (ps ++ [p])) (hp : p.decoded = some pcm) :
    let m := ((record ps).mixer.push p.trackCid pcm p.now).pruneStale p.now
    m.ids = ((record ps).mixer.push p.trackCid pcm p.now).ids ∧
      m.queue = Function.update (record ps).mixer.queue p.trackCid
        ((record ps).mixer.queue p.trackCid ++ pcm) ∧
      record (ps ++ [p]) =
        ⟨(m.drain m.available).2, (record ps).read ++ (m.drain m.available).1⟩ := by
  -- pruning does nothing if no track is stale
  have hfresh := h ps p pcm (prefix_refl _) hp
  generalize hm : (record ps).mixer.push p.trackCid pcm p.now = m at hfresh
  have hqueue : m.queue = _ := congrArg Mixer.queue hm.symm
  refine ⟨filter_eq_self.mpr fun c hc => by simp [hfresh c hc],
    Eq.trans (funext fun c => ?_) hqueue, ?_⟩
  · by_cases hc : c ∈ m.ids
    · simp [Mixer.pruneStale, hfresh c hc]
    · simp [Mixer.pruneStale, m.queue_absent c hc]
  subst hm
  rw [record_concat, Recording.packet, hp]

theorem pushed_concat (hp : p.decoded = some pcm) :
    pushed cid (ps ++ [p]) = pushed cid ps ++ if p.trackCid = cid then pcm else [] := by
  simp [pushed, hp]

/-- **What is in the file and what is waiting** is what came in, and less than a frame waits. -/
theorem taken_append_queue (h : Unpruned ps) (cid : String) :
    (record ps).taken cid ++ (record ps).mixer.queue cid = pushed cid ps ∧
      ((record ps).mixer.queue cid).length < frameSamples := by
  induction ps using List.reverseRecOn with
  | nil => exact ⟨rfl, Nat.zero_lt_succ _⟩
  | append_singleton ps p ih =>
    obtain ⟨hall, hshort⟩ := ih h.left
    cases hp : p.decoded with
    | none =>
      rw [record_concat, Recording.packet, hp]
      exact ⟨by simpa [pushed, hp] using hall, hshort⟩
    | some pcm =>
      obtain ⟨-, hqueue, hrecord⟩ := h.drained hp
      obtain ⟨-, hdrain, hleft⟩ := Mixer.drain_spec
        (((record ps).mixer.push p.trackCid pcm p.now).pruneStale p.now).available
        (((record ps).mixer.push p.trackCid pcm p.now).pruneStale p.now)
      rw [hrecord, pushed_concat hp, ← hall]
      constructor
      · rw [Recording.taken, flatMap_append, append_assoc, hdrain cid, hqueue,
          Function.update_apply]
        by_cases hc : p.trackCid = cid
        · simp [hc, Recording.taken]
        · simp [hc, Ne.symm hc, Recording.taken]
      · exact (Mixer.available_le_iff.mp le_rfl cid).trans_lt (hleft le_rfl)

/-- A packet without samples changes nothing. -/
theorem leaves_of_samples_eq_zero {w : String → Nat} (hw : ∀ c, w c < frameSamples)
    (hp : p.samples = 0) : p.leaves w = w := by
  funext c
  rw [AudioPacket.leaves, hp, Nat.add_zero, Nat.mod_eq_of_lt (hw _), if_pos (hw _)]
  split
  · next hc => rw [hc]
  · rfl

/-- **What waits is counted by the lengths of the packets.** -/
theorem length_queue (h : Unpruned ps) (cid : String) :
    ((record ps).mixer.queue cid).length = waiting ps cid := by
  induction ps using List.reverseRecOn generalizing cid with
  | nil => rfl
  | append_singleton ps p ih =>
    have hold := ih h.left
    have hshort : ∀ c, waiting ps c < frameSamples := fun c =>
      hold c ▸ (taken_append_queue h.left c).2
    rw [waiting, foldl_concat, ← waiting]
    cases hp : p.decoded with
    | none =>
      rw [record_concat, Recording.packet, hp, hold,
        leaves_of_samples_eq_zero hshort (by simp [AudioPacket.samples, hp])]
    | some pcm =>
      obtain ⟨-, hqueue, hrecord⟩ := h.drained hp
      have hsamples : p.samples = pcm.length := by simp [AudioPacket.samples, hp]
      rw [hrecord, Mixer.length_drain p.trackCid (fun c hc => ?_) le_rfl, hqueue,
        Function.update_self, length_append, hold, ← hsamples, AudioPacket.leaves]
      · split
        · rfl
        · next hc => rw [Function.update_of_ne hc, hold]
      · rw [hqueue, Function.update_of_ne hc, hold]
        exact hshort c

/-- **The last packet with samples** decides what waits at the end. -/
theorem waiting_eq_zero_iff {qs rest : List AudioPacket} (hps : ps = qs ++ p :: rest)
    (h : Unpruned ps) (hp : p.samples ≠ 0) (hrest : ∀ q ∈ rest, q.samples = 0) :
    (∀ cid, waiting ps cid = 0) ↔ frameSamples ∣ waiting qs p.trackCid + p.samples := by
  subst hps
  have hqs : ∀ c, waiting qs c < frameSamples := fun c =>
    length_queue h.left c ▸ (taken_append_queue h.left c).2
  have hshort : ∀ c, p.leaves (waiting qs) c < frameSamples := by
    intro c
    rw [AudioPacket.leaves]
    split
    · exact Nat.mod_lt _ (by decide)
    · split
      · exact hqs c
      · decide
  have hlast : waiting (qs ++ p :: rest) = p.leaves (waiting qs) := by
    rw [waiting, foldl_append, foldl_cons, ← waiting]
    clear h
    induction rest with
    | nil => rfl
    | cons q rest ih =>
      obtain ⟨hq, hrest⟩ := forall_mem_cons.mp hrest
      rw [foldl_cons, leaves_of_samples_eq_zero hshort hq, ih hrest]
  rw [hlast]
  constructor
  · intro hnone
    have hself := hnone p.trackCid
    rw [AudioPacket.leaves, if_pos rfl] at hself
    exact Nat.dvd_of_mod_eq_zero hself
  · intro hdvd c
    have hlong : ¬ waiting qs p.trackCid + p.samples < frameSamples := by
      exact not_lt.mpr (Nat.le_of_dvd (by omega) hdvd)
    rw [AudioPacket.leaves, Nat.mod_eq_zero_of_dvd hdvd, if_neg hlong, ite_self]

/-- **When no sample is lost.** Each sample of a frame is mixed from the samples at its place in the
queues, and these samples are in the order in which they came; less than a frame of each track waits
at the end of the stream, and is lost. How much waits is counted by the lengths of the packets;
nothing does exactly if the last packet with samples makes whole frames with what waits of its
track. -/
theorem conserved_iff (ps : List AudioPacket) (h : Unpruned ps) :
    (∀ m ∈ (record ps).read, ∀ i < frameSamples,
      (m.readFrame frameSamples).1[i]? = some (m.mixedAt i)) ∧
    (∀ cid, (record ps).taken cid ++ (record ps).mixer.queue cid = pushed cid ps ∧
      ((record ps).mixer.queue cid).length < frameSamples) ∧
    ((∀ cid, (record ps).taken cid = pushed cid ps) ↔ ∀ cid, (record ps).mixer.queue cid = []) ∧
    (∀ cid, ((record ps).mixer.queue cid).length = waiting ps cid) ∧
    ∀ qs p rest, ps = qs ++ p :: rest → p.samples ≠ 0 → (∀ q ∈ rest, q.samples = 0) →
      ((∀ cid, (record ps).taken cid = pushed cid ps) ↔
        frameSamples ∣ waiting qs p.trackCid + p.samples) := by
  have hiff : (∀ cid, (record ps).taken cid = pushed cid ps) ↔
      ∀ cid, (record ps).mixer.queue cid = [] := by
    refine forall_congr' fun cid => ?_
    rw [← (taken_append_queue h cid).1]
    exact self_eq_append_right
  refine ⟨fun m _ i hi => by simp [m.readFrame_eq, hi], taken_append_queue h, hiff, length_queue h,
    fun qs p rest hps hp hrest => ?_⟩
  rw [hiff, ← waiting_eq_zero_iff hps h hp hrest]
  exact forall_congr' fun cid => by rw [← length_queue h, length_eq_zero_iff]

/-- A packet of one frame. -/
def tone (cid : String) (s : Int16) : AudioPacket := ⟨cid, some (List.replicate frameSamples s), 0⟩

/-- A packet of this length. -/
def packetOf (cid : String) (length : Nat) : AudioPacket := ⟨cid, some (List.replicate length 7), 0⟩

/-- Two tracks, whose packets are no whole frames. -/
def unevenPackets : List AudioPacket :=
  [packetOf "a" 700, packetOf "b" 500, packetOf "a" 260, packetOf "a" 321, packetOf "b" 959,
    packetOf "b" 961]

theorem conserved_uneven :
    Unpruned unevenPackets ∧
      ∀ cid, (record unevenPackets).taken cid = pushed cid unevenPackets := by
  have h : Unpruned unevenPackets := unpruned_of_short (by decide)
  exact ⟨h, ((conserved_iff _ h).2.2.2.2 (unevenPackets.take 5) (packetOf "b" 961) [] rfl
    (by decide +kernel) (by simp)).mpr (by decide +kernel)⟩

/-- **A packet of less than a frame is not in the file.** -/
theorem tail_lost :
    Unpruned [⟨"a", some [1, 2], 0⟩] ∧ (record [⟨"a", some [1, 2], 0⟩]).frames = [] ∧
      pushed "a" [⟨"a", some [1, 2], 0⟩] = [1, 2] :=
  ⟨unpruned_of_short (by decide), by decide +kernel, by decide +kernel⟩

/-! ## Packets of one frame -/

/-- **A packet of one frame** with nothing waiting is a frame of the file, and nothing waits. -/
theorem packet_full (h : Unpruned (ps ++ [p])) (hp : p.decoded = some pcm)
    (hlen : pcm.length = frameSamples) (hempty : ∀ c, (record ps).mixer.queue c = []) :
    let m := ((record ps).mixer.push p.trackCid pcm p.now).pruneStale p.now
    record (ps ++ [p]) = ⟨(m.readFrame frameSamples).2, (record ps).read ++ [m]⟩ ∧
      ∀ c, (record (ps ++ [p])).mixer.queue c = [] := by
  intro m
  obtain ⟨-, hqueue, hrecord⟩ := h.drained hp
  have hall : ∀ c, (m.queue c).length ≤ frameSamples := by
    intro c
    rw [hqueue, Function.update_apply]
    split <;> simp [hempty, hlen]
  have havail : m.available = frameSamples := by
    refine le_antisymm (Mixer.available_le_iff.mpr hall) ?_
    have hle := Mixer.available_le_iff.mp (le_refl m.available) p.trackCid
    rw [hqueue, Function.update_self, hempty, nil_append, hlen] at hle
    exact hle
  have hnone : ∀ c, (m.readFrame frameSamples).2.queue c = [] := fun c =>
    drop_eq_nil_of_le (hall c)
  have hstop : ¬ frameSamples ≤ (m.readFrame frameSamples).2.available := by
    have : (m.readFrame frameSamples).2.available ≤ 0 :=
      Mixer.available_le_iff.mpr fun c => by simp [hnone c]
    unfold frameSamples at *
    omega
  have hdrain : m.drain m.available = ([m], (m.readFrame frameSamples).2) := by
    rw [show m.available = 958 + 1 + 1 from havail, Mixer.drain, if_pos havail.ge, Mixer.drain,
      if_neg hstop]
  rw [hrecord, hdrain]
  exact ⟨rfl, hnone⟩

/-- **Rounds**: in each of them every track has one packet of one frame, in any order, and no track
is silent for too long. -/
structure Rounds (tracks : List String) (rounds : List (List AudioPacket)) : Prop where
  each : ∀ round ∈ rounds, (round.map AudioPacket.trackCid).Perm tracks
  full : ∀ round ∈ rounds, ∀ p ∈ round,
    ∃ pcm, p.decoded = some pcm ∧ pcm.length = frameSamples
  unpruned : Unpruned rounds.flatten

/-- The average of the packets of a round, sample by sample. -/
def averageFrame (round : List AudioPacket) : List Int :=
  (List.range frameSamples).map fun i =>
    let sum := round.foldl (fun (sum : Int) p => sum + ((p.decoded.getD [])[i]?.getD 0).toInt) 0
    sum.tdiv round.length

theorem length_frames_of_full (h : Unpruned ps)
    (hfull : ∀ p ∈ ps, ∃ pcm, p.decoded = some pcm ∧ pcm.length = frameSamples) :
    (record ps).frames.length = ps.length ∧ ∀ c, (record ps).mixer.queue c = [] := by
  induction ps using List.reverseRecOn with
  | nil => exact ⟨rfl, fun _ => rfl⟩
  | append_singleton ps p ih =>
    obtain ⟨hlength, hempty⟩ := ih h.left fun q hq => hfull q (mem_append_left _ hq)
    obtain ⟨pcm, hp, hlen⟩ := hfull p (by simp)
    obtain ⟨hrecord, hempty'⟩ := packet_full h hp hlen hempty
    refine ⟨?_, hempty'⟩
    rw [hrecord]
    simpa [Recording.frames] using hlength

theorem Mixer.mixSample_one (s : Int16) : mixSample 1 0 s = s := by
  have hlo := s.le_toInt
  have hhi := s.toInt_lt
  rw [mixSample, Int.tdiv_one, Int16.toInt_zero, Int.zero_add, Int.min_eq_right (by omega),
    Int.max_eq_right (by omega), Int16.ofInt_toInt]

theorem Mixer.readFrame_single {m : Mixer} (hids : m.ids = [cid])
    (hlen : (m.queue cid).length = frameSamples) :
    (m.readFrame frameSamples).1 = m.queue cid := by
  have hsilence : ∀ pcm, mixInto 1 (List.replicate pcm.length 0) pcm = pcm := by
    intro pcm
    induction pcm with
    | nil => rfl
    | cons s pcm ih => exact congrArg₂ List.cons (mixSample_one s) ih
  have hcount : m.count = 1 := by rw [count, hids]; rfl
  change m.ids.foldl (fun frame c => mixInto m.count frame (m.queue c)) _ = _
  rw [hids, hcount, ← hlen]
  exact hsilence _

/-- **The packets of a single track** are the frames. -/
theorem frames_of_single (h : Unpruned ps) (hcid : ∀ p ∈ ps, p.trackCid = cid)
    (hfull : ∀ p ∈ ps, ∃ pcm, p.decoded = some pcm ∧ pcm.length = frameSamples) :
    (record ps).frames = ps.map (fun p => p.decoded.getD []) ∧
      ((record ps).mixer.ids = [] ∨ (record ps).mixer.ids = [cid]) := by
  induction ps using List.reverseRecOn with
  | nil => exact ⟨rfl, .inl rfl⟩
  | append_singleton ps p ih =>
    have hfull' : ∀ q ∈ ps, _ := fun q hq => hfull q (mem_append_left _ hq)
    obtain ⟨hframes, hids⟩ := ih h.left (fun q hq => hcid q (mem_append_left _ hq)) hfull'
    obtain ⟨-, hempty⟩ := length_frames_of_full h.left hfull'
    obtain ⟨pcm, hp, hlen⟩ := hfull p (by simp)
    obtain rfl := hcid p (by simp)
    obtain ⟨hids', hqueue, -⟩ := h.drained hp
    obtain ⟨hrecord, -⟩ := packet_full h hp hlen hempty
    have hone : ((record ps).mixer.push p.trackCid pcm p.now).ids = [p.trackCid] := by
      rcases hids with hids | hids <;> simp [Mixer.push, hids]
    have hpcm : (((record ps).mixer.push p.trackCid pcm p.now).pruneStale p.now).queue p.trackCid =
        pcm := by
      rw [hqueue, Function.update_self, hempty, nil_append]
    rw [hone] at hids'
    rw [hrecord]
    refine ⟨?_, .inr hids'⟩
    rw [Recording.frames, map_append, map_singleton,
      Mixer.readFrame_single hids' (by rw [hpcm, hlen]), hpcm, map_append, ← hframes]
    simp [Recording.frames, hp]

/-- **When packets of the same time are mixed.** Every packet becomes a frame of its own, so the
file has a frame for each track in each round; it has the average of each round exactly if there is
one track. -/
theorem mixed_iff {tracks : List String} {rounds : List (List AudioPacket)}
    (h : Rounds tracks rounds) (htracks : 1 ≤ tracks.length) (hrounds : 1 ≤ rounds.length) :
    (record rounds.flatten).frames.length = rounds.length * tracks.length ∧
      ((record rounds.flatten).frames.map (List.map Int16.toInt) = rounds.map averageFrame ↔
        tracks.length = 1) := by
  have hfull : ∀ p ∈ rounds.flatten, ∃ pcm, p.decoded = some pcm ∧ pcm.length = frameSamples := by
    intro p hp
    obtain ⟨round, hround, hp⟩ := mem_flatten.mp hp
    exact h.full round hround p hp
  have hlength : rounds.flatten.length = rounds.length * tracks.length := by
    have : rounds.map List.length = List.replicate rounds.length tracks.length :=
      eq_replicate_iff.mpr ⟨by simp, fun n hn => by
        obtain ⟨round, hround, rfl⟩ := mem_map.mp hn
        simpa using (h.each round hround).length_eq⟩
    rw [length_flatten, this]
    simp
  have hframes := (length_frames_of_full h.unpruned hfull).1.trans hlength
  refine ⟨hframes, fun heq => ?_, fun hone => ?_⟩
  · have hcount := congrArg List.length heq
    rw [length_map, length_map, hframes] at hcount
    exact (Nat.mul_eq_left (by omega)).mp hcount
  · obtain ⟨cid, rfl⟩ := length_eq_one_iff.mp hone
    have hsingle : ∀ round ∈ rounds, ∃ p pcm, round = [p] ∧ p.trackCid = cid ∧
        p.decoded = some pcm ∧ pcm.length = frameSamples := by
      intro round hround
      obtain ⟨p, rfl, hcid⟩ := map_eq_singleton_iff.mp
        (perm_singleton.mp (h.each round hround))
      obtain ⟨pcm, hp, hlen⟩ := h.full _ hround p (mem_singleton_self p)
      exact ⟨p, pcm, rfl, hcid, hp, hlen⟩
    have hcids : ∀ p ∈ rounds.flatten, p.trackCid = cid := by
      intro p hp
      obtain ⟨round, hround, hp⟩ := mem_flatten.mp hp
      obtain ⟨q, pcm, rfl, hcid, -⟩ := hsingle round hround
      rwa [mem_singleton.mp hp]
    rw [(frames_of_single h.unpruned hcids hfull).1, map_map]
    clear h hframes hlength hfull hrounds hcids
    induction rounds with
    | nil => rfl
    | cons round rounds ih =>
      obtain ⟨p, pcm, rfl, -, hp, hlen⟩ := hsingle round mem_cons_self
      rw [flatten_cons, map_append, ih fun r hr => hsingle r (.tail _ hr)]
      have haverage : averageFrame [p] = pcm.map Int16.toInt := by
        refine ext_getElem (by simp [averageFrame, hlen]) fun i hi hi' => ?_
        rw [length_map] at hi'
        simp [averageFrame, hp, List.getElem?_eq_getElem hi']
      simp [haverage, hp]

/-- Three rounds of two tracks. -/
def duet : List (List AudioPacket) :=
  [[tone "a" 100, tone "b" 50], [tone "b" 7, tone "a" 3], [tone "a" 1, tone "b" 2]]

/-- Three rounds of one track. -/
def solo : List (List AudioPacket) := [[tone "a" 100], [tone "a" 3], [tone "a" 1]]

/-- The file of a duet has six frames, and not the averages; that of a solo has them. -/
theorem mixed_rounds :
    ((record duet.flatten).frames.length = 3 * 2 ∧
      (record duet.flatten).frames.map (List.map Int16.toInt) ≠ duet.map averageFrame) ∧
    (record solo.flatten).frames.map (List.map Int16.toInt) = solo.map averageFrame := by
  have hduet : Rounds ["a", "b"] duet :=
    ⟨by decide, by simp [duet, tone], unpruned_of_short (by decide)⟩
  have hsolo : Rounds ["a"] solo :=
    ⟨by decide, by simp [solo, tone], unpruned_of_short (by decide)⟩
  obtain ⟨hlength, hiff⟩ := mixed_iff hduet (by decide) (by decide)
  exact ⟨⟨hlength, fun heq => absurd (hiff.mp heq) (by decide)⟩,
    (mixed_iff hsolo (by decide) (by decide)).2.mpr rfl⟩

/-- **Two tracks that play at the same time** are recorded one after the other: a round has two
frames. -/
theorem not_mixed :
    Rounds ["a", "b"] [[tone "a" 100, tone "b" 50]] ∧
      (record [[tone "a" 100, tone "b" 50]].flatten).frames.length = 2 := by
  have h : Rounds ["a", "b"] [[tone "a" 100, tone "b" 50]] :=
    ⟨by simp [tone], by simp [tone], unpruned_of_short (by decide)⟩
  exact ⟨h, (length_frames_of_full h.unpruned (by simp [tone])).1⟩

end LivekitVoice
