import Mathlib.Algebra.Order.Archimedean.Basic
import Mathlib.Data.Rat.Floor
import Mathlib.Order.Interval.Finset.Nat
import Mathlib.Tactic.Linarith
import Mathlib.Tactic.Ring

/-! # Loss, jitter and round-trip times

For every published track the server counts packets by their 16-bit sequence numbers against the
highest one so far, and smooths how far the time between two packets is from the time between their
timestamps. From the receiver reports of a subscriber it computes round-trip times. Numbers that the
source holds as `f64` are exact here.

* **`Tallied.observe`** — what a packet does to the counts, by its sequence number without wrapping,
* **`loss_exact`**, **`expected_exact_iff`** — the lost packets, and the expected ones,
* **`jitter_bounded_iff`** — when the jitter is within the bound of the timing errors,
* **`roundTrip_close_iff`** — when the round-trip time is right to a second,
* **`counters_exact`** — what the counters of lost and late packets show. -/

namespace LivekitVoice.Media

open List

/-! ## The statistics of a track -/

/-- **What is counted of a track.** -/
structure RtpStats where
  packets : Nat := 0
  expected : Nat := 0
  lost : Nat := 0
  outOfOrder : Nat := 0
  /-- In units of the clock of Opus, 48 to a millisecond. -/
  jitterTs : Rat := 0
  maxSeq : Option UInt16 := none
  lastRtpTs : Option UInt32 := none
  lastArrivalMs : Option Int := none

namespace RtpStats

variable (st : RtpStats)

/-- A sequence number against the high-water mark. -/
def countSeq (seq : UInt16) : RtpStats :=
  match st.maxSeq with
  | none => { st with maxSeq := some seq, expected := 1 }
  | some max =>
    let behind := max - seq
    if 0 < behind ∧ behind < 32768 then
      { st with
        outOfOrder := st.outOfOrder + 1
        expected := st.expected + 1
        lost := if 0 < st.lost then st.lost - 1 else st.lost }
    else
      let gap := seq - max
      if 0 < gap ∧ gap < 32768 then
        { st with
          expected := st.expected + gap.toNat
          lost := st.lost + (gap.toNat - 1)
          maxSeq := some seq }
      else { st with expected := st.expected + 1 }

/-- The jitter after a packet, for the one before it. The difference of the timestamps is unsigned:
that of an earlier timestamp is almost `2 ^ 32`. -/
def nextJitter (rtpTs : UInt32) (arrivalMs : Int) : Rat :=
  match st.lastRtpTs, st.lastArrivalMs with
  | some prevTs, some prevArr =>
    let d : Int := (rtpTs - prevTs).toNat - (arrivalMs - prevArr) * 48
    st.jitterTs + (|(d : Rat)| - st.jitterTs) / 16
  | _, _ => st.jitterTs

/-- **`observe`**: a packet arrives. -/
def observe (seq : UInt16) (rtpTs : UInt32) (arrivalMs : Int) : RtpStats :=
  { ({ st with packets := st.packets + 1 } : RtpStats).countSeq seq with
    jitterTs := st.nextJitter rtpTs arrivalMs
    lastRtpTs := some rtpTs
    lastArrivalMs := some arrivalMs }

/-- The share of a count among the expected packets, in percent. -/
def percent (count : Nat) : Rat :=
  if 0 < st.expected then count / st.expected * 100 else 0

/-- `loss_percent`. -/
def lossPercent : Rat := st.percent st.lost

/-- `out_of_order_percent`. -/
def outOfOrderPercent : Rat := st.percent st.outOfOrder

/-- `jitter_us`. -/
def jitterUs : Rat := st.jitterTs / 48 * 1000000

/-- What `record_quality` takes for the jitter in milliseconds. -/
def jitterMs : Rat := st.jitterUs / 1000

end RtpStats

/-- `quality_score`, from 0 to 5. -/
def qualityScore (lossPct jitterMs : Rat) : Rat :=
  max 0 (min 5 (5 - 8 * (lossPct / 100) - jitterMs / 50))

/-- `quality_rating`: 0 is excellent, and 3 is lost. -/
def qualityRating (score : Rat) : Nat :=
  if score ≥ 4 then 0 else if score ≥ 3 then 1 else if score ≥ 3 / 2 then 2 else 3

/-- What is recorded of the quality of a track; a value that is not positive is left out. -/
structure QualityRecord where
  score : Rat
  rating : Nat
  lossPct : Option Rat
  oooPct : Option Rat
  jitterUs : Option Rat
  /-- The lost and late packets since the last record. -/
  newLost : Nat
  newOoo : Nat

/-- **`record_quality`**, with the counts that have been reported before and those that have been
reported after it. -/
def recordQuality (st : RtpStats) (reported : Nat × Nat) : QualityRecord × (Nat × Nat) :=
  let score := qualityScore st.lossPercent st.jitterMs
  ({ score := score
     rating := qualityRating score
     lossPct := some st.lossPercent |>.filter (0 < ·)
     oooPct := some st.outOfOrderPercent |>.filter (0 < ·)
     jitterUs := some st.jitterUs |>.filter (0 < ·)
     newLost := st.lost - reported.1
     newOoo := st.outOfOrder - reported.2 },
    (st.lost, st.outOfOrder))

/-! ## Streams -/

/-- **A packet**, with its sequence number as the sender counts it; 16 bits of it are sent. -/
structure RtpPacket where
  ext : Nat
  rtpTs : UInt32
  arrivalMs : Int

/-- The statistics after some packets. -/
def observed (ps : List RtpPacket) : RtpStats :=
  ps.foldl (fun st p => st.observe (.ofNat p.ext) p.rtpTs p.arrivalMs) {}

/-- The highest number so far. -/
def highest (first : RtpPacket) (rest : List RtpPacket) : Nat :=
  rest.foldl (fun h p => max h p.ext) first.ext

theorem highest_concat (first : RtpPacket) (rest : List RtpPacket) (p : RtpPacket) :
    highest first (rest ++ [p]) = max (highest first rest) p.ext :=
  foldl_concat ..

/-- **The streams that a receiver can follow**: no number comes twice or is before the first, and
each is near the highest one before it. -/
structure InWindow (first : RtpPacket) (rest : List RtpPacket) : Prop where
  once : ((first :: rest).map RtpPacket.ext).Nodup
  notBefore : ∀ p ∈ rest, first.ext ≤ p.ext
  near : ∀ i, (hi : i < rest.length) → rest[i].ext ≤ highest first (rest.take i) + 32767 ∧
    highest first (rest.take i) ≤ rest[i].ext + 32767

variable {first p : RtpPacket} {rest ps : List RtpPacket} {st : RtpStats} {top e : Nat}

theorem InWindow.take (h : InWindow first rest) (n : Nat) : InWindow first (rest.take n) := by
  refine ⟨?_, fun p hp => h.notBefore p (mem_of_mem_take hp), fun i hi => ?_⟩
  · exact h.once.sublist (((take_sublist n rest).cons_cons first).map _)
  · rw [length_take] at hi
    simpa [take_take, Nat.min_eq_left (show i ≤ n by omega)] using h.near i (by omega)

theorem InWindow.last (h : InWindow first (rest ++ [p])) :
    p.ext ∉ (first :: rest).map RtpPacket.ext ∧ first.ext ≤ p.ext ∧
      p.ext ≤ highest first rest + 32767 ∧ highest first rest ≤ p.ext + 32767 := by
  have honce := h.once
  rw [← cons_append, map_append, map_singleton, ← concat_eq_append,
    nodup_concat] at honce
  have hnear := h.near rest.length (by simp)
  simp only [getElem_concat_length, take_left'] at hnear
  exact ⟨honce.1, h.notBefore p (by simp), hnear⟩

theorem highest_mem_and_le (first : RtpPacket) (rest : List RtpPacket) :
    highest first rest ∈ (first :: rest).map RtpPacket.ext ∧
      ∀ x ∈ (first :: rest).map RtpPacket.ext, x ≤ highest first rest := by
  induction rest using List.reverseRecOn with
  | nil => simp [highest]
  | append_singleton rest p ih =>
    obtain ⟨hmem, hle⟩ := ih
    rw [highest_concat, ← cons_append, map_append, map_singleton]
    refine ⟨?_, fun x hx => ?_⟩
    · rcases le_total p.ext (highest first rest) with h | h
      · rw [max_eq_left h]
        exact mem_append_left _ hmem
      · rw [max_eq_right h]
        simp
    · rcases mem_append.mp hx with hx | hx
      · exact (hle x hx).trans (le_max_left _ _)
      · rw [mem_singleton.mp hx]
        exact le_max_right _ _

/-! ## Loss -/

/-- **A packet behind the highest** counts as late, and as one that was not lost. -/
theorem countSeq_of_lt (hmax : st.maxSeq = some (.ofNat top)) (hlt : e < top)
    (hnear : top ≤ e + 32767) :
    st.countSeq (.ofNat e) =
      { st with
        outOfOrder := st.outOfOrder + 1
        expected := st.expected + 1
        lost := if 0 < st.lost then st.lost - 1 else st.lost } := by
  have hbehind : (UInt16.ofNat top - UInt16.ofNat e).toNat = top - e := by
    simp only [UInt16.toNat_sub, UInt16.toNat_ofNat']
    omega
  have hcond : 0 < UInt16.ofNat top - UInt16.ofNat e ∧
      UInt16.ofNat top - UInt16.ofNat e < 32768 := by
    simp only [UInt16.lt_iff_toNat_lt, hbehind]
    exact ⟨show 0 < top - e by omega, show top - e < 32768 by omega⟩
  simp [RtpStats.countSeq, hmax, if_pos hcond]

/-- **A packet ahead** counts those in between as lost. -/
theorem countSeq_of_gt (hmax : st.maxSeq = some (.ofNat top)) (hlt : top < e)
    (hnear : e ≤ top + 32767) :
    st.countSeq (.ofNat e) =
      { st with
        expected := st.expected + (e - top)
        lost := st.lost + (e - top - 1)
        maxSeq := some (.ofNat e) } := by
  have hbehind : (UInt16.ofNat top - UInt16.ofNat e).toNat = 65536 - (e - top) := by
    simp only [UInt16.toNat_sub, UInt16.toNat_ofNat']
    omega
  have hgap : (UInt16.ofNat e - UInt16.ofNat top).toNat = e - top := by
    simp only [UInt16.toNat_sub, UInt16.toNat_ofNat']
    omega
  have hcond : ¬ (0 < UInt16.ofNat top - UInt16.ofNat e ∧
      UInt16.ofNat top - UInt16.ofNat e < 32768) := by
    simp only [UInt16.lt_iff_toNat_lt, hbehind]
    rintro ⟨-, h⟩
    have : 65536 - (e - top) < 32768 := h
    omega
  have hahead : 0 < UInt16.ofNat e - UInt16.ofNat top ∧
      UInt16.ofNat e - UInt16.ofNat top < 32768 := by
    simp only [UInt16.lt_iff_toNat_lt, hgap]
    exact ⟨show 0 < e - top by omega, show e - top < 32768 by omega⟩
  simp [RtpStats.countSeq, hmax, if_neg hcond, if_pos hahead, hgap]

theorem InWindow.length_lt (h : InWindow first (rest ++ [p])) (hlt : p.ext < highest first rest) :
    rest.length + 1 + first.ext ≤ highest first rest := by
  obtain ⟨hnew, hfirst, -⟩ := h.last
  have hsub : p.ext :: (first :: rest).map RtpPacket.ext ⊆
      List.range' first.ext (highest first rest + 1 - first.ext) := by
    intro x hx
    rw [mem_range'_1]
    have hle := (highest_mem_and_le first rest).2
    have hbase : ∀ y ∈ (first :: rest).map RtpPacket.ext, first.ext ≤ y := by
      simpa using fun q hq => h.notBefore q (mem_append_left _ hq)
    rcases mem_cons.mp hx with rfl | hx
    · omega
    · have := hle x hx
      have := hbase x hx
      omega
  have hnodup : (p.ext :: (first :: rest).map RtpPacket.ext).Nodup :=
    nodup_cons.mpr ⟨hnew, by simpa using (h.take rest.length).once⟩
  have hlength := (hnodup.subperm hsub).length_le
  simp only [length_cons, length_map, length_range'] at hlength
  omega

/-- **The counts after a stream**: they are right, but for the late packets among the expected
ones. -/
structure Tallied (first : RtpPacket) (rest : List RtpPacket) (st : RtpStats) : Prop where
  packets : st.packets = rest.length + 1
  maxSeq : st.maxSeq = some (.ofNat (highest first rest))
  lost : st.lost + st.packets + first.ext = highest first rest + 1
  expected : st.expected = st.lost + st.packets + st.outOfOrder
  inOrder : st.outOfOrder = 0 ↔ ((first :: rest).map RtpPacket.ext).Pairwise (· < ·)

/-- **One more packet** of a stream. -/
theorem Tallied.observe (ht : Tallied first rest st) (h : InWindow first (rest ++ [p])) :
    Tallied first (rest ++ [p]) (st.observe (.ofNat p.ext) p.rtpTs p.arrivalMs) := by
  obtain ⟨hpackets, hmax, hlost, hexpected, horder⟩ := ht
  obtain ⟨hnew, hfirst, hup, hdown⟩ := h.last
  obtain ⟨hmem, hle⟩ := highest_mem_and_le first rest
  have hmax' : ({ st with packets := st.packets + 1 } : RtpStats).maxSeq =
      some (.ofNat (highest first rest)) := hmax
  have hpairwise : ((first :: (rest ++ [p])).map RtpPacket.ext).Pairwise (· < ·) ↔
      st.outOfOrder = 0 ∧ highest first rest < p.ext := by
    rw [← cons_append, map_append, map_singleton, pairwise_append, horder]
    simp only [pairwise_singleton, mem_singleton, forall_eq, true_and]
    exact and_congr_right fun _ => ⟨fun h => h _ hmem, fun h x hx => (hle x hx).trans_lt h⟩
  have hne : p.ext ≠ highest first rest := fun h => hnew (h ▸ hmem)
  rcases Nat.lt_or_gt_of_ne hne with hlt | hgt
  · have hcount := countSeq_of_lt hmax' hlt hdown
    have hroom := h.length_lt hlt
    refine ⟨?_, ?_, ?_, ?_, ?_⟩ <;> simp only [RtpStats.observe, hcount, highest_concat,
      length_append, length_singleton, max_eq_left hlt.le]
    · omega
    · exact hmax
    · rw [if_pos (by omega)]
      omega
    · rw [if_pos (by omega)]
      omega
    · rw [hpairwise]
      omega
  · have hcount := countSeq_of_gt hmax' hgt hup
    refine ⟨?_, ?_, ?_, ?_, ?_⟩ <;> simp only [RtpStats.observe, hcount, highest_concat,
      length_append, length_singleton, max_eq_right hgt.le]
    · omega
    · omega
    · omega
    · rw [hpairwise, and_iff_left hgt]

theorem tallied_observed (h : InWindow first rest) :
    Tallied first rest (observed (first :: rest)) := by
  induction rest using List.reverseRecOn with
  | nil =>
    refine ⟨rfl, rfl, ?_, rfl, by simp [observed, RtpStats.observe, RtpStats.countSeq]⟩
    exact Nat.add_comm 1 first.ext
  | append_singleton rest p ih =>
    have hbefore : InWindow first rest := by simpa using h.take rest.length
    rw [← cons_append, observed, foldl_concat, ← observed]
    exact (ih hbefore).observe h

/-- **The loss is exact**: after every packet of a stream that a receiver can follow, the lost
packets are those of the range that have not come, and the mark is the highest number. -/
theorem loss_exact (h : InWindow first rest) (n : Nat) :
    let st := observed (first :: rest.take n)
    let top := highest first (rest.take n)
    st.packets = (first :: rest.take n).length ∧
      (st.lost : Int) = (top - first.ext + 1) - st.packets ∧ st.maxSeq = some (.ofNat top) := by
  obtain ⟨hpackets, hmax, hlost, -⟩ := tallied_observed (h.take n)
  exact ⟨hpackets, by omega, hmax⟩

/-- Packets where the numbers wrap, one of them late and one lost. -/
def wrapping : List RtpPacket := [⟨65537, 0, 0⟩, ⟨65536, 0, 0⟩, ⟨65538, 0, 0⟩]

theorem loss_exact_wrapping : (observed (⟨65534, 0, 0⟩ :: wrapping.take 3)).lost = 1 := by
  obtain ⟨hpackets, hlost, -⟩ := loss_exact
    (show InWindow ⟨65534, 0, 0⟩ wrapping from ⟨by decide, by decide, by decide⟩) 3
  rw [hpackets] at hlost
  exact Int.ofNat.inj hlost

/-- **When the expected packets are received and lost ones**, and the numbers of the range: after
every packet of a stream, exactly if each number is above those before it. A late packet has been
expected since the gap it fills, and is counted again. -/
theorem expected_exact_iff (h : InWindow first rest) :
    (∀ n, let st := observed (first :: rest.take n)
      st.expected = st.packets + st.lost ∧
        (st.expected : Int) = highest first (rest.take n) - first.ext + 1) ↔
      ((first :: rest).map RtpPacket.ext).Pairwise (· < ·) := by
  constructor
  · intro hall
    have hlast := (hall rest.length).1
    rw [take_length] at hlast
    obtain ⟨-, -, -, hexpected, horder⟩ := tallied_observed h
    exact horder.mp (by omega)
  · intro hpairwise n
    obtain ⟨-, -, hlost, hexpected, horder⟩ := tallied_observed (h.take n)
    have hnone := horder.mpr
      (hpairwise.sublist (((take_sublist n rest).cons_cons first).map _))
    exact ⟨by omega, by omega⟩

theorem expected_exact_inOrder :
    (observed [⟨65535, 0, 0⟩, ⟨65536, 0, 0⟩, ⟨65538, 0, 0⟩]).expected = 4 := by
  have h : InWindow ⟨65535, 0, 0⟩ [⟨65536, 0, 0⟩, ⟨65538, 0, 0⟩] :=
    ⟨by decide, by decide, by decide⟩
  exact Int.ofNat.inj ((expected_exact_iff h).mpr (by decide) 2).2

/-- **A late packet is expected twice**: of five packets sent, six are expected. -/
theorem expected_counts_late :
    InWindow ⟨1, 0, 0⟩ [⟨2, 0, 0⟩, ⟨4, 0, 0⟩, ⟨5, 0, 0⟩, ⟨3, 0, 0⟩] ∧
      let st := observed [⟨1, 0, 0⟩, ⟨2, 0, 0⟩, ⟨4, 0, 0⟩, ⟨5, 0, 0⟩, ⟨3, 0, 0⟩]
      st.packets = 5 ∧ st.lost = 0 ∧ st.expected = 6 :=
  ⟨⟨by decide, by decide, by decide⟩, by decide +kernel⟩

/-! ## Jitter -/

/-- **How far the arrival of a packet is off**, in ms: the signed difference of the timestamps
against the time between the arrivals. -/
def timingError (a b : RtpPacket) : Rat :=
  ((b.rtpTs - a.rtpTs).toInt32.toInt : Rat) / 48 - (b.arrivalMs - a.arrivalMs : Int)

/-- What the estimator takes for it, in units of the clock. -/
def deviation (a b : RtpPacket) : Int :=
  (b.rtpTs - a.rtpTs).toNat - (b.arrivalMs - a.arrivalMs) * 48

/-- The timestamp of the second packet is the later one. -/
def Forward (a b : RtpPacket) : Prop := (b.rtpTs - a.rtpTs).toNat < 2147483648
  deriving Decidable

/-- The size of each deviation of a stream. -/
def deviations : List RtpPacket → List Rat
  | a :: b :: ps => |(deviation a b : Rat)| :: deviations (b :: ps)
  | _ => []

/-- **The estimator of RFC 3550**: a sixteenth of each difference is taken over. -/
def smoothed (j : Rat) (ds : List Rat) : Rat := ds.foldl (fun j d => j + (d - j) / 16) j

theorem smoothed_le {bound : Rat} {ds : List Rat} (hds : ∀ d ∈ ds, d ≤ bound) {j : Rat}
    (hj : j ≤ bound) : smoothed j ds ≤ bound := by
  induction ds generalizing j with
  | nil => exact hj
  | cons d ds ih =>
    have hd := hds d mem_cons_self
    refine ih (fun e he => hds e (mem_cons_of_mem d he)) ?_
    linarith

/-- **The jitter is the estimate** over the deviations. -/
theorem jitterTs_observed (ps : List RtpPacket) :
    (observed ps).jitterTs = smoothed 0 (deviations ps) := by
  have hfold : ∀ (ps : List RtpPacket) (a : RtpPacket) (st : RtpStats),
      st.lastRtpTs = some a.rtpTs → st.lastArrivalMs = some a.arrivalMs →
      (ps.foldl (fun st p => st.observe (.ofNat p.ext) p.rtpTs p.arrivalMs) st).jitterTs =
        smoothed st.jitterTs (deviations (a :: ps)) := by
    intro ps
    induction ps with
    | nil => intro a st _ _; rfl
    | cons b ps ih =>
      intro a st hts harr
      rw [foldl_cons, ih b (st.observe _ _ _) rfl rfl]
      simp only [RtpStats.observe, RtpStats.nextJitter, hts, harr]
      rfl
  cases ps with
  | nil => rfl
  | cons a ps => exact hfold ps a _ rfl rfl

theorem jitterMs_observed (ps : List RtpPacket) :
    (observed ps).jitterMs = 1000 * (smoothed 0 (deviations ps) / 48) := by
  rw [RtpStats.jitterMs, RtpStats.jitterUs, jitterTs_observed]
  ring

theorem abs_deviation {a b : RtpPacket} (h : Forward a b) :
    |(deviation a b : Rat)| = 48 * |timingError a b| := by
  have hsigned : (b.rtpTs - a.rtpTs).toInt32.toInt = (b.rtpTs - a.rtpTs).toNat := by
    rw [Int32.toInt, UInt32.toBitVec_toInt32, BitVec.toInt_eq_toNat_of_lt]
    · rfl
    · change 2 * (b.rtpTs - a.rtpTs).toNat < 4294967296
      unfold Forward at h
      omega
  have hscale : (deviation a b : Rat) = 48 * timingError a b := by
    rw [deviation, timingError, hsigned]
    push_cast
    ring
  rw [hscale, abs_mul, abs_of_pos (by norm_num : (0 : Rat) < 48)]

theorem exists_of_mem_deviations {d : Rat} (h : d ∈ deviations ps) :
    ∃ before a b after, ps = before ++ a :: b :: after ∧ d = |(deviation a b : Rat)| := by
  induction ps with
  | nil => simp [deviations] at h
  | cons a ps ih =>
    cases ps with
    | nil => simp [deviations] at h
    | cons b ps =>
      rcases mem_cons.mp h with rfl | h
      · exact ⟨[], a, b, ps, rfl, rfl⟩
      · obtain ⟨before, c, d, after, hps, hd⟩ := ih h
        exact ⟨a :: before, c, d, after, congrArg (a :: ·) hps, hd⟩

theorem deviations_le {bound : Rat} (hforward : ps.IsChain Forward)
    (hbound : ps.IsChain fun a b => |timingError a b| ≤ bound) :
    ∀ d ∈ deviations ps, d ≤ 48 * bound := by
  intro d hd
  obtain ⟨before, a, b, after, rfl, rfl⟩ := exists_of_mem_deviations hd
  rw [abs_deviation (isChain_append_cons_cons.mp hforward).2.1]
  linarith [(isChain_append_cons_cons.mp hbound).2.1]

theorem deviations_concat (ps : List RtpPacket) (a b : RtpPacket) :
    deviations (ps ++ [a, b]) = deviations (ps ++ [a]) ++ [|(deviation a b : Rat)|] := by
  induction ps with
  | nil => rfl
  | cons c ps ih =>
    cases ps with
    | nil => rfl
    | cons d ps => exact congrArg (_ :: ·) ih

theorem smoothed_eq_zero (hforward : ps.IsChain Forward)
    (htime : ps.IsChain fun a b => timingError a b = 0) : smoothed 0 (deviations ps) = 0 := by
  have hzero : ∀ d ∈ deviations ps, d = 0 := by
    intro d hd
    have hle := deviations_le hforward (htime.imp fun a b h => (abs_eq_zero.mpr h).le) d hd
    obtain ⟨-, a, b, -, -, rfl⟩ := exists_of_mem_deviations hd
    exact le_antisymm (by simpa using hle) (abs_nonneg _)
  generalize deviations ps = ds at hzero
  induction ds with
  | nil => rfl
  | cons d ds ih =>
    rw [smoothed, foldl_cons, hzero d mem_cons_self]
    simpa [smoothed] using ih fun e he => hzero e (mem_cons_of_mem d he)

/-- The packets arrive within six hours of one another. -/
def Near (a b : RtpPacket) : Prop := |b.arrivalMs - a.arrivalMs| ≤ 21600000

/-- **A packet out of order** is taken for one that is almost `2 ^ 32` ticks ahead: the deviation is
far more than the timing error, unless the packet is very late. -/
theorem deviation_of_not_forward {a b : RtpPacket} (h : ¬ Forward a b) (hnear : Near a b) :
    1000000000 ≤ (deviation a b : Rat) ∧ 48 * |timingError a b| ≤ 3300000000 := by
  have hlt : (b.rtpTs - a.rtpTs).toNat < 4294967296 := UInt32.toNat_lt _
  have hsigned : (b.rtpTs - a.rtpTs).toInt32.toInt = (b.rtpTs - a.rtpTs).toNat - 4294967296 := by
    rw [Int32.toInt, UInt32.toBitVec_toInt32, BitVec.toInt_eq_toNat_cond, if_neg]
    · rfl
    · change ¬ 2 * (b.rtpTs - a.rtpTs).toNat < 4294967296
      unfold Forward at h
      omega
  have hscale : 48 * timingError a b = ((deviation a b - 4294967296 : Int) : Rat) := by
    rw [timingError, deviation, hsigned]
    push_cast
    ring
  have hbounds : 1000000000 ≤ deviation a b ∧ |deviation a b - 4294967296| ≤ 3300000000 := by
    unfold Forward at h
    obtain ⟨hlo, hhi⟩ := abs_le.mp hnear
    rw [deviation, abs_le]
    omega
  refine ⟨by exact_mod_cast hbounds.1, ?_⟩
  calc 48 * |timingError a b| = |48 * timingError a b| := by
        rw [abs_mul, abs_of_pos (by norm_num : (0 : Rat) < 48)]
    _ ≤ 3300000000 := by
        rw [hscale]
        exact_mod_cast hbounds.2

/-- **A stream that meets every bound of its timing errors** has no packet out of order and none
that is early or late: the first one that is would break the bound of its own error. -/
theorem onTime_of_bounded (hnear : ps.IsChain Near)
    (hall : ∀ qs bound, qs <+: ps → 0 ≤ bound →
      qs.IsChain (fun a b => |timingError a b| ≤ bound) → (observed qs).jitterMs ≤ bound) :
    ps.IsChain fun a b => Forward a b ∧ timingError a b = 0 := by
  induction ps using List.reverseRecOn with
  | nil => exact .nil
  | append_singleton qs p ih =>
    have hqs := ih hnear.left_of_append fun rs bound hrs =>
      hall rs bound (hrs.trans (prefix_append qs [p]))
    rcases eq_nil_or_concat' qs with rfl | ⟨rs, q, rfl⟩
    · exact .singleton p
    · rw [append_assoc, singleton_append] at hnear hall ⊢
      refine isChain_append_cons_cons.mpr ⟨hqs, ?_, .singleton p⟩
      -- the deviations before the last packet are all zero
      have hle := hall _ |timingError q p| (prefix_refl _) (abs_nonneg _) <|
        isChain_append_cons_cons.mpr
          ⟨hqs.imp fun a b h => by simp [h.2], le_rfl, .singleton p⟩
      rw [jitterMs_observed, deviations_concat, smoothed, foldl_concat, ← smoothed,
        smoothed_eq_zero (hqs.imp fun _ _ h => h.1) (hqs.imp fun _ _ h => h.2)] at hle
      by_cases hforward : Forward q p
      · rw [abs_deviation hforward] at hle
        exact ⟨hforward, abs_eq_zero.mp (le_antisymm (by linarith) (abs_nonneg _))⟩
      · obtain ⟨hdeviation, herror⟩ := deviation_of_not_forward hforward
          (isChain_append_cons_cons.mp hnear).2.1
        have := le_abs_self (deviation q p : Rat)
        linarith

/-- **When the jitter is within the bound of the timing errors.** A microsecond is taken for a
nanosecond, and so the jitter of packets in order is within the bound if their errors are within a
thousandth of it. For streams with or without reordering, whose packets arrive within six hours of
one another, it is within every bound of the errors after every packet exactly if every packet is in
order and on time. -/
theorem jitter_bounded_iff (ps : List RtpPacket) :
    (∀ bound, 0 ≤ bound → ps.IsChain Forward →
        ps.IsChain (fun a b => |timingError a b| ≤ bound / 1000) →
          (observed ps).jitterMs ≤ bound) ∧
      (ps.IsChain Near →
        ((∀ qs bound, qs <+: ps → 0 ≤ bound →
            qs.IsChain (fun a b => |timingError a b| ≤ bound) → (observed qs).jitterMs ≤ bound) ↔
          ps.IsChain fun a b => Forward a b ∧ timingError a b = 0)) := by
  refine ⟨fun bound hbound hforward herrors => ?_, fun hnear => ?_⟩
  · have hle := smoothed_le (deviations_le hforward herrors) (j := 0) (by linarith)
    rw [jitterMs_observed]
    linarith
  · refine ⟨onTime_of_bounded hnear, fun htime qs bound hqs hb _ => ?_⟩
    obtain ⟨later, rfl⟩ := hqs
    have hqs := htime.left_of_append
    rw [jitterMs_observed,
      smoothed_eq_zero (hqs.imp fun _ _ h => h.1) (hqs.imp fun _ _ h => h.2)]
    simpa using hb

theorem jitter_bounded_late :
    (observed [⟨0, 4294967000, 0⟩, ⟨1, 664, 21⟩, ⟨3, 2584, 60⟩, ⟨4, 3544, 80⟩]).jitterMs ≤ 1000 :=
  (jitter_bounded_iff [⟨0, 4294967000, 0⟩, ⟨1, 664, 21⟩, ⟨3, 2584, 60⟩, ⟨4, 3544, 80⟩]).1 1000
    (by decide) (by decide) (by decide +kernel)

/-- **A millisecond of jitter** is taken for 62.5 of it, and a packet of 20 ms that is late for more
than an hour. -/
theorem jitter_unbounded :
    ([⟨0, 0, 0⟩, ⟨1, 960, 21⟩] : List RtpPacket).IsChain (fun a b => |timingError a b| ≤ 1) ∧
      1 < (observed [⟨0, 0, 0⟩, ⟨1, 960, 21⟩]).jitterMs ∧
    ([⟨1, 960, 0⟩, ⟨0, 0, 1⟩] : List RtpPacket).IsChain (fun a b => |timingError a b| ≤ 21) ∧
      3600000 < (observed [⟨1, 960, 0⟩, ⟨0, 0, 1⟩]).jitterMs := by
  decide +kernel

/-! ## Round-trip times -/

/-- **`rtt_ms_from_report`**, by the clock of the server in Unix seconds. -/
def rttMsFromReport (unixSeconds : Int) (lsr dlsr : UInt32) : Rat :=
  let nowSec32 := (unixSeconds + 2208988800) % 4294967296
  let secs : Rat := (nowSec32 - lsr.toNat : Int) - dlsr.toNat / 65536
  max (secs * 1000) 0

/-- `unix_seconds` at a time in seconds since 1900, which is what NTP counts. -/
def unixSecondsAt (time : Rat) : Int := ⌊time⌋ - 2208988800

/-- The 64-bit NTP timestamp of a time. -/
def ntpTimestamp (time : Rat) : UInt64 := .ofInt ⌊time * 4294967296⌋

/-- **LSR**: the middle 32 bits of the timestamp of a sender report. -/
def lastSenderReport (sent : Rat) : UInt32 := (ntpTimestamp sent >>> 16).toUInt32

/-- **DLSR**: how long the receiver has held its report back. -/
def holdTime (dlsr : UInt32) : Rat := dlsr.toNat / 65536

/-- **What LSR counts**: the time at which the report was sent, in units of 1/65536 s. -/
theorem lastSenderReport_eq (sent : Rat) :
    ((lastSenderReport sent).toNat : Int) = ⌊sent * 65536⌋ % 4294967296 := by
  have hunits : ⌊sent * 65536⌋ = ⌊sent * 4294967296⌋ / 65536 := by
    rw [← Nat.cast_ofNat (R := Int), ← Int.floor_div_natCast]
    congr 1
    push_cast
    ring
  have hstamp : ((ntpTimestamp sent).toNat : Int) =
      ⌊sent * 4294967296⌋ % 18446744073709551616 := by
    rw [ntpTimestamp, UInt64.ofInt, UInt64.toNat_ofNat']
    omega
  have hshift : (ntpTimestamp sent >>> 16).toNat = (ntpTimestamp sent).toNat / 65536 := by
    rw [UInt64.toNat_shiftRight]
    exact Nat.shiftRight_eq_div_pow _ 16
  rw [lastSenderReport, UInt64.toNat_toUInt32, hshift, hunits]
  omega

/-- **When a round-trip time is right to a second.** The middle bits count in units of 1/65536 s,
but are subtracted as seconds. If they and the hold time come to the current second or more, the
result is zero, and right for a round trip of at most a second. Otherwise it is right exactly if the
second in which the report was sent, counted as the clock counts when the answer arrives, is within
a second of these bits. That needs a report sent within 2/65535 s of a multiple of
`2 ^ 32 / 65535` s, which is some 18 hours. -/
theorem roundTrip_close_iff (sent rtt : Rat) (dlsr : UInt32) (hrtt : 0 ≤ rtt) :
    let now := sent + rtt + holdTime dlsr
    let lsr : Rat := (lastSenderReport sent).toNat
    let sentSecond := sent - Int.fract now - 4294967296 * (⌊now⌋ / 4294967296 : Int)
    let Close := |rttMsFromReport (unixSecondsAt now) (lastSenderReport sent) dlsr - 1000 * rtt| ≤
      1000
    let Zero := ((⌊now⌋ % 4294967296 : Int) : Rat) ≤ lsr + holdTime dlsr
    (Zero → (Close ↔ rtt ≤ 1)) ∧
      (¬ Zero → (Close ↔ |sentSecond - lsr| ≤ 1)) ∧
      (¬ Zero → Close → ∃ k : Int, |65535 * sent - 4294967296 * k| < 2) := by
  intro now lsr sentSecond Close Zero
  have hvalue : rttMsFromReport (unixSecondsAt now) (lastSenderReport sent) dlsr =
      max ((((⌊now⌋ % 4294967296 : Int) : Rat) - lsr - holdTime dlsr) * 1000) 0 := by
    simp [rttMsFromReport, unixSecondsAt, lsr, holdTime]
  -- the clock when the answer arrives, as the second in which the report was sent
  have hsecond : ((⌊now⌋ % 4294967296 : Int) : Rat) - holdTime dlsr - rtt = sentSecond := by
    have hdiv : ((⌊now⌋ % 4294967296 : Int) : Rat) +
        4294967296 * (⌊now⌋ / 4294967296 : Int) = ⌊now⌋ := by
      exact_mod_cast Int.emod_add_mul_ediv ⌊now⌋ 4294967296
    linarith [Int.self_sub_floor now]
  have hzero : Zero → (Close ↔ rtt ≤ 1) := by
    intro hzero
    dsimp only [Close]
    rw [hvalue, max_eq_right (by linarith), abs_le]
    constructor
    · rintro ⟨hle, -⟩
      linarith
    · intro hle
      exact ⟨by linarith, by linarith⟩
  have hlater : ¬ Zero → (Close ↔ |sentSecond - lsr| ≤ 1) := by
    intro hlater
    dsimp only [Close]
    rw [hvalue, max_eq_left (by linarith [not_le.mp hlater]), ← hsecond, abs_le, abs_le]
    constructor
    all_goals
      rintro ⟨hlo, hhi⟩
      exact ⟨by linarith, by linarith⟩
  refine ⟨hzero, hlater, fun hnot hclose => ?_⟩
  have hnear := abs_le.mp ((hlater hnot).mp hclose)
  have hlsr : lsr + 4294967296 * (⌊sent * 65536⌋ / 4294967296 : Int) = ⌊sent * 65536⌋ := by
    dsimp only [lsr]
    rw [← Int.cast_natCast (R := Rat), lastSenderReport_eq]
    exact_mod_cast Int.emod_add_mul_ediv ⌊sent * 65536⌋ 4294967296
  refine ⟨⌊sent * 65536⌋ / 4294967296 - ⌊now⌋ / 4294967296, ?_⟩
  push_cast
  have hunits := Int.self_sub_floor (sent * 65536)
  rw [abs_lt]
  constructor
  all_goals
    linarith [Int.fract_nonneg now, Int.fract_lt_one now, Int.fract_nonneg (sent * 65536),
      Int.fract_lt_one (sent * 65536), hnear.1, hnear.2]

theorem roundTrip_close_short :
    |rttMsFromReport (unixSecondsAt (3899981823 + 1 / 2 + holdTime 0))
      (lastSenderReport 3899981823) 0 - 1000 * (1 / 2)| ≤ 1000 :=
  ((roundTrip_close_iff 3899981823 (1 / 2) 0 (by decide +kernel)).1 (by decide +kernel)).mpr
    (by decide +kernel)

/-- **50 ms are taken for more than a hundred years**, and ten seconds for none at all. -/
theorem roundTrip_far :
    let close (sent rtt : Rat) :=
      |rttMsFromReport (unixSecondsAt (sent + rtt + holdTime 0)) (lastSenderReport sent) 0 -
        1000 * rtt| ≤ 1000
    ¬ close 3899981825 (1 / 20) ∧ ¬ close 3899981823 10 := by
  decide +kernel

/-! ## Every stream -/

/-- Lost and late packets are expected ones. -/
def RtpStats.Counted (st : RtpStats) : Prop :=
  st.lost + st.outOfOrder ≤ st.expected ∧ (st.maxSeq = none → st.lost + st.outOfOrder = 0)

theorem RtpStats.Counted.countSeq (h : st.Counted) (seq : UInt16) :
    (st.countSeq seq).Counted ∧ st.outOfOrder ≤ (st.countSeq seq).outOfOrder := by
  obtain ⟨hle, hnone⟩ := h
  unfold RtpStats.Counted
  fun_cases RtpStats.countSeq st seq with
  | case1 hmax =>
    have hzero := hnone hmax
    exact ⟨⟨by dsimp only; omega, nofun⟩, Nat.le_refl _⟩
  | case2 _ hmax =>
    refine ⟨⟨?_, fun h => by cases hmax.symm.trans h⟩, Nat.le_succ _⟩
    dsimp only
    split <;> omega
  | case3 => exact ⟨⟨by dsimp only; omega, fun h => by cases h⟩, Nat.le_refl _⟩
  | case4 _ hmax =>
    exact ⟨⟨by dsimp only; omega, fun h => by cases hmax.symm.trans h⟩, Nat.le_refl _⟩

theorem RtpStats.Counted.observe (h : st.Counted) (seq : UInt16) (ts : UInt32) (ms : Int) :
    (st.observe seq ts ms).Counted ∧ st.outOfOrder ≤ (st.observe seq ts ms).outOfOrder := by
  have hnext : ({ st with packets := st.packets + 1 } : RtpStats).Counted := h
  exact hnext.countSeq seq

/-- **Lost and late packets are parts of the expected ones**, whatever numbers arrive: repeated,
far from the last one or before the first. -/
theorem lost_and_late_le (ps : List RtpPacket) :
    (observed ps).lost + (observed ps).outOfOrder ≤ (observed ps).expected ∧
      (observed ps).lossPercent + (observed ps).outOfOrderPercent ≤ 100 := by
  have hcounted : (observed ps).Counted := by
    induction ps using List.reverseRecOn with
    | nil => exact ⟨Nat.le_refl 0, fun _ => rfl⟩
    | append_singleton ps p ih =>
      rw [observed, foldl_concat]
      exact (RtpStats.Counted.observe ih _ _ _).1
  refine ⟨hcounted.1, ?_⟩
  unfold RtpStats.lossPercent RtpStats.outOfOrderPercent RtpStats.percent
  split
  · next hpos =>
    have hpos : (0 : Rat) < (observed ps).expected := by exact_mod_cast hpos
    have hle : ((observed ps).lost + (observed ps).outOfOrder : Rat) ≤ (observed ps).expected := by
      exact_mod_cast hcounted.1
    rw [← add_mul, ← add_div]
    linarith [(div_le_one hpos).mpr hle]
  · norm_num

/-- **The counters of a track**: its statistics, the counts that were reported last, and what
`packet_loss_total` and `packet_out_of_order_total` show. -/
structure LossCounters where
  stats : RtpStats := {}
  reported : Nat × Nat := (0, 0)
  lossTotal : Nat := 0
  oooTotal : Nat := 0

namespace LossCounters

/-- A packet arrives, or the quality is recorded. -/
def next (c : LossCounters) : Option RtpPacket → LossCounters
  | some p => { c with stats := c.stats.observe (.ofNat p.ext) p.rtpTs p.arrivalMs }
  | none =>
    let (record, reported) := recordQuality c.stats c.reported
    { c with
      reported
      lossTotal := c.lossTotal + record.newLost
      oooTotal := c.oooTotal + record.newOoo }

/-- **At no record are fewer packets lost** than there were at the record before. -/
def Grows : LossCounters → List (Option RtpPacket) → Prop
  | _, [] => True
  | c, event :: events =>
    (event = none → c.reported.1 ≤ c.stats.lost) ∧ (c.next event).Grows events

/-- What was reported is part of what the counters show. -/
structure Tracks (c : LossCounters) : Prop where
  counted : c.stats.Counted
  ooo : c.oooTotal = c.reported.2 ∧ c.reported.2 ≤ c.stats.outOfOrder
  loss : c.reported.1 ≤ c.lossTotal

theorem Tracks.next {c : LossCounters} (h : c.Tracks) (event : Option RtpPacket) :
    (c.next event).Tracks ∧ ((c.next event).lossTotal = (c.next event).reported.1 ↔
      c.lossTotal = c.reported.1 ∧ (event = none → c.reported.1 ≤ c.stats.lost)) := by
  obtain ⟨hcounted, ⟨hooo, hlate⟩, hloss⟩ := h
  cases event with
  | some p =>
    obtain ⟨hnext, hmore⟩ := hcounted.observe (.ofNat p.ext) p.rtpTs p.arrivalMs
    exact ⟨⟨hnext, ⟨hooo, hlate.trans hmore⟩, hloss⟩, by simp [LossCounters.next]⟩
  | none =>
    simp only [LossCounters.next, recordQuality, true_implies]
    exact ⟨⟨hcounted, ⟨by dsimp only; omega, Nat.le_refl _⟩, by dsimp only; omega⟩, by omega⟩

/-- **What the counters show** after a record. Late packets are counted once each. Lost packets are
counted at least once each; exactly once, if at no record fewer were lost than at the one before. -/
theorem counters_exact (events : List (Option RtpPacket)) :
    let c := (events ++ [none]).foldl next {}
    c.oooTotal = c.stats.outOfOrder ∧ c.stats.lost ≤ c.lossTotal ∧
      (c.lossTotal = c.stats.lost ↔ Grows {} (events ++ [none])) := by
  -- from any counters on
  have hrun : ∀ (events : List (Option RtpPacket)) (c : LossCounters), c.Tracks →
      (events.foldl next c).Tracks ∧
        ((events.foldl next c).lossTotal = (events.foldl next c).reported.1 ↔
          c.lossTotal = c.reported.1 ∧ c.Grows events) := by
    intro events
    induction events with
    | nil => exact fun c h => ⟨h, by simp [Grows]⟩
    | cons event events ih =>
      intro c h
      obtain ⟨hnext, hiff⟩ := h.next event
      obtain ⟨hlast, hall⟩ := ih _ hnext
      refine ⟨hlast, ?_⟩
      rw [foldl_cons, hall, hiff, Grows, and_assoc]
  have hinit : ({} : LossCounters).Tracks := ⟨⟨Nat.le_refl 0, fun _ => rfl⟩, ⟨rfl, Nat.le_refl 0⟩,
    Nat.le_refl 0⟩
  obtain ⟨⟨-, ⟨hooo, -⟩, hloss⟩, hiff⟩ := hrun (events ++ [none]) {} hinit
  rw [foldl_concat] at hooo hloss hiff ⊢
  exact ⟨hooo, hloss, hiff.trans (and_iff_right rfl)⟩

end LossCounters

end LivekitVoice.Media
