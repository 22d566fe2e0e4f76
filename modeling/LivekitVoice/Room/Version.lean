import LivekitVoice.Transition.Pool
import LivekitVoice.Transition.Run

/-! # Versions

Clients order updates by versions. Rooms and tracks carry a clock reading with a count of the bumps
made within it (`TimedVersion`); a participant's infos carry a number that every serialization draws
from a counter (`VersionCounter`), between its reads of the parts of the info.

* **`timedVersions_increase_iff`** — when successive timed versions increase,
* **`participant_versions_order_infos`** — the versions of two infos are distinct but for the first
  two, and when a higher one has no older part. -/

namespace LivekitVoice

open List Option Transition

/-! ## Timed versions -/

/-- `TimedVersion`. -/
structure TimedVersion where
  unixMicro : Int64
  ticks : Int32
  deriving DecidableEq

namespace TimedVersion

/-- `bump`, at a reading of the clock; the count wraps around. -/
def bump (v : TimedVersion) (now : Int64) : TimedVersion :=
  if now = v.unixMicro then { v with ticks := v.ticks + 1 } else ⟨now, 0⟩

/-- The values of successive bumps. -/
def bumps (v : TimedVersion) : List Int64 → List TimedVersion
  | [] => []
  | now :: nows => v.bump now :: bumps (v.bump now) nows

/-- The order in which clients see versions. -/
def Before (v w : TimedVersion) : Prop :=
  v.unixMicro < w.unixMicro ∨ v.unixMicro = w.unixMicro ∧ v.ticks < w.ticks
  deriving Decidable

/-- **The clock goes forward**, and a reading that repeats finds the count below its maximum. -/
def ClockForward (v : TimedVersion) : List Int64 → Prop
  | [] => True
  | now :: nows => (v.unixMicro < now ∨ v.unixMicro = now ∧ v.ticks ≠ Int32.maxValue) ∧
      ClockForward (v.bump now) nows

theorem ticks_lt_succ_iff (ticks : Int32) : ticks < ticks + 1 ↔ ticks ≠ Int32.maxValue := by
  have hmax : Int32.maxValue.toInt = 2 ^ 31 - 1 := by decide
  have hlow := ticks.le_toInt
  have hhigh := ticks.toInt_lt
  rw [Int32.lt_iff_toInt_lt, Int32.toInt_add, ← Int32.toInt_inj.ne, hmax]
  simp only [Int32.reduceToInt, Int.bmod]
  omega

/-- **When timed versions increase**, over every sequence of clock readings. -/
theorem timedVersions_increase_iff (v : TimedVersion) (nows : List Int64) :
    (v :: v.bumps nows).IsChain Before ↔ v.ClockForward nows := by
  induction nows generalizing v with
  | nil => simp [bumps, ClockForward]
  | cons now nows ih =>
    rw [bumps, isChain_cons_cons, ih, ClockForward, bump]
    split
    · next h => simp [Before, h, ticks_lt_succ_iff]
    · next h => simp [Before, Ne.symm h]

/-- **A clock that is set back** takes the version back. -/
theorem timedVersions_clock_back :
    ¬ (TimedVersion.mk 6 0 :: bumps ⟨6, 0⟩ [6, 5]).IsChain Before ∧
      (bumps ⟨6, 0⟩ [6, 5]).getLast? = some ⟨5, 0⟩ := by
  decide

end TimedVersion

/-! ## Participant versions -/

/-- `PublishedTrack::to_proto` reads these parts of a track. -/
inductive TrackPart
  | mime | muted | mid | redEnabled | version
  deriving DecidableEq

/-- The parts of a participant's info that change, each behind a lock or an atomic of its own. -/
inductive InfoPart
  | attributes | permission | state
  /-- The map of the tracks; what it maps to is read afterwards. -/
  | tracks
  | track (sid : String) (part : TrackPart)
  | metadata | name | isPublisher | disconnectReason | clientProtocol
  deriving DecidableEq

/-- One access of a serialization. -/
inductive Access
  | read (part : InfoPart)
  /-- `version.next()`. -/
  | next
  deriving DecidableEq

/-- What `PublishedTrack::to_proto` reads. -/
def trackToProto (sid : String) : List Access :=
  [.mime, .muted, .mid, .redEnabled, .version].map fun part => .read (.track sid part)

/-- What `Participant::to_proto` reads after it has drawn the version. -/
def lateReads : List Access := [.read .isPublisher, .read .disconnectReason, .read .clientProtocol]

/-- `Participant::to_proto`; the tracks' own parts follow the map of the tracks. -/
def toProto : List Access :=
  [.read .attributes, .read .permission, .read .state, .read .tracks, .read .metadata,
    .read .name] ++ .next :: lateReads

/-- A part as a call has read it, with the number of changes it had had. -/
structure Reading (V : Type*) where
  part : InfoPart
  value : V
  changes : Nat
  deriving DecidableEq

/-- **A call of `to_proto`.** -/
structure InfoCall (V : Type*) where
  todo : List Access := toProto
  readings : List (Reading V) := []
  /-- The counter when the version was drawn. -/
  drawn : Option Nat := none

/-- `VersionCounter::next`: the version that is drawn, from the counter before. -/
def versionOf (prev : Nat) : Nat := max prev 1 % 2 ^ 32

/-- The version of an info. -/
def InfoCall.version {V : Type*} (c : InfoCall V) : Option Nat := c.drawn.map versionOf

/-- **A participant and its serializations.** -/
structure Versioned (V : Type*) where
  value : InfoPart → V
  /-- How often each part has been changed. -/
  changes : InfoPart → Nat := fun _ => 0
  version : Nat := 0
  calls : List (InfoCall V) := []

/-- What can happen. -/
inductive InfoAction (V : Type*)
  /-- A part is changed. -/
  | change (part : InfoPart) (value : V)
  /-- A call of `to_proto` begins. -/
  | begin
  /-- The next access of a call. -/
  | access (call : Nat)

namespace Versioned

variable {V : Type*} (sids : V → List String)

/-- The reads that a read makes necessary: those of the tracks that are in the map. -/
def readsAfter (part : InfoPart) (value : V) : List Access :=
  if part = .tracks then (sids value).flatMap trackToProto else []

/-- One step. -/
def step (s : Versioned V) : InfoAction V → Option (Versioned V)
  | .change part value =>
    some { s with
      value := Function.update s.value part value
      changes := Function.update s.changes part (s.changes part + 1) }
  | .begin => some { s with calls := s.calls ++ [{}] }
  | .access call =>
    match s.calls[call]? with
    | none => none
    | some c =>
      match c.todo with
      | [] => none
      | .next :: rest =>
        some { s with
          version := s.version + 1
          calls := s.calls.set call { c with todo := rest, drawn := some s.version } }
      | .read part :: rest =>
        some { s with calls := s.calls.set call { c with
          todo := readsAfter sids part (s.value part) ++ rest
          readings := ⟨part, s.value part, s.changes part⟩ :: c.readings } }

/-- **No part is changed between its read and the draw** of one call, in either order. -/
def Settled (s : Versioned V) : InfoAction V → Prop
  | .change part _ => ∀ c ∈ s.calls,
      if c.drawn.isSome then .read part ∉ c.todo else ∀ r ∈ c.readings, r.part ≠ part
  | .begin | .access _ => True

instance (s : Versioned V) (a : InfoAction V) : Decidable (s.Settled a) := by
  cases a <;> unfold Settled <;> infer_instance

/-! ### One call -/

/-- What is left of a call: up to the draw, or some of the reads after it. -/
def Planned (c : InfoCall V) : Prop :=
  match c.drawn with
  | none => ∃ before, c.todo = before ++ .next :: lateReads ∧ .next ∉ before
  | some _ => c.todo <:+ lateReads

/-- **What is drawn** from the counter: what it has passed, and nothing twice. -/
structure Drawn (s : Versioned V) : Prop where
  lt : ∀ c ∈ s.calls, ∀ n ∈ c.drawn, n < s.version
  distinct : Distinct InfoCall.drawn s.calls

/-- **What is known of a call** in a state. -/
structure CallOk (s : Versioned V) (c : InfoCall V) : Prop where
  planned : Planned c
  past : ∀ r ∈ c.readings, r.changes ≤ s.changes r.part
  current : c.drawn = none → ∀ r ∈ c.readings, r.changes = s.changes r.part

/-- **What is known of two calls** in a state, the second of which has drawn and the first has not
drawn before it: what the second has still to read, the first has read as it is. -/
def InOrder (s : Versioned V) (c d : InfoCall V) : Prop :=
  ∀ n ∈ d.drawn, (∀ m ∈ c.drawn, n < m) → ∀ r ∈ c.readings,
    (.read r.part ∈ d.todo → r.changes = s.changes r.part) ∧
      ∀ q ∈ d.readings, q.part = r.part → q.changes ≤ r.changes

/-- **The invariant.** -/
structure Ordered (s : Versioned V) : Prop where
  ok : ∀ c ∈ s.calls, s.CallOk c
  inOrder : ∀ c ∈ s.calls, ∀ d ∈ s.calls, s.InOrder c d

variable {sids} {s s' : Versioned V} {c d : InfoCall V} {call : Nat} {rest : List Access}

theorem Planned.next (h : Planned c) (htodo : c.todo = .next :: rest) :
    c.drawn = none ∧ rest = lateReads := by
  unfold Planned at h
  split at h
  · next hdrawn =>
    obtain ⟨before, heq, hnext⟩ := h
    cases before with
    | nil => exact ⟨hdrawn, (List.cons.inj (htodo.symm.trans heq)).2⟩
    | cons a before =>
      obtain rfl := (List.cons.inj (htodo.symm.trans heq)).1
      simp at hnext
  · have hmem : Access.next ∈ lateReads := h.mem (htodo ▸ mem_cons_self)
    exact absurd hmem (by decide)

theorem Planned.read (h : Planned c) {part : InfoPart} (htodo : c.todo = .read part :: rest)
    (sids : V → List String) (value : V) {readings : List (Reading V)} :
    Planned { c with todo := readsAfter sids part value ++ rest, readings } ∧
      (c.drawn ≠ none → readsAfter sids part value = []) := by
  unfold Planned at h ⊢
  cases hdrawn : c.drawn with
  | none =>
    rw [hdrawn] at h
    obtain ⟨before, heq, hnext⟩ := h
    refine ⟨?_, by simp⟩
    cases before with
    | nil => simp [htodo] at heq
    | cons a before =>
      obtain ⟨rfl, rfl⟩ := List.cons.inj (htodo.symm.trans heq)
      refine ⟨readsAfter sids part value ++ before, by simp, ?_⟩
      simp only [mem_cons, not_or] at hnext
      simp only [mem_append, not_or]
      refine ⟨?_, hnext.2⟩
      unfold readsAfter
      split <;> simp [trackToProto]
  | some n =>
    rw [hdrawn] at h
    have hlate : Access.read part ∈ lateReads := h.mem (htodo ▸ mem_cons_self)
    have hne : part ≠ .tracks := by
      rintro rfl
      exact absurd hlate (by decide)
    have hnone : readsAfter sids part value = [] := if_neg hne
    rw [htodo] at h
    exact ⟨hnone ▸ (suffix_cons _ _).trans h, fun _ => hnone⟩

/-! ### Every step -/

/-- **Every step**, whatever is changed in between. -/
theorem Drawn.step {a : InfoAction V} (hs : s.Drawn) (hstep : step sids s a = some s') :
    s'.Drawn := by
  revert hstep
  fun_cases Versioned.step sids s a <;> rintro ⟨⟩
  · exact ⟨hs.lt, hs.distinct⟩
  · exact ⟨forall_mem_concat hs.lt nofun, hs.distinct.concat nofun⟩
  · next hc _ _ =>
    refine ⟨forall_mem_set (fun d hd n hn => Nat.lt_succ_of_lt (hs.lt d hd n hn)) (by simp),
      hs.distinct.set hc fun n hn j d _ hd hdn => ?_⟩
    obtain rfl := some.inj hn
    exact absurd (hs.lt d (mem_of_getElem? hd) _ hdn) (Nat.lt_irrefl _)
  · next hc _ _ _ =>
    have hself := hs.lt _ (mem_of_getElem? hc)
    exact ⟨forall_mem_set hs.lt hself, hs.distinct.set_of_le hc fun _ h => h⟩

namespace Ordered

variable (hs : s.Ordered)
include hs

theorem change {part : InfoPart} {value : V}
    (hG : s.Settled (.change part value)) (hstep : step sids s (.change part value) = some s') :
    s'.Ordered := by
  obtain rfl := some.inj hstep
  have hother : ∀ p, p ≠ part → Function.update s.changes part (s.changes part + 1) p =
      s.changes p := fun p hp => Function.update_of_ne hp _ _
  refine ⟨fun c hc => ⟨(hs.ok c hc).planned, fun r hr => ?_, fun hnone r hr => ?_⟩,
    fun c hc d hd n hn hlater r hr => ⟨fun htodo => ?_, ?_⟩⟩
  · have hpast := (hs.ok c hc).past r hr
    by_cases hp : r.part = part
    · simp only [hp, Function.update_self] at hpast ⊢
      omega
    · simpa only [hother _ hp] using hpast
  · have hp := hG c hc
    rw [hnone] at hp
    exact ((hs.ok c hc).current hnone r hr).trans (hother _ (hp r hr)).symm
  · have hp := hG d hd
    rw [if_pos (isSome_of_mem hn)] at hp
    have hcurrent := (hs.inOrder c hc d hd n hn hlater r hr).1 htodo
    exact hcurrent.trans (hother _ fun h => hp (h ▸ htodo)).symm
  · exact (hs.inOrder c hc d hd n hn hlater r hr).2

theorem begin (hstep : step sids s .begin = some s') : s'.Ordered := by
  obtain rfl := some.inj hstep
  refine ⟨forall_mem_concat (fun c hc => { hs.ok c hc with }) ⟨?_, nofun, nofun⟩,
    forall_mem_concat (fun c hc => forall_mem_concat (hs.inOrder c hc) nofun)
      (fun d hd n hn hlater => nofun)⟩
  exact ⟨_, rfl, by decide⟩

/-- **A call draws.** The calls that have not drawn before it have not drawn at all, so what they
have read is as it is, and what the call itself has read is no newer. -/
theorem next (hc : s.calls[call]? = some c) (hdrawn : s.Drawn) (htodo : c.todo = .next :: rest) :
    Ordered { s with
      version := s.version + 1
      calls := s.calls.set call { c with todo := rest, drawn := some s.version } } := by
  have hmem := mem_of_getElem? hc
  obtain ⟨hnone, rfl⟩ := (hs.ok c hmem).planned.next htodo
  refine ⟨forall_mem_set (fun d hd => { hs.ok d hd with })
      ⟨suffix_rfl, (hs.ok c hmem).past, nofun⟩,
    forall_mem_set (fun d hd => forall_mem_set (hs.inOrder d hd) ?_) ?_⟩
  · intro n hn hlater r hr
    obtain rfl := some.inj hn
    have hundrawn : d.drawn = none := by
      refine eq_none_iff_forall_not_mem.mpr fun m hm => ?_
      have hlt := hdrawn.lt d hd m hm
      have hgt := hlater m hm
      omega
    have hcurrent := (hs.ok d hd).current hundrawn r hr
    exact ⟨fun _ => hcurrent, fun q hq hpart => hcurrent ▸ hpart ▸ (hs.ok c hmem).past q hq⟩
  · refine forall_mem_set (fun d hd n hn _ => hs.inOrder c hmem d hd n hn ?_) fun n hn hlater => ?_
    · simp [hnone]
    · exact absurd (hlater n hn) (Nat.lt_irrefl n)

/-- **A call reads.** What it reads is as it is, so no call has read it newer; and the calls that
draw after it and have read the part have read it as it is. -/
theorem read (hc : s.calls[call]? = some c) {part : InfoPart}
    (htodo : c.todo = .read part :: rest) :
    Ordered { s with calls := s.calls.set call { c with
      todo := readsAfter sids part (s.value part) ++ rest
      readings := ⟨part, s.value part, s.changes part⟩ :: c.readings } } := by
  have hmem := mem_of_getElem? hc
  have hok := hs.ok c hmem
  obtain ⟨hplanned, hmore⟩ := hok.planned.read htodo sids (s.value part)
  refine ⟨forall_mem_set (fun d hd => { hs.ok d hd with })
      ⟨hplanned, forall_mem_cons.mpr ⟨Nat.le_refl _, hok.past⟩,
        fun hnone => forall_mem_cons.mpr ⟨rfl, hok.current hnone⟩⟩,
    forall_mem_set (fun d hd => forall_mem_set (hs.inOrder d hd) ?_) ?_⟩
  · intro n hn hlater r hr
    obtain ⟨hwait, hread⟩ := hs.inOrder d hd c hmem n hn hlater r hr
    rw [hmore (ne_none_iff_exists'.mpr ⟨n, hn⟩), nil_append]
    refine ⟨fun hrest => hwait (htodo ▸ mem_cons_of_mem _ hrest),
      forall_mem_cons.mpr ⟨fun hpart => ?_, hread⟩⟩
    obtain rfl : part = r.part := hpart
    exact Nat.le_of_eq (hwait (htodo ▸ mem_cons_self)).symm
  · refine forall_mem_set (fun d hd n hn hlater => forall_mem_cons.mpr
      ⟨⟨fun _ => rfl, fun q hq hpart => ?_⟩, hs.inOrder c hmem d hd n hn hlater⟩)
      fun n hn hlater => ?_
    · obtain rfl : part = q.part := hpart.symm
      exact (hs.ok d hd).past q hq
    · exact absurd (hlater n hn) (Nat.lt_irrefl n)

end Ordered

/-- **Every step** in which no part is changed between its read and a draw. -/
theorem Ordered.step {a : InfoAction V} (hs : s.Ordered) (hdrawn : s.Drawn) (hG : s.Settled a)
    (hstep : step sids s a = some s') : s'.Ordered := by
  cases a with
  | change part value => exact hs.change hG hstep
  | begin => exact hs.begin hstep
  | access call =>
    simp only [Versioned.step] at hstep
    split at hstep
    · cases hstep
    · next c hc =>
      split at hstep
      · cases hstep
      · next rest htodo =>
        obtain rfl := some.inj hstep
        exact hs.next hc hdrawn htodo
      · next part rest htodo =>
        obtain rfl := some.inj hstep
        exact hs.read hc htodo

/-! ### Every interleaving -/

/-- **Two numbers give one version** if they are equal or the first two. -/
theorem versionOf_eq_iff {m n : Nat} (hm : m < 2 ^ 32) (hn : n < 2 ^ 32) :
    versionOf m = versionOf n ↔ m = n ∨ m ≤ 1 ∧ n ≤ 1 := by
  simp only [versionOf]
  omega

/-- **Versions order infos.** Of at most 2³² infos, two have the same version exactly if they are
the first two. If also no part has been changed between its read and the draw of a call, an info
with a higher version has read each part after at least as many changes. -/
theorem participant_versions_order_infos {value : InfoPart → V} {acts : List (InfoAction V)}
    (hrun : run (step sids) { value } acts = some s) (hcount : s.version ≤ 2 ^ 32)
    {i j v w : Nat} (hij : i ≠ j) (hc : s.calls[i]? = some c) (hd : s.calls[j]? = some d)
    (hv : v ∈ c.version) (hw : w ∈ d.version) :
    (v = w ↔ (∀ n ∈ c.drawn, n ≤ 1) ∧ ∀ n ∈ d.drawn, n ≤ 1) ∧
    (Along (step sids) Settled { value } acts → w < v →
      ∀ r ∈ c.readings, ∀ q ∈ d.readings, q.part = r.part → q.changes ≤ r.changes) := by
  have hnew : Drawn ({ value } : Versioned V) := ⟨nofun, distinct_nil _⟩
  have hdrawn : s.Drawn := run_invariant (fun _ _ _ => Drawn.step) hnew hrun
  have hcm := mem_of_getElem? hc
  have hdm := mem_of_getElem? hd
  obtain ⟨m, hm, rfl⟩ := map_eq_some_iff.mp hv
  obtain ⟨n, hn, rfl⟩ := map_eq_some_iff.mp hw
  have hmlt := hdrawn.lt c hcm m hm
  have hnlt := hdrawn.lt d hdm n hn
  have hmn : m ≠ n := by
    rintro rfl
    exact hij (hdrawn.distinct i j c d m hc hd hm hn)
  constructor
  · rw [versionOf_eq_iff (by omega) (by omega)]
    simp [hm, hn, hmn]
  · intro hG hlt r hr q hq hpart
    have hs := run_invariant_along (I := fun s => s.Drawn ∧ s.Ordered)
      (fun _ _ _ hs hG h => ⟨hs.1.step h, hs.2.step hs.1 hG h⟩) ⟨hnew, nofun, nofun⟩ hG hrun
    have hdraws : n < m := by
      simp only [versionOf] at hlt
      omega
    have hlater : ∀ m' ∈ c.drawn, n < m' := fun m' hm' => mem_unique hm hm' ▸ hdraws
    exact (hs.2.inOrder c hcm d hdm n hn hlater r hr).2 q hq hpart

/-- A participant without tracks, whose third info follows a change of its metadata. -/
def thirdInfo : List (InfoAction String) :=
  (.begin :: List.replicate 10 (.access 0)) ++ (.begin :: List.replicate 10 (.access 1)) ++
    .change .metadata "new" :: .begin :: List.replicate 10 (.access 2)

/-- The third info has a version of its own, and nothing older than the first. -/
theorem participant_versions_order_infos_third :
    ∃ s ∈ run (step fun _ => []) { value := fun _ => "" } thirdInfo,
      ∃ c ∈ s.calls[2]?, ∃ d ∈ s.calls[0]?, c.version = some 2 ∧ d.version = some 1 ∧
        ∀ r ∈ c.readings, ∀ q ∈ d.readings, q.part = r.part → q.changes ≤ r.changes := by
  have hG : Along (step fun _ => []) Settled { value := fun _ => "" } thirdInfo := by decide
  refine ⟨_, rfl, _, rfl, _, rfl, rfl, rfl, ?_⟩
  exact (participant_versions_order_infos rfl (by decide) (show 2 ≠ 0 by decide)
    rfl rfl rfl rfl).2 hG (by decide)

/-- **Versions that repeat, and a late draw.** The second and the third call give their infos the
same version; the first has read the metadata before it was changed, and draws after them. -/
theorem participant_version_repeats :
    (run (step fun _ => []) { value := fun _ => "old" }
      ((.begin :: List.replicate 6 (.access 0)) ++ .change .metadata "new" ::
        (.begin :: List.replicate 10 (.access 1)) ++ (.begin :: List.replicate 10 (.access 2)) ++
        List.replicate 4 (.access 0))).map
      (fun s => s.calls.map fun c =>
        (c.version, c.todo, c.readings.filter fun r => r.part = .metadata)) =
    some [(some 2, [], [⟨.metadata, "old", 0⟩]), (some 1, [], [⟨.metadata, "new", 1⟩]),
      (some 1, [], [⟨.metadata, "new", 1⟩])] := by
  decide

end Versioned
end LivekitVoice
