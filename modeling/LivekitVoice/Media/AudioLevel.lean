import Mathlib.Data.List.Nodup

/-! # Audio levels and active speakers

Every published track has a detector that is told the audio level of each packet, in dBov: `0` is
the loudest and `127` is silence. It counts the packets of a window of 400 ms, and the loud ones
among them. A window is evaluated by the first packet after its end, whenever that comes: from then
on the track is active if enough packets of the window were loud. A poll drops a track whose window
began 800 ms ago or more, and reports a participant if one of its tracks is active.

* **`recentFrom_observe_iff`** — which packets keep what a poll will report recent,
* **`sids_activeSpeakers`** — whom a poll reports. -/

namespace LivekitVoice

/-! ## The detector -/

/-- `ACTIVE_LEVEL_DBOV`: a packet at or below it is loud. -/
def activeLevelDbov : Nat := 35

/-- `MIN_PERCENTILE`: how many packets of a window are to be loud, in percent. -/
def minPercentile : Nat := 40

/-- `UPDATE_INTERVAL`, in nanoseconds. -/
def updateInterval : Nat := 400000000

/-- `SMOOTH_INTERVALS`: how many intervals make a window stale. -/
def smoothIntervals : Nat := 2

/-- The packets since a moment, and the loud ones among them. -/
structure AudioWindow where
  total : Nat
  activePackets : Nat
  started : Option Nat

/-- **The detector of a track.** -/
structure AudioLevelDetector where
  level : Nat
  active : Bool
  window : AudioWindow

/-- `u32::saturating_add(1)`. -/
def saturatingSucc (n : Nat) : Nat := min (n + 1) 4294967295

namespace AudioLevelDetector

/-- A detector that has seen no packet. -/
def new : AudioLevelDetector := ⟨127, false, ⟨0, 0, none⟩⟩

/-- `compute_active`, in `u32`. -/
def computeActive (total activePackets : Nat) : Bool :=
  if total = 0 then false else activePackets * 100 % 4294967296 / total ≥ minPercentile

variable (d : AudioLevelDetector)

/-- The window is over, or there is none. -/
def windowOver (now : Nat) : Bool :=
  d.window.started.all fun started => now - started ≥ updateInterval

/-- The detector with the window evaluated, if it is over, and a new one begun. -/
def evaluated (now : Nat) : AudioLevelDetector :=
  if d.windowOver now then
    { d with
      active := computeActive d.window.total d.window.activePackets
      window := ⟨0, 0, some now⟩ }
  else d

/-- **`observe`**: a packet. -/
def observe (level now : Nat) : AudioLevelDetector :=
  let d := d.evaluated now
  { level := level
    active := d.active
    window :=
      { d.window with
        total := saturatingSucc d.window.total
        activePackets :=
          if level ≤ activeLevelDbov then saturatingSucc d.window.activePackets
          else d.window.activePackets } }

/-- The window has begun too long ago. -/
def stale (now : Nat) : Bool :=
  d.window.started.any fun started => now - started ≥ updateInterval * smoothIntervals

/-- `reset_if_stale`. -/
def resetIfStale (now : Nat) : AudioLevelDetector :=
  if d.stale now then { d with active := false, level := 127 } else d

/-- **A poll finds the track active.** -/
def activeAt (now : Nat) : Bool := (d.resetIfStale now).active

variable {d : AudioLevelDetector} {level now t : Nat}

theorem activeAt_eq : d.activeAt now = (d.active && !d.stale now) := by
  unfold activeAt resetIfStale
  cases d.stale now <;> simp

@[simp] theorem active_observe : (d.observe level now).active = (d.evaluated now).active := rfl

@[simp] theorem started_observe :
    (d.observe level now).window.started = (d.evaluated now).window.started := rfl

end AudioLevelDetector

/-! ## Tracks -/

/-- The receiving side of a published track. -/
structure Forwarder where
  trackSid : String
  audio : AudioLevelDetector
  /-- When its last loud packet came. -/
  lastLoud : Option Nat

namespace Forwarder

/-- A track that has just been published. -/
def new (trackSid : String) : Forwarder := ⟨trackSid, .new, none⟩

/-- A packet comes. -/
def observe (f : Forwarder) (level now : Nat) : Forwarder :=
  { f with
    audio := f.audio.observe level now
    lastLoud := if level ≤ activeLevelDbov then some now else f.lastLoud }

/-- A poll. -/
def resetIfStale (f : Forwarder) (now : Nat) : Forwarder :=
  { f with audio := f.audio.resetIfStale now }

variable {f : Forwarder} {clock level now t : Nat}

/-- A loud packet came within the four intervals before `t`. -/
def LoudWithin (f : Forwarder) (t : Nat) : Prop :=
  ∃ p ∈ f.lastLoud, p ≤ t ∧ t < p + 4 * updateInterval

/-- **From `clock` on, whatever a poll finds has been loud recently.** -/
def RecentFrom (f : Forwarder) (clock : Nat) : Prop :=
  ∀ t, clock ≤ t → f.audio.activeAt t → f.LoudWithin t

/-- The last loud packet came before `clock`. -/
def LoudBefore (f : Forwarder) (clock : Nat) : Prop := ∀ p ∈ f.lastLoud, p ≤ clock

/-- **A window is not evaluated too late**: a packet that finds an active window over is loud
itself, or comes at most two intervals after the last loud one. -/
def EndsInTime (f : Forwarder) (level now : Nat) : Prop :=
  f.audio.windowOver now →
    AudioLevelDetector.computeActive f.audio.window.total f.audio.window.activePackets →
      level ≤ activeLevelDbov ∨ ∃ p ∈ f.lastLoud, now ≤ p + updateInterval * smoothIntervals

theorem recentFrom_new (trackSid : String) : (new trackSid).RecentFrom clock := by
  intro t _ h
  rw [AudioLevelDetector.activeAt_eq] at h
  cases h

theorem RecentFrom.mono (h : f.RecentFrom clock) (hle : clock ≤ now) : f.RecentFrom now :=
  fun t ht hactive => h t (Nat.le_trans hle ht) hactive

theorem LoudBefore.mono (h : f.LoudBefore clock) (hle : clock ≤ now) : f.LoudBefore now :=
  fun p hp => Nat.le_trans (h p hp) hle

theorem lastLoud_observe_of_loud (hloud : level ≤ activeLevelDbov) :
    (f.observe level now).lastLoud = some now :=
  if_pos hloud

theorem lastLoud_observe_of_quiet (hquiet : ¬ level ≤ activeLevelDbov) :
    (f.observe level now).lastLoud = f.lastLoud :=
  if_neg hquiet

theorem LoudBefore.observe (h : f.LoudBefore clock) (hle : clock ≤ now) :
    (f.observe level now).LoudBefore now := by
  intro p hp
  by_cases hloud : level ≤ activeLevelDbov
  · rw [lastLoud_observe_of_loud hloud] at hp
    cases hp
    exact Nat.le_refl _
  · rw [lastLoud_observe_of_quiet hloud] at hp
    exact Nat.le_trans (h p hp) hle

theorem RecentFrom.poll (h : f.RecentFrom clock) : (f.resetIfStale now).RecentFrom clock := by
  intro t ht hactive
  refine h t ht ?_
  simp only [resetIfStale, AudioLevelDetector.resetIfStale] at hactive
  split at hactive
  · simp [AudioLevelDetector.activeAt_eq] at hactive
  · exact hactive

theorem loudWithin_observe_of_loud (hloud : level ≤ activeLevelDbov) (hnow : now ≤ t)
    (hlt : t < now + 4 * updateInterval) : (f.observe level now).LoudWithin t :=
  ⟨now, lastLoud_observe_of_loud hloud, hnow, hlt⟩

theorem LoudWithin.observe (h : f.LoudWithin t) (hnow : now ≤ t) (hbefore : f.LoudBefore now) :
    (f.observe level now).LoudWithin t := by
  obtain ⟨p, hp, hpt, hlt⟩ := h
  by_cases hloud : level ≤ activeLevelDbov
  · refine loudWithin_observe_of_loud hloud hnow ?_
    exact Nat.lt_of_lt_of_le hlt (Nat.add_le_add_right (hbefore p hp) _)
  · exact ⟨p, (lastLoud_observe_of_quiet hloud).symm ▸ hp, hpt, hlt⟩

/-- **After a packet, whatever a poll finds has been loud recently**, exactly if the packet does
not evaluate an active window too late. -/
theorem recentFrom_observe_iff (hclock : clock ≤ now) (hbefore : f.LoudBefore clock)
    (h : f.RecentFrom clock) : (f.observe level now).RecentFrom now ↔ f.EndsInTime level now := by
  cases hover : f.audio.windowOver now with
  | false =>
    -- inside a window polls find what they found before
    refine iff_of_true (fun t ht hactive => ?_) fun hcontra => ?_
    · have heval : f.audio.evaluated now = f.audio := by simp [AudioLevelDetector.evaluated, hover]
      have hsame : (f.observe level now).audio.activeAt t = f.audio.activeAt t := by
        simp only [observe, AudioLevelDetector.activeAt_eq, AudioLevelDetector.stale,
          AudioLevelDetector.active_observe, AudioLevelDetector.started_observe, heval]
      rw [hsame] at hactive
      exact LoudWithin.observe (h t (Nat.le_trans hclock ht) hactive) ht (hbefore.mono hclock)
    · simp [hover] at hcontra
  | true =>
    -- polls find what the last window was, for two intervals
    have hpoll : ∀ t, (f.observe level now).audio.activeAt t ↔
        AudioLevelDetector.computeActive f.audio.window.total f.audio.window.activePackets ∧
          t - now < updateInterval * smoothIntervals := fun t => by
      rw [observe, AudioLevelDetector.activeAt_eq, AudioLevelDetector.active_observe,
        AudioLevelDetector.stale, AudioLevelDetector.started_observe]
      simp [AudioLevelDetector.evaluated, hover]
    constructor
    · intro hrecent _ hcompute
      -- the latest poll that finds the track active comes just before two intervals are over
      have hlast : (f.observe level now).LoudWithin
          (now + (updateInterval * smoothIntervals - 1)) := by
        refine hrecent _ (Nat.le_add_right _ _) ((hpoll _).mpr ⟨hcompute, ?_⟩)
        rw [Nat.add_sub_cancel_left]
        decide
      obtain ⟨p, hp, -, hlt⟩ := hlast
      by_cases hloud : level ≤ activeLevelDbov
      · exact .inl hloud
      · rw [lastLoud_observe_of_quiet hloud] at hp
        refine .inr ⟨p, hp, ?_⟩
        simp only [updateInterval, smoothIntervals] at hlt ⊢
        omega
    · intro hguard t ht hactive
      obtain ⟨hcompute, hlt⟩ := (hpoll t).mp hactive
      simp only [updateInterval, smoothIntervals] at hlt
      by_cases hloud : level ≤ activeLevelDbov
      · refine loudWithin_observe_of_loud hloud ht ?_
        simp only [updateInterval]
        omega
      · obtain ⟨p, hp, hle⟩ := (hguard hover hcompute).resolve_left hloud
        refine LoudWithin.observe ⟨p, hp, ?_, ?_⟩ ht (hbefore.mono hclock)
        · exact Nat.le_trans (hbefore p hp) (Nat.le_trans hclock ht)
        · simp only [updateInterval, smoothIntervals] at hle ⊢
          omega

end Forwarder

/-! ## Active speakers -/

/-- A participant, and its published tracks. -/
structure Speaker where
  sid : String
  forwarders : List Forwarder

/-- `lk.SpeakerInfo`; the level is the one in dBov. -/
structure SpeakerInfo where
  sid : String
  level : Nat
  active : Bool

/-- Polls the tracks of a participant up to the first active one: its level, and the tracks. -/
def pollForwarders (now : Nat) : List Forwarder → Option Nat × List Forwarder
  | [] => (none, [])
  | f :: rest =>
    let polled := f.resetIfStale now
    if polled.audio.active then (some polled.audio.level, polled :: rest)
    else
      let found := pollForwarders now rest
      (found.1, polled :: found.2)

namespace Speaker

/-- Polls a participant: its entry, if it is a speaker. -/
def poll (now : Nat) (p : Speaker) : Option SpeakerInfo × Speaker :=
  let found := pollForwarders now p.forwarders
  (found.1.map fun level => ⟨p.sid, level, true⟩, { p with forwarders := found.2 })

/-- A poll finds one of its tracks active. -/
def speaksAt (now : Nat) (p : Speaker) : Bool := p.forwarders.any fun f => f.audio.activeAt now

end Speaker

/-- **`active_speakers`**: the speakers, and the participants after the poll. -/
def activeSpeakers (now : Nat) (participants : List Speaker) : List SpeakerInfo × List Speaker :=
  (participants.filterMap fun p => (p.poll now).1, participants.map fun p => (p.poll now).2)

variable {now : Nat} {fs : List Forwarder} {ps : List Speaker}

theorem isSome_pollForwarders :
    (pollForwarders now fs).1.isSome = fs.any fun f => f.audio.activeAt now := by
  induction fs with
  | nil => rfl
  | cons f rest ih =>
    have hactive : (f.resetIfStale now).audio.active = f.audio.activeAt now := rfl
    rw [pollForwarders, List.any_cons]
    dsimp only
    rw [hactive]
    cases f.audio.activeAt now with
    | true => rfl
    | false => simpa using ih

/-- **The tracks after a poll** are those from before, some of them reset. -/
theorem forall_mem_pollForwarders {P : Forwarder → Prop} (hkeep : ∀ f ∈ fs, P f)
    (hreset : ∀ f ∈ fs, P (f.resetIfStale now)) : ∀ f ∈ (pollForwarders now fs).2, P f := by
  induction fs with
  | nil => simp [pollForwarders]
  | cons f rest ih =>
    have hrest : ∀ g ∈ (pollForwarders now rest).2, P g :=
      ih (fun g hg => hkeep g (List.mem_cons_of_mem f hg))
        fun g hg => hreset g (List.mem_cons_of_mem f hg)
    have hf := hreset f List.mem_cons_self
    rw [pollForwarders]
    dsimp only
    split
    · exact List.forall_mem_cons.mpr
        ⟨hf, fun g hg => hkeep g (List.mem_cons_of_mem f hg)⟩
    · exact List.forall_mem_cons.mpr ⟨hf, hrest⟩

/-- **Whom a poll reports**: the participants with an active track. -/
theorem sids_activeSpeakers :
    (activeSpeakers now ps).1.map SpeakerInfo.sid = (ps.filter (Speaker.speaksAt now)).map
      Speaker.sid := by
  induction ps with
  | nil => rfl
  | cons p ps ih =>
    have hsome : (pollForwarders now p.forwarders).1.isSome = p.speaksAt now :=
      isSome_pollForwarders
    simp only [activeSpeakers] at ih ⊢
    rw [List.filterMap_cons, List.filter_cons, ← hsome]
    cases hlevel : (pollForwarders now p.forwarders).1 with
    | _ => simpa [Speaker.poll, hlevel] using ih

theorem sids_after_activeSpeakers :
    (activeSpeakers now ps).2.map Speaker.sid = ps.map Speaker.sid := by
  simp [activeSpeakers, Speaker.poll]

end LivekitVoice
