import Mathlib.Data.Finset.Basic
import Mathlib.Data.Finset.Lattice.Lemmas
import Mathlib.Data.List.Sort
import LivekitVoice.Media.AudioLevel
import LivekitVoice.Text.Slice
import LivekitVoice.Transition.Run

/-! # Active speakers of a room

Every 400 ms the server polls the tracks of a room and, if the speakers are not the ones it has
last reported, sends all participants a `SpeakersChanged` with an entry for each speaker. What it
has last reported is kept as the sorted sids of the speakers, joined by commas. A client puts an
entry that is active into its set of speakers and takes an entry that is not active out of it. A run
mixes packets, tracks that are published and unpublished, participants that join and leave, and
ticks, at times that do not go back.

* **`recent_speakers_iff`** — when whatever a poll reports has been loud of late,
* **`speaker_set_iff`** — when a client knows the speakers after every tick. -/

namespace LivekitVoice

open List Transition

/-! ## Sids -/

/-- The characters of a random id. -/
def idAlphabet : List Char :=
  "abcdefghijklmnopqrstuvwxyzABCDEFGHIJKLMNOPQRSTUVWXYZ0123456789".toList

/-- **What `generate_id` draws.** -/
structure GeneratedId where
  suffix : List Char
  drawn : suffix.all (fun c => idAlphabet.contains c)
  length : suffix.length = 12

/-- `new_participant_sid`. -/
def newParticipantSid (id : GeneratedId) : String := "PA_" ++ String.ofList id.suffix

/-- The id that one character gives. -/
def GeneratedId.repeated (c : Char) (h : idAlphabet.contains c) : GeneratedId where
  suffix := List.replicate 12 c
  drawn := by
    rw [all_replicate, h]
    rfl
  length := length_replicate

/-- A text that is not empty and has no comma. -/
def ListableSid (sid : String) : Prop := sid ≠ "" ∧ ',' ∉ sid.toList

theorem listable_newParticipantSid (id : GeneratedId) : ListableSid (newParticipantSid id) := by
  have hcomma : idAlphabet.contains ',' = false := by decide
  refine ⟨fun h => ?_, fun h => ?_⟩
  · have hlist := congrArg String.toList h
    simp [newParticipantSid] at hlist
  · rw [newParticipantSid, String.toList_append, mem_append] at h
    rcases h with h | h
    · revert h
      decide
    · rw [String.toList_ofList] at h
      have hdrawn := all_eq_true.mp id.drawn ',' h
      rw [hcomma] at hdrawn
      cases hdrawn

/-- **What was last reported**: the sorted sids, joined by commas. -/
def speakerKey (sids : List String) : String := ",".intercalate (sids.insertionSort (· ≤ ·))

/-- **The key tells the speakers.** -/
theorem toFinset_eq_of_speakerKey_eq {sids sids' : List String} (h : ∀ x ∈ sids, ListableSid x)
    (hother : ∀ x ∈ sids', ListableSid x) (hkey : speakerKey sids = speakerKey sids') :
    sids.toFinset = sids'.toFinset := by
  have hmem : ∀ {l : List String} {x : String}, x ∈ l.insertionSort (· ≤ ·) ↔ x ∈ l :=
    fun {l} _ => (perm_insertionSort (· ≤ ·) l).mem_iff
  have hglue : ",".toList = [','] := by decide
  have hsorted : sids.insertionSort (· ≤ ·) = sids'.insertionSort (· ≤ ·) := by
    refine Text.eq_of_join_eq hglue (fun x hx => (h x (hmem.mp hx)).2)
      (fun x hx => (hother x (hmem.mp hx)).2) (fun hx => ?_) (fun hx => ?_) hkey
    · exact (h "" (hmem.mp hx)).1 rfl
    · exact (hother "" (hmem.mp hx)).1 rfl
  ext x
  rw [mem_toFinset, mem_toFinset, ← hmem, hsorted, hmem]

example : speakerKey ["PA_b", "PA_a"] = "PA_a,PA_b" := by decide +kernel

/-! ## The room -/

/-- The tracks of participant `sid` are changed. -/
def Speaker.change (sid : String) (f : List Forwarder → List Forwarder) (p : Speaker) : Speaker :=
  if p.sid = sid then { p with forwarders := f p.forwarders } else p

/-- **A room, and what one of its clients knows.** -/
structure SpeakerRoom where
  /-- The time, in nanoseconds. -/
  clock : Nat
  participants : List Speaker
  /-- The key that was last reported. -/
  speakerState : String
  /-- Who was active at the last tick. -/
  spoke : Finset String
  /-- The set that the client keeps. -/
  kept : Finset String

/-- **What happens in a room.** -/
inductive SpeakerAction
  | join (id : GeneratedId)
  | leave (sid : String)
  | publish (sid trackSid : String)
  | unpublish (sid trackSid : String)
  /-- A packet with an audio level. -/
  | observe (sid trackSid : String) (level now : Nat)
  /-- `broadcast_speakers`. -/
  | tick (now : Nat)

/-- Participants and tracks come and go. -/
def SpeakerAction.isMove : SpeakerAction → Bool
  | .join _ | .leave _ | .publish _ _ | .unpublish _ _ => true
  | .observe _ _ _ _ | .tick _ => false

/-- What a client does with a `SpeakersChanged`. -/
def updateSpeakers (kept : Finset String) (speakers : List SpeakerInfo) : Finset String :=
  speakers.foldl
    (fun kept info => if info.active then insert info.sid kept else kept.erase info.sid) kept

namespace SpeakerRoom

variable (client : GeneratedId)

/-- A room that the client has just started. -/
def new : SpeakerRoom := ⟨0, [⟨newParticipantSid client, []⟩], "", ∅, ∅⟩

variable (s : SpeakerRoom)

/-- The sids of the participants. -/
def sids : List String := s.participants.map Speaker.sid

/-- Who would be reported at a time. -/
def speakersAt (now : Nat) : Finset String :=
  ((activeSpeakers now s.participants).1.map SpeakerInfo.sid).toFinset

/-- The tracks of a participant are changed. -/
def change (sid : String) (f : List Forwarder → List Forwarder) : SpeakerRoom :=
  { s with participants := s.participants.map (Speaker.change sid f) }

/-- A packet comes, on one of the tracks of a participant. -/
def receivePacket (sid trackSid : String) (level now : Nat) : SpeakerRoom :=
  { s.change sid fun fs =>
      fs.map fun f => if f.trackSid = trackSid then f.observe level now else f with
    clock := now }

/-- **`broadcast_speakers`**, for this room. -/
def broadcastSpeakers (now : Nat) : SpeakerRoom :=
  let polled := activeSpeakers now s.participants
  let key := speakerKey (polled.1.map SpeakerInfo.sid)
  { clock := now
    participants := polled.2
    speakerState := key
    spoke := s.speakersAt now
    -- a message goes to all participants if the key is a new one
    kept :=
      if s.speakerState ≠ key ∧ newParticipantSid client ∈ s.sids then
        updateSpeakers s.kept polled.1
      else s.kept }

/-- **One step of a room.** The client does not leave. -/
def step : SpeakerAction → Option SpeakerRoom
  | .join id =>
    if newParticipantSid id ∈ s.sids then none
    else some { s with participants := s.participants ++ [⟨newParticipantSid id, []⟩] }
  | .leave sid =>
    if sid = newParticipantSid client then none
    else some { s with participants := s.participants.filter fun p => p.sid ≠ sid }
  | .publish sid trackSid =>
    -- a forwarder of that name is replaced
    some (s.change sid fun fs => fs.filter (fun f => f.trackSid ≠ trackSid) ++ [.new trackSid])
  | .unpublish sid trackSid =>
    some (s.change sid fun fs => fs.filter fun f => f.trackSid ≠ trackSid)
  | .observe sid trackSid level now =>
    if s.clock ≤ now then some (s.receivePacket sid trackSid level now) else none
  | .tick now => if s.clock ≤ now then some (s.broadcastSpeakers client now) else none

variable {client : GeneratedId} {s s' : SpeakerRoom} {a : SpeakerAction} {sid trackSid : String}
  {level now : Nat}

/-! ## All tracks of a room -/

/-- All tracks of the room have a property. -/
def EveryTrack (P : Forwarder → Prop) (s : SpeakerRoom) : Prop :=
  ∀ p ∈ s.participants, ∀ f ∈ p.forwarders, P f

variable {P : Forwarder → Prop} {g : List Forwarder → List Forwarder}

theorem everyTrack_change :
    EveryTrack P (s.change sid g) ↔
      ∀ p ∈ s.participants, (p.sid = sid → ∀ f ∈ g p.forwarders, P f) ∧
        (p.sid ≠ sid → ∀ f ∈ p.forwarders, P f) := by
  unfold EveryTrack change
  rw [forall_mem_map]
  refine forall₂_congr fun p _ => ?_
  by_cases hsid : p.sid = sid <;> simp [Speaker.change, hsid]

theorem EveryTrack.change (h : EveryTrack P s)
    (hg : ∀ fs : List Forwarder, (∀ f ∈ fs, P f) → ∀ f ∈ g fs, P f) :
    EveryTrack P (s.change sid g) :=
  everyTrack_change.mpr fun p hp => ⟨fun _ => hg p.forwarders (h p hp), fun _ => h p hp⟩

/-- **All tracks, after a tick.** -/
theorem EveryTrack.broadcastSpeakers (hkeep : EveryTrack P s)
    (hreset : EveryTrack (fun f => P (f.resetIfStale now)) s) :
    EveryTrack P (s.broadcastSpeakers client now) :=
  forall_mem_map.mpr fun p hp => forall_mem_pollForwarders (hkeep p hp) (hreset p hp)

theorem sids_change : (s.change sid g).sids = s.sids := by
  unfold sids change
  rw [map_map]
  refine map_congr_left fun p _ => ?_
  unfold Function.comp Speaker.change
  split <;> rfl

/-! ## What a step does -/

/-- **The effect of a step.** -/
inductive Effect (client : GeneratedId) (s : SpeakerRoom) : SpeakerAction → SpeakerRoom → Prop
  /-- Participants and tracks come and go. -/
  | moves (a : SpeakerAction) (participants : List Speaker)
      (ha : a.isMove)
      (htracks : ∀ P : Forwarder → Prop, (∀ trackSid, P (.new trackSid)) → EveryTrack P s →
        EveryTrack P { s with participants := participants })
      (hsids : ∀ sid ∈ participants.map Speaker.sid, sid ∈ s.sids ∨ ListableSid sid)
      (hclient : newParticipantSid client ∈ s.sids →
        newParticipantSid client ∈ participants.map Speaker.sid) :
      Effect client s a { s with participants := participants }
  /-- A packet comes. -/
  | observes (sid trackSid : String) (level now : Nat) (hclock : s.clock ≤ now) :
      Effect client s (.observe sid trackSid level now) (s.receivePacket sid trackSid level now)
  /-- The speakers are polled. -/
  | ticks (now : Nat) (hclock : s.clock ≤ now) :
      Effect client s (.tick now) (s.broadcastSpeakers client now)

theorem effect_change (ha : a.isMove)
    (hg : ∀ P : Forwarder → Prop, (∀ trackSid, P (.new trackSid)) →
      ∀ fs : List Forwarder, (∀ f ∈ fs, P f) → ∀ f ∈ g fs, P f) :
    Effect client s a (s.change sid g) := by
  refine .moves a _ ha (fun P hnew htracks => htracks.change (hg P hnew))
    (fun x hx => .inl (sids_change ▸ hx)) fun hclient => ?_
  show newParticipantSid client ∈ (s.change sid g).sids
  rwa [sids_change]

/-- **Every step has one of these effects.** -/
theorem effect_of_step (h : step client s a = some s') : Effect client s a s' := by
  revert h
  fun_cases step client s a <;> rintro ⟨⟩
  case case2 id _ =>
    refine .moves _ _ rfl (fun P _ htracks => ?_) (fun sid hsid => ?_) fun hclient => ?_
    · exact forall_mem_append.mpr ⟨htracks, by simp⟩
    · rw [map_append, mem_append, map_singleton, mem_singleton] at hsid
      rcases hsid with hsid | rfl
      · exact .inl hsid
      · exact .inr (listable_newParticipantSid id)
    · rw [map_append]
      exact mem_append_left _ hclient
  case case4 sid hother =>
    refine .moves _ _ rfl (fun P _ htracks => ?_) (fun x hx => ?_) fun hclient => ?_
    · exact fun p hp => htracks p (mem_of_mem_filter hp)
    · obtain ⟨p, hp, rfl⟩ := mem_map.mp hx
      exact .inl (mem_map_of_mem (mem_of_mem_filter hp))
    · obtain ⟨p, hp, hpsid⟩ := mem_map.mp hclient
      exact mem_map.mpr ⟨p, by simpa [hp, hpsid] using Ne.symm hother, hpsid⟩
  case case5 sid trackSid =>
    refine effect_change rfl fun P hnew fs hfs => forall_mem_append.mpr ⟨?_, ?_⟩
    · exact fun f hf => hfs f (mem_of_mem_filter hf)
    · exact forall_mem_singleton.mpr (hnew trackSid)
  case case6 => exact effect_change rfl fun P _ fs hfs f hf => hfs f (mem_of_mem_filter hf)
  case case7 hclock => exact .observes _ _ _ _ hclock
  case case9 hclock => exact .ticks _ hclock

/-! ## Recent speakers -/

/-- **Whatever a poll will find has been loud recently.** -/
def SpokeRecently (s : SpeakerRoom) : Prop := EveryTrack (fun f => f.RecentFrom s.clock) s

/-- No loud packet is in the future. -/
def PastPackets (s : SpeakerRoom) : Prop := EveryTrack (fun f => f.LoudBefore s.clock) s

/-- **No active window is evaluated too late.** -/
def EvaluatesInTime (s : SpeakerRoom) : SpeakerAction → Prop
  | .observe sid trackSid level now =>
    s.clock ≤ now → ∀ p ∈ s.participants, p.sid = sid →
      ∀ f ∈ p.forwarders, f.trackSid = trackSid → f.EndsInTime level now
  | _ => True

/-- **After a packet** all tracks have been loud recently exactly if its own is evaluated in
time. -/
theorem spokeRecently_observe_iff (hclock : s.clock ≤ now) (hs : SpokeRecently s)
    (hpast : PastPackets s) :
    SpokeRecently (s.receivePacket sid trackSid level now) ↔
      EvaluatesInTime s (.observe sid trackSid level now) := by
  unfold SpokeRecently
  refine everyTrack_change.trans ?_
  constructor
  · intro h _ p hp hsid f hf htrack
    have hrecent := (h p hp).1 hsid _ (mem_map_of_mem hf)
    rw [if_pos htrack] at hrecent
    exact (Forwarder.recentFrom_observe_iff hclock (hpast p hp f hf) (hs p hp f hf)).mp hrecent
  · intro hguard p hp
    refine ⟨fun hsid => forall_mem_map.mpr fun f hf => ?_, fun _ f hf => ?_⟩
    · by_cases htrack : f.trackSid = trackSid
      · rw [if_pos htrack]
        exact (Forwarder.recentFrom_observe_iff hclock (hpast p hp f hf) (hs p hp f hf)).mpr
          (hguard hclock p hp hsid f hf htrack)
      · rw [if_neg htrack]
        exact (hs p hp f hf).mono hclock
    · exact (hs p hp f hf).mono hclock

/-- **One step**: all tracks have been loud recently exactly if no window is evaluated too late. -/
theorem spokeRecently_step_iff (hs : SpokeRecently s) (hpast : PastPackets s)
    (h : step client s a = some s') : SpokeRecently s' ↔ EvaluatesInTime s a := by
  cases effect_of_step h with
  | moves _ participants ha htracks hsids hclient =>
    refine iff_of_true (htracks _ (Forwarder.recentFrom_new) hs) ?_
    cases a with
    | observe sid trackSid level now => cases ha
    | _ => trivial
  | observes sid trackSid level now hclock => exact spokeRecently_observe_iff hclock hs hpast
  | ticks now hclock =>
    refine iff_of_true ?_ trivial
    exact EveryTrack.broadcastSpeakers (fun p hp f hf => (hs p hp f hf).mono hclock)
      fun p hp f hf => (hs p hp f hf).poll.mono hclock

/-- **The clock goes on**, and packets come at its time. -/
theorem PastPackets.step (hpast : PastPackets s) (h : step client s a = some s') :
    PastPackets s' := by
  cases effect_of_step h with
  | moves _ participants ha htracks hsids hclient =>
    exact htracks _ (fun _ => nofun) hpast
  | observes sid trackSid level now hclock =>
    refine everyTrack_change.mpr fun p hp => ⟨fun _ => ?_, fun _ f hf => ?_⟩
    · refine forall_mem_map.mpr fun f hf => ?_
      split
      · exact (hpast p hp f hf).observe hclock
      · exact (hpast p hp f hf).mono hclock
    · exact (hpast p hp f hf).mono hclock
  | ticks now hclock =>
    -- a poll does not touch the packets
    exact EveryTrack.broadcastSpeakers (fun p hp f hf => (hpast p hp f hf).mono hclock)
      fun p hp f hf => (hpast p hp f hf).mono hclock

/-- **Who is reported has been loud recently**, if all active tracks have. -/
theorem SpokeRecently.reported (hs : SpokeRecently s) {t : Nat} (ht : s.clock ≤ t)
    {info : SpeakerInfo} (hinfo : info ∈ (activeSpeakers t s.participants).1) :
    ∃ p ∈ s.participants, p.sid = info.sid ∧ ∃ f ∈ p.forwarders, f.LoudWithin t := by
  have hsid : info.sid ∈ (s.participants.filter (Speaker.speaksAt t)).map Speaker.sid := by
    rw [← sids_activeSpeakers]
    exact mem_map_of_mem hinfo
  obtain ⟨p, hp, hpsid⟩ := mem_map.mp hsid
  obtain ⟨hp, hspeaks⟩ := mem_filter.mp hp
  obtain ⟨f, hf, hactive⟩ := any_eq_true.mp hspeaks
  exact ⟨p, hp, hpsid, f, hf, hs p hp f hf t ht hactive⟩

/-- **Recent speakers.** Whatever track a poll at any time finds active had a loud packet within the
four intervals before, exactly if no window with enough loud packets is evaluated too late; and then
so had a track of everybody whom `active_speakers` reports. -/
theorem recent_speakers_iff (client : GeneratedId) (as : List SpeakerAction) :
    (Throughout (step client) SpokeRecently (new client) as ↔
        Along (step client) EvaluatesInTime (new client) as) ∧
      (Along (step client) EvaluatesInTime (new client) as →
        Throughout (step client) (fun s => ∀ t, s.clock ≤ t →
          ∀ info ∈ (activeSpeakers t s.participants).1,
            ∃ p ∈ s.participants, p.sid = info.sid ∧ ∃ f ∈ p.forwarders, f.LoudWithin t)
          (new client) as) := by
  have hiff : Throughout (step client) SpokeRecently (new client) as ↔
      Along (step client) EvaluatesInTime (new client) as := by
    refine throughout_iff_along (I := fun s => SpokeRecently s ∧ PastPackets s)
      (fun s hs => hs.1) (fun s a hnone => ?_)
      (fun s a s' hs hG h => ⟨(spokeRecently_step_iff hs.1 hs.2 h).mpr hG, hs.2.step h⟩)
      (fun s a s' hs h hP => (spokeRecently_step_iff hs.1 hs.2 h).mp hP) ?_
    · -- a packet that is not enabled would come from the past
      cases a with
      | observe sid trackSid level now =>
        intro hclock
        simp [step, hclock] at hnone
      | _ => trivial
    · constructor
      · simp [SpokeRecently, EveryTrack, new]
      · simp [PastPackets, EveryTrack, new]
  exact ⟨hiff, fun hin n s hrun t ht info hinfo => (hiff.mpr hin n s hrun).reported ht hinfo⟩

/-- The sid of a client in a sample room. -/
def sampleClient : GeneratedId := .repeated 'a' (by decide)

/-- **A speaker who has been silent for ten seconds.** One loud packet, a tick that drops the track,
and then a silent packet, which evaluates the window of the loud one. -/
theorem recent_speakers_late :
    let alice := newParticipantSid sampleClient
    (run (step sampleClient) (new sampleClient)
        [.publish alice "TR_1", .observe alice "TR_1" 10 0, .tick 5000000000,
          .observe alice "TR_1" 127 10000000000]).map
        (fun s => ((activeSpeakers 10000000000 s.participants).1.map SpeakerInfo.sid,
          s.participants.map fun p => p.forwarders.map Forwarder.lastLoud)) =
      some ([alice], [[some 0]]) := by
  decide +kernel

/-! ## The set of a client -/

theorem updateSpeakers_of_active {kept : Finset String} {speakers : List SpeakerInfo}
    (hactive : ∀ info ∈ speakers, info.active) :
    updateSpeakers kept speakers = kept ∪ (speakers.map SpeakerInfo.sid).toFinset := by
  induction speakers generalizing kept with
  | nil => simp [updateSpeakers]
  | cons info speakers ih =>
    have hinfo : info.active := hactive info mem_cons_self
    have hrest : updateSpeakers (insert info.sid kept) speakers = _ :=
      ih fun x hx => hactive x (mem_cons_of_mem info hx)
    unfold updateSpeakers at hrest ⊢
    rw [foldl_cons, if_pos hinfo, hrest, map_cons, toFinset_cons,
      Finset.insert_union, Finset.union_insert]

/-- **What the server knows**: the client is there, and the key is that of the last speakers. -/
structure InStep (client : GeneratedId) (s : SpeakerRoom) : Prop where
  /-- The client is in the room. -/
  present : newParticipantSid client ∈ s.sids
  /-- The sids can be listed. -/
  listable : ∀ sid ∈ s.sids, ListableSid sid
  /-- The key is that of the last speakers. -/
  key : ∃ sids : List String, (∀ sid ∈ sids, ListableSid sid) ∧ s.speakerState = speakerKey sids ∧
    sids.toFinset = s.spoke

theorem inStep_new : InStep client (new client) := by
  refine ⟨mem_singleton_self _, fun sid hsid => ?_, ⟨[], by simp, rfl, rfl⟩⟩
  obtain rfl := mem_singleton.mp hsid
  exact listable_newParticipantSid client

theorem InStep.listable_reported (hs : InStep client s) (now : Nat) :
    ∀ sid ∈ (activeSpeakers now s.participants).1.map SpeakerInfo.sid, ListableSid sid := by
  intro sid hsid
  rw [sids_activeSpeakers] at hsid
  obtain ⟨p, hp, rfl⟩ := mem_map.mp hsid
  exact hs.listable p.sid (mem_map_of_mem (mem_of_mem_filter hp))

/-- **A tick keeps the key right.** -/
theorem InStep.broadcastSpeakers (hs : InStep client s) (now : Nat) :
    InStep client (s.broadcastSpeakers client now) := by
  have hsids : (s.broadcastSpeakers client now).sids = s.sids := sids_after_activeSpeakers
  refine ⟨?_, ?_, _, hs.listable_reported now, rfl, rfl⟩
  · rw [hsids]
    exact hs.present
  · rw [hsids]
    exact hs.listable

/-- **Every step keeps what the server knows.** -/
theorem InStep.step (hs : InStep client s) (h : step client s a = some s') : InStep client s' := by
  cases effect_of_step h with
  | moves _ participants ha htracks hsids hclient =>
    refine ⟨hclient hs.present, fun sid hsid => ?_, hs.key⟩
    rcases hsids sid hsid with hold | hnew
    · exact hs.listable sid hold
    · exact hnew
  | observes sid trackSid level now hclock =>
    have hsids : (s.receivePacket sid trackSid level now).sids = s.sids := sids_change
    refine ⟨hsids.symm ▸ hs.present, fun x hx => hs.listable x (hsids ▸ hx), hs.key⟩
  | ticks now hclock => exact hs.broadcastSpeakers now

/-- **The client knows the speakers of the last tick.** -/
def KnowsSpeakers (s : SpeakerRoom) : Prop := s.kept = s.spoke

/-- **Everybody who spoke at the last tick still speaks** at this one. -/
def StillSpeaks (s : SpeakerRoom) : SpeakerAction → Prop
  | .tick now => s.clock ≤ now → s.spoke ⊆ s.speakersAt now
  | _ => True

/-- **After a tick** the client knows the speakers of the last tick and of this one: entries are
only ever added. -/
theorem kept_broadcastSpeakers (hs : InStep client s) (hknows : KnowsSpeakers s) :
    (s.broadcastSpeakers client now).kept = s.spoke ∪ s.speakersAt now := by
  obtain ⟨sids, hlist, hstate, hspoke⟩ := hs.key
  by_cases hkey : s.speakerState =
      speakerKey ((activeSpeakers now s.participants).1.map SpeakerInfo.sid)
  · -- no message: the speakers are the ones of the last tick
    have hsame : s.spoke = s.speakersAt now := by
      rw [← hspoke]
      exact toFinset_eq_of_speakerKey_eq hlist (hs.listable_reported now) (hstate ▸ hkey)
    refine (if_neg fun h => h.1 hkey).trans ?_
    rw [hknows, ← hsame, Finset.union_self]
  · refine (if_pos ⟨hkey, hs.present⟩).trans ?_
    rw [updateSpeakers_of_active (fun _ h => ?_), hknows]
    · rfl
    · obtain ⟨p, -, hp⟩ := mem_filterMap.mp h
      obtain ⟨level, -, rfl⟩ := Option.map_eq_some_iff.mp hp
      rfl

/-- **One step**: the client knows the speakers exactly if all speakers still speak. -/
theorem knowsSpeakers_step_iff (hs : InStep client s) (hknows : KnowsSpeakers s)
    (h : step client s a = some s') : KnowsSpeakers s' ↔ StillSpeaks s a := by
  cases effect_of_step h with
  | moves _ participants ha htracks hsids hclient =>
    refine iff_of_true hknows ?_
    cases a with
    | tick now => cases ha
    | _ => trivial
  | observes sid trackSid level now hclock => exact iff_of_true hknows trivial
  | ticks now hclock =>
    unfold KnowsSpeakers
    rw [kept_broadcastSpeakers hs hknows]
    refine Finset.union_eq_right.trans ?_
    exact ⟨fun h _ => h, fun h => h hclock⟩

/-- **The set of a client.** After every tick the client knows who is active, exactly if everybody
who was active at one tick is active at the next one. -/
theorem speaker_set_iff (client : GeneratedId) (as : List SpeakerAction) :
    Throughout (step client) KnowsSpeakers (new client) as ↔
      Along (step client) StillSpeaks (new client) as := by
  refine throughout_iff_along (I := fun s => InStep client s ∧ KnowsSpeakers s)
    (fun s hs => hs.2) (fun s a hnone => ?_)
    (fun s a s' hs hG h => ⟨hs.1.step h, (knowsSpeakers_step_iff hs.1 hs.2 h).mpr hG⟩)
    (fun s a s' hs h hP => (knowsSpeakers_step_iff hs.1 hs.2 h).mp hP) ⟨inStep_new, rfl⟩
  cases a with
  | tick now =>
    intro hclock
    simp [step, hclock] at hnone
  | _ => trivial

/-- A participant of a sample room. -/
def sampleSpeaker : GeneratedId := .repeated 'b' (by decide)

/-- **A speaker goes silent.** The first tick reports them; the second one finds nobody active, and
its message has no entry, so the client keeps them. -/
theorem speaker_set_kept :
    let bob := newParticipantSid sampleSpeaker
    (run (step sampleClient) (new sampleClient)
        [.join sampleSpeaker, .publish bob "TR_1", .observe bob "TR_1" 10 0,
          .observe bob "TR_1" 10 400000000, .tick 400000000, .observe bob "TR_1" 127 800000000,
          .observe bob "TR_1" 127 1200000000, .tick 1200000000]).map
        (fun s => (s.spoke, s.kept)) = some (∅, {bob}) := by
  decide +kernel

end SpeakerRoom

end LivekitVoice
