import LivekitVoice.Api.Service
import LivekitVoice.Keyed.Table

/-! # Muting tracks

The tracks of a room are muted by their owners, over the signal connection, and by the server, with
`MutePublishedTrack`. Both end in `set_track_muted`, which looks whether the state of the track
changes and, if it does, broadcasts the owner's info to the others; a mute from the server is also
sent to the owner, and that is awaited before the broadcast. But `MutePublishedTrack` sets the state
itself, to return it, and leaves `set_track_muted` to a task of its own, which then finds nothing to
change.

* **`mute_announced`** — when changes are broadcast, and shown to the owner and to all others. -/

namespace LivekitVoice

open List Option Keyed Transition

/-! ## The room -/

/-- A participant, who may have left. -/
structure MuteMember where
  info : ParticipantInfo
  present : Bool

/-- **Where the task of a `MutePublishedTrack` is.** -/
inductive MutePhase
  | spawned
  /-- It awaits that the mute is sent to the owner. -/
  | sending
  /-- It is done; if it has broadcast, these were the others in the room. -/
  | finished (told : Option (List ParticipantSid))
  deriving DecidableEq

/-- The task of a `MutePublishedTrack`. -/
structure MuteTask where
  owner : ParticipantSid
  track : TrackSid
  muted : Bool
  /-- The call or the task has changed the state of the track. -/
  changed : Bool
  phase : MutePhase
  deriving DecidableEq

/-- The mute is being sent. -/
def MuteTask.isSending (t : MuteTask) : Bool := t.phase = .sending

/-- **A room at one moment.** -/
structure MuteRoom where
  /-- All who have been in the room; a task may still hold one who has left. -/
  people : AList fun _ : ParticipantSid => MuteMember
  tasks : List MuteTask
  /-- How often the state of a track has changed. -/
  changes : Nat
  /-- How often such a change was broadcast. -/
  broadcasts : Nat
  /-- What was sent about such changes, and to whom. -/
  log : List (ParticipantSid × ApiPayload)

/-- **What happens in a room.** -/
inductive MuteAction
  | join (info : ParticipantInfo)
  | leave (sid : ParticipantSid)
  /-- The permission of a participant is updated. -/
  | permit (sid : ParticipantSid) (permission : ParticipantPermission)
  | addTrack (sid : ParticipantSid) (track : TrackSid) (muted : Bool)
  | removeTrack (sid : ParticipantSid) (track : TrackSid)
  /-- A participant mutes a track of its own. -/
  | clientMute (sid : ParticipantSid) (track : TrackSid) (muted : Bool)
  /-- `MutePublishedTrack`. -/
  | request (request : MuteTrackRequest)
  /-- The task of call `i` begins. -/
  | run (i : Nat)
  /-- The mute was sent by the task of call `i`. -/
  | finish (i : Nat)

namespace MuteRoom

/-- Nobody is there. -/
def init : MuteRoom := ⟨∅, [], 0, 0, []⟩

variable (s : MuteRoom)

/-- The participants. -/
def members : List ParticipantInfo :=
  (s.people.entries.filter fun e => e.2.present).map fun e => e.2.info

/-- The others. -/
def others (owner : ParticipantSid) : List ParticipantSid :=
  (s.members.filter fun p => p.sid ≠ owner).map ParticipantInfo.sid

/-- `get_participant_by_identity`. -/
def byIdentity (identity : Identity) : Option ParticipantSid :=
  (s.people.entries.find? fun e => e.2.present && e.2.info.identity = identity).map Sigma.fst

/-- Whether a track is muted, if it is there. -/
def mutedOf (sid : ParticipantSid) (track : TrackSid) : Option Bool :=
  (s.people.lookup sid).bind fun m => m.info.tracks.lookup track

/-- A participant changes. -/
def revise (sid : ParticipantSid) (f : MuteMember → MuteMember) : MuteRoom :=
  { s with
    people :=
      match s.people.lookup sid with
      | none => s.people
      | some m => s.people.insert sid (f m) }

/-- The tracks of a participant change. -/
def reviseTracks (sid : ParticipantSid)
    (f : List (TrackSid × Bool) → List (TrackSid × Bool)) : MuteRoom :=
  s.revise sid fun m => { m with info := { m.info with tracks := f m.info.tracks } }

/-- The state of a track changes. -/
def change (sid : ParticipantSid) (track : TrackSid) (muted : Bool) : MuteRoom :=
  { s.revise sid fun m => { m with info := m.info.withMuted track muted } with
    changes := s.changes + 1 }

/-- `broadcast_participant_update`, about a participant and to the others. -/
def announce (owner : ParticipantSid) : MuteRoom :=
  let infos := ((s.people.lookup owner).map MuteMember.info).toList
  { s with
    broadcasts := s.broadcasts + 1
    log := s.log ++ updatePayloads (broadcastParticipantUpdate s.members infos (some owner)) }

/-- **`MutePublishedTrack`**: the state is set at once, and a task is spawned. -/
def mutePublishedTrack (r : MuteTrackRequest) :
    Except TwirpError ApiResponse × MuteRoom :=
  match s.byIdentity r.identity with
  | none => (.error ⟨.notFound, "participant not found"⟩, s)
  | some sid =>
    match s.mutedOf sid r.trackSid with
    | none => (.error ⟨.notFound, "track not found"⟩, s)
    | some old =>
      let changed := decide (old ≠ r.muted)
      let s' := if changed then s.change sid r.trackSid r.muted else s
      (.ok (.track r.trackSid r.muted),
        { s' with tasks := s.tasks ++ [⟨sid, r.trackSid, r.muted, changed, .spawned⟩] })

/-- **One step of a room.** -/
def step : MuteAction → Option MuteRoom
  | .join info =>
    if info.sid ∈ s.people then none
    else some { s with people := s.people.insert info.sid ⟨info, true⟩ }
  | .leave sid => some (s.revise sid fun m => { m with present := false })
  | .permit sid permission =>
    some (s.revise sid fun m => { m with info := { m.info with permission := permission } })
  | .addTrack sid track muted =>
    -- the sid of a track is drawn for it
    if (s.mutedOf sid track).isSome then none
    else some (s.reviseTracks sid fun tracks => tracks ++ [(track, muted)])
  | .removeTrack sid track =>
    some (s.reviseTracks sid fun tracks => tracks.filter fun x => x.1 ≠ track)
  | .clientMute sid track muted =>
    if s.mutedOf sid track = some !muted then some ((s.change sid track muted).announce sid)
    else some s
  | .request r => some (s.mutePublishedTrack r).2
  | .run i =>
    match s.tasks[i]? with
    | some ⟨owner, track, muted, changed, .spawned⟩ =>
      if s.mutedOf owner track = some !muted then
        some { s.change owner track muted with
          log := s.log ++ [(owner, .mute track muted)]
          tasks := s.tasks.set i ⟨owner, track, muted, true, .sending⟩ }
      else some { s with tasks := s.tasks.set i ⟨owner, track, muted, changed, .finished none⟩ }
    | _ => none
  | .finish i =>
    match s.tasks[i]? with
    | some ⟨owner, track, muted, changed, .sending⟩ =>
      let told := s.others owner
      some { s.announce owner with
        tasks := s.tasks.set i ⟨owner, track, muted, changed, .finished (some told)⟩ }
    | _ => none

variable {s s' : MuteRoom} {a : MuteAction} {sid sid' : ParticipantSid} {track track' : TrackSid}
  {muted : Bool}

/-! ## Participants and tracks -/

theorem lookup_revise {f : MuteMember → MuteMember} :
    (s.revise sid f).people.lookup sid' =
      if sid' = sid then (s.people.lookup sid).map f else s.people.lookup sid' := by
  unfold revise
  cases hm : s.people.lookup sid with
  | none =>
    by_cases hsid : sid' = sid
    · subst hsid
      simpa using hm
    · simp [hsid]
  | some m =>
    by_cases hsid : sid' = sid
    · subst hsid
      simp
    · simp [hsid]

theorem lookup_withMuted (info : ParticipantInfo) :
    (info.withMuted track muted).tracks.lookup track' =
      if track' = track then (info.tracks.lookup track).map fun _ => muted
      else info.tracks.lookup track' := by
  unfold ParticipantInfo.withMuted
  induction info.tracks with
  | nil => simp
  | cons x tracks ih =>
    obtain ⟨t, m⟩ := x
    rw [map_cons]
    by_cases htrack : track' = t
    · subst htrack
      by_cases ht : track' = track
      all_goals simp [ht]
    · have hskip : (track' == t) = false := beq_eq_false_iff_ne.mpr htrack
      by_cases ht : t = track
      · subst ht
        simpa [lookup_cons, htrack, hskip] using ih
      · have hskip' : (track == t) = false := beq_eq_false_iff_ne.mpr (Ne.symm ht)
        simpa [lookup_cons, ht, hskip, hskip'] using ih

theorem mutedOf_change :
    (s.change sid track muted).mutedOf sid' track' =
      if sid' = sid ∧ track' = track then (s.mutedOf sid track).map fun _ => muted
      else s.mutedOf sid' track' := by
  unfold mutedOf change
  rw [lookup_revise]
  by_cases hsid : sid' = sid
  · subst hsid
    cases s.people.lookup sid' with
    | none => simp
    | some m => simp [lookup_withMuted]
  · simp [hsid]

/-! ## As many broadcasts as changes -/

/-- **Every change is broadcast**, or its task is about to. -/
def Balanced (s : MuteRoom) : Prop :=
  s.broadcasts + s.tasks.countP MuteTask.isSending = s.changes

/-- **No request changes a state.** -/
def NoSilentChange (s : MuteRoom) : MuteAction → Prop
  | .request r => ∀ sid ∈ s.byIdentity r.identity, s.mutedOf sid r.trackSid ≠ some !r.muted
  | _ => True

/-- **A request keeps the balance** if it makes no silent change. -/
theorem balanced_request_iff (hs : Balanced s) (r : MuteTrackRequest) :
    Balanced (s.mutePublishedTrack r).2 ↔ NoSilentChange s (.request r) := by
  unfold Balanced at hs ⊢
  simp only [NoSilentChange]
  fun_cases mutePublishedTrack s r
  case case1 hnone => simpa [hnone] using hs
  case case2 sid hsid hnone => simpa [hsid, hnone] using hs
  case case3 sid hsid old hold changed s₁ =>
    rw [countP_append, show List.countP MuteTask.isSending [_] = 0 from rfl]
    simp only [hsid, mem_def, some.injEq, forall_eq', hold]
    by_cases hsame : old = r.muted
    · simpa [s₁, changed, hsame] using hs
    · -- a change without a broadcast
      have hchanged : s₁ = s.change sid r.trackSid r.muted :=
        if_pos (by simpa [changed] using hsame)
      refine iff_of_false ?_ (by simp [Bool.eq_not.mpr hsame])
      simp only [hchanged, change, revise]
      omega

/-- **One step and the balance**: it is kept exactly if no request changes a state. -/
theorem balanced_step_iff (hs : Balanced s) (h : step s a = some s') :
    Balanced s' ↔ NoSilentChange s a := by
  revert h
  -- one goal for each branch of `step` that does something
  fun_cases step s a <;> rintro ⟨⟩
  case case10 r => exact balanced_request_iff hs r
  all_goals
    refine iff_of_true ?_ trivial
    unfold Balanced at hs ⊢
  case case8 =>
    simp only [announce, change, revise]
    omega
  case case11 i owner track muted changed ht hold =>
    have hcount : (s.tasks.set i ⟨owner, track, muted, true, .sending⟩).countP MuteTask.isSending +
        0 = s.tasks.countP MuteTask.isSending + 1 := countP_set ht
    simp only [change, revise]
    omega
  case case12 i owner track muted changed ht hold =>
    have hcount : (s.tasks.set i ⟨owner, track, muted, changed, .finished none⟩).countP
        MuteTask.isSending + 0 = s.tasks.countP MuteTask.isSending + 0 := countP_set ht
    exact (congrArg (s.broadcasts + ·) hcount).trans hs
  case case14 i owner track muted changed ht told =>
    have hcount : (s.tasks.set i ⟨owner, track, muted, changed, .finished (some told)⟩).countP
        MuteTask.isSending + 1 = s.tasks.countP MuteTask.isSending + 0 := countP_set ht
    simp only [announce]
    omega
  all_goals exact hs

/-! ## Who is told -/

variable (s)

/-- The task has told the owner, and all these others. -/
def Told (t : MuteTask) (told : List ParticipantSid) : Prop :=
  (t.owner, .mute t.track t.muted) ∈ s.log ∧
    ∀ sid ∈ told, ∃ info : ParticipantInfo, (sid, .signal (.update [info])) ∈ s.log ∧
      info.sid = t.owner ∧ info.tracks.lookup t.track = some t.muted

/-- **A change that a call or its task has made is announced** once the task is done: the owner is
sent the new state, and all others an update that shows it. -/
def Announced : Prop :=
  ∀ t ∈ s.tasks, t.changed → ∀ result, t.phase = .finished result →
    ∃ told, result = some told ∧ s.Told t told

/-- No mute of this track is being sent. -/
def Untouched (sid : ParticipantSid) (track : TrackSid) : Prop :=
  ∀ t ∈ s.tasks, t.phase = .sending → ¬ (t.owner = sid ∧ t.track = track)

/-- **The condition on a step**: no request changes a state, a track is neither muted nor removed
while a mute of it is being sent, and the owner is not hidden at the broadcast. -/
def Orderly : MuteAction → Prop
  | .request r => NoSilentChange s (.request r)
  | .clientMute sid track _ | .removeTrack sid track => s.Untouched sid track
  | .run i => ∀ t ∈ s.tasks[i]?, s.Untouched t.owner t.track
  | .finish i => ∀ t ∈ s.tasks[i]?, ∀ m ∈ s.people.lookup t.owner, m.info.hidden = false
  | _ => True

instance (a : MuteAction) : Decidable (s.Orderly a) := by
  cases a <;> unfold Orderly <;> try unfold NoSilentChange
  all_goals try unfold Untouched
  all_goals infer_instance

/-- Where a task stands: it has changed nothing yet, or has told the owner and the track is as it
says, or has told everybody. -/
def OnTrack (t : MuteTask) : Prop :=
  match t.phase with
  | .spawned => t.changed = false
  | .sending => (t.owner, .mute t.track t.muted) ∈ s.log ∧
      s.mutedOf t.owner t.track = some t.muted
  | .finished none => t.changed = false
  | .finished (some told) => s.Told t told

/-- **The tasks are on track**, and participants are filed under their sids. -/
structure Tidy (s : MuteRoom) : Prop where
  sids : ∀ sid m, s.people.lookup sid = some m → m.info.sid = sid
  tasks : ∀ t ∈ s.tasks, s.OnTrack t

variable {s}

theorem Tidy.announced (hs : Tidy s) : Announced s := by
  intro t ht hchanged result hphase
  have hok := hs.tasks t ht
  unfold OnTrack at hok
  rw [hphase] at hok
  cases result with
  | none =>
    simp [hchanged] at hok
  | some told => exact ⟨told, rfl, hok⟩

theorem OnTrack.mono {t : MuteTask} (h : s.OnTrack t) (hlog : s.log ⊆ s'.log)
    (hmuted : t.phase = .sending → s.mutedOf t.owner t.track = some t.muted →
      s'.mutedOf t.owner t.track = some t.muted) : s'.OnTrack t := by
  unfold OnTrack at h ⊢
  cases hphase : t.phase with
  | spawned =>
    rw [hphase] at h
    exact h
  | sending =>
    rw [hphase] at h
    exact ⟨hlog h.1, hmuted hphase h.2⟩
  | finished result =>
    rw [hphase] at h
    cases result with
    | none => exact h
    | some told =>
      refine ⟨hlog h.1, fun sid hsid => ?_⟩
      obtain ⟨info, hsent, hshows⟩ := h.2 sid hsid
      exact ⟨info, hlog hsent, hshows⟩

theorem sids_revise {f : MuteMember → MuteMember} (hsid : ∀ m, (f m).info.sid = m.info.sid)
    (h : ∀ x m, s.people.lookup x = some m → m.info.sid = x) :
    ∀ x m, (s.revise sid f).people.lookup x = some m → m.info.sid = x := by
  intro x m hm
  rw [lookup_revise] at hm
  split at hm
  · next hx =>
    obtain ⟨m', hm', rfl⟩ := map_eq_some_iff.mp hm
    rw [hsid, hx]
    exact h sid m' hm'
  · exact h x m hm

theorem Tidy.revise {f : MuteMember → MuteMember} (hs : Tidy s)
    (hsid : ∀ m, (f m).info.sid = m.info.sid)
    (htracks : ∀ t ∈ s.tasks, t.phase = .sending → t.owner = sid → ∀ m : MuteMember,
      m.info.tracks.lookup t.track = some t.muted →
        (f m).info.tracks.lookup t.track = some t.muted) : Tidy (s.revise sid f) := by
  refine ⟨sids_revise hsid hs.sids, fun t ht => (hs.tasks t ht).mono (List.Subset.refl _)
    fun hphase hold => ?_⟩
  obtain ⟨m, hm, hlookup⟩ := bind_eq_some_iff.mp hold
  rw [mutedOf, lookup_revise]
  by_cases howner : t.owner = sid
  · rw [if_pos howner, ← howner, hm]
    exact htracks t ht hphase howner m hlookup
  · rwa [if_neg howner, hm]

theorem lookup_filter_ne {tracks : List (TrackSid × Bool)} (h : track' ≠ track) :
    (tracks.filter fun x => x.1 ≠ track).lookup track' = tracks.lookup track' := by
  induction tracks with
  | nil => rfl
  | cons x tracks ih =>
    obtain ⟨t, m⟩ := x
    by_cases ht : t = track
    · subst ht
      have hskip : (track' == t) = false := beq_eq_false_iff_ne.mpr h
      simpa [lookup_cons, hskip] using ih
    · rw [filter_cons_of_pos (by simpa using ht)]
      simp only [lookup_cons, ih]

theorem mutedOf_change_other {t : MuteTask} (hguard : s.Untouched sid track) (ht : t ∈ s.tasks)
    (hphase : t.phase = .sending) :
    (s.change sid track muted).mutedOf t.owner t.track = s.mutedOf t.owner t.track := by
  rw [mutedOf_change, if_neg (hguard t ht hphase)]

/-- **The tasks stay on track** in every step that meets the condition. -/
theorem Tidy.step (hs : Tidy s) (hguard : Orderly s a) (h : step s a = some s') : Tidy s' := by
  revert h
  fun_cases MuteRoom.step s a <;> rintro ⟨⟩
  case case2 info hnew =>
    refine ⟨fun x m hm => ?_,
      fun t ht => (hs.tasks t ht).mono (List.Subset.refl _) fun _ hold => ?_⟩
    · rw [lookup_insert_eq] at hm
      split at hm
      · next hx => exact hx ▸ some.inj hm ▸ rfl
      · exact hs.sids x m hm
    · obtain ⟨m, hm, -⟩ := bind_eq_some_iff.mp hold
      have howner : t.owner ≠ info.sid := fun h =>
        hnew (h ▸ AList.lookup_isSome.mp (isSome_of_eq_some hm))
      rwa [mutedOf, AList.lookup_insert_ne howner]
  case case3 sid => exact hs.revise (fun _ => rfl) fun _ _ _ _ _ h => h
  case case4 sid permission => exact hs.revise (fun _ => rfl) fun _ _ _ _ _ h => h
  case case6 sid track muted hnew =>
    exact hs.revise (fun _ => rfl) fun _ _ _ _ _ h => by rw [lookup_append, h]; rfl
  case case7 sid track =>
    refine hs.revise (fun _ => rfl) fun t ht hphase howner m h => ?_
    exact (lookup_filter_ne fun htrack => hguard t ht hphase ⟨howner, htrack⟩).trans h
  case case8 sid track muted hold =>
    refine ⟨sids_revise (fun _ => rfl) hs.sids, fun t ht => ?_⟩
    refine (hs.tasks t ht).mono (subset_append_left _ _) fun hphase hkept => ?_
    exact (mutedOf_change_other hguard ht hphase).trans hkept
  case case9 => exact hs
  case case10 r =>
    fun_cases mutePublishedTrack s r
    case case1 | case2 => exact hs
    case case3 sid hsid old hold changed s₁ =>
      have hsame : old = r.muted := by
        by_contra hne
        exact hguard sid hsid (hold.trans (congrArg some (Bool.eq_not.mpr hne)))
      simp only [s₁, changed, hsame, ne_eq, not_true_eq_false, decide_false, Bool.false_eq_true,
        if_false]
      refine ⟨hs.sids, forall_mem_concat (fun t ht => ?_) (by simp [OnTrack])⟩
      exact (hs.tasks t ht).mono (List.Subset.refl _) fun _ h => h
  case case11 i owner track muted changed ht hold =>
    refine ⟨sids_revise (fun _ => rfl) hs.sids, forall_mem_set (fun t' ht' => ?_) ⟨?_, ?_⟩⟩
    · refine (hs.tasks t' ht').mono (subset_append_left _ _) fun hphase' hkept => ?_
      exact (mutedOf_change_other (hguard _ ht) ht' hphase').trans hkept
    · exact mem_append_right _ (mem_singleton_self _)
    · have hnew : (s.change owner track muted).mutedOf owner track = some muted := by
        rw [mutedOf_change, if_pos ⟨rfl, rfl⟩, hold]
        rfl
      exact hnew
  case case12 i owner track muted changed ht hold =>
    refine ⟨hs.sids, forall_mem_set (fun t' ht' => ?_) (hs.tasks _ (mem_of_getElem? ht))⟩
    exact (hs.tasks t' ht').mono (List.Subset.refl _) fun _ h => h
  case case14 i owner track muted changed ht told =>
    obtain ⟨hsent, hmuted⟩ := hs.tasks _ (mem_of_getElem? ht)
    obtain ⟨m, hm, htrack⟩ := bind_eq_some_iff.mp hmuted
    refine ⟨hs.sids, forall_mem_set (fun t' ht' => ?_)
      ⟨mem_append_left _ hsent, fun sid hsid => ?_⟩⟩
    · exact (hs.tasks t' ht').mono (subset_append_left _ _) fun _ hkept => hkept
    · -- the broadcast about a participant that is not hidden goes to all others
      refine ⟨m.info, ?_, hs.sids owner m hm, htrack⟩
      obtain ⟨p, hp, rfl⟩ := mem_map.mp hsid
      obtain ⟨hmember, hother⟩ := mem_filter.mp hp
      unfold announce
      rw [hm]
      refine mem_append_right _ (mem_map.mpr ⟨(p.sid, .update [m.info]), ?_, rfl⟩)
      refine mem_map.mpr ⟨p, mem_filter.mpr ⟨mem_filter.mpr ⟨hmember, ?_⟩, ?_⟩, rfl⟩
      · simpa using Ne.symm (of_decide_eq_true hother)
      · simp [hguard _ ht m hm]

theorem tidy_init : Tidy init := by
  refine ⟨fun sid m h => ?_, fun t ht => ?_⟩
  · simp [init, AList.lookup_empty] at h
  · cases ht

/-- **Announcing mutes.** There are as many broadcasts as changes, in every state in which none is
about to be sent, exactly if no `MutePublishedTrack` changes the state of a track. In every run in
which besides no track is muted or removed while a mute of it is being sent, and no owner is hidden
at the broadcast, whatever a call or its task has changed is sent to the owner and shown to all
others. -/
theorem mute_announced (as : List MuteAction) :
    (Throughout step Balanced init as ↔ Along step NoSilentChange init as) ∧
      (Along step Orderly init as → Throughout step Announced init as) := by
  constructor
  · refine throughout_iff_along (fun s hs => hs) (fun s a hnone => ?_)
      (fun s a s' hs hG h => (balanced_step_iff hs h).mpr hG)
      (fun s a s' hs h hP => (balanced_step_iff hs h).mp hP) rfl
    -- a request always has an answer
    cases a with
    | request r => simp [step] at hnone
    | _ => trivial
  · intro horderly n s hrun
    have htidy : Throughout step Tidy init as :=
      throughout_of_along (fun s a s' hs hG h => hs.step hG h) tidy_init horderly
    exact (htidy n s hrun).announced

/-- Two participants, one of them with a track. -/
def twoParticipants : List MuteAction :=
  [.join { sid := "PA_1", identity := "alice" }, .join { sid := "PA_2", identity := "bob" },
    .addTrack "PA_1" "TR_1" false]

/-- The server asks for the state a track has, the owner mutes it, and the task changes it back. -/
def changedBack : List MuteAction :=
  twoParticipants ++ [.request ⟨"alice", "TR_1", false⟩, .clientMute "PA_1" "TR_1" true, .run 0,
    .finish 0]

/-- **Both are told**, the owner by the mute and the other by the update. -/
theorem mute_announced_changedBack :
    ∃ s ∈ run step init changedBack, s.Announced ∧
      s.tasks = [⟨"PA_1", "TR_1", false, true, .finished (some ["PA_2"])⟩] :=
  (show ∃ s ∈ run step init changedBack, _ by decide +kernel).imp fun s ⟨hrun, htasks⟩ =>
    ⟨hrun, (mute_announced changedBack).2 (by decide +kernel) changedBack.length s
      (by rw [take_length]; exact hrun), htasks⟩

/-- **Nobody is told.** The server mutes a track; its task finds the track muted already. -/
theorem mute_not_announced :
    (run step init (List.flatten [twoParticipants, [.request ⟨"alice", "TR_1", true⟩, .run 0]])).map
        (fun s => (s.mutedOf "PA_1" "TR_1", s.changes, s.broadcasts, s.log.length, s.tasks)) =
      some (some true, 1, 0, 0, [⟨"PA_1", "TR_1", true, true, .finished none⟩]) := by
  decide +kernel

end MuteRoom

end LivekitVoice

