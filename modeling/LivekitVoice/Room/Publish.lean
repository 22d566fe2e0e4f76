import LivekitVoice.Room.Permission
import LivekitVoice.Transition.Run
import Mathlib.Data.List.AList

/-! # Publish permission

The ways in which a track gets registered on a participant: an `AddTrack` request, a `SyncState`
request, and a track that arrives on the media connection an `Offer` has opened. A join hands its
`add_tracks`, its offer and its `sync_state` to the same handlers, one after another. Every track
carries the circumstances of its registration: the permission of the moment and the type that was
asked for.

* **`publish_permitted`** — under `Permitted`, every track was registered with permission. -/

namespace LivekitVoice

open Transition

/-! ## Requests and tracks -/

/-- A track sid. -/
abbrev TrackSid := String

/-- `lk.TrackType`, as a number on the wire. -/
abbrev TrackType := Int

/-- `TrackType::Audio`. -/
def TrackType.audio : TrackType := 0

/-- The circumstances in which a track was registered. -/
structure Registration where
  permission : ParticipantPermission
  /-- The type the client asked for. -/
  requested : TrackType
  deriving DecidableEq

/-- **A registered track**, with the circumstances of its registration (a note for the proofs). -/
structure PublishedTrack where
  sid : TrackSid
  /-- The client's id for the track. -/
  cid : String
  name : String
  source : TrackSource
  stream : String
  registration : Registration
  deriving DecidableEq

/-- `lk.AddTrackRequest`. -/
structure AddTrackRequest where
  cid : String
  name : String
  type : TrackType
  source : Int
  stream : String

/-- `lk.TrackInfo`, in a `SyncState`. -/
structure TrackInfo where
  name : String
  type : TrackType
  source : Int
  stream : String

/-- `lk.TrackPublishedResponse`, in a `SyncState`, with the sid its track would get. -/
structure SyncedTrack where
  cid : String
  track : Option TrackInfo
  sid : TrackSid

/-- `lk.RequestResponse.Reason`, as far as `AddTrack` answers with it. -/
inductive RequestReason
  | notAllowed
  | unsupportedType

/-- **The publishing side of a participant.** -/
structure Publisher where
  permission : ParticipantPermission
  /-- The registered tracks, by sid. -/
  tracks : AList fun _ : TrackSid => PublishedTrack
  /-- The same tracks, by the client's id. -/
  tracksByCid : AList fun _ : String => PublishedTrack
  /-- The publisher connection is there. -/
  connected : Bool
  /-- `publisher_mids`: from the mids of the last offer to the client's ids. -/
  publisherMids : List (String × String)

/-- What a client sends, and what an admin changes. -/
inductive PublishAction
  /-- `AddTrack`, with the sid its track would get. -/
  | addTrack (request : AddTrackRequest) (sid : TrackSid)
  /-- `SyncState`. -/
  | syncState (published : List SyncedTrack)
  /-- `Offer`, with its map of mids to track ids. -/
  | offer (midToTrackId : List (String × String))
  /-- A track arrives on the publisher connection; a track that is not audio is ignored. -/
  | trackArrives (audio : Bool) (streamId : String) (mid : Option String) (sid : TrackSid)
  /-- The media of a track stops. -/
  | trackEnds (sid : TrackSid)
  /-- `UpdateParticipant` with a permission. -/
  | updatePermission (permission : ParticipantPermission)

/-! ## The handlers -/

namespace Publisher

/-- A participant that has just joined. -/
def init (toUppercase : String → String) (grant : VideoGrant) : Publisher :=
  ⟨permissionFromGrant toUppercase grant, ∅, ∅, false, []⟩

variable (s : Publisher)

/-- `add_track`. -/
def addTrack (track : PublishedTrack) : Publisher :=
  { s with
    tracks := s.tracks.insert track.sid track
    tracksByCid := s.tracksByCid.insert track.cid track }

/-- `remove_track`. -/
def removeTrack (sid : TrackSid) : Publisher :=
  match s.tracks.lookup sid with
  | none => s
  | some track =>
    { s with
      tracks := s.tracks.erase sid
      tracksByCid := s.tracksByCid.erase track.cid }

/-- `handle_add_track`: the participant afterwards, or the reason of the refusal. -/
def handleAddTrack (request : AddTrackRequest) (sid : TrackSid) :
    Except RequestReason Publisher :=
  if !s.permission.canPublish then .error .notAllowed
  else if request.type ≠ .audio then .error .unsupportedType
  -- `can_publish_sources` is not looked at
  else .ok (s.addTrack
    { sid, cid := request.cid, name := request.name, source := .fromProto request.source,
      stream := request.stream, registration := ⟨s.permission, request.type⟩ })

/-- The body of the loop of `handle_sync_state`. -/
def syncTrack (published : SyncedTrack) : Publisher :=
  match published.track with
  | none => s
  | some t =>
    -- neither the permission nor the type is looked at
    if (s.tracksByCid.lookup published.cid).isNone then
      s.addTrack
        { sid := published.sid, cid := published.cid, name := t.name,
          source := .fromProto t.source, stream := t.stream,
          registration := ⟨s.permission, t.type⟩ }
    else s

/-- `handle_sync_state`. -/
def handleSyncState (published : List SyncedTrack) : Publisher :=
  published.foldl syncTrack s

/-- `handle_offer`. -/
def handleOffer (midToTrackId : List (String × String)) : Publisher :=
  if !s.permission.canPublish then s
  else { s with connected := true, publisherMids := midToTrackId }

/-- The client's id for a track that arrives: its stream id, or what the offer says for its mid. -/
def arrivingCid (streamId : String) (mid : Option String) : Option String :=
  if streamId ≠ "" then some streamId else mid.bind fun m => s.publisherMids.lookup m

/-- A track made up for media that no request has announced. -/
def unannounced (sid : TrackSid) (cid : String) : PublishedTrack :=
  { sid, cid, name := "audio", source := .unknown, stream := "",
    registration := ⟨s.permission, .audio⟩ }

/-- The registration in `on_track`. -/
def onTrack (audio : Bool) (streamId : String) (mid : Option String) (sid : TrackSid) : Publisher :=
  if !audio then s
  else
    match s.arrivingCid streamId mid with
    | some cid =>
      if (s.tracksByCid.lookup cid).isSome then s else s.addTrack (s.unannounced sid cid)
    | none => s.addTrack (s.unannounced sid "")

/-- **One step.** A request that is refused changes nothing. -/
def step : PublishAction → Option Publisher
  | .addTrack request sid =>
    match s.handleAddTrack request sid with
    | .ok s' => some s'
    | .error _ => some s
  | .syncState published => some (s.handleSyncState published)
  | .offer midToTrackId => some (s.handleOffer midToTrackId)
  | .trackArrives audio streamId mid sid =>
    if s.connected then some (s.onTrack audio streamId mid sid) else none
  | .trackEnds sid => some (s.removeTrack sid)
  | .updatePermission permission => some { s with permission }

end Publisher

/-! ## The condition and the law -/

/-- `can_publish_sources` allows a source: the list is empty or has it. -/
def ParticipantPermission.AllowsSource (permission : ParticipantPermission)
    (source : TrackSource) : Prop :=
  permission.canPublishSources = [] ∨ source.toProto ∈ permission.canPublishSources
  deriving Decidable

/-- **The law** for a registered track. -/
structure PublishedTrack.Permitted (track : PublishedTrack) : Prop where
  canPublish : track.registration.permission.canPublish
  audio : track.registration.requested = .audio
  source : track.registration.permission.AllowsSource track.source

namespace Publisher

/-- **The condition on a request**, where the handlers do not look at the permission: the source of
an `AddTrack` that is otherwise accepted; permission, type and source of every track a `SyncState`
brings; permission and the source `unknown` for media that no request has announced. -/
def Permitted (s : Publisher) : PublishAction → Prop
  | .addTrack request _ => s.permission.canPublish → request.type = .audio →
      s.permission.AllowsSource (.fromProto request.source)
  | .syncState published => ∀ x ∈ published, ∀ t ∈ x.track, x.cid ∉ s.tracksByCid →
      s.permission.canPublish ∧ t.type = .audio ∧
        s.permission.AllowsSource (.fromProto t.source)
  | .trackArrives audio streamId mid _ => audio →
      (∀ cid ∈ s.arrivingCid streamId mid, cid ∉ s.tracksByCid) →
        s.permission.canPublish ∧ s.permission.AllowsSource .unknown
  | .offer _ | .trackEnds _ | .updatePermission _ => True

instance (s : Publisher) (a : PublishAction) : Decidable (s.Permitted a) := by
  unfold Permitted
  split <;> infer_instance

/-- **The invariant**: every registered track is as the law says. -/
def AllPermitted (s : Publisher) : Prop :=
  ∀ sid track, s.tracks.lookup sid = some track → track.Permitted

variable {s s' : Publisher} {sid : TrackSid} {x : SyncedTrack} {rest : List SyncedTrack}

theorem AllPermitted.addTrack (hs : AllPermitted s) {track : PublishedTrack} (h : track.Permitted) :
    AllPermitted (s.addTrack track) := by
  intro sid track' hlookup
  by_cases hsid : sid = track.sid
  · subst hsid
    have hsame : (s.addTrack track).tracks.lookup track.sid = some track := AList.lookup_insert _
    obtain rfl : track = track' := Option.some.inj (hsame.symm.trans hlookup)
    exact h
  · have hother : (s.addTrack track).tracks.lookup sid = s.tracks.lookup sid :=
      AList.lookup_insert_ne hsid
    exact hs sid track' (hother.symm.trans hlookup)

theorem AllPermitted.removeTrack (hs : AllPermitted s) (sid : TrackSid) :
    AllPermitted (s.removeTrack sid) := by
  rw [Publisher.removeTrack]
  split
  · exact hs
  · intro sid' track hlookup
    by_cases hsid : sid' = sid
    · subst hsid
      simp [AList.lookup_erase] at hlookup
    · rw [AList.lookup_erase_ne hsid] at hlookup
      exact hs sid' track hlookup

/-- **`handle_add_track`** checks `can_publish` and the type; the source is up to the condition. -/
theorem AllPermitted.handleAddTrack (hs : AllPermitted s) {request : AddTrackRequest}
    (h : s.handleAddTrack request sid = .ok s') (hG : s.Permitted (.addTrack request sid)) :
    AllPermitted s' := by
  rw [Publisher.handleAddTrack] at h
  split at h
  · cases h
  · rename_i hpub
    split at h
    · cases h
    · rename_i htype
      cases h
      have hpub : s.permission.canPublish := by simpa using hpub
      have htype : request.type = .audio := by simpa using htype
      exact hs.addTrack ⟨hpub, htype, hG hpub htype⟩

theorem Permitted.syncTrack (hG : s.Permitted (.syncState (x :: rest))) :
    (s.syncTrack x).Permitted (.syncState rest) := by
  have hrest := fun y hy => hG y (List.mem_cons_of_mem x hy)
  rw [Publisher.syncTrack]
  split
  · exact hrest
  · split
    · exact fun y hy t ht hnew => hrest y hy t ht fun h => hnew ((AList.mem_insert _).mpr (.inr h))
    · exact hrest

theorem AllPermitted.syncTrack (hs : AllPermitted s) (hG : s.Permitted (.syncState (x :: rest))) :
    AllPermitted (s.syncTrack x) := by
  rw [Publisher.syncTrack]
  split
  · exact hs
  · rename_i t ht
    split
    · rename_i hnew
      have hnew : x.cid ∉ s.tracksByCid := AList.lookup_eq_none.mp (by simpa using hnew)
      obtain ⟨hpub, htype, hsource⟩ := hG x List.mem_cons_self t ht hnew
      exact hs.addTrack ⟨hpub, htype, hsource⟩
    · exact hs

/-- **`handle_sync_state`** checks nothing but whether the client's id is known. -/
theorem AllPermitted.handleSyncState (hs : AllPermitted s) {published : List SyncedTrack}
    (hG : s.Permitted (.syncState published)) :
    AllPermitted (s.handleSyncState published) := by
  induction published generalizing s with
  | nil => exact hs
  | cons x rest ih => exact ih (hs.syncTrack hG) hG.syncTrack

/-- **`on_track`** registers media that no request has announced. -/
theorem AllPermitted.onTrack (hs : AllPermitted s) {audio : Bool} {streamId : String}
    {mid : Option String} (hG : s.Permitted (.trackArrives audio streamId mid sid)) :
    AllPermitted (s.onTrack audio streamId mid sid) := by
  rw [Publisher.onTrack]
  split
  · exact hs
  · rename_i haudio
    have haudio : audio := by simpa using haudio
    split
    · rename_i cid hcid
      split
      · exact hs
      · rename_i hnew
        -- no request has announced this id, so the condition speaks
        obtain ⟨hpub, hsource⟩ := hG haudio fun cid' hcid' => by
          obtain rfl : cid = cid' := Option.some.inj (hcid.symm.trans hcid')
          exact AList.lookup_eq_none.mp (by simpa using hnew)
        exact hs.addTrack ⟨hpub, rfl, hsource⟩
    · rename_i hcid
      obtain ⟨hpub, hsource⟩ := hG haudio fun cid hcid' => by
        rw [hcid] at hcid'
        cases hcid'
      exact hs.addTrack ⟨hpub, rfl, hsource⟩

/-- **One step** that meets the condition keeps the invariant. -/
theorem AllPermitted.step {a : PublishAction} (hs : AllPermitted s) (hG : s.Permitted a)
    (h : s.step a = some s') : AllPermitted s' := by
  cases a with
  | addTrack request sid =>
    rw [Publisher.step] at h
    split at h
    · rename_i s₁ hok
      cases h
      exact hs.handleAddTrack hok hG
    · cases h
      exact hs
  | syncState published =>
    cases h
    exact hs.handleSyncState hG
  | offer midToTrackId =>
    cases h
    rw [handleOffer]
    split
    all_goals exact hs
  | trackArrives audio streamId mid sid =>
    obtain ⟨-, ⟨⟩⟩ := Option.ite_none_right_eq_some.mp h
    exact hs.onTrack hG
  | trackEnds sid =>
    cases h
    exact hs.removeTrack sid
  | updatePermission permission =>
    cases h
    exact hs

/-- **Publish permission**: along every run whose requests meet the condition, every registered
track was registered with `can_publish`, as an audio track, with a source that is allowed. -/
theorem publish_permitted {toUppercase : String → String} {grant : VideoGrant}
    {acts : List PublishAction} {s : Publisher}
    (hG : Along step Permitted (init toUppercase grant) acts)
    (hrun : run step (init toUppercase grant) acts = some s) {sid : TrackSid}
    {track : PublishedTrack} (htrack : s.tracks.lookup sid = some track) : track.Permitted := by
  have hs : AllPermitted s :=
    run_invariant_along (fun _ _ _ hI hG h => hI.step hG h)
      (fun sid track h => by simp [init] at h) hG hrun
  exact hs sid track htrack

/-- A grant for the microphone only. -/
def microphoneOnly : VideoGrant := { canPublishSources := ["microphone"] }

/-- A participant publishes its microphone, loses the permission and tries again. -/
def publishRevoked : List PublishAction :=
  [.offer [], .addTrack ⟨"c1", "mic", .audio, 2, ""⟩ "TR_1", .trackArrives true "c1" none "TR_2",
    .updatePermission { canPublish := false }, .addTrack ⟨"c2", "again", .audio, 2, ""⟩ "TR_3"]

/-- In that run, the one registered track is permitted. -/
theorem publish_permitted_publishRevoked :
    ∃ s track, run step (init String.toUpper microphoneOnly) publishRevoked = some s ∧
      s.tracks.keys = ["TR_1"] ∧ s.tracks.lookup "TR_1" = some track ∧ track.Permitted := by
  obtain ⟨s, hrun, hkeys, track, htrack, -⟩ : ∃ s ∈ run step (init String.toUpper microphoneOnly)
      publishRevoked, s.tracks.keys = ["TR_1"] ∧ ∃ track ∈ s.tracks.lookup "TR_1", True := by
    decide +kernel
  exact ⟨s, track, hrun, hkeys, htrack, publish_permitted (by decide +kernel) hrun htrack⟩

/-- **What is not checked.** A participant without `can_publish` registers a video track by
`SyncState`; one with the microphone as its only source registers a screen share by `AddTrack`. -/
theorem publish_unchecked :
    ((run step (init String.toUpper { canPublish := some false })
      [.syncState [⟨"c1", some ⟨"cam", 1, 1, ""⟩, "TR_1"⟩]]).bind fun s =>
        (s.tracks.lookup "TR_1").map fun track =>
          (track.registration.permission.canPublish, track.registration.requested)) =
      some (false, 1) ∧
    ((run step (init String.toUpper microphoneOnly)
      [.addTrack ⟨"c1", "screen", .audio, 3, ""⟩ "TR_1"]).bind fun s =>
        (s.tracks.lookup "TR_1").map fun track =>
          (track.source, track.registration.permission.canPublishSources)) =
      some (.screenShare, [2]) := by
  decide +kernel

end Publisher
end LivekitVoice
