import LivekitVoice.Media.Ledger
import LivekitVoice.Transition.Run

/-! # Who is subscribed to what

The subscriptions of a room are written down in three places: the maps `subscriber_tracks` and
`subscriber_senders` of the subscriber, and the subscribers of the forwarder, which the publisher
has. The gauge `track_subscribed` counts them. Operations are taken one after the other here, each
of them to its end.

* **`Consistent`** — the three places agree, and the gauge is right,
* **`Shows`** — the state of the room as a ledger; every operation posts one entry
  (`Shows.step`). -/

namespace LivekitVoice.Media

open Option Transition

/-! ## The operations -/

/-- An RTP sender of a subscriber connection. -/
structure Sender where
  id : Nat
  track : String
  deriving DecidableEq

/-- **The media state of a participant**, and the tracks it has published. -/
structure ParticipantMedia where
  /-- The senders attached to the subscriber connection, if there is one. -/
  subscriber : Option (Finset Sender)
  /-- The keys of `subscriber_tracks`. -/
  subscriberTracks : Finset String
  subscriberSenders : String → Option Sender
  /-- The forwarders of the tracks, with the sids of their subscribers. -/
  forwarders : String → Option (Finset String)
  /-- The sids of `tracks`. -/
  published : Finset String

namespace ParticipantMedia

/-- A participant that has just been created. -/
def empty : ParticipantMedia where
  subscriber := none
  subscriberTracks := ∅
  subscriberSenders := fun _ => none
  forwarders := fun _ => none
  published := ∅

variable (m : ParticipantMedia)

/-- The senders attached to the subscriber connection. -/
def attached : Finset Sender := m.subscriber.getD ∅

/-- The subscribers of the track's forwarder. -/
def subscribers (track : String) : Finset String :=
  (m.forwarders track).getD ∅

/-- `add_track`, and the entries into the two maps. -/
def hold (sender : Sender) : ParticipantMedia :=
  { m with
    subscriber := m.subscriber.map (insert sender)
    subscriberTracks := insert sender.track m.subscriberTracks
    subscriberSenders := fun t =>
      if t = sender.track then some sender else m.subscriberSenders t }

/-- The track is removed from the two maps. -/
def drop (track : String) : ParticipantMedia :=
  { m with
    subscriberTracks := m.subscriberTracks.erase track
    subscriberSenders := fun t => if t = track then none else m.subscriberSenders t }

/-- `remove_track`, if there was a sender. -/
def detach : Option Sender → ParticipantMedia
  | some sender => { m with subscriber := m.subscriber.map fun senders => senders.erase sender }
  | none => m

/-- The forwarder of the track, if there is one, gets other subscribers. -/
def alterForwarder (track : String) (f : Finset String → Finset String) :
    ParticipantMedia :=
  { m with
    forwarders := fun t => if t = track then (m.forwarders t).map f else m.forwarders t }

/-- Every forwarder loses a subscriber. -/
def release (sid : String) : ParticipantMedia :=
  { m with forwarders := fun t => (m.forwarders t).map fun sids => sids.erase sid }

/-- What `close_participant_media` does to the participant itself. -/
def close : ParticipantMedia :=
  { m with
    subscriber := none
    subscriberTracks := ∅
    subscriberSenders := fun _ => none
    forwarders := fun _ => none }

/-- `forwarders.remove`. -/
def removeForwarder (track : String) : ParticipantMedia :=
  { m with forwarders := fun t => if t = track then none else m.forwarders t }

/-- `Participant::remove_track`. -/
def removeTrack (track : String) : ParticipantMedia :=
  { m with published := m.published.erase track }

end ParticipantMedia

/-- **The participants of a room and the gauge.** -/
structure SubState where
  media : String → ParticipantMedia
  /-- The sids of `Room::participants`. -/
  room : List String
  /-- `track_subscribed`. -/
  gauge : Int
  /-- The sids that tracks have got so far. -/
  sids : Finset String
  /-- The number of senders created so far. -/
  senders : Nat

namespace SubState

/-- An empty room. -/
def init : SubState where
  media := fun _ => .empty
  room := []
  gauge := 0
  sids := ∅
  senders := 0

variable (s : SubState)

/-- The media state of one participant changes. -/
def alter (sid : String) (f : ParticipantMedia → ParticipantMedia) : SubState :=
  { s with media := fun q => if q = sid then f (s.media q) else s.media q }

/-- The media states of all participants of the room change. -/
def alterRoom (f : ParticipantMedia → ParticipantMedia) : SubState :=
  { s with media := fun q => if q ∈ s.room then f (s.media q) else s.media q }

/-- The other participants of the room. -/
def others (sid : String) : List String := s.room.filter fun q => q ≠ sid

/-- **`setup_subscriber`.** `error` is what creating the connection fails with. -/
def setupSubscriber (sid : String) (error : Option String) :
    Except String SubState :=
  if (s.media sid).subscriber.isSome then .ok s
  else
    match error with
    | some error => .error error
    | none => .ok (s.alter sid fun m => { m with subscriber := some ∅ })

/-- What `add_subscription` does once it has a sender. -/
def enterSubscription (sid track publisher : String) : SubState :=
  let s' := (s.alter sid fun m => m.hold ⟨s.senders, track⟩).alter publisher fun m =>
    m.alterForwarder track (insert sid)
  { s' with gauge := s.gauge + 1, senders := s.senders + 1 }

/-- **`add_subscription`.** `setup` and `attach` are what creating the connection and `add_track`
fail with. -/
def addSubscription (sid track publisher : String) (setup attach : Option String) :
    SubState × Except String Unit :=
  match s.setupSubscriber sid setup with
  | .error error => (s, .error error)
  | .ok s =>
    if ((s.media publisher).forwarders track).isNone then
      (s, .error ("track " ++ track ++ " has no forwarder yet"))
    else if (s.media sid).subscriber.isNone then (s, .error "no subscriber pc")
    else
      match attach with
      | some error => (s, .error ("add subscriber track: " ++ error))
      | none => (s.enterSubscription sid track publisher, .ok ())

/-- **`remove_subscription`.** An error of `remove_track` is ignored. -/
def removeSubscription (sid track : String) : SubState :=
  let sender := (s.media sid).subscriberSenders track
  let s' := ((s.alter sid fun m => m.drop track).alterRoom fun m =>
    m.alterForwarder track fun sids => sids.erase sid).alter sid fun m => m.detach sender
  { s' with gauge := s.gauge - 1 }

/-- **`on_track_unpublished`**, as far as subscriptions go. -/
def onTrackUnpublished (sid track : String) : SubState :=
  if track ∈ (s.media sid).published then
    (s.others sid).foldl (fun s subscriber => s.removeSubscription subscriber track)
      (s.alter sid fun m => m.removeTrack track)
  else s

/-- The forwarding loop of a track ends. -/
def endForwarding (sid track : String) : SubState :=
  (s.alter sid fun m => m.removeForwarder track).onTrackUnpublished sid track

/-- **`close_participant_media`.** -/
def closeParticipantMedia (sid : String) : SubState :=
  (s.alter sid ParticipantMedia.close).alterRoom fun m => m.release sid

/-- **`end_participant`**, as far as media goes. -/
def endParticipant (sid : String) : SubState :=
  if sid ∈ s.room then { s with room := s.room.erase sid }.closeParticipantMedia sid else s

end SubState

/-- **The operations.** -/
inductive SubAction
  /-- A participant joins. -/
  | join (sid : String)
  /-- A participant announces a track, which gets a new sid. -/
  | addTrack (sid track : String)
  /-- The media of a track arrives (`on_track`), at a participant of the room. -/
  | onTrack (sid track : String)
  | add (sid track publisher : String) (setup attach : Option String)
  | remove (sid track : String)
  /-- The media of a track ends. -/
  | unpublish (sid track : String)
  | endParticipant (sid : String)

namespace SubState

/-- **One operation.** -/
def step (s : SubState) : SubAction → Option SubState
  | .join sid => if sid ∈ s.room then none else some { s with room := s.room ++ [sid] }
  | .addTrack sid track =>
    if track ∈ s.sids then none
    else
      some { s.alter sid fun m => { m with published := insert track m.published } with
        sids := insert track s.sids }
  | .onTrack sid track =>
    if sid ∈ s.room ∧ track ∈ (s.media sid).published ∧
        ((s.media sid).forwarders track).isNone then
      some (s.alter sid fun m =>
        { m with forwarders := fun t => if t = track then some ∅ else m.forwarders t })
    else none
  | .add sid track publisher setup attach =>
    some (s.addSubscription sid track publisher setup attach).1
  | .remove sid track => some (s.removeSubscription sid track)
  | .unpublish sid track => some (s.endForwarding sid track)
  | .endParticipant sid => some (s.endParticipant sid)

/-! ## What is to hold -/

/-- A forwarder of the track has the participant among its subscribers. -/
def Feeds (s : SubState) (sid track : String) : Prop :=
  ∃ publisher, sid ∈ (s.media publisher).subscribers track

/-- **The bookkeeping is consistent.** -/
structure Consistent (s : SubState) : Prop where
  /-- At most one sender is attached for each track. -/
  single : ∀ sid, ∀ x ∈ (s.media sid).attached, ∀ y ∈ (s.media sid).attached,
    x.track = y.track → x = y
  senders : ∀ sid track, ((s.media sid).subscriberSenders track).isSome ↔
    track ∈ (s.media sid).subscriberTracks
  forwarders : ∀ sid track, s.Feeds sid track ↔ track ∈ (s.media sid).subscriberTracks
  gauge : ∃ pairs : Finset (Link String String),
    (∀ x, x ∈ pairs ↔ x.track ∈ (s.media x.subscriber).subscriberTracks) ∧
      s.gauge = pairs.card

/-- **What holds in every sequence of operations**, whatever the books say. -/
structure WellFormed (s : SubState) : Prop where
  nodup : s.room.Nodup
  keys : ∀ sid track, ((s.media sid).subscriberSenders track).isSome ↔
    track ∈ (s.media sid).subscriberTracks
  /-- Only participants of the room have forwarders. -/
  home : ∀ sid track, ((s.media sid).forwarders track).isSome → sid ∈ s.room
  /-- They have them for tracks that they have published. -/
  published : ∀ sid track, ((s.media sid).forwarders track).isSome →
    track ∈ (s.media sid).published
  /-- A track has one publisher. -/
  owner : ∀ sid sid' track, track ∈ (s.media sid).published → track ∈ (s.media sid').published →
    sid = sid'
  known : ∀ sid track, track ∈ (s.media sid).published → track ∈ s.sids

/-- **The state as a ledger.** -/
structure Shows (s : SubState) (b : Ledger String String) : Prop where
  held : ∀ x, x ∈ b.held ↔ x.track ∈ (s.media x.subscriber).subscriberTracks
  fed : ∀ x, x ∈ b.fed ↔ s.Feeds x.subscriber x.track
  gauge : s.gauge = b.gauge

/-- The senders attached are in the map. -/
def Linked (s : SubState) : Prop :=
  ∀ sid, ∀ x ∈ (s.media sid).attached, (s.media sid).subscriberSenders x.track = some x

/-! ## What the operations change -/

section Media

variable (s : SubState) (sid track publisher q t : String)

/-- **The books after `remove_subscription`.** -/
theorem removeSubscription_media :
    (s.removeSubscription sid track).media q =
      { subscriber :=
          if q = sid then ((s.media q).detach ((s.media sid).subscriberSenders track)).subscriber
          else (s.media q).subscriber
        subscriberTracks :=
          if q = sid then (s.media q).subscriberTracks.erase track
          else (s.media q).subscriberTracks
        subscriberSenders := fun t =>
          if q = sid ∧ t = track then none else (s.media q).subscriberSenders t
        forwarders := fun t =>
          if q ∈ s.room ∧ t = track then ((s.media q).forwarders t).map fun sids => sids.erase sid
          else (s.media q).forwarders t
        published := (s.media q).published } := by
  simp only [removeSubscription, alter, alterRoom]
  obtain rfl | hq := eq_or_ne q sid
  · cases (s.media q).subscriberSenders track
    all_goals
      by_cases hroom : q ∈ s.room
      all_goals simp [hroom, ParticipantMedia.detach, ParticipantMedia.drop,
        ParticipantMedia.alterForwarder]
  · by_cases hroom : q ∈ s.room
    all_goals simp [hq, hroom, ParticipantMedia.alterForwarder]

/-- **The books after `add_subscription`.** -/
theorem enterSubscription_media :
    (s.enterSubscription sid track publisher).media q =
      { subscriber :=
          if q = sid then (s.media q).subscriber.map (insert ⟨s.senders, track⟩)
          else (s.media q).subscriber
        subscriberTracks :=
          if q = sid then insert track (s.media q).subscriberTracks
          else (s.media q).subscriberTracks
        subscriberSenders := fun t =>
          if q = sid ∧ t = track then some ⟨s.senders, track⟩ else (s.media q).subscriberSenders t
        forwarders := fun t =>
          if q = publisher ∧ t = track then ((s.media q).forwarders t).map (insert sid)
          else (s.media q).forwarders t
        published := (s.media q).published } := by
  simp only [enterSubscription, alter]
  obtain rfl | hq := eq_or_ne q sid
  all_goals
    obtain rfl | hp := eq_or_ne q publisher
    all_goals simp [*, ParticipantMedia.hold, ParticipantMedia.alterForwarder]

theorem isSome_removeSubscription_forwarders :
    (((s.removeSubscription sid track).media q).forwarders t).isSome =
      ((s.media q).forwarders t).isSome := by
  simp only [removeSubscription_media]
  split_ifs <;> simp

theorem isSome_enterSubscription_forwarders :
    (((s.enterSubscription sid track publisher).media q).forwarders t).isSome =
      ((s.media q).forwarders t).isSome := by
  simp only [enterSubscription_media]
  split_ifs <;> simp

end Media

variable {s s' : SubState} {b : Ledger String String} {m : ParticipantMedia}
  {sid track publisher p q t : String}

/-! ## What always holds -/

theorem wellFormed_init : WellFormed init where
  nodup := List.nodup_nil
  keys _ _ := by simp [init, ParticipantMedia.empty]
  home _ _ h := by simp [init, ParticipantMedia.empty] at h
  published _ _ h := by simp [init, ParticipantMedia.empty] at h
  owner _ _ _ h := by simp [init, ParticipantMedia.empty] at h
  known _ _ h := by simp [init, ParticipantMedia.empty] at h

namespace WellFormed

variable (hs : s.WellFormed)
include hs

theorem fewer (hroom : s'.room = s.room)
    (hkeys : ∀ q t, ((s'.media q).subscriberSenders t).isSome ↔
      t ∈ (s'.media q).subscriberTracks)
    (hforwarders : ∀ q t, ((s'.media q).forwarders t).isSome → ((s.media q).forwarders t).isSome)
    (hpublished : ∀ q t, t ∈ (s'.media q).published → t ∈ (s.media q).published)
    (hkept : ∀ q t, ((s'.media q).forwarders t).isSome → t ∈ (s.media q).published →
      t ∈ (s'.media q).published)
    (hsids : s'.sids = s.sids) : s'.WellFormed where
  nodup := hroom ▸ hs.nodup
  keys := hkeys
  home q t h := hroom ▸ hs.home q t (hforwarders q t h)
  published q t h := hkept q t h (hs.published q t (hforwarders q t h))
  owner q q' t h h' := hs.owner q q' t (hpublished q t h) (hpublished q' t h')
  known q t h := hsids ▸ hs.known q t (hpublished q t h)

theorem same (hroom : s'.room = s.room)
    (hkeys : ∀ q t, ((s'.media q).subscriberSenders t).isSome ↔
      t ∈ (s'.media q).subscriberTracks)
    (hforwarders : ∀ q t, ((s'.media q).forwarders t).isSome = ((s.media q).forwarders t).isSome)
    (hpublished : ∀ q, (s'.media q).published = (s.media q).published)
    (hsids : s'.sids = s.sids) : s'.WellFormed := by
  refine hs.fewer hroom hkeys (fun q t h => ?_) (fun q t h => ?_) (fun q t _ h => ?_) hsids
  · exact hforwarders q t ▸ h
  · exact hpublished q ▸ h
  · exact (hpublished q).symm ▸ h

theorem removeSubscription :
    (s.removeSubscription sid track).WellFormed := by
  refine hs.same rfl (fun q t => ?_) (isSome_removeSubscription_forwarders s sid track)
    (fun q => by rw [removeSubscription_media]) rfl
  rw [removeSubscription_media]
  by_cases hq : q = sid
  · by_cases ht : t = track
    all_goals simp [hq, ht, hs.keys]
  · simp [hq, hs.keys]

theorem enterSubscription :
    (s.enterSubscription sid track publisher).WellFormed := by
  refine hs.same rfl (fun q t => ?_) (isSome_enterSubscription_forwarders s sid track publisher)
    (fun q => by rw [enterSubscription_media]) rfl
  rw [enterSubscription_media]
  by_cases hq : q = sid
  · by_cases ht : t = track
    all_goals simp [hq, ht, hs.keys]
  · simp [hq, hs.keys]

end WellFormed

/-! ## The entries -/

theorem isSome_of_mem_subscribers (h : sid ∈ m.subscribers track) :
    (m.forwarders track).isSome := by
  cases hm : m.forwarders track with
  | none => simp [ParticipantMedia.subscribers, hm] at h
  | some sids => rfl

theorem WellFormed.mem_room (hs : s.WellFormed) (h : sid ∈ (s.media publisher).subscribers track) :
    publisher ∈ s.room :=
  hs.home publisher track (isSome_of_mem_subscribers h)

theorem mem_subscribers_removeSubscription (hs : s.WellFormed) :
    p ∈ ((s.removeSubscription sid track).media q).subscribers t ↔
      p ∈ (s.media q).subscribers t ∧ ¬ (p = sid ∧ t = track) := by
  have hroom : p ∈ (s.media q).subscribers t → q ∈ s.room := hs.mem_room
  unfold ParticipantMedia.subscribers at hroom ⊢
  rw [removeSubscription_media]
  by_cases hq : q ∈ s.room
  · by_cases ht : t = track
    · simp only [hq, ht, and_self, if_true]
      cases (s.media q).forwarders track <;> simp [and_comm]
    · simp [ht]
  · simp only [hq, false_and, if_false]
    exact (and_iff_left_of_imp fun h => absurd (hroom h) hq).symm

/-- **`remove_subscription` unsubscribes**, and counts. -/
theorem Shows.removeSubscription (hb : s.Shows b) (hs : s.WellFormed) :
    (s.removeSubscription sid track).Shows (b.post (.unsubscribe ⟨sid, track⟩)) where
  held x := by
    obtain ⟨p, t⟩ := x
    rw [Ledger.mem_held_unsubscribe, hb.held, removeSubscription_media, ne_eq, Link.mk.injEq]
    by_cases hp : p = sid
    all_goals simp [hp]
  fed x := by
    obtain ⟨p, t⟩ := x
    rw [Ledger.mem_fed_unsubscribe, hb.fed, ne_eq, Link.mk.injEq]
    simp only [Feeds, mem_subscribers_removeSubscription hs]
    constructor
    · rintro ⟨hne, publisher, hmem⟩
      exact ⟨publisher, hmem, hne⟩
    · rintro ⟨publisher, hmem, hne⟩
      exact ⟨hne, publisher, hmem⟩
  gauge := by
    change s.gauge - 1 = b.gauge - 1
    rw [hb.gauge]

theorem mem_subscribers_enterSubscription
    (hforwarder : ((s.media publisher).forwarders track).isSome) :
    p ∈ ((s.enterSubscription sid track publisher).media q).subscribers t ↔
      p ∈ (s.media q).subscribers t ∨ q = publisher ∧ p = sid ∧ t = track := by
  unfold ParticipantMedia.subscribers
  rw [enterSubscription_media]
  by_cases hq : q = publisher
  · by_cases ht : t = track
    · obtain ⟨sids, hsids⟩ := isSome_iff_exists.mp hforwarder
      simp [hq, ht, hsids, or_comm]
    · simp [ht]
  · simp [hq]

/-- **`add_subscription` subscribes**, and counts. -/
theorem Shows.enterSubscription (hb : s.Shows b)
    (hforwarder : ((s.media publisher).forwarders track).isSome) :
    (s.enterSubscription sid track publisher).Shows (b.post (.subscribe ⟨sid, track⟩)) where
  held x := by
    obtain ⟨p, t⟩ := x
    rw [Ledger.mem_held_subscribe, hb.held, enterSubscription_media, Link.mk.injEq]
    by_cases hp : p = sid
    all_goals simp [hp]
  fed x := by
    obtain ⟨p, t⟩ := x
    rw [Ledger.mem_fed_subscribe, hb.fed, Link.mk.injEq]
    simp only [Feeds, mem_subscribers_enterSubscription hforwarder]
    constructor
    · rintro (heq | ⟨q, hmem⟩)
      · exact ⟨publisher, .inr ⟨rfl, heq⟩⟩
      · exact ⟨q, .inl hmem⟩
    · rintro ⟨q, hmem | ⟨-, heq⟩⟩
      · exact .inr ⟨q, hmem⟩
      · exact .inl heq
  gauge := by
    change s.gauge + 1 = b.gauge + 1
    rw [hb.gauge]

theorem Shows.congr (hb : s.Shows b)
    (htracks : ∀ q, (s'.media q).subscriberTracks = (s.media q).subscriberTracks)
    (hsubscribers : ∀ q t, (s'.media q).subscribers t = (s.media q).subscribers t)
    (hgauge : s'.gauge = s.gauge) : s'.Shows b where
  held x := by
    rw [htracks]
    exact hb.held x
  fed x := by
    unfold Feeds
    simp only [hsubscribers]
    exact hb.fed x
  gauge := hgauge.trans hb.gauge

/-! ## `add_subscription` -/

/-- **The subscription succeeds.** -/
def Joins (s : SubState) (sid track publisher : String) (setup attach : Option String) : Prop :=
  ((s.media sid).subscriber.isSome ∨ setup = none) ∧
    ((s.media publisher).forwarders track).isSome ∧ attach = none
  deriving Decidable

/-- The subscriber connection is there, or has been set up. -/
inductive SetUp (s : SubState) (sid : String) : SubState → Prop
  | same : SetUp s sid s
  | created (hnone : (s.media sid).subscriber = none) :
      SetUp s sid (s.alter sid fun m => { m with subscriber := some ∅ })

theorem setupSubscriber_ok {error : Option String} (h : s.setupSubscriber sid error = .ok s') :
    s.SetUp sid s' ∧ ((s.media sid).subscriber.isSome ∨ error = none) ∧
      (s'.media sid).subscriber.isSome := by
  revert h
  fun_cases setupSubscriber s sid error <;> rintro ⟨⟩
  · next hsome => exact ⟨.same, .inl hsome, hsome⟩
  · next hnone => exact ⟨.created (by simpa using hnone), .inr rfl, by simp [alter]⟩

theorem setupSubscriber_error {error : Option String} {e : String}
    (h : s.setupSubscriber sid error = .error e) :
    ¬ ((s.media sid).subscriber.isSome ∨ error = none) := by
  revert h
  fun_cases setupSubscriber s sid error <;> rintro ⟨⟩
  next hnone => simpa using hnone

section SetUp

variable (hset : s.SetUp sid s')
include hset

theorem SetUp.media {α : Type} (f : ParticipantMedia → α)
    (hf : ∀ m c, f { m with subscriber := c } = f m) (q : String) :
    f (s'.media q) = f (s.media q) := by
  cases hset with
  | same => rfl
  | created =>
    simp only [alter]
    split
    · exact hf _ _
    · rfl

theorem SetUp.forwarders (q : String) : (s'.media q).forwarders = (s.media q).forwarders :=
  hset.media ParticipantMedia.forwarders (fun _ _ => rfl) q

theorem SetUp.attached (q : String) : (s'.media q).attached = (s.media q).attached := by
  cases hset with
  | same => rfl
  | created hnone =>
    unfold alter ParticipantMedia.attached
    by_cases hq : q = sid
    all_goals simp [hq, hnone]

theorem SetUp.wellFormed (hs : s.WellFormed) : s'.WellFormed := by
  have hroom : s'.room = s.room ∧ s'.sids = s.sids := by
    cases hset <;> exact ⟨rfl, rfl⟩
  refine hs.same hroom.1 (fun q t => ?_) (fun q t => ?_) (hset.media _ fun _ _ => rfl) hroom.2
  · exact hset.media (fun m => (m.subscriberSenders t).isSome ↔ t ∈ m.subscriberTracks)
      (fun _ _ => rfl) q ▸ hs.keys q t
  · rw [hset.forwarders]

theorem SetUp.shows (hb : s.Shows b) : s'.Shows b := by
  refine hb.congr (hset.media _ fun _ _ => rfl)
    (fun q t => hset.media (·.subscribers t) (fun _ _ => rfl) q) ?_
  cases hset <;> rfl

end SetUp

/-- **What `add_subscription` comes to.** -/
theorem addSubscription_cases (s : SubState) (sid track publisher : String)
    (setup attach : Option String) :
    ∃ s₁, s.SetUp sid s₁ ∧
      (¬ s.Joins sid track publisher setup attach ∧
          (s.addSubscription sid track publisher setup attach).1 = s₁ ∨
        s.Joins sid track publisher setup attach ∧
          ((s₁.media publisher).forwarders track).isSome ∧
          (s.addSubscription sid track publisher setup attach).1 =
            s₁.enterSubscription sid track publisher) := by
  unfold addSubscription
  split
  · next e herror => exact ⟨s, .same, .inl ⟨fun h => setupSubscriber_error herror h.1, rfl⟩⟩
  · next s₁ hok =>
    obtain ⟨hset, hconnection, hsome⟩ := setupSubscriber_ok hok
    refine ⟨s₁, hset, ?_⟩
    unfold Joins
    rw [← hset.forwarders publisher]
    split
    · next hnone =>
      rw [isNone_iff_eq_none.mp hnone]
      exact .inl ⟨fun h => Bool.false_ne_true h.2.1, rfl⟩
    · next hforwarder =>
      rw [if_neg fun hnone => isSome_iff_ne_none.mp hsome
        (isNone_iff_eq_none.mp hnone)]
      cases attach with
      | some e => exact .inl ⟨fun h => by simp at h, rfl⟩
      | none =>
        have hforwarder' : ((s₁.media publisher).forwarders track).isSome :=
          isSome_iff_ne_none.mpr fun hnone =>
            hforwarder (isNone_iff_eq_none.mpr hnone)
        exact .inr ⟨⟨hconnection, hforwarder', rfl⟩, hforwarder', rfl⟩

/-! ## A track that ends -/

/-- **A published track** is fed by the forwarder of its publisher. -/
theorem WellFormed.feeds_iff (hs : s.WellFormed) (hpublished : track ∈ (s.media sid).published) :
    s.Feeds p track ↔ p ∈ (s.media sid).subscribers track := by
  refine ⟨fun ⟨q, hmem⟩ => ?_, fun hmem => ⟨sid, hmem⟩⟩
  have hq := hs.published q track (isSome_of_mem_subscribers hmem)
  exact hs.owner q sid track hq hpublished ▸ hmem

/-- The forwarder is gone, and the track. -/
def withdrawTrack (s : SubState) (sid track : String) : SubState :=
  (s.alter sid fun m => m.removeForwarder track).alter sid fun m => m.removeTrack track

theorem withdrawTrack_media (s : SubState) (sid track q : String) :
    (s.withdrawTrack sid track).media q =
      { s.media q with
        forwarders := fun t => if q = sid ∧ t = track then none else (s.media q).forwarders t
        published :=
          if q = sid then (s.media q).published.erase track else (s.media q).published } := by
  simp only [withdrawTrack, alter]
  by_cases hq : q = sid
  all_goals simp [hq, ParticipantMedia.removeTrack, ParticipantMedia.removeForwarder]

theorem WellFormed.withdrawTrack (hs : s.WellFormed) : (s.withdrawTrack sid track).WellFormed := by
  refine hs.fewer rfl (fun q t => ?_) (fun q t h => ?_) (fun q t h => ?_) (fun q t h hmem => ?_) rfl
  · rw [withdrawTrack_media]
    exact hs.keys q t
  · simp only [withdrawTrack_media] at h
    split_ifs at h
    · cases h
    · exact h
  · rw [withdrawTrack_media] at h
    split_ifs at h
    · exact Finset.mem_of_mem_erase h
    · exact h
  · simp only [withdrawTrack_media] at h ⊢
    split_ifs at h ⊢ with hq hboth
    · cases h
    · exact Finset.mem_erase.mpr ⟨fun ht => hboth ⟨hq, ht⟩, hmem⟩
    all_goals exact hmem

theorem mem_subscribers_withdrawTrack :
    p ∈ ((s.withdrawTrack sid track).media q).subscribers t ↔
      p ∈ (s.media q).subscribers t ∧ ¬ (q = sid ∧ t = track) := by
  unfold ParticipantMedia.subscribers
  rw [withdrawTrack_media]
  by_cases hq : q = sid
  · by_cases ht : t = track
    all_goals simp [hq, ht]
  · simp [hq]

theorem Shows.withdrawTrack (hb : s.Shows b) (hs : s.WellFormed)
    (hpublished : track ∈ (s.media sid).published) :
    (s.withdrawTrack sid track).Shows ⟨b.held, b.fed.filter fun x => x.track ≠ track, b.gauge⟩ where
  held x := by
    rw [withdrawTrack_media]
    exact hb.held x
  fed x := by
    -- the forwarder that is gone was the only one of the track
    rw [Finset.mem_filter, hb.fed]
    simp only [Feeds, mem_subscribers_withdrawTrack]
    constructor
    · rintro ⟨⟨q, hmem⟩, hne⟩
      exact ⟨q, hmem, fun h => hne h.2⟩
    · rintro ⟨q, hmem, hnot⟩
      refine ⟨⟨q, hmem⟩, fun heq => hnot ⟨?_, heq⟩⟩
      have hq := hs.published q x.track (isSome_of_mem_subscribers hmem)
      rw [heq] at hq
      exact hs.owner q sid track hq hpublished
  gauge := hb.gauge

/-- **The subscribers are removed one after the other.** -/
theorem foldl_removeSubscription (hb : s.Shows b) (hs : s.WellFormed) (others : List String) :
    (others.foldl (fun s p => s.removeSubscription p track) s).WellFormed ∧
      (others.foldl (fun s p => s.removeSubscription p track) s).Shows
        (others.foldl (fun b p => b.post (.unsubscribe ⟨p, track⟩)) b) := by
  induction others generalizing s b with
  | nil => exact ⟨hs, hb⟩
  | cons p rest ih => exact ih (hb.removeSubscription hs) hs.removeSubscription

theorem removeForwarder_of_none (h : m.forwarders track = none) :
    m.removeForwarder track = m := by
  have hsame : (fun t => if t = track then none else m.forwarders t) = m.forwarders := by
    funext t
    split
    · next ht => rw [ht, h]
    · rfl
  rw [ParticipantMedia.removeForwarder, hsame]

theorem endForwarding_of_notMem (hs : s.WellFormed) (h : track ∉ (s.media sid).published) :
    s.endForwarding sid track = s := by
  have hnone : (s.media sid).forwarders track = none := by
    by_contra hsome
    exact h (hs.published sid track (isSome_iff_ne_none.mpr hsome))
  have hmedia : (fun q => if q = sid then (s.media q).removeForwarder track else s.media q) =
      s.media := by
    funext q
    split
    · next hq => exact removeForwarder_of_none (hq ▸ hnone)
    · rfl
  have hsame : (s.alter sid fun m => m.removeForwarder track) = s := by
    rw [alter, hmedia]
  rw [endForwarding, hsame, onTrackUnpublished, if_neg h]

theorem endForwarding_of_mem (h : track ∈ (s.media sid).published) :
    s.endForwarding sid track = (s.others sid).foldl (fun s p => s.removeSubscription p track)
      (s.withdrawTrack sid track) := by
  unfold endForwarding onTrackUnpublished
  have hmem : track ∈ ((s.alter sid fun m => m.removeForwarder track).media sid).published := by
    simpa [alter, ParticipantMedia.removeForwarder] using h
  rw [if_pos hmem]
  rfl

/-- **An unpublished track is withdrawn** from everybody else in the room. -/
theorem Shows.endForwarding (hb : s.Shows b) (hs : s.WellFormed)
    (hpublished : track ∈ (s.media sid).published) :
    (s.endForwarding sid track).WellFormed ∧
      (s.endForwarding sid track).Shows (b.post (.withdraw track (s.others sid).toFinset)) := by
  obtain ⟨hwell, hshows⟩ := foldl_removeSubscription (hb.withdrawTrack hs hpublished)
    hs.withdrawTrack (s.others sid)
  have hnodup : (s.others sid).Nodup := hs.nodup.filter _
  rw [endForwarding_of_mem hpublished]
  refine ⟨hwell, ?_⟩
  rw [Ledger.foldl_unsubscribe track hnodup] at hshows
  · simpa [Ledger.post, Finset.filter_filter] using hshows
  · intro x hx
    exact (Finset.mem_filter.mp hx).2

/-! ## A participant that ends -/

theorem closeParticipantMedia_media (s : SubState) (sid q : String) :
    (s.closeParticipantMedia sid).media q =
      if q = sid then { ParticipantMedia.empty with published := (s.media q).published }
      else { s.media q with
        forwarders := fun t =>
          if q ∈ s.room then ((s.media q).forwarders t).map fun sids => sids.erase sid
          else (s.media q).forwarders t } := by
  simp only [closeParticipantMedia, alter, alterRoom]
  by_cases hq : q = sid
  · simp [hq, ParticipantMedia.release, ParticipantMedia.close, ParticipantMedia.empty]
  · by_cases hroom : q ∈ s.room
    all_goals simp [hq, hroom, ParticipantMedia.release]

theorem WellFormed.endParticipant (hs : s.WellFormed) : (s.endParticipant sid).WellFormed := by
  unfold SubState.endParticipant
  split
  · have hforwarders : ∀ q t, ((({ s with room := s.room.erase sid }.closeParticipantMedia
        sid).media q).forwarders t).isSome → q ≠ sid ∧ ((s.media q).forwarders t).isSome := by
      intro q t h
      rw [closeParticipantMedia_media] at h
      split_ifs at h with hq hroom
      · cases h
      · exact ⟨hq, by simpa using h⟩
      · exact ⟨hq, h⟩
    have hpublished : ∀ q, (({ s with room := s.room.erase sid }.closeParticipantMedia
        sid).media q).published = (s.media q).published := by
      intro q
      rw [closeParticipantMedia_media]
      split <;> rfl
    refine ⟨hs.nodup.erase _, fun q t => ?_, fun q t h => ?_, fun q t h => ?_,
      fun q q' t h h' => ?_, fun q t h => ?_⟩
    · rw [closeParticipantMedia_media]
      split
      · simp [ParticipantMedia.empty]
      · exact hs.keys q t
    · obtain ⟨hne, hsome⟩ := hforwarders q t h
      exact (List.mem_erase_of_ne hne).mpr (hs.home q t hsome)
    · rw [hpublished]
      exact hs.published q t (hforwarders q t h).2
    · rw [hpublished] at h h'
      exact hs.owner q q' t h h'
    · rw [hpublished] at h
      exact hs.known q t h
  · exact hs

theorem mem_subscribers_closeParticipantMedia (hs : s.WellFormed) :
    p ∈ (({ s with room := s.room.erase sid }.closeParticipantMedia sid).media q).subscribers t ↔
      p ∈ (s.media q).subscribers t ∧ q ≠ sid ∧ p ≠ sid := by
  have hroom : p ∈ (s.media q).subscribers t → q ∈ s.room := hs.mem_room
  unfold ParticipantMedia.subscribers at hroom ⊢
  rw [closeParticipantMedia_media]
  by_cases hq : q = sid
  · simp [hq, ParticipantMedia.empty]
  · by_cases hmem : q ∈ s.room
    · have hmem' : q ∈ s.room.erase sid := (List.mem_erase_of_ne hq).mpr hmem
      simp only [hq, hmem', if_true, if_false]
      cases (s.media q).forwarders t <;> simp [hq, and_comm]
    · have hmem' : q ∉ s.room.erase sid := fun h => hmem (List.mem_of_mem_erase h)
      simp only [hq, hmem', if_false]
      exact (and_iff_left_of_imp fun h => absurd (hroom h) hmem).symm

/-- **A participant departs**, and nobody counts. -/
theorem Shows.endParticipant (hb : s.Shows b) (hs : s.WellFormed) (hroom : sid ∈ s.room) :
    (s.endParticipant sid).Shows (b.post (.depart sid (s.media sid).published)) := by
  unfold SubState.endParticipant
  rw [if_pos hroom]
  refine ⟨fun x => ?_, fun x => ?_, hb.gauge⟩
  · rw [Ledger.mem_held_depart, hb.held, closeParticipantMedia_media]
    by_cases hx : x.subscriber = sid
    all_goals simp [hx, ParticipantMedia.empty]
  · rw [Ledger.mem_fed_depart, hb.fed]
    simp only [Feeds, mem_subscribers_closeParticipantMedia hs]
    constructor
    · rintro ⟨⟨q, hmem⟩, hne, hnot⟩
      refine ⟨q, hmem, ?_, hne⟩
      rintro rfl
      exact hnot (hs.published q x.track (isSome_of_mem_subscribers hmem))
    · rintro ⟨q, hmem, hq, hne⟩
      refine ⟨⟨q, hmem⟩, hne, fun hpublished => hq ?_⟩
      exact hs.owner q sid x.track (hs.published q x.track (isSome_of_mem_subscribers hmem))
        hpublished

/-! ## One operation, one entry -/

/-- **The entry that an operation posts.** -/
def entry (s : SubState) : SubAction → Entry String String
  | .add sid track publisher setup attach =>
    if s.Joins sid track publisher setup attach then .subscribe ⟨sid, track⟩ else .keep
  | .remove sid track => .unsubscribe ⟨sid, track⟩
  | .unpublish sid track =>
    if track ∈ (s.media sid).published then .withdraw track (s.others sid).toFinset else .keep
  | .endParticipant sid =>
    if sid ∈ s.room then .depart sid (s.media sid).published else .keep
  | .join _ | .addTrack .. | .onTrack .. => .keep

theorem WellFormed.join (hs : s.WellFormed) (hnew : sid ∉ s.room) :
    { s with room := s.room ++ [sid] }.WellFormed :=
  { hs with
    nodup := List.nodup_append'.mpr ⟨hs.nodup, List.nodup_singleton sid, by simpa using hnew⟩
    home := fun q t h => List.mem_append_left _ (hs.home q t h) }

theorem WellFormed.addTrack (hs : s.WellFormed) (hnew : track ∉ s.sids) :
    { s.alter sid fun m => { m with published := insert track m.published } with
      sids := insert track s.sids }.WellFormed := by
  have hmem : ∀ q t, t ∈ ((s.alter sid fun m =>
      { m with published := insert track m.published }).media q).published ↔
      t ∈ (s.media q).published ∨ q = sid ∧ t = track := by
    intro q t
    simp only [alter]
    split
    · next hq => simp [hq, or_comm]
    · next hq => simp [hq]
  refine ⟨hs.nodup, fun q t => ?_, fun q t h => ?_, fun q t h => ?_, fun q q' t h h' => ?_,
    fun q t h => ?_⟩
  · simp only [alter, apply_ite ParticipantMedia.subscriberSenders, apply_ite
      ParticipantMedia.subscriberTracks, ite_self]
    exact hs.keys q t
  · simp only [alter, apply_ite ParticipantMedia.forwarders, ite_self] at h
    exact hs.home q t h
  · simp only [alter, apply_ite ParticipantMedia.forwarders, ite_self] at h
    exact (hmem q t).mpr (.inl (hs.published q t h))
  · -- the new sid is not that of another track
    rcases (hmem q t).mp h with hold | ⟨hq, ht⟩
    · rcases (hmem q' t).mp h' with hold' | ⟨-, ht⟩
      · exact hs.owner q q' t hold hold'
      · exact absurd (ht ▸ hs.known q t hold) hnew
    · rcases (hmem q' t).mp h' with hold' | ⟨hq', -⟩
      · exact absurd (ht ▸ hs.known q' t hold') hnew
      · exact hq.trans hq'.symm
  · rcases (hmem q t).mp h with hold | ⟨-, rfl⟩
    · exact Finset.mem_insert_of_mem (hs.known q t hold)
    · exact Finset.mem_insert_self _ _

theorem WellFormed.onTrack (hs : s.WellFormed) (hroom : sid ∈ s.room)
    (hpublished : track ∈ (s.media sid).published) :
    (s.alter sid fun m => { m with
      forwarders := fun t => if t = track then some ∅ else m.forwarders t }).WellFormed := by
  have hmem : ∀ q t, (((s.alter sid fun m =>
      { m with forwarders := fun t => if t = track then some ∅ else m.forwarders t }).media
        q).forwarders t).isSome → ((s.media q).forwarders t).isSome ∨ q = sid ∧ t = track := by
    intro q t h
    simp only [alter, apply_ite ParticipantMedia.forwarders, ite_apply] at h
    split_ifs at h with hq ht
    · exact .inr ⟨hq, ht⟩
    all_goals exact .inl h
  refine ⟨hs.nodup, fun q t => ?_, fun q t h => ?_, fun q t h => ?_, fun q q' t h h' => ?_,
    fun q t h => ?_⟩
  · simp only [alter, apply_ite ParticipantMedia.subscriberSenders, apply_ite
      ParticipantMedia.subscriberTracks, ite_self]
    exact hs.keys q t
  · rcases hmem q t h with hold | ⟨rfl, -⟩
    · exact hs.home q t hold
    · exact hroom
  · simp only [alter, apply_ite ParticipantMedia.published, ite_self]
    rcases hmem q t h with hold | ⟨rfl, rfl⟩
    · exact hs.published q t hold
    · exact hpublished
  · simp only [alter, apply_ite ParticipantMedia.published, ite_self] at h h'
    exact hs.owner q q' t h h'
  · simp only [alter, apply_ite ParticipantMedia.published, ite_self] at h
    exact hs.known q t h

/-- **Every operation posts its entry.** -/
theorem Shows.step {a : SubAction} (hb : s.Shows b) (hs : s.WellFormed)
    (hstep : s.step a = some s') : s'.WellFormed ∧ s'.Shows (b.post (s.entry a)) := by
  cases a with
  | join sid =>
    obtain ⟨hnew, ⟨⟩⟩ := ite_none_left_eq_some.mp hstep
    exact ⟨hs.join hnew, hb.congr (fun _ => rfl) (fun _ _ => rfl) rfl⟩
  | addTrack sid track =>
    obtain ⟨hnew, ⟨⟩⟩ := ite_none_left_eq_some.mp hstep
    refine ⟨hs.addTrack hnew, hb.congr (fun q => ?_) (fun q t => ?_) rfl⟩
    · simp [alter, apply_ite ParticipantMedia.subscriberTracks, ite_self]
    · simp only [alter, ParticipantMedia.subscribers, apply_ite ParticipantMedia.forwarders,
        ite_self]
  | onTrack sid track =>
    obtain ⟨⟨hroom, hpublished, hnone⟩, ⟨⟩⟩ := ite_none_right_eq_some.mp hstep
    refine ⟨hs.onTrack hroom hpublished, hb.congr (fun q => ?_) (fun q t => ?_) rfl⟩
    · simp [alter, apply_ite ParticipantMedia.subscriberTracks, ite_self]
    · simp only [alter, ParticipantMedia.subscribers, apply_ite ParticipantMedia.forwarders,
        ite_apply]
      split_ifs with hq ht
      · rw [hq, ht, isNone_iff_eq_none.mp hnone]
        rfl
      · rfl
      · rfl
  | add sid track publisher setup attach =>
    cases hstep
    obtain ⟨s₁, hset, ⟨hnot, heq⟩ | ⟨hjoins, hforwarder, heq⟩⟩ :=
      addSubscription_cases s sid track publisher setup attach
    · rw [heq, entry, if_neg hnot]
      exact ⟨hset.wellFormed hs, hset.shows hb⟩
    · rw [heq, entry, if_pos hjoins]
      exact ⟨(hset.wellFormed hs).enterSubscription, (hset.shows hb).enterSubscription hforwarder⟩
  | remove sid track =>
    cases hstep
    exact ⟨hs.removeSubscription, hb.removeSubscription hs⟩
  | unpublish sid track =>
    cases hstep
    rw [entry]
    split
    · next hpublished => exact hb.endForwarding hs hpublished
    · next hnot =>
      rw [endForwarding_of_notMem hs hnot]
      exact ⟨hs, hb⟩
  | endParticipant sid =>
    cases hstep
    refine ⟨hs.endParticipant, ?_⟩
    rw [entry]
    split
    · next hroom => exact hb.endParticipant hs hroom
    · next hnot =>
      rw [SubState.endParticipant, if_neg hnot]
      exact hb

end SubState

end LivekitVoice.Media
