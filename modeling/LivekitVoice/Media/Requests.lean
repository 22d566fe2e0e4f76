import LivekitVoice.Media.Subscriptions
import LivekitVoice.Transition.Settle

/-! # Explicit subscription requests

An `UpdateSubscription` names tracks in two ways: by their sids alone, and by entries that hold the
sid of a participant with sids of its tracks. `handle_update_subscriptions` goes through the entries
first, and asks the participant of each for its tracks; then it goes through the sids, and passes
over those that some entry lists.

* **`update_settles`** — what the two loops take up is as requested, and all else is as it was,
* **`request_covered_iff`** — when every named track is as requested. -/

namespace LivekitVoice.Media

open Transition

/-! ## The handler -/

/-- `lk.ParticipantTracks`. -/
structure ParticipantTracks where
  participantSid : String
  trackSids : List String

/-- `lk.UpdateSubscription`. -/
structure UpdateSubscription where
  trackSids : List String
  subscribe : Bool
  participantTracks : List ParticipantTracks

namespace UpdateSubscription

/-- An entry lists the track. -/
def Lists (sub : UpdateSubscription) (tid : String) : Prop :=
  ∃ pt ∈ sub.participantTracks, tid ∈ pt.trackSids
  deriving Decidable

/-- **The request names the track**, in one way or the other. -/
def Names (sub : UpdateSubscription) (tid : String) : Prop := tid ∈ sub.trackSids ∨ sub.Lists tid
  deriving Decidable

end UpdateSubscription

/-- What the connection of the subscriber fails with, in one `add_subscription`. -/
structure MediaErrors where
  setup : Option String
  attach : Option String

/-- A warning of the log. -/
structure SubscriptionWarning where
  track : String
  text : String

/-- **A request that is being handled.** -/
structure Handling where
  state : SubState
  /-- The number of subscriptions that were added or removed, or could not be. -/
  done : Nat
  warnings : List SubscriptionWarning

/-- `find_track`: the participant that has published the track. -/
def SubState.findTrack (s : SubState) (tid : String) : Option String :=
  s.room.find? fun p => tid ∈ (s.media p).published

/-- The warning about a result. -/
def subscriptionWarning (tid : String) : Except String Unit → List SubscriptionWarning
  | .error e => [⟨tid, "subscription: " ++ e⟩]
  | .ok () => []

namespace Handling

section Loops

-- the requester, the request, and what the media operations fail with, one after the other
variable (sid : String) (sub : UpdateSubscription) (errors : Nat → MediaErrors)

/-- One track is subscribed, or unsubscribed. -/
def update (h : Handling) (tid publisher : String) : Handling :=
  if sub.subscribe then
    let result := h.state.addSubscription sid tid publisher (errors h.done).setup
      (errors h.done).attach
    ⟨result.1, h.done + 1, h.warnings ++ subscriptionWarning tid result.2⟩
  else ⟨h.state.removeSubscription sid tid, h.done + 1, h.warnings⟩

/-- A track of an entry, whose participant is in the room. -/
def updateListed (publisher : String) (h : Handling) (tid : String) : Handling :=
  if tid ∈ (h.state.media publisher).published then h.update sid sub errors tid publisher else h

/-- An entry. -/
def updateEntry (h : Handling) (pt : ParticipantTracks) : Handling :=
  if pt.participantSid ∈ h.state.room then
    pt.trackSids.foldl (updateListed sid sub errors pt.participantSid) h
  else h

/-- A track that is named by its sid alone. -/
def updateNamed (h : Handling) (tid : String) : Handling :=
  -- an entry lists it: skip
  if sub.Lists tid then h
  else
    match h.state.findTrack tid with
    | none => h
    | some publisher => h.update sid sub errors tid publisher

end Loops

end Handling

/-- **`handle_update_subscriptions`.** -/
def SubState.handleUpdateSubscriptions (s : SubState) (sid : String) (canSubscribe : Bool)
    (sub : UpdateSubscription) (errors : Nat → MediaErrors) : Handling :=
  if canSubscribe then
    sub.trackSids.foldl (Handling.updateNamed sid sub errors)
      (sub.participantTracks.foldl (Handling.updateEntry sid sub errors) ⟨s, 0, []⟩)
  else ⟨s, 0, []⟩

/-! ## What is requested -/

/-- **What is written down about a participant and a track**: on the subscriber's side, and the
publishers whose forwarders have the subscriber. -/
@[ext]
structure Subscription where
  held : Bool
  sender : Option Sender
  feeders : Set String

namespace Subscription

/-- The participant is subscribed to the track. -/
def Subscribed (v : Subscription) : Prop := v.held ∧ v.sender.isSome ∧ v.feeders.Nonempty

/-- Nothing of a subscription is left. -/
def Unsubscribed (v : Subscription) : Prop := v.held = false ∧ v.sender = none ∧ v.feeders = ∅

/-- **The subscription is as requested.** -/
def AsRequested (subscribe : Bool) (v : Subscription) : Prop :=
  if subscribe then v.Subscribed else v.Unsubscribed

end Subscription

namespace SubState

variable (s : SubState)

/-- The subscription of a participant to a track. -/
def subscription (x : Link String String) : Subscription where
  held := decide (x.track ∈ (s.media x.subscriber).subscriberTracks)
  sender := (s.media x.subscriber).subscriberSenders x.track
  feeders := {p | x.subscriber ∈ (s.media p).subscribers x.track}

/-- A participant of the room has published the track, with media if it is to be subscribed. -/
def Carries (subscribe : Bool) (p tid : String) : Prop :=
  p ∈ s.room ∧ tid ∈ (s.media p).published ∧
    (subscribe → ((s.media p).forwarders tid).isSome)
  deriving Decidable

/-- **The request is about the track**: it names it, and somebody carries it. -/
def Addressed (sub : UpdateSubscription) (tid : String) : Prop :=
  sub.Names tid ∧ ∃ p, s.Carries sub.subscribe p tid

/-- **The request is covered** between two states of the room. -/
structure Covered (s s' : SubState) (sid : String) (sub : UpdateSubscription) : Prop where
  requested : ∀ tid, s.Addressed sub tid →
    (s'.subscription ⟨sid, tid⟩).AsRequested sub.subscribe
  unchanged : ∀ x, ¬ (x.subscriber = sid ∧ s.Addressed sub x.track) →
    s'.subscription x = s.subscription x

/-- **The loops take the track up**: an entry lists it under its publisher, or no entry lists it. -/
def Taken (sub : UpdateSubscription) (tid : String) : Prop :=
  ∃ p, s.Carries sub.subscribe p tid ∧
    ((∃ pt ∈ sub.participantTracks, pt.participantSid = p ∧ tid ∈ pt.trackSids) ∨
      tid ∈ sub.trackSids ∧ ¬ sub.Lists tid)

/-- **The track is overlooked**: entries list it, none of them under its publisher. -/
def Overlooked (sub : UpdateSubscription) (tid : String) : Prop :=
  sub.Lists tid ∧ ∃ p, s.Carries sub.subscribe p tid ∧
    ∀ pt ∈ sub.participantTracks, tid ∈ pt.trackSids → pt.participantSid ≠ p

variable {s s' s₀ : SubState} {sid tid p : String} {sub : UpdateSubscription}

theorem addressed_iff : s.Addressed sub tid ↔ s.Taken sub tid ∨ s.Overlooked sub tid := by
  constructor
  · rintro ⟨hnames, p, hcarries⟩
    -- a sid that an entry lists is left to the entries
    by_cases hlists : sub.Lists tid
    · by_cases hpt : ∃ pt ∈ sub.participantTracks, pt.participantSid = p ∧ tid ∈ pt.trackSids
      · exact .inl ⟨p, hcarries, .inl hpt⟩
      · refine .inr ⟨hlists, p, hcarries, fun pt hmem htid heq => hpt ⟨pt, hmem, heq, htid⟩⟩
    · exact .inl ⟨p, hcarries, .inr ⟨hnames.resolve_right hlists, hlists⟩⟩
  · rintro (⟨p, hcarries, ⟨pt, hmem, -, htid⟩ | ⟨htid, -⟩⟩ | ⟨hlists, p, hcarries, -⟩)
    · exact ⟨.inr ⟨pt, hmem, htid⟩, p, hcarries⟩
    · exact ⟨.inl htid, p, hcarries⟩
    · exact ⟨.inr hlists, p, hcarries⟩

theorem WellFormed.not_taken (hs : s.WellFormed) (h : s.Overlooked sub tid) :
    ¬ s.Taken sub tid := by
  obtain ⟨hlists, p, hcarries, hother⟩ := h
  rintro ⟨p', hcarries', ⟨pt, hmem, heq, htid⟩ | ⟨-, hnot⟩⟩
  · have hp : p' = p := hs.owner p' p tid hcarries'.2.1 hcarries.2.1
    exact hother pt hmem htid (heq.trans hp)
  · exact hnot hlists

/-! ## One subscription -/

/-- **What a request leaves as it is**: who is in the room, and who has published what. -/
structure Standing (s₀ s : SubState) : Prop where
  wellFormed : s.WellFormed
  room : s.room = s₀.room
  published : ∀ q, (s.media q).published = (s₀.media q).published
  media : ∀ q t, ((s.media q).forwarders t).isSome = ((s₀.media q).forwarders t).isSome

namespace Standing

variable (hs : Standing s₀ s)
include hs

theorem carries {subscribe : Bool} : s.Carries subscribe p tid ↔ s₀.Carries subscribe p tid := by
  unfold Carries
  rw [hs.room, hs.published, hs.media]

theorem removeSubscription : Standing s₀ (s.removeSubscription sid tid) where
  wellFormed := hs.wellFormed.removeSubscription
  room := hs.room
  published q := by
    rw [removeSubscription_media]
    exact hs.published q
  media q t := (isSome_removeSubscription_forwarders s sid tid q t).trans (hs.media q t)

theorem setUp (hset : s.SetUp sid s') : Standing s₀ s' where
  wellFormed := hset.wellFormed hs.wellFormed
  room := by
    cases hset <;> exact hs.room
  published q := (hset.media _ (fun _ _ => rfl) q).trans (hs.published q)
  media q t := by
    rw [hset.forwarders]
    exact hs.media q t

theorem enterSubscription : Standing s₀ (s.enterSubscription sid tid p) where
  wellFormed := hs.wellFormed.enterSubscription
  room := hs.room
  published q := by
    rw [enterSubscription_media]
    exact hs.published q
  media q t := (isSome_enterSubscription_forwarders s sid tid p q t).trans (hs.media q t)

end Standing

/-- `remove_subscription` **unsubscribes**. -/
theorem unsubscribed_removeSubscription (hs : s.WellFormed) :
    ((s.removeSubscription sid tid).subscription ⟨sid, tid⟩).Unsubscribed := by
  refine ⟨?_, ?_, ?_⟩
  · simp [subscription, removeSubscription_media]
  · simp [subscription, removeSubscription_media]
  · refine Set.eq_empty_of_forall_notMem fun q hq => ?_
    exact ((mem_subscribers_removeSubscription hs).mp hq).2 ⟨rfl, rfl⟩

theorem subscription_removeSubscription (hs : s.WellFormed) {x : Link String String}
    (hx : x ≠ ⟨sid, tid⟩) :
    (s.removeSubscription sid tid).subscription x = s.subscription x := by
  obtain ⟨q, t⟩ := x
  have hother : ¬ (q = sid ∧ t = tid) := fun h => hx (by rw [h.1, h.2])
  refine Subscription.ext ?_ ?_ (Set.ext fun publisher => ?_)
  · simp only [subscription, removeSubscription_media]
    grind
  · simp [subscription, removeSubscription_media, hother]
  · exact (mem_subscribers_removeSubscription hs).trans (and_iff_left hother)

theorem subscription_enterSubscription (hforwarder : ((s.media p).forwarders tid).isSome)
    {x : Link String String} (hx : x ≠ ⟨sid, tid⟩) :
    (s.enterSubscription sid tid p).subscription x = s.subscription x := by
  obtain ⟨q, t⟩ := x
  have hother : ¬ (q = sid ∧ t = tid) := fun h => hx (by rw [h.1, h.2])
  refine Subscription.ext ?_ ?_ (Set.ext fun publisher => ?_)
  · simp only [subscription, enterSubscription_media]
    grind
  · simp [subscription, enterSubscription_media, hother]
  · exact (mem_subscribers_enterSubscription hforwarder).trans
      (or_iff_left fun h => hother h.2)

theorem subscription_setUp (hset : s.SetUp sid s') (x : Link String String) :
    s'.subscription x = s.subscription x := by
  have htracks := hset.media ParticipantMedia.subscriberTracks (fun _ _ => rfl)
  have hsenders := hset.media ParticipantMedia.subscriberSenders (fun _ _ => rfl)
  simp only [subscription, ParticipantMedia.subscribers, htracks, hsenders, hset.forwarders]

/-- **Subscribing settles** the one subscription, if there is media; otherwise it changes none. -/
theorem settles_addSubscription (s : SubState) (sid tid p : String) :
    Settles subscription Subscription.Subscribed
      (fun x => x = ⟨sid, tid⟩ ∧ ((s.media p).forwarders tid).isSome) s
      (s.addSubscription sid tid p none none).1 := by
  obtain ⟨s₁, hset, ⟨hnot, heq⟩ | ⟨-, hforwarder, heq⟩⟩ :=
    addSubscription_cases s sid tid p none none
  · -- only the connection was set up, which no subscription shows
    rw [heq]
    refine settles_of_same (fun x hx => hnot ?_) (subscription_setUp hset)
    exact ⟨.inr rfl, hx.2, rfl⟩
  · rw [heq]
    constructor
    · rintro x ⟨rfl, -⟩
      refine ⟨?_, ?_, p, (mem_subscribers_enterSubscription hforwarder).mpr (.inr ⟨rfl, rfl, rfl⟩)⟩
      all_goals simp [subscription, enterSubscription_media]
    · intro x hx
      rw [hset.forwarders] at hforwarder
      have hne : x ≠ ⟨sid, tid⟩ := fun hx' => hx ⟨hx', hforwarder⟩
      rw [← hset.forwarders] at hforwarder
      exact (subscription_enterSubscription hforwarder hne).trans (subscription_setUp hset x)

theorem Standing.addSubscription (hs : Standing s₀ s) (setup attach : Option String) :
    Standing s₀ (s.addSubscription sid tid p setup attach).1 := by
  obtain ⟨s₁, hset, ⟨-, heq⟩ | ⟨-, -, heq⟩⟩ := addSubscription_cases s sid tid p setup attach
  · rw [heq]
    exact hs.setUp hset
  · rw [heq]
    exact (hs.setUp hset).enterSubscription

theorem findTrack_eq_some (h : s.findTrack tid = some p) :
    p ∈ s.room ∧ tid ∈ (s.media p).published :=
  ⟨List.mem_of_find?_eq_some h, by simpa using List.find?_some h⟩

end SubState

/-! ## The loops -/

namespace Handling

open SubState

variable {h : Handling} {s₀ : SubState} {tid p : String} {errors : Nat → MediaErrors}

/-- The subscriptions, as they are now. -/
def view (h : Handling) (x : Link String String) : Subscription := h.state.subscription x

section Loops

-- the media operations succeed
variable (hok : ∀ n, errors n = ⟨none, none⟩) (hs : Standing s₀ h.state) (sid : String)
  (sub : UpdateSubscription)
include hok hs

/-- **One track**: it is settled if it can be. -/
theorem settles_update (hp : p ∈ h.state.room) (hpublished : tid ∈ (h.state.media p).published) :
    Standing s₀ (h.update sid sub errors tid p).state ∧
      Settles view (Subscription.AsRequested sub.subscribe)
        (fun x => x = ⟨sid, tid⟩ ∧ s₀.Carries sub.subscribe p tid) h
        (h.update sid sub errors tid p) := by
  have hcarries : s₀.Carries sub.subscribe p tid ↔
      (sub.subscribe → ((h.state.media p).forwarders tid).isSome) := by
    rw [← hs.carries]
    exact ⟨fun hc => hc.2.2, fun hmedia => ⟨hp, hpublished, hmedia⟩⟩
  simp only [hcarries]
  unfold update
  rw [hok]
  cases sub.subscribe with
  | true =>
    have hsettles := settles_addSubscription h.state sid tid p
    refine ⟨hs.addSubscription none none, Settles.congr ⟨hsettles.settled, hsettles.same⟩ ?_⟩
    intro x
    simp
  | false =>
    refine ⟨hs.removeSubscription, Settles.congr
      ⟨fun x (hx : x = ⟨sid, tid⟩) => hx ▸ unsubscribed_removeSubscription hs.wellFormed,
        fun x hx => subscription_removeSubscription hs.wellFormed hx⟩ ?_⟩
    intro x
    simp

/-- **An entry** settles what it lists of the tracks of its participant. -/
theorem settles_updateEntry (pt : ParticipantTracks) :
    Standing s₀ (updateEntry sid sub errors h pt).state ∧
      Settles view (Subscription.AsRequested sub.subscribe)
        (fun x => x.subscriber = sid ∧ x.track ∈ pt.trackSids ∧
          s₀.Carries sub.subscribe pt.participantSid x.track) h
        (updateEntry sid sub errors h pt) := by
  unfold updateEntry
  split
  · next hp =>
    rw [hs.room] at hp
    obtain ⟨hstanding, hsettles⟩ := settles_foldl
      (f := updateListed sid sub errors pt.participantSid)
      (fun h tid (hs : Standing s₀ (state h)) => by
        unfold updateListed
        split
        · next hpublished => exact settles_update hok hs sid sub (hs.room ▸ hp) hpublished
        · next hnot =>
          refine ⟨hs, settles_of_same (fun x hx => hnot ?_) fun _ => rfl⟩
          rw [hs.published]
          exact hx.2.2.1) pt.trackSids hs
    refine ⟨hstanding, hsettles.congr fun x => ?_⟩
    constructor
    · rintro ⟨tid, htid, rfl, hcarries⟩
      exact ⟨rfl, htid, hcarries⟩
    · rintro ⟨hsid, htid, hcarries⟩
      exact ⟨x.track, htid, by rw [← hsid], hcarries⟩
  · next hnot =>
    refine ⟨hs, settles_of_same (fun x hx => hnot ?_) fun _ => rfl⟩
    rw [hs.room]
    exact hx.2.2.1

/-- **A track that is named by its sid alone** is settled unless an entry lists it. -/
theorem settles_updateNamed (tid : String) :
    Standing s₀ (updateNamed sid sub errors h tid).state ∧
      Settles view (Subscription.AsRequested sub.subscribe)
        (fun x => x = ⟨sid, tid⟩ ∧ ¬ sub.Lists tid ∧ ∃ p, s₀.Carries sub.subscribe p tid) h
        (updateNamed sid sub errors h tid) := by
  unfold updateNamed
  split
  · next hlists => exact ⟨hs, settles_of_same (fun x hx => hx.2.1 hlists) fun _ => rfl⟩
  · next hlists =>
    split
    · next hnone =>
      refine ⟨hs, settles_of_same (fun x hx => ?_) fun _ => rfl⟩
      obtain ⟨p, hcarries⟩ := hx.2.2
      obtain ⟨hp, hpublished, -⟩ := hs.carries.mpr hcarries
      exact List.find?_eq_none.mp hnone p hp (by simpa using hpublished)
    · next p hsome =>
      obtain ⟨hp, hpublished⟩ := findTrack_eq_some hsome
      obtain ⟨hstanding, hsettles⟩ := settles_update hok hs sid sub hp hpublished
      refine ⟨hstanding, hsettles.congr fun x => and_congr_right fun _ => ?_⟩
      -- whoever carries the track is the one that was found
      refine ⟨fun hcarries => ⟨hlists, p, hcarries⟩, ?_⟩
      rintro ⟨-, p', hcarries⟩
      have hp' : p' = p := hs.wellFormed.owner p' p tid (hs.carries.mpr hcarries).2.1 hpublished
      exact hp' ▸ hcarries

end Loops

end Handling

namespace SubState

variable {s : SubState} {sid : String} {sub : UpdateSubscription} {errors : Nat → MediaErrors}

/-- **The tracks that are taken up are as requested**, and every other subscription is the same. -/
theorem update_settles (hs : s.WellFormed) (hok : ∀ n, errors n = ⟨none, none⟩) (sid : String)
    (sub : UpdateSubscription) :
    Settles subscription (Subscription.AsRequested sub.subscribe)
      (fun x => x.subscriber = sid ∧ s.Taken sub x.track) s
      (s.handleUpdateSubscriptions sid true sub errors).state := by
  have hstart : Standing s (Handling.mk s 0 []).state :=
    ⟨hs, rfl, fun _ => rfl, fun _ _ => rfl⟩
  obtain ⟨hentries, hfirst⟩ := settles_foldl
    (fun h pt (hs : Standing s (Handling.state h)) =>
      Handling.settles_updateEntry hok hs sid sub pt) sub.participantTracks hstart
  obtain ⟨-, hsecond⟩ := settles_foldl
    (fun h tid (hs : Standing s (Handling.state h)) =>
      Handling.settles_updateNamed hok hs sid sub tid) sub.trackSids hentries
  -- what the two loops settle together is what the request has them take up
  have hboth := hfirst.trans hsecond
  refine Settles.congr ⟨hboth.settled, hboth.same⟩ fun x => ?_
  constructor
  · rintro (⟨pt, hpt, hsid, htid, hcarries⟩ | ⟨tid, htid, rfl, hlists, p, hcarries⟩)
    · exact ⟨hsid, pt.participantSid, hcarries, .inl ⟨pt, hpt, rfl, htid⟩⟩
    · exact ⟨rfl, p, hcarries, .inr ⟨htid, hlists⟩⟩
  · rintro ⟨hsid, p, hcarries, ⟨pt, hpt, rfl, htid⟩ | ⟨htid, hlists⟩⟩
    · exact .inl ⟨pt, hpt, hsid, htid, hcarries⟩
    · exact .inr ⟨x.track, htid, by rw [← hsid], hlists, p, hcarries⟩

/-- **Every run** ends in a state that is well formed. -/
theorem wellFormed_of_run {acts : List SubAction} (hrun : run step init acts = some s) :
    s.WellFormed := by
  have hinit : init.WellFormed ∧ ∃ b, init.Shows b := by
    refine ⟨wellFormed_init, ⟨∅, ∅, 0⟩, ?_, ?_, rfl⟩
    · simp [init, ParticipantMedia.empty]
    · simp [Feeds, init, ParticipantMedia.empty, ParticipantMedia.subscribers]
  have hstep : ∀ (s : SubState) a s', (s.WellFormed ∧ ∃ b, s.Shows b) → s.step a = some s' →
      s'.WellFormed ∧ ∃ b, s'.Shows b := by
    rintro s a s' ⟨hs, b, hb⟩ h
    exact ⟨(hb.step hs h).1, _, (hb.step hs h).2⟩
  exact (run_invariant hstep hinit hrun).1

/-- **A request covers every track it names**, in every room and if the media operations succeed,
exactly if the tracks that are overlooked are as requested already. -/
theorem request_covered_iff {acts : List SubAction} (hrun : run step init acts = some s)
    (hok : ∀ n, errors n = ⟨none, none⟩) (sid : String) (sub : UpdateSubscription) :
    Covered s (s.handleUpdateSubscriptions sid true sub errors).state sid sub ↔
      ∀ tid, s.Overlooked sub tid → (s.subscription ⟨sid, tid⟩).AsRequested sub.subscribe := by
  have hs := wellFormed_of_run hrun
  have hsettles := update_settles hs hok sid sub
  constructor
  · intro hcovered tid hoverlooked
    have hafter := hcovered.requested tid (addressed_iff.mpr (.inr hoverlooked))
    rw [hsettles.same _ fun htaken => hs.not_taken hoverlooked htaken.2] at hafter
    exact hafter
  · intro hbefore
    constructor
    · intro tid haddressed
      rcases addressed_iff.mp haddressed with htaken | hoverlooked
      · exact hsettles.settled _ ⟨rfl, htaken⟩
      · rw [hsettles.same _ fun htaken => hs.not_taken hoverlooked htaken.2]
        exact hbefore tid hoverlooked
    · intro x hx
      exact hsettles.same x fun htaken => hx ⟨htaken.1, addressed_iff.mpr (.inl htaken.2)⟩

/-- Two participants, one of whom has published a track. -/
def oneTrack : List SubAction :=
  [.join "PA_1", .join "PA_2", .addTrack "PA_2" "TR_1", .onTrack "PA_2" "TR_1"]

theorem isSome_oneTrack : (run step init oneTrack).isSome := by decide +kernel

/-- A request that lists the track under its publisher, and names it once more. -/
def namedTwice : UpdateSubscription := ⟨["TR_1"], true, [⟨"PA_2", ["TR_1"]⟩]⟩

/-- A request that lists the track under a participant that is no longer there. -/
def staleEntry : UpdateSubscription := ⟨["TR_1"], true, [⟨"PA_0", ["TR_1"]⟩]⟩

/-- The media operations succeed. -/
def noErrors : Nat → MediaErrors := fun _ => ⟨none, none⟩

theorem request_covered_named_twice :
    (run step init oneTrack).isSome ∧ ∀ s, run step init oneTrack = some s →
      Covered s (s.handleUpdateSubscriptions "PA_1" true namedTwice noErrors).state "PA_1"
        namedTwice := by
  have hpublished : (run step init oneTrack).map
      (fun s => decide ("TR_1" ∈ (s.media "PA_2").published)) = some true := by
    decide +kernel
  refine ⟨isSome_oneTrack, fun s hrun => ?_⟩
  rw [hrun, Option.map_some, Option.some.injEq, decide_eq_true_iff] at hpublished
  refine (request_covered_iff hrun (fun _ => rfl) "PA_1" namedTwice).mpr ?_
  -- the track is listed under its publisher: none is overlooked
  rintro tid ⟨hlists, p, hcarries, hother⟩
  obtain rfl : tid = "TR_1" := by simpa [UpdateSubscription.Lists, namedTwice] using hlists
  have hp : "PA_2" = p := (wellFormed_of_run hrun).owner _ _ _ hpublished hcarries.2.1
  exact absurd hp (hother _ (List.mem_singleton_self _) (List.mem_singleton_self _))

/-- **A stale entry hides the track**: it is published, the request names it by its sid, and the
requester is not subscribed. -/
theorem stale_entry_overlooked :
    ∃ s, run step init oneTrack = some s ∧ s.Addressed staleEntry "TR_1" ∧
      "TR_1" ∉ ((s.handleUpdateSubscriptions "PA_1" true staleEntry noErrors).state.media
        "PA_1").subscriberTracks := by
  refine ⟨_, (Option.some_get isSome_oneTrack).symm, ⟨by decide, "PA_2", ?_⟩, ?_⟩
  all_goals decide +kernel

end SubState
end LivekitVoice.Media
