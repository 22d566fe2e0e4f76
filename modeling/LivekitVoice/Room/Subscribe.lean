import LivekitVoice.Room.Basic
import LivekitVoice.Room.Publish
import LivekitVoice.Transition.Pool

/-! # Subscription consent

Subscriptions come from three places: the fan-out when a track is published, the catch-up on the
tracks there are when a participant has joined, and `UpdateSubscription` requests (a participant's
own, or an admin's for it). Each of them is a loop over `add_subscription`, which awaits the media
connection between the decision and the insertion; permissions change in between. A live
subscription carries where it came from.

* **`subscriptions_consented`** — under `Consented`, every live subscription is permitted and
  wanted. -/

namespace LivekitVoice

open List Option Transition

/-! ## Requests and calls -/

/-- A participant as a subscriber. -/
structure Subscriber where
  permission : ParticipantPermission
  /-- `auto_subscribe`, from the session parameters of the join. -/
  autoSubscribe : Bool

/-- `lk.UpdateSubscription`. -/
structure UpdateSubscription where
  trackSids : List TrackSid
  subscribe : Bool
  /-- `participant_tracks`: publishers with tracks of theirs. -/
  participantTracks : List (ParticipantSid × List TrackSid)
  deriving DecidableEq

namespace UpdateSubscription

/-- The tracks a request names. -/
def named (update : UpdateSubscription) : List TrackSid :=
  update.participantTracks.flatMap Prod.snd ++ update.trackSids

/-- The loops of `handle_update_subscriptions`: the tracks of `participant_tracks`, each with its
publisher, and then those of `track_sids` that are not among them. -/
def items (update : UpdateSubscription) : List (Option ParticipantSid × TrackSid) :=
  (update.participantTracks.flatMap fun pt => pt.2.map fun tid => (some pt.1, tid)) ++
    (update.trackSids.filter fun tid =>
      !update.participantTracks.any fun pt => pt.2.contains tid).map fun tid => (none, tid)

theorem mem_named_of_mem_items {update : UpdateSubscription}
    {x : Option ParticipantSid × TrackSid} (h : x ∈ update.items) : x.2 ∈ update.named := by
  rcases mem_append.mp h with h | h
  · obtain ⟨pt, hpt, h⟩ := mem_flatMap.mp h
    obtain ⟨tid, htid, rfl⟩ := mem_map.mp h
    exact mem_append_left _ (mem_flatMap.mpr ⟨pt, hpt, htid⟩)
  · obtain ⟨tid, htid, rfl⟩ := mem_map.mp h
    exact mem_append_right _ (mem_of_mem_filter htid)

end UpdateSubscription

/-- **Where a subscription comes from.** -/
inductive SubOrigin
  | fanOut
  | catchUp
  | request (update : UpdateSubscription)
  deriving DecidableEq

/-- **An `add_subscription` in flight.** -/
structure Adding where
  subscriber : ParticipantSid
  publisher : ParticipantSid
  track : TrackSid
  /-- The forwarder of the track has been found; the track is being added to the connection. -/
  found : Bool

/-- **A call that makes subscriptions.** -/
inductive SubCall
  /-- A session has begun, before the catch-up. -/
  | joining (subscriber : ParticipantSid)
  /-- `handle_update_subscriptions` has begun. -/
  | asking (subscriber : ParticipantSid) (update : UpdateSubscription)
  /-- The loop of `on_track_published` over the other participants. -/
  | fanOut (publisher : ParticipantSid) (track : TrackSid) (todo : List ParticipantSid)
      (adding : Option Adding)
  /-- The loop of the catch-up over the tracks there were. -/
  | catchUp (subscriber : ParticipantSid) (todo : List (ParticipantSid × TrackSid))
      (adding : Option Adding)
  /-- The loops of `handle_update_subscriptions`. -/
  | request (subscriber : ParticipantSid) (update : UpdateSubscription)
      (todo : List (Option ParticipantSid × TrackSid)) (adding : Option Adding)

namespace SubCall

/-- The `add_subscription` it waits for. -/
def adding : SubCall → Option Adding
  | .fanOut _ _ _ adding | .catchUp _ _ adding | .request _ _ _ adding => adding
  | .joining _ | .asking _ _ => none

/-- The same call, with another `add_subscription`. -/
def withAdding (a : Option Adding) : SubCall → SubCall
  | .fanOut publisher track todo _ => .fanOut publisher track todo a
  | .catchUp subscriber todo _ => .catchUp subscriber todo a
  | .request subscriber update todo _ => .request subscriber update todo a
  | .joining subscriber => .joining subscriber
  | .asking subscriber update => .asking subscriber update

/-- Where its subscriptions come from. -/
def origin : SubCall → SubOrigin
  | .fanOut .. => .fanOut
  | .joining _ | .catchUp .. => .catchUp
  | .asking _ update | .request _ update _ _ => .request update

/-- The session whose catch-up is next. -/
def joiner : SubCall → Option ParticipantSid
  | .joining subscriber => some subscriber
  | _ => none

/-- The participants whose `can_subscribe` the call has checked and still acts upon. -/
def relies : SubCall → List ParticipantSid
  | .joining _ | .asking _ _ => []
  | .fanOut _ _ _ adding => adding.toList.map Adding.subscriber
  | .catchUp subscriber todo adding =>
    adding.toList.map Adding.subscriber ++ todo.map fun _ => subscriber
  | .request subscriber _ todo adding =>
    adding.toList.map Adding.subscriber ++ todo.map fun _ => subscriber

end SubCall

/-- **The subscriptions of a room.** -/
structure SubscribeState where
  members : AList fun _ : ParticipantSid => Subscriber
  /-- The registered tracks, with their publishers. -/
  tracks : List (ParticipantSid × TrackSid)
  /-- The tracks whose media flows. -/
  forwarders : List (ParticipantSid × TrackSid)
  /-- The live subscriptions, by subscriber and track (`subscriber_tracks`). -/
  live : AList fun _ : ParticipantSid × TrackSid => SubOrigin
  calls : List SubCall

/-- What happens in the room. -/
inductive SubscribeAction
  /-- A participant has joined and its session begins. -/
  | join (sid : ParticipantSid) (permission : ParticipantPermission) (autoSubscribe : Bool)
  /-- A track is registered; no media yet. -/
  | addTrack (publisher : ParticipantSid) (track : TrackSid)
  /-- The media of a track starts: `on_track` and `on_track_published`. -/
  | publish (publisher : ParticipantSid) (track : TrackSid)
  /-- `UpdateSubscription`, by the participant or by an admin. -/
  | updateSubscription (subscriber : ParticipantSid) (update : UpdateSubscription)
  /-- `UpdateParticipant` with a permission. -/
  | updatePermission (sid : ParticipantSid) (permission : ParticipantPermission)
  /-- Call `i` takes its next step. -/
  | next (i : Nat)
  /-- The `add_subscription` of call `i` fails in the media layer. -/
  | fail (i : Nat)

namespace SubscribeState

/-- Nobody has joined. -/
def init : SubscribeState := ⟨∅, [], [], ∅, []⟩

variable (s : SubscribeState)

/-- A call begins. -/
def push (c : SubCall) : SubscribeState := { s with calls := s.calls ++ [c] }

/-- Call `i` goes on to `c`. -/
def setCall (i : Nat) (c : SubCall) : SubscribeState :=
  { s with calls := s.calls.set i c }

/-- `can_subscribe`, of a participant that is there. -/
def canSubscribe (sid : ParticipantSid) : Bool :=
  (s.members.lookup sid).any fun m => m.permission.canSubscribe

/-- The tracks that the others have registered. -/
def tracksOfOthers (sid : ParticipantSid) : List (ParticipantSid × TrackSid) :=
  s.tracks.filter fun x => x.1 ≠ sid

/-- The publisher of a track that a request names: `get_track` on the publisher it names, or
`find_track`. -/
def findTrack : Option ParticipantSid × TrackSid → Option ParticipantSid
  | (some publisher, tid) => if (publisher, tid) ∈ s.tracks then some publisher else none
  | (none, tid) => (s.tracks.find? fun x => x.2 = tid).map Prod.fst

/-- A track of a participant is registered. -/
def register (publisher : ParticipantSid) (track : TrackSid) :
    SubscribeState :=
  if (publisher, track) ∈ s.tracks then s
  else { s with tracks := s.tracks ++ [(publisher, track)] }

/-- The next step of an `add_subscription`, in call `i`. -/
def addStep (i : Nat) (c : SubCall) (a : Adding) : SubscribeState :=
  if a.found then
    { s with live := s.live.insert (a.subscriber, a.track) c.origin }.setCall i (c.withAdding none)
  else if (a.publisher, a.track) ∈ s.forwarders then
    s.setCall i (c.withAdding (some { a with found := true }))
  -- `track has no forwarder yet`
  else s.setCall i (c.withAdding none)

/-- The next step of a call that waits for no `add_subscription`. -/
def loopStep (i : Nat) : SubCall → Option SubscribeState
  | .joining subscriber =>
    -- `auto_subscribe` is not looked at
    some (s.setCall i (.catchUp subscriber
      (if s.canSubscribe subscriber then s.tracksOfOthers subscriber else []) none))
  | .asking subscriber update =>
    some (s.setCall i (.request subscriber update
      (if s.canSubscribe subscriber then update.items else []) none))
  | .fanOut publisher track (subscriber :: todo) _ =>
    let willing := (s.members.lookup subscriber).any fun m =>
      m.permission.canSubscribe && m.autoSubscribe
    some (s.setCall i (.fanOut publisher track todo
      (if willing then some ⟨subscriber, publisher, track, false⟩ else none)))
  | .catchUp subscriber ((publisher, track) :: todo) _ =>
    some (s.setCall i (.catchUp subscriber todo (some ⟨subscriber, publisher, track, false⟩)))
  | .request subscriber update (item :: todo) _ =>
    match s.findTrack item with
    | none => some (s.setCall i (.request subscriber update todo none))
    | some publisher =>
      if update.subscribe then
        some (s.setCall i (.request subscriber update todo
          (some ⟨subscriber, publisher, item.2, false⟩)))
      else
        some ({ s with live := s.live.erase (subscriber, item.2) }.setCall i
          (.request subscriber update todo none))
  | .fanOut _ _ [] _ | .catchUp _ [] _ | .request _ _ [] _ => none

/-- **One step.** -/
def step : SubscribeAction → Option SubscribeState
  | .join sid permission autoSubscribe =>
    if sid ∈ s.members then none
    else some ({ s with
      members := s.members.insert sid ⟨permission, autoSubscribe⟩ }.push (.joining sid))
  | .addTrack publisher track =>
    if publisher ∈ s.members then some (s.register publisher track) else none
  | .publish publisher track =>
    if publisher ∈ s.members then
      some ({ s.register publisher track with
        forwarders := s.forwarders ++ [(publisher, track)] }.push
          (.fanOut publisher track (s.members.keys.filter fun sid => sid ≠ publisher) none))
    else none
  | .updateSubscription subscriber update =>
    if subscriber ∈ s.members then some (s.push (.asking subscriber update)) else none
  | .updatePermission sid permission =>
    (s.members.lookup sid).map fun m =>
      -- the live subscriptions stay as they are
      { s with members := s.members.insert sid { m with permission } }
  | .next i =>
    s.calls[i]?.bind fun c =>
      match c.adding with
      | some a => some (s.addStep i c a)
      | none => s.loopStep i c
  | .fail i => s.calls[i]?.map fun c => s.setCall i (c.withAdding none)

/-! ## The condition and the law -/

/-- **The condition on a step**: `can_subscribe` is taken from a participant only if it has no live
subscription and no call that has checked it; and a catch-up that is allowed finds tracks only if
the participant has `auto_subscribe`. -/
def Consented : SubscribeAction → Prop
  | .updatePermission sid permission => permission.canSubscribe = false →
      (∀ key ∈ s.live.keys, key.1 ≠ sid) ∧ ∀ c ∈ s.calls, sid ∉ c.relies
  | .next i => ∀ sid ∈ s.calls[i]?.bind SubCall.joiner, ∀ m ∈ s.members.lookup sid,
      m.permission.canSubscribe → m.autoSubscribe ∨ s.tracksOfOthers sid = []
  | .join .. | .addTrack .. | .publish .. | .updateSubscription .. | .fail _ => True

instance (a : SubscribeAction) : Decidable (s.Consented a) := by
  unfold Consented
  split <;> infer_instance

/-- **The law** for a subscription: the subscriber has `can_subscribe`, and if it joined without
`auto_subscribe`, an `UpdateSubscription` named the track. -/
def Consent (members : AList fun _ : ParticipantSid => Subscriber) (sid : ParticipantSid)
    (track : TrackSid) (origin : SubOrigin) : Prop :=
  ∃ m, members.lookup sid = some m ∧ m.permission.canSubscribe ∧
    (m.autoSubscribe = false → ∃ update, origin = .request update ∧ track ∈ update.named)

/-- What a call is about to subscribe to is as the law says. -/
def CallConsents (members : AList fun _ : ParticipantSid => Subscriber) (c : SubCall) : Prop :=
  (∀ a ∈ c.adding, Consent members a.subscriber a.track c.origin) ∧
    match c with
    | .catchUp subscriber todo _ => ∀ x ∈ todo, Consent members subscriber x.2 .catchUp
    | .request subscriber update todo _ =>
      ∀ x ∈ todo, Consent members subscriber x.2 (.request update)
    | .joining _ | .asking _ _ | .fanOut .. => True

/-- **The invariant.** -/
structure AllConsent (s : SubscribeState) : Prop where
  live : ∀ key origin, s.live.lookup key = some origin → Consent s.members key.1 key.2 origin
  calls : ∀ c ∈ s.calls, CallConsents s.members c

theorem allConsent_init : AllConsent init where
  live := fun key origin h => by simp [init] at h
  calls := fun c hc => absurd hc not_mem_nil

/-! ## Steps -/

section Steps

variable {s : SubscribeState} {i : Nat} {c c' : SubCall}

theorem AllConsent.setCall (hs : AllConsent s) (hc' : CallConsents s.members c') :
    AllConsent (s.setCall i c') where
  live := hs.live
  calls := fun x hx => by
    rcases mem_or_eq_of_mem_set hx with hx | rfl
    · exact hs.calls x hx
    · exact hc'

theorem AllConsent.push (hs : AllConsent s) (hc : CallConsents s.members c) :
    AllConsent (s.push c) where
  live := hs.live
  calls := fun x hx => by
    rcases mem_append.mp hx with hx | hx
    · exact hs.calls x hx
    · obtain rfl := mem_singleton.mp hx
      exact hc

theorem AllConsent.register (hs : AllConsent s) (publisher : ParticipantSid) (track : TrackSid) :
    AllConsent (s.register publisher track) := by
  rw [SubscribeState.register]
  split
  · exact hs
  · exact ⟨hs.live, hs.calls⟩

variable {sid : ParticipantSid} {s' : SubscribeState}

theorem AllConsent.subscribe (hs : AllConsent s) {track : TrackSid} {origin : SubOrigin}
    (hconsent : Consent s.members sid track origin) :
    AllConsent { s with live := s.live.insert (sid, track) origin } := by
  refine ⟨fun key origin' hlookup => ?_, hs.calls⟩
  by_cases hkey : key = (sid, track)
  · subst hkey
    rw [AList.lookup_insert] at hlookup
    cases hlookup
    exact hconsent
  · rw [AList.lookup_insert_ne hkey] at hlookup
    exact hs.live key origin' hlookup

theorem AllConsent.unsubscribe (hs : AllConsent s) (key : ParticipantSid × TrackSid) :
    AllConsent { s with live := s.live.erase key } := by
  refine ⟨fun key' origin hlookup => ?_, hs.calls⟩
  by_cases hkey : key' = key
  · subst hkey
    simp [AList.lookup_erase] at hlookup
  · rw [AList.lookup_erase_ne hkey] at hlookup
    exact hs.live key' origin hlookup

theorem CallConsents.withAdding {members : AList fun _ : ParticipantSid => Subscriber}
    (hc : CallConsents members c) {a : Option Adding}
    (ha : ∀ x ∈ a, Consent members x.subscriber x.track c.origin) :
    CallConsents members (c.withAdding a) := by
  cases c with
  | joining | asking => exact hc
  | fanOut => exact ⟨ha, trivial⟩
  | _ => exact ⟨ha, hc.2⟩

/-- **A step of `add_subscription`.** -/
theorem AllConsent.addStep (hs : AllConsent s) (hc : CallConsents s.members c) {a : Adding}
    (ha : c.adding = some a) : AllConsent (s.addStep i c a) := by
  have hconsent := hc.1 a ha
  have hover : CallConsents s.members (c.withAdding none) := hc.withAdding nofun
  rw [SubscribeState.addStep]
  split
  · exact (hs.subscribe hconsent).setCall hover
  · split
    · refine hs.setCall (hc.withAdding fun x hx => ?_)
      cases hx
      exact hconsent
    · exact hs.setCall hover

theorem canSubscribe_eq_true : s.canSubscribe sid ↔
    ∃ m, s.members.lookup sid = some m ∧ m.permission.canSubscribe := by
  cases hm : s.members.lookup sid <;> simp [canSubscribe, hm]

namespace AllConsent

variable (hs : AllConsent s)
include hs

/-- **The catch-up** subscribes to what it finds, whatever `auto_subscribe` says. -/
theorem joining {subscriber : ParticipantSid}
    (hi : s.calls[i]? = some (.joining subscriber)) (hG : s.Consented (.next i)) :
    AllConsent (s.setCall i (.catchUp subscriber
      (if s.canSubscribe subscriber then s.tracksOfOthers subscriber else []) none)) := by
  refine hs.setCall ⟨fun a ha => (by cases ha), fun x hx => ?_⟩
  split at hx
  · rename_i hsub
    obtain ⟨m, hm, hcan⟩ := canSubscribe_eq_true.mp hsub
    refine ⟨m, hm, hcan, fun hauto => ?_⟩
    -- by the condition there is nothing to find without `auto_subscribe`
    rcases hG subscriber (by rw [hi]; rfl) m hm hcan with h | h
    · simp [hauto] at h
    · simp [h] at hx
  · cases hx

/-- **A request** is checked once, before its loops. -/
theorem asking (subscriber : ParticipantSid) (update : UpdateSubscription) :
    AllConsent (s.setCall i (.request subscriber update
      (if s.canSubscribe subscriber then update.items else []) none)) := by
  refine hs.setCall ⟨fun a ha => (by cases ha), fun x hx => ?_⟩
  split at hx
  · rename_i hsub
    obtain ⟨m, hm, hcan⟩ := canSubscribe_eq_true.mp hsub
    exact ⟨m, hm, hcan, fun _ => ⟨update, rfl, UpdateSubscription.mem_named_of_mem_items hx⟩⟩
  · cases hx

/-- **The fan-out** looks at `can_subscribe` and at `auto_subscribe`, for one subscriber at a
time. -/
theorem fanOut (publisher subscriber : ParticipantSid)
    (track : TrackSid) (todo : List ParticipantSid) :
    AllConsent (s.setCall i (.fanOut publisher track todo
      (if (s.members.lookup subscriber).any fun m => m.permission.canSubscribe && m.autoSubscribe
        then some ⟨subscriber, publisher, track, false⟩ else none))) := by
  refine hs.setCall ⟨fun a ha => ?_, trivial⟩
  have ha : (if (s.members.lookup subscriber).any fun m =>
      m.permission.canSubscribe && m.autoSubscribe then
        some (Adding.mk subscriber publisher track false) else none) = some a := ha
  obtain ⟨hwilling, ⟨⟩⟩ := ite_none_right_eq_some.mp ha
  obtain ⟨m, hm, hboth⟩ := (any_eq_true _ _).mp hwilling
  obtain ⟨hcan, hauto⟩ := Bool.and_eq_true_iff.mp hboth
  exact ⟨m, hm, hcan, fun hnot => by simp [hauto] at hnot⟩

/-- **A request, item by item**: the track is subscribed to or unsubscribed from. -/
theorem request {subscriber : ParticipantSid}
    {update : UpdateSubscription} {x : Option ParticipantSid × TrackSid}
    {todo : List (Option ParticipantSid × TrackSid)} {adding : Option Adding}
    (hconsent : ∀ y ∈ x :: todo, Consent s.members subscriber y.2 (.request update))
    (h : s.loopStep i (.request subscriber update (x :: todo) adding) = some s') :
    AllConsent s' := by
  have hrest : ∀ y ∈ todo, Consent s.members subscriber y.2 (.request update) :=
    fun y hy => hconsent y (mem_cons_of_mem x hy)
  rw [SubscribeState.loopStep] at h
  split at h
  · -- no such track
    cases h
    exact hs.setCall ⟨fun a ha => (by cases ha), hrest⟩
  · split at h
    · cases h
      refine hs.setCall ⟨fun a ha => ?_, hrest⟩
      cases ha
      exact hconsent x mem_cons_self
    · cases h
      exact (hs.unsubscribe (subscriber, x.2)).setCall ⟨fun a ha => (by cases ha), hrest⟩

/-- **A step of a loop.** -/
theorem loopStep (hi : s.calls[i]? = some c)
    (hG : s.Consented (.next i)) (h : s.loopStep i c = some s') : AllConsent s' := by
  have hc := hs.calls c (mem_of_getElem? hi)
  cases c with
  | joining subscriber =>
    cases h
    exact hs.joining hi hG
  | asking subscriber update =>
    cases h
    exact hs.asking subscriber update
  | fanOut publisher track todo adding =>
    cases todo with
    | nil => cases h
    | cons subscriber todo =>
      cases h
      exact hs.fanOut publisher subscriber track todo
  | catchUp subscriber todo adding =>
    cases todo with
    | nil => cases h
    | cons x todo =>
      cases h
      refine hs.setCall ⟨fun a ha => ?_, fun y hy => hc.2 y (mem_cons_of_mem x hy)⟩
      cases ha
      exact hc.2 x mem_cons_self
  | request subscriber update todo adding =>
    cases todo with
    | nil => cases h
    | cons x todo =>
      exact hs.request hc.2 h

/-- **A change among the members** that the live subscriptions and the calls do not mind. -/
theorem setMembers {members : AList fun _ : ParticipantSid => Subscriber}
    (hlive : ∀ key ∈ s.live.keys, ∀ track origin, Consent s.members key.1 track origin →
      Consent members key.1 track origin)
    (hcalls : ∀ c ∈ s.calls, ∀ sid ∈ c.relies, ∀ track origin,
      Consent s.members sid track origin → Consent members sid track origin) :
    AllConsent { s with members } where
  live := fun key origin hlookup => by
    have hkey : key ∈ s.live.keys :=
      AList.mem_keys.mp (AList.lookup_isSome.mp (isSome_of_mem hlookup))
    exact hlive key hkey _ _ (hs.live key origin hlookup)
  calls := fun c hc => by
    have hold := hs.calls c hc
    have hkeep := hcalls c hc
    cases c with
    | joining | asking => exact ⟨fun a ha => (by cases ha), trivial⟩
    | fanOut publisher track todo adding =>
      refine ⟨fun a ha => hkeep _ ?_ _ _ (hold.1 a ha), trivial⟩
      obtain rfl : adding = some a := ha
      exact mem_singleton_self _
    | catchUp subscriber todo adding | request subscriber update todo adding =>
      refine ⟨fun a ha => hkeep _ ?_ _ _ (hold.1 a ha), fun x hx => hkeep _ ?_ _ _ (hold.2 x hx)⟩
      · obtain rfl : adding = some a := ha
        exact mem_append_left _ (mem_singleton_self _)
      · exact mem_append_right _ (mem_map.mpr ⟨x, hx, rfl⟩)

theorem join (hnew : sid ∉ s.members) (m : Subscriber) :
    AllConsent { s with members := s.members.insert sid m } := by
  have hkeep : ∀ x track origin, Consent s.members x track origin →
      Consent (s.members.insert sid m) x track origin := by
    rintro x track origin ⟨m', hm', hrest⟩
    have hx : x ≠ sid := by
      rintro rfl
      exact hnew (AList.lookup_isSome.mp (isSome_of_mem hm'))
    exact ⟨m', (AList.lookup_insert_ne hx).trans hm', hrest⟩
  exact hs.setMembers (fun key _ => hkeep key.1) fun _ _ sid _ => hkeep sid

/-- **A permission changes**: it is not taken from those that rely on it. -/
theorem updatePermission {m : Subscriber} {permission : ParticipantPermission}
    (hm : s.members.lookup sid = some m) (hG : s.Consented (.updatePermission sid permission)) :
    AllConsent { s with members := s.members.insert sid { m with permission } } := by
  have hkeep : ∀ x, (permission.canSubscribe = false → x ≠ sid) → ∀ track origin,
      Consent s.members x track origin →
        Consent (s.members.insert sid { m with permission }) x track origin := by
    rintro x hx track origin ⟨m', hm', hcan, hauto⟩
    by_cases hxs : x = sid
    · subst hxs
      obtain rfl : m = m' := some.inj (hm.symm.trans hm')
      refine ⟨{ m with permission }, AList.lookup_insert _, ?_, hauto⟩
      cases hcan' : permission.canSubscribe with
      | true => rfl
      | false => exact absurd rfl (hx hcan')
    · exact ⟨m', (AList.lookup_insert_ne hxs).trans hm', hcan, hauto⟩
  refine hs.setMembers (fun key hkey => hkeep key.1 fun hno => (hG hno).1 key hkey) ?_
  intro c hc x hx
  refine hkeep x fun hno hxs => (hG hno).2 c hc ?_
  rw [← hxs]
  exact hx

end AllConsent

/-- **One step** that meets the condition keeps the invariant. -/
theorem AllConsent.step {a : SubscribeAction} (hs : AllConsent s) (hG : s.Consented a)
    (h : s.step a = some s') : AllConsent s' := by
  cases a with
  | join sid permission autoSubscribe =>
    obtain ⟨hnew, ⟨⟩⟩ := ite_none_left_eq_some.mp h
    exact (hs.join hnew _).push ⟨fun a ha => (by cases ha), trivial⟩
  | addTrack publisher track =>
    obtain ⟨-, ⟨⟩⟩ := ite_none_right_eq_some.mp h
    exact hs.register publisher track
  | publish publisher track =>
    obtain ⟨-, ⟨⟩⟩ := ite_none_right_eq_some.mp h
    have hreg := hs.register publisher track
    have hfwd : AllConsent { s.register publisher track with
        forwarders := s.forwarders ++ [(publisher, track)] } := ⟨hreg.live, hreg.calls⟩
    exact hfwd.push ⟨fun a ha => (by cases ha), trivial⟩
  | updateSubscription subscriber update =>
    obtain ⟨-, ⟨⟩⟩ := ite_none_right_eq_some.mp h
    exact hs.push ⟨fun a ha => (by cases ha), trivial⟩
  | updatePermission sid permission =>
    obtain ⟨m, hm, rfl⟩ := map_eq_some_iff.mp h
    exact hs.updatePermission hm hG
  | next i =>
    obtain ⟨c, hi, h⟩ := bind_eq_some_iff.mp h
    have hc := hs.calls c (mem_of_getElem? hi)
    split at h
    · rename_i a ha
      cases h
      exact hs.addStep hc ha
    · exact hs.loopStep hi hG h
  | fail i =>
    obtain ⟨c, hi, rfl⟩ := map_eq_some_iff.mp h
    have hc := hs.calls c (mem_of_getElem? hi)
    exact hs.setCall (hc.withAdding nofun)

end Steps

/-- **Subscription consent**: along every run whose steps meet the condition, a live subscription
belongs to a participant with `can_subscribe`, and if it joined without `auto_subscribe`, an
`UpdateSubscription` that named the track established it. -/
theorem subscriptions_consented {acts : List SubscribeAction} {s : SubscribeState}
    (hG : Along step Consented init acts) (hrun : run step init acts = some s)
    {sid : ParticipantSid} {track : TrackSid} {origin : SubOrigin}
    (hlive : s.live.lookup (sid, track) = some origin) :
    ∃ m, s.members.lookup sid = some m ∧ m.permission.canSubscribe ∧
      (m.autoSubscribe = false → ∃ update, origin = .request update ∧ track ∈ update.named) := by
  have hs : AllConsent s :=
    run_invariant_along (fun _ _ _ hI hG h => hI.step hG h) allConsent_init hG hrun
  exact hs.live (sid, track) origin hlive

/-- Two participants join, one of them without `auto_subscribe`; the other publishes a track, the
first asks for it, and a third is refused. -/
def askedFor : List SubscribeAction :=
  [.join "PA_1" {} true, .next 0, .join "PA_2" {} false, .next 1, .publish "PA_1" "TR_1", .next 2,
    .updateSubscription "PA_2" ⟨["TR_1"], true, []⟩, .next 3, .next 3, .next 3, .next 3,
    .join "PA_3" {} true, .updatePermission "PA_3" { canSubscribe := false }, .next 4]

/-- In that run, the subscription is one that was asked for. -/
theorem subscriptions_consented_askedFor :
    ∃ s m, run step init askedFor = some s ∧ s.live.keys = [("PA_2", "TR_1")] ∧
      s.members.lookup "PA_2" = some m ∧ m.permission.canSubscribe := by
  obtain ⟨s, hrun, hkeys, hlive⟩ : ∃ s ∈ run step init askedFor, s.live.keys = [("PA_2", "TR_1")] ∧
      s.live.lookup ("PA_2", "TR_1") = some (.request ⟨["TR_1"], true, []⟩) := by decide +kernel
  obtain ⟨m, hm, hcan, -⟩ := subscriptions_consented (by decide +kernel) hrun hlive
  exact ⟨s, m, hrun, hkeys, hm, hcan⟩

/-- **Where consent is missing.** A participant that joined without `auto_subscribe` is subscribed
to a track that was there before; one that may not subscribe any more still is. -/
theorem subscription_unwanted :
    (run step init [.join "PA_1" {} true, .next 0, .publish "PA_1" "TR_1",
      .join "PA_2" {} false, .next 2, .next 2, .next 2, .next 2]).map (fun s =>
        (s.live.lookup ("PA_2", "TR_1"),
          (s.members.lookup "PA_2").map Subscriber.autoSubscribe)) =
      some (some .catchUp, some false) ∧
    (run step init [.join "PA_1" {} true, .join "PA_2" {} true, .publish "PA_1" "TR_1", .next 2,
      .next 2, .next 2, .updatePermission "PA_2" { canSubscribe := false }]).map (fun s =>
        (s.live.lookup ("PA_2", "TR_1"), s.canSubscribe "PA_2")) =
      some (some .fanOut, false) := by
  decide +kernel

end SubscribeState
end LivekitVoice
