import Mathlib.Data.List.Dedup
import LivekitVoice.Room.Announce
import LivekitVoice.Room.Publish
import LivekitVoice.Transition.Pool

/-! # Hidden participants

The signal messages that carry participants: the `JoinResponse`, the `ParticipantUpdate`s that
follow a change, the update that follows a `ReconnectResponse`, and `SpeakersChanged`. A run mixes
joins, resumes, publishes, mutes, metadata and permission updates, leaves and speaker broadcasts.

What is built in one step is not sent in that step. A join takes the info it broadcasts before it
awaits the `room_started` webhook, and builds its `JoinResponse` after another one; a leave takes
its info before it awaits the end of the media; a track is removed before the subscribers are, and
the info is broadcast afterwards. Every message waits for the writer task of its recipient. A
participant that has left lives on in the tasks that hold it, which broadcast its info without
asking whether it is still in the room.

* **`hidden_stay_hidden`** — under `Discreet`, no message reveals a hidden participant. -/

namespace LivekitVoice

open List Transition

/-! ## Participants and messages -/

/-- **A participant as `to_proto` shows it** (`lk.ParticipantInfo`). -/
structure ParticipantInfo where
  sid : ParticipantSid
  identity : Identity
  kind : ParticipantKind := .standard
  state : ParticipantState := .joining
  /-- The tracks, and whether they are muted. -/
  tracks : List (TrackSid × Bool) := []
  metadata : String := ""
  name : String := ""
  attributes : List (String × String) := []
  permission : ParticipantPermission := {}
  deriving DecidableEq

/-- `lk.UpdateParticipantRequest`, without the room. -/
structure UpdateParticipantRequest where
  identity : Identity
  metadata : String
  name : String
  permission : Option ParticipantPermission
  attributes : List (String × String)

namespace ParticipantInfo

variable (info : ParticipantInfo)

/-- `permission.hidden`. -/
def hidden : Bool := info.permission.hidden

/-- `update_metadata`: the participant, and whether it has changed. -/
def updateMetadata (metadata name : String) : ParticipantInfo × Bool :=
  let metadata' := if metadata = "" then info.metadata else metadata
  let name' := if name = "" then info.name else name
  ({ info with metadata := metadata', name := name' },
    decide (metadata' ≠ info.metadata) || decide (name' ≠ info.name))

/-- One turn of the loop of `set_attributes`: an empty value removes the key. -/
def setAttribute (k v : String) : ParticipantInfo × Bool :=
  let others := info.attributes.filter fun x => x.1 ≠ k
  if v = "" then
    ({ info with attributes := others }, (info.attributes.lookup k).isSome)
  else
    ({ info with attributes := (k, v) :: others }, decide (info.attributes.lookup k ≠ some v))

/-- `set_attributes`. -/
def setAttributes (attrs : List (String × String)) :
    ParticipantInfo × Bool :=
  attrs.foldl (fun acc x =>
    let turn := acc.1.setAttribute x.1 x.2
    (turn.1, acc.2 || turn.2)) (info, false)

/-- `update_permission`. -/
def updatePermission (permission : ParticipantPermission) :
    ParticipantInfo × Bool :=
  ({ info with permission }, decide (info.permission ≠ permission))

/-- `UpdateParticipant`: the participant, and whether it has changed. -/
def update (r : UpdateParticipantRequest) : ParticipantInfo × Bool :=
  let named := info.updateMetadata r.metadata r.name
  let permitted :=
    match r.permission with
    | none => (named.1, false)
    | some permission => named.1.updatePermission permission
  let attributed :=
    if r.attributes.isEmpty then (permitted.1, false) else permitted.1.setAttributes r.attributes
  (attributed.1, named.2 || permitted.2 || attributed.2)

/-- **`set_attributes` changes the attributes only.** -/
theorem exists_setAttributes (attrs : List (String × String)) :
    ∃ attributes, (info.setAttributes attrs).1 = { info with attributes } := by
  rw [setAttributes]
  refine List.foldlRecOn attrs _
    (motive := fun acc : ParticipantInfo × Bool => ∃ attributes, acc.1 = { info with attributes })
    ⟨info.attributes, rfl⟩ ?_
  rintro acc ⟨attributes, hacc⟩ x -
  dsimp only
  rw [hacc, setAttribute]
  split <;> exact ⟨_, rfl⟩

/-- The same participant. -/
def Same (p p' : ParticipantInfo) : Prop := p'.sid = p.sid ∧ p'.identity = p.identity

theorem same_update (r : UpdateParticipantRequest) : Same info (info.update r).1 := by
  have hpermitted : Same info (match r.permission with
      | none => ((info.updateMetadata r.metadata r.name).1, false)
      | some permission =>
        (info.updateMetadata r.metadata r.name).1.updatePermission permission).1 := by
    split <;> exact ⟨rfl, rfl⟩
  simp only [update]
  split
  · exact hpermitted
  · obtain ⟨attributes, hset⟩ := exists_setAttributes _ r.attributes
    rw [hset]
    exact hpermitted

/-- The sid or the identity of an info is that of a participant. -/
def Resembles (info p : ParticipantInfo) : Prop := info.sid = p.sid ∨ info.identity = p.identity
  deriving Decidable

end ParticipantInfo

/-- **A message that carries participants.** -/
inductive SignalMessage
  /-- `JoinResponse`: the participant itself, and the others. -/
  | join (self : ParticipantInfo) (others : List ParticipantInfo)
  /-- `ParticipantUpdate`. -/
  | update (participants : List ParticipantInfo)
  /-- `SpeakersChanged`: the sids of the speakers. -/
  | speakersChanged (speakers : List ParticipantSid)
  deriving DecidableEq

namespace SignalMessage

/-- The infos a message carries. -/
def infos : SignalMessage → List ParticipantInfo
  | .join self others => self :: others
  | .update participants => participants
  | .speakersChanged _ => []

/-- The speakers it names. -/
def speakers : SignalMessage → List ParticipantSid
  | .speakersChanged speakers => speakers
  | .join .. | .update _ => []

end SignalMessage

/-- **A message reveals** a participant `p` to another one: it names `p` as a speaker, or carries an
info that is not the recipient's own and has the sid or the identity of `p`. -/
def SignalMessage.Reveals (message : SignalMessage) (recipient : ParticipantSid)
    (p : ParticipantInfo) : Prop :=
  p.sid ≠ recipient ∧ (p.sid ∈ message.speakers ∨
    ∃ info ∈ message.infos, info.sid ≠ recipient ∧ info.Resembles p)
  deriving Decidable

/-- **A message for a participant**, with those that were hidden when it was handed to the writer
task of the recipient, or when that wrote it. -/
structure Delivery where
  recipient : ParticipantSid
  message : SignalMessage
  hidden : List ParticipantInfo

/-- A delivery reveals nobody who was hidden. -/
def Delivery.Lawful (d : Delivery) : Prop := ∀ p ∈ d.hidden, ¬ d.message.Reveals d.recipient p

/-! ## The room -/

/-- **What is still to be done**: what is left of a call, or a message that waits. -/
inductive PendingSend
  /-- The broadcast of the info that was taken when the participant was admitted. -/
  | announce (info : ParticipantInfo)
  /-- The `JoinResponse`, which has not been built. -/
  | respond (sid : ParticipantSid)
  /-- The broadcast of a participant one of whose tracks has changed, as it is then. -/
  | refresh (sid : ParticipantSid)
  /-- The broadcast of the info that was taken before the participant was removed. -/
  | farewell (info : ParticipantInfo)
  /-- A message that waits for the writer task of its recipient. -/
  | write (d : Delivery)

namespace PendingSend

/-- The participant that a call is about, and holds. -/
def holds : PendingSend → Option ParticipantSid
  | .announce info | .farewell info => some info.sid
  | .respond sid | .refresh sid => some sid
  | .write _ => none

/-- **It may show a participant** to another one: an info that was taken has its sid or its
identity and is not shown as hidden, or the message reveals it. -/
def Shows : PendingSend → ParticipantInfo → Prop
  | .announce info, p | .farewell info, p => info.hidden = false ∧ info.Resembles p
  | .respond _, _ | .refresh _, _ => False
  | .write d, p => d.message.Reveals d.recipient p

instance (item : PendingSend) (p : ParticipantInfo) : Decidable (item.Shows p) := by
  cases item <;> unfold Shows <;> infer_instance

/-- What may show a participant depends on its sid and its identity only. -/
theorem shows_congr {item : PendingSend} {p p' : ParticipantInfo} (h : p.Same p') :
    item.Shows p' ↔ item.Shows p := by
  cases item <;>
    simp only [Shows, SignalMessage.Reveals, ParticipantInfo.Resembles, h.1, h.2]

/-- A message that waits reveals nobody who was hidden. -/
def Lawful : PendingSend → Prop
  | .write d => d.Lawful
  | _ => True

/-- **Nobody is revealed**, whether hidden now or before. -/
structure Safe (item : PendingSend) (members : List ParticipantInfo) : Prop where
  now : ∀ p ∈ members, p.hidden → ¬ item.Shows p
  before : item.Lawful

end PendingSend

/-- **A room, as its clients see it.** -/
structure VisibleRoom where
  /-- Those that are there, and those that have left and that some task still holds (`false`). -/
  people : List (ParticipantInfo × Bool)
  pending : List PendingSend
  /-- The speakers of the last `SpeakersChanged`. -/
  lastSpeakers : List ParticipantSid
  log : List Delivery

/-- What happens in the room. -/
inductive VisibleAction
  /-- `room.join` admits a participant. -/
  | join (info : ParticipantInfo)
  /-- A reconnect resumes a participant. -/
  | resume (sid : ParticipantSid)
  /-- A track is registered. -/
  | addTrack (sid : ParticipantSid) (track : TrackSid)
  /-- `on_track_published`. -/
  | trackPublished (sid : ParticipantSid)
  /-- `on_track_unpublished`, up to its first await. -/
  | trackUnpublished (sid : ParticipantSid) (track : TrackSid)
  /-- `set_track_muted`, up to its first await. -/
  | setTrackMuted (sid : ParticipantSid) (track : TrackSid) (muted : Bool)
  /-- `handle_update_metadata`. -/
  | updateMetadata (sid : ParticipantSid) (metadata name : String)
      (attributes : List (String × String))
  /-- `UpdateParticipant`. -/
  | updateParticipant (request : UpdateParticipantRequest)
  /-- The media plane of a participant is up. -/
  | active (sid : ParticipantSid)
  /-- `end_participant` removes a participant. -/
  | leave (sid : ParticipantSid)
  /-- The last task that holds a participant that has left ends. -/
  | forget (sid : ParticipantSid)
  /-- `broadcast_speakers`, with the participants whose audio is active. -/
  | speakers (loud : List ParticipantSid)
  /-- What is pending as number `i` is done: a call goes on, or a message is written. -/
  | next (i : Nat)
  /-- A message is lost: the channel is full, or the recipient has no session yet or any more. -/
  | lose (i : Nat)

/-- `broadcast_participant_update`: to whom which message goes. -/
def broadcastParticipantUpdate (members infos : List ParticipantInfo)
    (except : Option ParticipantSid) : List (ParticipantSid × SignalMessage) :=
  let hiddenSids := ((infos.filter fun i => i.hidden).map ParticipantInfo.sid).dedup
  let hiddenOnly := !hiddenSids.isEmpty && decide (hiddenSids.length = infos.length)
  ((members.filter fun p => except ≠ some p.sid).filter fun p =>
    !hiddenOnly || decide (p.sid ∈ hiddenSids)).map fun p => (p.sid, .update infos)

namespace VisibleRoom

/-- Nobody is there. -/
def init : VisibleRoom := ⟨[], [], [], []⟩

variable (s : VisibleRoom)

/-- The participants in the room. -/
def members : List ParticipantInfo := (s.people.filter Prod.snd).map Prod.fst

/-- Messages are handed to the writer tasks; somebody who has `left` may count as there. -/
def deliver (left : List ParticipantInfo)
    (messages : List (ParticipantSid × SignalMessage)) : VisibleRoom :=
  let hidden := (left ++ s.members).filter ParticipantInfo.hidden
  { s with pending := s.pending ++ messages.map fun x => .write ⟨x.1, x.2, hidden⟩ }

/-- The participant with a sid, whether it has left or not. -/
def find (sid : ParticipantSid) : Option ParticipantInfo :=
  (s.people.map Prod.fst).find? fun p => p.sid = sid

/-- The member of the room with a sid. -/
def member (sid : ParticipantSid) : Option ParticipantInfo :=
  s.members.find? fun p => p.sid = sid

/-- A participant changes, and may leave. -/
def revise (info : ParticipantInfo) (stays : Bool) : VisibleRoom :=
  { s with people := s.people.map fun x => if x.1.sid = info.sid then (info, x.2 && stays) else x }

/-- Its info is broadcast, as it is now. -/
def broadcast (info : ParticipantInfo) (except : Option ParticipantSid) :
    VisibleRoom :=
  s.deliver [] (broadcastParticipantUpdate s.members [info] except)

/-- There is one more thing to do. -/
def push (item : PendingSend) : VisibleRoom :=
  { s with pending := s.pending ++ [item] }

/-- A thing is done. -/
def done (i : Nat) : VisibleRoom := { s with pending := s.pending.eraseIdx i }

/-- `build_join_response`: the others, without those that are hidden. -/
def joinResponse (self : ParticipantInfo) : SignalMessage :=
  .join self (s.members.filter fun p => decide (p.sid ≠ self.sid) && !p.hidden)

/-- `active_speakers`. -/
def activeSpeakers (loud : List ParticipantSid) : List ParticipantSid :=
  (s.members.filter fun p => p.sid ∈ loud).map ParticipantInfo.sid

/-- `broadcast_speakers` has nothing new to say: the same speakers, in whatever order. -/
def sameSpeakers (loud : List ParticipantSid) : Bool :=
  (s.activeSpeakers loud).isPerm s.lastSpeakers

/-- **What is pending goes on**, in the room that has it no more. -/
def proceed : PendingSend → Option VisibleRoom
  -- the info of the admission, whatever has changed since
  | .announce info => some ((s.push (.respond info.sid)).broadcast info (some info.sid))
  | .respond sid => (s.find sid).map fun self => s.deliver [] [(self.sid, s.joinResponse self)]
  | .refresh sid => (s.find sid).map fun p => s.broadcast p (some p.sid)
  -- the one that has left counts as there
  | .farewell info =>
    some (s.deliver [info] (broadcastParticipantUpdate s.members [info] (some info.sid)))
  | .write d =>
    let hidden := d.hidden ++ s.members.filter ParticipantInfo.hidden
    some { s with log := s.log ++ [{ d with hidden }] }

/-- **One step.** -/
def step : VisibleAction → Option VisibleRoom
  | .join info =>
    if (∀ x ∈ s.people, x.1.sid ≠ info.sid) ∧ ∀ p ∈ s.members, p.identity ≠ info.identity then
      some ({ s with people := s.people ++ [(info, true)] }.push (.announce info))
    else none
  -- nobody is left out
  | .resume sid => (s.member sid).map fun q => s.deliver [] [(q.sid, .update s.members)]
  | .addTrack sid track =>
    (s.find sid).map fun p => s.revise { p with tracks := p.tracks ++ [(track, false)] } true
  | .trackPublished sid => (s.find sid).map fun p => s.broadcast p (some p.sid)
  | .trackUnpublished sid track =>
    (s.find sid).map fun p =>
      if (p.tracks.lookup track).isNone then s
      else
        (s.revise { p with tracks := p.tracks.filter fun x => x.1 ≠ track } true).push
          (.refresh sid)
  | .setTrackMuted sid track muted =>
    (s.find sid).map fun p =>
      match p.tracks.lookup track with
      | none => s
      | some old =>
        if old = muted then s
        else
          let tracks := p.tracks.map fun x => if x.1 = track then (track, muted) else x
          (s.revise { p with tracks } true).push (.refresh sid)
  | .updateMetadata sid metadata name attributes =>
    (s.find sid).map fun p =>
      if !p.permission.canUpdateMetadata then s
      else
        let named := p.updateMetadata metadata name
        if named.2 || !attributes.isEmpty then
          let p' := (named.1.setAttributes attributes).1
          (s.revise p' true).broadcast p' none
        else s
  | .updateParticipant r =>
    (s.members.find? fun p => p.identity = r.identity).map fun p =>
      let updated := p.update r
      let s' := s.revise updated.1 true
      if updated.2 then s'.broadcast updated.1 none else s'
  | .active sid =>
    (s.find sid).map fun p =>
      if p.state = .active ∨ p.state = .disconnected then s
      else
        let p' := { p with state := .active }
        (s.revise p' true).broadcast p' (some p'.sid)
  | .leave sid =>
    (s.member sid).map fun p =>
      let p' := { p with state := .disconnected }
      (s.revise p' false).push (.farewell p')
  | .forget sid =>
    if (∀ item ∈ s.pending, item.holds ≠ some sid) ∧ s.member sid = none then
      some { s with people := s.people.filter fun x => x.1.sid ≠ sid }
    else none
  | .speakers loud =>
    if s.sameSpeakers loud then some s
    else
      -- neither the speakers nor those who are told are filtered
      some ({ s with lastSpeakers := s.activeSpeakers loud }.deliver []
        (s.members.map fun (q : ParticipantInfo) =>
          (q.sid, .speakersChanged (s.activeSpeakers loud))))
  | .next i => s.pending[i]?.bind (s.done i).proceed
  | .lose i =>
    match s.pending[i]? with
    | some (.write _) => some (s.done i)
    | _ => none

/-! ## The condition and the law -/

/-- **Something that is still to be sent may show a participant**: what is pending, or the
broadcasts of somebody visible who has left and has the same identity. -/
def Exposed (p : ParticipantInfo) : Prop :=
  (∃ item ∈ s.pending, item.Shows p) ∨
    ∃ x ∈ s.people, x.2 = false ∧ x.1.hidden = false ∧ x.1.identity = p.identity
  deriving Decidable

/-- **The condition on a step**: a participant joins as hidden, or is made hidden, only while
nothing that is still to be sent may show it; a participant resumes only while no other is hidden;
and no hidden participant is among the speakers of a broadcast that somebody else gets. -/
def Discreet : VisibleAction → Prop
  | .join info => info.hidden → ¬ s.Exposed info
  | .updateParticipant r => ∀ p ∈ s.members, p.identity = r.identity → p.hidden = false →
      (p.update r).1.hidden → ¬ s.Exposed p
  | .resume sid => ∀ p ∈ s.members, p.sid ≠ sid → p.hidden = false
  | .speakers loud => s.sameSpeakers loud ∨
      ∀ p ∈ s.members, p.hidden → p.sid ∈ loud → ∀ q ∈ s.members, q.sid = p.sid
  | _ => True

instance (a : VisibleAction) : Decidable (s.Discreet a) := by
  unfold Discreet
  split <;> infer_instance

/-- **The invariant.** Nothing that was sent reveals anybody who was hidden, and nothing that is
still to be sent may show anybody who is. -/
structure Kept (s : VisibleRoom) : Prop where
  sids : (s.people.map fun x => x.1.sid).Nodup
  identities : ∀ p ∈ s.members, ∀ q ∈ s.members, p.identity = q.identity → p = q
  sent : ∀ d ∈ s.log, d.Lawful
  pending : ∀ item ∈ s.pending, item.Safe s.members
  departed : ∀ p ∈ s.members, p.hidden → ∀ q, (q, false) ∈ s.people → q.hidden = false →
    q.identity ≠ p.identity

theorem kept_init : Kept init where
  sids := nodup_nil
  identities := by simp [init, members]
  sent := by simp [init]
  pending := by simp [init]
  departed := by simp [init, members]

variable {p info p' q : ParticipantInfo} {s s' : VisibleRoom} {sid : ParticipantSid}
  {except : Option ParticipantSid} {x : ParticipantSid × SignalMessage}
  {members : List ParticipantInfo}

theorem mem_members : p ∈ s.members ↔ (p, true) ∈ s.people := by
  simp [VisibleRoom.members]

theorem find_eq_some (h : s.find sid = some p) : (∃ there, (p, there) ∈ s.people) ∧ p.sid = sid :=
  ⟨by simpa using mem_of_find?_eq_some h, by simpa using List.find?_some h⟩

theorem member_eq_some (h : s.member sid = some p) : p ∈ s.members ∧ p.sid = sid :=
  ⟨mem_of_find?_eq_some h, by simpa using List.find?_some h⟩

/-- **A hidden member is not exposed.** -/
theorem Kept.not_exposed (hs : Kept s) (hp : p ∈ s.members) (hh : p.hidden) : ¬ s.Exposed p := by
  rintro (⟨item, hitem, hshows⟩ | ⟨⟨q, -⟩, hq, rfl, hvisible, hid⟩)
  · exact (hs.pending item hitem).now p hp hh hshows
  · exact hs.departed p hp hh q hq hvisible hid

theorem Kept.eq_of_sid (hs : Kept s) {x y : ParticipantInfo × Bool} (hx : x ∈ s.people)
    (hy : y ∈ s.people) (hsid : x.1.sid = y.1.sid) : x = y :=
  inj_on_of_nodup_map hs.sids hx hy hsid

/-- **Somebody visible** who is held by a task has nothing in common with a hidden member. -/
theorem Kept.not_resembles (hs : Kept s) {there : Bool} (hq : (q, there) ∈ s.people)
    (hvisible : q.hidden = false) (hp : p ∈ s.members) (hh : p.hidden) :
    ¬ q.Resembles p := by
  rintro (hsid | hid)
  · cases hs.eq_of_sid hq (mem_members.mp hp) hsid
    cases hvisible.symm.trans hh
  · cases there with
    | false => exact hs.departed p hp hh q hq hvisible hid
    | true =>
      rw [hs.identities q (mem_members.mpr hq) p hp hid] at hvisible
      cases hvisible.symm.trans hh

/-- **A broadcast reveals nobody** if its info is shown as hidden, for then only its participant
gets it, or if it has nothing in common with the one in question. -/
theorem not_reveals_broadcast (h : info.hidden = false → ¬ info.Resembles p)
    (hx : x ∈ broadcastParticipantUpdate members [info] except) : ¬ x.2.Reveals x.1 p := by
  obtain ⟨q, hq, rfl⟩ := mem_map.mp hx
  rintro ⟨-, hspeaks | ⟨i, hi, hne, hsame⟩⟩
  · cases hspeaks
  · obtain rfl : i = info := mem_singleton.mp hi
    cases hinfo : i.hidden with
    | false => exact h hinfo hsame
    | true =>
      have honly : [i.sid].dedup = [i.sid] := List.Nodup.dedup (nodup_singleton _)
      have hto : q.sid = i.sid := by simpa [hinfo, honly] using (mem_filter.mp hq).2
      exact hne hto.symm

/-! ## Steps -/

namespace Kept

variable (hs : Kept s)
include hs

/-- **More to do**, which shows nobody. -/
theorem append {items : List PendingSend}
    (h : ∀ item ∈ items, item.Safe s.members) : Kept { s with pending := s.pending ++ items } :=
  { hs with pending := forall_mem_append.mpr ⟨hs.pending, h⟩ }

theorem push {item : PendingSend} (h : item.Safe s.members) :
    Kept (s.push item) := hs.append (forall_mem_singleton.mpr h)

theorem done (i : Nat) : Kept (s.done i) :=
  { hs with pending := fun item hitem => hs.pending item (mem_of_mem_eraseIdx hitem) }

/-- **Messages are handed over** that reveal nobody who is hidden. -/
theorem deliver {left : List ParticipantInfo} {messages : List (ParticipantSid × SignalMessage)}
    (h : ∀ x ∈ messages, ∀ p ∈ left ++ s.members, p.hidden → ¬ x.2.Reveals x.1 p) :
    Kept (s.deliver left messages) := by
  refine hs.append (forall_mem_map.mpr fun x hx => ⟨fun p hp => ?_, ?_⟩)
  · exact h x hx p (mem_append_right _ hp)
  · intro p hp
    obtain ⟨hin, hh⟩ := mem_filter.mp hp
    exact h x hx p hin hh

/-- **A participant is broadcast as it is.** -/
theorem broadcast (hinfo : ∃ there, (info, there) ∈ s.people)
    (except : Option ParticipantSid) : Kept (s.broadcast info except) := by
  obtain ⟨there, hinfo⟩ := hinfo
  refine hs.deliver fun x hx p hp hh => not_reveals_broadcast (fun hvisible => ?_) hx
  exact hs.not_resembles hinfo hvisible hp hh

/-- **A participant changes**, and is hidden as before; or it is a member, and nothing may show it
if it is hidden then. -/
theorem revise (hp : ∃ there, (p, there) ∈ s.people) (hsame : p.Same p')
    (stays : Bool) (hhidden : p'.hidden = p.hidden ∨
      p ∈ s.members ∧ (p'.hidden → ¬ s.Exposed p)) : Kept (s.revise p' stays) := by
  obtain ⟨there, hp⟩ := hp
  let f (x : ParticipantInfo × Bool) := if x.1.sid = p'.sid then (p', x.2 && stays) else x
  have hf : ∀ x ∈ s.people, f x = x ∨ x = (p, there) ∧ f x = (p', there && stays) := by
    intro x hx
    by_cases hsid : x.1.sid = p'.sid
    · obtain rfl := hs.eq_of_sid hx hp (hsid.trans hsame.1)
      exact .inr ⟨rfl, if_pos hsid⟩
    · exact .inl (if_neg hsid)
  have hsames : ∀ x ∈ s.people, x.1.Same (f x).1 ∧ ((f x).2 → x.1 ∈ s.members) := by
    intro x hx
    rcases hf x hx with heq | ⟨rfl, heq⟩ <;> rw [heq]
    · exact ⟨⟨rfl, rfl⟩, fun h => mem_members.mpr (h ▸ hx)⟩
    · exact ⟨hsame, fun h => mem_members.mpr ((Bool.and_eq_true_iff.mp h).1 ▸ hx)⟩
  have hclear : ∀ x ∈ s.people, (f x).2 → (f x).1.hidden → ¬ s.Exposed x.1 := by
    intro x hx hthere hh
    have hmem := (hsames x hx).2 hthere
    rcases hf x hx with heq | ⟨rfl, heq⟩
    · exact hs.not_exposed hmem (heq ▸ hh)
    · rw [heq] at hh
      exact hhidden.elim (fun hkept => hs.not_exposed hmem (hkept ▸ hh)) fun h => h.2 hh
  have hnew : ∀ q ∈ (s.revise p' stays).members,
      ∃ x ∈ s.people, x.1 ∈ s.members ∧ f x = (q, true) := by
    intro q hq
    obtain ⟨x, hx, hfx⟩ := mem_map.mp (mem_members.mp hq)
    exact ⟨x, hx, (hsames x hx).2 (congrArg Prod.snd hfx), hfx⟩
  -- those with one identity were one
  have hone : ∀ x ∈ s.people, ∀ y ∈ s.people, x.1 ∈ s.members → y.1 ∈ s.members →
      (f x).1.identity = (f y).1.identity → f x = f y := by
    intro x hx y hy hxm hym hid
    rw [(hsames x hx).1.2, (hsames y hy).1.2] at hid
    rw [hs.eq_of_sid hx hy (congrArg _ (hs.identities _ hxm _ hym hid))]
  refine ⟨?_, fun q hq r hr hid => ?_, hs.sent,
    fun item hitem => ⟨fun q hq hh => ?_, (hs.pending item hitem).before⟩,
    fun q hq hh r hr hvisible hid => ?_⟩
  · rw [VisibleRoom.revise, map_map]
    exact (map_congr_left fun x hx => (hsames x hx).1.1) ▸ hs.sids
  · obtain ⟨x, hx, hxm, hfx⟩ := hnew q hq
    obtain ⟨y, hy, hym, hfy⟩ := hnew r hr
    have heq := hone x hx y hy hxm hym (by rw [hfx, hfy]; exact hid)
    rw [hfx, hfy] at heq
    exact congrArg Prod.fst heq
  · obtain ⟨x, hx, -, hfx⟩ := hnew q hq
    obtain ⟨hsamex, -⟩ := hsames x hx
    rw [hfx] at hsamex
    rw [PendingSend.shows_congr hsamex]
    exact fun hshows => hclear x hx (by rw [hfx]) (by rwa [hfx]) (.inl ⟨item, hitem, hshows⟩)
  · obtain ⟨x, hx, hxm, hfx⟩ := hnew q hq
    obtain ⟨y, hy, hfy⟩ : ∃ y ∈ s.people, f y = (r, false) := mem_map.mp hr
    cases hthere : y.2 with
    | true =>
      have heq := hone x hx y hy hxm (mem_members.mpr (hthere ▸ hy))
        (by rw [hfx, hfy]; exact hid.symm)
      rw [hfx, hfy] at heq
      cases heq
    | false =>
      refine hclear x hx (by rw [hfx]) (by rwa [hfx]) (.inr ⟨y, hy, hthere, ?_, ?_⟩)
      · rcases hf y hy with heq | ⟨rfl, heq⟩
        · rw [← heq, hfy]
          exact hvisible
        · obtain ⟨rfl, -⟩ := Prod.mk.inj (hfy.symm.trans heq)
          rcases hhidden with hkept | ⟨hmember, -⟩
          · exact hkept ▸ hvisible
          · -- nobody has left and is there
            cases hthere.symm.trans (congrArg Prod.snd
              (hs.eq_of_sid hy (mem_members.mp hmember) rfl))
      · rw [← (hsames x hx).1.2, ← (hsames y hy).1.2, hfx, hfy]
        exact hid

/-- **A change and its broadcast.** -/
theorem reviseBroadcast (hp : ∃ there, (p, there) ∈ s.people) (hsame : p.Same p')
    (hhidden : p'.hidden = p.hidden ∨ p ∈ s.members ∧ (p'.hidden → ¬ s.Exposed p))
    (except : Option ParticipantSid) : Kept ((s.revise p' true).broadcast p' except) := by
  obtain ⟨there, hmem⟩ := hp
  refine (hs.revise ⟨there, hmem⟩ hsame true hhidden).broadcast ⟨there, ?_⟩ except
  exact mem_map.mpr ⟨_, hmem, by simp [hsame.1]⟩

/-- **A change that will be broadcast**, with whatever has changed until then. -/
theorem reviseRefresh (hp : s.find sid = some p) (hsame : p.Same p')
    (hhidden : p'.hidden = p.hidden) : Kept ((s.revise p' true).push (.refresh sid)) :=
  (hs.revise (find_eq_some hp).1 hsame true (.inl hhidden)).push ⟨fun _ _ _ => id, trivial⟩

/-- **A leave**: nobody who stays has anything in common with the one that leaves. -/
theorem leave (hp : s.member sid = some p) (hsame : p.Same p')
    (hhidden : p'.hidden = p.hidden) : Kept ((s.revise p' false).push (.farewell p')) := by
  have hmem := mem_members.mp (member_eq_some hp).1
  have hleft := hs.revise ⟨true, hmem⟩ hsame false (.inl hhidden)
  refine hleft.push ⟨fun q hq hh hshows => ?_, trivial⟩
  exact hleft.not_resembles (mem_map.mpr ⟨_, hmem, if_pos hsame.1.symm⟩) hshows.1 hq hh
    hshows.2

/-- **A join**: the sid and the identity are new, and nothing may show a hidden one. -/
theorem join (hsids : ∀ x ∈ s.people, x.1.sid ≠ info.sid)
    (hids : ∀ p ∈ s.members, p.identity ≠ info.identity) (hG : info.hidden → ¬ s.Exposed info) :
    Kept ({ s with people := s.people ++ [(info, true)] }.push (.announce info)) := by
  have hmembers : { s with people := s.people ++ [(info, true)] }.members =
      s.members ++ [info] := by simp [VisibleRoom.members]
  have hjoined : Kept { s with people := s.people ++ [(info, true)] } := by
    refine ⟨?_, ?_, hs.sent, fun item hitem => ⟨?_, (hs.pending item hitem).before⟩, ?_⟩
    · rw [map_append, nodup_append]
      refine ⟨hs.sids, nodup_singleton _, forall_mem_map.mpr fun x hx sid hsid => ?_⟩
      rw [mem_singleton.mp hsid]
      exact hsids x hx
    · rw [hmembers]
      refine forall_mem_concat (fun p hp => forall_mem_concat (hs.identities p hp) fun hid => ?_)
        (forall_mem_concat (fun q hq hid => ?_) fun _ => rfl)
      · exact absurd hid (hids p hp)
      · exact absurd hid.symm (hids q hq)
    · rw [hmembers]
      exact forall_mem_concat (hs.pending item hitem).now fun hh hshows =>
        hG hh (.inl ⟨item, hitem, hshows⟩)
    · rw [hmembers]
      refine forall_mem_concat (fun p hp hh q hq => ?_) fun hh q hq hvisible hid => ?_
      · exact hs.departed p hp hh q (by simpa using hq)
      · exact hG hh (.inr ⟨_, by simpa using hq, rfl, hvisible, hid⟩)
  refine hjoined.push ⟨fun q hq hh hshows => ?_, trivial⟩
  exact hjoined.not_resembles (mem_append_right _ (mem_singleton.mpr rfl)) hshows.1 hq hh
    hshows.2

/-- **The last task of somebody who has left ends.** -/
theorem forget (sid : ParticipantSid) :
    Kept { s with people := s.people.filter fun x => x.1.sid ≠ sid } := by
  have hsub := filter_sublist (p := fun x : ParticipantInfo × Bool => decide (x.1.sid ≠ sid))
    (l := s.people)
  have hmembers : ∀ p ∈ { s with people := s.people.filter fun x => x.1.sid ≠ sid }.members,
      p ∈ s.members := fun p hp => mem_members.mpr (hsub.subset (mem_members.mp hp))
  exact ⟨hs.sids.sublist (hsub.map _),
    fun p hp q hq => hs.identities p (hmembers p hp) q (hmembers q hq), hs.sent,
    fun item hitem => ⟨fun p hp => (hs.pending item hitem).now p (hmembers p hp),
      (hs.pending item hitem).before⟩,
    fun p hp hh q hq => hs.departed p (hmembers p hp) hh q (hsub.subset hq)⟩

/-- **The `JoinResponse`** leaves out those that are hidden. -/
theorem joinResponse (self : ParticipantInfo) (hp : p ∈ s.members)
    (hh : p.hidden) : ¬ (s.joinResponse self).Reveals self.sid p := by
  rintro ⟨-, hspeaks | ⟨i, hi, hne, hsame⟩⟩
  · cases hspeaks
  · rcases mem_cons.mp hi with rfl | hi
    · exact hne rfl
    · obtain ⟨hmem, hvisible⟩ := mem_filter.mp hi
      exact hs.not_resembles (mem_members.mp hmem) (by simp_all) hp hh hsame

/-- **`SpeakersChanged`** names every speaker; by the condition no hidden one to another. -/
theorem speakers {loud : List ParticipantSid}
    (hG : ∀ p ∈ s.members, p.hidden → p.sid ∈ loud → ∀ q ∈ s.members, q.sid = p.sid) :
    Kept ({ s with lastSpeakers := s.activeSpeakers loud }.deliver []
      (s.members.map fun (q : ParticipantInfo) =>
        (q.sid, .speakersChanged (s.activeSpeakers loud)))) := by
  have hs₁ : Kept { s with lastSpeakers := s.activeSpeakers loud } := { hs with }
  refine hs₁.deliver fun x hx p hp hh => ?_
  obtain ⟨q, hq, rfl⟩ := mem_map.mp hx
  rintro ⟨hne, hspeaks | ⟨i, hi, -⟩⟩
  · obtain ⟨r, hr, hsid⟩ := mem_map.mp hspeaks
    have hloud := (mem_filter.mp hr).2
    rw [hsid] at hloud
    exact hne (hG p hp hh (by simpa using hloud) q hq).symm
  · cases hi

/-- **What is pending goes on**: it shows nobody who is hidden. -/
theorem proceed {item : PendingSend} (hitem : item.Safe s.members)
    (h : s.proceed item = some s') : Kept s' := by
  cases item with
  | announce info =>
    cases h
    have hpushed : Kept (s.push (.respond info.sid)) := hs.push ⟨fun _ _ _ => id, trivial⟩
    refine hpushed.deliver fun x hx p hp hh => ?_
    exact not_reveals_broadcast (fun hvisible hsame => hitem.now p hp hh ⟨hvisible, hsame⟩) hx
  | respond sid =>
    obtain ⟨self, -, rfl⟩ := Option.map_eq_some_iff.mp h
    exact hs.deliver (forall_mem_singleton.mpr fun p hp hh => hs.joinResponse self hp hh)
  | refresh sid =>
    obtain ⟨p, hp, rfl⟩ := Option.map_eq_some_iff.mp h
    exact hs.broadcast (find_eq_some hp).1 _
  | farewell info =>
    cases h
    refine hs.deliver fun x hx p hp hh => not_reveals_broadcast (fun hvisible hsame => ?_) hx
    rcases mem_cons.mp hp with rfl | hp
    · cases hvisible.symm.trans hh
    · exact hitem.now p hp hh ⟨hvisible, hsame⟩
  | write d =>
    cases h
    refine { hs with sent := forall_mem_concat hs.sent fun p hp => ?_ }
    rcases mem_append.mp hp with hthen | hnow
    · exact hitem.before p hthen
    · obtain ⟨hmem, hh⟩ := mem_filter.mp hnow
      exact hitem.now p hmem hh

end Kept

/-- **One step** that meets the condition keeps the invariant. -/
theorem Kept.step {a : VisibleAction} (hs : Kept s) (hG : s.Discreet a)
    (h : s.step a = some s') : Kept s' := by
  cases a with
  | join info =>
    obtain ⟨⟨hsids, hids⟩, ⟨⟩⟩ := Option.ite_none_right_eq_some.mp h
    exact hs.join hsids hids hG
  | resume sid =>
    obtain ⟨q, hq, rfl⟩ := Option.map_eq_some_iff.mp h
    refine hs.deliver (forall_mem_singleton.mpr fun p hp hh => ?_)
    -- it carries everybody, and nobody else is hidden
    rintro ⟨hne, -⟩
    rw [hG p hp fun hsid => hne (hsid.trans (member_eq_some hq).2.symm)] at hh
    cases hh
  | addTrack sid track =>
    obtain ⟨p, hp, rfl⟩ := Option.map_eq_some_iff.mp h
    refine hs.revise (find_eq_some hp).1 ?_ true (.inl rfl)
    exact ⟨rfl, rfl⟩
  | trackPublished sid =>
    obtain ⟨p, hp, rfl⟩ := Option.map_eq_some_iff.mp h
    exact hs.broadcast (find_eq_some hp).1 _
  | trackUnpublished sid track =>
    obtain ⟨p, hp, rfl⟩ := Option.map_eq_some_iff.mp h
    split
    · exact hs
    · refine hs.reviseRefresh hp ?_ rfl
      exact ⟨rfl, rfl⟩
  | setTrackMuted sid track muted =>
    obtain ⟨p, hp, rfl⟩ := Option.map_eq_some_iff.mp h
    split
    · exact hs
    · split
      · exact hs
      · refine hs.reviseRefresh hp ?_ rfl
        exact ⟨rfl, rfl⟩
  | updateMetadata sid metadata name attributes =>
    obtain ⟨p, hp, rfl⟩ := Option.map_eq_some_iff.mp h
    split
    · exact hs
    · simp only
      split
      · obtain ⟨attributes', hset⟩ := ParticipantInfo.exists_setAttributes
          (p.updateMetadata metadata name).1 attributes
        rw [hset]
        refine hs.reviseBroadcast (find_eq_some hp).1 ?_ (.inl ?_) _
        · exact ⟨rfl, rfl⟩
        · rfl
      · exact hs
  | updateParticipant r =>
    obtain ⟨p, hp, rfl⟩ := Option.map_eq_some_iff.mp h
    have hmem := mem_of_find?_eq_some hp
    have hmem' := mem_members.mp hmem
    have hid : p.identity = r.identity := by simpa using List.find?_some hp
    have hhidden : (p.update r).1.hidden → ¬ s.Exposed p := fun hh => by
      cases hbefore : p.hidden with
      | true => exact hs.not_exposed hmem hbefore
      | false => exact hG p hmem hid hbefore hh
    simp only
    split
    · exact hs.reviseBroadcast ⟨true, hmem'⟩ (p.same_update r) (.inr ⟨hmem, hhidden⟩) _
    · exact hs.revise ⟨true, hmem'⟩ (p.same_update r) true (.inr ⟨hmem, hhidden⟩)
  | active sid =>
    obtain ⟨p, hp, rfl⟩ := Option.map_eq_some_iff.mp h
    split
    · exact hs
    · refine hs.reviseBroadcast (find_eq_some hp).1 ?_ (.inl ?_) _
      · exact ⟨rfl, rfl⟩
      · rfl
  | leave sid =>
    obtain ⟨p, hp, rfl⟩ := Option.map_eq_some_iff.mp h
    refine hs.leave hp ?_ rfl
    exact ⟨rfl, rfl⟩
  | forget sid =>
    obtain ⟨-, ⟨⟩⟩ := Option.ite_none_right_eq_some.mp h
    exact hs.forget sid
  | speakers loud =>
    rw [VisibleRoom.step] at h
    split at h <;> cases h
    · exact hs
    · next hnew => exact hs.speakers (hG.resolve_left hnew)
  | next i =>
    obtain ⟨item, hi, h⟩ := Option.bind_eq_some_iff.mp h
    exact (hs.done i).proceed (hs.pending item (mem_of_getElem? hi)) h
  | lose i =>
    rw [VisibleRoom.step] at h
    split at h
    · cases h
      exact hs.done i
    · cases h

/-- **Hidden participants stay hidden**: along every run whose steps meet the condition, no message
that was sent reveals, to another, a participant that was hidden when it was handed to the writer
task or when that wrote it. -/
theorem hidden_stay_hidden {acts : List VisibleAction} {s : VisibleRoom}
    (hG : Along step Discreet init acts) (hrun : run step init acts = some s) :
    ∀ d ∈ s.log, ∀ p ∈ d.hidden, ¬ d.message.Reveals d.recipient p := by
  have hs : Kept s := run_invariant_along (fun _ _ _ hI hG h => hI.step hG h) kept_init hG hrun
  exact hs.sent

/-- The hidden participant of the runs below. -/
def recorder : ParticipantInfo :=
  { sid := "PA_2", identity := "recorder", permission := { hidden := true } }

/-- A participant joins, and the next three things are done. -/
def joins (info : ParticipantInfo) : List VisibleAction := [.join info, .next 0, .next 0, .next 0]

/-- The first one that joins. -/
def aliceJoins : List VisibleAction := joins { sid := "PA_1", identity := "alice" }

/-- A participant joins, a hidden one joins, publishes, mutes a track and leaves, and the first one
resumes after that. -/
def recorded : List VisibleAction :=
  aliceJoins ++ joins recorder ++
    [.addTrack "PA_2" "TR_1", .trackPublished "PA_2", .setTrackMuted "PA_2" "TR_1" true, .next 0,
      .updateParticipant ⟨"alice", "m", "", none, []⟩, .next 0, .next 0, .speakers ["PA_1"],
      .next 0, .next 0, .leave "PA_2", .next 0, .trackUnpublished "PA_2" "TR_1", .next 0,
      .forget "PA_2", .resume "PA_1", .next 0]

/-- In that run, something is sent while the participant is hidden, and nothing reveals it. -/
theorem hidden_stay_hidden_recorded :
    ∃ s, run step init recorded = some s ∧ (∃ d ∈ s.log, d.hidden ≠ []) ∧
      ∀ d ∈ s.log, ∀ p ∈ d.hidden, ¬ d.message.Reveals d.recipient p := by
  refine (show ∃ s ∈ run _ _ _, ∃ d ∈ s.log, d.hidden ≠ [] by decide +kernel).imp
    fun s ⟨hrun, hhidden⟩ => ⟨hrun, hhidden, hidden_stay_hidden (by decide +kernel) hrun⟩

/-- Something that was sent reveals a hidden participant with this identity. -/
def Exposes (identity : Identity) (s : VisibleRoom) : Bool :=
  s.log.any fun d => d.hidden.any fun p =>
    decide (p.identity = identity ∧ d.message.Reveals d.recipient p)

/-- **Where a hidden participant is revealed**: by the update after a resume, by the speakers, by
the broadcast of a join during which the participant was made hidden, by a `JoinResponse` that is
written after that, and by the broadcast of a track that ends when its participant has left and has
joined again as hidden. -/
theorem hidden_revealed :
    (run step init (aliceJoins ++ joins recorder ++ [.resume "PA_1", .next 0])).any
      (Exposes "recorder") ∧
    (run step init (aliceJoins ++ joins recorder ++ [.speakers ["PA_2"], .next 0])).any
      (Exposes "recorder") ∧
    (run step init (aliceJoins ++ [.join { recorder with permission := {} },
      .updateParticipant ⟨"recorder", "", "", some { hidden := true }, []⟩, .lose 1, .next 0,
      .next 1])).any (Exposes "recorder") ∧
    (run step init (joins { recorder with permission := {} } ++
      [.join { sid := "PA_1", identity := "alice" }, .next 0, .next 0,
        .updateParticipant ⟨"recorder", "", "", some { hidden := true }, []⟩, .next 1])).any
      (Exposes "recorder") ∧
    (run step init (aliceJoins ++ joins { sid := "PA_3", identity := "recorder" } ++
      [.next 0, .addTrack "PA_3" "TR_1", .leave "PA_3", .next 0, .next 0] ++ joins recorder ++
      [.trackUnpublished "PA_3" "TR_1", .next 0, .next 0])).any (Exposes "recorder") := by
  decide +kernel

end VisibleRoom

end LivekitVoice
