import LivekitVoice.Transition.Pool
import LivekitVoice.Transition.Run

/-! # The media of a participant that ends

`end_participant` takes the connections of a participant and removes it from the forwarders of the
room, all before its first await. Meanwhile subscriptions are added by the `on_track_published`
loops of others and by the participant's own `UpdateSubscription`s, and its offers create the
publisher connection. They await the `pc_create` lock, the creation of a connection and `add_track`,
and do not look whether the participant is still there when they go on.

* **`ended_holds_nothing`** — when nothing is held once `end_participant` has returned. -/

namespace LivekitVoice.Media

open Transition

/-! ## Operations and their steps -/

/-- Whose map a forwarder is in. -/
inductive Owner
  /-- The participant itself. -/
  | self
  /-- Another participant of the room. -/
  | present
  /-- One that has left the room. -/
  | absent
  deriving DecidableEq

/-- **A forwarder**, seen by the participant. -/
structure ForwarderEntry where
  owner : Owner
  /-- It is in the map of its owner. -/
  live : Bool
  /-- The participant is among its subscribers. -/
  member : Bool
  deriving DecidableEq

/-- What a loop has yet to do: `add_subscription` or `remove_subscription`, for the track of a
forwarder. -/
inductive Item
  | add (f : Nat)
  | remove (f : Nat)
  deriving DecidableEq

/-- **An operation in progress**, and the await it is at. -/
inductive MediaOp
  /-- A loop over tracks, or over subscribers, comes to its next item. -/
  | loop (items : List Item)
  /-- `setup_subscriber` awaits the `pc_create` lock. -/
  | setupLock (f : Nat) (rest : List Item)
  /-- It awaits the connection and its data channels. -/
  | setupCreate (f : Nat) (rest : List Item)
  /-- It awaits the candidates that have been kept for the connection. -/
  | setupFlush (f : Nat) (rest : List Item)
  /-- `add_subscription` awaits `add_track`. -/
  | attach (f : Nat) (rest : List Item)
  /-- `remove_subscription` awaits `remove_track`. -/
  | detach (rest : List Item)
  /-- `ensure_publisher` awaits the `pc_create` lock. -/
  | offerLock
  /-- It awaits the connection, its candidates and its transceiver. -/
  | offerCreate
  /-- `handle_publisher_offer` awaits the descriptions. -/
  | offerAnswer
  | offerDone
  /-- `close_participant_media` awaits the connections it closes. -/
  | closing
  /-- `end_participant` awaits the webhook. -/
  | notifying
  /-- `end_participant` has returned. -/
  | ended
  deriving DecidableEq

namespace MediaOp

/-- The operation has the `pc_create` lock. -/
def locks : MediaOp → Bool
  | .setupCreate .. | .setupFlush .. | .offerCreate => true
  | _ => false

/-- The operation is an `end_participant`. -/
def ends : MediaOp → Bool
  | .closing | .notifying | .ended => true
  | _ => false

/-- The operation is not in flight. -/
def finished : MediaOp → Bool
  | .loop [] | .offerDone | .ended => true
  | _ => false

end MediaOp

/-- What creating a connection gives. -/
inductive CreateResult
  | failed
  /-- `candidates`: some have been kept for it. -/
  | created (candidates : Bool)

/-- **The participant, the forwarders and the operations.** -/
structure TeardownState where
  inRoom : Bool
  /-- There is a publisher connection. -/
  publisher : Bool
  /-- There is a subscriber connection. -/
  subscriber : Bool
  forwarders : List ForwarderEntry
  ops : List MediaOp
  deriving DecidableEq

/-- What happens. -/
inductive TeardownAction
  /-- The media of a track arrives at its publisher. -/
  | onTrack (owner : Owner)
  /-- A forwarder is removed from the map of its owner. -/
  | unpublish (f : Nat)
  /-- `on_track_published` of another participant has listed the room. -/
  | published (f : Nat)
  /-- `handle_update_subscriptions`. -/
  | updateSubscriptions (items : List Item)
  /-- `handle_publisher_offer`. -/
  | offer
  /-- `end_participant`. -/
  | endParticipant
  /-- The next item is nothing to be done for. -/
  | skip (i : Nat)
  | take (i : Nat)
  | acquire (i : Nat)
  | create (i : Nat) (result : CreateResult)
  | flush (i : Nat)
  | attached (i : Nat) (ok : Bool)
  | detached (i : Nat)
  | answered (i : Nat)
  | closed (i : Nat)
  | notified (i : Nat)

namespace ForwarderEntry

variable (entry : ForwarderEntry)

/-- What the participant's teardown does to a forwarder: its own map is cleared, and the forwarders
of the participants in the room lose it. -/
def release : ForwarderEntry :=
  match entry.owner with
  | .self => { entry with live := false }
  | .present => if entry.live then { entry with member := false } else entry
  | .absent => entry

/-- What `remove_subscription` does to the forwarder, which it looks for in the room. -/
def leave (inRoom : Bool) : ForwarderEntry :=
  match entry.owner with
  | .self => if entry.live && inRoom then { entry with member := false } else entry
  | .present => if entry.live then { entry with member := false } else entry
  | .absent => entry

/-- `Forwarder::add_subscriber`. -/
def join : ForwarderEntry := { entry with member := true }

/-- **The participant is not among the subscribers.** -/
def Released : Prop := entry.live → entry.member = false

end ForwarderEntry

namespace TeardownState

/-- A participant that has just joined. -/
def init : TeardownState where
  inRoom := true
  publisher := false
  subscriber := false
  forwarders := []
  ops := []

variable (s : TeardownState)

def setOp (i : Nat) (op : MediaOp) : TeardownState :=
  { s with ops := s.ops.set i op }

def spawn (op : MediaOp) : TeardownState := { s with ops := s.ops ++ [op] }

/-- A forwarder changes. -/
def alter (f : Nat) (g : ForwarderEntry → ForwarderEntry) : TeardownState :=
  { s with forwarders := s.forwarders.modify f g }

/-- What `add_subscription` does between `setup_subscriber` and `add_track`. -/
def lookUp (i f : Nat) (rest : List Item) : TeardownState :=
  -- without a forwarder, or without a connection, it fails
  if (s.forwarders[f]?.any fun entry => entry.live) && s.subscriber then s.setOp i (.attach f rest)
  else s.setOp i (.loop rest)

/-- **`end_participant`**, up to its first await. -/
def endParticipant : TeardownState :=
  if s.inRoom then
    { inRoom := false
      publisher := false
      subscriber := false
      forwarders := s.forwarders.map ForwarderEntry.release
      ops := s.ops ++ [.closing] }
  else s.spawn .ended

/-- The steps of the operations. -/
def opStep (i : Nat) : MediaOp → TeardownAction → Option TeardownState
  | .loop (_ :: rest), .skip _ => some (s.setOp i (.loop rest))
  | .loop (.add f :: rest), .take _ => some (s.setOp i (.setupLock f rest))
  | .loop (.remove f :: rest), .take _ =>
    some ((s.setOp i (.detach rest)).alter f fun entry => entry.leave s.inRoom)
  | .setupLock f rest, .acquire _ =>
    if s.ops.any MediaOp.locks then none
    else if s.subscriber then some (s.lookUp i f rest)
    else some (s.setOp i (.setupCreate f rest))
  | .setupCreate f rest, .create _ result =>
    match result with
    | .failed => some (s.setOp i (.loop rest))
    | .created true => some { s.setOp i (.setupFlush f rest) with subscriber := true }
    | .created false => some ({ s with subscriber := true }.lookUp i f rest)
  | .setupFlush f rest, .flush _ => some (s.lookUp i f rest)
  | .attach f rest, .attached _ ok =>
    if ok then some ((s.setOp i (.loop rest)).alter f ForwarderEntry.join)
    else some (s.setOp i (.loop rest))
  | .detach rest, .detached _ => some (s.setOp i (.loop rest))
  | .offerLock, .acquire _ =>
    if s.ops.any MediaOp.locks then none
    else if s.publisher then some (s.setOp i .offerAnswer)
    else some (s.setOp i .offerCreate)
  | .offerCreate, .create _ result =>
    match result with
    | .failed => some (s.setOp i .offerDone)
    | .created _ => some { s.setOp i .offerAnswer with publisher := true }
  | .offerAnswer, .answered _ => some (s.setOp i .offerDone)
  | .closing, .closed _ => some (s.setOp i .notifying)
  | .notifying, .notified _ => some (s.setOp i .ended)
  | _, _ => none

/-- **One step.** -/
def step (a : TeardownAction) : Option TeardownState :=
  match a with
  | .onTrack owner => some { s with forwarders := s.forwarders ++ [⟨owner, true, false⟩] }
  | .unpublish f => some (s.alter f fun entry => { entry with live := false })
  | .published f =>
    if s.inRoom && s.forwarders[f]?.any fun entry => entry.owner ≠ .self then
      some (s.spawn (.loop [.add f]))
    else none
  | .updateSubscriptions items => some (s.spawn (.loop items))
  | .offer => some (s.spawn .offerLock)
  | .endParticipant => some s.endParticipant
  | .skip i | .take i | .acquire i | .create i _ | .flush i | .attached i _ | .detached i
  | .answered i | .closed i | .notified i => s.ops[i]?.bind fun op => s.opStep i op a

/-! ## What is held -/

/-- **Nothing is held.** -/
structure Released (s : TeardownState) : Prop where
  publisher : s.publisher = false
  subscriber : s.subscriber = false
  forwarders : ∀ entry ∈ s.forwarders, entry.Released

/-- **Nothing is taken after the teardown**: a connection is installed, and a forwarder joined,
while the participant is in the room; and it ends while no forwarder of a participant that has left
the room has it. -/
def Guard : TeardownAction → Prop
  | .create _ (.created _) | .attached _ true => s.inRoom
  | .endParticipant =>
    s.inRoom → ∀ entry ∈ s.forwarders, entry.owner = .absent → entry.live →
      entry.member = false
  | _ => True

instance (a : TeardownAction) : Decidable (s.Guard a) := by
  unfold Guard
  split <;> infer_instance

/-- **What holds in every run that meets the condition.** -/
structure TornDown (s : TeardownState) : Prop where
  /-- `end_participant` has removed the participant from the room. -/
  ends : ∀ op ∈ s.ops, op.ends → s.inRoom = false
  released : s.inRoom = false → s.Released

variable {s s' : TeardownState} {a : TeardownAction} {i : Nat}

theorem tornDown_init : TornDown init where
  ends _ h := by simp [init] at h
  released := nofun

/-! ## Steps -/

theorem lookUp_eq (s : TeardownState) (i f : Nat) (rest : List Item) :
    ∃ op, s.lookUp i f rest = s.setOp i op ∧ op.ends = false := by
  unfold lookUp
  split
  all_goals exact ⟨_, rfl, rfl⟩

theorem forall_ends_set {ops : List MediaOp} {op op' : MediaOp} {P : Prop}
    (hops : ∀ other ∈ ops, other.ends → P) (hi : ops[i]? = some op)
    (hends : op'.ends = op.ends) : ∀ other ∈ ops.set i op', other.ends → P := by
  intro other hother hother'
  rcases List.mem_or_eq_of_mem_set hother with hmem | rfl
  · exact hops other hmem hother'
  · exact hops op (List.mem_of_getElem? hi) (hends ▸ hother')

theorem forall_released_modify {forwarders : List ForwarderEntry} {f : Nat}
    {g : ForwarderEntry → ForwarderEntry} (hall : ∀ entry ∈ forwarders, entry.Released)
    (hg : ∀ entry : ForwarderEntry, entry.Released → (g entry).Released) :
    ∀ entry ∈ forwarders.modify f g, entry.Released := by
  intro entry hentry
  obtain ⟨k, hk⟩ := List.mem_iff_getElem?.mp hentry
  rw [List.getElem?_modify] at hk
  obtain ⟨old, hold, rfl⟩ := Option.map_eq_some_iff.mp hk
  have hreleased := hall old (List.mem_of_getElem? hold)
  split
  · exact hg old hreleased
  · exact hreleased

theorem leave_released {entry : ForwarderEntry} {inRoom : Bool} (h : entry.Released) :
    (entry.leave inRoom).Released := by
  unfold ForwarderEntry.leave
  split
  · split
    · exact fun _ => rfl
    · exact h
  · split
    · exact fun _ => rfl
    · exact h
  · exact h

theorem Released.withOps (h : s.Released) (ops : List MediaOp) : { s with ops := ops }.Released :=
  ⟨h.publisher, h.subscriber, h.forwarders⟩

namespace TornDown

variable (hs : s.TornDown)
include hs

theorem setOp {op op' : MediaOp} (hi : s.ops[i]? = some op)
    (hends : op'.ends = op.ends) : (s.setOp i op').TornDown :=
  ⟨forall_ends_set hs.ends hi hends, fun hout => (hs.released hout).withOps _⟩

theorem takes {op op' : MediaOp} (hi : s.ops[i]? = some op) (hops : s'.ops = s.ops.set i op')
    (hends : op'.ends = op.ends) (hin : s.inRoom) (hroom : s'.inRoom = s.inRoom) : s'.TornDown := by
  refine ⟨hops ▸ hroom ▸ forall_ends_set hs.ends hi hends, fun hout => ?_⟩
  simp [hroom, hin] at hout

/-- **A step of an operation**: it goes on, and at most installs a connection, or joins or leaves a
forwarder. -/
theorem opStep {op : MediaOp} (hi : s.ops[i]? = some op)
    (hguard : s.Guard a) (h : s.opStep i op a = some s') : s'.TornDown := by
  revert h
  fun_cases TeardownState.opStep s i op a <;> rintro ⟨⟩
  case case3 =>
    refine ⟨forall_ends_set hs.ends hi rfl, fun hout => ?_⟩
    obtain ⟨hpublisher, hsubscriber, hforwarders⟩ := hs.released hout
    exact ⟨hpublisher, hsubscriber,
      forall_released_modify hforwarders fun _ h => leave_released h⟩
  case case5 f rest _ _ _ | case10 f rest _ =>
    -- `setup_subscriber` goes on to the forwarder without an await
    obtain ⟨op', heq, hends⟩ := lookUp_eq s i f rest
    exact heq ▸ hs.setOp hi hends
  case case9 f rest _ =>
    obtain ⟨op', heq, hends⟩ := lookUp_eq { s with subscriber := true } i f rest
    exact heq ▸ hs.takes hi rfl hends hguard rfl
  case case8 | case11 | case18 => exact hs.takes hi rfl rfl hguard rfl
  all_goals exact hs.setOp hi rfl

theorem spawn {op : MediaOp} (hends : op.ends = false) : (s.spawn op).TornDown := by
  exact ⟨forall_mem_concat hs.ends (by simp [hends]), fun hout => (hs.released hout).withOps _⟩

/-- **The teardown.** -/
theorem endParticipant (hguard : s.Guard .endParticipant) : s.endParticipant.TornDown := by
  unfold TeardownState.endParticipant
  split
  · next hin =>
    refine ⟨fun _ _ _ => rfl, fun _ => ⟨rfl, rfl, fun entry hentry => ?_⟩⟩
    obtain ⟨old, hold, rfl⟩ := List.mem_map.mp hentry
    unfold ForwarderEntry.release
    split
    · exact nofun
    · split
      · exact fun _ => rfl
      · next hdead => exact fun hlive => absurd hlive hdead
    · next howner => exact hguard hin old hold howner
  · next hout =>
    have hout' : s.inRoom = false := by simpa using hout
    exact ⟨forall_mem_concat hs.ends fun _ => hout', fun _ => (hs.released hout').withOps _⟩

/-- **Every step that meets the condition keeps it so.** -/
theorem step (hguard : s.Guard a) (hstep : s.step a = some s') : s'.TornDown := by
  unfold TeardownState.step at hstep
  split at hstep
  · cases hstep
    refine ⟨hs.ends, fun hout => ?_⟩
    obtain ⟨hpublisher, hsubscriber, hforwarders⟩ := hs.released hout
    exact ⟨hpublisher, hsubscriber, forall_mem_concat hforwarders fun _ => rfl⟩
  · cases hstep
    refine ⟨hs.ends, fun hout => ?_⟩
    obtain ⟨hpublisher, hsubscriber, hforwarders⟩ := hs.released hout
    refine ⟨hpublisher, hsubscriber, forall_released_modify hforwarders fun _ _ hlive => ?_⟩
    cases hlive
  · obtain ⟨-, ⟨⟩⟩ := Option.ite_none_right_eq_some.mp hstep
    exact hs.spawn rfl
  · cases hstep
    exact hs.spawn rfl
  · cases hstep
    exact hs.spawn rfl
  · cases hstep
    exact hs.endParticipant hguard
  all_goals
    obtain ⟨op, hop, h⟩ := Option.bind_eq_some_iff.mp hstep
    exact hs.opStep hop hguard h

end TornDown

/-! ## The participant has ended -/

/-- **An ended participant holds no media.** In every run in which connections are installed and
forwarders joined while the participant is in the room, nothing is held once `end_participant` has
returned. -/
theorem ended_holds_nothing (actions : List TeardownAction) (s : TeardownState)
    (hguard : Along step Guard init actions) (hrun : run step init actions = some s)
    (hended : .ended ∈ s.ops) : s.Released := by
  have hs : s.TornDown :=
    run_invariant_along (fun _ _ _ hs hguard hstep => hs.step hguard hstep) tornDown_init hguard
      hrun
  exact hs.released (hs.ends .ended hended rfl)

/-- The participant subscribes to a track of another participant and publishes; then it ends. -/
def endedRun : List TeardownAction :=
  [.onTrack .present, .published 0, .offer, .take 0, .acquire 0, .create 0 (.created true),
    .flush 0, .acquire 1, .attached 0 true, .create 1 (.created false), .answered 1,
    .endParticipant, .closed 2, .notified 2]

theorem ended_holds_nothing_subscribed :
    ∃ s, run step init endedRun = some s ∧ (∀ op ∈ s.ops, op.finished) ∧ s.Released := by
  refine (show ∃ s ∈ run _ _ _, (∀ op ∈ s.ops, op.finished) ∧ .ended ∈ s.ops by
    decide +kernel).imp fun s ⟨hrun, hops, hended⟩ => ⟨hrun, hops, ?_⟩
  exact ended_holds_nothing endedRun s (by decide +kernel) hrun hended

/-- **Media that is held after the end.** The publisher connection is installed after the teardown;
the subscriber connection is, and the forwarder joined; an `add_track` from before the teardown
ends after it. In each case `end_participant` has returned and nothing is in flight. -/
theorem ended_holds_media :
    run step init [.offer, .acquire 0, .endParticipant, .closed 1, .notified 1,
        .create 0 (.created false), .answered 0] =
      some ⟨false, true, false, [], [.offerDone, .ended]⟩ ∧
    run step init [.onTrack .present, .published 0, .take 0, .acquire 0, .endParticipant,
        .closed 1, .notified 1, .create 0 (.created false), .attached 0 true] =
      some ⟨false, false, true, [⟨.present, true, true⟩], [.loop [], .ended]⟩ ∧
    run step init [.onTrack .present, .updateSubscriptions [.add 0], .take 0, .acquire 0,
        .create 0 (.created false), .endParticipant, .attached 0 true, .closed 1, .notified 1] =
      some ⟨false, false, false, [⟨.present, true, true⟩], [.loop [], .ended]⟩ := by
  decide +kernel

end TeardownState

end LivekitVoice.Media
