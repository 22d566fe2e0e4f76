import LivekitVoice.Media.Subscriptions

/-! # Subscription bookkeeping

Which operations keep the three places that subscriptions are written down in, and the gauge,
consistent. `add_subscription` does not look whether there is a subscription already,
`remove_subscription` counts whether there was one or not, a track that ends is removed from
everybody in the room, subscribed or not, and a participant that ends is not counted at all.

* **`Kept`** — what such operations keep,
* **`consistent_throughout_iff`** — the books are consistent after every operation exactly if every
  operation meets `Guard`. -/

namespace LivekitVoice.Media

open Transition

namespace SubState

variable {s s' : SubState} {b : Ledger String String} {a : SubAction}

/-! ## The condition -/

/-- **The operations that keep the books**: who is added is not subscribed yet; who is removed is
subscribed; a track that ends has all others in the room as its subscribers, and nobody else; and a
participant that ends is not subscribed to anything, and nobody to its tracks. -/
def Guard (s : SubState) : SubAction → Prop
  | .add sid track publisher setup attach =>
    s.Joins sid track publisher setup attach → track ∉ (s.media sid).subscriberTracks
  | .remove sid track => track ∈ (s.media sid).subscriberTracks
  | .unpublish sid track =>
    track ∈ (s.media sid).published →
      (s.media sid).subscribers track = (s.others sid).toFinset
  | .endParticipant sid =>
    sid ∈ s.room → (s.media sid).subscriberTracks = ∅ ∧
      ∀ track ∈ (s.media sid).published, (s.media sid).subscribers track = ∅
  | .join _ | .addTrack .. | .onTrack .. => True

/-- **The operation meets the condition if its entry can be posted.** -/
theorem guard_iff (hb : s.Shows b) (hs : s.WellFormed) (hbalanced : b.Balanced) (a : SubAction) :
    s.Guard a ↔ (s.entry a).Permitted b := by
  have hheld : ∀ x, x ∈ b.held ↔ s.Feeds x.subscriber x.track := by
    intro x
    rw [← hbalanced.1]
    exact hb.fed x
  cases a with
  | join | addTrack | onTrack => exact Iff.rfl
  | add sid track publisher setup attach =>
    rw [Guard, entry]
    split
    · next hjoins =>
      change _ ↔ ⟨sid, track⟩ ∉ b.held
      rw [hb.held]
      exact forall_prop_of_true hjoins
    · next hnot => exact iff_of_true (fun hjoins => absurd hjoins hnot) trivial
  | remove sid track => exact (hb.held ⟨sid, track⟩).symm
  | unpublish sid track =>
    rw [Guard, entry]
    split
    · next hpublished =>
      change _ ↔ ∀ p, ⟨p, track⟩ ∈ b.held ↔ p ∈ (s.others sid).toFinset
      simp only [hheld, hs.feeds_iff hpublished]
      rw [forall_prop_of_true hpublished, Finset.ext_iff]
    · next hnot => exact iff_of_true (fun hpublished => absurd hpublished hnot) trivial
  | endParticipant sid =>
    rw [Guard, entry]
    split
    · next hroom =>
      rw [forall_prop_of_true hroom]
      constructor
      · rintro ⟨hnone, hunfed⟩ x hx
        refine ⟨?_, fun hpublished => ?_⟩
        · rintro rfl
          rw [hb.held, hnone] at hx
          simp at hx
        · rw [hheld, hs.feeds_iff hpublished, hunfed x.track hpublished] at hx
          simp at hx
      · intro hall
        refine ⟨Finset.eq_empty_of_forall_notMem fun t ht => ?_, fun t ht =>
          Finset.eq_empty_of_forall_notMem fun p hp => ?_⟩
        · exact (hall ⟨sid, t⟩ ((hb.held _).mpr ht)).1 rfl
        · exact (hall ⟨p, t⟩ ((hheld _).mpr ⟨sid, hp⟩)).2 ht
    · next hnot => exact iff_of_true (fun hroom => absurd hroom hnot) trivial

/-! ## The senders -/

theorem Linked.congr (hs : s.Linked) (hattached : ∀ q, (s'.media q).attached = (s.media q).attached)
    (hsenders : ∀ q, (s'.media q).subscriberSenders = (s.media q).subscriberSenders) :
    s'.Linked := by
  intro q x hx
  rw [hattached] at hx
  rw [hsenders]
  exact hs q x hx

variable {sid track q publisher : String} {x : Sender}

namespace Linked

variable (hs : s.Linked)
include hs

theorem removeSubscription : (s.removeSubscription sid track).Linked := by
  intro q x hx
  obtain ⟨hmem, hne⟩ : x ∈ (s.media q).attached ∧
      (q = sid → (s.media sid).subscriberSenders track ≠ some x) := by
    simp only [removeSubscription_media, ParticipantMedia.attached] at hx ⊢
    obtain rfl | hq := eq_or_ne q sid
    · cases hsender : (s.media q).subscriberSenders track
      all_goals
        cases hm : (s.media q).subscriber
        all_goals simp [hsender, hm, ParticipantMedia.detach] at hx
        simp [hx, Ne.symm]
    · simpa [hq] using hx
  have hlinked := hs q x hmem
  simp only [removeSubscription_media]
  split
  · next h =>
    rw [h.1, h.2] at hlinked
    exact absurd hlinked (hne h.1)
  · exact hlinked

theorem foldl_removeSubscription (track : String) (others : List String) :
    (others.foldl (fun s p => s.removeSubscription p track) s).Linked := by
  induction others generalizing s with
  | nil => exact hs
  | cons p rest ih => exact ih hs.removeSubscription

theorem enterSubscription (hwell : s.WellFormed) (hnew : track ∉ (s.media sid).subscriberTracks) :
    (s.enterSubscription sid track publisher).Linked := by
  intro q x hx
  have hold : x ∈ (s.media q).attached ∨ q = sid ∧ x = ⟨s.senders, track⟩ := by
    simp only [enterSubscription_media, ParticipantMedia.attached] at hx ⊢
    obtain rfl | hq := eq_or_ne q sid
    · cases hm : (s.media q).subscriber
      all_goals simp [hm] at hx
      simpa [or_comm] using hx
    · simpa [hq] using hx
  simp only [enterSubscription_media]
  rcases hold with hmem | ⟨rfl, rfl⟩
  · have hlinked := hs q x hmem
    split
    · next h =>
      rw [h.1, h.2] at hlinked
      exact absurd ((hwell.keys sid track).mp (by simp [hlinked])) hnew
    · exact hlinked
  · simp

theorem endParticipant : (s.endParticipant sid).Linked := by
  unfold SubState.endParticipant
  split
  · intro q x hx
    rw [closeParticipantMedia_media] at hx ⊢
    split_ifs at hx ⊢
    · simp [ParticipantMedia.attached, ParticipantMedia.empty] at hx
    all_goals exact hs q x hx
  · exact hs

/-- **An operation that meets the condition** leaves every sender in the map. -/
theorem step (hwell : s.WellFormed) (hguard : s.Guard a)
    (hstep : s.step a = some s') : s'.Linked := by
  cases a with
  | join sid =>
    obtain ⟨-, ⟨⟩⟩ := Option.ite_none_left_eq_some.mp hstep
    exact hs
  | addTrack sid track =>
    obtain ⟨-, ⟨⟩⟩ := Option.ite_none_left_eq_some.mp hstep
    refine hs.congr (fun q => ?_) (fun q => ?_)
    all_goals
      simp only [alter]
      split <;> rfl
  | onTrack sid track =>
    obtain ⟨-, ⟨⟩⟩ := Option.ite_none_right_eq_some.mp hstep
    refine hs.congr (fun q => ?_) (fun q => ?_)
    all_goals
      simp only [alter]
      split <;> rfl
  | add sid track publisher setup attach =>
    cases hstep
    obtain ⟨s₁, hset, ⟨hnot, heq⟩ | ⟨hjoins, hforwarder, heq⟩⟩ :=
      addSubscription_cases s sid track publisher setup attach
    · rw [heq]
      exact hs.congr hset.attached (hset.media _ fun _ _ => rfl)
    · rw [heq]
      refine (hs.congr hset.attached (hset.media _ fun _ _ => rfl)).enterSubscription
        (hset.wellFormed hwell) ?_
      exact hset.media ParticipantMedia.subscriberTracks (fun _ _ => rfl) sid ▸ hguard hjoins
  | remove sid track =>
    cases hstep
    exact hs.removeSubscription
  | unpublish sid track =>
    cases hstep
    by_cases hpublished : track ∈ (s.media sid).published
    · rw [endForwarding_of_mem hpublished]
      refine (hs.congr (fun q => ?_) (fun q => ?_)).foldl_removeSubscription track _
      all_goals rw [withdrawTrack_media]
      rfl
    · rw [endForwarding_of_notMem hwell hpublished]
      exact hs
  | endParticipant sid =>
    cases hstep
    exact hs.endParticipant

end Linked

/-! ## The books -/

/-- **What operations that meet the condition keep.** -/
structure Kept (s : SubState) : Prop where
  wellFormed : s.WellFormed
  linked : s.Linked
  balanced : ∃ b, s.Shows b ∧ b.Balanced

theorem kept_init : Kept init where
  wellFormed := wellFormed_init
  linked sid x hx := by simp [init, ParticipantMedia.empty, ParticipantMedia.attached] at hx
  balanced := by
    refine ⟨⟨∅, ∅, 0⟩, ⟨fun x => ?_, fun x => ?_, rfl⟩, rfl, rfl⟩
    · simp [init, ParticipantMedia.empty]
    · simp [init, ParticipantMedia.empty, Feeds, ParticipantMedia.subscribers]

theorem Consistent.balanced (h : s.Consistent) (hb : s.Shows b) : b.Balanced := by
  obtain ⟨pairs, hpairs, hgauge⟩ := h.gauge
  have hsame : pairs = b.held := by
    ext x
    rw [hpairs, hb.held]
  constructor
  · ext x
    rw [hb.fed, hb.held]
    exact h.forwarders x.subscriber x.track
  · rw [← hb.gauge, hgauge, hsame]

theorem Kept.consistent (hs : s.Kept) : s.Consistent := by
  obtain ⟨b, hb, hfed, hgauge⟩ := hs.balanced
  refine ⟨fun sid x hx y hy heq => ?_, hs.wellFormed.keys, fun sid track => ?_, b.held, hb.held, ?_⟩
  · have hx' := hs.linked sid x hx
    rw [heq, hs.linked sid y hy] at hx'
    exact (Option.some.inj hx').symm
  · have hfed' := hb.fed ⟨sid, track⟩
    rw [hfed, hb.held] at hfed'
    exact hfed'.symm
  · rw [hb.gauge, hgauge]

/-- **An operation that meets the condition** keeps the books. -/
theorem Kept.step (hs : s.Kept) (hguard : s.Guard a) (hstep : s.step a = some s') : s'.Kept := by
  obtain ⟨b, hb, hbalanced⟩ := hs.balanced
  obtain ⟨hwell, hshows⟩ := hb.step hs.wellFormed hstep
  refine ⟨hwell, hs.linked.step hs.wellFormed hguard hstep, b.post (s.entry a), hshows, ?_⟩
  rw [Ledger.balanced_post_iff hbalanced]
  exact (guard_iff hb hs.wellFormed hbalanced a).mp hguard

/-- **Subscription bookkeeping.** The books are consistent at the start and after every operation
exactly if every operation meets the condition. -/
theorem consistent_throughout_iff (actions : List SubAction) :
    Throughout step Consistent init actions ↔ Along step Guard init actions :=
  throughout_iff_along (fun _ hs => hs.consistent) (fun _ a _ => by cases a <;> trivial)
    (fun _ _ _ hs hguard hstep => hs.step hguard hstep)
    (fun _ _ _ hs hstep h => by
      -- an operation that does not meet the condition breaks the books
      obtain ⟨b, hb, hbalanced⟩ := hs.balanced
      obtain ⟨-, hshows⟩ := hb.step hs.wellFormed hstep
      rw [guard_iff hb hs.wellFormed hbalanced, ← Ledger.balanced_post_iff hbalanced]
      exact h.balanced hshows) kept_init

/-- A track with a forwarder, and another participant in the room. -/
def forwardedRun : List SubAction :=
  [.join "PA_a", .join "PA_b", .addTrack "PA_a" "TR_t", .onTrack "PA_a" "TR_t"]

/-- What the books say of the two participants. -/
structure Books where
  gauge : Int
  /-- The number of senders attached to the connection of the one. -/
  senders : Nat
  /-- The tracks it is subscribed to. -/
  tracks : Finset String
  /-- The subscribers of the other's track. -/
  subscribers : Finset String
  deriving DecidableEq

def books (s : SubState) : Books where
  gauge := s.gauge
  senders := (s.media "PA_b").attached.card
  tracks := (s.media "PA_b").subscriberTracks
  subscribers := (s.media "PA_a").subscribers "TR_t"

/-- **Operations that break the books.** A second `add_subscription`, as from an
`UpdateSubscription` for a track that was subscribed to automatically, attaches a second sender and
counts a second subscription. A `remove_subscription` without a subscription counts −1, and so does
the end of a track that the other participant is not subscribed to. A subscriber that ends is still
counted. When a publisher ends, its subscribers keep their entries. -/
theorem books_broken :
    (∃ s, run step init (forwardedRun ++ [.add "PA_b" "TR_t" "PA_a" none none,
        .add "PA_b" "TR_t" "PA_a" none none]) = some s ∧ ¬ s.Consistent) ∧
    (run step init (forwardedRun ++ [.add "PA_b" "TR_t" "PA_a" none none,
        .add "PA_b" "TR_t" "PA_a" none none])).map books = some ⟨2, 2, {"TR_t"}, {"PA_b"}⟩ ∧
    (run step init (forwardedRun ++ [.remove "PA_b" "TR_t"])).map books = some ⟨-1, 0, ∅, ∅⟩ ∧
    (run step init (forwardedRun ++ [.unpublish "PA_a" "TR_t"])).map books =
      some ⟨-1, 0, ∅, ∅⟩ ∧
    (run step init (forwardedRun ++ [.add "PA_b" "TR_t" "PA_a" none none,
        .endParticipant "PA_b"])).map books = some ⟨1, 0, ∅, ∅⟩ ∧
    (run step init (forwardedRun ++ [.add "PA_b" "TR_t" "PA_a" none none,
        .endParticipant "PA_a"])).map books = some ⟨1, 1, {"TR_t"}, ∅⟩ := by
  refine ⟨?_, by decide +kernel⟩
  refine (show ∃ s ∈ run _ _ _, (s.media "PA_b").attached = {⟨0, "TR_t"⟩, ⟨1, "TR_t"⟩} by
    decide +kernel).imp
    fun s ⟨hrun, hattached⟩ => ⟨hrun, fun hconsistent => ?_⟩
  have hsingle := hconsistent.single "PA_b" ⟨0, "TR_t"⟩ (by simp [hattached]) ⟨1, "TR_t"⟩
    (by simp [hattached]) rfl
  cases hsingle

end SubState

end LivekitVoice.Media
