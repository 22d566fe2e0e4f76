import Mathlib.Data.Finset.Card

/-! # A relation written down twice, and counted

Who is subscribed to what is written down twice, by the subscribers (`held`) and by the forwarders
(`fed`), and counted. An entry changes both copies and the counter, each in its own way; whether
they still agree afterwards can be told from the entry and the copies before it.

* **`Ledger.Balanced`** — the copies agree, and the counter is the number of their pairs,
* **`balanced_post_iff`** — the entries that keep a balanced ledger balanced. -/

namespace LivekitVoice.Media

variable {α β : Type} [DecidableEq α] [DecidableEq β]

/-- A subscriber and a track. -/
structure Link (α β : Type) where
  subscriber : α
  track : β
  deriving DecidableEq

/-- **The two copies and the counter.** -/
structure Ledger (α β : Type) where
  held : Finset (Link α β)
  fed : Finset (Link α β)
  gauge : Int

/-- **What is posted.** -/
inductive Entry (α β : Type)
  /-- Nothing. -/
  | keep
  | subscribe (x : Link α β)
  | unsubscribe (x : Link α β)
  /-- Nobody is fed the track any more, and those named unsubscribe. -/
  | withdraw (track : β) (others : Finset α)
  /-- A subscriber goes, and with it the tracks it feeds to others. -/
  | depart (subscriber : α) (tracks : Finset β)

namespace Ledger

/-- **The copies agree, and the counter is the number of their pairs.** -/
def Balanced (b : Ledger α β) : Prop := b.fed = b.held ∧ b.gauge = b.held.card

/-- Everybody named, and the track. -/
def linksTo (track : β) (others : Finset α) : Finset (Link α β) :=
  others.image fun subscriber => ⟨subscriber, track⟩

/-- **An entry is posted.** -/
def post (b : Ledger α β) : Entry α β → Ledger α β
  | .keep => b
  | .subscribe x => ⟨insert x b.held, insert x b.fed, b.gauge + 1⟩
  | .unsubscribe x => ⟨b.held.erase x, b.fed.erase x, b.gauge - 1⟩
  | .withdraw track others =>
    ⟨b.held \ linksTo track others, b.fed.filter fun x => x.track ≠ track,
      b.gauge - others.card⟩
  | .depart subscriber tracks =>
    ⟨b.held.filter fun x => x.subscriber ≠ subscriber,
      b.fed.filter fun x => x.subscriber ≠ subscriber ∧ x.track ∉ tracks, b.gauge⟩

end Ledger

/-- **The entry can be posted.** -/
def Entry.Permitted (b : Ledger α β) : Entry α β → Prop
  | .keep => True
  | .subscribe x => x ∉ b.held
  | .unsubscribe x => x ∈ b.held
  | .withdraw track others => ∀ subscriber, ⟨subscriber, track⟩ ∈ b.held ↔ subscriber ∈ others
  | .depart subscriber tracks => ∀ x ∈ b.held, x.subscriber ≠ subscriber ∧ x.track ∉ tracks

namespace Ledger

variable {b : Ledger α β}

@[simp] theorem mem_linksTo {track : β} {others : Finset α} {x : Link α β} :
    x ∈ linksTo track others ↔ x.subscriber ∈ others ∧ x.track = track := by
  unfold linksTo
  rw [Finset.mem_image]
  constructor
  · rintro ⟨subscriber, hmem, rfl⟩
    exact ⟨hmem, rfl⟩
  · rintro ⟨hmem, rfl⟩
    exact ⟨x.subscriber, hmem, rfl⟩

theorem card_linksTo (track : β) (others : Finset α) : (linksTo track others).card = others.card :=
  Finset.card_image_of_injective others fun _ _ h => congrArg Link.subscriber h

section Members

variable {x y : Link α β} {subscriber : α} {tracks : Finset β}

@[simp] theorem mem_held_subscribe :
    y ∈ (b.post (.subscribe x)).held ↔ y = x ∨ y ∈ b.held := Finset.mem_insert

@[simp] theorem mem_fed_subscribe :
    y ∈ (b.post (.subscribe x)).fed ↔ y = x ∨ y ∈ b.fed := Finset.mem_insert

@[simp] theorem mem_held_unsubscribe :
    y ∈ (b.post (.unsubscribe x)).held ↔ y ≠ x ∧ y ∈ b.held := Finset.mem_erase

@[simp] theorem mem_fed_unsubscribe :
    y ∈ (b.post (.unsubscribe x)).fed ↔ y ≠ x ∧ y ∈ b.fed := Finset.mem_erase

@[simp] theorem mem_held_depart :
    y ∈ (b.post (.depart subscriber tracks)).held ↔ y ∈ b.held ∧ y.subscriber ≠ subscriber :=
  Finset.mem_filter

@[simp] theorem mem_fed_depart :
    y ∈ (b.post (.depart subscriber tracks)).fed ↔
      y ∈ b.fed ∧ y.subscriber ≠ subscriber ∧ y.track ∉ tracks :=
  Finset.mem_filter

end Members

/-! ## The entries, one by one -/

section

variable (h : b.Balanced)
include h

/-- **A subscription keeps the balance** if it is new. -/
theorem balanced_subscribe_iff {x : Link α β} : (b.post (.subscribe x)).Balanced ↔ x ∉ b.held := by
  obtain ⟨hfed, hgauge⟩ := h
  constructor
  · rintro ⟨-, hcount⟩ hmem
    change b.gauge + 1 = ((insert x b.held).card : Int) at hcount
    rw [Finset.insert_eq_of_mem hmem, hgauge] at hcount
    omega
  · intro hnot
    refine ⟨congrArg (insert x) hfed, ?_⟩
    change b.gauge + 1 = ((insert x b.held).card : Int)
    rw [Finset.card_insert_of_notMem hnot, hgauge]
    rfl

/-- **An end keeps the balance** if there was a subscription. -/
theorem balanced_unsubscribe_iff {x : Link α β} :
    (b.post (.unsubscribe x)).Balanced ↔ x ∈ b.held := by
  obtain ⟨hfed, hgauge⟩ := h
  constructor
  · rintro ⟨-, hcount⟩
    change b.gauge - 1 = ((b.held.erase x).card : Int) at hcount
    by_contra hnot
    rw [Finset.erase_eq_of_notMem hnot, hgauge] at hcount
    omega
  · intro hmem
    refine ⟨congrArg (fun links => Finset.erase links x) hfed, ?_⟩
    change b.gauge - 1 = ((b.held.erase x).card : Int)
    have hcard := Finset.card_erase_add_one hmem
    omega

/-- Everybody named has to be subscribed, since each of them is counted; and nobody else may be,
since nobody else unsubscribes. -/
theorem balanced_withdraw_iff {track : β} {others : Finset α} :
    (b.post (.withdraw track others)).Balanced ↔
      ∀ subscriber, ⟨subscriber, track⟩ ∈ b.held ↔ subscriber ∈ others := by
  obtain ⟨hfed, hgauge⟩ := h
  have hsplit := Finset.card_sdiff_add_card_inter b.held (linksTo track others)
  constructor
  · rintro ⟨hcopies, hcount⟩ subscriber
    change (b.fed.filter fun x => x.track ≠ track) = b.held \ linksTo track others at hcopies
    change b.gauge - others.card = ((b.held \ linksTo track others).card : Int) at hcount
    constructor
    · intro hmem
      by_contra hother
      have hkept : ⟨subscriber, track⟩ ∈ b.held \ linksTo track others := by
        rw [Finset.mem_sdiff, mem_linksTo]
        exact ⟨hmem, fun h => hother h.1⟩
      rw [← hcopies, Finset.mem_filter] at hkept
      exact hkept.2 rfl
    · intro hother
      -- as many links to the track go as there are subscribers named
      have hcard : (linksTo track others).card ≤ (b.held ∩ linksTo track others).card := by
        rw [card_linksTo]
        omega
      have hall := Finset.eq_of_subset_of_card_le Finset.inter_subset_right hcard
      have hmem : (⟨subscriber, track⟩ : Link α β) ∈ linksTo track others :=
        mem_linksTo.mpr ⟨hother, rfl⟩
      rw [← hall] at hmem
      exact (Finset.mem_inter.mp hmem).1
  · intro hall
    have hgone : b.held ∩ linksTo track others = linksTo track others := by
      refine Finset.inter_eq_right.mpr fun x hx => ?_
      obtain ⟨hother, rfl⟩ := mem_linksTo.mp hx
      exact (hall x.subscriber).mpr hother
    constructor
    · change (b.fed.filter fun x => x.track ≠ track) = b.held \ linksTo track others
      ext x
      rw [hfed, Finset.mem_filter, Finset.mem_sdiff, mem_linksTo]
      refine and_congr_right fun hmem => ⟨fun hne h => hne h.2, fun hnot heq => hnot ⟨?_, heq⟩⟩
      subst heq
      exact (hall x.subscriber).mp hmem
    · change b.gauge - others.card = ((b.held \ linksTo track others).card : Int)
      rw [hgone, card_linksTo] at hsplit
      omega

/-- **A departure keeps the balance** if nothing of the participant is held. -/
theorem balanced_depart_iff {subscriber : α} {tracks : Finset β} :
    (b.post (.depart subscriber tracks)).Balanced ↔
      ∀ x ∈ b.held, x.subscriber ≠ subscriber ∧ x.track ∉ tracks := by
  obtain ⟨hfed, hgauge⟩ := h
  constructor
  · rintro ⟨hcopies, hcount⟩ x hx
    change (b.fed.filter fun x => x.subscriber ≠ subscriber ∧ x.track ∉ tracks) =
      b.held.filter fun x => x.subscriber ≠ subscriber at hcopies
    change b.gauge = ((b.held.filter fun x => x.subscriber ≠ subscriber).card : Int) at hcount
    have hall : (b.held.filter fun x => x.subscriber ≠ subscriber) = b.held :=
      Finset.eq_of_subset_of_card_le (Finset.filter_subset _ _) (by omega)
    rw [hall] at hcopies
    rw [← hcopies] at hx
    exact (Finset.mem_filter.mp hx).2
  · intro hall
    have hheld : (b.held.filter fun x => x.subscriber ≠ subscriber) = b.held :=
      Finset.filter_true_of_mem fun x hx => (hall x hx).1
    have hkept : (b.held.filter fun x => x.subscriber ≠ subscriber ∧ x.track ∉ tracks) = b.held :=
      Finset.filter_true_of_mem hall
    constructor
    · change (b.fed.filter fun x => x.subscriber ≠ subscriber ∧ x.track ∉ tracks) =
        b.held.filter fun x => x.subscriber ≠ subscriber
      rw [hfed, hkept, hheld]
    · change b.gauge = ((b.held.filter fun x => x.subscriber ≠ subscriber).card : Int)
      rw [hheld]
      exact hgauge

/-- **The entries that keep a balanced ledger balanced.** -/
theorem balanced_post_iff (e : Entry α β) : (b.post e).Balanced ↔ e.Permitted b := by
  cases e with
  | keep => exact iff_of_true h trivial
  | subscribe x => exact balanced_subscribe_iff h
  | unsubscribe x => exact balanced_unsubscribe_iff h
  | withdraw track others => exact balanced_withdraw_iff h
  | depart subscriber tracks => exact balanced_depart_iff h

end

/-- **A withdrawal, one subscriber after the other.** -/
theorem foldl_unsubscribe (track : β) {others : List α} (hnodup : others.Nodup)
    (hfed : ∀ x ∈ b.fed, x.track ≠ track) :
    others.foldl (fun b subscriber => b.post (.unsubscribe ⟨subscriber, track⟩)) b =
      b.post (.withdraw track others.toFinset) := by
  induction others generalizing b with
  | nil =>
    have hkept : (b.fed.filter fun x => x.track ≠ track) = b.fed :=
      Finset.filter_true_of_mem hfed
    simp [post, linksTo, hkept]
  | cons subscriber rest ih =>
    obtain ⟨hnot, hrest⟩ := List.nodup_cons.mp hnodup
    have hsame : b.fed.erase ⟨subscriber, track⟩ = b.fed :=
      Finset.erase_eq_of_notMem fun hmem => hfed _ hmem rfl
    have hmem : subscriber ∉ rest.toFinset := fun h => hnot (List.mem_toFinset.mp h)
    rw [List.foldl_cons, ih hrest (by simpa [post, hsame] using hfed)]
    simp only [post, List.toFinset_cons, hsame, Finset.card_insert_of_notMem hmem, mk.injEq,
      true_and]
    refine ⟨?_, by omega⟩
    ext x
    simp only [Finset.mem_sdiff, Finset.mem_erase, mem_linksTo, Finset.mem_insert]
    constructor
    · rintro ⟨⟨hne, hx⟩, hnone⟩
      refine ⟨hx, ?_⟩
      rintro ⟨heq | hin, htrack⟩
      · subst heq htrack
        exact hne rfl
      · exact hnone ⟨hin, htrack⟩
    · rintro ⟨hx, hnone⟩
      refine ⟨⟨?_, hx⟩, fun h => hnone ⟨.inr h.1, h.2⟩⟩
      rintro rfl
      exact hnone ⟨.inl rfl, rfl⟩

end Ledger

end LivekitVoice.Media
