import LivekitVoice.Media.Offers
import LivekitVoice.Transition.Registry

/-! # The ids of the offers

A task draws the id of its offer from `subscriber_offer_seq`, under the `negotiating` lock, and
sends the offer before it gives the lock back. The counter starts at zero and an id is at least one,
so the first two ids that are drawn are both one.

* **`Numbered.step`** — the ids are drawn in the order in which the offers are sent,
* **`offer_ids_increasing_iff`** — the ids that reach the channel increase exactly if the first two
  sends do not both succeed. -/

namespace LivekitVoice.Media

open List Transition

/-- How a send ends: the channel of the participant takes the offer, or it does not. -/
def NegAction.sending : NegAction → Option Bool
  | .send _ ok => some ok
  | _ => none

/-- **The sends of a schedule**, in their order. -/
def sends (actions : List NegAction) : List Bool := actions.filterMap NegAction.sending

/-- The id that a task is about to send. -/
def Task.carriedId : Task → Option UInt32
  | .numbered _ id | .marked _ id => some id
  | _ => none

/-- The id that is drawn when the counter is at `k`. -/
def drawnId (k : Nat) : UInt32 := max (.ofNat k) 1

/-- **The ids that reach the channel**, if the counter is at `k` before the first send: every send
takes the next id, and loses it if it fails. -/
def sentFrom : Nat → List Bool → List UInt32
  | _, [] => []
  | k, ok :: rest => (if ok then [drawnId k] else []) ++ sentFrom (k + 1) rest

/-- The last send takes the id after those of the sends before it. -/
theorem sentFrom_concat (k : Nat) (oks : List Bool) (ok : Bool) :
    sentFrom k (oks ++ [ok]) =
      sentFrom k oks ++ if ok then [drawnId (k + oks.length)] else [] := by
  induction oks generalizing k with
  | nil => simp [sentFrom]
  | cons first rest ih =>
    rw [cons_append, sentFrom, ih, sentFrom, append_assoc, length_cons,
      Nat.add_assoc, Nat.add_comm 1]

namespace NegState

/-- The ids of the offers that have reached the channel. -/
def sentIds (s : NegState) : List UInt32 := s.channel.map OfferMessage.id

/-- A task is about to send this id. -/
def Carries (s : NegState) (id : UInt32) : Prop := some id ∈ s.tasks.map Task.carriedId

/-- **The ids so far.** Those of the sends that have succeeded have been sent, and a task carries
none but the one that was drawn last. -/
structure Numbered (s : NegState) (oks : List Bool) : Prop where
  sent : s.sentIds = sentFrom 0 oks
  idle : (∀ id, ¬ s.Carries id) → s.seq = .ofNat oks.length
  carried : ∀ id, s.Carries id → id = drawnId oks.length ∧ s.seq = .ofNat (oks.length + 1)

variable {s s' : NegState} {a : NegAction} {oks : List Bool} {i : Nat} {t t' : Task}

/-- A step that draws and sends nothing. -/
theorem Numbered.mono (h : s.Numbered oks) (ha : a.sending = none) (hseq : s'.seq = s.seq)
    (hchannel : s'.channel = s.channel) (hcarries : ∀ id, s'.Carries id ↔ s.Carries id) :
    s'.Numbered (oks ++ a.sending.toList) := by
  rw [ha, Option.toList_none, append_nil]
  refine ⟨?_, fun hnone => ?_, fun id hid => ?_⟩
  · rw [sentIds, hchannel]
    exact h.sent
  · rw [hseq]
    exact h.idle fun id hid => hnone id ((hcarries id).mpr hid)
  · rw [hseq]
    exact h.carried id ((hcarries id).mp hid)

/-- A step that leaves the tasks as they are, or starts one. -/
theorem Numbered.spawn (h : s.Numbered oks) (ha : a.sending = none) (hseq : s'.seq = s.seq)
    (hchannel : s'.channel = s.channel)
    (htasks : s'.tasks = s.tasks ∨ ∃ force, s'.tasks = s.tasks ++ [.debounce force]) :
    s'.Numbered (oks ++ a.sending.toList) := by
  refine h.mono ha hseq hchannel fun id => ?_
  rcases htasks with htasks | ⟨force, htasks⟩ <;> rw [Carries, htasks]
  · rfl
  · simp [Carries, Task.carriedId]

/-- A task that goes on and carries what it did. -/
theorem Numbered.setTask (h : s.Numbered oks) (hi : s.tasks[i]? = some t) (ha : a.sending = none)
    (hseq : s'.seq = s.seq) (hchannel : s'.channel = s.channel)
    (htasks : s'.tasks = s.tasks.set i t') (hid : t'.carriedId = t.carriedId) :
    s'.Numbered (oks ++ a.sending.toList) := by
  refine h.mono ha hseq hchannel fun id => ?_
  rw [Carries, htasks, map_set_of_eq hi hid, ← Carries]

/-- **Only the holder of the lock carries an id**, before its step and after it. -/
theorem Lawful.carries (hs : s.Lawful) (hi : s.tasks[i]? = some t) (ht : t.holds) {id : UInt32} :
    (s.Carries id → t.carriedId = some id) ∧
      (∀ t', some id ∈ (s.tasks.set i t').map Task.carriedId → t'.carriedId = some id) := by
  have hothers : ∀ j other, s.tasks[j]? = some other → other.carriedId = some id → j = i := by
    intro j other hj hid
    refine hs.eq_of_holds hi ht hj ?_
    cases other with
    | numbered | marked => rfl
    | _ => cases hid
  constructor
  · intro hid
    obtain ⟨other, hother, hid⟩ := mem_map.mp hid
    obtain ⟨j, hj⟩ := mem_iff_getElem?.mp hother
    obtain rfl := hothers j other hj hid
    rwa [Option.some.inj (hi.symm.trans hj)]
  · intro t' hid
    obtain ⟨other, hother, hcarried⟩ := mem_map.mp hid
    obtain ⟨j, hj⟩ := mem_iff_getElem?.mp hother
    rcases (getElem?_set_eq_some hi).mp hj with ⟨-, rfl⟩ | ⟨hji, hj⟩
    · exact hcarried
    · exact absurd (hothers j other hj hcarried) hji

/-- **A send** takes the id that its task carries, and no other task carries one then. -/
theorem Numbered.send (h : s.Numbered oks) (hs : s.Lawful) {k : Nat} {id : UInt32} {ok : Bool}
    (hi : s.tasks[i]? = some (.marked k id)) (hseq : s'.seq = s.seq)
    (hsent : s'.sentIds = s.sentIds ++ if ok then [id] else [])
    (htasks : s'.tasks = s.tasks.set i .done) : s'.Numbered (oks ++ [ok]) := by
  obtain ⟨rfl, hdrawn⟩ := h.carried id (mem_map.mpr ⟨_, mem_of_getElem? hi, rfl⟩)
  refine ⟨?_, fun _ => ?_, fun id hid => ?_⟩
  · rw [hsent, sentFrom_concat, h.sent, Nat.zero_add]
  · rw [hseq, length_append]
    exact hdrawn
  · rw [Carries, htasks] at hid
    cases (hs.carries hi rfl).2 .done hid

/-- **A step of a task.** -/
theorem Numbered.taskStep (h : s.Numbered oks) (hs : s.Lawful) (hi : s.tasks[i]? = some t)
    (hstep : s.taskStep i t a = some s') : s'.Numbered (oks ++ a.sending.toList) := by
  revert hstep
  fun_cases NegState.taskStep s i t a <;> rintro ⟨⟩
  case case4 =>
    unfold checkFlags
    split <;> (try split) <;> (try split) <;> exact h.setTask hi rfl rfl rfl rfl rfl
  case case10 k _ =>
    -- the id is the next one, and no task carries one before
    have hseq : s.seq = .ofNat oks.length :=
      h.idle fun id hid => by cases (hs.carries hi rfl).1 hid
    have hnext : s.seq + 1 = .ofNat (oks.length + 1) := by
      rw [hseq, UInt32.ofNat_add]
      rfl
    rw [show oks ++ (NegAction.number _).sending.toList = oks from append_nil oks]
    refine ⟨h.sent, fun hnone => ?_, fun id hid => ?_⟩
    · exact absurd (mem_map.mpr ⟨_, mem_set_stepped hi, rfl⟩) (hnone (max s.seq 1))
    · cases (hs.carries hi rfl).2 _ hid
      exact ⟨by rw [hseq]; rfl, hnext⟩
  case case11 => exact h.setTask hi rfl rfl rfl rfl rfl
  case case12 k id _ _ => exact h.send hs hi rfl (by simp [sentIds]) rfl
  case case14 hok =>
    refine h.send hs hi rfl ?_ rfl
    rw [if_neg hok, append_nil]
    rfl
  all_goals exact h.setTask hi rfl rfl rfl rfl rfl

/-- The calls of the clients draw and send nothing. -/
theorem Numbered.opStep {op : Op} (h : s.Numbered oks) (hstep : s.opStep i op a = some s') :
    s'.Numbered (oks ++ a.sending.toList) := by
  revert hstep
  fun_cases NegState.opStep s i op a <;> rintro ⟨⟩
  case case11 => exact h.spawn rfl rfl rfl (.inr ⟨false, rfl⟩)
  all_goals exact h.spawn rfl rfl rfl (.inl rfl)

/-- An answer may start a task. -/
theorem Numbered.answerStep {phase : OfferPhase} (h : s.Numbered oks)
    (hstep : s.answerStep i phase a = some s') : s'.Numbered (oks ++ a.sending.toList) := by
  revert hstep
  fun_cases NegState.answerStep s i phase a <;> intro hstep
  case case3 =>
    obtain rfl := Option.some.inj hstep
    split
    · exact h.spawn rfl rfl rfl (.inr ⟨true, rfl⟩)
    · exact h.spawn rfl rfl rfl (.inl rfl)
  all_goals cases hstep
  all_goals exact h.spawn rfl rfl rfl (.inl rfl)

/-- **Every step.** -/
theorem Numbered.step (h : s.Numbered oks) (hs : s.Lawful) (hstep : s.step a = some s') :
    s'.Numbered (oks ++ a.sending.toList) := by
  unfold NegState.step at hstep
  split at hstep
  case h_3 =>
    cases hstep
    exact h.spawn rfl rfl rfl (.inr ⟨false, rfl⟩)
  iterate 6
    cases hstep
    exact h.spawn rfl rfl rfl (.inl rfl)
  all_goals
    obtain ⟨x, hx, hstep⟩ := Option.bind_eq_some_iff.mp hstep
    first
    | exact h.opStep hstep
    | exact h.taskStep hs hx hstep
    | exact h.answerStep hstep

/-- **Every run.** -/
theorem numbered_of_run {actions : List NegAction} (h : s.Numbered oks) (hs : s.Lawful)
    (hrun : run NegState.step s actions = some s') : s'.Numbered (oks ++ sends actions) := by
  induction actions generalizing s oks with
  | nil =>
    cases hrun
    rwa [sends, filterMap_nil, append_nil]
  | cons a actions ih =>
    obtain ⟨t, hstep, hrun⟩ := run_cons_eq_some.mp hrun
    have hlast := ih (h.step hs hstep) (hs.step hstep) hrun
    rw [append_assoc] at hlast
    rw [sends, filterMap_cons]
    cases hsending : a.sending with
    | none => simpa [hsending, sends] using hlast
    | some ok => simpa [hsending, sends] using hlast

end NegState

/-! ## Increasing ids -/

/-- As long as the counter does not wrap, the id is the counter, but at least one. -/
theorem toNat_drawnId {k : Nat} (hk : k < 2 ^ 32) : (drawnId k).toNat = max k 1 := by
  have hsmall : (UInt32.ofNat k).toNat = k := by
    rw [UInt32.toNat_ofNat', Nat.mod_eq_of_lt hk]
  have hone : (1 : UInt32).toNat = 1 := rfl
  have hmax : drawnId k = if UInt32.ofNat k ≤ 1 then 1 else .ofNat k := rfl
  rw [hmax, apply_ite UInt32.toNat, hsmall, hone]
  simp only [UInt32.le_iff_toNat_le, hsmall, hone]
  split <;> omega

/-- **From the second offer on**, the ids increase, and none is below the counter. -/
theorem sentFrom_increasing {k : Nat} (oks : List Bool) (hk : 1 ≤ k)
    (hwrap : k + oks.length ≤ 2 ^ 32) :
    (sentFrom k oks).Pairwise (· < ·) ∧ ∀ id ∈ sentFrom k oks, k ≤ id.toNat := by
  induction oks generalizing k with
  | nil => exact ⟨.nil, by simp [sentFrom]⟩
  | cons ok rest ih =>
    rw [length_cons] at hwrap
    obtain ⟨hrest, hlow⟩ := ih (k := k + 1) (by omega) (by omega)
    have hid : (drawnId k).toNat = k := by rw [toNat_drawnId (by omega)]; omega
    cases ok with
    | false => exact ⟨hrest, fun id hmem => Nat.le_of_succ_le (hlow id hmem)⟩
    | true =>
      refine ⟨pairwise_cons.mpr ⟨fun id hmem => ?_, hrest⟩, fun id hmem => ?_⟩
      · rw [UInt32.lt_iff_toNat_lt, hid]
        exact hlow id hmem
      · rcases mem_cons.mp hmem with rfl | hmem
        · exact hid.ge
        · exact Nat.le_of_succ_le (hlow id hmem)

/-- **All ids increase** exactly if the first two sends do not both succeed: both ids are one. -/
theorem sentFrom_zero_increasing_iff {oks : List Bool} (hwrap : oks.length ≤ 2 ^ 32) :
    (sentFrom 0 oks).Pairwise (· < ·) ↔ ¬ [true, true] <+: oks := by
  match oks with
  | [] => simp [sentFrom]
  | [ok] => cases ok <;> simp [sentFrom]
  | false :: ok :: rest =>
    have hrest := (sentFrom_increasing (ok :: rest) le_rfl
      (by simp only [length_cons] at hwrap ⊢; omega)).1
    exact iff_of_true hrest (by simp)
  | true :: true :: rest =>
    refine iff_of_false (fun h => ?_) (by simp)
    exact absurd ((pairwise_cons.mp h).1 1 mem_cons_self) (by decide)
  | true :: false :: rest =>
    obtain ⟨hrest, hlow⟩ := sentFrom_increasing (k := 2) rest (by decide)
      (by simp only [length_cons] at hwrap; omega)
    refine iff_of_true (pairwise_cons.mpr ⟨fun id hmem => ?_, hrest⟩) (by simp)
    exact UInt32.lt_iff_toNat_lt.mpr (hlow id hmem)

namespace NegState

/-- **The ids of the offers sent** are those of the sends that succeed, in their order. As long as
the counter does not wrap, they increase exactly if the first two sends do not both succeed, for the
first two offers that are numbered have the same id. -/
theorem offer_ids_increasing_iff (actions : List NegAction) (s : NegState)
    (hrun : run NegState.step init actions = some s) (hsends : (sends actions).length ≤ 2 ^ 32) :
    s.sentIds = sentFrom 0 (sends actions) ∧
      (s.sentIds.Pairwise (· < ·) ↔ ¬ [true, true] <+: sends actions) := by
  have hinit : init.Numbered [] := ⟨rfl, fun _ => rfl, by simp [init, Carries]⟩
  have hsent := (numbered_of_run hinit lawful_init hrun).sent
  rw [nil_append] at hsent
  refine ⟨hsent, ?_⟩
  rw [hsent]
  exact sentFrom_zero_increasing_iff hsends

/-- One offer is sent. -/
theorem offer_ids_single :
    ∃ s ∈ run NegState.step init (overlapRun.take 16), s.sentIds = [1] ∧
      s.sentIds.Pairwise (· < ·) := by
  refine (show ∃ s ∈ run NegState.step init (overlapRun.take 16), s.sentIds = [1] by
    decide +kernel).imp fun s ⟨hrun, hsent⟩ => ⟨hrun, hsent, ?_⟩
  exact (offer_ids_increasing_iff (overlapRun.take 16) s hrun (by decide)).2.mpr (by decide)

/-- **The first two offers have the same id.** -/
theorem offer_ids_repeated :
    ∃ s ∈ run NegState.step init overlapRun, s.channel = [⟨1, 0⟩, ⟨1, 1⟩] := by
  decide +kernel

end NegState

end LivekitVoice.Media
