import LivekitVoice.Media.Negotiation

/-! # No change is forgotten

Runs of the negotiation in which the operations of the connection succeed, offers reach the channel
and the participant stays. A change that the last offer was made without is remembered: by the
operation that has yet to ask for a negotiation, by a task that is going to make an offer, or by
`needs_negotiation` together with a task that is going to look at it or an answer that is
(`Complete.step`).

* **`negotiation_complete`** — once nothing is in progress, the last offer has the last change. -/

namespace LivekitVoice.Media

open Transition

/-! ## Runs without failures -/

/-- **The step succeeds**, and the participant stays. -/
def NegAction.succeeds : NegAction → Bool
  | .setup _ error => error.isNone
  | .attach _ (.failed _) => false
  | .create _ ok | .describe _ ok | .send _ ok | .apply _ ok => ok
  | .leave => false
  | _ => true

/-- The operation has changed a subscription, and is to ask for a negotiation. -/
def Op.changed : Op → Bool
  | .record _ | .detach | .request => true
  | _ => false

/-- The operation has changed the connection. -/
def Op.attached : Op → Bool
  | .record _ | .detach => true
  | _ => false

namespace Task

/-- The task is going to make an offer, unless an answer is pending. -/
def willOffer : Task → Bool
  | .debounce true | .waiting true | .locked true | .checked => true
  | _ => false

/-- The task is going to look at `needs_negotiation`, or to send an offer whose answer does. -/
def willLook : Task → Bool
  | .debounce _ | .waiting _ | .locked _ | .created _ | .described _ | .numbered .. => true
  | _ => false

end Task

namespace NegState

variable {s s' : NegState} {a : NegAction} {i : Nat}

/-- **A change is remembered.** -/
def Covered (s : NegState) : Prop :=
  (∃ op ∈ s.ops, op.changed) ∨ (∃ t ∈ s.tasks, t.willOffer) ∨
    s.needs ∧ (s.pending ∨ ∃ t ∈ s.tasks, t.willLook)

/-- The last event is a change. -/
def Stale (s : NegState) : Prop := s.log.head? = some .change

/-- **What holds in runs without failures.** -/
structure Complete (s : NegState) : Prop where
  connected : s.connected
  lawful : s.Lawful
  /-- Before there is a connection, nothing has been done with it. -/
  fresh : s.subscriber = false → s.log = [] ∧ s.senders = [] ∧ s.offers = [] ∧
    ∀ op ∈ s.ops, op.attached = false
  pending : s.pending →
    ∃ (k : Nat) (phase : OfferPhase), s.offers[k]? = some phase ∧ phase.unanswered
  covered : s.Stale → s.Covered

theorem complete_init : Complete init where
  connected := rfl
  lawful := lawful_init
  fresh _ := ⟨rfl, rfl, rfl, by simp [init]⟩
  pending := nofun
  covered := nofun

/-! ## What is remembered -/

variable {op op' : Op} {t t' : Task} {force : Bool} {k : Nat} {phase : OfferPhase}

theorem Covered.setOp (h : s.Covered) (hi : s.ops[i]? = some op) (hnot : op.changed = false)
    (hops : s'.ops = s.ops.set i op') (htasks : s'.tasks = s.tasks) (hneeds : s'.needs = s.needs)
    (hpending : s'.pending = s.pending) : s'.Covered := by
  unfold Covered
  rw [hops, htasks, hneeds, hpending]
  rcases h with ⟨other, hother, hchanged⟩ | h
  · refine .inl ⟨other, mem_set_of_ne hi hother ?_, hchanged⟩
    rintro rfl
    simp [hnot] at hchanged
  · exact .inr h

theorem covered_of_changed (hi : s.ops[i]? = some op) (hchanged : op'.changed)
    (hops : s'.ops = s.ops.set i op') : s'.Covered := by
  refine .inl ⟨op', ?_, hchanged⟩
  rw [hops]
  exact mem_set_stepped hi

theorem covered_request (s : NegState) : s.request.Covered :=
  .inr (.inr ⟨rfl, .inr ⟨.debounce false, List.mem_append_right _ List.mem_cons_self, rfl⟩⟩)

/-- **A task goes on** that is still going to do what it was going to. -/
theorem Covered.setTask (h : s.Covered) (hi : s.tasks[i]? = some t)
    (hoffer : t.willOffer → t'.willOffer) (hlook : s.needs → t.willLook → t'.willLook ∨ s'.pending)
    (hops : s'.ops = s.ops) (htasks : s'.tasks = s.tasks.set i t') (hneeds : s'.needs = s.needs)
    (hpending : s.pending → s'.pending) : s'.Covered := by
  have hnew : t' ∈ s'.tasks := by
    rw [htasks]
    exact mem_set_stepped hi
  have hold : ∀ other ∈ s.tasks, other ≠ t → other ∈ s'.tasks := by
    intro other hother hne
    rw [htasks]
    exact mem_set_of_ne hi hother hne
  rcases h with ⟨op, hop, hchanged⟩ | ⟨other, hother, hwill⟩ |
    ⟨hneed, hpend | ⟨other, hother, hwill⟩⟩
  · refine .inl ⟨op, ?_, hchanged⟩
    rw [hops]
    exact hop
  · by_cases heq : other = t
    · rw [heq] at hwill
      exact .inr (.inl ⟨t', hnew, hoffer hwill⟩)
    · exact .inr (.inl ⟨other, hold other hother heq, hwill⟩)
  · exact .inr (.inr ⟨hneeds.trans hneed, .inl (hpending hpend)⟩)
  · refine .inr (.inr ⟨hneeds.trans hneed, ?_⟩)
    by_cases heq : other = t
    · rw [heq] at hwill
      rcases hlook hneed hwill with hwill' | hpend
      · exact .inr ⟨t', hnew, hwill'⟩
      · exact .inl hpend
    · exact .inr ⟨other, hold other hother heq, hwill⟩

/-! ## Steps -/

/-- **Before the connection is set up** there is nothing to offer. -/
theorem opStep_fresh (hs : s.Complete) (hi : s.ops[i]? = some op) (h : s.opStep i op a = some s') :
    s'.subscriber = false → s'.log = [] ∧ s'.senders = [] ∧ s'.offers = [] ∧
      ∀ op ∈ s'.ops, op.attached = false := by
  have hnotAttached : s.subscriber = false → op.attached = false := fun hnone =>
    (hs.fresh hnone).2.2.2 op (List.mem_of_getElem? hi)
  -- an operation that has not changed the connection goes on to one that has not
  have hset (op' : Op) (hop' : op'.attached = false) (hnone : s.subscriber = false) :
      s.log = [] ∧ s.senders = [] ∧ s.offers = [] ∧
        ∀ op ∈ s.ops.set i op', op.attached = false := by
    obtain ⟨hlog, hsenders, hoffers, hops⟩ := hs.fresh hnone
    exact ⟨hlog, hsenders, hoffers, forall_mem_set hops hop'⟩
  revert h
  fun_cases opStep s i op a <;> rintro ⟨⟩
  case case2 => rintro ⟨⟩
  case case5 hconnected =>
    exact fun hnone => absurd hconnected (by simp [show s.subscriber = false from hnone])
  case case7 => exact fun hnone => by cases hnotAttached hnone
  case case8 hfound =>
    intro hnone
    simp [(hs.fresh hnone).2.1] at hfound
  case case10 => exact fun hnone => by cases hnotAttached hnone
  all_goals exact hset _ rfl

/-- **A step of a subscription** leaves its change to somebody who will offer it. -/
theorem Complete.opStep (hs : s.Complete) (hi : s.ops[i]? = some op)
    (h : s.opStep i op a = some s') : s'.Complete where
  connected := (opStep_tasks h).1.trans hs.connected
  lawful := hs.lawful.opStep h
  fresh := opStep_fresh hs hi h
  pending := by
    obtain ⟨-, hoffers, hpending, -⟩ := opStep_tasks h
    rw [hoffers, hpending]
    exact hs.pending
  covered hstale := by
    revert h
    fun_cases NegState.opStep s i op a <;> rintro ⟨⟩
    case case5 | case7 | case9 | case10 => exact covered_of_changed hi rfl rfl
    case case8 =>
      refine covered_of_changed hi ?_ rfl
      split <;> rfl
    case case11 => exact covered_request _
    all_goals exact (hs.covered hstale).setOp hi rfl rfl rfl rfl rfl

/-- The look at the flags: a task that gives up leaves a change to the pending answer, or to whoever
took `needs_negotiation` from it. -/
theorem Covered.checkFlags (h : s.Covered) (hconnected : s.connected)
    (hi : s.tasks[i]? = some (.locked force)) : (s.checkFlags i force).Covered := by
  unfold NegState.checkFlags
  rw [if_neg (by simp [hconnected])]
  split
  · next hpending => exact .inr (.inr ⟨rfl, .inl hpending⟩)
  · split
    · next hidle =>
      obtain ⟨hforce, hneeds⟩ := hidle
      refine h.setTask hi ?_ ?_ rfl rfl rfl id
      · rw [hforce]
        exact nofun
      · rw [hneeds]
        exact nofun
    · exact .inr (.inl ⟨.checked, mem_set_stepped hi, rfl⟩)

theorem Complete.checkFlags (hs : s.Complete) (hi : s.tasks[i]? = some (.locked force)) :
    (s.checkFlags i force).Complete := by
  have hlawful := hs.lawful.checkFlags hi
  have hcovered := fun hstale => (hs.covered hstale).checkFlags hs.connected hi
  revert hlawful hcovered
  -- the flags do not matter to the rest
  fun_cases NegState.checkFlags s i force
  all_goals exact fun hlawful hcovered => ⟨hs.connected, hlawful, hs.fresh, hs.pending, hcovered⟩

theorem exists_unanswered_set {offers : List OfferPhase} {phase' : OfferPhase}
    (hk : offers[k]? = some phase) (hphase' : phase'.unanswered) :
    ∃ (k' : Nat) (phase'' : OfferPhase), (offers.set k phase')[k']? = some phase'' ∧
      phase''.unanswered :=
  ⟨k, phase', getElem?_set_stepped hk, hphase'⟩

namespace Complete

variable (hs : s.Complete)
include hs

theorem setTask (hi : s.tasks[i]? = some t)
    (hlawful : (s.setTask i t').Lawful) (hoffer : t.willOffer → t'.willOffer)
    (hlook : t.willLook → t'.willLook) : (s.setTask i t').Complete where
  __ := hs
  lawful := hlawful
  covered hstale :=
    (hs.covered hstale).setTask hi hoffer (fun _ h => .inl (hlook h)) rfl rfl rfl id

/-- **A task goes on**, and what it does succeeds. -/
theorem taskStep (hi : s.tasks[i]? = some t) (hok : a.succeeds)
    (h : s.taskStep i t a = some s') : s'.Complete := by
  have hlawful := hs.lawful.taskStep hi h
  have hmem : t ∈ s.tasks := List.mem_of_getElem? hi
  revert h
  fun_cases NegState.taskStep s i t a <;> rintro ⟨⟩
  · next force _ =>
    refine hs.setTask hi hlawful ?_ (fun _ => rfl)
    cases force <;> exact id
  · next force _ _ =>
    refine hs.setTask hi hlawful ?_ (fun _ => rfl)
    cases force <;> exact id
  · exact hs.checkFlags hi
  · next hnone =>
    refine ⟨hs.connected, hlawful, hs.fresh, hs.pending, fun hstale => ?_⟩
    -- without a connection nothing has changed yet
    simp [Stale, show (s.setTask i .done).log = s.log from rfl, (hs.fresh hnone).1] at hstale
  · next hconnected =>
    -- the offer is the last event now
    refine ⟨hs.connected, hlawful, fun hnone => absurd hnone hconnected, fun hpending => ?_,
      fun h => by cases h⟩
    obtain ⟨k, phase, hk, hphase⟩ := hs.pending hpending
    exact ⟨k, phase, getElem?_concat_old hk, hphase⟩
  · next hfailed => exact absurd hok hfailed
  · exact hs.setTask hi hlawful (by rintro ⟨⟩) (fun _ => rfl)
  · next hfailed => exact absurd hok hfailed
  · exact ⟨hs.connected, hlawful, hs.fresh, hs.pending, fun hstale =>
      (hs.covered hstale).setTask hi (by rintro ⟨⟩) (fun _ _ => .inl rfl) rfl rfl rfl id⟩
  · next k id _ =>
    -- from here on it is the answer to this offer that looks at `needs_negotiation`
    refine ⟨hs.connected, hlawful, hs.fresh, fun _ => ?_, fun hstale =>
      (hs.covered hstale).setTask hi (by rintro ⟨⟩) (fun _ _ => .inr rfl) rfl rfl rfl
        (fun _ => rfl)⟩
    exact ⟨k, .created, Sound.carried hs.lawful _ hmem k rfl, rfl⟩
  · next k id _ _ =>
    have hoffer : s.offers[k]? = some .created := Sound.carried hs.lawful _ hmem k rfl
    refine ⟨hs.connected, hlawful, fun hnone => ?_, fun _ => exists_unanswered_set hoffer rfl,
      fun hstale => (hs.covered hstale).setTask hi (by rintro ⟨⟩)
        (by rintro - ⟨⟩) rfl rfl rfl (fun hpending => hpending)⟩
    rw [(hs.fresh hnone).2.2.1] at hoffer
    simp at hoffer
  · next hfailed => exact absurd hok hfailed

/-- **An answer goes on**, and can be set. -/
theorem answerStep (hk : s.offers[k]? = some phase)
    (hok : a.succeeds) (h : s.answerStep k phase a = some s') : s'.Complete := by
  have hlawful := hs.lawful.answerStep hk h
  -- there is an offer, so there is a connection
  have hconnection : s.subscriber ≠ false := by
    intro hnone
    rw [(hs.fresh hnone).2.2.1] at hk
    simp at hk
  unfold NegState.answerStep at h
  split at h
  · cases h
    exact ⟨hs.connected, hlawful, fun hnone => absurd hnone hconnection,
      fun _ => exists_unanswered_set hk rfl, hs.covered⟩
  · next ok =>
    have happlied : (s.subscriber && ok) := by
      rw [show ok = true from hok, Bool.and_true]
      simpa using hconnection
    rw [happlied] at h
    cases h
    exact ⟨hs.connected, hlawful, fun hnone => absurd hnone hconnection,
      fun _ => exists_unanswered_set hk rfl, hs.covered⟩
  · cases h
    split
    · next hneeds =>
      -- a forced task is to make the next offer
      refine ⟨hs.connected, ?_, fun hnone => absurd hnone hconnection,
        nofun, fun _ => .inr (.inl ⟨.debounce true, ?_, rfl⟩)⟩
      · exact (Sound.settle hs.lawful hk).spawn true
      · exact List.mem_append_right _ List.mem_cons_self
    · next hneeds =>
      refine ⟨hs.connected, Sound.settle hs.lawful hk, fun hnone => absurd hnone hconnection,
        nofun, fun hstale => ?_⟩
      -- the flag is clear, so that somebody else remembers the change
      rcases hs.covered hstale with hop | htask | ⟨hneed, -⟩
      · exact .inl hop
      · exact .inr (.inl htask)
      · exact absurd hneed hneeds
  · cases h

theorem startOp (hattached : op.attached = false) : { s with ops := s.ops ++ [op] }.Complete where
  __ := hs
  fresh hnone := by
    obtain ⟨hlog, hsenders, hoffers, hops⟩ := hs.fresh hnone
    exact ⟨hlog, hsenders, hoffers, forall_mem_concat hops hattached⟩
  covered hstale := (hs.covered hstale).imp_left fun ⟨other, hother, hchanged⟩ =>
    ⟨other, List.mem_append_left _ hother, hchanged⟩

/-- **Every step that succeeds keeps it so.** -/
theorem step (hok : a.succeeds) (hstep : s.step a = some s') : s'.Complete := by
  have hlawful := hs.lawful.step hstep
  unfold NegState.step at hstep
  split at hstep
  · cases hstep
    exact hs.startOp rfl
  · cases hstep
    exact hs.startOp rfl
  · cases hstep
    exact ⟨hs.connected, hlawful, hs.fresh, hs.pending, fun _ => covered_request s⟩
  · cases hstep
    exact ⟨hs.connected, hlawful, nofun, hs.pending, hs.covered⟩
  · cases hstep
    exact ⟨hs.connected, hlawful, hs.fresh, hs.pending, hs.covered⟩
  · cases hstep
    exact ⟨hs.connected, hlawful, hs.fresh, hs.pending, hs.covered⟩
  · cases hok
  all_goals
    obtain ⟨x, hx, h⟩ := Option.bind_eq_some_iff.mp hstep
    first
    | exact hs.opStep hx h
    | exact hs.taskStep hx hok h
    | exact hs.answerStep hx hok h

end Complete

/-! ## Nothing in progress -/

/-- No `add_subscription` and no `remove_subscription` is in progress, no task is scheduled, and no
offer is unanswered. -/
structure Quiet (s : NegState) : Prop where
  ops : ∀ op ∈ s.ops, ∃ error, op = .done error
  tasks : ∀ t ∈ s.tasks, t = .done
  offers : ∀ phase ∈ s.offers, phase.unanswered = false

theorem Quiet.not_covered (hq : s.Quiet) (hs : s.Complete) : ¬ s.Covered := by
  rintro (⟨op, hop, hchanged⟩ | ⟨t, ht, hwill⟩ | ⟨-, hpending | ⟨t, ht, hwill⟩⟩)
  · obtain ⟨error, rfl⟩ := hq.ops op hop
    cases hchanged
  · rw [hq.tasks t ht] at hwill
    cases hwill
  · obtain ⟨k, phase, hk, hphase⟩ := hs.pending hpending
    simp [hq.offers phase (List.mem_of_getElem? hk)] at hphase
  · rw [hq.tasks t ht] at hwill
    cases hwill

/-- **Subscriber negotiation loses no change and never overlaps offers.** In every run in which the
operations of the connection succeed, the offers reach the channel and the participant stays, at
most one offer is unanswered; and once no subscription change, no task and no answer is in progress,
every change was followed by an offer. -/
theorem negotiation_complete (actions : List NegAction) (s : NegState)
    (hok : ∀ a ∈ actions, a.succeeds) (hrun : run step init actions = some s) :
    (∀ (j k : Nat) (p q : OfferPhase), s.offers[j]? = some p → s.offers[k]? = some q →
      p.unanswered → q.unanswered → j = k) ∧
    (s.Quiet → ∀ newer older, s.log = newer ++ .change :: older → ∃ k, .offer k ∈ newer) := by
  have hs : s.Complete := run_invariant_along (G := fun _ a => a.succeeds)
    (fun _ _ _ hs hok hstep => hs.step hok hstep) complete_init (along_of_forall_mem hok) hrun
  refine ⟨fun j k p q hj hk hp hq => ?_, fun hquiet newer older hlog => ?_⟩
  · exact Sound.unique hs.lawful j k p q () hj hk
      (openKey_eq_some.mpr (OfferPhase.isOpen_of_unanswered hp))
      (openKey_eq_some.mpr (OfferPhase.isOpen_of_unanswered hq))
  · by_contra hnone
    -- a change that comes after every offer is, or is followed by, the last event
    have hstale : s.Stale := by
      rw [Stale, hlog]
      rcases newer with _ | ⟨_ | k, rest⟩
      · rfl
      · rfl
      · exact absurd ⟨k, List.mem_cons_self⟩ hnone
    exact hquiet.not_covered hs (hs.covered hstale)

/-- A track is subscribed to, and its offer is on the way while a second one is; the answer to the
first offer makes the second. -/
def overlapRun : List NegAction :=
  [.add "TR_a", .setup 0 none, .attach 0 .attached, .record 0, .request 0, .wake 0, .acquire 0,
    .check 0, .create 0 true, .add "TR_b", .setup 1 none, .attach 1 .attached, .describe 0 true,
    .number 0, .mark 0, .send 0 true, .record 1, .request 1, .wake 1, .acquire 1, .check 1,
    .answer 0, .apply 0 true, .settle 0, .wake 2, .acquire 2, .check 2, .create 2 true,
    .describe 2 true, .number 2, .mark 2, .send 2 true, .answer 1, .apply 1 true, .settle 1]

theorem negotiation_complete_overlap :
    ∃ s, run step init overlapRun = some s ∧ s.Quiet ∧
      s.log = [.offer 1, .change, .change, .offer 0, .change, .change] ∧
      ∀ newer older, s.log = newer ++ .change :: older → ∃ k, .offer k ∈ newer := by
  obtain ⟨s, hrun, hops, htasks, hoffers, hlog⟩ : ∃ s ∈ run step init overlapRun,
      s.ops = [.done none, .done none] ∧ s.tasks = [.done, .done, .done] ∧
        s.offers = [.answered, .answered] ∧
          s.log = [.offer 1, .change, .change, .offer 0, .change, .change] := by decide +kernel
  have hquiet : s.Quiet := by
    refine ⟨?_, ?_, ?_⟩
    · simp [hops]
    · simp [htasks]
    · simp [hoffers, OfferPhase.unanswered]
  exact ⟨s, hrun, hquiet, hlog, (negotiation_complete overlapRun s (by decide) hrun).2 hquiet⟩

end NegState

end LivekitVoice.Media
