import LivekitVoice.Room.Teardown

/-! # Everybody leaves once

Every participant that `room.join` admitted is to be reported by one `participant_left` and taken
out of `participant_total` once, by whichever of the calls ends it. The argument is a ledger: an
admitted participant is in exactly one of three places — reported, in a room's map, or owed by a
call that has taken it out — and every step moves it from one to another.

* **`leaves_once`** — if teardowns do not disturb each other (`Undisturbed`), everybody is reported
  once, and the gauge is right.
* **`joins_once`** — in every run, nobody is added to the gauge twice. -/

namespace LivekitVoice

open List Transition

/-! ## Weights -/

section Weights

variable (w : Participant → Nat)

namespace RoomEvent

/-- The weight of the participant an event admits. -/
def admittedWeight : RoomEvent → Nat
  | .admitted p => w p
  | _ => 0

/-- The weight of the participant an event reports as gone. -/
def leftWeight : RoomEvent → Nat
  | .participantLeft p => w p
  | _ => 0

/-- The weight of the participant an event adds to the gauge. -/
def incWeight : RoomEvent → Nat
  | .totalInc p => w p
  | _ => 0

end RoomEvent

/-- The weight of the participants in a room, until its `close` has taken them. -/
def RoomCell.weight (cell : RoomCell) : Nat :=
  if cell.swept then 0 else (cell.room.values.map w).sum

namespace RoomCall

/-- The weight of the participants a call has taken out of a room and not reported yet. -/
def owed : RoomCall → Nat
  | .endParticipant p .notify => w p
  | .close _ (.sweep todo) => (todo.map w).sum
  | _ => 0

/-- The weight of the participant a call has admitted and not added to the gauge yet. -/
def unannounced : RoomCall → Nat
  | .joinRoom p _ (.started _) | .joinRoom p _ .notify => w p
  | _ => 0

/-- The call has returned. -/
def returned : RoomCall → Bool
  | .joinRoom _ _ (.done _) | .endParticipant _ .done | .close _ .returned
  | .close _ .finished => true
  | _ => false

end RoomCall

end Weights

namespace Rooms

/-! ## Accounts -/

section Accounts

variable (f : RoomEvent → Nat) (g : RoomCell → Nat) (h : RoomCall → Nat)

/-- **An account**: what the events, the rooms and the calls contribute. -/
def account (s : Rooms) : Nat := (s.log.map f).sum + (s.rooms.map g).sum + (s.calls.map h).sum

variable {f g h} {s : Rooms} {i r : Nat} {c c' : RoomCall} {cell cell' : RoomCell}

theorem account_newRoom (hg : g cell = 0) :
    account f g h { s with rooms := s.rooms ++ [cell] } = account f g h s := by
  simp only [account, map_append, sum_append, map_singleton, sum_singleton, hg]
  omega

/-- **A call that owes nothing** changes no account. -/
theorem account_push (hh : h c = 0) : account f g h (s.push c) = account f g h s := by
  simp only [account, push, map_append, sum_append, map_singleton,
    sum_singleton, hh]
  omega

theorem account_setCall (hi : s.calls[i]? = some c) (hh : h c' = h c) :
    account f g h (s.setCall i c') = account f g h s := by
  have hsum := sum_map_set (f := h) (y := c') hi
  simp only [account, setCall]
  omega

/-- **What a room loses, its call gains.** -/
theorem account_setRoom (hi : s.calls[i]? = some c) (hcell : s.rooms[r]? = some cell)
    (hgh : g cell' + h c' = g cell + h c) :
    account f g h ((s.setRoom r cell').setCall i c') = account f g h s := by
  have hcalls := sum_map_set (f := h) (y := c') hi
  have hrooms := sum_map_set (f := g) (y := cell') hcell
  simp only [account, setCall, setRoom]
  omega

end Accounts

/-! ## The ledger -/

variable (w : Participant → Nat)

/-- Who was admitted, by weight. -/
def admittedTotal (s : Rooms) : Nat := (s.log.map (RoomEvent.admittedWeight w)).sum

/-- **The ledger**: who has been reported, is in a room, or is owed by a call. -/
def ledger (s : Rooms) : Nat :=
  account (RoomEvent.leftWeight w) (RoomCell.weight w) (RoomCall.owed w) s

/-- **The ledger of the gauge**: who has been added to it, or is about to be. -/
def gaugeLedger (s : Rooms) : Nat :=
  account (RoomEvent.incWeight w) (fun _ => 0) (RoomCall.unannounced w) s

variable {w} {s s' : Rooms} {c c' : RoomCall} {events : List RoomEvent} {d : Int} {p : Participant}
  {cell : RoomCell} {a : RoomAction}

theorem Quiet.owed_eq_zero (hq : Quiet s c c' events d) : c.owed w = 0 ∧ c'.owed w = 0 := by
  cases hq <;> exact ⟨rfl, rfl⟩

theorem Quiet.events_eq_zero (hq : Quiet s c c' events d) :
    (events.map (RoomEvent.admittedWeight w)).sum = 0 ∧
      (events.map (RoomEvent.leftWeight w)).sum = 0 := by
  cases hq with
  | started => split <;> exact ⟨rfl, rfl⟩
  | _ => exact ⟨rfl, rfl⟩

theorem admittedTotal_emit (s : Rooms) (i : Nat) (c : RoomCall) (events : List RoomEvent)
    (d : Int) : ((s.emit events d).setCall i c).admittedTotal w =
      s.admittedTotal w + (events.map (RoomEvent.admittedWeight w)).sum := by
  simp [admittedTotal, emit, setCall]

section Balance

variable {f : RoomEvent → Nat} {g : RoomCell → Nat} {h : RoomCall → Nat} {i : Nat}

theorem balance_emit (hi : s.calls[i]? = some c)
    (hpaid : (events.map (RoomEvent.admittedWeight w)).sum + h c = (events.map f).sum + h c')
    (hb : s.admittedTotal w = account f g h s) :
    ((s.emit events d).setCall i c').admittedTotal w =
      account f g h ((s.emit events d).setCall i c') := by
  have hsum := sum_map_set (f := h) (y := c') hi
  rw [admittedTotal_emit]
  simp only [account, setCall, emit, map_append, sum_append] at hb ⊢
  omega

theorem balance_insert {r : Nat} {cell' : RoomCell} (hi : s.calls[i]? = some c)
    (hcell : s.rooms[r]? = some cell)
    (hpaid : g cell + h c + w p = f (.admitted p) + g cell' + h c')
    (hb : s.admittedTotal w = account f g h s) :
    (((s.setRoom r cell').emit [.admitted p] 0).setCall i c').admittedTotal w =
      account f g h (((s.setRoom r cell').emit [.admitted p] 0).setCall i c') := by
  have hcalls := sum_map_set (f := h) (y := c') hi
  have hrooms := sum_map_set (f := g) (y := cell') hcell
  have hadm : (((s.setRoom r cell').emit [.admitted p] 0).setCall i c').admittedTotal w =
      s.admittedTotal w + (w p + 0) := admittedTotal_emit _ i c' [.admitted p] 0
  simp only [account, setCall, setRoom, emit, map_append, sum_append, map_singleton,
    sum_singleton] at hadm hb ⊢
  omega

end Balance

/-- **One step** keeps the ledger balanced. -/
theorem ledger_move (hs : Calm s) (hm : Move s a s') (hb : s.admittedTotal w = s.ledger w) :
    s'.admittedTotal w = s'.ledger w := by
  cases hm with
  | newRoom => exact hb.trans (account_newRoom rfl).symm
  | joinRoom | endParticipant | close => exact hb.trans (account_push rfl).symm
  | quiet hi hq =>
    -- nobody moves
    obtain ⟨hadm, hleft⟩ := hq.events_eq_zero (w := w)
    obtain ⟨hc, hc'⟩ := hq.owed_eq_zero (w := w)
    exact balance_emit hi (by omega) hb
  | evict hi =>
    refine hb.trans (Eq.symm ?_)
    refine (account_push ?_).trans (account_setCall hi ?_) <;> rfl
  | @insert i p _ cell _ hi hcell =>
    -- into the room, whose participants have not been taken, and into the account of those admitted
    have hns : cell.swept = false := hs.calmIn hi hcell
    have hnew : p.sid ∉ cell.room.participants := fun hin => by
      obtain ⟨q, -, hsid, -, hadm⟩ := hs.registered.exists_of_mem hcell hin
      exact hs.registered.sid_ne_of_insert hi hadm hsid
    refine balance_insert hi hcell ?_ hb
    simp only [RoomCall.owed, RoomEvent.leftWeight, RoomCell.weight, hns, Bool.false_eq_true,
      if_false, Room.values_addParticipant_of_notMem hnew, map_cons, sum_cons]
    omega
  | remove hi hcell =>
    -- from the room to the call: it is still there, and it is the one
    obtain ⟨hadm, hremove⟩ := hs.calmIn hi hcell
    obtain ⟨hns, hin⟩ := hremove rfl
    have hsum := Room.sum_values_removeParticipant w hin fun q hq => by
      obtain ⟨hsid, -, hqadm⟩ := hs.registered.entries _ _ hcell _ hq
      exact hs.registered.eq_of_sid hqadm hadm hsid.symm
    refine hb.trans (account_setRoom hi hcell ?_).symm
    simpa only [RoomCell.weight, hns, Bool.false_eq_true, if_false] using! hsum
  | @depart _ i p c c' hi hd =>
    -- from the call to the report
    have howed : c.owed w = w p + c'.owed w := by
      cases hd with
      | ended => rfl
      | swept hp => exact (sum_map_erase w hp).symm
    refine balance_emit hi ?_ hb
    simp only [map_cons, map_nil, sum_cons, sum_nil,
      RoomEvent.admittedWeight, RoomEvent.leftWeight]
    omega
  | swap hi hcell =>
    refine hb.trans (account_setRoom hi hcell ?_).symm
    rfl
  | @snapshot i r cell hi hcell =>
    -- all at once from the room to its `close`
    have hns : cell.swept = false := (hs.calmIn hi hcell).2
    refine hb.trans (account_setRoom hi hcell ?_).symm
    simp [RoomCell.weight, RoomCall.owed, hns]
  | @clear i r cell hi hcell =>
    -- the room has counted for nothing since its participants were taken
    obtain ⟨hswept, -⟩ := hs.calmIn hi hcell
    refine hb.trans (account_setRoom hi hcell ?_).symm
    simp [RoomCell.weight, RoomCall.owed, hswept]

theorem Quiet.unannounced_eq (hq : Quiet s c c' events d) :
    c.unannounced w = (events.map (RoomEvent.incWeight w)).sum + c'.unannounced w := by
  cases hq with
  | toLoad hpc => rcases hpc with rfl | ⟨call, rfl⟩ <;> rfl
  | @refuse p present pc hpc =>
    cases pc with
    | closedCheck | fullCheck | insert => rfl
    | _ => cases hpc
  | passClosed _ _ hpc =>
    rw [hpc]
    split <;> rfl
  | started => split <;> simp [RoomCall.unannounced, RoomEvent.incWeight]
  | _ => rfl

/-- **One step** keeps the ledger of the gauge balanced. -/
theorem gaugeLedger_move (hm : Move s a s') (hb : s.admittedTotal w = s.gaugeLedger w) :
    s'.admittedTotal w = s'.gaugeLedger w := by
  cases hm with
  | newRoom => exact hb.trans (account_newRoom rfl).symm
  | joinRoom | endParticipant | close => exact hb.trans (account_push rfl).symm
  | quiet hi hq =>
    obtain ⟨hadm, -⟩ := hq.events_eq_zero (w := w)
    have hown := hq.unannounced_eq (w := w)
    exact balance_emit hi (by omega) hb
  | evict hi =>
    refine hb.trans (Eq.symm ?_)
    refine (account_push ?_).trans (account_setCall hi ?_) <;> rfl
  | insert hi hcell =>
    refine balance_insert hi hcell ?_ hb
    simp [RoomCall.unannounced, RoomEvent.incWeight]
  | depart hi hd =>
    refine balance_emit hi ?_ hb
    cases hd <;> rfl
  | remove hi hcell | swap hi hcell | snapshot hi hcell | clear hi hcell =>
    refine hb.trans (account_setRoom hi hcell ?_).symm
    rfl

/-! ## Runs -/

/-- The weight with which everybody is counted. -/
def everyone (_ : Participant) : Nat := 1

/-- **What a step records**: whom it admits was not admitted before, a participant is taken out of
the gauge when it is reported as gone, and the gauge changes accordingly. -/
structure Records (s : Rooms) (events : List RoomEvent) (d : Int) : Prop where
  admitted : ∀ p, .admitted p ∉ events ∨ events = [.admitted p] ∧ .admitted p ∉ s.log
  decrements : ∀ p, events.count (.totalDec p) = events.count (.participantLeft p)
  gauge : d + (events.map (RoomEvent.leftWeight everyone)).sum =
    (events.map (RoomEvent.incWeight everyone)).sum

theorem Quiet.records (hq : Quiet s c c' events d) : Records s events d := by
  refine ⟨fun p => .inl hq.not_admitted, fun p => ?_, ?_⟩
  all_goals
    cases hq with
    | started => split <;> simp [RoomEvent.leftWeight, RoomEvent.incWeight]
    | _ => simp [RoomEvent.leftWeight, RoomEvent.incWeight, everyone]

theorem records_of_move (hs : Registered s) (hm : Move s a s') :
    ∃ events d, s'.log = s.log ++ events ∧ s'.participantTotal = s.participantTotal + d ∧
      Records s events d := by
  cases hm with
  | newRoom | joinRoom | endParticipant | close | evict | remove | swap | snapshot | clear =>
    exact ⟨[], 0, (append_nil _).symm, (Int.add_zero _).symm, by simp, by simp, rfl⟩
  | quiet hi hq => exact ⟨_, _, rfl, rfl, hq.records⟩
  | @insert i q present cell firstJoin hi =>
    refine ⟨[.admitted q], 0, rfl, rfl, fun p => ?_, fun _ => rfl, rfl⟩
    by_cases hpq : p = q
    · subst hpq
      exact .inr ⟨rfl, fun hadm => hs.sid_ne_of_insert hi hadm rfl⟩
    · exact .inl (by simpa using hpq)
  | @depart _ _ q =>
    refine ⟨_, _, rfl, rfl, fun p => .inl (by simp), fun p => ?_, rfl⟩
    simp [count_cons]

/-- **What the gauge shows**: those added, without those reported as gone. -/
def GaugeExact (s : Rooms) : Prop :=
  s.participantTotal + (s.log.map (RoomEvent.leftWeight everyone)).sum =
    (s.log.map (RoomEvent.incWeight everyone)).sum

/-- **The invariant**: the calls do not disturb each other, and both ledgers are balanced. -/
structure Balanced (s : Rooms) : Prop where
  calm : Calm s
  ledger : ∀ w, s.admittedTotal w = s.ledger w
  gaugeLedger : ∀ w, s.admittedTotal w = s.gaugeLedger w
  admittedOnce : ∀ p, s.log.count (.admitted p) ≤ 1
  decrements : ∀ p, s.log.count (.totalDec p) = s.log.count (.participantLeft p)
  gauge : GaugeExact s

theorem balanced_init : Balanced init where
  calm := calm_init
  ledger := fun _ => rfl
  gaugeLedger := fun _ => rfl
  admittedOnce := fun _ => Nat.zero_le 1
  decrements := fun _ => rfl
  gauge := rfl

/-- **What is recorded in every run**, whatever the calls do to each other. -/
structure Booked (s : Rooms) : Prop where
  registered : Registered s
  gaugeLedger : ∀ w, s.admittedTotal w = s.gaugeLedger w
  admittedOnce : ∀ p, s.log.count (.admitted p) ≤ 1
  decrements : ∀ p, s.log.count (.totalDec p) = s.log.count (.participantLeft p)
  gauge : GaugeExact s

theorem Booked.move (hs : Booked s) (hm : Move s a s') : Booked s' := by
  obtain ⟨events, d, hlog, htotal, hrecords⟩ := records_of_move hs.registered hm
  refine ⟨hs.registered.move hm, fun w => gaugeLedger_move hm (hs.gaugeLedger w), fun p => ?_,
    fun p => ?_, ?_⟩
  · rw [hlog, count_append]
    rcases hrecords.admitted p with hother | ⟨rfl, hnew⟩
    · rw [count_eq_zero.mpr hother]
      exact hs.admittedOnce p
    · rw [count_eq_zero.mpr hnew, count_singleton_self]
  · rw [hlog, count_append, count_append, hs.decrements, hrecords.decrements]
  · have hgauge := hs.gauge
    have hchange := hrecords.gauge
    simp only [GaugeExact, hlog, htotal, map_append, sum_append] at hgauge ⊢
    omega

/-- **One step** that meets the condition keeps the invariant. -/
theorem Balanced.move (hs : Balanced s) (hG : s.Undisturbed a) (hm : Move s a s') :
    Balanced s' := by
  have hbooked : Booked s' := Booked.move
    ⟨hs.calm.registered, hs.gaugeLedger, hs.admittedOnce, hs.decrements, hs.gauge⟩ hm
  exact ⟨hs.calm.move hG hm, fun w => ledger_move hs.calm hm (hs.ledger w), hbooked.gaugeLedger,
    hbooked.admittedOnce, hbooked.decrements, hbooked.gauge⟩

/-! ## Reading the ledger -/

/-- The weight of one participant. -/
def only (p q : Participant) : Nat := if q = p then 1 else 0

theorem sum_map_eq_count {f : RoomEvent → Nat} {e : RoomEvent}
    (hf : ∀ x, f x = if x = e then 1 else 0) (log : List RoomEvent) :
    (log.map f).sum = log.count e := by
  induction log with
  | nil => rfl
  | cons x log ih =>
    rw [map_cons, sum_cons, ih, hf, count_cons, Nat.add_comm]
    simp

/-- **The ledger of one participant**: admitted, it is reported, in a room or owed. -/
theorem Balanced.count_left (hs : Balanced s) (p : Participant) :
    s.log.count (.admitted p) = s.log.count (.participantLeft p) +
      (s.rooms.map (RoomCell.weight (only p))).sum +
        (s.calls.map (RoomCall.owed (only p))).sum := by
  rw [← sum_map_eq_count (f := RoomEvent.admittedWeight (only p)) fun x => by
      cases x <;> simp [RoomEvent.admittedWeight, only],
    ← sum_map_eq_count (f := RoomEvent.leftWeight (only p)) fun x => by
      cases x <;> simp [RoomEvent.leftWeight, only]]
  exact hs.ledger (only p)

theorem Calm.weight_only_of_finished (hs : Calm s) (hfin : .close p.room .finished ∈ s.calls) :
    (s.rooms.map (RoomCell.weight (only p))).sum = 0 := by
  refine sum_eq_zero fun x hx => ?_
  obtain ⟨cell, hmem, rfl⟩ := mem_map.mp hx
  obtain ⟨r, hcell⟩ := mem_iff_getElem?.mp hmem
  by_cases hr : r = p.room
  · obtain ⟨i, hi⟩ := mem_iff_getElem?.mp hfin
    have hroom : s.rooms[p.room]? = some cell := by rw [← hr, hcell]
    obtain ⟨hswept, -⟩ := hs.calmIn hi hroom
    rw [RoomCell.weight, if_pos hswept]
  · -- a room holds its own participants only
    have hzero : ∀ x ∈ cell.room.values.map (only p), x = 0 := by
      intro x hx
      obtain ⟨q, hq, rfl⟩ := mem_map.mp hx
      obtain ⟨sid, hentry⟩ := Room.mem_values.mp hq
      obtain ⟨-, hroom, -⟩ := hs.registered.entries r cell hcell _ hentry
      refine if_neg fun hqp => hr ?_
      rw [← hqp]
      exact hroom.symm
    rw [RoomCell.weight, sum_eq_zero hzero, ite_self]

theorem Calm.owed_only_of_finished (hs : Calm s) (hfin : .close p.room .finished ∈ s.calls) :
    (s.calls.map (RoomCall.owed (only p))).sum = 0 := by
  refine sum_eq_zero fun x hx => ?_
  obtain ⟨c, hmem, rfl⟩ := mem_map.mp hx
  cases c with
  | joinRoom => rfl
  | endParticipant q pc =>
    cases pc with
    | check | remove | done => rfl
    | notify =>
      refine if_neg fun hqp => ?_
      subst hqp
      exact hs.settled q.room hfin _ hmem rfl
  | close r pc =>
    cases pc with
    | swap | returned | snapshot | finish | finished => rfl
    | sweep todo =>
      -- the `close` that has finished is the only one past the flag
      obtain ⟨i, hi⟩ := mem_iff_getElem?.mp hfin
      obtain ⟨j, hj⟩ := mem_iff_getElem?.mp hmem
      obtain ⟨cell, -, -, htodo⟩ := hs.call j _ hj
      refine sum_eq_zero fun x hx => ?_
      obtain ⟨q, hq, rfl⟩ := mem_map.mp hx
      refine if_neg fun hqp => ?_
      have hroom : p.room = r := hqp ▸ (htodo q hq).1
      have hij : i = j := hs.closing i j _ _ r hi hj (by rw [hroom]; rfl) rfl
      simp [hij, hj] at hi

theorem sum_weight_of_returned (w : Participant → Nat) {calls : List RoomCall}
    (h : ∀ c ∈ calls, c.returned) :
    (calls.map (RoomCall.owed w)).sum = 0 ∧
      (calls.map (RoomCall.unannounced w)).sum = 0 := by
  have hnone : ∀ c : RoomCall, c.returned →
      c.owed w = 0 ∧ c.unannounced w = 0 := by
    intro c hc
    cases c with
    | joinRoom p present pc | endParticipant p pc | close r pc =>
      cases pc <;> first | exact ⟨rfl, rfl⟩ | cases hc
  constructor
  · refine sum_eq_zero fun x hx => ?_
    obtain ⟨c, hmem, rfl⟩ := mem_map.mp hx
    exact (hnone c (h c hmem)).1
  · refine sum_eq_zero fun x hx => ?_
    obtain ⟨c, hmem, rfl⟩ := mem_map.mp hx
    exact (hnone c (h c hmem)).2

theorem sum_of_returned {calls : List RoomCall} (h : ∀ c ∈ calls, c.returned) :
    (calls.map (RoomCall.owed everyone)).sum = 0 ∧
      (calls.map (RoomCall.unannounced everyone)).sum = 0 :=
  sum_weight_of_returned everyone h

theorem Calm.weight_of_returned (hs : Calm s) (h : ∀ c ∈ s.calls, c.returned)
    (hmem : cell ∈ s.rooms) : cell.weight everyone = cell.room.values.length := by
  obtain ⟨r, hcell⟩ := mem_iff_getElem?.mp hmem
  cases hswept : cell.swept with
  | false =>
    rw [RoomCell.weight, hswept]
    show (cell.room.values.map fun _ => 1).sum = _
    rw [map_const', sum_replicate_nat, Nat.mul_one]
  | true =>
    -- its `close` has returned, so it has emptied the map
    obtain ⟨-, i, pc, hi, hpc⟩ := hs.swept r cell hcell hswept
    have hret := h _ (mem_of_getElem? hi)
    have hcalm := hs.calmIn hi hcell
    cases pc with
    | swap | returned | snapshot => cases hpc
    | sweep | finish => cases hret
    | finished =>
      rw [RoomCell.weight, if_pos hswept, Room.values, hcalm.2]
      rfl

/-- **Everybody leaves once.** Along every run whose teardowns do not disturb each other, a
participant that was admitted has at most one `participant_left` and one decrement, and one of each
once its room has finished closing; with no call in flight, the gauge is the number of participants
in all rooms. -/
theorem leaves_once {acts : List RoomAction} {s : Rooms} (hG : Along step Undisturbed init acts)
    (hrun : run step init acts = some s) :
    (∀ p, .admitted p ∈ s.log →
      s.log.count (.participantLeft p) ≤ 1 ∧ s.log.count (.totalDec p) ≤ 1) ∧
    (∀ r, .close r .finished ∈ s.calls → ∀ p, .admitted p ∈ s.log → p.room = r →
      s.log.count (.participantLeft p) = 1 ∧ s.log.count (.totalDec p) = 1) ∧
    ((∀ c ∈ s.calls, c.returned) →
      s.participantTotal = ((s.rooms.map fun cell => cell.room.values.length).sum : Nat)) := by
  have hs : Balanced s := run_invariant_along
    (fun _ _ _ hI hG h => Balanced.move hI hG (move_of_step h)) balanced_init hG hrun
  refine ⟨fun p _ => ?_, ?_, fun hret => ?_⟩
  -- admitted once, so at most once in all the places together
  · have hcount := hs.count_left p
    have honce := hs.admittedOnce p
    rw [hs.decrements p]
    omega
  -- the room is empty and no call owes the participant: it has been reported
  · rintro r hfin p hp rfl
    have hcount := hs.count_left p
    have honce := hs.admittedOnce p
    have hpos := count_pos_iff.mpr hp
    rw [hs.calm.weight_only_of_finished hfin, hs.calm.owed_only_of_finished hfin] at hcount
    rw [hs.decrements p]
    omega
  -- both ledgers, with nobody on the way in or out
  · obtain ⟨howed, hnew⟩ := sum_of_returned hret
    have hledger : s.admittedTotal everyone = (s.log.map (RoomEvent.leftWeight everyone)).sum +
        (s.rooms.map (RoomCell.weight everyone)).sum +
          (s.calls.map (RoomCall.owed everyone)).sum := hs.ledger everyone
    have hgauge : s.admittedTotal everyone = (s.log.map (RoomEvent.incWeight everyone)).sum +
        (s.rooms.map fun _ => 0).sum + (s.calls.map (RoomCall.unannounced everyone)).sum :=
      hs.gaugeLedger everyone
    have hexact : s.participantTotal + (s.log.map (RoomEvent.leftWeight everyone)).sum =
        (s.log.map (RoomEvent.incWeight everyone)).sum := hs.gauge
    have hrooms : s.rooms.map (RoomCell.weight everyone) =
        s.rooms.map fun cell => cell.room.values.length :=
      map_congr_left fun cell hmem => hs.calm.weight_of_returned hret hmem
    rw [← hrooms]
    have hnoRoom : (s.rooms.map fun _ => 0).sum = 0 := by simp
    omega

/-- A participant joins and leaves, a second one joins, and the room is closed. -/
def joinLeaveClose : List RoomAction :=
  [.newRoom 0, .joinRoom ⟨"PA_1", "alice", .standard, 0⟩, .next 0, .next 0, .next 0, .next 0,
    .next 0, .next 0, .next 0, .joinRoom ⟨"PA_2", "bob", .standard, 0⟩, .next 1, .next 1, .next 1,
    .next 1, .next 1, .next 1, .next 1, .endParticipant ⟨"PA_1", "alice", .standard, 0⟩, .next 2,
    .next 2, .next 2, .close 0, .next 3, .next 3, .sweep 3 ⟨"PA_2", "bob", .standard, 0⟩, .next 3,
    .next 3]

/-- In that run, both have left once and the gauge is back at zero. -/
theorem leaves_once_joinLeaveClose :
    ∃ s, run step init joinLeaveClose = some s ∧
      s.log.count (.participantLeft ⟨"PA_1", "alice", .standard, 0⟩) = 1 ∧
      s.log.count (.participantLeft ⟨"PA_2", "bob", .standard, 0⟩) = 1 ∧
        s.participantTotal = 0 := by
  obtain ⟨s, hrun, hret, hfin, hann, hbob, hempty⟩ : ∃ s ∈ run step init joinLeaveClose,
      (∀ c ∈ s.calls, c.returned) ∧ .close 0 .finished ∈ s.calls ∧
        .admitted ⟨"PA_1", "alice", .standard, 0⟩ ∈ s.log ∧
        .admitted ⟨"PA_2", "bob", .standard, 0⟩ ∈ s.log ∧
        (s.rooms.map fun cell => cell.room.values.length).sum = 0 := by decide +kernel
  obtain ⟨-, hclosed, hgauge⟩ := leaves_once (by decide +kernel) hrun
  refine ⟨s, hrun, (hclosed 0 hfin _ hann rfl).1, (hclosed 0 hfin _ hbob rfl).1, ?_⟩
  rw [hgauge hret, hempty]
  rfl

/-- **Two `end_participant` calls that both find the participant** (its client leaves while an
admin removes it, say) report it twice, and the gauge goes below zero. -/
theorem leaves_twice :
    (run step init [.newRoom 0, .joinRoom ⟨"PA_1", "alice", .standard, 0⟩, .next 0, .next 0,
      .next 0, .next 0, .next 0, .next 0, .next 0, .endParticipant ⟨"PA_1", "alice", .standard, 0⟩,
      .endParticipant ⟨"PA_1", "alice", .standard, 0⟩, .next 1, .next 2, .next 1, .next 2, .next 1,
      .next 2]).map (fun s => (s.log.count (.participantLeft ⟨"PA_1", "alice", .standard, 0⟩),
        s.log.count (.totalDec ⟨"PA_1", "alice", .standard, 0⟩), s.participantTotal,
        s.calls.all RoomCall.returned)) = some (2, 2, -1, true) := by
  decide +kernel

/-- **Everybody joins once**, in every run: nobody is added to the gauge twice, nor before it is
admitted, with no call in flight everybody admitted has been added, and the gauge is always the
number of those added less the number of reports, each with its decrement. So it is only by
departures that it can go wrong. -/
theorem joins_once {acts : List RoomAction} {s : Rooms} (hrun : run step init acts = some s) :
    (∀ p, s.log.count (.totalInc p) ≤ s.log.count (.admitted p) ∧
      s.log.count (.admitted p) ≤ 1 ∧
      ((∀ c ∈ s.calls, c.returned) →
        s.log.count (.totalInc p) = s.log.count (.admitted p)) ∧
      s.log.count (.totalDec p) = s.log.count (.participantLeft p)) ∧
    GaugeExact s := by
  have hs : Booked s := run_invariant (fun _ _ _ hI h => hI.move (move_of_step h))
    ⟨registered_init, fun _ => rfl, fun _ => Nat.zero_le 1, fun _ => rfl, rfl⟩ hrun
  refine ⟨fun p => ?_, hs.gauge⟩
  have hcount : s.log.count (.admitted p) = s.log.count (.totalInc p) +
      (s.rooms.map fun _ => 0).sum + (s.calls.map (RoomCall.unannounced (only p))).sum := by
    rw [← sum_map_eq_count (f := RoomEvent.admittedWeight (only p)) fun x => by
        cases x <;> simp [RoomEvent.admittedWeight, only],
      ← sum_map_eq_count (f := RoomEvent.incWeight (only p)) fun x => by
        cases x <;> simp [RoomEvent.incWeight, only]]
    exact hs.gaugeLedger (only p)
  have hnoRoom : (s.rooms.map fun _ => 0).sum = 0 := by simp
  refine ⟨by omega, hs.admittedOnce p, fun hret => ?_, hs.decrements p⟩
  have hnew := (sum_weight_of_returned (only p) hret).2
  omega

theorem joins_once_joinLeaveClose :
    ∃ s, run step init joinLeaveClose = some s ∧
      .admitted ⟨"PA_2", "bob", .standard, 0⟩ ∈ s.log ∧ GaugeExact s := by
  refine (show ∃ s ∈ run step init joinLeaveClose,
    .admitted ⟨"PA_2", "bob", .standard, 0⟩ ∈ s.log by decide +kernel).imp ?_
  exact fun s ⟨hrun, hbob⟩ => ⟨hrun, hbob, (joins_once hrun).2⟩

end Rooms
end LivekitVoice
