import LivekitVoice.Room.Calls

/-! # Teardowns that do not disturb each other

`end_participant` looks for the participant and removes it in two steps, and `Room::close` takes
the participants there are and empties the map at the end of a loop of `await`s. Two teardowns of
one participant, or a join that slips in between, can therefore overlap. `Undisturbed` is the
condition under which they do not, step by step; `Calm` is what it buys, along every run
(`Calm.move`). -/

namespace LivekitVoice

open Transition

namespace RoomCall

/-- The room a call is about. -/
def room : RoomCall → Nat
  | .joinRoom p _ _ => p.room
  | .endParticipant p _ => p.room
  | .close r _ => r

/-- The participant an `end_participant` looks for in its next step. -/
def probing : RoomCall → Option Participant
  | .endParticipant p .check => some p
  | _ => none

/-- The participant an `end_participant` has found and removes in its next step. -/
def removing : RoomCall → Option Participant
  | .endParticipant p .remove => some p
  | _ => none

/-- The room of the participant an `end_participant` has removed, before `participant_left`. -/
def leaving : RoomCall → Option Nat
  | .endParticipant p .notify => some p.room
  | _ => none

/-- The room a `join_room` has found open and has not inserted into. -/
def entering : RoomCall → Option Nat
  | .joinRoom p _ (.fullCheck _) | .joinRoom p _ (.insert _) => some p.room
  | _ => none

/-- The room whose participants a `close` takes in its next step. -/
def snapshotting : RoomCall → Option Nat
  | .close r .snapshot => some r
  | _ => none

/-- The room whose `room_finished` a `close` sends in its next step. -/
def finishing : RoomCall → Option Nat
  | .close r .finish => some r
  | _ => none

/-- The room a `close` has set the `closed` flag of. -/
def closing : RoomCall → Option Nat
  | .close r pc => if pc = .snapshot ∨ pc.swept = true then some r else none
  | _ => none

end RoomCall

namespace Rooms

/-- **The condition on a step**: an `end_participant` finds its participant only while no other has
found it and its room's `close` has not taken the participants; a `close` takes them while no
`end_participant` or `join_room` on the room is between its check and its removal or insertion;
and it finishes when those removed have been reported. -/
def Undisturbed (s : Rooms) : RoomAction → Prop
  | .next i =>
    -- `end_participant` looks for its participant
    (∀ p ∈ s.calls[i]?.bind RoomCall.probing, ∀ cell ∈ s.rooms[p.room]?,
      p.sid ∈ cell.room.participants →
        cell.swept = false ∧ ∀ c ∈ s.calls, c.removing ≠ some p) ∧
    -- `close` takes the participants
    (∀ r ∈ s.calls[i]?.bind RoomCall.snapshotting, ∀ c ∈ s.calls,
      c.removing.map Participant.room ≠ some r ∧ c.entering ≠ some r) ∧
    -- `close` returns
    ∀ r ∈ s.calls[i]?.bind RoomCall.finishing, ∀ c ∈ s.calls, c.leaving ≠ some r
  | _ => True

instance (s : Rooms) : (a : RoomAction) → Decidable (s.Undisturbed a)
  | .next _ => instDecidableAnd
  | .newRoom _ | .joinRoom _ | .endParticipant _ | .close _ | .sweep _ _ => isTrue trivial

/-! ## The invariant -/

/-- **What a call in flight relies on** in the room it is about. -/
def CalmIn (s : Rooms) (cell : RoomCell) : RoomCall → Prop
  | .joinRoom _ _ (.fullCheck _) | .joinRoom _ _ (.insert _) => cell.swept = false
  | .joinRoom _ _ _ => True
  | .endParticipant p pc => .admitted p ∈ s.log ∧
      (pc = .remove → cell.swept = false ∧ p.sid ∈ cell.room.participants)
  | .close r pc =>
    match pc with
    | .swap | .returned => True
    | .snapshot => cell.room.closed ∧ cell.swept = false
    | .sweep todo => cell.swept ∧ ∀ q ∈ todo, q.room = r ∧ .admitted q ∈ s.log
    | .finish | .finished => cell.swept ∧ cell.room.participants = ∅

/-- Once the `close` of a room has finished, nobody of the room is between its removal and its
`participant_left`. -/
def Settled (calls : List RoomCall) : Prop :=
  ∀ r, .close r .finished ∈ calls → ∀ c ∈ calls, c.leaving ≠ some r

/-- **The invariant.** -/
structure Calm (s : Rooms) : Prop where
  registered : Registered s
  /-- Every call has what it relies on. -/
  call : ∀ (i : Nat) (c : RoomCall), s.calls[i]? = some c →
    ∃ cell, s.rooms[c.room]? = some cell ∧ CalmIn s cell c
  /-- At most one `end_participant` has found a participant. -/
  removing : Distinct RoomCall.removing s.calls
  /-- At most one `close` gets past the flag. -/
  closing : Distinct RoomCall.closing s.calls
  /-- A room whose participants have been taken is closed, by a `close` in flight. -/
  swept : ∀ (r : Nat) (cell : RoomCell), s.rooms[r]? = some cell → cell.swept →
    cell.room.closed ∧ ∃ (i : Nat) (pc : ClosePc),
      s.calls[i]? = some (.close r pc) ∧ pc.swept
  /-- After `close`, nobody of the room is being torn down. -/
  settled : Settled s.calls

theorem calm_init : Calm init where
  registered := registered_init
  call := fun i c hi => by simp [init] at hi
  removing := distinct_nil _
  closing := distinct_nil _
  swept := fun r cell hcell => by simp [init] at hcell
  settled := fun r hr => by simp [init] at hr

variable {s s' : Rooms} {cell : RoomCell} {c c' : RoomCall} {i r : Nat} {a : RoomAction}
  {cell' : RoomCell} {j : Nat} {l : List RoomCall} {events : List RoomEvent} {d : Int}
  {p : Participant}

/-- What a call relies on is there after a step that leaves the room's flags, the participant the
call has found, and an emptied map. -/
theorem CalmIn.mono (h : CalmIn s cell c) (hlog : ∀ p, .admitted p ∈ s.log → .admitted p ∈ s'.log)
    (hswept : cell'.swept = cell.swept)
    (hclosed : cell.room.closed → cell'.room.closed)
    (hmem : ∀ p, c = .endParticipant p .remove → cell.swept = false →
      p.sid ∈ cell.room.participants → p.sid ∈ cell'.room.participants)
    (hempty : cell.swept → cell.room.participants = ∅ → cell'.room.participants = ∅) :
    CalmIn s' cell' c := by
  cases c with
  | joinRoom p present pc =>
    cases pc with
    | fullCheck | insert => exact hswept.trans h
    | _ => trivial
  | endParticipant p pc =>
    refine ⟨hlog p h.1, fun hpc => ?_⟩
    obtain ⟨hns, hin⟩ := h.2 hpc
    exact ⟨hswept.trans hns, hmem p (by rw [hpc]) hns hin⟩
  | close r pc =>
    cases pc with
    | swap | returned => trivial
    | snapshot => exact ⟨hclosed h.1, hswept.trans h.2⟩
    | sweep todo =>
      exact ⟨hswept.trans h.1, fun q hq => ⟨(h.2 q hq).1, hlog q (h.2 q hq).2⟩⟩
    | _ => exact ⟨hswept.trans h.1, hempty h.1 h.2⟩

namespace Calm

variable (hs : Calm s)
include hs

theorem calmIn (hi : s.calls[i]? = some c)
    (hcell : s.rooms[c.room]? = some cell) : CalmIn s cell c := by
  obtain ⟨cell', hcell', hcalm⟩ := hs.call i c hi
  obtain rfl : cell' = cell := Option.some.inj (hcell'.symm.trans hcell)
  exact hcalm

theorem not_swept_of_open (hcell : s.rooms[r]? = some cell) (hopen : cell.room.closed = false) :
    cell.swept = false := by
  by_contra hswept
  have hclosed := (hs.swept r cell hcell (by simpa using hswept)).1
  simp [hopen] at hclosed

theorem closed_of_closing (hi : s.calls[i]? = some c) (hc : c.closing = some r)
    (hcell : s.rooms[r]? = some cell) : cell.room.closed := by
  cases c with
  | joinRoom | endParticipant => cases hc
  | close r' pc =>
    obtain ⟨hpc, rfl⟩ : (pc = .snapshot ∨ pc.swept) ∧ r' = r := by
      simpa [RoomCall.closing] using hc
    have hcalm := hs.calmIn hi hcell
    cases pc with
    | snapshot => exact hcalm.1
    | sweep | finish | finished => exact (hs.swept r' cell hcell hcalm.1).1
    | _ => simp [ClosePc.swept] at hpc

/-- **Taking the participants of a room** is noticed by no call that relies on the room: nobody is
between check and removal or insertion, and no other `close` is past the flag. -/
theorem call_stays_swept (hG : s.Undisturbed (.next i))
    (hlog : ∀ p, .admitted p ∈ s.log → .admitted p ∈ s'.log)
    (hi : s.calls[i]? = some (.close c.room .snapshot)) (hij : j ≠ i) (hj : s.calls[j]? = some c)
    (h : CalmIn s cell c) :
    CalmIn s' { cell with swept := true } c := by
  obtain ⟨hrem, hent⟩ := hG.2.1 c.room (by rw [hi]; rfl) c (List.mem_of_getElem? hj)
  cases c with
  | joinRoom p present pc =>
    cases pc with
    | fullCheck | insert => exact absurd rfl hent
    | _ => trivial
  | endParticipant p pc =>
    refine ⟨hlog p h.1, fun hpc => ?_⟩
    subst hpc
    exact absurd rfl hrem
  | close r pc =>
    cases pc with
    | swap | returned => trivial
    | snapshot => exact absurd (hs.closing j i _ _ r hj hi rfl rfl) hij
    | sweep todo => exact ⟨rfl, fun q hq => ⟨(h.2 q hq).1, hlog q (h.2 q hq).2⟩⟩
    | _ => exact ⟨rfl, h.2⟩

/-- **A call that does not step** keeps what it relies on. -/
theorem call_stays (hG : s.Undisturbed a) (hm : Move s a s')
    (hj : s.calls[j]? = some c) (hj' : s'.calls[j]? = some c) :
    ∃ cell, s'.rooms[c.room]? = some cell ∧ CalmIn s' cell c := by
  obtain ⟨cell, hcell, hcalm⟩ := hs.call j c hj
  obtain ⟨cell', hcell', hchange⟩ := cellChange_of_move hm hcell
  have hlog : ∀ p, .admitted p ∈ s.log → .admitted p ∈ s'.log := fun p => mem_log_of_move hm
  refine ⟨cell', hcell', ?_⟩
  cases hchange with
  | same => exact hcalm.mono hlog rfl id (fun _ _ _ => id) fun _ => id
  | closed => exact hcalm.mono hlog rfl (fun _ => rfl) (fun _ _ _ => id) fun _ => id
  | @added i p _ _ hi _ hr =>
    refine hcalm.mono hlog rfl id (fun _ _ _ hin => (AList.mem_insert _).mpr (.inr hin)) ?_
    -- the insertion relies on the participants not having been taken
    intro hswept
    have hroom : s.rooms[p.room]? = some cell := by rw [hr, hcell]
    have hns : cell.swept = false := hs.calmIn hi hroom
    exact absurd (hns.symm.trans hswept) (by decide)
  | @removed i p hi hi' hr =>
    refine hcalm.mono hlog rfl id (fun q hc _ hin => ?_) fun _ hempty => ?_
    · refine AList.mem_erase.mpr ⟨fun hsid => ?_, hin⟩
      subst hc
      -- another removal of the same participant would have found it too
      obtain ⟨_, _, hadm, _⟩ := hs.call i _ hi
      obtain rfl : q = p := hs.registered.eq_of_sid hcalm.1 hadm hsid
      obtain rfl : i = j := hs.removing i j _ _ q hi hj rfl rfl
      rw [hi'] at hj'
      cases hj'
    · simp only [Room.removeParticipant, hempty]
      rfl
  | @swept i ha hi hi' =>
    subst ha
    refine hs.call_stays_swept hG hlog hi (fun hji => ?_) hj hcalm
    subst hji
    have hbefore := Option.some.inj (hj.symm.trans hi)
    have hafter := Option.some.inj (hj'.symm.trans hi')
    rw [hbefore] at hafter
    cases hafter
  | @cleared i hi =>
    -- an `end_participant` past its check relies on the participants not having been taken
    obtain ⟨hswept, -⟩ := hs.calmIn hi hcell
    exact hcalm.mono hlog rfl id (fun _ _ hns => absurd (hswept.symm.trans hns) (by decide))
      fun _ _ => rfl

theorem swept_move (hm : Move s a s') (hcell' : s'.rooms[r]? = some cell') (hswept : cell'.swept) :
    cell'.room.closed ∧ ∃ (i : Nat) (pc : ClosePc),
      s'.calls[i]? = some (.close r pc) ∧ pc.swept := by
  have hkeep : ∀ cell : RoomCell, s.rooms[r]? = some cell → cell.swept →
      cell.room.closed ∧ ∃ (i : Nat) (pc : ClosePc),
        s'.calls[i]? = some (.close r pc) ∧ pc.swept := fun cell hcell hswept => by
    obtain ⟨hclosed, i, pc, hi, hpc⟩ := hs.swept r cell hcell hswept
    obtain ⟨c', hi', pc', rfl, hpc'⟩ := follows_of_move hm hi
    exact ⟨hclosed, i, pc', hi', hpc' hpc⟩
  rcases cell_of_move hm hcell' with ⟨-, m, rfl⟩ | ⟨cell, hcell, hchange⟩
  · cases hswept
  cases hchange with
  | same => exact hkeep _ hcell hswept
  | added | removed | cleared => exact hkeep cell hcell hswept
  | closed => exact ⟨rfl, (hkeep cell hcell hswept).2⟩
  | @swept i _ hi hi' =>
    have hclosed : cell.room.closed := hs.closed_of_closing hi rfl hcell
    exact ⟨hclosed, i, _, hi', rfl⟩

end Calm

/-- A step keeps `Settled` if it neither removes a participant of a finished room nor finishes a
room from which someone is leaving. -/
theorem Settled.set (h : Settled l) (hleave : ∀ r, c'.leaving = some r → .close r .finished ∉ l)
    (hfinish : ∀ r, c' = .close r .finished → ∀ x ∈ l, x.leaving ≠ some r) :
    Settled (l.set i c') := by
  intro r hr x hx
  rcases List.mem_or_eq_of_mem_set hr with hold | hnew
  · rcases List.mem_or_eq_of_mem_set hx with hx | rfl
    · exact h r hold x hx
    · exact fun hleaving => hleave r hleaving hold
  · rcases List.mem_or_eq_of_mem_set hx with hx | rfl
    · exact hfinish r hnew.symm x hx
    · rw [← hnew]
      exact nofun

theorem Settled.concat (h : Settled l) (hleave : c.leaving = none)
    (hfinish : ∀ r, c ≠ .close r .finished) : Settled (l ++ [c]) := by
  intro r hr x hx
  rcases List.mem_append.mp hr with hr | hr
  · rcases List.mem_append.mp hx with hx | hx
    · exact h r hr x hx
    · obtain rfl := List.mem_singleton.mp hx
      rw [hleave]
      exact nofun
  · exact absurd (List.mem_singleton.mp hr).symm (hfinish r)

namespace Calm

variable (hs : Calm s)
include hs

/-- **A step of one call**: what it has to say for itself. -/
theorem of_set (hG : s.Undisturbed a) (hm : Move s a s')
    (hi : s.calls[i]? = some c) (hcalls : s'.calls = s.calls.set i c')
    (hself : ∃ cell, s'.rooms[c'.room]? = some cell ∧ CalmIn s' cell c')
    (hrem : ∀ p, c'.removing = some p → ∀ x ∈ s.calls, x.removing ≠ some p)
    (hclo : ∀ r, c'.closing = some r → c.closing = some r ∨ ∀ x ∈ s.calls, x.closing ≠ some r)
    (hleave : ∀ r, c'.leaving = some r → .close r .finished ∉ s.calls)
    (hfinish : ∀ r, c' = .close r .finished → ∀ x ∈ s.calls, x.leaving ≠ some r) : Calm s' where
  registered := hs.registered.move hm
  call := by
    have hothers : ∀ (j : Nat) (x : RoomCall), j ≠ i → s.calls[j]? = some x →
        ∃ cell, s'.rooms[x.room]? = some cell ∧ CalmIn s' cell x := fun j x hji hj =>
      hs.call_stays hG hm hj (hcalls ▸ getElem?_set_other hi hji hj)
    rw [hcalls]
    exact forall_set hi hothers hself
  removing := by
    rw [hcalls]
    exact hs.removing.set hi fun p hp j x _ hj => hrem p hp x (List.mem_of_getElem? hj)
  closing := by
    rw [hcalls]
    refine hs.closing.set hi fun r hr j x hji hj => ?_
    rcases hclo r hr with hown | hnone
    · exact fun hx => hji (hs.closing j i x c r hj hi hx hown)
    · exact hnone x (List.mem_of_getElem? hj)
  swept := fun _ _ => hs.swept_move hm
  settled := hcalls ▸ hs.settled.set hleave hfinish

/-- **The start of a call.** -/
theorem of_concat (hG : s.Undisturbed a) (hm : Move s a s') (hcalls : s'.calls = s.calls ++ [c])
    (hself : ∃ cell, s'.rooms[c.room]? = some cell ∧ CalmIn s' cell c) (hrem : c.removing = none)
    (hclo : c.closing = none) (hleave : c.leaving = none) (hfinish : ∀ r, c ≠ .close r .finished) :
    Calm s' where
  registered := hs.registered.move hm
  call := by
    have hothers : ∀ (j : Nat) (x : RoomCall), s.calls[j]? = some x →
        ∃ cell, s'.rooms[x.room]? = some cell ∧ CalmIn s' cell x := fun j x hj =>
      hs.call_stays hG hm hj (hcalls ▸ getElem?_concat_old hj)
    rw [hcalls]
    exact forall_concat hothers hself
  removing := hcalls ▸ hs.removing.concat fun p hp => by simp [hrem] at hp
  closing := hcalls ▸ hs.closing.concat fun r hr => by simp [hclo] at hr
  swept := fun _ _ => hs.swept_move hm
  settled := hcalls ▸ hs.settled.concat hleave hfinish

theorem quiet_self (hG : s.Undisturbed (.next i)) (hi : s.calls[i]? = some c)
    (hq : Quiet s c c' events d) (hrooms : s'.rooms = s.rooms)
    (hlog : ∀ p, .admitted p ∈ s.log → .admitted p ∈ s'.log) :
    ∃ cell, s'.rooms[c'.room]? = some cell ∧ CalmIn s' cell c' := by
  obtain ⟨cell, hcell, hcalm⟩ := hs.call i c hi
  rw [hrooms]
  cases hq with
  | toLoad | toJoin | refuse | started | joined => exact ⟨cell, hcell, trivial⟩
  | passClosed hcell₁ hopen hpc =>
    obtain rfl := Option.some.inj (hcell.symm.trans hcell₁)
    have hns := hs.not_swept_of_open hcell hopen
    refine ⟨cell, hcell, ?_⟩
    rw [hpc]
    split <;> exact hns
  | passFull => exact ⟨cell, hcell, hcalm⟩
  | gone => exact ⟨cell, hcell, hlog _ hcalm.1, nofun⟩
  | @found p cell₁ hcell₁ hin =>
    obtain rfl := Option.some.inj (hcell.symm.trans hcell₁)
    obtain ⟨hns, -⟩ := hG.1 p (by rw [hi]; rfl) cell hcell hin
    exact ⟨cell, hcell, hlog _ hcalm.1, fun _ => ⟨hns, hin⟩⟩
  | closedBefore => exact ⟨cell, hcell, trivial⟩
  | finish => exact ⟨cell, hcell, hcalm⟩

/-- **A quiet step** keeps the invariant. -/
theorem quiet (hG : s.Undisturbed (.next i)) (hm : Move s (.next i) s')
    (hi : s.calls[i]? = some c) (hq : Quiet s c c' events d) (hrooms : s'.rooms = s.rooms)
    (hcalls : s'.calls = s.calls.set i c') : Calm s' := by
  have hself := hs.quiet_self hG hi hq hrooms fun p => mem_log_of_move hm
  refine hs.of_set hG hm hi hcalls hself ?_ ?_ ?_ ?_
  · intro p hp
    cases hq with
    | @found _ cell hcell hin =>
      cases hp
      exact (hG.1 _ (by rw [hi]; rfl) cell hcell hin).2
    | _ => cases hp
  · intro r hr
    cases hq with
    | finish => exact .inl hr
    | _ => cases hr
  · intro r hr
    cases hq <;> cases hr
  · intro r hr
    cases hq with
    | finish =>
      cases hr
      exact hG.2.2 r (by rw [hi]; rfl)
    | _ => cases hr

/-- **One step** that meets the condition keeps the invariant. -/
theorem move (hG : s.Undisturbed a) (hm : Move s a s') : Calm s' := by
  have hm' := hm
  cases hm with
  | newRoom =>
    exact ⟨hs.registered.move hm', fun j x hj => hs.call_stays hG hm' hj hj, hs.removing,
      hs.closing, fun _ _ => hs.swept_move hm', hs.settled⟩
  | joinRoom hcell =>
    exact hs.of_concat hG hm' rfl ⟨_, hcell, trivial⟩ rfl rfl rfl nofun
  | endParticipant hadm =>
    obtain ⟨j, _, _, hj, -⟩ := hs.registered.admitted _ hadm
    obtain ⟨cell, hcell, -⟩ := hs.call j _ hj
    exact hs.of_concat hG hm' rfl ⟨cell, hcell, hadm, nofun⟩ rfl rfl rfl
      nofun
  | close hr =>
    refine hs.of_concat hG hm' rfl ⟨_, List.getElem?_eq_getElem hr, trivial⟩ rfl ?_ rfl
      nofun
    simp [RoomCall.closing, ClosePc.swept]
  | quiet hi hq => exact hs.quiet hG hm' hi hq rfl rfl
  | @evict i p present cell q hi hcell hq =>
    -- the step of `join_room` and the start of the `end_participant` it waits for
    obtain ⟨hval, -⟩ := Room.getParticipantByIdentity_eq_some hq
    obtain ⟨sid, hentry⟩ := Room.mem_values.mp hval
    obtain ⟨-, hroom, hadm⟩ := hs.registered.entries _ cell hcell _ hentry
    refine ⟨hs.registered.move hm', ?_, ?_, ?_, fun _ _ => hs.swept_move hm', ?_⟩
    · refine forall_concat (forall_set hi (fun j x hji hj => ?_) ⟨cell, hcell, trivial⟩)
        ⟨cell, ?_, hadm, nofun⟩
      · exact hs.call_stays hG hm' hj (getElem?_concat_old (getElem?_set_other hi hji hj))
      · rw [← hroom] at hcell
        exact hcell
    · exact (hs.removing.set hi fun p hp => by cases hp).concat fun p hp => by cases hp
    · exact (hs.closing.set hi fun r hr => by cases hr).concat fun r hr => by cases hr
    · exact (hs.settled.set (fun r hr => by cases hr) fun r hr => by cases hr).concat rfl
        nofun
  | insert hi hcell =>
    exact hs.of_set hG hm' hi rfl ⟨_, getElem?_set_stepped hcell, trivial⟩ nofun nofun nofun nofun
  | remove hi hcell =>
    obtain ⟨hadm, hremove⟩ := hs.calmIn hi hcell
    refine hs.of_set hG hm' hi rfl ⟨_, getElem?_set_stepped hcell, hadm, nofun⟩ nofun nofun ?_ nofun
    -- a `close` that has finished would have taken the participants
    rintro _ ⟨⟩ hmem
    obtain ⟨j, hj⟩ := List.mem_iff_getElem?.mp hmem
    obtain ⟨hswept, -⟩ := hs.calmIn hj hcell
    exact absurd (hswept.symm.trans (hremove rfl).1) (by decide)
  | depart hi hd =>
    obtain ⟨cell, hcell, hcalm⟩ := hs.call _ _ hi
    cases hd with
    | ended =>
      have hadm := mem_log_of_move hm' hcalm.1
      exact hs.of_set hG hm' hi rfl ⟨cell, hcell, hadm, nofun⟩ nofun nofun nofun nofun
    | swept hp =>
      refine hs.of_set hG hm' hi rfl ⟨cell, hcell, hcalm.1, fun q hq => ?_⟩ nofun
        (fun r hr => .inl hr) nofun nofun
      obtain ⟨hroom, hadm⟩ := hcalm.2 q (List.mem_of_mem_erase hq)
      exact ⟨hroom, mem_log_of_move hm' hadm⟩
  | swap hi hcell hopen =>
    -- no other `close` has set the flag, or it would have been set
    have hns := hs.not_swept_of_open hcell hopen
    refine hs.of_set hG hm' hi rfl ⟨_, getElem?_set_stepped hcell, rfl, hns⟩ nofun ?_ nofun nofun
    rintro _ ⟨⟩
    refine .inr fun x hx hclosing => ?_
    obtain ⟨j, hj⟩ := List.mem_iff_getElem?.mp hx
    simp [hs.closed_of_closing hj hclosing hcell] at hopen
  | snapshot hi hcell =>
    refine hs.of_set hG hm' hi rfl ⟨_, getElem?_set_stepped hcell, rfl, fun q hq => ?_⟩ nofun
      (fun r hr => .inl hr) nofun nofun
    obtain ⟨sid, hentry⟩ := Room.mem_values.mp hq
    exact (hs.registered.entries _ _ hcell _ hentry).2
  | clear hi hcell =>
    obtain ⟨hswept, -⟩ := hs.calmIn hi hcell
    exact hs.of_set hG hm' hi rfl ⟨_, getElem?_set_stepped hcell, hswept, rfl⟩ nofun
      (fun r hr => .inl hr) nofun nofun

end Calm

end Rooms
end LivekitVoice
