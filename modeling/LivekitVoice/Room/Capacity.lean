import LivekitVoice.Room.Calls

/-! # The capacity of a room

`Room::join` asks `is_full` in one critical section and inserts in another, so the count can change
between the two.

* **`within_capacity`** — along every run in which `is_full` is asked only while no other
  participant that counts is between its own check and its insertion, a room with a limit never
  holds more than that many participants that count.
* **`over_capacity`** — two joins that both ask before either inserts exceed a limit of one. -/

namespace LivekitVoice

open Transition

namespace RoomCall

/-- The room a call asks `is_full` of in its next step. -/
def asking : RoomCall → Option Nat
  | .joinRoom p _ (.fullCheck _) => some p.room
  | _ => none

/-- The room a call is about to insert a participant into that counts. -/
def admitting : RoomCall → Option Nat
  | .joinRoom p _ (.insert _) => if p.kind.isDependent then none else some p.room
  | _ => none

end RoomCall

namespace Rooms

/-- **The condition on a step**: `is_full` is asked while no participant that counts is between its
check and its insertion into the same room. -/
def CheckedAlone (s : Rooms) : RoomAction → Prop
  | .next i => ∀ r ∈ s.calls[i]?.bind RoomCall.asking, ∀ c ∈ s.calls, c.admitting ≠ some r
  | _ => True

instance (s : Rooms) (a : RoomAction) : Decidable (s.CheckedAlone a) := by
  unfold CheckedAlone
  split <;> infer_instance

/-- A call that is about to insert has a place. -/
def HasPlace (s : Rooms) (c : RoomCall) : Prop :=
  ∀ (r : Nat) (cell : RoomCell), c.admitting = some r → s.rooms[r]? = some cell →
    0 < cell.room.maxParticipants → cell.room.nonDependents < cell.room.maxParticipants

/-- **The invariant**: every room is within its limit, at most one call at a time is about to
insert into it, and that call has a place. -/
structure Within (s : Rooms) : Prop where
  bound : ∀ (r : Nat) (cell : RoomCell), s.rooms[r]? = some cell →
    0 < cell.room.maxParticipants → cell.room.nonDependents ≤ cell.room.maxParticipants
  alone : Distinct RoomCall.admitting s.calls
  place : ∀ (i : Nat) (c : RoomCall), s.calls[i]? = some c → HasPlace s c

theorem within_init : Within init where
  bound := fun r cell hcell => by simp [init] at hcell
  alone := distinct_nil _
  place := fun i c hi => by simp [init] at hi

variable {s s' : Rooms} {a : RoomAction} {c c' : RoomCall} {events : List RoomEvent} {d : Int}
  {i : Nat}

theorem Within.bound_move (hs : Within s) (hm : Move s a s') {r : Nat} {cell' : RoomCell}
    (hcell' : s'.rooms[r]? = some cell') (hmax : 0 < cell'.room.maxParticipants) :
    cell'.room.nonDependents ≤ cell'.room.maxParticipants := by
  rcases cell_of_move hm hcell' with ⟨-, m, rfl⟩ | ⟨cell, hcell, hchange⟩
  · exact Nat.zero_le _
  cases hchange with
  | same => exact hs.bound r _ hcell hmax
  | closed | swept => exact hs.bound r cell hcell hmax
  | removed =>
    exact (Room.nonDependents_removeParticipant_le _ _).trans (hs.bound r _ hcell hmax)
  | cleared => exact Nat.zero_le _
  | @added i p present firstJoin hi _ hr =>
    -- a dependent participant does not count; for any other the call has a place
    have hadd := Room.nonDependents_addParticipant_le cell.room p
    cases hdep : p.kind.isDependent with
    | true =>
      rw [hdep, if_pos rfl] at hadd
      exact hadd.trans (hs.bound r cell hcell hmax)
    | false =>
      have hplace := hs.place i _ hi r cell (by simp [RoomCall.admitting, hdep, hr]) hcell hmax
      rw [hdep, if_neg (by decide)] at hadd
      exact hadd.trans hplace

/-- **Who has a place keeps it** while others move. -/
theorem Within.place_stays (hs : Within s) (hm : Move s a s') {j : Nat} (hj : s.calls[j]? = some c)
    (hj' : s'.calls[j]? = some c) :
    HasPlace s' c := by
  intro r cell' hadm hcell' hmax
  rcases cell_of_move hm hcell' with ⟨-, m, rfl⟩ | ⟨cell, hcell, hchange⟩
  · exact hmax
  have hplace : ∀ cell, s.rooms[r]? = some cell → 0 < cell.room.maxParticipants →
      cell.room.nonDependents < cell.room.maxParticipants :=
    fun cell hcell => hs.place j c hj r cell hadm hcell
  cases hchange with
  | same => exact hplace _ hcell hmax
  | closed | swept => exact hplace cell hcell hmax
  | removed =>
    exact (Room.nonDependents_removeParticipant_le _ _).trans_lt (hplace _ hcell hmax)
  | cleared => exact hmax
  | @added i p present firstJoin hi hi' hr =>
    have hadd := Room.nonDependents_addParticipant_le cell.room p
    cases hdep : p.kind.isDependent with
    | true =>
      rw [hdep, if_pos rfl] at hadd
      exact hadd.trans_lt (hplace cell hcell hmax)
    | false =>
      -- then the inserting call is this one, which has gone on
      have hi_adm : RoomCall.admitting (.joinRoom p present (.insert firstJoin)) = some r := by
        simp [RoomCall.admitting, hdep, hr]
      obtain rfl := hs.alone i j _ c r hi hj hi_adm hadm
      obtain rfl : c = .joinRoom p present (.started firstJoin) :=
        Option.some.inj (hj'.symm.trans hi')
      cases hadm

theorem hasPlace_of_not_admitting (h : c.admitting = none) : HasPlace s c := by
  intro r cell hadm
  simp [h] at hadm

/-- The only quiet step after which a call is about to insert into a room is its `is_full` check,
and then the room was not full. -/
theorem Quiet.admitting {r : Nat} (hq : Quiet s c c' events d) (h : c'.admitting = some r) :
    ∃ p present firstJoin cell, c = .joinRoom p present (.fullCheck firstJoin) ∧ p.room = r ∧
      s.rooms[r]? = some cell ∧ cell.room.isFull = false := by
  cases hq with
  | passClosed _ _ hpc =>
    rw [hpc] at h
    split at h
    · rename_i hdep
      simp [RoomCall.admitting, hdep] at h
    · cases h
  | passFull hcell hfree =>
    rw [RoomCall.admitting] at h
    split at h
    · cases h
    · cases h
      exact ⟨_, _, _, _, rfl, rfl, hcell, hfree⟩
  | _ => cases h

theorem alone_set {l : List RoomCall} (h : Distinct RoomCall.admitting l) (hi : l[i]? = some c)
    (hc' : c'.admitting = none) :
    Distinct RoomCall.admitting (l.set i c') :=
  h.set_of_le hi fun r hr => by simp [hc'] at hr

theorem alone_concat {l : List RoomCall} (h : Distinct RoomCall.admitting l)
    (hc : c.admitting = none) : Distinct RoomCall.admitting (l ++ [c]) :=
  h.concat fun r hr => by simp [hc] at hr

theorem Within.of_set (hs : Within s) (hm : Move s a s') (hi : s.calls[i]? = some c)
    (hcalls : s'.calls = s.calls.set i c') (hc' : c'.admitting = none) : Within s' where
  bound := fun _ _ => hs.bound_move hm
  alone := hcalls ▸ alone_set hs.alone hi hc'
  place := by
    have hothers : ∀ (j : Nat) (x : RoomCall), j ≠ i → s.calls[j]? = some x → HasPlace s' x :=
      fun j x hji hj => hs.place_stays hm hj
        (hcalls ▸ getElem?_set_other hi hji hj)
    rw [hcalls]
    exact forall_set hi hothers (hasPlace_of_not_admitting hc')

theorem Within.of_concat (hs : Within s) (hm : Move s a s') (hcalls : s'.calls = s.calls ++ [c])
    (hc : c.admitting = none) :
    Within s' where
  bound := fun _ _ => hs.bound_move hm
  alone := hcalls ▸ alone_concat hs.alone hc
  place := by
    have hothers : ∀ (j : Nat) (x : RoomCall), s.calls[j]? = some x → HasPlace s' x :=
      fun j x hj => hs.place_stays hm hj (hcalls ▸ getElem?_concat_old hj)
    rw [hcalls]
    exact forall_concat hothers (hasPlace_of_not_admitting hc)

/-- **One step** that meets the condition keeps the invariant. -/
theorem Within.move (hs : Within s) (hG : s.CheckedAlone a) (hm : Move s a s') : Within s' := by
  have hm' := hm
  cases hm with
  | newRoom =>
    exact ⟨fun _ _ => hs.bound_move hm', hs.alone, fun j x hj => hs.place_stays hm' hj hj⟩
  | joinRoom | endParticipant | close => exact hs.of_concat hm' rfl rfl
  | quiet hi hq =>
    refine ⟨fun _ _ => hs.bound_move hm', hs.alone.set hi fun r hr j x _ hj => ?_,
      forall_set hi ?_ ?_⟩
    · -- it takes a place only by its `is_full` check, and then no other call has one
      obtain ⟨p, present, firstJoin, cell, rfl, rfl, -, -⟩ := hq.admitting hr
      exact hG p.room (by rw [hi]; rfl) x (List.mem_of_getElem? hj)
    · intro j x hji hj
      exact hs.place_stays hm' hj (getElem?_set_other hi hji hj)
    · -- the call has a place if it is about to insert: the room was not full
      intro r cell hadm hcell hmax
      obtain ⟨p, present, firstJoin, cell', -, -, hcell', hfree⟩ := hq.admitting hadm
      obtain rfl : cell' = cell := Option.some.inj (hcell'.symm.trans hcell)
      rw [Room.isFull, if_neg (by omega)] at hfree
      simpa using hfree
  | evict hi =>
    refine ⟨fun _ _ => hs.bound_move hm', alone_concat (alone_set hs.alone hi rfl) rfl,
      forall_concat (forall_set hi ?_ (hasPlace_of_not_admitting rfl))
        (hasPlace_of_not_admitting rfl)⟩
    intro j x hji hj
    exact hs.place_stays hm' hj (getElem?_concat_old (getElem?_set_other hi hji hj))
  | insert hi | remove hi | swap hi | snapshot hi | clear hi => exact hs.of_set hm' hi rfl rfl
  | depart hi hd => exact hs.of_set hm' hi rfl (by cases hd <;> rfl)

/-- **Within capacity.** Along every run whose steps meet `CheckedAlone`, a room with a limit never
holds more participants that count than its limit. -/
theorem within_capacity {acts : List RoomAction} {s : Rooms}
    (hG : Along step CheckedAlone init acts) (hrun : run step init acts = some s) {r : Nat}
    {cell : RoomCell} (hcell : s.rooms[r]? = some cell) (hmax : 0 < cell.room.maxParticipants) :
    cell.room.nonDependents ≤ cell.room.maxParticipants := by
  have hs : Within s :=
    run_invariant_along (fun _ _ _ hI hG h => Within.move hI hG (move_of_step h)) within_init hG
      hrun
  exact hs.bound r cell hcell hmax

/-- Two clients join a room for one, the second after the first has been inserted. -/
def joinInTurn : List RoomAction :=
  [.newRoom 1, .joinRoom ⟨"PA_1", "alice", .standard, 0⟩, .next 0, .next 0, .next 0, .next 0,
    .next 0, .joinRoom ⟨"PA_2", "bob", .standard, 0⟩, .next 1, .next 1, .next 1, .next 1]

/-- The second is refused, and the room holds one participant. -/
theorem within_capacity_joinInTurn : ∃ s cell, Along step CheckedAlone init joinInTurn ∧
    run step init joinInTurn = some s ∧ s.rooms[0]? = some cell ∧
    cell.room.maxParticipants = 1 ∧ cell.room.nonDependents ≤ 1 := by
  have hG : Along step CheckedAlone init joinInTurn := by decide +kernel
  obtain ⟨s, hrun, cell, hcell, hmax⟩ : ∃ s ∈ run step init joinInTurn,
      ∃ cell ∈ s.rooms[0]?, cell.room.maxParticipants = 1 := by decide +kernel
  have hle := within_capacity hG hrun hcell (by omega)
  exact ⟨s, cell, hG, hrun, hcell, hmax, hmax ▸ hle⟩

/-- Two clients join a room for one; both have asked `is_full` before either is inserted. -/
def joinAtOnce : List RoomAction :=
  [.newRoom 1, .joinRoom ⟨"PA_1", "alice", .standard, 0⟩,
    .joinRoom ⟨"PA_2", "bob", .standard, 0⟩, .next 0, .next 0, .next 0, .next 0, .next 1, .next 1,
    .next 1, .next 1, .next 0, .next 1]

/-- **Over capacity**: two participants that count in a room with `max_participants = 1`. -/
theorem over_capacity : ∃ s cell, run step init joinAtOnce = some s ∧ s.rooms[0]? = some cell ∧
    cell.room.maxParticipants = 1 ∧ cell.room.nonDependents = 2 := by
  obtain ⟨s, hrun, cell, hcell, hcount⟩ : ∃ s ∈ run step init joinAtOnce, ∃ cell ∈ s.rooms[0]?,
      cell.room.maxParticipants = 1 ∧ cell.room.nonDependents = 2 := by decide +kernel
  exact ⟨s, cell, hrun, hcell, hcount⟩

end Rooms
end LivekitVoice
