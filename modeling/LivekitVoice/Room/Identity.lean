import LivekitVoice.Room.Calls

/-! # One participant per identity

`join_room` ends the participant it finds under its identity before it inserts its own, in separate
steps with an `await` between them, and several joins of one identity may race. The insertion
checks the identity again under the lock, and that alone keeps the map clean:

* **`one_participant_per_identity`** — in every state of every run, no two entries of a room's map
  have the same identity. -/

namespace LivekitVoice

open Transition

namespace Rooms

variable {s s' : Rooms} {a : RoomAction}

/-- **Who was there under the identity**: a participant that the call found in the room when it
began was admitted to it with the same identity, and is out of it once the call is admitted. -/
def Evicted (s : Rooms) : RoomCall → Prop
  | .joinRoom p present pc => ∀ q ∈ present, .admitted q ∈ s.log ∧ q.identity = p.identity ∧
      (pc.admitted → ∀ cell, s.rooms[p.room]? = some cell →
        q.sid ∉ cell.room.participants)
  | _ => True

/-- A participant that was admitted and is out of a room stays out: only its own `join_room` could
insert it, and that has done so. -/
theorem Registered.stays_out (hs : Registered s) (hm : Move s a s') {q : Participant}
    (hadm : .admitted q ∈ s.log) {r : Nat}
    (hout : ∀ cell, s.rooms[r]? = some cell → q.sid ∉ cell.room.participants) :
    ∀ cell, s'.rooms[r]? = some cell → q.sid ∉ cell.room.participants := by
  intro cell' hcell'
  rcases cell_of_move hm hcell' with ⟨-, m, rfl⟩ | ⟨cell, hcell, hchange⟩
  · exact AList.notMem_empty _
  have hnot := hout cell hcell
  cases hchange with
  | same | closed | swept => exact hnot
  | removed => exact fun hin => hnot (AList.mem_erase.mp hin).2
  | cleared => exact AList.notMem_empty _
  | added hi =>
    intro hin
    rcases (AList.mem_insert _).mp hin with heq | hin
    · exact hs.sid_ne_of_insert hi hadm heq
    · exact hnot hin

theorem Evicted.stays {c : RoomCall} (hs : Registered s) (hm : Move s a s') (h : Evicted s c) :
    Evicted s' c := by
  cases c with
  | joinRoom p present pc =>
    intro q hq
    obtain ⟨hadm, hid, hout⟩ := h q hq
    exact ⟨mem_log_of_move hm hadm, hid, fun hpc => hs.stays_out hm hadm (hout hpc)⟩
  | _ => trivial

theorem Evicted.quiet {c c' : RoomCall} {events : List RoomEvent} {d : Int} (hs : Registered s)
    (hm : Move s a s') (hq : Quiet s c c' events d) (h : Evicted s c) : Evicted s' c' := by
  have hfol := hq.follows
  cases c with
  | joinRoom p present pc =>
    obtain ⟨pc', rfl, -⟩ := hfol
    intro q hmem
    obtain ⟨hadm, hid, hout⟩ := (h.stays hs hm : Evicted s' (.joinRoom p present pc)) q hmem
    refine ⟨hadm, hid, fun hpc => hout ?_⟩
    -- a quiet step neither admits a participant nor takes that back
    cases hq with
    | toLoad | refuse => cases hpc
    | passClosed _ _ heq => split at heq <;> simp [heq, JoinPc.admitted] at hpc
    | _ => exact hpc
  | endParticipant =>
    obtain ⟨pc', rfl⟩ := hfol
    trivial
  | close =>
    obtain ⟨pc', rfl, -⟩ := hfol
    trivial

/-- **The insertion** finds nobody of its identity, so nobody who was there when the call began. -/
theorem Evicted.insert {p : Participant} {present : List Participant} {firstJoin : Bool}
    {cell : RoomCell} (hs : Registered s) (hm : Move s a s') (hcell : s.rooms[p.room]? = some cell)
    (hfree : cell.room.hasIdentity p.identity = false)
    (h : Evicted s (.joinRoom p present (.insert firstJoin))) :
    Evicted s' (.joinRoom p present (.started firstJoin)) := by
  intro q hq
  obtain ⟨hadm, hid, -⟩ := h q hq
  refine ⟨mem_log_of_move hm hadm, hid, fun _ => hs.stays_out hm hadm fun cell' hcell' hin => ?_⟩
  obtain rfl : cell = cell' := Option.some.inj (hcell.symm.trans hcell')
  -- whoever is in the room under that sid is `q`, whose identity has just been looked for
  obtain ⟨q', hq', hsid, -, hadm'⟩ := hs.exists_of_mem hcell hin
  obtain rfl : q' = q := hs.eq_of_sid hadm' hadm hsid
  exact Room.hasIdentity_eq_false.mp hfree q' hq' hid

/-- **One step** keeps it for all calls. -/
theorem evicted_move (hs : Registered s) (hm : Move s a s')
    (h : ∀ (i : Nat) (c : RoomCall), s.calls[i]? = some c → Evicted s c) :
    ∀ (i : Nat) (c : RoomCall), s'.calls[i]? = some c → Evicted s' c := by
  have hstay : ∀ (i : Nat) (c : RoomCall), s.calls[i]? = some c → Evicted s' c :=
    fun i c hi => (h i c hi).stays hs hm
  have hothers {k : Nat} : ∀ (i : Nat) (c : RoomCall), i ≠ k → s.calls[i]? = some c →
      Evicted s' c := fun i c _ => hstay i c
  have hm' := hm
  cases hm with
  | newRoom => exact hstay
  | joinRoom hcell _ =>
    refine forall_concat hstay fun q hq => ?_
    obtain ⟨hval, hid⟩ := List.mem_filter.mp hq
    obtain ⟨sid, hentry⟩ := Room.mem_values.mp hval
    obtain ⟨-, -, hadm⟩ := hs.entries _ _ hcell _ hentry
    exact ⟨hadm, by simpa using hid, nofun⟩
  | endParticipant | close => exact forall_concat hstay trivial
  | quiet hi hq => exact forall_set hi hothers ((h _ _ hi).quiet hs hm' hq)
  | evict hi =>
    refine forall_concat (forall_set hi hothers ?_) trivial
    intro q hq
    obtain ⟨hadm, hid, -⟩ := hstay _ _ hi q hq
    exact ⟨hadm, hid, nofun⟩
  | insert hi hcell hfree => exact forall_set hi hothers ((h _ _ hi).insert hs hm' hcell hfree)
  | remove hi | swap hi | snapshot hi | clear hi => exact forall_set hi hothers trivial
  | depart hi hd =>
    refine forall_set hi hothers ?_
    cases hd <;> trivial

/-- **One participant per identity.** In every state of every run: the identities in a room's map
are distinct, every entry stands under its participant's sid, and after a `join_room` that returned
without an error nobody it had found under its identity at the start is in the room. -/
theorem one_participant_per_identity {acts : List RoomAction} {s : Rooms}
    (hrun : run step init acts = some s) :
    (∀ (r : Nat) (cell : RoomCell), s.rooms[r]? = some cell →
      (cell.room.values.map Participant.identity).Nodup ∧
        ∀ e ∈ cell.room.participants.entries, e.1 = e.2.sid) ∧
    ∀ (i : Nat) (p : Participant) (present : List Participant),
      s.calls[i]? = some (.joinRoom p present (.done true)) →
        ∀ cell, s.rooms[p.room]? = some cell → ∀ q ∈ present, q.sid ∉ cell.room.participants := by
  obtain ⟨hs, hevicted⟩ := run_invariant (I := fun s => Registered s ∧
      ∀ (i : Nat) (c : RoomCall), s.calls[i]? = some c → Evicted s c)
    (fun _ _ _ hI h => ⟨hI.1.move (move_of_step h), evicted_move hI.1 (move_of_step h) hI.2⟩)
    ⟨registered_init, fun i c hi => by simp [init] at hi⟩ hrun
  refine ⟨fun r cell hcell => ⟨hs.identities r cell hcell, fun e he => ?_⟩, ?_⟩
  · exact (hs.entries r cell hcell e he).1
  · intro i p present hi cell hcell q hq
    exact (hevicted i _ hi q hq).2.2 rfl cell hcell

/-- A client joins, and joins again from another tab. -/
def joinTwice : List RoomAction :=
  [.newRoom 0,
    .joinRoom ⟨"PA_1", "alice", .standard, 0⟩, .next 0, .next 0, .next 0, .next 0, .next 0, .next 0,
    .next 0,
    .joinRoom ⟨"PA_2", "alice", .standard, 0⟩, .next 1, .next 2, .next 2, .next 2, .next 1, .next 1,
    .next 1, .next 1, .next 1, .next 1, .next 1]

/-- The second join has returned; the first participant, which it found, is gone. -/
theorem one_participant_per_identity_joinTwice : ∃ s cell, run step init joinTwice = some s ∧
    s.calls[1]? = some (.joinRoom ⟨"PA_2", "alice", .standard, 0⟩
      [⟨"PA_1", "alice", .standard, 0⟩] (.done true)) ∧
    s.rooms[0]? = some cell ∧ "PA_1" ∉ cell.room.participants := by
  obtain ⟨s, hrun, hcall, hlen⟩ : ∃ s ∈ run step init joinTwice,
      s.calls[1]? = some (.joinRoom ⟨"PA_2", "alice", .standard, 0⟩
        [⟨"PA_1", "alice", .standard, 0⟩] (.done true)) ∧ s.rooms.length = 1 := by decide +kernel
  obtain ⟨cell, hcell⟩ : ∃ cell, s.rooms[0]? = some cell :=
    ⟨_, List.getElem?_eq_getElem (by omega)⟩
  have hgone := (one_participant_per_identity hrun).2 1 _ _ hcall cell hcell
  exact ⟨s, cell, hrun, hcall, hcell, hgone ⟨"PA_1", "alice", .standard, 0⟩ List.mem_cons_self⟩

end Rooms
end LivekitVoice
