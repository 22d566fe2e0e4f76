import LivekitVoice.Room.Alone

/-! # How long a room has been empty

A room that nobody but agents and recorders is in closes `departure_timeout` seconds after it was
left, and one that nobody has joined `empty_timeout` seconds after it was made. `empty_since` is the
time it is measured from: `Room::join` of a standard participant clears it, and `end_participant`
sets it in two places. `on_participant_left` sets it if the last standard participant is gone and
it is not set; `remove_participant` sets it, whatever it was, if the map is empty.

* **`dependents_do_not_count_iff`** — when the time runs from the last standard departure. -/

namespace LivekitVoice

open Transition

/-! ## The room and its clock -/

namespace Room

/-- `has_non_dependent`. -/
def hasNonDependent (room : Room) : Bool := room.values.any fun p => !p.kind.isDependent

variable {room : Room}

theorem hasNonDependent_eq_true : room.hasNonDependent ↔
    ∃ sid p, room.getParticipant sid = some p ∧ p.kind.isDependent = false := by
  simp only [hasNonDependent, List.any_eq_true, mem_values, Bool.not_eq_true', getParticipant,
    ← Option.mem_def, AList.mem_lookup_iff]
  constructor
  · rintro ⟨p, ⟨sid, hp⟩, hdep⟩
    exact ⟨sid, p, hp, hdep⟩
  · rintro ⟨sid, p, hp, hdep⟩
    exact ⟨p, ⟨sid, hp⟩, hdep⟩

/-- **Somebody comes in** with a sid of their own. -/
theorem hasNonDependent_addParticipant {p : Participant} (h : p.sid ∉ room.participants) :
    (room.addParticipant p).hasNonDependent = (!p.kind.isDependent || room.hasNonDependent) := by
  rw [hasNonDependent, values_addParticipant_of_notMem h, List.any_cons, hasNonDependent]

variable {sid : ParticipantSid}

/-- **The others keep the room occupied.** -/
theorem hasNonDependent_removeParticipant :
    (room.removeParticipant sid).hasNonDependent ↔
      ∃ key p, key ≠ sid ∧ room.getParticipant key = some p ∧ p.kind.isDependent = false := by
  rw [hasNonDependent_eq_true]
  constructor
  · rintro ⟨key, p, hp, hdep⟩
    by_cases hkey : key = sid
    · rw [hkey, getParticipant, removeParticipant, AList.lookup_erase] at hp
      cases hp
    · rw [getParticipant, removeParticipant, AList.lookup_erase_ne hkey] at hp
      exact ⟨key, p, hkey, hp, hdep⟩
  · rintro ⟨key, p, hkey, hp, hdep⟩
    exact ⟨key, p, (AList.lookup_erase_ne hkey).trans hp, hdep⟩

/-- **A dependent participant that leaves** changes nothing about that. -/
theorem hasNonDependent_removeParticipant_dependent {q : Participant}
    (hq : room.getParticipant sid = some q) (hdep : q.kind.isDependent) :
    (room.removeParticipant sid).hasNonDependent = room.hasNonDependent := by
  rw [Bool.eq_iff_iff, hasNonDependent_removeParticipant, hasNonDependent_eq_true]
  constructor
  · rintro ⟨key, p, -, hp⟩
    exact ⟨key, p, hp⟩
  · rintro ⟨key, p, hp, hstandard⟩
    refine ⟨key, p, ?_, hp, hstandard⟩
    rintro rfl
    rw [hq] at hp
    cases hp
    simp [hdep] at hstandard

end Room

/-- **A room with its timeouts**, in seconds; the times are in milliseconds. -/
structure TimedRoom where
  room : Room
  emptyTimeout : Nat
  departureTimeout : Nat
  creationTimeMs : Int
  /-- When the room became empty. -/
  emptySince : Option Int

namespace TimedRoom

/-- A room as `Room::new` makes it. -/
def new (maxParticipants emptyTimeout departureTimeout : Nat) (now : Int) : TimedRoom :=
  ⟨.new maxParticipants, emptyTimeout, departureTimeout, now, none⟩

variable (r : TimedRoom)

/-- `Room::join`. -/
def join (p : Participant) : Except JoinError TimedRoom :=
  (r.room.join p).map fun joined =>
    { r with
      room := joined
      -- a dependent participant does not clear it
      emptySince := if p.kind.isDependent then r.emptySince else none }

/-- `remove_participant`, at the time `now`. -/
def removeParticipant (sid : ParticipantSid) (now : Int) : TimedRoom :=
  if (r.room.getParticipant sid).isSome then
    { r with
      room := r.room.removeParticipant sid
      -- set even if it is set already
      emptySince := if (r.room.removeParticipant sid).values.isEmpty then some now
        else r.emptySince }
  else r

/-- `on_participant_left`, at the time `now`. -/
def onParticipantLeft (now : Int) : TimedRoom :=
  if r.room.hasNonDependent then r
  else { r with emptySince := if r.emptySince.isNone then some now else r.emptySince }

/-- `end_participant`, for the participant under a sid. The clock is read in `remove_participant`,
and again in `on_participant_left` when the media has been closed. -/
def endParticipant (sid : ParticipantSid) (removedAt leftAt : Int) : TimedRoom :=
  if (r.room.getParticipant sid).isNone then r
  else (r.removeParticipant sid removedAt).onParticipantLeft leftAt

/-- `empty_since_ms`. -/
def emptySinceMs (now : Int) : Option Int := r.emptySince.map fun t => now - t

/-- `should_close`. -/
def shouldClose (now : Int) : Bool :=
  if r.room.closed || r.room.hasNonDependent then false
  else
    let timeout := if r.room.everJoined then r.departureTimeout else r.emptyTimeout
    if timeout = 0 then false
    else
      -- a room that was never joined is measured from its creation
      match if r.room.everJoined then r.emptySinceMs now else some (now - r.creationTimeMs) with
      | none => false
      | some elapsed => decide ((timeout : Int) * 1000 ≤ elapsed)

variable {r : TimedRoom}

theorem join_eq_ok {r' : TimedRoom} {p : Participant} (h : r.join p = .ok r') :
    r' = { r with
      room := r.room.addParticipant p
      emptySince := if p.kind.isDependent then r.emptySince else none } := by
  rw [join] at h
  cases hjoin : r.room.join p with
  | error e =>
    rw [hjoin] at h
    cases h
  | ok joined =>
    rw [hjoin] at h
    cases h
    rw [(Room.join_eq_ok hjoin).2]

section Departure

variable {sid : ParticipantSid} {q : Participant} {removedAt leftAt : Int}

theorem onParticipantLeft_eq (r : TimedRoom) (now : Int) :
    r.onParticipantLeft now = { r with emptySince :=
      if r.room.hasNonDependent then r.emptySince else some (r.emptySince.getD now) } := by
  rw [onParticipantLeft]
  cases r.room.hasNonDependent with
  | true => rfl
  | false =>
    cases r with
    | mk room empty departure creation since =>
      cases since <;> rfl

/-- **A departure**: an emptied map sets `empty_since`, whatever it was; if agents and recorders
are left it is set if it was not; and it stays if somebody standard stays. -/
theorem endParticipant_of_mem (hq : r.room.getParticipant sid = some q) :
    r.endParticipant sid removedAt leftAt = { r with
      room := r.room.removeParticipant sid
      emptySince :=
        if (r.room.removeParticipant sid).hasNonDependent then r.emptySince
        else if (r.room.removeParticipant sid).values.isEmpty then some removedAt
        else some (r.emptySince.getD leftAt) } := by
  rw [endParticipant, removeParticipant, hq, onParticipantLeft_eq]
  simp only [Option.isNone_some, Option.isSome_some, Bool.false_eq_true, if_false, if_true]
  cases hstay : (r.room.removeParticipant sid).hasNonDependent with
  | true =>
    have hvalues : (r.room.removeParticipant sid).values ≠ [] := fun hnil => by
      simp [Room.hasNonDependent, hnil] at hstay
    simp [hvalues]
  | false =>
    cases (r.room.removeParticipant sid).values.isEmpty with
    | _ => simp

end Departure

end TimedRoom

/-! ## Histories -/

/-- When a participant left: the two times that its `end_participant` reads. -/
structure LeaveTimes where
  removedAt : Int
  leftAt : Int
  deriving DecidableEq

/-- **A room and what has happened in it.** -/
structure RoomHistory where
  timed : TimedRoom
  /-- The time by now. -/
  clock : Int
  /-- Who has joined. -/
  joined : List Participant
  /-- When the last of them that is not dependent left. -/
  lastLeft : Option LeaveTimes

/-- A completed call. -/
inductive HistoryAction
  /-- `Room::join`. -/
  | join (p : Participant)
  /-- `end_participant`, `after` milliseconds later, which takes `during` milliseconds from one
  reading of the clock to the other. -/
  | leave (sid : ParticipantSid) (after during : Nat)

namespace RoomHistory

/-- A room that has just been made. -/
def init (maxParticipants emptyTimeout departureTimeout : Nat) (now : Int) : RoomHistory :=
  ⟨.new maxParticipants emptyTimeout departureTimeout now, now, [], none⟩

variable (h : RoomHistory)

/-- The times of a departure. -/
def leaveTimes (after during : Nat) : LeaveTimes :=
  ⟨h.clock + after, h.clock + after + during⟩

/-- **One call.** -/
def step : HistoryAction → Option RoomHistory
  | .join p =>
    -- sids are distinct
    if (h.timed.room.getParticipant p.sid).isSome then none
    else
      match h.timed.join p with
      | .error _ => some h
      | .ok timed => some { h with timed := timed, joined := p :: h.joined }
  | .leave sid after during =>
    let times := h.leaveTimes after during
    some { h with
      timed := h.timed.endParticipant sid times.removedAt times.leftAt
      clock := times.leftAt
      lastLeft :=
        match h.timed.room.getParticipant sid with
        | none => h.lastLeft
        | some q => if q.kind.isDependent then h.lastLeft else some times }

/-- Somebody who is not dependent has joined. -/
def StandardJoined : Prop := ∃ p ∈ h.joined, p.kind.isDependent = false

/-- **Agents and recorders do not count**: the room is not to be closed while somebody standard is
in it, and if all of those have left, the time is measured from when the last one did. -/
structure DependentsDoNotCount (h : RoomHistory) : Prop where
  occupied : h.timed.room.hasNonDependent → ∀ now, h.timed.shouldClose now = false
  vacant : h.StandardJoined → h.timed.room.hasNonDependent = false →
    ∃ d t, h.lastLeft = some d ∧ d.removedAt ≤ t ∧ t ≤ d.leftAt ∧
      h.timed.emptySince = some t ∧ (0 < h.timed.departureTimeout →
        ∀ now, h.timed.shouldClose now ↔ t + h.timed.departureTimeout * 1000 ≤ now)

/-- **The condition on a departure**: a dependent participant that leaves the map empty does so
before the departure of the last standard one, if there was one, is over. -/
def LeavesInTime : HistoryAction → Prop
  | .join _ => True
  | .leave sid after during =>
    ∀ q ∈ h.timed.room.getParticipant sid, q.kind.isDependent →
      (h.timed.room.removeParticipant sid).values.isEmpty →
        ∀ d ∈ h.lastLeft, (h.leaveTimes after during).removedAt ≤ d.leftAt

/-! ## The invariant -/

/-- **What the flags and times say**, along every history that meets the condition. -/
structure Timed (h : RoomHistory) : Prop where
  opened : h.timed.room.closed = false
  everJoined : h.timed.room.everJoined ↔ h.StandardJoined
  /-- Who is standard and in the room has joined, and has cleared `empty_since`. -/
  occupied : h.timed.room.hasNonDependent →
    h.timed.room.everJoined ∧ h.timed.emptySince = none
  vacant : h.timed.room.everJoined → h.timed.room.hasNonDependent = false →
    ∃ d t, h.lastLeft = some d ∧ d.removedAt ≤ t ∧ t ≤ d.leftAt ∧ h.timed.emptySince = some t
  past : ∀ d, h.lastLeft = some d → h.timed.room.everJoined ∧ d.removedAt ≤ h.clock

variable {h : RoomHistory} {sid : ParticipantSid} {q : Participant}

theorem Timed.dependentsDoNotCount (hi : Timed h) : DependentsDoNotCount h where
  occupied h now := by rw [TimedRoom.shouldClose, h, Bool.or_true, if_pos rfl]
  vacant := fun hjoined hnone => by
    have hever := hi.everJoined.mpr hjoined
    obtain ⟨d, t, hd, hle, hle', hsince⟩ := hi.vacant hever hnone
    refine ⟨d, t, hd, hle, hle', hsince, fun htimeout now => ?_⟩
    simp only [TimedRoom.shouldClose, TimedRoom.emptySinceMs, hi.opened, hnone, hever, hsince,
      Nat.pos_iff_ne_zero.mp htimeout, Bool.or_self, Bool.false_eq_true, if_false, if_true,
      Option.map_some, decide_eq_true_eq]
    omega

/-- **Somebody joins.** -/
theorem Timed.join (hi : Timed h) {p : Participant} {timed : TimedRoom}
    (hfresh : (h.timed.room.getParticipant p.sid).isSome ≠ true)
    (hjoin : h.timed.join p = .ok timed) :
    Timed { h with timed := timed, joined := p :: h.joined } := by
  obtain rfl := TimedRoom.join_eq_ok hjoin
  have hnotMem : p.sid ∉ h.timed.room.participants := fun hmem =>
    hfresh (AList.lookup_isSome.mpr hmem)
  have hever : (h.timed.room.addParticipant p).everJoined =
      (h.timed.room.everJoined || !p.kind.isDependent) := rfl
  have hstandard : StandardJoined ⟨h.timed, h.clock, p :: h.joined, h.lastLeft⟩ ↔
      p.kind.isDependent = false ∨ h.StandardJoined := by
    simp [StandardJoined]
  cases hdep : p.kind.isDependent with
  | true =>
    -- nothing that the law is about changes
    have hnone : (h.timed.room.addParticipant p).hasNonDependent =
        h.timed.room.hasNonDependent := by
      rw [Room.hasNonDependent_addParticipant hnotMem, hdep]
      rfl
    rw [hdep, Bool.not_true, Bool.or_false] at hever
    refine ⟨hi.opened, ?_, ?_, ?_, ?_⟩
    · show _ ↔ StandardJoined ⟨h.timed, h.clock, p :: h.joined, h.lastLeft⟩
      rw [hever, hi.everJoined, hstandard, hdep]
      simp
    · intro hocc
      rw [hever]
      exact hi.occupied (hnone ▸ hocc)
    · intro hjoined hvac
      exact hi.vacant (hever ▸ hjoined) (hnone ▸ hvac)
    · intro d hd
      rw [hever]
      exact hi.past d hd
  | false =>
    have hsome : (h.timed.room.addParticipant p).hasNonDependent := by
      rw [Room.hasNonDependent_addParticipant hnotMem, hdep]
      rfl
    rw [hdep, Bool.not_false, Bool.or_true] at hever
    refine ⟨hi.opened, ?_, ?_, ?_, ?_⟩
    · exact iff_of_true hever (hstandard.mpr (.inl hdep))
    · exact fun _ => ⟨hever, rfl⟩
    · intro _ hvac
      simp [hsome] at hvac
    · exact fun d hd => ⟨hever, (hi.past d hd).2⟩

theorem Timed.wait (hi : Timed h) {clock : Int} (hle : h.clock ≤ clock) :
    Timed { h with clock := clock } where
  __ := hi
  past := fun d hd => ⟨(hi.past d hd).1, Int.le_trans (hi.past d hd).2 hle⟩

variable {times : LeaveTimes} {after during : Nat} {h' : RoomHistory} {a : HistoryAction}

/-- **A dependent participant leaves**, in time. -/
theorem Timed.leave_dependent (hi : Timed h) (hq : h.timed.room.getParticipant sid = some q)
    (hdep : q.kind.isDependent) (hclock : h.clock ≤ times.removedAt)
    (hle : times.removedAt ≤ times.leftAt)
    (hguard : (h.timed.room.removeParticipant sid).values.isEmpty → ∀ d,
      h.lastLeft = some d → times.removedAt ≤ d.leftAt) :
    Timed { h with
      timed := h.timed.endParticipant sid times.removedAt times.leftAt
      clock := times.leftAt } := by
  have hsame := Room.hasNonDependent_removeParticipant_dependent hq hdep
  rw [TimedRoom.endParticipant_of_mem hq]
  refine ⟨hi.opened, hi.everJoined, ?_, ?_, ?_⟩
  · intro hocc
    rw [if_pos hocc]
    exact hi.occupied (hsame ▸ hocc)
  · intro hjoined hvac
    obtain ⟨d, t, hd, hlow, hhigh, hsince⟩ := hi.vacant hjoined (hsame ▸ hvac)
    rw [if_neg (by rw [Bool.not_eq_true]; exact hvac)]
    by_cases hempty : (h.timed.room.removeParticipant sid).values.isEmpty
    · -- the time is set again, which the condition allows only if it does not move on
      have hpast : d.removedAt ≤ h.clock := (hi.past d hd).2
      rw [if_pos hempty]
      exact ⟨d, times.removedAt, hd, Int.le_trans hpast hclock, hguard hempty d hd, rfl⟩
    · rw [if_neg hempty, hsince]
      exact ⟨d, t, hd, hlow, hhigh, rfl⟩
  · intro d hd
    have hpast : d.removedAt ≤ h.clock := (hi.past d hd).2
    exact ⟨(hi.past d hd).1, Int.le_trans hpast (Int.le_trans hclock hle)⟩

/-- **A standard participant leaves.** -/
theorem Timed.leave_standard (hi : Timed h) (hq : h.timed.room.getParticipant sid = some q)
    (hstandard : q.kind.isDependent = false) (hle : times.removedAt ≤ times.leftAt) :
    Timed { h with
      timed := h.timed.endParticipant sid times.removedAt times.leftAt
      clock := times.leftAt
      lastLeft := some times } := by
  -- it was in the room, so nobody has set the time yet
  have hocc : h.timed.room.hasNonDependent :=
    Room.hasNonDependent_eq_true.mpr ⟨sid, q, hq, hstandard⟩
  obtain ⟨hjoined, hsince⟩ := hi.occupied hocc
  rw [TimedRoom.endParticipant_of_mem hq]
  refine ⟨hi.opened, hi.everJoined, ?_, ?_, ?_⟩
  · intro hstay
    rw [if_pos hstay]
    exact ⟨hjoined, hsince⟩
  · intro _ hvac
    rw [if_neg (by rw [Bool.not_eq_true]; exact hvac)]
    by_cases hempty : (h.timed.room.removeParticipant sid).values.isEmpty
    · rw [if_pos hempty]
      exact ⟨times, times.removedAt, rfl, Int.le_refl _, hle, rfl⟩
    · rw [if_neg hempty, hsince]
      exact ⟨times, times.leftAt, rfl, hle, Int.le_refl _, rfl⟩
  · rintro d ⟨⟩
    exact ⟨hjoined, hle⟩

theorem removedAt_le_leftAt (h : RoomHistory) (after during : Nat) :
    (h.leaveTimes after during).removedAt ≤ (h.leaveTimes after during).leftAt :=
  Int.le_add_of_nonneg_right (Int.natCast_nonneg during)

theorem step_leave_of_some (hq : h.timed.room.getParticipant sid = some q) :
    h.step (.leave sid after during) = some { h with
      timed := h.timed.endParticipant sid (h.leaveTimes after during).removedAt
        (h.leaveTimes after during).leftAt
      clock := (h.leaveTimes after during).leftAt
      lastLeft :=
        if q.kind.isDependent then h.lastLeft else some (h.leaveTimes after during) } := by
  simp [step, hq]

/-- **One call** that meets the condition keeps the invariant. -/
theorem Timed.step (hi : Timed h) (hguard : h.LeavesInTime a) (hstep : h.step a = some h') :
    Timed h' := by
  cases a with
  | join p =>
    rw [RoomHistory.step] at hstep
    split at hstep
    · cases hstep
    · rename_i hfresh
      split at hstep
      · cases hstep
        exact hi
      · rename_i timed hjoin
        cases hstep
        exact hi.join hfresh hjoin
  | leave sid after during =>
    have hclock : h.clock ≤ (h.leaveTimes after during).removedAt :=
      Int.le_add_of_nonneg_right (Int.natCast_nonneg after)
    have hle := h.removedAt_le_leftAt after during
    cases hq : h.timed.room.getParticipant sid with
    | none =>
      -- somebody leaves who is not there
      simp only [step, hq, TimedRoom.endParticipant] at hstep
      cases hstep
      exact hi.wait (Int.le_trans hclock hle)
    | some q =>
      rw [step_leave_of_some hq] at hstep
      cases hstep
      cases hdep : q.kind.isDependent with
      | true => exact hi.leave_dependent hq hdep hclock hle (hguard q hq hdep)
      | false => exact hi.leave_standard hq hdep hle

/-- **A call that does not meet it** breaks the law. -/
theorem Timed.leavesInTime (hi : Timed h) (hstep : h.step a = some h')
    (hlaw : DependentsDoNotCount h') : h.LeavesInTime a := by
  cases a with
  | join p => trivial
  | leave sid after during =>
    intro q hq hdep hempty d hd
    have hsame := Room.hasNonDependent_removeParticipant_dependent hq hdep
    rw [step_leave_of_some hq, if_pos hdep] at hstep
    cases hstep
    -- the map is empty, so nobody standard is left, and the time is the one of this departure
    have hvac : (h.timed.room.removeParticipant sid).hasNonDependent = false := by
      rw [Room.hasNonDependent, List.isEmpty_iff.mp hempty]
      rfl
    have hjoined : h.StandardJoined := hi.everJoined.mp (hi.past d hd).1
    rw [TimedRoom.endParticipant_of_mem hq] at hlaw
    obtain ⟨d', t, hd', -, hhigh, hsince, -⟩ := hlaw.vacant hjoined hvac
    obtain rfl : d = d' := Option.some.inj (hd.symm.trans hd')
    rw [hvac, hempty] at hsince
    cases hsince
    exact hhigh

/-- **When agents and recorders do not prolong a room**: along every history of joins and
departures, the law holds in all states exactly if the condition is met by all departures. -/
theorem dependents_do_not_count_iff (maxParticipants emptyTimeout departureTimeout : Nat)
    (now : Int) (acts : List HistoryAction) :
    Throughout step DependentsDoNotCount
        (init maxParticipants emptyTimeout departureTimeout now) acts ↔
      Along step LeavesInTime (init maxParticipants emptyTimeout departureTimeout now) acts := by
  refine throughout_iff_along (fun h => Timed.dependentsDoNotCount) ?_
    (fun h a h' => Timed.step) (fun h a h' => Timed.leavesInTime)
    ⟨rfl, by simp [init, TimedRoom.new, Room.new, StandardJoined], nofun, nofun, nofun⟩
  intro h a hnone
  cases a with
  | join p => trivial
  | leave sid after during => cases hnone

/-- **An agent prolongs the room.** The user leaves at 0 ms and the agent 15 s later: with a
departure timeout of 20 s the room is not to be closed at 20 s, but at 35 s. -/
theorem agent_prolongs_room :
    (run step (init 0 300 20 0)
      [.join ⟨"PA_user", "user", .standard, 0⟩, .join ⟨"PA_agent", "agent", .agent, 0⟩,
        .leave "PA_user" 0 0, .leave "PA_agent" 15000 0]).map
      (fun h => (h.lastLeft, h.timed.emptySince, h.timed.shouldClose 20000,
        h.timed.shouldClose 34999, h.timed.shouldClose 35000)) =
      some (some ⟨0, 0⟩, some 15000, false, false, true) := by
  decide +kernel

end RoomHistory
end LivekitVoice
