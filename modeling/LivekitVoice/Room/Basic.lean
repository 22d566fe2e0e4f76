import Mathlib.Algebra.BigOperators.Group.List.Basic
import Mathlib.Algebra.Ring.Nat
import Mathlib.Data.List.AList

/-! # Rooms and their participants

The part of `Room` and `Participant` that decides who is in a room: the participant map, keyed by
participant sid, the `closed` flag, the capacity, and the flag `ever_joined`. Each definition here
is one critical section or one atomic access of the source; the calls that string them together are
in the modules that follow.

* **`mem_entries_addParticipant`** and **`mem_entries_removeParticipant`** — who is in the map after
  an insertion and a removal. -/

namespace LivekitVoice

open List

/-- A participant's sid, `PA_` and a random suffix. -/
abbrev ParticipantSid := String

/-- The identity a token was issued for. -/
abbrev Identity := String

/-- The kind of a participant, from its token. -/
inductive ParticipantKind
  | standard
  | ingress
  | egress
  | sip
  | agent
  | connector
  | bridge
  deriving DecidableEq

/-- Dependent participants (agents and egress) neither fill the room nor keep it open. -/
def ParticipantKind.isDependent : ParticipantKind → Bool
  | .agent | .egress => true
  | _ => false

/-- **A participant**: what never changes about it. -/
structure Participant where
  /-- Its sid, unique to this participant. -/
  sid : ParticipantSid
  /-- Its identity; a client that joins again has the same one. -/
  identity : Identity
  /-- Its kind. -/
  kind : ParticipantKind
  /-- The room object it was created for (`attach_room`), by the number of the room. -/
  room : Nat
  deriving DecidableEq

/-- An entry of the participant map: a key and the participant stored under it. -/
abbrev Entry := Σ _ : ParticipantSid, Participant

/-- The participant map of a room. -/
abbrev ParticipantMap := AList (fun _ : ParticipantSid => Participant)

/-- **A room object.** -/
structure Room where
  /-- `max_participants`; `0` is no limit. -/
  maxParticipants : Nat
  /-- `Room::close` has begun. -/
  closed : Bool
  /-- Some non-dependent participant has joined. -/
  everJoined : Bool
  /-- Who is in the room, by sid. -/
  participants : ParticipantMap

namespace Room

/-- A room as `Room::new` makes it. -/
def new (maxParticipants : Nat) : Room := ⟨maxParticipants, false, false, ∅⟩

variable (room : Room)

/-- The participants, in the order the map yields them (`participants`). -/
def values : List Participant := room.participants.entries.map fun e => e.2

/-- The number of participants that count towards the capacity. -/
def nonDependents : Nat :=
  (room.values.filter fun p => !p.kind.isDependent).length

/-- `is_full`. -/
def isFull : Bool :=
  if room.maxParticipants = 0 then false
  else decide (room.maxParticipants ≤ room.nonDependents)

/-- `get_participant`. -/
def getParticipant (sid : ParticipantSid) : Option Participant :=
  room.participants.lookup sid

/-- `get_participant_by_identity`. -/
def getParticipantByIdentity (identity : Identity) : Option Participant :=
  room.values.find? fun p => p.identity = identity

/-- Some participant has this identity: the check under the lock in `join`. -/
def hasIdentity (identity : Identity) : Bool :=
  room.values.any fun p => p.identity = identity

/-- The insertion in `join`, with the `ever_joined` flag that follows it. -/
def addParticipant (p : Participant) : Room :=
  { room with
    participants := room.participants.insert p.sid p
    everJoined := room.everJoined || !p.kind.isDependent }

/-- The removal in `remove_participant`. -/
def removeParticipant (sid : ParticipantSid) : Room :=
  { room with participants := room.participants.erase sid }

/-- The map is emptied at the end of `close`. -/
def clear : Room := { room with participants := ∅ }

/-! ## The map after an operation -/

variable {room : Room} {p : Participant} {sid : ParticipantSid}

theorem mem_values : p ∈ room.values ↔ ∃ sid, ⟨sid, p⟩ ∈ room.participants.entries := by
  simp [values]

theorem values_addParticipant (room : Room) (p : Participant) :
    (room.addParticipant p).values = p :: (room.removeParticipant p.sid).values := rfl

theorem values_removeParticipant_sublist (room : Room) (sid : ParticipantSid) :
    (room.removeParticipant sid).values.Sublist room.values :=
  (kerase_sublist sid room.participants.entries).map fun e : Entry => e.2

/-- **After an insertion**, an entry is the new one or an old one. -/
theorem mem_entries_addParticipant {e : Entry}
    (he : e ∈ (room.addParticipant p).participants.entries) :
    e = ⟨p.sid, p⟩ ∨ e ∈ room.participants.entries := by
  rcases mem_cons.mp he with he | he
  · exact .inl he
  · exact .inr ((kerase_sublist p.sid room.participants.entries).subset he)

/-- **After a removal**, an entry is an old one. -/
theorem mem_entries_removeParticipant {e : Entry}
    (he : e ∈ (room.removeParticipant sid).participants.entries) :
    e ∈ room.participants.entries :=
  (kerase_sublist sid room.participants.entries).subset he

theorem values_addParticipant_of_notMem (h : p.sid ∉ room.participants) :
    (room.addParticipant p).values = p :: room.values := by
  have herase : room.participants.entries.kerase p.sid = room.participants.entries :=
    kerase_of_notMem_keys h
  rw [values_addParticipant]
  exact congrArg (fun es : List Entry => p :: es.map fun e => e.2) herase

/-- **A removal in a sum over the participants** takes away the one removed. -/
theorem sum_values_removeParticipant (w : Participant → Nat) (h : p.sid ∈ room.participants)
    (hp : ∀ q, ⟨p.sid, q⟩ ∈ room.participants.entries → q = p) :
    ((room.removeParticipant p.sid).values.map w).sum + w p = (room.values.map w).sum := by
  obtain ⟨q, l₁, l₂, -, hl, hl'⟩ := exists_of_kerase (AList.mem_keys.mp h)
  obtain rfl : q = p := hp q (by rw [hl]; simp)
  have hold : room.values = (l₁ ++ ⟨q.sid, q⟩ :: l₂).map fun e => e.2 :=
    congrArg (List.map fun e : Entry => e.2) hl
  have hnew : (room.removeParticipant q.sid).values = (l₁ ++ l₂).map fun e => e.2 :=
    congrArg (List.map fun e : Entry => e.2) hl'
  rw [hold, hnew]
  simp only [map_append, map_cons, sum_append, sum_cons]
  omega

/-! ## Identities -/

theorem hasIdentity_eq_false {identity : Identity} :
    room.hasIdentity identity = false ↔ ∀ p ∈ room.values, p.identity ≠ identity := by
  simp [hasIdentity]

theorem getParticipantByIdentity_eq_some {identity : Identity}
    (h : room.getParticipantByIdentity identity = some p) :
    p ∈ room.values ∧ p.identity = identity :=
  ⟨mem_of_find?_eq_some h, by simpa using List.find?_some h⟩

/-- **An insertion that has checked the identity** keeps the identities distinct. -/
theorem nodup_identities_addParticipant (hnodup : (room.values.map Participant.identity).Nodup)
    (hfresh : room.hasIdentity p.identity = false) :
    ((room.addParticipant p).values.map Participant.identity).Nodup := by
  have hsub := values_removeParticipant_sublist room p.sid
  rw [values_addParticipant, map_cons, nodup_cons]
  refine ⟨fun hmem => ?_, hnodup.sublist (hsub.map Participant.identity)⟩
  obtain ⟨q, hq, hid⟩ := mem_map.mp hmem
  exact hasIdentity_eq_false.mp hfresh q (hsub.subset hq) hid

theorem nodup_identities_removeParticipant (hnodup : (room.values.map Participant.identity).Nodup) :
    ((room.removeParticipant sid).values.map Participant.identity).Nodup :=
  hnodup.sublist ((values_removeParticipant_sublist room sid).map Participant.identity)

/-! ## Capacity -/

theorem nonDependents_removeParticipant_le (room : Room) (sid : ParticipantSid) :
    (room.removeParticipant sid).nonDependents ≤ room.nonDependents :=
  ((values_removeParticipant_sublist room sid).filter _).length_le

/-- **An insertion** takes at most one place, and none for a dependent participant. -/
theorem nonDependents_addParticipant_le (room : Room) (p : Participant) :
    (room.addParticipant p).nonDependents ≤
      room.nonDependents + if p.kind.isDependent then 0 else 1 := by
  have hrem := nonDependents_removeParticipant_le room p.sid
  unfold nonDependents at hrem ⊢
  rw [values_addParticipant, filter_cons]
  cases p.kind.isDependent <;> simpa using hrem

end Room
end LivekitVoice
