import LivekitVoice.Keyed.Table
import LivekitVoice.Transition.Registry
import LivekitVoice.Transition.Run
import LivekitVoice.Transition.Tenure
import Mathlib.Algebra.Ring.Nat

/-! # The rooms of a server

`get_or_create_room` looks a name up, and if there is no room makes one and puts it into the map
unless another call has done so in the meantime; the two accesses to the map are critical sections
of their own. A room that closes takes itself out of the map through the callback it was made with,
by its name. Any number of these calls are interleaved, with the gauge `room_total` counted up
after an insertion and down after a removal.

* **`registry_consistent`** — a name has one room in every state, and the gauge is right. -/

namespace LivekitVoice

open List Option Keyed Transition

/-! ## Rooms and calls -/

/-- How far a room object is (a note for the proofs, nothing reads it). -/
inductive RoomLife
  /-- Made, and in the hands of one call. -/
  | made
  /-- In the map. -/
  | listed
  /-- Its close has set the flag. -/
  | flagged
  /-- Its close has taken the callback. -/
  | taken
  /-- Its callback has removed it. -/
  | removed
  deriving DecidableEq

namespace RoomLife

/-- It is in the map. -/
def inMap : RoomLife → Bool
  | .listed | .flagged | .taken => true
  | .made | .removed => false

/-- The flag is set. -/
def closed : RoomLife → Bool
  | .made | .listed => false
  | .flagged | .taken | .removed => true

/-- The callback is there. -/
def hasCallback : RoomLife → Bool
  | .made | .listed | .flagged => true
  | .taken | .removed => false

end RoomLife

/-- **A room object**, as far as the map is concerned. -/
structure RoomObject where
  name : String
  closed : Bool
  /-- `on_close`, until it is taken. -/
  onClose : Bool
  life : RoomLife

/-- **Where a `get_or_create_room` stands.** -/
inductive GetPc
  /-- The first access to the map. -/
  | lookup
  /-- `Room::new` and `set_on_close`. -/
  | make
  /-- `entry(..).or_insert_with(..)`, with the room it has made. -/
  | entry (r : Nat)
  /-- It has put its room into the map: `room_total.inc()`. -/
  | count (r : Nat)
  | returned (r : Nat)

namespace GetPc

/-- The room a call returns, once it knows. -/
def result : GetPc → Option Nat
  | .count r | .returned r => some r
  | .lookup | .make | .entry _ => none

/-- The room that a call has made and not put into the map. -/
def holds : GetPc → Option Nat
  | .entry r => some r
  | .lookup | .make | .count _ | .returned _ => none

end GetPc

/-- **Where a `Room::close` stands.** -/
inductive ShutPc
  /-- `closed.swap(true)`. -/
  | swap
  /-- The room was closed already. -/
  | returned
  /-- The participants have been disconnected: `on_close` is taken. -/
  | callback
  /-- `remove_room` takes the name out of the map. -/
  | remove
  /-- `room_total.dec()`. -/
  | dec
  | done
  deriving DecidableEq

/-- How far the room is whose `close` has come to a point. -/
def ShutPc.life : ShutPc → Option RoomLife
  | .swap | .returned => none
  | .callback => some .flagged
  | .remove => some .taken
  | .dec | .done => some .removed

/-- **A call in flight.** -/
inductive RegistryCall
  | getOrCreate (name : String) (pc : GetPc)
  | close (r : Nat) (pc : ShutPc)

namespace RegistryCall

/-- The call has returned. -/
def quiet : RegistryCall → Bool
  | .getOrCreate _ (.returned _) | .close _ .returned | .close _ .done => true
  | _ => false

/-- An insertion that is not counted yet. -/
def uncounted : RegistryCall → Nat
  | .getOrCreate _ (.count _) => 1
  | _ => 0

/-- A removal that is not counted yet. -/
def undiscounted : RegistryCall → Nat
  | .close _ .dec => 1
  | _ => 0

/-- The room that only this call has: one it has made, or one it has set the flag of. -/
def owns : RegistryCall → Option Nat
  | .getOrCreate _ pc => pc.holds
  | .close r pc => if pc.life.isSome then some r else none

end RegistryCall

/-- What happens to the map. -/
inductive RegistryEvent
  | inserted (name : String) (r : Nat)
  | removed (name : String) (r : Nat)
  /-- The last access of call `i`, which finds room `r`. -/
  | accessed (i : Nat) (name : String) (r : Nat)
  deriving DecidableEq

/-- The event, as one of the tenure of a name. -/
def RegistryEvent.tenure : RegistryEvent → Tenure String Nat
  | .inserted name r => .enter name r
  | .removed name r => .leave name r
  | .accessed _ name r => .found name r

/-- What a callback has done: whose it was, and which room it has taken out of the map. -/
structure Removal where
  closing : Nat
  removed : Option Nat

/-- **The rooms of a server with the calls in flight.** -/
structure RoomRegistry where
  /-- The map of names to room objects. -/
  rooms : AList fun _ : String => Nat
  /-- The room objects there have been. -/
  objects : List RoomObject
  /-- The gauge `room_total`. -/
  roomTotal : Int
  calls : List RegistryCall
  log : List RegistryEvent
  removals : List Removal

/-- The start of a call, or a step of one. -/
inductive RegistryAction
  | getOrCreate (name : String)
  | close (r : Nat)
  | next (i : Nat)

namespace RoomRegistry

/-- No room yet. -/
def init : RoomRegistry := ⟨∅, [], 0, [], [], []⟩

variable (s : RoomRegistry)

/-- A call begins. -/
def push (c : RegistryCall) : RoomRegistry := { s with calls := s.calls ++ [c] }

/-- Call `i` goes on to `c`. -/
def setCall (i : Nat) (c : RegistryCall) : RoomRegistry :=
  { s with calls := s.calls.set i c }

/-- Room object `r` changes. -/
def setObject (r : Nat) (x : RoomObject) : RoomRegistry :=
  { s with objects := s.objects.set r x }

/-- `Room::new` and `set_on_close`. -/
def addObject (name : String) : RoomRegistry :=
  { s with objects := s.objects ++ [⟨name, false, true, .made⟩] }

/-- Events are recorded. -/
def emit (events : List RegistryEvent) : RoomRegistry :=
  { s with log := s.log ++ events }

/-- A room is put into the map. -/
def insertRoom (name : String) (r : Nat) : RoomRegistry :=
  { s with rooms := s.rooms.insert name r }

/-- The gauge changes. -/
def addTotal (d : Int) : RoomRegistry := { s with roomTotal := s.roomTotal + d }

/-- `remove_room`, up to the gauge, for the callback of room `r`. -/
def removeRoom (r : Nat) (name : String) : RoomRegistry :=
  { s with
    -- by its name, whoever has it
    rooms := s.rooms.erase name
    log := s.log ++ ((s.rooms.lookup name).map (RegistryEvent.removed name)).toList
    removals := s.removals ++ [⟨r, s.rooms.lookup name⟩] }

/-- The next step of a `get_or_create_room`. -/
def getStep (i : Nat) (name : String) : GetPc → Option RoomRegistry
  | .lookup =>
    match s.rooms.lookup name with
    | some r => some ((s.emit [.accessed i name r]).setCall i (.getOrCreate name (.returned r)))
    | none => some (s.setCall i (.getOrCreate name .make))
  | .make =>
    some ((s.addObject name).setCall i (.getOrCreate name (.entry s.objects.length)))
  | .entry r =>
    match s.rooms.lookup name with
    | some r' =>
      some ((s.emit [.accessed i name r']).setCall i (.getOrCreate name (.returned r')))
    | none =>
      s.objects[r]?.map fun x =>
        (((s.insertRoom name r).setObject r { x with life := .listed }).emit
          [.inserted name r, .accessed i name r]).setCall i (.getOrCreate name (.count r))
  | .count r => some ((s.addTotal 1).setCall i (.getOrCreate name (.returned r)))
  | .returned _ => none

/-- The next step of a `Room::close`. -/
def shutStep (i r : Nat) (x : RoomObject) : ShutPc → Option RoomRegistry
  | .swap =>
    if x.closed then some (s.setCall i (.close r .returned))
    else some ((s.setObject r { x with closed := true, life := .flagged }).setCall i
      (.close r .callback))
  | .callback =>
    if x.onClose then
      some ((s.setObject r { x with onClose := false, life := .taken }).setCall i
        (.close r .remove))
    else some (s.setCall i (.close r .done))
  | .remove =>
    some (((s.removeRoom r x.name).setObject r { x with life := .removed }).setCall i
      (.close r .dec))
  | .dec => some ((s.addTotal (-1)).setCall i (.close r .done))
  | .returned | .done => none

/-- **One step.** -/
def step : RegistryAction → Option RoomRegistry
  | .getOrCreate name => some (s.push (.getOrCreate name .lookup))
  | .close r =>
    -- a room that somebody has found in the map, or has put there
    s.objects[r]?.bind fun x =>
      if .inserted x.name r ∈ s.log then some (s.push (.close r .swap)) else none
  | .next i =>
    s.calls[i]?.bind fun
      | .getOrCreate name pc => s.getStep i name pc
      | .close r pc => s.objects[r]?.bind fun x => s.shutStep i r x pc

/-- `num_rooms`. -/
def numRooms : Nat := s.rooms.entries.length

/-- **The registry is consistent.** -/
structure Consistent (s : RoomRegistry) : Prop where
  /-- A name has at most one room. -/
  unique : ∀ name r r', ⟨name, r⟩ ∈ s.rooms.entries → ⟨name, r'⟩ ∈ s.rooms.entries → r = r'
  /-- A call whose last access is between a room's insertion and its removal returns that room. -/
  shared : ∀ i name r r' a b c,
    s.log = a ++ .inserted name r :: b ++ .accessed i name r' :: c → .removed name r ∉ b →
      ∃ pc, s.calls[i]? = some (.getOrCreate name pc) ∧ pc.result = some r
  /-- Every call that returns has had such an access. -/
  accessed : ∀ (i : Nat) name pc r, s.calls[i]? = some (.getOrCreate name pc) →
    pc.result = some r → .accessed i name r ∈ s.log
  /-- A callback takes its own room out of the map. -/
  own : ∀ x ∈ s.removals, x.removed = some x.closing
  /-- No room has two. -/
  once : (s.removals.map Removal.closing).Nodup
  /-- A room that has been closed has had one. -/
  done : ∀ r, .close r .done ∈ s.calls → r ∈ s.removals.map Removal.closing
  /-- When no call is in flight, the gauge is the number of rooms. -/
  gauge : (∀ c ∈ s.calls, c.quiet) → s.roomTotal = s.numRooms

variable {s s' : RoomRegistry} {i r : Nat} {name : String} {x x' : RoomObject}
  {objects : List RoomObject} {c : RegistryCall}

/-! ## The map and the rooms in it -/

/-- **The map has the rooms that are in it by their life**, under their names. -/
structure Placed (rooms : AList fun _ : String => Nat) (objects : List RoomObject) : Prop where
  flags : ∀ (r : Nat) x, objects[r]? = some x →
    x.closed = x.life.closed ∧ x.onClose = x.life.hasCallback
  map : ∀ name r, rooms.lookup name = some r ↔
    ∃ x, objects[r]? = some x ∧ x.name = name ∧ x.life.inMap

namespace Placed

variable {rooms : AList fun _ : String => Nat}

section

variable (h : Placed rooms objects)
include h

theorem indexes : Indexes RoomObject.name (fun x => x.life.inMap) objects rooms.lookup :=
  h.map

theorem made : Placed rooms (objects ++ [⟨name, false, true, .made⟩]) where
  flags := forall_concat h.flags ⟨rfl, rfl⟩
  map := h.indexes.concat rfl

section

variable (hx : objects[r]? = some x)
include hx

theorem flags_set (hflags : x'.closed = x'.life.closed ∧ x'.onClose = x'.life.hasCallback) :
    ∀ (r' : Nat) y, (objects.set r x')[r']? = some y →
      y.closed = y.life.closed ∧ y.onClose = y.life.hasCallback :=
  forall_set hx (fun r' y _ hy => h.flags r' y hy) hflags

/-- **A room goes on in its life** and stays in the map. -/
theorem lives (hflags : x'.closed = x'.life.closed ∧ x'.onClose = x'.life.hasCallback)
    (hname : x'.name = x.name) (hin : x'.life.inMap = x.life.inMap) :
    Placed rooms (objects.set r x') where
  flags := h.flags_set hx hflags
  map := h.indexes.set_of_eq hx hname hin

/-- **A room is put into the map**, under a name that is free. -/
theorem inserted (hname : x.name = name)
    (hlife : x.life = .made) (hfree : rooms.lookup name = none) :
    Placed (rooms.insert name r) (objects.set r { x with life := .listed }) where
  flags := by
    refine h.flags_set hx ?_
    have hold := h.flags r x hx
    rw [hlife] at hold
    exact hold
  map := by
    subst hname
    exact h.indexes.set hx rfl (by simp [hfree]) (AList.lookup_insert rooms)
      fun name' hn => AList.lookup_insert_ne hn

/-- **A room is taken out of the map.** -/
theorem removed (hlife : x.life = .taken) :
    Placed (rooms.erase x.name) (objects.set r { x with life := .removed }) where
  flags := by
    refine h.flags_set hx ?_
    have hold := h.flags r x hx
    rw [hlife] at hold
    exact hold
  map := by
    have hheld : rooms.lookup x.name = some r :=
      (h.map x.name r).mpr ⟨x, hx, rfl, by rw [hlife]; rfl⟩
    exact h.indexes.set hx rfl (fun j hj => some.inj (hj.symm.trans hheld))
      (AList.lookup_erase ..) fun name' hn => AList.lookup_erase_ne hn

end

end

end Placed

/-! ## The calls and their rooms -/

/-- **What a call relies on** about its room. -/
def Fits (objects : List RoomObject) : RegistryCall → Prop
  | .getOrCreate name pc => ∀ r, pc.holds = some r →
      ∃ x, objects[r]? = some x ∧ x.name = name ∧ x.life = .made
  | .close r pc => ∃ x, objects[r]? = some x ∧ x.life ≠ .made ∧
      ∀ life, pc.life = some life → x.life = life

theorem fits_of_holds {pc : GetPc} (h : pc.holds = none) : Fits objects (.getOrCreate name pc) := by
  simp [Fits, h]

theorem fits_of_idle {pc : ShutPc} (hx : objects[r]? = some x) (hmade : x.life ≠ .made)
    (hpc : pc.life = none) :
    Fits objects (.close r pc) := ⟨x, hx, hmade, by simp [hpc]⟩

theorem Fits.setObject (h : Fits objects c) (hx : objects[r]? = some x) (hlife : x'.life ≠ .made)
    (howns : c.owns ≠ some r) : Fits (objects.set r x') c := by
  cases c with
  | getOrCreate name pc =>
    intro r' hr'
    refine (exists_getElem?_set hx).mpr ?_
    rw [if_neg fun hr : r' = r => howns (hr ▸ hr')]
    exact h r' hr'
  | close r' pc =>
    refine (exists_getElem?_set hx).mpr ?_
    split
    · next hr =>
      refine ⟨hlife, fun life hsome => absurd ?_ howns⟩
      rw [RegistryCall.owns, hsome, hr]
      rfl
    · exact h

theorem Fits.addObject (h : Fits objects c) (x : RoomObject) : Fits (objects ++ [x]) c := by
  cases c with
  | getOrCreate name pc => exact fun r hr => exists_getElem?_concat.mpr (.inl (h r hr))
  | close r pc => exact exists_getElem?_concat.mpr (.inl h)

/-- **Every call has what it relies on**, and no two have one room. -/
structure Held (objects : List RoomObject) (calls : List RegistryCall) : Prop where
  fits : ∀ c ∈ calls, Fits objects c
  owns : Distinct RegistryCall.owns calls

namespace Held

variable {calls : List RegistryCall} {c' : RegistryCall}

section

variable (h : Held objects calls)
include h

theorem owns_ne (hi : calls[i]? = some c) (howns : c.owns = some r) :
    ∀ (j : Nat) y, j ≠ i → calls[j]? = some y → y.owns ≠ some r :=
  fun j y hji hj hy => hji (h.owns j i y c r hj hi hy howns)

theorem life_of_close {pc : ShutPc} (hi : calls[i]? = some (.close r pc))
    (hx : objects[r]? = some x) :
    x.life ≠ .made ∧ ∀ life, pc.life = some life → x.life = life := by
  obtain ⟨x₀, hx₀, hlife⟩ := h.fits _ (mem_of_getElem? hi)
  obtain rfl : x = x₀ := some.inj (hx.symm.trans hx₀)
  exact hlife

theorem owns_ne_of_listed (hx : objects[r]? = some x)
    (hlisted : x.life = .listed) : ∀ y ∈ calls, y.owns ≠ some r := by
  intro y hy howns
  cases y with
  | getOrCreate name pc =>
    obtain ⟨x₀, hx₀, -, hmade⟩ := h.fits _ hy r howns
    obtain rfl : x = x₀ := some.inj (hx.symm.trans hx₀)
    simp [hlisted] at hmade
  | close r' pc =>
    obtain ⟨hsome, ⟨⟩⟩ := ite_none_right_eq_some.mp howns
    obtain ⟨j, hj⟩ := mem_iff_getElem?.mp hy
    obtain ⟨-, hlife⟩ := h.life_of_close hj hx
    cases pc with
    | swap | returned => cases hsome
    | _ => simp [hlife _ rfl] at hlisted

theorem push (hfits : Fits objects c) (howns : c.owns = none) : Held objects (calls ++ [c]) where
  fits := forall_mem_concat h.fits hfits
  owns := h.owns.concat (by simp [howns])

theorem setCall (hi : calls[i]? = some c) (hfits : Fits objects c')
    (howns : ∀ k, c'.owns = some k → c.owns = some k) : Held objects (calls.set i c') where
  fits := forall_mem_set h.fits hfits
  owns := h.owns.set_of_le hi howns

/-- **A room goes on in its life** with the call that owns it. -/
theorem setObject (hi : calls[i]? = some c) (hx : objects[r]? = some x)
    (hlife : x'.life ≠ .made) (hfits : Fits (objects.set r x') c')
    (hothers : ∀ (j : Nat) y, j ≠ i → calls[j]? = some y → y.owns ≠ some r)
    (howns : ∀ k, c'.owns = some k → k = r) : Held (objects.set r x') (calls.set i c') where
  fits := fun y hy => by
    obtain ⟨j, hj⟩ := mem_iff_getElem?.mp hy
    rcases (getElem?_set_eq_some hi).mp hj with ⟨-, rfl⟩ | ⟨hji, hj⟩
    · exact hfits
    · exact (h.fits y (mem_of_getElem? hj)).setObject hx hlife (hothers j y hji hj)
  owns := h.owns.set hi fun k hk j y hji hj => by
    rw [howns k hk]
    exact hothers j y hji hj

end

end Held

/-! ## The record -/

/-- The call returns, or is about to return, room `r` for a name. -/
def Answers (c : RegistryCall) (name : String) (r : Nat) : Prop :=
  ∃ pc, c = .getOrCreate name pc ∧ pc.result = some r

@[simp]
theorem answers_close {pc : ShutPc} {r' : Nat} : ¬ Answers (.close r pc) name r' := nofun

@[simp]
theorem answers_get {pc : GetPc} {name' : String} :
    Answers (.getOrCreate name pc) name' r ↔ name' = name ∧ pc.result = some r := by
  simp [Answers, eq_comm, and_assoc]

/-- **The record says who has had which name**, and what the calls have found. -/
structure Told (rooms : AList fun _ : String => Nat) (calls : List RegistryCall)
    (log : List RegistryEvent) : Prop where
  orderly : Orderly (log.map RegistryEvent.tenure)
  holders : ∀ name, Transition.holders (log.map RegistryEvent.tenure) name = rooms.lookup name
  accessed : ∀ i name r, .accessed i name r ∈ log ↔
    ∃ c, calls[i]? = some c ∧ Answers c name r

namespace Told

variable {rooms : AList fun _ : String => Nat} {calls : List RegistryCall}
  {log : List RegistryEvent} {c' : RegistryCall}

theorem push (h : Told rooms calls log) (hc : ∀ name r, ¬ Answers c name r) :
    Told rooms (calls ++ [c]) log where
  __ := h
  accessed := fun j name r => by
    rw [h.accessed, exists_getElem?_concat]
    simp [hc]

theorem setCall (h : Told rooms calls log) (hi : calls[i]? = some c)
    (hc : ∀ name r, Answers c' name r ↔ Answers c name r) : Told rooms (calls.set i c') log where
  __ := h
  accessed := fun j name r => by
    rw [h.accessed, exists_getElem?_set hi]
    split
    · next hj => simp [hj, hi, hc]
    · rfl

theorem emit {rooms' : AList fun _ : String => Nat} {calls' : List RegistryCall}
    {e : RegistryEvent} (h : Told rooms calls log)
    (hfits : e.tenure.Fits rooms.lookup)
    (hholders : ∀ name, e.tenure.apply (rooms.lookup) name = rooms'.lookup name)
    (haccessed : ∀ j name r, .accessed j name r ∈ log ++ [e] ↔
      ∃ y, calls'[j]? = some y ∧ Answers y name r) : Told rooms' calls' (log ++ [e]) := by
  have hfun : Transition.holders (log.map RegistryEvent.tenure) = rooms.lookup :=
    funext h.holders
  refine ⟨?_, ?_, haccessed⟩
  · rw [map_append]
    exact h.orderly.concat (hfun ▸ hfits)
  · intro name
    rw [map_append, map_singleton, holders_concat, hfun]
    exact hholders name

section

variable (h : Told rooms calls log)
include h

/-- **The last access of a call** finds who has the name. -/
theorem hit (hi : calls[i]? = some c)
    (hnone : ∀ name r, ¬ Answers c name r) (hr : rooms.lookup name = some r)
    (hc : ∀ name' r', Answers c' name' r' ↔ name' = name ∧ r' = r) :
    Told rooms (calls.set i c') (log ++ [.accessed i name r]) := by
  refine h.emit hr (fun _ => rfl) fun j name' r' => ?_
  rw [mem_append, h.accessed, exists_getElem?_set hi]
  split
  · -- it had answered nothing before
    next hj => simp [hj, hi, hnone, hc]
  · next hj => simp [hj]

/-- **A room is put into the map.** -/
theorem inserted (hfree : rooms.lookup name = none) :
    Told (rooms.insert name r) calls (log ++ [.inserted name r]) := by
  refine h.emit hfree (fun name' => ?_) fun j name' r' => ?_
  · rw [RegistryEvent.tenure, Tenure.apply_enter, lookup_insert_eq]
  · simp [← h.accessed]

/-- **A room is taken out of the map.** -/
theorem removed (hheld : rooms.lookup name = some r) :
    Told (rooms.erase name) calls (log ++ [.removed name r]) := by
  refine h.emit hheld (fun name' => ?_) fun j name' r' => ?_
  · rw [RegistryEvent.tenure, Tenure.apply_leave, lookup_erase_eq]
  · simp [← h.accessed]

/-- **Calls between an insertion and the removal** find that room. -/
theorem shared {r' : Nat} {a b d : List RegistryEvent}
    (hlog : log = a ++ .inserted name r :: b ++ .accessed i name r' :: d)
    (hstay : .removed name r ∉ b) : ∃ y, calls[i]? = some y ∧ Answers y name r := by
  have hmap : log.map RegistryEvent.tenure =
      a.map RegistryEvent.tenure ++ .enter name r :: b.map RegistryEvent.tenure ++
        .found name r' :: d.map RegistryEvent.tenure := by
    rw [hlog]
    simp [RegistryEvent.tenure]
  have hleave : .leave name r ∉ b.map RegistryEvent.tenure := by
    intro hmem
    obtain ⟨e, he, heq⟩ := mem_map.mp hmem
    cases e with
    | inserted | accessed => cases heq
    | removed name' r'' =>
      cases heq
      exact hstay he
  have horderly : Orderly _ := hmap ▸ h.orderly
  obtain rfl : r' = r := some.inj
    ((horderly _ _ _ rfl).symm.trans (holder_of_enter horderly.of_append hleave))
  refine (h.accessed i name r').mp ?_
  rw [hlog]
  simp

end

end Told

/-! ## The invariant -/

/-- **What the callbacks have done.** -/
structure Cleared (objects : List RoomObject) (removals : List Removal) : Prop where
  own : ∀ x ∈ removals, x.removed = some x.closing
  once : (removals.map Removal.closing).Nodup
  life : ∀ r, r ∈ removals.map Removal.closing ↔ ∃ x, objects[r]? = some x ∧ x.life = .removed

namespace Cleared

variable {removals : List Removal}

section

variable (h : Cleared objects removals)
include h

theorem lives (hx : objects[r]? = some x) (hold : x.life ≠ .removed) (hnew : x'.life ≠ .removed) :
    Cleared (objects.set r x') removals where
  __ := h
  life := fun r' => by
    rw [h.life, exists_getElem?_set hx]
    split
    · next hr => simp [hr, hx, hold, hnew]
    · rfl

theorem made (hnew : x.life ≠ .removed) : Cleared (objects ++ [x]) removals where
  __ := h
  life := fun r' => by
    rw [h.life, exists_getElem?_concat]
    simp [hnew]

/-- **A callback removes its own room.** -/
theorem removed (hx : objects[r]? = some x) (hold : x.life ≠ .removed) (hnew : x'.life = .removed) :
    Cleared (objects.set r x') (removals ++ [⟨r, some r⟩]) where
  own := forall_mem_concat h.own rfl
  once := by
    rw [map_append, map_singleton]
    refine nodup_append'.mpr ⟨h.once, nodup_singleton _, ?_⟩
    rw [disjoint_singleton, h.life, hx]
    simpa using hold
  life := fun r' => by
    rw [map_append, map_singleton, mem_append, h.life, mem_singleton,
      exists_getElem?_set hx]
    split
    · next hr => simp [hr, hnew]
    · next hr => simp [hr]

end

end Cleared

/-- **The invariant.** -/
structure Sound (s : RoomRegistry) : Prop where
  placed : Placed s.rooms s.objects
  held : Held s.objects s.calls
  told : Told s.rooms s.calls s.log
  cleared : Cleared s.objects s.removals
  /-- A room that has been put into the map is known. -/
  listed : ∀ name r, .inserted name r ∈ s.log → ∃ x, s.objects[r]? = some x ∧ x.life ≠ .made
  /-- The gauge, with what the calls still have to count. -/
  gauge : s.roomTotal + ((s.calls.map RegistryCall.uncounted).sum : Nat) =
    (s.numRooms : Int) + ((s.calls.map RegistryCall.undiscounted).sum : Nat)

theorem sound_init : Sound init where
  placed := ⟨fun r x hx => by simp [init] at hx, fun name r => by simp [init]⟩
  held := ⟨fun c hc => by simp [init] at hc, distinct_nil _⟩
  told := ⟨orderly_nil, fun name => rfl, fun i name r => by simp [init]⟩
  cleared := ⟨fun x hx => by simp [init] at hx, nodup_nil, fun r => by simp [init]⟩
  listed := fun name r h => by simp [init] at h
  gauge := rfl

section Gauge

variable {calls : List RegistryCall} {c' : RegistryCall} {total total' : Int} {n n' : Nat}

theorem gauge_set (h : total + ((calls.map RegistryCall.uncounted).sum : Nat) =
      (n : Int) + ((calls.map RegistryCall.undiscounted).sum : Nat))
    (hi : calls[i]? = some c)
    (hc : total' + c'.uncounted + n + c.undiscounted =
      total + c.uncounted + n' + c'.undiscounted) :
    total' + (((calls.set i c').map RegistryCall.uncounted).sum : Nat) =
      (n' : Int) + (((calls.set i c').map RegistryCall.undiscounted).sum : Nat) := by
  have hup := sum_map_set (y := c') (f := RegistryCall.uncounted) hi
  have hdown := sum_map_set (y := c') (f := RegistryCall.undiscounted) hi
  omega

end Gauge

section

variable (hs : Sound s)
include hs

/-- **A call goes on without a room**: neither the map nor a room changes, and nothing is
recorded. -/
theorem Sound.advance {c' : RegistryCall} {total : Int} (hi : s.calls[i]? = some c)
    (hfits : Fits s.objects c') (howns : ∀ k, c'.owns = some k → c.owns = some k)
    (hans : ∀ name r, Answers c' name r ↔ Answers c name r)
    (htotal : total + c'.uncounted + c.undiscounted = s.roomTotal + c.uncounted + c'.undiscounted) :
    Sound { s with calls := s.calls.set i c', roomTotal := total } where
  __ := hs
  held := hs.held.setCall hi hfits howns
  told := hs.told.setCall hi hans
  gauge := gauge_set hs.gauge hi (by
    show total + _ + (s.numRooms : Int) + _ = _ + _ + s.numRooms + _
    omega)

theorem listed_set (hx : s.objects[r]? = some x) (hlife : x'.life ≠ .made) :
    ∀ name r', .inserted name r' ∈ s.log →
      ∃ y, (s.objects.set r x')[r']? = some y ∧ y.life ≠ .made := by
  intro name r' hmem
  rw [exists_getElem?_set hx]
  split
  · exact hlife
  · exact hs.listed name r' hmem

/-- **A close goes on in the life of its room**, which stays in the map. -/
theorem Sound.lives {pc pc' : ShutPc} (hi : s.calls[i]? = some (.close r pc))
    (hx : s.objects[r]? = some x)
    (hflags : x'.closed = x'.life.closed ∧ x'.onClose = x'.life.hasCallback)
    (hname : x'.name = x.name) (hin : x.life.inMap) (hin' : x'.life.inMap)
    (hpc : ∀ life, pc'.life = some life → x'.life = life)
    (hothers : ∀ (j : Nat) y, j ≠ i → s.calls[j]? = some y → y.owns ≠ some r)
    (hcount : pc ≠ .dec ∧ pc' ≠ .dec) :
    Sound ((s.setObject r x').setCall i (.close r pc')) := by
  have hmade : ∀ y : RoomObject, y.life.inMap → y.life ≠ .made ∧ y.life ≠ .removed :=
    fun y hy => by
      constructor
      all_goals
        intro h
        simp [h, RoomLife.inMap] at hy
  have hzero : ∀ q : ShutPc, q ≠ .dec → (RegistryCall.close r q).undiscounted = 0 := by
    intro q hq
    cases q with
    | dec => exact absurd rfl hq
    | _ => rfl
  refine ⟨hs.placed.lives hx hflags hname (hin'.trans hin.symm), ?_, ?_, ?_, ?_, ?_⟩
  · refine hs.held.setObject hi hx (hmade x' hin').1 ?_ hothers fun k hk => ?_
    · exact ⟨x', getElem?_set_stepped hx, (hmade x' hin').1, hpc⟩
    · rw [RegistryCall.owns] at hk
      exact (some.inj (ite_none_right_eq_some.mp hk).2).symm
  · exact hs.told.setCall hi fun name r' => by simp [answers_close]
  · exact hs.cleared.lives hx (hmade x hin).2 (hmade x' hin').2
  · exact listed_set hs hx (hmade x' hin').1
  · refine gauge_set hs.gauge hi ?_
    rw [hzero pc hcount.1, hzero pc' hcount.2]
    simp [RegistryCall.uncounted, numRooms, setCall, setObject]

/-- **A room is made.** -/
theorem Sound.made (hi : s.calls[i]? = some (.getOrCreate name .make)) :
    Sound ((s.addObject name).setCall i (.getOrCreate name (.entry s.objects.length))) := by
  have hnew : (s.objects ++ [⟨name, false, true, .made⟩])[s.objects.length]? =
      some ⟨name, false, true, .made⟩ := getElem?_concat_eq_some.mpr (.inr ⟨rfl, rfl⟩)
  refine ⟨hs.placed.made, ⟨?_, ?_⟩, ?_, hs.cleared.made RoomLife.noConfusion, ?_, ?_⟩
  · refine forall_mem_set (fun c hc => (hs.held.fits c hc).addObject _) fun r hr => ?_
    cases hr
    exact ⟨_, hnew, rfl, rfl⟩
  · -- no other call can have a room that was not there
    refine hs.held.owns.set hi fun k hk j y _ hj hy => ?_
    cases hk
    have hfits := hs.held.fits y (mem_of_getElem? hj)
    cases y with
    | getOrCreate name' pc =>
      obtain ⟨x, hx, -⟩ := hfits _ hy
      simp at hx
    | close r pc =>
      obtain ⟨x, hx, -⟩ := hfits
      cases (ite_none_right_eq_some.mp hy).2
      simp at hx
  · exact hs.told.setCall hi (by simp [GetPc.result])
  · exact fun name' r hmem => exists_getElem?_concat.mpr (.inl (hs.listed name' r hmem))
  · exact gauge_set hs.gauge hi rfl

/-- **A call finds the room that has the name.** -/
theorem Sound.hit {pc : GetPc} (hi : s.calls[i]? = some (.getOrCreate name pc))
    (hpc : pc.result = none) (hr : s.rooms.lookup name = some r) :
    Sound ((s.emit [.accessed i name r]).setCall i (.getOrCreate name (.returned r))) := by
  refine ⟨hs.placed, hs.held.setCall hi (fits_of_holds rfl) nofun, ?_,
    hs.cleared, ?_, ?_⟩
  · exact hs.told.hit hi (by simp [hpc]) hr (by simp [GetPc.result, eq_comm])
  · intro name' r' hmem
    refine hs.listed name' r' ?_
    simpa [emit, setCall] using hmem
  · refine gauge_set hs.gauge hi ?_
    cases pc with
    | count r => cases hpc
    | _ => rfl

/-- **A call puts its room into the map.** -/
theorem Sound.inserts (hi : s.calls[i]? = some (.getOrCreate name (.entry r)))
    (hx : s.objects[r]? = some x) (hfree : s.rooms.lookup name = none) :
    Sound ((((s.insertRoom name r).setObject r { x with life := .listed }).emit
      [.inserted name r, .accessed i name r]).setCall i (.getOrCreate name (.count r))) := by
  -- the room is the one this call has made
  obtain ⟨x₀, hx₀, hname, hmade⟩ := hs.held.fits _ (mem_of_getElem? hi) r rfl
  obtain rfl : x = x₀ := some.inj (hx.symm.trans hx₀)
  have hlisted : ({ x with life := .listed } : RoomObject).life ≠ .made := RoomLife.noConfusion
  have hlog : s.log ++ [.inserted name r, .accessed i name r] =
      (s.log ++ [.inserted name r]) ++ [.accessed i name r] := by simp
  refine ⟨hs.placed.inserted hx hname hmade hfree, ?_, ?_, ?_, ?_, ?_⟩
  · exact hs.held.setObject hi hx hlisted (fits_of_holds rfl) (hs.held.owns_ne hi rfl)
      nofun
  · show Told (s.rooms.insert name r) (s.calls.set i _)
      (s.log ++ [.inserted name r, .accessed i name r])
    rw [hlog]
    exact (hs.told.inserted hfree).hit hi (by simp [GetPc.result]) (AList.lookup_insert _)
      (by simp [GetPc.result, eq_comm])
  · exact hs.cleared.lives hx (by rw [hmade]; decide) RoomLife.noConfusion
  · intro name' r' hmem
    rcases mem_append.mp hmem with hold | hnew
    · exact listed_set hs hx hlisted name' r' hold
    · obtain ⟨rfl, rfl⟩ : name' = name ∧ r' = r := by simpa using hnew
      exact ⟨_, getElem?_set_stepped hx, hlisted⟩
  · refine gauge_set hs.gauge hi ?_
    show s.roomTotal + 1 + (s.numRooms : Int) + 0 =
      s.roomTotal + 0 + ((s.rooms.insert name r).entries.length : Int) + 0
    rw [AList.entries_insert_of_notMem (AList.lookup_eq_none.mp hfree), length_cons, numRooms]
    omega

/-- **A close sets the flag** of its room, which is in the map. -/
theorem Sound.flags (hi : s.calls[i]? = some (.close r .swap))
    (hx : s.objects[r]? = some x) (hopen : x.closed = false) :
    Sound ((s.setObject r { x with closed := true, life := .flagged }).setCall i
      (.close r .callback)) := by
  obtain ⟨hclosed, hcallback⟩ := hs.placed.flags r x hx
  have hlisted : x.life = .listed := by
    rw [hopen] at hclosed
    cases hlife : x.life with
    | listed => rfl
    | made => exact absurd hlife (hs.held.life_of_close hi hx).1
    | _ => simp [hlife, RoomLife.closed] at hclosed
  refine hs.lives hi hx ⟨rfl, ?_⟩ rfl (by rw [hlisted]; rfl) rfl
    (fun life h => some.inj h)
    (fun j y _ hj => hs.held.owns_ne_of_listed hx hlisted y (mem_of_getElem? hj))
    ⟨by decide, by decide⟩
  rw [hcallback, hlisted]
  rfl

/-- **A close takes the callback** of its room. -/
theorem Sound.takes (hi : s.calls[i]? = some (.close r .callback)) (hx : s.objects[r]? = some x) :
    Sound ((s.setObject r { x with onClose := false, life := .taken }).setCall i
      (.close r .remove)) := by
  have hflagged : x.life = .flagged := (hs.held.life_of_close hi hx).2 _ rfl
  obtain ⟨hclosed, -⟩ := hs.placed.flags r x hx
  rw [hflagged] at hclosed
  exact hs.lives hi hx ⟨hclosed, rfl⟩ rfl (by rw [hflagged]; rfl) rfl
    (fun life h => some.inj h) (hs.held.owns_ne hi rfl) ⟨by decide, by decide⟩

/-- **A callback takes its room out of the map.** -/
theorem Sound.removes (hi : s.calls[i]? = some (.close r .remove)) (hx : s.objects[r]? = some x) :
    Sound (((s.removeRoom r x.name).setObject r { x with life := .removed }).setCall i
      (.close r .dec)) := by
  have htaken : x.life = .taken := (hs.held.life_of_close hi hx).2 _ rfl
  -- its room has the name, and nobody else
  have hheld : s.rooms.lookup x.name = some r :=
    (hs.placed.map x.name r).mpr ⟨x, hx, rfl, by rw [htaken]; rfl⟩
  have hstate : s.removeRoom r x.name = { s with
      rooms := s.rooms.erase x.name
      log := s.log ++ [.removed x.name r]
      removals := s.removals ++ [⟨r, some r⟩] } := by
    rw [removeRoom, hheld]
    rfl
  have hremoved : ({ x with life := .removed } : RoomObject).life ≠ .made := RoomLife.noConfusion
  rw [hstate]
  refine ⟨hs.placed.removed hx htaken, ?_, ?_, ?_, ?_, ?_⟩
  · refine hs.held.setObject hi hx hremoved ?_ (hs.held.owns_ne hi rfl) fun k hk => ?_
    · exact ⟨_, getElem?_set_stepped hx, hremoved, fun life h => some.inj h⟩
    · exact (some.inj hk).symm
  · exact (hs.told.removed hheld).setCall hi (by simp)
  · exact hs.cleared.removed hx (by rw [htaken]; decide) rfl
  · intro name' r' hmem
    refine listed_set hs hx hremoved name' r' ?_
    simpa [setObject, setCall] using hmem
  · refine gauge_set hs.gauge hi ?_
    have hmem : x.name ∈ s.rooms := AList.lookup_isSome.mp (by rw [hheld]; rfl)
    obtain ⟨r', l₁, l₂, -, hl, hl'⟩ := exists_of_kerase (AList.mem_keys.mp hmem)
    have hlen : (s.rooms.erase x.name).entries.length + 1 = s.rooms.entries.length := by
      rw [show (s.rooms.erase x.name).entries = l₁ ++ l₂ from hl', hl]
      simp
      omega
    show s.roomTotal + 0 + (s.rooms.entries.length : Int) + 0 =
      s.roomTotal + 0 + ((s.rooms.erase x.name).entries.length : Int) + 1
    omega

/-- **A step of `get_or_create_room`** keeps the invariant. -/
theorem Sound.getStep {pc : GetPc} (hi : s.calls[i]? = some (.getOrCreate name pc))
    (h : s.getStep i name pc = some s') : Sound s' := by
  revert h
  fun_cases RoomRegistry.getStep s i name pc <;> intro h
  case case5 hfree =>
    obtain ⟨x, hx, rfl⟩ := map_eq_some_iff.mp h
    exact hs.inserts hi hx hfree
  all_goals cases h
  case case1 hr | case4 hr => exact hs.hit hi rfl hr
  · exact hs.advance hi (fits_of_holds rfl) nofun (by simp [GetPc.result]) rfl
  · exact hs.made hi
  · exact hs.advance hi (fits_of_holds rfl) nofun (by simp [GetPc.result])
      (by simp [addTotal, RegistryCall.uncounted, RegistryCall.undiscounted])

/-- **A step of a close** keeps the invariant. -/
theorem Sound.shutStep {pc : ShutPc} (hi : s.calls[i]? = some (.close r pc))
    (hx : s.objects[r]? = some x) (h : s.shutStep i r x pc = some s') : Sound s' := by
  obtain ⟨hmade, hlife⟩ := hs.held.life_of_close hi hx
  revert h
  fun_cases RoomRegistry.shutStep s i r x pc <;> rintro ⟨⟩
  · exact hs.advance hi (fits_of_idle hx hmade rfl) nofun (by simp) rfl
  · next hopen => exact hs.flags hi hx (by simpa using hopen)
  · exact hs.takes hi hx
  · next hnone =>
    -- a room whose flag has just been set has its callback
    obtain ⟨-, hcallback⟩ := hs.placed.flags _ _ hx
    rw [hlife _ rfl] at hcallback
    exact absurd hcallback hnone
  · exact hs.removes hi hx
  · refine hs.advance hi ⟨x, hx, hmade, fun life h => ?_⟩ (fun k hk => hk)
      (by simp)
      (by simp [addTotal, RegistryCall.uncounted, RegistryCall.undiscounted])
    rw [hlife _ rfl]
    exact some.inj h

/-- **One step** keeps the invariant. -/
theorem Sound.step {a : RegistryAction} (h : s.step a = some s') : Sound s' := by
  cases a with
  | getOrCreate name =>
    cases h
    refine ⟨hs.placed, hs.held.push (fits_of_holds rfl) rfl, hs.told.push (by simp [GetPc.result]),
      hs.cleared, hs.listed, ?_⟩
    simpa [push, RegistryCall.uncounted, RegistryCall.undiscounted] using! hs.gauge
  | close r =>
    obtain ⟨x, -, h⟩ := bind_eq_some_iff.mp h
    obtain ⟨hin, ⟨⟩⟩ := ite_none_right_eq_some.mp h
    obtain ⟨x, hx, hmade⟩ := hs.listed _ _ hin
    refine ⟨hs.placed, hs.held.push (fits_of_idle hx hmade rfl) rfl, hs.told.push (by simp),
      hs.cleared, hs.listed, ?_⟩
    simpa [push, RegistryCall.uncounted, RegistryCall.undiscounted] using! hs.gauge
  | next i =>
    obtain ⟨c, hi, h⟩ := bind_eq_some_iff.mp h
    cases c with
    | getOrCreate name pc => exact hs.getStep hi h
    | close r pc =>
      obtain ⟨x, hx, h⟩ := bind_eq_some_iff.mp h
      exact hs.shutStep hi hx h

end

theorem sum_eq_zero_of_quiet {calls : List RegistryCall} (h : ∀ c ∈ calls, c.quiet) :
    (calls.map RegistryCall.uncounted).sum = 0 ∧
      (calls.map RegistryCall.undiscounted).sum = 0 := by
  have hzero : ∀ c ∈ calls, c.uncounted = 0 ∧ c.undiscounted = 0 := fun c hc => by
    have hquiet := h c hc
    cases c with
    | getOrCreate name pc =>
      cases pc with
      | count r => cases hquiet
      | _ => exact ⟨rfl, rfl⟩
    | close r pc =>
      cases pc with
      | dec => cases hquiet
      | _ => exact ⟨rfl, rfl⟩
  exact ⟨sum_eq_zero (forall_mem_map.mpr fun c hc => (hzero c hc).1),
    sum_eq_zero (forall_mem_map.mpr fun c hc => (hzero c hc).2)⟩

theorem Sound.consistent (hs : Sound s) : Consistent s where
  __ := hs.cleared
  unique := fun name r r' hr hr' => by
    have h := AList.mem_lookup_iff.mpr hr
    have h' := AList.mem_lookup_iff.mpr hr'
    exact some.inj (h.symm.trans h')
  shared := fun i name r r' a b c hlog hstay => by
    obtain ⟨y, hy, pc, rfl, hr⟩ := hs.told.shared hlog hstay
    exact ⟨pc, hy, hr⟩
  accessed := fun i name pc r hi hr => (hs.told.accessed i name r).mpr ⟨_, hi, pc, rfl, hr⟩
  done := fun r hmem => by
    obtain ⟨x, hx, -, hlife⟩ := hs.held.fits _ hmem
    exact (hs.cleared.life r).mpr ⟨x, hx, hlife _ rfl⟩
  gauge := fun hquiet => by
    obtain ⟨hup, hdown⟩ := sum_eq_zero_of_quiet hquiet
    have hgauge := hs.gauge
    rw [hup, hdown] at hgauge
    simpa using hgauge

/-- **The registry is consistent** in every state that the calls can come to. -/
theorem registry_consistent {acts : List RegistryAction} {s : RoomRegistry}
    (hrun : run step init acts = some s) : Consistent s :=
  (run_invariant (fun _ _ _ hs h => hs.step h) sound_init hrun).consistent

/-- Two calls make a room for one name, the first to insert it wins; the room is closed twice, and a
call that comes after gets another one. -/
theorem registry_consistent_race :
    ∃ s, run step init
        [.getOrCreate "r", .getOrCreate "r", .next 0, .next 1, .next 0, .next 1, .next 1, .next 0,
          .next 1, .close 1, .close 1, .next 2, .next 3, .next 2, .next 2, .next 2,
          .getOrCreate "r", .next 4, .next 4, .next 4, .next 4] = some s ∧
      (∀ c ∈ s.calls, c.quiet) ∧ s.roomTotal = 1 ∧ Consistent s := by
  refine (show ∃ s ∈ run step init _, (∀ c ∈ s.calls, c.quiet) ∧ s.roomTotal = 1 by
    decide +kernel).imp
    fun s ⟨hrun, hquiet, htotal⟩ => ⟨hrun, hquiet, htotal, registry_consistent hrun⟩

end RoomRegistry
end LivekitVoice
