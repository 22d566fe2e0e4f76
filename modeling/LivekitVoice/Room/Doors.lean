import LivekitVoice.Room.Basic
import LivekitVoice.Transition.Pool
import LivekitVoice.Transition.Record

/-! # The doors of a room that closes

What joins, departures and closes of a room should come to when their steps overlap: nobody enters
after the map has been emptied, and a timeout closes the room only while nobody standard is in it
whose join has returned. A call has a role; what a step may do is said in terms of the roles, the
map, the flag and the record of what happened (`Doors.Step`).

* **`Doors.Sound.step`** — what every step keeps. -/

namespace LivekitVoice

open List Transition

/-- Why a room is closed. -/
inductive CloseCause
  /-- `check_room_timeouts`. -/
  | timeout
  /-- `close_room`. -/
  | request
  deriving DecidableEq

/-- What is recorded. -/
inductive ClosingEvent
  /-- `Room::join` has returned true. -/
  | joined (p : Participant)
  /-- `Room::close` has set the flag. -/
  | closing (cause : CloseCause)
  /-- `Room::close` has disconnected a participant. -/
  | disconnected (p : Participant)
  deriving DecidableEq

/-- A participant had joined when a timeout set the flag. -/
def JoinedBeforeTimeout (log : List ClosingEvent) (p : Participant) : Prop :=
  [.joined p, .closing .timeout].Sublist log

/-- A participant had joined when a timeout set the flag, and was disconnected. -/
def DisconnectedByTimeout (log : List ClosingEvent) (p : Participant) : Prop :=
  [.joined p, .closing .timeout, .disconnected p].Sublist log

variable {log : List ClosingEvent} {e : ClosingEvent} {p : Participant}

theorem joinedBeforeTimeout_concat : JoinedBeforeTimeout (log ++ [e]) p ↔
      JoinedBeforeTimeout log p ∨ .closing .timeout = e ∧ .joined p ∈ log := by
  show ([ClosingEvent.joined p] ++ [ClosingEvent.closing .timeout]).Sublist (log ++ [e]) ↔ _
  rw [concat_sublist_concat_iff, singleton_sublist]
  rfl

theorem disconnectedByTimeout_concat : DisconnectedByTimeout (log ++ [e]) p ↔
      DisconnectedByTimeout log p ∨ .disconnected p = e ∧ JoinedBeforeTimeout log p := by
  show ([ClosingEvent.joined p, .closing .timeout] ++ [ClosingEvent.disconnected p]).Sublist
    (log ++ [e]) ↔ _
  rw [concat_sublist_concat_iff]
  rfl

/-- What a call is to the room. -/
inductive ClosingRole
  /-- A join that has not inserted. -/
  | entering (p : Participant)
  /-- A join that has inserted and not returned. -/
  | inserted (p : Participant)
  /-- A join that has returned true. -/
  | joined (p : Participant)
  /-- A close that has set the flag. -/
  | flagged
  /-- A close with the participants it still has to disconnect. -/
  | closing (todo : List Participant)
  /-- A close that has emptied the map. -/
  | emptied
  /-- Any other call. -/
  | idle
  deriving DecidableEq

namespace ClosingRole

/-- The sid a join is for. -/
def sid : ClosingRole → Option ParticipantSid
  | .entering p | .inserted p | .joined p => some p.sid
  | _ => none

/-- It has set the flag. -/
def closes : ClosingRole → Bool
  | .flagged | .closing _ | .emptied => true
  | _ => false

end ClosingRole

/-- **A room with its doors**: who is in it, whether it closes, and what the calls are to it. -/
structure Doors where
  members : ParticipantMap
  closed : Bool
  roles : List ClosingRole
  log : List ClosingEvent

namespace Doors

/-- The participants. -/
def values (d : Doors) : List Participant := d.members.entries.map fun e => e.2

/-- **What may happen.** -/
inductive Step (d : Doors) : Doors → Prop
  | stutter : Step d d
  | begins {role} (hrole : role = .idle ∨ ∃ p, role = .entering p)
      (hfresh : ∀ sid, role.sid = some sid → ∀ r ∈ d.roles, r.sid ≠ some sid) :
      Step d { d with roles := d.roles ++ [role] }
  | refused {i : Nat} {p} (hi : d.roles[i]? = some (.entering p)) :
      Step d { d with roles := d.roles.set i .idle }
  /-- Nobody enters a room that has been emptied. -/
  | inserted {i : Nat} {p} (hi : d.roles[i]? = some (.entering p)) (hopen : .emptied ∉ d.roles) :
      Step d { d with members := d.members.insert p.sid p, roles := d.roles.set i (.inserted p) }
  | joined {i : Nat} {p} (hi : d.roles[i]? = some (.inserted p)) :
      Step d { d with roles := d.roles.set i (.joined p), log := d.log ++ [.joined p] }
  | removed (sid : ParticipantSid) : Step d { d with members := d.members.erase sid }
  /-- A timeout closes a room without a standard participant whose join has returned. -/
  | flagged {i : Nat} {cause} (hi : d.roles[i]? = some .idle) (hopen : d.closed = false)
      (hvacant : cause = .timeout → ∀ p ∈ d.values, p.kind.isDependent = false →
        .joined p ∉ d.log) :
      Step d { d with
        closed := true
        roles := d.roles.set i .flagged
        log := d.log ++ [.closing cause] }
  | took {i : Nat} (hi : d.roles[i]? = some .flagged) :
      Step d { d with roles := d.roles.set i (.closing d.values) }
  | disconnects {i : Nat} {p todo} (hi : d.roles[i]? = some (.closing todo)) (hp : p ∈ todo) :
      Step d { d with
        roles := d.roles.set i (.closing (todo.erase p))
        log := d.log ++ [.disconnected p] }
  | emptied {i : Nat} (hi : d.roles[i]? = some (.closing [])) :
      Step d { d with members := ∅, roles := d.roles.set i .emptied }

/-- **The law.** -/
structure Sound (d : Doors) : Prop where
  sids : Distinct ClosingRole.sid d.roles
  /-- Who has joined is known to its call. -/
  joined : ∀ p, .joined p ∈ d.log → .joined p ∈ d.roles
  closed : ∀ role ∈ d.roles, role.closes → d.closed
  emptied : .emptied ∈ d.roles → d.members = ∅
  /-- Who had joined when a timeout set the flag is gone, and on no list. -/
  gone : ∀ p, p.kind.isDependent = false → JoinedBeforeTimeout d.log p →
    p ∉ d.values ∧ ∀ todo, .closing todo ∈ d.roles → p ∉ todo
  spared : ∀ p, p.kind.isDependent = false → ¬ DisconnectedByTimeout d.log p

variable {d : Doors} {i : Nat} {q : Participant} {role old new : ClosingRole}

theorem mem_values_insert
    (h : q ∈ ({ d with members := d.members.insert p.sid p } : Doors).values) :
    q = p ∨ q ∈ d.values := by
  obtain ⟨e, he, rfl⟩ := mem_map.mp h
  rcases mem_cons.mp he with rfl | he
  · exact .inl rfl
  · exact .inr (mem_map_of_mem ((kerase_sublist p.sid d.members.entries).subset he))

theorem mem_values_erase {sid : ParticipantSid}
    (h : q ∈ ({ d with members := d.members.erase sid } : Doors).values) : q ∈ d.values := by
  obtain ⟨e, he, rfl⟩ := mem_map.mp h
  exact mem_map_of_mem ((kerase_sublist sid d.members.entries).subset he)

theorem Sound.not_joined (hd : Sound d) (hi : d.roles[i]? = some (.entering p)) :
    .joined p ∉ d.log := by
  intro hlog
  obtain ⟨j, hj⟩ := mem_iff_getElem?.mp (hd.joined p hlog)
  obtain rfl : i = j := hd.sids i j _ _ p.sid hi hj rfl rfl
  simp [hi] at hj

theorem mem_roles_set {roles : List ClosingRole} {role' : ClosingRole}
    (h : role ∈ roles.set i role') : role = role' ∨ role ∈ roles := by
  rcases mem_or_eq_of_mem_set h with hold | hnew
  · exact .inr hold
  · exact .inl hnew

namespace Sound

variable (hd : Sound d)
include hd

/-- **A call takes another role**, the map and the flag stay, and what is recorded is not about the
flag or a disconnection. -/
theorem setRole {log : List ClosingEvent} (hi : d.roles[i]? = some old)
    (hsid : ∀ sid, new.sid = some sid → old.sid = some sid)
    (hjoined : ∀ p, .joined p ∈ log → .joined p ∈ d.roles.set i new)
    (hcloses : new.closes → old.closes) (hemptied : new ≠ .emptied)
    (htodo : ∀ todo, new = .closing todo → ∀ p, p.kind.isDependent = false →
      JoinedBeforeTimeout log p → p ∉ todo)
    (hbefore : ∀ p, JoinedBeforeTimeout log p → JoinedBeforeTimeout d.log p)
    (hspared : ∀ p, p.kind.isDependent = false → ¬ DisconnectedByTimeout log p) :
    Sound { d with roles := d.roles.set i new, log := log } where
  sids := hd.sids.set_of_le hi hsid
  joined := hjoined
  closed := fun role hrole hcl => by
    rcases mem_roles_set hrole with rfl | hold
    · exact hd.closed old (mem_of_getElem? hi) (hcloses hcl)
    · exact hd.closed role hold hcl
  emptied := fun hmem => by
    rcases mem_roles_set hmem with heq | hold
    · exact absurd heq.symm hemptied
    · exact hd.emptied hold
  gone := fun p hp hlog => by
    refine ⟨(hd.gone p hp (hbefore p hlog)).1, fun todo hmem => ?_⟩
    rcases mem_roles_set hmem with heq | hold
    · exact htodo todo heq.symm p hp hlog
    · exact (hd.gone p hp (hbefore p hlog)).2 todo hold
  spared := hspared

theorem setRole_silent (hi : d.roles[i]? = some old)
    (hsid : ∀ sid, new.sid = some sid → old.sid = some sid) (hjoined : ∀ p, .joined p ≠ old)
    (hcloses : new.closes → old.closes) (hemptied : new ≠ .emptied)
    (htodo : ∀ todo, new = .closing todo → ∀ p, p.kind.isDependent = false →
      JoinedBeforeTimeout d.log p → p ∉ todo) :
    Sound { d with roles := d.roles.set i new } :=
  hd.setRole hi hsid (fun p hp => mem_set_of_ne hi (hd.joined p hp) (hjoined p)) hcloses hemptied
    htodo (fun _ h => h) hd.spared

/-- **A call begins.** -/
theorem begins (hrole : role = .idle ∨ ∃ p, role = .entering p)
    (hfresh : ∀ sid, role.sid = some sid → ∀ r ∈ d.roles, r.sid ≠ some sid) :
    Sound { d with roles := d.roles ++ [role] } := by
  -- it is no close that has set the flag
  have hcloses : role.closes = false := by
    rcases hrole with rfl | ⟨p, rfl⟩ <;> rfl
  have hold : ∀ r ∈ d.roles ++ [role], r.closes → r ∈ d.roles := fun r hr hcl => by
    rcases mem_append.mp hr with hold | hnew
    · exact hold
    · simp [mem_singleton.mp hnew, hcloses] at hcl
  refine ⟨hd.sids.concat hfresh, fun p hp => mem_append_left _ (hd.joined p hp), ?_, ?_,
    fun p hp hlog => ⟨(hd.gone p hp hlog).1, ?_⟩, hd.spared⟩
  · exact fun r hr hcl => hd.closed r (hold r hr hcl) hcl
  · exact fun hmem => hd.emptied (hold _ hmem rfl)
  · exact fun todo hmem => (hd.gone p hp hlog).2 todo (hold _ hmem rfl)

/-- **A participant is inserted** into a room that has not been emptied. -/
theorem inserted (hi : d.roles[i]? = some (.entering p)) (hopen : .emptied ∉ d.roles) :
    Sound { d with members := d.members.insert p.sid p, roles := d.roles.set i (.inserted p) } := by
  have hset : Sound { d with roles := d.roles.set i (.inserted p) } :=
    hd.setRole_silent hi (fun _ h => h) (by simp) (by simp [ClosingRole.closes]) (by simp) (by simp)
  refine ⟨hset.sids, hset.joined, hset.closed, fun hmem => ?_, fun q hq hlog => ?_, hset.spared⟩
  · rcases mem_roles_set hmem with heq | hold
    · cases heq
    · exact absurd hold hopen
  · refine ⟨fun hmem => ?_, (hset.gone q hq hlog).2⟩
    rcases mem_values_insert hmem with rfl | hold
    · -- its own join has not returned
      exact hd.not_joined hi (hlog.subset mem_cons_self)
    · exact (hd.gone q hq hlog).1 hold

/-- **A join returns.** -/
theorem joins (hi : d.roles[i]? = some (.inserted p)) :
    Sound { d with roles := d.roles.set i (.joined p), log := d.log ++ [.joined p] } := by
  refine hd.setRole hi (fun _ h => h) (fun q hq => ?_) (by simp [ClosingRole.closes]) (by simp)
    (by simp) (fun q hlog => ?_) (fun q hq hlog => ?_)
  · rcases mem_append.mp hq with hold | hnew
    · exact mem_set_of_ne hi (hd.joined q hold) (by simp)
    · cases mem_singleton.mp hnew
      exact mem_set_stepped hi
  · rcases joinedBeforeTimeout_concat.mp hlog with hold | ⟨heq, -⟩
    · exact hold
    · cases heq
  · rcases disconnectedByTimeout_concat.mp hlog with hold | ⟨heq, -⟩
    · exact hd.spared q hq hold
    · cases heq

/-- **The flag is set**, by a timeout only if nobody standard is there who has joined. -/
theorem flags {cause : CloseCause} (hi : d.roles[i]? = some .idle) (hopen : d.closed = false)
    (hvacant : cause = .timeout → ∀ p ∈ d.values, p.kind.isDependent = false → .joined p ∉ d.log) :
    Sound { d with
      closed := true
      roles := d.roles.set i .flagged
      log := d.log ++ [.closing cause] } := by
  -- nobody else is past the flag
  have hnone : ∀ role ∈ d.roles, role.closes = false := fun role hrole => by
    cases hcl : role.closes with
    | false => rfl
    | true => exact absurd (hd.closed role hrole hcl) (by simp [hopen])
  refine ⟨hd.sids.set_of_le hi (by simp [ClosingRole.sid]), fun q hq => ?_, fun _ _ _ => rfl,
    fun hmem => ?_, fun q hq hlog => ⟨?_, fun todo hmem => ?_⟩, fun q hq hlog => ?_⟩
  · rcases mem_append.mp hq with hold | hnew
    · exact mem_set_of_ne hi (hd.joined q hold) (by simp)
    · cases mem_singleton.mp hnew
  · rcases mem_roles_set hmem with heq | hold
    · cases heq
    · cases hnone _ hold
  · rcases joinedBeforeTimeout_concat.mp hlog with hold | ⟨heq, hjoined⟩
    · exact (hd.gone q hq hold).1
    · cases heq
      exact fun hmem => hvacant rfl q hmem hq hjoined
  · rcases mem_roles_set hmem with heq | hold
    · cases heq
    · cases hnone _ hold
  · rcases disconnectedByTimeout_concat.mp hlog with hold | ⟨heq, -⟩
    · exact hd.spared q hq hold
    · cases heq

/-- **A participant is disconnected.** -/
theorem disconnects {todo : List Participant}
    (hi : d.roles[i]? = some (.closing todo)) (hp : p ∈ todo) :
    Sound { d with
      roles := d.roles.set i (.closing (todo.erase p))
      log := d.log ++ [.disconnected p] } := by
  have hmem : .closing todo ∈ d.roles := mem_of_getElem? hi
  have hbefore : ∀ q, JoinedBeforeTimeout (d.log ++ [.disconnected p]) q →
      JoinedBeforeTimeout d.log q := fun q hlog => by
    rcases joinedBeforeTimeout_concat.mp hlog with hold | ⟨heq, -⟩
    · exact hold
    · cases heq
  refine hd.setRole hi (by simp [ClosingRole.sid]) (fun q hq => ?_) (fun _ => rfl) (by simp) ?_
    hbefore (fun q hq hlog => ?_)
  · rcases mem_append.mp hq with hold | hnew
    · exact mem_set_of_ne hi (hd.joined q hold) (by simp)
    · cases mem_singleton.mp hnew
  · rintro todo' ⟨⟩ q hq hlog herase
    exact (hd.gone q hq (hbefore q hlog)).2 todo hmem (mem_of_mem_erase herase)
  · rcases disconnectedByTimeout_concat.mp hlog with hold | ⟨heq, hjoined⟩
    · exact hd.spared q hq hold
    · cases heq
      exact (hd.gone p hq hjoined).2 todo hmem hp

/-- **The map is emptied.** -/
theorem empties (hi : d.roles[i]? = some (.closing [])) :
    Sound { d with members := ∅, roles := d.roles.set i .emptied } := by
  refine ⟨hd.sids.set_of_le hi (by simp [ClosingRole.sid]),
    fun q hq => mem_set_of_ne hi (hd.joined q hq) (by simp), fun role hrole hcl => ?_,
    fun _ => rfl, fun q hq hlog => ⟨not_mem_nil, fun todo hmem => ?_⟩, hd.spared⟩
  · rcases mem_roles_set hrole with rfl | hold
    · exact hd.closed _ (mem_of_getElem? hi) rfl
    · exact hd.closed role hold hcl
  · rcases mem_roles_set hmem with heq | hold
    · cases heq
    · exact (hd.gone q hq hlog).2 todo hold

end Sound

/-- **One step** keeps the law. -/
theorem Sound.step {d' : Doors} (hd : Sound d) (h : Step d d') : Sound d' := by
  cases h with
  | stutter => exact hd
  | begins hrole hfresh => exact hd.begins hrole hfresh
  | refused hi =>
    exact hd.setRole_silent hi (by simp [ClosingRole.sid]) (by simp)
      (by simp [ClosingRole.closes]) (by simp) (by simp)
  | inserted hi hopen => exact hd.inserted hi hopen
  | joined hi => exact hd.joins hi
  | removed sid =>
    refine ⟨hd.sids, hd.joined, hd.closed, fun hmem => ?_, fun p hp hlog => ?_, hd.spared⟩
    · rw [hd.emptied hmem]
      rfl
    · exact ⟨fun hmem => (hd.gone p hp hlog).1 (mem_values_erase hmem), (hd.gone p hp hlog).2⟩
  | flagged hi hopen hvacant => exact hd.flags hi hopen hvacant
  | took hi =>
    refine hd.setRole_silent hi (by simp [ClosingRole.sid]) (by simp) (fun _ => rfl) (by simp) ?_
    rintro todo ⟨⟩ p hp hlog
    exact (hd.gone p hp hlog).1
  | disconnects hi hp => exact hd.disconnects hi hp
  | emptied hi => exact hd.empties hi

end Doors

end LivekitVoice
