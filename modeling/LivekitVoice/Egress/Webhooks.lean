import LivekitVoice.Egress.Reports

/-! # The webhooks of a recording

The `CreateEgress` and `UpdateEgress` handlers of one egress id, whoever calls them and however
often, and the server's own writes to the store, from `Start*Egress` and `StopEgress`. Requests
arrive at any time and with any info; from then on a handler takes the steps it takes among the
reports of the recorder (`EgressState.step`), in any interleaving.

* **`History`** — `egress_started` first, then any number of `egress_updated`, then `egress_ended`,
* **`Lawful.step`** — what the handlers in flight tell about the webhooks that were sent,
* **`webhooks_valid`** — under `Serial`, the webhooks are such a history. -/

namespace LivekitVoice

open Option Transition

/-! ## Histories -/

/-- How far a history is. -/
inductive HistoryPhase
  | fresh
  | running
  | over
  deriving DecidableEq

/-- **A history of webhooks**, by its last event. -/
inductive History : HistoryPhase → List EgressEvent → Prop
  | fresh : History .fresh []
  | started (info : EgressInfo) : History .running [.started info]
  | updated {events : List EgressEvent} (info : EgressInfo) (h : History .running events) :
      History .running (events ++ [.updated info])
  | ended {events : List EgressEvent} (info : EgressInfo) (h : History .running events) :
      History .over (events ++ [.ended info])

/-- **A valid history**: nothing, or `egress_started` once and first, then any number of
`egress_updated`, then `egress_ended` at most once. -/
def ValidHistory (events : List EgressEvent) : Prop :=
  events = [] ∨ ∃ (first : EgressInfo) (updates : List EgressInfo) (last : Option EgressInfo),
    events = .started first :: (updates.map .updated ++ last.toList.map .ended)

namespace History

variable {p : HistoryPhase} {events : List EgressEvent}

theorem eq_of_running (h : History .running events) :
    ∃ (first : EgressInfo) (updates : List EgressInfo),
      events = .started first :: updates.map .updated := by
  generalize hp : HistoryPhase.running = p at h
  induction h with
  | fresh | ended => cases hp
  | started info => exact ⟨info, [], rfl⟩
  | updated info h ih =>
    obtain ⟨first, updates, rfl⟩ := ih rfl
    exact ⟨first, updates ++ [info], by simp⟩

/-- **A history is valid.** -/
theorem valid (h : History p events) : ValidHistory events := by
  cases h with
  | fresh => exact .inl rfl
  | started info => exact .inr ⟨info, [], none, rfl⟩
  | updated info h =>
    obtain ⟨first, updates, rfl⟩ := h.eq_of_running
    exact .inr ⟨first, updates ++ [info], none, by simp⟩
  | ended info h =>
    obtain ⟨first, updates, rfl⟩ := h.eq_of_running
    exact .inr ⟨first, updates, some info, by simp⟩

theorem running (h : History p events) (hne : events ≠ []) (hover : p ≠ .over) :
    History .running events := by
  cases h with
  | fresh => exact absurd rfl hne
  | started info => exact .started info
  | updated info h => exact .updated info h
  | ended info h => exact absurd rfl hover

theorem fresh_of_nil (h : History p []) : p = .fresh := by
  generalize hevents : ([] : List EgressEvent) = events at h
  cases h with
  | fresh => rfl
  | started info => cases hevents
  | _ => simp at hevents

end History

/-! ## The system -/

namespace EgressHandler

/-- A `CreateEgress` handler. -/
def isCreate : EgressHandler → Bool
  | .createLoad _ | .createStore _ | .createNotify _ => true
  | _ => false

/-- A create that has found nothing in the store: it is going to send `egress_started`. -/
def starts : EgressHandler → Bool
  | .createStore _ | .createNotify _ => true
  | _ => false

/-- A create that has stored its info. -/
def announces : EgressHandler → Bool
  | .createNotify _ => true
  | _ => false

/-- The info of an `UpdateEgress` handler that has not returned. -/
def updates : EgressHandler → Option EgressInfo
  | .updateStore info | .updateNotify info => some info
  | _ => none

/-- The handler has returned. -/
def isReturned : EgressHandler → Bool
  | .returned _ => true
  | _ => false

end EgressHandler

/-- **The handlers of one egress id.** -/
structure WebhookState where
  core : EgressState
  /-- Some create has returned without an error. -/
  created : Bool

/-- What happens. -/
inductive WebhookAction
  /-- A `CreateEgress` request arrives, for the first time or again. -/
  | create (info : EgressInfo)
  /-- An `UpdateEgress` request arrives. -/
  | update (info : EgressInfo)
  /-- A `Start*Egress` or `StopEgress` call has the info of the recorder, which it is to store. -/
  | write (stop : Bool) (info : EgressInfo)
  /-- Handler `i` reads the store, which may fail. -/
  | load (i : Nat) (error : Option String)
  /-- Handler `i` writes the store. -/
  | store (i : Nat) (result : StoreResult)
  /-- Handler `i` sends its webhook. -/
  | notify (i : Nat)

namespace WebhookState

/-- Nothing has happened. -/
def init : WebhookState := ⟨{ EgressState.init with handlers := [] }, false⟩

variable (s : WebhookState)

/-- A request arrives. -/
def arrive (h : EgressHandler) : WebhookState :=
  { s with core := { s.core with handlers := s.core.handlers ++ [h] } }

/-- Handler `i` takes a step. -/
def handlerStep (job : EgressJob) (s : WebhookState) (i : Nat) (a : EgressAction) :
    Option WebhookState :=
  (s.core.step job a).map fun core =>
    ⟨core, s.created || (s.core.handlers[i]?.any EgressHandler.isCreate &&
      core.handlers[i]? == some (.returned none))⟩

/-- **One step.** -/
def step (job : EgressJob) (s : WebhookState) : WebhookAction → Option WebhookState
  | .create info => some (s.arrive (.createLoad info))
  | .update info => some (s.arrive (.updateStore info))
  | .write stop info => some (s.arrive (if stop then .stopStore info else .startStore info))
  | .load i error => s.handlerStep job i (.load i error)
  | .store i result => s.handlerStep job i (.store i result)
  | .notify i => s.handlerStep job i (.notify i)

/-- `egress_started` is sent, or about to be. -/
def Announced : Prop :=
  s.core.events ≠ [] ∨ ∃ h ∈ s.core.handlers, h.announces
  deriving Decidable

/-- Every update in flight is a last one, or none is. -/
def AllUpdates (terminal : Bool) : Prop :=
  ∀ h ∈ s.core.handlers, ∀ info ∈ h.updates, info.isTerminal = terminal
  deriving Decidable

/-- **The condition on a step.** A create that finds an info finds that of another create; one that
finds none is the only one in flight that does, and the first. Updates arrive once `egress_started`
is sent: a last one while no other is in flight, any other one before the last. -/
def Serial : WebhookAction → Prop
  | .load i error => s.core.handlers[i]?.any EgressHandler.isCreate →
      if error.isNone && s.core.store.isSome then s.Announced
      else s.core.events = [] ∧ ∀ h ∈ s.core.handlers, h.starts = false
  | .update info => s.core.events ≠ [] ∧
      if info.isTerminal then s.AllUpdates true else s.core.ended = false ∧ s.AllUpdates false
  | _ => True

instance (a : WebhookAction) : Decidable (s.Serial a) := by
  unfold Serial
  split <;> infer_instance

/-! ## What the handlers in flight tell -/

/-- The key that at most one handler has. -/
def startKey (h : EgressHandler) : Option Unit := if h.starts then some () else none

theorem startKey_eq_some {h : EgressHandler} {k : Unit} : startKey h = some k ↔ h.starts := by
  unfold startKey
  cases h.starts <;> simp

/-- **What every step keeps.** -/
structure Lawful (s : WebhookState) : Prop where
  history : ∃ p, History p s.core.events ∧ (s.core.ended ↔ p = .over)
  distinct : Distinct startKey s.core.handlers
  starts : ∀ h ∈ s.core.handlers, h.starts → s.core.events = []
  updates : ∀ h ∈ s.core.handlers, h.updates.isSome → s.core.events ≠ []
  order : s.AllUpdates true ∨ s.core.ended = false ∧ s.AllUpdates false
  created : s.created → s.Announced

theorem lawful_init : Lawful init where
  history := ⟨.fresh, .fresh, by simp [init, EgressState.init]⟩
  distinct := distinct_nil startKey
  starts := by simp [init]
  updates := by simp [init]
  order := .inl (by simp [AllUpdates, init])
  created := by simp [init]

section Step

variable {job : EgressJob} {s s' : WebhookState} {i : Nat}

theorem Announced.arrive (h : EgressHandler) (hs : s.Announced) : (s.arrive h).Announced := by
  rcases hs with hevents | ⟨h', hh', hannounces⟩
  · exact .inl hevents
  · exact .inr ⟨h', List.mem_append_left _ hh', hannounces⟩

variable {h : EgressHandler} {info : EgressInfo} {created : Bool}

namespace Lawful

variable (hs : Lawful s)
include hs

theorem arrive (hstarts : h.starts = false) (hupdates : h.updates = none) :
    Lawful (s.arrive h) where
  history := hs.history
  distinct := hs.distinct.concat fun k hk => by
    simp [startKey_eq_some, hstarts] at hk
  starts := forall_mem_concat hs.starts (by simp [hstarts])
  updates := forall_mem_concat hs.updates (by simp [hupdates])
  order := by
    rcases hs.order with hall | ⟨hended, hall⟩
    · exact .inl (forall_mem_concat hall (by simp [hupdates]))
    · exact .inr ⟨hended, forall_mem_concat hall (by simp [hupdates])⟩
  created hcreated := (hs.created hcreated).arrive h

/-- **An update arrives.** -/
theorem update (hserial : s.Serial (.update info)) : Lawful (s.arrive (.updateStore info)) := by
  obtain ⟨hevents, hserial⟩ := hserial
  refine ⟨hs.history, hs.distinct.concat nofun,
    forall_mem_concat hs.starts nofun, fun _ _ _ => hevents, ?_,
    fun _ => .inl hevents⟩
  cases hterminal : info.isTerminal with
  | true =>
    rw [if_pos hterminal] at hserial
    refine .inl (forall_mem_concat hserial fun other hother => ?_)
    rw [← mem_some_iff.mp hother, hterminal]
  | false =>
    rw [if_neg (by simp [hterminal])] at hserial
    refine .inr ⟨hserial.1, forall_mem_concat hserial.2 fun other hother => ?_⟩
    rw [← mem_some_iff.mp hother, hterminal]

/-- **A handler goes on** without sending a webhook, and has no more to do than before. -/
theorem set {h' : EgressHandler} (hi : s.core.handlers[i]? = some h)
    (hstarts : h'.starts → h.starts) (hupdates : ∀ info ∈ h'.updates, info ∈ h.updates)
    (hannounces : h.announces = false) {core : EgressState}
    (hhandlers : core.handlers = s.core.handlers.set i h') (hended : core.ended = s.core.ended)
    (hevents : core.events = s.core.events) (hcreated : created → s.Announced) :
    Lawful ⟨core, created⟩ := by
  have hmem : h ∈ s.core.handlers := List.mem_of_getElem? hi
  have hall (terminal : Bool) (hall : s.AllUpdates terminal) :
      AllUpdates ⟨core, created⟩ terminal := by
    show ∀ h ∈ core.handlers, _
    rw [hhandlers]
    exact forall_mem_set hall fun info hinfo => hall h hmem info (hupdates info hinfo)
  refine ⟨?_, ?_, ?_, ?_, ?_, ?_⟩
  · rw [hevents, hended]
    exact hs.history
  · rw [hhandlers]
    refine hs.distinct.set_of_le hi fun k hk => ?_
    rw [startKey_eq_some] at hk ⊢
    exact hstarts hk
  · rw [hhandlers, hevents]
    exact forall_mem_set hs.starts fun hstart => hs.starts h hmem (hstarts hstart)
  · rw [hhandlers, hevents]
    refine forall_mem_set hs.updates fun hupdate => hs.updates h hmem ?_
    obtain ⟨info, hinfo⟩ := isSome_iff_exists.mp hupdate
    exact isSome_iff_exists.mpr ⟨info, hupdates info hinfo⟩
  · rcases hs.order with hlast | ⟨hnot, hother⟩
    · exact .inl (hall true hlast)
    · exact .inr ⟨hended.trans hnot, hall false hother⟩
  · intro hc
    show core.events ≠ [] ∨ ∃ h ∈ core.handlers, h.announces
    rw [hevents, hhandlers]
    rcases hcreated hc with hsent | ⟨h₀, hh₀, hannounces₀⟩
    · exact .inl hsent
    · refine .inr ⟨h₀, mem_set_of_ne hi hh₀ ?_, hannounces₀⟩
      rintro rfl
      simp [hannounces] at hannounces₀

/-- **A create has found nothing**, and is the first. -/
theorem start (hi : s.core.handlers[i]? = some (.createLoad info)) (hevents : s.core.events = [])
    (hstarts : ∀ h ∈ s.core.handlers, h.starts = false) (hcreated : created → s.created) :
    Lawful ⟨s.core.setHandler i (.createStore info), created⟩ where
  history := hs.history
  distinct := hs.distinct.set hi fun k _ j h _ hj hk => by
    simp [startKey_eq_some, hstarts h (List.mem_of_getElem? hj)] at hk
  starts _ _ _ := hevents
  updates := forall_mem_set hs.updates nofun
  order := by
    rcases hs.order with hall | ⟨hended, hall⟩
    · exact .inl (forall_mem_set hall (by simp [EgressHandler.updates]))
    · exact .inr ⟨hended, forall_mem_set hall (by simp [EgressHandler.updates])⟩
  created hc := by
    rcases hs.created (hcreated hc) with hsent | ⟨h, hh, hannounces⟩
    · exact .inl hsent
    · have hstart := hstarts h hh
      cases h with
      | createNotify => cases hstart
      | _ => cases hannounces

end Lawful

theorem created_of_other {core : EgressState}
    (hnot : s.core.handlers[i]?.any EgressHandler.isCreate = false ∨
      core.handlers[i]? ≠ some (.returned none))
    (h : (s.created || (s.core.handlers[i]?.any EgressHandler.isCreate &&
      core.handlers[i]? == some (.returned none)))) : s.created := by
  rw [Bool.or_eq_true, Bool.and_eq_true, beq_iff_eq] at h
  rcases h with h | ⟨hcreate, hreturned⟩
  · exact h
  · rcases hnot with hnot | hnot
    · simp [hnot] at hcreate
    · exact absurd hreturned hnot

/-- **A create finds the info** of another create, or it is the first. -/
theorem Lawful.load (hs : Lawful s) {error : Option String} (hserial : s.Serial (.load i error))
    (hstep : s.step job (.load i error) = some s') : Lawful s' := by
  obtain ⟨core, hcore, rfl⟩ := map_eq_some_iff.mp hstep
  simp only [EgressState.step] at hcore
  split at hcore
  · next info hi =>
    have hguard := hserial (by rw [hi]; rfl)
    split at hcore
    · next hfound =>
      rw [if_pos hfound] at hguard
      cases hcore
      exact hs.set hi (fun h => by cases h) (fun _ h => by cases h) rfl rfl rfl rfl
        fun _ => hguard
    · next hfound =>
      rw [if_neg hfound] at hguard
      cases hcore
      refine hs.start hi hguard.1 hguard.2 (created_of_other (.inr ?_))
      rw [EgressState.setHandler, getElem?_set_stepped hi]
      exact nofun
  · next hi =>
    cases hcore
    have hnext : (EgressState.stopNext error s.core.store).starts = false ∧
        (EgressState.stopNext error s.core.store).updates = none := by
      unfold EgressState.stopNext
      split
      · exact ⟨rfl, rfl⟩
      · exact ⟨rfl, rfl⟩
      · split
        all_goals exact ⟨rfl, rfl⟩
    refine hs.set hi (by simp [hnext.1]) (by simp [hnext.2]) rfl rfl rfl rfl fun hc => ?_
    exact hs.created (created_of_other (.inl (by rw [hi]; rfl)) hc)
  · cases hcore

theorem storeEgress_handlers (core : EgressState) (info : EgressInfo) (next : EgressHandler)
    (result : StoreResult) :
    ∃ h', (h' = next ∨ ∃ error, h' = .returned (some error)) ∧
      (core.storeEgress i info next result).handlers = core.handlers.set i h' ∧
      (core.storeEgress i info next result).ended = core.ended ∧
      (core.storeEgress i info next result).events = core.events := by
  cases result with
  | failed | unindexed => exact ⟨_, .inr ⟨_, rfl⟩, rfl, rfl, rfl⟩
  | stored => exact ⟨_, .inl rfl, rfl, rfl, rfl⟩

namespace Lawful

variable (hs : Lawful s)
include hs

/-- **A handler has written the store**, and is to send its webhook, if it is a create or an
update. -/
theorem stored (hi : s.core.handlers[i]? = some h) (next : EgressHandler)
    (hstarts : next.starts = h.starts) (hupdates : next.updates = h.updates)
    (hannounces : h.announces = false) (hcreate : h.isCreate → next ≠ .returned none)
    (info : EgressInfo) (result : StoreResult) :
    Lawful ⟨s.core.storeEgress i info next result,
      s.created || (s.core.handlers[i]?.any EgressHandler.isCreate &&
        (s.core.storeEgress i info next result).handlers[i]? == some (.returned none))⟩ := by
  obtain ⟨h', hnext, hhandlers, hended, hevents⟩ :=
    storeEgress_handlers s.core info next result
  have hother : s.core.handlers[i]?.any EgressHandler.isCreate = false ∨
      (s.core.storeEgress i info next result).handlers[i]? ≠ some (.returned none) := by
    rw [hhandlers, getElem?_set_stepped hi, hi, any_some]
    cases hh : h.isCreate with
    | false => exact .inl rfl
    | true =>
      refine .inr fun hreturned => ?_
      cases hreturned
      rcases hnext with hnext | ⟨error, herror⟩
      · exact hcreate hh hnext.symm
      · cases herror
  refine hs.set hi ?_ ?_ hannounces hhandlers hended hevents
    fun hc => hs.created (created_of_other hother hc)
  · rcases hnext with rfl | ⟨error, rfl⟩
    · rw [hstarts]
      exact id
    · exact nofun
  · rcases hnext with rfl | ⟨error, rfl⟩
    · rw [hupdates]
      exact fun _ => id
    · exact fun _ hfalse => by cases hfalse

theorem store {result : StoreResult}
    (hstep : s.step job (.store i result) = some s') : Lawful s' := by
  obtain ⟨core, hcore, rfl⟩ := map_eq_some_iff.mp hstep
  simp only [EgressState.step] at hcore
  split at hcore
  · next info hi =>
    cases hcore
    exact hs.stored hi (.createNotify info) rfl rfl rfl nofun info result
  · next info hi =>
    cases hcore
    exact hs.stored hi (.updateNotify info) rfl rfl rfl nofun info result
  · next info hi =>
    cases hcore
    exact hs.stored hi (.returned none) rfl rfl rfl nofun info result
  · next info hi =>
    cases hcore
    exact hs.stored hi (.returned none) rfl rfl rfl nofun info result
  · cases hcore

/-- **`egress_started` is sent.** It is the first webhook, and no other create is going to send
one. -/
theorem notifyCreate (hi : s.core.handlers[i]? = some (.createNotify info)) :
    Lawful ⟨{ s.core.setHandler i (.returned none) with
      events := s.core.events ++ [.started info] }, created⟩ := by
  have hmem : .createNotify info ∈ s.core.handlers := List.mem_of_getElem? hi
  have hevents : s.core.events = [] := hs.starts _ hmem rfl
  have hnoUpdates : ∀ h ∈ s.core.handlers, h.updates = none := by
    intro h hh
    by_contra hsome
    exact hs.updates h hh (isSome_iff_ne_none.mpr hsome) hevents
  have hsent : s.core.events ++ [EgressEvent.started info] ≠ [] := by simp
  obtain ⟨p, hhistory, hended⟩ := hs.history
  rw [hevents] at hhistory
  have hnotEnded : s.core.ended ≠ true := by
    rw [ne_eq, hended, hhistory.fresh_of_nil]
    decide
  refine ⟨⟨.running, ?_, ?_⟩, ?_, ?_, fun _ _ _ => hsent, .inl ?_, fun _ => .inl hsent⟩
  · rw [hevents]
    exact .started info
  · exact ⟨fun h => absurd h hnotEnded, nofun⟩
  · refine hs.distinct.set_of_le hi fun k hk => ?_
    cases hk
  · -- another create past its look would have the key of this one
    intro h hh hstart
    obtain ⟨j, hj⟩ := List.mem_iff_getElem?.mp hh
    rcases (getElem?_set_eq_some hi).mp hj with ⟨-, rfl⟩ | ⟨hji, hold⟩
    · cases hstart
    · exact absurd (hs.distinct j i h _ () hold hi (startKey_eq_some.mpr hstart) rfl) hji
  · exact forall_mem_set (fun h hh => by simp [hnoUpdates h hh]) (fun _ h => by cases h)

/-- **`egress_updated` or `egress_ended` is sent**, or nothing. -/
theorem notifyUpdate {ended : Bool} {events : List EgressEvent}
    (hi : s.core.handlers[i]? = some (.updateNotify info))
    (hhistory : ∃ p, History p events ∧ (ended ↔ p = .over)) (hevents : events ≠ [])
    (horder : s.AllUpdates true ∨ ended = false ∧ s.AllUpdates false) :
    Lawful ⟨{ s.core.setHandler i (.returned none) with ended := ended, events := events },
      created⟩ := by
  have hmem : .updateNotify info ∈ s.core.handlers := List.mem_of_getElem? hi
  have hnotStarts : ∀ h ∈ s.core.handlers, h.starts → False := fun h hh hstart =>
    hs.updates _ hmem rfl (hs.starts h hh hstart)
  refine ⟨hhistory, ?_, ?_, fun _ _ _ => hevents, ?_, fun _ => .inl hevents⟩
  · refine hs.distinct.set_of_le hi fun k hk => ?_
    cases hk
  · exact forall_mem_set (fun h hh hstart => (hnotStarts h hh hstart).elim) nofun
  · rcases horder with hall | ⟨hended, hall⟩
    · exact .inl (forall_mem_set hall (fun _ h => by cases h))
    · exact .inr ⟨hended, forall_mem_set hall (fun _ h => by cases h)⟩

/-- **A webhook is sent** for the info that has been stored. -/
theorem notify (hstep : s.step job (.notify i) = some s') : Lawful s' := by
  obtain ⟨core, hcore, rfl⟩ := map_eq_some_iff.mp hstep
  simp only [EgressState.step] at hcore
  split at hcore
  · next info hi =>
    cases hcore
    exact hs.notifyCreate hi
  · next info hi =>
    have hmem : .updateNotify info ∈ s.core.handlers := List.mem_of_getElem? hi
    have hsent : s.core.events ≠ [] := hs.updates _ hmem rfl
    obtain ⟨p, hhistory, hended⟩ := hs.history
    split at hcore
    · next hterminal =>
      -- the updates in flight are all last ones, since this one is
      have hall : s.AllUpdates true := by
        rcases hs.order with hall | ⟨-, hall⟩
        · exact hall
        · have hnot := hall _ hmem info rfl
          simp [hterminal] at hnot
      cases hcore
      refine hs.notifyUpdate hi ?_ ?_ (.inl hall)
      · split
        · next hover => exact ⟨p, hhistory, fun _ => hended.mp hover, fun _ => rfl⟩
        · next hover =>
          refine ⟨.over, .ended info (hhistory.running hsent ?_), by simp⟩
          rw [ne_eq, ← hended]
          exact hover
      · split
        · exact hsent
        · simp
    · next hterminal =>
      have hall : s.core.ended = false ∧ s.AllUpdates false := by
        rcases hs.order with hall | hall
        · exact absurd (hall _ hmem info rfl) hterminal
        · exact hall
      have hover : p ≠ .over := by
        rw [ne_eq, ← hended, hall.1]
        decide
      cases hcore
      refine hs.notifyUpdate hi ⟨.running, .updated info (hhistory.running hsent hover), ?_⟩
        (by simp) (.inr hall)
      exact ⟨fun hended' => absurd (hended.mp hended') hover, nofun⟩
  · cases hcore

/-- **One step that meets the condition.** -/
theorem step {a : WebhookAction} (hserial : s.Serial a)
    (hstep : s.step job a = some s') : Lawful s' := by
  cases a with
  | create info =>
    cases hstep
    exact hs.arrive rfl rfl
  | update info =>
    cases hstep
    exact hs.update hserial
  | write stop info =>
    cases hstep
    cases stop with
    | _ => exact hs.arrive rfl rfl
  | load i error => exact hs.load hserial hstep
  | store i result => exact hs.store hstep
  | notify i => exact hs.notify hstep

end Lawful

end Step

/-- **The webhooks are a valid history** along every run whose steps meet the condition, and once a
create was handled and no handler is in flight, `egress_started` has been sent. -/
theorem webhooks_valid (job : EgressJob) (actions : List WebhookAction) (s : WebhookState)
    (hserial : Along (step job) Serial init actions) (hrun : run (step job) init actions = some s) :
    ValidHistory s.core.events ∧
      (s.created → (∀ h ∈ s.core.handlers, h.isReturned) → s.core.events ≠ []) := by
  have hs : Lawful s :=
    run_invariant_along (fun _ _ _ hs ha hstep => hs.step ha hstep) lawful_init hserial hrun
  obtain ⟨p, hhistory, -⟩ := hs.history
  refine ⟨hhistory.valid, fun hcreated hreturned => ?_⟩
  rcases hs.created hcreated with hsent | ⟨h, hh, hannounces⟩
  · exact hsent
  · have hreturn := hreturned h hh
    cases h with
    | createNotify info => cases hreturn
    | _ => cases hannounces

/-- A create, from its arrival to its webhook. -/
def createRun (i : Nat) : List WebhookAction :=
  [.create (trackJob.starting 1), .load i none, .store i .stored, .notify i]

/-- An update, from its arrival to its webhook. -/
def updateRun (i : Nat) (info : EgressInfo) : List WebhookAction :=
  [.update info, .store i .stored, .notify i]

/-- A recording as it should be reported, with a create that is tried again at the end. -/
def reportedRun : List WebhookAction :=
  createRun 0 ++ [.write false (trackJob.starting 1), .store 1 .stored] ++
    updateRun 2 (trackJob.active 2) ++ updateRun 3 (trackJob.finished "f" "l" 1 2 3) ++
    [.create (trackJob.starting 1), .load 4 none]

/-- Its webhooks. -/
theorem webhooks_valid_reported :
    ∃ s, run (step trackJob) init reportedRun = some s ∧
      s.core.events = [.started (trackJob.starting 1), .updated (trackJob.active 2),
        .ended (trackJob.finished "f" "l" 1 2 3)] ∧ ValidHistory s.core.events := by
  refine (show ∃ s ∈ run _ _ _, s.core.events = [.started (trackJob.starting 1),
    .updated (trackJob.active 2), .ended (trackJob.finished "f" "l" 1 2 3)] by decide +kernel).imp
    fun s ⟨hrun, hevents⟩ => ⟨hrun, hevents,
      (webhooks_valid trackJob _ s (by decide +kernel) hrun).1⟩

/-- **Histories that are not valid.** Two creates look before either has stored its info; the
`Start*Egress` call stores its info before the create looks, and `egress_started` is never sent; an
active info is reported late, after the last one; an update is handled before the create. -/
theorem webhooks_invalid :
    (run (step trackJob) init
        [.create (trackJob.starting 1), .create (trackJob.starting 1), .load 0 none, .load 1 none,
          .store 0 .stored, .store 1 .stored, .notify 0, .notify 1]).map
        (fun s => s.core.events) =
      some [.started (trackJob.starting 1), .started (trackJob.starting 1)] ∧
    (run (step trackJob) init
        [.write false (trackJob.starting 1), .store 0 .stored, .create (trackJob.starting 1),
          .load 1 none]).map
        (fun s => (s.created, s.core.handlers.all EgressHandler.isReturned, s.core.events)) =
      some (true, true, []) ∧
    (run (step trackJob) init
        (createRun 0 ++ updateRun 1 (trackJob.finished "f" "l" 1 2 3) ++
          updateRun 2 (trackJob.active 2))).map (fun s => s.core.events) =
      some [.started (trackJob.starting 1), .ended (trackJob.finished "f" "l" 1 2 3),
        .updated (trackJob.active 2)] ∧
    (run (step trackJob) init
        (updateRun 0 (trackJob.active 2) ++ [.create (trackJob.starting 1), .load 1 none])).map
        (fun s => (s.created, s.core.events)) =
      some (true, [.updated (trackJob.active 2)]) := by
  decide +kernel

end WebhookState

end LivekitVoice
