import LivekitVoice.Transition.Pool
import LivekitVoice.Transition.Run

/-! # Subscriber negotiation

The offers that a participant gets for the connection it receives media on. Whoever changes a
subscription sets `needs_negotiation` and spawns a task; the task waits a moment, takes the
`negotiating` lock, and makes an offer unless one awaits its answer. An answer clears
`answer_pending` and spawns another task if a change has come in the meantime. Every await is the
end of a step, and so is every unlock of the media state; the operations of the connection, and the
channel to the client, may fail.

* **`Sound`** — what the tasks tell about the offers, in every run,
* **`attempt_recovers_iff`** — after which attempts a negotiation can be tried again. -/

namespace LivekitVoice.Media

open List Transition

/-! ## Tasks, operations and offers -/

/-- **A negotiation task** (`subscribe_negotiation`), and the step it is about to take. -/
inductive Task
  /-- It sleeps. -/
  | debounce (force : Bool)
  /-- It awaits the lock. -/
  | waiting (force : Bool)
  /-- It has the lock, and looks at the flags. -/
  | locked (force : Bool)
  /-- `create_offer`. -/
  | checked
  /-- `set_local_description`. -/
  | created (k : Nat)
  /-- It numbers the offer. -/
  | described (k : Nat)
  /-- It sets `answer_pending`. -/
  | numbered (k : Nat) (id : UInt32)
  /-- It hands the offer to the channel. -/
  | marked (k : Nat) (id : UInt32)
  | done
  deriving DecidableEq

/-- **A subscription change in progress**, and the step it is about to take. -/
inductive Op
  /-- `add_subscription` awaits `setup_subscriber`. -/
  | setup (track : String)
  /-- It looks for the forwarder and the connection, and awaits `add_track`. -/
  | attach (track : String)
  /-- It enters the track and its sender into the maps. -/
  | record (track : String)
  /-- `remove_subscription` removes them from the maps. -/
  | unmap (track : String)
  /-- It awaits `remove_track`. -/
  | detach
  /-- `request_subscriber_negotiation`. -/
  | request
  | done (error : Option String)
  deriving DecidableEq

/-- Where an offer is. -/
inductive OfferPhase
  | created
  /-- It has reached the channel. -/
  | sent
  /-- The client's answer has arrived. -/
  | answering
  /-- The answer is the remote description. -/
  | applied
  | answered
  /-- It has not reached the channel. -/
  | dropped
  /-- The answer could not be set. -/
  | refused
  deriving DecidableEq

/-- What the offers are compared with. -/
inductive NegEvent
  /-- A subscription has changed. -/
  | change
  | offer (k : Nat)
  deriving DecidableEq

/-- The offer that the client gets. -/
structure OfferMessage where
  id : UInt32
  offer : Nat
  deriving DecidableEq

/-- **The negotiation of one participant.** -/
structure NegState where
  /-- The state is not `Disconnected`. -/
  connected : Bool
  /-- There is a channel to the client. -/
  sink : Bool
  /-- There is a subscriber connection. -/
  subscriber : Bool
  /-- The keys of `subscriber_senders`. -/
  senders : List String
  /-- `needs_negotiation`. -/
  needs : Bool
  /-- `answer_pending`. -/
  pending : Bool
  /-- `subscriber_offer_seq`. -/
  seq : UInt32
  tasks : List Task
  ops : List Op
  offers : List OfferPhase
  channel : List OfferMessage
  /-- The changes and offers so far, the last one first. -/
  log : List NegEvent

/-- What `add_track` and the look for the forwarder give. -/
inductive AttachResult
  | noForwarder
  | failed (error : String)
  | attached

/-- What happens. -/
inductive NegAction
  /-- `add_subscription` is called. -/
  | add (track : String)
  /-- `remove_subscription` is called. -/
  | remove (track : String)
  /-- `request_subscriber_negotiation` is called by itself. -/
  | renegotiate
  /-- The join has set up the connection. -/
  | connect
  | setup (i : Nat) (error : Option String)
  | attach (i : Nat) (result : AttachResult)
  | record (i : Nat)
  | unmap (i : Nat)
  | detach (i : Nat)
  | request (i : Nat)
  | wake (i : Nat)
  | acquire (i : Nat)
  | check (i : Nat)
  | create (i : Nat) (ok : Bool)
  | describe (i : Nat) (ok : Bool)
  | number (i : Nat)
  | mark (i : Nat)
  | send (i : Nat) (ok : Bool)
  /-- The client answers offer `k`. -/
  | answer (k : Nat)
  /-- `set_remote_description`. -/
  | apply (k : Nat) (ok : Bool)
  /-- The flags, after an answer was set. -/
  | settle (k : Nat)
  /-- The client has a session. -/
  | resume
  /-- The client is between sessions. -/
  | suspend
  /-- `end_participant`. -/
  | leave

namespace Task

/-- The task has the lock. -/
def holds : Task → Bool
  | .locked _ | .checked | .created _ | .described _ | .numbered .. | .marked .. => true
  | _ => false

/-- The task is to set `answer_pending`, if nothing fails. -/
def unmarked : Task → Bool
  | .checked | .created _ | .described _ | .numbered .. => true
  | _ => false

/-- The task has set it. -/
def isMarked : Task → Bool
  | .marked .. => true
  | _ => false

/-- The offer it is about to send. -/
def offer : Task → Option Nat
  | .created k | .described k | .numbered k _ | .marked k _ => some k
  | _ => none

end Task

namespace OfferPhase

/-- **The offer is not answered.** -/
def unanswered : OfferPhase → Bool
  | .created | .sent | .answering | .applied => true
  | _ => false

/-- The client has got the offer, and its answer was not set. -/
def isLive : OfferPhase → Bool
  | .sent | .answering | .applied | .refused => true
  | _ => false

/-- The offer is unanswered, or its answer was refused. -/
def isOpen : OfferPhase → Bool
  | .created | .sent | .answering | .applied | .refused => true
  | _ => false

end OfferPhase

namespace NegState

/-- A participant that has just joined. -/
def init : NegState where
  connected := true
  sink := true
  subscriber := false
  senders := []
  needs := false
  pending := false
  seq := 0
  tasks := []
  ops := []
  offers := []
  channel := []
  log := []

variable (s : NegState)

def setTask (i : Nat) (t : Task) : NegState := { s with tasks := s.tasks.set i t }

def setOp (i : Nat) (op : Op) : NegState := { s with ops := s.ops.set i op }

def setOffer (k : Nat) (phase : OfferPhase) : NegState :=
  { s with offers := s.offers.set k phase }

/-- A subscription changes. -/
def change : NegState := { s with log := .change :: s.log }

/-- `request_subscriber_negotiation`. -/
def request : NegState :=
  { s with needs := true, tasks := s.tasks ++ [.debounce false] }

/-- The steps of `add_subscription` and `remove_subscription`. -/
def opStep (i : Nat) : Op → NegAction → Option NegState
  | .setup track, .setup _ error =>
    match error with
    | some error => some (s.setOp i (.done (some error)))
    | none => some { s.setOp i (.attach track) with subscriber := true }
  | .attach track, .attach _ result =>
    match result with
    | .noForwarder =>
      some (s.setOp i (.done (some ("track " ++ track ++ " has no forwarder yet"))))
    | .failed error =>
      some (s.setOp i (.done (some (if s.subscriber then "add subscriber track: " ++ error
        else "no subscriber pc"))))
    | .attached =>
      if s.subscriber then some (s.setOp i (.record track)).change
      else some (s.setOp i (.done (some "no subscriber pc")))
  | .record track, .record _ =>
    some { (s.setOp i .request).change with senders := s.senders.insert track }
  | .unmap track, .unmap _ =>
    if s.senders.contains track then
      some { (s.setOp i (if s.subscriber then .detach else .request)).change with
        senders := s.senders.erase track }
    else some (s.setOp i .request)
  -- an error of `remove_track` is ignored
  | .detach, .detach _ => some (s.setOp i .request).change
  | .request, .request _ => some (s.setOp i (.done none)).request
  | _, _ => none

/-- The look at the flags. -/
def checkFlags (i : Nat) (force : Bool) : NegState :=
  if s.connected = false then s.setTask i .done
  else if s.pending then { s.setTask i .done with needs := true }
  else if force = false ∧ s.needs = false then s.setTask i .done
  else { s.setTask i .checked with needs := false }

/-- The steps of `subscribe_negotiation`. -/
def taskStep (i : Nat) : Task → NegAction → Option NegState
  | .debounce force, .wake _ => some (s.setTask i (.waiting force))
  | .waiting force, .acquire _ =>
    if s.tasks.any Task.holds then none else some (s.setTask i (.locked force))
  | .locked force, .check _ => some (s.checkFlags i force)
  | .checked, .create _ ok =>
    if s.subscriber = false then some (s.setTask i .done)
    else if ok then
      some { s.setTask i (.created s.offers.length) with
        offers := s.offers ++ [.created]
        log := .offer s.offers.length :: s.log }
    else some (s.setTask i .done)
  | .created k, .describe _ ok =>
    if ok then some (s.setTask i (.described k))
    else some ((s.setTask i .done).setOffer k .dropped)
  | .described k, .number _ =>
    some { s.setTask i (.numbered k (max s.seq 1)) with seq := s.seq + 1 }
  | .numbered k id, .mark _ => some { s.setTask i (.marked k id) with pending := true }
  | .marked k id, .send _ ok =>
    if ok then
      if s.sink then
        some { (s.setTask i .done).setOffer k .sent with channel := s.channel ++ [⟨id, k⟩] }
      else none
    else some ((s.setTask i .done).setOffer k .dropped)
  | _, _ => none

/-- The steps of `handle_subscriber_answer`. -/
def answerStep (k : Nat) : OfferPhase → NegAction → Option NegState
  | .sent, .answer _ => some (s.setOffer k .answering)
  | .answering, .apply _ ok =>
    some (s.setOffer k (if s.subscriber && ok then .applied else .refused))
  | .applied, .settle _ =>
    -- the flags are read and written under the lock of the media state
    let s' := { s.setOffer k .answered with pending := false, needs := false }
    some (if s.needs then { s' with tasks := s.tasks ++ [.debounce true] } else s')
  | _, _ => none

/-- **One step.** -/
def step (a : NegAction) : Option NegState :=
  match a with
  | .add track => some { s with ops := s.ops ++ [.setup track] }
  | .remove track => some { s with ops := s.ops ++ [.unmap track] }
  | .renegotiate => some s.request
  | .connect => some { s with subscriber := true }
  | .resume => some { s with sink := true }
  | .suspend => some { s with sink := false }
  | .leave =>
    some { s with connected := false, sink := false, subscriber := false, senders := [] }
  | .setup i _ | .attach i _ | .record i | .unmap i | .detach i | .request i =>
    s.ops[i]?.bind fun op => s.opStep i op a
  | .wake i | .acquire i | .check i | .create i _ | .describe i _ | .number i | .mark i
  | .send i _ => s.tasks[i]?.bind fun t => s.taskStep i t a
  | .answer k | .apply k _ | .settle k => s.offers[k]?.bind fun phase => s.answerStep k phase a

end NegState

/-! ## What the tasks tell about the offers -/

/-- The key of the task that has the lock. -/
def holdKey (t : Task) : Option Unit := if t.holds then some () else none

/-- The key of the offer that is open. -/
def openKey (phase : OfferPhase) : Option Unit := if phase.isOpen then some () else none

variable {t : Task} {phase : OfferPhase}

theorem holdKey_eq_some {k : Unit} : holdKey t = some k ↔ t.holds := by
  unfold holdKey
  cases t.holds <;> simp

theorem openKey_eq_some {k : Unit} : openKey phase = some k ↔ phase.isOpen := by
  unfold openKey
  cases phase.isOpen <;> simp

theorem Task.holds_of_offer {k : Nat} (h : t.offer = some k) : t.holds := by
  cases t with
  | created k' | described k' | numbered k' id | marked k' id => rfl
  | _ => cases h

theorem Task.holds_of_unmarked (h : t.unmarked) : t.holds := by
  cases t with
  | checked | created k' | described k' | numbered k' id => rfl
  | _ => cases h

theorem OfferPhase.isOpen_of_isLive (h : phase.isLive) : phase.isOpen := by
  cases phase with
  | sent | answering | applied | refused => rfl
  | _ => cases h

theorem OfferPhase.isOpen_of_unanswered (h : phase.unanswered) : phase.isOpen := by
  cases phase with
  | created | sent | answering | applied => rfl
  | _ => cases h

/-- **What holds in every run**, with failures or without. -/
structure Sound (tasks : List Task) (offers : List OfferPhase) (pending : Bool) : Prop where
  /-- One task has the lock. -/
  exclusive : Distinct holdKey tasks
  unmarked : ∀ t ∈ tasks, t.unmarked → pending = false
  marked : ∀ t ∈ tasks, t.isMarked → pending
  carried : ∀ t ∈ tasks, ∀ k, t.offer = some k → offers[k]? = some .created
  creator : ∀ k : Nat, offers[k]? = some .created → ∃ t ∈ tasks, t.offer = some k
  live : ∀ (k : Nat) (phase : OfferPhase), offers[k]? = some phase → phase.isLive →
    pending
  /-- One offer is open. -/
  unique : Distinct openKey offers

namespace Sound

variable {tasks : List Task} {offers : List OfferPhase} {pending : Bool} {i k : Nat} {t' : Task}

theorem init : Sound [] [] false where
  exclusive := distinct_nil holdKey
  unmarked := by simp
  marked := by simp
  carried := by simp
  creator := by simp
  live := by simp
  unique := distinct_nil openKey

section

variable (hs : Sound tasks offers pending)
include hs

theorem spawn (force : Bool) : Sound (tasks ++ [.debounce force]) offers pending where
  __ := hs
  exclusive := hs.exclusive.concat nofun
  unmarked := forall_mem_concat hs.unmarked nofun
  marked := forall_mem_concat hs.marked nofun
  carried := forall_mem_concat hs.carried nofun
  creator k hk := by
    obtain ⟨t, ht, hoffer⟩ := hs.creator k hk
    exact ⟨t, mem_append_left _ ht, hoffer⟩

/-- **A task goes on with the offer it has.** It may take the lock if nobody has it. -/
theorem advance (hi : tasks[i]? = some t)
    (hholds : t'.holds → t.holds ∨ ∀ other ∈ tasks, other.holds = false)
    (hoffer : t'.offer = t.offer) (hunmarked : t'.unmarked → pending = false)
    (hmarked : t'.isMarked → pending) : Sound (tasks.set i t') offers pending where
  __ := hs
  exclusive := by
    refine hs.exclusive.set hi fun k hk j other hji hj hkey => ?_
    rw [holdKey_eq_some] at hk hkey
    rcases hholds hk with hold | hnone
    · exact hji (hs.exclusive j i other t () hj hi (holdKey_eq_some.mpr hkey)
        (holdKey_eq_some.mpr hold))
    · simp [hnone other (mem_of_getElem? hj)] at hkey
  unmarked := forall_mem_set hs.unmarked hunmarked
  marked := forall_mem_set hs.marked hmarked
  carried := forall_mem_set hs.carried fun k hk =>
    hs.carried t (mem_of_getElem? hi) k (hoffer ▸ hk)
  creator k hk := by
    obtain ⟨other, hother, hk'⟩ := hs.creator k hk
    by_cases heq : other = t
    · refine ⟨t', mem_set_stepped hi, ?_⟩
      rw [hoffer, ← heq, hk']
    · exact ⟨other, mem_set_of_ne hi hother heq, hk'⟩

theorem eq_of_holds (hi : tasks[i]? = some t) (ht : t.holds) {other : Task} {j : Nat}
    (hj : tasks[j]? = some other) (hother : other.holds) : j = i :=
  hs.exclusive j i other t () hj hi (holdKey_eq_some.mpr hother) (holdKey_eq_some.mpr ht)

/-- **No offer is open** while a task is about to create one. -/
theorem no_open (hi : tasks[i]? = some .checked) {j : Nat}
    (hj : offers[j]? = some phase) : phase.isOpen = false := by
  have hpending : pending = false := hs.unmarked _ (mem_of_getElem? hi) rfl
  cases hopen : phase.isOpen with
  | false => rfl
  | true =>
    exfalso
    cases hlive : phase.isLive with
    | true =>
      simp [hs.live j phase hj hlive] at hpending
    | false =>
      have hcreated : phase = .created := by
        cases phase with
        | created => rfl
        | sent | answering | applied | refused => cases hlive
        | _ => cases hopen
      rw [hcreated] at hj
      obtain ⟨other, hother, hoffer⟩ := hs.creator j hj
      obtain ⟨l, hl⟩ := mem_iff_getElem?.mp hother
      have hli := hs.eq_of_holds hi rfl hl (Task.holds_of_offer hoffer)
      rw [hli, hi] at hl
      cases hl
      cases hoffer

/-- **An offer is created.** -/
theorem create (hi : tasks[i]? = some .checked) :
    Sound (tasks.set i (.created offers.length)) (offers ++ [.created]) pending where
  exclusive := hs.exclusive.set_of_le hi fun _ _ => rfl
  unmarked := forall_mem_set hs.unmarked fun _ => hs.unmarked _ (mem_of_getElem? hi) rfl
  marked := forall_mem_set hs.marked nofun
  carried := by
    refine forall_mem_set (fun other hother k hk => ?_) fun k hk => ?_
    · exact getElem?_concat_old (hs.carried other hother k hk)
    · cases hk
      exact getElem?_concat_eq_some.mpr (.inr ⟨rfl, rfl⟩)
  creator k hk := by
    rcases getElem?_concat_eq_some.mp hk with hold | ⟨rfl, -⟩
    · have hopen := hs.no_open hi hold
      cases hopen
    · exact ⟨_, mem_set_stepped hi, rfl⟩
  live k phase hk hlive := by
    rcases getElem?_concat_eq_some.mp hk with hold | ⟨-, rfl⟩
    · exact hs.live k phase hold hlive
    · cases hlive
  unique := hs.unique.concat fun k _ phase hphase hkey => by
    obtain ⟨j, hj⟩ := mem_iff_getElem?.mp hphase
    simp [openKey_eq_some, hs.no_open hi hj] at hkey

/-- **A task is done with its offer**, which is sent or dropped. -/
theorem release (hi : tasks[i]? = some t) (hk : t.offer = some k)
    (hcreated : phase ≠ .created) (hlive : phase.isLive → pending) :
    Sound (tasks.set i .done) (offers.set k phase) pending := by
  have hoffer : offers[k]? = some .created := hs.carried t (mem_of_getElem? hi) k hk
  -- no other task has an offer, since it would have the lock
  have halone : ∀ other ∈ tasks.set i .done, ∀ k', other.offer = some k' → False := by
    intro other hother k' hk'
    obtain ⟨j, hj⟩ := mem_iff_getElem?.mp hother
    rcases (getElem?_set_eq_some hi).mp hj with ⟨-, rfl⟩ | ⟨hji, hold⟩
    · cases hk'
    · exact hji (hs.eq_of_holds hi (Task.holds_of_offer hk) hold (Task.holds_of_offer hk'))
  refine ⟨?_, ?_, ?_, ?_, ?_, ?_, ?_⟩
  · exact hs.exclusive.set_of_le hi nofun
  · exact forall_mem_set hs.unmarked nofun
  · exact forall_mem_set hs.marked nofun
  · exact fun other hother k' hk' => (halone other hother k' hk').elim
  · intro k' hk'
    rcases (getElem?_set_eq_some hoffer).mp hk' with ⟨-, h⟩ | ⟨hne, hold⟩
    · exact absurd h.symm hcreated
    · have heq : k' = k := hs.unique k' k _ _ () hold hoffer rfl rfl
      exact absurd heq hne
  · exact forall_set hoffer (fun j phase' _ hj => hs.live j phase' hj) hlive
  · exact hs.unique.set_of_le hoffer fun _ _ => rfl

/-- **`answer_pending` is set.** -/
theorem mark {id : UInt32} (hi : tasks[i]? = some (.numbered k id)) :
    Sound (tasks.set i (.marked k id)) offers true where
  exclusive := hs.exclusive.set_of_le hi fun _ _ => rfl
  unmarked other hother hunmarked := by
    obtain ⟨j, hj⟩ := mem_iff_getElem?.mp hother
    rcases (getElem?_set_eq_some hi).mp hj with ⟨-, rfl⟩ | ⟨hji, hold⟩
    · cases hunmarked
    · exact absurd (hs.eq_of_holds hi rfl hold (Task.holds_of_unmarked hunmarked)) hji
  marked _ _ _ := rfl
  carried := forall_mem_set hs.carried fun k' hk' =>
    hs.carried _ (mem_of_getElem? hi) k' hk'
  creator k' hk' := by
    obtain ⟨other, hother, hoffer⟩ := hs.creator k' hk'
    by_cases heq : other = .numbered k id
    · refine ⟨_, mem_set_stepped hi, ?_⟩
      rw [heq] at hoffer
      exact hoffer
    · exact ⟨other, mem_set_of_ne hi hother heq, hoffer⟩
  live _ _ _ _ := rfl
  unique := hs.unique

theorem answer {phase' : OfferPhase}
    (hk : offers[k]? = some phase) (hlive : phase.isLive) (hlive' : phase'.isLive) :
    Sound tasks (offers.set k phase') pending := by
  have hpending : pending := hs.live k phase hk hlive
  have hnot : phase ≠ .created := by
    rintro rfl
    cases hlive
  refine ⟨hs.exclusive, hs.unmarked, hs.marked, ?_, ?_, fun _ _ _ _ => hpending, ?_⟩
  · intro t ht k' hk'
    have hcreated := hs.carried t ht k' hk'
    have hne : k' ≠ k := by
      rintro rfl
      exact hnot (Option.some.inj (hk.symm.trans hcreated))
    exact getElem?_set_other hk hne hcreated
  · intro k' hk'
    rcases (getElem?_set_eq_some hk).mp hk' with ⟨-, h⟩ | ⟨-, hold⟩
    · rw [← h] at hlive'
      cases hlive'
    · exact hs.creator k' hold
  · exact hs.unique.set_of_le hk fun _ _ => openKey_eq_some.mpr (OfferPhase.isOpen_of_isLive hlive)

/-- **An offer is answered**: no other one is open. -/
theorem settle (hk : offers[k]? = some .applied) : Sound tasks (offers.set k .answered) false := by
  have hclosed : ∀ (j : Nat) (phase : OfferPhase), (offers.set k .answered)[j]? = some phase →
      phase.isOpen = false := by
    refine forall_set hk (fun j phase hne hj => ?_) rfl
    cases hopen : phase.isOpen with
    | false => rfl
    | true => exact absurd (hs.unique j k phase _ () hj hk (openKey_eq_some.mpr hopen) rfl) hne
  have hno : ∀ t ∈ tasks, ∀ k', t.offer = some k' → False := by
    intro t ht k' hk'
    have hcreated := hs.carried t ht k' hk'
    have heq : k' = k := hs.unique k' k _ _ () hcreated hk rfl rfl
    simp [heq, hk] at hcreated
  refine ⟨hs.exclusive, fun _ _ _ => rfl, ?_, fun t ht k' hk' => (hno t ht k' hk').elim, ?_, ?_, ?_⟩
  · intro t ht hmarked
    cases t with
    | marked k' id => exact (hno _ ht k' rfl).elim
    | _ => cases hmarked
  · intro k' hk'
    have hopen := hclosed k' _ hk'
    cases hopen
  · intro k' phase hk' hlive
    have hopen := hclosed k' phase hk'
    simp [OfferPhase.isOpen_of_isLive hlive] at hopen
  · intro a b phase phase' key ha hb hkey
    simp [openKey_eq_some, hclosed a phase ha] at hkey

end

end Sound

namespace NegState

variable {s s' : NegState} {a : NegAction} {i : Nat}

/-- The invariant, of a state. -/
def Lawful (s : NegState) : Prop := Sound s.tasks s.offers s.pending

theorem opStep_tasks {op : Op} (h : s.opStep i op a = some s') :
    s'.connected = s.connected ∧ s'.offers = s.offers ∧ s'.pending = s.pending ∧
      (s'.tasks = s.tasks ∨ s'.tasks = s.tasks ++ [.debounce false]) := by
  revert h
  fun_cases opStep s i op a <;> rintro ⟨⟩
  case case11 => exact ⟨rfl, rfl, rfl, .inr rfl⟩
  all_goals exact ⟨rfl, rfl, rfl, .inl rfl⟩

/-- **A step of a subscription or its end**, which requests a negotiation at most. -/
theorem Lawful.opStep (hs : s.Lawful) {op : Op} (h : s.opStep i op a = some s') : s'.Lawful := by
  obtain ⟨-, hoffers, hpending, htasks⟩ := opStep_tasks h
  rw [Lawful, hoffers, hpending]
  rcases htasks with htasks | htasks
  · rw [htasks]
    exact hs
  · rw [htasks]
    exact hs.spawn false

theorem Lawful.checkFlags (hs : s.Lawful) {force : Bool} (hi : s.tasks[i]? = some (.locked force)) :
    (s.checkFlags i force).Lawful := by
  have hdone : Sound (s.tasks.set i .done) s.offers s.pending :=
    hs.advance hi nofun rfl nofun nofun
  unfold NegState.checkFlags
  split
  · exact hdone
  · split
    · exact hdone
    · next hpending =>
      split
      · exact hdone
      · exact hs.advance hi (fun _ => .inl rfl) rfl (fun _ => by simpa using hpending)
          nofun

variable {k : Nat} {ok : Bool}

/-- **A step of a negotiation task**, by where the task is. -/
theorem Lawful.taskStep (hs : s.Lawful) (hi : s.tasks[i]? = some t)
    (h : s.taskStep i t a = some s') : s'.Lawful := by
  have hmem := mem_of_getElem? hi
  revert h
  fun_cases NegState.taskStep s i t a <;> rintro ⟨⟩
  · exact hs.advance hi nofun rfl nofun nofun
  · next hfree =>
    refine hs.advance hi (fun _ => .inr fun other hother => ?_) rfl nofun
      nofun
    rw [any_eq_true] at hfree
    exact Bool.eq_false_iff.mpr fun hholds => hfree ⟨other, hother, hholds⟩
  · exact hs.checkFlags hi
  · exact hs.advance hi nofun rfl nofun nofun
  · exact Sound.create hs hi
  · exact hs.advance hi nofun rfl nofun nofun
  · exact hs.advance hi (fun _ => .inl rfl) rfl (fun _ => Sound.unmarked hs _ hmem rfl)
      nofun
  · exact hs.release hi rfl (by decide) nofun
  · exact hs.advance hi (fun _ => .inl rfl) rfl (fun _ => Sound.unmarked hs _ hmem rfl)
      nofun
  · exact Sound.mark hs hi
  · exact hs.release hi rfl (by decide) (fun _ => Sound.marked hs _ hmem rfl)
  · exact hs.release hi rfl (by decide) nofun

/-- **A step of an answer** keeps the invariant. -/
theorem Lawful.answerStep (hs : s.Lawful) (hk : s.offers[k]? = some phase)
    (h : s.answerStep k phase a = some s') : s'.Lawful := by
  unfold NegState.answerStep at h
  split at h
  · cases h
    exact hs.answer hk rfl rfl
  · cases h
    refine hs.answer hk rfl ?_
    split
    · rfl
    · rfl
  · cases h
    split
    · exact (Sound.settle hs hk).spawn true
    · exact Sound.settle hs hk
  · cases h

/-- **Every step keeps the invariant.** -/
theorem Lawful.step (hs : s.Lawful) (hstep : s.step a = some s') : s'.Lawful := by
  unfold NegState.step at hstep
  split at hstep
  · cases hstep
    exact hs
  · cases hstep
    exact hs
  · cases hstep
    exact hs.spawn false
  · cases hstep
    exact hs
  · cases hstep
    exact hs
  · cases hstep
    exact hs
  · cases hstep
    exact hs
  all_goals
    obtain ⟨x, hx, h⟩ := Option.bind_eq_some_iff.mp hstep
    first
    | exact hs.opStep h
    | exact hs.taskStep hx h
    | exact hs.answerStep hx h

theorem lawful_init : init.Lawful := Sound.init

/-! ## Attempts -/

/-- **An attempt ends**: without a connection, with an error, or with an offer that is handed to the
channel; or the answer to an offer cannot be set. -/
def EndsAttempt (s : NegState) : NegAction → Prop
  | .create _ ok | .apply _ ok => s.subscriber = false ∨ ok = false
  | .describe _ ok => ok = false
  | .send .. => True
  | _ => False

/-- **The attempt is not forgotten**: an offer has reached the channel and awaits its answer, or a
negotiation is still needed and can be made. -/
def Recovered (s : NegState) : Prop :=
  (∃ k : Nat, s.offers[k]? = some .sent) ∨ s.needs ∧ s.pending = false

/-- **When it is not forgotten**: `create_offer` or `set_local_description` fails while another
negotiation is needed already; the offer reaches the channel; the answer can be set. -/
def Recovers (s : NegState) : NegAction → Prop
  | .create .. | .describe .. => s.needs
  | .send _ ok => ok
  | .apply .. => False
  | _ => True

namespace Lawful

variable (hs : s.Lawful)
include hs

theorem not_sent_set {phase' : OfferPhase} (hk : s.offers[k]? = some phase)
    (hopen : phase.isOpen) (hnot : phase' ≠ .sent) (k' : Nat) :
    (s.offers.set k phase')[k']? ≠ some .sent := by
  intro hsent
  rcases (getElem?_set_eq_some hk).mp hsent with ⟨-, h⟩ | ⟨hne, hold⟩
  · exact hnot h.symm
  · exact hne (Sound.unique hs k' k _ _ () hold hk rfl (openKey_eq_some.mpr hopen))

theorem recovered_create (hstep : s.step (.create i ok) = some s')
    (hend : s.EndsAttempt (.create i ok)) :
    s'.Recovered ↔ s.needs := by
  obtain ⟨t, hi, h⟩ := Option.bind_eq_some_iff.mp hstep
  cases t with
  | checked =>
    have hmem : .checked ∈ s.tasks := mem_of_getElem? hi
    have hs' : s' = s.setTask i .done := by
      simp only [NegState.taskStep] at h
      split at h
      · exact (Option.some.inj h).symm
      · next hconnected =>
        rcases hend with hnone | hfailed
        · exact absurd hnone hconnected
        · rw [if_neg (by simp [hfailed])] at h
          exact (Option.some.inj h).symm
    rw [hs']
    constructor
    · rintro (⟨k, hk⟩ | ⟨hneeds, -⟩)
      · have hpending : s.pending := Sound.live hs k .sent hk rfl
        simp [Sound.unmarked hs _ hmem rfl] at hpending
      · exact hneeds
    · exact fun hneeds => .inr ⟨hneeds, Sound.unmarked hs _ hmem rfl⟩
  | _ => cases h

theorem recovered_describe (hstep : s.step (.describe i ok) = some s')
    (hend : s.EndsAttempt (.describe i ok)) :
    s'.Recovered ↔ s.needs := by
  obtain ⟨t, hi, h⟩ := Option.bind_eq_some_iff.mp hstep
  cases t with
  | created k =>
    have hmem : .created k ∈ s.tasks := mem_of_getElem? hi
    have hoffer : s.offers[k]? = some .created := Sound.carried hs _ hmem k rfl
    simp only [NegState.taskStep] at h
    rw [if_neg (by simp [show ok = false from hend])] at h
    cases h
    constructor
    · rintro (⟨k', hk'⟩ | ⟨hneeds, -⟩)
      · exact absurd hk' (hs.not_sent_set hoffer rfl (by decide) k')
      · exact hneeds
    · exact fun hneeds => .inr ⟨hneeds, Sound.unmarked hs _ hmem rfl⟩
  | _ => cases h

theorem recovered_send (hstep : s.step (.send i ok) = some s') : s'.Recovered ↔ ok := by
  obtain ⟨t, hi, h⟩ := Option.bind_eq_some_iff.mp hstep
  cases t with
  | marked k id =>
    have hmem : .marked k id ∈ s.tasks := mem_of_getElem? hi
    have hoffer : s.offers[k]? = some .created := Sound.carried hs _ hmem k rfl
    cases ok with
    | true =>
      simp only [NegState.taskStep, if_true] at h
      split at h
      · cases h
        exact ⟨fun _ => rfl, fun _ => .inl ⟨k, getElem?_set_stepped hoffer⟩⟩
      · cases h
    | false =>
      cases h
      refine ⟨?_, nofun⟩
      rintro (⟨k', hk'⟩ | ⟨-, hpending⟩)
      · exact absurd hk' (hs.not_sent_set hoffer rfl (by decide) k')
      · have hmarked : s.pending := Sound.marked hs _ hmem rfl
        simp [show s.pending = false from hpending] at hmarked
  | _ => cases h

theorem not_recovered_apply (hstep : s.step (.apply k ok) = some s')
    (hend : s.EndsAttempt (.apply k ok)) :
    ¬ s'.Recovered := by
  obtain ⟨phase, hk, h⟩ := Option.bind_eq_some_iff.mp hstep
  cases phase with
  | answering =>
    have hpending : s.pending := Sound.live hs k _ hk rfl
    have hrefused : (s.subscriber && ok) = false := by
      rcases hend with h | h
      · rw [h, Bool.false_and]
      · rw [h, Bool.and_false]
    simp only [NegState.answerStep, hrefused] at h
    cases h
    rintro (⟨k', hk'⟩ | ⟨-, hnot⟩)
    · exact hs.not_sent_set hk rfl (by decide) k' hk'
    · simp [show s.pending = false from hnot] at hpending
  | _ => cases h

end Lawful

/-- **After an attempt a negotiation can be tried again** exactly if it is not forgotten in one of
those ways. -/
theorem attempt_recovers_iff (actions : List NegAction) (s s' : NegState) (a : NegAction)
    (hrun : run step init actions = some s) (hstep : s.step a = some s') (hend : s.EndsAttempt a) :
    s'.Recovered ↔ s.Recovers a := by
  have hs : s.Lawful :=
    run_invariant (fun _ _ _ hs hstep => hs.step hstep) lawful_init hrun
  cases a with
  | create i ok => exact hs.recovered_create hstep hend
  | describe i ok => exact hs.recovered_describe hstep hend
  | send i ok => exact hs.recovered_send hstep
  | apply k ok => exact iff_of_false (hs.not_recovered_apply hstep hend) id
  | _ => exact hend.elim

/-- A negotiation up to the look at the flags. -/
def checkedRun : List NegAction := [.connect, .renegotiate, .wake 0, .acquire 0, .check 0]

/-- A negotiation up to the offer that is to be handed to the channel. -/
def markedRun : List NegAction :=
  checkedRun ++ [.create 0 true, .describe 0 true, .number 0, .mark 0]

/-- The offer reaches the channel. -/
theorem attempt_recovers_sent :
    ∃ s s', run step init markedRun = some s ∧ s.step (.send 0 true) = some s' ∧ s'.Recovered := by
  obtain ⟨s, hrun, hnext⟩ : ∃ s ∈ run step init markedRun, (s.step (.send 0 true)).isSome := by
    decide +kernel
  obtain ⟨s', hstep⟩ := Option.isSome_iff_exists.mp hnext
  exact ⟨s, s', hrun, hstep, (attempt_recovers_iff markedRun s s' _ hrun hstep trivial).mpr rfl⟩

/-- **Attempts that are forgotten**: `create_offer` fails; `set_local_description` fails; the client
is between sessions, so that the offer does not reach the channel; the answer cannot be set. No
negotiation is needed or one is pending after each of them, and no offer awaits its answer. -/
theorem attempt_forgotten :
    (run step init (checkedRun ++ [.create 0 false])).map
        (fun s => (s.needs, s.pending, s.offers)) = some (false, false, []) ∧
    (run step init (checkedRun ++ [.create 0 true, .describe 0 false])).map
        (fun s => (s.needs, s.pending, s.offers)) = some (false, false, [.dropped]) ∧
    (run step init (markedRun ++ [.suspend, .send 0 false])).map
        (fun s => (s.needs, s.pending, s.offers)) = some (false, true, [.dropped]) ∧
    (run step init (markedRun ++ [.send 0 true, .answer 0, .apply 0 false])).map
        (fun s => (s.needs, s.pending, s.offers)) = some (false, true, [.refused]) := by
  decide +kernel

/-! ## Whatever fails -/

/-- **Offers never overlap, whatever fails.** In every run one task at most has the lock, one offer
at most is unanswered or has an answer that could not be set, and `answer_pending` is set while the
client has it. -/
theorem offers_never_overlap {actions : List NegAction} {s : NegState}
    (hrun : run step init actions = some s) :
    (∀ (i j : Nat) (t u : Task), s.tasks[i]? = some t → s.tasks[j]? = some u → t.holds →
      u.holds → i = j) ∧
    (∀ (j k : Nat) (p q : OfferPhase), s.offers[j]? = some p → s.offers[k]? = some q →
      p.isOpen → q.isOpen → j = k) ∧
    ∀ phase ∈ s.offers, phase.isLive → s.pending := by
  have hs : s.Lawful := run_invariant (fun _ _ _ hs hstep => hs.step hstep) lawful_init hrun
  refine ⟨fun i j t u hi hj ht hu => ?_, fun j k p q hj hk hp hq => ?_, fun phase hphase h => ?_⟩
  · exact Sound.exclusive hs i j t u () hi hj (holdKey_eq_some.mpr ht) (holdKey_eq_some.mpr hu)
  · exact Sound.unique hs j k p q () hj hk (openKey_eq_some.mpr hp) (openKey_eq_some.mpr hq)
  · obtain ⟨k, hk⟩ := List.getElem?_of_mem hphase
    exact Sound.live hs k phase hk h

theorem offers_never_overlap_refused : ∃ s ∈ run step init (List.flatten [markedRun,
      [.renegotiate, .send 0 true, .wake 1, .acquire 1, .answer 0, .apply 0 false]]),
    s.offers = [.refused] ∧ s.pending := by
  refine (show ∃ s ∈ run step init _, s.offers = [.refused] by decide +kernel).imp
    fun s ⟨hrun, hoffers⟩ => ⟨hrun, hoffers, (offers_never_overlap hrun).2.2 .refused ?_ rfl⟩
  rw [hoffers]
  exact mem_singleton_self _

/-- **No answer is to come**: `answer_pending` is set, and no offer is unanswered. -/
def Blocked (s : NegState) : Prop :=
  s.pending ∧ ∀ phase ∈ s.offers, phase.unanswered = false

theorem taskStep_idle (hun : t.unmarked = false) (hoffer : t.offer = none)
    (h : s.taskStep i t a = some s') : s'.offers = s.offers ∧ s'.pending = s.pending := by
  revert h
  fun_cases NegState.taskStep s i t a <;> rintro ⟨⟩
  case case4 force _ =>
    fun_cases NegState.checkFlags s i force <;> exact ⟨rfl, rfl⟩
  case case6 => cases hun
  all_goals first | exact ⟨rfl, rfl⟩ | cases hoffer

/-- **Nothing goes on**: no step makes an offer or changes the flag. -/
theorem Blocked.step (hb : s.Blocked) (hs : s.Lawful) (hstep : s.step a = some s') :
    s'.offers = s.offers ∧ s'.pending = s.pending := by
  obtain ⟨hpending, hanswered⟩ := hb
  -- a task that has an offer in its hands, or is to make one, would have found the flag clear
  have hidle : ∀ t ∈ s.tasks, t.unmarked = false ∧ t.offer = none := fun t ht => by
    constructor
    · refine Bool.eq_false_iff.mpr fun hun => ?_
      simp [Sound.unmarked hs t ht hun] at hpending
    · refine Option.eq_none_iff_forall_ne_some.mpr fun k hk => ?_
      cases hanswered _ (mem_of_getElem? (Sound.carried hs t ht k hk))
  unfold NegState.step at hstep
  split at hstep
  case h_1 | h_2 | h_3 | h_4 | h_5 | h_6 | h_7 =>
    cases hstep
    exact ⟨rfl, rfl⟩
  all_goals obtain ⟨x, hx, h⟩ := Option.bind_eq_some_iff.mp hstep
  case h_8 | h_9 | h_10 | h_11 | h_12 | h_13 =>
    obtain ⟨-, hoffers, hpending', -⟩ := opStep_tasks h
    exact ⟨hoffers, hpending'⟩
  case h_22 | h_23 | h_24 =>
    have hphase := hanswered x (mem_of_getElem? hx)
    cases x with
    | sent | answering | applied => cases hphase
    | _ => cases h
  all_goals
    obtain ⟨hun, hoffer⟩ := hidle x (mem_of_getElem? hx)
    exact taskStep_idle hun hoffer h

/-- **A lost offer is the last one.** Once `answer_pending` is set and no offer is unanswered, the
offer having not reached the channel or its answer having been refused, no offer is made whatever
happens. -/
theorem blocked_for_good {actions later : List NegAction} {s s' : NegState}
    (hrun : run step init actions = some s) (hb : s.Blocked)
    (hlater : run step s later = some s') : s'.offers = s.offers ∧ s'.pending := by
  have hs : s.Lawful := run_invariant (fun _ _ _ hs hstep => hs.step hstep) lawful_init hrun
  obtain ⟨-, hoffers, hpending⟩ := run_invariant
    (I := fun x : NegState => x.Lawful ∧ x.offers = s.offers ∧ x.pending)
    (fun x _ x' ⟨hx, hoffers, hpending⟩ hstep => by
      have hstay := Blocked.step ⟨hpending, hoffers ▸ hb.2⟩ hx hstep
      exact ⟨hx.step hstep, hstay.1.trans hoffers, hstay.2.trans hpending⟩) ⟨hs, rfl, hb.1⟩ hlater
  exact ⟨hoffers, hpending⟩

/-- The client is between sessions when its offer is sent; it comes back, and a track is subscribed
to. -/
theorem blocked_after_resume : ∃ s ∈ run step init (List.flatten [markedRun,
      [.suspend, .send 0 false]]),
    ∃ s' ∈ run step s [.resume, .add "TR_a", .setup 0 none, .attach 0 .attached, .record 0,
      .request 0, .wake 1, .acquire 1, .check 1], s.Blocked ∧ s'.offers = [.dropped] := by
  obtain ⟨s, hrun, s', hlater, hpending, hoffers⟩ : ∃ s ∈ run step init (List.flatten [markedRun,
      [.suspend, .send 0 false]]),
    ∃ s' ∈ run step s [.resume, .add "TR_a", .setup 0 none, .attach 0 .attached, .record 0,
      .request 0, .wake 1, .acquire 1, .check 1], s.pending ∧ s.offers = [.dropped] := by
    decide +kernel
  have hb : s.Blocked := ⟨hpending, by simp [hoffers, OfferPhase.unanswered]⟩
  exact ⟨s, hrun, s', hlater, hb, (blocked_for_good hrun hb hlater).1.trans hoffers⟩

end NegState

end LivekitVoice.Media
