import Mathlib.Data.List.AList
import LivekitVoice.Psrpc.Client
import LivekitVoice.Transition.Registry
import LivekitVoice.Transition.Run

/-! # The pending requests of a psrpc client

All calls of one client share a map from request ids to the channels of the calls. `request_single`
puts its entry in, runs under a timeout, and takes the entry out; but if the timeout passes, the
call returns before it gets there. A call whose entry is replaced, because its id was drawn again,
loses its channels and ends with an error.

* **`FlagsOk`** — with fresh ids, the map is what the flag `pending` of each call says it is,
* **`pending_exact_iff`** — the map has exactly the calls that have not returned, exactly if no call
  times out. -/

namespace LivekitVoice.Psrpc

open Transition

/-! ## The client -/

/-- The call has returned. -/
def CallPhase.isReturned : CallPhase → Bool
  | .returned _ => true
  | _ => false

/-- A call of `request_single` on a client. -/
structure ClientCall where
  /-- What is called, and the id drawn for it. -/
  spec : CallSpec
  /-- Where the call stands. -/
  state : CallState
  /-- It has returned `ChannelClosed`. -/
  closed : Bool

/-- The call has returned, one way or another. -/
def ClientCall.returned (c : ClientCall) : Bool := c.closed || c.state.phase.isReturned

/-- A call is under way: a timeout can still pass. -/
def ClientCall.underWay (c : ClientCall) : Bool :=
  !c.closed &&
    match c.state.phase with
    | .sending _ _ | .granting _ _ | .waiting _ => true
    | .ready | .returned _ => false

/-- **A psrpc client at one moment.** -/
structure PendingClient where
  /-- `pending`: for a request id, the call whose channels the entry holds. -/
  pending : AList fun _ : String => Nat
  /-- The calls that were made. -/
  calls : List ClientCall

/-- What can happen at a client. -/
inductive PendingAction
  /-- `request_single` is called at time `now` and draws `requestId`. -/
  | call (requestId method topic : String) (payload : Payload) (timeout now : Int)
  /-- A step of a call. -/
  | move (i : Nat) (a : CallAction)
  /-- A call finds that its channels are closed. -/
  | closed (i : Nat)
  /-- The listener gets a message. -/
  | receive (msg : Msg)

/-- A call that has just been made. -/
def ClientCall.made (k : CallSpec) (now : Int) : ClientCall :=
  ⟨k, ⟨.sending (k.request now) 0, true, [], []⟩, false⟩

/-- The request a message for a client is about. -/
def Msg.about : Msg → Option String
  | .claimRequest claim => some claim.requestId
  | .response resp => some resp.requestId
  | .request _ | .claimResponse _ => none

/-- A message is put into its queue. -/
def CallState.deliver (s : CallState) : Msg → CallState
  | .claimRequest claim => { s with claims := s.claims ++ [claim] }
  | .response resp => { s with responses := s.responses ++ [resp] }
  | .request _ | .claimResponse _ => s

namespace PendingClient

/-- A client that has just been made. -/
def new : PendingClient := ⟨∅, []⟩

/-- The channels of call `i` are still open: its entry has not been replaced. -/
def channelsOpen (s : PendingClient) (i : Nat) (c : ClientCall) : Bool :=
  s.pending.lookup c.spec.requestId = some i

/-- The end of `request_single`, after a step of call `i`: the entry is taken out once the call
returns, unless the timeout has passed. -/
def afterMove (s : PendingClient) (i : Nat) (c : ClientCall) (a : CallAction) (t : CallState) :
    PendingClient :=
  let calls := s.calls.set i { c with state := t }
  match a with
  -- `map_err(..)?` returns from `request_single` in front of the `remove`
  | .timeout _ => { s with calls }
  | _ =>
    if t.phase.isReturned then { pending := s.pending.erase c.spec.requestId, calls }
    else { s with calls }

/-- `dispatch`: a message goes to the call whose entry has its id. -/
def receive (s : PendingClient) (msg : Msg) : PendingClient :=
  match msg.about.bind fun id => s.pending.lookup id with
  | some i =>
    { s with calls := s.calls.modify i fun c => { c with state := c.state.deliver msg } }
  | none => s

/-- **One step of a client.** -/
def step (client : PsrpcClient) (s : PendingClient) : PendingAction → Option PendingClient
  | .call requestId method topic payload timeout now =>
    some
      { pending := s.pending.insert requestId s.calls.length
        calls := s.calls ++
          [.made ⟨client, requestId, method, topic, payload, timeout⟩ now] }
  | .move i a =>
    match s.calls[i]? with
    | none => none
    | some c =>
      if c.closed then none
      else
        match a with
        | .start _ => none
        | .claim =>
          -- closed channels are noticed before a bid is looked at
          if s.channelsOpen i c then
            (c.spec.step c.state .claim).map fun t => s.afterMove i c .claim t.1
          else none
        | a => (c.spec.step c.state a).map fun t => s.afterMove i c a t.1
  | .closed i =>
    match s.calls[i]? with
    | none => none
    | some c =>
      match c.closed, c.state.phase, c.state.responses with
      | false, .waiting _, [] =>
        if s.channelsOpen i c then none
        else
          some
            { pending := s.pending.erase c.spec.requestId
              calls := s.calls.set i
                { c with
                  state := { c.state with pending := false }
                  closed := true } }
      | _, _, _ => none
  | .receive msg => some (s.receive msg)

end PendingClient

/-! ## What a step of a call does to it -/

/-- **How a call steps**, as far as the map is concerned: it goes on, it runs into its timeout, or
it returns otherwise. -/
inductive CallOutcome (s t : CallState) : CallAction → Prop
  /-- It goes on. -/
  | goesOn (a : CallAction) (ha : ∀ executed, a ≠ .timeout executed)
      (hbefore : s.phase.isReturned = false) (hphase : t.phase.isReturned = false)
      (hpending : t.pending = s.pending) : CallOutcome s t a
  /-- The timeout passes. -/
  | timesOut (executed : Bool) (hbefore : s.phase.isReturned = false)
      (hphase : t.phase.isReturned) (hpending : t.pending = s.pending) :
      CallOutcome s t (.timeout executed)
  /-- It returns. -/
  | returns (a : CallAction) (ha : ∀ executed, a ≠ .timeout executed)
      (hbefore : s.phase.isReturned = false) (hphase : t.phase.isReturned)
      (hpending : t.pending = false) : CallOutcome s t a

theorem callOutcome_published {s : CallState} {again next : CallPhase} {attempt : Nat} {o : Attempt}
    (hbefore : s.phase.isReturned = false) (hagain : again.isReturned = false)
    (hnext : next.isReturned = false) :
    CallOutcome s (s.published attempt o again next) (.publish o) := by
  unfold CallState.published
  split
  · exact .goesOn _ nofun hbefore hagain rfl
  · exact .goesOn _ nofun hbefore hnext rfl
  · exact .returns _ nofun hbefore rfl rfl

/-- **Every step of a call under way** is one of the three. -/
theorem callOutcome_of_step {k : CallSpec} {s t : CallState} {a : CallAction} {ps : List Packet}
    (h : k.step s a = some (t, ps)) (ha : ∀ now, a ≠ .start now) : CallOutcome s t a := by
  revert h
  fun_cases CallSpec.step k s a <;> rintro ⟨⟩
  case case1 => exact absurd rfl (ha _)
  all_goals have hopen : s.phase.isReturned = false := by rw [‹s.phase = _›]; rfl
  · exact callOutcome_published hopen rfl rfl
  · exact callOutcome_published hopen rfl rfl
  · exact .returns _ (by simp) hopen rfl rfl
  · exact .goesOn _ (by simp) hopen hopen rfl
  · exact .goesOn _ (by simp) hopen rfl rfl
  all_goals exact .timesOut _ hopen rfl rfl

/-! ## What a step of a client does -/

namespace PendingClient

variable {client : PsrpcClient} {s s' : PendingClient} {i : Nat} {c : ClientCall} {t : CallState}
  {a : CallAction}

theorem move_eq_some (h : step client s (.move i a) = some s') :
    ∃ c t, s.calls[i]? = some c ∧ c.closed = false ∧ CallOutcome c.state t a ∧
      s' = s.afterMove i c a t := by
  simp only [step] at h
  split at h
  · cases h
  · next c hc =>
    split at h
    · cases h
    · next hopen =>
      -- a bid is a step of the call like the others, once the channels are open
      have hmove : ∀ {a : CallAction}, (∀ now, a ≠ .start now) →
          (c.spec.step c.state a).map (fun t => s.afterMove i c a t.1) = some s' →
          ∃ c t, s.calls[i]? = some c ∧ c.closed = false ∧ CallOutcome c.state t a ∧
            s' = s.afterMove i c a t := by
        intro a ha h
        obtain ⟨⟨t, ps⟩, hstep, rfl⟩ := Option.map_eq_some_iff.mp h
        exact ⟨c, t, hc, by simpa using hopen, callOutcome_of_step hstep ha, rfl⟩
      split at h
      · cases h
      · split at h
        · exact hmove nofun h
        · cases h
      · next a hstart _ => exact hmove (hstart) h

theorem afterMove_of_not_returns
    (h : t.phase.isReturned = false ∨ ∃ executed, a = .timeout executed) :
    s.afterMove i c a t = { s with calls := s.calls.set i { c with state := t } } := by
  unfold afterMove
  rcases h with hphase | ⟨executed, rfl⟩
  · split
    · rfl
    · rw [if_neg (by simp [hphase])]
  · rfl

theorem afterMove_of_returns (ha : ∀ executed, a ≠ .timeout executed)
    (hphase : t.phase.isReturned) :
    s.afterMove i c a t =
      { pending := s.pending.erase c.spec.requestId
        calls := s.calls.set i { c with state := t } } := by
  unfold afterMove
  split
  · next executed => exact absurd rfl (ha executed)
  · rw [if_pos hphase]

/-! ## The flags of the calls -/

/-- Whether the map has the entry of the call. -/
def flagged (c : ClientCall) : Bool := c.state.pending

/-- **The map is what the flags of the calls say**, and a call that has not returned is flagged. -/
structure FlagsOk (s : PendingClient) : Prop where
  /-- The entries are those of the flagged calls. -/
  map : Indexes (fun c => c.spec.requestId) flagged s.calls fun id => s.pending.lookup id
  /-- No channel was closed, and calls under way are flagged. -/
  underWay : ∀ (i : Nat) (c : ClientCall), s.calls[i]? = some c →
    c.closed = false ∧ (c.state.phase.isReturned = false → c.state.pending)

namespace FlagsOk

variable (hs : FlagsOk s)
include hs

theorem flag (hc : s.calls[i]? = some c) (hflag : c.state.pending) :
    s.pending.lookup c.spec.requestId = some i :=
  (hs.map _ i).mpr ⟨c, hc, rfl, hflag⟩

theorem call {k : CallSpec} {now : Int} (hfresh : k.requestId ∉ s.pending) :
    FlagsOk
      { pending := s.pending.insert k.requestId s.calls.length
        calls := s.calls ++ [.made k now] } where
  map := hs.map.enter (AList.lookup_eq_none.mpr hfresh) rfl (AList.lookup_insert _)
    fun _ hid => AList.lookup_insert_ne hid
  underWay := forall_concat hs.underWay ⟨rfl, fun _ => rfl⟩

theorem set (hc : s.calls[i]? = some c) (hflag : t.pending = c.state.pending)
    (hway : t.phase.isReturned = false → c.state.phase.isReturned = false) :
    FlagsOk { s with calls := s.calls.set i { c with state := t } } := by
  obtain ⟨hclosed, hpending⟩ := hs.underWay i c hc
  refine ⟨hs.map.set_of_eq hc rfl hflag, forall_set hc (fun j d _ hd => hs.underWay j d hd) ?_⟩
  exact ⟨hclosed, fun h => hflag.trans (hpending (hway h))⟩

theorem returns (hc : s.calls[i]? = some c) (hway : c.state.phase.isReturned = false)
    (hphase : t.phase.isReturned) (hflag : t.pending = false) :
    FlagsOk
      { pending := s.pending.erase c.spec.requestId
        calls := s.calls.set i { c with state := t } } := by
  obtain ⟨hclosed, hpending⟩ := hs.underWay i c hc
  have hentry := hs.flag hc (hpending hway)
  refine ⟨hs.map.set hc rfl (fun j hj => ?_) ?_ fun _ hid => AList.lookup_erase_ne hid,
    forall_set hc (fun j d _ hd => hs.underWay j d hd) ⟨hclosed, fun h => ?_⟩⟩
  · exact Option.some.inj (hj.symm.trans hentry)
  · rw [AList.lookup_erase, flagged, hflag]
    rfl
  · simp [hphase] at h

end FlagsOk

/-! ## The listener -/

@[simp] theorem phase_deliver (t : CallState) (msg : Msg) : (t.deliver msg).phase = t.phase := by
  cases msg <;> rfl

@[simp] theorem pending_deliver (t : CallState) (msg : Msg) :
    (t.deliver msg).pending = t.pending := by
  cases msg <;> rfl

theorem FlagsOk.receive (hs : FlagsOk s) (msg : Msg) : FlagsOk (s.receive msg) := by
  unfold PendingClient.receive
  split
  · next i hentry =>
    obtain ⟨id, -, hid⟩ := Option.bind_eq_some_iff.mp hentry
    obtain ⟨c, hc, -⟩ := (hs.map id i).mp hid
    have hset : s.calls.modify i (fun c => { c with state := c.state.deliver msg }) =
        s.calls.set i { c with state := c.state.deliver msg } := by
      rw [List.modify_eq_set_getElem?, hc]
      rfl
    rw [hset]
    exact hs.set hc (pending_deliver ..) fun h => by rwa [phase_deliver] at h
  · exact hs

/-! ## Fresh ids -/

/-- **Fresh ids**: a call draws an id that is not in the map. -/
def FreshId (s : PendingClient) : PendingAction → Prop
  | .call requestId _ _ _ _ _ => requestId ∉ s.pending
  | _ => True

instance decidableFreshId (s : PendingClient) (a : PendingAction) : Decidable (FreshId s a) := by
  unfold FreshId
  split <;> infer_instance

theorem not_closed (hs : FlagsOk s) : step client s (.closed i) ≠ some s' := by
  simp only [step]
  split
  · nofun
  · next c hc =>
    split
    · next granted hopen hphase hresp =>
      -- a waiting call whose entry was replaced
      split
      · nofun
      · next hclosed =>
        have hgone : s.pending.lookup c.spec.requestId ≠ some i := by
          simpa [channelsOpen] using hclosed
        refine absurd (hs.flag hc ((hs.underWay i c hc).2 ?_)) hgone
        rw [hphase]
        rfl
    · nofun

/-- **The flags stay right** in every step with a fresh id. -/
theorem FlagsOk.step {act : PendingAction} (hs : FlagsOk s) (hfresh : FreshId s act)
    (h : step client s act = some s') : FlagsOk s' := by
  cases act with
  | call requestId method topic payload timeout now =>
    cases h
    have hid : (⟨client, requestId, method, topic, payload, timeout⟩ : CallSpec).requestId ∉
        s.pending := hfresh
    exact hs.call hid
  | move i a =>
    obtain ⟨c, t, hc, -, houtcome, rfl⟩ := move_eq_some h
    cases houtcome with
    | goesOn _ ha hbefore hphase hpending =>
      rw [afterMove_of_not_returns (.inl hphase)]
      exact hs.set hc hpending fun _ => hbefore
    | timesOut executed hbefore hphase hpending =>
      rw [afterMove_of_not_returns (.inr ⟨executed, rfl⟩)]
      exact hs.set hc hpending fun _ => hbefore
    | returns _ ha hbefore hphase hpending =>
      rw [afterMove_of_returns ha hphase]
      exact hs.returns hc hbefore hphase hpending
  | closed i => exact absurd h (not_closed hs)
  | receive msg =>
    cases h
    exact hs.receive msg

/-! ## The map is exact -/

/-- **The map has exactly the ids of the calls that have not returned.** -/
def ExactPending (s : PendingClient) : Prop :=
  ∀ id, id ∈ s.pending ↔ ∃ c ∈ s.calls, c.returned = false ∧ c.spec.requestId = id

/-- No call that has returned is still flagged. -/
def NoResidue (s : PendingClient) : Prop :=
  ∀ (i : Nat) (c : ClientCall), s.calls[i]? = some c → c.state.phase.isReturned →
    c.state.pending = false

/-- **The map is exact if and only if no call left a flag behind.** -/
theorem exactPending_iff (hs : FlagsOk s) : ExactPending s ↔ NoResidue s := by
  have hmem : ∀ {id}, id ∈ s.pending ↔ ∃ i, s.pending.lookup id = some i := fun {id} => by
    rw [← AList.lookup_isSome, Option.isSome_iff_exists]
  constructor
  · intro hexact i c hc hreturned
    by_contra hflag
    rw [Bool.not_eq_false] at hflag
    have hentry := hs.flag hc hflag
    obtain ⟨d, hd, hway, hid⟩ := (hexact c.spec.requestId).mp (hmem.mpr ⟨i, hentry⟩)
    obtain ⟨j, hj⟩ := List.mem_iff_getElem?.mp hd
    rw [ClientCall.returned, Bool.or_eq_false_iff] at hway
    -- the call under way has the same entry, so it is the one that has returned
    have hentry' := hs.flag hj ((hs.underWay j d hj).2 hway.2)
    rw [hid, hentry] at hentry'
    obtain rfl : i = j := Option.some.inj hentry'
    obtain rfl : c = d := Option.some.inj (hc.symm.trans hj)
    rw [hreturned] at hway
    cases hway.2
  · intro hresidue id
    rw [hmem]
    constructor
    · rintro ⟨i, hentry⟩
      obtain ⟨c, hc, hid, hflag⟩ := (hs.map id i).mp hentry
      refine ⟨c, List.mem_of_getElem? hc, ?_, hid⟩
      rw [ClientCall.returned, (hs.underWay i c hc).1, Bool.false_or, ← Bool.not_eq_true]
      intro hreturned
      simp [flagged, hresidue i c hc hreturned] at hflag
    · rintro ⟨c, hc, hway, rfl⟩
      obtain ⟨i, hi⟩ := List.mem_iff_getElem?.mp hc
      rw [ClientCall.returned, Bool.or_eq_false_iff] at hway
      exact ⟨i, hs.flag hi ((hs.underWay i c hi).2 hway.2)⟩

/-- **No call times out** while it is under way. -/
def NoTimeout (s : PendingClient) : PendingAction → Prop
  | .move i (.timeout _) => (s.calls[i]?).all (fun c => !c.underWay)
  | _ => True

instance decidableNoTimeout (s : PendingClient) (a : PendingAction) :
    Decidable (NoTimeout s a) := by
  unfold NoTimeout
  split <;> infer_instance

/-- **A call can time out** exactly where the condition forbids it. -/
theorem timeout_isSome_iff {executed : Bool} :
    (step client s (.move i (.timeout executed))).isSome ↔
      ¬ NoTimeout s (.move i (.timeout executed)) := by
  simp only [step, NoTimeout]
  cases s.calls[i]? with
  | none => simp
  | some c =>
    cases hclosed : c.closed with
    | true => simp [ClientCall.underWay, hclosed]
    | false =>
      cases hphase : c.state.phase <;>
        simp [ClientCall.underWay, hclosed, hphase, CallSpec.step]

/-- **Without timeouts** a call that returns has its flag taken. -/
theorem NoResidue.step {act : PendingAction} (hs : FlagsOk s) (hresidue : NoResidue s)
    (hguard : NoTimeout s act) (h : PendingClient.step client s act = some s') : NoResidue s' := by
  cases act with
  | call requestId method topic payload timeout now =>
    cases h
    exact forall_concat hresidue nofun
  | move i a =>
    have hmove := h
    obtain ⟨c, t, hc, -, houtcome, rfl⟩ := move_eq_some h
    cases houtcome with
    | goesOn _ ha hbefore hphase hpending =>
      rw [afterMove_of_not_returns (.inl hphase)]
      refine forall_set hc (fun j d _ hd => hresidue j d hd) fun hreturned => ?_
      simp [hphase] at hreturned
    | timesOut executed hbefore hphase hpending =>
      exact absurd hguard (timeout_isSome_iff.mp (Option.isSome_of_eq_some hmove))
    | returns _ ha hbefore hphase hpending =>
      rw [afterMove_of_returns ha hphase]
      exact forall_set hc (fun j d _ hd => hresidue j d hd) fun _ => hpending
  | closed i => exact absurd h (not_closed hs)
  | receive msg =>
    cases h
    unfold PendingClient.receive
    split
    · refine forall_modify (fun j d _ hd => hresidue j d hd) fun d hd hreturned => ?_
      rw [phase_deliver] at hreturned
      rw [pending_deliver]
      exact hresidue _ d hd hreturned
    · exact hresidue

/-- **A timeout leaves an entry behind.** -/
theorem residue_of_timeout {executed : Bool} (hs : FlagsOk s)
    (h : PendingClient.step client s (.move i (.timeout executed)) = some s') : ¬ NoResidue s' := by
  obtain ⟨c, t, hc, -, houtcome, rfl⟩ := move_eq_some h
  intro hresidue
  cases houtcome with
  | goesOn _ ha hbefore hphase hpending | returns _ ha hbefore hphase hpending =>
    exact absurd rfl (ha executed)
  | timesOut _ hbefore hphase hpending =>
    rw [afterMove_of_not_returns (.inr ⟨executed, rfl⟩)] at hresidue
    have hgone := hresidue i _ (getElem?_set_stepped hc) hphase
    simp [hpending, (hs.underWay i c hc).2 hbefore] at hgone

/-- **When the map of pending requests is exact.** Along any run of a client whose calls draw fresh
ids, the map has exactly the ids of the calls that have not returned, in every state, if and only if
no call runs into its timeout. -/
theorem pending_exact_iff (client : PsrpcClient) {as : List PendingAction}
    (hfresh : Along (PendingClient.step client) FreshId new as) :
    Throughout (PendingClient.step client) ExactPending new as ↔
      Along (PendingClient.step client) NoTimeout new as := by
  have hnew : NoResidue new := fun i c h => by simp [new] at h
  have hflags : FlagsOk new := ⟨fun _ _ => by simp [new], fun _ _ h => by simp [new] at h⟩
  refine throughout_iff_along_of (I := fun s => FlagsOk s ∧ NoResidue s)
    (fun s hs => (exactPending_iff hs.1).mpr hs.2) ?_ ?_ ?_ ⟨hflags, hnew⟩ hfresh
  · intro s act _ hnone
    cases act with
    | move i a =>
      cases a with
      | timeout executed =>
        by_contra hway
        have hsome : (PendingClient.step client s (.move i (.timeout executed))).isSome :=
          timeout_isSome_iff.mpr hway
        simp [hnone] at hsome
      | _ => trivial
    | _ => trivial
  · intro s act s' hs hid hguard h
    exact ⟨hs.1.step hid h, NoResidue.step hs.1 hs.2 hguard h⟩
  · intro s act s' hs hid h hexact
    have hresidue := (exactPending_iff (hs.1.step hid h)).mp hexact
    cases act with
    | move i a =>
      cases a with
      | timeout executed => exact absurd hresidue (residue_of_timeout hs.1 h)
      | _ => trivial
    | _ => trivial

/-- A client of the service for outbound calls. -/
def sampleClient : PsrpcClient := ⟨"SIPInternal", "CLI_1"⟩

/-- Two calls at once: the bid for the first is granted and it gets its response, and the second
ends with an error of the bus. -/
def twoCalls : List PendingAction :=
  [.call "REQ_1" "CreateSIPParticipant" "" [] 10 0, .call "REQ_2" "CreateSIPParticipant" "" [] 10 1,
    .move 0 (.publish .ok), .receive (.claimRequest ⟨"REQ_1", "SRV_1"⟩), .move 0 .claim,
    .move 1 (.publish .noConn), .move 0 (.publish .ok),
    .receive (.response ⟨"REQ_1", "SRV_1", [1], "", ""⟩), .move 0 .response]

/-- Calls that end in time leave nothing behind. -/
theorem pending_exact_twoCalls :
    Along (PendingClient.step sampleClient) FreshId new twoCalls ∧
      Throughout (PendingClient.step sampleClient) ExactPending new twoCalls := by
  have hfresh : Along (PendingClient.step sampleClient) FreshId new twoCalls := by decide +kernel
  exact ⟨hfresh, (pending_exact_iff sampleClient hfresh).mpr (by decide +kernel)⟩

/-- **A request that is never answered** stays in the map after its call has returned. -/
theorem pending_after_timeout :
    (run (PendingClient.step sampleClient) new
      [.call "REQ_1" "CreateSIPParticipant" "" [] 10 0, .move 0 (.publish .ok),
        .move 0 (.timeout false)]).map
      (fun s => (s.pending.keys, s.calls.map ClientCall.returned)) = some (["REQ_1"], [true]) := by
  decide +kernel

end PendingClient

end LivekitVoice.Psrpc
