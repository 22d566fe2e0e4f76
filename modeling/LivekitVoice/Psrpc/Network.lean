import LivekitVoice.Psrpc.Client
import LivekitVoice.Transition.Run

/-! # Clients and servers over a lossy bus

Any number of calls and server tasks, over a bus that has executed a sequence of `PUBLISH` commands.
A subscriber may get a published packet at any later time, any number of times, or never: the bus
loses, delays, duplicates and reorders.

* **`GrantInv`** — where requests, grants, map entries and started handlers come from.
* **`request_on_one_server`** — all handlers of a request run on one server, on the caller's
  payload, and a result the caller gets was produced by one of them. -/

namespace LivekitVoice.Psrpc

open List Option Transition

/-! ## The system -/

/-- `RpcError`: the error of a handler. -/
structure RpcError where
  code : String
  message : String
  deriving DecidableEq

/-- A server task at one moment. -/
structure TaskState where
  /-- The requests it has bid for. -/
  pending : PendingMap
  /-- The bid it is publishing, with the number of the attempt. -/
  bidding : Option (Packet × Nat)

/-- A handler that was started. -/
structure Started (τ : Type) where
  /-- The task that started it. -/
  task : τ
  /-- The request it runs. -/
  requestId : String
  /-- What the task knew of the request. -/
  request : PendingRequest

/-- Where a started handler stands. -/
inductive HandlerPhase
  /-- In the handler. -/
  | running
  /-- Publishing the response. -/
  | answering (result : Except RpcError Payload) (attempt : Nat)
  /-- The response is published, or given up. -/
  | done (result : Except RpcError Payload)

/-- What the handler has produced. -/
def HandlerPhase.result : HandlerPhase → Option (Except RpcError Payload)
  | .running => none
  | .answering result _ => some result
  | .done result => some result

/-- The response to a request. -/
def Response.ofResult (rid serverId : String) : Except RpcError Payload → Response
  | .ok bytes => ⟨rid, serverId, bytes, "", ""⟩
  | .error e => ⟨rid, serverId, [], e.message, e.code⟩

/-- **The system at one moment.** -/
structure Net (τ κ : Type) where
  /-- The packets published so far. -/
  log : List Packet
  /-- The server tasks. -/
  task : τ → TaskState
  /-- How far each task's subscription has got: one past the packet it has received last. -/
  seen : τ → Nat
  /-- The handlers started so far. -/
  started : List (Started τ)
  /-- Where each of them stands, by its place in the list. -/
  handler : Nat → HandlerPhase
  call : κ → CallState

/-- The steps of the system. -/
inductive NetAction (τ κ : Type)
  /-- A step of a call. -/
  | call (k : κ) (a : CallAction)
  /-- The listener of a call's client gets packet number `i`. -/
  | dispatch (k : κ) (i : Nat)
  /-- A task gets packet number `i` at time `now`. -/
  | deliver (t : τ) (i : Nat) (now : Int)
  /-- A task's attempt to publish its bid. -/
  | bid (t : τ) (o : Attempt)
  /-- A handler returns. -/
  | finish (h : Nat) (result : Except RpcError Payload)
  /-- An attempt to publish a handler's response. -/
  | answer (h : Nat) (o : Attempt)

section Net

variable {τ κ : Type}

/-- The packet with a handler's response. -/
def answerPacket (reg : τ → Registration) (st : Started τ) (result : Except RpcError Payload) :
    Packet :=
  ⟨responseChannel (reg st.task).server.service st.request.clientId,
    .response (.ofResult st.requestId (reg st.task).server.serverId result)⟩

/-- The task after a message: its map, and the bid it starts to publish. -/
def Reaction.taskState (r : Reaction) : TaskState := ⟨r.pending, r.claim.map fun bid => (bid, 0)⟩

/-- The handler a task starts on a message. -/
def Reaction.started (r : Reaction) (t : τ) : List (Started τ) :=
  (r.spawn.map fun x => ⟨t, x.1, x.2⟩).toList

theorem Reaction.mem_started {r : Reaction} {t : τ} {st : Started τ} :
    st ∈ r.started t ↔ ∃ rid q, r.spawn = some (rid, q) ∧ st = ⟨t, rid, q⟩ := by
  rw [Reaction.started, mem_toList, map_eq_some_iff]
  constructor
  · rintro ⟨⟨rid, q⟩, hspawn, rfl⟩
    exact ⟨rid, q, hspawn, rfl⟩
  · rintro ⟨rid, q, hspawn, rfl⟩
    exact ⟨(rid, q), hspawn, rfl⟩

namespace Net

/-- Nothing has been published and no call has been made. -/
def init : Net τ κ := ⟨[], fun _ => ⟨fun _ => none, none⟩, fun _ => 0, [], fun _ => .running,
  fun _ => .init⟩

/-- **One step of the system.** -/
def step [DecidableEq τ] [DecidableEq κ] (reg : τ → Registration) (spec : κ → CallSpec)
    (s : Net τ κ) : NetAction τ κ → Option (Net τ κ)
  | .call k a =>
    ((spec k).step (s.call k) a).map fun r =>
      { s with call := Function.update s.call k r.1, log := s.log ++ r.2 }
  | .dispatch k i =>
    match s.log[i]? with
    | some p =>
      if (spec k).listens p.channel then
        some { s with call := Function.update s.call k ((spec k).dispatch (s.call k) p.msg) }
      else none
    | none => none
  | .deliver t i now =>
    -- a task that is still publishing its last bid does not read on
    match (s.task t).bidding, s.log[i]? with
    | none, some p =>
      if p.channel = (reg t).rpcCh ∨ p.channel = (reg t).rclaimCh then
        let reaction := (reg t).receive (s.task t).pending now p
        some { s with
          task := Function.update s.task t reaction.taskState,
          seen := Function.update s.seen t (i + 1),
          started := s.started ++ reaction.started t }
      else none
    | _, _ => none
  | .bid t o =>
    match (s.task t).bidding with
    | some (bid, attempt) =>
      some { s with
        task := Function.update s.task t
          ⟨(s.task t).pending, if publishNext attempt o = .retry then some (bid, 1) else none⟩,
        log := s.log ++ o.packets bid }
    | none => none
  | .finish h result =>
    match s.started[h]?, s.handler h with
    | some _, .running =>
      some { s with handler := Function.update s.handler h (.answering result 0) }
    | _, _ => none
  | .answer h o =>
    match s.started[h]?, s.handler h with
    | some st, .answering result attempt =>
      some { s with
        handler := Function.update s.handler h
          (if publishNext attempt o = .retry then .answering result 1 else .done result),
        log := s.log ++ o.packets (answerPacket reg st result) }
    | _, _ => none

end Net

/-! ## Where requests, grants and handlers come from -/

/-- The bus has carried the request `rid` to the task, which knows it as `q`. -/
def Registration.Requested (r : Registration) (log : List Packet) (rid : String)
    (q : PendingRequest) : Prop :=
  ∃ req, r.requestPacket req ∈ log ∧ req.requestId = rid ∧ req.toPending = q

theorem Registration.Requested.append {r : Registration} {log : List Packet} {rid : String}
    {q : PendingRequest} (h : r.Requested log rid q) (ps : List Packet) :
    r.Requested (log ++ ps) rid q := by
  obtain ⟨req, hmem, hreq⟩ := h
  exact ⟨req, mem_append_left ps hmem, hreq⟩

/-- **The invariant of requests and grants.** -/
structure GrantInv (reg : τ → Registration) (spec : κ → CallSpec) (s : Net τ κ) : Prop where
  /-- A request on the bus is that of a call. -/
  requests : ∀ channel req, ⟨channel, .request req⟩ ∈ s.log →
    ∃ k now, req = (spec k).request now
  /-- A grant on the bus is on the channel of the call it is for. -/
  grants : ∀ channel grant, ⟨channel, .claimResponse grant⟩ ∈ s.log →
    ∃ k, ⟨channel, .claimResponse grant⟩ = (spec k).grantPacket grant ∧
      grant.requestId = (spec k).requestId
  /-- A request is granted to one server only. -/
  agree : ∀ rid server server', GrantedTo s.log rid server → GrantedTo s.log rid server' →
    server = server'
  /-- What a task is publishing is a bid. -/
  bids : ∀ t bid attempt, (s.task t).bidding = some (bid, attempt) →
    ∃ claim, bid.msg = .claimRequest claim
  /-- What is in the map of a task was requested. -/
  pending : ∀ t rid q, (s.task t).pending rid = some q → (reg t).Requested s.log rid q
  /-- A handler that was started was requested and granted. -/
  started : ∀ st ∈ s.started, (reg st.task).grantPacket st.requestId ∈ s.log ∧
    (reg st.task).Requested s.log st.requestId st.request
  /-- What the calls know. -/
  call : ∀ k, CallOk (spec k) (s.call k) s.log

section Step

variable {reg : τ → Registration} {spec : κ → CallSpec} {s s' : Net τ κ} {a : NetAction τ κ}

theorem grantInv_init : GrantInv reg spec (Net.init : Net τ κ) where
  requests := by simp [Net.init]
  grants := by simp [Net.init]
  agree := by simp [Net.init, GrantedTo]
  bids := by simp [Net.init]
  pending := by simp [Net.init]
  started := by simp [Net.init]
  call k := ⟨by simp [Net.init, CallState.init], nofun⟩

/-- **Claims and responses** grant nothing. -/
theorem GrantInv.append (hI : GrantInv reg spec s) {ps : List Packet}
    (hps : ∀ p ∈ ps, (∃ claim, p.msg = .claimRequest claim) ∨ ∃ resp, p.msg = .response resp) :
    GrantInv reg spec { s with log := s.log ++ ps } := by
  have hreq : ∀ channel req, (⟨channel, .request req⟩ : Packet) ∉ ps := by
    intro channel req hp
    rcases hps _ hp with ⟨claim, hmsg⟩ | ⟨resp, hmsg⟩ <;> cases hmsg
  have hgrant : ∀ channel grant, (⟨channel, .claimResponse grant⟩ : Packet) ∉ ps := by
    intro channel grant hp
    rcases hps _ hp with ⟨claim, hmsg⟩ | ⟨resp, hmsg⟩ <;> cases hmsg
  have hgranted : ∀ rid server, ¬ GrantedTo ps rid server := by
    rintro rid server ⟨⟨channel, msg⟩, hp, rfl⟩
    exact hgrant channel _ hp
  have hlog : ∀ rid server, GrantedTo (s.log ++ ps) rid server → GrantedTo s.log rid server :=
    fun rid server hg => (grantedTo_append.mp hg).resolve_right (hgranted rid server)
  constructor
  · intro channel req hp
    exact hI.requests channel req ((mem_append.mp hp).resolve_right (hreq channel req))
  · intro channel grant hp
    exact hI.grants channel grant ((mem_append.mp hp).resolve_right (hgrant channel grant))
  · exact fun rid server server' hg hg' =>
      hI.agree rid server server' (hlog rid server hg) (hlog rid server' hg')
  · exact hI.bids
  · exact fun t rid q hq => (hI.pending t rid q hq).append ps
  · intro st hst
    obtain ⟨hgrant, hrequested⟩ := hI.started st hst
    exact ⟨mem_append_left ps hgrant, hrequested.append ps⟩
  · exact fun k => (hI.call k).append fun server => hgranted _ server

theorem GrantInv.setTask [DecidableEq τ] (hI : GrantInv reg spec s) (t : τ) {ts : TaskState}
    (hbids : ∀ bid attempt, ts.bidding = some (bid, attempt) →
      ∃ claim, bid.msg = .claimRequest claim)
    (hpending : ∀ rid q, ts.pending rid = some q → (reg t).Requested s.log rid q) :
    GrantInv reg spec { s with task := Function.update s.task t ts } := by
  refine { hI with bids := ?_, pending := ?_ }
  · exact (Function.forall_update_iff s.task fun _ ts => ∀ bid attempt, ts.bidding =
      some (bid, attempt) → ∃ claim, bid.msg = .claimRequest claim).mpr
        ⟨hbids, fun t' _ => hI.bids t'⟩
  · exact (Function.forall_update_iff s.task fun t ts => ∀ rid q, ts.pending rid = some q →
      (reg t).Requested s.log rid q).mpr ⟨hpending, fun t' _ => hI.pending t'⟩

/-- **A message arrives at a task**: its map keeps to what was requested, and a handler it starts
was requested and granted. -/
theorem GrantInv.receives (hI : GrantInv reg spec s) {t : τ} {now : Int} {p : Packet}
    {reaction : Reaction} (hp : p ∈ s.log)
    (h : (reg t).Receives (s.task t).pending now p reaction) :
    (∀ rid q, reaction.pending rid = some q → (reg t).Requested s.log rid q) ∧
    ∀ rid q, reaction.spawn = some (rid, q) →
      (reg t).grantPacket rid ∈ s.log ∧ (reg t).Requested s.log rid q := by
  cases h with
  | request req hlt =>
    refine ⟨fun rid q hq => ?_, fun _ _ h => by cases h⟩
    by_cases hrid : rid = req.requestId
    · subst hrid
      simp only [Function.update_self, some.injEq] at hq
      exact ⟨req, hp, rfl, hq⟩
    · simp only [Function.update_of_ne hrid, PendingMap.retain,
        filter_eq_some_iff] at hq
      exact hI.pending t rid q hq.1
  | grant rid' q' hq' =>
    refine ⟨fun rid q hq => ?_, fun rid q hspawn => ?_⟩
    · by_cases hrid : rid = rid'
      · subst hrid
        simp only [Function.update_self] at hq
        cases hq
      · simp only [Function.update_of_ne hrid] at hq
        exact hI.pending t rid q hq
    · obtain ⟨rfl, rfl⟩ : rid' = rid ∧ q' = q := by simpa using hspawn
      exact ⟨hp, hI.pending t rid' q' hq'⟩
  | ignored _ hreq hgrant =>
    exact ⟨hI.pending t, fun _ _ h => by cases h⟩

/-- **A step of a call** adds its request, or a grant that agrees with all others. -/
theorem GrantInv.callStep [DecidableEq κ] (hids : Function.Injective fun k => (spec k).requestId)
    (hI : GrantInv reg spec s) {k : κ} {a : CallAction} {c : CallState} {ps : List Packet}
    (h : (spec k).step (s.call k) a = some (c, ps)) :
    GrantInv reg spec { s with call := Function.update s.call k c, log := s.log ++ ps } := by
  obtain ⟨hcall, hps⟩ := callOk_step (hI.call k) h
  -- every grant among the new packets is a grant of this call's request
  have hnew : ∀ rid server, GrantedTo ps rid server → rid = (spec k).requestId ∧
      ∀ server', GrantedTo s.log rid server' → server' = server := by
    rintro rid server ⟨p, hp, hmsg⟩
    cases hps p hp with
    | request now _ => cases hmsg
    | grant server' hagree =>
      obtain ⟨rfl, rfl⟩ := ClaimResponse.mk.inj (Msg.claimResponse.inj hmsg)
      exact ⟨rfl, hagree⟩
  constructor
  · intro channel req hp
    rcases mem_append.mp hp with hp | hp
    · exact hI.requests channel req hp
    · generalize hpkt : (⟨channel, .request req⟩ : Packet) = p at hp
      cases hps p hp with
      | request now _ =>
        cases hpkt
        exact ⟨k, now, rfl⟩
      | grant server _ => cases hpkt
  · intro channel grant hp
    rcases mem_append.mp hp with hp | hp
    · exact hI.grants channel grant hp
    · generalize hpkt : (⟨channel, .claimResponse grant⟩ : Packet) = p at hp
      cases hps p hp with
      | request now _ => cases hpkt
      | grant server _ =>
        cases hpkt
        exact ⟨k, rfl, rfl⟩
  · intro rid server server' hg hg'
    rcases grantedTo_append.mp hg with hg | hg <;> rcases grantedTo_append.mp hg' with hg' | hg'
    · exact hI.agree rid server server' hg hg'
    · exact (hnew rid server' hg').2 server hg
    · exact ((hnew rid server hg).2 server' hg').symm
    · obtain ⟨p, hp, hmsg⟩ := hg
      obtain ⟨p', hp', hmsg'⟩ := hg'
      rw [CallSpec.eq_of_mem_step h hp hp', hmsg'] at hmsg
      exact ((ClaimResponse.mk.inj (Msg.claimResponse.inj hmsg)).2).symm
  · exact hI.bids
  · exact fun t rid q hq => (hI.pending t rid q hq).append ps
  · intro st hst
    obtain ⟨hgrant, hrequested⟩ := hI.started st hst
    exact ⟨mem_append_left ps hgrant, hrequested.append ps⟩
  · refine (Function.forall_update_iff s.call fun k c => CallOk (spec k) c (s.log ++ ps)).mpr
      ⟨hcall, fun k' hk => ?_⟩
    exact (hI.call k').append fun server hg => hk (hids (hnew _ server hg).1)

/-- **One step keeps the invariant of requests and grants.** -/
theorem grantInv_step [DecidableEq τ] [DecidableEq κ]
    (hids : Function.Injective fun k => (spec k).requestId) (hI : GrantInv reg spec s)
    (h : s.step reg spec a = some s') : GrantInv reg spec s' := by
  revert h
  fun_cases Net.step reg spec s a <;> intro h
  case case1 k a =>
    obtain ⟨⟨c, ps⟩, hstep, rfl⟩ := map_eq_some_iff.mp h
    exact hI.callStep hids hstep
  all_goals cases h
  case case2 k i p hp _ =>
    refine { hI with call := ?_ }
    exact (Function.forall_update_iff s.call fun k c => CallOk (spec k) c s.log).mpr
      ⟨(hI.call k).dispatch p.msg, fun k' _ => hI.call k'⟩
  case case5 t i now p hp _ _ reaction =>
    have hreceive := (reg t).receives_receive (s.task t).pending now p
    have hmem : p ∈ s.log := mem_of_getElem? hp
    obtain ⟨hpending, hspawn⟩ := hI.receives hmem hreceive
    have hI' : GrantInv reg spec
        { s with task := Function.update s.task t reaction.taskState } := by
      refine hI.setTask t (fun bid attempt hbid => ?_) hpending
      obtain ⟨bid', hclaim, hbid'⟩ := map_eq_some_iff.mp hbid
      obtain ⟨rfl, -⟩ := Prod.mk.inj hbid'
      exact hreceive.claim hclaim
    refine { hI' with started := fun st hst => ?_ }
    rcases mem_append.mp hst with hst | hst
    · exact hI.started st hst
    · obtain ⟨rid, q, hx, rfl⟩ := Reaction.mem_started.mp hst
      exact hspawn rid q hx
  case case8 t o bid attempt hbid =>
    obtain ⟨claim, hclaim⟩ := hI.bids t bid attempt hbid
    have hI' : GrantInv reg spec { s with log := s.log ++ o.packets bid } :=
      hI.append fun p hp => .inl ⟨claim, by rw [mem_packets hp, hclaim]⟩
    refine hI'.setTask t (fun bid' attempt' hagain' => ?_) fun rid q hq => ?_
    · split at hagain' <;> cases hagain'
      exact ⟨claim, hclaim⟩
    · exact hI'.pending t rid q hq
  case case10 => exact { hI with }
  case case12 n o st result attempt hphase hst =>
    have hI' : GrantInv reg spec
        { s with log := s.log ++ o.packets (answerPacket reg st result) } :=
      hI.append fun p hp => by
        obtain rfl := mem_packets hp
        exact .inr ⟨_, rfl⟩
    exact { hI' with }

end Step

/-! ## Where results come from -/

/-- **An execution of the request `rid` has produced `result`.** -/
def Produced (s : Net τ κ) (rid : String) (result : Except RpcError Payload) : Prop :=
  ∃ h st, s.started[h]? = some st ∧ st.requestId = rid ∧ (s.handler h).result = some result

/-- What the caller gets for what a handler produces. -/
def callerResult : Except RpcError Payload → Except PsrpcError Payload
  | .ok bytes => .ok bytes
  | .error e => .error (.rpc e.code e.message)

/-- The errors of a handler have a message, in this step. -/
def NetAction.errorsNamed : NetAction τ κ → Bool
  | .finish _ (.error e) => e.message ≠ ""
  | _ => true

/-- **The invariant of responses.** -/
structure AnswerInv (spec : κ → CallSpec) (s : Net τ κ) : Prop where
  /-- The errors of the handlers have a message. -/
  named : ∀ h e, (s.handler h).result = some (.error e) → e.message ≠ ""
  /-- A response on the bus says what an execution has produced. -/
  responses : ∀ channel resp, ⟨channel, .response resp⟩ ∈ s.log →
    ∃ result, Produced s resp.requestId result ∧ responsePayload resp = callerResult result
  /-- The responses in the queue of a call are for its request and were on the bus. -/
  queued : ∀ k, ∀ resp ∈ (s.call k).responses, resp.requestId = (spec k).requestId ∧
    ∃ channel, ⟨channel, .response resp⟩ ∈ s.log
  /-- What a call has returned was produced by an execution, unless it is an error of its own. -/
  returned : ∀ k result, (s.call k).phase = .returned result →
    (∃ r, Produced s (spec k).requestId r ∧ result = callerResult r) ∨ result = .error .bus ∨
      result = .error .timeout

section Step

variable {reg : τ → Registration} {spec : κ → CallSpec} {s s' : Net τ κ} {a : NetAction τ κ}

theorem answerInv_init : AnswerInv spec (Net.init : Net τ κ) where
  named := by simp [Net.init, HandlerPhase.result]
  responses := by simp [Net.init]
  queued := by simp [Net.init, CallState.init]
  returned := by simp [Net.init, CallState.init]

/-- **What was produced stays produced.** -/
theorem Produced.step [DecidableEq τ] [DecidableEq κ] {rid : String}
    {result : Except RpcError Payload} (hs : Produced s rid result)
    (h : s.step reg spec a = some s') : Produced s' rid result := by
  obtain ⟨n, st, hst, hrid, hresult⟩ := hs
  revert h
  fun_cases Net.step reg spec s a <;> intro h
  case case1 =>
    obtain ⟨⟨c, ps⟩, -, rfl⟩ := map_eq_some_iff.mp h
    exact ⟨n, st, hst, hrid, hresult⟩
  all_goals cases h
  case case2 | case8 => exact ⟨n, st, hst, hrid, hresult⟩
  case case5 =>
    obtain ⟨hlt, -⟩ := List.getElem?_eq_some_iff.mp hst
    exact ⟨n, st, (List.getElem?_append_left hlt).trans hst, hrid, hresult⟩
  case case10 m result' st' hphase _ =>
    -- a handler that runs has produced nothing
    have hn : n ≠ m := by rintro rfl; simp [hphase, HandlerPhase.result] at hresult
    exact ⟨n, st, hst, hrid, by simpa only [Function.update_of_ne hn] using hresult⟩
  case case12 m o st' result' attempt hphase _ =>
    refine ⟨n, st, hst, hrid, ?_⟩
    by_cases hn : n = m
    · subst hn
      rw [hphase] at hresult
      simp only [Function.update_self]
      split <;> exact hresult
    · simpa only [Function.update_of_ne hn] using hresult

/-- **No packet is taken back.** -/
theorem mem_log_step [DecidableEq τ] [DecidableEq κ] (h : s.step reg spec a = some s') {p : Packet}
    (hp : p ∈ s.log) : p ∈ s'.log := by
  revert h
  fun_cases Net.step reg spec s a <;> intro h
  case case1 =>
    obtain ⟨⟨c, ps⟩, -, rfl⟩ := map_eq_some_iff.mp h
    exact mem_append_left _ hp
  all_goals cases h
  case case8 | case12 => exact mem_append_left _ hp
  all_goals exact hp

/-- **A new response on the bus** is that of a handler that has returned. -/
theorem GrantInv.response_mem [DecidableEq τ] [DecidableEq κ] (hG : GrantInv reg spec s)
    (h : s.step reg spec a = some s') {channel : String} {resp : Response}
    (hp : ⟨channel, .response resp⟩ ∈ s'.log) :
    ⟨channel, .response resp⟩ ∈ s.log ∨ ∃ n st serverId result, s.started[n]? = some st ∧
      (s.handler n).result = some result ∧ resp = .ofResult st.requestId serverId result := by
  revert h
  fun_cases Net.step reg spec s a <;> intro h
  case case1 k a =>
    obtain ⟨⟨c, ps⟩, hstep, rfl⟩ := map_eq_some_iff.mp h
    rcases mem_append.mp hp with hp | hp
    · exact .inl hp
    · have hpacket := (callOk_step (hG.call k) hstep).2 _ hp
      generalize hpkt : (⟨channel, .response resp⟩ : Packet) = p at hpacket
      cases hpacket <;> cases hpkt
  all_goals cases h
  case case8 t o bid attempt hbid =>
    rcases mem_append.mp hp with hp | hp
    · exact .inl hp
    · obtain ⟨claim, hclaim⟩ := hG.bids t bid attempt hbid
      simp [← mem_packets hp] at hclaim
  case case12 n o st result attempt hphase hst =>
    rcases mem_append.mp hp with hp | hp
    · exact .inl hp
    · obtain ⟨-, hmsg⟩ := Packet.mk.inj (mem_packets hp)
      exact .inr ⟨n, st, _, result, hst, hphase ▸ rfl, Msg.response.inj hmsg⟩
  all_goals exact .inl hp

/-- **A handler has a result** because it had it before or finishes with it now. -/
theorem result_step [DecidableEq τ] [DecidableEq κ] (h : s.step reg spec a = some s') {n : Nat}
    {result : Except RpcError Payload} (hresult : (s'.handler n).result = some result) :
    (s.handler n).result = some result ∨ a = .finish n result := by
  revert h
  fun_cases Net.step reg spec s a <;> intro h
  case case1 =>
    obtain ⟨⟨c, ps⟩, -, rfl⟩ := map_eq_some_iff.mp h
    exact .inl hresult
  all_goals cases h
  case case10 m result' _ _ _ =>
    by_cases hn : n = m
    · subst hn
      simp only [Function.update_self] at hresult
      exact .inr (some.inj hresult ▸ rfl)
    · exact .inl (by simpa only [Function.update_of_ne hn] using hresult)
  case case12 m o _ result' attempt hphase _ =>
    by_cases hn : n = m
    · subst hn
      rw [hphase]
      simp only [Function.update_self] at hresult
      split at hresult <;> exact .inl hresult
    · exact .inl (by simpa only [Function.update_of_ne hn] using hresult)
  all_goals exact .inl hresult

/-- **The call of a step**: what its queue gets was on the bus, and what it returns was in its
queue or is an error of its own. -/
theorem call_step [DecidableEq τ] [DecidableEq κ] (h : s.step reg spec a = some s') (k : κ) :
    (∀ resp ∈ (s'.call k).responses, resp ∈ (s.call k).responses ∨
      resp.requestId = (spec k).requestId ∧ ∃ channel, ⟨channel, .response resp⟩ ∈ s.log) ∧
    ∀ result, (s'.call k).phase = .returned result → (s.call k).phase = .returned result ∨
      (∃ resp ∈ (s.call k).responses, result = responsePayload resp) ∨ result = .error .bus ∨
        result = .error .timeout := by
  revert h
  fun_cases Net.step reg spec s a <;> intro h
  case case1 k' a =>
    obtain ⟨⟨c, ps⟩, hstep, rfl⟩ := map_eq_some_iff.mp h
    by_cases hk : k = k'
    · subst hk
      obtain ⟨hresponses, hreturned⟩ := CallSpec.returned_step hstep
      simp only [Function.update_self]
      exact ⟨fun resp hr => .inl (hresponses resp hr), fun result hr => .inr (hreturned result hr)⟩
    · simp only [Function.update_of_ne hk]
      exact ⟨fun _ hr => .inl hr, fun _ hr => .inl hr⟩
  all_goals cases h
  case case2 k' i p hp _ =>
    by_cases hk : k = k'
    · subst hk
      simp only [Function.update_self, phase_dispatch]
      refine ⟨fun resp hr => ?_, fun _ hr => .inl hr⟩
      -- what the listener passes on is a bid, or a response for the request of the call
      obtain ⟨channel, msg⟩ := p
      revert hr
      fun_cases CallSpec.dispatch (spec k) (s.call k) msg <;> intro hr
      case case3 hmine _ =>
        rcases mem_append.mp hr with hr | hr
        · exact .inl hr
        · obtain rfl := mem_singleton.mp hr
          exact .inr ⟨hmine.2, channel, mem_of_getElem? hp⟩
      all_goals exact .inl hr
    · simp only [Function.update_of_ne hk]
      exact ⟨fun _ hr => .inl hr, fun _ hr => .inl hr⟩
  all_goals exact ⟨fun _ hr => .inl hr, fun _ hr => .inl hr⟩

/-- **One step keeps the invariant of responses.** -/
theorem answerInv_step [DecidableEq τ] [DecidableEq κ] (hG : GrantInv reg spec s)
    (hI : AnswerInv spec s) (hnamed : a.errorsNamed) (h : s.step reg spec a = some s') :
    AnswerInv spec s' := by
  constructor
  · intro n e hresult
    rcases result_step h hresult with hresult | rfl
    · exact hI.named n e hresult
    · simpa [NetAction.errorsNamed] using hnamed
  · intro channel resp hp
    rcases hG.response_mem h hp with hp | ⟨n, st, serverId, result, hst, hresult, rfl⟩
    · obtain ⟨result, hproduced, hpayload⟩ := hI.responses channel resp hp
      exact ⟨result, hproduced.step h, hpayload⟩
    · have hrid : (Response.ofResult st.requestId serverId result).requestId = st.requestId := by
        cases result <;> rfl
      refine ⟨result, Produced.step ⟨n, st, hst, hrid.symm, hresult⟩ h, ?_⟩
      cases result with
      | ok bytes => rfl
      | error e => exact if_pos (hI.named n e hresult)
  · intro k resp hr
    have hqueued : resp.requestId = (spec k).requestId ∧
        ∃ channel, ⟨channel, .response resp⟩ ∈ s.log :=
      ((call_step h k).1 resp hr).elim (hI.queued k resp) id
    obtain ⟨hrid, channel, hp⟩ := hqueued
    exact ⟨hrid, channel, mem_log_step h hp⟩
  · intro k result hr
    rcases (call_step h k).2 result hr with hr | ⟨resp, hresp, rfl⟩ | herror
    · rcases hI.returned k result hr with ⟨r, hproduced, rfl⟩ | herror
      · exact .inl ⟨r, hproduced.step h, rfl⟩
      · exact .inr herror
    · obtain ⟨hrid, channel, hp⟩ := hI.queued k resp hresp
      obtain ⟨r, hproduced, hpayload⟩ := hI.responses channel resp hp
      exact .inl ⟨r, hrid ▸ hproduced.step h, hpayload⟩
    · exact .inr herror

end Step

/-- **A request runs on one server, and the caller gets that server's answer.** Any number of calls
and server tasks share a bus that loses, delays, duplicates and reorders; request ids are distinct,
and so are server ids. For every call there is one server that runs all handlers started for its
request, each on exactly the payload of the call; and what the call returns, if it is a result or
an error of a handler, was produced by one of them. -/
theorem request_on_one_server [DecidableEq τ] [DecidableEq κ] (reg : τ → Registration)
    (spec : κ → CallSpec) (hids : Function.Injective fun k => (spec k).requestId)
    (hservers : ∀ t t', (reg t).server.serverId = (reg t').server.serverId →
      (reg t).server = (reg t').server)
    {as : List (NetAction τ κ)} {s : Net τ κ} (hnamed : ∀ a ∈ as, a.errorsNamed)
    (hrun : run (Net.step reg spec) Net.init as = some s) (k : κ) :
    ∃ server,
      (∀ st ∈ s.started, st.requestId = (spec k).requestId →
        (reg st.task).server = server ∧ st.request.raw = (spec k).payload) ∧
      ∀ result, (s.call k).phase = .returned result →
        (∃ h st r, s.started[h]? = some st ∧ st.requestId = (spec k).requestId ∧
          (reg st.task).server = server ∧ (s.handler h).result = some r ∧
          result = callerResult r) ∨
        result = .error .bus ∨ result = .error .timeout := by
  have hI : GrantInv reg spec s ∧ AnswerInv spec s :=
    run_invariant_along (I := fun s => GrantInv reg spec s ∧ AnswerInv spec s)
      (fun _ a _ hI hG h =>
        ⟨grantInv_step hids hI.1 h, answerInv_step (a := a) hI.1 hI.2 hG h⟩)
      ⟨grantInv_init, answerInv_init⟩ (along_of_forall_mem hnamed) hrun
  obtain ⟨hG, hA⟩ := hI
  have hgranted : ∀ st ∈ s.started, st.requestId = (spec k).requestId →
      GrantedTo s.log (spec k).requestId (reg st.task).server.serverId := fun st hst hrid =>
    ⟨_, (hG.started st hst).1, hrid ▸ rfl⟩
  -- the server of any handler that was started for the request will do
  obtain ⟨server, hserver⟩ : ∃ server, ∀ st ∈ s.started, st.requestId = (spec k).requestId →
      (reg st.task).server = server := by
    by_cases hex : ∃ st ∈ s.started, st.requestId = (spec k).requestId
    · obtain ⟨st₀, hst₀, hrid₀⟩ := hex
      exact ⟨(reg st₀.task).server, fun st hst hrid =>
        hservers _ _ (hG.agree _ _ _ (hgranted st hst hrid) (hgranted st₀ hst₀ hrid₀))⟩
    · exact ⟨⟨"", ""⟩, fun st hst hrid => absurd ⟨st, hst, hrid⟩ hex⟩
  refine ⟨server, fun st hst hrid => ⟨hserver st hst hrid, ?_⟩, ?_⟩
  · obtain ⟨-, req, hmem, hreq, hpending⟩ := hG.started st hst
    obtain ⟨k', now, rfl⟩ := hG.requests _ _ hmem
    obtain rfl : k' = k := hids (hreq.trans hrid)
    rw [← hpending]
    rfl
  intro result hreturned
  rcases hA.returned k result hreturned with ⟨r, ⟨h, st, hst, hrid, hresult⟩, rfl⟩ | herror
  · exact .inl ⟨h, st, r, hst, hrid, hserver st (mem_of_getElem? hst) hrid, hresult, rfl⟩
  · exact .inr herror

end Net

/-- Two servers with a task each for the method `Start`. -/
def startTasks (second : Bool) : Registration :=
  { startTask with server := ⟨"svc", if second then "T" else "S"⟩ }

/-- A call of `Start`. -/
def startCall (_ : Unit) : CallSpec := ⟨⟨"svc", "C"⟩, "R", "Start", "", [1], 100⟩

/-- Both servers bid; the reply to the grant is lost, the second copy overtakes the first, and the
handler answers. -/
def startRace : List (NetAction Bool Unit) :=
  [.call () (.start 0), .call () (.publish .ok), .deliver true 0 1, .deliver false 0 2,
    .bid false .ok, .bid true .ok, .dispatch () 2, .dispatch () 1, .call () .claim,
    .call () (.publish (.failed true)), .call () (.publish .ok), .deliver true 4 3,
    .deliver false 3 4, .deliver true 3 5, .finish 0 (.ok [7]), .answer 0 .ok, .dispatch () 5,
    .call () .response]

/-- The theorem at that run: the caller gets what the handler of the chosen server produced. -/
theorem request_on_one_server_race :
    ∃ s, run (Net.step startTasks startCall) Net.init startRace = some s ∧
      (s.call ()).phase = .returned (.ok [7]) ∧
      ∃ server,
        (∀ st ∈ s.started, st.requestId = (startCall ()).requestId →
          (startTasks st.task).server = server ∧ st.request.raw = (startCall ()).payload) ∧
        ∀ result, (s.call ()).phase = .returned result →
          (∃ h st r, s.started[h]? = some st ∧ st.requestId = (startCall ()).requestId ∧
            (startTasks st.task).server = server ∧ (s.handler h).result = some r ∧
            result = callerResult r) ∨
          result = .error .bus ∨ result = .error .timeout := by
  refine (show ∃ s ∈ run _ _ _, (s.call ()).phase = .returned (.ok [7]) by decide +kernel).imp
    fun s ⟨hrun, hphase⟩ => ⟨hrun, hphase,
      request_on_one_server startTasks startCall (fun _ _ _ => rfl) (by decide) (by decide) hrun ()⟩

end LivekitVoice.Psrpc
