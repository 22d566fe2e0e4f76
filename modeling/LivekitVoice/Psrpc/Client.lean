import LivekitVoice.Psrpc.Server

/-! # The psrpc client

`request_single` publishes the request, then takes bids and responses from the two queues its
client's listener fills: the first bid is granted, every later one is skipped, and the first
response is the result. A publish is one `PUBLISH` command, repeated once on a fresh connection
when it fails; a failed command may have been executed all the same.

* **`CallSpec.step`** — one step of a call.
* **`CallOk`** — what a call knows about the grants on the bus; `callOk_step` — a call grants its
  request to one server only. -/

namespace LivekitVoice.Psrpc

/-! ## Publishing -/

/-- How one attempt of `RedisBus::publish` ends. -/
inductive Attempt
  /-- `PUBLISH` is executed and its reply arrives. -/
  | ok
  /-- `PUBLISH` fails for the caller; `executed` says whether the server executed it. -/
  | failed (executed : Bool)
  /-- There is no connection. -/
  | noConn

/-- The server has executed `PUBLISH`. -/
def Attempt.executed : Attempt → Bool
  | .ok => true
  | .failed executed => executed
  | .noConn => false

/-- What `RedisBus::publish` does after an attempt. -/
inductive PublishNext
  /-- It tries again. -/
  | retry
  /-- It returns `Ok`. -/
  | ok
  /-- It returns `Err`. -/
  | error
  deriving DecidableEq

/-- **`RedisBus::publish`** after attempt number `attempt`: a failed `PUBLISH` is repeated once, a
missing connection is an error at once. -/
def publishNext (attempt : Nat) : Attempt → PublishNext
  | .ok => .ok
  | .failed _ => if attempt = 0 then .retry else .error
  | .noConn => .error

/-- What an attempt to publish a packet adds to the bus. -/
def Attempt.packets (o : Attempt) (packet : Packet) : List Packet :=
  if o.executed then [packet] else []

theorem mem_packets {o : Attempt} {packet p : Packet} (h : p ∈ o.packets packet) : p = packet := by
  unfold Attempt.packets at h
  split at h
  · exact List.mem_singleton.mp h
  · cases h

/-! ## A call -/

/-- `PsrpcClient`: a client of a service. -/
structure PsrpcClient where
  service : String
  clientId : String

/-- The errors of `request_single`. -/
inductive PsrpcError
  /-- The bus failed. -/
  | bus
  /-- Nothing came in time. -/
  | timeout
  /-- The server answered with an error. -/
  | rpc (code message : String)
  deriving DecidableEq

/-- A call of `request_single`, with the request id it draws. -/
structure CallSpec where
  client : PsrpcClient
  /-- The id drawn for the request. -/
  requestId : String
  method : String
  topic : String
  /-- The encoded argument. -/
  payload : Payload
  /-- The timeout in nanoseconds. -/
  timeout : Int

/-- Where a call stands. -/
inductive CallPhase
  /-- Not made yet. -/
  | ready
  /-- Publishing the request. -/
  | sending (req : Request) (attempt : Nat)
  /-- Waiting for bids and responses. -/
  | waiting (granted : Bool)
  /-- Publishing a grant. -/
  | granting (grant : ClaimResponse) (attempt : Nat)
  /-- Returned. -/
  | returned (result : Except PsrpcError Payload)
  deriving DecidableEq

/-- A call at one moment. -/
structure CallState where
  /-- Where it stands. -/
  phase : CallPhase
  /-- Whether its request id is in the client's map of pending requests. -/
  pending : Bool
  /-- The bids the listener has passed on. -/
  claims : List ClaimRequest
  /-- The responses the listener has passed on. -/
  responses : List Response

/-- The steps of a call. -/
inductive CallAction
  /-- The call is made at time `now`. -/
  | start (now : Int)
  /-- An attempt to publish. -/
  | publish (o : Attempt)
  /-- A response is taken from its queue. -/
  | response
  /-- A bid is taken from its queue. -/
  | claim
  /-- The timeout passes; `executed` says whether a `PUBLISH` under way is executed. -/
  | timeout (executed : Bool)

/-- `response_payload`: what a response makes the call return. -/
def responsePayload (resp : Response) : Except PsrpcError Payload :=
  if resp.error ≠ "" then .error (.rpc resp.code resp.error) else .ok resp.rawResponse

/-- A call that has not been made. -/
def CallState.init : CallState := ⟨.ready, false, [], []⟩

/-- The call returns `result` and leaves the client's map. -/
def CallState.finish (s : CallState) (result : Except PsrpcError Payload) : CallState :=
  { s with phase := .returned result, pending := false }

/-- The call after an attempt to publish: on to `next`, back to `again`, or returned with the
error. -/
def CallState.published (s : CallState) (attempt : Nat) (o : Attempt) (again next : CallPhase) :
    CallState :=
  match publishNext attempt o with
  | .retry => { s with phase := again }
  | .ok => { s with phase := next }
  | .error => s.finish (.error .bus)

namespace CallSpec

variable (k : CallSpec)

/-- The request of a call made at time `now`. -/
def request (now : Int) : Request :=
  ⟨k.requestId, k.client.clientId, now, now + k.timeout, k.payload⟩

/-- The packet with a request. -/
def requestPacket (req : Request) : Packet :=
  ⟨rpcChannel k.client.service k.method k.topic, .request req⟩

/-- The packet with a grant. -/
def grantPacket (grant : ClaimResponse) : Packet :=
  ⟨claimResponseChannel k.client.service k.method k.topic, .claimResponse grant⟩

/-- **One step of a call**, and the packets it adds to the bus. -/
def step (s : CallState) : CallAction → Option (CallState × List Packet)
  | .start now =>
    match s.phase with
    | .ready => some ({ s with phase := .sending (k.request now) 0, pending := true }, [])
    | _ => none
  | .publish o =>
    match s.phase with
    -- bids wait in their queue until the request is published
    | .sending req attempt =>
      some (s.published attempt o (.sending req 1) (.waiting false),
        o.packets (k.requestPacket req))
    | .granting grant attempt =>
      some (s.published attempt o (.granting grant 1) (.waiting true),
        o.packets (k.grantPacket grant))
    | _ => none
  | .response =>
    match s.phase, s.responses with
    | .waiting _, resp :: rest =>
      some ({ s with responses := rest }.finish (responsePayload resp), [])
    | _, _ => none
  | .claim =>
    -- the select is biased: bids are looked at only while no response is there
    match s.phase, s.responses, s.claims with
    | .waiting true, [], _ :: rest => some ({ s with claims := rest }, [])
    | .waiting false, [], claim :: rest =>
      some
        ({ s with phase := .granting ⟨claim.requestId, claim.serverId⟩ 0, claims := rest }, [])
    | _, _, _ => none
  | .timeout executed =>
    -- the early return leaves the request id in the client's map
    match s.phase with
    | .sending req _ =>
      some ({ s with phase := .returned (.error .timeout) },
        (Attempt.failed executed).packets (k.requestPacket req))
    | .granting grant _ =>
      some ({ s with phase := .returned (.error .timeout) },
        (Attempt.failed executed).packets (k.grantPacket grant))
    | .waiting _ => some ({ s with phase := .returned (.error .timeout) }, [])
    | _ => none

/-- The client's listener gets the packets of these channels. -/
def listens (channel : String) : Bool :=
  channel = responseChannel k.client.service k.client.clientId ||
    channel = claimRequestChannel k.client.service k.client.clientId

/-- **`dispatch`**, for one of the client's calls: bids and responses for its request id go into
its queues. -/
def dispatch (s : CallState) (msg : Msg) : CallState :=
  match msg with
  | .claimRequest claim =>
    if s.pending ∧ claim.requestId = k.requestId then { s with claims := s.claims ++ [claim] }
    else s
  | .response resp =>
    if s.pending ∧ resp.requestId = k.requestId then
      { s with responses := s.responses ++ [resp] }
    else s
  | _ => s

end CallSpec

variable {k : CallSpec} {s s' : CallState} {a : CallAction} {ps log : List Packet}

/-- **A step of a call** sends one packet at most. -/
theorem CallSpec.eq_of_mem_step (h : k.step s a = some (s', ps)) {p p' : Packet} (hp : p ∈ ps)
    (hp' : p' ∈ ps) : p = p' := by
  revert h
  fun_cases CallSpec.step k s a <;> rintro ⟨⟩
  case case3 | case4 | case11 | case12 => exact (mem_packets hp).trans (mem_packets hp').symm
  all_goals cases hp

/-- **What a call returns**: what a queued response says, or an error of its own. -/
theorem CallSpec.returned_step (h : k.step s a = some (s', ps)) :
    (∀ resp ∈ s'.responses, resp ∈ s.responses) ∧
      ∀ result, s'.phase = .returned result →
        (∃ resp ∈ s.responses, result = responsePayload resp) ∨ result = .error .bus ∨
          result = .error .timeout := by
  revert h
  fun_cases CallSpec.step k s a <;> rintro ⟨⟩
  case case1 | case9 => exact ⟨fun _ hr => hr, nofun⟩
  case case3 | case4 =>
    unfold CallState.published
    split
    · exact ⟨fun _ hr => hr, nofun⟩
    · exact ⟨fun _ hr => hr, nofun⟩
    · exact ⟨fun _ hr => hr, fun result hr => .inr (.inl (CallPhase.returned.inj hr).symm)⟩
  case case6 resp rest hresp hphase =>
    rw [hresp]
    refine ⟨fun _ hr => List.mem_cons_of_mem _ hr, fun result hr => .inl ⟨resp, ?_, ?_⟩⟩
    · exact List.mem_cons_self
    · exact (CallPhase.returned.inj hr).symm
  case case8 hphase =>
    exact ⟨fun _ hr => hr, fun result hr => CallPhase.noConfusion (hphase.symm.trans hr)⟩
  case case11 | case12 | case13 =>
    exact ⟨fun _ hr => hr, fun result hr => .inr (.inr (CallPhase.returned.inj hr).symm)⟩

theorem phase_dispatch (k : CallSpec) (s : CallState) (msg : Msg) :
    (k.dispatch s msg).phase = s.phase := by
  fun_cases CallSpec.dispatch k s msg <;> rfl

/-! ## One grant -/

/-- The bus has a grant of the request `rid` to the server `server`. -/
def GrantedTo (log : List Packet) (rid server : String) : Prop :=
  ∃ p ∈ log, p.msg = .claimResponse ⟨rid, server⟩

theorem grantedTo_append {rid server : String} :
    GrantedTo (log ++ ps) rid server ↔ GrantedTo log rid server ∨ GrantedTo ps rid server := by
  simp [GrantedTo, List.mem_append, or_and_right, exists_or]

/-- What holds in each phase of a call: no grant before the first bid is taken, then no other
grant than that. -/
def CallPhaseOk (k : CallSpec) (log : List Packet) : CallPhase → Prop
  | .ready => ∀ server, ¬ GrantedTo log k.requestId server
  | .sending req _ =>
    (∀ server, ¬ GrantedTo log k.requestId server) ∧ ∃ now, req = k.request now
  | .waiting granted => granted = false → ∀ server, ¬ GrantedTo log k.requestId server
  | .granting grant _ =>
    grant.requestId = k.requestId ∧
      ∀ server, GrantedTo log k.requestId server → server = grant.serverId
  | .returned _ => True

/-- **What a call knows about the grants on the bus.** -/
structure CallOk (k : CallSpec) (s : CallState) (log : List Packet) : Prop where
  /-- The bids are for its request. -/
  claims : ∀ claim ∈ s.claims, claim.requestId = k.requestId
  /-- What it has granted. -/
  phase : CallPhaseOk k log s.phase

/-- **The packets of a call**: its request, or a grant of it to a server that no other grant on the
bus contradicts. -/
inductive CallPacket (k : CallSpec) (log : List Packet) : Packet → Prop
  /-- Its request. -/
  | request (now : Int) (hungranted : ∀ server, ¬ GrantedTo log k.requestId server) :
      CallPacket k log (k.requestPacket (k.request now))
  /-- A grant. -/
  | grant (server : String) (hagree : ∀ server', GrantedTo log k.requestId server' →
      server' = server) : CallPacket k log (k.grantPacket ⟨k.requestId, server⟩)

theorem CallOk.append (h : CallOk k s log) (hps : ∀ server, ¬ GrantedTo ps k.requestId server) :
    CallOk k s (log ++ ps) := by
  have hlog : ∀ server, GrantedTo (log ++ ps) k.requestId server →
      GrantedTo log k.requestId server := fun server hg =>
    (grantedTo_append.mp hg).resolve_right (hps server)
  refine ⟨h.claims, ?_⟩
  have hphase := h.phase
  cases hp : s.phase <;> rw [hp] at hphase
  case ready => exact fun server hg => hphase server (hlog server hg)
  case sending => exact ⟨fun server hg => hphase.1 server (hlog server hg), hphase.2⟩
  case waiting => exact fun hgranted server hg => hphase hgranted server (hlog server hg)
  case granting => exact ⟨hphase.1, fun server hg => hphase.2 server (hlog server hg)⟩
  case returned => trivial

/-- **A call grants its request to one server only.** A step of a call keeps what the call knows
about the grants on the bus, and adds only its request or a grant that agrees with all others. -/
theorem callOk_step (hI : CallOk k s log) (h : k.step s a = some (s', ps)) :
    CallOk k s' (log ++ ps) ∧ ∀ p ∈ ps, CallPacket k log p := by
  have hphase₀ := hI.phase
  revert h
  fun_cases CallSpec.step k s a <;> rintro ⟨⟩
  case case1 now hphase =>
    rw [hphase] at hphase₀
    rw [List.append_nil]
    exact ⟨⟨hI.claims, hphase₀, now, rfl⟩, by simp⟩
  case case3 o req attempt hphase =>
    rw [hphase] at hphase₀
    obtain ⟨hungranted, now, rfl⟩ := hphase₀
    have hungranted' : ∀ server, ¬ GrantedTo (log ++ o.packets (k.requestPacket (k.request now)))
        k.requestId server := fun server hg =>
      (grantedTo_append.mp hg).elim (hungranted server) fun ⟨p, hp, hmsg⟩ => by
        rw [mem_packets hp] at hmsg
        cases hmsg
    refine ⟨?_, fun p hp => mem_packets hp ▸ .request now hungranted⟩
    unfold CallState.published
    split
    · exact ⟨hI.claims, hungranted', now, rfl⟩
    · exact ⟨hI.claims, fun _ => hungranted'⟩
    · exact ⟨hI.claims, trivial⟩
  case case4 o grant attempt hphase =>
    rw [hphase] at hphase₀
    obtain ⟨rid, server⟩ := grant
    obtain ⟨rfl, hagree⟩ := hphase₀
    refine ⟨?_, fun p hp => mem_packets hp ▸ .grant server hagree⟩
    unfold CallState.published
    split
    · refine ⟨hI.claims, rfl, fun server' hg => ?_⟩
      rcases grantedTo_append.mp hg with hg | hg
      · exact hagree server' hg
      · obtain ⟨p, hp, hmsg⟩ := hg
        rw [mem_packets hp] at hmsg
        exact (ClaimResponse.mk.inj (Msg.claimResponse.inj hmsg)).2.symm
    · exact ⟨hI.claims, nofun⟩
    · exact ⟨hI.claims, trivial⟩
  case case6 | case13 => exact ⟨⟨hI.claims, trivial⟩, by simp⟩
  case case8 claim rest hclaim _ hphase =>
    rw [List.append_nil]
    refine ⟨⟨fun x hx => hI.claims x ?_, hI.phase⟩, by simp⟩
    rw [hclaim]
    exact List.mem_cons_of_mem _ hx
  case case9 claim rest hclaim _ hphase =>
    rw [hphase] at hphase₀
    rw [List.append_nil]
    -- nothing was granted before the first bid, so the chosen server has no rival
    refine ⟨⟨fun x hx => hI.claims x ?_, hI.claims claim ?_, fun server hg => ?_⟩, by simp⟩
    · rw [hclaim]
      exact List.mem_cons_of_mem _ hx
    · rw [hclaim]
      exact List.mem_cons_self
    · exact absurd hg (hphase₀ rfl server)
  case case11 req attempt hphase =>
    rw [hphase] at hphase₀
    obtain ⟨hungranted, now, rfl⟩ := hphase₀
    exact ⟨⟨hI.claims, trivial⟩, fun p hp => mem_packets hp ▸ .request now hungranted⟩
  case case12 grant attempt hphase =>
    rw [hphase] at hphase₀
    obtain ⟨rid, server⟩ := grant
    obtain ⟨rfl, hagree⟩ := hphase₀
    exact ⟨⟨hI.claims, trivial⟩, fun p hp => mem_packets hp ▸ .grant server hagree⟩

theorem CallOk.dispatch (h : CallOk k s log) (msg : Msg) : CallOk k (k.dispatch s msg) log := by
  fun_cases CallSpec.dispatch k s msg
  case case1 hclaim =>
    refine ⟨fun x hx => ?_, h.phase⟩
    rcases List.mem_append.mp hx with hx | hx
    · exact h.claims x hx
    · rw [List.mem_singleton.mp hx]
      exact hclaim.2
  case case3 => exact ⟨h.claims, h.phase⟩
  all_goals exact h

end LivekitVoice.Psrpc
