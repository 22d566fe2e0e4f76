import LivekitVoice.Psrpc.Channel
import Mathlib.Data.List.Induction

/-! # The psrpc server

A server task is one registration of a method and topic. It keeps the requests it has bid for in a
map, and starts the handler of a request when the caller's grant names its server.

* **`pending_receive_iff`**, **`spawn_receive_iff`** — what a message makes a task do: what is in
  the map afterwards, and when a handler is started.
* **`starts_before_expiry_iff`** — when handlers are started before the expiry of their requests. -/

namespace LivekitVoice.Psrpc

/-! ## Messages -/

/-- A message body. -/
abbrev Payload := List UInt8

/-- `internal::Request`. -/
structure Request where
  requestId : String
  /-- The client that made it. -/
  clientId : String
  /-- When it was sent, in nanoseconds. -/
  sentAt : Int
  /-- When it expires, in nanoseconds. -/
  expiry : Int
  /-- The encoded argument. -/
  rawRequest : Payload
  deriving DecidableEq

/-- `internal::ClaimRequest`: the bid of a server. -/
structure ClaimRequest where
  requestId : String
  /-- The bidder. -/
  serverId : String

/-- `internal::ClaimResponse`: the grant of a request to a server. -/
structure ClaimResponse where
  requestId : String
  /-- The server it is granted to. -/
  serverId : String
  deriving DecidableEq

/-- `internal::Response`. -/
structure Response where
  /-- The request it answers. -/
  requestId : String
  /-- The server that answers. -/
  serverId : String
  /-- The encoded result. -/
  rawResponse : Payload
  /-- The message of the error, empty without one. -/
  error : String
  /-- The code of the error. -/
  code : String

/-- A message in its envelope; the type URL of the envelope is the constructor. -/
inductive Msg
  /-- A request. -/
  | request (req : Request)
  /-- A bid. -/
  | claimRequest (claim : ClaimRequest)
  /-- A grant. -/
  | claimResponse (grant : ClaimResponse)
  /-- A response. -/
  | response (resp : Response)

/-- A message and the channel it is published on. -/
structure Packet where
  channel : String
  /-- The message. -/
  msg : Msg

/-! ## A server task -/

/-- `PsrpcServer`: a service on a node. -/
structure PsrpcServer where
  service : String
  serverId : String
  deriving DecidableEq

/-- **A server task**: what `register_topic` is called with. A method has a name; a topic may be
empty. -/
structure Registration where
  server : PsrpcServer
  method : String
  topic : String
  /-- The method has a name. -/
  method_ne : method ≠ ""

/-- A request in the map of a task. -/
structure PendingRequest where
  /-- The caller. -/
  clientId : String
  /-- The encoded argument. -/
  raw : Payload
  /-- When it expires. -/
  expiry : Int
  deriving DecidableEq

/-- The requests a task has bid for, by request id. -/
abbrev PendingMap := String → Option PendingRequest

/-- `retain`: drop the requests that have expired. -/
def PendingMap.retain (pending : PendingMap) (now : Int) : PendingMap := fun rid =>
  (pending rid).filter fun q => now < q.expiry

/-- What is kept of a request. -/
def Request.toPending (req : Request) : PendingRequest := ⟨req.clientId, req.rawRequest, req.expiry⟩

/-- **What a message makes a task do.** -/
structure Reaction where
  /-- The map afterwards. -/
  pending : PendingMap
  /-- A bid to publish. -/
  claim : Option Packet
  /-- A handler to start, for a request by its id. -/
  spawn : Option (String × PendingRequest)

namespace Registration

variable (r : Registration)

/-- The channel with the requests for the task. -/
def rpcCh : String := rpcChannel r.server.service r.method r.topic

/-- The channel with the grants for the task. -/
def rclaimCh : String := claimResponseChannel r.server.service r.method r.topic

/-- The bid of the task for a request. -/
def claimPacket (req : Request) : Packet :=
  ⟨claimRequestChannel r.server.service req.clientId,
    .claimRequest ⟨req.requestId, r.server.serverId⟩⟩

/-- **A message arrives** at time `now` (the loop of `register_topic`). -/
def receive (pending : PendingMap) (now : Int) (packet : Packet) : Reaction :=
  if packet.channel = r.rpcCh then
    match packet.msg with
    | .request req =>
      if req.expiry ≤ now then ⟨pending, none, none⟩
      else
        ⟨Function.update (pending.retain now) req.requestId (some req.toPending),
          some (r.claimPacket req), none⟩
    | _ => ⟨pending, none, none⟩
  else if packet.channel = r.rclaimCh then
    match packet.msg with
    | .claimResponse grant =>
      if grant.serverId ≠ r.server.serverId then ⟨pending, none, none⟩
      else
        -- the entry's expiry is not looked at
        match pending grant.requestId with
        | some q =>
          ⟨Function.update pending grant.requestId none, none, some (grant.requestId, q)⟩
        | none => ⟨pending, none, none⟩
    | _ => ⟨pending, none, none⟩
  else ⟨pending, none, none⟩

/-- The packet that carries a request to the task. -/
def requestPacket (req : Request) : Packet := ⟨r.rpcCh, .request req⟩

/-- The packet that grants a request to the task's server. -/
def grantPacket (rid : String) : Packet := ⟨r.rclaimCh, .claimResponse ⟨rid, r.server.serverId⟩⟩

theorem rpcCh_ne_rclaimCh : r.rpcCh ≠ r.rclaimCh :=
  rpcChannel_ne_claimResponseChannel _ _ _ _ _ _

variable {now : Int} {req : Request} {pending : PendingMap} {rid : String} {q : PendingRequest}
  {packet : Packet} {trace : List (Int × Packet)}

/-- **What a message is to a task**: a request in time, a grant for a request in its map, or
nothing. -/
inductive Receives (pending : PendingMap) (now : Int) : Packet → Reaction → Prop
  /-- A request in time. -/
  | request (req : Request) (h : now < req.expiry) :
      Receives pending now (r.requestPacket req)
        ⟨Function.update (pending.retain now) req.requestId (some req.toPending),
          some (r.claimPacket req), none⟩
  /-- A grant for a request in the map. -/
  | grant (rid : String) (q : PendingRequest) (h : pending rid = some q) :
      Receives pending now (r.grantPacket rid)
        ⟨Function.update pending rid none, none, some (rid, q)⟩
  /-- Anything else. -/
  | ignored (packet : Packet) (hreq : ∀ req, packet = r.requestPacket req → req.expiry ≤ now)
      (hgrant : ∀ rid, packet = r.grantPacket rid → pending rid = none) :
      Receives pending now packet ⟨pending, none, none⟩

theorem receives_receive (pending : PendingMap) (now : Int) (packet : Packet) :
    r.Receives pending now packet (r.receive pending now packet) := by
  have hne := r.rpcCh_ne_rclaimCh
  fun_cases r.receive pending now packet
  case case2 hch req hmsg hlt =>
    obtain rfl : r.requestPacket req = packet := congr (congrArg Packet.mk hch.symm) hmsg.symm
    exact .request req (Int.not_le.mp hlt)
  case case5 hch grant hmsg hserver q hq =>
    obtain rfl : r.grantPacket grant.requestId = packet := by
      rw [grantPacket, ← not_not.mp hserver, ← hch]
      exact congrArg _ hmsg.symm
    exact .grant grant.requestId q hq
  -- the others are no request in time and no grant for a request in the map
  all_goals
    refine .ignored packet ?_ ?_ <;>
      · rintro _ rfl
        grind [requestPacket, grantPacket]

theorem Receives.claim {r : Registration} {bid : Packet} {reaction : Reaction}
    (h : r.Receives pending now packet reaction) (hbid : reaction.claim = some bid) :
    ∃ claim, bid.msg = .claimRequest claim := by
  cases h with
  | request req _ =>
    cases hbid
    exact ⟨_, rfl⟩
  | _ => cases hbid

theorem requestPacket_inj {req' : Request} (h : r.requestPacket req = r.requestPacket req') :
    req = req' :=
  Msg.request.inj (Packet.mk.inj h).2

theorem grantPacket_inj {rid' : String} (h : r.grantPacket rid = r.grantPacket rid') : rid = rid' :=
  (ClaimResponse.mk.inj (Msg.claimResponse.inj (Packet.mk.inj h).2)).1

theorem requestPacket_ne_grantPacket (req : Request) (rid : String) :
    r.requestPacket req ≠ r.grantPacket rid := by
  intro h
  cases (Packet.mk.inj h).2

/-- **The map after a message**: the request it carries, if in time, and what was there before,
unless that is replaced, swept or granted. -/
theorem pending_receive_iff :
    (r.receive pending now packet).pending rid = some q ↔
      (∃ req, packet = r.requestPacket req ∧ now < req.expiry ∧ req.requestId = rid ∧
        req.toPending = q) ∨
      (pending rid = some q ∧ packet ≠ r.grantPacket rid ∧
        ∀ req, packet = r.requestPacket req → now < req.expiry →
          req.requestId ≠ rid ∧ now < q.expiry) := by
  have hreceives := r.receives_receive pending now packet
  generalize r.receive pending now packet = reaction at hreceives ⊢
  cases hreceives with
  | request req hlt =>
    by_cases hrid : req.requestId = rid
    · subst hrid
      simp only [Function.update_self, Option.some.injEq]
      constructor
      · exact fun hq => .inl ⟨req, rfl, hlt, rfl, hq⟩
      · rintro (⟨req', hpacket, -, -, rfl⟩ | ⟨-, -, hkeep⟩)
        · rw [r.requestPacket_inj hpacket]
        · exact absurd rfl (hkeep req rfl hlt).1
    · simp only [Function.update_of_ne (Ne.symm hrid), PendingMap.retain,
        Option.filter_eq_some_iff, decide_eq_true_eq]
      constructor
      · rintro ⟨hq, hexp⟩
        refine .inr ⟨hq, r.requestPacket_ne_grantPacket req rid, fun req' hpacket _ => ?_⟩
        obtain rfl := r.requestPacket_inj hpacket
        exact ⟨hrid, hexp⟩
      · rintro (⟨req', hpacket, -, hrid', -⟩ | ⟨hq, -, hkeep⟩)
        · rw [← r.requestPacket_inj hpacket] at hrid'
          exact absurd hrid' hrid
        · exact ⟨hq, (hkeep req rfl hlt).2⟩
  | grant rid' q' hq' =>
    by_cases hrid : rid = rid'
    · subst hrid
      simp only [Function.update_self]
      constructor
      · intro hq
        cases hq
      · rintro (⟨req, hpacket, -⟩ | ⟨-, hne, -⟩)
        · exact absurd hpacket.symm (r.requestPacket_ne_grantPacket req rid)
        · exact absurd rfl hne
    · simp only [Function.update_of_ne hrid]
      constructor
      · intro hq
        refine .inr ⟨hq, fun hpacket => hrid (r.grantPacket_inj hpacket).symm, ?_⟩
        intro req hpacket
        exact absurd hpacket.symm (r.requestPacket_ne_grantPacket req rid')
      · rintro (⟨req, hpacket, -⟩ | ⟨hq, -, -⟩)
        · exact absurd hpacket.symm (r.requestPacket_ne_grantPacket req rid')
        · exact hq
  | ignored _ hreq hgrant =>
    constructor
    · intro hq
      refine .inr ⟨hq, fun hpacket => ?_, fun req hpacket hlt => ?_⟩
      · cases (hgrant rid hpacket).symm.trans hq
      · exact absurd (hreq req hpacket) (by omega)
    · rintro (⟨req, hpacket, hlt, -⟩ | ⟨hq, -, -⟩)
      · exact absurd (hreq req hpacket) (by omega)
      · exact hq

/-- **When a handler is started**: on a grant to the task's server of a request in the map. -/
theorem spawn_receive_iff :
    (r.receive pending now packet).spawn = some (rid, q) ↔
      packet = r.grantPacket rid ∧ pending rid = some q := by
  have hreceives := r.receives_receive pending now packet
  generalize r.receive pending now packet = reaction at hreceives ⊢
  cases hreceives with
  | request req hlt =>
    refine iff_of_false nofun fun h => ?_
    exact absurd h.1 (r.requestPacket_ne_grantPacket req rid)
  | grant rid' q' hq' =>
    constructor
    · intro h
      obtain ⟨rfl, rfl⟩ : rid' = rid ∧ q' = q := by simpa using h
      exact ⟨rfl, hq'⟩
    · rintro ⟨hpacket, hq⟩
      obtain rfl := r.grantPacket_inj hpacket
      rw [hq] at hq'
      rw [Option.some.inj hq']
  | ignored _ hreq hgrant =>
    refine iff_of_false nofun fun h => ?_
    rw [hgrant rid h.1] at h
    cases h.2

/-! ## Handlers and expiry -/

/-- A handler started by a task. -/
structure HandlerStart where
  /-- When. -/
  time : Int
  /-- For which request. -/
  requestId : String
  /-- With what. -/
  request : PendingRequest
  deriving DecidableEq

/-- The map after a sequence of messages, each with the time of its arrival. -/
def pendingAfter (pending : PendingMap) : List (Int × Packet) → PendingMap
  | [] => pending
  | (now, packet) :: trace => pendingAfter (r.receive pending now packet).pending trace

/-- **The handlers a task starts** on a sequence of messages. -/
def starts (pending : PendingMap) : List (Int × Packet) → List HandlerStart
  | [] => []
  | (now, packet) :: trace =>
    let reaction := r.receive pending now packet
    (reaction.spawn.map fun s => ⟨now, s.1, s.2⟩).toList ++ starts reaction.pending trace

/-- **A request is not forgotten**: the messages neither grant it, nor carry another request of
its id in time, nor any request in time after its expiry, which would sweep the map. -/
structure Leaves (req : Request) (trace : List (Int × Packet)) : Prop where
  /-- No grant. -/
  granted : ∀ e ∈ trace, e.2 ≠ r.grantPacket req.requestId
  /-- No replacement, and no sweep after the expiry. -/
  swept : ∀ e ∈ trace, ∀ req', e.2 = r.requestPacket req' → e.1 < req'.expiry →
    req'.requestId ≠ req.requestId ∧ e.1 < req.expiry

theorem leaves_append_singleton {e : Int × Packet} :
    r.Leaves req (trace ++ [e]) ↔ r.Leaves req trace ∧ e.2 ≠ r.grantPacket req.requestId ∧
      ∀ req', e.2 = r.requestPacket req' → e.1 < req'.expiry →
        req'.requestId ≠ req.requestId ∧ e.1 < req.expiry := by
  constructor
  · rintro ⟨hgranted, hswept⟩
    refine ⟨⟨fun x hx => hgranted x (List.mem_append_left _ hx),
      fun x hx => hswept x (List.mem_append_left _ hx)⟩, ?_, ?_⟩
    · exact hgranted e (by simp)
    · exact hswept e (by simp)
  · rintro ⟨⟨hgranted, hswept⟩, hgrant, hsweep⟩
    constructor
    · intro x hx
      rcases List.mem_append.mp hx with hx | hx
      · exact hgranted x hx
      · rw [List.mem_singleton.mp hx]
        exact hgrant
    · intro x hx
      rcases List.mem_append.mp hx with hx | hx
      · exact hswept x hx
      · rw [List.mem_singleton.mp hx]
        exact hsweep

theorem pendingAfter_append (pending : PendingMap) (trace : List (Int × Packet))
    (e : Int × Packet) :
    r.pendingAfter pending (trace ++ [e]) =
      (r.receive (r.pendingAfter pending trace) e.1 e.2).pending := by
  induction trace generalizing pending with
  | nil => rfl
  | cons x trace ih => exact ih _

/-- **What is in the map of a task**: the requests that arrived in time and are not forgotten. -/
theorem pendingAfter_iff :
    r.pendingAfter (fun _ => none) trace rid = some q ↔
      ∃ before now req after, trace = before ++ (now, r.requestPacket req) :: after ∧
        now < req.expiry ∧ req.requestId = rid ∧ req.toPending = q ∧ r.Leaves req after := by
  -- on the last message of the trace
  induction trace using List.reverseRecOn generalizing q with
  | nil => simp [pendingAfter]
  | append_singleton trace e ih =>
    rw [pendingAfter_append, pending_receive_iff, ih]
    constructor
    · rintro (⟨req, he, hlt, hrid, hq⟩ |
        ⟨⟨before, now, req, after, rfl, hlt, rfl, rfl, hleaves⟩, hgrant, hsweep⟩)
      · refine ⟨trace, e.1, req, [], ?_, hlt, hrid, hq, ⟨by simp, by simp⟩⟩
        rw [← he]
      · refine ⟨before, now, req, after ++ [e], by simp, hlt, rfl, rfl, ?_⟩
        exact r.leaves_append_singleton.mpr ⟨hleaves, hgrant, hsweep⟩
    · rintro ⟨before, now, req, after, htrace, hlt, rfl, rfl, hleaves⟩
      rcases List.eq_nil_or_concat after with rfl | ⟨after, x, rfl⟩
      · obtain ⟨-, he⟩ := List.append_inj' htrace rfl
        obtain rfl : e = (now, r.requestPacket req) := (List.cons.inj he).1
        exact .inl ⟨req, rfl, hlt, rfl, rfl⟩
      · rw [List.concat_eq_append] at htrace hleaves
        rw [← List.cons_append, ← List.append_assoc] at htrace
        obtain ⟨rfl, he⟩ := List.append_inj' htrace rfl
        obtain rfl : e = x := (List.cons.inj he).1
        obtain ⟨hleaves, hgrant, hsweep⟩ := r.leaves_append_singleton.mp hleaves
        exact .inr ⟨⟨before, now, req, after, rfl, hlt, rfl, rfl, hleaves⟩, hgrant, hsweep⟩

/-- **When the handlers are started**: on the grants, for what is in the map by then. -/
theorem mem_starts_iff {st : HandlerStart} :
    st ∈ r.starts pending trace ↔
      ∃ before after, trace = before ++ (st.time, r.grantPacket st.requestId) :: after ∧
        r.pendingAfter pending before st.requestId = some st.request := by
  induction trace generalizing pending with
  | nil => simp [starts]
  | cons e trace ih =>
    obtain ⟨now, packet⟩ := e
    rw [starts, List.mem_append, ih, Option.mem_toList, Option.map_eq_some_iff]
    constructor
    · rintro (⟨⟨rid, q⟩, hspawn, rfl⟩ | ⟨before, after, rfl, hq⟩)
      · obtain ⟨rfl, hq⟩ := r.spawn_receive_iff.mp hspawn
        exact ⟨[], trace, rfl, hq⟩
      · exact ⟨(now, packet) :: before, after, rfl, hq⟩
    · rintro ⟨before, after, htrace, hq⟩
      cases before with
      | nil =>
        obtain ⟨⟨rfl, rfl⟩, rfl⟩ : (now = st.time ∧ packet = r.grantPacket st.requestId) ∧
            trace = after := by simpa using htrace
        exact .inl ⟨(st.requestId, st.request), r.spawn_receive_iff.mpr ⟨rfl, hq⟩, rfl⟩
      | cons x before =>
        obtain ⟨rfl, rfl⟩ : (now, packet) = x ∧
            trace = before ++ (st.time, r.grantPacket st.requestId) :: after := by
          simpa using htrace
        exact .inr ⟨before, after, rfl, hq⟩

/-- **When every handler is started before the expiry of its request.** Messages reach a task in
any order and at any times. The handlers it starts are all started strictly before the expiry of
their requests exactly when no grant comes at or after the expiry of a request that arrived in time
and is not forgotten. -/
theorem starts_before_expiry_iff (trace : List (Int × Packet)) :
    (∀ st ∈ r.starts (fun _ => none) trace, st.time < st.request.expiry) ↔
      ∀ before now req between now' after,
        trace = before ++ (now, r.requestPacket req) ::
          (between ++ (now', r.grantPacket req.requestId) :: after) →
        now < req.expiry → r.Leaves req between → now' < req.expiry := by
  constructor
  · intro h before now req between now' after htrace hlt hleaves
    refine h ⟨now', req.requestId, req.toPending⟩ (r.mem_starts_iff.mpr ?_)
    refine ⟨before ++ (now, r.requestPacket req) :: between, after, by simp [htrace], ?_⟩
    exact r.pendingAfter_iff.mpr ⟨before, now, req, between, rfl, hlt, rfl, rfl, hleaves⟩
  · intro h st hst
    obtain ⟨front, after, htrace, hq⟩ := r.mem_starts_iff.mp hst
    obtain ⟨before, now, req, between, rfl, hlt, hrid, hreq, hleaves⟩ := r.pendingAfter_iff.mp hq
    rw [← hreq]
    refine h before now req between st.time after ?_ hlt hleaves
    rw [htrace, hrid]
    simp

end Registration

/-- A task of the server `S` for the method `Start`. -/
def startTask : Registration := ⟨⟨"svc", "S"⟩, "Start", "", by decide⟩

/-- **A late grant starts a handler.** The request expires at time 10; its grant arrives at
time 20. -/
theorem starts_after_expiry :
    startTask.starts (fun _ => none)
        [(0, startTask.requestPacket ⟨"R", "C", 0, 10, [1]⟩), (20, startTask.grantPacket "R")] =
      [⟨20, "R", ⟨"C", [1], 10⟩⟩] := by
  decide

end LivekitVoice.Psrpc
