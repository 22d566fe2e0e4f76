import Mathlib.Data.List.Basic

/-! # The websocket signal transport

A client's signal messages arrive as websocket frames, protobuf in binary frames or JSON in text
frames. Two loops read them: `WsIoReader::next_request` where the session runs on the node the
client is connected to, and the in-pump of `run_relay_client` where the session runs on another
node and the requests are forwarded to it.

* **`relayPump_eq_requests_iff`** — the two agree exactly when no frame they reach is larger than
  the configured limit: only the first of them checks it. -/

namespace LivekitVoice

/-! ## Messages and their codecs -/

/-- Bytes on the wire. -/
abbrev Bytes := List UInt8

/-- The protobuf encoding of a message type: decoding undoes encoding. -/
structure Prost (M : Type) where
  /-- `encode_to_vec`. -/
  encodeToVec : M → Bytes
  /-- `decode`. -/
  decode : Bytes → Option M
  /-- What was encoded is decoded. -/
  decode_encodeToVec : ∀ m, decode (encodeToVec m) = some m

attribute [simp] Prost.decode_encodeToVec

/-- The encodings of `SignalRequest` and `SignalResponse`. Nothing is assumed of the JSON ones:
they are what `serde_json` makes of them. -/
structure SignalCodec (Req Resp : Type) where
  /-- Protobuf requests. -/
  request : Prost Req
  /-- Protobuf responses. -/
  response : Prost Resp
  /-- `serde_json::from_str` for requests. -/
  requestFromStr : String → Option Req
  /-- `serde_json::to_string` for responses. -/
  responseToString : Resp → Option String

/-- Messages that are their own protobuf encoding and have no JSON form. -/
def rawCodec : SignalCodec Bytes Bytes where
  request := ⟨id, some, fun _ => rfl⟩
  response := ⟨id, some, fun _ => rfl⟩
  requestFromStr _ := none
  responseToString _ := none

/-- A websocket message. -/
inductive Message
  /-- A text frame. -/
  | text (text : String)
  /-- A binary frame. -/
  | binary (bytes : Bytes)
  /-- A ping. -/
  | ping (bytes : Bytes)
  /-- A pong. -/
  | pong (bytes : Bytes)
  /-- A close frame, with its code and reason if it has them. -/
  | close (frame : Option (Nat × String))

/-- The length of a data frame's payload in bytes, which is what the size limit is about. -/
def Message.len : Message → Nat
  | .text t => t.utf8ByteSize
  | .binary bs => bs.length
  | _ => 0

/-- The wire mode a data frame switches to (`true` for JSON); other frames have none. -/
def Message.mode : Message → Option Bool
  | .text _ => some true
  | .binary _ => some false
  | _ => none

/-- Pings and pongs, which the websocket layer answers by itself. -/
def Message.isKeepalive : Message → Bool
  | .ping _ => true
  | .pong _ => true
  | _ => false

section Codec

variable {Req Resp : Type} (c : SignalCodec Req Resp)

/-- `ws_encode`: the frame of a response in the given wire mode. -/
def wsEncode (resp : Resp) (json : Bool) : Message :=
  if json then
    match c.responseToString resp with
    | some text => .text text
    | none => .binary (c.response.encodeToVec resp)
  else .binary (c.response.encodeToVec resp)

/-- `ws_decode`: the request of a data frame, and the wire mode after it. -/
def wsDecode (msg : Message) (json : Bool) : Option Req × Bool :=
  match msg with
  | .binary bytes => (c.request.decode bytes, false)
  | .text text => (c.requestFromStr text, true)
  | _ => (none, json)

/-- The request a frame decodes to does not depend on the wire mode before it. -/
def Message.request (msg : Message) : Option Req := (wsDecode c msg false).1

/-! ## Reading from the socket -/

/-- What the next read of the socket yields; a list of these is a connection, and its end is the
end of the stream. -/
inductive SocketEvent
  /-- A frame. -/
  | frame (msg : Message)
  /-- A read error. -/
  | error
  /-- Nothing for `PING_TIMEOUT_SECS` seconds. -/
  | timeout

/-- `WsIoReader`, apart from the socket: the wire mode and the close code it shares with the
writer, and the size limit. -/
structure WsIoReader where
  /-- The wire mode of the last data frame. -/
  mode : Bool
  /-- The code the connection will be closed with. -/
  closeCode : Nat
  /-- The largest data frame accepted. -/
  maxFrameSize : Nat

/-- The reader of a new connection (`ws_io`). -/
def wsIo (maxFrameSize : Nat) : WsIoReader := ⟨false, 1000, maxFrameSize⟩

namespace WsIoReader

/-- **`WsIoReader::next_request`**: the request, the reader after it and what is left of the
connection. -/
def nextRequest (r : WsIoReader) : List SocketEvent → Option Req × WsIoReader × List SocketEvent
  | [] => (none, r, [])
  | .timeout :: rest => (none, r, rest)
  | .error :: rest => (none, r, rest)
  | .frame (.binary bytes) :: rest =>
    -- the wire mode is switched before the size is checked
    if r.maxFrameSize < bytes.length then
      (none, { r with mode := false, closeCode := 1009 }, rest)
    else (c.request.decode bytes, { r with mode := false }, rest)
  | .frame (.text text) :: rest =>
    if r.maxFrameSize < text.utf8ByteSize then
      (none, { r with mode := true, closeCode := 1009 }, rest)
    else (c.requestFromStr text, { r with mode := true }, rest)
  | .frame (.close _) :: rest => (none, r, rest)
  | .frame (.ping _) :: rest => nextRequest r rest
  | .frame (.pong _) :: rest => nextRequest r rest

theorem nextRequest_data (r : WsIoReader) {msg : Message} {json : Bool}
    (hmode : msg.mode = some json) (rest : List SocketEvent) :
    r.nextRequest c (.frame msg :: rest) =
      if r.maxFrameSize < msg.len then (none, { r with mode := json, closeCode := 1009 }, rest)
      else (msg.request c, { r with mode := json }, rest) := by
  cases msg with
  | text text =>
    obtain rfl : true = json := Option.some.inj hmode
    rfl
  | binary bytes =>
    obtain rfl : false = json := Option.some.inj hmode
    rfl
  | _ => cases hmode

variable {r : WsIoReader} {events : List SocketEvent}

theorem nextRequest_length_lt {r' : WsIoReader} {rest : List SocketEvent} {req : Req}
    (h : r.nextRequest c events = (some req, r', rest)) : rest.length < events.length := by
  fun_induction nextRequest c r events with
  | case1 | case2 | case3 | case4 | case6 | case8 => cases h
  | case5 | case7 =>
    simp only [Prod.mk.injEq] at h
    rw [← h.2.2]
    exact Nat.lt_succ_self _
  | case9 bytes rest ih | case10 bytes rest ih => exact Nat.lt_succ_of_lt (ih h)

/-- **The requests of a connection**: what successive `next_request` calls return before the first
`None`. -/
def requests (r : WsIoReader) (events : List SocketEvent) : List Req :=
  match _hnext : r.nextRequest c events with
  | (some req, r', rest) => req :: requests r' rest
  | (none, _, _) => []
termination_by events.length
decreasing_by exact nextRequest_length_lt c _hnext

theorem requests_of_some {r' : WsIoReader} {rest : List SocketEvent} {req : Req}
    (h : r.nextRequest c events = (some req, r', rest)) :
    r.requests c events = req :: r'.requests c rest := by
  rw [requests]
  split
  · next req₁ r₁ rest₁ h₁ =>
    obtain ⟨rfl, rfl, rfl⟩ : req₁ = req ∧ r₁ = r' ∧ rest₁ = rest := by
      simpa using h₁.symm.trans h
    rfl
  · next h₁ =>
    simp [h] at h₁

theorem requests_of_none (h : (r.nextRequest c events).1 = none) : r.requests c events = [] := by
  rw [requests]
  split
  · next h₁ =>
    simp [h₁] at h
  · rfl

theorem requests_keepalive (r : WsIoReader) {msg : Message} (hmsg : msg.isKeepalive)
    (rest : List SocketEvent) :
    r.requests c (.frame msg :: rest) = r.requests c rest := by
  have hnext : r.nextRequest c (.frame msg :: rest) = r.nextRequest c rest := by
    cases msg with
    | ping | pong => rfl
    | _ => cases hmsg
  cases hrest : r.nextRequest c rest with
  | mk result tail =>
    cases result with
    | none => rw [requests_of_none c (by rw [hnext, hrest]), requests_of_none c (by rw [hrest])]
    | some req => rw [requests_of_some c (hnext.trans hrest), requests_of_some c hrest]

end WsIoReader

/-! ## The relay's in-pump -/

/-- **The in-pump of `run_relay_client`**: the requests appended to `relay_in` before the loop
ends, for a connection read in wire mode `json` with a bus that takes every entry. -/
def relayPump (json : Bool) : List SocketEvent → List Req
  | [] => []
  | .error :: _ => []
  | .timeout :: _ => []
  | .frame (.ping _) :: rest => relayPump json rest
  | .frame (.pong _) :: rest => relayPump json rest
  | .frame (.close _) :: _ => []
  | .frame msg :: rest =>
    -- the pump does not know the limit
    match wsDecode c msg json with
    | (some req, json') => req :: relayPump json' rest
    | (none, _) => []

variable {msg : Message} {limit : Nat} {events : List SocketEvent}

/-! ## The two loops compared -/

/-- Both loops go on after this event: a ping, a pong, or a data frame that decodes. -/
def SocketEvent.Passed : SocketEvent → Prop
  | .frame msg => msg.isKeepalive ∨ (msg.request c).isSome
  | _ => False

/-- **No oversized request is reached**: a data frame that decodes, after pings, pongs and data
frames that decode, is within the limit. -/
def WithinLimit (limit : Nat) (events : List SocketEvent) : Prop :=
  ∀ before msg after, events = before ++ .frame msg :: after →
    (∀ e ∈ before, e.Passed c) → (msg.request c).isSome → msg.len ≤ limit

theorem withinLimit_cons {e : SocketEvent} :
    WithinLimit c limit (e :: events) ↔
      (∀ msg, e = .frame msg → (msg.request c).isSome → msg.len ≤ limit) ∧
        (e.Passed c → WithinLimit c limit events) := by
  constructor
  · intro h
    refine ⟨fun msg he hsome => ?_, fun hpass before msg after hevents hbefore hsome => ?_⟩
    · exact h [] msg events (by rw [he]; rfl) (by simp) hsome
    · refine h (e :: before) msg after (by rw [hevents]; rfl) ?_ hsome
      rintro e' (_ | ⟨_, he'⟩)
      · exact hpass
      · exact hbefore e' he'
  · rintro ⟨hhead, htail⟩ before msg after hevents hbefore hsome
    cases before with
    | nil =>
      obtain ⟨rfl, -⟩ : e = .frame msg ∧ events = after := by simpa using hevents
      exact hhead msg rfl hsome
    | cons e' before =>
      obtain ⟨rfl, rfl⟩ : e = e' ∧ events = before ++ .frame msg :: after := by
        simpa using hevents
      exact htail (hbefore e List.mem_cons_self) before msg after rfl
        (fun x hx => hbefore x (List.mem_cons_of_mem e hx)) hsome

theorem withinLimit_of_stop {e : SocketEvent} (events : List SocketEvent) (hstop : ¬ e.Passed c) :
    WithinLimit c limit (e :: events) := by
  refine (withinLimit_cons c).mpr ⟨fun msg he hsome => ?_, fun hpass => absurd hpass hstop⟩
  rw [he] at hstop
  exact absurd (.inr hsome) hstop

theorem withinLimit_keepalive (hmsg : msg.isKeepalive) :
    WithinLimit c limit (.frame msg :: events) ↔ WithinLimit c limit events := by
  rw [withinLimit_cons]
  refine ⟨fun h => h.2 (.inl hmsg), fun h => ⟨fun m hm _ => ?_, fun _ => h⟩⟩
  obtain rfl : msg = m := SocketEvent.frame.inj hm
  cases msg with
  | ping | pong => exact Nat.zero_le _
  | _ => cases hmsg

theorem withinLimit_data {req : Req} (hreq : msg.request c = some req) :
    WithinLimit c limit (.frame msg :: events) ↔ msg.len ≤ limit ∧ WithinLimit c limit events := by
  rw [withinLimit_cons]
  have hsome : (msg.request c).isSome := by rw [hreq]; rfl
  constructor
  · exact fun h => ⟨h.1 msg rfl hsome, h.2 (.inr hsome)⟩
  · rintro ⟨hlen, htail⟩
    refine ⟨fun m hm _ => ?_, fun _ => htail⟩
    obtain rfl : msg = m := SocketEvent.frame.inj hm
    exact hlen

theorem relayPump_eq_requests_data {r : WsIoReader} {json mode : Bool}
    (hmode : msg.mode = some mode) {rest : List SocketEvent}
    (ih : ∀ (r' : WsIoReader) (json' : Bool), r'.maxFrameSize = r.maxFrameSize →
      (relayPump c json' rest = r'.requests c rest ↔ WithinLimit c r.maxFrameSize rest)) :
    relayPump c json (.frame msg :: rest) = r.requests c (.frame msg :: rest) ↔
      WithinLimit c r.maxFrameSize (.frame msg :: rest) := by
  -- the pump forwards the frame if it decodes, and stops otherwise
  have hpump : relayPump c json (.frame msg :: rest) =
      match msg.request c with
      | some req => req :: relayPump c mode rest
      | none => [] := by
    cases msg with
    | text text =>
      obtain rfl : true = mode := Option.some.inj hmode
      cases hreq : c.requestFromStr text <;> simp [relayPump, Message.request, wsDecode, hreq]
    | binary bytes =>
      obtain rfl : false = mode := Option.some.inj hmode
      cases hreq : c.request.decode bytes <;> simp [relayPump, Message.request, wsDecode, hreq]
    | _ => cases hmode
  rw [hpump]
  cases hreq : msg.request c with
  | none =>
    -- both loops stop, whatever the size of the frame
    have hread : r.requests c (.frame msg :: rest) = [] := by
      apply WsIoReader.requests_of_none
      rw [WsIoReader.nextRequest_data c r hmode, hreq]
      split <;> rfl
    refine iff_of_true hread.symm (withinLimit_of_stop c rest ?_)
    rintro (hkeep | hsome)
    · cases msg with
      | ping | pong => cases hmode
      | _ => cases hkeep
    · simp [hreq] at hsome
  | some req =>
    rw [withinLimit_data c hreq]
    by_cases hlen : msg.len ≤ r.maxFrameSize
    · -- both loops go on, and the limit stays what it is
      have hread : r.nextRequest c (.frame msg :: rest) =
          (some req, { r with mode := mode }, rest) := by
        rw [WsIoReader.nextRequest_data c r hmode, if_neg (by omega), hreq]
      rw [WsIoReader.requests_of_some c hread]
      simp only [List.cons.injEq, true_and, hlen]
      exact ih { r with mode := mode } mode rfl
    · -- the reader stops and the pump forwards
      have hread : r.requests c (.frame msg :: rest) = [] := by
        apply WsIoReader.requests_of_none
        rw [WsIoReader.nextRequest_data c r hmode, if_pos (by omega)]
      rw [hread]
      simp [hlen]

/-- **Relayed and local sessions read alike**, by induction on the events. -/
theorem relayPump_eq_requests_from (r : WsIoReader) (json : Bool) (events : List SocketEvent) :
    relayPump c json events = r.requests c events ↔ WithinLimit c r.maxFrameSize events := by
  induction events generalizing r json with
  | nil =>
    refine iff_of_true (WsIoReader.requests_of_none c rfl).symm ?_
    intro before msg after hevents
    cases before <;> cases hevents
  | cons e rest ih =>
    have hdata : ∀ {msg : Message} {mode : Bool}, msg.mode = some mode →
        (relayPump c json (.frame msg :: rest) = r.requests c (.frame msg :: rest) ↔
          WithinLimit c r.maxFrameSize (.frame msg :: rest)) := fun hmode =>
      relayPump_eq_requests_data c hmode fun r' json' hr' => by rw [ih r' json', hr']
    have hkeep : ∀ {msg : Message}, msg.isKeepalive →
        (relayPump c json rest = r.requests c (.frame msg :: rest) ↔
          WithinLimit c r.maxFrameSize (.frame msg :: rest)) := fun hmsg => by
      rw [WsIoReader.requests_keepalive c r hmsg, withinLimit_keepalive c hmsg, ih r json]
    cases e with
    | error | timeout =>
      refine iff_of_true (WsIoReader.requests_of_none c rfl).symm ?_
      exact withinLimit_of_stop c rest id
    | frame msg =>
      cases msg with
      | text | binary => exact hdata rfl
      | ping | pong => exact hkeep rfl
      | close frame =>
        refine iff_of_true (WsIoReader.requests_of_none c rfl).symm ?_
        refine withinLimit_of_stop c rest ?_
        rintro (hkeep | hsome)
        · cases hkeep
        · cases hsome

/-- **When the relay is transparent.** On every connection, the in-pump forwards the requests that
`WsIoReader` would return exactly when no request either of them reaches is larger than the
configured limit. -/
theorem relayPump_eq_requests_iff (limit : Nat) (events : List SocketEvent) :
    relayPump c false events = (wsIo limit).requests c events ↔
      ∀ before msg after, events = before ++ .frame msg :: after →
        (∀ e ∈ before, e.Passed c) → (msg.request c).isSome → msg.len ≤ limit :=
  relayPump_eq_requests_from c (wsIo limit) false events

end Codec

/-- **An oversized frame is relayed.** With a limit of two bytes, a request of three bytes ends
the connection on the hosting node and is forwarded by any other node. -/
theorem relayPump_forwards_oversized :
    relayPump rawCodec false [.frame (.binary [1, 2, 3])] = [[1, 2, 3]] ∧
      (wsIo 2).requests rawCodec [.frame (.binary [1, 2, 3])] = [] :=
  ⟨rfl, WsIoReader.requests_of_none rawCodec rfl⟩

end LivekitVoice
