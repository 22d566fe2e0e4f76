import LivekitVoice.Codec.Base64
import LivekitVoice.Signal.Ws

/-! # The streams between the nodes of a relayed session

A session that runs on another node than the one its client is connected to exchanges its messages
over two Redis streams, `relay_in` and `relay_out`. An entry is a list of fields; the `kind` field
tells requests, responses and the closing entry apart, and the `data` field holds a message as
base64 of its protobuf encoding.

* **`Fields`**, **`requestFields`**, **`responseFields`**, **`closeFields`** — the entries the
  code appends, and what a reader makes of them.
* **`LastId`**, **`xread`** — reading the entries after a given one. -/

namespace LivekitVoice

/-! ## Entries -/

/-- The fields of a stream entry. -/
abbrev Fields := List (String × String)

/-- A field of an entry, as the readers look it up: collected into a map, so the last one of a
name counts. -/
def Fields.get (fields : Fields) (key : String) : Option String := fields.reverse.lookup key

/-- The entry that closes a stream. -/
def closeFields : Fields := [("kind", "close")]

section Codec

variable {Req Resp : Type} (c : SignalCodec Req Resp)

/-- The entry that carries a request. -/
def requestFields (req : Req) : Fields :=
  [("kind", "request"), ("data", Base64.encode (c.request.encodeToVec req))]

/-- The entry that carries a response. -/
def responseFields (resp : Resp) : Fields :=
  [("kind", "response"), ("data", Base64.encode (c.response.encodeToVec resp))]

@[simp] theorem kind_closeFields : closeFields.get "kind" = some "close" := rfl

@[simp] theorem kind_requestFields (req : Req) :
    (requestFields c req).get "kind" = some "request" := rfl

@[simp] theorem data_requestFields (req : Req) :
    (requestFields c req).get "data" = some (Base64.encode (c.request.encodeToVec req)) := rfl

@[simp] theorem kind_responseFields (resp : Resp) :
    (responseFields c resp).get "kind" = some "response" := rfl

@[simp] theorem data_responseFields (resp : Resp) :
    (responseFields c resp).get "data" = some (Base64.encode (c.response.encodeToVec resp)) := rfl

end Codec

/-! ## Reading -/

/-- Where a reader stands: at the entry it has read last, or nowhere yet. Entries are numbered
from one in the order in which they were appended, so `entry 0` (the id `0`) is before them all. -/
inductive LastId
  /-- The id `$`: only entries added after the call. -/
  | newest
  /-- After the entry of this number. -/
  | entry (n : Nat)
  deriving DecidableEq

/-- The entry after which an `XREAD` starts; `$` stands for the last entry there is when the
command reaches the server. -/
def LastId.resolve (stream : List Fields) : LastId → Nat
  | .newest => stream.length
  | .entry n => n

/-- How many entries a reader has read. -/
def LastId.read : LastId → Nat
  | .newest => 0
  | .entry n => n

/-- **`XREAD`**: the entries after entry `start`, with their numbers. A blocking read that finds
none is answered as soon as there is one, or with the empty list after its timeout. -/
def xread (stream : List Fields) (start : Nat) : List (Fields × Nat) :=
  (stream.drop start).zipIdx (start + 1)

end LivekitVoice
