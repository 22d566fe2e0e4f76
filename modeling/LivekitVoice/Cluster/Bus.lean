import Mathlib.Tactic.Common

/-! # The cluster bus

The key-value and hash half of `ClusterBus`: the node liveness keys `lk:node:<id>` and the room
registry, the hash `lk:rooms` mapping a room name to the node that hosts it. The commands are
those of the in-memory bus, which agree with Redis on `GET`, `HGET`, `HSETNX` and `HDEL`. A
command may also fail for its caller (`Reply.failed`), and then a write may or may not have taken
effect. -/

namespace LivekitVoice

/-- A cluster node's id. -/
abbrev NodeId := String

/-- A room's name. -/
abbrev RoomName := String

/-- The liveness key of a node (`node_key`). -/
def nodeKey (nodeId : NodeId) : String := "lk:node:" ++ nodeId

/-- The hash holding the room registry (`rooms_key`). -/
def roomsKey : String := "lk:rooms"

/-- **The shared bus**: string keys and hashes (`MemInner`, without the streams). -/
structure Bus where
  /-- String keys. -/
  kv : String → Option String
  /-- Hashes: key, then field. -/
  hashes : String → String → Option String

namespace Bus

/-- The bus with no key set. -/
def empty : Bus := ⟨fun _ => none, fun _ _ => none⟩

variable (b : Bus)

/-- `SET key value`; expiry is the disappearance of the key, a `del` by the server. -/
def set (key value : String) : Bus :=
  { b with kv := fun k => if k = key then some value else b.kv k }

/-- `GET key`. -/
def get (key : String) : Option String := b.kv key

/-- `HGET hash field`. -/
def hget (hash field : String) : Option String := b.hashes hash field

/-- `HSET hash field value`. -/
def hset (hash field value : String) : Bus :=
  { b with hashes := fun h f => if h = hash ∧ f = field then some value else b.hashes h f }

/-- `HSETNX hash field value`: writes only an absent field, and says whether it wrote. -/
def hsetnx (hash field value : String) : Bus × Bool :=
  if (b.hget hash field).isSome then (b, false) else (b.hset hash field value, true)

/-- `HDEL hash field`. -/
def hdel (hash field : String) : Bus :=
  { b with hashes := fun h f => if h = hash ∧ f = field then none else b.hashes h f }

/-- The node the registry maps a room to. -/
def owner (room : RoomName) : Option NodeId := b.hget roomsKey room

/-- A node is alive while its liveness key is present. -/
def alive (nodeId : NodeId) : Bool := (b.get (nodeKey nodeId)).isSome

@[simp] theorem hget_roomsKey (room : RoomName) : b.hget roomsKey room = b.owner room :=
  rfl

@[simp] theorem owner_hset (room room' : RoomName) (n : NodeId) :
    (b.hset roomsKey room n).owner room' = if room' = room then some n else b.owner room' := by
  simp [owner, hget, hset]

@[simp] theorem owner_hdel (room room' : RoomName) :
    (b.hdel roomsKey room).owner room' = if room' = room then none else b.owner room' := by
  simp [owner, hget, hdel]

@[simp] theorem alive_hset (hash field value : String) (n : NodeId) :
    (b.hset hash field value).alive n = b.alive n := rfl

end Bus

/-- **How a bus command ended for its caller**: with its reply, or with an error, in which case a
write may still have been applied by the server. -/
inductive Reply
  /-- The command was applied and its reply arrived. -/
  | ok
  /-- The caller got an error; `applied` says whether a write took effect. -/
  | failed (applied : Bool)
  deriving DecidableEq

namespace Reply

/-- The value a read yields to a caller that maps errors to the default
(`unwrap_or_default`). -/
def read (rep : Reply) (value : Option String) : Option String :=
  match rep with
  | .ok => value
  | .failed _ => none

/-- The flag a command yields to a caller that maps errors to `false` (`unwrap_or(false)`). -/
def flag (rep : Reply) (value : Bool) : Bool :=
  match rep with
  | .ok => value
  | .failed _ => false

/-- The data after a write command, given the data before and the data the command produces. -/
def write {α : Type} (rep : Reply) (before after : α) : α :=
  match rep with
  | .ok => after
  | .failed applied => if applied then after else before

@[simp] theorem read_ok (value : Option String) : Reply.ok.read value = value := rfl

@[simp] theorem flag_ok (value : Bool) : Reply.ok.flag value = value := rfl

@[simp] theorem write_ok {α : Type} (before after : α) : Reply.ok.write before after = after := rfl

end Reply

end LivekitVoice
