import LivekitVoice.Keyed.Table
import LivekitVoice.Text.Slice

/-! # The store and its two backends

The store keeps trunks, dispatch rules and egress records as bytes, in Redis hashes or, without
Redis, in one map in memory whose keys join the name of a table and an id with a colon.

* **`memory_refines_redis`** — over every sequence of operations the two backends give the same
  answers, lists in any order; ids may be any texts, with colons or without, since no name of a
  table has one. -/

namespace LivekitVoice.Store

open Keyed Text

/-! ## Messages and tables -/

/-- The messages that are stored. -/
inductive Kind
  | sipInbound
  | sipOutbound
  | sipDispatch
  | egress
  deriving DecidableEq

/-- The tables: one for each kind of message, and one of old trunks that are only deleted. -/
inductive Table
  | sipTrunk
  | of (kind : Kind)
  deriving DecidableEq

/-- `KEY_SIP_TRUNK` and the others. -/
def Table.name : Table → String
  | .sipTrunk => "sip_trunk"
  | .of .sipInbound => "sip_inbound_trunk"
  | .of .sipOutbound => "sip_outbound_trunk"
  | .of .sipDispatch => "sip_dispatch_rule"
  | .of .egress => "egress"

/-- **The messages**: their types, their bytes, and the fields the store reads. -/
structure Schema where
  Message : Kind → Type
  Bytes : Type
  encodeToVec : {kind : Kind} → Message kind → Bytes
  decode : (kind : Kind) → Bytes → Option (Message kind)
  default : (kind : Kind) → Message kind
  /-- `sip_trunk_id`, `sip_dispatch_rule_id` or `egress_id`. -/
  id : {kind : Kind} → Message kind → String
  roomName : Message .egress → String

variable {M : Schema}

/-! ## The backends -/

/-- What the store asks of a backend. -/
structure Backend (M : Schema) (σ : Type) where
  set : σ → String → String → M.Bytes → σ
  get : σ → String → String → Option M.Bytes
  del : σ → String → String → σ
  sadd : σ → String → String → σ
  list : σ → String → List M.Bytes

/-- `MemoryStore`: one map. -/
abbrev Memory (M : Schema) := AList fun _ : String => M.Bytes

/-- `format!("{key}:{id}")`. -/
def memoryKey (key id : String) : String := key ++ ":" ++ id

/-- `MemoryStore`; it keeps no sets. -/
def memory : Backend M (Memory M) where
  set data key id bytes := data.insert (memoryKey key id) bytes
  get data key id := data.lookup (memoryKey key id)
  del data key id := data.erase (memoryKey key id)
  sadd data _ _ := data
  list data key :=
    (data.entries.filter fun e => (key ++ ":").toList.isPrefixOf e.1.toList).map fun e => e.2

/-- **Redis**: hashes and sets, under their keys. -/
structure Redis (M : Schema) where
  hashes : String → AList fun _ : String => M.Bytes
  sets : String → List String

/-- `RedisStore`: `HSET`, `HGET`, `HDEL`, `SADD` and `HGETALL`. -/
def redis : Backend M (Redis M) where
  set r key id bytes :=
    { r with hashes := Function.update r.hashes key ((r.hashes key).insert id bytes) }
  get r key id := (r.hashes key).lookup id
  del r key id := { r with hashes := Function.update r.hashes key ((r.hashes key).erase id) }
  sadd r key member := { r with sets := Function.update r.sets key ((r.sets key).insert member) }
  list r key := (r.hashes key).entries.map fun e => e.2

/-! ## The operations -/

/-- The operations of the store. -/
inductive Op (M : Schema)
  | storeSipInboundTrunk (t : M.Message .sipInbound)
  | loadSipInboundTrunk (id : String)
  | listSipInboundTrunks
  | storeSipOutboundTrunk (t : M.Message .sipOutbound)
  | loadSipOutboundTrunk (id : String)
  | listSipOutboundTrunks
  | deleteSipTrunk (id : String)
  | storeSipDispatchRule (rule : M.Message .sipDispatch)
  | loadSipDispatchRule (id : String)
  | listSipDispatchRules
  | deleteSipDispatchRule (id : String)
  | storeEgress (info : M.Message .egress)
  | loadEgress (id : String)
  | listEgress

/-- What an operation answers. -/
inductive Answer (M : Schema)
  | done
  | loaded (kind : Kind) (message : Option (M.Message kind))
  | listed (kind : Kind) (messages : List (M.Message kind))

/-- The same answer, lists in any order. -/
inductive Answer.Same : Answer M → Answer M → Prop
  | refl (answer : Answer M) : Same answer answer
  | listed (kind : Kind) {messages messages' : List (M.Message kind)}
      (h : messages.Perm messages') : Same (.listed kind messages) (.listed kind messages')

section Exec

variable {σ : Type} (b : Backend M σ)

/-- A message is stored under its id. -/
def put (s : σ) {kind : Kind} (message : M.Message kind) : σ :=
  b.set s (Table.of kind).name (M.id message) (M.encodeToVec message)

/-- A message is loaded; what cannot be decoded is the default. -/
def load (s : σ) (kind : Kind) (id : String) : Answer M :=
  .loaded kind ((b.get s (Table.of kind).name id).map fun bytes =>
    (M.decode kind bytes).getD (M.default kind))

/-- The messages are listed; what cannot be decoded is left out. -/
def list (s : σ) (kind : Kind) : Answer M :=
  .listed kind ((b.list s (Table.of kind).name).filterMap (M.decode kind))

/-- `store_egress`: the record, and its place in the set of its room. -/
def storeEgress (s : σ) (info : M.Message .egress) : σ :=
  let s := put b s info
  if M.roomName info = "" then s
  else b.sadd s ((Table.of .egress).name ++ ":room:" ++ M.roomName info) (M.id info)

/-- `delete_sip_trunk`: from all tables that may have it. -/
def deleteSipTrunk (s : σ) (id : String) : σ :=
  b.del (b.del (b.del s Table.sipTrunk.name id) (Table.of .sipInbound).name id)
    (Table.of .sipOutbound).name id

/-- **One operation.** -/
def exec (s : σ) : Op M → σ × Answer M
  | .storeSipInboundTrunk t => (put b s t, .done)
  | .loadSipInboundTrunk id => (s, load b s .sipInbound id)
  | .listSipInboundTrunks => (s, list b s .sipInbound)
  | .storeSipOutboundTrunk t => (put b s t, .done)
  | .loadSipOutboundTrunk id => (s, load b s .sipOutbound id)
  | .listSipOutboundTrunks => (s, list b s .sipOutbound)
  | .deleteSipTrunk id => (deleteSipTrunk b s id, .done)
  | .storeSipDispatchRule rule => (put b s rule, .done)
  | .loadSipDispatchRule id => (s, load b s .sipDispatch id)
  | .listSipDispatchRules => (s, list b s .sipDispatch)
  | .deleteSipDispatchRule id => (b.del s (Table.of .sipDispatch).name id, .done)
  | .storeEgress info => (storeEgress b s info, .done)
  | .loadEgress id => (s, load b s .egress id)
  | .listEgress => (s, list b s .egress)

/-- **The answers** to a sequence of operations. -/
def answers (s : σ) : List (Op M) → List (Answer M)
  | [] => []
  | op :: ops => (exec b s op).2 :: answers (exec b s op).1 ops

end Exec

/-! ## Both give the same answers -/

/-- The map in memory has what the hashes have. -/
def Agree (data : Memory M) (r : Redis M) : Prop :=
  Flattens (fun table : Table => memoryKey table.name) data fun table => r.hashes table.name

theorem name_injective : Function.Injective Table.name := by
  rintro (_ | ⟨_ | _ | _ | _⟩) (_ | ⟨_ | _ | _ | _⟩) h <;> first | rfl | exact absurd h (by decide)

theorem memoryKey_injective : Function.Injective2 fun table : Table => memoryKey table.name := by
  have hcolon : ∀ table : Table, ':' ∉ table.name.toList := by
    rintro (_ | ⟨_ | _ | _ | _⟩) <;> decide
  intro table table' id id' h
  have hlist : table.name.toList ++ ':' :: id.toList = table'.name.toList ++ ':' :: id'.toList := by
    simpa [memoryKey] using congrArg String.toList h
  have hsplit := splitOnce_eq_some_iff.mpr ⟨hlist, hcolon table'⟩
  rw [splitOnce_eq_some_iff.mpr ⟨rfl, hcolon table⟩] at hsplit
  obtain ⟨hname, hid⟩ := Prod.mk.inj (Option.some.inj hsplit)
  exact ⟨name_injective (String.toList_inj.mp hname), String.toList_inj.mp hid⟩

variable {data : Memory M} {r : Redis M}

theorem hashes_update (table : Table) (hash : AList fun _ : String => M.Bytes) :
    (fun table' : Table => Function.update r.hashes table.name hash table'.name) =
      Function.update (fun table' : Table => r.hashes table'.name) table hash :=
  Function.update_comp_eq_of_injective r.hashes name_injective table hash

theorem Agree.set (h : Agree data r) (table : Table) (id : String) (bytes : M.Bytes) :
    Agree (memory.set data table.name id bytes) (redis.set r table.name id bytes) := by
  have hset := Flattens.insert memoryKey_injective h table id bytes
  rwa [← hashes_update] at hset

theorem Agree.del (h : Agree data r) (table : Table) (id : String) :
    Agree (memory.del data table.name id) (redis.del r table.name id) := by
  have hdel := Flattens.erase memoryKey_injective h table id
  rwa [← hashes_update] at hdel

theorem Agree.load (h : Agree data r) (kind : Kind) (id : String) :
    Answer.Same (load memory data kind id) (load redis r kind id) := by
  have hget : memory.get data (Table.of kind).name id = redis.get r (Table.of kind).name id :=
    h (.of kind) id
  rw [Store.load, Store.load, hget]
  exact .refl _

/-- **The keys of a map** are those that start with its name. -/
theorem isPrefixOf_iff (key k : String) :
    (key ++ ":").toList.isPrefixOf k.toList ↔ ∃ id, k = memoryKey key id := by
  rw [List.isPrefixOf_iff_prefix]
  constructor
  · rintro ⟨id, hid⟩
    refine ⟨String.ofList id, String.toList_inj.mp ?_⟩
    rw [memoryKey, String.toList_append, String.toList_ofList, hid]
  · rintro ⟨id, rfl⟩
    exact ⟨id.toList, by rw [memoryKey, ← String.toList_append]⟩

theorem Agree.list (h : Agree data r) (kind : Kind) :
    Answer.Same (list memory data kind) (list redis r kind) :=
  .listed kind ((Flattens.values_perm memoryKey_injective h
    fun k => isPrefixOf_iff (Table.of kind).name k).filterMap _)

theorem Agree.storeEgress (h : Agree data r) (info : M.Message .egress) :
    Agree (storeEgress memory data info) (storeEgress redis r info) := by
  unfold Store.storeEgress
  split
  · exact h.set _ _ _
  · exact h.set (.of .egress) _ _

/-- **One operation** on both backends. -/
theorem Agree.exec (h : Agree data r) (op : Op M) :
    Agree (exec memory data op).1 (exec redis r op).1 ∧
      Answer.Same (exec memory data op).2 (exec redis r op).2 := by
  cases op with
  | storeSipInboundTrunk t | storeSipOutboundTrunk t | storeSipDispatchRule t =>
    exact ⟨h.set _ _ _, .refl _⟩
  | loadSipInboundTrunk id | loadSipOutboundTrunk id | loadSipDispatchRule id | loadEgress id =>
    exact ⟨h, h.load _ _⟩
  | listSipInboundTrunks | listSipOutboundTrunks | listSipDispatchRules | listEgress =>
    exact ⟨h, h.list _⟩
  | deleteSipTrunk id => exact ⟨((h.del _ _).del _ _).del _ _, .refl _⟩
  | deleteSipDispatchRule id => exact ⟨h.del _ _, .refl _⟩
  | storeEgress info => exact ⟨h.storeEgress info, .refl _⟩

/-- **The map in memory refines Redis**: over every sequence of operations both give the same
answers, whatever the ids are. -/
theorem memory_refines_redis (M : Schema) (ops : List (Op M)) :
    List.Forall₂ Answer.Same (answers memory ∅ ops)
      (answers redis ⟨fun _ => ∅, fun _ => []⟩ ops) := by
  have hall : ∀ (ops : List (Op M)) (data : Memory M) (r : Redis M), Agree data r →
      List.Forall₂ Answer.Same (answers memory data ops) (answers redis r ops) := by
    intro ops
    induction ops with
    | nil => exact fun _ _ _ => .nil
    | cons op ops ih =>
      intro data r h
      exact .cons (h.exec op).2 (ih _ _ (h.exec op).1)
  exact hall ops ∅ _ fun _ _ => rfl

end LivekitVoice.Store
