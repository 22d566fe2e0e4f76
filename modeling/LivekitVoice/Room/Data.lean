import LivekitVoice.Room.Visibility
import LivekitVoice.Signal.Ws

/-! # Data packets

A client sends a data packet on one of its two data channels, and the server forwards it to others
in the room; the API sends one to a room with `SendData`. Both choose the recipients, each in its
own way: a packet from a channel by the destinations it names itself, a request of the API not at
all.

* **`mem_handleIncomingData_iff`** — what is forwarded of a packet from a channel, and to whom,
* **`data_reaches_addressees_iff`** — the packets and requests that reach their addressees only,
* **`sender_authentic_iff`** — the packets whose copies name the one who sent them. -/

namespace LivekitVoice

/-! ## Packets -/

/-- `lk.UserPacket`. -/
structure UserPacket where
  participantSid : ParticipantSid := ""
  participantIdentity : Identity := ""
  payload : Bytes := []
  destinationSids : List ParticipantSid := []
  destinationIdentities : List Identity := []
  topic : Option String := none
  id : Option String := none
  startTime : Option Nat := none
  endTime : Option Nat := none
  nonce : Bytes := []
  deriving DecidableEq

/-- The value of a packet. -/
inductive DataValue
  | user (packet : UserPacket)
  /-- Any other kind of value, as it is encoded. -/
  | other (bytes : Bytes)
  deriving DecidableEq

/-- `lk.DataPacket`. -/
structure DataPacket where
  /-- `0` is reliable and `1` is lossy. -/
  kind : Int := 0
  participantIdentity : Identity := ""
  destinationIdentities : List Identity := []
  value : Option DataValue := none
  sequence : Nat := 0
  participantSid : ParticipantSid := ""
  deriving DecidableEq

namespace DataPacket

/-- The user packet in it, if it is one. -/
def user (packet : DataPacket) : Option UserPacket :=
  match packet.value with
  | some (.user u) => some u
  | _ => none

/-- The sids a packet is for. -/
def destinationSids (packet : DataPacket) : List ParticipantSid :=
  packet.user.elim [] UserPacket.destinationSids

/-- The identities that the user packet names, which the server does not read. -/
def userIdentities (packet : DataPacket) : List Identity :=
  packet.user.elim [] UserPacket.destinationIdentities

end DataPacket

/-- A packet on its way to a participant. -/
structure DataSend where
  recipient : ParticipantInfo
  packet : DataPacket

/-! ## From a channel -/

/-- A sender field of a packet: only if it is empty it is filled in. -/
def fillField (own field : String) : String := if field = "" then own else field

variable (sender : ParticipantInfo)

/-- **The packet that is forwarded**: the kind is that of the channel, and a hidden sender is not
named. -/
def outgoing (packet : DataPacket) (lossy : Bool) : DataPacket :=
  let out := { packet with kind := if lossy then 1 else 0 }
  if sender.hidden then { out with participantIdentity := "", participantSid := "" }
  else
    { out with
      participantIdentity := fillField sender.identity out.participantIdentity
      participantSid := fillField sender.sid out.participantSid }

/-- **Who gets it**: not the sender; everybody else if no destination is given, or those given. -/
def Targeted (packet : DataPacket) (p : ParticipantInfo) : Prop :=
  p.sid ≠ sender.sid ∧
    ((packet.destinationIdentities = [] ∧ packet.destinationSids = []) ∨
      p.identity ∈ packet.destinationIdentities ∨ p.sid ∈ packet.destinationSids)
  deriving Decidable

/-- `handle_incoming_data`: what is sent when bytes arrive on a channel of `sender`. They may not
decode, and the room may be gone. -/
def handleIncomingData (room : Option (List ParticipantInfo))
    (decoded : Option DataPacket) (lossy : Bool) : List DataSend :=
  match decoded with
  | none => []
  | some packet =>
    if !sender.permission.canPublishData then []
    else
      match room with
      | none => []
      | some members =>
        let out := outgoing sender packet lossy
        (members.filter fun p => Targeted sender out p).map fun p => ⟨p, out⟩

/-! ## From the API -/

/-- `lk.SendDataRequest`, without the room. -/
structure SendDataRequest where
  data : Bytes := []
  kind : Int := 0
  destinationSids : List ParticipantSid := []
  destinationIdentities : List Identity := []
  topic : Option String := none
  nonce : Bytes := []

/-- The packet of a request, with a new message id. Sids and nonce are dropped. -/
def SendDataRequest.packet (r : SendDataRequest) (messageId : String) : DataPacket where
  kind := r.kind
  destinationIdentities := r.destinationIdentities
  value := some (.user { payload := r.data, topic := r.topic, id := some messageId })

/-- `broadcast_data`. -/
def broadcastData (members : List ParticipantInfo) (packet : DataPacket)
    (destinations : List Identity) : List DataSend :=
  (members.filter fun p => destinations.isEmpty || decide (p.identity ∈ destinations)).map
    fun p => ⟨p, packet⟩

/-- `SendData`, once the room is found. **The destinations are not passed on.** -/
def sendData (members : List ParticipantInfo) (r : SendDataRequest) (messageId : String) :
    List DataSend :=
  broadcastData members (r.packet messageId) []

/-! ## What is sent -/

section Sent

variable {sender : ParticipantInfo} {members : List ParticipantInfo} {packet : DataPacket}
  {lossy : Bool} {d : DataSend}

theorem destinationIdentities_outgoing :
    (outgoing sender packet lossy).destinationIdentities = packet.destinationIdentities := by
  rw [outgoing]
  split <;> rfl

theorem destinationSids_outgoing :
    (outgoing sender packet lossy).destinationSids = packet.destinationSids := by
  rw [outgoing]
  split <;> rfl

/-- **What is forwarded, and to whom.** -/
theorem mem_handleIncomingData_iff :
    d ∈ handleIncomingData sender (some members) (some packet) lossy ↔
      sender.permission.canPublishData ∧ d.recipient ∈ members ∧
        Targeted sender packet d.recipient ∧ d.packet = outgoing sender packet lossy := by
  have hsame : ∀ p,
      Targeted sender (outgoing sender packet lossy) p ↔ Targeted sender packet p := by
    intro p
    rw [Targeted, Targeted, destinationIdentities_outgoing, destinationSids_outgoing]
  obtain ⟨p, out⟩ := d
  rw [handleIncomingData]
  by_cases hmay : sender.permission.canPublishData
  · rw [if_neg (by simp [hmay])]
    simp only [List.mem_map, List.mem_filter, decide_eq_true_eq, hsame, DataSend.mk.injEq, hmay,
      true_and]
    constructor
    · rintro ⟨q, ⟨hq, htarget⟩, rfl, rfl⟩
      exact ⟨hq, htarget, rfl⟩
    · rintro ⟨hp, htarget, rfl⟩
      exact ⟨p, ⟨hp, htarget⟩, rfl, rfl⟩
  · rw [if_pos (by simpa using hmay)]
    simp [hmay]

/-- **`SendData` goes to every member**, with the packet of the request. -/
theorem mem_sendData_iff {r : SendDataRequest} {messageId : String} :
    d ∈ sendData members r messageId ↔ d.recipient ∈ members ∧ d.packet = r.packet messageId := by
  obtain ⟨p, out⟩ := d
  simp only [sendData, broadcastData, List.isEmpty_nil, Bool.true_or, List.mem_map, List.mem_filter,
    and_true, DataSend.mk.injEq]
  constructor
  · rintro ⟨q, hq, rfl, rfl⟩
    exact ⟨hq, rfl⟩
  · rintro ⟨hp, rfl⟩
    exact ⟨p, hp, rfl, rfl⟩

end Sent

/-! ## Addressees -/

/-- **Where data come from**: a packet on a channel, or a request of the API with the message id it
is given. -/
inductive DataSource
  | channel (sender : ParticipantInfo) (packet : DataPacket) (lossy : Bool)
  | request (r : SendDataRequest) (messageId : String)

namespace DataSource

/-- What is sent in a room. -/
def sends (members : List ParticipantInfo) : DataSource → List DataSend
  | .channel sender packet lossy => handleIncomingData sender (some members) (some packet) lossy
  | .request r messageId => sendData members r messageId

/-- The identities it names as destinations. -/
def identities : DataSource → List Identity
  | .channel _ packet _ => packet.destinationIdentities ++ packet.userIdentities
  | .request r _ => r.destinationIdentities

/-- The sids it names as destinations. -/
def sids : DataSource → List ParticipantSid
  | .channel _ packet _ => packet.destinationSids
  | .request r _ => r.destinationSids

/-- It names nobody. -/
def NamesNobody (source : DataSource) : Prop := source.identities = [] ∧ source.sids = []

/-- It names `p`, by identity or by sid. -/
def Names (source : DataSource) (p : ParticipantInfo) : Prop :=
  p.identity ∈ source.identities ∨ p.sid ∈ source.sids

/-- `p` is the client that sent it. -/
def IsSender : DataSource → ParticipantInfo → Prop
  | .channel sender _ _, p => p.sid = sender.sid
  | .request .., _ => False

/-- Its sender may publish data. -/
def Permitted : DataSource → Prop
  | .channel sender _ _ => sender.permission.canPublishData
  | .request .. => True

/-- **Data reach only their addressees**: those that are named, or everybody if none is; never the
client that sent them, and nobody if that may not publish data. -/
structure ReachesAddressees (members : List ParticipantInfo) (source : DataSource) : Prop where
  named : ¬ source.NamesNobody → ∀ d ∈ source.sends members, source.Names d.recipient
  everyone : source.NamesNobody → source.Permitted →
    ∀ p ∈ members, ¬ source.IsSender p → ∃ d ∈ source.sends members, d.recipient = p
  notSender : ∀ d ∈ source.sends members, ¬ source.IsSender d.recipient
  permitted : ∀ d ∈ source.sends members, source.Permitted

/-- **The condition**: a packet does not name its destinations in its user packet alone, and a
request names none, unless that leaves nobody out. -/
def Addressed (members : List ParticipantInfo) : DataSource → Prop
  | .channel sender packet lossy =>
    packet.userIdentities = [] ∨ packet.destinationIdentities ≠ [] ∨
      packet.destinationSids ≠ [] ∨ sender.permission.canPublishData = false ∨
        ∀ p ∈ members, p.sid ≠ sender.sid → Names (.channel sender packet lossy) p
  | .request r messageId =>
    NamesNobody (.request r messageId) ∨ ∀ p ∈ members, Names (.request r messageId) p

end DataSource

open DataSource

theorem reachesAddressees_channel_iff {members : List ParticipantInfo} {sender : ParticipantInfo}
    {packet : DataPacket} {lossy : Bool} :
    ReachesAddressees members (.channel sender packet lossy) ↔
      (¬ NamesNobody (.channel sender packet lossy) → sender.permission.canPublishData →
        ∀ p ∈ members, Targeted sender packet p → Names (.channel sender packet lossy) p) := by
  constructor
  · intro h hnamed hmay p hp htarget
    exact h.named hnamed ⟨p, outgoing sender packet lossy⟩
      (mem_handleIncomingData_iff.mpr ⟨hmay, hp, htarget, rfl⟩)
  · intro h
    refine ⟨?_, ?_, ?_, ?_⟩
    · intro hnamed d hd
      obtain ⟨hmay, hp, htarget, -⟩ := mem_handleIncomingData_iff.mp hd
      exact h hnamed hmay d.recipient hp htarget
    · intro hnobody hmay p hp hnot
      have hidentities : packet.destinationIdentities = [] :=
        (List.append_eq_nil_iff.mp hnobody.1).1
      exact ⟨⟨p, outgoing sender packet lossy⟩, mem_handleIncomingData_iff.mpr
        ⟨hmay, hp, ⟨hnot, .inl ⟨hidentities, hnobody.2⟩⟩, rfl⟩, rfl⟩
    · intro d hd
      exact (mem_handleIncomingData_iff.mp hd).2.2.1.1
    · intro d hd
      exact (mem_handleIncomingData_iff.mp hd).1

/-- **Which data reach only their addressees.** -/
theorem data_reaches_addressees_iff (members : List ParticipantInfo) (source : DataSource) :
    ReachesAddressees members source ↔ source.Addressed members := by
  cases source with
  | request r messageId =>
    -- a request goes to everybody, whomever it names
    rw [Addressed, or_iff_not_imp_left]
    constructor
    · intro h hnamed p hp
      exact h.named hnamed ⟨p, r.packet messageId⟩ (mem_sendData_iff.mpr ⟨hp, rfl⟩)
    · intro h
      refine ⟨?_, ?_, fun _ _ => id, fun _ _ => trivial⟩
      · intro hnamed d hd
        exact h hnamed d.recipient (mem_sendData_iff.mp hd).1
      · intro _ _ p hp _
        exact ⟨⟨p, r.packet messageId⟩, mem_sendData_iff.mpr ⟨hp, rfl⟩, rfl⟩
  | channel sender packet lossy =>
    rw [reachesAddressees_channel_iff, Addressed]
    constructor
    · intro h
      by_cases huser : packet.userIdentities = []
      · exact .inl huser
      by_cases hidentities : packet.destinationIdentities = []
      swap
      · exact .inr (.inl hidentities)
      by_cases hsids : packet.destinationSids = []
      swap
      · exact .inr (.inr (.inl hsids))
      cases hmay : sender.permission.canPublishData with
      | false => exact .inr (.inr (.inr (.inl rfl)))
      | true =>
        -- only the user packet names somebody, and everybody else is a target
        refine .inr (.inr (.inr (.inr fun p hp hnot => ?_)))
        refine h ?_ hmay p hp ⟨hnot, .inl ⟨hidentities, hsids⟩⟩
        exact fun hnobody => huser (List.append_eq_nil_iff.mp hnobody.1).2
    · rintro h hnamed hmay p hp ⟨hnot, ⟨hidentities, hsids⟩ | hidentity | hsid⟩
      · have huser : packet.userIdentities ≠ [] := by
          intro huser
          exact hnamed ⟨List.append_eq_nil_iff.mpr ⟨hidentities, huser⟩, hsids⟩
        rcases h with h | h | h | h | h
        · exact absurd h huser
        · exact absurd hidentities h
        · exact absurd hsids h
        · simp [h] at hmay
        · exact h p hp hnot
      · exact .inl (List.mem_append_left _ hidentity)
      · exact .inr hsid

/-- A room of three. -/
def dataRoom : List ParticipantInfo :=
  [{ sid := "PA_a", identity := "a" }, { sid := "PA_b", identity := "b" },
    { sid := "PA_c", identity := "c" }]

/-- **Data that reach others**: a request for `b` goes to everybody, and so does a packet whose user
packet names `b`. -/
theorem data_reaches_others :
    (sends dataRoom (.request { destinationIdentities := ["b"] } "MSG_1")).map
        (fun d => d.recipient.identity) = ["a", "b", "c"] ∧
      (sends dataRoom (.channel { sid := "PA_a", identity := "a" }
        { value := some (.user { destinationIdentities := ["b"] }) } false)).map
        (fun d => d.recipient.identity) = ["b", "c"] := by
  decide +kernel

/-! ## Senders -/

/-- **A copy names its sender**: both fields are the sender's own, or empty if it is hidden. -/
def Authentic (sender : ParticipantInfo) (copy : DataPacket) : Prop :=
  if sender.hidden then copy.participantIdentity = "" ∧ copy.participantSid = ""
  else copy.participantIdentity = sender.identity ∧ copy.participantSid = sender.sid

/-- The packet does not get through: the sender may not publish data, or nobody is a target. -/
def Unheard (members : List ParticipantInfo) (sender : ParticipantInfo) (packet : DataPacket) :
    Prop :=
  sender.permission.canPublishData = false ∨ ∀ p ∈ members, ¬ Targeted sender packet p

/-- The packet as another sender would claim to send it. -/
def DataPacket.claiming (packet : DataPacket) (identity : Identity) (sid : ParticipantSid) :
    DataPacket :=
  { packet with participantIdentity := identity, participantSid := sid }

section Senders

variable {sender : ParticipantInfo} {members : List ParticipantInfo} {packet : DataPacket}
  {lossy : Bool}

theorem forall_handleIncomingData_iff {P : DataPacket → Prop} :
    (∀ d ∈ handleIncomingData sender (some members) (some packet) lossy, P d.packet) ↔
      Unheard members sender packet ∨ P (outgoing sender packet lossy) := by
  constructor
  · intro h
    by_cases hunheard : Unheard members sender packet
    · exact .inl hunheard
    · rw [Unheard, not_or, Bool.not_eq_false] at hunheard
      obtain ⟨hmay, htargets⟩ := hunheard
      push Not at htargets
      obtain ⟨p, hp, htarget⟩ := htargets
      exact .inr (h ⟨p, outgoing sender packet lossy⟩
        (mem_handleIncomingData_iff.mpr ⟨hmay, hp, htarget, rfl⟩))
  · intro h d hd
    obtain ⟨hmay, hp, htarget, hpacket⟩ := mem_handleIncomingData_iff.mp hd
    rcases h with (hnot | hnone) | h
    · simp [hmay] at hnot
    · exact absurd htarget (hnone d.recipient hp)
    · rw [hpacket]
      exact h

theorem handleIncomingData_claiming (identity : Identity) (sid : ParticipantSid) :
    handleIncomingData sender (some members) (some (packet.claiming identity sid)) lossy =
      (handleIncomingData sender (some members) (some packet) lossy).map fun d =>
        ⟨d.recipient, outgoing sender (packet.claiming identity sid) lossy⟩ := by
  have hsame : ∀ packet' : DataPacket,
      packet'.destinationIdentities = packet.destinationIdentities →
      packet'.destinationSids = packet.destinationSids → ∀ p,
      Targeted sender (outgoing sender packet' lossy) p ↔ Targeted sender packet p := by
    intro packet' hidentities hsids p
    rw [Targeted, Targeted, destinationIdentities_outgoing, destinationSids_outgoing, hidentities,
      hsids]
  have hclaiming := hsame (packet.claiming identity sid) rfl rfl
  have hpacket := hsame packet rfl rfl
  simp only [handleIncomingData, hclaiming, hpacket]
  split
  · rfl
  · rw [List.map_map]
    rfl

end Senders

/-- **Which packets are authentic.** Every copy of a packet names its sender, exactly if nobody gets
one, the sender is hidden, or each sender field of the packet is empty or the sender's own. The same
packet with other sender fields is forwarded in the same way, exactly if nobody gets it, the sender
is hidden, or the fields come to the same once the empty ones are filled in. -/
theorem sender_authentic_iff (members : List ParticipantInfo) (sender : ParticipantInfo)
    (packet : DataPacket) (lossy : Bool) :
    ((∀ d ∈ handleIncomingData sender (some members) (some packet) lossy,
        Authentic sender d.packet) ↔
      Unheard members sender packet ∨ sender.hidden ∨
        (packet.participantIdentity = "" ∨ packet.participantIdentity = sender.identity) ∧
          (packet.participantSid = "" ∨ packet.participantSid = sender.sid)) ∧
      ∀ identity sid,
        handleIncomingData sender (some members) (some (packet.claiming identity sid)) lossy =
            handleIncomingData sender (some members) (some packet) lossy ↔
          Unheard members sender packet ∨ sender.hidden ∨
            fillField sender.identity identity =
                fillField sender.identity packet.participantIdentity ∧
              fillField sender.sid sid = fillField sender.sid packet.participantSid := by
  refine ⟨?_, fun identity sid => ?_⟩
  · -- of a sender that is not hidden, a field that is given stays as it is
    rw [forall_handleIncomingData_iff, Authentic, outgoing]
    by_cases hhidden : sender.hidden
    · simp [hhidden]
    · simp [hhidden, fillField, imp_iff_not_or]
  · -- the same targets get one packet or the other
    have hcopies : handleIncomingData sender (some members) (some (packet.claiming identity sid))
          lossy = handleIncomingData sender (some members) (some packet) lossy ↔
        ∀ d ∈ handleIncomingData sender (some members) (some packet) lossy,
          outgoing sender (packet.claiming identity sid) lossy = d.packet := by
      rw [handleIncomingData_claiming]
      conv_lhs => rhs; rw [← List.map_id (handleIncomingData _ _ _ _)]
      exact List.map_inj_left.trans (forall₂_congr fun d _ => by cases d; simp)
    rw [hcopies, forall_handleIncomingData_iff, outgoing, outgoing, DataPacket.claiming]
    by_cases hhidden : sender.hidden
    all_goals simp [hhidden]

/-- **A forged sender**: `a` sends a packet that claims to be from `b`, and `c` gets it as such. -/
theorem sender_forged :
    (handleIncomingData { sid := "PA_a", identity := "a" } (some dataRoom)
        (some { participantIdentity := "b", participantSid := "PA_b" }) false).map
      (fun d => (d.recipient.identity, d.packet.participantIdentity, d.packet.participantSid)) =
    [("b", "b", "PA_b"), ("c", "b", "PA_b")] := by
  decide +kernel

end LivekitVoice
