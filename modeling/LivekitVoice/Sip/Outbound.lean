import LivekitVoice.Api.Access
import LivekitVoice.Sip.Evaluate

/-! # Outbound calls and the encryption of their media

`build_internal_create_participant` makes the request to the SIP bridge from a request of the API:
the outbound trunk is loaded, or given in the request, and settings are taken from the one or the
other. The media settings of a call have two sources, in both directions: the trunk, and the
dispatch rule or the request. Each has a configuration and a deprecated encryption beside it.
`upgrade_media` carries the deprecated encryption into the configuration; where there is no
configuration, it is lost.

* **`media_encryption_iff`** — the first encryption that is set is sent exactly if `Carried`. -/

namespace LivekitVoice

/-! ## Messages -/

/-- `lk.SipOutboundTrunkInfo`, as far as outbound calls read it. -/
structure SipOutboundTrunkInfo where
  sipTrunkId : String := ""
  address : String := ""
  destinationCountry : String := ""
  transport : Int := 0
  numbers : List String := []
  authUsername : String := ""
  authPassword : String := ""
  headers : List (String × String) := []
  headersToAttributes : List (String × String) := []
  attributesToHeaders : List (String × String) := []
  includeHeaders : Int := 0
  mediaEncryption : Int := 0
  media : Option SipMediaConfig := none
  fromHost : String := ""

/-- `lk.SipOutboundConfig`: a trunk that is given in the request. -/
structure SipOutboundConfig where
  hostname : String := ""
  destinationCountry : String := ""
  transport : Int := 0
  authUsername : String := ""
  authPassword : String := ""
  headersToAttributes : List (String × String) := []
  attributesToHeaders : List (String × String) := []
  fromHost : String := ""

/-- `lk.CreateSipParticipantRequest`; the URI and the two named headers are carried as they were
encoded. -/
structure CreateSipParticipantRequest where
  sipTrunkId : String := ""
  trunk : Option SipOutboundConfig := none
  sipRequestUri : Option Bytes := none
  sipToHeader : Option Bytes := none
  sipFromHeader : Option Bytes := none
  sipCallTo : String := ""
  sipNumber : String := ""
  roomName : String := ""
  participantIdentity : String := ""
  participantName : String := ""
  participantMetadata : String := ""
  participantAttributes : List (String × String) := []
  dtmf : String := ""
  playRingtone : Bool := false
  playDialtone : Bool := false
  hidePhoneNumber : Bool := false
  headers : List (String × String) := []
  includeHeaders : Int := 0
  ringingTimeout : Option Duration := none
  maxCallDuration : Option Duration := none
  krispEnabled : Bool := false
  mediaEncryption : Int := 0
  media : Option SipMediaConfig := none
  waitUntilAnswered : Bool := false
  displayName : Option String := none
  destination : Option Bytes := none

/-- `rpc.InternalCreateSipParticipantRequest`; the fields that are always sent empty are left
out. -/
structure InternalCreateSipParticipantRequest where
  sipCallId : String
  sipTrunkId : String
  sipRequestUri : Option Bytes
  sipFromHeader : Option Bytes
  sipToHeader : Option Bytes
  address : String
  hostname : String
  destinationCountry : String
  transport : Int
  number : String
  callTo : String
  username : String
  password : String
  roomName : String
  participantIdentity : String
  participantName : String
  participantMetadata : String
  participantAttributes : List (String × String)
  dtmf : String
  playDialtone : Bool
  headers : List (String × String)
  headersToAttributes : List (String × String)
  attributesToHeaders : List (String × String)
  includeHeaders : Int
  /-- Whether `KRISP_ENABLED` is among the features. -/
  krispEnabled : Bool
  ringingTimeout : Option Duration
  maxCallDuration : Option Duration
  mediaEncryption : Int
  media : Option SipMediaConfig
  waitUntilAnswered : Bool
  displayName : Option String
  destination : Option Bytes

/-! ## Building the request -/

/-- `trunk_not_found`. -/
def trunkNotFound (id : String) : TwirpError := ⟨.notFound, "SIP trunk " ++ id ++ " not found"⟩

/-- What `build_internal_create_participant` takes from the trunk. -/
structure TrunkSettings where
  hostname : String := ""
  fromHost : String := ""
  headers : List (String × String) := []
  includeHeaders : Int := 0
  transport : Int := 0
  destinationCountry : String := ""
  authUser : String := ""
  authPass : String := ""
  hdrToAttr : List (String × String) := []
  attrToHdr : List (String × String) := []
  trunkMedia : Option SipMediaConfig := none

/-- The trunk of the call: loaded if the request names one. -/
def outboundTrunk (loadSipOutboundTrunk : String → Except String (Option SipOutboundTrunkInfo))
    (r : CreateSipParticipantRequest) : Except TwirpError (Option SipOutboundTrunkInfo) :=
  if r.sipTrunkId = "" then .ok none
  else
    match loadSipOutboundTrunk r.sipTrunkId with
    | .error e => .error ⟨.internal, e⟩
    | .ok none => .error (trunkNotFound r.sipTrunkId)
    | .ok (some trunk) => .ok (some trunk)

/-- The settings of the trunk. One that is given in the request has no headers and no media. -/
def trunkSettings : Option SipOutboundTrunkInfo → Option SipOutboundConfig → TrunkSettings
  | some trunk, _ =>
    { hostname := trunk.address
      fromHost := trunk.fromHost
      headers := trunk.headers
      includeHeaders := trunk.includeHeaders
      transport := trunk.transport
      destinationCountry := trunk.destinationCountry
      authUser := trunk.authUsername
      authPass := trunk.authPassword
      hdrToAttr := trunk.headersToAttributes
      attrToHdr := trunk.attributesToHeaders
      trunkMedia := upgradeMedia trunk.media trunk.mediaEncryption }
  | none, some cfg =>
    { hostname := cfg.hostname
      fromHost := cfg.fromHost
      transport := cfg.transport
      destinationCountry := cfg.destinationCountry
      authUser := cfg.authUsername
      authPass := cfg.authPassword
      hdrToAttr := cfg.headersToAttributes
      attrToHdr := cfg.attributesToHeaders }
  | none, none => {}

/-- The number the call is made from: that of the request, or one of the trunk at random. -/
def outboundNumber (random : Nat) (trunk : Option SipOutboundTrunkInfo)
    (r : CreateSipParticipantRequest) : Except TwirpError String :=
  if r.sipNumber ≠ "" then .ok r.sipNumber
  else
    let numbers := (trunk.map SipOutboundTrunkInfo.numbers).getD []
    match numbers[random % numbers.length]? with
    | some number => .ok number
    | none => .error ⟨.failedPrecondition, "no numbers on outbound trunk"⟩

/-- A number for this provider begins with a plus sign. -/
def providerNumber (hostname number : String) : String :=
  if "twilio.com".toList.isSuffixOf hostname.toList && number.toList.head? ≠ some '+' then
    "+" ++ number
  else number

/-- **`build_internal_create_participant`.** The random choice of a number and the id of the call
are parameters. -/
def buildInternalCreateParticipant
    (loadSipOutboundTrunk : String → Except String (Option SipOutboundTrunkInfo)) (random : Nat)
    (callId : String) (r : CreateSipParticipantRequest) :
    Except TwirpError InternalCreateSipParticipantRequest := do
  let trunk ← outboundTrunk loadSipOutboundTrunk r
  let settings := trunkSettings trunk r.trunk
  let number ← outboundNumber random trunk r
  let number := providerNumber settings.hostname number
  let trunkId :=
    if r.sipTrunkId ≠ "" then r.sipTrunkId
    else (trunk.map SipOutboundTrunkInfo.sipTrunkId).getD ""
  let attrs := insertAttribute "sip.callID" callId r.participantAttributes
  let attrs := insertAttribute "sip.trunkID" trunkId attrs
  let attrs :=
    if r.hidePhoneNumber then attrs
    else
      insertAttribute "sip.trunkPhoneNumber" number
        (insertAttribute "sip.hostname" settings.hostname
          (insertAttribute "sip.phoneNumber" r.sipCallTo attrs))
  let media := mergeMedia settings.trunkMedia (upgradeMedia r.media r.mediaEncryption)
  pure
    { sipCallId := callId
      sipTrunkId := trunkId
      sipRequestUri := r.sipRequestUri
      sipFromHeader := r.sipFromHeader
      sipToHeader := r.sipToHeader
      address := settings.hostname
      hostname := settings.fromHost
      destinationCountry := settings.destinationCountry
      transport := settings.transport
      number
      callTo := r.sipCallTo
      username := settings.authUser
      password := settings.authPass
      roomName := r.roomName
      participantIdentity :=
        if r.participantIdentity = "" then "sip_" ++ r.sipCallTo else r.participantIdentity
      participantName := r.participantName
      participantMetadata := r.participantMetadata
      participantAttributes := attrs
      dtmf := r.dtmf
      playDialtone := r.playRingtone || r.playDialtone
      headers := r.headers.foldl (fun headers x => insertAttribute x.1 x.2 headers) settings.headers
      headersToAttributes := settings.hdrToAttr
      attributesToHeaders := settings.attrToHdr
      includeHeaders := if r.includeHeaders ≠ 0 then r.includeHeaders else settings.includeHeaders
      krispEnabled := r.krispEnabled
      ringingTimeout := r.ringingTimeout
      maxCallDuration := r.maxCallDuration
      mediaEncryption := (media.bind SipMediaConfig.encryption).getD 0
      media
      waitUntilAnswered := r.waitUntilAnswered
      displayName := r.displayName
      destination := r.destination }

/-! ## Two sources of media settings -/

/-- The media settings of a trunk, a rule or a request: the configuration, and the deprecated
encryption beside it. -/
structure MediaSource where
  media : Option SipMediaConfig := none
  mediaEncryption : Int := 0

namespace MediaSource

/-- What `upgrade_media` makes of the settings. -/
def upgraded (source : MediaSource) : Option SipMediaConfig :=
  upgradeMedia source.media source.mediaEncryption

/-- **The encryption a source asks for**: that of its configuration, or else the deprecated one if
it is not zero. -/
def declared (source : MediaSource) : Option Int :=
  (source.media.bind SipMediaConfig.encryption).or
    (if source.mediaEncryption ≠ 0 then some source.mediaEncryption else none)

/-- The media that are sent on. -/
def sentMedia (base other : MediaSource) : Option SipMediaConfig :=
  mergeMedia base.upgraded other.upgraded

/-- The encryption that is sent on. -/
def sentEncryption (base other : MediaSource) : Int :=
  ((sentMedia base other).bind SipMediaConfig.encryption).getD 0

/-- **The first encryption that is asked for**, by `base` and then by `other`. -/
def firstDeclared (base other : MediaSource) : Int := (base.declared.or other.declared).getD 0

/-- **The deprecated encryptions are carried on**: one of `base` without a configuration is also
that of `other`, and if `base` asks for none, one of `other` has a configuration to stand in. -/
structure Carried (base other : MediaSource) : Prop where
  lone : base.media = none → base.mediaEncryption ≠ 0 →
    other.media.isSome ∧ other.declared = some base.mediaEncryption
  last : base.declared = none → other.media = none → other.mediaEncryption = 0

theorem upgraded_encryption (source : MediaSource) :
    source.upgraded.bind SipMediaConfig.encryption =
      if source.media.isSome then source.declared else none := by
  unfold upgraded upgradeMedia declared
  cases source.media with
  | none => rfl
  | some m =>
    cases henc : m.encryption with
    | some e => simp [henc]
    | none =>
      by_cases hzero : source.mediaEncryption = 0 <;> simp [henc, hzero]

theorem sentEncryption_eq (base other : MediaSource) :
    sentEncryption base other =
      ((if base.media.isSome then base.declared else none).or
        (if other.media.isSome then other.declared else none)).getD 0 := by
  rw [sentEncryption, sentMedia, ← upgraded_encryption, ← upgraded_encryption]
  cases base.upgraded with
  | none => rfl
  | some b =>
    cases other.upgraded with
    | none => exact congrArg (Option.getD · 0) Option.or_none.symm
    | some o => rfl

theorem declared_of_none {source : MediaSource} (h : source.media = none) :
    source.declared =
      if source.mediaEncryption ≠ 0 then some source.mediaEncryption else none := by
  rw [declared, h]
  rfl

/-- **When the first encryption that is asked for is sent on.** -/
theorem sentEncryption_eq_iff (base other : MediaSource) :
    sentEncryption base other = firstDeclared base other ↔ Carried base other := by
  cases hbase : base.declared with
  | none =>
    -- `other` decides
    have hother : sentEncryption base other = firstDeclared base other ↔
        (other.media = none → other.mediaEncryption = 0) := by
      rw [sentEncryption_eq, firstDeclared, hbase, ite_self, Option.none_or, Option.none_or]
      cases hmedia : other.media with
      | some m => simp
      | none =>
        rw [declared_of_none hmedia]
        by_cases hzero : other.mediaEncryption = 0
        · simp [hzero]
        · simp [hzero, Ne.symm hzero]
    rw [hother]
    constructor
    · intro h
      refine ⟨fun hmedia hset => ?_, fun _ => h⟩
      simp [declared_of_none hmedia, if_pos hset] at hbase
    · intro h
      exact h.last hbase
  | some e =>
    have hfirst : firstDeclared base other = e := by rw [firstDeclared, hbase]; rfl
    have hother : base.declared = none → other.media = none → other.mediaEncryption = 0 := by
      intro hnone
      simp [hbase] at hnone
    rw [sentEncryption_eq, hfirst, hbase]
    cases hmedia : base.media with
    | some m =>
      refine iff_of_true rfl ⟨fun hnone => ?_, hother⟩
      simp [hmedia] at hnone
    | none =>
      -- the deprecated encryption of `base` is lost, and has to be that of `other`
      rw [declared_of_none hmedia] at hbase
      have hset : base.mediaEncryption ≠ 0 := by
        intro hzero
        simp [if_neg (not_not_intro hzero)] at hbase
      rw [if_pos hset] at hbase
      obtain rfl : base.mediaEncryption = e := Option.some.inj hbase
      have hcarried : Carried base other ↔
          other.media.isSome ∧ other.declared = some base.mediaEncryption :=
        ⟨fun h => h.lone hmedia hset, fun h => ⟨fun _ _ => h, hother⟩⟩
      rw [hcarried]
      cases other.media with
      | none => simp [Ne.symm hset]
      | some m =>
        cases other.declared with
        | none => simp [Ne.symm hset]
        | some e => simp

end MediaSource

/-! ## Both directions -/

/-- The media settings of an inbound trunk. -/
def SipInboundTrunkInfo.mediaSource (trunk : SipInboundTrunkInfo) : MediaSource :=
  ⟨trunk.media, trunk.mediaEncryption⟩

/-- The media settings of a dispatch rule. -/
def SipDispatchRuleInfo.mediaSource (rule : SipDispatchRuleInfo) : MediaSource :=
  ⟨rule.media, rule.mediaEncryption⟩

/-- The media settings of an outbound trunk. -/
def SipOutboundTrunkInfo.mediaSource (trunk : SipOutboundTrunkInfo) : MediaSource :=
  ⟨trunk.media, trunk.mediaEncryption⟩

/-- The media settings of a request for an outbound call. -/
def CreateSipParticipantRequest.mediaSource (r : CreateSipParticipantRequest) : MediaSource :=
  ⟨r.media, r.mediaEncryption⟩

theorem evaluateDispatchRule_media {sha256Hex : String → String} {suffix : String}
    {trunk : Option SipInboundTrunkInfo} {rule : SipDispatchRuleInfo}
    {req : EvaluateSipDispatchRulesRequest} {call : SipCall} {trunkId : String}
    {resp : EvaluateSipDispatchRulesResponse}
    (h : evaluateDispatchRule sha256Hex suffix trunk rule req call trunkId = .ok resp) :
    let base := (trunk.map SipInboundTrunkInfo.mediaSource).getD {}
    resp.media = base.sentMedia rule.mediaSource ∧
      resp.mediaEncryption = base.sentEncryption rule.mediaSource := by
  have hmedia : mediaOf trunk rule =
      ((trunk.map SipInboundTrunkInfo.mediaSource).getD {}).sentMedia rule.mediaSource := by
    cases trunk <;> rfl
  simp only [MediaSource.sentEncryption, ← hmedia]
  revert h
  fun_cases evaluateDispatchRule sha256Hex suffix trunk rule req call trunkId <;> rintro ⟨⟩
  all_goals exact ⟨rfl, rfl⟩

/-- **When media encryption takes its precedence.** The encryption that is sent on for a call is the
first that trunk and rule, or trunk and request, ask for, exactly if the deprecated ones are carried
on; and that of the configuration, if it has one, is always the same. -/
theorem media_encryption_iff (sha256Hex : String → String) (suffix : String)
    (trunk : Option SipInboundTrunkInfo) (rule : SipDispatchRuleInfo)
    (req : EvaluateSipDispatchRulesRequest) (call : SipCall) (trunkId : String)
    (loadSipOutboundTrunk : String → Except String (Option SipOutboundTrunkInfo)) (random : Nat)
    (callId : String) (r : CreateSipParticipantRequest) :
    (∀ resp, evaluateDispatchRule sha256Hex suffix trunk rule req call trunkId = .ok resp →
        ((resp.mediaEncryption =
            ((trunk.map SipInboundTrunkInfo.mediaSource).getD {}).firstDeclared rule.mediaSource ∧
          ∀ m e, resp.media = some m → m.encryption = some e → e = resp.mediaEncryption) ↔
        ((trunk.map SipInboundTrunkInfo.mediaSource).getD {}).Carried rule.mediaSource)) ∧
    (∀ ireq, buildInternalCreateParticipant loadSipOutboundTrunk random callId r = .ok ireq →
        ∃ trunk, outboundTrunk loadSipOutboundTrunk r = .ok trunk ∧
          ((ireq.mediaEncryption =
              ((trunk.map SipOutboundTrunkInfo.mediaSource).getD {}).firstDeclared r.mediaSource ∧
            ∀ m e, ireq.media = some m → m.encryption = some e → e = ireq.mediaEncryption) ↔
          ((trunk.map SipOutboundTrunkInfo.mediaSource).getD {}).Carried r.mediaSource)) := by
  -- the encryption of the configuration is the one that is sent beside it
  have hcarried : ∀ base other : MediaSource,
      (base.sentEncryption other = base.firstDeclared other ∧ ∀ m e, base.sentMedia other = some m →
        m.encryption = some e → e = base.sentEncryption other) ↔ base.Carried other := by
    refine fun base other => (and_iff_left fun m e hm he => ?_).trans
      (MediaSource.sentEncryption_eq_iff base other)
    rw [MediaSource.sentEncryption, hm, Option.bind_some, he]
    rfl
  constructor
  · intro resp h
    obtain ⟨hmedia, hencryption⟩ := evaluateDispatchRule_media h
    rw [hmedia, hencryption]
    exact hcarried _ _
  · intro ireq h
    obtain ⟨trunk, htrunk, h⟩ := bind_eq_ok_iff.mp h
    obtain ⟨number, -, ⟨⟩⟩ := bind_eq_ok_iff.mp h
    refine ⟨trunk, htrunk, ?_⟩
    -- the media of the call are the trunk's, or those of the request
    have hmedia : (trunkSettings trunk r.trunk).trunkMedia =
        ((trunk.map SipOutboundTrunkInfo.mediaSource).getD {}).upgraded := by
      cases trunk with
      | some trunk => rfl
      | none =>
        cases r.trunk <;> rfl
    have hsent := hcarried ((trunk.map SipOutboundTrunkInfo.mediaSource).getD {}) r.mediaSource
    simp only [MediaSource.sentEncryption, MediaSource.sentMedia, ← hmedia] at hsent
    exact hsent

/-- **An encryption that is lost**: the trunk asks for it by the deprecated field and has no
configuration, and neither the caller nor the callee hears of it. -/
theorem encryption_lost :
    ((evaluateDispatchRule (fun _ => "0123456789abcdef") "" (some { mediaEncryption := 2 })
        { rule := some ⟨some (.direct "support" "")⟩ } {} {} "ST_1").toOption.map
          fun resp => (resp.mediaEncryption, resp.media)) = some (0, none) ∧
    ((buildInternalCreateParticipant (fun _ => .ok (some { mediaEncryption := 2 })) 0 "SC_1"
        { sipTrunkId := "ST_1", sipNumber := "+15550100", sipCallTo := "+15550111" }).toOption.map
          fun ireq => (ireq.mediaEncryption, ireq.media)) = some (0, none) ∧
    MediaSource.firstDeclared ⟨none, 2⟩ {} = 2 := by
  decide +kernel

end LivekitVoice
