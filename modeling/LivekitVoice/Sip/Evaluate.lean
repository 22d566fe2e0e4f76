import LivekitVoice.Sip.Source

/-! # Evaluating a dispatch rule

`evaluate_sip_dispatch_rules` of `IOInfoSIP`: the trunk of the call, the rule for it, and what the
rule says: drop the call, ask for a PIN, or put the caller into a room under a name, an identity and
attributes made from the call. The PIN is looked at twice, by the filter of the matcher and again
here. A caller whose number is to be hidden and is empty, or whose last bytes are not whole
characters, makes the handler panic.

* **`evaluateDispatchRule_ok`** — when the evaluation of one rule asks for a PIN or accepts,
* **`pin_sound`** — only a rule without a PIN or with the PIN that was sent accepts,
* **`dispatched_as_authenticated`** — a call is dispatched under the trunk of its credentials. -/

namespace LivekitVoice

open Text

/-! ## The response -/

/-- `rpc.SipDispatchResult`. -/
inductive SipDispatchResult
  | legacyAcceptOrPin
  | accept
  | requestPin
  | reject
  | drop
  deriving DecidableEq

/-- `rpc.EvaluateSipDispatchRulesResponse`. -/
structure EvaluateSipDispatchRulesResponse where
  roomName : String := ""
  participantIdentity : String := ""
  participantName : String := ""
  participantMetadata : String := ""
  participantAttributes : List (String × String) := []
  requestPin : Bool := false
  result : SipDispatchResult := .legacyAcceptOrPin
  sipTrunkId : String := ""
  sipDispatchRuleId : String := ""
  headers : List (String × String) := []
  headersToAttributes : List (String × String) := []
  attributesToHeaders : List (String × String) := []
  includeHeaders : Int := 0
  /-- Whether `KRISP_ENABLED` is among the features. -/
  krispEnabled : Bool := false
  ringingTimeout : Option Duration := none
  maxCallDuration : Option Duration := none
  roomPreset : String := ""
  roomConfig : Option Bytes := none
  mediaEncryption : Int := 0
  media : Option SipMediaConfig := none
  deriving DecidableEq

/-- How a handler ends without a response. -/
inductive Fault
  | error (e : SipError)
  | panicked
  deriving DecidableEq

/-! ## Media -/

/-- `upgrade_media`: the deprecated encryption, if the configuration has none. -/
def upgradeMedia (media : Option SipMediaConfig) (encryption : Int) : Option SipMediaConfig :=
  media.map fun m =>
    if m.encryption.isNone && encryption ≠ 0 then { m with encryption := some encryption } else m

/-- `merge_media`: what `base` leaves open is taken from `other`. -/
def mergeMedia : Option SipMediaConfig → Option SipMediaConfig → Option SipMediaConfig
  | none, o => o
  | some b, none => some b
  | some b, some o =>
    some
      { onlyListedCodecs := if !b.onlyListedCodecs then o.onlyListedCodecs else true
        codecs := if b.codecs.isEmpty then o.codecs else b.codecs
        encryption := b.encryption.or o.encryption
        mediaTimeout := b.mediaTimeout.or o.mediaTimeout }

/-! ## The caller -/

/-- `BTreeMap::insert`, on the entries in the order of their keys. -/
def insertAttribute (k v : String) : List (String × String) → List (String × String)
  | [] => [(k, v)]
  | x :: attrs =>
    if k < x.1 then (k, v) :: x :: attrs
    else if k = x.1 then (k, v) :: attrs
    else x :: insertAttribute k v attrs

/-- What of the caller is shown. -/
structure Caller where
  /-- The number, or what is left of it. -/
  number : String
  name : String
  identity : String
  attributes : List (String × String)

/-- The last bytes of a number that are shown if it is hidden: four, or one if it is short. -/
def maskNumber (number : String) : Option String :=
  let n := if number.utf8ByteSize ≤ 4 then 1 else 4
  -- `from.len() - n` underflows on an empty number
  if number.utf8ByteSize < n then none else sliceFrom number (number.utf8ByteSize - n)

section Evaluate

variable (sha256Hex : String → String) (suffix : String)

/-- The caller of `evaluate_dispatch_rule`; `none` is a panic. The digest is that of the standard,
as hexadecimal digits. -/
def callerOf (rule : SipDispatchRuleInfo) (req : EvaluateSipDispatchRulesRequest) (call : SipCall)
    (trunkId : String) : Option Caller :=
  let attrs := req.extraAttributes.foldl (fun attrs x => insertAttribute x.1 x.2 attrs)
    rule.attributes
  let attrs := insertAttribute "sip.callID" call.lkCallId attrs
  let attrs := insertAttribute "sip.trunkID" trunkId attrs
  if rule.hidePhoneNumber then
    (sliceTo (sha256Hex call.fromUser) 8).bind fun digest =>
      (maskNumber call.fromUser).map fun number =>
        ⟨number, "Phone " ++ number, "sip_" ++ digest, attrs⟩
  else
    let attrs := insertAttribute "sip.phoneNumber" call.fromUser attrs
    let attrs := insertAttribute "sip.hostname" call.fromHost attrs
    let attrs := insertAttribute "sip.trunkPhoneNumber" call.toUser attrs
    some ⟨call.fromUser, "Phone " ++ call.fromUser, "sip_" ++ call.fromUser, attrs⟩

/-- The name of the room; `suffix` is the random id that is put at the end. -/
def roomOf (rule : SipDispatchRuleInfo) (room caller called : String) : String :=
  match rule.rule.bind SipDispatchRule.rule with
  | some (.individual roomPrefix _ noRandomness) =>
    let room := if roomPrefix = "" then caller else roomPrefix ++ "_" ++ caller
    if noRandomness then room else room ++ "_" ++ suffix
  | some (.callee roomPrefix _ randomize) =>
    let room := if roomPrefix = "" then called else roomPrefix ++ "_" ++ called
    if randomize then room ++ "_" ++ suffix else room
  | some (.direct _ _) | none => room

/-- The media configuration of trunk and rule. -/
def mediaOf (trunk : Option SipInboundTrunkInfo) (rule : SipDispatchRuleInfo) :
    Option SipMediaConfig :=
  mergeMedia (trunk.bind fun t => upgradeMedia t.media t.mediaEncryption)
    (upgradeMedia rule.media rule.mediaEncryption)

/-- `evaluate_dispatch_rule`. -/
def evaluateDispatchRule (trunk : Option SipInboundTrunkInfo) (rule : SipDispatchRuleInfo)
    (req : EvaluateSipDispatchRulesRequest) (call : SipCall) (trunkId : String) :
    Except Fault EvaluateSipDispatchRulesResponse :=
  match callerOf sha256Hex rule req call trunkId with
  | none => .error .panicked
  | some caller =>
    let media := mediaOf trunk rule
    let enc := (media.bind SipMediaConfig.encryption).getD 0
    match getPinAndRoom rule with
    | .error e => .error (.error e)
    | .ok (room, rulePin) =>
      if rulePin ≠ "" ∧ req.pin = "" then
        .ok
          { sipTrunkId := trunkId
            sipDispatchRuleId := rule.sipDispatchRuleId
            requestPin := true
            result := .requestPin
            mediaEncryption := enc
            media }
      else if rulePin ≠ "" ∧ rulePin ≠ req.pin then .error (.error .incorrectPin)
      else
        .ok
          { sipTrunkId := trunkId
            sipDispatchRuleId := rule.sipDispatchRuleId
            result := .accept
            roomName := roomOf suffix rule room caller.number call.toUser
            participantIdentity := caller.identity
            participantName := caller.name
            participantMetadata := rule.metadata
            participantAttributes :=
              insertAttribute "sip.ruleID" rule.sipDispatchRuleId caller.attributes
            roomPreset := rule.roomPreset
            roomConfig := rule.roomConfig
            mediaEncryption := enc
            media
            headers := (trunk.map SipInboundTrunkInfo.headers).getD []
            headersToAttributes :=
              (trunk.map SipInboundTrunkInfo.headersToAttributes).getD []
            attributesToHeaders :=
              (trunk.map SipInboundTrunkInfo.attributesToHeaders).getD []
            includeHeaders := (trunk.map SipInboundTrunkInfo.includeHeaders).getD 0
            ringingTimeout := trunk.bind SipInboundTrunkInfo.ringingTimeout
            maxCallDuration := trunk.bind SipInboundTrunkInfo.maxCallDuration
            krispEnabled :=
              (trunk.map SipInboundTrunkInfo.krispEnabled).getD false || rule.krispEnabled }

variable [Net.IpNetParser]

/-- **`evaluate_sip_dispatch_rules`.** -/
def evaluateSipDispatchRules (store : SipStore) (req : EvaluateSipDispatchRulesRequest) :
    Except Fault EvaluateSipDispatchRulesResponse :=
  let call := sipCallFromDispatch req
  match matchTrunkFor store req.sipTrunkId call with
  | .error e => .error (.error e)
  | .ok trunk =>
    let trunkId := (trunk.map SipInboundTrunkInfo.sipTrunkId).getD ""
    match store.listSipDispatchRules with
    | .error e => .error (.error (.store e))
    | .ok rules =>
      match matchDispatchRule rules trunk req with
      | .ok (some rule) => evaluateDispatchRule sha256Hex suffix trunk rule req call trunkId
      | .ok none => .ok { sipTrunkId := trunkId, result := .drop }
      | .error .noDispatchMatched => .ok { sipTrunkId := trunkId, result := .drop }
      | .error e => .error (.error e)

/-! ## The PIN of one rule -/

variable {sha256Hex suffix} {trunk : Option SipInboundTrunkInfo} {rule : SipDispatchRuleInfo}
  {req : EvaluateSipDispatchRulesRequest} {call : SipCall} {trunkId : String}
  {resp : EvaluateSipDispatchRulesResponse} {store : SipStore}

omit [Net.IpNetParser] in
/-- **What the evaluation of a rule answers**: a request for the PIN if the rule has one and none
was sent, and otherwise that the caller is accepted, which a PIN that was sent must match. -/
theorem evaluateDispatchRule_ok
    (h : evaluateDispatchRule sha256Hex suffix trunk rule req call trunkId = .ok resp) :
    resp.sipDispatchRuleId = rule.sipDispatchRuleId ∧
    ∃ room rulePin, getPinAndRoom rule = .ok (room, rulePin) ∧
      (rulePin ≠ "" ∧ resp.result = .requestPin ∨
        (rulePin = "" ∨ rulePin = req.pin) ∧ resp.result = .accept ∧ resp.requestPin = false) := by
  revert h
  fun_cases evaluateDispatchRule sha256Hex suffix trunk rule req call trunkId <;> rintro ⟨⟩
  case case3 room rulePin hpin hask =>
    exact ⟨rfl, room, rulePin, hpin, .inl ⟨hask.1, rfl⟩⟩
  case case5 room rulePin hpin hasked hright =>
    refine ⟨rfl, room, rulePin, hpin, .inr ⟨?_, rfl, rfl⟩⟩
    by_cases hempty : rulePin = ""
    · exact .inl hempty
    · exact .inr (not_not.mp fun hwrong => hright ⟨hempty, hwrong⟩)

/-! ## The handler -/

/-- **Where a response comes from**: the call is dropped, or the rule that was matched has been
evaluated. -/
theorem evaluateSipDispatchRules_cases {out : Except Fault EvaluateSipDispatchRulesResponse}
    (h : evaluateSipDispatchRules sha256Hex suffix store req = out) :
    (∃ resp, out = .ok resp ∧ resp.result = .drop) ∨ (∃ e, out = .error (.error (.store e))) ∨
    (∃ e, matchTrunkFor store req.sipTrunkId (sipCallFromDispatch req) = .error e ∧
      out = .error (.error e)) ∨
    ∃ trunk rules rule,
      matchTrunkFor store req.sipTrunkId (sipCallFromDispatch req) = .ok trunk ∧
      store.listSipDispatchRules = .ok rules ∧
      matchDispatchRule rules trunk req = .ok (some rule) ∧
      evaluateDispatchRule sha256Hex suffix trunk rule req (sipCallFromDispatch req)
        ((trunk.map SipInboundTrunkInfo.sipTrunkId).getD "") = out := by
  subst h
  fun_cases evaluateSipDispatchRules sha256Hex suffix store req
  case case1 e htrunk => exact .inr (.inr (.inl ⟨e, htrunk, rfl⟩))
  case case2 => exact .inr (.inl ⟨_, rfl⟩)
  case case3 trunk htrunk trunkId rules hrules rule hmatch =>
    exact .inr (.inr (.inr ⟨trunk, rules, rule, htrunk, hrules, hmatch, rfl⟩))
  case case4 | case5 => exact .inl ⟨_, rfl, rfl⟩
  case case6 e hne hmatch =>
    -- the matcher has no other error
    rw [matchDispatchRule_eq] at hmatch
    split at hmatch
    · cases hmatch
      exact (hne rfl).elim
    · cases hmatch

/-- **A call that is not dropped** has been evaluated under the rule that was matched. -/
theorem evaluated_of_ok (h : evaluateSipDispatchRules sha256Hex suffix store req = .ok resp)
    (hdropped : resp.result ≠ .drop) :
    ∃ trunk rules rule,
      matchTrunkFor store req.sipTrunkId (sipCallFromDispatch req) = .ok trunk ∧
      store.listSipDispatchRules = .ok rules ∧
      matchDispatchRule rules trunk req = .ok (some rule) ∧
      evaluateDispatchRule sha256Hex suffix trunk rule req (sipCallFromDispatch req)
        ((trunk.map SipInboundTrunkInfo.sipTrunkId).getD "") = .ok resp := by
  rcases evaluateSipDispatchRules_cases h with
    ⟨resp', hok, hdrop⟩ | ⟨e, herror⟩ | ⟨e, -, herror⟩ | hevaluated
  · cases hok
    exact absurd hdrop hdropped
  · cases herror
  · cases herror
  · exact hevaluated

omit [Net.IpNetParser] in
theorem acceptsPin_of_matched {rules : List SipDispatchRuleInfo} {room rulePin : String}
    (hmatch : matchDispatchRule rules trunk req = .ok (some rule))
    (hpin : getPinAndRoom rule = .ok (room, rulePin)) : AcceptsPin req rulePin := by
  obtain ⟨-, heligible, -⟩ := matchDispatchRule_best rules trunk req hmatch
  obtain ⟨room', rulePin', hpin', haccepts⟩ := heligible.pin
  rw [hpin] at hpin'
  cases hpin'
  exact haccepts

/-- **PIN soundness, end to end.** An answer `Accept` is given under the rule that was matched, and
that rule has no PIN or the PIN that was sent. If a PIN was sent, and not refused, no rule without a
PIN is matched. If the PIN was refused, none is asked for. The error for a wrong PIN is never
returned: the filter of the matcher has sorted such rules out. -/
theorem pin_sound (sha256Hex : String → String) (suffix : String) (store : SipStore)
    (req : EvaluateSipDispatchRulesRequest) :
    (∀ resp, evaluateSipDispatchRules sha256Hex suffix store req = .ok resp →
      resp.result = .accept →
      ∃ trunk rules rule room rulePin,
        matchTrunkFor store req.sipTrunkId (sipCallFromDispatch req) = .ok trunk ∧
        store.listSipDispatchRules = .ok rules ∧ rule ∈ rules ∧
        matchDispatchRule rules trunk req = .ok (some rule) ∧
        resp.sipDispatchRuleId = rule.sipDispatchRuleId ∧
        getPinAndRoom rule = .ok (room, rulePin) ∧ (rulePin = "" ∨ rulePin = req.pin)) ∧
    (req.pin ≠ "" → req.noPin = false → ∀ rules trunk rule,
      matchDispatchRule rules trunk req = .ok (some rule) →
      ∃ room rulePin, getPinAndRoom rule = .ok (room, rulePin) ∧ rulePin ≠ "") ∧
    (req.noPin → ∀ resp, evaluateSipDispatchRules sha256Hex suffix store req = .ok resp →
      resp.result ≠ .requestPin) ∧
    evaluateSipDispatchRules sha256Hex suffix store req ≠ .error (.error .incorrectPin) := by
  refine ⟨?_, ?_, ?_, ?_⟩
  · intro resp hresp haccept
    obtain ⟨trunk, rules, rule, htrunk, hrules, hmatch, heval⟩ :=
      evaluated_of_ok hresp (by simp [haccept])
    obtain ⟨hmem, -⟩ := matchDispatchRule_best rules trunk req hmatch
    obtain ⟨hid, room, rulePin, hpin, ⟨-, hask⟩ | ⟨hright, -, -⟩⟩ := evaluateDispatchRule_ok heval
    · simp [haccept] at hask
    · exact ⟨trunk, rules, rule, room, rulePin, htrunk, hrules, hmem, hmatch, hid, hpin, hright⟩
  · intro hsent hprompt rules trunk rule hmatch
    obtain ⟨-, heligible, -⟩ := matchDispatchRule_best rules trunk req hmatch
    obtain ⟨room, rulePin, hpin, haccepts⟩ := heligible.pin
    rw [AcceptsPin, hprompt, if_neg Bool.false_ne_true] at haccepts
    exact ⟨room, rulePin, hpin, (haccepts.resolve_left hsent).1⟩
  · intro hrefused resp hresp hrequest
    obtain ⟨trunk, rules, rule, -, -, hmatch, heval⟩ :=
      evaluated_of_ok hresp (by simp [hrequest])
    obtain ⟨-, room, rulePin, hpin, ⟨hasked, -⟩ | ⟨-, haccept, -⟩⟩ := evaluateDispatchRule_ok heval
    · have haccepts := acceptsPin_of_matched hmatch hpin
      rw [AcceptsPin, if_pos hrefused] at haccepts
      exact hasked haccepts
    · simp [hrequest] at haccept
  · intro hwrong
    rcases evaluateSipDispatchRules_cases hwrong with
      ⟨resp', hok, -⟩ | ⟨e, herror⟩ | ⟨e, htrunk, herror⟩ |
        ⟨trunk, rules, rule, -, -, hmatch, heval⟩
    · cases hok
    · cases herror
    · -- the error of the PIN does not come from the trunks
      cases herror
      have hall (call : SipCall) : matchAllTrunks store call ≠ .error .incorrectPin := by
        unfold matchAllTrunks
        split
        · simp
        · cases matchTrunk _ call with
          | _ => simp [Except.mapError]
      revert htrunk
      fun_cases matchTrunkFor store req.sipTrunkId _ <;> first | exact hall _ | simp
    · revert heval
      fun_cases evaluateDispatchRule sha256Hex suffix trunk rule req _ _ <;> rintro ⟨⟩
      case case2 hpin =>
        -- the errors of `get_pin_and_room` are others
        revert hpin
        fun_cases getPinAndRoom rule <;> rintro ⟨⟩
      case case4 hpin hsent hwrong =>
        have haccepts := acceptsPin_of_matched hmatch hpin
        rw [AcceptsPin] at haccepts
        split at haccepts
        · exact hwrong.1 haccepts
        · exact haccepts.elim (fun hempty => hsent ⟨hwrong.1, hempty⟩) fun h => hwrong.2 h.2

/-! ## Authentication and dispatch -/

/-- **Every answer names the trunk** that was matched for the call. -/
theorem trunk_of_ok (h : evaluateSipDispatchRules sha256Hex suffix store req = .ok resp) :
    ∃ trunk, matchTrunkFor store req.sipTrunkId (sipCallFromDispatch req) = .ok trunk ∧
      resp.sipTrunkId = (trunk.map SipInboundTrunkInfo.sipTrunkId).getD "" := by
  revert h
  fun_cases evaluateSipDispatchRules sha256Hex suffix store req
  case case3 call trunk htrunk trunkId rules hrules rule hmatch =>
    fun_cases evaluateDispatchRule sha256Hex suffix trunk rule req call trunkId <;> rintro ⟨⟩
    all_goals exact ⟨trunk, htrunk, rfl⟩
  case case4 trunk htrunk _ _ _ _ | case5 trunk htrunk _ _ _ _ =>
    rintro ⟨⟩
    exact ⟨trunk, htrunk, rfl⟩
  all_goals rintro ⟨⟩

/-- The store has each inbound trunk that it lists, under its id. -/
def SipStore.Consistent (store : SipStore) : Prop :=
  ∀ all, store.listSipInboundTrunks = .ok all → ∀ t ∈ all,
    store.loadSipInboundTrunk t.sipTrunkId = .ok (some t)

/-- **The trunk that all trunks give** is the one that its own id gives. -/
theorem matchTrunkFor_named {tr : SipInboundTrunkInfo} (hstore : store.Consistent)
    (h : matchTrunkFor store "" call = .ok (some tr)) :
    matchTrunkFor store tr.sipTrunkId call = .ok (some tr) := by
  by_cases hempty : tr.sipTrunkId = ""
  · rwa [hempty]
  · have hall : matchAllTrunks store call = .ok (some tr) := h
    unfold matchAllTrunks at hall
    split at hall
    · cases hall
    · next all hlist =>
      have hselected : matchTrunk all call = .ok (some tr) := by
        cases hmatch : matchTrunk all call with
        | error e => simp [hmatch, Except.mapError] at hall
        | ok found => simpa [hmatch, Except.mapError] using hall
      have hload := hstore all hlist tr (accepts_of_matchTrunk hselected).1
      simp [matchTrunkFor, hempty, hload, matchTrunk_selected hselected]

/-- **A call is dispatched under the trunk it was authenticated for.** If the bridge asks for the
credentials of a call and then, with the trunk of that answer, for its dispatch, both answers name
the same trunk. -/
theorem dispatched_as_authenticated {auth : GetSipTrunkAuthenticationResponse}
    {asked : GetSipTrunkAuthenticationRequest} (hstore : store.Consistent)
    (hauth : getSipTrunkAuthentication store asked = .ok auth)
    (hcall : sipCallFromDispatch req = sipCallFromAuth asked)
    (hid : req.sipTrunkId = auth.sipTrunkId)
    (h : evaluateSipDispatchRules sha256Hex suffix store req = .ok resp) :
    resp.sipTrunkId = auth.sipTrunkId := by
  obtain ⟨trunk, htrunk, hresp⟩ := trunk_of_ok h
  rw [hcall, hid] at htrunk
  rw [hresp]
  revert hauth
  fun_cases getSipTrunkAuthentication store asked <;> rintro ⟨⟩
  case case2 hmatch =>
    cases htrunk.symm.trans hmatch
    rfl
  case case3 tr hmatch =>
    cases htrunk.symm.trans (matchTrunkFor_named hstore hmatch)
    rfl

end Evaluate

/-- A digest of which only the length matters: sixty-four hexadecimal digits. -/
def sampleDigest (_ : String) : String :=
  "e3b0c44298fc1c149afbf4c8996fb92427ae41e4649b934ca495991b7852b855"

/-- A trunk for one number, found under its id, and a rule for the callers to it. -/
def officeStore : SipStore :=
  let trunk : SipInboundTrunkInfo := { sipTrunkId := "ST_office", numbers := ["100"] }
  let rule : SipDispatchRuleInfo :=
    { sipDispatchRuleId := "SDR_office", trunkIds := ["ST_office"], hidePhoneNumber := true,
      rule := some ⟨some (.direct "reception" "")⟩ }
  ⟨fun _ => .ok (some trunk), .ok [trunk], .ok [rule]⟩

attribute [local instance] Net.cidrParser

theorem dispatched_as_authenticated_office :
    ∃ auth, getSipTrunkAuthentication officeStore { fromUser := "+15550100", toUser := "100" } =
        .ok auth ∧
      ∃ resp, evaluateSipDispatchRules sampleDigest "" officeStore
        { sipTrunkId := auth.sipTrunkId, callingNumber := "+15550100", calledNumber := "100" } =
          .ok resp ∧
      resp.result = .accept ∧ resp.roomName = "reception" ∧ resp.sipTrunkId = "ST_office" ∧
        resp.sipTrunkId = auth.sipTrunkId := by
  have hauth : getSipTrunkAuthentication officeStore
    { fromUser := "+15550100", toUser := "100" } = .ok _ := rfl
  have hresp : evaluateSipDispatchRules sampleDigest "" officeStore
    { sipTrunkId := "ST_office", callingNumber := "+15550100", calledNumber := "100" } =
      .ok _ := rfl
  refine ⟨_, hauth, _, hresp, rfl, rfl, rfl,
    dispatched_as_authenticated ?_ hauth rfl rfl hresp⟩
  rintro _ ⟨⟩ t ht
  rw [List.mem_singleton.mp ht]
  rfl

end LivekitVoice
