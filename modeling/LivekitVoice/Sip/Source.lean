import LivekitVoice.Sip.Dispatch

/-! # Where a call comes from

The requests of the SIP bridge and the call they describe: a request without a `call` names the
source of the call as an address with an optional port, and `strip_port` is to take the port off
before the trunks compare the address with their allowlists. It cuts at the last colon if only
digits follow, which is right for IPv4. An IPv6 address has colons of its own: with a port it keeps
its brackets, and without one it may lose its last group. Both are mostly no addresses any more, and
a source that is not an address is let through.

* **`parseIpAddr_stripPort_iff`** — what is left of the address,
* **`allowlist_enforced_iff`** — for which sources the allowlists of all trunks are enforced. -/

namespace LivekitVoice

open Net Text

/-! ## Requests and calls -/

/-- `rpc.GetSipTrunkAuthenticationRequest`. -/
structure GetSipTrunkAuthenticationRequest where
  sipCallId : String := ""
  fromUser : String := ""
  fromHost : String := ""
  toUser : String := ""
  toHost : String := ""
  srcAddress : String := ""
  call : Option SipCall := none

/-- `strip_port`. -/
def stripPort (addr : String) : String :=
  match rsplitOnce ':' addr.toList with
  | some (host, port) => if port.all Char.isDigit then .ofList host else addr
  | none => addr

/-- `sip_call_from_auth`. -/
def sipCallFromAuth (req : GetSipTrunkAuthenticationRequest) : SipCall :=
  match req.call with
  | some call => call
  | none =>
    let called : SipUri := ⟨req.toUser, req.toHost⟩
    { lkCallId := req.sipCallId
      sourceIp := stripPort req.srcAddress
      address := some called
      fromUri := some ⟨req.fromUser, req.fromHost⟩
      toUri := some called }

/-- `sip_call_from_dispatch`. -/
def sipCallFromDispatch (req : EvaluateSipDispatchRulesRequest) : SipCall :=
  match req.call with
  | some call => call
  | none =>
    let called : SipUri := ⟨req.calledNumber, req.calledHost⟩
    { lkCallId := req.sipCallId
      sourceIp := stripPort req.srcAddress
      address := some called
      fromUri := some ⟨req.callingNumber, req.callingHost⟩
      toUri := some called }

/-- **What the store answers** to the reads of the SIP handlers. -/
structure SipStore where
  loadSipInboundTrunk : String → Except String (Option SipInboundTrunkInfo)
  listSipInboundTrunks : Except String (List SipInboundTrunkInfo)
  listSipDispatchRules : Except String (List SipDispatchRuleInfo)

section Selection

variable [IpNetParser]

/-- The second half of `match_trunk_for`: all inbound trunks are matched. -/
def matchAllTrunks (store : SipStore) (call : SipCall) :
    Except SipError (Option SipInboundTrunkInfo) :=
  match store.listSipInboundTrunks with
  | .error e => .error (.store e)
  | .ok all => (matchTrunk all call).mapError .trunk

/-- `match_trunk_for`: the trunk that is named, if it matches the call, and else one of all. -/
def matchTrunkFor (store : SipStore) (trunkId : String) (call : SipCall) :
    Except SipError (Option SipInboundTrunkInfo) :=
  if trunkId ≠ "" then
    match store.loadSipInboundTrunk trunkId with
    | .error e => .error (.store e)
    | .ok (some trunk) =>
      match matchTrunk [trunk] call with
      | .error e => .error (.trunk e)
      | .ok (some _) => .ok (some trunk)
      | .ok none => matchAllTrunks store call
    | .ok none => matchAllTrunks store call
  else matchAllTrunks store call

/-- `rpc.GetSipTrunkAuthenticationResponse`. -/
structure GetSipTrunkAuthenticationResponse where
  username : String := ""
  password : String := ""
  realm : String := ""
  sipTrunkId : String := ""
  /-- The id and the name of the external provider. -/
  providerInfo : Option (String × String) := none

/-- `get_sip_trunk_authentication`. -/
def getSipTrunkAuthentication (store : SipStore) (req : GetSipTrunkAuthenticationRequest) :
    Except SipError GetSipTrunkAuthenticationResponse :=
  match matchTrunkFor store "" (sipCallFromAuth req) with
  | .error e => .error e
  | .ok none => .ok {}
  | .ok (some trunk) =>
    .ok
      { username := trunk.authUsername
        password := trunk.authPassword
        realm := trunk.authRealm
        sipTrunkId := trunk.sipTrunkId
        providerInfo := some (trunk.sipTrunkId, trunk.name) }

/-! ## A trunk that is selected accepts the call -/

variable {call : SipCall} {tr : SipInboundTrunkInfo}

theorem mem_of_matchTrunk {trunks : List SipInboundTrunkInfo}
    (h : matchTrunk trunks call = .ok (some tr)) :
    tr ∈ specificTrunks call trunks ∨ tr ∈ defaultTrunks call trunks := by
  rw [matchTrunk_eq] at h
  split at h
  · cases h
  · rename_i hS
    cases h
    exact .inl (hS ▸ List.mem_cons_self)
  · cases h
  · rename_i hD
    cases h
    exact .inr (hD ▸ List.mem_cons_self)
  · cases h

theorem accepts_of_matchTrunk {trunks : List SipInboundTrunkInfo}
    (h : matchTrunk trunks call = .ok (some tr)) :
    tr ∈ trunks ∧ tr.accepts call := by
  rcases mem_of_matchTrunk h with hmem | hmem
  all_goals exact List.mem_filter.mp (List.mem_filter.mp hmem).1

theorem matchTrunk_selected {trunks : List SipInboundTrunkInfo}
    (h : matchTrunk trunks call = .ok (some tr)) : matchTrunk [tr] call = .ok (some tr) := by
  have haccepts := (accepts_of_matchTrunk h).2
  rw [matchTrunk_eq]
  rcases mem_of_matchTrunk h with hmem | hmem
  · simp [specificTrunks, haccepts, (List.mem_filter.mp hmem).2]
  · simp [specificTrunks, defaultTrunks, haccepts, List.isEmpty_iff.mp (List.mem_filter.mp hmem).2]

theorem accepts_of_matchAllTrunks {store : SipStore}
    (h : matchAllTrunks store call = .ok (some tr)) : tr.accepts call := by
  unfold matchAllTrunks at h
  split at h
  · cases h
  · rename_i all hall
    cases hmatch : matchTrunk all call with
    | error e =>
      rw [hmatch] at h
      cases h
    | ok found =>
      rw [hmatch] at h
      cases h
      exact (accepts_of_matchTrunk hmatch).2

end Selection

/-! ## Sources in text form -/

/-- **A source address as a request names it**: an address in text form, and the digits of a port if
there is one. -/
structure SrcAddress where
  addr : IpAddr
  text : String
  port : Option String
  denotes : parseIpAddr text = some addr
  digits : ∀ p ∈ port, ∀ c ∈ p.toList, c.isDigit

namespace SrcAddress

/-- **The text of the source.** An IPv6 address is put in brackets if a port follows. -/
def render (src : SrcAddress) : String :=
  match src.port with
  | none => src.text
  | some p =>
    match src.addr with
    | .v4 _ => .ofList (src.text.toList ++ ':' :: p.toList)
    | .v6 _ => .ofList ('[' :: src.text.toList ++ ']' :: ':' :: p.toList)

/-- **The cut keeps the address**: it is IPv4, or it is IPv6 without a port, and if its text ends in
a colon and decimal digits only, then the text before that colon is one of the same address. -/
def Kept (src : SrcAddress) : Prop :=
  match src.addr, src.port with
  | .v4 _, _ => True
  | .v6 _, some _ => False
  | .v6 _, none =>
    ∀ host digits, src.text.toList = host ++ ':' :: digits → (∀ c ∈ digits, c.isDigit) →
      parseIpAddr (.ofList host) = some src.addr

end SrcAddress

variable {s : String}

theorem stripPort_of_digits {host port : List Char} (h : s.toList = host ++ ':' :: port)
    (hport : ∀ c ∈ port, c.isDigit) :
    stripPort s = .ofList host := by
  have hcolon : ':' ∉ port := fun hmem => absurd (hport _ hmem) (by decide)
  have hcut : rsplitOnce ':' s.toList = some (host, port) := rsplitOnce_eq_some_iff.mpr ⟨h, hcolon⟩
  have hall : port.all Char.isDigit := List.all_eq_true.mpr hport
  rw [stripPort, hcut]
  exact if_pos hall

theorem stripPort_of_not_digits
    (h : ∀ host port, s.toList = host ++ ':' :: port → ¬ ∀ c ∈ port, c.isDigit) :
    stripPort s = s := by
  rw [stripPort]
  cases hcut : rsplitOnce ':' s.toList with
  | none => rfl
  | some parts =>
    obtain ⟨host, port⟩ := parts
    have hnot := h host port (rsplitOnce_eq_some_iff.mp hcut).1
    exact if_neg fun hall => hnot (List.all_eq_true.mp hall)

theorem parseIpAddr_bracket (cs : List Char) : parseIpAddr (.ofList ('[' :: cs)) = none := by
  cases h : parseIpAddr (.ofList ('[' :: cs)) with
  | none => rfl
  | some addr => exact absurd (by simp) (not_mem_of_parseIpAddr h (c := '[') (by decide))

/-- **What is left of a source**: the address that it names, exactly if the cut keeps it. -/
theorem parseIpAddr_stripPort_iff (src : SrcAddress) :
    parseIpAddr (stripPort src.render) = some src.addr ↔ src.Kept := by
  obtain ⟨addr, text, port, hdenotes, hdigits⟩ := src
  cases addr with
  | v4 bits =>
    -- the text of an IPv4 address is a dotted quad
    have hv4 : parseIpv4 text.toList = some bits := by
      rw [parseIpAddr] at hdenotes
      cases hv4 : parseIpv4 text.toList <;> simp_all
    have hchars := isDigit_or_dot_of_parseIpv4 hv4
    have hcolon : ':' ∉ text.toList := fun hmem => (hchars _ hmem).elim (by decide) (by decide)
    have hstrip : stripPort (SrcAddress.render ⟨.v4 bits, text, port, hdenotes, hdigits⟩) =
        text := by
      cases port with
      | none =>
        refine stripPort_of_not_digits fun host port h _ => hcolon ?_
        have h : text.toList = host ++ ':' :: port := h
        rw [h]
        simp
      | some p =>
        have hrender : (SrcAddress.render ⟨.v4 bits, text, some p, hdenotes, hdigits⟩).toList =
            text.toList ++ ':' :: p.toList := String.toList_ofList
        rw [stripPort_of_digits hrender (hdigits p rfl), String.ofList_toList]
    rw [hstrip]
    exact ⟨fun _ => trivial, fun _ => hdenotes⟩
  | v6 bits =>
    cases port with
    | some p =>
      have hstrip : stripPort
          (SrcAddress.render ⟨.v6 bits, text, some p, hdenotes, hdigits⟩) =
            .ofList ('[' :: (text.toList ++ [']'])) := by
        refine stripPort_of_digits ?_ (hdigits p rfl)
        rw [SrcAddress.render, String.toList_ofList]
        simp
      rw [hstrip, parseIpAddr_bracket]
      exact iff_of_false (by simp) id
    | none =>
      constructor
      · intro h host digits htext hall
        rw [← h, SrcAddress.render, stripPort_of_digits htext hall]
      · intro h
        by_cases hcut : ∃ host digits,
            text.toList = host ++ ':' :: digits ∧ ∀ c ∈ digits, c.isDigit
        · obtain ⟨host, digits, htext, hall⟩ := hcut
          rw [SrcAddress.render, stripPort_of_digits htext hall]
          exact h host digits htext hall
        · have hstrip : stripPort text = text := by
            refine stripPort_of_not_digits fun host port htext hall => hcut ?_
            exact ⟨host, port, htext, hall⟩
          rw [SrcAddress.render, hstrip]
          exact hdenotes

/-! ## Masks -/

theorem isValidMask_of_parseIpAddr {addr : IpAddr} (h : parseIpAddr s = some addr) :
    isValidMask s := by
  have hlisted : ¬ (s.toList.any fun c =>
      ['(', ')', '+', '*', ';', ',', ' ', '\t', '\n', '\r'].contains c) := by
    rw [List.any_eq_true]
    rintro ⟨c, hc, hbad⟩
    have hnone : (['(', ')', '+', '*', ';', ',', ' ', '\t', '\n', '\r'].all fun c =>
        decide ¬ AddrChar c) := by
      decide
    have hnot := of_decide_eq_true (List.all_eq_true.mp hnone c (List.contains_iff_mem.mp hbad))
    exact not_mem_of_parseIpAddr h hnot hc
  have hslash : '/' ∉ s.toList := not_mem_of_parseIpAddr h (by decide)
  have hscheme : hasInfix "://".toList s.toList = false := by
    rw [← Bool.not_eq_true]
    exact fun hinfix => hslash (mem_of_hasInfix hinfix '/' (by decide))
  rw [isValidMask, if_neg hlisted, hscheme]
  rfl

section Allowlist

variable [IpNetParser]

/-- **An address equals a mask or lies inside it.** -/
def CoveredBy (addr : IpAddr) (mask : String) : Prop :=
  parseIpAddr mask = some addr ∨ ∃ net, parseIpNet mask = some net ∧ net.contains addr

/-- **A mask matches** the addresses that it covers. -/
theorem matchAddrMask_iff {addr : IpAddr} {mask : String} :
    matchAddrMask addr mask ↔ CoveredBy addr mask := by
  rw [matchAddrMask, CoveredBy]
  by_cases hslash : '/' ∈ mask.toList
  · -- a network; a slash is not a character of an address
    have hnone : parseIpAddr mask = none := by
      cases h : parseIpAddr mask with
      | none => rfl
      | some addr => exact absurd hslash (not_mem_of_parseIpAddr h (by decide))
    rw [if_neg (by simpa using hslash), hnone]
    cases parseIpNet mask with
    | _ => simp
  · rw [if_pos (by simpa using hslash), parseIpNet_eq_none hslash]
    cases parseIpAddr mask with
    | none => simp
    | some e =>
      simp only [beq_iff_eq, Option.some.injEq, reduceCtorEq, false_and, exists_false, or_false]
      exact eq_comm

/-! ## The allowlist -/

/-- A request that names the source of its call. -/
inductive SourcedRequest
  | auth (req : GetSipTrunkAuthenticationRequest)
  | evaluate (req : EvaluateSipDispatchRulesRequest)

namespace SourcedRequest

/-- The request has no `call`, and names a source. -/
def From (text : String) : SourcedRequest → Prop
  | .auth req => req.call = none ∧ req.srcAddress = text
  | .evaluate req => req.call = none ∧ req.srcAddress = text

/-- The call the handler makes of it. -/
def sipCall : SourcedRequest → SipCall
  | .auth req => sipCallFromAuth req
  | .evaluate req => sipCallFromDispatch req

/-- The trunk the handler asks for first. -/
def trunkId : SourcedRequest → String
  | .auth _ => ""
  | .evaluate req => req.sipTrunkId

end SourcedRequest

namespace SrcAddress

/-- **The allowlists are enforced for a source**: whatever is stored, a trunk that has a valid mask
and is selected for a call from there has a valid mask that covers the address or equals the host of
the caller. -/
def Enforced (src : SrcAddress) : Prop :=
  ∀ (store : SipStore) (req : SourcedRequest) (tr : SipInboundTrunkInfo), req.From src.render →
    matchTrunkFor store req.trunkId req.sipCall = .ok (some tr) →
    (∃ m ∈ tr.allowedAddresses, isValidMask m) →
    ∃ m ∈ tr.allowedAddresses, isValidMask m ∧
      (m = req.sipCall.fromHost ∨ CoveredBy src.addr m)

variable {src : SrcAddress}

/-- **A source that keeps its address** is held against every allowlist. -/
theorem enforced_of_parseIpAddr (h : parseIpAddr (stripPort src.render) = some src.addr) :
    src.Enforced := by
  intro store req tr hfrom hselected hvalid
  -- the trunk of a call accepts it, whichever way it was found
  have haccepts : tr.accepts req.sipCall := by
    revert hselected
    fun_cases matchTrunkFor store req.trunkId req.sipCall
    case case3 trunk _ _ found hmatch =>
      rintro ⟨⟩
      obtain ⟨hmem, haccepts⟩ := accepts_of_matchTrunk hmatch
      obtain rfl := List.mem_singleton.mp hmem
      exact haccepts
    all_goals first | exact accepts_of_matchAllTrunks | nofun
  rw [SipInboundTrunkInfo.accepts, Bool.and_eq_true] at haccepts
  have hmasks := haccepts.2
  have hsource : req.sipCall.sourceIp = stripPort src.render := by
    cases req with
    | auth req => rw [SourcedRequest.sipCall, sipCallFromAuth, hfrom.1, ← hfrom.2]
    | evaluate req => rw [SourcedRequest.sipCall, sipCallFromDispatch, hfrom.1, ← hfrom.2]
  rw [matchAddrMasks, hsource, h] at hmasks
  have hsome : ¬ (tr.allowedAddresses.filter isValidMask).isEmpty := by
    obtain ⟨m, hm, hmask⟩ := hvalid
    rw [List.isEmpty_iff]
    exact List.ne_nil_of_mem (List.mem_filter.mpr ⟨hm, hmask⟩)
  simp only [if_neg hsome] at hmasks
  obtain ⟨m, hm, hmatch⟩ := List.any_eq_true.mp hmasks
  obtain ⟨hm, hmask⟩ := List.mem_filter.mp hm
  refine ⟨m, hm, hmask, ?_⟩
  rw [Bool.or_eq_true, beq_iff_eq] at hmatch
  exact hmatch.imp_right matchAddrMask_iff.mp

/-- The only trunk there is. -/
def storeOf (tr : SipInboundTrunkInfo) : SipStore where
  loadSipInboundTrunk _ := .ok none
  listSipInboundTrunks := .ok [tr]
  listSipDispatchRules := .ok []

/-- A trunk that one mask guards. -/
def guardedBy (mask : String) : SipInboundTrunkInfo where
  sipTrunkId := "ST_office"
  allowedAddresses := [mask]

/-- **A mask that lets a source through without covering it** shows that the allowlists are not
enforced. -/
theorem not_enforced_of_mask {mask : String} (hvalid : isValidMask mask)
    (hpasses : matchAddrMasks (stripPort src.render) "" [mask]) (hne : mask ≠ "")
    (huncovered : ¬ CoveredBy src.addr mask) : ¬ src.Enforced := by
  intro henforced
  let req : GetSipTrunkAuthenticationRequest := { srcAddress := src.render }
  have haccepts : (guardedBy mask).accepts (sipCallFromAuth req) := by
    rw [SipInboundTrunkInfo.accepts, Bool.and_eq_true]
    exact ⟨rfl, hpasses⟩
  have hselected : matchTrunkFor (storeOf (guardedBy mask)) "" (sipCallFromAuth req) =
      .ok (some (guardedBy mask)) := by
    have hall : matchAllTrunks (storeOf (guardedBy mask)) (sipCallFromAuth req) =
        (matchTrunk [guardedBy mask] (sipCallFromAuth req)).mapError .trunk := rfl
    obtain ⟨hS, hD⟩ := trunks_cons_of_isEmpty [] haccepts rfl
    rw [matchTrunkFor, if_neg (by simp), hall, matchTrunk_eq, hS, hD]
    rfl
  obtain ⟨m, hm, -, hcovers⟩ := henforced (storeOf (guardedBy mask)) (.auth req) (guardedBy mask)
    ⟨rfl, rfl⟩ hselected ⟨mask, List.mem_singleton_self mask, hvalid⟩
  obtain rfl : m = mask := List.mem_singleton.mp hm
  exact hcovers.elim hne huncovered

/-- **What is left is no address**: it passes every allowlist. Two addresses are not both the
caller's. -/
theorem not_enforced_of_none (hleft : parseIpAddr (stripPort src.render) = none) :
    ¬ src.Enforced := by
  have hpasses : ∀ mask, matchAddrMasks (stripPort src.render) "" [mask] := by
    intro mask
    rw [matchAddrMasks, hleft]
  by_cases hcovered : CoveredBy src.addr "10.0.0.1"
  · have hother : ¬ CoveredBy src.addr "10.0.0.2" := by
      rw [← matchAddrMask_iff] at hcovered ⊢
      have haddr : src.addr = .v4 0x0a000001#32 := by
        have hparse : parseIpAddr "10.0.0.1" = some (.v4 0x0a000001#32) := by decide +kernel
        rw [matchAddrMask, if_pos (by decide), hparse] at hcovered
        exact beq_iff_eq.mp hcovered
      rw [haddr, matchAddrMask, if_pos (by decide)]
      decide
    exact not_enforced_of_mask (by decide +kernel) (hpasses _) (by decide) hother
  · exact not_enforced_of_mask (by decide +kernel) (hpasses _) (by decide) hcovered

/-- **What is left is another address**: an allowlist of that one lets the caller in. -/
theorem not_enforced_of_other {addr : IpAddr}
    (hleft : parseIpAddr (stripPort src.render) = some addr) (hother : addr ≠ src.addr) :
    ¬ src.Enforced := by
  have hmask : matchAddrMask addr (stripPort src.render) :=
    matchAddrMask_iff.mpr (.inl hleft)
  have hvalid := isValidMask_of_parseIpAddr hleft
  have hpasses : matchAddrMasks (stripPort src.render) "" [stripPort src.render] := by
    rw [matchAddrMasks, hleft]
    simp [hvalid, hmask]
  have hne : stripPort src.render ≠ "" := by
    intro hempty
    rw [hempty] at hleft
    exact absurd hleft (by simp [show parseIpAddr "" = none by decide])
  have huncovered : ¬ CoveredBy src.addr (stripPort src.render) := by
    rw [← matchAddrMask_iff]
    have hslash : '/' ∉ (stripPort src.render).toList := not_mem_of_parseIpAddr hleft (by decide)
    rw [matchAddrMask, if_pos (by simpa using hslash), hleft]
    simpa using Ne.symm hother
  exact not_enforced_of_mask hvalid hpasses hne huncovered

end SrcAddress

/-- **The allowlists are enforced for a source exactly if the cut keeps its address.** -/
theorem allowlist_enforced_iff (src : SrcAddress) : src.Enforced ↔ src.Kept := by
  rw [← parseIpAddr_stripPort_iff]
  constructor
  · intro henforced
    cases hleft : parseIpAddr (stripPort src.render) with
    | none => exact absurd henforced (SrcAddress.not_enforced_of_none hleft)
    | some addr =>
      by_cases hsame : addr = src.addr
      · rw [hsame]
      · exact absurd henforced (SrcAddress.not_enforced_of_other hleft hsame)
  · exact SrcAddress.enforced_of_parseIpAddr

end Allowlist

/-- An IPv6 caller without a port. -/
def ipv6Caller : SrcAddress where
  addr := .v6 0x20010db8000000000000000000000001#128
  text := "2001:db8::1"
  port := none
  denotes := by decide +kernel
  digits := by simp

/-- The same caller with a port. -/
def ipv6CallerWithPort : SrcAddress where
  addr := .v6 0x20010db8000000000000000000000001#128
  text := "2001:db8::1"
  port := some "5060"
  denotes := by decide +kernel
  digits p hp := by
    obtain rfl : "5060" = p := Option.mem_some_iff.mp hp
    have hdigits : ("5060".toList.all Char.isDigit) := by decide
    exact List.all_eq_true.mp hdigits

section Inputs

attribute [local instance] cidrParser

/-- **An allowlist is bypassed**: a trunk for the network 10.0.0.0/8 is selected for a caller at
2001:db8::1, with or without a port. -/
theorem allowlist_bypassed :
    ((matchTrunkFor (SrcAddress.storeOf (SrcAddress.guardedBy "10.0.0.0/8")) ""
        (sipCallFromAuth { srcAddress := "2001:db8::1" })).toOption =
      some (some (SrcAddress.guardedBy "10.0.0.0/8")) ∧ ¬ ipv6Caller.Enforced) ∧
    (matchTrunkFor (SrcAddress.storeOf (SrcAddress.guardedBy "10.0.0.0/8")) ""
        (sipCallFromAuth { srcAddress := "[2001:db8::1]:5060" })).toOption =
      some (some (SrcAddress.guardedBy "10.0.0.0/8")) ∧ ¬ ipv6CallerWithPort.Enforced := by
  have huncovered : ¬ CoveredBy (.v6 0x20010db8000000000000000000000001#128) "10.0.0.0/8" := by
    rw [← matchAddrMask_iff]
    decide +kernel
  have hvalid : isValidMask "10.0.0.0/8" := by decide +kernel
  refine ⟨⟨by decide +kernel, ?_⟩, by decide +kernel, ?_⟩
  · exact SrcAddress.not_enforced_of_mask hvalid (by decide +kernel) (by decide) huncovered
  · exact SrcAddress.not_enforced_of_mask hvalid (by decide +kernel) (by decide) huncovered

end Inputs

end LivekitVoice
