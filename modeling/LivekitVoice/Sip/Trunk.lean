import LivekitVoice.Net.IpAddr

/-! # Inbound trunks

`match_trunk` of `IOInfoSIP`: which of the stored trunks an inbound call belongs to. One loop over
the trunks skips those whose allowed numbers or addresses do not accept the call, counts those
without numbers as defaults, remembers the one with a number that was called, and gives up as soon
as there is a second one.

* **`scanTrunks_eq`** — the loop, in terms of the trunks it does not skip,
* **`matchTrunk_meets_spec`** — the result is the one trunk that has the called number, else the one
  default; two of a kind are an error. -/

namespace LivekitVoice

open Net Text

/-! ## Calls and trunks -/

/-- `lk.SipUri`. -/
structure SipUri where
  user : String := ""
  host : String := ""

/-- `rpc.SipCall`. -/
structure SipCall where
  lkCallId : String := ""
  sourceIp : String := ""
  address : Option SipUri := none
  fromUri : Option SipUri := none
  toUri : Option SipUri := none

namespace SipCall

/-- The user of `from`, empty if there is none. -/
def fromUser (call : SipCall) : String := (call.fromUri.map SipUri.user).getD ""

/-- The host of `from`. -/
def fromHost (call : SipCall) : String := (call.fromUri.map SipUri.host).getD ""

/-- The user of `to`. -/
def toUser (call : SipCall) : String := (call.toUri.map SipUri.user).getD ""

end SipCall

/-- `google.protobuf.Duration`. -/
structure Duration where
  seconds : Int
  nanos : Int
  deriving DecidableEq

/-- `lk.SipMediaConfig`; a codec is its name and rate. -/
structure SipMediaConfig where
  onlyListedCodecs : Bool := false
  codecs : List (String × Nat) := []
  encryption : Option Int := none
  mediaTimeout : Option Duration := none
  deriving DecidableEq

/-- `lk.SipInboundTrunkInfo`. -/
structure SipInboundTrunkInfo where
  sipTrunkId : String := ""
  name : String := ""
  numbers : List String := []
  allowedAddresses : List String := []
  allowedNumbers : List String := []
  authUsername : String := ""
  authPassword : String := ""
  authRealm : String := ""
  headers : List (String × String) := []
  headersToAttributes : List (String × String) := []
  attributesToHeaders : List (String × String) := []
  includeHeaders : Int := 0
  ringingTimeout : Option Duration := none
  maxCallDuration : Option Duration := none
  krispEnabled : Bool := false
  mediaEncryption : Int := 0
  media : Option SipMediaConfig := none
  deriving DecidableEq

/-! ## Numbers and addresses -/

/-- `normalize_number`: formatting is dropped and a `+` put in front, unless the text is not a
number at all. -/
def normalizeNumber (num : String) : String :=
  if num.toList = [] then ""
  else if !(num.toList.all fun c => c.isDigit || "+- ()".toList.contains c) then num
  else
    let cleaned := num.toList.filter fun c => !" -()".toList.contains c
    if cleaned.head? = some '+' then .ofList cleaned else .ofList ('+' :: cleaned)

/-- `match_numbers`: an empty list allows every number. -/
def matchNumbers (num : String) (allowed : List String) : Bool :=
  if allowed.isEmpty then true
  else allowed.any fun a => num == a || normalizeNumber num == normalizeNumber a

/-- `is_valid_mask`. -/
def isValidMask (mask : String) : Bool :=
  if mask.toList.any fun c => ['(', ')', '+', '*', ';', ',', ' ', '\t', '\n', '\r'].contains c then
    false
  else !hasInfix "://".toList mask.toList

variable [IpNetParser]

/-- `match_addr_mask`: an address or a network. -/
def matchAddrMask (ip : IpAddr) (mask : String) : Bool :=
  if !mask.toList.contains '/' then
    match parseIpAddr mask with
    | some e => ip == e
    | none => false
  else
    match parseIpNet mask with
    | some net => net.contains ip
    | none => false

/-- `match_addr_masks`. A source that is not an address passes, and so does every source if no mask
is valid. -/
def matchAddrMasks (addr host : String) (masks : List String) : Bool :=
  match parseIpAddr addr with
  | none => true
  | some ip =>
    let valid := masks.filter isValidMask
    if valid.isEmpty then true else valid.any fun m => m == host || matchAddrMask ip m

/-! ## The scan -/

/-- Why no trunk is chosen; the called number is part of the text. -/
inductive TrunkError
  | multiple (called : String)
  | multipleDefault (called : String)
  deriving DecidableEq

/-- The text of the error; `debug` is the formatting `?` of a text. -/
def TrunkError.message (debug : String → String) : TrunkError → String
  | .multiple called => "Multiple SIP Trunks matched for " ++ debug called
  | .multipleDefault called => "Multiple default SIP Trunks matched for " ++ debug called

/-- The allowed numbers and addresses of a trunk accept a call. -/
def SipInboundTrunkInfo.accepts (call : SipCall) (tr : SipInboundTrunkInfo) : Bool :=
  matchNumbers call.fromUser tr.allowedNumbers &&
    matchAddrMasks call.sourceIp call.fromHost tr.allowedAddresses

/-- The test of the inner loop of `match_trunk`: the number is the one that was called. -/
def numberCalled (call : SipCall) (num : String) : Bool :=
  num == call.toUser || normalizeNumber num == normalizeNumber call.toUser

/-- What the loop of `match_trunk` has found so far. -/
structure TrunkScan where
  selected : Option SipInboundTrunkInfo := none
  defaultTrunk : Option SipInboundTrunkInfo := none
  defaultCnt : Nat := 0

/-- The inner loop of `match_trunk`, over the numbers of a trunk. -/
def scanNumbers (call : SipCall) (tr : SipInboundTrunkInfo)
    (selected : Option SipInboundTrunkInfo) :
    List String → Except TrunkError (Option SipInboundTrunkInfo)
  | [] => .ok selected
  | num :: numbers =>
    if numberCalled call num then
      if selected.isSome then .error (.multiple call.toUser) else .ok (some tr)
    else scanNumbers call tr selected numbers

/-- The loop of `match_trunk`, over the trunks. -/
def scanTrunks (call : SipCall) : TrunkScan → List SipInboundTrunkInfo → Except TrunkError TrunkScan
  | s, [] => .ok s
  | s, tr :: trunks =>
    if !matchNumbers call.fromUser tr.allowedNumbers then scanTrunks call s trunks
    else if !matchAddrMasks call.sourceIp call.fromHost tr.allowedAddresses then
      scanTrunks call s trunks
    else if tr.numbers.isEmpty then
      scanTrunks call { s with defaultCnt := s.defaultCnt + 1, defaultTrunk := some tr } trunks
    else
      match scanNumbers call tr s.selected tr.numbers with
      | .error e => .error e
      | .ok selected => scanTrunks call { s with selected } trunks

/-- **`match_trunk`.** -/
def matchTrunk (trunks : List SipInboundTrunkInfo) (call : SipCall) :
    Except TrunkError (Option SipInboundTrunkInfo) :=
  match scanTrunks call {} trunks with
  | .error e => .error e
  | .ok s =>
    if s.selected.isSome then .ok s.selected
    else if 1 < s.defaultCnt then .error (.multipleDefault call.toUser)
    else .ok s.defaultTrunk

/-! ## What the scan finds -/

/-- **The trunks with the called number**, among those that accept the call. -/
def specificTrunks (call : SipCall) (trunks : List SipInboundTrunkInfo) :
    List SipInboundTrunkInfo :=
  (trunks.filter fun tr => tr.accepts call).filter fun tr => tr.numbers.any (numberCalled call)

/-- **The trunks without numbers**, among those that accept the call. -/
def defaultTrunks (call : SipCall) (trunks : List SipInboundTrunkInfo) :
    List SipInboundTrunkInfo :=
  (trunks.filter fun tr => tr.accepts call).filter fun tr => tr.numbers.isEmpty

omit [IpNetParser] in
theorem scanNumbers_eq (call : SipCall) (tr : SipInboundTrunkInfo)
    (selected : Option SipInboundTrunkInfo) (numbers : List String) :
    scanNumbers call tr selected numbers =
      if numbers.any (numberCalled call) then
        if selected.isSome then .error (.multiple call.toUser) else .ok (some tr)
      else .ok selected := by
  induction numbers with
  | nil => rfl
  | cons num numbers ih =>
    rw [scanNumbers, ih, List.any_cons]
    cases numberCalled call num with
    | true => rw [if_pos rfl, Bool.true_or, if_pos rfl]
    | false => rw [if_neg Bool.false_ne_true, Bool.false_or]

section Cons

variable {call : SipCall} {tr : SipInboundTrunkInfo} (trunks : List SipInboundTrunkInfo)

theorem trunks_cons_of_not_accepts (h : tr.accepts call = false) :
    specificTrunks call (tr :: trunks) = specificTrunks call trunks ∧
      defaultTrunks call (tr :: trunks) = defaultTrunks call trunks := by
  rw [specificTrunks, defaultTrunks, List.filter_cons_of_neg (by simp [h])]
  exact ⟨rfl, rfl⟩

theorem trunks_cons_of_isEmpty (h : tr.accepts call) (hempty : tr.numbers.isEmpty) :
    specificTrunks call (tr :: trunks) = specificTrunks call trunks ∧
      defaultTrunks call (tr :: trunks) = tr :: defaultTrunks call trunks := by
  have hnone : tr.numbers.any (numberCalled call) = false := by
    rw [List.isEmpty_iff.mp hempty]
    rfl
  simp only [specificTrunks, defaultTrunks, List.filter_cons, h, hempty, hnone, if_true,
    Bool.false_eq_true, if_false, and_self]

theorem trunks_cons_of_numbers (h : tr.accepts call) (hsome : tr.numbers.isEmpty = false) :
    specificTrunks call (tr :: trunks) =
        (if tr.numbers.any (numberCalled call) then [tr] else []) ++ specificTrunks call trunks ∧
      defaultTrunks call (tr :: trunks) = defaultTrunks call trunks := by
  simp only [specificTrunks, defaultTrunks, List.filter_cons, h, hsome, if_true,
    Bool.false_eq_true, if_false, and_true]
  cases tr.numbers.any (numberCalled call) with
  | true => rfl
  | false => rfl

end Cons

/-- **The loop of `match_trunk`**: from a state in which some trunks have been found, it fails if
there is more than one specific trunk, and otherwise has the first specific trunk, the last default
and the number of defaults. -/
theorem scanTrunks_eq (call : SipCall) (s : TrunkScan) (trunks : List SipInboundTrunkInfo) :
    scanTrunks call s trunks =
      if (s.selected.toList ++ specificTrunks call trunks).length ≤ 1 then
        .ok ⟨(s.selected.toList ++ specificTrunks call trunks).head?,
          (s.defaultTrunk.toList ++ defaultTrunks call trunks).getLast?,
          s.defaultCnt + (defaultTrunks call trunks).length⟩
      else .error (.multiple call.toUser) := by
  induction trunks generalizing s with
  | nil =>
    obtain ⟨selected, defaultTrunk, defaultCnt⟩ := s
    cases selected <;> cases defaultTrunk <;> rfl
  | cons tr trunks ih =>
    rw [scanTrunks]
    by_cases hnumbers : matchNumbers call.fromUser tr.allowedNumbers
    · by_cases haddrs :
          matchAddrMasks call.sourceIp call.fromHost tr.allowedAddresses
      · have haccepts : tr.accepts call := by
          rw [SipInboundTrunkInfo.accepts, hnumbers, haddrs]
          rfl
        rw [if_neg (by simp [hnumbers]), if_neg (by simp [haddrs])]
        cases hempty : tr.numbers.isEmpty with
        | true =>
          obtain ⟨hS, hD⟩ := trunks_cons_of_isEmpty trunks haccepts hempty
          have hlast : (some tr).toList ++ defaultTrunks call trunks =
              tr :: defaultTrunks call trunks := rfl
          have hcnt : s.defaultCnt + 1 + (defaultTrunks call trunks).length =
              s.defaultCnt + (tr :: defaultTrunks call trunks).length := by
            rw [List.length_cons]
            omega
          rw [if_pos rfl, ih, hS, hD, hlast, hcnt, List.getLast?_append,
            List.getLast?_cons, Option.some_or]
        | false =>
          obtain ⟨hS, hD⟩ := trunks_cons_of_numbers trunks haccepts hempty
          rw [if_neg Bool.false_ne_true, scanNumbers_eq, hS, hD]
          cases hcalled : tr.numbers.any (numberCalled call) with
          | false => exact ih _
          | true =>
            obtain ⟨selected, defaultTrunk, defaultCnt⟩ := s
            cases selected with
            | none => exact ih _
            | some first => simp
      · have hskip : tr.accepts call = false := by
          simp [SipInboundTrunkInfo.accepts, haddrs]
        obtain ⟨hS, hD⟩ := trunks_cons_of_not_accepts trunks hskip
        rw [if_neg (by simp [hnumbers]), if_pos (by simp [haddrs]), ih, hS, hD]
    · have hskip : tr.accepts call = false := by
        simp [SipInboundTrunkInfo.accepts, hnumbers]
      obtain ⟨hS, hD⟩ := trunks_cons_of_not_accepts trunks hskip
      rw [if_pos (by simp [hnumbers]), ih, hS, hD]

/-- **`match_trunk` decides by the specific trunks and the defaults.** -/
theorem matchTrunk_eq (trunks : List SipInboundTrunkInfo) (call : SipCall) :
    matchTrunk trunks call =
      match specificTrunks call trunks, defaultTrunks call trunks with
      | _ :: _ :: _, _ => .error (.multiple call.toUser)
      | [tr], _ => .ok (some tr)
      | [], _ :: _ :: _ => .error (.multipleDefault call.toUser)
      | [], [tr] => .ok (some tr)
      | [], [] => .ok none := by
  rw [matchTrunk, scanTrunks_eq]
  rcases specificTrunks call trunks with _ | ⟨tr, _ | ⟨tr', rest⟩⟩
  · rcases defaultTrunks call trunks with _ | ⟨tr, _ | ⟨tr', rest⟩⟩
    · rfl
    · rfl
    · simp
  · rfl
  · simp

/-! ## Order and spelling -/

omit [IpNetParser] in
theorem exists_two_of_le_length {α : Type} {l : List α} (h : 2 ≤ l.length) :
    ∃ a b rest, l = a :: b :: rest := by
  rcases l with _ | ⟨a, _ | ⟨b, rest⟩⟩
  · cases h
  · exact absurd h (by simp)
  · exact ⟨a, b, rest, rfl⟩

/-- **The order of the trunks does not matter.** -/
theorem matchTrunk_perm {trunks trunks' : List SipInboundTrunkInfo} (call : SipCall)
    (h : trunks'.Perm trunks) : matchTrunk trunks' call = matchTrunk trunks call := by
  have hS : (specificTrunks call trunks').Perm (specificTrunks call trunks) :=
    (h.filter _).filter _
  have hD : (defaultTrunks call trunks').Perm (defaultTrunks call trunks) :=
    (h.filter _).filter _
  rw [matchTrunk_eq, matchTrunk_eq]
  -- lists of at most one element are equal, and longer ones stay longer
  rcases hs : specificTrunks call trunks with _ | ⟨tr, _ | ⟨tr', rest⟩⟩
  · rw [hs] at hS
    rw [hS.eq_nil]
    rcases hd : defaultTrunks call trunks with _ | ⟨tr, _ | ⟨tr', rest⟩⟩
    · rw [hd] at hD
      rw [hD.eq_nil]
    · rw [hd] at hD
      rw [List.perm_singleton.mp hD]
    · rw [hd] at hD
      have htwo : 2 ≤ (defaultTrunks call trunks').length := by
        rw [hD.length_eq, List.length_cons, List.length_cons]
        omega
      obtain ⟨a, b, rest', hd'⟩ := exists_two_of_le_length htwo
      rw [hd']
  · rw [hs] at hS
    rw [List.perm_singleton.mp hS]
  · rw [hs] at hS
    have htwo : 2 ≤ (specificTrunks call trunks').length := by
      rw [hS.length_eq, List.length_cons, List.length_cons]
      omega
    obtain ⟨a, b, rest', hs'⟩ := exists_two_of_le_length htwo
    rw [hs']

/-- **Calls that differ in the spelling of their numbers**: the users of `from` and `to` normalise
to the same numbers, and what else is looked at is the same. -/
structure SipCall.SameNumbers (call call' : SipCall) : Prop where
  sourceIp : call'.sourceIp = call.sourceIp
  fromHost : call'.fromHost = call.fromHost
  fromUser : normalizeNumber call'.fromUser = normalizeNumber call.fromUser
  toUser : normalizeNumber call'.toUser = normalizeNumber call.toUser

omit [IpNetParser] in
theorem beq_or_normalizeNumber (a b : String) :
    (a == b || normalizeNumber a == normalizeNumber b) =
      (normalizeNumber a == normalizeNumber b) := by
  by_cases h : a = b <;> simp [h]

section SameNumbers

variable {call call' : SipCall} (h : call.SameNumbers call')
include h

omit [IpNetParser] in
theorem SipCall.SameNumbers.numberCalled_eq : numberCalled call' = numberCalled call := by
  funext num
  rw [numberCalled, numberCalled, beq_or_normalizeNumber, beq_or_normalizeNumber, h.toUser]

theorem SipCall.SameNumbers.accepts_eq (tr : SipInboundTrunkInfo) :
    tr.accepts call' = tr.accepts call := by
  have hnumbers : matchNumbers call'.fromUser tr.allowedNumbers =
      matchNumbers call.fromUser tr.allowedNumbers := by
    simp only [matchNumbers, beq_or_normalizeNumber]
    rw [h.fromUser]
  rw [SipInboundTrunkInfo.accepts, SipInboundTrunkInfo.accepts, hnumbers, h.sourceIp, h.fromHost]

/-- **How the numbers of a call are written does not matter**, but for the text of an error. -/
theorem matchTrunk_sameNumbers (trunks : List SipInboundTrunkInfo) :
    (matchTrunk trunks call').mapError (fun _ => ()) =
      (matchTrunk trunks call).mapError (fun _ => ()) := by
  have hS : specificTrunks call' trunks = specificTrunks call trunks := by
    rw [specificTrunks, specificTrunks, h.numberCalled_eq]
    simp [h.accepts_eq]
  have hD : defaultTrunks call' trunks = defaultTrunks call trunks := by
    rw [defaultTrunks, defaultTrunks]
    simp [h.accepts_eq]
  rw [matchTrunk_eq, matchTrunk_eq, hS, hD]
  rcases specificTrunks call trunks with _ | ⟨tr, _ | ⟨tr', rest⟩⟩
  · rcases defaultTrunks call trunks with _ | ⟨tr, _ | ⟨tr', rest⟩⟩
    · rfl
    · rfl
    · rfl
  · rfl
  · rfl

end SameNumbers

/-! ## The specification -/

/-- **Trunk selection meets its specification.** Two specific trunks are an error, and one is the
result; without a specific trunk two defaults are an error, one is the result, and else there is no
trunk. The order of the trunks does not matter, and the spelling of the numbers of the call changes
at most the text of the error. -/
theorem matchTrunk_meets_spec (trunks : List SipInboundTrunkInfo) (call : SipCall) :
    (2 ≤ (specificTrunks call trunks).length → ∃ e, matchTrunk trunks call = .error e) ∧
    (∀ tr, specificTrunks call trunks = [tr] → matchTrunk trunks call = .ok (some tr)) ∧
    (specificTrunks call trunks = [] → 2 ≤ (defaultTrunks call trunks).length →
      ∃ e, matchTrunk trunks call = .error e) ∧
    (specificTrunks call trunks = [] → ∀ tr, defaultTrunks call trunks = [tr] →
      matchTrunk trunks call = .ok (some tr)) ∧
    (specificTrunks call trunks = [] → defaultTrunks call trunks = [] →
      matchTrunk trunks call = .ok none) ∧
    (∀ trunks', trunks'.Perm trunks → matchTrunk trunks' call = matchTrunk trunks call) ∧
    (∀ call', call.SameNumbers call' → (matchTrunk trunks call').mapError (fun _ => ()) =
      (matchTrunk trunks call).mapError (fun _ => ())) := by
  refine ⟨?_, ?_, ?_, ?_, ?_, fun _ => matchTrunk_perm call,
    fun _ hsame => matchTrunk_sameNumbers hsame trunks⟩
  · intro htwo
    obtain ⟨tr, tr', rest, hS⟩ := exists_two_of_le_length htwo
    rw [matchTrunk_eq, hS]
    exact ⟨_, rfl⟩
  · intro tr hone
    rw [matchTrunk_eq, hone]
  · intro hnone htwo
    obtain ⟨tr, tr', rest, hD⟩ := exists_two_of_le_length htwo
    rw [matchTrunk_eq, hnone, hD]
    exact ⟨_, rfl⟩
  · intro hnone tr hone
    rw [matchTrunk_eq, hnone, hone]
  · intro hnone hdefault
    rw [matchTrunk_eq, hnone, hdefault]

end LivekitVoice
