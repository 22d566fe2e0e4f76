import Mathlib.Data.List.MinMax
import Mathlib.Data.Prod.Lex
import Mathlib.Data.String.Basic
import LivekitVoice.Sip.Trunk
import LivekitVoice.Signal.Ws

/-! # Dispatch rules

`match_dispatch_rule` of `IOInfoSIP`: which of the stored rules an inbound call is dispatched by.
One loop over the rules skips those whose number filters, PIN or trunks do not accept the request,
and keeps two running bests at once: among the rules that list the trunk of the call, and among
those that list no trunk.

* **`hasHigherPriority_iff`** — the comparison is lexicographic,
* **`foldl_scanRule`** — the loop is two independent scans, over the rules of each class,
* **`matchDispatchRule_optimal`** — the rule it returns is a best one. -/

namespace LivekitVoice

open List

/-! ## Rules and requests -/

/-- The three kinds of `lk.SipDispatchRule`. -/
inductive DispatchRule
  | direct (roomName pin : String)
  | individual (roomPrefix pin : String) (noRandomness : Bool)
  | callee (roomPrefix pin : String) (randomize : Bool)
  deriving DecidableEq

/-- `lk.SipDispatchRule`. -/
structure SipDispatchRule where
  rule : Option DispatchRule := none
  deriving DecidableEq

/-- `lk.SipDispatchRuleInfo`; the room configuration is carried as it was encoded. -/
structure SipDispatchRuleInfo where
  sipDispatchRuleId : String := ""
  rule : Option SipDispatchRule := none
  trunkIds : List String := []
  hidePhoneNumber : Bool := false
  inboundNumbers : List String := []
  numbers : List String := []
  metadata : String := ""
  attributes : List (String × String) := []
  roomPreset : String := ""
  roomConfig : Option Bytes := none
  media : Option SipMediaConfig := none
  krispEnabled : Bool := false
  mediaEncryption : Int := 0
  deriving DecidableEq

/-- `rpc.EvaluateSipDispatchRulesRequest`. -/
structure EvaluateSipDispatchRulesRequest where
  sipCallId : String := ""
  sipTrunkId : String := ""
  callingNumber : String := ""
  callingHost : String := ""
  calledNumber : String := ""
  calledHost : String := ""
  srcAddress : String := ""
  pin : String := ""
  noPin : Bool := false
  extraAttributes : List (String × String) := []
  call : Option SipCall := none

/-- Why a SIP request fails. -/
inductive SipError
  /-- The store fails, with a text of its own. -/
  | store (text : String)
  | trunk (e : TrunkError)
  | noRule
  | unsupported
  /-- `ERR_NO_DISPATCH_MATCHED`. -/
  | noDispatchMatched
  | incorrectPin
  deriving DecidableEq

/-- The text of the error; `debug` is the formatting `?` of a text. -/
def SipError.message (debug : String → String) : SipError → String
  | .store text => text
  | .trunk e => e.message debug
  | .noRule => "dispatch rule has no rule"
  | .unsupported => "unsupported dispatch rule"
  | .noDispatchMatched => "no dispatch rules matched the call"
  | .incorrectPin => "Incorrect PIN for SIP room"

variable (info : SipDispatchRuleInfo)

/-- `get_pin_and_room`: the room, or what its name starts with, and the PIN. -/
def getPinAndRoom : Except SipError (String × String) :=
  match info.rule with
  | none => .error .noRule
  | some rule =>
    match rule.rule with
    | some (.direct roomName pin) => .ok (roomName, pin)
    | some (.individual roomPrefix pin _) => .ok (roomPrefix, pin)
    | some (.callee roomPrefix pin _) => .ok (roomPrefix, pin)
    | none => .error .unsupported

/-! ## Priority -/

/-- The part of the priority that the kind of a rule and its PIN decide. -/
def DispatchRule.priority : DispatchRule → Nat
  | .direct _ pin => if pin = "" then 100 else 0
  | .individual _ pin _ => if pin = "" then 101 else 1
  | .callee _ pin _ => if pin = "" then 102 else 2

/-- `dispatch_rule_priority`: lower is better; `i32::MAX` without a rule. -/
def dispatchRulePriority : Nat :=
  match info.rule.bind SipDispatchRule.rule with
  | none => 2147483647
  | some rule =>
    rule.priority + (if info.inboundNumbers.isEmpty then 1000 else 0) +
      (if info.numbers.isEmpty then 1000 else 0)

/-- The room of a rule, empty if there is none. -/
def ruleRoom : String :=
  match getPinAndRoom info with
  | .ok (room, _) => room
  | .error _ => ""

/-- `has_higher_priority`. -/
def hasHigherPriority (r1 r2 : SipDispatchRuleInfo) : Bool :=
  if dispatchRulePriority r1 ≠ dispatchRulePriority r2 then
    dispatchRulePriority r1 < dispatchRulePriority r2
  else ruleRoom r1 < ruleRoom r2

/-- What rules are compared by. -/
def ruleKey : Nat ×ₗ String :=
  toLex (dispatchRulePriority info, ruleRoom info)

/-- **The comparison is lexicographic.** -/
theorem hasHigherPriority_iff {r1 r2 : SipDispatchRuleInfo} :
    hasHigherPriority r1 r2 ↔ ruleKey r1 < ruleKey r2 := by
  rw [hasHigherPriority, ruleKey, ruleKey, Prod.Lex.toLex_lt_toLex]
  by_cases h : dispatchRulePriority r1 = dispatchRulePriority r2
  · rw [if_neg (not_not_intro h), decide_eq_true_iff, h]
    simp
  · rw [if_pos h, decide_eq_true_iff]
    simp [h]

/-- The comparison, as a relation. -/
def HigherPriority (r1 r2 : SipDispatchRuleInfo) : Prop := hasHigherPriority r1 r2
  deriving Decidable

theorem higherPriority_iff {r1 r2 : SipDispatchRuleInfo} :
    HigherPriority r1 r2 ↔ ruleKey r1 < ruleKey r2 := hasHigherPriority_iff

/-- **Priority is a strict weak order**: rules are incomparable if they have the same key. -/
instance isStrictWeakOrder_higherPriority :
    IsStrictWeakOrder SipDispatchRuleInfo HigherPriority where
  irrefl r h := lt_irrefl _ (higherPriority_iff.mp h)
  trans r1 r2 r3 h12 h23 :=
    higherPriority_iff.mpr ((higherPriority_iff.mp h12).trans (higherPriority_iff.mp h23))
  incomp_trans r1 r2 r3 h12 h23 := by
    simp only [higherPriority_iff, not_lt] at h12 h23 ⊢
    exact ⟨h23.1.trans h12.1, h12.2.trans h23.2⟩

/-! ## The scan -/

/-- The check of the PIN in the loop of `match_dispatch_rule`: the rule is skipped. -/
def pinRefused (req : EvaluateSipDispatchRulesRequest) (rulePin : String) : Bool :=
  if req.noPin then rulePin ≠ ""
  else req.pin ≠ "" && (rulePin = "" || req.pin ≠ rulePin)

/-- `if best.is_none() || has_higher_priority(info, best)`. -/
def keepBetter (best : Option SipDispatchRuleInfo) (info : SipDispatchRuleInfo) :
    Option SipDispatchRuleInfo :=
  match best with
  | none => some info
  | some b => if hasHigherPriority info b then some info else some b

/-- What the loop of `match_dispatch_rule` has found so far. -/
structure DispatchScan where
  specific : Option SipDispatchRuleInfo := none
  specificCnt : Nat := 0
  defaultRule : Option SipDispatchRuleInfo := none
  defaultCnt : Nat := 0

variable (trunk : Option SipInboundTrunkInfo)

/-- The end of a turn of the loop of `match_dispatch_rule`, for a rule that has passed the filters:
the trunks of the rule are looked at. -/
def placeRule (s : DispatchScan) (info : SipDispatchRuleInfo) :
    DispatchScan :=
  if info.trunkIds.isEmpty then
    { s with
      defaultCnt := s.defaultCnt + 1
      defaultRule := keepBetter s.defaultRule info }
  else
    match trunk with
    | none => s
    | some trunk =>
      if !info.trunkIds.contains trunk.sipTrunkId then s
      else
        { s with
          specificCnt := s.specificCnt + 1
          specific := keepBetter s.specific info }

/-- One turn of the loop of `match_dispatch_rule`. -/
def scanRule (req : EvaluateSipDispatchRulesRequest)
    (s : DispatchScan) (info : SipDispatchRuleInfo) : DispatchScan :=
  if !info.inboundNumbers.isEmpty && !info.inboundNumbers.contains req.callingNumber then s
  else if !info.numbers.isEmpty && !info.numbers.contains req.calledNumber then s
  else
    match getPinAndRoom info with
    | .error _ => s
    | .ok (_, rulePin) => if pinRefused req rulePin then s else placeRule trunk s info

/-- **`match_dispatch_rule`.** -/
def matchDispatchRule (rules : List SipDispatchRuleInfo) (trunk : Option SipInboundTrunkInfo)
    (req : EvaluateSipDispatchRulesRequest) : Except SipError (Option SipDispatchRuleInfo) :=
  let s := rules.foldl (scanRule trunk req) {}
  if s.specificCnt = 0 ∧ s.defaultCnt = 0 then .error .noDispatchMatched
  else .ok (s.specific.or s.defaultRule)

/-! ## Eligible rules -/

/-- **The PIN filter accepts a rule**: a caller that refuses to enter a PIN gets the rules without
one, a caller that sent a PIN those with that PIN, and a caller that did neither all of them. -/
def AcceptsPin (req : EvaluateSipDispatchRulesRequest) (rulePin : String) : Prop :=
  if req.noPin then rulePin = "" else req.pin = "" ∨ (rulePin ≠ "" ∧ rulePin = req.pin)

/-- **A rule lists the trunk** of the call. -/
def SpecificRule (info : SipDispatchRuleInfo) : Prop :=
  ∃ t, trunk = some t ∧ t.sipTrunkId ∈ info.trunkIds

/-- **A rule is eligible**: its number filters, its PIN and its trunks accept the request. -/
structure EligibleRule (trunk : Option SipInboundTrunkInfo) (req : EvaluateSipDispatchRulesRequest)
    (info : SipDispatchRuleInfo) : Prop where
  inbound : info.inboundNumbers = [] ∨ req.callingNumber ∈ info.inboundNumbers
  numbers : info.numbers = [] ∨ req.calledNumber ∈ info.numbers
  pin : ∃ room rulePin, getPinAndRoom info = .ok (room, rulePin) ∧ AcceptsPin req rulePin
  trunk : info.trunkIds = [] ∨ SpecificRule trunk info

/-- The classes of the loop. -/
inductive RuleClass
  | skipped
  | fallback
  | specific
  deriving DecidableEq

section Classes

open Classical in
/-- **The class of a rule**: skipped if it is not eligible, otherwise by whether it lists a
trunk. -/
noncomputable def ruleClass (trunk : Option SipInboundTrunkInfo)
    (req : EvaluateSipDispatchRulesRequest) (info : SipDispatchRuleInfo) : RuleClass :=
  if EligibleRule trunk req info then
    if SpecificRule trunk info then .specific else .fallback
  else .skipped

variable {trunk : Option SipInboundTrunkInfo} {req : EvaluateSipDispatchRulesRequest}
  {info : SipDispatchRuleInfo}

theorem ruleClass_eq_skipped_iff :
    ruleClass trunk req info = .skipped ↔ ¬ EligibleRule trunk req info := by
  rw [ruleClass]
  split_ifs <;> simp [*]

theorem ruleClass_eq_specific_iff :
    ruleClass trunk req info = .specific ↔
      EligibleRule trunk req info ∧ SpecificRule trunk info := by
  rw [ruleClass]
  split_ifs <;> simp [*]

theorem ruleClass_eq_fallback_iff :
    ruleClass trunk req info = .fallback ↔
      EligibleRule trunk req info ∧ ¬ SpecificRule trunk info := by
  rw [ruleClass]
  split_ifs <;> simp [*]

theorem pinRefused_eq_false_iff {rulePin : String} :
    pinRefused req rulePin = false ↔ AcceptsPin req rulePin := by
  rw [pinRefused, AcceptsPin]
  cases req.noPin with
  | true => simp
  | false =>
    by_cases hsent : req.pin = ""
    · simp [hsent]
    · by_cases hpin : rulePin = ""
      · simp [hsent, hpin]
      · by_cases hsame : req.pin = rulePin
        · simp [hpin, hsame]
        · simp [hsent, hpin, hsame, Ne.symm hsame]

/-- What a turn of the loop does for a rule of a class. -/
def DispatchScan.add (s : DispatchScan) (info : SipDispatchRuleInfo) : RuleClass → DispatchScan
  | .skipped => s
  | .fallback =>
    { s with
      defaultCnt := s.defaultCnt + 1
      defaultRule := keepBetter s.defaultRule info }
  | .specific =>
    { s with
      specificCnt := s.specificCnt + 1
      specific := keepBetter s.specific info }

theorem numberFilter_eq_false_iff {numbers : List String} {number : String} :
    (!numbers.isEmpty && !numbers.contains number) = false ↔ numbers = [] ∨ number ∈ numbers := by
  by_cases hnil : numbers = []
  · simp [hnil]
  · by_cases hmem : number ∈ numbers
    · simp [hmem]
    · simp [hnil, hmem]

/-- **A rule is placed** by its class. -/
theorem placeRule_eq (s : DispatchScan)
    (h : info.trunkIds = [] ∨ SpecificRule trunk info → EligibleRule trunk req info)
    (h' : EligibleRule trunk req info → info.trunkIds = [] ∨ SpecificRule trunk info) :
    placeRule trunk s info = s.add info (ruleClass trunk req info) := by
  unfold placeRule
  by_cases hnil : info.trunkIds = []
  · have hgeneral : ¬ SpecificRule trunk info := by
      rintro ⟨t, -, ht⟩
      simp [hnil] at ht
    rw [ruleClass_eq_fallback_iff.mpr ⟨h (.inl hnil), hgeneral⟩, if_pos (by simp [hnil])]
    rfl
  · rw [if_neg (by simp [hnil])]
    have hskip : ¬ SpecificRule trunk info → s = s.add info (ruleClass trunk req info) := by
      intro hnot
      rw [ruleClass_eq_skipped_iff.mpr fun he => (h' he).elim hnil hnot]
      rfl
    cases trunk with
    | none =>
      refine hskip ?_
      rintro ⟨t, ht, -⟩
      cases ht
    | some t =>
      by_cases hlisted : t.sipTrunkId ∈ info.trunkIds
      · have hspecific : SpecificRule (some t) info := ⟨t, rfl, hlisted⟩
        rw [ruleClass_eq_specific_iff.mpr ⟨h (.inr hspecific), hspecific⟩]
        exact if_neg (by simpa using hlisted)
      · have hnot : ¬ SpecificRule (some t) info := by
          rintro ⟨t', ht', hlisted'⟩
          cases ht'
          exact hlisted hlisted'
        rw [← hskip hnot]
        exact if_pos (by simpa using hlisted)

/-- **A turn of the loop** goes by the class of the rule. -/
theorem scanRule_eq (s : DispatchScan) :
    scanRule trunk req s info = s.add info (ruleClass trunk req info) := by
  have hskip : ¬ EligibleRule trunk req info → s = s.add info (ruleClass trunk req info) := by
    intro h
    rw [ruleClass_eq_skipped_iff.mpr h]
    rfl
  unfold scanRule
  by_cases hinbound : info.inboundNumbers = [] ∨ req.callingNumber ∈ info.inboundNumbers
  · rw [numberFilter_eq_false_iff.mpr hinbound, if_neg Bool.false_ne_true]
    by_cases hnumbers : info.numbers = [] ∨ req.calledNumber ∈ info.numbers
    · rw [numberFilter_eq_false_iff.mpr hnumbers, if_neg Bool.false_ne_true]
      cases hpin : getPinAndRoom info with
      | error e =>
        refine hskip fun he => ?_
        obtain ⟨room, rulePin, hok, -⟩ := he.pin
        simp [hpin] at hok
      | ok parts =>
        obtain ⟨room, rulePin⟩ := parts
        by_cases haccepts : AcceptsPin req rulePin
        · have hplace := placeRule_eq s
            (fun htrunk => ⟨hinbound, hnumbers, ⟨room, rulePin, hpin, haccepts⟩, htrunk⟩)
            (fun he : EligibleRule trunk req info => he.trunk)
          simp only [pinRefused_eq_false_iff.mpr haccepts, Bool.false_eq_true, if_false]
          exact hplace
        · have hrefused : pinRefused req rulePin := by
            rw [← Bool.not_eq_false, pinRefused_eq_false_iff]
            exact haccepts
          simp only [hrefused, if_true]
          refine hskip fun he => ?_
          obtain ⟨room', rulePin', hok, haccepts'⟩ := he.pin
          rw [hpin] at hok
          cases hok
          exact haccepts haccepts'
    · have hfilter : (!info.numbers.isEmpty && !info.numbers.contains req.calledNumber) := by
        rw [← Bool.not_eq_false, numberFilter_eq_false_iff]
        exact hnumbers
      rw [if_pos hfilter]
      exact hskip fun he => hnumbers he.numbers
  · have hfilter :
        (!info.inboundNumbers.isEmpty &&
          !info.inboundNumbers.contains req.callingNumber) := by
      rw [← Bool.not_eq_false, numberFilter_eq_false_iff]
      exact hinbound
    rw [if_pos hfilter]
    exact hskip fun he => hinbound he.inbound

open Classical in
/-- The rules of a class. -/
noncomputable def rulesOf (trunk : Option SipInboundTrunkInfo)
    (req : EvaluateSipDispatchRulesRequest) (class' : RuleClass)
    (rules : List SipDispatchRuleInfo) : List SipDispatchRuleInfo :=
  rules.filter fun info => ruleClass trunk req info = class'

/-- **The loop of `match_dispatch_rule` is two scans**, one over the rules of each class. -/
theorem foldl_scanRule (s : DispatchScan) (rules : List SipDispatchRuleInfo) :
    rules.foldl (scanRule trunk req) s =
      ⟨(rulesOf trunk req .specific rules).foldl keepBetter s.specific,
        s.specificCnt + (rulesOf trunk req .specific rules).length,
        (rulesOf trunk req .fallback rules).foldl keepBetter s.defaultRule,
        s.defaultCnt + (rulesOf trunk req .fallback rules).length⟩ := by
  induction rules generalizing s with
  | nil => rfl
  | cons info rules ih =>
    rw [foldl_cons, ih, scanRule_eq]
    cases hclass : ruleClass trunk req info with
    | skipped => simp [rulesOf, hclass, DispatchScan.add]
    | fallback =>
      simp only [rulesOf, filter_cons, hclass, DispatchScan.add, decide_true, if_true,
        reduceCtorEq, decide_false, Bool.false_eq_true, if_false, foldl_cons,
        length_cons, DispatchScan.mk.injEq, true_and]
      omega
    | specific =>
      simp only [rulesOf, filter_cons, hclass, DispatchScan.add, decide_true, if_true,
        reduceCtorEq, decide_false, Bool.false_eq_true, if_false, foldl_cons,
        length_cons, DispatchScan.mk.injEq, true_and, and_true]
      omega

theorem mem_rulesOf {class' : RuleClass} {rules : List SipDispatchRuleInfo} :
    info ∈ rulesOf trunk req class' rules ↔ info ∈ rules ∧ ruleClass trunk req info = class' := by
  rw [rulesOf, mem_filter, decide_eq_true_iff]

end Classes

/-! ## The running best -/

theorem keepBetter_eq_argAux : keepBetter = List.argAux HigherPriority := by
  funext best info
  cases best <;> rfl

theorem mem_of_foldl_keepBetter {rules : List SipDispatchRuleInfo} {o : Option SipDispatchRuleInfo}
    {best : SipDispatchRuleInfo} (h : rules.foldl keepBetter o = some best) :
    best ∈ rules ∨ o = some best := by
  induction rules generalizing o with
  | nil => exact .inr h
  | cons info rules ih =>
    rw [foldl_cons] at h
    rcases ih h with hrest | hhere
    · exact .inl (mem_cons_of_mem info hrest)
    · cases o with
      | none =>
        cases hhere
        exact .inl mem_cons_self
      | some b =>
        rw [keepBetter] at hhere
        split at hhere
        · cases hhere
          exact .inl mem_cons_self
        · exact .inr hhere

/-- **The best of a scan**: there is one exactly if there are rules, it is one of them, and none of
them has higher priority. -/
theorem foldl_keepBetter_spec (rules : List SipDispatchRuleInfo) :
    (rules.foldl keepBetter none = none ↔ rules = []) ∧
    ∀ best, rules.foldl keepBetter none = some best →
      best ∈ rules ∧ ∀ info ∈ rules, hasHigherPriority info best = false := by
  constructor
  · rw [keepBetter_eq_argAux, foldl_argAux_eq_none]
    simp
  · intro best hbest
    refine ⟨(mem_of_foldl_keepBetter hbest).resolve_right (by simp), ?_⟩
    intro info hinfo
    rw [keepBetter_eq_argAux] at hbest
    have hirrefl : Std.Irrefl HigherPriority := inferInstance
    have htrans : IsTrans _ HigherPriority := inferInstance
    exact Bool.eq_false_iff.mpr
      (not_of_mem_foldl_argAux HigherPriority hirrefl htrans hinfo hbest)

/-! ## The rule that is returned -/

/-- **A rule is supported** if it has a room and a PIN. -/
def SupportedRule (info : SipDispatchRuleInfo) : Prop := ∃ parts, getPinAndRoom info = .ok parts

section Optimal

variable (rules : List SipDispatchRuleInfo) (trunk : Option SipInboundTrunkInfo)
  (req : EvaluateSipDispatchRulesRequest)

theorem matchDispatchRule_eq :
    matchDispatchRule rules trunk req =
      if rulesOf trunk req .specific rules = [] ∧ rulesOf trunk req .fallback rules = [] then
        .error .noDispatchMatched
      else .ok (((rulesOf trunk req .specific rules).foldl keepBetter none).or
        ((rulesOf trunk req .fallback rules).foldl keepBetter none)) := by
  rw [matchDispatchRule, foldl_scanRule]
  simp

/-- **No rule is left** if none is eligible. -/
theorem rulesOf_eq_nil_iff :
    (rulesOf trunk req .specific rules = [] ∧ rulesOf trunk req .fallback rules = []) ↔
      ∀ info ∈ rules, ¬ EligibleRule trunk req info := by
  simp only [eq_nil_iff_forall_not_mem, mem_rulesOf, ruleClass_eq_specific_iff,
    ruleClass_eq_fallback_iff]
  constructor
  · rintro ⟨hspecific, hfallback⟩ info hinfo heligible
    by_cases h : SpecificRule trunk info
    · exact hspecific info ⟨hinfo, heligible, h⟩
    · exact hfallback info ⟨hinfo, heligible, h⟩
  · intro h
    exact ⟨fun info hinfo => h info hinfo.1 hinfo.2.1, fun info hinfo => h info hinfo.1 hinfo.2.1⟩

/-- **The returned rule**: the best of the specific rules, or of the fallbacks if there is no
specific one. -/
theorem matchDispatchRule_eq_some {best : Option SipDispatchRuleInfo}
    (h : matchDispatchRule rules trunk req = .ok best) :
    ∃ info, best = some info ∧
      ((rulesOf trunk req .specific rules).foldl keepBetter none = some info ∨
        rulesOf trunk req .specific rules = [] ∧
          (rulesOf trunk req .fallback rules).foldl keepBetter none = some info) := by
  rw [matchDispatchRule_eq] at h
  split at h
  · cases h
  · rename_i hsome
    cases h
    cases hspecific : (rulesOf trunk req .specific rules).foldl keepBetter none with
    | some info => exact ⟨info, rfl, .inl rfl⟩
    | none =>
      have hnil := (foldl_keepBetter_spec _).1.mp hspecific
      cases hfallback : (rulesOf trunk req .fallback rules).foldl keepBetter none with
      | some info => exact ⟨info, rfl, .inr ⟨hnil, rfl⟩⟩
      | none => exact absurd ⟨hnil, (foldl_keepBetter_spec _).1.mp hfallback⟩ hsome

/-- **The class of the returned rule** is its own, and no rule of the class beats it. -/
theorem matchDispatchRule_best {info : SipDispatchRuleInfo}
    (h : matchDispatchRule rules trunk req = .ok (some info)) :
    info ∈ rules ∧ EligibleRule trunk req info ∧
      ((∃ other ∈ rules, EligibleRule trunk req other ∧ SpecificRule trunk other) →
        SpecificRule trunk info) ∧
      ∀ other ∈ rules, EligibleRule trunk req other →
        (SpecificRule trunk other ↔ SpecificRule trunk info) →
        hasHigherPriority other info = false := by
  obtain ⟨info', hinfo', hbest⟩ := matchDispatchRule_eq_some rules trunk req h
  obtain rfl : info = info' := Option.some.inj hinfo'
  rcases hbest with hbest | ⟨hnil, hbest⟩
  · obtain ⟨hmem, hmin⟩ := (foldl_keepBetter_spec _).2 info hbest
    obtain ⟨hin, hclass⟩ := mem_rulesOf.mp hmem
    obtain ⟨heligible, hspecific⟩ := ruleClass_eq_specific_iff.mp hclass
    refine ⟨hin, heligible, fun _ => hspecific, ?_⟩
    intro other hother hother' hsame
    exact hmin other (mem_rulesOf.mpr
      ⟨hother, ruleClass_eq_specific_iff.mpr ⟨hother', hsame.mpr hspecific⟩⟩)
  · obtain ⟨hmem, hmin⟩ := (foldl_keepBetter_spec _).2 info hbest
    obtain ⟨hin, hclass⟩ := mem_rulesOf.mp hmem
    obtain ⟨heligible, hfallback⟩ := ruleClass_eq_fallback_iff.mp hclass
    have hnone : ∀ other ∈ rules, EligibleRule trunk req other → ¬ SpecificRule trunk other := by
      intro other hother hother' hspecific
      have hmem : other ∈ rulesOf trunk req .specific rules :=
        mem_rulesOf.mpr ⟨hother, ruleClass_eq_specific_iff.mpr ⟨hother', hspecific⟩⟩
      simp [hnil] at hmem
    refine ⟨hin, heligible, ?_, ?_⟩
    · rintro ⟨other, hother, hother', hspecific⟩
      exact absurd hspecific (hnone other hother hother')
    · intro other hother hother' hsame
      exact hmin other (mem_rulesOf.mpr
        ⟨hother, ruleClass_eq_fallback_iff.mpr ⟨hother', hnone other hother hother'⟩⟩)

/-- **Dispatch rule selection is optimal.** It fails exactly if no rule is eligible. Otherwise it
returns an eligible rule, which lists the trunk if an eligible rule does, and no eligible rule of
its class has higher priority; the priority is a strict weak order on the supported rules. -/
theorem matchDispatchRule_optimal :
    ((∃ e, matchDispatchRule rules trunk req = .error e) ↔
      ∀ info ∈ rules, ¬ EligibleRule trunk req info) ∧
    ((∃ info ∈ rules, EligibleRule trunk req info) →
      ∃ best ∈ rules, matchDispatchRule rules trunk req = .ok (some best) ∧
        EligibleRule trunk req best ∧
        ((∃ info ∈ rules, EligibleRule trunk req info ∧ SpecificRule trunk info) →
          SpecificRule trunk best) ∧
        ∀ info ∈ rules, EligibleRule trunk req info →
          (SpecificRule trunk info ↔ SpecificRule trunk best) →
          hasHigherPriority info best = false) ∧
    IsStrictWeakOrder {info : SipDispatchRuleInfo // SupportedRule info}
      (fun a b => hasHigherPriority a.1 b.1) := by
  refine ⟨?_, ?_, ?_⟩
  · rw [← rulesOf_eq_nil_iff, matchDispatchRule_eq]
    constructor
    · rintro ⟨e, he⟩
      by_contra hsome
      simp [if_neg hsome] at he
    · intro hnil
      exact ⟨_, if_pos hnil⟩
  · rintro ⟨info, hinfo, heligible⟩
    cases hresult : matchDispatchRule rules trunk req with
    | error e =>
      rw [matchDispatchRule_eq] at hresult
      split at hresult
      · rename_i hnil
        exact absurd heligible ((rulesOf_eq_nil_iff rules trunk req).mp hnil info hinfo)
      · cases hresult
    | ok best =>
      obtain ⟨best, rfl, -⟩ := matchDispatchRule_eq_some rules trunk req hresult
      obtain ⟨hin, hbest⟩ := matchDispatchRule_best rules trunk req hresult
      exact ⟨best, hin, rfl, hbest⟩
  · exact inferInstanceAs (IsStrictWeakOrder _ (Order.Preimage Subtype.val HigherPriority))

end Optimal

end LivekitVoice
