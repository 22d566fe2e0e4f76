import Mathlib.Data.List.Nodup
import LivekitVoice.Sip.Evaluate

/-! # The preferred dispatch rule

Which rule decides about a call, said without the loop: among the eligible rules of the deciding
class it is the first one that none has higher priority than. Priority compares the kind of a rule
and its room only, so several rules may be best, and then their order in the store decides. That
order is the one of a hash map. The number filters of the rules are compared with the deprecated
numbers of the request, and not with those of its `call`.

* **`matchDispatchRule_eq_firstBest`** — the loop returns the first of the best rules,
* **`dispatch_order_iff`** — when every order of the store gives the same dispatch,
* **`legacy_form_iff`** — when a request and its form with a `call` get the same answer. -/

namespace LivekitVoice

open List Text

/-! ## The stored rules -/

/-- **The rules in the store**, in the order in which it lists them. They are the values of a hash
that `store_sip_dispatch_rule` keeps under their ids. -/
structure StoredRules where
  rules : List SipDispatchRuleInfo
  nodup : (rules.map SipDispatchRuleInfo.sipDispatchRuleId).Nodup

namespace StoredRules

/-- A store without rules. -/
def empty : StoredRules := ⟨[], nodup_nil⟩

/-- `delete_sip_dispatch_rule`. -/
def delete (stored : StoredRules) (id : String) : StoredRules where
  rules := stored.rules.filter fun info => info.sipDispatchRuleId != id
  nodup := stored.nodup.sublist (filter_sublist.map _)

/-- `store_sip_dispatch_rule`: the entry under the id of the rule is replaced. -/
def store (stored : StoredRules) (rule : SipDispatchRuleInfo) : StoredRules where
  rules := rule :: (stored.delete rule.sipDispatchRuleId).rules
  nodup := by
    rw [map_cons, nodup_cons]
    refine ⟨?_, (stored.delete _).nodup⟩
    simp [delete]

theorem eq_of_id {stored : StoredRules} {info₁ info₂ : SipDispatchRuleInfo}
    (h₁ : info₁ ∈ stored.rules) (h₂ : info₂ ∈ stored.rules)
    (hid : info₁.sipDispatchRuleId = info₂.sipDispatchRuleId) : info₁ = info₂ :=
  inj_on_of_nodup_map stored.nodup h₁ h₂ hid

end StoredRules

/-- A store whose list of rules is answered by `answer`. -/
def SipStore.listing (store : SipStore) (answer : Except String StoredRules) : SipStore :=
  { store with listSipDispatchRules := answer.map StoredRules.rules }

theorem matchTrunkFor_listing [Net.IpNetParser] (store : SipStore)
    (answer : Except String StoredRules) (trunkId : String) (call : SipCall) :
    matchTrunkFor (store.listing answer) trunkId call = matchTrunkFor store trunkId call := rfl

/-! ## Best rules -/

section Best

variable (rules : List SipDispatchRuleInfo) (trunk : Option SipInboundTrunkInfo)
  (req : EvaluateSipDispatchRulesRequest)

/-- **A rule of the deciding class**: it is eligible, and lists the trunk if an eligible rule
does. -/
@[mk_iff] structure DecidingRule (info : SipDispatchRuleInfo) : Prop where
  mem : info ∈ rules
  eligible : EligibleRule trunk req info
  specific : (∃ other ∈ rules, EligibleRule trunk req other ∧ SpecificRule trunk other) →
    SpecificRule trunk info

/-- **A rule is best** if it is of the deciding class and no rule of that class has a smaller
key. -/
structure BestRule (info : SipDispatchRuleInfo) : Prop where
  deciding : DecidingRule rules trunk req info
  least : ∀ other, DecidingRule rules trunk req other → ruleKey info ≤ ruleKey other

open Classical in
/-- The rules of the deciding class. -/
noncomputable def decidingRules : List SipDispatchRuleInfo :=
  rules.filter fun info => DecidingRule rules trunk req info

/-- **The first of the best rules**: the first of the deciding class with the least key. -/
noncomputable def firstBest : Option SipDispatchRuleInfo :=
  (decidingRules rules trunk req).argmin ruleKey

variable {rules trunk req} {info : SipDispatchRuleInfo}

theorem mem_decidingRules :
    info ∈ decidingRules rules trunk req ↔ DecidingRule rules trunk req info := by
  simp only [decidingRules, mem_filter, decide_eq_true_iff]
  exact ⟨fun h => h.2, fun h => ⟨h.mem, h⟩⟩

theorem bestRule_of_firstBest (h : firstBest rules trunk req = some info) :
    BestRule rules trunk req info where
  deciding := mem_decidingRules.mp (argmin_mem h)
  least _ hother := le_of_mem_argmin (mem_decidingRules.mpr hother) h

/-- There is no first best rule if there is no best one. -/
theorem firstBest_eq_none_iff :
    firstBest rules trunk req = none ↔ ∀ info, ¬ BestRule rules trunk req info := by
  constructor
  · intro hnone info hbest
    have hmem := mem_decidingRules.mpr hbest.deciding
    simp [argmin_eq_none.mp hnone] at hmem
  · intro hnone
    rw [Option.eq_none_iff_forall_ne_some]
    exact fun info h => hnone info (bestRule_of_firstBest h)

theorem BestRule.perm {rules' : List SipDispatchRuleInfo} (hperm : rules'.Perm rules)
    (h : BestRule rules' trunk req info) : BestRule rules trunk req info := by
  have hdeciding {other} :
      DecidingRule rules' trunk req other ↔ DecidingRule rules trunk req other := by
    simp only [decidingRule_iff, hperm.mem_iff]
  exact ⟨hdeciding.mp h.deciding, fun other hother => h.least other (hdeciding.mpr hother)⟩

theorem firstBest_cons (h : BestRule (info :: rules) trunk req info) :
    firstBest (info :: rules) trunk req = some info := by
  classical
  rw [firstBest, decidingRules, filter_cons_of_pos (by simpa using h.deciding),
    argmin_cons]
  cases hother : (rules.filter fun other =>
      decide (DecidingRule (info :: rules) trunk req other)).argmin ruleKey with
  | none => rfl
  | some other =>
    -- no other rule of the class has a smaller key
    have hdeciding : DecidingRule (info :: rules) trunk req other := by
      simpa using (mem_filter.mp (argmin_mem hother)).2
    exact if_neg (not_lt.mpr (h.least other hdeciding))

end Best

/-! ## The loop returns the first of the best -/

section Loop

variable (rules : List SipDispatchRuleInfo) (trunk : Option SipInboundTrunkInfo)
  (req : EvaluateSipDispatchRulesRequest)

/-- **The deciding class** is that of the specific rules, and that of the fallbacks if there is no
specific one. -/
theorem decidingRules_eq :
    decidingRules rules trunk req =
      if rulesOf trunk req .specific rules = [] then rulesOf trunk req .fallback rules
      else rulesOf trunk req .specific rules := by
  split
  · next hnil =>
    have hnone : ∀ other ∈ rules, EligibleRule trunk req other → ¬ SpecificRule trunk other := by
      intro other hother heligible hspecific
      have hmem : other ∈ rulesOf trunk req .specific rules :=
        mem_rulesOf.mpr ⟨hother, ruleClass_eq_specific_iff.mpr ⟨heligible, hspecific⟩⟩
      simp [hnil] at hmem
    refine filter_congr fun info hinfo => decide_eq_decide.mpr ?_
    rw [ruleClass_eq_fallback_iff]
    constructor
    · intro h
      exact ⟨h.eligible, hnone info hinfo h.eligible⟩
    · rintro ⟨heligible, -⟩
      refine ⟨hinfo, heligible, ?_⟩
      rintro ⟨other, hother, hother', hspecific⟩
      exact absurd hspecific (hnone other hother hother')
  · next hsome =>
    obtain ⟨other, hother⟩ := exists_mem_of_ne_nil _ hsome
    obtain ⟨hmem, hclass⟩ := mem_rulesOf.mp hother
    have hspecific := ruleClass_eq_specific_iff.mp hclass
    refine filter_congr fun info hinfo => decide_eq_decide.mpr ?_
    rw [ruleClass_eq_specific_iff]
    constructor
    · intro h
      exact ⟨h.eligible, h.specific ⟨other, hmem, hspecific⟩⟩
    · rintro ⟨heligible, hlists⟩
      exact ⟨hinfo, heligible, fun _ => hlists⟩

theorem foldl_keepBetter_eq_argmin (l : List SipDispatchRuleInfo) :
    l.foldl keepBetter none = l.argmin ruleKey := by
  have hturn : keepBetter = List.argAux fun r1 r2 => ruleKey r1 < ruleKey r2 := by
    funext best info
    cases best with
    | none => rfl
    | some b => exact if_congr hasHigherPriority_iff rfl rfl
  rw [hturn]
  rfl

/-- **`match_dispatch_rule` returns the first of the best rules**, and fails if there is none. -/
theorem matchDispatchRule_eq_firstBest :
    matchDispatchRule rules trunk req =
      match firstBest rules trunk req with
      | some info => .ok (some info)
      | none => .error .noDispatchMatched := by
  rw [matchDispatchRule_eq, foldl_keepBetter_eq_argmin, foldl_keepBetter_eq_argmin,
    firstBest, decidingRules_eq]
  by_cases hspecific : rulesOf trunk req .specific rules = []
  · rw [if_pos hspecific, hspecific]
    cases hfallback : (rulesOf trunk req .fallback rules).argmin ruleKey with
    | none => exact if_pos ⟨rfl, argmin_eq_none.mp hfallback⟩
    | some info =>
      refine if_neg fun hnil => ?_
      simp [hnil.2] at hfallback
  · rw [if_neg hspecific, if_neg fun hnil => hspecific hnil.1]
    cases hbest : (rulesOf trunk req .specific rules).argmin ruleKey with
    | none => exact absurd (argmin_eq_none.mp hbest) hspecific
    | some info => rfl

end Loop

/-! ## The answer under a rule -/

/-- The room of a rule gets a random end. -/
def SipDispatchRuleInfo.randomRoom (info : SipDispatchRuleInfo) : Bool :=
  match info.rule.bind SipDispatchRule.rule with
  | some (.individual _ _ noRandomness) => !noRandomness
  | some (.callee _ _ randomize) => randomize
  | some (.direct _ _) | none => false

/-- **A caller that cannot be shown**: the rule hides the number, and the digest or the number is
not cut at a character. The handler panics. -/
def UnshowableCaller (sha256Hex : String → String) (call : SipCall) (info : SipDispatchRuleInfo) :
    Prop :=
  info.hidePhoneNumber ∧
    (sliceTo (sha256Hex call.fromUser) 8 = none ∨ maskNumber call.fromUser = none)

section Answer

variable {sha256Hex : String → String} {suffix : String} {trunk : Option SipInboundTrunkInfo}
  {info : SipDispatchRuleInfo} {req : EvaluateSipDispatchRulesRequest} {call : SipCall}
  {trunkId : String}

theorem callerOf_eq_none_iff :
    callerOf sha256Hex info req call trunkId = none ↔ UnshowableCaller sha256Hex call info := by
  unfold callerOf UnshowableCaller
  cases info.hidePhoneNumber with
  | false => simp
  | true =>
    cases hdigest : sliceTo (sha256Hex call.fromUser) 8 with
    | _ => simp

/-- **An eligible rule is answered by**, unless the caller cannot be shown: the room and the PIN are
there, and the PIN is the right one. -/
theorem evaluateDispatchRule_of_eligible (heligible : EligibleRule trunk req info)
    (hshow : ¬ UnshowableCaller sha256Hex call info) :
    ∃ resp, evaluateDispatchRule sha256Hex suffix trunk info req call trunkId = .ok resp := by
  obtain ⟨room, rulePin, hpin, haccepts⟩ := heligible.pin
  have hcaller : callerOf sha256Hex info req call trunkId ≠ none := fun h =>
    hshow (callerOf_eq_none_iff.mp h)
  obtain ⟨caller, hcaller⟩ := Option.ne_none_iff_exists'.mp hcaller
  have hright : ¬ (rulePin ≠ "" ∧ req.pin ≠ "" ∧ rulePin ≠ req.pin) := by
    rintro ⟨hpinned, hsent, hother⟩
    rw [AcceptsPin] at haccepts
    split at haccepts
    · exact hpinned haccepts
    · exact haccepts.elim hsent fun h => hother h.2
  simp only [evaluateDispatchRule, hcaller, hpin]
  split
  · exact ⟨_, rfl⟩
  · next hasked =>
    rw [if_neg fun h => hright ⟨h.1, fun hempty => hasked ⟨h.1, hempty⟩, h.2⟩]
    exact ⟨_, rfl⟩

end Answer

/-- **The same dispatch**: the same error, or the same decision under the same rule, with the same
room unless the room of that rule is random. -/
def SameDispatch (rules : List SipDispatchRuleInfo) :
    Except Fault EvaluateSipDispatchRulesResponse →
      Except Fault EvaluateSipDispatchRulesResponse → Prop
  | .ok resp₁, .ok resp₂ =>
    resp₁.result = resp₂.result ∧ resp₁.sipDispatchRuleId = resp₂.sipDispatchRuleId ∧
      ∀ info ∈ rules, info.sipDispatchRuleId = resp₁.sipDispatchRuleId →
        info.randomRoom = false → resp₁.roomName = resp₂.roomName
  | .error e₁, .error e₂ => e₁ = e₂
  | .ok _, .error _ => False
  | .error _, .ok _ => False

variable {info : SipDispatchRuleInfo}

/-- **The suffix of a room name** does not change which rule is dispatched. -/
theorem sameDispatch_suffix {stored : StoredRules} (hmem : info ∈ stored.rules)
    (sha256Hex : String → String) (suffix₁ suffix₂ : String) (trunk : Option SipInboundTrunkInfo)
    (req : EvaluateSipDispatchRulesRequest) (call : SipCall) (trunkId : String) :
    SameDispatch stored.rules
      (evaluateDispatchRule sha256Hex suffix₁ trunk info req call trunkId)
      (evaluateDispatchRule sha256Hex suffix₂ trunk info req call trunkId) := by
  unfold evaluateDispatchRule
  cases callerOf sha256Hex info req call trunkId with
  | none => exact rfl
  | some caller =>
    cases getPinAndRoom info with
    | error e => exact rfl
    | ok parts =>
      obtain ⟨room, rulePin⟩ := parts
      by_cases hask : rulePin ≠ "" ∧ req.pin = ""
      · simp only [if_pos hask]
        exact ⟨rfl, rfl, fun _ _ _ _ => rfl⟩
      · by_cases hwrong : rulePin ≠ "" ∧ rulePin ≠ req.pin
        · simp only [if_neg hask, if_pos hwrong]
          exact rfl
        · simp only [if_neg hask, if_neg hwrong]
          refine ⟨rfl, rfl, fun other hother hid hrandom => ?_⟩
          -- the rule of that id is the one that was evaluated
          obtain rfl : other = info := stored.eq_of_id hother hmem hid
          -- the end of the room is used for random rooms only
          unfold SipDispatchRuleInfo.randomRoom at hrandom
          unfold roomOf
          cases hrule : other.rule.bind SipDispatchRule.rule with
          | none => rfl
          | some rule =>
            rw [hrule] at hrandom
            cases rule with
            | direct roomName pin => rfl
            | individual roomPrefix pin noRandomness =>
              obtain rfl : noRandomness := by simpa using hrandom
              rfl
            | callee roomPrefix pin randomize =>
              obtain rfl : randomize = false := hrandom
              rfl

/-! ## The handler, by the first of the best rules -/

section Handler

variable (sha256Hex : String → String) (suffix : String)

/-- **The answer to a call**, by the rule that decides about it, if there is one. -/
def answerUnder (trunk : Option SipInboundTrunkInfo) (req : EvaluateSipDispatchRulesRequest)
    (call : SipCall) : Option SipDispatchRuleInfo → Except Fault EvaluateSipDispatchRulesResponse
  | some info =>
    evaluateDispatchRule sha256Hex suffix trunk info req call
      ((trunk.map SipInboundTrunkInfo.sipTrunkId).getD "")
  | none =>
    .ok
      { sipTrunkId := (trunk.map SipInboundTrunkInfo.sipTrunkId).getD ""
        result := .drop }

variable {sha256Hex suffix} {store : SipStore} {req : EvaluateSipDispatchRulesRequest}

theorem evaluateSipDispatchRules_of_trunk_error [Net.IpNetParser] {e : SipError}
    (answer : Except String StoredRules)
    (h : matchTrunkFor store req.sipTrunkId (sipCallFromDispatch req) = .error e) :
    evaluateSipDispatchRules sha256Hex suffix (store.listing answer) req = .error (.error e) := by
  simp [evaluateSipDispatchRules, matchTrunkFor_listing, h]

variable {trunk : Option SipInboundTrunkInfo}

theorem evaluateSipDispatchRules_of_store_error [Net.IpNetParser]
    (h : matchTrunkFor store req.sipTrunkId (sipCallFromDispatch req) = .ok trunk) (e : String) :
    evaluateSipDispatchRules sha256Hex suffix (store.listing (.error e)) req =
      .error (.error (.store e)) := by
  have hrules : (store.listing (.error e)).listSipDispatchRules = .error e := rfl
  simp [evaluateSipDispatchRules, matchTrunkFor_listing, h, hrules]

/-- **`evaluate_sip_dispatch_rules` answers by the first of the best rules.** -/
theorem evaluateSipDispatchRules_eq [Net.IpNetParser]
    (h : matchTrunkFor store req.sipTrunkId (sipCallFromDispatch req) = .ok trunk)
    (stored : StoredRules) :
    evaluateSipDispatchRules sha256Hex suffix (store.listing (.ok stored)) req =
      answerUnder sha256Hex suffix trunk req (sipCallFromDispatch req)
        (firstBest stored.rules trunk req) := by
  have hrules : (store.listing (.ok stored)).listSipDispatchRules = .ok stored.rules := rfl
  simp only [evaluateSipDispatchRules, matchTrunkFor_listing, h, hrules,
    matchDispatchRule_eq_firstBest]
  cases firstBest stored.rules trunk req with
  | _ => rfl

theorem answerUnder_of_unshowable {call : SipCall} {info : SipDispatchRuleInfo}
    (h : UnshowableCaller sha256Hex call info) :
    answerUnder sha256Hex suffix trunk req call (some info) = .error .panicked :=
  show evaluateDispatchRule .. = _ by rw [evaluateDispatchRule, callerOf_eq_none_iff.mpr h]

/-- **Answers tell the rules apart**, as far as they are answers and not panics. -/
theorem rule_eq_of_sameDispatch {stored : StoredRules} {req₁ req₂ : EvaluateSipDispatchRulesRequest}
    {call : SipCall} {o₁ o₂ : Option SipDispatchRuleInfo}
    (h₁ : ∀ info, o₁ = some info → info ∈ stored.rules ∧ EligibleRule trunk req₁ info)
    (h₂ : ∀ info, o₂ = some info → info ∈ stored.rules ∧ EligibleRule trunk req₂ info)
    (hsame : SameDispatch stored.rules (answerUnder sha256Hex suffix trunk req₁ call o₁)
      (answerUnder sha256Hex suffix trunk req₂ call o₂)) :
    o₁ = o₂ ∨ ∃ info₁ info₂, o₁ = some info₁ ∧ o₂ = some info₂ ∧
      UnshowableCaller sha256Hex call info₁ ∧ UnshowableCaller sha256Hex call info₂ := by
  -- a panic, or an answer that drops the call or names the rule
  have hcases {req : EvaluateSipDispatchRulesRequest} {o : Option SipDispatchRuleInfo}
      (h : ∀ info, o = some info → info ∈ stored.rules ∧ EligibleRule trunk req info) :
      (∃ info, o = some info ∧ UnshowableCaller sha256Hex call info ∧
        answerUnder sha256Hex suffix trunk req call o = .error .panicked) ∨
      ∃ resp, answerUnder sha256Hex suffix trunk req call o = .ok resp ∧
        (o = none ∧ resp.result = .drop ∨ resp.result ≠ .drop ∧ ∃ info ∈ stored.rules,
          o = some info ∧ resp.sipDispatchRuleId = info.sipDispatchRuleId) := by
    cases o with
    | none => exact .inr ⟨_, rfl, .inl ⟨rfl, rfl⟩⟩
    | some info =>
      obtain ⟨hmem, heligible⟩ := h info rfl
      by_cases hshow : UnshowableCaller sha256Hex call info
      · exact .inl ⟨info, rfl, hshow, answerUnder_of_unshowable hshow⟩
      · obtain ⟨resp, hresp⟩ := evaluateDispatchRule_of_eligible heligible hshow
        obtain ⟨hid, room, rulePin, -, ⟨-, hresult⟩ | ⟨-, hresult, -⟩⟩ :=
          evaluateDispatchRule_ok hresp
        all_goals exact .inr ⟨resp, hresp, .inr ⟨by simp [hresult], info, hmem, rfl, hid⟩⟩
  rcases hcases h₁ with ⟨info₁, heq₁, hshow₁, hpanic₁⟩ | ⟨resp₁, hresp₁, hkind₁⟩
  · rcases hcases h₂ with ⟨info₂, heq₂, hshow₂, -⟩ | ⟨resp₂, hresp₂, -⟩
    · exact .inr ⟨info₁, info₂, heq₁, heq₂, hshow₁, hshow₂⟩
    · rw [hpanic₁, hresp₂] at hsame
      exact hsame.elim
  · rcases hcases h₂ with ⟨info₂, -, -, hpanic₂⟩ | ⟨resp₂, hresp₂, hkind₂⟩
    · rw [hresp₁, hpanic₂] at hsame
      exact hsame.elim
    · rw [hresp₁, hresp₂] at hsame
      obtain ⟨hresult, hids, -⟩ := hsame
      rcases hkind₁ with ⟨rfl, hdrop₁⟩ | ⟨hnot₁, info₁, hmem₁, rfl, hid₁⟩ <;>
        rcases hkind₂ with ⟨rfl, hdrop₂⟩ | ⟨hnot₂, info₂, hmem₂, rfl, hid₂⟩
      · exact .inl rfl
      · exact absurd (hresult.symm.trans hdrop₁) hnot₂
      · exact absurd (hresult.trans hdrop₂) hnot₁
      · rw [hid₁, hid₂] at hids
        exact .inl (congrArg some (stored.eq_of_id hmem₁ hmem₂ hids))

theorem eligible_of_firstBest {rules : List SipDispatchRuleInfo} {info : SipDispatchRuleInfo}
    (h : firstBest rules trunk req = some info) : info ∈ rules ∧ EligibleRule trunk req info :=
  let hdeciding := (bestRule_of_firstBest h).deciding
  ⟨hdeciding.mem, hdeciding.eligible⟩

end Handler

/-! ## The order of the store -/

/-- The rules with a stored rule moved to the front. -/
def StoredRules.lead (stored : StoredRules) (info : SipDispatchRuleInfo)
    (hmem : info ∈ stored.rules) : StoredRules where
  rules := info :: stored.rules.erase info
  nodup := ((perm_cons_erase hmem).map _).nodup_iff.mp stored.nodup

theorem StoredRules.lead_perm (stored : StoredRules) (hmem : info ∈ stored.rules) :
    (stored.lead info hmem).rules.Perm stored.rules :=
  (perm_cons_erase hmem).symm

/-- **Some order of the store prefers a best rule**: the one that lists it first. -/
theorem firstBest_lead {stored : StoredRules} {trunk : Option SipInboundTrunkInfo}
    {req : EvaluateSipDispatchRulesRequest} (h : BestRule stored.rules trunk req info) :
    firstBest (stored.lead info h.deciding.mem).rules trunk req = some info :=
  firstBest_cons (h.perm (stored.lead_perm h.deciding.mem).symm)

/-- **When dispatch does not depend on the order of the store.** Any two orders of the stored rules
give the same decision, rule and room, apart from random ends of rooms, exactly if no two rules are
best at once; rules under which the caller cannot be shown all end in a panic. -/
theorem dispatch_order_iff [Net.IpNetParser] (sha256Hex : String → String) (store : SipStore)
    (stored : StoredRules) (req : EvaluateSipDispatchRulesRequest) :
    (∀ stored₁ stored₂ : StoredRules, stored₁.rules.Perm stored.rules →
      stored₂.rules.Perm stored.rules → ∀ suffix₁ suffix₂,
        SameDispatch stored.rules
          (evaluateSipDispatchRules sha256Hex suffix₁ (store.listing (.ok stored₁)) req)
          (evaluateSipDispatchRules sha256Hex suffix₂ (store.listing (.ok stored₂)) req)) ↔
    ∀ trunk, matchTrunkFor store req.sipTrunkId (sipCallFromDispatch req) = .ok trunk →
      ∀ info₁ info₂, BestRule stored.rules trunk req info₁ →
        BestRule stored.rules trunk req info₂ →
          info₁ = info₂ ∨
            UnshowableCaller sha256Hex (sipCallFromDispatch req) info₁ ∧
              UnshowableCaller sha256Hex (sipCallFromDispatch req) info₂ := by
  constructor
  · intro hsame trunk htrunk info₁ info₂ h₁ h₂
    have hdispatch := hsame (stored.lead info₁ h₁.deciding.mem)
      (stored.lead info₂ h₂.deciding.mem) (stored.lead_perm _) (stored.lead_perm _) "" ""
    rw [evaluateSipDispatchRules_eq htrunk, evaluateSipDispatchRules_eq htrunk, firstBest_lead h₁,
      firstBest_lead h₂] at hdispatch
    have hstored : ∀ {info}, BestRule stored.rules trunk req info →
        ∀ info', some info = some info' →
          info' ∈ stored.rules ∧ EligibleRule trunk req info' := by
      rintro info hbest _ ⟨⟩
      exact ⟨hbest.deciding.mem, hbest.deciding.eligible⟩
    rcases rule_eq_of_sameDispatch (hstored h₁) (hstored h₂) hdispatch with
      heq | ⟨info₁', info₂', heq₁, heq₂, hshow⟩
    · exact .inl (Option.some.inj heq)
    · cases heq₁
      cases heq₂
      exact .inr hshow
  · intro hunique stored₁ stored₂ hperm₁ hperm₂ suffix₁ suffix₂
    cases htrunk : matchTrunkFor store req.sipTrunkId (sipCallFromDispatch req) with
    | error e =>
      rw [evaluateSipDispatchRules_of_trunk_error _ htrunk,
        evaluateSipDispatchRules_of_trunk_error _ htrunk]
      exact rfl
    | ok trunk =>
      rw [evaluateSipDispatchRules_eq htrunk, evaluateSipDispatchRules_eq htrunk]
      cases h₁ : firstBest stored₁.rules trunk req with
      | none =>
        have h₂ : firstBest stored₂.rules trunk req = none :=
          firstBest_eq_none_iff.mpr fun info hbest =>
            firstBest_eq_none_iff.mp h₁ info (hbest.perm (hperm₂.trans hperm₁.symm))
        rw [h₂]
        exact ⟨rfl, rfl, fun _ _ _ _ => rfl⟩
      | some info₁ =>
        have hbest₁ := (bestRule_of_firstBest h₁).perm hperm₁
        cases h₂ : firstBest stored₂.rules trunk req with
        | none => exact absurd (hbest₁.perm hperm₂.symm) (firstBest_eq_none_iff.mp h₂ info₁)
        | some info₂ =>
          have hbest₂ := (bestRule_of_firstBest h₂).perm hperm₂
          rcases hunique trunk htrunk info₁ info₂ hbest₁ hbest₂ with rfl | ⟨hshow₁, hshow₂⟩
          · exact sameDispatch_suffix hbest₁.deciding.mem ..
          · rw [answerUnder_of_unshowable hshow₁, answerUnder_of_unshowable hshow₂]
            exact rfl

/-- A store without trunks. -/
def SipStore.bare : SipStore where
  loadSipInboundTrunk _ := .ok none
  listSipInboundTrunks := .ok []
  listSipDispatchRules := .ok []

/-- Two rules for one room. -/
def twoRules : StoredRules :=
  (StoredRules.empty.store
    { sipDispatchRuleId := "SDR_b", rule := some ⟨some (.direct "support" "")⟩ }).store
    { sipDispatchRuleId := "SDR_a", rule := some ⟨some (.direct "support" "")⟩ }

attribute [local instance] Net.cidrParser

/-- **The order decides**: with two rules for one room, the caller gets the rule, and with it the
metadata and attributes, that the hash map lists first. -/
theorem dispatch_depends_on_order :
    ((evaluateSipDispatchRules sampleDigest ""
        (SipStore.bare.listing (.ok twoRules))
        { callingNumber := "+15550100" }).toOption.map (·.sipDispatchRuleId)) = some "SDR_a" ∧
    ((evaluateSipDispatchRules sampleDigest ""
        (SipStore.bare.listing (.ok ⟨twoRules.rules.reverse, by decide⟩))
        { callingNumber := "+15550100" }).toOption.map (·.sipDispatchRuleId)) = some "SDR_b" := by
  decide +kernel

/-! ## Requests without and with a call -/

/-- **The new form of a request**: its call is set, and the deprecated numbers, hosts and address
are left out. -/
def callForm (req : EvaluateSipDispatchRulesRequest) : EvaluateSipDispatchRulesRequest :=
  { req with
    call := some (sipCallFromDispatch req)
    callingNumber := ""
    callingHost := ""
    calledNumber := ""
    calledHost := ""
    srcAddress := "" }

theorem answerUnder_callForm (sha256Hex : String → String) (suffix : String)
    (trunk : Option SipInboundTrunkInfo) (req : EvaluateSipDispatchRulesRequest) (call : SipCall)
    (o : Option SipDispatchRuleInfo) :
    answerUnder sha256Hex suffix trunk (callForm req) call o =
      answerUnder sha256Hex suffix trunk req call o := by
  cases o <;> rfl

/-- **When a request and its new form get the same answer.** The rule that is preferred for the
numbers of the request has to be the one that is preferred if the number filters see no number at
all. -/
theorem legacy_form_iff [Net.IpNetParser] (sha256Hex : String → String) (store : SipStore)
    (answer : Except String StoredRules) (req : EvaluateSipDispatchRulesRequest) :
    (∀ suffix, evaluateSipDispatchRules sha256Hex suffix (store.listing answer) (callForm req) =
      evaluateSipDispatchRules sha256Hex suffix (store.listing answer) req) ↔
    ∀ trunk stored, matchTrunkFor store req.sipTrunkId (sipCallFromDispatch req) = .ok trunk →
      answer = .ok stored →
        firstBest stored.rules trunk (callForm req) = firstBest stored.rules trunk req ∨
          ∃ info₁ info₂, firstBest stored.rules trunk (callForm req) = some info₁ ∧
            firstBest stored.rules trunk req = some info₂ ∧
            UnshowableCaller sha256Hex (sipCallFromDispatch req) info₁ ∧
            UnshowableCaller sha256Hex (sipCallFromDispatch req) info₂ := by
  cases htrunk : matchTrunkFor store req.sipTrunkId (sipCallFromDispatch req) with
  | error e =>
    refine iff_of_true (fun suffix => ?_) fun trunk stored hok => by cases hok
    rw [evaluateSipDispatchRules_of_trunk_error answer htrunk]
    exact evaluateSipDispatchRules_of_trunk_error answer htrunk
  | ok trunk =>
    have htrunk' : matchTrunkFor store (callForm req).sipTrunkId
        (sipCallFromDispatch (callForm req)) = .ok trunk := htrunk
    cases answer with
    | error e =>
      refine iff_of_true (fun suffix => ?_) fun trunk stored _ hok => by cases hok
      rw [evaluateSipDispatchRules_of_store_error htrunk]
      exact evaluateSipDispatchRules_of_store_error htrunk' e
    | ok stored =>
      have hnew : ∀ suffix,
          evaluateSipDispatchRules sha256Hex suffix (store.listing (.ok stored))
            (callForm req) =
          answerUnder sha256Hex suffix trunk req (sipCallFromDispatch req)
            (firstBest stored.rules trunk (callForm req)) := by
        intro suffix
        -- both forms describe the same call
        rw [evaluateSipDispatchRules_eq htrunk' stored, answerUnder_callForm]
        rfl
      constructor
      · rintro hsame _ _ ⟨⟩ ⟨⟩
        have hanswers : answerUnder sha256Hex "" trunk (callForm req) (sipCallFromDispatch req)
            (firstBest stored.rules trunk (callForm req)) =
          answerUnder sha256Hex "" trunk req (sipCallFromDispatch req)
            (firstBest stored.rules trunk req) := by
          rw [answerUnder_callForm, ← hnew, ← evaluateSipDispatchRules_eq htrunk]
          exact hsame ""
        have hrefl {out₁ out₂} (h : out₁ = out₂) : SameDispatch stored.rules out₁ out₂ := by
          subst h
          cases out₁ with
          | error e => exact rfl
          | ok resp => exact ⟨rfl, rfl, fun _ _ _ _ => rfl⟩
        exact rule_eq_of_sameDispatch (fun info h => eligible_of_firstBest h)
          (fun info h => eligible_of_firstBest h) (hrefl hanswers)
      · intro hpreferred suffix
        rw [hnew, evaluateSipDispatchRules_eq htrunk]
        rcases hpreferred trunk stored rfl rfl with heq | ⟨info₁, info₂, h₁, h₂, hshow₁, hshow₂⟩
        · rw [heq]
        · rw [h₁, h₂, answerUnder_of_unshowable hshow₁, answerUnder_of_unshowable hshow₂]

/-- A rule for one called number. -/
def numberedRules : StoredRules :=
  StoredRules.empty.store
    { sipDispatchRuleId := "SDR_sales", rule := some ⟨some (.direct "sales" "")⟩,
      numbers := ["+15550111"] }

/-- **The new form is dropped** where the old one was accepted: the rule is for one called number,
and the number is looked for in the deprecated field. -/
theorem callForm_dropped :
    ((evaluateSipDispatchRules sampleDigest ""
        (SipStore.bare.listing (.ok numberedRules))
        { callingNumber := "+15550100", calledNumber := "+15550111" }).toOption.map
          fun resp => (resp.result, resp.roomName)) = some (.accept, "sales") ∧
    ((evaluateSipDispatchRules sampleDigest ""
        (SipStore.bare.listing (.ok numberedRules))
        (callForm { callingNumber := "+15550100", calledNumber := "+15550111" })).toOption.map
          fun resp => (resp.result, resp.roomName)) = some (.drop, "") := by
  decide +kernel

end LivekitVoice
