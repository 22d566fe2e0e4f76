import Mathlib.Data.List.DropRight
import LivekitVoice.Sip.Evaluate

/-! # Hidden phone numbers

Under a rule that hides phone numbers, `evaluate_dispatch_rule` shows the last bytes of the user of
the caller, four of them or one if there are at most four, and the first eight digits of its digest.
The cut is by bytes: it panics inside a character, and before the only byte of no text at all.

* **`maskNumber_eq_some_iff`** — what is shown: last characters with exactly so many bytes,
* **`hidden_number_iff`** — when the evaluation depends on the caller by what is shown only. -/

namespace LivekitVoice

open Text

/-! ## The shown part of a number -/

/-- The bytes of a hidden number that are shown. -/
def shownBytes (number : String) : Nat := if number.utf8ByteSize ≤ 4 then 1 else 4

/-- **A number that can be hidden**: its last characters take exactly the bytes that are shown. -/
def Maskable (number : String) : Prop :=
  ∃ shown, shown <:+ number.toList ∧ byteLength shown = shownBytes number

/-- **What is shown of a hidden number**: last characters of it, with so many bytes. -/
theorem maskNumber_eq_some_iff {number shown : String} :
    maskNumber number = some shown ↔
      shown.toList <:+ number.toList ∧ byteLength shown.toList = shownBytes number := by
  have hsize : number.utf8ByteSize = byteLength number.toList := utf8ByteSize_eq_byteLength number
  have hmask : maskNumber number =
      if number.utf8ByteSize < shownBytes number then none
      else sliceFrom number (number.utf8ByteSize - shownBytes number) := rfl
  rw [hmask]
  constructor
  · intro h
    split at h
    · cases h
    · next hle =>
      obtain ⟨hidden, hparts, hlen⟩ := sliceFrom_eq_some_iff.mp h
      have hbytes := byteLength_append hidden shown.toList
      rw [← hparts] at hbytes
      exact ⟨⟨hidden, hparts.symm⟩, by omega⟩
  · rintro ⟨⟨hidden, hparts⟩, hlen⟩
    have hbytes := byteLength_append hidden shown.toList
    rw [hparts] at hbytes
    rw [if_neg (by omega)]
    exact sliceFrom_eq_some_iff.mpr ⟨hidden, hparts.symm, by omega⟩

/-- **A number is masked** without a panic if it is maskable. -/
theorem isSome_maskNumber_iff {number : String} : (maskNumber number).isSome ↔ Maskable number := by
  rw [Option.isSome_iff_exists]
  constructor
  · rintro ⟨shown, hshown⟩
    exact ⟨shown.toList, maskNumber_eq_some_iff.mp hshown⟩
  · rintro ⟨shown, hshown⟩
    exact ⟨.ofList shown, maskNumber_eq_some_iff.mpr (by rwa [String.toList_ofList])⟩

/-- **Two callers look alike**: the last four characters are the same, or all of them if there are
fewer, both have more than four or neither has, and the shown digits of the digests are the same. -/
structure LooksLike (sha256Hex : String → String) (user user' : String) : Prop where
  last : user.toList.rtake 4 = user'.toList.rtake 4
  longer : 4 < user.toList.length ↔ 4 < user'.toList.length
  digest : sliceTo (sha256Hex user) 8 = sliceTo (sha256Hex user') 8

theorem shown_of_rtake_eq {number number' shown : String} (hlong : 4 < number.toList.length)
    (hlong' : 4 < number'.toList.length) (hlast : number.toList.rtake 4 = number'.toList.rtake 4)
    (h : maskNumber number = some shown) : maskNumber number' = some shown := by
  have hfour : ∀ {s : String}, 4 < s.toList.length → shownBytes s = 4 := by
    intro s hs
    have hle := length_le_byteLength s.toList
    rw [shownBytes, utf8ByteSize_eq_byteLength, if_neg (by omega)]
  obtain ⟨hsuffix, hbytes⟩ := maskNumber_eq_some_iff.mp h
  rw [hfour hlong] at hbytes
  have hshort : shown.toList.length ≤ 4 := by
    have hle := length_le_byteLength shown.toList
    omega
  -- last characters that are at most four are among the last four
  have hin : shown.toList <:+ number.toList.rtake 4 := by
    refine List.suffix_of_suffix_length_le hsuffix (List.drop_suffix _ _) ?_
    rw [List.rtake, List.length_drop]
    omega
  rw [hlast] at hin
  exact maskNumber_eq_some_iff.mpr
    ⟨hin.trans (List.drop_suffix _ _), by rw [hfour hlong', hbytes]⟩

/-- **What is shown depends on the last four characters** and on whether there are more. -/
theorem maskNumber_congr {number number' : String}
    (hlast : number.toList.rtake 4 = number'.toList.rtake 4)
    (hlonger : 4 < number.toList.length ↔ 4 < number'.toList.length) :
    maskNumber number = maskNumber number' := by
  by_cases hlong : 4 < number.toList.length
  · have hlong' := hlonger.mp hlong
    apply Option.ext
    intro shown
    exact ⟨shown_of_rtake_eq hlong hlong' hlast, shown_of_rtake_eq hlong' hlong hlast.symm⟩
  · -- a number of at most four characters is its own end
    have hwhole : ∀ {s : String}, ¬ 4 < s.toList.length → s.toList.rtake 4 = s.toList := by
      intro s hs
      rw [List.rtake, Nat.sub_eq_zero_of_le (Nat.le_of_not_lt hs), List.drop_zero]
    rw [hwhole hlong, hwhole fun h => hlong (hlonger.mpr h)] at hlast
    rw [String.toList_inj.mp hlast]

/-! ## The evaluation -/

/-- The call of another caller, from the same host. -/
def SipCall.withFromUser (call : SipCall) (user : String) : SipCall :=
  { call with fromUri := some ⟨user, call.fromHost⟩ }

section Hidden

variable {sha256Hex : String → String} {suffix : String} {trunk : Option SipInboundTrunkInfo}
  {rule : SipDispatchRuleInfo} {req : EvaluateSipDispatchRulesRequest} {call : SipCall}
  {trunkId : String}

theorem callerOf_hidden (hhide : rule.hidePhoneNumber) (user : String) :
    callerOf sha256Hex rule req (call.withFromUser user) trunkId =
      (sliceTo (sha256Hex user) 8).bind fun digest =>
        (maskNumber user).map fun number =>
          ⟨number, "Phone " ++ number, "sip_" ++ digest,
            insertAttribute "sip.trunkID" trunkId (insertAttribute "sip.callID" call.lkCallId
              (req.extraAttributes.foldl (fun attrs x => insertAttribute x.1 x.2 attrs)
                rule.attributes))⟩ := by
  unfold callerOf
  rw [if_pos hhide]
  rfl

end Hidden

/-- **When hiding a phone number is total and tight.** Under a rule that hides numbers, the
evaluation does not panic and gives all callers that look alike the same answer, exactly if the
number can be cut. The digest is that of the standard, which has more than eight digits. -/
theorem hidden_number_iff (sha256Hex : String → String)
    (hdigest : ∀ user, (sliceTo (sha256Hex user) 8).isSome) (suffix : String)
    (trunk : Option SipInboundTrunkInfo) (rule : SipDispatchRuleInfo) (hhide : rule.hidePhoneNumber)
    (req : EvaluateSipDispatchRulesRequest) (call : SipCall) (trunkId user : String) :
    (evaluateDispatchRule sha256Hex suffix trunk rule req (call.withFromUser user) trunkId ≠
        .error .panicked ∧
      ∀ user', LooksLike sha256Hex user user' →
        evaluateDispatchRule sha256Hex suffix trunk rule req (call.withFromUser user) trunkId =
          evaluateDispatchRule sha256Hex suffix trunk rule req (call.withFromUser user') trunkId) ↔
      Maskable user := by
  -- the evaluation panics exactly if there is nothing to show of the caller
  have hpanics (call : SipCall) :
      evaluateDispatchRule sha256Hex suffix trunk rule req call trunkId ≠ .error .panicked ↔
        (callerOf sha256Hex rule req call trunkId).isSome := by
    fun_cases evaluateDispatchRule sha256Hex suffix trunk rule req call trunkId <;> simp [*]
  rw [hpanics, callerOf_hidden hhide, ← isSome_maskNumber_iff]
  obtain ⟨digest, hdigest⟩ := Option.isSome_iff_exists.mp (hdigest user)
  rw [hdigest, Option.bind_some, Option.isSome_map]
  -- the evaluation looks at the caller by what is shown of it only
  refine and_iff_left fun user' halike => ?_
  unfold evaluateDispatchRule
  rw [callerOf_hidden hhide, callerOf_hidden hhide, ← halike.digest, hdigest,
    maskNumber_congr halike.last halike.longer]
  rfl

/-- A rule that hides numbers. -/
def hidingRule : SipDispatchRuleInfo where
  hidePhoneNumber := true
  rule := some ⟨some (.direct "support" "")⟩

theorem isSome_sampleDigest (user : String) : (sliceTo (sampleDigest user) 8).isSome := by
  have hdigits : (sliceTo (sampleDigest "") 8).isSome := by decide
  exact hdigits

/-- A number of which the end is shown. -/
theorem hidden_number_shown :
    hidingRule.hidePhoneNumber ∧
    (evaluateDispatchRule sampleDigest "" none hidingRule {} (SipCall.withFromUser {} "+15550100")
        "" ≠ .error .panicked ∧
      ∀ user', LooksLike sampleDigest "+15550100" user' →
        evaluateDispatchRule sampleDigest "" none hidingRule {}
            (SipCall.withFromUser {} "+15550100") "" =
          evaluateDispatchRule sampleDigest "" none hidingRule {}
            (SipCall.withFromUser {} user') "") := by
  refine ⟨rfl, (hidden_number_iff sampleDigest isSome_sampleDigest "" none hidingRule rfl {} {} ""
    "+15550100").mpr ?_⟩
  exact ⟨"0100".toList, by decide, by decide⟩

/-- **Two callers that cannot be hidden**: one without a user, and one whose last byte is not a
character. -/
theorem hidden_number_panics :
    evaluateDispatchRule sampleDigest "" none hidingRule {} (SipCall.withFromUser {} "") "" =
        .error .panicked ∧
      evaluateDispatchRule sampleDigest "" none hidingRule {} (SipCall.withFromUser {} "Zoë") "" =
        .error .panicked := by
  decide +kernel

end LivekitVoice
