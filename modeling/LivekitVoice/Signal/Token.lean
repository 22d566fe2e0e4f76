import LivekitVoice.Text.Trim

/-! # The token of a join

A join is accepted with the token that `authenticate` finds in the `Authorization` header or in the
`access_token` parameter. If another node hosts the room, `rtc_ws_impl` reads the token from the
request once more, by rules of its own, and that node verifies what it is sent.

* **`relayed_token_iff`** — when the relayed token is the verified one. -/

namespace LivekitVoice.Token

open Text

/-- `Bearer`, with its space. -/
def bearer : List Char := ['B', 'e', 'a', 'r', 'e', 'r', ' ']

/-- `AuthError`. -/
inductive AuthError
  | missingAuthorization
  | invalidAuthorization
  | invalidApiKey
  | invalidToken (message : String)
  deriving DecidableEq

/-- The text of the answer. -/
def AuthError.message : AuthError → String
  | .missingAuthorization => "missing authorization"
  | .invalidAuthorization => "invalid authorization"
  | .invalidApiKey => "invalid api key"
  | .invalidToken message => message

/-- `bearer_token`. -/
def bearerToken : Option (List Char) → Except AuthError (List Char)
  | some h =>
    match h.dropPrefix? bearer with
    | some token => .ok (trim token)
    | none => .error .invalidAuthorization
  | none => .error .missingAuthorization

section Request

/- The header's value, if it is there and can be read, and the parameter. -/
variable {T : Type*} (verify : List Char → Except AuthError T)
  (header accessToken : Option (List Char))

/-- **What `authenticate` verifies.** -/
def verifiedToken : Option (List Char) :=
  (((header.map trim).filter (· ≠ [])).or accessToken).map fun token =>
    match bearerToken (some token) with
    | .ok inner => inner
    | .error _ => token

/-- `authenticate`: the verified token, or the text of an unauthenticated answer. -/
def authenticate : Except String T :=
  match verifiedToken header accessToken with
  | none => .error "missing authorization"
  | some token => (verify token).mapError AuthError.message

/-- `raw_token`, **what `rtc_ws_impl` relays**. -/
def rawToken : List Char :=
  ((header.map fun value => trimStartMatches bearer (trim value)).or accessToken).getD []

/-- **Both readings agree** on a request. A blank header is relayed as the empty token, and so the
parameter has to be empty, or white space behind `Bearer`. -/
def ReadAlike : Prop :=
  match header with
  | some value =>
    if trim value = [] then
      ∃ token ∈ accessToken, token = [] ∨ ∃ rest ∈ token.dropPrefix? bearer, trim rest = []
    else ∀ rest ∈ (trim value).dropPrefix? bearer,
      (∀ c ∈ rest.head?, isWhitespace c = false) ∧ rest.dropPrefix? bearer = none
  | none => ∀ token ∈ accessToken, token.dropPrefix? bearer = none

instance : Decidable (ReadAlike header accessToken) :=
  have (rest : List Char) : Decidable (∀ c ∈ rest.head?, isWhitespace c = false) :=
    Option.decidableForallMem _
  match header with
  | some value => inferInstanceAs (Decidable (if trim value = [] then _ else _))
  | none => inferInstanceAs (Decidable (∀ token ∈ accessToken, token.dropPrefix? bearer = none))

end Request

variable {T : Type*} {verify : List Char → Except AuthError T}
  {header accessToken : Option (List Char)} {value rest : List Char}

/-- **What follows `Bearer`** in a trimmed header is read alike if it starts neither with white
space nor with another `Bearer`: it does not end in white space, so it is trimmed in front only. -/
theorem trim_eq_trimMatches_iff (h : trim value = bearer ++ rest) (fuel : Nat) :
    trim rest = trimMatches bearer (fuel + 1) rest ↔
      (∀ c ∈ rest.head?, isWhitespace c = false) ∧ rest.dropPrefix? bearer = none := by
  have hlast : ∀ c ∈ rest.getLast?, isWhitespace c = false := by
    intro c hc
    refine getLast_trim value c ?_
    rw [h, List.getLast?_append, Option.mem_def.mp hc, Option.some_or, Option.mem_def]
  by_cases hhead : ∀ c ∈ rest.head?, isWhitespace c = false
  · rw [trim_eq_self hhead hlast]
    cases hdrop : rest.dropPrefix? bearer with
    | none => exact iff_of_true (trimMatches_of_none hdrop _).symm ⟨hhead, rfl⟩
    | some more =>
      -- a leading match makes the text shorter
      refine iff_of_false (fun heq => ?_) (by simp)
      have hle : (trimMatches bearer fuel more).length ≤ more.length :=
        length_trimMatches_le fuel more
      have hlen := congrArg List.length heq
      rw [trimMatches, hdrop, dropPrefix_eq_some_iff.mp hdrop, List.length_append] at hlen
      simp only [bearer, List.length_cons] at hlen hle
      omega
  · refine iff_of_false (fun heq => ?_) fun hr => hhead hr.1
    cases rest with
    | nil => simp at hhead
    | cons c cs =>
      have hc : isWhitespace c := by simpa using hhead
      -- white space is no `B`
      have hdrop : (c :: cs).dropPrefix? bearer = none := by
        refine Option.eq_none_iff_forall_not_mem.mpr fun more hmore => ?_
        obtain ⟨rfl, -⟩ := List.cons.inj (dropPrefix_eq_some_iff.mp hmore)
        exact absurd hc (by decide)
      rw [trimMatches_of_none hdrop] at heq
      exact absurd (congrArg List.length heq) (length_trim_lt hc).ne

theorem verifiedToken_header (hne : trim value ≠ []) :
    verifiedToken (some value) accessToken = some (rawToken (some value) accessToken) ↔
      ReadAlike (some value) accessToken := by
  simp only [verifiedToken, rawToken, ReadAlike, bearerToken, if_neg hne]
  cases hdrop : (trim value).dropPrefix? bearer with
  | none => simp [hne, hdrop, trimStartMatches, trimMatches_of_none hdrop]
  | some rest =>
    have hvalue := dropPrefix_eq_some_iff.mp hdrop
    have hfuel : (trim value).length = rest.length + 5 + 1 + 1 := by
      have hseven : bearer.length = 7 := rfl
      rw [hvalue, List.length_append, hseven]
      omega
    have hraw : trimStartMatches bearer (trim value) =
        trimMatches bearer (rest.length + 5 + 1) rest := by
      rw [trimStartMatches, hfuel, trimMatches, hdrop]
    simpa [hne, hdrop, hraw] using trim_eq_trimMatches_iff hvalue (rest.length + 5)

/-- A blank header is relayed as the empty token, and the parameter is verified. -/
theorem verifiedToken_blank (hblank : trim value = []) :
    verifiedToken (some value) accessToken = some (rawToken (some value) accessToken) ↔
      ReadAlike (some value) accessToken := by
  have hraw : rawToken (some value) accessToken = [] := by
    simp [rawToken, hblank, trimStartMatches, trimMatches]
  have habsent : verifiedToken (some value) accessToken = verifiedToken none accessToken := by
    simp [verifiedToken, hblank, Option.filter]
  rw [hraw, habsent, ReadAlike, if_pos hblank]
  cases accessToken with
  | none => simp [verifiedToken]
  | some token =>
    cases hdrop : token.dropPrefix? bearer with
    | none => simp [verifiedToken, bearerToken, hdrop]
    | some rest =>
      have hne : token ≠ [] := by
        rw [dropPrefix_eq_some_iff.mp hdrop]
        exact List.cons_ne_nil _ _
      simp [verifiedToken, bearerToken, hdrop, hne]

/-- **When the relayed token is the verified one**, for every request that is authenticated; the
node that hosts the room then verifies it alike. -/
theorem relayed_token_iff {token : T} (h : authenticate verify header accessToken = .ok token) :
    (verifiedToken header accessToken = some (rawToken header accessToken) ↔
      ReadAlike header accessToken) ∧
    (ReadAlike header accessToken → verify (rawToken header accessToken) = .ok token) := by
  have hiff : verifiedToken header accessToken = some (rawToken header accessToken) ↔
      ReadAlike header accessToken := by
    cases header with
    | none =>
      cases accessToken with
      | none => cases h
      | some t =>
        cases hdrop : t.dropPrefix? bearer with
        | none => simp [verifiedToken, rawToken, ReadAlike, bearerToken, hdrop]
        | some rest =>
          -- what follows `Bearer` is shorter than the parameter
          have hlt : (trim rest).length < t.length := by
            have hle := length_trim_le rest
            rw [dropPrefix_eq_some_iff.mp hdrop, List.length_append]
            exact Nat.lt_of_le_of_lt hle (Nat.lt_add_of_pos_left (by decide))
          have hne : trim rest ≠ t := fun heq => absurd (congrArg List.length heq) hlt.ne
          simpa [verifiedToken, rawToken, ReadAlike, bearerToken, hdrop] using hne
    | some value =>
      by_cases hne : trim value = []
      · exact verifiedToken_blank hne
      · exact verifiedToken_header hne
  refine ⟨hiff, fun halike => ?_⟩
  rw [authenticate, hiff.mpr halike] at h
  cases hverify : verify (rawToken header accessToken) with
  | error e => simp [hverify, Except.mapError] at h
  | ok t => simpa [hverify, Except.mapError] using h

/-- A verification that accepts one token. -/
def onlyJwt (token : List Char) : Except AuthError Unit :=
  if token = ['j', 'w', 't'] then .ok () else .error .invalidApiKey

/-- A header with one space after `Bearer`. -/
theorem relayed_token_iff_header :
    authenticate onlyJwt (some (bearer ++ ['j', 'w', 't'])) none = .ok () ∧
      onlyJwt (rawToken (some (bearer ++ ['j', 'w', 't'])) none) = .ok () := by
  have hok : authenticate onlyJwt (some (bearer ++ ['j', 'w', 't'])) none = .ok () := by decide
  exact ⟨hok, (relayed_token_iff hok).2 (by decide)⟩

/-- **A join that the other node rejects**: a blank header before a good parameter, a parameter that
starts with `Bearer`, and two spaces after `Bearer`. -/
theorem relayed_token_differs :
    (authenticate onlyJwt (some [' ']) (some ['j', 'w', 't']) = .ok () ∧
      onlyJwt (rawToken (some [' ']) (some ['j', 'w', 't'])) = .error .invalidApiKey) ∧
    (authenticate onlyJwt none (some (bearer ++ ['j', 'w', 't'])) = .ok () ∧
      onlyJwt (rawToken none (some (bearer ++ ['j', 'w', 't']))) = .error .invalidApiKey) ∧
    (authenticate onlyJwt (some (bearer ++ [' ', 'j', 'w', 't'])) none = .ok () ∧
      onlyJwt (rawToken (some (bearer ++ [' ', 'j', 'w', 't'])) none) = .error .invalidApiKey) := by
  decide

end LivekitVoice.Token
