import LivekitVoice.Flow.Result
import LivekitVoice.Room.Permission
import Mathlib.Algebra.Ring.Nat
import Mathlib.Algebra.BigOperators.Group.List.Basic

/-! # Access to the API

What every method of the API begins with: the grants of the token are checked, and the sizes of the
request against the configured limits. A check that fails ends the call with a Twirp error.

* **`ensureAdmin_eq_ok_iff`** — who may act on a room. -/

namespace LivekitVoice

/-! ## Errors -/

/-- The code of a Twirp error. -/
inductive TwirpCode
  | invalidArgument
  | notFound
  | permissionDenied
  | unauthenticated
  | alreadyExists
  | failedPrecondition
  | deadlineExceeded
  | unavailable
  | resourceExhausted
  | unimplemented
  | badRoute
  | internal
  deriving DecidableEq

/-- The status of the response. -/
def TwirpCode.status : TwirpCode → Nat
  | .invalidArgument | .failedPrecondition => 400
  | .unauthenticated => 401
  | .permissionDenied => 403
  | .notFound | .badRoute => 404
  | .alreadyExists => 409
  | .resourceExhausted => 429
  | .internal => 500
  | .unimplemented => 501
  | .unavailable => 503
  | .deadlineExceeded => 504

/-- **A Twirp error.** -/
structure TwirpError where
  code : TwirpCode
  msg : String
  deriving DecidableEq

/-! ## Grants -/

/-- The video grant of a token, with what it grants on the API. -/
structure ApiGrant extends VideoGrant where
  roomCreate : Bool := false
  roomList : Bool := false
  roomRecord : Bool := false
  roomAdmin : Bool := false

/-- A flag of the grant is required. -/
def ensureGrant (granted : Bool) : Except TwirpError Unit :=
  if granted then .ok () else .error ⟨.unauthenticated, "permissions denied"⟩

/-- `ensure_admin`: the token administers this room. -/
def ensureAdmin (grant : ApiGrant) (room : String) : Except TwirpError Unit :=
  ensureGrant (grant.roomAdmin && grant.room == room)

/-- `ensure_create`. -/
def ensureCreate (grant : ApiGrant) : Except TwirpError Unit := ensureGrant grant.roomCreate

/-- `ensure_list`. -/
def ensureList (grant : ApiGrant) : Except TwirpError Unit := ensureGrant grant.roomList

theorem ensureGrant_eq_ok_iff {granted : Bool} : ensureGrant granted = .ok () ↔ granted := by
  cases granted <;> simp [ensureGrant]

/-- **Who may act on a room**: a token for exactly this room. -/
theorem ensureAdmin_eq_ok_iff {grant : ApiGrant} {room : String} :
    ensureAdmin grant room = .ok () ↔ grant.roomAdmin ∧ grant.room = room := by
  rw [ensureAdmin, ensureGrant_eq_ok_iff, Bool.and_eq_true, beq_iff_eq]

/-! ## Limits -/

/-- The limits of the configuration (`LimitConfig`), as far as the API reads them. -/
structure LimitConfig where
  maxMetadata : Nat := 512 * 1024
  maxAttributes : Nat := 64 * 1024
  maxRoomNameLength : Nat := 256

/-- **The size of attributes**: the bytes of all keys and values. -/
def attributeSize (attributes : List (String × String)) : Nat :=
  (attributes.map fun x => x.1.utf8ByteSize + x.2.utf8ByteSize).sum

/-- `validate_metadata`. -/
def validateMetadata (limit : LimitConfig) (metadata : String) : Except TwirpError Unit :=
  if metadata.utf8ByteSize > limit.maxMetadata then
    .error ⟨.invalidArgument, "metadata size exceeds limits"⟩
  else .ok ()

/-- `validate_attributes`. -/
def validateAttributes (limit : LimitConfig) (attributes : List (String × String)) :
    Except TwirpError Unit :=
  if attributeSize attributes > limit.maxAttributes then
    .error ⟨.invalidArgument, "attribute size exceeds limits"⟩
  else .ok ()

end LivekitVoice
