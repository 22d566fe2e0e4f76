import LivekitVoice.Api.Access
import LivekitVoice.Room.Visibility

/-! # The limits on metadata and attributes

A participant gets its metadata and attributes from its token and its join request, and they change
by `UpdateParticipant` calls of the API and by `UpdateMetadata` requests of the client itself. New
attributes are merged into those that are there. Only `UpdateParticipant` looks at the configured
limits, and only at its own request.

* **`attributeSize_setAttributes_le`** — what a merge can amount to,
* **`limits_kept`** — under `Within`, every participant stays within both limits. -/

namespace LivekitVoice

open List Transition

/-! ## The three ways -/

/-- What a participant brings along: its token, and the metadata of its join request. -/
structure JoinData where
  sid : ParticipantSid
  identity : Identity
  kind : ParticipantKind := .standard
  name : String := ""
  tokenMetadata : String := ""
  tokenAttributes : List (String × String) := []
  permission : ParticipantPermission := {}
  /-- The metadata of the session parameters, which come before those of the token. -/
  paramsMetadata : String := ""

/-- The metadata a participant joins with. -/
def JoinData.metadata (j : JoinData) : String :=
  if j.paramsMetadata = "" then j.tokenMetadata else j.paramsMetadata

/-- **The participant that joins**, in `start_session`. -/
def JoinData.participant (j : JoinData) : ParticipantInfo :=
  let info : ParticipantInfo :=
    { sid := j.sid, identity := j.identity, kind := j.kind, name := j.name
      metadata := j.tokenMetadata }
  { (info.setAttributes j.tokenAttributes).1 with
    permission := j.permission
    metadata := j.metadata }

variable (limit : LimitConfig) (members : List ParticipantInfo)

/-- `UpdateParticipant`, once the room is found: the participant, and whether it has changed. -/
def updateParticipant (r : UpdateParticipantRequest) : Except TwirpError (ParticipantInfo × Bool) :=
  match members.find? fun p => p.identity = r.identity with
  | none => .error ⟨.notFound, "participant not found"⟩
  | some p => do
      validateMetadata limit r.metadata
      validateAttributes limit r.attributes
      return p.update r

/-- `handle_update_metadata`: what a client makes of itself. -/
def handleUpdateMetadata (p : ParticipantInfo) (metadata name : String)
    (attributes : List (String × String)) : ParticipantInfo :=
  if !p.permission.canUpdateMetadata then p
  else
    let named := p.updateMetadata metadata name
    if named.2 || !attributes.isEmpty then (named.1.setAttributes attributes).1 else named.1

/-- What happens to the participants of a room. -/
inductive LimitAction
  | join (data : JoinData)
  | updateParticipant (request : UpdateParticipantRequest)
  | updateMetadata (sid : ParticipantSid) (metadata name : String)
      (attributes : List (String × String))
  | leave (sid : ParticipantSid)

/-- A participant has changed. -/
def reviseMember (info : ParticipantInfo) : List ParticipantInfo :=
  members.map fun p => if p.sid = info.sid then info else p

/-- **One step.** A call that fails changes nothing. -/
def limitStep :
    LimitAction → Option (List ParticipantInfo)
  | .join data => some (members ++ [data.participant])
  | .updateParticipant r =>
    match updateParticipant limit members r with
    | .error _ => some members
    | .ok updated => some (reviseMember members updated.1)
  | .updateMetadata sid metadata name attributes =>
    (members.find? fun p => p.sid = sid).map fun p =>
      reviseMember members (handleUpdateMetadata p metadata name attributes)
  | .leave sid => some (members.filter fun p => p.sid ≠ sid)

/-! ## What a merge amounts to -/

/-- The attributes that a merge leaves alone, and those it sets. -/
def mergedSize (old new : List (String × String)) : Nat :=
  attributeSize (old.filter fun x => x.1 ∉ new.map Prod.fst) +
    attributeSize (new.filter fun x => x.2 ≠ "")

theorem attributeSize_cons (k v : String) (attributes : List (String × String)) :
    attributeSize ((k, v) :: attributes) =
      k.utf8ByteSize + v.utf8ByteSize + attributeSize attributes := by
  rw [attributeSize, map_cons, sum_cons, attributeSize]

theorem mergedSize_setAttribute_le (info : ParticipantInfo) (k v : String)
    (rest : List (String × String)) :
    mergedSize (info.setAttribute k v).1.attributes rest ≤
      mergedSize info.attributes ((k, v) :: rest) := by
  have hothers : (info.attributes.filter fun x => x.1 ≠ k).filter
        (fun x => x.1 ∉ rest.map Prod.fst) =
      info.attributes.filter fun x => x.1 ∉ ((k, v) :: rest).map Prod.fst := by
    rw [filter_filter]
    congr 1
    funext x
    simp only [map_cons, mem_cons, not_or, Bool.decide_and]
    exact Bool.and_comm _ _
  rw [ParticipantInfo.setAttribute, mergedSize, mergedSize, ← hothers]
  by_cases hv : v = ""
  · simp [hv]
  · rw [if_neg hv]
    have hset : attributeSize (((k, v) :: rest).filter fun x => x.2 ≠ "") =
        k.utf8ByteSize + v.utf8ByteSize + attributeSize (rest.filter fun x => x.2 ≠ "") := by
      rw [filter_cons_of_pos (by simpa using hv), attributeSize_cons]
    rw [hset]
    by_cases hk : k ∈ rest.map Prod.fst
    · rw [filter_cons_of_neg (by simpa using hk)]
      omega
    · rw [filter_cons_of_pos (by simpa using hk), attributeSize_cons]
      omega

/-- **What a merge can amount to**: the attributes it leaves alone and those it sets. -/
theorem attributeSize_setAttributes_le (info : ParticipantInfo)
    (attributes : List (String × String)) :
    attributeSize (info.setAttributes attributes).1.attributes ≤
      mergedSize info.attributes attributes := by
  rw [ParticipantInfo.setAttributes]
  -- along the loop, over the attributes still to be set and whatever has changed so far
  generalize hacc : (info, false) = acc
  obtain rfl : acc.1 = info := by rw [← hacc]
  clear hacc
  induction attributes generalizing acc with
  | nil =>
    rw [foldl_nil, mergedSize]
    simp
  | cons x rest ih =>
    rw [foldl_cons]
    exact (ih _).trans (mergedSize_setAttribute_le acc.1 x.1 x.2 rest)

theorem metadata_setAttributes (info : ParticipantInfo) (attributes : List (String × String)) :
    (info.setAttributes attributes).1.metadata = info.metadata := by
  obtain ⟨attributes', hset⟩ := info.exists_setAttributes attributes
  rw [hset]

/-! ## The condition and the law -/

/-- **A participant within the limits.** -/
structure WithinLimits (limit : LimitConfig) (p : ParticipantInfo) : Prop where
  metadata : p.metadata.utf8ByteSize ≤ limit.maxMetadata
  attributes : attributeSize p.attributes ≤ limit.maxAttributes

/-- **The condition on a step**: what a participant joins with is within the limits; so is what a
call leaves alone and sets, if its own attributes are, and the metadata and attributes a client that
may update itself asks for. -/
def Within : LimitAction → Prop
  | .join data => data.metadata.utf8ByteSize ≤ limit.maxMetadata ∧
      mergedSize [] data.tokenAttributes ≤ limit.maxAttributes
  | .updateParticipant r => ∀ p ∈ members, p.identity = r.identity →
      attributeSize r.attributes ≤ limit.maxAttributes →
        mergedSize p.attributes r.attributes ≤ limit.maxAttributes
  | .updateMetadata sid metadata _ attributes => ∀ p ∈ members, p.sid = sid →
      p.permission.canUpdateMetadata →
        metadata.utf8ByteSize ≤ limit.maxMetadata ∧
          mergedSize p.attributes attributes ≤ limit.maxAttributes
  | .leave _ => True

instance (a : LimitAction) :
    Decidable (Within limit members a) := by
  unfold Within
  split <;> infer_instance

section Step

variable {limit : LimitConfig} {members members' : List ParticipantInfo} {p : ParticipantInfo}

theorem withinLimits_participant {data : JoinData} (h : Within limit [] (.join data)) :
    WithinLimits limit data.participant := by
  obtain ⟨hmetadata, hattributes⟩ := h
  refine ⟨hmetadata, ?_⟩
  exact (attributeSize_setAttributes_le _ data.tokenAttributes).trans hattributes

theorem metadata_updateMetadata_le (h : p.metadata.utf8ByteSize ≤ limit.maxMetadata)
    {metadata : String} (hnew : metadata.utf8ByteSize ≤ limit.maxMetadata) (name : String) :
    (p.updateMetadata metadata name).1.metadata.utf8ByteSize ≤ limit.maxMetadata := by
  rw [ParticipantInfo.updateMetadata]
  by_cases hempty : metadata = ""
  · simpa [hempty] using h
  · simpa [hempty] using hnew

theorem withinLimits_update (hp : WithinLimits limit p) {r : UpdateParticipantRequest}
    (hmetadata : r.metadata.utf8ByteSize ≤ limit.maxMetadata)
    (hmerge : mergedSize p.attributes r.attributes ≤ limit.maxAttributes) :
    WithinLimits limit (p.update r).1 := by
  have hnamed := metadata_updateMetadata_le hp.metadata hmetadata r.name
  -- whatever the permission, metadata and attributes are those of the renamed participant
  have hpermitted : ∀ q : ParticipantInfo,
      q.metadata = (p.updateMetadata r.metadata r.name).1.metadata →
      q.attributes = p.attributes →
      WithinLimits limit
        (if r.attributes.isEmpty then (q, false) else q.setAttributes r.attributes).1 := by
    intro q hqm hqa
    by_cases hempty : r.attributes.isEmpty
    · rw [if_pos hempty]
      exact ⟨hqm ▸ hnamed, hqa ▸ hp.attributes⟩
    · rw [if_neg hempty]
      constructor
      · rw [metadata_setAttributes, hqm]
        exact hnamed
      · refine (attributeSize_setAttributes_le q r.attributes).trans ?_
        rw [hqa]
        exact hmerge
  rw [ParticipantInfo.update]
  cases r.permission <;> exact hpermitted _ rfl rfl

theorem withinLimits_handleUpdateMetadata (hp : WithinLimits limit p) {metadata name : String}
    {attributes : List (String × String)}
    (h : p.permission.canUpdateMetadata → metadata.utf8ByteSize ≤ limit.maxMetadata ∧
      mergedSize p.attributes attributes ≤ limit.maxAttributes) :
    WithinLimits limit (handleUpdateMetadata p metadata name attributes) := by
  rw [handleUpdateMetadata]
  by_cases hmay : p.permission.canUpdateMetadata
  · obtain ⟨hmetadata, hmerge⟩ := h hmay
    have hnamed := metadata_updateMetadata_le hp.metadata hmetadata name
    rw [if_neg (by simp [hmay])]
    dsimp only
    split
    · constructor
      · rw [metadata_setAttributes]
        exact hnamed
      · exact (attributeSize_setAttributes_le _ attributes).trans hmerge
    · exact ⟨hnamed, hp.attributes⟩
  · rw [if_pos (by simpa using hmay)]
    exact hp

theorem forall_reviseMember (h : ∀ q ∈ members, WithinLimits limit q) (hp : WithinLimits limit p) :
    ∀ q ∈ reviseMember members p, WithinLimits limit q := by
  intro q hq
  obtain ⟨q', hq', rfl⟩ := mem_map.mp hq
  split
  · exact hp
  · exact h q' hq'

theorem updateParticipant_eq_ok {r : UpdateParticipantRequest} {updated : ParticipantInfo × Bool}
    (h : updateParticipant limit members r = .ok updated) :
    ∃ p ∈ members, p.identity = r.identity ∧ r.metadata.utf8ByteSize ≤ limit.maxMetadata ∧
      attributeSize r.attributes ≤ limit.maxAttributes ∧ updated = p.update r := by
  unfold updateParticipant at h
  cases hfind : members.find? fun p => p.identity = r.identity with
  | none =>
    simp [hfind] at h
  | some p =>
    rw [hfind] at h
    have hidentity : p.identity = r.identity := by simpa using List.find?_some hfind
    obtain ⟨_, hmetadata, h⟩ := bind_eq_ok_iff.mp h
    obtain ⟨_, hattributes, h⟩ := bind_eq_ok_iff.mp h
    exact ⟨p, mem_of_find?_eq_some hfind, hidentity,
      by simpa [validateMetadata] using hmetadata,
      by simpa [validateAttributes] using hattributes, (Except.ok.inj h).symm⟩

/-- **One step that meets the condition keeps everybody within the limits.** -/
theorem withinLimits_step {a : LimitAction} (h : ∀ p ∈ members, WithinLimits limit p)
    (hwithin : Within limit members a) (hstep : limitStep limit members a = some members') :
    ∀ p ∈ members', WithinLimits limit p := by
  cases a with
  | join data =>
    obtain rfl : members ++ [data.participant] = members' := Option.some.inj hstep
    intro p hp
    rcases mem_append.mp hp with hp | hp
    · exact h p hp
    · obtain rfl := mem_singleton.mp hp
      exact withinLimits_participant hwithin
  | updateParticipant r =>
    simp only [limitStep] at hstep
    cases hupdate : updateParticipant limit members r with
    | error e =>
      rw [hupdate] at hstep
      obtain rfl : members = members' := Option.some.inj hstep
      exact h
    | ok updated =>
      rw [hupdate] at hstep
      obtain rfl : reviseMember members updated.1 = members' := Option.some.inj hstep
      obtain ⟨p, hp, hidentity, hmetadata, hattributes, rfl⟩ := updateParticipant_eq_ok hupdate
      exact forall_reviseMember h
        (withinLimits_update (h p hp) hmetadata (hwithin p hp hidentity hattributes))
  | updateMetadata sid metadata name attributes =>
    obtain ⟨p, hfind, rfl⟩ := Option.map_eq_some_iff.mp hstep
    have hp := mem_of_find?_eq_some hfind
    have hsid : p.sid = sid := by simpa using List.find?_some hfind
    exact forall_reviseMember h
      (withinLimits_handleUpdateMetadata (h p hp) (hwithin p hp hsid))
  | leave sid =>
    obtain rfl : (members.filter fun p => p.sid ≠ sid) = members' := Option.some.inj hstep
    intro p hp
    exact h p (mem_of_mem_filter hp)

end Step

/-- **Everybody stays within the limits**, along every run whose steps meet the condition. -/
theorem limits_kept (limit : LimitConfig) (as : List LimitAction) (members : List ParticipantInfo)
    (hwithin : Along (limitStep limit) (Within limit) [] as)
    (hrun : run (limitStep limit) [] as = some members) :
    ∀ p ∈ members, p.metadata.utf8ByteSize ≤ limit.maxMetadata ∧
      attributeSize p.attributes ≤ limit.maxAttributes := by
  have hall : ∀ p ∈ members, WithinLimits limit p :=
    run_invariant_along
      (fun _ _ _ h hG hstep => withinLimits_step h hG hstep) (by simp) hwithin hrun
  intro p hp
  exact ⟨(hall p hp).metadata, (hall p hp).attributes⟩

/-- A participant named `a`, who may update itself. -/
def plainJoin : JoinData :=
  { sid := "PA_a", identity := "a", permission := { canUpdateMetadata := true } }

/-- A call that sets one attribute of `a`. -/
def setAttributeOf (k v : String) : LimitAction :=
  .updateParticipant
    { identity := "a", metadata := "", name := "", permission := none, attributes := [(k, v)] }

/-- A run within the limits: a join, two calls that set the same key, and a client's request. -/
theorem limits_kept_rekeyed :
    ∃ members, run (limitStep { maxMetadata := 2, maxAttributes := 4 }) []
        [.join plainJoin, setAttributeOf "k" "one", setAttributeOf "k" "two",
          .updateMetadata "PA_a" "me" "" []] = some members ∧
      members.map (fun p => (p.metadata, p.attributes)) = [("me", [("k", "two")])] ∧
      ∀ p ∈ members, p.metadata.utf8ByteSize ≤ 2 ∧ attributeSize p.attributes ≤ 4 := by
  refine (show ∃ members ∈ run _ _ _, members.map (fun p => (p.metadata, p.attributes)) =
    [("me", [("k", "two")])] by decide +kernel).imp
    fun members ⟨hrun, hview⟩ => ⟨hrun, hview,
      limits_kept { maxMetadata := 2, maxAttributes := 4 } _ members (by decide +kernel) hrun⟩

/-- **The limits are exceeded**: by a token, by what a client asks for, and by two calls that each
pass the check. -/
theorem limits_exceeded :
    (run (limitStep { maxMetadata := 2, maxAttributes := 4 }) []
        [.join { plainJoin with
          tokenMetadata := "long", tokenAttributes := [("key", "value")] }]).any
        (fun members => members.any fun p =>
          decide (2 < p.metadata.utf8ByteSize) && decide (4 < attributeSize p.attributes)) ∧
      (run (limitStep { maxMetadata := 2, maxAttributes := 4 }) []
        [.join plainJoin, .updateMetadata "PA_a" "long" "" [("key", "value")]]).any
        (fun members => members.any fun p =>
          decide (2 < p.metadata.utf8ByteSize) && decide (4 < attributeSize p.attributes)) ∧
      (run (limitStep { maxMetadata := 2, maxAttributes := 4 }) []
        [.join plainJoin, setAttributeOf "k" "one", setAttributeOf "l" "two"]).any
        (fun members => members.any fun p => decide (4 < attributeSize p.attributes)) := by
  decide +kernel

end LivekitVoice
