import LivekitVoice.Keyed.Table
import LivekitVoice.Room.Publish

/-! # The two indexes of the published tracks

A participant keeps its tracks twice: by their sids in `tracks`, and by the ids the client has given
them in `tracks_by_cid`. `add_track` overwrites the entry of a client id that is taken, and
`remove_track` removes the entry of the track's client id, whichever track it stands for.

* **`track_indexes_agree_iff`** — the indexes agree exactly if no track is removed that shares its
  client id (`SoleOfCid`). -/

namespace LivekitVoice.Publisher

open Option Keyed Transition

/-- A call on the tracks of a participant. -/
inductive TrackCall
  | addTrack (track : PublishedTrack)
  | removeTrack (sid : TrackSid)

variable (s : Publisher)

/-- One call. -/
def trackStep : TrackCall → Option Publisher
  | .addTrack track => some (s.addTrack track)
  | .removeTrack sid => some (s.removeTrack sid)

/-- A track that is added has a sid of its own. -/
def NewSid : TrackCall → Prop
  | .addTrack track => track.sid ∉ s.tracks
  | .removeTrack _ => True

instance (call : TrackCall) : Decidable (s.NewSid call) := by
  cases call <;> unfold NewSid <;> infer_instance

/-- **No track that is removed shares its client id** with another present track. -/
def SoleOfCid : TrackCall → Prop
  | .addTrack _ => True
  | .removeTrack sid => ∀ removed ∈ s.tracks.lookup sid, ∀ entry ∈ s.tracks.entries,
      entry.2.cid = removed.cid → entry.1 = sid

instance (call : TrackCall) : Decidable (s.SoleOfCid call) := by
  cases call <;> unfold SoleOfCid <;> infer_instance

/-- Every entry by client id is a present track with that id. -/
def EntriesPresent : Prop :=
  ∀ cid, ∀ track ∈ s.tracksByCid.lookup cid, track ∈ s.tracks.lookup track.sid ∧ track.cid = cid

/-- The client id of every present track is mapped to a present track with that id. -/
def CidsMapped : Prop :=
  ∀ sid, ∀ track ∈ s.tracks.lookup sid, ∃ entry ∈ s.tracksByCid.lookup track.cid,
    entry ∈ s.tracks.lookup entry.sid ∧ entry.cid = track.cid

/-- What every sequence of calls keeps: tracks stand under their own sids, and the entries by client
id are present. -/
structure Indexed (s : Publisher) : Prop where
  sid_eq : ∀ sid, ∀ track ∈ s.tracks.lookup sid, track.sid = sid
  entries : s.EntriesPresent

variable {s s' : Publisher} {track removed : PublishedTrack}
  {sid : TrackSid}

/-! ## One call -/

theorem sid_ne_of_present (hnew : track.sid ∉ s.tracks) {present : PublishedTrack}
    (h : present ∈ s.tracks.lookup sid) : sid ≠ track.sid := by
  rintro rfl
  exact hnew (AList.lookup_isSome.mp (isSome_of_mem h))

theorem Indexed.addTrack (hs : s.Indexed) (hnew : track.sid ∉ s.tracks) :
    (s.addTrack track).Indexed where
  sid_eq sid t ht := by
    simp only [Publisher.addTrack, lookup_insert_eq, mem_def] at ht
    split at ht
    · next h => exact h ▸ some.inj ht ▸ rfl
    · exact hs.sid_eq sid t ht
  entries cid t ht := by
    simp only [Publisher.addTrack, lookup_insert_eq, mem_def] at ht ⊢
    split at ht
    · next h =>
      obtain rfl := some.inj ht
      simp [h]
    · obtain ⟨hpresent, hcid⟩ := hs.entries cid t ht
      rw [if_neg (sid_ne_of_present hnew hpresent)]
      exact ⟨hpresent, hcid⟩

theorem CidsMapped.addTrack (hs : s.CidsMapped) (hnew : track.sid ∉ s.tracks) :
    (s.addTrack track).CidsMapped := by
  intro sid t ht
  simp only [Publisher.addTrack, lookup_insert_eq, mem_def] at ht ⊢
  by_cases hcid : t.cid = track.cid
  · exact ⟨track, by simp [hcid], by simp, hcid.symm⟩
  · split at ht
    · exact absurd (some.inj ht ▸ rfl) hcid
    · obtain ⟨entry, hentry, hpresent, heq⟩ := hs sid t ht
      refine ⟨entry, (if_neg hcid).trans hentry, ?_, heq⟩
      rwa [if_neg (sid_ne_of_present hnew hpresent)]

section Remove

variable (hsid : removed ∈ s.tracks.lookup sid)

include hsid

theorem sid_ne_of_cid_ne (h : track ∈ s.tracks.lookup track.sid) (hcid : track.cid ≠ removed.cid) :
    track.sid ≠ sid := by
  rintro rfl
  exact hcid (mem_unique h hsid ▸ rfl)

theorem lookup_removeTrack (sid' : TrackSid) :
    (s.removeTrack sid).tracks.lookup sid' =
      if sid' = sid then none else s.tracks.lookup sid' := by
  rw [Publisher.removeTrack, mem_def.mp hsid]
  exact lookup_erase_eq s.tracks sid sid'

theorem lookup_byCid_removeTrack (cid : String) :
    (s.removeTrack sid).tracksByCid.lookup cid =
      if cid = removed.cid then none else s.tracksByCid.lookup cid := by
  rw [Publisher.removeTrack, mem_def.mp hsid]
  exact lookup_erase_eq s.tracksByCid removed.cid cid

theorem Indexed.removeTrack (hs : s.Indexed) : (s.removeTrack sid).Indexed where
  sid_eq sid' t ht := by
    rw [lookup_removeTrack hsid, mem_def] at ht
    split at ht
    · cases ht
    · exact hs.sid_eq sid' t ht
  entries cid t ht := by
    rw [lookup_byCid_removeTrack hsid, mem_def] at ht
    split at ht
    · cases ht
    · next hne =>
      obtain ⟨hpresent, hcid⟩ := hs.entries cid t ht
      rw [lookup_removeTrack hsid, if_neg (sid_ne_of_cid_ne hsid hpresent (hcid ▸ hne))]
      exact ⟨hpresent, hcid⟩

/-- **The client ids stay mapped exactly if the removed track's is no other's**: its entry goes,
whichever track it stood for. -/
theorem cidsMapped_removeTrack_iff (hmapped : s.CidsMapped) :
    (s.removeTrack sid).CidsMapped ↔ s.SoleOfCid (.removeTrack sid) := by
  constructor
  · rintro h r hr ⟨sid', t⟩ ht hcid
    obtain rfl := mem_unique hr hsid
    by_contra hne
    have hleft : t ∈ (s.removeTrack sid).tracks.lookup sid' := by
      rwa [lookup_removeTrack hsid, if_neg hne, AList.mem_lookup_iff]
    obtain ⟨entry, hentry, -⟩ := h sid' t hleft
    simp [lookup_byCid_removeTrack hsid, if_pos hcid] at hentry
  · intro h sid' t ht
    rw [lookup_removeTrack hsid, mem_def] at ht
    split at ht
    · cases ht
    · next hne =>
      have hcid : t.cid ≠ removed.cid :=
        fun heq => hne (h removed hsid ⟨sid', t⟩ (AList.mem_lookup_iff.mp ht) heq)
      obtain ⟨entry, hentry, hpresent, heq⟩ := hmapped sid' t ht
      refine ⟨entry, ?_, ?_, heq⟩
      · rwa [lookup_byCid_removeTrack hsid, if_neg hcid]
      · rwa [lookup_removeTrack hsid, if_neg (sid_ne_of_cid_ne hsid hpresent (heq ▸ hcid))]

end Remove

theorem removeTrack_of_none (hsid : s.tracks.lookup sid = none) : s.removeTrack sid = s := by
  rw [Publisher.removeTrack, hsid]

/-- **A track is added or removed**, with its entry by client id. -/
theorem Indexed.trackStep {call : TrackCall} (hs : s.Indexed) (hnew : s.NewSid call)
    (hstep : s.trackStep call = some s') : s'.Indexed := by
  cases call with
  | addTrack track =>
    obtain rfl := some.inj hstep
    exact hs.addTrack hnew
  | removeTrack sid =>
    obtain rfl := some.inj hstep
    cases hsid : s.tracks.lookup sid with
    | none => rwa [removeTrack_of_none hsid]
    | some removed => exact Indexed.removeTrack hsid hs

/-- **Every client id stays mapped** if the track removed is the only one of its id. -/
theorem cidsMapped_trackStep_iff {call : TrackCall} (hmapped : s.CidsMapped) (hnew : s.NewSid call)
    (hstep : s.trackStep call = some s') : s'.CidsMapped ↔ s.SoleOfCid call := by
  cases call with
  | addTrack track =>
    obtain rfl := some.inj hstep
    exact iff_of_true (hmapped.addTrack hnew) trivial
  | removeTrack sid =>
    obtain rfl := some.inj hstep
    cases hsid : s.tracks.lookup sid with
    | none =>
      rw [removeTrack_of_none hsid]
      exact iff_of_true hmapped (by simp [SoleOfCid, hsid])
    | some removed => exact cidsMapped_removeTrack_iff hsid hmapped

/-! ## Every sequence of calls -/

variable {calls : List TrackCall} {toUppercase : String → String} {grant : VideoGrant}

/-- **When the indexes agree.** The entries by client id are present tracks throughout; and the
client ids of the present tracks are mapped throughout exactly if no call removes a track whose
client id another present track has. -/
theorem track_indexes_agree_iff (hnew : Along trackStep NewSid (init toUppercase grant) calls) :
    Throughout trackStep EntriesPresent (init toUppercase grant) calls ∧
    (Throughout trackStep CidsMapped (init toUppercase grant) calls ↔
      Along trackStep SoleOfCid (init toUppercase grant) calls) := by
  have hinit : (init toUppercase grant).Indexed :=
    ⟨by simp [init], by simp [EntriesPresent, init]⟩
  have hmapped : (init toUppercase grant).CidsMapped := by simp [CidsMapped, init]
  constructor
  · intro n s' hrun
    exact (throughout_of_along (fun _ _ _ => Indexed.trackStep) hinit hnew n s' hrun).entries
  · refine throughout_iff_along_of (fun _ h => h) ?_ ?_ ?_ hmapped hnew
    · intro s call _ hnone
      cases call <;> cases hnone
    · exact fun s call s' hs hnew hsole hstep =>
        (cidsMapped_trackStep_iff hs hnew hstep).mpr hsole
    · exact fun s call s' hs hnew hstep hs' => (cidsMapped_trackStep_iff hs hnew hstep).mp hs'

/-- A track of a client, under the given sid. -/
def sharedCid (sid : TrackSid) : PublishedTrack where
  sid := sid
  cid := "mic"
  name := "audio"
  source := .microphone
  stream := ""
  registration := ⟨permissionFromGrant id {}, .audio⟩

/-- A client id that is used again after its track was removed. -/
theorem track_indexes_agree_iff_readded :
    Throughout trackStep EntriesPresent (init id {})
        [.addTrack (sharedCid "TR_1"), .removeTrack "TR_1", .addTrack (sharedCid "TR_2")] ∧
      Throughout trackStep CidsMapped (init id {})
        [.addTrack (sharedCid "TR_1"), .removeTrack "TR_1", .addTrack (sharedCid "TR_2")] := by
  have hnew : Along trackStep NewSid (init id {})
      [.addTrack (sharedCid "TR_1"), .removeTrack "TR_1", .addTrack (sharedCid "TR_2")] := by
    decide +kernel
  have hagree := track_indexes_agree_iff hnew
  exact ⟨hagree.1, hagree.2.mpr (by decide +kernel)⟩

/-- **A present track without an entry.** Two tracks are added with one client id and the first is
removed: the second is present, and no entry stands under its client id. -/
theorem shared_cid_unmapped :
    (run trackStep (init id {}) [.addTrack (sharedCid "TR_1"), .addTrack (sharedCid "TR_2"),
      .removeTrack "TR_1"]).map (fun s => (s.tracks.lookup "TR_2", s.tracksByCid.lookup "mic")) =
    some (some (sharedCid "TR_2"), none) := by
  decide +kernel

end LivekitVoice.Publisher
