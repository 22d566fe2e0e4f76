import LivekitVoice.Egress.Redact

/-! # Stream keys

The URL of an RTMP server names the host, an app and the key of the stream. `redact_stream_key` cuts
the key to its first and last bytes, up to three of each, leaves the part after it as it is and
drops the rest. The scheme it writes is `rtmp`, also for `rtmps`.

* **`redactIdentifier_eq_some_iff`** — a key can be cut if characters end where the short form does,
* **`streamKey_redacted_iff`** — when there is a result, when it keeps the scheme, and when those of
  two URLs are the same. -/

namespace LivekitVoice

open List Text

/-! ## The short form of a key -/

variable (key : String)

/-- The bytes that are shown at each end of a key. -/
def shownKeyBytes : Nat := ([3, 2, 1].find? fun i => i * 3 ≤ key.utf8ByteSize).getD 0

/-- A key between what is shown of it. -/
structure KeyCut (key : String) (front back : List Char) : Prop where
  parts : ∃ middle, key.toList = front ++ (middle ++ back)
  front : byteLength front = shownKeyBytes key
  back : byteLength back = shownKeyBytes key

/-- **A key that can be cut**: characters end where its short form is taken. -/
def Cuttable : Prop := ∃ front back, KeyCut key front back

theorem three_mul_shownKeyBytes_le : shownKeyBytes key * 3 ≤ key.utf8ByteSize := by
  unfold shownKeyBytes
  cases hfind : [3, 2, 1].find? fun i => i * 3 ≤ key.utf8ByteSize with
  | none => exact Nat.zero_le _
  | some i => simpa using List.find?_some hfind

theorem shownKeyBytes_le_three : shownKeyBytes key ≤ 3 := by
  unfold shownKeyBytes
  cases hfind : [3, 2, 1].find? fun i => i * 3 ≤ key.utf8ByteSize with
  | none => exact Nat.zero_le _
  | some i =>
    have hmem : i ∈ [3, 2, 1] := mem_of_find?_eq_some hfind
    simp only [mem_cons, not_mem_nil, or_false] at hmem
    rw [Option.getD_some]
    omega

/-- **The cuts of a key** are those that the slices of its bytes make. -/
theorem keyCut_iff {key : String} {front back : List Char} :
    KeyCut key front back ↔
      (∃ rest, splitBytes key.toList (shownKeyBytes key) = some (front, rest)) ∧
        ∃ before, splitBytes key.toList (key.utf8ByteSize - shownKeyBytes key) =
          some (before, back) := by
  have hle := three_mul_shownKeyBytes_le key
  have hsize := utf8ByteSize_eq_byteLength key
  simp only [splitBytes_eq_some_iff]
  constructor
  · rintro ⟨⟨middle, hparts⟩, hfront, hback⟩
    have hbytes := congrArg byteLength hparts
    simp only [byteLength_append] at hbytes
    refine ⟨⟨middle ++ back, hparts, hfront⟩, front ++ middle, ?_, ?_⟩
    · rw [hparts, append_assoc]
    · rw [byteLength_append]
      omega
  · rintro ⟨⟨rest, hfront, hfront'⟩, before, hbefore, hbefore'⟩
    have hback := congrArg byteLength hbefore
    rw [byteLength_append] at hback
    refine ⟨?_, hfront', by omega⟩
    rcases append_eq_append_iff.mp (hfront.symm.trans hbefore) with
      ⟨middle, hmiddle, -⟩ | ⟨middle, hmiddle, -⟩
    · exact ⟨middle, by rw [hbefore, hmiddle, append_assoc]⟩
    · have hbytes := congrArg byteLength hmiddle
      rw [byteLength_append] at hbytes
      have hlength := length_le_byteLength middle
      have hnil : middle = [] := eq_nil_of_length_eq_zero (by omega)
      exact ⟨[], by rw [hbefore, hmiddle, hnil, append_nil, nil_append]⟩

/-- The text of a short form. -/
def shortForm (front back : List Char) : String :=
  "\x7b" ++ .ofList front ++ "..." ++ .ofList back ++ "\x7d"

theorem redactIdentifier_eq :
    redactIdentifier key =
      (splitBytes key.toList (shownKeyBytes key)).bind fun cut =>
        (splitBytes key.toList (key.utf8ByteSize - shownKeyBytes key)).map fun cut' =>
          shortForm cut.1 cut'.2 := by
  unfold redactIdentifier shownKeyBytes
  cases hfind : [3, 2, 1].find? fun i => i * 3 ≤ key.utf8ByteSize with
  | none =>
    have hall : splitBytes key.toList key.utf8ByteSize = some (key.toList, []) :=
      splitBytes_eq_some_iff.mpr
        ⟨(append_nil _).symm, (utf8ByteSize_eq_byteLength key).symm⟩
    simp [splitBytes, hall, shortForm]
  | some i =>
    simp only [Option.getD_some, sliceTo, sliceFrom, Option.bind_map, Option.map_map]
    rfl

/-- **What is shown of a key.** -/
theorem redactIdentifier_eq_some_iff {key short : String} :
    redactIdentifier key = some short ↔
      ∃ front back, KeyCut key front back ∧ short = shortForm front back := by
  simp only [redactIdentifier_eq, Option.bind_eq_some_iff, Option.map_eq_some_iff, keyCut_iff,
    Prod.exists]
  constructor
  · rintro ⟨front, rest, hfront, before, back, hback, rfl⟩
    exact ⟨front, back, ⟨⟨rest, hfront⟩, before, hback⟩, rfl⟩
  · rintro ⟨front, back, ⟨⟨rest, hfront⟩, before, hback⟩, rfl⟩
    exact ⟨front, rest, hfront, before, back, hback, rfl⟩

theorem redactIdentifier_ne_none_iff {key : String} :
    redactIdentifier key ≠ none ↔ Cuttable key := by
  rw [Option.ne_none_iff_exists']
  constructor
  · rintro ⟨short, hshort⟩
    obtain ⟨front, back, hcut, -⟩ := redactIdentifier_eq_some_iff.mp hshort
    exact ⟨front, back, hcut⟩
  · rintro ⟨front, back, hcut⟩
    exact ⟨_, redactIdentifier_eq_some_iff.mpr ⟨front, back, hcut, rfl⟩⟩

/-- A short form says what is shown: it is the same number of bytes at each end. -/
theorem KeyCut.shortForm_inj {key key' : String} {front back front' back' : List Char}
    (h : KeyCut key front back) (h' : KeyCut key' front' back')
    (heq : shortForm front back = shortForm front' back') : front = front' ∧ back = back' := by
  have hchars : ∀ front back : List Char, (shortForm front back).toList =
      '\x7b' :: (front ++ ("...".toList ++ (back ++ ['\x7d']))) := by
    intro front back
    simp [shortForm]
  have hlists := congrArg String.toList heq
  rw [hchars, hchars] at hlists
  obtain ⟨-, hlists⟩ := List.cons.inj hlists
  have hbytes := congrArg byteLength hlists
  simp only [byteLength_append, h.front, h.back, h'.front, h'.back] at hbytes
  have hcut := splitBytes_eq_some_iff.mpr ⟨hlists.symm, h.front⟩
  have hsame : shownKeyBytes key' = shownKeyBytes key := by omega
  rw [splitBytes_eq_some_iff.mpr ⟨rfl, h'.front.trans hsame⟩] at hcut
  obtain ⟨rfl, hrest⟩ := Prod.mk.inj (Option.some.inj hcut)
  exact ⟨rfl, (append_cancel_right (append_cancel_left hrest)).symm⟩

/-- **Two keys have the same short form** exactly if the same bytes of them are shown. -/
theorem redactIdentifier_eq_iff {key key' : String} :
    redactIdentifier key = redactIdentifier key' ↔
      ∀ front back, KeyCut key front back ↔ KeyCut key' front back := by
  constructor
  · intro heq front back
    have hshown : ∀ {key key' : String}, redactIdentifier key = redactIdentifier key' →
        KeyCut key front back → KeyCut key' front back := by
      intro key key' heq hcut
      have hsome := heq ▸ redactIdentifier_eq_some_iff.mpr ⟨front, back, hcut, rfl⟩
      obtain ⟨front', back', hcut', hshort⟩ := redactIdentifier_eq_some_iff.mp hsome
      obtain ⟨rfl, rfl⟩ := hcut.shortForm_inj hcut' hshort
      exact hcut'
    exact ⟨hshown heq, hshown heq.symm⟩
  · intro hcuts
    ext short
    simp only [redactIdentifier_eq_some_iff, hcuts]

/-! ## URLs with a key -/

/-- The schemes of RTMP. -/
inductive RtmpScheme
  | rtmp
  | rtmps

/-- How a URL begins. -/
def RtmpScheme.text : RtmpScheme → List Char
  | .rtmp => "rtmp://".toList
  | .rtmps => "rtmps://".toList

/-- The scheme, the host and the app of a URL. -/
def streamBase (scheme : RtmpScheme) (host app : List Char) : List Char :=
  scheme.text ++ (host ++ '/' :: (app ++ ['/']))

/-- **A URL with an app and something after it.** -/
def streamUrl (scheme : RtmpScheme) (host app what : List Char) : String :=
  .ofList (streamBase scheme host app ++ what)

/-- The key: what follows the app, up to the next `/`. -/
def streamKey (what : List Char) : String := .ofList ((what.splitOn '/').headD [])

/-- The part after the key. -/
def afterKey (what : List Char) : Option (List Char) := (what.splitOn '/')[1]?

/-- How the part after the key is kept. -/
def keptTail (what : List Char) : String :=
  match afterKey what with
  | none => ""
  | some part => "/" ++ .ofList part

variable {scheme : RtmpScheme} {host app what what' : List Char}

theorem stripRtmp_eq_some_iff {url rest : List Char} :
    stripRtmp url = some rest ↔ ∃ scheme : RtmpScheme, url = scheme.text ++ rest := by
  have hdrop : ∀ scheme : RtmpScheme,
      url.dropPrefix? scheme.text = some rest ↔ url = scheme.text ++ rest := by
    intro scheme
    rw [List.dropPrefix?_eq_some_iff]
    exact ⟨fun ⟨p, hp, he⟩ => eq_of_beq he ▸ hp, fun h => ⟨_, h, beq_self_eq_true _⟩⟩
  change (url.dropPrefix? RtmpScheme.rtmp.text).orElse
    (fun _ => url.dropPrefix? RtmpScheme.rtmps.text) = some rest ↔ _
  constructor
  · intro h
    cases hfirst : url.dropPrefix? RtmpScheme.rtmp.text with
    | none =>
      rw [hfirst] at h
      exact ⟨.rtmps, (hdrop .rtmps).mp h⟩
    | some rest' =>
      rw [hfirst] at h
      exact ⟨.rtmp, (hdrop .rtmp).mp (hfirst.trans h)⟩
  · rintro ⟨scheme, h⟩
    cases scheme with
    | rtmp => rw [(hdrop .rtmp).mpr h]; rfl
    | rtmps =>
      have hnone : url.dropPrefix? RtmpScheme.rtmp.text = none := by
        rw [h]
        rfl
      rw [hnone]
      exact (hdrop .rtmps).mpr h

theorem stripRtmp_streamUrl :
    stripRtmp (streamUrl scheme host app what).toList =
      some (host ++ '/' :: (app ++ '/' :: what)) := by
  refine stripRtmp_eq_some_iff.mpr ⟨scheme, ?_⟩
  rw [streamUrl, String.toList_ofList, streamBase]
  simp

theorem ofList_streamBase :
    String.ofList (streamBase .rtmp host app) =
      "rtmp://" ++ .ofList host ++ "/" ++ .ofList app ++ "/" := by
  apply String.toList_inj.mp
  simp only [String.toList_append, String.toList_ofList, streamBase, append_assoc]
  rfl

/-- **What becomes of a URL**: its scheme, and everything after the part behind the key, is lost. -/
theorem redactStreamKey_streamUrl (hhost : '/' ∉ host) (happ : '/' ∉ app) :
    redactStreamKey (streamUrl scheme host app what) =
      (redactIdentifier (streamKey what)).map fun short =>
        (.ofList (streamBase .rtmp host app) ++ short ++ keptTail what, true) := by
  unfold redactStreamKey keptTail afterKey streamKey
  rw [stripRtmp_streamUrl, ofList_streamBase]
  dsimp only
  rw [splitOn_append hhost, splitOn_append happ]
  cases hsplit : what.splitOn '/' with
  | nil => exact absurd hsplit (splitOnP_ne_nil _ _)
  | cons key tail =>
    cases tail with
    | nil => simp
    | cons part tail => simp [String.append_assoc]

theorem notMem_short {short : String} (h : redactIdentifier (streamKey what) = some short) :
    '/' ∉ short.toList := by
  obtain ⟨front, back, ⟨⟨middle, hparts⟩, -, -⟩, rfl⟩ := redactIdentifier_eq_some_iff.mp h
  rw [streamKey, String.toList_ofList] at hparts
  have hkey : '/' ∉ (what.splitOn '/').headD [] := by
    cases hsplit : what.splitOn '/' with
    | nil => simp
    | cons key tail => exact notMem_of_mem_splitOn (hsplit ▸ mem_cons_self)
  rw [hparts] at hkey
  simp only [mem_append, not_or] at hkey
  simp [shortForm, hkey.1, hkey.2.2]

theorem splitOn_short_append {short : String} (h : redactIdentifier (streamKey what) = some short) :
    (short ++ keptTail what).toList.splitOn '/' = short.toList :: (afterKey what).toList := by
  rw [keptTail]
  cases hafter : afterKey what with
  | none => simpa using splitOn_eq_self (notMem_short h)
  | some part =>
    have hpart : '/' ∉ part := notMem_of_mem_splitOn (mem_of_getElem? hafter)
    simp only [String.toList_append, String.toList_ofList]
    rw [show "/".toList = ['/'] from rfl, singleton_append, splitOn_append (notMem_short h),
      splitOn_eq_self hpart]
    rfl

/-- **A URL has no result** exactly if its key cannot be cut. -/
theorem redactStreamKey_eq_none_iff (url : String) :
    redactStreamKey url = none ↔ ∃ scheme host app what, '/' ∉ host ∧ '/' ∉ app ∧
      url = streamUrl scheme host app what ∧ ¬ Cuttable (streamKey what) := by
  constructor
  · intro h
    unfold redactStreamKey at h
    split at h
    · cases h
    · next rest hstrip =>
      split at h
      · next host app key tail hsplit =>
        obtain ⟨scheme, hurl⟩ := stripRtmp_eq_some_iff.mp hstrip
        obtain ⟨rest', rfl, hhost, hsplit⟩ := splitOn_eq_cons_cons_iff.mp hsplit
        obtain ⟨what, rfl, happ, hsplit⟩ := splitOn_eq_cons_cons_iff.mp hsplit
        refine ⟨scheme, host, app, what, hhost, happ, ?_, ?_⟩
        · apply String.toList_inj.mp
          rw [hurl, streamUrl, String.toList_ofList, streamBase]
          simp
        · rw [← redactIdentifier_ne_none_iff, not_not, streamKey, hsplit]
          exact Option.map_eq_none_iff.mp h
      · cases h
  · rintro ⟨scheme, host, app, what, hhost, happ, rfl, hcut⟩
    rw [redactStreamKey_streamUrl hhost happ, Option.map_eq_none_iff]
    rwa [← redactIdentifier_ne_none_iff, not_not] at hcut

/-- **Two URLs have the same result** if their keys have the same short form, and what is behind
them is the same. -/
theorem redactStreamKey_eq_iff (hhost : '/' ∉ host) (happ : '/' ∉ app) :
    redactStreamKey (streamUrl scheme host app what) =
        redactStreamKey (streamUrl scheme host app what') ↔
      redactIdentifier (streamKey what) = redactIdentifier (streamKey what') ∧
        (Cuttable (streamKey what) → afterKey what = afterKey what') := by
  rw [redactStreamKey_streamUrl hhost happ, redactStreamKey_streamUrl hhost happ,
    ← redactIdentifier_ne_none_iff]
  cases hshort : redactIdentifier (streamKey what) with
  | none =>
    cases hshort' : redactIdentifier (streamKey what') with
    | _ => simp
  | some short =>
    cases hshort' : redactIdentifier (streamKey what') with
    | none => simp
    | some short' =>
      -- the fields of what is kept are the short form and the parts behind it
      have hinj : short ++ keptTail what = short' ++ keptTail what' ↔
          short = short' ∧ afterKey what = afterKey what' := by
        refine ⟨fun heq => ?_, fun ⟨hs, hafter⟩ => by rw [hs, keptTail, keptTail, hafter]⟩
        have hfields := splitOn_short_append hshort
        rw [heq, splitOn_short_append hshort'] at hfields
        obtain ⟨hs, hafter⟩ := List.cons.inj hfields
        have hhead := congrArg List.head? hafter
        rw [Option.head?_toList, Option.head?_toList] at hhead
        exact ⟨(String.toList_inj.mp hs).symm, hhead.symm⟩
      simp only [Option.map_some, Option.some.injEq, Prod.mk.injEq, and_true, String.append_assoc,
        ne_eq, reduceCtorEq, not_false_eq_true, forall_const]
      rw [String.append_right_inj, hinj]

/-! ## Keys with the same ends -/

/-- Texts of the same length with the same first three and last three characters. -/
structure SameEnds (what what' : List Char) : Prop where
  length : what.length = what'.length
  front : what.take 3 = what'.take 3
  back : what.drop (what.length - 3) = what'.drop (what'.length - 3)

theorem utf8ByteSize_of_ascii (h : ∀ c ∈ what, c.utf8Size = 1) :
    (String.ofList what).utf8ByteSize = what.length := by
  rw [utf8ByteSize_eq_byteLength, String.toList_ofList, byteLength_eq_length h]

theorem redactIdentifier_of_ascii (h : ∀ c ∈ what, c.utf8Size = 1) {n : Nat}
    (hn : n = shownKeyBytes (.ofList what)) :
    redactIdentifier (.ofList what) =
      some (shortForm (what.take n) (what.drop (what.length - n))) := by
  have hsplit : ∀ m ≤ what.length, splitBytes what m = some (what.take m, what.drop m) := by
    intro m hm
    refine splitBytes_eq_some_iff.mpr ⟨(take_append_drop m what).symm, ?_⟩
    rw [byteLength_eq_length fun c hc => h c (mem_of_mem_take hc), length_take,
      Nat.min_eq_left hm]
  have hle := three_mul_shownKeyBytes_le (.ofList what)
  rw [utf8ByteSize_of_ascii h] at hle
  rw [redactIdentifier_eq, String.toList_ofList, utf8ByteSize_of_ascii h, ← hn,
    hsplit n (by omega), hsplit (what.length - n) (by omega)]
  rfl

theorem SameEnds.redactIdentifier_eq (hends : SameEnds what what')
    (h : ∀ c ∈ what, c.utf8Size = 1) (h' : ∀ c ∈ what', c.utf8Size = 1) :
    redactIdentifier (.ofList what) = redactIdentifier (.ofList what') := by
  have hshown : shownKeyBytes (.ofList what) = shownKeyBytes (.ofList what') := by
    rw [shownKeyBytes, shownKeyBytes, utf8ByteSize_of_ascii h, utf8ByteSize_of_ascii h',
      hends.length]
  rw [redactIdentifier_of_ascii h rfl, redactIdentifier_of_ascii h' hshown]
  have hthree := shownKeyBytes_le_three (.ofList what)
  have hthird := three_mul_shownKeyBytes_le (.ofList what)
  rw [utf8ByteSize_of_ascii h] at hthird
  generalize shownKeyBytes (.ofList what) = n at hthree hthird
  have hlength := hends.length
  -- either nothing is shown, or the text has three characters and what is shown is among them
  have hfront : ∀ cs : List Char, cs.take n = (cs.take 3).take n := by
    intro cs
    rw [take_take, Nat.min_eq_left hthree]
  have hback : ∀ cs : List Char, cs.length = what.length →
      cs.drop (cs.length - n) = (cs.drop (cs.length - 3)).drop (min cs.length 3 - n) := by
    intro cs hcs
    rw [drop_drop]
    congr 1
    omega
  rw [hfront what, hfront what', hends.front, hback what rfl, hback what' hlength.symm, hends.back,
    hlength]

/-- **When the stream key is redacted safely.** There is a result exactly if the key can be cut, and
it keeps the scheme exactly if that is `rtmp`. Two URLs have the same result exactly if the same
first and last bytes of their keys are shown and the parts after them are the same; so it is if the
keys are one-byte characters with the same ends, and nothing follows them. -/
theorem streamKey_redacted_iff (scheme : RtmpScheme) (host app what what' : List Char)
    (hhost : '/' ∉ host) (happ : '/' ∉ app) :
    (∀ url, redactStreamKey url = none ↔ ∃ scheme host app what, '/' ∉ host ∧ '/' ∉ app ∧
      url = streamUrl scheme host app what ∧ ¬ Cuttable (streamKey what)) ∧
    (Cuttable (streamKey what) →
      ((∃ out, redactStreamKey (streamUrl scheme host app what) = some (out, true) ∧
        streamBase scheme host app <+: out.toList) ↔ scheme = .rtmp)) ∧
    (redactStreamKey (streamUrl scheme host app what) =
        redactStreamKey (streamUrl scheme host app what') ↔
      (∀ front back, KeyCut (streamKey what) front back ↔ KeyCut (streamKey what') front back) ∧
        (Cuttable (streamKey what) → afterKey what = afterKey what')) ∧
    ((∀ c ∈ what ++ what', c.utf8Size = 1 ∧ c ≠ '/') → SameEnds what what' →
      redactStreamKey (streamUrl scheme host app what) =
        redactStreamKey (streamUrl scheme host app what')) := by
  refine ⟨redactStreamKey_eq_none_iff, ?_, (redactStreamKey_eq_iff hhost happ).trans
    (and_congr_left' redactIdentifier_eq_iff), ?_⟩
  · intro hcut
    obtain ⟨short, hshort⟩ := Option.ne_none_iff_exists'.mp (redactIdentifier_ne_none_iff.mpr hcut)
    rw [redactStreamKey_streamUrl hhost happ, hshort]
    constructor
    · rintro ⟨out, hout, hkept⟩
      cases hout
      cases scheme with
      | rtmp => rfl
      | rtmps =>
        obtain ⟨rest, hrest⟩ := hkept
        rw [String.toList_append, String.toList_append, String.toList_ofList] at hrest
        have hfifth : some 's' = some ':' := congrArg (·[4]?) hrest
        simp at hfifth
    · rintro rfl
      refine ⟨_, rfl, ?_⟩
      rw [String.toList_append, String.toList_append, String.toList_ofList, append_assoc]
      exact prefix_append _ _
  · intro hall hends
    have hself : ∀ cs : List Char, (∀ c ∈ cs, c.utf8Size = 1 ∧ c ≠ '/') → cs.splitOn '/' = [cs] :=
      fun cs hcs => splitOn_eq_self fun hmem => (hcs _ hmem).2 rfl
    have hwhat := fun c hc => hall c (mem_append_left what' hc)
    have hwhat' := fun c hc => hall c (mem_append_right what hc)
    rw [redactStreamKey_eq_iff hhost happ, streamKey, streamKey, afterKey, afterKey,
      hself what hwhat, hself what' hwhat']
    exact ⟨hends.redactIdentifier_eq (fun c hc => (hwhat c hc).1) fun c hc => (hwhat' c hc).1,
      fun _ => rfl⟩

theorem streamKey_redacted_alike :
    redactStreamKey (streamUrl .rtmp "a.example".toList "live2".toList "abc123xyz".toList) =
      redactStreamKey (streamUrl .rtmp "a.example".toList "live2".toList "abc456xyz".toList) :=
  (streamKey_redacted_iff .rtmp "a.example".toList "live2".toList "abc123xyz".toList
    "abc456xyz".toList (by decide +kernel) (by decide +kernel)).2.2.2 (by simp [Char.utf8Size])
      ⟨by decide +kernel, by decide +kernel, by decide +kernel⟩

/-- **A key that is no one-byte text has no result**, the scheme `rtmps` is written as `rtmp`, and
two URLs whose ends after the app are the same differ in the part behind the key. -/
theorem streamKey_shown :
    redactStreamKey "rtmp://a.example/live2/ab€€€" = none ∧
      redactStreamKey "rtmps://a.example/live2/abc123xyz" =
        some ("rtmp://a.example/live2/\x7babc...xyz\x7d", true) ∧
      SameEnds "abc/123/xyz".toList "abc/456/xyz".toList ∧
      redactStreamKey "rtmp://a.example/live2/abc/123/xyz" =
        some ("rtmp://a.example/live2/\x7ba...c\x7d/123", true) ∧
      redactStreamKey "rtmp://a.example/live2/abc/456/xyz" =
        some ("rtmp://a.example/live2/\x7ba...c\x7d/456", true) :=
  ⟨by decide +kernel, by decide +kernel,
    ⟨by decide +kernel, by decide +kernel, by decide +kernel⟩, by decide +kernel, by decide +kernel⟩

end LivekitVoice
