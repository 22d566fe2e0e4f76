import LivekitVoice.Text.Decimal
import LivekitVoice.Text.Trim

/-! # The audio-level extension of an offer

`audio_level_ext_id_from_sdp` looks through the lines of an offer for the `extmap` line that gives
the audio-level header extension its number. It reads the number and the URI of every `extmap` line
on its way, and the first of them that it cannot read ends the search.

* **`audioLevelExtId_iff`** — when the number of the line is returned. -/

namespace LivekitVoice.ExtMap

open Text

/-- `u8`: as for the signed types, but without a minus. -/
def parseU8 (cs : List Char) : Option Int :=
  if cs.head? = some '-' then none else parseInt 0 255 cs

/-- `m=`. -/
def mediaMark : List Char := ['m', '=']

/-- `m=audio`. -/
def audioMark : List Char := ['m', '=', 'a', 'u', 'd', 'i', 'o']

/-- `a=extmap:`. -/
def extmapMark : List Char := ['a', '=', 'e', 'x', 't', 'm', 'a', 'p', ':']

/-- `ssrc-audio-level`. -/
def ssrcAudioLevel : List Char :=
  ['s', 's', 'r', 'c', '-', 'a', 'u', 'd', 'i', 'o', '-', 'l', 'e', 'v', 'e', 'l']

/-- The number and the URI of an `extmap` line, from what follows the mark. -/
def readExtmap (ext : List Char) : Option (Int × List Char) :=
  match splitWhitespace ext with
  | id :: uri :: _ => (parseU8 id).map fun n => (n, uri)
  | _ => none

/-- The loop over the lines. -/
def scan (inAudio : Bool) : List (List Char) → Option Int
  | [] => none
  | line :: rest =>
    if mediaMark.isPrefixOf (trim line) then scan (audioMark.isPrefixOf (trim line)) rest
    else if inAudio = false then scan inAudio rest
    else
      match (trim line).dropPrefix? extmapMark with
      | none => scan inAudio rest
      | some ext =>
        match readExtmap ext with
        | none => none
        | some (id, uri) => if hasInfix ssrcAudioLevel uri then some id else scan inAudio rest

/-- `audio_level_ext_id_from_sdp`. -/
def audioLevelExtIdFromSdp (sdp : List Char) : Option Int := scan false (lines sdp)

/-! ## Offers -/

/-- The line is an `extmap` line with these words. -/
def HasWords (line : List Char) (words : List (List Char)) : Prop :=
  ∃ ext, (trim line).dropPrefix? extmapMark = some ext ∧ splitWhitespace ext = words

/-- An `extmap` line whose number and URI can be read, or another line. -/
def Readable (line : List Char) : Prop :=
  ∀ ext ∈ (trim line).dropPrefix? extmapMark, (readExtmap ext).isSome

/-- **An offer whose first audio section has an audio-level line**, and no other before it. -/
structure AudioOffer (sdp : List Char) where
  /-- The session, and the sections before the first audio section. -/
  session : List (List Char)
  audio : List Char
  before : List (List Char)
  target : List Char
  /-- The rest of the section, and all others. -/
  after : List (List Char)
  id : Int
  digits : List Char
  /-- The direction, with its slash, or nothing. -/
  direction : List Char
  uri : List Char
  more : List (List Char)
  lines_eq : lines sdp = session ++ audio :: (before ++ target :: after)
  session_spec : ∀ line ∈ session, audioMark.isPrefixOf (trim line) = false
  audio_spec : audioMark.isPrefixOf (trim audio)
  before_spec : ∀ line ∈ before, mediaMark.isPrefixOf (trim line) = false ∧
    ∀ word uri more, HasWords line (word :: uri :: more) → hasInfix ssrcAudioLevel uri = false
  target_spec : HasWords target ((digits ++ direction) :: uri :: more)
  uri_spec : hasInfix ssrcAudioLevel uri
  digits_spec : parseU8 digits = some id
  direction_spec : direction = [] ∨ direction.head? = some '/'

variable {sdp : List Char} {session before rest : List (List Char)} {line : List Char}

theorem readExtmap_eq_some {ext uri : List Char} {n : Int} (h : readExtmap ext = some (n, uri)) :
    ∃ word more, splitWhitespace ext = word :: uri :: more ∧ parseU8 word = some n := by
  unfold readExtmap at h
  split at h
  · next word uri' more hwords =>
    obtain ⟨m, hparse, heq⟩ := Option.map_eq_some_iff.mp h
    obtain ⟨rfl, rfl⟩ := Prod.mk.inj heq
    exact ⟨word, more, hwords, hparse⟩
  · cases h

theorem parseU8_slash {digits direction : List Char} (h : direction.head? = some '/') :
    parseU8 (digits ++ direction) = none := by
  refine Option.eq_none_iff_forall_not_mem.mpr fun n hn => ?_
  rw [Option.mem_def, parseU8] at hn
  split at hn
  · cases hn
  · obtain ⟨t, ht, -⟩ := parseInt_eq_some_iff.mp hn
    have hslash : '/' ∈ t.chars := ht ▸ List.mem_append_right _ (List.mem_of_mem_head? h)
    exact Numeral.not_mem_chars (by decide) (by decide) (by decide) hslash

theorem scan_session (h : ∀ line ∈ session, audioMark.isPrefixOf (trim line) = false) :
    scan false (session ++ rest) = scan false rest := by
  induction session with
  | nil => rfl
  | cons line session ih =>
    obtain ⟨hline, hsession⟩ := List.forall_mem_cons.mp h
    rw [List.cons_append, scan, hline, ih hsession]
    simp

/-- **The lines before the audio-level line** are passed exactly if they can be read. -/
theorem scan_before {id : Int} (hrest : ∀ line ∈ before, mediaMark.isPrefixOf (trim line) = false ∧
      ∀ word uri more, HasWords line (word :: uri :: more) → hasInfix ssrcAudioLevel uri = false) :
    scan true (before ++ rest) = some id ↔
      (∀ line ∈ before, Readable line) ∧ scan true rest = some id := by
  induction before with
  | nil => simp
  | cons line before ih =>
    obtain ⟨⟨hmedia, hother⟩, hbefore⟩ := List.forall_mem_cons.mp hrest
    rw [List.forall_mem_cons, and_assoc, ← ih hbefore, List.cons_append, scan, hmedia]
    cases hext : (trim line).dropPrefix? extmapMark with
    | none => simp [Readable, hext]
    | some ext =>
      cases hread : readExtmap ext with
      | none => simp [Readable, hext, hread]
      | some found =>
        obtain ⟨n, uri⟩ := found
        obtain ⟨word, more, hwords, -⟩ := readExtmap_eq_some hread
        have huri := hother word uri more ⟨ext, hext, hwords⟩
        simp [Readable, hext, hread, huri]

/-- **When the number is found**, over every offer whose first audio section has an audio-level
line, whatever its other lines and sections are. -/
theorem audioLevelExtId_iff (o : AudioOffer sdp) :
    audioLevelExtIdFromSdp sdp = some o.id ↔
      o.direction = [] ∧ ∀ line ∈ o.before, Readable line := by
  obtain ⟨ext, hext, hwords⟩ := o.target_spec
  have hmedia : mediaMark.isPrefixOf (trim o.target) = false := by
    rw [dropPrefix_eq_some_iff.mp hext]
    rfl
  have htarget : scan true (o.target :: o.after) = some o.id ↔ o.direction = [] := by
    rw [scan, hmedia]
    simp only [hext, readExtmap, hwords]
    rcases o.direction_spec with hnone | hslash
    · simp [hnone, o.digits_spec, o.uri_spec]
    · have hne : o.direction ≠ [] := by
        intro h
        simp [h] at hslash
      simp [parseU8_slash hslash, hne]
  rw [audioLevelExtIdFromSdp, o.lines_eq, scan_session o.session_spec, scan, o.audio_spec,
    if_pos (List.isPrefixOf_iff_prefix.mpr (List.IsPrefix.trans (by decide)
      (List.isPrefixOf_iff_prefix.mp o.audio_spec))), scan_before o.before_spec, htarget, and_comm]

/-- An offer with three sections; the audio section is the second, and has other `extmap` lines
before and after the one that is looked for. -/
def fullOffer : List Char :=
  ("v=0\r\nm=video 9\r\na=extmap:3 urn:orientation\r\nm=audio 9\r\na=extmap:2 urn:mid\r\n" ++
    "a=extmap:1 urn:ssrc-audio-level\r\na=extmap:4 urn:toffset\r\nm=application 9").toList

/-- Its parts. -/
def fullAudioOffer : AudioOffer fullOffer where
  session := ["v=0".toList, "m=video 9".toList, "a=extmap:3 urn:orientation".toList]
  audio := "m=audio 9".toList
  before := ["a=extmap:2 urn:mid".toList]
  target := "a=extmap:1 urn:ssrc-audio-level".toList
  after := ["a=extmap:4 urn:toffset".toList, "m=application 9".toList]
  id := 1
  digits := ['1']
  direction := []
  uri := "urn:ssrc-audio-level".toList
  more := []
  lines_eq := by decide +kernel
  session_spec := by decide +kernel
  audio_spec := by decide +kernel
  before_spec := by
    refine List.forall_mem_singleton.mpr ⟨by decide +kernel, ?_⟩
    rintro word uri more ⟨ext, hext, hwords⟩
    have hsome : (trim "a=extmap:2 urn:mid".toList).dropPrefix? extmapMark =
        some "2 urn:mid".toList := by decide +kernel
    cases hsome.symm.trans hext
    have hsplit : splitWhitespace "2 urn:mid".toList = [['2'], "urn:mid".toList] := by
      decide +kernel
    obtain ⟨-, huri⟩ := List.cons.inj (hsplit.symm.trans hwords)
    rw [← (List.cons.inj huri).1]
    decide +kernel
  target_spec := ⟨"1 urn:ssrc-audio-level".toList, by decide +kernel, by decide +kernel⟩
  uri_spec := by decide +kernel
  digits_spec := by decide +kernel
  direction_spec := .inl rfl

/-- Its number is found. -/
theorem audioLevelExtId_iff_full : audioLevelExtIdFromSdp fullOffer = some 1 := by
  have hreadable : ∀ ext ∈ (trim "a=extmap:2 urn:mid".toList).dropPrefix? extmapMark,
      (readExtmap ext).isSome := by decide +kernel
  exact (audioLevelExtId_iff fullAudioOffer).mpr ⟨rfl, List.forall_mem_singleton.mpr hreadable⟩

/-- **An offer that is missed**: a direction behind the number, and an unrelated line before it
whose number has one. -/
theorem audioLevelExtId_missed :
    audioLevelExtIdFromSdp ("m=audio 9 UDP/TLS/RTP/SAVPF 111\r\n" ++
      "a=extmap:1/sendonly urn:ietf:params:rtp-hdrext:ssrc-audio-level\r\n").toList = none ∧
    audioLevelExtIdFromSdp ("m=audio 9 UDP/TLS/RTP/SAVPF 111\r\n" ++
      "a=extmap:2/recvonly urn:ietf:params:rtp-hdrext:sdes:mid\r\n" ++
      "a=extmap:1 urn:ietf:params:rtp-hdrext:ssrc-audio-level\r\n").toList = none := by
  decide +kernel

end LivekitVoice.ExtMap
