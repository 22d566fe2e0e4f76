import LivekitVoice.Codec.Bytes

/-! # The WAV writer

A WAV file begins with a header of 44 bytes that holds its sizes, which are not known before the
end: the writer puts zeros first, appends the samples, and goes back to write the header when it is
finished. It counts the bytes in 64 bits, and the header has 32 for each size.

* **`wavFile_eq`** — the file is the header and then the samples,
* **`wellFormed_iff`** — the file can be read back exactly if its size fits the header. -/

namespace LivekitVoice

open List

/-! ## The writer -/

/-- The writer: the file, where the next byte goes, and what the header is made from. -/
structure WavWriter where
  file : List UInt8
  pos : Nat
  channels : UInt16
  sampleRate : UInt32
  dataBytes : UInt64

/-- `to_le_bytes` of 16 bits. -/
def le16 (x : UInt16) : List UInt8 := [.ofNat x.toNat, .ofNat (x.toNat / 256)]

/-- `to_le_bytes` of 32 bits. -/
def le32 (x : UInt32) : List UInt8 :=
  [.ofNat x.toNat, .ofNat (x.toNat / 256), .ofNat (x.toNat / 65536), .ofNat (x.toNat / 16777216)]

/-- The bytes of samples. -/
def pcmBytes (pcm : List Int16) : List UInt8 := pcm.flatMap fun s => le16 s.toUInt16

/-- A tag of four letters. -/
def tag (name : String) : List UInt8 := name.toList.map Char.toUInt8

namespace WavWriter

/-- `write_all`: over what is there, and then beyond the end. -/
def writeAll (w : WavWriter) (bytes : List UInt8) : WavWriter :=
  { w with
    file := w.file.take w.pos ++ bytes ++ w.file.drop (w.pos + bytes.length)
    pos := w.pos + bytes.length }

/-- `create`: the place of the header is filled with zeros. -/
def create (channels : UInt16) (sampleRate : UInt32) : WavWriter :=
  writeAll ⟨[], 0, channels, sampleRate, 0⟩ (List.replicate 44 0)

/-- `write_pcm`. -/
def writePcm (w : WavWriter) (pcm : List Int16) : WavWriter :=
  { w.writeAll (pcmBytes pcm) with
    dataBytes := w.dataBytes + .ofNat (pcmBytes pcm).length }

/-- The header. -/
def header (w : WavWriter) : List UInt8 :=
  let blockAlign := w.channels * 2
  let byteRate := w.sampleRate * blockAlign.toUInt32
  let total := 36 + w.dataBytes
  tag "RIFF" ++ le32 total.toUInt32 ++ tag "WAVE" ++ tag "fmt " ++ le32 16 ++ le16 1 ++
    le16 w.channels ++ le32 w.sampleRate ++ le32 byteRate ++ le16 blockAlign ++ le16 16 ++
    tag "data" ++ le32 w.dataBytes.toUInt32

/-- **`finish`**: the header is written at the beginning. -/
def finish (w : WavWriter) : WavWriter := { w with pos := 0 }.writeAll w.header

end WavWriter

/-- The writer after some calls of `write_pcm`. -/
def written (channels : UInt16) (sampleRate : UInt32) (calls : List (List Int16)) : WavWriter :=
  calls.foldl WavWriter.writePcm (.create channels sampleRate)

/-- **The file** of a finished writer. -/
def wavFile (channels : UInt16) (sampleRate : UInt32) (calls : List (List Int16)) : List UInt8 :=
  (written channels sampleRate calls).finish.file

/-! ## Reading a file -/

/-- The 32-bit number at a place. -/
def u32At (file : List UInt8) (i : Nat) : Nat := Radix.bigEndian ((file.drop i).take 4).reverse

/-- Little-endian samples of 16 bits. -/
def readSamples : List UInt8 → List Int16
  | a :: b :: bytes => (UInt16.ofNat (a.toNat + 256 * b.toNat)).toInt16 :: readSamples bytes
  | _ => []

/-- **A well-formed file with these samples.** -/
structure WellFormedWav (file : List UInt8) (samples : List Int16) : Prop where
  riff : file.take 4 = tag "RIFF"
  wave : (file.drop 8).take 8 = tag "WAVEfmt "
  data : (file.drop 36).take 4 = tag "data"
  riffSize : u32At file 4 + 8 = file.length
  dataSize : u32At file 40 + 44 = file.length
  samples : readSamples ((file.drop 44).take (u32At file 40)) = samples

variable {channels : UInt16} {sampleRate : UInt32} {calls : List (List Int16)}

theorem WavWriter.writeAll_end (w : WavWriter) (bytes : List UInt8) (h : w.pos = w.file.length) :
    w.writeAll bytes = { w with file := w.file ++ bytes, pos := w.pos + bytes.length } := by
  simp [writeAll, h]

theorem pcmBytes_append (pcm pcm' : List Int16) :
    pcmBytes (pcm ++ pcm') = pcmBytes pcm ++ pcmBytes pcm' :=
  flatMap_append

theorem length_pcmBytes (pcm : List Int16) : (pcmBytes pcm).length = 2 * pcm.length := by
  induction pcm with
  | nil => rfl
  | cons s pcm ih =>
    rw [← singleton_append, pcmBytes_append, length_append, ih, length_append,
      Nat.mul_add]
    rfl

/-- **A writer that has not been finished** has the zeros, then the samples of all calls. -/
theorem written_eq :
    written channels sampleRate calls =
      { file := List.replicate 44 0 ++ pcmBytes calls.flatten
        pos := 44 + (pcmBytes calls.flatten).length
        channels := channels
        sampleRate := sampleRate
        dataBytes := .ofNat (pcmBytes calls.flatten).length } := by
  induction calls using List.reverseRecOn with
  | nil => rfl
  | append_singleton calls pcm ih =>
    rw [written, foldl_concat, ← written, ih, WavWriter.writePcm, WavWriter.writeAll_end _ _
      (by rw [length_append, length_replicate]), flatten_append,
      flatten_singleton, pcmBytes_append, length_append, UInt64.ofNat_add]
    simp [Nat.add_assoc]

theorem length_le32 (x : UInt32) : (le32 x).length = 4 := rfl

theorem length_tag :
    (tag "RIFF").length = 4 ∧ (tag "WAVEfmt ").length = 8 ∧ (tag "data").length = 4 := by
  decide +kernel

theorem header_eq (w : WavWriter) :
    ∃ format : List UInt8, format.length = 20 ∧
      w.header = tag "RIFF" ++ (le32 (36 + w.dataBytes).toUInt32 ++
        (tag "WAVEfmt " ++ (format ++ (tag "data" ++ le32 w.dataBytes.toUInt32)))) := by
  have htags : tag "WAVEfmt " = tag "WAVE" ++ tag "fmt " := by decide +kernel
  refine ⟨le32 16 ++ le16 1 ++ le16 w.channels ++ le32 w.sampleRate ++
    le32 (w.sampleRate * (w.channels * 2).toUInt32) ++ le16 (w.channels * 2) ++ le16 16, rfl, ?_⟩
  simp [WavWriter.header, htags, append_assoc]

theorem length_header (w : WavWriter) : w.header.length = 44 := by
  obtain ⟨hriff, hwave, hdata⟩ := length_tag
  obtain ⟨format, hformat, hheader⟩ := header_eq w
  simp [hheader, length_append, hriff, hwave, hdata, hformat, length_le32]

/-- **The file is the header and the samples.** -/
theorem wavFile_eq :
    wavFile channels sampleRate calls =
      (written channels sampleRate calls).header ++ pcmBytes calls.flatten := by
  rw [wavFile, WavWriter.finish, WavWriter.writeAll]
  simp only [length_header, take_zero, nil_append, Nat.zero_add]
  rw [written_eq]
  exact congrArg _ (drop_left' (length_replicate ..))

theorem length_wavFile :
    (wavFile channels sampleRate calls).length = 44 + 2 * calls.flatten.length := by
  rw [wavFile_eq, length_append, length_header, length_pcmBytes]

/-! ## Reading it back -/

theorem bigEndian_le32 (x : UInt32) : Radix.bigEndian (le32 x).reverse = x.toNat := by
  have hx := x.toNat_lt
  change Radix.bigEndian [_, _, _, _] = _
  rw [Radix.bigEndian_cons, Radix.bigEndian_cons, Radix.bigEndian_cons, Radix.bigEndian_singleton]
  simp only [UInt8.toNat_ofNat', length_cons, length_nil]
  omega

theorem u32At_append {before after : List UInt8} {i : Nat} (x : UInt32) (h : before.length = i) :
    u32At (before ++ (le32 x ++ after)) i = x.toNat := by
  rw [u32At, drop_left' h, take_left' (length_le32 x), bigEndian_le32]

theorem u32At_wavFile (channels : UInt16) (sampleRate : UInt32) (calls : List (List Int16)) :
    u32At (wavFile channels sampleRate calls) 4 = (36 + 2 * calls.flatten.length) % 4294967296 ∧
      u32At (wavFile channels sampleRate calls) 40 =
        2 * calls.flatten.length % 4294967296 := by
  obtain ⟨hriff, hwave, hdata⟩ := length_tag
  obtain ⟨format, hformat, hheader⟩ := header_eq (written channels sampleRate calls)
  rw [wavFile_eq, hheader, written_eq, length_pcmBytes]
  constructor
  · rw [append_assoc, append_assoc, u32At_append _ hriff]
    simp
  · simp only [← append_assoc]
    rw [append_assoc, u32At_append _ (by simp [hriff, hwave, hformat, hdata, length_le32])]
    simp

/-- **Samples can be read back.** -/
theorem readSamples_pcmBytes (pcm : List Int16) : readSamples (pcmBytes pcm) = pcm := by
  induction pcm with
  | nil => rfl
  | cons s pcm ih =>
    have hs : UInt16.ofNat ((UInt8.ofNat s.toUInt16.toNat).toNat +
        256 * (UInt8.ofNat (s.toUInt16.toNat / 256)).toNat) = s.toUInt16 := by
      have hlt := s.toUInt16.toNat_lt
      apply UInt16.toNat_inj.mp
      simp only [UInt16.toNat_ofNat', UInt8.toNat_ofNat']
      omega
    exact congrArg₂ List.cons (by rw [hs, Int16.toInt16_toUInt16]) ih

/-- **When the file can be read back**: exactly if its size fits in the 32 bits of the header. -/
theorem wellFormed_iff (channels : UInt16) (sampleRate : UInt32) (calls : List (List Int16)) :
    WellFormedWav (wavFile channels sampleRate calls) calls.flatten ↔
      36 + 2 * calls.flatten.length < 4294967296 := by
  obtain ⟨hriff, hdata⟩ := u32At_wavFile channels sampleRate calls
  constructor
  · intro h
    have hsize := h.riffSize
    rw [hriff, length_wavFile] at hsize
    omega
  · intro hfits
    rw [Nat.mod_eq_of_lt (by omega)] at hriff hdata
    obtain ⟨hriff4, hwave8, hdata4⟩ := length_tag
    obtain ⟨format, hformat, hheader⟩ := header_eq (written channels sampleRate calls)
    refine ⟨?_, ?_, ?_, ?_, ?_, ?_⟩
    · rw [wavFile_eq, hheader, append_assoc, take_left' hriff4]
    · rw [wavFile_eq, hheader]
      simp [drop_append, take_append, drop_of_length_le, hriff4, hwave8,
        length_le32]
    · rw [wavFile_eq, hheader]
      simp [drop_append, take_append, drop_of_length_le, hriff4, hwave8, hdata4,
        hformat, length_le32]
    · rw [hriff, length_wavFile]
      omega
    · rw [hdata, length_wavFile]
      omega
    · rw [hdata, wavFile_eq, drop_left' (length_header _), ← length_pcmBytes, take_length,
        readSamples_pcmBytes]

/-- **Twelve and a half hours of silence** in one channel have a RIFF size of zero. -/
theorem wav_wraps :
    u32At (wavFile 1 48000 [List.replicate 2147483630 0]) 4 = 0 ∧
      (wavFile 1 48000 [List.replicate 2147483630 0]).length = 4294967304 := by
  rw [(u32At_wavFile _ _ _).1, length_wavFile, flatten_singleton, length_replicate]
  decide

end LivekitVoice
