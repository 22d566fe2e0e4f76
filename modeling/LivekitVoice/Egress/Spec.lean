import Mathlib.Data.Rat.Defs
import LivekitVoice.Egress.Request
import LivekitVoice.Flow.Result

/-! # What is recorded, and where it is uploaded to

`rec_spec` reads off a request the room, the format of the file, where the file goes and its path.
The upload is that of the output or of its storage; without one it is the default of the recorder's
own config, the first of its `s3`, `gcp` and `azure` blocks, and without any of them the file stays
where it is.

* **`recSpec_destination`** — which upload of a request is used,
* **`destination_iff`** — when the file goes where the request says. -/

namespace LivekitVoice

/-! ## The config of the recorder -/

/-- The `s3` block: it has the fields of an upload in a request. -/
abbrev S3Config := S3Upload

/-- The `gcp` block. -/
structure GcpConfig where
  credentials : String
  bucket : String
  metadata : List (String × String)
  tagging : String
  contentDisposition : String

/-- The `azure` block. -/
structure AzureConfig where
  accountName : String
  accountKey : String
  containerName : String
  metadata : List (String × String)
  tagging : String
  contentDisposition : String

/-- The `alioss` block: it has the fields of an upload in a request. -/
abbrev AliOssConfig := AliOssUpload

/-- The `cpu_cost` block. -/
structure CpuCostConfig where
  roomCompositeCpuCost : Rat

/-- **The config of the recorder.** -/
structure EgressConfig where
  s3 : Option S3Config := none
  gcp : Option GcpConfig := none
  azure : Option AzureConfig := none
  alioss : Option AliOssConfig := none
  cpuCost : Option CpuCostConfig := none
  s3AssumeRoleKey : String := ""
  s3AssumeRoleSecret : String := ""
  s3AssumeRoleArn : String := ""
  s3AssumeRoleExternalId : String := ""

/-! ## Destinations -/

/-- An upload to S3, with the role to assume. -/
structure S3Target where
  accessKey : String
  secret : String
  sessionToken : String
  region : String
  endpoint : String
  bucket : String
  forcePathStyle : Bool
  metadata : List (String × String)
  tagging : String
  contentDisposition : String
  assumeRoleArn : String
  assumeRoleExternalId : String

/-- An upload to Google Cloud Storage. -/
structure GcpTarget where
  credentials : String
  bucket : String
  metadata : List (String × String)
  tagging : String
  contentDisposition : String

/-- An upload to Azure. -/
structure AzureTarget where
  accountName : String
  accountKey : String
  containerName : String
  metadata : List (String × String)
  tagging : String
  contentDisposition : String

/-- **Where a finished recording goes.** -/
inductive Destination
  | localFile
  | s3 (target : S3Target)
  | gcp (target : GcpTarget)
  | azure (target : AzureTarget)

/-- AliOSS is parsed, and refused. -/
def unsupportedAlioss : String := "aliOSS upload is not supported on the voice-only recorder"

/-- The first of two texts, unless it is empty. -/
def orElseText (text default : String) : String := if text = "" then default else text

/-- An upload to S3. The role is that of the config if the upload names none, and so are the keys
if there is a role and the upload has no key. -/
def s3Destination (s3 : S3Upload) (conf : EgressConfig) : Except String Destination :=
  if s3.proxy.isSome then .error "s3 proxy is not supported on the voice-only recorder"
  else
    let assumeRoleArn := orElseText s3.assumeRoleArn conf.s3AssumeRoleArn
    let ofConfig := assumeRoleArn ≠ "" ∧ s3.accessKey = ""
    .ok <| .s3
      { accessKey := if ofConfig then conf.s3AssumeRoleKey else s3.accessKey
        secret := if ofConfig then conf.s3AssumeRoleSecret else s3.secret
        sessionToken := s3.sessionToken
        region := s3.region
        endpoint := s3.endpoint
        bucket := s3.bucket
        forcePathStyle := s3.forcePathStyle
        metadata := s3.metadata
        tagging := s3.tagging
        contentDisposition := s3.contentDisposition
        assumeRoleArn := assumeRoleArn
        assumeRoleExternalId :=
          orElseText s3.assumeRoleExternalId conf.s3AssumeRoleExternalId }

/-- An upload to Google Cloud Storage. -/
def gcpDestination (g : GcpUpload) : Except String Destination :=
  if g.proxy.isSome then .error "gcp proxy is not supported on the voice-only recorder"
  else .ok (.gcp ⟨g.credentials, g.bucket, [], "", ""⟩)

/-- An upload to Azure. -/
def azureDestination (a : AzureBlobUpload) : Destination :=
  .azure ⟨a.accountName, a.accountKey, a.containerName, [], "", ""⟩

/-- **The default of the config**: the first of its blocks, or the local disk. -/
def confDefault (conf : EgressConfig) : Except String Destination :=
  match conf.s3, conf.gcp, conf.azure, conf.alioss with
  | some c, _, _, _ => s3Destination c conf
  | none, some g, _, _ =>
    .ok (.gcp ⟨g.credentials, g.bucket, g.metadata, g.tagging, g.contentDisposition⟩)
  | none, none, some a, _ =>
    .ok (.azure
      ⟨a.accountName, a.accountKey, a.containerName, a.metadata, a.tagging,
        a.contentDisposition⟩)
  | none, none, none, some _ => .error unsupportedAlioss
  | none, none, none, none => .ok .localFile

/-- The destination of an upload of a request, or else the default. -/
def uploadDestination (upload : Option Upload) (conf : EgressConfig) : Except String Destination :=
  match upload with
  | some (.s3 s3) => s3Destination s3 conf
  | some (.gcp g) => gcpDestination g
  | some (.azure a) => .ok (azureDestination a)
  | some (.aliOss _) => .error unsupportedAlioss
  | none => confDefault conf

/-- Where one track goes. -/
def directDestination (f : DirectFileOutput) (conf : EgressConfig) : Except String Destination :=
  uploadDestination f.output conf

/-- Where an output with a storage of its own goes. -/
def storageDestination (s : StorageConfig) (conf : EgressConfig) : Except String Destination :=
  uploadDestination s.provider conf

/-- **An S3 upload** is refused for a proxy only. -/
theorem s3Destination_eq_error_iff {s3 : S3Upload} {conf : EgressConfig} :
    (∃ e, s3Destination s3 conf = .error e) ↔ s3.proxy.isSome := by
  unfold s3Destination
  by_cases hproxy : s3.proxy.isSome
  all_goals simp [hproxy]

/-! ## The specification of a recording -/

/-- The format of a recording. -/
inductive OutputFormat
  | wav
  | mp3

/-- The extension of its file. -/
def OutputFormat.ext : OutputFormat → String
  | .mp3 => "mp3"
  | .wav => "wav"

/-- An `EncodedFileType`: `3` is MP3, and everything else is recorded as WAV. -/
def encodedFormat (fileType : Int) : OutputFormat := if fileType = 3 then .mp3 else .wav

/-- A file: its format, where it goes and its path. -/
structure FileSpec where
  format : OutputFormat
  destination : Destination
  filepath : String

/-- The file of an `EncodedFileOutput`. -/
def encodedSpec (f : EncodedFileOutput) (conf : EgressConfig) : Except String FileSpec := do
  let destination ← uploadDestination f.output conf
  return ⟨encodedFormat f.fileType, destination, f.filepath⟩

/-- The file of a request without one. -/
def defaultSpec (conf : EgressConfig) : Except String FileSpec := do
  let destination ← confDefault conf
  return ⟨.wav, destination, ""⟩

/-- The file of a request that may have one. -/
def fileSpec (file : Option EncodedFileOutput) (conf : EgressConfig) : Except String FileSpec :=
  match file with
  | some f => encodedSpec f conf
  | none => defaultSpec conf

/-- The single output of the first version if it is a file, or else the first file of the list. -/
def selectedFile (output : Option DeprecatedOutput) (files : List EncodedFileOutput) :
    Option EncodedFileOutput :=
  match output with
  | some (.file f) => some f
  | _ => files.head?

/-- The file of an output of the second version, by its own storage or the default. -/
def outputSpec (o : Output) (conf : EgressConfig) : Except String FileSpec := do
  let destination ←
    match o.storage with
    | some s => storageDestination s conf
    | none => confDefault conf
  match o.config with
  | some (.file f) => return ⟨encodedFormat f.fileType, destination, f.filepath⟩
  | _ => return ⟨.wav, destination, ""⟩

/-- The file of the first output, if there is one. -/
def outputsSpec (outputs : List Output) (conf : EgressConfig) : Except String FileSpec :=
  match outputs.head? with
  | some o => outputSpec o conf
  | none => defaultSpec conf

/-- **What is recorded**: a room, and the file it goes to. -/
structure RecSpec extends FileSpec where
  room : String
  /-- In kbit/s; `0` is the default of the config. -/
  bitrate : Int

/-- **`rec_spec`**: what a request asks for. -/
def recSpec (request : Option EgressRequest) (conf : EgressConfig) : Except String RecSpec :=
  match request with
  | some (.roomComposite r) => do
      let file ← fileSpec (selectedFile r.output r.fileOutputs) conf
      let bitrate :=
        match r.options with
        | some (.advanced o) => o.audioBitrate
        | _ => 0
      return ⟨file, r.roomName, bitrate⟩
  | some (.track r) =>
    match r.output with
    | some (.file f) => do
        let destination ← directDestination f conf
        return ⟨⟨.wav, destination, f.filepath⟩, r.roomName, 0⟩
    | _ => do
        let file ← defaultSpec conf
        return ⟨file, r.roomName, 0⟩
  | some (.participant r) => do
      let file ← fileSpec r.fileOutputs.head? conf
      return ⟨file, r.roomName, 0⟩
  | some (.trackComposite r) => do
      let file ← fileSpec (selectedFile r.output r.fileOutputs) conf
      return ⟨file, r.roomName, 0⟩
  | some (.egress r) => do
      let file ← outputsSpec r.outputs conf
      return ⟨file, r.roomName, 0⟩
  | _ => .error "web/replay egress is not supported on the voice-only recorder"

/-! ## Which upload is used -/

/-- **What says where a recording goes**: an upload of the request, a block of the config, or
nothing. -/
inductive UploadSource
  | upload (upload : Upload)
  | s3Block (block : S3Config)
  | gcpBlock (block : GcpConfig)
  | azureBlock (block : AzureConfig)
  | aliossBlock (block : AliOssConfig)
  | nothing

namespace UploadSource

/-- **Not supported**: AliOSS, and everything behind a proxy. -/
def refused : UploadSource → Bool
  | .upload (.s3 s) | .s3Block s => s.proxy.isSome
  | .upload (.gcp g) => g.proxy.isSome
  | .upload (.aliOss _) | .aliossBlock _ => true
  | _ => false

/-- The destination it stands for, if it has one. -/
def destination (conf : EgressConfig) : UploadSource → Option Destination
  | .upload u => (uploadDestination (some u) conf).toOption
  | .s3Block s => (s3Destination s conf).toOption
  | .gcpBlock g =>
    some (.gcp ⟨g.credentials, g.bucket, g.metadata, g.tagging, g.contentDisposition⟩)
  | .azureBlock a =>
    some (.azure ⟨a.accountName, a.accountKey, a.containerName, a.metadata, a.tagging,
      a.contentDisposition⟩)
  | .aliossBlock _ => none
  | .nothing => some .localFile

/-- The first of the blocks of the config. -/
def ofConfig (conf : EgressConfig) : UploadSource :=
  (conf.s3.map s3Block <|> conf.gcp.map gcpBlock <|> conf.azure.map azureBlock <|>
    conf.alioss.map aliossBlock).getD nothing

end UploadSource

/-- The upload that an output of segments or of images has of its own. -/
def OutputConfig.upload : OutputConfig → Option Upload
  | .segments s => s.output
  | .images i => i.output
  | .file _ | .stream _ => none

/-- The upload of an output: its storage, or else its own one. -/
def Output.upload (o : Output) : Option Upload :=
  o.storage.bind StorageConfig.provider <|> o.config.bind OutputConfig.upload

namespace EgressRequest

/-- A recorder without a browser can do it. -/
def supported : EgressRequest → Bool
  | .web _ | .replay _ => false
  | _ => true

/-- **The upload of the output that is recorded**: the file of a request of the first version, or
the first output of one of the second. -/
def outputUpload : EgressRequest → Option Upload
  | .roomComposite r => (selectedFile r.output r.fileOutputs).bind EncodedFileOutput.output
  | .trackComposite r => (selectedFile r.output r.fileOutputs).bind EncodedFileOutput.output
  | .participant r => r.fileOutputs.head?.bind EncodedFileOutput.output
  | .track r =>
    match r.output with
    | some (.file f) => f.output
    | _ => none
  | .egress r => r.outputs.head?.bind Output.upload
  | .web _ | .replay _ => none

/-- **The upload that `rec_spec` uses**: of an output of the second version it reads the storage
only. -/
def usedUpload : EgressRequest → Option Upload
  | .egress r => r.outputs.head?.bind fun o => o.storage.bind StorageConfig.provider
  | request => request.outputUpload

/-- The upload of the request as a whole. -/
def requestUpload : EgressRequest → Option Upload
  | .egress r => r.storage.bind StorageConfig.provider
  | _ => none

/-- **What should say where a recording goes**: its output, else its request, else the config. -/
def source (request : EgressRequest) (conf : EgressConfig) : UploadSource :=
  ((request.outputUpload <|> request.requestUpload).map .upload).getD (.ofConfig conf)

/-- The upload that is used is that of the output. -/
theorem outputUpload_of_used {request : EgressRequest} {upload : Upload}
    (h : request.usedUpload = some upload) : request.outputUpload = some upload := by
  cases request with
  | egress r =>
    obtain ⟨o, ho, hstorage⟩ := Option.bind_eq_some_iff.mp h
    refine Option.bind_eq_some_iff.mpr ⟨o, ho, ?_⟩
    rw [Output.upload, hstorage]
    rfl
  | _ => exact h

end EgressRequest

section Sources

variable {conf : EgressConfig}

/-- **A source has no destination** if it is not supported. -/
theorem UploadSource.destination_eq_none_iff {source : UploadSource} :
    source.destination conf = none ↔ source.refused := by
  cases source with
  | upload u =>
    rw [destination, toOption_eq_none_iff]
    cases u with
    | s3 s3 => exact s3Destination_eq_error_iff
    | gcp g =>
      by_cases hproxy : g.proxy.isSome
      all_goals simp [uploadDestination, gcpDestination, refused, hproxy]
    | _ => simp [uploadDestination, refused]
  | s3Block s =>
    rw [destination, toOption_eq_none_iff, s3Destination_eq_error_iff]
    rfl
  | _ => simp [destination, refused]

theorem confDefault_toOption :
    (confDefault conf).toOption = (UploadSource.ofConfig conf).destination conf := by
  unfold confDefault UploadSource.ofConfig
  split
  · next c hs3 => simp [hs3, UploadSource.destination]
  · next g hs3 hgcp => simp [hs3, hgcp, UploadSource.destination, Except.toOption]
  · next a hs3 hgcp hazure => simp [hs3, hgcp, hazure, UploadSource.destination, Except.toOption]
  · next o hs3 hgcp hazure halioss =>
    simp [hs3, hgcp, hazure, halioss, UploadSource.destination, Except.toOption]
  · next hs3 hgcp hazure halioss =>
    simp [hs3, hgcp, hazure, halioss, UploadSource.destination, Except.toOption]

theorem uploadDestination_toOption (upload : Option Upload) :
    (uploadDestination upload conf).toOption =
      ((upload.map .upload).getD (UploadSource.ofConfig conf)).destination conf := by
  cases upload with
  | none => exact confDefault_toOption
  | some upload => rfl

theorem fileSpec_destination (file : Option EncodedFileOutput) :
    (fileSpec file conf).toOption.map (·.destination) =
      (uploadDestination (file.bind EncodedFileOutput.output) conf).toOption := by
  cases file <;> exact (toOption_map_bind _ _ _).trans Option.map_id'

theorem outputSpec_destination (o : Output) :
    (outputSpec o conf).toOption.map (·.destination) =
      (uploadDestination (o.storage.bind StorageConfig.provider) conf).toOption := by
  -- the config of the output only says what the file is called
  have hspec : ∀ x : Except String Destination,
      (x >>= fun destination =>
        match o.config with
        | some (.file f) =>
          (pure ⟨encodedFormat f.fileType, destination, f.filepath⟩ : Except String FileSpec)
        | _ => pure ⟨.wav, destination, ""⟩).toOption.map (·.destination) = x.toOption := by
    intro x
    cases x with
    | error e => rfl
    | ok destination => rcases o.config with - | - | - | - | - <;> rfl
  unfold outputSpec
  cases o.storage <;> exact hspec _

/-- **What does say where a recording goes** is the upload that is used, or else the config. -/
theorem recSpec_destination {request : EgressRequest} (hsupported : request.supported) :
    (recSpec (some request) conf).toOption.map (·.destination) =
      ((request.usedUpload.map .upload).getD (UploadSource.ofConfig conf)).destination conf := by
  rw [← uploadDestination_toOption]
  cases request with
  | roomComposite | trackComposite | participant =>
    exact (toOption_map_bind _ _ _).trans (fileSpec_destination _)
  | track r =>
    simp only [recSpec, EgressRequest.usedUpload, EgressRequest.outputUpload]
    split
    · exact (toOption_map_bind _ _ _).trans Option.map_id'
    · exact (toOption_map_bind _ _ _).trans (fileSpec_destination none)
  | egress r =>
    refine (toOption_map_bind _ _ _).trans ?_
    rw [outputsSpec, EgressRequest.usedUpload]
    cases r.outputs.head? with
    | none => exact fileSpec_destination none
    | some o => exact outputSpec_destination o
  | _ => cases hsupported

/-- **Which upload is used.** A recording fails exactly if what says where it goes, the upload that
is used or else the config, is not supported. It goes where it should exactly if an upload is used,
or its output and its request have none, or the upload they have and the config come to the same. -/
theorem destination_iff {request : EgressRequest} (hsupported : request.supported)
    (conf : EgressConfig) :
    ((∃ e, recSpec (some request) conf = .error e) ↔
        ((request.usedUpload.map .upload).getD (UploadSource.ofConfig conf)).refused) ∧
      ((request.source conf).destination conf = none ↔ (request.source conf).refused) ∧
      ((recSpec (some request) conf).toOption.map (·.destination) =
          (request.source conf).destination conf ↔
        (request.usedUpload = none →
          ∀ upload, (request.outputUpload <|> request.requestUpload) = some upload →
            (UploadSource.upload upload).destination conf =
              (UploadSource.ofConfig conf).destination conf)) := by
  refine ⟨?_, UploadSource.destination_eq_none_iff, ?_⟩
  · rw [← toOption_eq_none_iff, ← UploadSource.destination_eq_none_iff,
      ← recSpec_destination hsupported, Option.map_eq_none_iff]
  · rw [recSpec_destination hsupported, EgressRequest.source]
    cases hused : request.usedUpload with
    | some upload => simp [EgressRequest.outputUpload_of_used hused]
    | none =>
      cases (request.outputUpload <|> request.requestUpload) with
      | none => simp
      | some upload => simpa using eq_comm

/-- A request of the second version for one output. -/
def outputRequest (config : OutputConfig) (output request : Option StorageConfig) :
    EgressRequest :=
  .egress ⟨"room", none, [⟨some config, output⟩], request, []⟩

/-- An output of a file. -/
def fileConfig : OutputConfig := .file ⟨0, "a", false⟩

/-- An output of segments, with an upload of its own. -/
def segmentsConfig (upload : Upload) : OutputConfig :=
  .segments ⟨0, "", "", "", 6, 0, false, some upload⟩

/-- A container in Azure. -/
def azureUpload (container : String) : Upload := .azure ⟨"", "", container⟩

/-- The destination that is a container in Azure. -/
def azureContainer (container : String) : Destination := .azure ⟨"", "", container, [], "", ""⟩

theorem destination_of_output :
    (recSpec (some (outputRequest (segmentsConfig (azureUpload "segments"))
        (some ⟨some (azureUpload "calls")⟩) (some ⟨some (azureUpload "all")⟩)))
        {}).toOption.map (·.destination) = some (azureContainer "calls") :=
  ((destination_iff rfl _).2.2.mpr (by rintro ⟨⟩)).trans rfl

/-- **Two uploads that are not used**: that of a request as a whole, and that of an output of
segments. The files stay on the disk of the recorder. -/
theorem destination_not_of_request :
    let ofRequest := outputRequest fileConfig none (some ⟨some (azureUpload "all")⟩)
    let ofOutput := outputRequest (segmentsConfig (azureUpload "segments")) none none
    (recSpec (some ofRequest) {}).toOption.map (·.destination) = some .localFile ∧
      (ofRequest.source {}).destination {} = some (azureContainer "all") ∧
      (recSpec (some ofOutput) {}).toOption.map (·.destination) = some .localFile ∧
      (ofOutput.source {}).destination {} = some (azureContainer "segments") :=
  ⟨rfl, rfl, rfl, rfl⟩

end Sources

/-! ## The name of the file -/

/-- `storage_key`: the path of the request, with the extension, or the id of the recording. -/
def storageKey (filepath egressId ext : String) : String :=
  let suffix := "." ++ ext
  if filepath = "" then egressId ++ suffix
  else if filepath.endsWith suffix then filepath
  else filepath ++ suffix

end LivekitVoice
