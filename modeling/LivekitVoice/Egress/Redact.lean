import LivekitVoice.Egress.Request
import LivekitVoice.Text.Slice

/-! # Redaction of the reported request

The recorder echoes the request of a recording in the info it reports, which is stored, returned by
the API and sent to webhooks. `request_info` copies the request and replaces the credentials of its
uploads by placeholders, and the stream keys of its URLs by a short form. Not every place of a
request that holds an upload is visited: `exposed` lists, for each message, the secrets that are
left in place.

* **`requestInfo_redacts`** — what the reported request still depends on,
* **`requestInfo_noninterfering_iff`** — the requests whose report shows none of their secrets. -/

namespace LivekitVoice

open Option InfoFlow

/-! ## Texts -/

/-- A credential, if there is one, is replaced. -/
def redact (s placeholder : String) : String := if s = "" then "" else placeholder

/-- **The short form of a stream key**: its first and last bytes, up to three of each and at most
two thirds of it. `none` is a cut inside a character, which panics. -/
def redactIdentifier (id : String) : Option String :=
  match [3, 2, 1].find? fun i => i * 3 ≤ id.utf8ByteSize with
  | none => some "\x7b...\x7d"
  | some i =>
    (Text.sliceTo id i).bind fun front =>
      (Text.sliceFrom id (id.utf8ByteSize - i)).map fun back =>
        "\x7b" ++ front ++ "..." ++ back ++ "\x7d"

/-- What follows the scheme of an RTMP URL. -/
def stripRtmp (url : List Char) : Option (List Char) :=
  (url.dropPrefix? "rtmp://".toList).orElse fun _ => url.dropPrefix? "rtmps://".toList

/-- **The URL without its stream key**, the third part of an RTMP URL, and whether it had one. What
comes after the fourth part is dropped. -/
def redactStreamKey (url : String) : Option (String × Bool) :=
  match stripRtmp url.toList with
  | none => some (url, false)
  | some rest =>
    match rest.splitOn '/' with
    | host :: app :: key :: tail =>
      (redactIdentifier (.ofList key)).map fun redacted =>
        let out := "rtmp://" ++ .ofList host ++ "/" ++ .ofList app ++ "/" ++ redacted
        match tail with
        | [] => (out, true)
        | part :: _ => (out ++ "/" ++ .ofList part, true)
    | _ => some (url, false)

/-! ## Uploads -/

/-- Of the proxy nothing is replaced. -/
def redactS3 (u : S3Upload) : S3Upload :=
  { u with
    accessKey := redact u.accessKey "\x7baccess_key\x7d"
    secret := redact u.secret "\x7bsecret\x7d"
    assumeRoleExternalId := redact u.assumeRoleExternalId "\x7bexternal_id\x7d"
    sessionToken := redact u.sessionToken "\x7bsession_token\x7d" }

@[inherit_doc redactS3]
def redactGcp (u : GcpUpload) : GcpUpload :=
  { u with credentials := redact u.credentials "\x7bcredentials\x7d" }

/-- The name of the account is replaced as its key is. -/
def redactAzure (u : AzureBlobUpload) : AzureBlobUpload :=
  { u with
    accountName := redact u.accountName "\x7baccount_name\x7d"
    accountKey := redact u.accountKey "\x7baccount_key\x7d" }

/-- Key and secret are replaced. -/
def redactAlioss (u : AliOssUpload) : AliOssUpload :=
  { u with
    accessKey := redact u.accessKey "\x7baccess_key\x7d"
    secret := redact u.secret "\x7bsecret\x7d" }

/-- The redaction of each of the oneofs with an upload. -/
def redactUpload : Upload → Upload
  | .s3 u => .s3 (redactS3 u)
  | .gcp u => .gcp (redactGcp u)
  | .azure u => .azure (redactAzure u)
  | .aliOss u => .aliOss (redactAlioss u)

/-- The storage of a request or of an output. -/
def redactStorage (storage : Option StorageConfig) : Option StorageConfig :=
  storage.map fun s => { s with provider := s.provider.map redactUpload }

/-- A file of the first version. -/
def redactEncodedOutput (o : EncodedFileOutput) : EncodedFileOutput :=
  { o with output := o.output.map redactUpload }

/-- A file of a single track. -/
def redactDirectOutput (o : DirectFileOutput) : DirectFileOutput :=
  { o with output := o.output.map redactUpload }

/-- Segments of the first version. -/
def redactSegments (o : SegmentedFileOutput) : SegmentedFileOutput :=
  { o with output := o.output.map redactUpload }

/-- Images of the first version. -/
def redactImages (o : ImageOutput) : ImageOutput :=
  { o with output := o.output.map redactUpload }

/-! ## Requests -/

/-- Every URL of a stream. -/
def redactStream (o : StreamOutput) : Option StreamOutput :=
  (o.urls.mapM redactStreamKey).map fun urls => { o with urls := urls.map Prod.fst }

/-- Of the kinds of output of the second version only streams are touched. -/
def redactConfig : OutputConfig → Option OutputConfig
  | .stream o => (redactStream o).map .stream
  | config => some config

/-- **An output of the second version.** -/
def redactOutput (o : Output) : Option Output :=
  (o.config.mapM redactConfig).map fun config =>
    { config := config, storage := redactStorage o.storage }

/-- **The lists of outputs** of a request of the first version. -/
def redactEncoded (o : EncodedOutputs) : Option EncodedOutputs :=
  (o.streamOutputs.mapM redactStream).map fun streams =>
    { fileOutputs := o.fileOutputs.map redactEncodedOutput
      streamOutputs := streams
      segmentOutputs := o.segmentOutputs.map redactSegments
      imageOutputs := o.imageOutputs.map redactImages }

/-- The single output of the first version (`file_mut`, `stream_mut` and `segments_mut`). -/
def redactDeprecated : DeprecatedOutput → Option DeprecatedOutput
  | .file o => some (.file (redactEncodedOutput o))
  | .stream o => (redactStream o).map .stream
  | .segments o => some (.segments (redactSegments o))

/-- The only request whose single output is visited. -/
def redactRoomComposite (r : RoomCompositeEgressRequest) : Option RoomCompositeEgressRequest :=
  (redactEncoded r.toEncodedOutputs).bind fun outputs =>
    (r.output.mapM redactDeprecated).map fun output =>
      { r with toEncodedOutputs := outputs, output := output }

/-- It has no single output. -/
def redactParticipant (r : ParticipantEgressRequest) : Option ParticipantEgressRequest :=
  (redactEncoded r.toEncodedOutputs).map fun outputs => { r with toEncodedOutputs := outputs }

/-- **The single output of a track composite is left as it is**: `file_mut`, `stream_mut` and
`segments_mut` are `None` for it. -/
def redactTrackComposite (r : TrackCompositeEgressRequest) : Option TrackCompositeEgressRequest :=
  (redactEncoded r.toEncodedOutputs).map fun outputs => { r with toEncodedOutputs := outputs }

/-- Only a file has an upload. -/
def redactTrackOutput : TrackOutput → TrackOutput
  | .file o => .file (redactDirectOutput o)
  | .websocketUrl url => .websocketUrl url

/-- A request for a single track. -/
def redactDirect (r : TrackEgressRequest) : TrackEgressRequest :=
  { r with output := r.output.map redactTrackOutput }

/-- A request of the second version: its storage, and each output. -/
def redactStart (r : StartEgressRequest) : Option StartEgressRequest :=
  (r.outputs.mapM redactOutput).map fun outputs =>
    { r with outputs := outputs, storage := redactStorage r.storage }

/-- **The request as it is reported.** Requests for web pages and replays are not echoed. -/
def requestInfo : Option EgressRequest → Option (Option EgressRequest)
  | some (.roomComposite r) => (redactRoomComposite r).map fun r => some (.roomComposite r)
  | some (.track r) => some (some (.track (redactDirect r)))
  | some (.participant r) => (redactParticipant r).map fun r => some (.participant r)
  | some (.trackComposite r) => (redactTrackComposite r).map fun r => some (.trackComposite r)
  | some (.egress r) => (redactStart r).map fun r => some (.egress r)
  | _ => some none

/-! ## The secrets left in place -/

/-- The password of the proxy. -/
def Upload.exposed : Upload → List String
  | .s3 u => secrets u.proxy
  | .gcp u => secrets u.proxy
  | .azure _ => []
  | .aliOss _ => []

/-- Those of the upload, if there is one. -/
def exposedUpload (upload : Option Upload) : List String := upload.toList.flatMap Upload.exposed

/-- Those of the storage, if there is one. -/
def exposedStorage (storage : Option StorageConfig) : List String :=
  storage.toList.flatMap fun s => exposedUpload s.provider

/-- Those of the lists of outputs. -/
def EncodedOutputs.exposed (o : EncodedOutputs) : List String :=
  (o.fileOutputs.flatMap fun f => exposedUpload f.output) ++
    (o.segmentOutputs.flatMap fun s => exposedUpload s.output) ++
      o.imageOutputs.flatMap fun i => exposedUpload i.output

/-- Those of the single output, where it is visited. -/
def DeprecatedOutput.exposed : DeprecatedOutput → List String
  | .file o => exposedUpload o.output
  | .stream _ => []
  | .segments o => exposedUpload o.output

/-- Segments and images of the second version are not visited: **all their secrets**. -/
def Output.exposed (o : Output) : List String := secrets o.config ++ exposedStorage o.storage

/-- Those of the file a track goes to. -/
def TrackOutput.exposed : TrackOutput → List String
  | .file o => exposedUpload o.output
  | .websocketUrl _ => []

/-- **The secrets of a request that its report still shows.** -/
def exposedSecrets : Option EgressRequest → List String
  | some (.roomComposite r) =>
    r.toEncodedOutputs.exposed ++ r.output.toList.flatMap DeprecatedOutput.exposed
  | some (.track r) => r.output.toList.flatMap TrackOutput.exposed
  | some (.participant r) => r.toEncodedOutputs.exposed
  | some (.trackComposite r) => r.toEncodedOutputs.exposed ++ secrets r.output
  | some (.egress r) => r.outputs.flatMap Output.exposed ++ exposedStorage r.storage
  | _ => []

/-! ## Redaction, message by message -/

theorem redact_keepsPresence {f : String → String} (hf : KeepsPresence "" f)
    (s placeholder : String) : redact (f s) placeholder = redact s placeholder := by
  simp [redact, hf s]

/-- **Of an upload only the password of its proxy is left.** -/
theorem redacts_upload : Redacts "" redactUpload Upload.exposed := by
  refine redacts_of_iff (fun f u => ?_) (fun f hf u => ?_)
  · cases u with
    | s3 u | gcp u => exact secrets_mapSecrets f u.proxy
    | _ => rfl
  · cases u with
    | s3 u | gcp u =>
      refine Iff.trans ?_ (mapSecrets_eq_self_iff f u.proxy)
      simp [redactUpload, redactS3, redactGcp, mapSecrets, redact_keepsPresence hf]
    | azure u | aliOss u =>
      simp [redactUpload, redactAzure, redactAlioss, mapSecrets, Upload.exposed,
        redact_keepsPresence hf]

theorem redacts_storage : Redacts "" redactStorage exposedStorage :=
  Redacts.option (FallibleRedacts.part StorageConfig.uploadPart (Redacts.option redacts_upload))

theorem redacts_encodedOutput : Redacts "" redactEncodedOutput fun o => exposedUpload o.output :=
  FallibleRedacts.part EncodedFileOutput.uploadPart (Redacts.option redacts_upload)

theorem redacts_directOutput : Redacts "" redactDirectOutput fun o => exposedUpload o.output :=
  FallibleRedacts.part DirectFileOutput.uploadPart (Redacts.option redacts_upload)

theorem redacts_segments : Redacts "" redactSegments fun o => exposedUpload o.output :=
  FallibleRedacts.part SegmentedFileOutput.uploadPart (Redacts.option redacts_upload)

theorem redacts_images : Redacts "" redactImages fun o => exposedUpload o.output :=
  FallibleRedacts.part ImageOutput.uploadPart (Redacts.option redacts_upload)

theorem redacts_stream : FallibleRedacts "" redactStream fun _ => [] :=
  .ofPublic fun _ _ => rfl

theorem redacts_config : FallibleRedacts "" redactConfig secrets where
  exposed_mapSecrets := secrets_mapSecrets
  eq_none_iff f c := by
    cases c with
    | stream o => rfl
    | _ => simp [redactConfig, mapSecrets]
  redact_eq_iff f hf c := by
    cases c with
    | stream o => simp [mapSecrets, secrets]
    | file | segments | images => exact FallibleRedacts.redact_eq_iff redacts_id f hf _

theorem redacts_output : FallibleRedacts "" redactOutput Output.exposed := by
  refine (((FallibleRedacts.option redacts_config).prod redacts_storage).part
    Output.outputPart).congr ?_ fun _ => rfl
  intro o
  simp [redactOutput, Output.outputPart, Function.comp_def]

/-- **The lists of outputs of the first version are all visited.** -/
theorem redacts_encoded : FallibleRedacts "" redactEncoded EncodedOutputs.exposed := by
  have hfiles := Redacts.list redacts_encodedOutput
  have hstreams := FallibleRedacts.mapM redacts_stream
  have hlists := FallibleRedacts.prod (Redacts.list redacts_segments) (Redacts.list redacts_images)
  refine ((hfiles.prod (hstreams.prod hlists)).part EncodedOutputs.outputPart).congr ?_ ?_
  · intro o
    simp [redactEncoded, EncodedOutputs.outputPart, Function.comp_def]
  · intro o
    have hstreams : (o.streamOutputs.flatMap fun _ => ([] : List String)) = [] := by simp
    simp only [EncodedOutputs.exposed, EncodedOutputs.outputPart, hstreams, List.nil_append,
      List.append_assoc]

theorem redacts_deprecated : FallibleRedacts "" redactDeprecated DeprecatedOutput.exposed where
  exposed_mapSecrets f o := by
    cases o with
    | file o => exact FallibleRedacts.exposed_mapSecrets redacts_encodedOutput f o
    | stream o => rfl
    | segments o => exact FallibleRedacts.exposed_mapSecrets redacts_segments f o
  eq_none_iff f o := by
    cases o with
    | file | segments => simp [redactDeprecated, mapSecrets]
    | stream o => rfl
  redact_eq_iff f hf o := by
    cases o with
    | file o =>
      have hinj : Function.Injective DeprecatedOutput.file := fun _ _ h => by cases h; rfl
      exact (FallibleRedacts.map hinj redacts_encodedOutput).redact_eq_iff f hf o
    | stream o => simp [mapSecrets, DeprecatedOutput.exposed]
    | segments o =>
      have hinj : Function.Injective DeprecatedOutput.segments := fun _ _ h => by cases h; rfl
      exact (FallibleRedacts.map hinj redacts_segments).redact_eq_iff f hf o

theorem redacts_trackOutput : Redacts "" redactTrackOutput TrackOutput.exposed where
  exposed_mapSecrets f o := by
    cases o with
    | file o => exact FallibleRedacts.exposed_mapSecrets redacts_directOutput f o
    | websocketUrl url => rfl
  eq_none_iff f o := by simp
  redact_eq_iff f hf o := by
    cases o with
    | file o =>
      have hinj : Function.Injective TrackOutput.file := fun _ _ h => by cases h; rfl
      exact (FallibleRedacts.map hinj redacts_directOutput).redact_eq_iff f hf o
    | websocketUrl url => simp [mapSecrets, TrackOutput.exposed]

/-! ## Redaction, request by request -/

theorem redacts_roomComposite :
    FallibleRedacts "" redactRoomComposite fun r =>
      r.toEncodedOutputs.exposed ++ r.output.toList.flatMap DeprecatedOutput.exposed := by
  refine ((FallibleRedacts.prod redacts_encoded (.option redacts_deprecated)).part
    RoomCompositeEgressRequest.outputPart).congr ?_ fun _ => rfl
  intro r
  rw [redactRoomComposite, RoomCompositeEgressRequest.outputPart, both]
  cases redactEncoded r.toEncodedOutputs with
  | none => rfl
  | some outputs => simp [Function.comp_def]

theorem redacts_trackComposite :
    FallibleRedacts "" redactTrackComposite fun r =>
      r.toEncodedOutputs.exposed ++ secrets r.output := by
  refine ((FallibleRedacts.prod redacts_encoded redacts_id).part
    TrackCompositeEgressRequest.outputPart).congr ?_ fun _ => rfl
  intro r
  simp [redactTrackComposite, TrackCompositeEgressRequest.outputPart, Function.comp_def]

theorem redacts_start :
    FallibleRedacts "" redactStart fun r =>
      r.outputs.flatMap Output.exposed ++ exposedStorage r.storage := by
  refine (((FallibleRedacts.mapM redacts_output).prod redacts_storage).part
    StartEgressRequest.outputPart).congr ?_ fun _ => rfl
  intro r
  simp [redactStart, StartEgressRequest.outputPart, Function.comp_def]

/-- **What the reported request still depends on**: exactly the exposed secrets. -/
theorem requestInfo_redacts : FallibleRedacts "" requestInfo exposedSecrets := by
  -- the report of each kind of request is the redacted request under its constructor
  have hroom := FallibleRedacts.map (g := fun r => some (EgressRequest.roomComposite r))
    (fun _ _ h => by cases h; rfl) redacts_roomComposite
  have htrack := FallibleRedacts.map (g := fun r => some (EgressRequest.track r))
    (fun _ _ h => by cases h; rfl)
    (FallibleRedacts.part TrackEgressRequest.outputPart (Redacts.option redacts_trackOutput))
  have hparticipant := FallibleRedacts.map (g := fun r => some (EgressRequest.participant r))
    (fun _ _ h => by cases h; rfl)
    (FallibleRedacts.part ParticipantEgressRequest.outputPart redacts_encoded)
  have hcomposite := FallibleRedacts.map (g := fun r => some (EgressRequest.trackComposite r))
    (fun _ _ h => by cases h; rfl) redacts_trackComposite
  have hstart := FallibleRedacts.map (g := fun r => some (EgressRequest.egress r))
    (fun _ _ h => by cases h; rfl) redacts_start
  refine ⟨fun f req => ?_, fun f req => ?_, fun f hf req => ?_⟩
  · rcases req with _ | (r | r | r | r | r | r | r)
    · rfl
    · exact hroom.exposed_mapSecrets f r
    · rfl
    · exact hparticipant.exposed_mapSecrets f r
    · exact hcomposite.exposed_mapSecrets f r
    · exact htrack.exposed_mapSecrets f r
    · exact hstart.exposed_mapSecrets f r
    · rfl
  · rcases req with _ | (r | r | r | r | r | r | r)
    · rfl
    · exact hroom.eq_none_iff f r
    · simp [mapSecrets, requestInfo]
    · exact hparticipant.eq_none_iff f r
    · exact hcomposite.eq_none_iff f r
    · exact htrack.eq_none_iff f r
    · exact hstart.eq_none_iff f r
    · simp [mapSecrets, requestInfo]
  · rcases req with _ | (r | r | r | r | r | r | r)
    · simp [mapSecrets, requestInfo, exposedSecrets]
    · exact hroom.redact_eq_iff f hf r
    · simp [mapSecrets, requestInfo, exposedSecrets]
    · exact hparticipant.redact_eq_iff f hf r
    · exact hcomposite.redact_eq_iff f hf r
    · exact htrack.redact_eq_iff f hf r
    · exact hstart.redact_eq_iff f hf r
    · simp [mapSecrets, requestInfo, exposedSecrets]

/-! ## Where there is no report -/

/-- The URLs of a stream output of the second version. -/
def OutputConfig.urls : OutputConfig → List String
  | .stream o => o.urls
  | _ => []

/-- The URLs of the single output of the first version. -/
def DeprecatedOutput.urls : DeprecatedOutput → List String
  | .stream o => o.urls
  | _ => []

/-- The URLs among the lists of outputs. -/
def EncodedOutputs.urls (o : EncodedOutputs) : List String :=
  o.streamOutputs.flatMap StreamOutput.urls

/-- **The URLs whose stream key is cut.** -/
def redactedUrls : Option EgressRequest → List String
  | some (.roomComposite r) =>
    r.toEncodedOutputs.urls ++ r.output.toList.flatMap DeprecatedOutput.urls
  | some (.participant r) => r.toEncodedOutputs.urls
  | some (.trackComposite r) => r.toEncodedOutputs.urls
  | some (.egress r) => r.outputs.flatMap fun o => o.config.toList.flatMap OutputConfig.urls
  | _ => []

/-- **A URL whose stream key cannot be cut**: three bytes or more, and no character ends where the
short form is taken. -/
def Uncuttable (url : String) : Prop := redactStreamKey url = none

open FallibleRedacts in
theorem redactStream_eq_none_iff {o : StreamOutput} :
    redactStream o = none ↔ ∃ url ∈ o.urls, Uncuttable url := by
  rw [redactStream, map_eq_none_iff, mapM_eq_none_iff]
  rfl

theorem redactOutput_eq_none_iff {o : Output} :
    redactOutput o = none ↔ ∃ url ∈ o.config.toList.flatMap OutputConfig.urls, Uncuttable url := by
  rw [redactOutput, map_eq_none_iff]
  cases o.config with
  | none => simp
  | some c => cases c <;> simp [redactConfig, OutputConfig.urls, redactStream_eq_none_iff]

open FallibleRedacts in
theorem redactEncoded_eq_none_iff {o : EncodedOutputs} :
    redactEncoded o = none ↔ ∃ url ∈ o.urls, Uncuttable url := by
  rw [redactEncoded, map_eq_none_iff, mapM_eq_none_iff]
  simp only [redactStream_eq_none_iff, EncodedOutputs.urls, List.mem_flatMap]
  tauto

open FallibleRedacts in
/-- **There is no report exactly if the key of a stream cannot be cut.** -/
theorem requestInfo_eq_none_iff {req : Option EgressRequest} :
    requestInfo req = none ↔ ∃ url ∈ redactedUrls req, Uncuttable url := by
  rcases req with _ | (r | r | r | r | r | r | r)
  · simp [requestInfo, redactedUrls]
  · simp only [redactedUrls, List.mem_append, or_and_right, exists_or]
    rw [requestInfo, map_eq_none_iff, redactRoomComposite, ← redactEncoded_eq_none_iff]
    cases redactEncoded r.toEncodedOutputs with
    | none => simp
    | some outputs =>
      cases r.output with
      | none => simp
      | some o =>
        cases o <;> simp [redactDeprecated, DeprecatedOutput.urls, redactStream_eq_none_iff]
  · simp [requestInfo, redactedUrls]
  · rw [requestInfo, map_eq_none_iff, redactParticipant, map_eq_none_iff,
      redactEncoded_eq_none_iff]
    rfl
  · rw [requestInfo, map_eq_none_iff, redactTrackComposite, map_eq_none_iff,
      redactEncoded_eq_none_iff]
    rfl
  · simp [requestInfo, redactedUrls]
  · rw [requestInfo, map_eq_none_iff, redactStart, map_eq_none_iff,
      mapM_eq_none_iff]
    simp only [redactOutput_eq_none_iff, redactedUrls, List.mem_flatMap]
    tauto
  · simp [requestInfo, redactedUrls]

/-! ## Two requests -/

/-- **Requests that differ only in secrets that are given**: with each such secret starred they are
the same. -/
def DifferInSecrets (req req' : Option EgressRequest) : Prop := mask "" "*" req' = mask "" "*" req
  deriving Decidable

/-- **When the report shows nothing of the secrets of a request**: every request that differs from
it only in secrets that are given has the same report, exactly if there is no report or every secret
left in place is empty. -/
theorem requestInfo_noninterfering_iff (req : Option EgressRequest) :
    (∀ req', DifferInSecrets req req' → requestInfo req' = requestInfo req) ↔
      (∃ url ∈ redactedUrls req, Uncuttable url) ∨ ∀ c ∈ exposedSecrets req, c = "" := by
  have hmove : ∀ c : String, c ≠ "" → c ++ "x" ≠ "" ∧ c ++ "x" ≠ c := by
    intro c _
    constructor <;> intro h <;> have hsize := congrArg String.utf8ByteSize h
    all_goals simp at hsize
  rw [← requestInfo_eq_none_iff]
  exact FallibleRedacts.noninterfering_iff requestInfo_redacts (by decide) hmove req

/-- A file uploaded to S3, perhaps through a proxy. -/
def s3File (secret : String) (proxy : Option ProxyConfig) : EncodedFileOutput where
  fileType := 0
  filepath := "a"
  disableManifest := false
  output := some (.s3
    { accessKey := "AKIA", secret := secret, sessionToken := "", assumeRoleArn := ""
      assumeRoleExternalId := "", region := "", endpoint := "", bucket := "b"
      forcePathStyle := false, metadata := [], tagging := "", contentDisposition := ""
      proxy := proxy })

/-- A room recorded to two files. The recorder refuses a proxy for the first, and uses only that. -/
def roomToFiles (password : String) : EgressRequest :=
  .roomComposite
    { fileOutputs := [s3File "s" none,
        s3File "s" (some { url := "http://p", username := "u", password := password })]
      streamOutputs := [], segmentOutputs := [], imageOutputs := []
      roomName := "r", layout := "", audioOnly := true, audioMixing := 0, videoOnly := false
      customBaseUrl := "", output := none, options := none, webhooks := [] }

/-- Two tracks recorded to a file, given as the single output. -/
def tracksToFile (secret : String) : EgressRequest :=
  .trackComposite
    { fileOutputs := [], streamOutputs := [], segmentOutputs := [], imageOutputs := []
      roomName := "r", audioTrackId := "t", videoTrackId := ""
      output := some (.file (s3File secret none)), options := none, webhooks := [] }

/-- A room recorded in segments to Azure, in the second version. -/
def roomToSegments (accountKey : String) : EgressRequest :=
  .egress
    { roomName := "r", encoding := none, storage := none, webhooks := []
      outputs := [
        { storage := none
          config := some (.segments
            { protocol := 0, filenamePrefix := "a", playlistName := "", livePlaylistName := ""
              segmentDuration := 6, filenameSuffix := 0, disableManifest := false
              output := some (.azure
                { accountName := "n", accountKey := accountKey, containerName := "c" }) }) }] }

/-- **Secrets that are reported**: the password of a proxy, the key of the single output of a track
composite, and the key of a segment output of the second version. -/
theorem requestInfo_shows_secrets :
    (DifferInSecrets (roomToFiles "one") (roomToFiles "two") ∧
      requestInfo (roomToFiles "one") ≠ requestInfo (roomToFiles "two")) ∧
    (DifferInSecrets (tracksToFile "one") (tracksToFile "two") ∧
      requestInfo (tracksToFile "one") ≠ requestInfo (tracksToFile "two")) ∧
    (DifferInSecrets (roomToSegments "one") (roomToSegments "two") ∧
      requestInfo (roomToSegments "one") ≠ requestInfo (roomToSegments "two")) := by
  decide +kernel

end LivekitVoice
