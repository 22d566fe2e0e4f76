import LivekitVoice.Flow.Secrets

/-! # The requests for a recording

The messages with which a recording is asked for, in the forms of both versions of the API: what to
record, and one or more outputs, with the storage each one is uploaded to. The five messages that
hold an upload have a oneof with the same four providers, which is `Upload` here. The secrets of
these messages are the fields that the protocol marks as secret: keys, secrets, tokens and external
ids of the providers, and the password of a proxy. -/

namespace LivekitVoice

open InfoFlow

/-! ## Providers -/

/-- The proxy an upload goes through. -/
structure ProxyConfig where
  url : String
  username : String
  password : String
deriving DecidableEq

/-- An upload to S3. -/
structure S3Upload where
  accessKey : String
  secret : String
  sessionToken : String
  assumeRoleArn : String
  assumeRoleExternalId : String
  region : String
  endpoint : String
  bucket : String
  forcePathStyle : Bool
  metadata : List (String × String)
  tagging : String
  contentDisposition : String
  proxy : Option ProxyConfig
deriving DecidableEq

/-- An upload to Google Cloud Storage. -/
structure GcpUpload where
  credentials : String
  bucket : String
  proxy : Option ProxyConfig
deriving DecidableEq

/-- An upload to Azure. -/
structure AzureBlobUpload where
  accountName : String
  accountKey : String
  containerName : String
deriving DecidableEq

/-- An upload to Alibaba Cloud. -/
structure AliOssUpload where
  accessKey : String
  secret : String
  region : String
  endpoint : String
  bucket : String
deriving DecidableEq

/-- **Where a file is uploaded to.** -/
inductive Upload where
  | s3 (upload : S3Upload)
  | gcp (upload : GcpUpload)
  | azure (upload : AzureBlobUpload)
  | aliOss (upload : AliOssUpload)
deriving DecidableEq

/-! ## Outputs -/

/-- The storage of a request or of one of its outputs. -/
structure StorageConfig where
  provider : Option Upload
deriving DecidableEq

/-- A recording of mixed or converted media. -/
structure EncodedFileOutput where
  fileType : Int
  filepath : String
  disableManifest : Bool
  output : Option Upload
deriving DecidableEq

/-- A recording of one track as it is. -/
structure DirectFileOutput where
  filepath : String
  disableManifest : Bool
  output : Option Upload
deriving DecidableEq

/-- A recording in segments. -/
structure SegmentedFileOutput where
  protocol : Int
  filenamePrefix : String
  playlistName : String
  livePlaylistName : String
  segmentDuration : Nat
  filenameSuffix : Int
  disableManifest : Bool
  output : Option Upload
deriving DecidableEq

/-- Still images. -/
structure ImageOutput where
  captureInterval : Nat
  width : Int
  height : Int
  filenamePrefix : String
  filenameSuffix : Int
  imageCodec : Int
  disableManifest : Bool
  output : Option Upload
deriving DecidableEq

/-- A stream to other servers; the URL of an RTMP server ends in a stream key. -/
structure StreamOutput where
  protocol : Int
  urls : List String
deriving DecidableEq

/-- A file of the second version, stored where its output or its request says. -/
structure FileOutput where
  fileType : Int
  filepath : String
  disableManifest : Bool
deriving DecidableEq

/-- What an output of the second version is. -/
inductive OutputConfig where
  | file (output : FileOutput)
  | stream (output : StreamOutput)
  | segments (output : SegmentedFileOutput)
  | images (output : ImageOutput)
deriving DecidableEq

/-- **An output of the second version.** -/
structure Output where
  config : Option OutputConfig
  storage : Option StorageConfig
deriving DecidableEq

/-- The single output of the first version, which its lists of outputs have replaced. -/
inductive DeprecatedOutput where
  | file (output : EncodedFileOutput)
  | stream (output : StreamOutput)
  | segments (output : SegmentedFileOutput)
deriving DecidableEq

/-- **The outputs of a request of the first version.** -/
structure EncodedOutputs where
  fileOutputs : List EncodedFileOutput
  streamOutputs : List StreamOutput
  segmentOutputs : List SegmentedFileOutput
  imageOutputs : List ImageOutput
deriving DecidableEq

/-! ## Requests -/

/-- The options of the encoder that the recorder reads. -/
structure EncodingOptions where
  audioBitrate : Int
deriving DecidableEq

/-- A preset, or options given one by one. -/
inductive Encoding where
  | preset (preset : Int)
  | advanced (options : EncodingOptions)
deriving DecidableEq

/-- A receiver of events. -/
structure WebhookConfig where
  url : String
  signingKey : String
deriving DecidableEq

/-- A recording of a whole room. -/
structure RoomCompositeEgressRequest extends EncodedOutputs where
  roomName : String
  layout : String
  audioOnly : Bool
  audioMixing : Int
  videoOnly : Bool
  customBaseUrl : String
  output : Option DeprecatedOutput
  options : Option Encoding
  webhooks : List WebhookConfig
deriving DecidableEq

/-- A recording of a web page. -/
structure WebEgressRequest extends EncodedOutputs where
  url : String
  audioOnly : Bool
  videoOnly : Bool
  awaitStartSignal : Bool
  output : Option DeprecatedOutput
  options : Option Encoding
  webhooks : List WebhookConfig
deriving DecidableEq

/-- A recording of one participant. -/
structure ParticipantEgressRequest extends EncodedOutputs where
  roomName : String
  identity : String
  screenShare : Bool
  options : Option Encoding
  webhooks : List WebhookConfig
deriving DecidableEq

/-- A recording of an audio and a video track. -/
structure TrackCompositeEgressRequest extends EncodedOutputs where
  roomName : String
  audioTrackId : String
  videoTrackId : String
  output : Option DeprecatedOutput
  options : Option Encoding
  webhooks : List WebhookConfig
deriving DecidableEq

/-- Where one track goes. -/
inductive TrackOutput where
  | file (output : DirectFileOutput)
  | websocketUrl (url : String)
deriving DecidableEq

/-- A recording of one track. -/
structure TrackEgressRequest where
  roomName : String
  trackId : String
  output : Option TrackOutput
  webhooks : List WebhookConfig
deriving DecidableEq

/-- A request of the second version. -/
structure StartEgressRequest where
  roomName : String
  encoding : Option Encoding
  outputs : List Output
  storage : Option StorageConfig
  webhooks : List WebhookConfig
deriving DecidableEq

/-- The export of a replay. -/
structure ExportReplayRequest where
  replayId : String
  encoding : Option Encoding
  outputs : List Output
  storage : Option StorageConfig
  webhooks : List WebhookConfig
deriving DecidableEq

/-- **The request for a recording**: the oneof of the call to the recorder, and of the info that
reports it. -/
inductive EgressRequest where
  | roomComposite (request : RoomCompositeEgressRequest)
  | web (request : WebEgressRequest)
  | participant (request : ParticipantEgressRequest)
  | trackComposite (request : TrackCompositeEgressRequest)
  | track (request : TrackEgressRequest)
  | egress (request : StartEgressRequest)
  | replay (request : ExportReplayRequest)
deriving DecidableEq

/-! ## Their secrets -/

instance : Secrets String ProxyConfig where
  mapSecrets f p := { p with password := f p.password }
  secrets p := [p.password]
  secrets_mapSecrets _ _ := rfl
  mapSecrets_mapSecrets _ _ _ := rfl
  mapSecrets_eq_self_iff f p := by
    cases p
    simp

instance : Secrets String S3Upload where
  mapSecrets f u :=
    { u with
      accessKey := f u.accessKey
      secret := f u.secret
      sessionToken := f u.sessionToken
      assumeRoleExternalId := f u.assumeRoleExternalId
      proxy := mapSecrets f u.proxy }
  secrets u :=
    [u.accessKey, u.secret, u.sessionToken, u.assumeRoleExternalId] ++ secrets u.proxy
  secrets_mapSecrets f u := by simp [secrets_mapSecrets]
  mapSecrets_mapSecrets f g u := by simp only [mapSecrets_mapSecrets]
  mapSecrets_eq_self_iff f u := by
    cases u
    simp [mapSecrets_eq_self_iff]

instance : Secrets String GcpUpload where
  mapSecrets f u :=
    { u with credentials := f u.credentials, proxy := mapSecrets f u.proxy }
  secrets u := u.credentials :: secrets u.proxy
  secrets_mapSecrets f u := by simp [secrets_mapSecrets]
  mapSecrets_mapSecrets f g u := by simp only [mapSecrets_mapSecrets]
  mapSecrets_eq_self_iff f u := by
    cases u
    simp [mapSecrets_eq_self_iff]

instance : Secrets String AzureBlobUpload where
  mapSecrets f u := { u with accountKey := f u.accountKey }
  secrets u := [u.accountKey]
  secrets_mapSecrets _ _ := rfl
  mapSecrets_mapSecrets _ _ _ := rfl
  mapSecrets_eq_self_iff f u := by
    cases u
    simp

instance : Secrets String AliOssUpload where
  mapSecrets f u := { u with accessKey := f u.accessKey, secret := f u.secret }
  secrets u := [u.accessKey, u.secret]
  secrets_mapSecrets _ _ := rfl
  mapSecrets_mapSecrets _ _ _ := rfl
  mapSecrets_eq_self_iff f u := by
    cases u
    simp

instance : Secrets String Upload where
  mapSecrets f
    | .s3 u => .s3 (mapSecrets f u)
    | .gcp u => .gcp (mapSecrets f u)
    | .azure u => .azure (mapSecrets f u)
    | .aliOss u => .aliOss (mapSecrets f u)
  secrets
    | .s3 u => secrets u
    | .gcp u => secrets u
    | .azure u => secrets u
    | .aliOss u => secrets u
  secrets_mapSecrets f u := by cases u <;> exact secrets_mapSecrets f _
  mapSecrets_mapSecrets f g u := by cases u <;> simp only [mapSecrets_mapSecrets]
  mapSecrets_eq_self_iff f u := by cases u <;> simp [mapSecrets_eq_self_iff]

/-! The messages with an upload: the secrets are those of the upload. -/

/-- The part of a storage that holds secrets. -/
def StorageConfig.uploadPart : Part StorageConfig (Option Upload) where
  get s := s.provider
  set s u := { s with provider := u }

@[inherit_doc StorageConfig.uploadPart]
def EncodedFileOutput.uploadPart : Part EncodedFileOutput (Option Upload) where
  get o := o.output
  set o u := { o with output := u }

@[inherit_doc StorageConfig.uploadPart]
def DirectFileOutput.uploadPart : Part DirectFileOutput (Option Upload) where
  get o := o.output
  set o u := { o with output := u }

@[inherit_doc StorageConfig.uploadPart]
def SegmentedFileOutput.uploadPart : Part SegmentedFileOutput (Option Upload) where
  get o := o.output
  set o u := { o with output := u }

@[inherit_doc StorageConfig.uploadPart]
def ImageOutput.uploadPart : Part ImageOutput (Option Upload) where
  get o := o.output
  set o u := { o with output := u }

instance : Secrets String StorageConfig := .ofPart StorageConfig.uploadPart

instance : Secrets String EncodedFileOutput := .ofPart EncodedFileOutput.uploadPart

instance : Secrets String DirectFileOutput := .ofPart DirectFileOutput.uploadPart

instance : Secrets String SegmentedFileOutput := .ofPart SegmentedFileOutput.uploadPart

instance : Secrets String ImageOutput := .ofPart ImageOutput.uploadPart

/-! A file of the second version and a stream have none. -/

instance : Secrets String FileOutput where
  mapSecrets _ o := o
  secrets _ := []
  secrets_mapSecrets _ _ := rfl
  mapSecrets_mapSecrets _ _ _ := rfl
  mapSecrets_eq_self_iff _ _ := by simp

instance : Secrets String StreamOutput where
  mapSecrets _ o := o
  secrets _ := []
  secrets_mapSecrets _ _ := rfl
  mapSecrets_mapSecrets _ _ _ := rfl
  mapSecrets_eq_self_iff _ _ := by simp

/-! The choices, and the records with several outputs. -/

instance : Secrets String OutputConfig where
  mapSecrets f
    | .file o => .file (mapSecrets f o)
    | .stream o => .stream (mapSecrets f o)
    | .segments o => .segments (mapSecrets f o)
    | .images o => .images (mapSecrets f o)
  secrets
    | .file o => secrets o
    | .stream o => secrets o
    | .segments o => secrets o
    | .images o => secrets o
  secrets_mapSecrets f c := by cases c <;> exact secrets_mapSecrets f _
  mapSecrets_mapSecrets f g c := by cases c <;> simp only [mapSecrets_mapSecrets]
  mapSecrets_eq_self_iff f c := by cases c <;> simp [mapSecrets_eq_self_iff]

instance : Secrets String DeprecatedOutput where
  mapSecrets f
    | .file o => .file (mapSecrets f o)
    | .stream o => .stream (mapSecrets f o)
    | .segments o => .segments (mapSecrets f o)
  secrets
    | .file o => secrets o
    | .stream o => secrets o
    | .segments o => secrets o
  secrets_mapSecrets f c := by cases c <;> exact secrets_mapSecrets f _
  mapSecrets_mapSecrets f g c := by cases c <;> simp only [mapSecrets_mapSecrets]
  mapSecrets_eq_self_iff f c := by cases c <;> simp [mapSecrets_eq_self_iff]

/-- The parts of an output of the second version that hold secrets. -/
def Output.outputPart : Part Output (Option OutputConfig × Option StorageConfig) where
  get o := (o.config, o.storage)
  set _ parts := { config := parts.1, storage := parts.2 }

instance : Secrets String Output := .ofPart Output.outputPart

/-- All four lists of outputs. -/
def EncodedOutputs.outputPart : Part EncodedOutputs
    (List EncodedFileOutput × List StreamOutput × List SegmentedFileOutput × List ImageOutput) where
  get o := (o.fileOutputs, o.streamOutputs, o.segmentOutputs, o.imageOutputs)
  set _ parts :=
    { fileOutputs := parts.1
      streamOutputs := parts.2.1
      segmentOutputs := parts.2.2.1
      imageOutputs := parts.2.2.2 }

instance : Secrets String EncodedOutputs := .ofPart EncodedOutputs.outputPart

/-! The requests. -/

/-- The outputs of a request, in both forms. -/
def RoomCompositeEgressRequest.outputPart :
    Part RoomCompositeEgressRequest (EncodedOutputs × Option DeprecatedOutput) where
  get r := (r.toEncodedOutputs, r.output)
  set r parts := { r with toEncodedOutputs := parts.1, output := parts.2 }

@[inherit_doc RoomCompositeEgressRequest.outputPart]
def WebEgressRequest.outputPart :
    Part WebEgressRequest (EncodedOutputs × Option DeprecatedOutput) where
  get r := (r.toEncodedOutputs, r.output)
  set r parts := { r with toEncodedOutputs := parts.1, output := parts.2 }

@[inherit_doc RoomCompositeEgressRequest.outputPart]
def TrackCompositeEgressRequest.outputPart :
    Part TrackCompositeEgressRequest (EncodedOutputs × Option DeprecatedOutput) where
  get r := (r.toEncodedOutputs, r.output)
  set r parts := { r with toEncodedOutputs := parts.1, output := parts.2 }

/-- The outputs of a request. -/
def ParticipantEgressRequest.outputPart : Part ParticipantEgressRequest EncodedOutputs where
  get r := r.toEncodedOutputs
  set r outputs := { r with toEncodedOutputs := outputs }

instance : Secrets String RoomCompositeEgressRequest :=
  .ofPart RoomCompositeEgressRequest.outputPart

instance : Secrets String WebEgressRequest := .ofPart WebEgressRequest.outputPart

instance : Secrets String TrackCompositeEgressRequest :=
  .ofPart TrackCompositeEgressRequest.outputPart

instance : Secrets String ParticipantEgressRequest := .ofPart ParticipantEgressRequest.outputPart

instance : Secrets String TrackOutput where
  mapSecrets f
    | .file o => .file (mapSecrets f o)
    | .websocketUrl url => .websocketUrl url
  secrets
    | .file o => secrets o
    | .websocketUrl _ => []
  secrets_mapSecrets f c := by
    cases c with
    | file o => exact secrets_mapSecrets f o
    | websocketUrl => rfl
  mapSecrets_mapSecrets f g c := by cases c <;> simp only [mapSecrets_mapSecrets]
  mapSecrets_eq_self_iff f c := by cases c <;> simp [mapSecrets_eq_self_iff]

/-- The output of a track. -/
def TrackEgressRequest.outputPart : Part TrackEgressRequest (Option TrackOutput) where
  get r := r.output
  set r output := { r with output := output }

instance : Secrets String TrackEgressRequest := .ofPart TrackEgressRequest.outputPart

/-- The outputs and the storage of a request of the second version. -/
def StartEgressRequest.outputPart :
    Part StartEgressRequest (List Output × Option StorageConfig) where
  get r := (r.outputs, r.storage)
  set r parts := { r with outputs := parts.1, storage := parts.2 }

@[inherit_doc StartEgressRequest.outputPart]
def ExportReplayRequest.outputPart :
    Part ExportReplayRequest (List Output × Option StorageConfig) where
  get r := (r.outputs, r.storage)
  set r parts := { r with outputs := parts.1, storage := parts.2 }

instance : Secrets String StartEgressRequest := .ofPart StartEgressRequest.outputPart

instance : Secrets String ExportReplayRequest := .ofPart ExportReplayRequest.outputPart

instance : Secrets String EgressRequest where
  mapSecrets f
    | .roomComposite r => .roomComposite (mapSecrets f r)
    | .web r => .web (mapSecrets f r)
    | .participant r => .participant (mapSecrets f r)
    | .trackComposite r => .trackComposite (mapSecrets f r)
    | .track r => .track (mapSecrets f r)
    | .egress r => .egress (mapSecrets f r)
    | .replay r => .replay (mapSecrets f r)
  secrets
    | .roomComposite r => secrets r
    | .web r => secrets r
    | .participant r => secrets r
    | .trackComposite r => secrets r
    | .track r => secrets r
    | .egress r => secrets r
    | .replay r => secrets r
  secrets_mapSecrets f r := by cases r <;> exact secrets_mapSecrets f _
  mapSecrets_mapSecrets f g r := by cases r <;> simp only [mapSecrets_mapSecrets]
  mapSecrets_eq_self_iff f r := by cases r <;> simp [mapSecrets_eq_self_iff]

end LivekitVoice
