/-! # Grants and permissions

What a token grants and the permission a participant gets from it. A permission is replaced as a
whole by `UpdateParticipant`; every check of the modules that follow reads the permission of the
moment. -/

namespace LivekitVoice

/-- `TrackSource`. -/
inductive TrackSource
  | unknown
  | camera
  | microphone
  | screenShare
  | screenShareAudio
  deriving DecidableEq

namespace TrackSource

/-- `to_proto`: the number on the wire. -/
def toProto : TrackSource → Int
  | .unknown => 0
  | .camera => 1
  | .microphone => 2
  | .screenShare => 3
  | .screenShareAudio => 4

/-- `from_proto`. -/
def fromProto : Int → TrackSource
  | 1 => .camera
  | 2 => .microphone
  | 3 => .screenShare
  | 4 => .screenShareAudio
  | _ => .unknown

end TrackSource

/-- `source_from_str`; `toUppercase` is the standard library's. -/
def sourceFromStr (toUppercase : String → String) (s : String) : Int :=
  match toUppercase s with
  | "CAMERA" => 1
  | "MICROPHONE" => 2
  | "SCREEN_SHARE" => 3
  | "SCREEN_SHARE_AUDIO" => 4
  | _ => 0

/-- The video grant of a token. -/
structure VideoGrant where
  roomJoin : Bool := false
  room : String := ""
  canPublish : Option Bool := none
  canSubscribe : Option Bool := none
  canPublishData : Option Bool := none
  canPublishSources : List String := []
  canUpdateOwnMetadata : Option Bool := none
  hidden : Bool := false
  recorder : Bool := false
  agent : Bool := false
  canSubscribeMetrics : Option Bool := none

/-- `lk.ParticipantPermission`. -/
structure ParticipantPermission where
  canSubscribe : Bool := true
  canPublish : Bool := true
  canPublishData : Bool := true
  /-- The sources that may be published, as numbers on the wire; empty: all. -/
  canPublishSources : List Int := []
  hidden : Bool := false
  recorder : Bool := false
  canUpdateMetadata : Bool := false
  agent : Bool := false
  canSubscribeMetrics : Bool := false
  deriving DecidableEq

/-- `permission_from_grant`. -/
def permissionFromGrant (toUppercase : String → String) (grant : VideoGrant) :
    ParticipantPermission where
  canPublish := grant.canPublish.getD true
  canSubscribe := grant.canSubscribe.getD true
  canPublishData := grant.canPublishData.getD (grant.canPublish.getD true)
  canPublishSources := grant.canPublishSources.map fun s =>
    (TrackSource.fromProto (sourceFromStr toUppercase s)).toProto
  hidden := grant.hidden
  recorder := grant.recorder
  canUpdateMetadata := grant.canUpdateOwnMetadata.getD false
  agent := grant.agent
  canSubscribeMetrics := grant.canSubscribeMetrics.getD false

end LivekitVoice
