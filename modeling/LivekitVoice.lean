import LivekitVoice.Agent.Availability
import LivekitVoice.Agent.Launch
import LivekitVoice.Agent.Termination
import LivekitVoice.Api.Isolation
import LivekitVoice.Cluster.Claim
import LivekitVoice.Cluster.Hosting
import LivekitVoice.Cluster.Release
import LivekitVoice.Egress.History
import LivekitVoice.Egress.Mixer
import LivekitVoice.Egress.StreamKey
import LivekitVoice.Egress.Wav
import LivekitVoice.Egress.Webhooks
import LivekitVoice.Media.Bookkeeping
import LivekitVoice.Media.ExtMap
import LivekitVoice.Media.IpFilter
import LivekitVoice.Media.OfferIds
import LivekitVoice.Media.Requests
import LivekitVoice.Media.RtpStats
import LivekitVoice.Media.Teardown
import LivekitVoice.Proto.Duration
import LivekitVoice.Psrpc.AtMostOnce
import LivekitVoice.Psrpc.Pending
import LivekitVoice.Relay.Reader
import LivekitVoice.Room.Capacity
import LivekitVoice.Room.Closing
import LivekitVoice.Room.Departure
import LivekitVoice.Room.Identity
import LivekitVoice.Room.Lifecycle
import LivekitVoice.Room.Mute
import LivekitVoice.Room.Registry
import LivekitVoice.Room.Resume
import LivekitVoice.Room.Speakers
import LivekitVoice.Room.TrackIndex
import LivekitVoice.Room.Version
import LivekitVoice.Signal.Session
import LivekitVoice.Signal.Token
import LivekitVoice.Sip.ListUpdate
import LivekitVoice.Sip.Masking
import LivekitVoice.Sip.Outbound
import LivekitVoice.Sip.Preference
import LivekitVoice.Store.Backends
import LivekitVoice.Turn.DecodeBuffer
import LivekitVoice.Webhook.Delivery
