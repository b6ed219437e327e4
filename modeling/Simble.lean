import Simble.Device.ExecuteWrite
import Simble.Device.Silence
import Simble.Rfcomm.Delivery
import Simble.Rfcomm.Opens
import Simble.Rfcomm.Termination
import Simble.Rfcomm.Truncation
import Simble.Smp.Totality
import Simble.Smp.Agreement
import Simble.Device.Links
import Simble.Device.Agreement
import Simble.Classic.Avctp
import Simble.Device.LinkSecurity
import Simble.Device.ClassicBuffers
import Simble.Device.ClassicChannels
import Simble.Device.ClassicOutput
import Simble.Controller.Isolation
import Simble.Controller.Answers
import Simble.Sdp.Nesting
import Simble.Obex.Push
import Simble.Sdp.Continuation
import Simble.Hfp.Codec
import Simble.Hfp.Attribution
import Simble.Classic.AvdtpQuiescence
import Simble.Classic.AvdtpRendering
import Simble.Controller.LmpExchange
import Simble.Classic.RtpLoss
import Simble.Sim.Sounding
import Simble.Sim.Consent
import Simble.Sim.Tables
import Simble.Sim.Synchronous
import Simble.Medium.Room
import Simble.Sdp.Search
import Simble.Classic.Aac
import Simble.Gap.Ead
import Simble.Packets.AdvertisingRuns
import Simble.Obex.RoundTrip
import Simble.Gap.AdvertisingBlocks
import Simble.Audio.Sbc
import Simble.Hfp.Totality
import Simble.Hfp.CallList
import Simble.Classic.AvrcpPdu
import Simble.Transport.Conversation
import Simble.Profiles.Delegation
import Simble.Device.CisCentral
import Simble.Device.ChannelSounding
import Simble.Profiles.Hap
import Simble.L2cap.CidRing
import Simble.Keyboard
