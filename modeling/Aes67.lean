import Aes67.Lib.OrdMap
import Aes67.Lib.Text
import Aes67.Lib.Run
import Aes67.Core.Types
import Aes67.Core.JsonFields
import Aes67.Mapper.Model
import Aes67.Mapper.Owners
import Aes67.Ptp.Wire
import Aes67.Ptp.Slave
import Aes67.Ptp.Exchange
import Aes67.Ptp.Foreign
import Aes67.Ptp.Threads
import Aes67.Ptp.Select
import Aes67.Ptp.Master
import Aes67.Lib.Binary64
import Aes67.Sdp.Model
import Aes67.Sdp.Lines
import Aes67.Sdp.RoundTrip
import Aes67.Sdp.Image
import Aes67.Lib.LastWriter
import Aes67.Ravenna.Json
import Aes67.Ravenna.Routing
import Aes67.Ravenna.Activation
import Aes67.Ravenna.Exact
import Aes67.Ravenna.Connection
import Aes67.Ravenna.Refusal
import Aes67.Ravenna.Promise
import Aes67.Ravenna.Leg
import Aes67.Ravenna.Overrides
import Aes67.Manager.Profile
import Aes67.Manager.Model
import Aes67.Manager.Rings
import Aes67.Manager.Follow
import Aes67.Lib.Cells
import Aes67.Lib.Fifo
import Aes67.Shared.RingBuffer
import Aes67.Shared.Queue
import Aes67.Rtp.JitterBuffer
import Aes67.Rtp.Threads
import Aes67.Rtp.LiveReset
import Aes67.Lib.SlotRing
import Aes67.Rtp.Receiver
import Aes67.Rtp.Resync
import Aes67.Rtp.Interrupt
import Aes67.Mapper.Blocks
import Aes67.Ravenna.Restore
import Aes67.Ravenna.Reconnect
import Aes67.Ravenna.Frame
import Aes67.Ravenna.Agreement
import Aes67.Lib.Totals
import Aes67.Manager.Moves
import Aes67.Manager.Accounting
import Aes67.Manager.Flows
import Aes67.Manager.Caps
import Aes67.Manager.Remap
import Aes67.Manager.Sinks
import Aes67.Manager.Clock
import Aes67.Config.Blocks
import Aes67.Config.Brackets
import Aes67.Config.Document
import Aes67.Config.Losses
import Aes67.Config.Persistence
import Aes67.Lib.Decimal
import Aes67.Lib.Numeral
import Aes67.Lib.Outcome
import Aes67.Lib.Slice
import Aes67.Manager.Restart
import Aes67.Ravenna.Bulk
import Aes67.Ravenna.DnsBounds
import Aes67.Ravenna.DnsRecords
import Aes67.Ravenna.DnsRoundTrip
import Aes67.Ravenna.Early
import Aes67.Ravenna.JsonBounds
import Aes67.Sdp.Numbers
import Aes67.Nmos.Convergence
import Aes67.Ptp.Service
import Aes67.Ptp.Reference
import Aes67.Ravenna.TakeUp
import Aes67.Ravenna.Record
import Aes67.Ravenna.Requests
import Aes67.Ravenna.Parameters
import Aes67.Ravenna.Reported
import Aes67.Nmos.ConnectionServer
import Aes67.Nmos.Seeding
import Aes67.Nmos.Handed
import Aes67.Nmos.Promised
import Aes67.Nmos.ReadBack
import Aes67.Manager.Tuning
import Aes67.Driver.Device
import Aes67.Driver.SampleRate
import Aes67.Driver.Patches
import Aes67.Driver.Readdress
import Aes67.Driver.SwitchedOff
import Aes67.Lib.Lanes
import Aes67.Shared.Calls
import Aes67.Driver.IOHandler
import Aes67.Driver.Alignment
import Aes67.Driver.Aligned
import Aes67.Driver.Clients
import Aes67.Ravenna.RegistryBrowser
import Aes67.Ravenna.Packetised
import Aes67.Ravenna.Goodbye
import Aes67.Discovery.SessionDirectory
import Aes67.Discovery.SAPListener
import Aes67.Discovery.Following
import Aes67.Discovery.RtspUrl
import Aes67.Discovery.RtspServer
import Aes67.Discovery.RtspClient
import Aes67.Discovery.Fetched
import Aes67.Discovery.SAPAnnouncer
import Aes67.Discovery.SAPPackets
import Aes67.Discovery.Withdrawn
import Aes67.Ptp.MasterSettings
import Aes67.Ptp.OnWire
import Aes67.Manager.PacketSize
import Aes67.Shared.Whole
import Aes67.Rtp.Carried
import Aes67.Ptp.Overflow
import Aes67.Ptp.Messages
import Aes67.Ptp.Changes
import Aes67.Driver.Sessions
import Aes67.Discovery.SessionTable
import Aes67.Discovery.Listing
import Aes67.Ravenna.Chosen
import Aes67.Sdp.Attributes
import Aes67.Ravenna.Remembered
import Aes67.Discovery.PeerTables
import Aes67.Discovery.RTCPPackets
import Aes67.Lib.JsonText
import Aes67.Ravenna.Accepted
import Aes67.Mapper.Saved
import Aes67.Mapper.Overlaps
import Aes67.Ravenna.JsonStrings
import Aes67.Rtp.Pacing
import Aes67.Rtp.Frame
import Aes67.Ptp.Filters
import Aes67.Nmos.Failover
import Aes67.Ptp.Intervals
import Aes67.Lib.Arrivals
import Aes67.Rtp.Losses
import Aes67.Lib.Http
import Aes67.Ravenna.HttpServer
import Aes67.Nmos.Served
import Aes67.Ravenna.Paths
import Aes67.Nmos.Settings
import Aes67.Manager.Budget
import Aes67.Config.Amplifier
import Aes67.Config.Conversions
import Aes67.Ravenna.HttpClient
import Aes67.Lib.Linked
import Aes67.Rtp.PacketPool
import Aes67.Ptp.Interface
import Aes67.Ptp.MasterTime
import Aes67.Ravenna.Stamps
import Aes67.Ravenna.Views
import Aes67.Nmos.Subscriptions
import Aes67.Nmos.NodeAPIRouter
import Aes67.Manager.Callbacks
import Aes67.Driver.Callbacks
import Aes67.Driver.Versions
import Aes67.Lib.Binary32
import Aes67.Lib.Pieces
import Aes67.Rtp.PCMCodec
import Aes67.Rtp.DoPDecoder
import Aes67.Ptp.Arbitration
import Aes67.Ravenna.Exchange
import Aes67.Ravenna.SessionCatalogue
import Aes67.Ravenna.MdnsResponder
import Aes67.Ptp.Grandmaster
import Aes67.Ptp.Followers
