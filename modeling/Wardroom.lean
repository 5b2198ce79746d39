import Wardroom.Storage.ImportRuns
import Wardroom.Runtime.IdentityClaims
import Wardroom.Conversations.Threads
import Wardroom.Conversations.Backfill
import Wardroom.Conversations.Upstream
import Wardroom.Feeds.Journal
import Wardroom.Feeds.Listeners
import Wardroom.Feeds.Watch
import Wardroom.Federation.RelayReconnect
import Wardroom.Federation.RelayConnectionLock
import Wardroom.Federation.ResultRuns
import Wardroom.Federation.ChannelSubscription
import Wardroom.Runtime.Host.Output
import Wardroom.Runtime.Host.Blocks
import Wardroom.Runtime.Host.Exclusivity
import Wardroom.Runtime.Host.Admission
import Wardroom.Rotation.Outcome
import Wardroom.Runtime.Native.LeadRuns
import Wardroom.Conversations.RetriedSends
import Wardroom.Federation.AdmissionRuns
import Wardroom.Transports.ResponseOrder
import Wardroom.Feeds.Search
import Wardroom.Runtime.Native.Restored
import Wardroom.Runtime.Replies.ReplyRuns
import Wardroom.Federation.TerminalStreams
import Wardroom.Profiles.ResolvedStateGate
import Wardroom.Runtime.ProviderTurn
import Wardroom.Cli.ResumeLaunches
import Wardroom.Runtime.Native.AttachOrder
import Wardroom.Runtime.Host.LaunchBounds
import Wardroom.Runtime.MarkerSearch
import Wardroom.Runtime.Host.RingOffsets
import Wardroom.Runtime.Quotas
import Wardroom.Runtime.ProviderUsage
import Wardroom.Lifecycle.Archive
import Wardroom.Runtime.ControllerViews
import Wardroom.Runtime.Native.ReadRequests
import Wardroom.Profiles.BindingStore
import Wardroom.Federation.RelayAgreement
import Wardroom.Federation.RelayWire
import Wardroom.Runtime.Native.SuspendRuns
import Wardroom.Runtime.Exits
