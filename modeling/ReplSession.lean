import ReplSession.Buffer
import ReplSession.Kernel
import ReplSession.BlockMap
import ReplSession.Session
import ReplSession.Step
import ReplSession.Effects
import ReplSession.Ledger
import ReplSession.Regions
import ReplSession.Overlap
import ReplSession.Eviction
import ReplSession.Invalidation
import ReplSession.Routing
import ReplSession.Dispatch
import ReplSession.Lifecycle
import ReplSession.Sched
import ReplSession.Channels
import ReplSession.Transport
import ReplSession.Events
import ReplSession.Retirement
import ReplSession.Render
import ReplSession.Statuses
import ReplSession.Telemetry
import ReplSession.Grace
import ReplSession.Launches
import ReplSession.Requests
import ReplSession.Drain
import ReplSession.Outputs
