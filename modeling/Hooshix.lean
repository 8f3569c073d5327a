import Hooshix.Tunnel.StreamOpens
import Hooshix.Gateway.StreamEnd
import Hooshix.Gateway.QueueBudgets
import Hooshix.Agent.LocalDelivery
import Hooshix.Gateway.ResumeRace
import Hooshix.Tunnel.ResumeFallback
import Hooshix.Gateway.SessionTermination
import Hooshix.Tunnel.AuthorizationEnd
import Hooshix.Gateway.FailedOpen
import Hooshix.Agent.SilentEnd
import Hooshix.Tunnel.TerminalFrames
import Hooshix.Gateway.HandshakeIsolation
import Hooshix.Tunnel.CreditProgress
import Hooshix.Tunnel.SessionCredit
import Hooshix.Gateway.IngressBound
import Hooshix.Tunnel.IdleTimers
import Hooshix.Contract.Transcripts
import Hooshix.Tunnel.Sequences
import Hooshix.Tunnel.IdleNegotiation
import Hooshix.Agent.ConfigLock
import Hooshix.Agent.ProcessLock
import Hooshix.Agent.StateWatch
import Hooshix.Agent.CrashAtomic
import Hooshix.Contract.AuthorityRecords
import Hooshix.Gateway.CloseCodes
import Hooshix.Agent.TelemetryBound
import Hooshix.Gateway.DeclaredAuthority
import Hooshix.Gateway.RefreshPaths
import Hooshix.Gateway.Routing
import Hooshix.Gateway.OfflineIngress
import Hooshix.Gateway.SourceNetworks
import Hooshix.Agent.Failover
import Hooshix.Gateway.LateData
import Hooshix.Gateway.AdmissionSlots
import Hooshix.Gateway.TokenBuckets
import Hooshix.Gateway.HeaderLimit
import Hooshix.Gateway.Forwarding
import Hooshix.Gateway.StatusExporter
import Hooshix.Agent.HealthReports
import Hooshix.Agent.HealthState
import Hooshix.Gateway.ByteCounters
