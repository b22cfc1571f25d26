import ReverseTunnel.Lib.Traced
import ReverseTunnel.Lib.Triple
import ReverseTunnel.Lib.Blit
import ReverseTunnel.Lib.History
import ReverseTunnel.Lib.Clock32
import ReverseTunnel.Buffer.PrependBuffer
import ReverseTunnel.Buffer.DataRingBuffer
import ReverseTunnel.Arduino.Text
import ReverseTunnel.Interface
import ReverseTunnel.Session.HostKey
import ReverseTunnel.Channel.Slot
import ReverseTunnel.Channel.CircuitBreaker
import ReverseTunnel.Channel.BreakerHistory
import ReverseTunnel.State
import ReverseTunnel.Channel.Manager
import ReverseTunnel.Transport.Slot
import ReverseTunnel.Transport.Pump
import ReverseTunnel.Session.Session
import ReverseTunnel.Session.Keeps
import ReverseTunnel.Tunnel.Tunnel
import ReverseTunnel.Lifetime.Step
import ReverseTunnel.Lifetime.Sound
import ReverseTunnel.Lifetime.Walk
import ReverseTunnel.Lifetime.Backpressure
import ReverseTunnel.System.Frame
import ReverseTunnel.Transport.Keeps
import ReverseTunnel.System.Session
import ReverseTunnel.System.Step
import ReverseTunnel.Lifetime.Closing
import ReverseTunnel.Lifetime.Calls
import ReverseTunnel.System.Channels
import ReverseTunnel.System.Pump
import ReverseTunnel.System.Queues
import ReverseTunnel.System.Teardown
import ReverseTunnel.System.Loop
import ReverseTunnel.Lifetime.Streams
import ReverseTunnel.Lifetime.Evidence
import ReverseTunnel.System.Trace
import ReverseTunnel.Lifetime.Requests
import ReverseTunnel.System.Discipline
import ReverseTunnel.Guarantees.WorkBuffer
import ReverseTunnel.Guarantees.StreamIntegrity
import ReverseTunnel.Guarantees.Conservation
import ReverseTunnel.Guarantees.Lifecycle
import ReverseTunnel.Guarantees.Teardown
import ReverseTunnel.Guarantees.GracefulClose
import ReverseTunnel.Guarantees.EofForwarding
import ReverseTunnel.System.Handles
import ReverseTunnel.Guarantees.Ownership
import ReverseTunnel.Guarantees.NoForgottenChannel
import ReverseTunnel.Guarantees.BackOff
import ReverseTunnel.Guarantees.Breaker
import ReverseTunnel.Guarantees.RoundRobin
import ReverseTunnel.Guarantees.LockDiscipline
import ReverseTunnel.Lib.Custody
import ReverseTunnel.Session.Custody
import ReverseTunnel.Guarantees.SessionResources
import ReverseTunnel.Lifetime.Timers
import ReverseTunnel.Guarantees.CloseCauses
import ReverseTunnel.System.Events
import ReverseTunnel.Guarantees.EventDiscipline
import ReverseTunnel.Lib.Abreast
import ReverseTunnel.Transport.Shifted
import ReverseTunnel.System.Shifted
import ReverseTunnel.Guarantees.TimeTranslation
import ReverseTunnel.Guarantees.BindChannel
import ReverseTunnel.Guarantees.FinalizeRetry
import ReverseTunnel.Guarantees.Statistics
import ReverseTunnel.Guarantees.TrafficCounters
import ReverseTunnel.Guarantees.HostKeyCheck
import ReverseTunnel.Guarantees.QueueFilter
import ReverseTunnel.Tunnel.Keeps
import ReverseTunnel.Guarantees.DrainDeadline
import ReverseTunnel.Lib.Backoff
import ReverseTunnel.Guarantees.ReconnectPacing
import ReverseTunnel.Guarantees.BackPressure
import ReverseTunnel.Lib.While
import ReverseTunnel.Guarantees.AcceptLoop
import ReverseTunnel.Guarantees.FinalizeCooldown
import ReverseTunnel.Lib.Refinement
import ReverseTunnel.Guarantees.RingRefinement
import ReverseTunnel.Provisioning.ConfigButton
import ReverseTunnel.Guarantees.ButtonGestures
import ReverseTunnel.Lib.Crash
import ReverseTunnel.Arduino.Number
import ReverseTunnel.Provisioning.Percent
import ReverseTunnel.Provisioning.DeviceConfig
import ReverseTunnel.Provisioning.Flash
import ReverseTunnel.Provisioning.ConfigFile
import ReverseTunnel.Provisioning.ConfigText
import ReverseTunnel.Provisioning.ConfigWriting
import ReverseTunnel.Provisioning.KeyFiles
import ReverseTunnel.Guarantees.ConfigRoundTrip
import ReverseTunnel.Guarantees.ConfigReplacement
import ReverseTunnel.Guarantees.KeyReplacement
import ReverseTunnel.Minis.ManagedConfig
import ReverseTunnel.Minis.ManagedParsing
import ReverseTunnel.Minis.ManagedLines
import ReverseTunnel.Guarantees.ConfigAcceptance
import ReverseTunnel.Guarantees.NumberParsing
import ReverseTunnel.Lib.Base64
import ReverseTunnel.Guarantees.Fingerprints
import ReverseTunnel.Guarantees.PrependArray
import ReverseTunnel.Guarantees.PutBack
import ReverseTunnel.Guarantees.WriteBudget
import ReverseTunnel.Minis.Http
import ReverseTunnel.Minis.ApplyConfig
import ReverseTunnel.Guarantees.HttpBody
import ReverseTunnel.Guarantees.ManagedRestart
import ReverseTunnel.Lib.Handover
import ReverseTunnel.Minis.Alerts
import ReverseTunnel.Guarantees.AlertDelivery
import ReverseTunnel.Lib.Escaping
import ReverseTunnel.Lib.Delimiter
import ReverseTunnel.Arduino.HttpMessage
import ReverseTunnel.Minis.AlertRequest
import ReverseTunnel.Guarantees.AlertRequests
import ReverseTunnel.Lib.Wire
import ReverseTunnel.Provisioning.OpenSshKey
import ReverseTunnel.Provisioning.Identity
import ReverseTunnel.Guarantees.DeviceIdentity
import ReverseTunnel.Provisioning.Portal
import ReverseTunnel.Guarantees.SetupPortal
import ReverseTunnel.Guarantees.PortalRuns
import ReverseTunnel.Lib.Streak
import ReverseTunnel.Guarantees.SessionHealth
