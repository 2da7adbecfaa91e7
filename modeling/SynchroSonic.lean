import SynchroSonic.Machine.Loop
import SynchroSonic.Machine.Transition
import SynchroSonic.Machine.FifoLedger
import SynchroSonic.Machine.BigEndian
import SynchroSonic.Machine.ReadScript
import SynchroSonic.Machine.WriteScript
import SynchroSonic.Machine.Word
import SynchroSonic.Machine.KeyedList
import SynchroSonic.Machine.Text
import SynchroSonic.Machine.Disk
import SynchroSonic.Machine.Mealy
import SynchroSonic.Machine.DropOldest
import SynchroSonic.Machine.Retry
import SynchroSonic.Machine.Slot
import SynchroSonic.Core.Error
import SynchroSonic.Core.TextIo
import SynchroSonic.Core.Models
import SynchroSonic.Core.Audio
import SynchroSonic.Core.Receiver
import SynchroSonic.Core.Config
import SynchroSonic.Core.ConfigFile
import SynchroSonic.Core.Streaming
import SynchroSonic.Core.State
import SynchroSonic.Discovery.Registry
import SynchroSonic.Discovery.ChangeLog
import SynchroSonic.Discovery.Endpoints
import SynchroSonic.Discovery.Removal
import SynchroSonic.Discovery.Snapshots
import SynchroSonic.Discovery.Advertisement
import SynchroSonic.Discovery.Service
import SynchroSonic.Discovery.Resolved
import SynchroSonic.Transport.Protocol
import SynchroSonic.Transport.FrameStream
import SynchroSonic.Transport.Messages
import SynchroSonic.Transport.Receiver
import SynchroSonic.Transport.SessionRounds
import SynchroSonic.Transport.SessionEvents
import SynchroSonic.Transport.ReadTimeouts
import SynchroSonic.Receiver.Buffer
import SynchroSonic.Receiver.FullBuffer
import SynchroSonic.Receiver.Worker
import SynchroSonic.Receiver.WorkerInvariant
import SynchroSonic.Receiver.PacketLedger
import SynchroSonic.Receiver.SyncWindow
import SynchroSonic.Receiver.PlayingState
import SynchroSonic.Receiver.Rebuffering
import SynchroSonic.Receiver.BufferCeiling
import SynchroSonic.Receiver.BufferArithmetic
import SynchroSonic.Receiver.BufferRefinement
import SynchroSonic.Receiver.LiveSession
import SynchroSonic.Machine.BufReader
import SynchroSonic.Audio.Capture
import SynchroSonic.Audio.CaptureFrames
import SynchroSonic.Transport.Fanout
import SynchroSonic.Transport.BranchQueue
import SynchroSonic.Transport.BranchQueuePolicy
import SynchroSonic.Transport.TargetSession
import SynchroSonic.Transport.TargetCollection
import SynchroSonic.Transport.SenderManager
import SynchroSonic.Transport.SenderRuns
import SynchroSonic.Transport.SenderSteps
import SynchroSonic.Transport.ConnectAttempts
import SynchroSonic.Transport.SessionLedger
import SynchroSonic.Transport.Agreement
import SynchroSonic.Transport.Refusals
import SynchroSonic.Transport.TargetView
import SynchroSonic.Transport.PublishedState
import SynchroSonic.Transport.ConnectRetries
import SynchroSonic.Transport.SharedState
import SynchroSonic.Transport.FanoutIsolation
import SynchroSonic.Transport.SenderSession
import SynchroSonic.Transport.CaptureFailure
import SynchroSonic.Transport.MirrorIsolation
import SynchroSonic.Transport.MirrorWorker
import SynchroSonic.Transport.MirrorSink
import SynchroSonic.Transport.MirrorThread
import SynchroSonic.Transport.Transcript
import SynchroSonic.Transport.SessionThreads
import SynchroSonic.Transport.SenderSpeech
import SynchroSonic.Transport.ReceiverSpeech
import SynchroSonic.Transport.Conversation
import SynchroSonic.Receiver.IdleSession
import SynchroSonic.Receiver.Starvation
import SynchroSonic.App.BrowserJoin
import SynchroSonic.App.Persistence
import SynchroSonic.App.Diagnostics
import SynchroSonic.App.ConfigRepair
import SynchroSonic.App.ConfigBackup
import SynchroSonic.Machine.Backlog
import SynchroSonic.Transport.CaptureBacklog
import SynchroSonic.Audio.CaptureStop
import SynchroSonic.Machine.AddrParser
import SynchroSonic.App.BindAddr
import SynchroSonic.Transport.SequenceGaps
import SynchroSonic.Machine.Trim
import SynchroSonic.Discovery.DnsLabel
import SynchroSonic.Transport.Voices
import SynchroSonic.Transport.Cast
import SynchroSonic.Receiver.Playout
import SynchroSonic.Transport.SentCounters
import SynchroSonic.Receiver.Runtime
import SynchroSonic.Receiver.RuntimeInvariant
import SynchroSonic.Transport.ReceiverServer
import SynchroSonic.Receiver.Mode
import SynchroSonic.Receiver.ModeInvariant
import SynchroSonic.Discovery.Browse
import SynchroSonic.App.DiscoveryPoll
import SynchroSonic.Machine.DiskJobs
import SynchroSonic.App.Sessions
import SynchroSonic.App.JoinService
