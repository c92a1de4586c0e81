import Taramandal.Core.LaunchLayout
import Taramandal.Core.Signing
import Taramandal.Gcs.Regate
import Taramandal.Gcs.BridgeDelay
import Taramandal.Gcs.LifecycleRuns
import Taramandal.Gcs.SimProcesses
import Taramandal.Gcs.LoginThrottle
import Taramandal.Gcs.OperatorEdits
import Taramandal.Gcs.BulkTelemetry
import Taramandal.Gcs.ShowIdentity
import Taramandal.Gcs.Formation
import Taramandal.Gcs.VerifiedMission
import Taramandal.Gcs.Takeover
import Taramandal.Gcs.BenchHandler
import Taramandal.Gcs.MonitorLoops
import Taramandal.Gcs.FailedLaunch
import Taramandal.Gcs.StreamSupervisor
import Taramandal.Gcs.RefusedStart
import Taramandal.Gcs.ResumePoint
import Taramandal.Gcs.AbortClearance
import Taramandal.Gcs.AbortIsolation
import Taramandal.Gcs.Downlink
import Taramandal.Gcs.BlackboxDamage
import Taramandal.Gcs.BlackboxFiles
import Taramandal.Gcs.BreachLog
import Taramandal.Gcs.TelemetryCodec
import Taramandal.Sim.TriggerFrame
import Taramandal.Sim.Onboard
import Taramandal.Sim.Envelope
import Taramandal.Sim.Pads
import Taramandal.Studio.PoissonDisk
import Taramandal.Studio.AiAuthor
import Taramandal.Studio.AeroAssignment
import Taramandal.Studio.DepthCopies
import Taramandal.Studio.SvgTree
import Taramandal.Studio.FormationSafety
import Taramandal.Studio.Strobes
import Taramandal.Studio.Altitude
import Taramandal.Studio.ShowBuilder
import Taramandal.Studio.CrashSafety
import Taramandal.Studio.SaveTarget
import Taramandal.Studio.Unsaved
import Taramandal.Studio.UndoHistory
import Taramandal.Studio.RepeatImport
import Taramandal.Studio.ReturnSwap
import Taramandal.Studio.Timeline
import Taramandal.Studio.DocumentInvariants
import Taramandal.Studio.TaraCorruption
import Taramandal.Studio.AudioWav
import Taramandal.Studio.PacedSpeeds
import Taramandal.Core.AltitudeExact
import Taramandal.Studio.Interpolations
import Taramandal.Studio.Validator
import Taramandal.Studio.Certificate
import Taramandal.Gcs.SlotRemap
import Taramandal.Gcs.LaunchRecord
import Taramandal.Studio.DroneBudget
import Taramandal.Studio.UploadLimit
