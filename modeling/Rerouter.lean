import Rerouter.Lib.Text
import Rerouter.Lib.FirstMatch
import Rerouter.Lib.Ipv4
import Rerouter.Lib.Outcome
import Rerouter.PrefixList
import Rerouter.PrefixListReading
import Rerouter.PrefixListPlan
import Rerouter.Lib.Run
import Rerouter.Lib.Streak
import Rerouter.Lib.Table
import Rerouter.Guard
import Rerouter.RateBudget
import Rerouter.ExclusiveConsumer
import Rerouter.Executor
import Rerouter.CrashSafety
import Rerouter.Recovery
import Rerouter.RecoverySettlement
import Rerouter.RecoveryRuns
import Rerouter.DevicePlan
import Rerouter.SafetyEffect
import Rerouter.Lib.Unwind
import Rerouter.BundleRun
import Rerouter.Compensation
import Rerouter.SatisfiedActions
import Rerouter.Lib.Ipv6
import Rerouter.Allowlist
import Rerouter.Lib.IosContext
import Rerouter.LockedSession
import Rerouter.Lib.Gather
import Rerouter.Lib.Reads
import Rerouter.Lib.Ipv6Addr
import Rerouter.PolicyInventory
import Rerouter.ListAgreement
import Rerouter.RouteContext
import Rerouter.RouteContextOrder
import Rerouter.RouteMapSections
import Rerouter.InheritedPolicy
import Rerouter.DeviceEvidence
import Rerouter.EvidenceVerdicts
import Rerouter.DeviceVerify
import Rerouter.Lib.Overlay
import Rerouter.ActionProjection
import Rerouter.PreparedExecution
import Rerouter.TemplateRendering
import Rerouter.Templates
import Rerouter.TemplateCatalog
import Rerouter.DevicePlanners
import Rerouter.PlannerRuns
import Rerouter.PreparationReads
import Rerouter.RuleState
import Rerouter.RuleRuns
import Rerouter.Persistence
import Rerouter.ExecutorRows
import Rerouter.RuleOwnership
import Rerouter.ProjectedList
import Rerouter.PrefixListRoundTrip
import Rerouter.PrefixListInverse
import Rerouter.Projections
import Rerouter.PlannedActions
import Rerouter.PreparedSequence
import Rerouter.ScheduledRecovery
import Rerouter.FlowTemplates
import Rerouter.Lib.BigEndian
import Rerouter.FlowDecode
import Rerouter.FlowRoundTrip
import Rerouter.FlowDatagrams
import Rerouter.FlowCollector
import Rerouter.SamplingEvidence
import Rerouter.RuleEdits
import Rerouter.RuleArming
import Rerouter.AlertDispatcher
import Rerouter.AlertRuns
import Rerouter.Lib.LockOrder
import Rerouter.AdvisoryLocks
import Rerouter.AdvisorySessions
import Rerouter.AdvisoryRuns
import Rerouter.AdvisoryOrder
import Rerouter.ManualAdmission
import Rerouter.ManualRuns
import Rerouter.Lib.WholeUnits
import Rerouter.Reachability
import Rerouter.ReachabilityRuns
import Rerouter.Lib.Spacing
import Rerouter.SignInThrottle
import Rerouter.SignInFactors
import Rerouter.Lib.Blocks
import Rerouter.CidrAlgebra
import Rerouter.Sflow
import Rerouter.SflowExact
import Rerouter.SequenceWatermark
import Rerouter.Lib.Capped
import Rerouter.Lib.Choice
import Rerouter.BucketTally
import Rerouter.WakeQueue
import Rerouter.Redaction
import Rerouter.AllowedCommands
import Rerouter.Lib.Ahead
import Rerouter.DiscoverySchedule
import Rerouter.Lib.Joined
import Rerouter.SnapshotKeys
import Rerouter.DiscoveryRun
import Rerouter.InventoryChecks
import Rerouter.DriftAudit
import Rerouter.Lib.Framing
import Rerouter.Lib.Utf8
import Rerouter.IosSession
import Rerouter.SessionReads
import Rerouter.SessionInStep
import Rerouter.UserGuard
import Rerouter.Lib.Heaviest
import Rerouter.FlowTarget
import Rerouter.AttackedHost
import Rerouter.AutoTarget
import Rerouter.Reservations
import Rerouter.HostKeys
import Rerouter.Lib.Meter
import Rerouter.InterfaceSamples
import Rerouter.JudgedRates
import Rerouter.Lib.Checklist
import Rerouter.PolicySettings
import Rerouter.PolicyFence
import Rerouter.PolicyFenceRuns
