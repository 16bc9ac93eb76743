import Glm53Overlay.Library.ReplayMachine
import Glm53Overlay.Library.PyText
import Glm53Overlay.Library.PyDict
import Glm53Overlay.Library.RankedChoice
import Glm53Overlay.Library.CommonPrefix
import Glm53Overlay.Library.TiedMaximum
import Glm53Overlay.Library.SortedRuns
import Glm53Overlay.Library.SegmentedRange
import Glm53Overlay.Library.TextSearch
import Glm53Overlay.Library.TextFile
import Glm53Overlay.Library.TextEdit
import Glm53Overlay.Library.CommutingRuns
import Glm53Overlay.Library.TextSteps
import Glm53Overlay.Library.PackedText
import Glm53Overlay.Library.StagedInstall
import Glm53Overlay.Library.Sha256
import Glm53Overlay.Library.PlacedOnce
import Glm53Overlay.Library.LongestMatch
import Glm53Overlay.Library.BlockTransform
import Glm53Overlay.DecodeFloor.GateModel
import Glm53Overlay.DecodeFloor.GateSteps
import Glm53Overlay.DecodeFloor.HoldDeadline
import Glm53Overlay.DecodeFloor.UpgradeEquivalence
import Glm53Overlay.DecodeFloor.UpgradeLimits
import Glm53Overlay.DecodeFloor.MutualHold
import Glm53Overlay.ChunkSplit.AlignedSplit
import Glm53Overlay.ChunkSplit.TailFloor
import Glm53Overlay.PrefixAdmit.AlignedPrefix
import Glm53Overlay.PrefixAdmit.InflightHold
import Glm53Overlay.PrefixCache.TailEvict
import Glm53Overlay.PrefixCache.BlockPool
import Glm53Overlay.PrefixCache.ParentClosed
import Glm53Overlay.AdaptiveK.Policy
import Glm53Overlay.AdaptiveK.CapturedWidths
import Glm53Overlay.AdaptiveK.OverrideControl
import Glm53Overlay.FusedMoe.Routing
import Glm53Overlay.FusedMoe.FatTiers
import Glm53Overlay.FusedMoe.ExpertGroups
import Glm53Overlay.FusedMoe.RowTiles
import Glm53Overlay.FusedMoe.GroupedTables
import Glm53Overlay.FusedMoe.RoutedSlots
import Glm53Overlay.FusedMoe.TierEquivalence
import Glm53Overlay.ReasoningStops.StopGuard
import Glm53Overlay.ReasoningStops.MarkerLatch
import Glm53Overlay.HybridHit.GroupSpecs
import Glm53Overlay.HybridHit.FixedPoint
import Glm53Overlay.HybridHit.RetentionGroups
import Glm53Overlay.DrafterLayout.TensorLayout
import Glm53Overlay.DrafterLayout.SharedPool
import Glm53Overlay.SharedExperts.EarlyLaunch
import Glm53Overlay.SharedExperts.Rounds
import Glm53Overlay.SharedExperts.StockRefinement
import Glm53Overlay.TokenCache.SegmentCache
import Glm53Overlay.TokenCache.Exactness
import Glm53Overlay.TensorParallel.ShardedLoad
import Glm53Overlay.TensorParallel.ExpertLinear
import Glm53Overlay.TensorParallel.RankSum
import Glm53Overlay.Installers.TailBoundary
import Glm53Overlay.Installers.TextPatch
import Glm53Overlay.Installers.DecodeFloor
import Glm53Overlay.Installers.FloorVersions
import Glm53Overlay.Installers.HybridPrefixHit
import Glm53Overlay.Installers.GroupRetention
import Glm53Overlay.Installers.OverlaySteps
import Glm53Overlay.Installers.OverlayOrder
import Glm53Overlay.Installers.FloorConfluence
import Glm53Overlay.Installers.AlignFloor
import Glm53Overlay.Installers.AdaptiveK
import Glm53Overlay.Installers.PrefixAdmit
import Glm53Overlay.Installers.ResidentTail
import Glm53Overlay.Installers.SchedulerChain
import Glm53Overlay.Installers.KpoolTail
import Glm53Overlay.Installers.NoStore
import Glm53Overlay.Installers.TicketScheduler
import Glm53Overlay.Installers.AllOrNothing
import Glm53Overlay.Watchdog.Ticks
import Glm53Overlay.Watchdog.Runs
import Glm53Overlay.JitCache.ShapeGuard
import Glm53Overlay.TokenCache.Accounting
import Glm53Overlay.StructuredOutput.GrammarBackend
import Glm53Overlay.IndexerWorkspace.PrefillChunks
import Glm53Overlay.DrafterLayout.GroupBuilder
import Glm53Overlay.DrafterLayout.CompactPage
import Glm53Overlay.Library.GridLaunch
import Glm53Overlay.DraftLogits.Kernels
import Glm53Overlay.DraftLogits.CallHistory
import Glm53Overlay.Library.FaultProgram
import Glm53Overlay.OccupancyWindow.Phases
import Glm53Overlay.OccupancyWindow.PhaseRules
import Glm53Overlay.OccupancyWindow.Recovery
import Glm53Overlay.OccupancyWindow.RecoveryRuns
import Glm53Overlay.Library.StoreTrace
import Glm53Overlay.MambaBlocks.NullGap
import Glm53Overlay.MambaBlocks.Retirement
import Glm53Overlay.MambaBlocks.RetirementRuns
import Glm53Overlay.OccupancyGate.Judge
import Glm53Overlay.OccupancyGate.LaunchGaps
import Glm53Overlay.KernelShare.Attribution
import Glm53Overlay.AdaptiveK.IgnoredOverride
import Glm53Overlay.AdaptiveK.Acceptance
import Glm53Overlay.MetricsAlert.Interval
import Glm53Overlay.BootRetry.Attempts
import Glm53Overlay.RoceGid.Selection
import Glm53Overlay.KernelShare.Task29Rule
import Glm53Overlay.KernelShare.TraceReaderExact
import Glm53Overlay.SnapshotCheck.Truncation
import Glm53Overlay.KpoolStorage.SlotKernel
import Glm53Overlay.KpoolStorage.TailStorage
import Glm53Overlay.FusedMoe.FatKernelCover
import Glm53Overlay.GroupedConv.DenseReference
import Glm53Overlay.FusedMoe.TableLayout
import Glm53Overlay.FusedMoe.TileLaunches
import Glm53Overlay.FusedMoe.DecodeSkip
import Glm53Overlay.Library.AsyncCopy
import Glm53Overlay.FusedMoe.CopyPipeline
import Glm53Overlay.Library.EvenSpread
import Glm53Overlay.VideoPlaceholders.Align
import Glm53Overlay.Library.LinkedList
import Glm53Overlay.PrefixCache.FreeQueue
import Glm53Overlay.ResidentTail.Defer
import Glm53Overlay.ResidentTail.Lifetime
import Glm53Overlay.ResidentTail.Starvation
import Glm53Overlay.DecodeFloor.CrawlSteps
import Glm53Overlay.DecodeFloor.CrawlEpisode
import Glm53Overlay.Library.LineSort
import Glm53Overlay.JitCache.ShapeHash
import Glm53Overlay.JitCache.ShapeCollision
import Glm53Overlay.Library.ShellVars
import Glm53Overlay.Library.Numerals
import Glm53Overlay.NumericConfig.Validate
import Glm53Overlay.NumericConfig.Agreement
import Glm53Overlay.NumericConfig.EngineReads
import Glm53Overlay.ExpertsWindow.Adopt
import Glm53Overlay.ExpertTickets.Invariant
import Glm53Overlay.ExpertTickets.Steps
import Glm53Overlay.ExpertTickets.Preserved
import Glm53Overlay.ExpertTickets.Progress
import Glm53Overlay.ExpertTickets.Served
import Glm53Overlay.ExpertTickets.HostCalls
import Glm53Overlay.ExpertTickets.Pristine
import Glm53Overlay.ImportClosure.Closure
import Glm53Overlay.ImportClosure.Exact
