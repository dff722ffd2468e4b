import FluidGateway.Lib.KeyedMap
import FluidGateway.Lib.Worklist
import FluidGateway.Lib.Provenance
import FluidGateway.Lib.Resolution
import FluidGateway.Lib.Utf8
import FluidGateway.Lib.Lockstep
import FluidGateway.Lib.Reading
import FluidGateway.Lib.LittleEndian
import FluidGateway.Lib.Chunks
import FluidGateway.Lib.Registry
import FluidGateway.Lib.OrderedDict
import FluidGateway.Lib.Rounding
import FluidGateway.Lib.Utf8Grammar
import FluidGateway.Lib.Format
import FluidGateway.NativeCore
import FluidGateway.NativeLedger
import FluidGateway.NativeRuns
import FluidGateway.TransferHistory
import FluidGateway.WaitResolution
import FluidGateway.RuntimeOptimizer
import FluidGateway.OptimizerLedger
import FluidGateway.OptimizerLog
import FluidGateway.OptimizerRuns
import FluidGateway.EndpointProvenance
import FluidGateway.ManifestRuns
import FluidGateway.ManifestDependencies
import FluidGateway.ManifestMemory
import FluidGateway.Texts
import FluidGateway.AdapterSession
import FluidGateway.SessionEvents
import FluidGateway.EngineAgreement
import FluidGateway.EngineParity
import FluidGateway.EngineRuns
import FluidGateway.WireFormat
import FluidGateway.WireReading
import FluidGateway.NativeSession
import FluidGateway.NativeSessionRuns
import FluidGateway.NativeHandshake
import FluidGateway.NativeTexts
import FluidGateway.BatchExpansion
import FluidGateway.FrameCodec
import FluidGateway.ReferenceFrames
import FluidGateway.NativeResponses
import FluidGateway.AbiSession
import FluidGateway.SlotTable
import FluidGateway.SlotTableRuns
import FluidGateway.HandleHistory
import FluidGateway.ExchangeStatus
import FluidGateway.ServerLoop
import FluidGateway.SessionMoves
import FluidGateway.SessionBooks
import FluidGateway.SessionSnapshot
import FluidGateway.SessionDirectives
import FluidGateway.AdmissionPlan
import FluidGateway.EventPayloads
import FluidGateway.SessionPolicy
import FluidGateway.ManagedSession
import FluidGateway.RejectedEvents
import FluidGateway.ConnectionSlots
import FluidGateway.ConnectionSlotsRuns
import FluidGateway.ReferenceNumbers
import FluidGateway.ReferencePayloads
import FluidGateway.ReferenceReading
import FluidGateway.ReferenceSession
import FluidGateway.BackedSession
import FluidGateway.BackedOperations
import FluidGateway.BackedRuns
import FluidGateway.Lib.Sequenced
import FluidGateway.LinkFrames
import FluidGateway.LinkSession
import FluidGateway.LinkRuns
import FluidGateway.Redelivery
import FluidGateway.WireExactness
import FluidGateway.WireLimit
import FluidGateway.PythonTexts
import FluidGateway.PayloadFormats
import FluidGateway.ErrorPayloads
import FluidGateway.PayloadParity
import FluidGateway.Percentiles
import FluidGateway.BudgetResource
import FluidGateway.Lib.CheckedArrays
import FluidGateway.InvalidateLoops
import FluidGateway.PointerProvenance
import FluidGateway.BufferRanges
import FluidGateway.SessionParity
import FluidGateway.ParityRuns
import FluidGateway.PythonValues
import FluidGateway.DecimalConversion
import FluidGateway.PayloadEncoding
import FluidGateway.HandshakeCodecs
import FluidGateway.DecisionCodecs
import FluidGateway.OperationCodecs
import FluidGateway.EventCodecs
import FluidGateway.BatchSettling
import FluidGateway.Handoff
import FluidGateway.WorkerPool
import FluidGateway.WorkerPoolRuns
import FluidGateway.WorkerProgress
import FluidGateway.Lib.Observed
import FluidGateway.DeadlineReader
import FluidGateway.ConnectionHandler
import FluidGateway.Lib.Sequencing
import FluidGateway.Lib.Histories
import FluidGateway.BudgetArbitration
import FluidGateway.ArbitrationRuns
import FluidGateway.DispatchPlan
import FluidGateway.DispatchAccounts
import FluidGateway.FrameWindowPlan
import FluidGateway.TransitRoutes
import FluidGateway.RouteDispatch
import FluidGateway.ExecutionSimulation
import FluidGateway.ManagerDirective
import FluidGateway.ControlState
import FluidGateway.GatewayCycle
import FluidGateway.GatewayFeedback
import FluidGateway.ControlLoop
import FluidGateway.StateAccumulator
import FluidGateway.StateTransition
import FluidGateway.AdaptiveLoop
import FluidGateway.SessionResult
import FluidGateway.Lib.Storage
import FluidGateway.AtomicFile
import FluidGateway.StateFile
import FluidGateway.Lib.FirstKept
import FluidGateway.LifetimePlanner
import FluidGateway.LifetimeRuns
import FluidGateway.SessionPlanner
import FluidGateway.TypedSession
import FluidGateway.FrameScheduler
import FluidGateway.ScheduleRuns
import FluidGateway.ScheduleOrder
