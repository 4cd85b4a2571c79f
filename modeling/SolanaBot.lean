import SolanaBot.Analysis.AtomicConversions
import SolanaBot.Analysis.BreakEven
import SolanaBot.Analysis.CacheTransparency
import SolanaBot.Analysis.CandidateIngestion
import SolanaBot.Analysis.CandlePages
import SolanaBot.Analysis.CandleShape
import SolanaBot.Analysis.ChainBalances
import SolanaBot.Analysis.CollectorPaths
import SolanaBot.Analysis.DatasetLookAhead
import SolanaBot.Analysis.DecisionAgreement
import SolanaBot.Analysis.EmergencyExits
import SolanaBot.Analysis.EntityConsensus
import SolanaBot.Analysis.EntryAdmission
import SolanaBot.Analysis.EntryEvaluations
import SolanaBot.Analysis.EntryIdempotency
import SolanaBot.Analysis.EntryReservations
import SolanaBot.Analysis.EntrySizing
import SolanaBot.Analysis.EquityLaw
import SolanaBot.Analysis.Excursions
import SolanaBot.Analysis.ExitCompletion
import SolanaBot.Analysis.ExitDecisions
import SolanaBot.Analysis.ExitIndependence
import SolanaBot.Analysis.FailedOperations
import SolanaBot.Analysis.FifoMatching
import SolanaBot.Analysis.FillLedger
import SolanaBot.Analysis.HistoryFiles
import SolanaBot.Analysis.HistoryOrder
import SolanaBot.Analysis.InflightExits
import SolanaBot.Analysis.Interlocks
import SolanaBot.Analysis.IntrabarRule
import SolanaBot.Analysis.KeyEncodings
import SolanaBot.Analysis.KillSwitch
import SolanaBot.Analysis.LandedOrders
import SolanaBot.Analysis.LandedSwaps
import SolanaBot.Analysis.LookupTables
import SolanaBot.Analysis.LossCooldown
import SolanaBot.Analysis.MirroredPositions
import SolanaBot.Analysis.MonitorCalls
import SolanaBot.Analysis.MonitorMarkings
import SolanaBot.Analysis.MonitorMoves
import SolanaBot.Analysis.ObservationRecords
import SolanaBot.Analysis.OosIsolation
import SolanaBot.Analysis.OrderClearance
import SolanaBot.Analysis.OrderExecutions
import SolanaBot.Analysis.OrderLedger
import SolanaBot.Analysis.OutputFloors
import SolanaBot.Analysis.OwnedTokens
import SolanaBot.Analysis.PageWindows
import SolanaBot.Analysis.PersistenceFailures
import SolanaBot.Analysis.PortfolioRuns
import SolanaBot.Analysis.PositionLedger
import SolanaBot.Analysis.ProfitLaw
import SolanaBot.Analysis.QuantityLaw
import SolanaBot.Analysis.QuoteMarks
import SolanaBot.Analysis.RaisedCosts
import SolanaBot.Analysis.RateLimiting
import SolanaBot.Analysis.ReconciledAgreement
import SolanaBot.Analysis.ReconciledFills
import SolanaBot.Analysis.Reconnections
import SolanaBot.Analysis.ReconstructedParts
import SolanaBot.Analysis.ReconstructionOrder
import SolanaBot.Analysis.RecordConservation
import SolanaBot.Analysis.Reentry
import SolanaBot.Analysis.ReplayFidelity
import SolanaBot.Analysis.ReportFigures
import SolanaBot.Analysis.ReportLaw
import SolanaBot.Analysis.RestartWindow
import SolanaBot.Analysis.ResumableBuild
import SolanaBot.Analysis.RiskLimits
import SolanaBot.Analysis.RoundedExits
import SolanaBot.Analysis.RpcTraces
import SolanaBot.Analysis.RunFees
import SolanaBot.Analysis.ScoreMonotonicity
import SolanaBot.Analysis.SessionParts
import SolanaBot.Analysis.SignerPinning
import SolanaBot.Analysis.SplitBoundaries
import SolanaBot.Analysis.SquareRoots
import SolanaBot.Analysis.StoreRefinement
import SolanaBot.Analysis.StoreSteps
import SolanaBot.Analysis.StrictValidation
import SolanaBot.Analysis.SubmissionGates
import SolanaBot.Analysis.SwapBalances
import SolanaBot.Analysis.SwapCandidates
import SolanaBot.Analysis.SwapCompleteness
import SolanaBot.Analysis.SwapDelivery
import SolanaBot.Analysis.SwapDeterminism
import SolanaBot.Analysis.SwapFidelity
import SolanaBot.Analysis.SwapOrder
import SolanaBot.Analysis.SwapReadings
import SolanaBot.Analysis.TaskDiscipline
import SolanaBot.Analysis.TaskRuns
import SolanaBot.Analysis.TenPowers
import SolanaBot.Analysis.TerminalOrders
import SolanaBot.Analysis.TokenAge
import SolanaBot.Analysis.TokenConservation
import SolanaBot.Analysis.TradeStatistics
import SolanaBot.Analysis.TransactionPolicy
import SolanaBot.Analysis.UnknownAmounts
import SolanaBot.Analysis.ValuationUnits
import SolanaBot.Analysis.WalkPrefixes
import SolanaBot.Analysis.WalletReads
import SolanaBot.Analysis.WalletScoring
import SolanaBot.Library.Base64
import SolanaBot.Library.CappedScale
import SolanaBot.Library.Drawdowns
import SolanaBot.Library.Faults
import SolanaBot.Library.FifoLots
import SolanaBot.Library.Firsts
import SolanaBot.Library.GainPaths
import SolanaBot.Library.Interleaving
import SolanaBot.Library.LastGreatest
import SolanaBot.Library.LoggedRuns
import SolanaBot.Library.NewtonRoots
import SolanaBot.Library.Numerals
import SolanaBot.Library.OrderedTable
import SolanaBot.Library.Paging
import SolanaBot.Library.Partitions
import SolanaBot.Library.Patterns
import SolanaBot.Library.Peaks
import SolanaBot.Library.Permissions
import SolanaBot.Library.Prefixes
import SolanaBot.Library.RelyGuarantee
import SolanaBot.Library.Reordering
import SolanaBot.Library.ResumableLog
import SolanaBot.Library.Rounding
import SolanaBot.Library.Slots
import SolanaBot.Library.Spans
import SolanaBot.Library.StaleReads
import SolanaBot.Library.Table
import SolanaBot.Library.TableViews
import SolanaBot.Library.Traces
import SolanaBot.Library.Triples
import SolanaBot.Library.Turns
import SolanaBot.Library.TwoRuns
import SolanaBot.Library.Validators
import SolanaBot.Model.BacktestRun
import SolanaBot.Model.Collector
import SolanaBot.Model.DecimalText
import SolanaBot.Model.EconomicDivisions
import SolanaBot.Model.Effects
import SolanaBot.Model.Execution
import SolanaBot.Model.ExitExecution
import SolanaBot.Model.ExitMonitor
import SolanaBot.Model.HistoricalBuild
import SolanaBot.Model.HistoricalValidation
import SolanaBot.Model.HistoryFetch
import SolanaBot.Model.Jupiter
import SolanaBot.Model.Network
import SolanaBot.Model.OhlcvProvider
import SolanaBot.Model.OperatorCommands
import SolanaBot.Model.Paper
import SolanaBot.Model.Policy
import SolanaBot.Model.Portfolio
import SolanaBot.Model.Reconciliation
import SolanaBot.Model.Report
import SolanaBot.Model.Risk
import SolanaBot.Model.RoundedExits
import SolanaBot.Model.RoundedReconstruction
import SolanaBot.Model.Rpc
import SolanaBot.Model.Session
import SolanaBot.Model.SessionLoop
import SolanaBot.Model.SmartMoney
import SolanaBot.Model.Storage
import SolanaBot.Model.StoreTables
import SolanaBot.Model.Strategy
import SolanaBot.Model.SwapParser
import SolanaBot.Model.TokenSafetyFetch
import SolanaBot.Model.TokenUnits
import SolanaBot.Model.WalletAccumulator
import SolanaBot.Model.WalletFeeds
import SolanaBot.Model.WalletMonitor
