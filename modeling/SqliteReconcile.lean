import SqliteReconcile.WriteWriteFilter
import SqliteReconcile.IdentifierCaseVerdicts
import SqliteReconcile.Savepoints
import SqliteReconcile.Wrapper
import SqliteReconcile.LogMerge
import SqliteReconcile.MergeHistory
import SqliteReconcile.TerminalUi
import SqliteReconcile.ConflictDetection
import SqliteReconcile.TerminalMergetool
import SqliteReconcile.MergeConservation
import SqliteReconcile.AcceptanceSoundness
import SqliteReconcile.IndexConsistency
import SqliteReconcile.RemainingKindsAnalysis
import SqliteReconcile.Connection
import SqliteReconcile.AcceptedReplay
import SqliteReconcile.RemainingExecution
import SqliteReconcile.ReplayRestoration
import SqliteReconcile.ScanProtocol
import SqliteReconcile.WorkingMerge
import SqliteReconcile.RollingScan
import SqliteReconcile.ObjectCaches
import SqliteReconcile.SqlTokens
import SqliteReconcile.StatementLogging
import SqliteReconcile.TransactionTexts
import SqliteReconcile.InterruptedLog
import SqliteReconcile.LogTransparency
import SqliteReconcile.ControlRewrite
import SqliteReconcile.ImplicitKeys
import SqliteReconcile.ReplaceDeletes
import SqliteReconcile.RowSetReads
import SqliteReconcile.ProbeRejections
import SqliteReconcile.ConflictSyntax
import SqliteReconcile.LogRoundTrip
import SqliteReconcile.ClauseRewrites
import SqliteReconcile.PlaceRewrites
import SqliteReconcile.RewriteTwins
import SqliteReconcile.ReplayPreparation
import SqliteReconcile.LiteralValues
import SqliteReconcile.DefaultColumns
import SqliteReconcile.Materialization
import SqliteReconcile.ReplaySafety
import SqliteReconcile.CascadeClosure
import SqliteReconcile.AssignedColumns
import SqliteReconcile.ItemClauses
import SqliteReconcile.ConflictLayouts
import SqliteReconcile.SpacedLayouts
import SqliteReconcile.LayoutRecognition
import SqliteReconcile.EditCommands
import SqliteReconcile.EditSessions
import SqliteReconcile.BranchWarnings
import SqliteReconcile.BranchWarningLoop
import SqliteReconcile.UpdateRoundTrip
import SqliteReconcile.Dicts
import SqliteReconcile.ForeignLinks
import SqliteReconcile.RowMerge
import SqliteReconcile.Outcomes
import SqliteReconcile.RowEffects
import SqliteReconcile.RowBuild
import SqliteReconcile.RowLookup
import SqliteReconcile.RowRun
import SqliteReconcile.RowComparison
import SqliteReconcile.RowVerdicts
import SqliteReconcile.RowPlaces
import SqliteReconcile.RowSnapshots
import SqliteReconcile.RowDriver
import SqliteReconcile.RowMerged
import SqliteReconcile.RowConstraints
import SqliteReconcile.RowParents
import SqliteReconcile.ReadProbes
import SqliteReconcile.ReadRefinement
