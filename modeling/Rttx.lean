import Rttx.Server.WorkspaceOp
import Rttx.Server.SampleTerminal
import Rttx.Server.PaneStructure
import Rttx.Server.WriteLease
import Rttx.Server.WorkspaceFile
import Rttx.Server.DirtyTracking
import Rttx.Server.SerializationLoop
import Rttx.Server.SerializationTicks
import Rttx.Server.OutputDelivery
import Rttx.Server.PaneSize
import Rttx.Server.OutputContinuity
import Rttx.Server.ResyncDelivery
import Rttx.Server.RequestAuthorization
import Rttx.Kernel.BoundedPipe
import Rttx.Server.PtyPipe
import Rttx.Client.Layout
import Rttx.Client.WorkspaceState
import Rttx.Client.Reconcile
import Rttx.Client.WindowPanes
import Rttx.Client.ResyncRecovery
import Rttx.Server.ScreenReaders
import Rttx.Server.PlaceholderScreen
import Rttx.Server.Messages
import Rttx.Server.PushOverflow
import Rttx.Client.EndpointMessages
import Rttx.Client.EndpointActor
import Rttx.Client.ActorFrames
import Rttx.Client.OverflowResync
import Rttx.Client.LivenessVerdicts
import Rttx.Client.EventDelivery
import Rttx.Server.WorkspaceLifetime
import Rttx.Server.TerminationAnswers
import Rttx.Kernel.ReplicaFeed
import Rttx.Server.TreeReplicas
import Rttx.Kernel.PendingWrites
import Rttx.Server.ClientSizes
import Rttx.Client.LayoutSplit
import Rttx.Client.SplitRequests
import Rttx.Client.OptimisticSplit
import Rttx.Kernel.ChunkedStream
import Rttx.Server.ConnectionReader
import Rttx.Server.ConnectionLifecycle
import Rttx.Server.StaleReports
import Rttx.Server.HistoryRendering
import Rttx.Server.StateStore
import Rttx.Server.StoreProvenance
import Rttx.Server.ScrollbackLog
import Rttx.Kernel.OrderedWrites
import Rttx.Server.DurableOrder
import Rttx.Server.ConfidentialPanes
import Rttx.Server.StateCleanup
import Rttx.Kernel.WireFormat
import Rttx.Server.SnapshotSize
import Rttx.Server.PtyRegistry
import Rttx.Client.Reconnection
import Rttx.Kernel.ControlSequence
import Rttx.Server.QueryAnswers
import Rttx.Server.ClipboardStream
import Rttx.Client.Backoff
import Rttx.Client.Dismissals
import Rttx.Client.EventRuns
import Rttx.Kernel.ControlParameters
import Rttx.Server.ModeCalls
import Rttx.Client.ModeTrackers
import Rttx.Client.ModeAgreement
import Rttx.Server.GridStream
import Rttx.Server.ScreenModes
import Rttx.Server.CursorReports
import Rttx.Kernel.WrappedLines
import Rttx.Server.RenderedTokens
import Rttx.Server.LogicalLines
import Rttx.Kernel.FileScripts
import Rttx.Server.StateFiles
import Rttx.Client.DocumentStore
import Rttx.Client.StoreOperations
import Rttx.Client.LayoutEdits
import Rttx.Client.LayoutGeometry
import Rttx.Client.LayoutLaws
import Rttx.Client.WorkspaceRecords
import Rttx.Client.Pasting
import Rttx.Server.QueryStripping
import Rttx.Client.TreeAgreement
import Rttx.Client.SessionWindow
import Rttx.Client.SessionEffects
import Rttx.Client.WorkspaceInvariants
import Rttx.Client.RuntimeReferences
import Rttx.Client.ReverseIndex
import Rttx.Server.TreeEdits
import Rttx.Server.WorkspaceRestore
import Rttx.Kernel.RotatingLog
import Rttx.Server.PaneFiles
import Rttx.Kernel.PagedReading
import Rttx.Server.ScrollbackPaging
import Rttx.Server.RequestedSizes
import Rttx.Kernel.Sextets
import Rttx.Server.Base64
import Rttx.Kernel.HeldBack
import Rttx.Server.GridCharacters
import Rttx.Server.ClipboardWrites
import Rttx.Server.CallGrid
import Rttx.Server.CleanupControls
import Rttx.Server.IdleCleanup
import Rttx.Server.ExitCleanup
import Rttx.Server.StrayExits
import Rttx.Client.SelectionHolds
import Rttx.Kernel.PercentEncoding
import Rttx.Server.WorkingDirectory
import Rttx.Kernel.ShellWords
import Rttx.Client.Commands
import Rttx.Kernel.LineCuts
import Rttx.Server.SizeCaps
import Rttx.Kernel.Loops
import Rttx.Server.GraphicRendition
import Rttx.Server.HistoryWalk
import Rttx.Client.ConfigReset
import Rttx.Client.Handshake
import Rttx.Server.FlightThreads
import Rttx.Server.ProfileReport
import Rttx.Client.RemoteShell
import Rttx.Client.LeaderKeys
import Rttx.Client.Timestamps
import Rttx.Server.SingleInstance
import Rttx.Client.ExportFiles
import Rttx.Client.AnswerMatching
import Rttx.Server.PtyTraffic
import Rttx.Server.PaneRestore
import Rttx.Server.RestoredLines
