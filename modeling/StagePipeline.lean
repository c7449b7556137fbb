import StagePipeline.CancelToken
import StagePipeline.Command.Arguments
import StagePipeline.Command.Run
import StagePipeline.Config
import StagePipeline.Config.File
import StagePipeline.Config.FromToml
import StagePipeline.Config.Outline
import StagePipeline.Diagnostic
import StagePipeline.FileTree
import StagePipeline.Json.Document
import StagePipeline.Json.Number
import StagePipeline.Json.Value
import StagePipeline.Lint
import StagePipeline.Main
import StagePipeline.Number.Binary64
import StagePipeline.Number.Shortest
import StagePipeline.Operation
import StagePipeline.Pipeline.Compilation
import StagePipeline.Pipeline.Run
import StagePipeline.Pipeline.Snapshot
import StagePipeline.Program.Lexer
import StagePipeline.Program.Parser
import StagePipeline.Program.Production
import StagePipeline.Program.Suffix
import StagePipeline.Program.SyntaxError
import StagePipeline.Program.Token
import StagePipeline.Program.Tree
import StagePipeline.Proofs.Acceptance
import StagePipeline.Proofs.Grammar
import StagePipeline.Proofs.Productions
import StagePipeline.Report
import StagePipeline.Report.Check
import StagePipeline.Report.Parse
import StagePipeline.Report.Stages
import StagePipeline.Session
import StagePipeline.Settings
import StagePipeline.Settings.Encode
import StagePipeline.Settings.Fields
import StagePipeline.Settings.FromJson
import StagePipeline.Settings.Problem
import StagePipeline.Source
import StagePipeline.Span
import StagePipeline.Stage.Check
import StagePipeline.Stage.Parse
import StagePipeline.Stage.Phase
import StagePipeline.Stage.Services
import StagePipeline.Stage.Workers
import StagePipeline.Text.Bytes
import StagePipeline.Text.CharacterClass
import StagePipeline.Text.CharacterRanges
import StagePipeline.Text.InvisibleRanges
import StagePipeline.Text.Quoted
import StagePipeline.Time
import StagePipeline.Toml.Document
import StagePipeline.Toml.Scalar
import StagePipeline.Toml.Table
import StagePipeline.Toml.Text
import StagePipeline.Unit
import StagePipeline.Proofs.Failure
import StagePipeline.Proofs.Relocation
import StagePipeline.Proofs.Runs
import StagePipeline.Proofs.Recovery
import StagePipeline.Proofs.Lexemes
import StagePipeline.Proofs.StrictParse
import StagePipeline.Proofs.FirstError
import StagePipeline.Proofs.WrittenText
import StagePipeline.Proofs.TreeDepth
import StagePipeline.Proofs.SessionGrowth
import StagePipeline.Proofs.UnitParse
import StagePipeline.Proofs.SequentialWalk
import StagePipeline.Proofs.Interleaving
import StagePipeline.Proofs.PoolInvariant
import StagePipeline.Proofs.ParallelRecord
import StagePipeline.Proofs.UndisturbedRun
import StagePipeline.Proofs.ParallelCollect
import StagePipeline.Proofs.ParallelFailFast
import StagePipeline.Proofs.TextPlaces
import StagePipeline.Proofs.TokenText
import StagePipeline.Proofs.SpanFaithfulness
import StagePipeline.Proofs.ErrorPlaces
import StagePipeline.Proofs.CursorSimulation
import StagePipeline.Proofs.CursorParser
import StagePipeline.Proofs.CursorProductions
import StagePipeline.Proofs.CursorRuns
import StagePipeline.Proofs.CursorSafety
import StagePipeline.Proofs.ProgramAnswers
import StagePipeline.Proofs.ProgramStage
import StagePipeline.Proofs.ReachableBatch
import StagePipeline.Proofs.ShiftedText
import StagePipeline.Proofs.JoinedTexts
import StagePipeline.Proofs.ParseVerdict
import StagePipeline.Proofs.ActionSequences
import StagePipeline.Proofs.RunOrder
import StagePipeline.Proofs.CheckAccounting
import StagePipeline.Proofs.CheckRuns
import StagePipeline.Proofs.CheckVerdict
import StagePipeline.Proofs.PolicyAgreement
import StagePipeline.Proofs.TokenHistory
import StagePipeline.Proofs.RecordedRuns
import StagePipeline.Proofs.RunAccount
import StagePipeline.Proofs.PoolAccount
import StagePipeline.Proofs.CollectReports
import StagePipeline.Proofs.ParseReport
import StagePipeline.Proofs.LexemeBeginnings
import StagePipeline.Proofs.LexicalCover
import StagePipeline.Proofs.SpelledRuns
import StagePipeline.Proofs.LexedText
import StagePipeline.Proofs.DepthLimit
import StagePipeline.Proofs.ErrorOrder
import StagePipeline.Proofs.CutRuns
import StagePipeline.Proofs.JoinedLines
import StagePipeline.Proofs.SessionHistory
import StagePipeline.Proofs.Layout
import StagePipeline.Proofs.SlicedText
import StagePipeline.Proofs.PrintedTree
import StagePipeline.Proofs.LinePositions
import StagePipeline.Proofs.TreeAddresses
import StagePipeline.Proofs.UndefinedNames
import StagePipeline.Proofs.ZeroDivisions
import StagePipeline.Proofs.RepeatedParses
import StagePipeline.Proofs.RunHistory
import StagePipeline.Proofs.RunSnapshots
import StagePipeline.Proofs.StageLists
import StagePipeline.Proofs.SummaryAccount
import StagePipeline.Proofs.JsonScalars
import StagePipeline.Proofs.JsonTexts
import StagePipeline.Proofs.SettingsTexts
