import LoadVerifier.Column.Map
import LoadVerifier.CommandLine.Arguments
import LoadVerifier.CommandLine.Connection
import LoadVerifier.CommandLine.Draft
import LoadVerifier.CommandLine.Help
import LoadVerifier.CommandLine.Parse
import LoadVerifier.CommandLine.Program
import LoadVerifier.CommandLine.Switch
import LoadVerifier.CommandLine.UsageError
import LoadVerifier.CommandLine.Word
import LoadVerifier.Database.Basic
import LoadVerifier.Database.Scripted
import LoadVerifier.Decimal.Binary
import LoadVerifier.Decimal.Literal
import LoadVerifier.Decimal.Rounded
import LoadVerifier.Decimal.Shortest
import LoadVerifier.Drill.Basic
import LoadVerifier.Drill.Command
import LoadVerifier.Error
import LoadVerifier.Given
import LoadVerifier.Key.Cursor
import LoadVerifier.Key.Range
import LoadVerifier.Limits
import LoadVerifier.LoadTest.Execute
import LoadVerifier.LoadTest.Report
import LoadVerifier.LoadTest.Run
import LoadVerifier.Main
import LoadVerifier.Method
import LoadVerifier.Pass.Options
import LoadVerifier.Pass.Spec
import LoadVerifier.Pool.Basic
import LoadVerifier.Pool.Iterate
import LoadVerifier.Pool.Progress
import LoadVerifier.Proofs.AbortOverrun
import LoadVerifier.Proofs.AcceptedArguments
import LoadVerifier.Proofs.AcceptedSettings
import LoadVerifier.Proofs.AgreeingSizes
import LoadVerifier.Proofs.ColonSpecs
import LoadVerifier.Proofs.CompletedKeys
import LoadVerifier.Proofs.ConnectionLaws
import LoadVerifier.Proofs.ConnectionText
import LoadVerifier.Proofs.CrashReport
import LoadVerifier.Proofs.DecimalText
import LoadVerifier.Proofs.DrawLimits
import LoadVerifier.Proofs.Draws
import LoadVerifier.Proofs.DryRun
import LoadVerifier.Proofs.ErrorLimit
import LoadVerifier.Proofs.ExecutedSchedule
import LoadVerifier.Proofs.ExitCode
import LoadVerifier.Proofs.FullVerification
import LoadVerifier.Proofs.GateSafety
import LoadVerifier.Proofs.GuidedSteps
import LoadVerifier.Proofs.InterruptedRun
import LoadVerifier.Proofs.KeyHandout
import LoadVerifier.Proofs.Lifecycle
import LoadVerifier.Proofs.LinkedLife
import LoadVerifier.Proofs.LinkedProgress
import LoadVerifier.Proofs.LinkedResult
import LoadVerifier.Proofs.Methods
import LoadVerifier.Proofs.MisplacedCells
import LoadVerifier.Proofs.Misuse
import LoadVerifier.Proofs.OverwritingLaw
import LoadVerifier.Proofs.PoolCrash
import LoadVerifier.Proofs.PoolLife
import LoadVerifier.Proofs.PoolStep
import LoadVerifier.Proofs.PromptStop
import LoadVerifier.Proofs.ReaderAccounts
import LoadVerifier.Proofs.ReaderAudit
import LoadVerifier.Proofs.ReaderGate
import LoadVerifier.Proofs.ReaderLife
import LoadVerifier.Proofs.ReaderProgress
import LoadVerifier.Proofs.ReaderReport
import LoadVerifier.Proofs.ReaderSample
import LoadVerifier.Proofs.RecordShape
import LoadVerifier.Proofs.RefusedCalls
import LoadVerifier.Proofs.ResumePoint
import LoadVerifier.Proofs.RowComparison
import LoadVerifier.Proofs.RowContents
import LoadVerifier.Proofs.RowlessPass
import LoadVerifier.Proofs.RunCourse
import LoadVerifier.Proofs.RunEnd
import LoadVerifier.Proofs.RunEnding
import LoadVerifier.Proofs.RunLife
import LoadVerifier.Proofs.RunOnAnyStore
import LoadVerifier.Proofs.RunResults
import LoadVerifier.Proofs.RunStanding
import LoadVerifier.Proofs.SameContract
import LoadVerifier.Proofs.SamplingShare
import LoadVerifier.Proofs.Schedule
import LoadVerifier.Proofs.SeedStreams
import LoadVerifier.Proofs.SessionCalls
import LoadVerifier.Proofs.SessionLedger
import LoadVerifier.Proofs.SessionLife
import LoadVerifier.Proofs.SessionOwners
import LoadVerifier.Proofs.SessionRelease
import LoadVerifier.Proofs.SessionRenewal
import LoadVerifier.Proofs.SessionTracking
import LoadVerifier.Proofs.Sessions
import LoadVerifier.Proofs.SmoothReader
import LoadVerifier.Proofs.SmoothRun
import LoadVerifier.Proofs.SmoothWriter
import LoadVerifier.Proofs.SoloReader
import LoadVerifier.Proofs.SpelledNumber
import LoadVerifier.Proofs.StatementTemplate
import LoadVerifier.Proofs.StatementTokens
import LoadVerifier.Proofs.SteadyRows
import LoadVerifier.Proofs.TableCells
import LoadVerifier.Proofs.TableCreation
import LoadVerifier.Proofs.TableFit
import LoadVerifier.Proofs.WaitTrace
import LoadVerifier.Proofs.WatermarkSafety
import LoadVerifier.Proofs.WriteModes
import LoadVerifier.Proofs.WriterAccounts
import LoadVerifier.Proofs.WriterCourse
import LoadVerifier.Proofs.WriterCutShort
import LoadVerifier.Proofs.WriterLife
import LoadVerifier.Proofs.WriterProgress
import LoadVerifier.Proofs.WriterReport
import LoadVerifier.Proofs.WriterResult
import LoadVerifier.Proofs.WriterRows
import LoadVerifier.Proofs.WriterUndisturbed
import LoadVerifier.Proofs.WrittenPrefix
import LoadVerifier.Random.Seed
import LoadVerifier.Random.Stream
import LoadVerifier.Reading.Link
import LoadVerifier.Reading.Reader
import LoadVerifier.Reading.Result
import LoadVerifier.Reading.Tally
import LoadVerifier.Record.Bounds
import LoadVerifier.Record.Compare
import LoadVerifier.Record.Generate
import LoadVerifier.Store.Basic
import LoadVerifier.Store.Faulty
import LoadVerifier.Store.Memory
import LoadVerifier.Store.Session
import LoadVerifier.Table.Create
import LoadVerifier.Table.Statement
import LoadVerifier.Text.CharacterClass
import LoadVerifier.Text.Digits
import LoadVerifier.Text.Integer
import LoadVerifier.Text.Printable
import LoadVerifier.Text.Quoted
import LoadVerifier.Writing.Result
import LoadVerifier.Writing.Watermark
import LoadVerifier.Writing.Writer
