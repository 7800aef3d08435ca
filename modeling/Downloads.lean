import Downloads.Command.Grammar
import Downloads.Command.Host
import Downloads.Command.Job
import Downloads.Command.Line
import Downloads.Command.Report
import Downloads.Command.Run
import Downloads.Command.Workspace
import Downloads.Dict
import Downloads.Documents.Error
import Downloads.Documents.Id
import Downloads.Documents.Mode
import Downloads.Documents.Node
import Downloads.Documents.Path
import Downloads.Documents.Tree
import Downloads.Json
import Downloads.Main
import Downloads.Network
import Downloads.Payload
import Downloads.Record.Basic
import Downloads.Record.Code
import Downloads.Record.Column
import Downloads.Record.Jitter
import Downloads.Record.PackedRetry
import Downloads.Record.Snapshot
import Downloads.Saturating
import Downloads.Schedule.Backoff
import Downloads.Schedule.HttpDate
import Downloads.Schedule.Notice
import Downloads.Schedule.RetryAfter
import Downloads.Schedule.Tick
import Downloads.Settings
import Downloads.Settings.File
import Downloads.Store.Access
import Downloads.Store.Archive
import Downloads.Store.Basic
import Downloads.Store.Connection
import Downloads.Store.Error
import Downloads.Store.Foreign
import Downloads.Store.Row
import Downloads.Text.Blank
import Downloads.Text.Fields
import Downloads.Text.Integer
import Downloads.Text.Printable
import Downloads.Text.Quoted
import Downloads.Text.Split
import Downloads.Url.Basic
import Downloads.Url.Host
import Downloads.Proofs.Store.Effect
import Downloads.Proofs.Store.RetryCounts
import Downloads.Proofs.Store.Snapshots
import Downloads.Proofs.Store.Frame
import Downloads.Proofs.Record.Reading
import Downloads.Proofs.Record.Acceptance
import Downloads.Proofs.Schedule.Announce
import Downloads.Proofs.Schedule.Listing
import Downloads.Proofs.Schedule.Episodes
import Downloads.Proofs.Schedule.Interleaving
import Downloads.Proofs.Schedule.StaleNotices
import Downloads.Proofs.Schedule.Wakeup
import Downloads.Proofs.Schedule.Malformed
import Downloads.Proofs.Schedule.Classes
import Downloads.Proofs.Store.Session
import Downloads.Proofs.Store.Batch
import Downloads.Proofs.Store.ReadBack
import Downloads.Proofs.Store.NewRecord
import Downloads.Proofs.Store.Journal
import Downloads.Proofs.Store.Ids
import Downloads.Proofs.Store.Lifecycle
import Downloads.Proofs.Payload.Opening
import Downloads.Proofs.Documents.Navigation
import Downloads.Proofs.Documents.Requests
import Downloads.Proofs.Documents.Directories
import Downloads.Proofs.Documents.Privacy
import Downloads.Proofs.Schedule.Pause
import Downloads.Proofs.Schedule.Waiting
import Downloads.Proofs.Schedule.Resuming
import Downloads.Proofs.Schedule.Readiness
import Downloads.Proofs.Schedule.RetryWindow
import Downloads.Proofs.Settings.Values
import Downloads.Proofs.Settings.Lines
import Downloads.Proofs.Settings.Meaning
import Downloads.Proofs.Settings.Ranges
import Downloads.Proofs.Schedule.DateText
import Downloads.Proofs.Schedule.WaitText
import Downloads.Proofs.Schedule.ServerWait
import Downloads.Proofs.Documents.Spelling
import Downloads.Proofs.Store.StatusCounts
import Downloads.Proofs.Store.HeaderNames
import Downloads.Proofs.Documents.Names
import Downloads.Proofs.Record.RetryWords
