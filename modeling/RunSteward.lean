import RunSteward.Act
import RunSteward.Branches.Active
import RunSteward.Branches.Classifier
import RunSteward.Command.Basic
import RunSteward.Command.Script
import RunSteward.Command.Station
import RunSteward.Command.Transcript
import RunSteward.CommandLine.Errands
import RunSteward.CommandLine.Invocation
import RunSteward.CommandLine.Word
import RunSteward.Config.DirPath
import RunSteward.Config.Document
import RunSteward.Config.Reader
import RunSteward.Config.Settings
import RunSteward.Config.Toml.Reader
import RunSteward.Config.Toml.Scalar
import RunSteward.Config.Toml.Text
import RunSteward.Config.Toml.Value
import RunSteward.Failure
import RunSteward.Gateway.Exchange
import RunSteward.Gateway.HostAddress
import RunSteward.Gateway.Link
import RunSteward.Gateway.Pause
import RunSteward.Gateway.Payload
import RunSteward.Gateway.Reads
import RunSteward.Gateway.Records
import RunSteward.Gateway.Refusal
import RunSteward.Gateway.Request
import RunSteward.Gateway.Session
import RunSteward.Gateway.Transfer
import RunSteward.Gateway.Url
import RunSteward.Gateway.Writes
import RunSteward.Governance.Action
import RunSteward.Governance.Duplicates
import RunSteward.Governance.Ledger
import RunSteward.Governance.Pass
import RunSteward.Governance.Pool
import RunSteward.Governance.Retention
import RunSteward.Host
import RunSteward.Json.Basic
import RunSteward.Json.Display
import RunSteward.Json.Reader
import RunSteward.Json.Writer
import RunSteward.Log.DailyFile
import RunSteward.Log.Event
import RunSteward.Log.Logbook
import RunSteward.Log.Record
import RunSteward.Log.RepoContext
import RunSteward.Log.Setup
import RunSteward.Main
import RunSteward.Number.Binary64
import RunSteward.Number.Shortest
import RunSteward.Plan.Table
import RunSteward.Plan.Viewer
import RunSteward.Proofs.Act.Ending
import RunSteward.Proofs.Act.Logging
import RunSteward.Proofs.Act.Paired
import RunSteward.Proofs.Act.Result
import RunSteward.Proofs.Branches.Active
import RunSteward.Proofs.Branches.Governed
import RunSteward.Proofs.Config.Outcome
import RunSteward.Proofs.Config.Path
import RunSteward.Proofs.Config.Reading
import RunSteward.Proofs.Config.Soundness
import RunSteward.Proofs.Gateway.Attempts
import RunSteward.Proofs.Gateway.Audit
import RunSteward.Proofs.Gateway.Backoff
import RunSteward.Proofs.Gateway.Cache
import RunSteward.Proofs.Gateway.Contents
import RunSteward.Proofs.Gateway.Course
import RunSteward.Proofs.Gateway.HeadAndBody
import RunSteward.Proofs.Gateway.Legibility
import RunSteward.Proofs.Gateway.LinkHeader
import RunSteward.Proofs.Gateway.OnRecord
import RunSteward.Proofs.Gateway.Paging
import RunSteward.Proofs.Gateway.Paths
import RunSteward.Proofs.Gateway.Pauses
import RunSteward.Proofs.Gateway.Printout
import RunSteward.Proofs.Gateway.Recording
import RunSteward.Proofs.Gateway.RepoTag
import RunSteward.Proofs.Gateway.RunRecords
import RunSteward.Proofs.Gateway.Serving
import RunSteward.Proofs.Gateway.Trace
import RunSteward.Proofs.Governance.Accounts
import RunSteward.Proofs.Governance.CalendarEnd
import RunSteward.Proofs.Governance.Completion
import RunSteward.Proofs.Governance.Deeds
import RunSteward.Proofs.Governance.Discretion
import RunSteward.Proofs.Governance.DuplicateSplit
import RunSteward.Proofs.Governance.Duplicates
import RunSteward.Proofs.Governance.Findings
import RunSteward.Proofs.Governance.Isolation
import RunSteward.Proofs.Governance.Ledger
import RunSteward.Proofs.Governance.Leniency
import RunSteward.Proofs.Governance.Lockstep
import RunSteward.Proofs.Governance.Orders
import RunSteward.Proofs.Governance.PassAccounts
import RunSteward.Proofs.Governance.Pool
import RunSteward.Proofs.Governance.PoolAccounts
import RunSteward.Proofs.Governance.PoolLockstep
import RunSteward.Proofs.Governance.Protection
import RunSteward.Proofs.Governance.Rehearsal
import RunSteward.Proofs.Governance.Repetition
import RunSteward.Proofs.Governance.RepoTag
import RunSteward.Proofs.Governance.RetentionRules
import RunSteward.Proofs.Governance.RetentionScan
import RunSteward.Proofs.Governance.RunStore
import RunSteward.Proofs.Governance.SecondPass
import RunSteward.Proofs.Governance.Selection
import RunSteward.Proofs.Governance.Settling
import RunSteward.Proofs.Governance.StorePass
import RunSteward.Proofs.Governance.Survey
import RunSteward.Proofs.Governance.Survivors
import RunSteward.Proofs.Governance.Thoroughness
import RunSteward.Proofs.Governance.Warrant
import RunSteward.Proofs.Governance.Watched
import RunSteward.Proofs.Host.Changes
import RunSteward.Proofs.Host.Paging
import RunSteward.Proofs.Json.Limits
import RunSteward.Proofs.Json.Literal
import RunSteward.Proofs.Json.LiteralReading
import RunSteward.Proofs.Json.TextObject
import RunSteward.Proofs.List.Sorting
import RunSteward.Proofs.Log.DailyFile
import RunSteward.Proofs.Log.EventLine
import RunSteward.Proofs.Log.Logbook
import RunSteward.Proofs.Log.Readback
import RunSteward.Proofs.Log.RepoContext
import RunSteward.Proofs.Number.Value
import RunSteward.Proofs.PullRequest.BaseMerge
import RunSteward.Proofs.PullRequest.CommentBoard
import RunSteward.Proofs.PullRequest.Permission
import RunSteward.Proofs.PullRequest.ResumeRule
import RunSteward.Proofs.PullRequest.Tasks
import RunSteward.Proofs.Steward.Containment
import RunSteward.Proofs.Steward.Manifest
import RunSteward.Proofs.Steward.PartialListings
import RunSteward.Proofs.Steward.RepoTag
import RunSteward.Proofs.Steward.Watched
import RunSteward.Proofs.Text.Base64
import RunSteward.Proofs.Text.Blank
import RunSteward.Proofs.Text.Decimal
import RunSteward.Proofs.Text.Line
import RunSteward.Proofs.Text.Percent
import RunSteward.Proofs.Text.Span
import RunSteward.Proofs.Time.DayNumber
import RunSteward.Proofs.Time.Readback
import RunSteward.Proofs.Version.Assignment
import RunSteward.Proofs.Version.Grammar
import RunSteward.Proofs.Version.Line
import RunSteward.Proofs.Version.Mainline
import RunSteward.Proofs.Version.Numeral
import RunSteward.Proofs.Version.Order
import RunSteward.Proofs.Version.Precedence
import RunSteward.PullRequest.Merge
import RunSteward.PullRequest.Resume
import RunSteward.Repository.CommitStatus
import RunSteward.Repository.Planning
import RunSteward.Repository.PullRequest
import RunSteward.Repository.WorkflowRun
import RunSteward.Steward
import RunSteward.Text.Base64
import RunSteward.Text.Blank
import RunSteward.Text.Case
import RunSteward.Text.CharClass
import RunSteward.Text.Digit
import RunSteward.Text.Excerpt
import RunSteward.Text.Line
import RunSteward.Text.Percent
import RunSteward.Text.Printable
import RunSteward.Text.Quoted
import RunSteward.Text.ShellWord
import RunSteward.Time.Calendar
import RunSteward.Time.Reader
import RunSteward.Time.Stamp
import RunSteward.Version.Basic
import RunSteward.Version.Grammar
import RunSteward.Version.Line
import RunSteward.Version.Manifest
