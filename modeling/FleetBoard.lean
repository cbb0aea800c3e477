import FleetBoard.Board
import FleetBoard.Board.Command
import FleetBoard.Board.Update
import FleetBoard.Clipboard
import FleetBoard.Computer
import FleetBoard.ExitStatus
import FleetBoard.FileTree
import FleetBoard.Filter
import FleetBoard.Invocation
import FleetBoard.Job
import FleetBoard.Job.Course
import FleetBoard.JobError
import FleetBoard.Json.Decoder
import FleetBoard.Json.Fault
import FleetBoard.Json.Literal
import FleetBoard.Json.Number
import FleetBoard.Json.Printer
import FleetBoard.Json.Skip
import FleetBoard.Json.Value
import FleetBoard.Key
import FleetBoard.KeyGuide
import FleetBoard.Main
import FleetBoard.Message
import FleetBoard.Options
import FleetBoard.Page
import FleetBoard.Path
import FleetBoard.Plan
import FleetBoard.Project
import FleetBoard.Proofs.Accepted
import FleetBoard.Proofs.Agreement
import FleetBoard.Proofs.AllProjects
import FleetBoard.Proofs.Arrival
import FleetBoard.Proofs.Background
import FleetBoard.Proofs.Casing
import FleetBoard.Proofs.ClosedLoop
import FleetBoard.Proofs.Confirmation
import FleetBoard.Proofs.Cursor
import FleetBoard.Proofs.Custody
import FleetBoard.Proofs.Deed
import FleetBoard.Proofs.Delivery
import FleetBoard.Proofs.EventOrder
import FleetBoard.Proofs.FactRows
import FleetBoard.Proofs.FailureMessage
import FleetBoard.Proofs.FooterSpace
import FleetBoard.Proofs.Footing
import FleetBoard.Proofs.Highlight
import FleetBoard.Proofs.HintSpace
import FleetBoard.Proofs.LastPayload
import FleetBoard.Proofs.Layout
import FleetBoard.Proofs.LineScan
import FleetBoard.Proofs.Loop
import FleetBoard.Proofs.LossyDecoding
import FleetBoard.Proofs.Move
import FleetBoard.Proofs.Narrowing
import FleetBoard.Proofs.OneColumn
import FleetBoard.Proofs.Opener
import FleetBoard.Proofs.OperationLife
import FleetBoard.Proofs.Overlay
import FleetBoard.Proofs.Parked
import FleetBoard.Proofs.Payload
import FleetBoard.Proofs.PipeLines
import FleetBoard.Proofs.Polling
import FleetBoard.Proofs.ProjectRow
import FleetBoard.Proofs.Quitting
import FleetBoard.Proofs.Reach
import FleetBoard.Proofs.ReadBack
import FleetBoard.Proofs.Restyle
import FleetBoard.Proofs.Retained
import FleetBoard.Proofs.Routes
import FleetBoard.Proofs.Run
import FleetBoard.Proofs.SameList
import FleetBoard.Proofs.ScannedLines
import FleetBoard.Proofs.ScreenRows
import FleetBoard.Proofs.Scroll
import FleetBoard.Proofs.ScrollReach
import FleetBoard.Proofs.ServiceOrder
import FleetBoard.Proofs.Skipping
import FleetBoard.Proofs.Stale
import FleetBoard.Proofs.TextLines
import FleetBoard.Proofs.TickLoads
import FleetBoard.Proofs.Turn
import FleetBoard.Proofs.Unanswered
import FleetBoard.Proofs.Watch
import FleetBoard.Proofs.WellFormed
import FleetBoard.Proofs.Wiring
import FleetBoard.Proofs.Wrapping
import FleetBoard.Relay
import FleetBoard.Replay
import FleetBoard.Reply
import FleetBoard.Scanner
import FleetBoard.Screen
import FleetBoard.Screen.Dashboard
import FleetBoard.Screen.Detail
import FleetBoard.Screen.Follow
import FleetBoard.Screen.Grid
import FleetBoard.Screen.Help
import FleetBoard.Screen.Line
import FleetBoard.Screen.Parts
import FleetBoard.Screen.Wrap
import FleetBoard.Scrollback
import FleetBoard.Session
import FleetBoard.Settings
import FleetBoard.Settings.Discovery
import FleetBoard.Stream
import FleetBoard.SystemError
import FleetBoard.Tee
import FleetBoard.TerminalEvent
import FleetBoard.Text.Blank
import FleetBoard.Text.CharRanges
import FleetBoard.Text.Fit
import FleetBoard.Text.Grapheme
import FleetBoard.Text.Grapheme.Table
import FleetBoard.Text.LowerCase
import FleetBoard.Text.LowerCase.Table
import FleetBoard.Text.Occurs
import FleetBoard.Text.Utf8
import FleetBoard.Text.Width
import FleetBoard.Theme
import FleetBoard.Tool
import FleetBoard.Workbench
import FleetBoard.Yaml.Cursor
import FleetBoard.Yaml.Lexer
import FleetBoard.Yaml.Node
import FleetBoard.Yaml.Property
import FleetBoard.Yaml.Scalar.Block
import FleetBoard.Yaml.Scalar.Plain
import FleetBoard.Yaml.Scalar.Quoted
import FleetBoard.Yaml.Shape
import FleetBoard.Yaml.Token
