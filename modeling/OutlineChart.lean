import OutlineChart.Browser.Act
import OutlineChart.Browser.Backend
import OutlineChart.Browser.Call
import OutlineChart.Browser.Chromium
import OutlineChart.Browser.Desk
import OutlineChart.Command.Arguments
import OutlineChart.Command.Basic
import OutlineChart.Command.Options
import OutlineChart.Command.Run
import OutlineChart.Failure
import OutlineChart.Files.Path
import OutlineChart.Files.Tree
import OutlineChart.Flowchart.Graph
import OutlineChart.Flowchart.Mermaid
import OutlineChart.Http.App
import OutlineChart.Http.Body
import OutlineChart.Http.Cors
import OutlineChart.Http.Host
import OutlineChart.Http.Location
import OutlineChart.Http.Message
import OutlineChart.Http.Reply
import OutlineChart.Json.Binary64
import OutlineChart.Json.Document
import OutlineChart.Json.Literal
import OutlineChart.Json.Numeral
import OutlineChart.Json.Value
import OutlineChart.Log
import OutlineChart.Log.Threshold
import OutlineChart.Main
import OutlineChart.Outline.Label
import OutlineChart.Outline.Line
import OutlineChart.Outline.Parse
import OutlineChart.Proofs.Browser.Acts
import OutlineChart.Proofs.Browser.Chromium
import OutlineChart.Proofs.Browser.Lifetime
import OutlineChart.Proofs.Browser.Logs
import OutlineChart.Proofs.Browser.Ordinary
import OutlineChart.Proofs.Browser.Relayed
import OutlineChart.Proofs.Command.AllOrNothing
import OutlineChart.Proofs.Command.Ends
import OutlineChart.Proofs.Command.SameDiagram
import OutlineChart.Proofs.Files.Written
import OutlineChart.Proofs.Flowchart.Additions
import OutlineChart.Proofs.Flowchart.Declared
import OutlineChart.Proofs.Flowchart.Decode
import OutlineChart.Proofs.Flowchart.Grown
import OutlineChart.Proofs.Flowchart.Incoming
import OutlineChart.Proofs.Flowchart.Statement
import OutlineChart.Proofs.Http.Answers
import OutlineChart.Proofs.Http.DiagramAnswer
import OutlineChart.Proofs.Http.FailureAnswer
import OutlineChart.Proofs.Http.Headers
import OutlineChart.Proofs.Http.PdfAnswer
import OutlineChart.Proofs.Http.Posted
import OutlineChart.Proofs.Http.ReadBody
import OutlineChart.Proofs.Http.SameText
import OutlineChart.Proofs.Http.Separate
import OutlineChart.Proofs.Json.Nesting
import OutlineChart.Proofs.Json.Strings
import OutlineChart.Proofs.Outline.Canonical
import OutlineChart.Proofs.Outline.Continued
import OutlineChart.Proofs.Outline.Decoding
import OutlineChart.Proofs.Outline.Grammar
import OutlineChart.Proofs.Outline.Layout
import OutlineChart.Proofs.Outline.LineEnds
import OutlineChart.Proofs.Outline.MaximalRuns
import OutlineChart.Proofs.Outline.NoInjection
import OutlineChart.Proofs.Outline.OnePass
import OutlineChart.Proofs.Outline.Progress
import OutlineChart.Proofs.Outline.Runs
import OutlineChart.Proofs.Outline.StepId
import OutlineChart.Proofs.Outline.Steps
import OutlineChart.Proofs.Outline.Stripped
import OutlineChart.Proofs.Render.Engine
import OutlineChart.Proofs.Render.FailedStop
import OutlineChart.Proofs.Render.FirstFailure
import OutlineChart.Proofs.Render.Frame
import OutlineChart.Proofs.Render.LoadedPage
import OutlineChart.Proofs.Render.LogAccount
import OutlineChart.Proofs.Render.Logs
import OutlineChart.Proofs.Render.Ordinary
import OutlineChart.Proofs.Render.PassedOver
import OutlineChart.Proofs.Render.Protocol
import OutlineChart.Proofs.Render.Relayed
import OutlineChart.Proofs.Render.Release
import OutlineChart.Proofs.Render.Stage
import OutlineChart.Proofs.Render.Template
import OutlineChart.Proofs.Render.Told
import OutlineChart.Proofs.Render.Untroubled
import OutlineChart.Proofs.Service.Blank
import OutlineChart.Proofs.Service.Pipeline
import OutlineChart.Proofs.Service.Transparent
import OutlineChart.Proofs.Text.InvalidParts
import OutlineChart.Proofs.Text.Pieces
import OutlineChart.Proofs.Text.Trim
import OutlineChart.Render.Page
import OutlineChart.Render.Pdf
import OutlineChart.Service
import OutlineChart.Settings.Basic
import OutlineChart.Settings.DotEnv
import OutlineChart.Settings.Load
import OutlineChart.Settings.Scalar
import OutlineChart.Text.Basic
import OutlineChart.Text.Cased
import OutlineChart.Text.CodePoint
import OutlineChart.Text.ControlSequence
import OutlineChart.Text.Hexadecimal
import OutlineChart.Text.Lowercase
import OutlineChart.Text.Newline
import OutlineChart.Text.Printable
import OutlineChart.Text.Quoted
import OutlineChart.Text.Utf8
