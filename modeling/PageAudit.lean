import PageAudit.Core
import PageAudit.Audit.Evidence
import PageAudit.Audit.Page
import PageAudit.Audit.Rehearsal
import PageAudit.Audit.Suite
import PageAudit.Audit.Trace
import PageAudit.Capture.Browser
import PageAudit.Capture.Drawn
import PageAudit.Capture.Error
import PageAudit.Capture.Scene
import PageAudit.Capture.Target
import PageAudit.Check.Evaluate
import PageAudit.Check.Keywords
import PageAudit.Check.Kind
import PageAudit.CommandLine.Arguments
import PageAudit.CommandLine.Command
import PageAudit.CommandLine.Outcome
import PageAudit.CommandLine.Program
import PageAudit.CommandLine.Run
import PageAudit.Files.Change
import PageAudit.Files.Fault
import PageAudit.Files.Name
import PageAudit.Files.Path
import PageAudit.Files.Tree
import PageAudit.Host
import PageAudit.Json.Decode
import PageAudit.Json.Outline
import PageAudit.Json.Printer
import PageAudit.Json.Reader
import PageAudit.Json.Record
import PageAudit.Json.Scan
import PageAudit.Json.Value
import PageAudit.Main
import PageAudit.Matching
import PageAudit.Number.Double
import PageAudit.Number.Numeral
import PageAudit.Number.Parse
import PageAudit.Number.Shortest
import PageAudit.Picture.Buffer
import PageAudit.Picture.Canvas
import PageAudit.Picture.Glyph
import PageAudit.Picture.PageView
import PageAudit.Picture.Png
import PageAudit.Proofs.Check.Verdict
import PageAudit.Proofs.Text.Blank
import PageAudit.Proofs.Text.Search
import PageAudit.Proofs.Text.Characters
import PageAudit.Recognition.Endpoint
import PageAudit.Recognition.Error
import PageAudit.Recognition.Recognizer
import PageAudit.Recognition.Response
import PageAudit.Recognition.Result
import PageAudit.Recognition.Service
import PageAudit.Registry.Catalogue
import PageAudit.Registry.File
import PageAudit.Registry.Page
import PageAudit.Report.Files
import PageAudit.Report.Format
import PageAudit.Report.Html
import PageAudit.Report.Markdown
import PageAudit.Report.PageResult
import PageAudit.Report.Summary
import PageAudit.Session
import PageAudit.Settings.Environment
import PageAudit.Settings.Flag
import PageAudit.Settings.Viewport
import PageAudit.Text.Base64
import PageAudit.Text.Blank
import PageAudit.Text.Case
import PageAudit.Text.CaseTable
import PageAudit.Text.Hex
import PageAudit.Text.QuoteTable
import PageAudit.Text.Quoted
import PageAudit.Text.Search
import PageAudit.Text.Utf8
import PageAudit.Time.Date
import PageAudit.Time.Moment
import PageAudit.Time.Rfc3339
import PageAudit.Time.Span
import PageAudit.Time.Stamp
import PageAudit.Proofs.Audit.Steps
import PageAudit.Proofs.Registry.Expectations
import PageAudit.Proofs.Audit.Validation
import PageAudit.Proofs.Audit.Policies
import PageAudit.Proofs.Audit.Logs
import PageAudit.Proofs.Audit.Mirrors
import PageAudit.Proofs.Audit.Operations
import PageAudit.Proofs.Audit.Coherence
import PageAudit.Proofs.Audit.Recall
import PageAudit.Proofs.Audit.Screenshots
import PageAudit.Proofs.Audit.Waiting
import PageAudit.Proofs.Audit.Visits
import PageAudit.Proofs.Audit.Independence
import PageAudit.Proofs.Report.Aggregation
import PageAudit.Proofs.Json.Grammar
import PageAudit.Proofs.Number.Digits
import PageAudit.Proofs.Json.Reading
import PageAudit.Proofs.Json.Decoding
import PageAudit.Proofs.Time.Rereading
import PageAudit.Proofs.Number.Printing
import PageAudit.Proofs.Report.Documents
import PageAudit.Proofs.Files.Joining
import PageAudit.Proofs.Report.Reloading
import PageAudit.Proofs.Registry.Documents
import PageAudit.Proofs.Html.Escaping
import PageAudit.Proofs.Html.Tokens
import PageAudit.Proofs.Html.Tags
import PageAudit.Proofs.Html.Elements
import PageAudit.Proofs.Html.Layout
import PageAudit.Proofs.Html.Reading
import PageAudit.Proofs.Report.Agreement
import PageAudit.Proofs.Markdown.Lines
import PageAudit.Proofs.Markdown.Rows
import PageAudit.Proofs.Markdown.Tables
import PageAudit.Proofs.Audit.Captures
import PageAudit.Proofs.Files.Directories
import PageAudit.Proofs.Files.Growth
import PageAudit.Proofs.Capture.Pictures
import PageAudit.Proofs.Capture.Opening
import PageAudit.Proofs.Audit.Worlds
import PageAudit.Proofs.Check.Counting
import PageAudit.Proofs.Audit.Crashes
import PageAudit.Proofs.Audit.Passing
import PageAudit.Proofs.CommandLine.Sessions
import PageAudit.Proofs.CommandLine.Verdicts
import PageAudit.Proofs.Time.Calendar
import PageAudit.Proofs.Time.Stamps
import PageAudit.Proofs.Files.Names
import PageAudit.Proofs.Picture.Sizes
import PageAudit.Proofs.Capture.Survival
import PageAudit.Proofs.Picture.Painting
import PageAudit.Proofs.Picture.Pages
import PageAudit.Proofs.Picture.Bytes
import PageAudit.Proofs.Picture.Calls
import PageAudit.Proofs.Capture.Extents
import PageAudit.Proofs.CommandLine.Drawing
import PageAudit.Proofs.Text.Words
import PageAudit.Proofs.Text.Casing
import PageAudit.Proofs.Number.Rates
import PageAudit.Proofs.Number.Values
import PageAudit.Proofs.Check.Matches
import PageAudit.Proofs.Check.LongerTexts
import PageAudit.Proofs.Check.Tolerances
import PageAudit.Proofs.Registry.Leniency
import PageAudit.Proofs.Settings.Tolerance
import PageAudit.Proofs.Check.Forbidden
import PageAudit.Proofs.Registry.Blanks
import PageAudit.Proofs.Text.Utf8
import PageAudit.Proofs.Json.Records
import PageAudit.Proofs.Recognition.Responses
import PageAudit.Proofs.Json.Sizes
import PageAudit.Proofs.Recognition.Bodies
import PageAudit.Proofs.Audit.Services
import PageAudit.Proofs.CommandLine.Deadlines
import PageAudit.Proofs.Picture.Clipping
import PageAudit.Proofs.Picture.Lettering
import PageAudit.Proofs.Recognition.Origins
import PageAudit.Proofs.Files.Removing
import PageAudit.Proofs.CommandLine.Cleaning
import PageAudit.Proofs.CommandLine.Switches
import PageAudit.Proofs.Number.Naturals
import PageAudit.Proofs.Settings.Sizes
import PageAudit.Proofs.Files.Safety
import PageAudit.Proofs.Report.Modules
