import Rollup.Word
import Rollup.Text.Blank
import Rollup.Text.Fold
import Rollup.Text.Hex
import Rollup.Text.Scanner
import Rollup.Text.Shown
import Rollup.Text.Utf8
import Rollup.Double.Shortest
import Rollup.Double.Layout
import Rollup.Double.Reading
import Rollup.Json.Value
import Rollup.Json.Printer
import Rollup.Json.Draft
import Rollup.Json.Reader
import Rollup.Json.Decode
import Rollup.Toml.Value
import Rollup.Toml.Table
import Rollup.Toml.Quoted
import Rollup.Toml.Numeral
import Rollup.Toml.Reader
import Rollup.Calendar.Date
import Rollup.Calendar.Instant
import Rollup.Calendar.Printer
import Rollup.Calendar.Reader
import Rollup.Calendar.Interval
import Rollup.Calendar.Template
import Rollup.Request.Basic
import Rollup.Request.Encode
import Rollup.Request.Decode
import Rollup.Statement.Error
import Rollup.Statement.Param
import Rollup.Statement.Basic
import Rollup.Statement.Text
import Rollup.Statement.Compile
import Rollup.Statement.Query
import Rollup.Store.Cell
import Rollup.Store.Affinity
import Rollup.Store.Error
import Rollup.Store.Like
import Rollup.Store.Function
import Rollup.Store.Aggregate
import Rollup.Store.Table
import Rollup.Store.Evaluate
import Rollup.Service.Executor
import Rollup.Service.Answer
import Rollup.Settings.Basic
import Rollup.Settings.Decode
import Rollup.Settings.Load
import Rollup.Settings.Sample
import Rollup.Csv
import Rollup.Http.MediaType
import Rollup.Http.Message
import Rollup.Http.Status
import Rollup.Http.Endpoint
import Rollup.Http.Problem
import Rollup.Http.Server
import Rollup.Http.Wire
import Rollup.CommandLine.Arguments
import Rollup.CommandLine.Help
import Rollup.CommandLine.Report
import Rollup.CommandLine.TableView
import Rollup.CommandLine.Run
import Rollup.Main
import Rollup.Proofs.Fallible
import Rollup.Proofs.Text.Scanning
import Rollup.Proofs.Statement.Outline
import Rollup.Proofs.Statement.Compiled
import Rollup.Proofs.Statement.Names
import Rollup.Proofs.Statement.Filling
import Rollup.Proofs.Statement.Independence
import Rollup.Proofs.Statement.Spellings
import Rollup.Proofs.Statement.Acceptance
import Rollup.Proofs.Statement.Reader
import Rollup.Proofs.Statement.Readability
import Rollup.Proofs.Statement.Paging
import Rollup.Proofs.Statement.Executable
import Rollup.Proofs.Statement.Sorting
import Rollup.Proofs.Store.Pages
import Rollup.Proofs.Service.Answering
import Rollup.Proofs.Service.Interleaving
import Rollup.Proofs.Calendar.Dates
import Rollup.Proofs.Calendar.Texts
import Rollup.Proofs.Calendar.DateOrder
import Rollup.Proofs.Calendar.Truncation
import Rollup.Proofs.Calendar.LeapSeconds
import Rollup.Proofs.Calendar.Layouts
import Rollup.Proofs.Calendar.WallClock
import Rollup.Proofs.Calendar.WholeSeconds
import Rollup.Proofs.Json.Settling
import Rollup.Proofs.Json.Records
import Rollup.Proofs.Json.Texts
import Rollup.Proofs.Json.Integers
import Rollup.Proofs.Request.Operands
import Rollup.Proofs.Request.Readback
import Rollup.Proofs.Request.RoundTrip
import Rollup.Proofs.Request.Numbers
import Rollup.Proofs.Request.Resending
import Rollup.Proofs.Store.ByteOrder
import Rollup.Proofs.Store.DateFunctions
import Rollup.Proofs.Store.FirstWeek
import Rollup.Proofs.Store.TimeWindow
import Rollup.Proofs.Store.TimeLabels
import Rollup.Proofs.Calendar.Templates
import Rollup.Proofs.Statement.Literals
import Rollup.Proofs.Store.TextSearch
import Rollup.Proofs.Csv.Reading
import Rollup.Proofs.Store.Records
import Rollup.Proofs.Http.Downloads
import Rollup.Proofs.Double.Packing
import Rollup.Proofs.Double.Rounding
import Rollup.Proofs.Double.Overflow
import Rollup.Proofs.Double.Numerals
import Rollup.Proofs.Statement.Nulls
