import Authorship.Activity.AuthorChart
import Authorship.Activity.Fault
import Authorship.Activity.Selection
import Authorship.Activity.Table
import Authorship.Activity.Window
import Authorship.Calendar.Date
import Authorship.Calendar.DateReader
import Authorship.Calendar.Timestamp
import Authorship.Command.Dispatch
import Authorship.Command.Dump
import Authorship.Command.Options
import Authorship.Command.Report
import Authorship.Command.Run
import Authorship.Command.Stats
import Authorship.Command.Usage
import Authorship.Command.Value
import Authorship.DateText.Amount
import Authorship.DateText.Draft
import Authorship.DateText.Fault
import Authorship.DateText.Members
import Authorship.DateText.Resolution
import Authorship.DateText.Token
import Authorship.DateText.Vocabulary
import Authorship.Drawing.Backend
import Authorship.Drawing.Chart
import Authorship.Drawing.Fault
import Authorship.Drawing.Plotter
import Authorship.Drawing.Target
import Authorship.Failure
import Authorship.Files.Fault
import Authorship.Files.Path
import Authorship.Files.Tree
import Authorship.History.Aliases
import Authorship.History.Basic
import Authorship.History.Log
import Authorship.History.Registry
import Authorship.Json.Fault
import Authorship.Json.Reading
import Authorship.Json.Value
import Authorship.Main
import Authorship.Number.Binary64
import Authorship.Number.Count
import Authorship.Number.Integer
import Authorship.Number.Numeral
import Authorship.Number.Reading
import Authorship.Number.Rounding
import Authorship.Number.Shortest
import Authorship.Proofs.Activity.AuthorChart
import Authorship.Proofs.Activity.Qualifying
import Authorship.Proofs.Activity.Totals
import Authorship.Proofs.Command.Agreement
import Authorship.Proofs.Command.Performing
import Authorship.Proofs.Drawing.Lifecycle
import Authorship.Proofs.History.Authors
import Authorship.Proofs.History.Build
import Authorship.Proofs.History.Meaning
import Authorship.Proofs.History.Record
import Authorship.Proofs.History.Registry
import Authorship.Proofs.Number.Binary64
import Authorship.Proofs.Number.Integer
import Authorship.Proofs.Number.Order
import Authorship.Proofs.Number.Rounding
import Authorship.Proofs.Repository.Dump
import Authorship.Proofs.Script.Atomicity
import Authorship.Proofs.Script.Block
import Authorship.Proofs.Script.Decision
import Authorship.Proofs.Script.Deed
import Authorship.Proofs.Script.Execution
import Authorship.Proofs.Script.Figures
import Authorship.Proofs.Script.InForce
import Authorship.Proofs.Script.Refinement
import Authorship.Proofs.Script.Shown
import Authorship.Proofs.Script.Token
import Authorship.Proofs.Script.Yield
import Authorship.Proofs.Text.Line
import Authorship.Proofs.Text.Piece
import Authorship.Proofs.Text.Utf8
import Authorship.Raster.Axes
import Authorship.Raster.Fault
import Authorship.Raster.Formula
import Authorship.Raster.FormulaName
import Authorship.Raster.Lettering
import Authorship.Raster.Plotter
import Authorship.Repository.Dump
import Authorship.Script.Argument
import Authorship.Script.Cursor
import Authorship.Script.Directive
import Authorship.Script.Fault
import Authorship.Script.Interpreter
import Authorship.Script.Note
import Authorship.Script.OwnLine
import Authorship.Script.ScriptFile
import Authorship.Script.Session
import Authorship.Script.Token
import Authorship.Settings.Basic
import Authorship.Settings.Fault
import Authorship.Text.Blank
import Authorship.Text.CharRange
import Authorship.Text.Digit
import Authorship.Text.Letter
import Authorship.Text.Line
import Authorship.Text.LowerCase
import Authorship.Text.Piece
import Authorship.Text.Printable
import Authorship.Text.Quoted
import Authorship.Text.Symbol
import Authorship.Text.Utf8
import Authorship.Proofs.Activity.Window
import Authorship.Proofs.Activity.Choosing
import Authorship.Proofs.Activity.Narrowing
import Authorship.Proofs.Activity.Completion
import Authorship.Proofs.Activity.Telling
import Authorship.Proofs.Activity.Reordering
import Authorship.Proofs.Activity.Merging
import Authorship.Proofs.Script.Pieces
import Authorship.Proofs.Activity.Partition
import Authorship.Proofs.Activity.Identity
import Authorship.Proofs.Command.Days
import Authorship.Proofs.Script.Scanner
import Authorship.Proofs.History.Refusal
import Authorship.Proofs.History.Renaming
import Authorship.Proofs.Script.Insertion
import Authorship.Proofs.Script.Writing
import Authorship.Proofs.Activity.Elapsed
import Authorship.Proofs.Activity.Consistency
import Authorship.Proofs.Command.Reporting
import Authorship.Proofs.Script.Filters
import Authorship.Proofs.Script.ScriptFile
import Authorship.Proofs.Files.Tree
import Authorship.Proofs.Repository.Counting
import Authorship.Proofs.Number.Whole
import Authorship.Proofs.Text.Word
import Authorship.Proofs.Activity.Row
import Authorship.Proofs.Activity.Ranking
import Authorship.Proofs.Activity.Table
import Authorship.Proofs.Script.Cursor
import Authorship.Proofs.Script.Rounds
import Authorship.Proofs.Script.Reach
import Authorship.Proofs.Script.Commuting
import Authorship.Proofs.Drawing.Grid
import Authorship.Proofs.Script.Pair
import Authorship.Proofs.Script.Subplot
