import PageHarvest.Clock
import PageHarvest.CommandLine.Arguments
import PageHarvest.CommandLine.Options
import PageHarvest.CommandLine.Run
import PageHarvest.Config.Basic
import PageHarvest.Config.File
import PageHarvest.Config.Meta
import PageHarvest.Console.Basic
import PageHarvest.Console.Columns
import PageHarvest.Console.Markup
import PageHarvest.Console.Picture
import PageHarvest.Console.PictureTable
import PageHarvest.Console.Style
import PageHarvest.Console.Styled
import PageHarvest.Console.Table
import PageHarvest.Console.Terminal
import PageHarvest.Console.Width
import PageHarvest.Console.WidthTable
import PageHarvest.Console.Wrap
import PageHarvest.Crawl.Crawler
import PageHarvest.Crawl.Links
import PageHarvest.Crawl.Paging
import PageHarvest.Crawl.Pool
import PageHarvest.Crawl.Result
import PageHarvest.Crawl.Single
import PageHarvest.Crawl.Surroundings
import PageHarvest.Crawl.Walk
import PageHarvest.Decimal
import PageHarvest.Document.Node
import PageHarvest.Document.Place
import PageHarvest.Document.Reference
import PageHarvest.Document.ReferenceTable
import PageHarvest.Document.Token
import PageHarvest.Document.Tree
import PageHarvest.Extract.Compile
import PageHarvest.Extract.Data
import PageHarvest.Extract.Engine
import PageHarvest.Extract.Evaluate
import PageHarvest.Extract.Library
import PageHarvest.Extract.Page
import PageHarvest.Extract.Record
import PageHarvest.Fetch.Fetcher
import PageHarvest.Fetch.Result
import PageHarvest.Fetch.Retry
import PageHarvest.Fetch.Seconds
import PageHarvest.Fetch.Session
import PageHarvest.Fetch.Trouble
import PageHarvest.FieldMap
import PageHarvest.Files.Tree
import PageHarvest.Journal
import PageHarvest.Json.Basic
import PageHarvest.Json.Reader
import PageHarvest.Json.Writer
import PageHarvest.Logged
import PageHarvest.Main
import PageHarvest.Path.Argument
import PageHarvest.Path.Basic
import PageHarvest.Path.Builder
import PageHarvest.Path.Check
import PageHarvest.Path.Compile
import PageHarvest.Path.Data
import PageHarvest.Path.Fault
import PageHarvest.Path.Field
import PageHarvest.Pipeline.Build
import PageHarvest.Pipeline.Run
import PageHarvest.Project.Folder
import PageHarvest.Project.Log
import PageHarvest.Project.Output
import PageHarvest.Report.Printed
import PageHarvest.Report.Saved
import PageHarvest.Schema
import PageHarvest.Selector.Basic
import PageHarvest.Selector.Fault
import PageHarvest.Selector.Lexical
import PageHarvest.Selector.Matching
import PageHarvest.Selector.Parser
import PageHarvest.Selector.Pseudo
import PageHarvest.Selector.Range
import PageHarvest.Selector.Token
import PageHarvest.Text.Blank
import PageHarvest.Text.Capital
import PageHarvest.Text.CaseTable
import PageHarvest.Text.CharRanges
import PageHarvest.Text.Integer
import PageHarvest.Text.Lowercase
import PageHarvest.Text.Number
import PageHarvest.Text.PrintableTable
import PageHarvest.Text.Quoted
import PageHarvest.Text.Search
import PageHarvest.Text.Utf8
import PageHarvest.Url.Basic
import PageHarvest.Url.Join
import PageHarvest.Validate.Checked
import PageHarvest.Validate.Issue
import PageHarvest.Validate.Report
import PageHarvest.Validate.Scalar
import PageHarvest.Proofs.Text.Pieces
import PageHarvest.Proofs.Text.Spelling
import PageHarvest.Proofs.Path.Argument
import PageHarvest.Proofs.Path.Written
import PageHarvest.Proofs.Path.Reading
import PageHarvest.Proofs.Path.RoundTrip
import PageHarvest.Proofs.Traverse
import PageHarvest.Proofs.Extract.Harvest
import PageHarvest.Proofs.Crawl.Course
import PageHarvest.Proofs.Crawl.Handling
import PageHarvest.Proofs.Crawl.Moves
import PageHarvest.Proofs.Crawl.Ledger
import PageHarvest.Proofs.Crawl.Account
import PageHarvest.Proofs.Crawl.Visit
import PageHarvest.Proofs.Crawl.Chronicle
import PageHarvest.Proofs.Crawl.Steady
import PageHarvest.Proofs.Crawl.Links
import PageHarvest.Proofs.Crawl.Agreement
import PageHarvest.Proofs.Crawl.Pace
import PageHarvest.Proofs.Crawl.Stopping
import PageHarvest.Proofs.Path.Tokens
import PageHarvest.Proofs.FieldMap
import PageHarvest.Proofs.Path.Stepwise
import PageHarvest.Proofs.Text.Casing
import PageHarvest.Proofs.Path.WellFormed
import PageHarvest.Proofs.Extract.Answers
import PageHarvest.Proofs.Extract.Placing
import PageHarvest.Proofs.Crawl.PageWalk
import PageHarvest.Proofs.Fetch.Policy
import PageHarvest.Proofs.Fetch.Ownership
import PageHarvest.Proofs.Extract.Refusal
import PageHarvest.Proofs.Crawl.Cancelling
import PageHarvest.Proofs.Crawl.Together
import PageHarvest.Proofs.Crawl.History
import PageHarvest.Proofs.CommandLine.Ending
import PageHarvest.Proofs.Path.Data
import PageHarvest.Proofs.Text.Words
import PageHarvest.Proofs.Path.Splitting
import PageHarvest.Proofs.Path.FieldText
import PageHarvest.Proofs.Path.Grammar
import PageHarvest.Proofs.Path.Accepted
import PageHarvest.Proofs.Path.Brackets
import PageHarvest.Proofs.Console.Tags
import PageHarvest.Proofs.Console.Lawful
import PageHarvest.Proofs.Report.Printing
import PageHarvest.Proofs.Report.ReadingBack
import PageHarvest.Proofs.Path.FieldForm
import PageHarvest.Proofs.Extract.Selecting
import PageHarvest.Proofs.Extract.Extending
import PageHarvest.Proofs.Document.Descent
import PageHarvest.Proofs.Extract.Descending
import PageHarvest.Proofs.Extract.Merging
import PageHarvest.Proofs.Text.Utf8
import PageHarvest.Proofs.Json.Indented
import PageHarvest.Proofs.Json.Dump
import PageHarvest.Proofs.Json.Rest
import PageHarvest.Proofs.Config.Checked
import PageHarvest.Proofs.Config.Meta
import PageHarvest.Proofs.Config.Loading
import PageHarvest.Proofs.Config.Nested
import PageHarvest.Proofs.Pipeline.Building
import PageHarvest.Proofs.Crawl.PageUrls
import PageHarvest.Proofs.Fetch.Documents
import PageHarvest.Proofs.Extract.Sifting
import PageHarvest.Proofs.Files.Alike
import PageHarvest.Proofs.Project.Alike
import PageHarvest.Proofs.Config.Amended
import PageHarvest.Proofs.CommandLine.Together
import PageHarvest.Proofs.CommandLine.Overriding
import PageHarvest.Proofs.Path.Builder
import PageHarvest.Proofs.Document.Names
import PageHarvest.Proofs.Extract.Attributes
import PageHarvest.Proofs.Url.Parts
import PageHarvest.Proofs.Url.Resolving
import PageHarvest.Proofs.Crawl.Filtering
import PageHarvest.Proofs.Files.Standing
import PageHarvest.Proofs.Project.Root
import PageHarvest.Proofs.Project.SettingUp
import PageHarvest.Proofs.Project.Output
