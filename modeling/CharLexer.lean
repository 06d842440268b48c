import CharLexer.Charset
import CharLexer.Charsets
import CharLexer.Command.Arguments
import CharLexer.Command.Report
import CharLexer.Command.Run
import CharLexer.Cursor
import CharLexer.Environment
import CharLexer.Files.Path
import CharLexer.Files.Tree
import CharLexer.Files.Walk
import CharLexer.Json.Parser
import CharLexer.Json.Printer
import CharLexer.Json.Value
import CharLexer.Lexer
import CharLexer.Limits
import CharLexer.Limits.Generate
import CharLexer.Limits.Profile
import CharLexer.Location
import CharLexer.Log.Code
import CharLexer.Log.Event
import CharLexer.Log.Level
import CharLexer.Log.Logger
import CharLexer.Log.Timestamp
import CharLexer.Main
import CharLexer.Metrics
import CharLexer.Preferences
import CharLexer.Scan
import CharLexer.Session
import CharLexer.Source
import CharLexer.Text.Blank
import CharLexer.Text.Hexadecimal
import CharLexer.Text.Padding
import CharLexer.Text.Quoted
import CharLexer.Text.Utf8
import CharLexer.Text.Visible
import CharLexer.Token.Basic
import CharLexer.Token.Json
import CharLexer.Token.Lines
import CharLexer.Token.Listing
import CharLexer.Toml.Parser
import CharLexer.Toml.Quotation
import CharLexer.Toml.Scalar
import CharLexer.Toml.Table
import CharLexer.Toml.Value
import CharLexer.Proofs.Piece
import CharLexer.Proofs.Scan
import CharLexer.Proofs.Segmentation
import CharLexer.Proofs.Position
import CharLexer.Proofs.Resumption
import CharLexer.Proofs.LineEnds
import CharLexer.Proofs.Counters
import CharLexer.Proofs.Consumption
import CharLexer.Proofs.Concatenation
import CharLexer.Proofs.Grouping
import CharLexer.Proofs.ByLine
import CharLexer.Proofs.Compression
import CharLexer.Proofs.Extension
import CharLexer.Proofs.Events
import CharLexer.Proofs.Utf8
import CharLexer.Proofs.Loading
import CharLexer.Proofs.Batch
import CharLexer.Proofs.CounterRange
import CharLexer.Proofs.JsonText
import CharLexer.Proofs.LineOrder
import CharLexer.Proofs.Membership
import CharLexer.Proofs.TokenJson
import CharLexer.Proofs.LateStart
import CharLexer.Proofs.Renaming
import CharLexer.Proofs.Normalization
import CharLexer.Proofs.Reuse
import CharLexer.Proofs.Groups
import CharLexer.Proofs.PlaceOrder
import CharLexer.Proofs.ByteOrder
import CharLexer.Proofs.ListingRow
import CharLexer.Proofs.Walk
import CharLexer.Proofs.Representation
import CharLexer.Proofs.JsonObject
import CharLexer.Proofs.EventJson
import CharLexer.Proofs.Installation
import CharLexer.Proofs.ProgramText
import CharLexer.Proofs.Generation
import CharLexer.Proofs.Spelling
import CharLexer.Proofs.Settings
import CharLexer.Proofs.Cursors
import CharLexer.Proofs.Stored
