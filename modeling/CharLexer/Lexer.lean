import CharLexer.Cursor
import CharLexer.Log.Event
import CharLexer.Preferences
import CharLexer.Scan
import CharLexer.Token.Lines

/-!
# Lexers

A lexer is a cursor with the sets and preferences for scanning what the cursor has not yet read.
The sets may be replaced before a scan. A scan reads to the end of the text, so a later one finds
only that end. The events that a scan raises are part of its result; whether they are written
anywhere is not the lexer's concern.

A program works with `Lexer.scan`, which gives lines and columns as they are kept. `Lexer.tokens` is
the same scan with exact ones. They differ only behind the last line or column that 32 bits can count,
which no text of fewer than 2 ^ 32 - 1 characters has; a program that traps such an addition scans no
more than that.
-/
namespace CharLexer

open Log (Event)

/-- A text to be scanned, and how. -/
structure Lexer where
  cursor : Cursor
  charsets : Charsets := {}
  preferences : LexicalPreferences := {}
  /-- The counters of the last scan, if it counted. -/
  metrics : Option Metrics := none

/-- What a scan gives: its result and the events it raised. -/
structure Scanned (α : Type) where
  result : α
  events : List Event

namespace Lexer

/-- A lexer of a whole text. -/
def ofString (source : String) : Lexer := { cursor := .ofString source }

/-- Replace the letters. -/
def setLetters (lexer : Lexer) (text : String) : Lexer :=
  { lexer with charsets := { lexer.charsets with letters := .ofString text } }

/-- Replace the digits. -/
def setDigits (lexer : Lexer) (text : String) : Lexer :=
  { lexer with charsets := { lexer.charsets with digits := .ofString text } }

/-- Replace the symbols. -/
def setSymbols (lexer : Lexer) (text : String) : Lexer :=
  { lexer with charsets := { lexer.charsets with symbols := .ofString text } }

/-- Replace the whitespace. -/
def setWhitespace (lexer : Lexer) (text : String) : Lexer :=
  { lexer with charsets := { lexer.charsets with whitespace := .ofString text } }

/-- Replace the quotes. -/
def setQuotes (lexer : Lexer) (text : String) : Lexer :=
  { lexer with charsets := { lexer.charsets with quotes := .ofString text } }

/-- The event that a scan starts. -/
def startEvent (lexer : Lexer) (compress : Bool) : Event :=
  .raise .debug .scanStarted "Starting lexical scan"
    [("chars", toString lexer.cursor.length), ("compress_whitespace", toString compress)]

/-- The event that a string runs to the end of the text. -/
def unterminatedEvent (delimiter : Char) (location : Location) : Event :=
  (Event.raise .debug .stringUnterminated "String literal runs to end of input"
    [("delimiter", delimiter.toString)]).placedAt location

/-- The event of the figures of a complete scan. -/
def completeEvent (scan : Scan) : Event :=
  .raise .info .scanCompleted "Lexical scan complete"
    [("tokens", toString scan.tokens.size), ("lines", toString scan.place.line),
      ("chars", toString scan.place.offset)]

/-- The event of the tokens counted by kind. -/
def countsEvent (metrics : Metrics) : Event :=
  .raise .debug .scanCounts "Token type distribution"
    [("whitespace", toString metrics.whitespace), ("letters", toString metrics.letters),
      ("digits", toString metrics.digits), ("symbols", toString metrics.symbols),
      ("strings", toString metrics.strings), ("other", toString metrics.other),
      ("eol", toString metrics.lineEnds),
      ("unterminated_strings", toString metrics.unterminated),
      ("longest_run", toString metrics.longestRun)]

/-- The event that the tokens were grouped by line. -/
def groupedEvent (lines : Lines) : Event :=
  .raise .debug .scanLinesGrouped "Tokens grouped by line" [("lines", toString lines.count)]

/-- The events of an unterminated string, if they are to be logged. -/
def unterminatedEvents (preferences : LexicalPreferences) (scan : Scan) : List Event :=
  if preferences.logUnterminatedStrings then
    scan.unterminated?.toList.map fun left => unterminatedEvent left.1 left.2
  else []

/-- The events of the figures of a complete scan, if they are to be logged. -/
def statisticsEvents (preferences : LexicalPreferences) (scan : Scan) : List Event :=
  if preferences.logScanStatistics then
    completeEvent scan :: scan.metrics.toList.map countsEvent
  else []

/-- The characters left to read, read but not yet completed at their end. -/
def readRest (lexer : Lexer) (compress : Bool) : Scan :=
  (Scan.start lexer.cursor.position lexer.cursor.length
    lexer.preferences.collectMetrics).readAll lexer.charsets compress lexer.cursor.rest

/-- What a scan that has read the rest of the text gives in the end, with the lexer then. -/
def complete (lexer : Lexer) (compress : Bool) (read : Scan) : Scanned (List Token) × Lexer :=
  let scan := read.finish compress
  let events := lexer.startEvent compress :: unterminatedEvents lexer.preferences read ++
    statisticsEvents lexer.preferences scan
  (⟨scan.tokens.toList, events⟩,
    { lexer with cursor := lexer.cursor.toEnd, metrics := scan.metrics })

/-- What a scan gives, with its tokens grouped by line. -/
def byLine (scanned : Scanned (List Token) × Lexer) : Scanned Lines × Lexer :=
  let lines := Lines.ofTokens scanned.1.result
  (⟨lines, scanned.1.events ++ [groupedEvent lines]⟩, scanned.2)

/-- Scan what is left of the text into tokens that end in the end of the text, with exact lines and
columns. -/
def tokens (lexer : Lexer) (compress : Bool) : Scanned (List Token) × Lexer :=
  lexer.complete compress (lexer.readRest compress)

/-- Scan what is left of the text with exact lines and columns, and group the tokens by line. -/
def lines (lexer : Lexer) (compress : Bool) : Scanned Lines × Lexer :=
  byLine (lexer.tokens compress)

/-- Scan what is left of the text into tokens that end in the end of the text, with lines and columns
as they are kept. -/
def scan (lexer : Lexer) (compress : Bool) : Scanned (List Token) × Lexer :=
  lexer.complete compress (lexer.readRest compress).stored

/-- Scan what is left of the text with lines and columns as they are kept, and group the tokens by
line. -/
def scanLines (lexer : Lexer) (compress : Bool) : Scanned Lines × Lexer :=
  byLine (lexer.scan compress)

end Lexer

/-- The tokens of a source text by the given sets, with exact lines and columns. -/
def tokenize (source : String) (compress : Bool) (charsets : Charsets) : List Token :=
  ({ Lexer.ofString source with charsets }.tokens compress).1.result

/-- The tokens of a source text by the given sets, with lines and columns as they are kept. -/
def scanText (source : String) (compress : Bool) (charsets : Charsets) : List Token :=
  ({ Lexer.ofString source with charsets }.scan compress).1.result

end CharLexer
