import CharLexer.Charsets
import CharLexer.Limits
import CharLexer.Metrics

/-!
# Scans

A scan reads a text one character at a time and keeps the token it is in the middle of. A quote
opens a string, which takes every character up to the same quote. Any other character of a class
opens a run, which takes the characters of the set of that class; a carriage return is taken by a
run but opens nothing, and is dropped elsewhere. A line feed outside strings and runs is a token of
its own. The characters left over are gathered into tokens of no class.

A token is placed where its first character stands. Every character but a dropped carriage return
and a line end takes one column.
-/
namespace CharLexer

/-- The token that a scan is in the middle of, its characters newest first. -/
inductive OpenToken
  /-- No token. -/
  | nothing
  /-- Characters of no class. -/
  | other (start : Location) (read : List Char)
  /-- A run of a class. -/
  | run (runClass : RunClass) (start : Location) (read : List Char)
  /-- A string, up to the next delimiter. -/
  | quoted (delimiter : Char) (start : Location) (read : List Char)

/-- The open token with its location as it is kept. -/
def OpenToken.stored : OpenToken → OpenToken
  | .nothing => .nothing
  | .other start read => .other start.stored read
  | .run runClass start read => .run runClass start.stored read
  | .quoted delimiter start read => .quoted delimiter start.stored read

/-- How far a scan has come. -/
structure Scan where
  /-- The place of the next character. -/
  place : Location
  /-- The token it is in the middle of. -/
  inside : OpenToken
  /-- The tokens completed. -/
  tokens : Array Token
  /-- The counters, if the tokens are counted. -/
  metrics : Option Metrics

namespace Scan

/-- A scan that starts at an offset of a text of some length. -/
def start (offset length : Nat) (collectMetrics : Bool) : Scan where
  place := ⟨offset, 1, 1⟩
  inside := .nothing
  tokens := Array.emptyWithCapacity (Limits.current.tokenCapacity length)
  metrics := if collectMetrics then some {} else none

/-- Complete a token that took so many characters from the source. -/
def push (scan : Scan) (token : Token) (consumed : Nat) : Scan :=
  { scan with
    inside := .nothing
    tokens := scan.tokens.push token
    metrics := scan.metrics.map fun metrics => metrics.record token.kind consumed }

/-- What is reported of the characters of a run: a compressed whitespace run is one space. -/
def runContent (compress : Bool) (runClass : RunClass) (read : List Char) : String :=
  if compress && runClass == .whitespace then " " else String.ofList read.reverse

/-- Complete the token that the scan is in the middle of, if there is one. -/
def close (compress : Bool) (scan : Scan) : Scan :=
  match scan.inside with
  | .nothing => scan
  | .other start read => scan.push ⟨.other, start, String.ofList read.reverse⟩ read.length
  | .run runClass start read =>
    scan.push ⟨runClass.kind, start, runContent compress runClass read⟩ read.length
  | .quoted _ start read => scan.push ⟨.string, start, String.ofList read.reverse⟩ read.length

/-- Take a character into the open token, which then is as given. -/
def take (scan : Scan) (inside : OpenToken) : Scan :=
  { scan with place := scan.place.afterColumn, inside }

/-- Drop a character. -/
def drop (scan : Scan) : Scan :=
  { scan with place := scan.place.afterDropped }

/-- Complete the token of a line end. -/
def endLine (scan : Scan) : Scan :=
  { scan.push ⟨.lineEnd, scan.place, "\n"⟩ 1 with place := scan.place.afterLineEnd }

/-- Read a character while no token is open. -/
def enter (charsets : Charsets) (scan : Scan) (c : Char) : Scan :=
  if charsets.isQuote c then scan.take (.quoted c scan.place [c])
  else if c = '\r' then scan.drop
  else if c = '\n' then scan.endLine
  else match charsets.classify? c with
    | some runClass => scan.take (.run runClass scan.place [c])
    | none => scan.take (.other scan.place [c])

/-- Whether a character belongs to no class and is neither a quote nor a line break. -/
def isOther (charsets : Charsets) (c : Char) : Bool :=
  !charsets.isQuote c && c != '\r' && c != '\n' && (charsets.classify? c).isNone

/-- Whether a run of a class takes a character: a carriage return, or one in the class's set. -/
def extendsRun (charsets : Charsets) (runClass : RunClass) (c : Char) : Bool :=
  c = '\r' || (charsets.ofClass runClass).contains c

/-- A run takes carriage returns and the characters in the set of its class, and no others. -/
theorem extendsRun_iff {charsets : Charsets} {runClass : RunClass} {c : Char} :
    extendsRun charsets runClass c = true ↔
      c = '\r' ∨ (charsets.ofClass runClass).contains c = true := by
  simp [extendsRun]

/-- Read a character. -/
def step (charsets : Charsets) (compress : Bool) (scan : Scan) (c : Char) : Scan :=
  match scan.inside with
  | .nothing => scan.enter charsets c
  | .other start read =>
    if isOther charsets c then scan.take (.other start (c :: read))
    else (scan.close compress).enter charsets c
  | .run runClass start read =>
    if extendsRun charsets runClass c then
      scan.take (.run runClass start (c :: read))
    else (scan.close compress).enter charsets c
  | .quoted delimiter start read =>
    let taken := scan.take (.quoted delimiter start (c :: read))
    if c = delimiter then taken.close compress else taken

/-- Read the characters of a text, one after another. -/
def readAll (charsets : Charsets) (compress : Bool) (scan : Scan) (text : List Char) : Scan :=
  text.foldl (step charsets compress) scan

/-- The scan with all its locations as they are kept. -/
def stored (scan : Scan) : Scan :=
  { scan with
    place := scan.place.stored
    inside := scan.inside.stored
    tokens := (scan.tokens.toList.map Token.stored).toArray }

/-- The string that is open, if there is one: its delimiter and its place. -/
def unterminated? (scan : Scan) : Option (Char × Location) :=
  match scan.inside with
  | .quoted delimiter start _ => some (delimiter, start)
  | _ => none

/-- Complete the scan at the end of the text. -/
def finish (compress : Bool) (scan : Scan) : Scan :=
  let left := if scan.unterminated?.isSome then 1 else 0
  let closed := scan.close compress
  let ended := closed.push ⟨.textEnd, closed.place, ""⟩ 0
  { ended with
    metrics := ended.metrics.map fun metrics =>
      { metrics with
        unterminated := metrics.unterminated + left
        charsConsumed := ended.place.offset } }

end Scan

end CharLexer
