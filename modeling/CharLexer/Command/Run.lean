import CharLexer.Command.Arguments
import CharLexer.Command.Report
import CharLexer.Environment
import CharLexer.Files.Walk
import CharLexer.Log.Logger
import CharLexer.Source
import CharLexer.Text.Quoted

/-!
# Running the command

The command reads the files that its path leads to and shows their tokens. A file that cannot be
loaded costs a line on the error output and lets the others go on; at the end the command fails and
says how many did. Text is shown file by file, under a header for each when there are several; JSON
is shown as one document at the end. The log goes to the error output.
-/
namespace CharLexer.Command

open Log (Event Logger Timestamp)

/-- What a run leaves behind. -/
structure Outcome where
  exitCode : Nat
  output : String
  errors : String
  deriving DecidableEq

/-- Why a run fails. -/
inductive Failure
  | noFileOrDirectory (path : Path)
  /-- A directory does not tell its names. -/
  | notListed (error : WalkError)
  /-- Some files are not loaded. How many is counted in 32 bits, with a sign: a run has fewer than
  2 ^ 31 such files. -/
  | filesFailed (failed total : Nat)
  deriving DecidableEq

/-- The text of a failure. -/
def Failure.text : Failure → String
  | .noFileOrDirectory path => quoted ("Input must be a file or directory: " ++ path.text)
  | .notListed error => error.fields
  | .filesFailed failed total => quoted s!"{failed} of {total} file(s) failed"

/-- The line that ends a failing run. -/
def Failure.line (failure : Failure) : String := "Error: " ++ failure.text ++ "\n"

/-- What a run works in and with. -/
structure Setup where
  tree : FileTree
  /-- The moment at which events are written: one for the whole run. -/
  moment : Timestamp
  /-- The microseconds that loading a file takes. -/
  micros : Nat
  options : Options
  preferences : Preferences
  logger? : Option Logger

namespace Setup

/-- The setup of a run, in which asking for more words overrules the environment. -/
def of (tree : FileTree) (environment : Environment) (moment : Timestamp) (micros : Nat)
    (options : Options) : Setup :=
  let preferences := Preferences.ofEnvironment environment
  let preferences := if options.verbose then
      { preferences with
        logging := { preferences.logging with
          enableConsoleLogging := true, minLogLevel := .debug } }
    else preferences
  let logger? := (Logger.install none preferences.logging).toOption.join
  { tree, moment, micros, options, preferences, logger? }

/-- What is written of events. -/
def written (setup : Setup) (events : List Event) : String :=
  Log.written setup.logger? (Log.stamp (fun _ => setup.moment) events)

/-- The files to be read: the path itself, or those below it. -/
def files (setup : Setup) : Except Failure (List Path) :=
  match setup.tree.node setup.options.path with
  | .ok (.regular _ _) => .ok [setup.options.path]
  | .ok (.directory entries access) =>
    (setup.tree.filesBelow setup.options.recursive setup.options.path
      (.directory entries access)).mapError .notListed
  | _ => .error (.noFileOrDirectory setup.options.path)

/-- The lexer of a text, with the sets that the options replace. -/
def lexer (setup : Setup) (text : String) : Lexer :=
  let options := setup.options
  let replace := fun (replaced? : Option String) (set : Lexer → String → Lexer) (lexer : Lexer) =>
    (replaced?.map (set lexer)).getD lexer
  let lexer : Lexer := { cursor := .ofString text, preferences := setup.preferences.lexical }
  let lexer := replace options.letters? Lexer.setLetters lexer
  let lexer := replace options.digits? Lexer.setDigits lexer
  let lexer := replace options.symbols? Lexer.setSymbols lexer
  let lexer := replace options.whitespace? Lexer.setWhitespace lexer
  replace options.quotes? Lexer.setQuotes lexer

/-- The report of a text. -/
def report (setup : Setup) (text : String) : Scanned Report :=
  Report.ofLexer (setup.lexer text) setup.options.compressWhitespace setup.options.lines

end Setup

/-- How far a run has come. -/
structure Progress where
  output : String := ""
  errors : String := ""
  /-- The JSON of the files loaded. -/
  documents : Array Json.Value := #[]
  /-- The number of files that are not loaded, of which there are fewer than 2 ^ 31. -/
  failed : Nat := 0

/-- Read one file and show its tokens. -/
def Progress.addFile (setup : Setup) (several : Bool) (progress : Progress) (file : Path) :
    Progress :=
  let loaded := Source.load setup.preferences.loader setup.tree file
  let told := setup.written
    (Source.loadEvents setup.preferences.loader file setup.micros loaded)
  match loaded with
  | .error error =>
    let line := file.text ++ ": " ++ error.message ++ " [" ++ error.code.text ++ "]\n"
    { progress with
      errors := progress.errors ++ told ++ line
      failed := progress.failed + 1 }
  | .ok source =>
    let scanned := setup.report source.text
    let errors := progress.errors ++ told ++ setup.written scanned.events
    match setup.options.format with
    | .text =>
      let header := if several then "==> " ++ file.text ++ " <==\n" else ""
      { progress with
        output := progress.output ++ header ++ scanned.result.toText
        errors }
    | .json =>
      let document := Json.Value.sorted
        [("file", .string file.text), ("tokens", scanned.result.toJson)]
      { progress with errors, documents := progress.documents.push document }

/-- The document of all files: an array, or for a single file its own, which may be missing. -/
def document (several : Bool) (documents : Array Json.Value) : Json.Value :=
  if several then .array documents.toList else documents.back?.getD .null

/-- Run the command with a setup. -/
def Setup.run (setup : Setup) : Outcome :=
  let started := setup.written [.raise .debug .commandStarted "Starting luthor"
    [("profile", Limits.profile), ("path", setup.options.path.text)]]
  match setup.files with
  | .error failure => ⟨1, "", started ++ failure.line⟩
  | .ok [] => ⟨0, "No files found: " ++ setup.options.path.text ++ "\n", started⟩
  | .ok files =>
    let discovered := setup.written [.raise .info .commandFilesDiscovered "Discovered input files"
      [("count", toString files.length)]]
    let several := decide (1 < files.length)
    let progress := files.foldl (Progress.addFile setup several)
      { errors := started ++ discovered }
    let output := match setup.options.format with
      | .text => progress.output
      | .json => (document several progress.documents).spread ++ "\n"
    if progress.failed = 0 then ⟨0, output, progress.errors⟩
    else
      let told := setup.written [.raise .error .commandFilesFailed
        "Some files could not be tokenized"
        [("failed", toString progress.failed), ("total", toString files.length)]]
      let failure := Failure.filesFailed progress.failed files.length
      ⟨1, output, progress.errors ++ told ++ failure.line⟩

/-- The line that tells the version. -/
def versionLine : String := "luthor 0.1.0\n"

/-- The lines that tell how the command is used. -/
def helpLines : List String :=
  ["Split text into character-class tokens",
    "",
    "Usage: luthor [OPTIONS] <PATH>",
    "",
    "Arguments:",
    "  <PATH>  File or directory to tokenize",
    "",
    "Options:",
    "  -c, --compress-whitespace      Collapse every whitespace run to a single space",
    "  -l, --lines                    Group tokens by the line they start on",
    "  -f, --format <FORMAT>          Output format [default: text] [possible values: text, json]",
    "      --letters <LETTERS>        Replace the letters charset",
    "      --digits <DIGITS>          Replace the digits charset",
    "      --symbols <SYMBOLS>        Replace the symbols charset",
    "      --whitespace <WHITESPACE>  Replace the whitespace charset",
    "      --quotes <QUOTES>          Replace the quote delimiters",
    "      --no-recursive             Only tokenize files directly inside a directory argument",
    "  -v, --verbose                  Print debug logging to stderr",
    "  -h, --help                     Print help",
    "  -V, --version                  Print version"]

/-- The text of a fault of the arguments. -/
def UsageError.message : UsageError → String
  | .unknownOption argument => "unexpected argument " ++ quoted argument
  | .flagRepeated _ => "an option cannot be used multiple times"
  | .settingRepeated _ => "an option cannot be used multiple times"
  | .valueMissing _ => "an option lacks its value"
  | .valueUnexpected _ => "an option takes no value"
  | .formatUnknown value => "invalid format " ++ quoted value
  | .pathMissing => "the path is missing"
  | .pathEmpty => "the path is empty"
  | .argumentUnexpected argument => "unexpected argument " ++ quoted argument

/-- What is left behind when the arguments ask for no run. -/
def Stop.outcome : Stop → Outcome
  | .version => ⟨0, versionLine, ""⟩
  | .help => ⟨0, String.join (helpLines.map (· ++ "\n")), ""⟩
  | .fault error => ⟨2, "", "error: " ++ error.message ++ "\n"⟩

/-- Run the command with some arguments. -/
def run (tree : FileTree) (environment : Environment) (moment : Timestamp) (micros : Nat)
    (arguments : List String) : Outcome :=
  match parseArguments arguments with
  | .error stop => stop.outcome
  | .ok options => (Setup.of tree environment moment micros options).run

end CharLexer.Command
