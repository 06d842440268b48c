import CharLexer.Command.Run
import CharLexer.Proofs.Events
import CharLexer.Proofs.Loading
import Mathlib

/-!
# Files read one after another

A run over several files is told here file by file, without the progress that it carries along.
What it shows is a function of the options, of whether there are several files, and of the files
that are loaded with their texts (`Options.shown`); a file that is not loaded leaves no trace in it.
What goes to the error output is what is noted of each file in its turn, between an opening and a
closing (`Setup.noted`). Reading one file covers that file (`Progress.covers_addFile`), so reading
one after another covers them all, and the outcome of the run keeps its files apart
(`outcome_of_files`).
-/
namespace CharLexer.Command

open Log (Event Timestamp)

namespace Options

/-- The sets that the options ask for, and the usual ones where they ask for none. -/
def charsets (options : Options) : Charsets :=
  let usual : Charsets := {}
  let replaced := fun (text? : Option String) (set : Charset) =>
    (text?.map Charset.ofString).getD set
  { letters := replaced options.letters? usual.letters
    digits := replaced options.digits? usual.digits
    symbols := replaced options.symbols? usual.symbols
    whitespace := replaced options.whitespace? usual.whitespace
    quotes := replaced options.quotes? usual.quotes }

/-- The report of a text: its tokens by these sets, as they are or by line. -/
def report (options : Options) (text : String) : Report :=
  let tokens := scanText text options.compressWhitespace options.charsets
  if options.lines then .grouped (Lines.ofTokens tokens) else .flat tokens

/-- What is shown as text of a file and the text it holds. -/
def passage (options : Options) (several : Bool) (entry : Path × String) : String :=
  (if several then "==> " ++ entry.1.text ++ " <==\n" else "") ++ (options.report entry.2).toText

/-- What is shown as JSON of a file and the text it holds. -/
def object (options : Options) (entry : Path × String) : Json.Value :=
  .object [("file", .string entry.1.text), ("tokens", (options.report entry.2).toJson)]

/-- What is shown of files and the texts they hold: their passages, or one document, which is an
array of their objects, or of a single file its object, if it has one. -/
def shown (options : Options) (several : Bool) (entries : List (Path × String)) : String :=
  let objects := entries.map options.object
  match options.format with
  | .text => String.join (entries.map (options.passage several))
  | .json =>
    (if several then Json.Value.array objects else objects.getLast?.getD .null).spread ++ "\n"

end Options

/-- The line of a file that was not loaded. -/
def failureLine (failure : Path × LoadError) : String :=
  failure.1.text ++ ": " ++ failure.2.message ++ " [" ++ failure.2.code.text ++ "]\n"

namespace Setup

variable (setup : Setup)

/-- What the loader gives for a file. -/
def load (file : Path) : Except LoadError Source :=
  Source.load setup.preferences.loader setup.tree file

/-- The files that are loaded, each with its text. -/
def loaded (files : List Path) : List (Path × String) :=
  files.filterMap fun file =>
    match setup.load file with
    | .ok source => some (file, source.text)
    | .error _ => none

/-- The files that are not loaded, each with the reason. -/
def failures (files : List Path) : List (Path × LoadError) :=
  files.filterMap fun file =>
    match setup.load file with
    | .ok _ => none
    | .error error => some (file, error)

/-- What goes to the error output for a file: what the log holds of its load, and then its line if
it is not loaded, or what the log holds of its scan. -/
def noted (file : Path) : String :=
  setup.written (Source.loadEvents setup.preferences.loader file setup.micros (setup.load file)) ++
    match setup.load file with
    | .ok source => setup.written (setup.report source.text).events
    | .error error => failureLine (file, error)

/-- What the log holds before the first of so many files is read. -/
def opening (total : Nat) : String :=
  setup.written [.raise .debug .commandStarted "Starting luthor"
    [("profile", Limits.profile), ("path", setup.options.path.text)]] ++
  setup.written [.raise .info .commandFilesDiscovered "Discovered input files"
    [("count", toString total)]]

/-- What goes to the error output when so many files of all were not loaded: nothing if there are
none, and otherwise a note in the log and the final error. -/
def closing (failed total : Nat) : String :=
  if failed = 0 then "" else
    setup.written [.raise .error .commandFilesFailed "Some files could not be tokenized"
      [("failed", toString failed), ("total", toString total)]] ++
    ("Error: " ++ quoted s!"{failed} of {total} file(s) failed" ++ "\n")

/-- What a run leaves behind that has come so far with all of its files. -/
def ended (total : Nat) (progress : Progress) : Outcome where
  exitCode := if progress.failed = 0 then 0 else 1
  output := match setup.options.format with
    | .text => progress.output
    | .json => (document (decide (1 < total)) progress.documents).spread ++ "\n"
  errors := progress.errors ++ setup.closing progress.failed total

/-- The setup for one of its files alone. -/
def on (file : Path) : Setup :=
  { setup with options := { setup.options with path := file } }

@[simp] theorem loaded_nil : setup.loaded [] = [] := rfl

@[simp] theorem failures_nil : setup.failures [] = [] := rfl

theorem loaded_append (files later : List Path) :
    setup.loaded (files ++ later) = setup.loaded files ++ setup.loaded later :=
  List.filterMap_append

theorem failures_append (files later : List Path) :
    setup.failures (files ++ later) = setup.failures files ++ setup.failures later :=
  List.filterMap_append

/-- Every file is loaded or is not. -/
theorem length_loaded_add_length_failures (files : List Path) :
    (setup.loaded files).length + (setup.failures files).length = files.length := by
  induction files with
  | nil => rfl
  | cons file files ih =>
    simp only [loaded, failures, List.filterMap_cons, List.length_cons] at ih ⊢
    cases setup.load file <;> simp only [List.length_cons] <;> omega

/-- The lexer of a text has all of it to read, by the sets that the options ask for. -/
theorem lexer_cursor_and_charsets (text : String) :
    (setup.lexer text).cursor = .ofString text ∧
      (setup.lexer text).charsets = setup.options.charsets := by
  obtain ⟨tree, moment, micros, options, preferences, logger?⟩ := setup
  obtain ⟨path, compress, lines, format, letters?, digits?, symbols?, whitespace?, quotes?, deep,
    verbose⟩ := options
  cases letters? <;> cases digits? <;> cases symbols? <;> cases whitespace? <;> cases quotes? <;>
    exact ⟨rfl, rfl⟩

/-- The report of a text depends on the options only. -/
theorem report_result (text : String) :
    (setup.report text).result = setup.options.report text := by
  obtain ⟨cursor, charsets⟩ := setup.lexer_cursor_and_charsets text
  have tokens : ((setup.lexer text).scan setup.options.compressWhitespace).1.result =
      scanText text setup.options.compressWhitespace setup.options.charsets :=
    Lexer.scan_congr cursor charsets _
  have lines : ((setup.lexer text).scanLines setup.options.compressWhitespace).1.result =
      Lines.ofTokens (scanText text setup.options.compressWhitespace setup.options.charsets) :=
    congrArg Lines.ofTokens tokens
  rw [report, Report.ofLexer, Options.report]
  cases setup.options.lines with
  | false => exact congrArg Report.flat tokens
  | true => exact congrArg Report.grouped lines

end Setup

namespace Progress

/-- How far a run is behind some files, by how far it was in front of them. -/
structure Covers (setup : Setup) (several : Bool) (files : List Path) (before after : Progress) :
    Prop where
  output : setup.options.format = .text →
    after.output = before.output ++
      String.join ((setup.loaded files).map (setup.options.passage several))
  documents : setup.options.format = .json →
    after.documents.toList = before.documents.toList ++
      (setup.loaded files).map setup.options.object
  errors : after.errors = before.errors ++ String.join (files.map setup.noted)
  failed : after.failed = before.failed + (setup.failures files).length

variable {setup : Setup} {several : Bool}

/-- No files leave a run where it is. -/
theorem Covers.nil (progress : Progress) : Covers setup several [] progress progress where
  output _ := by simp
  documents _ := by simp
  errors := by simp
  failed := rfl

/-- Some files and then others are all of them. -/
theorem Covers.append {files later : List Path} {before between after : Progress}
    (first : Covers setup several files before between)
    (second : Covers setup several later between after) :
    Covers setup several (files ++ later) before after where
  output text := by
    rw [second.output text, first.output text, Setup.loaded_append, List.map_append,
      String.join_append, String.append_assoc]
  documents json := by
    rw [second.documents json, first.documents json, Setup.loaded_append, List.map_append,
      List.append_assoc]
  errors := by
    rw [second.errors, first.errors, List.map_append, String.join_append, String.append_assoc]
  failed := by
    rw [second.failed, first.failed, Setup.failures_append, List.length_append, Nat.add_assoc]

/-- A file that is not loaded is noted and counted, and nothing else is changed. -/
theorem addFile_of_error {file : Path} {error : LoadError} (fails : setup.load file = .error error)
    (progress : Progress) :
    progress.addFile setup several file =
      { progress with
        errors := progress.errors ++ setup.noted file, failed := progress.failed + 1 } := by
  rw [Setup.noted, fails, ← String.append_assoc]
  rw [Setup.load] at fails
  simp [addFile, fails, failureLine]

/-- A file that is loaded is noted, and its text is shown. -/
theorem addFile_of_ok {file : Path} {source : Source} (loads : setup.load file = .ok source)
    (progress : Progress) :
    progress.addFile setup several file =
      match setup.options.format with
      | .text => { progress with
          output := progress.output ++ setup.options.passage several (file, source.text)
          errors := progress.errors ++ setup.noted file }
      | .json => { progress with
          errors := progress.errors ++ setup.noted file
          documents := progress.documents.push (setup.options.object (file, source.text)) } := by
  rw [Setup.noted, loads, ← String.append_assoc]
  rw [Setup.load] at loads
  simp only [addFile, loads, Setup.report_result]
  cases setup.options.format with
  | text => simp [Options.passage, String.append_assoc]
  | json => rfl

/-- Reading one file covers it. -/
theorem covers_addFile (progress : Progress) (file : Path) :
    Covers setup several [file] progress (progress.addFile setup several file) := by
  cases loads : setup.load file with
  | error error =>
    rw [addFile_of_error loads]
    constructor <;> simp [Setup.loaded, Setup.failures, loads]
  | ok source =>
    rw [addFile_of_ok loads]
    cases format : setup.options.format <;>
      constructor <;> simp [Setup.loaded, Setup.failures, loads, format]

/-- Reading files one after another covers them all. -/
theorem covers_foldl_addFile (progress : Progress) (files : List Path) :
    Covers setup several files progress (files.foldl (addFile setup several) progress) := by
  induction files generalizing progress with
  | nil => exact .nil progress
  | cons file files ih =>
    exact (covers_addFile progress file).append (ih (progress.addFile setup several file))

/-- A run that had shown nothing shows in the end what is to be shown of the files it covers. -/
theorem Covers.output_ended {total : Nat} {files : List Path} {errors : String} {after : Progress}
    (covers : Covers setup (decide (1 < total)) files { errors } after) :
    (setup.ended total after).output =
      setup.options.shown (decide (1 < total)) (setup.loaded files) := by
  rw [Setup.ended, Options.shown]
  cases format : setup.options.format with
  | text => simpa using covers.output format
  | json =>
    have objects : after.documents.toList = (setup.loaded files).map setup.options.object := by
      simpa using covers.documents format
    simp [document, ← objects]

end Progress

namespace Setup

variable {setup : Setup} {files : List Path}

/-- A run over some files reads them one after another behind its opening and then ends. -/
theorem run_of_files (found : setup.files = .ok files) (inhabited : files ≠ []) :
    setup.run = setup.ended files.length
      (files.foldl (Progress.addFile setup (decide (1 < files.length)))
        { errors := setup.opening files.length }) := by
  cases files with
  | nil => contradiction
  | cons file others =>
    rw [run, found, opening]
    dsimp only
    -- A run ends in the same way however far it has come.
    generalize List.foldl _ _ _ = progress
    rw [ended, closing]
    split
    · exact congrArg (Outcome.mk 0 _) String.append_empty.symm
    · exact congrArg (Outcome.mk 1 _) String.append_assoc

/-- Only a regular file is loaded. -/
theorem node_of_load {file : Path} {source : Source} (loads : setup.load file = .ok source) :
    ∃ size content, setup.tree.node file = .ok (.regular size content) :=
  ⟨_, _, (Source.isAt_of_load loads).1.bytes⟩

/-- A file that is loaded is what its own path leads to. -/
theorem files_on {file : Path} {source : Source} (loads : setup.load file = .ok source) :
    (setup.on file).files = .ok [file] := by
  obtain ⟨size, content, stands⟩ := node_of_load loads
  have leads : (setup.on file).tree.node (setup.on file).options.path =
      .ok (.regular size content) := stands
  rw [Setup.files, leads]
  rfl

/-- A loaded file is one that the loader gives a source for, and is given with its text. -/
theorem load_of_mem_loaded {entry : Path × String} (member : entry ∈ setup.loaded files) :
    ∃ source, setup.load entry.1 = .ok source ∧ source.text = entry.2 := by
  obtain ⟨file, -, found⟩ := List.mem_filterMap.mp member
  cases loads : setup.load file with
  | error error => simp [loads] at found
  | ok source =>
    rw [loads] at found
    obtain rfl := Option.some.inj found
    exact ⟨source, loads, rfl⟩

/-- Without a logger nothing is written. -/
theorem written_of_silent (silent : setup.logger? = none) (events : List Event) :
    setup.written events = "" := by
  rw [written, silent]
  rfl

/-- Without a logger nothing is noted of files but the lines of those that are not loaded. -/
theorem join_noted (silent : setup.logger? = none) (files : List Path) :
    String.join (files.map setup.noted) =
      String.join ((setup.failures files).map failureLine) := by
  have unwritten := written_of_silent silent
  induction files with
  | nil => rfl
  | cons file files ih =>
    rw [List.map_cons, String.join_cons, ih, noted, unwritten, String.empty_append]
    cases loads : setup.load file with
    | error error => simp [failures, loads]
    | ok source => simp [failures, loads, unwritten]

end Setup

/-- How a run keeps its files apart. -/
structure Outcome.Isolates (outcome : Outcome) (setup : Setup) (files : List Path) : Prop where
  /-- Nothing is shown but what is to be shown of the files that are loaded. -/
  output : outcome.output =
    setup.options.shown (decide (1 < files.length)) (setup.loaded files)
  /-- Of each of them is shown what a run on it alone shows. -/
  alone : ∀ entry ∈ setup.loaded files,
    (setup.on entry.1).run.output = setup.options.shown false [entry]
  /-- A file that is not loaded is missing from them. -/
  counted : (setup.loaded files).length + (setup.failures files).length = files.length
  /-- Each file is noted in its turn. -/
  errors : outcome.errors = setup.opening files.length ++ String.join (files.map setup.noted) ++
    setup.closing (setup.failures files).length files.length
  /-- Without a log, there is one line for each file that is not loaded, and the final error. -/
  silent : setup.logger? = none →
    outcome.errors = String.join ((setup.failures files).map failureLine) ++
      if setup.failures files = [] then ""
      else "Error: " ++
        quoted s!"{(setup.failures files).length} of {files.length} file(s) failed" ++ "\n"
  /-- The run succeeds exactly when every file is loaded. -/
  exitCode : outcome.exitCode = if setup.failures files = [] then 0 else 1

namespace Setup

variable {setup : Setup} {files : List Path}

/-- What a run over some files shows. -/
theorem output_of_files (found : setup.files = .ok files) (inhabited : files ≠ []) :
    setup.run.output = setup.options.shown (decide (1 < files.length)) (setup.loaded files) := by
  rw [run_of_files found inhabited]
  exact (Progress.covers_foldl_addFile _ files).output_ended

/-- A run on a file that is loaded shows it without a header. -/
theorem output_on {file : Path} {source : Source} (loads : setup.load file = .ok source) :
    (setup.on file).run.output = setup.options.shown false [(file, source.text)] := by
  have load : (setup.on file).load file = .ok source := loads
  have single : (setup.on file).loaded [file] = [(file, source.text)] := by simp [loaded, load]
  rw [output_of_files (files_on loads) (List.cons_ne_nil file []), single]
  rfl

/-- A run over some files keeps them apart. -/
theorem isolates_of_files (found : setup.files = .ok files) (inhabited : files ≠ []) :
    setup.run.Isolates setup files := by
  have covers : Progress.Covers setup (decide (1 < files.length)) files
      { errors := setup.opening files.length } _ := Progress.covers_foldl_addFile _ files
  have failed := covers.failed
  rw [Nat.zero_add] at failed
  have errors : setup.run.errors = setup.opening files.length ++
      String.join (files.map setup.noted) ++
      setup.closing (setup.failures files).length files.length := by
    rw [run_of_files found inhabited, ended, failed, covers.errors]
  constructor
  case output => exact output_of_files found inhabited
  case alone =>
    rintro ⟨file, text⟩ member
    obtain ⟨source, loads, rfl⟩ := load_of_mem_loaded member
    exact output_on loads
  case counted => exact setup.length_loaded_add_length_failures files
  case errors => exact errors
  case silent =>
    intro silent
    have unwritten := written_of_silent silent
    rw [errors, join_noted silent, opening, closing, unwritten, unwritten, unwritten]
    simp only [String.empty_append, List.length_eq_zero_iff]
  case exitCode =>
    rw [run_of_files found inhabited, ended, failed]
    simp only [List.length_eq_zero_iff]

end Setup

/-- Whatever the arguments ask for and wherever they lead, the files that a run finds are kept apart
in what it leaves behind: one that is not loaded has no effect on what is shown of the others, and
costs a line of its own, the final error and the exit code. -/
theorem outcome_of_files (tree : FileTree) (environment : Environment) (moment : Timestamp)
    (micros : Nat) (arguments : List String) (options : Options) (files : List Path)
    (accepted : parseArguments arguments = .ok options)
    (found : (Setup.of tree environment moment micros options).files = .ok files)
    (inhabited : files ≠ []) :
    (run tree environment moment micros arguments).Isolates
      (Setup.of tree environment moment micros options) files := by
  rw [run, accepted]
  exact Setup.isolates_of_files found inhabited

/-- The first of two files is no text, and the second is shown all the same. -/
theorem outcome_of_two_files :
    let tree : FileTree :=
      ⟨.directory [("d", .directory [("b", .file ⟨#[97]⟩), ("a", .file ⟨#[255]⟩)])], []⟩
    let options : Options := {
      path := ⟨"d"⟩, compressWhitespace := false, lines := false, format := .text
      letters? := none, digits? := none, symbols? := none, whitespace? := none, quotes? := none
      recursive := true, verbose := false }
    let setup := Setup.of tree (.ofList []) ⟨0, 0⟩ 0 options
    let files : List Path := [⟨"d/a"⟩, ⟨"d/b"⟩]
    let outcome := run tree (.ofList []) ⟨0, 0⟩ 0 ["d"]
    parseArguments ["d"] = .ok options ∧ setup.files = .ok files ∧
      setup.failures files = [(⟨"d/a"⟩, .notUtf8 0)] ∧ setup.loaded files = [(⟨"d/b"⟩, "a")] ∧
      outcome.Isolates setup files := by
  intro tree options setup files outcome
  have accepted : parseArguments ["d"] = .ok options := by rfl
  have found : setup.files = .ok files := by cbv
  have failures : setup.failures files = [(⟨"d/a"⟩, .notUtf8 0)] := by cbv
  have loaded : setup.loaded files = [(⟨"d/b"⟩, "a")] := by cbv
  have inhabited : files ≠ [] := List.cons_ne_nil _ _
  exact ⟨accepted, found, failures, loaded,
    outcome_of_files tree (.ofList []) ⟨0, 0⟩ 0 ["d"] options files accepted found inhabited⟩

end CharLexer.Command
