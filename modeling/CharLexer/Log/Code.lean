/-!
# Event codes

Every event carries a short code that names the stage which raised it: `L` for loading a source,
`S` for scanning, `C` for the command line. Codes below one hundred tell of a failure or an odd
input and have an entry in the table; the others mark progress and have none.
-/
namespace CharLexer.Log

/-- The stage that a code belongs to. -/
inductive Category
  | load
  | scan
  | command
  deriving DecidableEq

/-- The written name of a category. -/
def Category.name : Category → String
  | .load => "load"
  | .scan => "scan"
  | .command => "cli"

/-- How grave the condition of a code is, the gravest first. -/
inductive Severity
  | high
  | medium
  | low
  deriving DecidableEq, Ord

namespace Severity

/-- Every severity, in order. -/
def all : List Severity := [.high, .medium, .low]

/-- The written name of a severity. -/
def name : Severity → String
  | .high => "high"
  | .medium => "medium"
  | .low => "low"

/-- The severity of a written name. -/
def ofName? (name : String) : Option Severity :=
  all.find? fun severity => severity.name == name

end Severity

/-- The name of a kind of event. -/
structure Code where
  text : String
  deriving DecidableEq

namespace Code

/-- No file stands at the path. -/
def sourceNotFound : Code := ⟨"L001"⟩

/-- What stands at the path is no regular file. -/
def sourceNotAFile : Code := ⟨"L002"⟩

/-- The file exceeds the limit. -/
def sourceTooLarge : Code := ⟨"L003"⟩

/-- The file is empty, and empty files are refused. -/
def sourceEmpty : Code := ⟨"L004"⟩

/-- The bytes of the file are no text. -/
def sourceNotUtf8 : Code := ⟨"L005"⟩

/-- The file cannot be read. -/
def sourceUnreadable : Code := ⟨"L006"⟩

/-- A source was loaded. -/
def sourceLoaded : Code := ⟨"L100"⟩

/-- A string runs to the end of the text. -/
def stringUnterminated : Code := ⟨"S001"⟩

/-- A scan starts. -/
def scanStarted : Code := ⟨"S100"⟩

/-- A scan is complete. -/
def scanCompleted : Code := ⟨"S101"⟩

/-- The tokens of a scan, counted by kind. -/
def scanCounts : Code := ⟨"S102"⟩

/-- The tokens of a scan were grouped by line. -/
def scanLinesGrouped : Code := ⟨"S103"⟩

/-- Some files failed. -/
def commandFilesFailed : Code := ⟨"C001"⟩

/-- The command starts. -/
def commandStarted : Code := ⟨"C100"⟩

/-- The files to be read are known. -/
def commandFilesDiscovered : Code := ⟨"C101"⟩

/-- What the table tells of a code. -/
structure Entry where
  category : Category
  severity : Severity
  deriving DecidableEq

/-- The codes of failures and odd inputs. -/
def table : List (Code × Entry) :=
  [(sourceNotFound, ⟨.load, .medium⟩), (sourceNotAFile, ⟨.load, .medium⟩),
    (sourceTooLarge, ⟨.load, .high⟩), (sourceEmpty, ⟨.load, .low⟩),
    (sourceNotUtf8, ⟨.load, .medium⟩), (sourceUnreadable, ⟨.load, .high⟩),
    (stringUnterminated, ⟨.scan, .low⟩), (commandFilesFailed, ⟨.command, .high⟩)]

/-- The entry of a code; codes of progress have none. -/
def entry? (code : Code) : Option Entry := table.lookup code

/-- A code has the entry that the table lists for it, and no other. -/
theorem entry?_eq_some {code : Code} {entry : Entry} :
    code.entry? = some entry ↔ (code, entry) ∈ table := by
  have distinct : (table.map (·.1)).Nodup := by decide
  unfold entry?
  rw [List.lookup_eq_some_iff]
  constructor
  · rintro ⟨front, back, split, -⟩
    rw [split]
    exact List.mem_append_right front List.mem_cons_self
  · intro listed
    obtain ⟨front, back, split⟩ := List.append_of_mem listed
    refine ⟨front, back, split, fun other member => ?_⟩
    rw [split, List.map_append, List.map_cons, List.nodup_append] at distinct
    have apart := distinct.2.2 _ (List.mem_map_of_mem member) _ List.mem_cons_self
    exact bne_iff_ne.mpr apart.symm

end Code

end CharLexer.Log
