import CharLexer.Lexer
import CharLexer.Token.Json
import CharLexer.Token.Listing

/-!
# Reports

What the command shows of one file: its tokens in a row each, or under a heading for each line, or
as JSON with all keys in ascending order.
-/
namespace CharLexer.Command

/-- The tokens of a file, as they are shown. -/
inductive Report
  /-- One after another. -/
  | flat (tokens : List Token)
  /-- By line. -/
  | grouped (lines : Lines)

namespace Report

/-- Rows behind what is written, each with something in front. -/
def writeRows (written margin : String) (tokens : List Token) : String :=
  tokens.foldl (fun written token => written ++ margin ++ token.row ++ "\n") written

/-- A report as text. -/
def toText : Report → String
  | .flat tokens => writeRows "" "" tokens
  | .grouped lines =>
    lines.toList.foldl
      (fun written entry => writeRows (written ++ "line " ++ toString entry.1 ++ "\n") "  " entry.2)
      ""

/-- A report as JSON. -/
def toJson : Report → Json.Value
  | .flat tokens => Token.listToJson .sorted tokens
  | .grouped lines => lines.toJson .sorted

end Report

/-- The report of what a lexer has not yet read, with the events it raised. -/
def Report.ofLexer (lexer : Lexer) (compress grouped : Bool) : Scanned Report :=
  if grouped then
    let scanned := (lexer.scanLines compress).1
    ⟨.grouped scanned.result, scanned.events⟩
  else
    let scanned := (lexer.scan compress).1
    ⟨.flat scanned.result, scanned.events⟩

end CharLexer.Command
