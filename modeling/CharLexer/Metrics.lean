import CharLexer.Token.Basic

/-!
# Scan metrics

The counters of one scan: its tokens, all together and by kind, the strings left open, the most
characters one token took from the source, and the place where the scan ended.
-/
namespace CharLexer

/-- The counters of one scan. -/
structure Metrics where
  total : Nat := 0
  whitespace : Nat := 0
  letters : Nat := 0
  digits : Nat := 0
  symbols : Nat := 0
  strings : Nat := 0
  other : Nat := 0
  lineEnds : Nat := 0
  textEnds : Nat := 0
  /-- Strings that run to the end of the text. -/
  unterminated : Nat := 0
  /-- The most characters taken from the source by one token. -/
  longestRun : Nat := 0
  /-- The offset at which the scan ended. -/
  charsConsumed : Nat := 0
  deriving DecidableEq

namespace Metrics

/-- Count one more token of a kind. -/
def countKind (metrics : Metrics) : Kind → Metrics
  | .whitespace => { metrics with whitespace := metrics.whitespace + 1 }
  | .letters => { metrics with letters := metrics.letters + 1 }
  | .digits => { metrics with digits := metrics.digits + 1 }
  | .symbols => { metrics with symbols := metrics.symbols + 1 }
  | .string => { metrics with strings := metrics.strings + 1 }
  | .other => { metrics with other := metrics.other + 1 }
  | .lineEnd => { metrics with lineEnds := metrics.lineEnds + 1 }
  | .textEnd => { metrics with textEnds := metrics.textEnds + 1 }

/-- Count a token that took so many characters from the source. -/
def record (metrics : Metrics) (kind : Kind) (consumed : Nat) : Metrics :=
  let counted := metrics.countKind kind
  { counted with
    total := counted.total + 1
    longestRun := max counted.longestRun consumed }

/-- The number of tokens of a kind. -/
def countOf (metrics : Metrics) : Kind → Nat
  | .whitespace => metrics.whitespace
  | .letters => metrics.letters
  | .digits => metrics.digits
  | .symbols => metrics.symbols
  | .string => metrics.strings
  | .other => metrics.other
  | .lineEnd => metrics.lineEnds
  | .textEnd => metrics.textEnds

end Metrics

end CharLexer
