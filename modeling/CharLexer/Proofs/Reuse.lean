import CharLexer.Proofs.Consumption
import Mathlib.Data.List.Basic

/-!
# Lexers used again

A lexer is built, its sets are replaced, it scans, and it is asked what it holds, in any order and
as often as one likes. A step that does not scan changes nothing but the sets; a scan moves the
cursor to the end of the text and leaves the counters of that scan. From this follows what any steps
leave (`Lexer.reaches_after`). So the first scan is that of a lexer freshly built with the sets last
given, a later one finds only the end of the text, and the counters are those that the last scan
made, until the next (`answers_of_steps`). Of these counters, the one of the characters does not
begin anew: it has the place of the end (`charsConsumed_of_second_scan`).
-/
namespace CharLexer

/-- Behind the end of a text, nothing is left to read. -/
theorem Cursor.rest_toEnd (cursor : Cursor) : cursor.toEnd.rest = [] := by
  apply List.drop_eq_nil_of_le
  show cursor.text.toList.length ≤ cursor.text.size
  rw [Array.length_toList]

/-- One of the five sets. -/
inductive Charsets.Name
  | letters
  | digits
  | symbols
  | whitespace
  | quotes
  deriving DecidableEq

namespace Charsets

/-- The sets, those replaced for which there is a text. -/
def updated (charsets : Charsets) (text? : Name → Option String) : Charsets where
  letters := (text? .letters).elim charsets.letters .ofString
  digits := (text? .digits).elim charsets.digits .ofString
  symbols := (text? .symbols).elim charsets.symbols .ofString
  whitespace := (text? .whitespace).elim charsets.whitespace .ofString
  quotes := (text? .quotes).elim charsets.quotes .ofString

/-- Without texts the sets stay. -/
theorem updated_none (charsets : Charsets) : charsets.updated (fun _ => none) = charsets := rfl

/-- Of two texts for a set the later one counts. -/
theorem updated_updated (charsets : Charsets) (first second : Name → Option String) :
    (charsets.updated first).updated second =
      charsets.updated fun name => (second name).or (first name) := by
  have later (name : Name) (set : Charset) :
      (second name).elim ((first name).elim set .ofString) .ofString =
        ((second name).or (first name)).elim set .ofString := by
    cases second name <;> rfl
  simp only [updated, later]

end Charsets

namespace Lexer

/-- Replace a set by that of a text. -/
def set (lexer : Lexer) (text : String) : Charsets.Name → Lexer
  | .letters => lexer.setLetters text
  | .digits => lexer.setDigits text
  | .symbols => lexer.setSymbols text
  | .whitespace => lexer.setWhitespace text
  | .quotes => lexer.setQuotes text

/-- Something done with a lexer. -/
inductive Step
  /-- Replace a set. -/
  | set (name : Charsets.Name) (text : String)
  /-- Scan what is left of the text. -/
  | tokens (compress : Bool)
  /-- Scan what is left of the text, by line. -/
  | lines (compress : Bool)
  /-- Ask for the counters. -/
  | metrics
  /-- Ask for the sets. -/
  | charsets
  /-- Ask for the preferences. -/
  | preferences

/-- What is given for a step. -/
inductive Answer
  /-- Nothing: a set was replaced. -/
  | done
  | tokens (tokens : List Token)
  | lines (lines : Lines)
  | metrics (metrics? : Option Metrics)
  | charsets (charsets : Charsets)
  | preferences (preferences : LexicalPreferences)

/-- A way of building a lexer. -/
inductive Build
  /-- Of a cursor, wherever it stands. -/
  | new (cursor : Cursor)
  /-- Of a whole text. -/
  | ofSource (source : String)
  /-- Of a cursor and preferences. -/
  | withPreferences (cursor : Cursor) (preferences : LexicalPreferences)
  /-- Of a lexer just built, with other sets. -/
  | withCharsets (build : Build) (charsets : Charsets)

/-- The lexer that is built. -/
def Build.lexer : Build → Lexer
  | .new cursor => { cursor }
  | .ofSource source => .ofString source
  | .withPreferences cursor preferences => { cursor, preferences }
  | .withCharsets build charsets => { build.lexer with charsets }

namespace Step

/-- Whether a step reads the text. -/
def scans : Step → Bool
  | .tokens _ | .lines _ => true
  | _ => false

/-- The text that a step gives for a set. -/
def text? (name : Charsets.Name) : Step → Option String
  | .set given text => if given = name then some text else none
  | _ => none

/-- The text last given for a set. -/
def lastText? (steps : List Step) (name : Charsets.Name) : Option String :=
  steps.reverse.findSome? (text? name)

/-- A text that later steps give for a set counts before that of the first step. -/
theorem lastText?_cons (step : Step) (steps : List Step) (name : Charsets.Name) :
    lastText? (step :: steps) name = (lastText? steps name).or (step.text? name) := by
  rw [lastText?, List.reverse_cons, List.findSome?_append, List.findSome?_singleton]
  rfl

end Step

/-- Do a step: what is given for it, and the lexer that it leaves. -/
def perform (lexer : Lexer) : Step → Answer × Lexer
  | .set name text => (.done, lexer.set text name)
  | .tokens compress =>
    let (scanned, after) := lexer.tokens compress
    (.tokens scanned.result, after)
  | .lines compress =>
    let (scanned, after) := lexer.lines compress
    (.lines scanned.result, after)
  | .metrics => (.metrics lexer.metrics, lexer)
  | .charsets => (.charsets lexer.charsets, lexer)
  | .preferences => (.preferences lexer.preferences, lexer)

/-- What is given for a step. -/
def answer (lexer : Lexer) (step : Step) : Answer := (lexer.perform step).1

/-- The lexer that steps leave, done one after another. -/
def after (lexer : Lexer) (steps : List Step) : Lexer :=
  steps.foldl (fun reached step => (reached.perform step).2) lexer

/-- The lexer built in the same way with the texts last given for its sets, and nothing done. -/
def Build.fresh (build : Build) (steps : List Step) : Lexer :=
  (Build.withCharsets build (build.lexer.charsets.updated (Step.lastText? steps))).lexer

/-- What is known of a lexer after steps of which it is known whether one scanned and which texts
they gave for the sets. -/
structure Reaches (start : Lexer) (scanned : Bool) (text? : Charsets.Name → Option String)
    (reached : Lexer) : Prop where
  /-- A scan has read everything, and nothing else reads. -/
  cursor : reached.cursor = if scanned then start.cursor.toEnd else start.cursor
  /-- The sets are those last given. -/
  charsets : reached.charsets = start.charsets.updated text?
  /-- The preferences are those from the start. -/
  preferences : reached.preferences = start.preferences
  /-- The counters change by scanning only. -/
  metrics : scanned = false → reached.metrics = start.metrics

namespace Reaches

variable {start middle reached : Lexer} {scanned earlier later : Bool}
variable {text? first second : Charsets.Name → Option String}

/-- By no steps a lexer stays what it is. -/
theorem refl (lexer : Lexer) : lexer.Reaches false (fun _ => none) lexer where
  cursor := rfl
  charsets := (Charsets.updated_none lexer.charsets).symm
  preferences := rfl
  metrics _ := rfl

/-- Steps may be followed by others. -/
theorem trans (front : start.Reaches earlier first middle)
    (back : middle.Reaches later second reached) :
    start.Reaches (earlier || later) (fun name => (second name).or (first name)) reached where
  cursor := by
    -- The end of the text is the same for every cursor over it.
    rw [back.cursor, front.cursor]
    cases earlier <;> cases later <;> rfl
  charsets := by rw [back.charsets, front.charsets, Charsets.updated_updated]
  preferences := back.preferences.trans front.preferences
  metrics unscanned := by
    obtain ⟨quietFront, quietBack⟩ := Bool.or_eq_false_iff.mp unscanned
    rw [back.metrics quietBack, front.metrics quietFront]

/-- Without a scan, only the sets change. -/
theorem eq_of_unscanned (reaches : start.Reaches false text? reached) :
    reached = { start with charsets := start.charsets.updated text? } := by
  obtain ⟨cursor, charsets, preferences, metrics⟩ := reached
  obtain ⟨sameCursor, newCharsets, samePreferences, sameMetrics⟩ := reaches
  obtain rfl : cursor = start.cursor := sameCursor
  obtain rfl : charsets = start.charsets.updated text? := newCharsets
  obtain rfl : preferences = start.preferences := samePreferences
  obtain rfl : metrics = start.metrics := sameMetrics rfl
  rfl

end Reaches

/-- Replacing a set changes that set only. -/
theorem reaches_set (lexer : Lexer) (name : Charsets.Name) (text : String) :
    lexer.Reaches false (Step.set name text).text? (lexer.set text name) where
  cursor := by cases name <;> rfl
  charsets := by cases name <;> rfl
  preferences := by cases name <;> rfl
  metrics _ := by cases name <;> rfl

/-- A step takes the text that it gives for a set, and a scan reads to the end. -/
theorem reaches_perform (lexer : Lexer) (step : Step) :
    lexer.Reaches step.scans step.text? (lexer.perform step).2 := by
  cases step with
  | set name text => exact lexer.reaches_set name text
  | tokens compress => exact ⟨rfl, rfl, rfl, Bool.noConfusion⟩
  | lines compress => exact ⟨rfl, rfl, rfl, Bool.noConfusion⟩
  | metrics => exact .refl lexer
  | charsets => exact .refl lexer
  | preferences => exact .refl lexer

/-- Steps take the texts last given for the sets, and if one scans, everything is read. -/
theorem reaches_after (lexer : Lexer) (steps : List Step) :
    lexer.Reaches (steps.any Step.scans) (Step.lastText? steps) (lexer.after steps) := by
  induction steps generalizing lexer with
  | nil => exact .refl lexer
  | cons step steps ih =>
    have texts : Step.lastText? (step :: steps) =
        fun name => (Step.lastText? steps name).or (step.text? name) :=
      funext (Step.lastText?_cons step steps)
    rw [List.any_cons, texts]
    exact (lexer.reaches_perform step).trans (ih (lexer.perform step).2)

/-- Until a scan, steps leave what could have been built with the sets last given. -/
theorem after_eq_fresh (build : Build) {steps : List Step}
    (unscanned : steps.any Step.scans = false) :
    build.lexer.after steps = build.fresh steps := by
  have reaches := build.lexer.reaches_after steps
  rw [unscanned] at reaches
  exact reaches.eq_of_unscanned

/-- A lexer just built has no counters. -/
theorem Build.metrics_lexer (build : Build) : build.lexer.metrics = none := by
  induction build with
  | new cursor => rfl
  | ofSource source => rfl
  | withPreferences cursor preferences => rfl
  | withCharsets build charsets ih => exact ih

/-- When everything is read, a scan gives the end of the text and counts it. -/
theorem tokens_of_spent {lexer : Lexer} (spent : lexer.cursor.rest = []) (compress : Bool) :
    (lexer.tokens compress).1.result = [⟨.textEnd, lexer.startPlace, ""⟩] ∧
      (lexer.tokens compress).2.metrics =
        if lexer.preferences.collectMetrics then
          some { total := 1, textEnds := 1, charsConsumed := lexer.cursor.position }
        else none := by
  have reading : Reading lexer.charsets lexer.cursor.rest [] := spent ▸ Reading.nil
  exact ⟨tokens_of_reading compress reading, metrics_of_reading compress reading⟩

/-- A lexer that is to count has counters after a scan. They describe the tokens of the scan, but
the one of the characters is the number of all characters of the text. -/
theorem describes_of_scan (lexer : Lexer) (compress : Bool) :
    if lexer.preferences.collectMetrics then
      ∃ metrics, (lexer.tokens compress).2.metrics = some metrics ∧
        metrics.Describes (lexer.tokens compress).1.result (lexer.tokens false).1.result ∧
        metrics.charsConsumed = lexer.cursor.length
    else (lexer.tokens compress).2.metrics = none := by
  obtain ⟨pieces, reading⟩ := Reading.exists_reading lexer.charsets lexer.cursor.rest
  have describes := reading.describes compress lexer.startPlace
  have consumed : (Piece.metricsToEnd lexer.startPlace pieces).charsConsumed =
      lexer.cursor.length := by
    have within : lexer.cursor.position ≤ lexer.cursor.length := lexer.cursor.position_le
    have read : lexer.cursor.length - lexer.cursor.position = _ :=
      charsRead_of_reading compress reading
    have reached : (Piece.metricsToEnd lexer.startPlace pieces).charsConsumed = _ :=
      Piece.endOf_offset lexer.startPlace pieces
    rw [reached, ← read]
    show lexer.cursor.position + _ = _
    omega
  rw [metrics_of_reading compress reading, tokens_of_reading compress reading,
    tokens_of_reading false reading]
  by_cases counts : lexer.preferences.collectMetrics = true
  · rw [if_pos counts, if_pos counts]
    exact ⟨_, rfl, describes, consumed⟩
  · rw [if_neg counts, if_neg counts]

namespace Build

variable (build : Build) (steps : List Step) (compress : Bool)

/-- The tokens that a scan gives after steps. If none of them scanned, they are those of a lexer
freshly built; otherwise only the end of the text is left. -/
def tokensAfter : List Token :=
  if steps.any Step.scans then [⟨.textEnd, ⟨build.lexer.cursor.length, 1, 1⟩, ""⟩]
  else ((build.fresh steps).tokens compress).1.result

/-- The counters that a scan leaves after steps. -/
def metricsAfter : Option Metrics :=
  if steps.any Step.scans then
    if build.lexer.preferences.collectMetrics then
      some { total := 1, textEnds := 1, charsConsumed := build.lexer.cursor.length }
    else none
  else ((build.fresh steps).tokens compress).2.metrics

/-- The tokens and the counters of a scan after steps. -/
theorem tokens_after :
    ((build.lexer.after steps).tokens compress).1.result = build.tokensAfter steps compress ∧
      ((build.lexer.after steps).tokens compress).2.metrics =
        build.metricsAfter steps compress := by
  unfold tokensAfter metricsAfter
  cases scanned : steps.any Step.scans with
  | false =>
    rw [after_eq_fresh build scanned]
    exact ⟨rfl, rfl⟩
  | true =>
    have reaches := build.lexer.reaches_after steps
    rw [scanned] at reaches
    have read : (build.lexer.after steps).cursor = build.lexer.cursor.toEnd := reaches.cursor
    have spent : (build.lexer.after steps).cursor.rest = [] := by
      rw [read, Cursor.rest_toEnd]
    obtain ⟨tokens, metrics⟩ := tokens_of_spent spent compress
    rw [startPlace, read] at tokens
    rw [reaches.preferences, read] at metrics
    exact ⟨tokens, metrics⟩

end Build

end Lexer

open Lexer (Build Step)

/-- After any steps, a scan gives the tokens of a lexer built in the same way with the texts last
given for the sets, if it is the first one, and otherwise the end of the text alone. In which order
other steps gave these texts is of no matter. There are no counters before the first scan. From then
on, whatever else is done until the next one, there are those of the last scan, if the lexer is to
count at all: they describe the tokens of that scan and of no other. Only the characters are those
of the whole text. -/
theorem answers_of_steps (build : Build) (steps : List Step) (compress : Bool) :
    let reached := build.lexer.after steps
    let tokens := build.tokensAfter steps compress
    let metrics? := build.metricsAfter steps compress
    reached.answer (.tokens compress) = .tokens tokens ∧
      reached.answer (.lines compress) = .lines (.ofTokens tokens) ∧
      (∀ others : List Step, others.any Step.scans = steps.any Step.scans →
        Step.lastText? others = Step.lastText? steps →
        (build.lexer.after others).answer (.tokens compress) = .tokens tokens) ∧
      (steps.any Step.scans = false → reached.answer .metrics = .metrics none) ∧
      (∀ scan ∈ [Step.tokens compress, .lines compress], ∀ between : List Step,
        between.any Step.scans = false →
        (reached.after (scan :: between)).answer .metrics = .metrics metrics?) ∧
      if build.lexer.preferences.collectMetrics then
        ∃ metrics, metrics? = some metrics ∧
          metrics.Describes tokens (build.tokensAfter steps false) ∧
          metrics.charsConsumed = build.lexer.cursor.length
      else metrics? = none := by
  intro reached tokens metrics?
  obtain ⟨given, counted⟩ := build.tokens_after steps compress
  have reaches := build.lexer.reaches_after steps
  refine ⟨?_, ?_, ?_, ?_, ?_, ?_⟩
  · exact congrArg Lexer.Answer.tokens given
  · exact congrArg (fun tokens => Lexer.Answer.lines (.ofTokens tokens)) given
  · intro others sameScanned sameTexts
    have same : build.tokensAfter others compress = tokens := by
      unfold tokens Build.tokensAfter Build.fresh
      rw [sameScanned, sameTexts]
    rw [← same, ← (build.tokens_after others compress).1]
    rfl
  · intro unscanned
    have unchanged := reaches.metrics unscanned
    rw [build.metrics_lexer] at unchanged
    exact congrArg Lexer.Answer.metrics unchanged
  · intro scan isScan between quiet
    have scanned : (reached.perform scan).2.metrics = metrics? := by
      rcases List.mem_pair.mp isScan with rfl | rfl
      · exact counted
      · exact counted
    have kept := ((reached.perform scan).2.reaches_after between).metrics quiet
    exact congrArg Lexer.Answer.metrics (kept.trans scanned)
  · have sameLength : reached.cursor.length = build.lexer.cursor.length := by
      rw [reaches.cursor]
      cases steps.any Step.scans <;> rfl
    have describes := reached.describes_of_scan compress
    rw [reaches.preferences, sameLength, counted, given,
      (build.tokens_after steps false).1] at describes
    exact describes

/-- The texts of two sets, given in another order, give the same first scan. A set replaced and a
question asked behind it leave its counters. -/
theorem answers_of_steps_exchanged :
    let build := Build.withPreferences ((Cursor.ofString "-ab'1'").advance 1) {}
    let steps := [Step.set .letters "a", .metrics, .set .digits "b1"]
    let others := [Step.set .digits "b1", .set .letters "'", .set .letters "a"]
    let between := [Step.set .quotes "b", .charsets]
    let reached := build.lexer.after steps
    others.any Step.scans = steps.any Step.scans ∧
      Step.lastText? others = Step.lastText? steps ∧
      steps.any Step.scans = false ∧ between.any Step.scans = false ∧
      (build.lexer.after others).answer (.tokens false) =
        .tokens [⟨.letters, ⟨1, 1, 1⟩, "a"⟩, ⟨.digits, ⟨2, 1, 2⟩, "b"⟩,
          ⟨.string, ⟨3, 1, 3⟩, "'1'"⟩, ⟨.textEnd, ⟨6, 1, 6⟩, ""⟩] ∧
      reached.answer .metrics = .metrics none ∧
      (reached.after (.lines false :: between)).answer .metrics =
        .metrics (some { total := 4, letters := 1, digits := 1, strings := 1, textEnds := 1,
                         longestRun := 3, charsConsumed := 6 }) := by
  intro build steps others between reached
  have sameScanned : others.any Step.scans = steps.any Step.scans := rfl
  have sameTexts : Step.lastText? others = Step.lastText? steps := by
    funext name
    cases name <;> rfl
  have unscanned : steps.any Step.scans = false := rfl
  have quiet : between.any Step.scans = false := rfl
  obtain ⟨-, -, exchanged, unasked, kept, -⟩ := answers_of_steps build steps false
  have member : Step.lines false ∈ [Step.tokens false, .lines false] :=
    List.mem_pair.mpr (.inr rfl)
  refine ⟨sameScanned, sameTexts, unscanned, quiet, ?_, unasked unscanned, ?_⟩
  · rw [exchanged others sameScanned sameTexts]
    apply congrArg Lexer.Answer.tokens
    decide
  · rw [kept (.lines false) member between quiet]
    apply congrArg Lexer.Answer.metrics
    decide

/-- The second scan of a text of two characters reads none of them and counts no token but the end
of the text. All the same it leaves a count of two characters. -/
theorem charsConsumed_of_second_scan :
    let once := (Build.ofSource "ab").lexer.after [.tokens false]
    let twice := once.after [.tokens false]
    (once.tokens false).1.result = [⟨.textEnd, ⟨2, 1, 1⟩, ""⟩] ∧
      once.charsRead false = 0 ∧
      twice.metrics = some { total := 1, textEnds := 1, charsConsumed := 2 } := by
  decide

end CharLexer
