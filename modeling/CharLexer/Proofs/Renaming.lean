import CharLexer.Proofs.LateStart
import CharLexer.Proofs.Membership
import Mathlib.Data.List.Basic
import Mathlib.Logic.Equiv.Basic

/-!
# Renamed characters

A scan knows no character but the two line breaks. Any others may be exchanged, in the text and in
the texts of the sets alike: the pieces of the text are then the same pieces with their characters
exchanged (`Reading.renamed`), so the tokens are the same tokens with their contents exchanged, and
the counters are the same (`tokens_of_renamed`). In particular it makes no difference by which half
of a set a character is found, the bits or the hash set.
-/
namespace CharLexer

open Scan (extendsRun isOther)

/-- A renaming of characters: no two become one, and the line breaks keep their names. -/
structure Renaming where
  /-- The new name of a character. -/
  rename : Char → Char
  /-- No two characters become one. -/
  injective : Function.Injective rename
  /-- A carriage return stays one. -/
  carriageReturn : rename '\r' = '\r'
  /-- A line feed stays one. -/
  lineFeed : rename '\n' = '\n'

/-- A text with its characters renamed. -/
def Renaming.text (names : Renaming) (text : String) : String :=
  String.ofList (text.toList.map names.rename)

/-- The texts by which the five sets are given. -/
structure Charsets.Texts where
  letters : String
  digits : String
  symbols : String
  whitespace : String
  quotes : String

namespace Charsets.Texts

/-- The sets of the texts. -/
def charsets (texts : Texts) : Charsets where
  letters := .ofString texts.letters
  digits := .ofString texts.digits
  symbols := .ofString texts.symbols
  whitespace := .ofString texts.whitespace
  quotes := .ofString texts.quotes

/-- The texts with their characters renamed. -/
def renamed (names : Renaming) (texts : Texts) : Texts where
  letters := names.text texts.letters
  digits := names.text texts.digits
  symbols := names.text texts.symbols
  whitespace := names.text texts.whitespace
  quotes := names.text texts.quotes

end Charsets.Texts

/-- A token with its content renamed. A compressed whitespace run is one space under any name. -/
def Token.renamed (names : Renaming) (compress : Bool) (token : Token) : Token :=
  { token with
    content :=
      if compress && token.kind == .whitespace then " " else names.text token.content }

/-- Sets that contain the new name of a character where others contain the character. -/
structure Charsets.Renames (names : Renaming) (first second : Charsets) : Prop where
  quotes : ∀ c, second.quotes.contains (names.rename c) = first.quotes.contains c
  classes : ∀ runClass c,
    (second.ofClass runClass).contains (names.rename c) = (first.ofClass runClass).contains c

namespace Renaming

variable (names : Renaming)

/-- A renamed text has the characters of the text under their new names. -/
@[simp] theorem toList_text (text : String) :
    (names.text text).toList = text.toList.map names.rename :=
  String.toList_ofList

/-- Only a carriage return is renamed to one. -/
theorem eq_carriageReturn {c : Char} : names.rename c = '\r' ↔ c = '\r' := by
  constructor
  · intro named
    apply names.injective
    rw [named, names.carriageReturn]
  · rintro rfl
    exact names.carriageReturn

/-- Only a line feed is renamed to one. -/
theorem eq_lineFeed {c : Char} : names.rename c = '\n' ↔ c = '\n' := by
  constructor
  · intro named
    apply names.injective
    rw [named, names.lineFeed]
  · rintro rfl
    exact names.lineFeed

/-- The set of a renamed text contains the new name of a character exactly if the set of the text
contains the character. -/
theorem contains_text (text : String) (c : Char) :
    (Charset.ofString (names.text text)).contains (names.rename c) =
      (Charset.ofString text).contains c := by
  have member := List.mem_map_of_injective names.injective (a := c) (l := text.toList)
  rw [Charset.contains_ofString, Charset.contains_ofString, toList_text, Bool.eq_iff_iff,
    List.contains_iff_mem, List.contains_iff_mem]
  exact member

/-- Renamed texts give renamed sets. -/
theorem renames_charsets (texts : Charsets.Texts) :
    Charsets.Renames names texts.charsets (texts.renamed names).charsets where
  quotes c := names.contains_text texts.quotes c
  classes runClass c := by
    cases runClass <;>
      simp only [Charsets.ofClass, Charsets.Texts.charsets, Charsets.Texts.renamed, contains_text]

end Renaming

namespace Charsets.Renames

variable {names : Renaming} {first second : Charsets}

/-- The new names of quotes are quotes. -/
theorem isQuote (renames : Charsets.Renames names first second) (c : Char) :
    second.isQuote (names.rename c) = first.isQuote c :=
  renames.quotes c

/-- The new name of a character is of its class. -/
theorem classify? (renames : Charsets.Renames names first second) (c : Char) :
    second.classify? (names.rename c) = first.classify? c := by
  have found (runClass : RunClass) := renames.classes runClass c
  simp only [Charsets.classify?, found]

/-- The new name of a character is of no class exactly if the character is. -/
theorem isOther (renames : Charsets.Renames names first second) (c : Char) :
    isOther second (names.rename c) = isOther first c := by
  rw [Bool.eq_iff_iff, Piece.isOther_iff, Piece.isOther_iff, renames.isQuote, renames.classify?,
    ne_eq, names.eq_carriageReturn, ne_eq, names.eq_lineFeed]

/-- A run takes the new names of the characters that it takes. -/
theorem extendsRun (renames : Charsets.Renames names first second) (runClass : RunClass)
    (c : Char) :
    extendsRun second runClass (names.rename c) = extendsRun first runClass c := by
  have isReturn : decide (names.rename c = '\r') = decide (c = '\r') :=
    decide_eq_decide.mpr names.eq_carriageReturn
  rw [Scan.extendsRun, Scan.extendsRun, isReturn, renames.classes]

end Charsets.Renames

namespace Piece

/-- A piece with its characters renamed. -/
def renamed (names : Renaming) : Piece → Piece
  | .dropped => .dropped
  | .lineEnd => .lineEnd
  | .run runClass first more =>
    .run runClass (names.rename first) (more.map names.rename)
  | .string delimiter inner closed =>
    .string (names.rename delimiter) (inner.map names.rename) closed
  | .other first more => .other (names.rename first) (more.map names.rename)

variable {names : Renaming}

/-- A renamed piece has the characters of the piece under their new names. -/
theorem chars_renamed (piece : Piece) :
    (piece.renamed names).chars = piece.chars.map names.rename := by
  cases piece with
  | dropped => exact congrArg (fun c => [c]) names.carriageReturn.symm
  | lineEnd => exact congrArg (fun c => [c]) names.lineFeed.symm
  | run runClass first more => rfl
  | string delimiter inner closed => cases closed <;> simp [renamed]
  | other first more => rfl

/-- A renamed piece makes a token of the same kind. -/
@[simp] theorem kind?_renamed (piece : Piece) : (piece.renamed names).kind? = piece.kind? := by
  cases piece <;> rfl

/-- A renamed piece is cut off by the end of the text if the piece is. -/
@[simp] theorem unfinished_renamed (piece : Piece) :
    (piece.renamed names).unfinished = piece.unfinished := by
  cases piece <;> rfl

/-- A renamed piece has as many characters. -/
@[simp] theorem length_chars_renamed (piece : Piece) :
    (piece.renamed names).chars.length = piece.chars.length := by
  rw [chars_renamed, List.length_map]

/-- A renamed piece moves a place as far. -/
theorem after_renamed (place : Location) (piece : Piece) :
    (piece.renamed names).after place = piece.after place := by
  have length : (piece.renamed names).chars.length = piece.chars.length :=
    length_chars_renamed piece
  cases piece with
  | dropped => rfl
  | lineEnd => rfl
  | _ => exact congrArg place.afterColumns length

/-- A renamed piece is counted alike. -/
theorem count_renamed (piece : Piece) : (piece.renamed names).count = piece.count := by
  funext metrics
  simp only [count, kind?_renamed, length_chars_renamed, unfinished_renamed]

/-- The token of a renamed piece is the renamed token of the piece. -/
theorem token?_renamed (compress : Bool) (place : Location) (piece : Piece) :
    (piece.renamed names).token? compress place =
      (piece.token? compress place).map (Token.renamed names compress) := by
  cases made : piece.kind? with
  | none => simp [token?, made]
  | some kind =>
    have content : (piece.renamed names).content compress =
        if compress && kind == .whitespace then " "
        else names.text (piece.content compress) := by
      have blank : (some kind == some Kind.whitespace) = (kind == .whitespace) := rfl
      rw [Piece.content, Piece.content, kind?_renamed, made, blank]
      by_cases compressed : (compress && kind == .whitespace) = true
      · rw [if_pos compressed, if_pos compressed]
      · rw [if_neg compressed, if_neg compressed, if_neg compressed, chars_renamed, Renaming.text,
          String.toList_ofList]
    simp [token?, made, Token.renamed, content]

/-- A renamed piece fits by renamed sets where the piece fits. -/
theorem Fits.renamed {first second : Charsets} (renames : Charsets.Renames names first second)
    {piece : Piece} {next : Option Char} (fits : piece.Fits first next) :
    (piece.renamed names).Fits second (next.map names.rename) := by
  cases piece with
  | dropped =>
    show second.isQuote '\r' = false
    rw [← names.carriageReturn, renames.isQuote]
    exact fits
  | lineEnd =>
    show second.isQuote '\n' = false
    rw [← names.lineFeed, renames.isQuote]
    exact fits
  | run runClass opening more =>
    obtain ⟨noQuote, noReturn, noFeed, classified, inside, stop⟩ := fits
    have goesOn : ∀ c ∈ more.map names.rename, extendsRun second runClass c = true := by
      rw [List.forall_mem_map]
      intro c member
      rw [renames.extendsRun]
      exact inside c member
    have stops : ∀ c ∈ next.map names.rename, extendsRun second runClass c = false := by
      intro c head
      obtain ⟨d, isNext, rfl⟩ := Option.map_eq_some_iff.mp head
      rw [renames.extendsRun]
      exact stop d isNext
    refine ⟨?_, ?_, ?_, ?_, goesOn, stops⟩
    · rw [renames.isQuote, noQuote]
    · rwa [ne_eq, names.eq_carriageReturn]
    · rwa [ne_eq, names.eq_lineFeed]
    · rw [renames.classify?, classified]
  | string delimiter inner closed =>
    obtain ⟨quote, absent, ends⟩ := fits
    have absentThere : names.rename delimiter ∉ inner.map names.rename := by
      rwa [List.mem_map_of_injective names.injective]
    refine ⟨?_, absentThere, ?_⟩
    · rw [renames.isQuote, quote]
    · rwa [Option.map_eq_none_iff]
  | other opening more =>
    obtain ⟨inside, stop⟩ := fits
    constructor
    · show ∀ c ∈ (opening :: more).map names.rename, isOther second c = true
      rw [List.forall_mem_map]
      intro c member
      rw [renames.isOther]
      exact inside c member
    · intro c head
      obtain ⟨d, isNext, rfl⟩ := Option.map_eq_some_iff.mp head
      rw [renames.isOther]
      exact stop d isNext

/-- Renamed pieces make the renamed tokens of the pieces. -/
theorem tokensToEnd_renamed (compress : Bool) (place : Location) (pieces : List Piece) :
    tokensToEnd compress place (pieces.map (Piece.renamed names)) =
      (tokensToEnd compress place pieces).map (Token.renamed names compress) := by
  induction pieces generalizing place with
  | nil =>
    have ended : Token.renamed names compress ⟨.textEnd, place, ""⟩ = ⟨.textEnd, place, ""⟩ := by
      cases compress <;> rfl
    simp [ended]
  | cons piece pieces ih =>
    have later := ih (piece.after place)
    rw [List.map_cons, tokensToEnd_cons, tokensToEnd_cons, List.map_append, token?_renamed,
      after_renamed, later, Option.toList_map]

/-- Renamed pieces end where the pieces end. -/
theorem endOf_renamed (place : Location) (pieces : List Piece) :
    endOf place (pieces.map (Piece.renamed names)) = endOf place pieces := by
  induction pieces generalizing place with
  | nil => rfl
  | cons piece pieces ih =>
    show endOf ((piece.renamed names).after place) _ = endOf (piece.after place) pieces
    rw [after_renamed, ih]

/-- Renamed pieces are counted alike. -/
theorem metricsToEnd_renamed (place : Location) (pieces : List Piece) :
    metricsToEnd place (pieces.map (Piece.renamed names)) = metricsToEnd place pieces := by
  have counted : countAll {} (pieces.map (Piece.renamed names)) = countAll {} pieces := by
    simp only [countAll, List.foldl_map, count_renamed]
  rw [metricsToEnd, metricsToEnd, counted, endOf_renamed]

end Piece

/-- A renamed text is read by renamed sets in renamed pieces. -/
theorem Reading.renamed {names : Renaming} {first second : Charsets}
    (renames : Charsets.Renames names first second) {text : List Char} {pieces : List Piece}
    (reading : Reading first text pieces) :
    Reading second (text.map names.rename) (pieces.map (Piece.renamed names)) := by
  induction reading with
  | nil => exact .nil
  | @cons piece text pieces fits reading ih =>
    have fitsThere := fits.renamed renames
    rw [← List.head?_map] at fitsThere
    rw [List.map_append, ← Piece.chars_renamed]
    exact .cons fitsThere ih

/-- A scan of a renamed text by the sets of renamed texts, from any start, gives the tokens of the
scan of the text with their contents renamed, and has its counters. -/
theorem tokens_of_renamed (names : Renaming) (source : String) (texts : Charsets.Texts)
    (preferences : LexicalPreferences) (compress : Bool) (start : Nat) :
    let lexer : Lexer :=
      { cursor := (Cursor.ofString source).advance start
        charsets := texts.charsets
        preferences }
    let renamed : Lexer :=
      { cursor := (Cursor.ofString (names.text source)).advance start
        charsets := (texts.renamed names).charsets
        preferences }
    (renamed.tokens compress).1.result =
        (lexer.tokens compress).1.result.map (Token.renamed names compress) ∧
      (renamed.tokens compress).2.metrics = (lexer.tokens compress).2.metrics := by
  intro lexer renamed
  have left : renamed.cursor.rest = lexer.cursor.rest.map names.rename := by
    show ((Cursor.ofString (names.text source)).advance start).rest =
      ((Cursor.ofString source).advance start).rest.map names.rename
    rw [Cursor.rest_advance, Cursor.rest_advance, Cursor.rest_ofString, Cursor.rest_ofString,
      names.toList_text, List.map_drop]
  have starts : renamed.startPlace = lexer.startPlace := by
    have length : (names.text source).length = source.length := by
      rw [← String.length_toList, names.toList_text, List.length_map, String.length_toList]
    have position : renamed.cursor.position = lexer.cursor.position := by
      show ((Cursor.ofString (names.text source)).advance start).position =
        ((Cursor.ofString source).advance start).position
      rw [Cursor.position_advance, Cursor.position_advance, Cursor.length_ofString,
        Cursor.length_ofString, length]
      rfl
    rw [Lexer.startPlace, Lexer.startPlace, position]
  obtain ⟨pieces, reading⟩ := Reading.exists_reading lexer.charsets lexer.cursor.rest
  have readRenamed : Reading renamed.charsets renamed.cursor.rest
      (pieces.map (Piece.renamed names)) := by
    rw [left]
    exact reading.renamed (names.renames_charsets texts)
  constructor
  · rw [Lexer.tokens_of_reading compress readRenamed, Lexer.tokens_of_reading compress reading,
      starts, Piece.tokensToEnd_renamed]
  · rw [Lexer.metrics_of_reading compress readRenamed, Lexer.metrics_of_reading compress reading,
      starts, Piece.metricsToEnd_renamed]

/-- A quote and a letter change places with characters above 127. A dropped carriage return, a
compressed run and a string that the text cuts off stay where they are. -/
theorem tokens_of_renamed_exchanged :
    let names : Renaming :=
      { rename := (Equiv.swap '\'' 'é').trans (Equiv.swap 'a' 'ω')
        injective := Equiv.injective _
        carriageReturn := by decide
        lineFeed := by decide }
    let texts : Charsets.Texts := ⟨"ab", "01", "+-", " \t", "'"⟩
    let scan := fun source (charsets : Charsets) =>
      ({ cursor := (Cursor.ofString source).advance 1, charsets } : Lexer).tokens true
    names.text "b\ra \t\n'éa" = "b\rω \t\né'ω" ∧
      texts.renamed names = ⟨"ωb", "01", "+-", " \t", "é"⟩ ∧
      (scan "b\ra \t\n'éa" texts.charsets).1.result =
        [⟨.letters, ⟨2, 1, 1⟩, "a"⟩, ⟨.whitespace, ⟨3, 1, 2⟩, " "⟩, ⟨.lineEnd, ⟨5, 1, 4⟩, "\n"⟩,
          ⟨.string, ⟨6, 2, 1⟩, "'éa"⟩, ⟨.textEnd, ⟨9, 2, 4⟩, ""⟩] ∧
      (scan "b\rω \t\né'ω" (texts.renamed names).charsets).1.result =
        [⟨.letters, ⟨2, 1, 1⟩, "ω"⟩, ⟨.whitespace, ⟨3, 1, 2⟩, " "⟩, ⟨.lineEnd, ⟨5, 1, 4⟩, "\n"⟩,
          ⟨.string, ⟨6, 2, 1⟩, "é'ω"⟩, ⟨.textEnd, ⟨9, 2, 4⟩, ""⟩] := by
  intro names texts scan
  have source : names.text "b\ra \t\n'éa" = "b\rω \t\né'ω" := by decide
  have sets : texts.renamed names = ⟨"ωb", "01", "+-", " \t", "é"⟩ := by
    unfold Charsets.Texts.renamed
    rw [Charsets.Texts.mk.injEq]
    decide
  have tokens : (scan "b\ra \t\n'éa" texts.charsets).1.result =
      [⟨.letters, ⟨2, 1, 1⟩, "a"⟩, ⟨.whitespace, ⟨3, 1, 2⟩, " "⟩, ⟨.lineEnd, ⟨5, 1, 4⟩, "\n"⟩,
        ⟨.string, ⟨6, 2, 1⟩, "'éa"⟩, ⟨.textEnd, ⟨9, 2, 4⟩, ""⟩] := by decide
  have renamed := (tokens_of_renamed names "b\ra \t\n'éa" texts {} true 1).1
  have exchanged : (scan "b\rω \t\né'ω" (texts.renamed names).charsets).1.result =
      (scan "b\ra \t\n'éa" texts.charsets).1.result.map (Token.renamed names true) := by
    rw [← source]
    exact renamed
  refine ⟨source, sets, tokens, ?_⟩
  rw [exchanged, tokens]
  decide

end CharLexer
