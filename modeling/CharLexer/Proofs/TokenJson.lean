import CharLexer.Command.Report
import CharLexer.Proofs.CounterRange
import CharLexer.Proofs.JsonObject
import CharLexer.Proofs.LineOrder
import Std.Data.String.ToNat

/-!
# Tokens are read back

The report of a file as JSON loses nothing of the tokens. A token whose numbers fit into their words
is read back from its object (`Token.ofJson?_toJson`), so a list of them is read back from its
array. The object of grouped tokens lists its members in ascending order of their keys as texts,
where the tenth line comes before the second; its members are still those of the grouping
(`Json.perm_sorted`), so sorting them by the numbers of their keys restores the order of the lines.
-/
namespace CharLexer

open Command (Report)
open Json (Value)

namespace Json

/-- A number below a bound is read back. -/
theorem Value.natBelow?_ofNat {number bound : Nat} (below : number < bound) :
    (Value.ofNat number).natBelow? bound = some number := by
  have within : (0 : Int) ≤ number ∧ (number : Int) < bound :=
    ⟨Int.natCast_nonneg number, Int.ofNat_lt.mpr below⟩
  rw [Value.ofNat, Value.natBelow?, if_pos within, Int.toNat_natCast]

end Json

namespace Location

/-- A location is written with its fields in ascending order of their names. -/
theorem toJson_sorted (place : Location) :
    place.toJson .sorted = .object [("column", .ofNat place.column), ("line", .ofNat place.line),
      ("offset", .ofNat place.offset)] := rfl

/-- A location is made of integers. -/
theorem plain_toJson (place : Location) : (place.toJson .sorted).Plain := by
  rw [toJson_sorted]
  refine .object (List.forall_mem_cons.mpr ⟨.integer _, ?_⟩)
  refine List.forall_mem_cons.mpr ⟨.integer _, ?_⟩
  exact List.forall_mem_singleton.mpr (.integer _)

/-- A location whose numbers fit into their words is read back. -/
theorem ofJson?_toJson {place : Location} (offset : place.offset < offsetBound)
    (inRange : place.InRange) : ofJson? (place.toJson .sorted) = some place := by
  have fields : (place.toJson .sorted).fields? ["offset", "line", "column"] =
      some [.ofNat place.offset, .ofNat place.line, .ofNat place.column] := rfl
  rw [ofJson?, fields]
  simp only [Value.natBelow?_ofNat offset, Value.natBelow?_ofNat inRange.1,
    Value.natBelow?_ofNat inRange.2]
  rfl

end Location

/-- A kind is read back from its name. -/
theorem Kind.ofJson?_toJson (kind : Kind) : ofJson? kind.toJson = some kind := by
  cases kind <;> rfl

namespace Token

/-- Whether the numbers of a token fit into their words. -/
def Fits (token : Token) : Prop := token.location.offset < offsetBound ∧ token.location.InRange

/-- A token is written with its fields in ascending order of their names. -/
theorem toJson_sorted (token : Token) :
    token.toJson .sorted = .object [("content", .string token.content),
      ("location", token.location.toJson .sorted), ("tokenType", token.kind.toJson)] := rfl

/-- A token is made of integers and strings. -/
theorem plain_toJson (token : Token) : (token.toJson .sorted).Plain := by
  rw [toJson_sorted]
  refine .object (List.forall_mem_cons.mpr ⟨.string _, ?_⟩)
  refine List.forall_mem_cons.mpr ⟨token.location.plain_toJson, ?_⟩
  exact List.forall_mem_singleton.mpr (.string _)

/-- A token whose numbers fit into their words is read back. -/
theorem ofJson?_toJson {token : Token} (fits : token.Fits) :
    ofJson? (token.toJson .sorted) = some token := by
  have fields : (token.toJson .sorted).fields? ["tokenType", "location", "content"] =
      some [token.kind.toJson, token.location.toJson .sorted, .string token.content] := rfl
  rw [ofJson?, fields]
  simp only [Kind.ofJson?_toJson, Location.ofJson?_toJson fits.1 fits.2]
  rfl

/-- Tokens are made of integers and strings. -/
theorem plain_listToJson (tokens : List Token) : (listToJson .sorted tokens).Plain :=
  .array (List.forall_mem_map.mpr fun token _ => token.plain_toJson)

/-- Tokens whose numbers fit into their words are read back. -/
theorem listOfJson?_listToJson {tokens : List Token} (fit : ∀ token ∈ tokens, token.Fits) :
    listOfJson? (listToJson .sorted tokens) = some tokens := by
  have read := Json.mapM_map_eq_some ofJson? (toJson .sorted) id
    fun token member => ofJson?_toJson (fit token member)
  rwa [List.map_id] at read

end Token

namespace Lines

/-- An entry of grouped tokens, written as a member. -/
def memberOf (entry : Nat × List Token) : String × Value :=
  (toString entry.1, Token.listToJson .sorted entry.2)

/-- The line and the tokens of a member of grouped tokens. -/
def entryOfJson? (member : String × Value) : Option (Nat × List Token) := do
  return (← member.1.toNat?, ← Token.listOfJson? member.2)

/-- The tokens of an object of grouped tokens: its arrays, one after another in numeric order of
their keys. -/
def tokensOfJson? : Value → Option (List Token)
  | .object members => do
    let entries ← members.mapM entryOfJson?
    return (entries.mergeSort (keyLE (·.1))).flatMap (·.2)
  | _ => none

/-- An entry whose tokens fit is read back. -/
theorem entryOfJson?_memberOf {entry : Nat × List Token} (fit : ∀ token ∈ entry.2, token.Fits) :
    entryOfJson? (memberOf entry) = some entry := by
  rw [entryOfJson?, memberOf, Token.listOfJson?_listToJson fit]
  simp only [Nat.toString_eq_repr, Nat.toNat?_repr]
  rfl

/-- The keys of grouped tokens differ, as their lines do. -/
theorem nodup_keys (lines : Lines) : ((lines.toList.map memberOf).map (·.1)).Nodup := by
  rw [List.map_map]
  apply List.pairwise_map.mpr
  refine lines.ordered_toList.imp fun {first second} before same => ?_
  exact Nat.ne_of_lt before (Nat.repr_inj.mp same)

/-- Grouped tokens are written as an object with the members of the grouping, in ascending order of
their keys. -/
theorem exists_members (lines : Lines) :
    ∃ members, lines.toJson .sorted = .object members ∧
      members.Perm (lines.toList.map memberOf) ∧ (members.map (·.1)).Pairwise (· < ·) :=
  ⟨_, rfl, Json.perm_sorted lines.nodup_keys, Json.ordered_sorted _⟩

/-- Grouped tokens are made of integers and strings. -/
theorem plain_toJson (lines : Lines) : (lines.toJson .sorted).Plain := by
  obtain ⟨members, made, same, -⟩ := lines.exists_members
  rw [made]
  refine .object fun member listed => ?_
  obtain ⟨entry, -, rfl⟩ := List.mem_map.mp (same.mem_iff.mp listed)
  exact Token.plain_listToJson entry.2

/-- The members of a grouping in any order are read as the tokens of its lines in order. -/
theorem tokensOfJson?_of_perm {lines : Lines}
    (fit : ∀ entry ∈ lines.toList, ∀ token ∈ entry.2, token.Fits)
    {members : List (String × Value)} (same : members.Perm (lines.toList.map memberOf)) :
    tokensOfJson? (.object members) = some (lines.toList.flatMap (·.2)) := by
  let read (member : String × Value) := (entryOfJson? member).getD (0, [])
  have back : ∀ entry ∈ lines.toList, entryOfJson? (memberOf entry) = some entry :=
    fun entry listed => entryOfJson?_memberOf (fit entry listed)
  have entries : members.mapM entryOfJson? = some (members.map read) := by
    have each := Json.mapM_map_eq_some entryOfJson? id read fun member listed => by
      obtain ⟨entry, stands, rfl⟩ := List.mem_map.mp (same.mem_iff.mp listed)
      simp only [id, read, back entry stands, Option.getD_some]
    rwa [List.map_id] at each
  have restored : (lines.toList.map memberOf).map read = lines.toList := by
    rw [List.map_map]
    refine (List.map_congr_left fun entry listed => ?_).trans (List.map_id _)
    simp only [Function.comp_apply, read, back entry listed, Option.getD_some, id]
  have sorted := mergeSort_entries (restored ▸ same.map read)
  simp only [tokensOfJson?, entries, Option.bind_eq_bind, Option.bind_some, sorted]
  rfl

/-- Every token of a grouping is one of those that were grouped. -/
theorem mem_of_mem_ofTokens {tokens : List Token} {entry : Nat × List Token}
    (listed : entry ∈ (ofTokens tokens).toList) {token : Token} (member : token ∈ entry.2) :
    token ∈ tokens := by
  rw [toList_ofTokens_numbers] at listed
  obtain ⟨line, -, rfl⟩ := List.mem_map.mp listed
  exact (Token.mem_onLine.mp member).1

/-- The keys of a grouping are the lines of its tokens in decimal. -/
theorem mem_keys_ofTokens {tokens : List Token} {key : String} :
    key ∈ ((ofTokens tokens).toList.map memberOf).map (·.1) ↔
      ∃ token ∈ tokens, key = toString token.location.line := by
  have keys : ((ofTokens tokens).toList.map memberOf).map (·.1) =
      (ofTokens tokens).numbers.map toString := by
    rw [numbers, List.map_map, List.map_map]
    rfl
  have occupied (line : Nat) :
      line ∈ (ofTokens tokens).numbers ↔ ∃ token ∈ tokens, token.location.line = line := by
    simp [mem_numbers_ofTokens, Token.onLine]
  rw [keys, List.mem_map]
  constructor
  · rintro ⟨line, listed, rfl⟩
    obtain ⟨token, member, rfl⟩ := (occupied line).mp listed
    exact ⟨token, member, rfl⟩
  · rintro ⟨token, member, rfl⟩
    exact ⟨_, (occupied _).mpr ⟨token, member, rfl⟩, rfl⟩

end Lines

/-- Tokens whose numbers fit into their words are read back from the JSON of a report, be it compact
or spread. If they were grouped, the JSON is an object whose keys are the lines of the tokens in
decimal, each once and in ascending order as texts; its arrays, one after another in numeric order
of their keys, are the tokens sorted by line. The tokens of a scan are so sorted. -/
theorem tokens_of_json (tokens : List Token) (fit : ∀ token ∈ tokens, token.Fits) :
    (∀ text, (Report.flat tokens).toJson.IsText text →
      ∃ json, Json.parse text = some json ∧ Token.listOfJson? json = some tokens) ∧
    (∀ text, (Report.grouped (.ofTokens tokens)).toJson.IsText text →
      ∃ members, Json.parse text = some (.object members) ∧
        (members.map (·.1)).Pairwise (· < ·) ∧
        (∀ key, key ∈ members.map (·.1) ↔ ∃ token ∈ tokens, key = toString token.location.line) ∧
        Lines.tokensOfJson? (.object members) = some (Token.sortByLine tokens)) ∧
    ∀ (lexer : Lexer) (compress : Bool), tokens = (lexer.tokens compress).1.result →
      Token.sortByLine tokens = tokens := by
  refine ⟨fun text written => ?_, fun text written => ?_, fun lexer compress scanned => ?_⟩
  · have plain := Token.plain_listToJson tokens
    exact ⟨_, plain.parse_text written, Token.listOfJson?_listToJson fit⟩
  · have parsed := (Lines.plain_toJson _).parse_text written
    obtain ⟨members, made, same, ordered⟩ := (Lines.ofTokens tokens).exists_members
    have keys (key : String) :=
      ((same.map (·.1)).mem_iff (a := key)).trans Lines.mem_keys_ofTokens
    have read := Lines.tokensOfJson?_of_perm
      (fun entry listed token member => fit token (Lines.mem_of_mem_ofTokens listed member)) same
    rw [Lines.flatMap_ofTokens] at read
    exact ⟨members, made ▸ parsed, ordered, keys, read⟩
  · rw [scanned]
    exact lexer.sortByLine_tokens compress

/-- A string with a quote, a backslash and a control stands on line 10 in front of a line end on
line 2. Both come back from either report, and from the grouped one in the order of the lines, which
is not that of the keys. The tokens of a scan come back in their own order. -/
theorem tokens_of_json_lines :
    let later : Token := ⟨.string, ⟨2 ^ 64 - 1, 10, 2 ^ 32 - 1⟩, "\"\\\x01é\n\""⟩
    let earlier : Token := ⟨.lineEnd, ⟨0, 2, 1⟩, "\n"⟩
    let scanned := ((Lexer.ofString "a").tokens false).1.result
    (∀ token ∈ [later, earlier], token.Fits) ∧
      (∃ json, Json.parse (Report.flat [later, earlier]).toJson.compact = some json ∧
        Token.listOfJson? json = some [later, earlier]) ∧
      (∃ members,
        Json.parse (Report.grouped (.ofTokens [later, earlier])).toJson.spread =
          some (.object members) ∧
        (members.map (·.1)).Pairwise (· < ·) ∧ "10" ∈ members.map (·.1) ∧
        "2" ∈ members.map (·.1) ∧
        Lines.tokensOfJson? (.object members) = some [earlier, later]) ∧
      Token.sortByLine scanned = scanned := by
  intro later earlier scanned
  have fit : ∀ token ∈ [later, earlier], token.Fits := by
    refine List.forall_mem_cons.mpr ⟨?_, List.forall_mem_singleton.mpr ?_⟩ <;>
      unfold Token.Fits Location.InRange <;> decide
  have scannedFit : ∀ token ∈ scanned, token.Fits := by
    unfold Token.Fits Location.InRange
    decide
  have sorted : Token.sortByLine [later, earlier] = [earlier, later] := by cbv
  obtain ⟨flat, grouped, -⟩ := tokens_of_json [later, earlier] fit
  obtain ⟨members, parsed, ordered, keys, read⟩ := grouped _ (.inr rfl)
  have ten := (keys "10").mpr ⟨later, List.mem_cons_self, by decide⟩
  have two := (keys "2").mpr ⟨earlier, List.mem_cons_of_mem _ List.mem_cons_self, by decide⟩
  exact ⟨fit, flat _ (.inl rfl), ⟨members, parsed, ordered, ten, two, sorted ▸ read⟩,
    (tokens_of_json scanned scannedFit).2.2 _ false rfl⟩

end CharLexer
